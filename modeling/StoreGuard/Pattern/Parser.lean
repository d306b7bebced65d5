import StoreGuard.Pattern.Class
import StoreGuard.Pattern.Size
import StoreGuard.Text.Character

namespace StoreGuard.Pattern

open Unicode

inductive PatternError where
  | unexpectedEnd
  | unopenedGroup
  | lookAround
  | groupName
  | flag
  | nothingToRepeat
  | repetition
  | escape
  | charClass
  | property
  | notText
  | tooDeep
  | tooLarge
deriving DecidableEq, Repr

def PatternError.message : PatternError → String
  | unexpectedEnd => "the pattern ends too early"
  | unopenedGroup => "a group is closed that was not opened"
  | lookAround => "look-around is not supported"
  | groupName => "a group has no valid name of its own"
  | flag => "flags are not well-formed"
  | nothingToRepeat => "there is nothing to repeat"
  | repetition => "a repetition has no valid bounds"
  | escape => "an escape is not known"
  | charClass => "a character class is not well-formed"
  | property => "a property is not known"
  | notText => "the pattern can match what is no text"
  | tooDeep => "the pattern nests too deeply"
  | tooLarge => "the pattern is too large"

/-- What is left to read, the flags in force and the names that groups have taken. -/
structure State where
  rest : List Char
  flags : Flags
  names : List String

abbrev Parse (α : Type) := StateT State (Except PatternError) α

namespace Parse

def fail {α : Type} (e : PatternError) : Parse α := throw e

def flags : Parse Flags := do return (← get).flags

def rest : Parse (List Char) := do return (← get).rest

def setRest (cs : List Char) : Parse Unit := modify fun s => { s with rest := cs }

/-- Blanks and comments do not count in verbose patterns. -/
def dropSpace (inComment : Bool) : List Char → List Char
  | [] => []
  | c :: cs =>
    if inComment then dropSpace (c ≠ '\n') cs
    else if Text.isBlank c then dropSpace false cs
    else if c = '#' then dropSpace true cs
    else c :: cs

def skip : Parse Unit := do
  if (← flags).verbose then setRest (dropSpace false (← rest))

def peek? : Parse (Option Char) := do return (← rest).head?

def peek : Parse Char := do
  match ← peek? with
  | some c => return c
  | none => fail .unexpectedEnd

def bump : Parse Unit := do setRest ((← rest).drop 1)

def advance : Parse Unit := do
  bump
  skip

def take (expected : List Char) : Parse Bool := do
  let cs ← rest
  if expected.isPrefixOf cs then
    setRest (cs.drop expected.length)
    return true
  else return false

def ofOption {α : Type} (e : PatternError) : Option α → Parse α
  | some a => return a
  | none => fail e

end Parse

open Parse

def text (s : String) : List Char := s.toList

def isMeta (c : Char) : Bool := (text "\\.+*?()|[]\x7b\x7d^$#&-~").contains c

/-- Characters that may be escaped without a meaning of their own. -/
def isEscapable (c : Char) : Bool :=
  isMeta c || (c.toNat < 128 && !c.isAlphanum && c ≠ '<' && c ≠ '>')

def isScalar (n : Nat) : Bool := n < 0xD800 || (0xDFFF < n && n ≤ lastCodePoint)

def scalar (n : Nat) : Parse Nat := if isScalar n then return n else fail .escape

def hexDigit : Parse Nat := do ofOption .escape (Text.hexValue? (← peek))

/-- The given count of hexadecimal digits after those that made `n`. -/
def hexFixed : Nat → Nat → Parse Nat
  | 0, n => return n
  | count + 1, n => do
    let d ← hexDigit
    advance
    hexFixed count (n * 16 + d)

def hexBraced : Nat → Option Nat → Parse Nat
  | 0, _ => fail .unexpectedEnd
  | fuel + 1, n => do
    if (← peek) = '\x7d' then
      advance
      ofOption .escape n
    else
      let d ← hexDigit
      advance
      hexBraced fuel (some (min (n.getD 0 * 16 + d) 4294967296))

inductive Atom where
  /-- A character; `isByte` tells that two hexadecimal digits wrote it. -/
  | char (code : Nat) (isByte : Bool)
  | set (codes : CodeSet)
  | test (l : Look)

def hexAtom (count : Nat) : Parse Atom := do
  advance
  if (← peek) = '\x7b' then
    advance
    return .char (← scalar (← hexBraced ((← rest).length + 1) none)) false
  else return .char (← scalar (← hexFixed count 0)) (count = 2)

def splitAt? (mark : List Char) : List Char → Option (List Char × List Char)
  | [] => none
  | c :: cs =>
    if mark.isPrefixOf (c :: cs) then some ([], (c :: cs).drop mark.length)
    else (splitAt? mark cs).map fun p => (c :: p.1, p.2)

/-- The set of a property as it is named, and whether its value is denied. -/
def propertySet (name : List Char) : Parse (Bool × CodeSet) := do
  let valued (p : List Char × List Char) : Parse CodeSet :=
    ofOption .property (Unicode.valued? (String.ofList p.1) (String.ofList p.2))
  match splitAt? (text "!=") name, splitAt? [':'] name, splitAt? ['='] name with
  | some p, _, _ => return (true, ← valued p)
  | none, some p, _ => return (false, ← valued p)
  | none, none, some p => return (false, ← valued p)
  | none, none, none => return (false, ← ofOption .property (Unicode.named? (String.ofList name)))

def bracedName : Nat → List Char → Parse (List Char)
  | 0, _ => fail .unexpectedEnd
  | fuel + 1, acc => do
    let c ← peek
    if c = '\x7d' then
      bump
      return acc.reverse
    else
      advance
      bracedName fuel (c :: acc)

def propertyAtom (negated : Bool) : Parse Atom := do
  advance
  let c ← peek
  let name ←
    if c = '\x7b' then
      advance
      bracedName ((← rest).length + 1) []
    else if c = '\\' then fail .escape
    else
      bump
      pure [c]
  let f ← flags
  if !f.unicode then fail .property
  let (denied, s) ← propertySet name
  return .set (← ofOption .notText (f.resolve (negated != denied) s))

def shorthandAtom (s : Shorthand) (negated : Bool) : Parse Atom := do
  let f ← flags
  bump
  let codes := s.codes f.unicode
  let codes := if negated then CodeSet.negate codes else codes
  return .set (← ofOption .notText (if f.admits codes then some codes else none))

def wordEdgeOf? (name : List Char) : Option WordEdge :=
  match String.ofList name with
  | "start" => some .start
  | "end" => some .end
  | "start-half" => some .startHalf
  | "end-half" => some .endHalf
  | _ => none

def isEdgeChar (c : Char) : Bool := c.isAlpha || c = '-'

def edgeName : Nat → List Char → Parse (List Char)
  | 0, acc => return acc.reverse
  | fuel + 1, acc => do
    match ← peek? with
    | some c =>
      if isEdgeChar c then
        advance
        edgeName fuel (c :: acc)
      else return acc.reverse
    | none => return acc.reverse

/-- A name in braces after a word boundary; digits there are bounds of a repetition instead. -/
def namedEdge : Parse WordEdge := do
  if (← peek?) ≠ some '\x7b' then return .boundary
  let start ← rest
  advance
  if !isEdgeChar (← peek) then
    setRest start
    return .boundary
  let name ← edgeName ((← rest).length + 1) []
  if (← peek?) ≠ some '\x7d' then fail .escape
  bump
  ofOption .escape (wordEdgeOf? name)

def controlOf? (c : Char) : Option Nat :=
  if c = 'a' then some 7
  else if c = 'f' then some 12
  else if c = 't' then some 9
  else if c = 'n' then some 10
  else if c = 'r' then some 13
  else if c = 'v' then some 11
  else none

def edgeAtom (e : WordEdge) : Parse Atom := do return .test (.word (← flags).unicode e)

def escapeAtom : Parse Atom := do
  bump
  let c ← peek
  if c.isDigit then fail .escape
  else if c = 'x' then hexAtom 2
  else if c = 'u' then hexAtom 4
  else if c = 'U' then hexAtom 8
  else if c = 'p' || c = 'P' then propertyAtom (c = 'P')
  else if c = 'd' || c = 'D' then shorthandAtom .digit (c = 'D')
  else if c = 's' || c = 'S' then shorthandAtom .space (c = 'S')
  else if c = 'w' || c = 'W' then shorthandAtom .word (c = 'W')
  else
    bump
    if isEscapable c then return .char c.toNat false
    match controlOf? c with
    | some n => return .char n false
    | none =>
      if c = 'A' then return .test .textStart
      else if c = 'z' then return .test .textEnd
      else if c = 'b' then edgeAtom (← namedEdge)
      else if c = 'B' then edgeAtom .noBoundary
      else if c = '<' then edgeAtom .start
      else if c = '>' then edgeAtom .end
      else fail .escape

/-- A part of a class under construction: its set, and how deeply it nests. -/
structure ClassPart where
  set : CodeSet
  depth : Nat

/-- The parts gathered since the last operator. -/
def ClassPart.gather (parts : List ClassPart) : ClassPart where
  set := CodeSet.ofRanges (parts.map ClassPart.set).flatten
  depth := (if parts.length ≤ 1 then 0 else 1) + ((parts.map ClassPart.depth).foldl max 0)

inductive ClassOp where
  | inter
  | diff
  | symmDiff
deriving DecidableEq, Repr

def ClassOp.apply (op : ClassOp) (f : Flags) (a b : ClassPart) : ClassPart where
  set := match op with
    | inter => CodeSet.inter (f.fold a.set) (f.fold b.set)
    | diff => CodeSet.diff (f.fold a.set) (f.fold b.set)
    | symmDiff => CodeSet.symmDiff (f.fold a.set) (f.fold b.set)
  depth := 1 + max a.depth b.depth

/-- The left side of an operator that waits for its right side. -/
structure Awaiting where
  left : ClassPart
  op : ClassOp

def closeClass (f : Flags) (waiting : Option Awaiting) (parts : List ClassPart) : ClassPart :=
  match waiting with
  | none => ClassPart.gather parts
  | some w => w.op.apply f w.left (ClassPart.gather parts)

/-- A character inside a class, which without Unicode must be an ASCII one. -/
def classChar (f : Flags) (n : Nat) : Parse Nat :=
  if f.unicode || n < 128 then return n else fail .notText

def classAtom : Parse Atom := do
  let c ← peek
  if c = '\\' then escapeAtom
  else
    bump
    return .char c.toNat false

def classRange : Parse ClassPart := do
  let f ← flags
  let first ← classAtom
  skip
  let c ← peek
  let next := ((← rest).drop 1)
  let next := if f.verbose then dropSpace false next else next
  if c ≠ '-' || next.head? = some ']' || next.head? = some '-' then
    match first with
    | .char n _ => return ⟨CodeSet.single (← classChar f n), 0⟩
    | .set s => return ⟨s, 0⟩
    | .test _ => fail .charClass
  else
    advance
    let last ← classAtom
    match first, last with
    | .char lo _, .char hi _ =>
      if hi < lo then fail .charClass
      return ⟨CodeSet.range (← classChar f lo) (← classChar f hi), 0⟩
    | _, _ => fail .charClass

/-- A named class in colons; anything else that begins like one is a class of its own. -/
def asciiClass : Parse (Option ClassPart) := do
  let start ← rest
  let f ← flags
  if !(← take ['[', ':']) then return none
  let negated ← take ['^']
  let cs ← rest
  let name := cs.takeWhile (· ≠ ':')
  setRest (cs.drop name.length)
  let found := if ← take [':', ']'] then asciiClasses.lookup (String.ofList name) else none
  match found with
  | some s => return some ⟨← ofOption .notText (f.resolve negated s), 0⟩
  | none =>
    setRest start
    return none

/-- Hyphens at the beginning of a class stand for themselves. -/
def leadingHyphens : Nat → List ClassPart → Parse (List ClassPart)
  | 0, parts => return parts
  | fuel + 1, parts => do
    if (← peek) = '-' then
      advance
      leadingHyphens fuel (⟨CodeSet.single 45, 0⟩ :: parts)
    else return parts

/-- The beginning of a class: whether it is negated, and what stands for itself there. -/
def openClass : Parse (Bool × List ClassPart) := do
  advance
  let negated := (← peek) = '^'
  if negated then advance
  let parts ← leadingHyphens ((← rest).length + 1) []
  if parts.isEmpty && (← peek) = ']' then
    advance
    return (negated, [⟨CodeSet.single 93, 0⟩])
  return (negated, parts)

def classOp? : Parse (Option ClassOp) := do
  if ← take ['&', '&'] then return some .inter
  if ← take ['-', '-'] then return some .diff
  if ← take ['~', '~'] then return some .symmDiff
  return none

def classBody (negated : Bool) :
    Nat → Option Awaiting → List ClassPart → Parse ClassPart
  | 0, _, _ => fail .unexpectedEnd
  | fuel + 1, waiting, parts => do
    skip
    let f ← flags
    let c ← peek
    if c = '[' then
      match ← asciiClass with
      | some p => classBody negated fuel waiting (p :: parts)
      | none =>
        let (innerNegated, start) ← openClass
        let inner ← classBody innerNegated fuel none start
        classBody negated fuel waiting (⟨inner.set, 1 + inner.depth⟩ :: parts)
    else if c = ']' then
      bump
      let whole := closeClass f waiting parts
      return ⟨← ofOption .notText (f.resolve negated whole.set), whole.depth⟩
    else
      match ← classOp? with
      | some op => classBody negated fuel (some ⟨closeClass f waiting parts, op⟩) []
      | none =>
        let p ← classRange
        classBody negated fuel waiting (p :: parts)

/-- A piece of an expression, how deeply it nests, and whether it can be repeated. -/
structure Item where
  regex : Regex
  depth : Nat
  repeatable : Bool

def item (r : Regex) : Item := ⟨r, 0, true⟩

/-- A character as it matches under the flags. -/
def charItem (f : Flags) (n : Nat) (isByte : Bool) : Parse Item := do
  if !f.unicode && isByte && 128 ≤ n then fail .notText
  let s := CodeSet.single n
  return item (.chars (if f.unicode || n < 128 then f.fold s else s))

def lineTest (f : Flags) (plain lf crlf : Look) : Look :=
  if !f.multiLine then plain else if f.crlf then crlf else lf

def primitive : Parse Item := do
  let f ← flags
  let c ← peek
  if c = '\\' then
    match ← escapeAtom with
    | .char n isByte => charItem f n isByte
    | .set s => return item (.chars s)
    | .test l => return item (.look l)
  else
    bump
    if c = '.' then return item (.chars (← ofOption .notText f.dot))
    else if c = '^' then return item (.look (lineTest f .textStart .lineStart .lineStartCrlf))
    else if c = '$' then return item (.look (lineTest f .textEnd .lineEnd .lineEndCrlf))
    else charItem f c.toNat false

/-- The digits that stand here, which blanks may divide in a verbose pattern. -/
def digitRun : Nat → List Char → Parse (List Char)
  | 0, acc => return acc.reverse
  | fuel + 1, acc => do
    match ← peek? with
    | some c =>
      if c.isDigit then
        advance
        digitRun fuel (c :: acc)
      else return acc.reverse
    | none => return acc.reverse

/-- A number, with blanks around it allowed; `none` where there are no digits. -/
def decimal? : Parse (Option Nat) := do
  setRest ((← rest).dropWhile Text.isBlank)
  let digits ← digitRun ((← rest).length + 1) []
  setRest ((← rest).dropWhile Text.isBlank)
  if digits.isEmpty then return none
  let n := Nat.ofDigitChars 10 digits 0
  if n < 4294967296 then return some n else fail .repetition

/-- The bounds of a repetition, from after the opening brace to after the closing one. -/
def bounds : Parse (Nat × Option Nat) := do
  let least? ← decimal?
  let least ← ofOption .repetition least?
  let range ←
    if (← peek) = ',' then
      advance
      if (← peek) = '\x7d' then pure (least, none)
      else
        let most ← ofOption .repetition (← decimal?)
        pure (least, some most)
    else pure (least, some least)
  if (← peek) ≠ '\x7d' then fail .repetition
  advance
  if range.2.any (· < least) then fail .repetition
  return range

/-- A question mark after a repetition makes it prefer less, which what is matched does not show. -/
def lazyMark : Parse Unit := do
  if (← peek?) = some '?' then bump

def repeated (least : Nat) (most : Option Nat) : List Item → Parse (List Item)
  | [] => fail .nothingToRepeat
  | i :: is => do
    if !i.repeatable then fail .nothingToRepeat
    let r := if most = some 0 then Regex.empty else .repeat least most i.regex
    return ⟨r, i.depth + 1, true⟩ :: is

def setFlag (f : Flags) (c : Char) (on : Bool) : Option Flags :=
  match c with
  | 'i' => some { f with ignoreCase := on }
  | 'm' => some { f with multiLine := on }
  | 's' => some { f with dotAll := on }
  | 'U' => some { f with swapGreed := on }
  | 'u' => some { f with unicode := on }
  | 'R' => some { f with crlf := on }
  | 'x' => some { f with verbose := on }
  | _ => none

/-- Flags up to a colon or closing parenthesis; each may be named once. -/
def flagList (f : Flags) : Nat → List Char → Parse (Flags × List Char)
  | 0, _ => fail .unexpectedEnd
  | fuel + 1, seen => do
    let c ← peek
    if c = ':' || c = ')' then
      if seen.head? = some '-' then fail .flag
      return (f, seen)
    if seen.contains c then fail .flag
    bump
    if c = '-' then flagList f fuel (c :: seen)
    else
      let f ← ofOption .flag (setFlag f c (!seen.contains '-'))
      flagList f fuel (c :: seen)

def isNameStart (c : Char) : Bool := c = '_' || Text.isLetter c

def isNameChar (c : Char) : Bool :=
  c = '_' || c = '.' || c = '[' || c = ']' || Text.isAlphanumeric c

def groupName : Parse Unit := do
  let cs ← rest
  let name := cs.takeWhile (· ≠ '>')
  let taken := (← get).names
  match name with
  | [] => fail .groupName
  | c :: more =>
    if !isNameStart c || !more.all isNameChar then fail .groupName
    if name.length = cs.length then fail .unexpectedEnd
    if taken.contains (String.ofList name) then fail .groupName
    modify fun s =>
      { s with rest := cs.drop (name.length + 1), names := String.ofList name :: taken }

/-- What a parenthesis begins: flags for what follows, or a group with flags of its own. -/
inductive Opening where
  | flags (f : Flags)
  | group (f : Flags) (captures : Bool)

def opening : Parse Opening := do
  bump
  skip
  let f ← flags
  for mark in [text "?=", text "?!", text "?<=", text "?<!"] do
    if mark.isPrefixOf (← rest) then fail .lookAround
  if (← take (text "?P<")) || (← take (text "?<")) then
    groupName
    return .group f true
  else if ← take ['?'] then
    let (f, seen) ← flagList f ((← rest).length + 1) []
    let c ← peek
    bump
    if c = ':' then return .group f false
    else if seen.isEmpty then fail .nothingToRepeat
    else return .flags f
  else return .group f true

/-- Items in a row, the last of them first. -/
def sequence : List Item → Item
  | [] => ⟨.empty, 0, false⟩
  | [i] => i
  | i :: is =>
    ⟨(is.foldl (fun r j => .seq j.regex r) i.regex), 1 + ((i :: is).map Item.depth).foldl max 0, true⟩

def alternatives : List Item → Item
  | [] => ⟨.empty, 0, false⟩
  | [i] => i
  | i :: is =>
    ⟨(is.foldl (fun r j => .alt j.regex r) i.regex), 1 + ((i :: is).map Item.depth).foldl max 0, true⟩

/-- Reads to the end of a group or of the pattern: `branches` and `items` are read already. -/
def expression : Nat → List Item → List Item → Parse Item
  | 0, _, _ => fail .unexpectedEnd
  | fuel + 1, branches, items => do
    skip
    match ← peek? with
    | none => return alternatives (sequence items :: branches)
    | some ')' => return alternatives (sequence items :: branches)
    | some '|' =>
      bump
      expression fuel (sequence items :: branches) []
    | some '(' =>
      let outer ← flags
      match ← opening with
      | .flags f =>
        modify fun s => { s with flags := f }
        expression fuel branches (⟨.empty, 0, false⟩ :: items)
      | .group f captures =>
        modify fun s => { s with flags := f }
        let inner ← expression fuel [] []
        if (← peek) ≠ ')' then fail .unexpectedEnd
        bump
        modify fun s => { s with flags := outer }
        let r := if captures then Regex.group inner.regex else inner.regex
        expression fuel branches (⟨r, inner.depth + 1, true⟩ :: items)
    | some '[' =>
      let (negated, start) ← openClass
      let c ← classBody negated fuel none start
      expression fuel branches (⟨.chars c.set, 1 + c.depth, true⟩ :: items)
    | some '?' =>
      bump
      lazyMark
      expression fuel branches (← repeated 0 (some 1) items)
    | some '*' =>
      bump
      lazyMark
      expression fuel branches (← repeated 0 none items)
    | some '+' =>
      bump
      lazyMark
      expression fuel branches (← repeated 1 none items)
    | some '\x7b' =>
      if items.head?.all fun i => !i.repeatable then fail .nothingToRepeat
      advance
      let (least, most) ← bounds
      lazyMark
      expression fuel branches (← repeated least most items)
    | some _ => expression fuel branches ((← primitive) :: items)

def nestLimit : Nat := 250

def wholePattern : Parse Regex := do
  let i ← expression ((← rest).length + 1) [] []
  if !(← rest).isEmpty then fail .unopenedGroup
  if nestLimit < i.depth then fail .tooDeep
  return i.regex

/-- Reads a pattern, refusing one whose automaton is too large. -/
def parse (s : String) : Except PatternError Regex :=
  match wholePattern.run ⟨s.toList, Flags.standard, []⟩ with
  | .error e => .error e
  | .ok (r, _) => if r.tooLarge then .error .tooLarge else .ok r

end StoreGuard.Pattern
