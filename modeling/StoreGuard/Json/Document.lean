import StoreGuard.Json.Basic
import StoreGuard.Text.Character

namespace StoreGuard.Json

/-- Why text cannot be read on: it has ended, or it is not JSON. -/
inductive Fault where
  | ended
  | malformed
deriving DecidableEq, Repr

/-- A character of a string, or an escaped unit of sixteen bits. -/
inductive Piece where
  | char (c : Char)
  | unit (n : Nat)
deriving DecidableEq, Repr

/-- The inside of a string, and what is wrong before its closing quote. -/
structure Quoted where
  pieces : List Piece
  fault : Option Fault
deriving DecidableEq, Repr

structure Numeral where
  negative : Bool
  whole : List Char
  fraction : Option (List Char)
  exponent : Option (Bool × List Char)
deriving DecidableEq, Repr

/-- A value as it is written: its members in their order and with their repetitions, its numbers in
digits, and where the text breaks off or goes wrong. -/
inductive Node where
  | null
  | bool (b : Bool)
  | number (n : Numeral)
  /-- A number in which the text ends before a digit that has to follow. -/
  | cutNumber
  | string (s : Quoted)
  | array (items : List Node) (fault : Option Fault)
  | object (members : List (Quoted × Node)) (fault : Option Fault)
  | broken (f : Fault)
deriving Repr

instance : Inhabited Node := ⟨.null⟩

def isSpace (c : Char) : Bool := c = ' ' || c = '\n' || c = '\t' || c = '\r'

def skipSpace (s : List Char) : List Char := s.dropWhile isSpace

def faultAt (s : List Char) : Fault := if s.isEmpty then .ended else .malformed

def hexUnit? (a b c d : Char) : Option Nat := do
  let a ← Text.hexValue? a
  let b ← Text.hexValue? b
  let c ← Text.hexValue? c
  let d ← Text.hexValue? d
  return ((a * 16 + b) * 16 + c) * 16 + d

def hexFault (s : List Char) : Fault :=
  if (String.ofList s).utf8ByteSize < 4 then .ended else .malformed

def unescape? (c : Char) : Option Char :=
  if c = '"' then some '"'
  else if c = '\\' then some '\\'
  else if c = '/' then some '/'
  else if c = 'b' then some '\x08'
  else if c = 'f' then some '\x0c'
  else if c = 'n' then some '\n'
  else if c = 'r' then some '\r'
  else if c = 't' then some '\t'
  else none

/-- The inside of a string from after its opening quote, the pieces read so far in reverse. -/
def scanString (acc : List Piece) : List Char → Quoted × List Char
  | [] => (⟨acc.reverse, some .ended⟩, [])
  | c :: rest =>
    if c = '"' then (⟨acc.reverse, none⟩, rest)
    else if c = '\\' then
      match rest with
      | [] => (⟨acc.reverse, some .ended⟩, [])
      | e :: rest =>
        if e = 'u' then
          match rest with
          | h₁ :: h₂ :: h₃ :: h₄ :: rest =>
            match hexUnit? h₁ h₂ h₃ h₄ with
            | some n => scanString (.unit n :: acc) rest
            | none => (⟨acc.reverse, some .malformed⟩, [])
          | rest => (⟨acc.reverse, some (hexFault rest)⟩, [])
        else
          match unescape? e with
          | some d => scanString (.char d :: acc) rest
          | none => (⟨acc.reverse, some .malformed⟩, [])
    else if c.toNat < 32 then (⟨acc.reverse, some .malformed⟩, [])
    else scanString (.char c :: acc) rest

def quoted (s : List Char) : Quoted × List Char := scanString [] s

def cutOr (s : List Char) : Node := if s.isEmpty then .cutNumber else .broken .malformed

def exponentPart (negative : Bool) (whole : List Char) (fraction : Option (List Char)) :
    List Char → Node × List Char
  | c :: rest =>
    if c = 'e' || c = 'E' then
      let (negativeExponent, ds) := Floating.signOf rest
      let digits := ds.takeWhile Char.isDigit
      if digits.isEmpty then (cutOr ds, [])
      else (.number ⟨negative, whole, fraction, some (negativeExponent, digits)⟩,
        ds.dropWhile Char.isDigit)
    else (.number ⟨negative, whole, fraction, none⟩, c :: rest)
  | [] => (.number ⟨negative, whole, fraction, none⟩, [])

def fractionPart (negative : Bool) (whole : List Char) : List Char → Node × List Char
  | '.' :: rest =>
    let digits := rest.takeWhile Char.isDigit
    if digits.isEmpty then (cutOr rest, [])
    else exponentPart negative whole (some digits) (rest.dropWhile Char.isDigit)
  | rest => exponentPart negative whole none rest

/-- A number after its sign; a zero before another digit is no number. -/
def number (negative : Bool) (s : List Char) : Node × List Char :=
  match s.takeWhile Char.isDigit with
  | [] => (cutOr s, [])
  | '0' :: _ :: _ => (.broken .malformed, [])
  | whole => fractionPart negative whole (s.dropWhile Char.isDigit)

def word (expected : List Char) (value : Node) (s : List Char) : Node × List Char :=
  match expected, s with
  | [], s => (value, s)
  | _ :: _, [] => (.broken .ended, [])
  | e :: es, c :: cs => if c = e then word es value cs else (.broken .malformed, [])

/-- Holds where the text stops inside a value. -/
def Node.stops : Node → Bool
  | .cutNumber => true
  | .broken _ => true
  | .string s => s.fault.isSome
  | .array _ f => f.isSome
  | .object _ f => f.isSome
  | _ => false

mutual

def node : Nat → List Char → Node × List Char
  | 0, _ => (.broken .ended, [])
  | fuel + 1, s =>
    match skipSpace s with
    | [] => (.broken .ended, [])
    | c :: rest =>
      if c = '"' then
        let (q, rest) := quoted rest
        (.string q, rest)
      else if c = '[' then
        match skipSpace rest with
        | ']' :: rest => (.array [] none, rest)
        | [] => (.array [] (some .ended), [])
        | rest =>
          let (vs, f, rest) := items fuel rest
          (.array vs f, rest)
      else if c = '{' then
        match skipSpace rest with
        | '}' :: rest => (.object [] none, rest)
        | '"' :: rest =>
          let (ms, f, rest) := members fuel rest
          (.object ms f, rest)
        | rest => (.object [] (some (faultAt rest)), [])
      else if c = '-' then number true rest
      else if c.isDigit then number false (c :: rest)
      else if c = 'n' then word ['u', 'l', 'l'] .null rest
      else if c = 't' then word ['r', 'u', 'e'] (.bool true) rest
      else if c = 'f' then word ['a', 'l', 's', 'e'] (.bool false) rest
      else (.broken .malformed, [])

/-- The items of an array from one on, and what is wrong before its closing bracket. -/
def items : Nat → List Char → List Node × Option Fault × List Char
  | 0, _ => ([], some .ended, [])
  | fuel + 1, s =>
    let (v, rest) := node fuel s
    if v.stops then ([v], some .ended, []) else
    match skipSpace rest with
    | ']' :: rest => ([v], none, rest)
    | ',' :: rest =>
      let (vs, f, rest) := items fuel rest
      (v :: vs, f, rest)
    | rest => ([v], some (faultAt rest), [])

/-- The members of an object from inside the name of one on. -/
def members : Nat → List Char → List (Quoted × Node) × Option Fault × List Char
  | 0, _ => ([], some .ended, [])
  | fuel + 1, s =>
    let (q, rest) := quoted s
    if q.fault.isSome then ([(q, .broken .ended)], some .ended, []) else
    match skipSpace rest with
    | ':' :: rest =>
      let (v, rest) := node fuel rest
      if v.stops then ([(q, v)], some .ended, []) else
      match skipSpace rest with
      | '}' :: rest => ([(q, v)], none, rest)
      | ',' :: rest =>
        match skipSpace rest with
        | '"' :: rest =>
          let (ms, f, rest) := members fuel rest
          ((q, v) :: ms, f, rest)
        | rest => ([(q, v)], some (faultAt rest), [])
      | rest => ([(q, v)], some (faultAt rest), [])
    | rest => ([(q, .broken (faultAt rest))], some .ended, [])

end

/-- A whole text: one value, and whether anything but blanks follows it. -/
structure Document where
  root : Node
  surplus : Bool
deriving Repr

def Document.ofText (s : String) : Document :=
  let cs := s.toList
  let (v, rest) := node (2 * cs.length + 2) cs
  ⟨v, !(skipSpace rest).isEmpty⟩

end StoreGuard.Json
