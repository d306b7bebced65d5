import StoreGuard.Text.Character
import StoreGuard.Pattern.Parser

namespace StoreGuard.Toml

/-- What is read from the head of a text, and the rest of it; `none` if it is not well-formed. -/
abbrev Scan (α : Type) := List Char → Option (α × List Char)

def isGap (c : Char) : Bool := c = ' ' || c = '\t'

def skipGap (s : List Char) : List Char := s.dropWhile isGap

/-- A line feed, with a carriage return before it or not. -/
def newline? : List Char → Option (List Char)
  | '\n' :: rest => some rest
  | '\r' :: '\n' :: rest => some rest
  | _ => none

/-- Characters that may stand for themselves: tabs, and all but the controls. -/
def isPlain (c : Char) : Bool := c = '\t' || (32 ≤ c.toNat && c.toNat ≠ 127)

def skipComment (s : List Char) : List Char :=
  match s with
  | '#' :: rest => rest.dropWhile isPlain
  | s => s

def endLine (s : List Char) : Option (List Char) :=
  match skipComment (skipGap s) with
  | [] => some []
  | rest => newline? rest

def skipLines : Nat → List Char → Option (List Char)
  | 0, _ => none
  | fuel + 1, s =>
    match skipGap s with
    | '#' :: rest =>
      match newline? (skipComment ('#' :: rest)) with
      | some rest => skipLines fuel rest
      | none => none
    | s =>
      match newline? s with
      | some rest => skipLines fuel rest
      | none => some s

def codeEscape (count : Nat) (s : List Char) : Option (Char × List Char) := do
  let digits := s.take count
  if digits.length ≠ count then none
  let values ← digits.mapM Text.hexValue?
  let n := values.foldl (fun n d => n * 16 + d) 0
  if Pattern.isScalar n then some (Char.ofNat n, s.drop count) else none

def escape : Scan Char
  | 'b' :: rest => some ('\x08', rest)
  | 'f' :: rest => some ('\x0c', rest)
  | 'n' :: rest => some ('\n', rest)
  | 'r' :: rest => some ('\r', rest)
  | 't' :: rest => some ('\t', rest)
  | '\\' :: rest => some ('\\', rest)
  | '"' :: rest => some ('"', rest)
  | 'u' :: rest => codeEscape 4 rest
  | 'U' :: rest => codeEscape 8 rest
  | _ => none

/-- A string from after its opening quote, with the characters read so far in reverse. -/
def basicString (acc : List Char) : Nat → Scan String
  | 0, _ => none
  | _ + 1, [] => none
  | fuel + 1, c :: rest =>
    if c = '"' then some (String.ofList acc.reverse, rest)
    else if c = '\\' then do
      let (e, rest) ← escape rest
      basicString (e :: acc) fuel rest
    else if isPlain c then basicString (c :: acc) fuel rest
    else none

def literalString (s : List Char) : Option (String × List Char) :=
  match s.dropWhile fun c => isPlain c && c ≠ '\'' with
  | '\'' :: rest => some (String.ofList (s.takeWhile fun c => isPlain c && c ≠ '\''), rest)
  | _ => none

/-- The end of a string of several lines, where up to two more quotes belong to it. -/
def closing (quote : Char) (acc : List Char) (s : List Char) : String × List Char :=
  let extra := ((s.takeWhile (· = quote)).take 2).length
  (String.ofList (acc.reverse ++ List.replicate extra quote), s.drop extra)

def dropLines : List Char → List Char
  | '\r' :: '\n' :: rest => dropLines rest
  | c :: rest => if isGap c || c = '\n' then dropLines rest else c :: rest
  | [] => []

/-- A backslash at the end of a line joins it to the next text, wherever that begins. -/
def joinLines (s : List Char) : Option (List Char) := (newline? (skipGap s)).map dropLines

def longString (quote : Char) (acc : List Char) : Nat → Scan String
  | 0, _ => none
  | _ + 1, [] => none
  | fuel + 1, c :: rest =>
    if c = quote && [quote, quote].isPrefixOf rest then some (closing quote acc (rest.drop 2))
    else match newline? (c :: rest) with
      | some rest => longString quote ('\n' :: acc) fuel rest
      | none =>
        if c = '\\' && quote = '"' then
          match joinLines rest with
          | some rest => longString quote acc fuel rest
          | none => do
            let (e, rest) ← escape rest
            longString quote (e :: acc) fuel rest
        else if isPlain c then longString quote (c :: acc) fuel rest
        else none

/-- A line feed right after the opening quotes does not count. -/
def openLong (s : List Char) : List Char := (newline? s).getD s

def string : Scan String
  | '"' :: '"' :: '"' :: rest => longString '"' [] (rest.length + 1) (openLong rest)
  | '\'' :: '\'' :: '\'' :: rest => longString '\'' [] (rest.length + 1) (openLong rest)
  | '"' :: rest => basicString [] (rest.length + 1) rest
  | '\'' :: rest => literalString rest
  | _ => none

def isBare (c : Char) : Bool := c.isAlphanum || c = '-' || c = '_'

def simpleKey (s : List Char) : Option (String × List Char) :=
  match s with
  | '"' :: rest => basicString [] (rest.length + 1) rest
  | '\'' :: rest => literalString rest
  | s =>
    let name := s.takeWhile isBare
    if name.isEmpty then none else some (String.ofList name, s.dropWhile isBare)

def keyParts : Nat → Scan (List String)
  | 0, _ => none
  | fuel + 1, s => do
    let (k, rest) ← simpleKey (skipGap s)
    match skipGap rest with
    | '.' :: rest => do
      let (ks, rest) ← keyParts fuel rest
      some (k :: ks, rest)
    | rest => some ([k], rest)

/-- One more than the parts a key may have, and than the values that may enclose one another. -/
def nestLimit : Nat := 80

def key (s : List Char) : Option (List String × List Char) := do
  let (ks, rest) ← keyParts (s.length + 1) s
  if ks.length < nestLimit then some (ks, rest) else none

end StoreGuard.Toml
