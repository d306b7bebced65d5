import StoreGuard.Json.Mismatch
import StoreGuard.Toml.Text

namespace StoreGuard.Toml

/-- Digits that low lines may divide, one between two digits at most; the low lines are dropped. -/
def dividedDigits (isDigit : Char → Bool) : Nat → Scan (List Char)
  | 0, _ => none
  | _ + 1, [] => none
  | fuel + 1, c :: rest =>
    if !isDigit c then none
    else match rest with
      | '_' :: rest => do
        let (ds, rest) ← dividedDigits isDigit fuel rest
        some (c :: ds, rest)
      | d :: _ =>
        if isDigit d then do
          let (ds, rest) ← dividedDigits isDigit fuel rest
          some (c :: ds, rest)
        else some ([c], rest)
      | [] => some ([c], [])

def digits (isDigit : Char → Bool) (s : List Char) : Option (List Char × List Char) :=
  dividedDigits isDigit (s.length + 1) s

def isBinary (c : Char) : Bool := c = '0' || c = '1'

def isOctal (c : Char) : Bool := '0' ≤ c && c ≤ '7'

def isHex (c : Char) : Bool := (Text.hexValue? c).isSome

def fitsSigned (n : Int) : Bool := -9223372036854775808 ≤ n && n < 9223372036854775808

def based (base : Nat) (isDigit : Char → Bool) (s : List Char) : Option (Found × List Char) := do
  let (ds, rest) ← digits isDigit s
  let n := ds.foldl (fun n d => n * base + (Text.hexValue? d).getD 0) 0
  if fitsSigned n then some (.whole n, rest) else none

/-- Digits of a whole number: a zero stands alone. -/
def wholeDigits : Scan (List Char)
  | '0' :: rest => some (['0'], rest)
  | s => digits Char.isDigit s

def exponent (s : List Char) : Option (List Char × List Char) :=
  match s with
  | c :: rest =>
    if c = 'e' || c = 'E' then
      match rest with
      | '-' :: rest => (digits Char.isDigit rest).map fun (ds, rest) => ('e' :: '-' :: ds, rest)
      | '+' :: rest => (digits Char.isDigit rest).map fun (ds, rest) => ('e' :: ds, rest)
      | rest => (digits Char.isDigit rest).map fun (ds, rest) => ('e' :: ds, rest)
    else none
  | [] => none

/-- A decimal as it stands: too large a number is refused unless it is negative. -/
def floating (negative : Bool) (text : List Char) : Option Found :=
  match Floating.ofText? .double (String.ofList (if negative then '-' :: text else text)) with
  | some (.infinite false) => none
  | some x => some (.float x)
  | none => none

def decimal (negative : Bool) (s : List Char) : Option (Found × List Char) := do
  let (whole, rest) ← wholeDigits s
  match rest with
  | '.' :: tail =>
    let (fraction, rest) ← digits Char.isDigit tail
    let text := whole ++ '.' :: fraction
    match exponent rest with
    | some (e, rest) => (floating negative (text ++ e)).map (·, rest)
    | none =>
      if rest.head?.any fun c => c = 'e' || c = 'E' then none
      else (floating negative text).map (·, rest)
  | rest =>
    match exponent rest with
    | some (e, rest) => (floating negative (whole ++ e)).map (·, rest)
    | none =>
      let n := Floating.signed negative (Nat.ofDigitChars 10 whole 0)
      if fitsSigned n then some (.whole n, rest) else none

def word (expected : List Char) (value : Found) (s : List Char) : Option (Found × List Char) :=
  if expected.isPrefixOf s then some (value, s.drop expected.length) else none

def afterSign (negative : Bool) (s : List Char) : Option (Found × List Char) :=
  match s with
  | 'i' :: _ => word ['i', 'n', 'f'] (.float (.infinite negative)) s
  | 'n' :: _ => word ['n', 'a', 'n'] (.float .nan) s
  | s => decimal negative s

def number : Scan Found
  | '+' :: rest => afterSign false rest
  | '-' :: rest => afterSign true rest
  | '0' :: 'x' :: rest => based 16 isHex rest
  | '0' :: 'o' :: rest => based 8 isOctal rest
  | '0' :: 'b' :: rest => based 2 isBinary rest
  | s => decimal false s

/-- A number of exactly so many digits, between two bounds. -/
def fixed (count least most : Nat) (s : List Char) : Option (Nat × List Char) :=
  let ds := s.take count
  let n := Nat.ofDigitChars 10 ds 0
  if ds.length = count && ds.all Char.isDigit && least ≤ n && n ≤ most then some (n, s.drop count)
  else none

def expect (c : Char) : List Char → Option (List Char)
  | d :: rest => if d = c then some rest else none
  | [] => none

def daysIn (year month : Nat) : Nat :=
  let isLeap := year % 4 = 0 && (year % 100 ≠ 0 || year % 400 = 0)
  if month = 2 then (if isLeap then 29 else 28)
  else if [4, 6, 9, 11].contains month then 30
  else 31

def date (s : List Char) : Option (List Char) := do
  let (year, rest) ← fixed 4 0 9999 s
  let rest ← expect '-' rest
  let (month, rest) ← fixed 2 1 12 rest
  let rest ← expect '-' rest
  let (_, rest) ← fixed 2 1 (daysIn year month) rest
  some rest

def time (s : List Char) : Option (List Char) := do
  let (_, rest) ← fixed 2 0 23 s
  let rest ← expect ':' rest
  let (_, rest) ← fixed 2 0 59 rest
  let rest ← expect ':' rest
  let (_, rest) ← fixed 2 0 60 rest
  match rest with
  | '.' :: d :: _ => some (if d.isDigit then (rest.drop 1).dropWhile Char.isDigit else rest)
  | rest => some rest

def offset (s : List Char) : Option (List Char) :=
  match s with
  | c :: rest =>
    if c = 'Z' || c = 'z' then some rest
    else if c = '+' || c = '-' then do
      let (_, rest) ← fixed 2 0 23 rest
      let rest ← expect ':' rest
      let (_, rest) ← fixed 2 0 59 rest
      some rest
    else some (c :: rest)
  | [] => some []

def dayTime (s : List Char) : Option (List Char) :=
  match s with
  | c :: rest =>
    if c = 'T' || c = 't' || c = ' ' then
      match time rest with
      | some rest => offset rest
      | none => some s
    else some s
  | [] => some []

/-- A date, a time or both; to a reader of fields it is a table. -/
def moment (s : List Char) : Option (Found × List Char) :=
  match date s with
  | some rest => (dayTime rest).map (.map, ·)
  | none => (time s).map (.map, ·)

end StoreGuard.Toml
