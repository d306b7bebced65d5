import StoreGuard.Floating.Shortest

namespace StoreGuard.Floating

/-- How a number is laid out: the exponents written without an exponent mark, and what follows. -/
structure Layout where
  plainFrom : Option Int
  plainBelow : Option Int
  fraction : Bool
  tie : Tie

/-- Numbers in messages never have an exponent, and whole ones no point. -/
def messageLayout : Layout := ⟨none, none, false, .up⟩

/-- Numbers in JSON are plain from `1e-5` up to `1e16`, with at least one digit after the point. -/
def jsonLayout : Layout := ⟨some (-5), some 16, true, .toEven⟩

def Layout.plain (l : Layout) (magnitude : Int) : Bool :=
  l.plainFrom.all (· ≤ magnitude) && l.plainBelow.all (magnitude < ·)

def zeros (n : Nat) : List Char := List.replicate n '0'

/-- Digits with the point `point` places after their beginning, which may lie outside them. -/
def placePoint (l : Layout) (ds : List Char) (point : Int) : List Char :=
  if point ≤ 0 then '0' :: '.' :: (zeros (-point).toNat ++ ds)
  else if point.toNat < ds.length then ds.take point.toNat ++ '.' :: ds.drop point.toNat
  else ds ++ zeros (point.toNat - ds.length) ++ if l.fraction then ['.', '0'] else []

def scientific (ds : List Char) (magnitude : Int) : List Char :=
  let tail := ds.drop 1
  ds.take 1 ++ (if tail.isEmpty then [] else '.' :: tail) ++ 'e' ::
    (if magnitude < 0 then '-' else '+') :: Nat.toDigits 10 magnitude.natAbs

def layOut (l : Layout) (d : Decimal) : List Char :=
  let ds := Nat.toDigits 10 d.digits
  let magnitude := (ds.length : Int) - 1 + d.exponent
  if l.plain magnitude then placePoint l ds (magnitude + 1) else scientific ds magnitude

def zeroText (l : Layout) : List Char := if l.fraction then ['0', '.', '0'] else ['0']

def render (fmt : FloatFormat) (l : Layout) : Floating → String
  | nan => "NaN"
  | infinite s => if s then "-inf" else "inf"
  | finite s m e =>
    let body := if m = 0 then zeroText l else layOut l ((shortest fmt l.tie m e).trim 400)
    String.ofList (if s then '-' :: body else body)

def ofDecimal (fmt : FloatFormat) (negative : Bool) (digits : Nat) (exponent : Int) : Floating :=
  let magnitude := (bitLength digits : Int) * 3 / 10 + exponent
  if digits = 0 then ofRatio fmt negative 0 1
  else if 400 < magnitude then infinite negative
  else if magnitude < -400 then ofRatio fmt negative 0 1
  else if 0 ≤ exponent then ofRatio fmt negative (digits * tenTo exponent.toNat) 1
  else ofRatio fmt negative digits (tenTo (-exponent).toNat)

def digitsOf? (cs : List Char) : Option Nat :=
  if !cs.isEmpty && cs.all Char.isDigit then some (Nat.ofDigitChars 10 cs 0) else none

def signOf : List Char → Bool × List Char
  | '-' :: r => (true, r)
  | '+' :: r => (false, r)
  | r => (false, r)

def exponentOf? (cs : List Char) : Option Int :=
  let (negative, ds) := signOf cs
  (digitsOf? ds).map fun n => signed negative n

/-- A decimal without its sign: digits, a point among them or not, and an exponent or not. -/
def unsignedOfText? (fmt : FloatFormat) (negative : Bool) (cs : List Char) : Option Floating := do
  let isMark := fun c => c = 'e' || c = 'E'
  let body := cs.takeWhile fun c => !isMark c
  let exponent ← match cs.dropWhile fun c => !isMark c with
    | [] => some 0
    | _ :: r => exponentOf? r
  let whole := body.takeWhile (· ≠ '.')
  let fraction := (body.dropWhile (· ≠ '.')).drop 1
  let n ← digitsOf? (whole ++ fraction)
  some (ofDecimal fmt negative n (exponent - fraction.length))

def ofText? (fmt : FloatFormat) (s : String) : Option Floating :=
  let (negative, cs) := signOf s.toList
  match String.ofList (cs.map Char.toLower) with
  | "nan" => some nan
  | "inf" | "infinity" => some (infinite negative)
  | _ => unsignedOfText? fmt negative cs

end StoreGuard.Floating
