namespace StoreGuard

/-- How many significant bits a format keeps, and the exponents of its least and greatest units. -/
structure FloatFormat where
  precision : Nat
  leastExponent : Int
  greatestExponent : Int
deriving DecidableEq, Repr

/-- A number of a binary format; a finite one is `significand * 2 ^ exponent` under its sign. -/
inductive Floating where
  | nan
  | infinite (negative : Bool)
  | finite (negative : Bool) (significand : Nat) (exponent : Int)
deriving DecidableEq, Repr

namespace FloatFormat

def double : FloatFormat := ⟨53, -1074, 971⟩

def single : FloatFormat := ⟨24, -149, 104⟩

end FloatFormat

def twoTo (n : Nat) : Nat := Nat.pow 2 n

def tenTo (n : Nat) : Nat := Nat.pow 10 n

def bitLength (n : Nat) : Nat := if n = 0 then 0 else n.log2 + 1

/-- The quotient rounded to the nearest integer, a half going to the even neighbour. -/
def divRoundEven (num den : Nat) : Nat :=
  let q := num / den
  let r := num % den
  if 2 * r > den || (2 * r = den && q % 2 = 1) then q + 1 else q

/-- `num / (den * 2 ^ e)` rounded to an integer. -/
def scaledQuotient (num den : Nat) (e : Int) : Nat :=
  if 0 ≤ e then divRoundEven num (den * twoTo e.toNat) else divRoundEven (num * twoTo (-e).toNat) den

namespace Floating

def zero : Floating := finite false 0 0

/-- The number of the format nearest to `num / den`; what lies beyond the greatest is infinite. -/
def ofRatio (fmt : FloatFormat) (negative : Bool) (num den : Nat) : Floating :=
  if num = 0 then finite negative 0 0 else
  let guess : Int := bitLength num - bitLength den - fmt.precision
  let low := max fmt.leastExponent guess
  let e := if scaledQuotient num den low < twoTo fmt.precision then low else low + 1
  let q := scaledQuotient num den e
  let (m, e) := if q = twoTo fmt.precision then (q / 2, e + 1) else (q, e)
  if m = 0 then finite negative 0 0
  else if fmt.greatestExponent < e then infinite negative
  else finite negative m e

def ofScaled (fmt : FloatFormat) (negative : Bool) (m : Nat) (e : Int) : Floating :=
  if 0 ≤ e then ofRatio fmt negative (m * twoTo e.toNat) 1 else ofRatio fmt negative m (twoTo (-e).toNat)

def ofNat (fmt : FloatFormat) (n : Nat) : Floating := ofRatio fmt false n 1

def convert (fmt : FloatFormat) : Floating → Floating
  | nan => nan
  | infinite s => infinite s
  | finite s m e => ofScaled fmt s m e

def isFinite : Floating → Bool
  | finite .. => true
  | _ => false

def isZero : Floating → Bool
  | finite _ m _ => m = 0
  | _ => false

def negate : Floating → Floating
  | nan => nan
  | infinite s => infinite !s
  | finite s m e => finite (!s) m e

def mul (fmt : FloatFormat) : Floating → Floating → Floating
  | finite s m e, finite t n f => ofScaled fmt (s != t) (m * n) (e + f)
  | _, _ => nan

def div (fmt : FloatFormat) : Floating → Floating → Floating
  | finite s m e, finite t n f =>
    if 0 ≤ e - f then ofRatio fmt (s != t) (m * twoTo (e - f).toNat) n
    else ofRatio fmt (s != t) m (n * twoTo (f - e).toNat)
  | _, _ => nan

def signed (negative : Bool) (m : Nat) : Int := if negative then -(m : Int) else m

/-- A finite number counted in units of `2 ^ base`, for `base` no greater than its exponent. -/
def units (negative : Bool) (m : Nat) (e base : Int) : Int :=
  signed negative m * twoTo (e - base).toNat

/-- Strictly below; nothing is below NaN or above it. -/
def less : Floating → Floating → Bool
  | nan, _ => false
  | _, nan => false
  | infinite s, infinite t => s && !t
  | infinite s, finite .. => s
  | finite .., infinite t => !t
  | finite s m e, finite t n f => units s m e (min e f) < units t n f (min e f)

/-- Equal as numbers: the two zeros are equal and NaN equals nothing. -/
def sameNumber : Floating → Floating → Bool
  | nan, _ => false
  | _, nan => false
  | a, b => !less a b && !less b a

end Floating

end StoreGuard
