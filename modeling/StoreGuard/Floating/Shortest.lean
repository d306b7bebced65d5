import StoreGuard.Floating.Basic

namespace StoreGuard.Floating

inductive Tie where
  | toEven
  | up
deriving DecidableEq, Repr

structure Decimal where
  digits : Nat
  exponent : Int
deriving DecidableEq, Repr

/-- Sign of `a * 10 ^ i - b * 2 ^ j`. -/
def compareScaled (a : Nat) (i : Int) (b : Nat) (j : Int) : Ordering :=
  compare (a * tenTo i.toNat * twoTo (-j).toNat) (b * twoTo j.toNat * tenTo (-i).toNat)

/-- The numbers that round to `m * 2 ^ e` end half a unit away, a quarter below a power of two. -/
structure Neighbourhood where
  centre : Nat
  low : Nat
  high : Nat
  exponent : Int
  closed : Bool

def neighbourhood (fmt : FloatFormat) (m : Nat) (e : Int) : Neighbourhood where
  centre := 4 * m
  low := if m = twoTo (fmt.precision - 1) && fmt.leastExponent < e then 4 * m - 1 else 4 * m - 2
  high := 4 * m + 2
  exponent := e - 2
  closed := m % 2 = 0

def Neighbourhood.holds (n : Neighbourhood) (d : Nat) (k : Int) : Bool :=
  let below := compareScaled d k n.low n.exponent
  let above := compareScaled d k n.high n.exponent
  if n.closed then below ≠ .lt && above ≠ .gt else below = .gt && above = .lt

def Neighbourhood.quotient (n : Neighbourhood) (k : Int) : Nat :=
  (n.centre * twoTo n.exponent.toNat * tenTo (-k).toNat) / (twoTo (-n.exponent).toNat * tenTo k.toNat)

/-- Which of `d` and `d + 1` is nearer to the centre, both times `10 ^ k`. -/
def Neighbourhood.nearer (n : Neighbourhood) (tie : Tie) (d : Nat) (k : Int) : Nat :=
  match compareScaled (2 * d + 1) k (2 * n.centre) n.exponent with
  | .gt => d
  | .lt => d + 1
  | .eq => if tie = .toEven && d % 2 = 0 then d else d + 1

/-- The decimal on the grid of `10 ^ k` that reads back, if there is one. -/
def Neighbourhood.onGrid? (n : Neighbourhood) (tie : Tie) (k : Int) : Option Nat :=
  let d := n.quotient k
  match n.holds d k, n.holds (d + 1) k with
  | true, true => some (n.nearer tie d k)
  | true, false => some d
  | false, true => some (d + 1)
  | false, false => none

def Neighbourhood.search (n : Neighbourhood) (tie : Tie) : Nat → Int → Decimal
  | 0, k => ⟨n.quotient k, k⟩
  | tries + 1, k =>
    match n.onGrid? tie k with
    | some d => ⟨d, k⟩
    | none => n.search tie tries (k - 1)

/-- Ten to this power is at most the number, and the next power is above it, give or take one. -/
def Neighbourhood.magnitude (n : Neighbourhood) : Int :=
  ((bitLength n.centre : Int) + n.exponent) * 30103 / 100000

/-- The fewest digits that read back as `m * 2 ^ e`, and of those the nearest. -/
def shortest (fmt : FloatFormat) (tie : Tie) (m : Nat) (e : Int) : Decimal :=
  let n := neighbourhood fmt m e
  n.search tie 24 (n.magnitude + 1)

def Decimal.trim : Nat → Decimal → Decimal
  | 0, d => d
  | fuel + 1, d =>
    if d.digits ≠ 0 && d.digits % 10 = 0 then trim fuel ⟨d.digits / 10, d.exponent + 1⟩ else d

end StoreGuard.Floating
