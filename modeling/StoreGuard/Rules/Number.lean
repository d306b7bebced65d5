import StoreGuard.Rule

namespace StoreGuard

/-- What the rules need of a type of numbers: its order, its zero and its written forms. -/
class Number (α : Type) where
  below : α → α → Bool
  notAbove : α → α → Bool
  zero : α
  toDatum : α → Datum
  text : α → String

inductive Width where
  | signed (bits : Fin 4)
  | unsigned (bits : Fin 4)
deriving DecidableEq, Repr

namespace Width

/-- The number of bits: eight doubled so many times. -/
def bitCount (bits : Fin 4) : Nat := 8 * twoTo bits.val

def least : Width → Int
  | signed bits => -(twoTo (bitCount bits - 1) : Int)
  | unsigned _ => 0

def greatest : Width → Int
  | signed bits => (twoTo (bitCount bits - 1) : Int) - 1
  | unsigned bits => (twoTo (bitCount bits) : Int) - 1

theorem least_nonpos (w : Width) : w.least ≤ 0 := by
  cases w with
  | signed bits => revert bits; decide
  | unsigned bits => exact Int.le_refl 0

theorem greatest_nonneg (w : Width) : 0 ≤ w.greatest := by
  cases w <;> (rename_i bits; revert bits; decide)

end Width

structure Whole (w : Width) where
  val : Int
  least_le : w.least ≤ val
  le_greatest : val ≤ w.greatest

namespace Whole

/-- The number, if it is in range. -/
def ofInt? (w : Width) (n : Int) : Option (Whole w) :=
  if h : w.least ≤ n ∧ n ≤ w.greatest then some ⟨n, h.1, h.2⟩ else none

instance {w : Width} : Number (Whole w) where
  below a b := a.val < b.val
  notAbove a b := a.val ≤ b.val
  zero := ⟨0, w.least_nonpos, w.greatest_nonneg⟩
  toDatum a := .int a.val
  text a := toString a.val

end Whole

structure Binary (fmt : FloatFormat) where
  val : Floating

instance {fmt : FloatFormat} : Number (Binary fmt) where
  below a b := a.val.less b.val
  notAbove a b := a.val.less b.val || a.val.sameNumber b.val
  zero := ⟨Floating.zero⟩
  toDatum a := .ofFloating (a.val.convert .double)
  text a := Floating.render fmt Floating.messageLayout a.val

namespace Rules

open Number

variable {α : Type} [Number α]

/-- A rule that rejects the numbers for which `rejects` holds. -/
def numberRule (name code : String) (rejects : α → Bool) (bounds : List (String × α))
    (message : String) : Rule α :=
  Rule.ofTest name fun value =>
    if rejects value then
      some fun target =>
        ((Violation.labelled target (toDatum value) (message ++ ", got " ++ text value)
        ).withCode code).withEntries
          ((bounds ++ [("actual", value)]).map fun b => (b.1, toDatum b.2))
    else none

/-- Neither below `least` nor above `most`. -/
def range (least most : α) : Rule α :=
  numberRule "numeric-range" "numeric-range" (fun v => below v least || below most v)
    [("min", least), ("max", most)] ("must be between " ++ text least ++ " and " ++ text most)

def atLeast (least : α) : Rule α :=
  numberRule "min-value" "min-value" (fun v => below v least) [("min", least)]
    ("must be at least " ++ text least)

def atMost (most : α) : Rule α :=
  numberRule "max-value" "max-value" (fun v => below most v) [("max", most)]
    ("must be at most " ++ text most)

def positive : Rule α :=
  numberRule "positive" "non-positive" (fun v => notAbove v zero) [] "must be positive"

def nonNegative : Rule α :=
  numberRule "non-negative" "non-negative" (fun v => below v zero) [] "must be non-negative"

end Rules

end StoreGuard
