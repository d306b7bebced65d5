import Mathlib.Algebra.Order.Field.Power
import Mathlib.Algebra.Order.Field.Rat
import Mathlib.Order.WithBotTop
import Mathlib.Tactic.Ring
import StoreGuard.Floating.Basic

namespace StoreGuard

abbrev Extended := WithBotTop ℚ

namespace Floating

def ratio (negative : Bool) (m : ℕ) (e : ℤ) : ℚ := signed negative m * 2 ^ e

/-- What a number stands for, if it is one. -/
def value? : Floating → Option Extended
  | nan => none
  | infinite negative => some (if negative then ⊥ else ⊤)
  | finite negative m e => some (ratio negative m e : ℚ)

section Finite

variable {s t : Bool} {m n : ℕ} {e f base : ℤ}

theorem units_mul (h : base ≤ e) : (units s m e base : ℚ) * 2 ^ base = ratio s m e := by
  have hpow : (2 : ℚ) ^ (e - base).toNat * 2 ^ base = 2 ^ e := by
    rw [← zpow_natCast, Int.toNat_of_nonneg (by omega), ← zpow_add₀ two_ne_zero]
    congr 1
    omega
  have htwo : (twoTo (e - base).toNat : ℚ) = 2 ^ (e - base).toNat :=
    Nat.cast_pow 2 (e - base).toNat
  rw [units, ratio, ← hpow]
  push_cast
  rw [htwo]
  ring

/-- Counted in the smaller of their units, two numbers compare as the values they stand for. -/
theorem units_lt_units_iff :
    units s m e (min e f) < units t n f (min e f) ↔ ratio s m e < ratio t n f := by
  have hpos : (0 : ℚ) < 2 ^ min e f := zpow_pos two_pos _
  rw [← units_mul (min_le_left e f), ← units_mul (min_le_right e f), mul_lt_mul_iff_left₀ hpos,
    Int.cast_lt]

theorem bot_lt_ratio : ⊥ < ((ratio s m e : ℚ) : Extended) := WithBot.bot_lt_coe _

theorem ratio_lt_top : ((ratio s m e : ℚ) : Extended) < ⊤ :=
  WithBot.coe_lt_coe.2 (WithTop.coe_lt_top _)

end Finite

variable {a b : Floating}

theorem isSome_value?_iff : a.value?.isSome ↔ a ≠ .nan := by
  cases a <;> simp [value?]

theorem less_iff : a.less b = true ↔ ∃ x ∈ a.value?, ∃ y ∈ b.value?, x < y := by
  rcases a with _ | ⟨_ | _⟩ | ⟨s, m, e⟩ <;> rcases b with _ | ⟨_ | _⟩ | ⟨t, n, f⟩ <;>
    simp [less, value?, units_lt_units_iff, bot_lt_ratio, ratio_lt_top]

theorem sameNumber_eq : a.sameNumber b =
    (a.value?.isSome && b.value?.isSome && !a.less b && !b.less a) := by
  cases a <;> cases b <;> rfl

theorem sameNumber_iff : a.sameNumber b = true ↔ ∃ x ∈ a.value?, ∃ y ∈ b.value?, x = y := by
  have hab := less_iff (a := a) (b := b)
  have hba := less_iff (a := b) (b := a)
  rw [sameNumber_eq]
  cases ha : a.value? with
  | none => simp
  | some x =>
    cases hb : b.value? with
    | none => simp
    | some y =>
      simp only [ha, hb, Option.mem_some_iff, exists_eq_left'] at hab hba ⊢
      have heq : x = y ↔ a.less b = false ∧ b.less a = false := by
        rw [← Bool.not_eq_true, ← Bool.not_eq_true, hab, hba, not_lt, not_lt, le_antisymm_iff,
          and_comm]
      simp [heq]

theorem less_or_sameNumber_iff :
    (a.less b || a.sameNumber b) = true ↔ ∃ x ∈ a.value?, ∃ y ∈ b.value?, x ≤ y := by
  rw [Bool.or_eq_true, less_iff, sameNumber_iff]
  simp only [le_iff_lt_or_eq, and_or_left, exists_or]

end Floating

end StoreGuard
