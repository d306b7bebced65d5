import StoreGuard.Proofs.Floating.Order
import StoreGuard.Rules.Number

namespace StoreGuard

open Number

/-- A rejected number is echoed as the value, beside the bounds and itself. -/
theorem Rules.value_check_numberRule {α : Type} [Number α] (name code : String)
    (rejects : α → Bool) (bounds : List (String × α)) (message : String) (v : α) (ctx : Context) :
    ((numberRule name code rejects bounds message).check v ctx).value =
      if rejects v then some
        { kind := Violation.standardKind
          code := code
          metadata := .ofEntries ((bounds ++ [("actual", v)]).map fun b => (b.1, toDatum b.2))
          message := some (message ++ ", got " ++ text v)
          target := ctx.target
          value := toDatum v }
      else none := by
  unfold numberRule Rule.ofTest
  dsimp only
  rw [Traced.value_pure]
  split_ifs
  · exact congrArg some (Violation.withEntries_eq _ _)
  · rfl

theorem Rules.value_check_numberRule_eq_none_iff {α : Type} [Number α] {name code : String}
    {rejects : α → Bool} {bounds : List (String × α)} {message : String} {v : α} {ctx : Context} :
    ((numberRule name code rejects bounds message).check v ctx).value = none ↔
      rejects v = false := by
  rw [value_check_numberRule]
  cases rejects v <;> simp

/-- Numbers ordered as the values they stand for; one that stands for none is comparable with
nothing. -/
class LawfulNumber (α : Type) [Number α] where
  value? : α → Option Extended
  below_iff (a b : α) : below a b = true ↔ ∃ x ∈ value? a, ∃ y ∈ value? b, x < y
  notAbove_iff (a b : α) : notAbove a b = true ↔ ∃ x ∈ value? a, ∃ y ∈ value? b, x ≤ y
  value_zero : value? (zero : α) = some (0 : ℚ)

instance (w : Width) : LawfulNumber (Whole w) where
  value? a := some (a.val : ℚ)
  below_iff a b := by simp [below]
  notAbove_iff a b := by simp [notAbove]
  value_zero := by simp [zero]

instance (fmt : FloatFormat) : LawfulNumber (Binary fmt) where
  value? a := a.val.value?
  below_iff _ _ := Floating.less_iff
  notAbove_iff _ _ := Floating.less_or_sameNumber_iff
  value_zero := by simp [zero, Floating.zero, Floating.value?, Floating.ratio, Floating.signed]

section Order

variable {α : Type} [Number α] [LawfulNumber α]

def Number.IsComparable (a : α) : Prop := (LawfulNumber.value? a).isSome

variable {a b : α}

theorem isComparable_of_notAbove (h : notAbove a b = true) : IsComparable a ∧ IsComparable b := by
  obtain ⟨x, hx, y, hy, -⟩ := (LawfulNumber.notAbove_iff a b).1 h
  exact ⟨Option.isSome_of_mem hx, Option.isSome_of_mem hy⟩

theorem isComparable_zero : IsComparable (zero : α) := by
  rw [IsComparable, LawfulNumber.value_zero]
  rfl

theorem Whole.isComparable {w : Width} (a : Whole w) : IsComparable a := rfl

theorem Binary.isComparable_iff {fmt : FloatFormat} {a : Binary fmt} :
    IsComparable a ↔ a.val ≠ .nan :=
  Floating.isSome_value?_iff

theorem below_eq_false_iff : below a b = false ↔
    (IsComparable a → IsComparable b → notAbove b a = true) := by
  rw [← Bool.not_eq_true, LawfulNumber.below_iff, LawfulNumber.notAbove_iff, IsComparable,
    IsComparable]
  cases LawfulNumber.value? a <;> cases LawfulNumber.value? b <;> simp

theorem notAbove_eq_false_iff : notAbove a b = false ↔
    (IsComparable a → IsComparable b → below b a = true) := by
  rw [← Bool.not_eq_true, LawfulNumber.below_iff, LawfulNumber.notAbove_iff, IsComparable,
    IsComparable]
  cases LawfulNumber.value? a <;> cases LawfulNumber.value? b <;> simp

namespace Rules

section Acceptance

variable {least most v : α} {ctx : Context}

theorem value_check_range_eq_none_iff : ((range least most).check v ctx).value = none ↔
    (IsComparable v → IsComparable least → notAbove least v = true) ∧
      (IsComparable most → IsComparable v → notAbove v most = true) := by
  rw [range, value_check_numberRule_eq_none_iff, Bool.or_eq_false_iff, below_eq_false_iff,
    below_eq_false_iff]

theorem value_check_atLeast_eq_none_iff : ((atLeast least).check v ctx).value = none ↔
    (IsComparable v → IsComparable least → notAbove least v = true) := by
  rw [atLeast, value_check_numberRule_eq_none_iff, below_eq_false_iff]

theorem value_check_atMost_eq_none_iff : ((atMost most).check v ctx).value = none ↔
    (IsComparable most → IsComparable v → notAbove v most = true) := by
  rw [atMost, value_check_numberRule_eq_none_iff, below_eq_false_iff]

theorem value_check_positive_eq_none_iff : (positive.check v ctx).value = none ↔
    (IsComparable v → below zero v = true) := by
  rw [positive, value_check_numberRule_eq_none_iff, notAbove_eq_false_iff]
  simp only [isComparable_zero, forall_const]

theorem value_check_nonNegative_eq_none_iff : (nonNegative.check v ctx).value = none ↔
    (IsComparable v → notAbove zero v = true) := by
  rw [nonNegative, value_check_numberRule_eq_none_iff, below_eq_false_iff]
  simp only [isComparable_zero, forall_const]

end Acceptance

/-- Each of the rules accepts the number exactly if it lies within the rule's bounds. -/
structure FollowsOrder (least most v : α) : Prop where
  range (ctx : Context) : ((range least most).check v ctx).value = none ↔
    notAbove least v = true ∧ notAbove v most = true
  atLeast (ctx : Context) : ((atLeast least).check v ctx).value = none ↔ notAbove least v = true
  atMost (ctx : Context) : ((atMost most).check v ctx).value = none ↔ notAbove v most = true
  positive (ctx : Context) : (positive.check v ctx).value = none ↔ below zero v = true
  nonNegative (ctx : Context) : (nonNegative.check v ctx).value = none ↔ notAbove zero v = true

namespace FollowsOrder

variable {least most v : α}

theorem of_isComparable (hleast : IsComparable least) (hmost : IsComparable most)
    (hv : IsComparable v) : FollowsOrder least most v where
  range ctx := by simp only [value_check_range_eq_none_iff, hleast, hmost, hv, forall_const]
  atLeast ctx := by simp only [value_check_atLeast_eq_none_iff, hleast, hv, forall_const]
  atMost ctx := by simp only [value_check_atMost_eq_none_iff, hmost, hv, forall_const]
  positive ctx := by simp only [value_check_positive_eq_none_iff, hv, forall_const]
  nonNegative ctx := by simp only [value_check_nonNegative_eq_none_iff, hv, forall_const]

/-- A number that cannot be compared with the least one is accepted, and does not lie above it. -/
theorem isComparable_of_atLeast (h : FollowsOrder least most v) :
    IsComparable least ∧ IsComparable v := by
  by_contra hnot
  have haccepted : ((Rules.atLeast least).check v default).value = none :=
    value_check_atLeast_eq_none_iff.2 fun hv hleast => absurd ⟨hleast, hv⟩ hnot
  exact hnot (isComparable_of_notAbove ((h.atLeast default).1 haccepted))

theorem isComparable_of_atMost (h : FollowsOrder least most v) :
    IsComparable v ∧ IsComparable most := by
  by_contra hnot
  have haccepted : ((Rules.atMost most).check v default).value = none :=
    value_check_atMost_eq_none_iff.2 fun hmost hv => absurd ⟨hv, hmost⟩ hnot
  exact hnot (isComparable_of_notAbove ((h.atMost default).1 haccepted))

end FollowsOrder

variable {least most v : α}

/-- The rules follow the order exactly on the numbers that have a place in it. -/
theorem followsOrder_iff : FollowsOrder least most v ↔
    IsComparable least ∧ IsComparable most ∧ IsComparable v := by
  constructor
  · intro h
    exact ⟨h.isComparable_of_atLeast.1, h.isComparable_of_atMost.2, h.isComparable_of_atMost.1⟩
  · rintro ⟨hleast, hmost, hv⟩
    exact .of_isComparable hleast hmost hv

end Rules

end Order

namespace Rules

/-- On whole numbers of every width the rules follow the order, and on floating-point numbers of
every format exactly if none of them is NaN. -/
theorem follows_order_unless_nan (w : Width) (lowest highest n : Whole w) (fmt : FloatFormat)
    (least most v : Binary fmt) :
    FollowsOrder lowest highest n ∧
      (FollowsOrder least most v ↔ least.val ≠ .nan ∧ most.val ≠ .nan ∧ v.val ≠ .nan) := by
  constructor
  · exact .of_isComparable lowest.isComparable highest.isComparable n.isComparable
  · rw [followsOrder_iff, Binary.isComparable_iff, Binary.isComparable_iff,
      Binary.isComparable_iff]

/-- NaN lies between no bounds and passes all the same. -/
theorem range_accepts_nan :
    let least : Binary .double := ⟨.finite false 0 0⟩
    let most : Binary .double := ⟨.finite false 1 0⟩
    let v : Binary .double := ⟨.nan⟩
    ((range least most).check v (.ofTarget "field")).value = none ∧
      ¬(notAbove least v = true ∧ notAbove v most = true) := by
  refine ⟨rfl, ?_⟩
  decide

end Rules

end StoreGuard
