import Mathlib.Tactic.SplitIfs
import StoreGuard.Rules.Stored

namespace StoreGuard.Rules

/-- A value that is too large is echoed as its size, beside the limit and the key. -/
theorem value_check_valueSize (most : Nat) (e : Entry) (ctx : Context) :
    ((valueSize most).check e ctx).value =
      if decide (most < e.value.size) then some
        { kind := Violation.standardKind
          code := tooLargeCode
          metadata := .ofEntries [("max-size", .ofNat most), ("actual-size", .ofNat e.value.size),
            ("key", .string e.key)]
          message := some ("value too large: maximum " ++ toString most ++ " bytes, got " ++
            toString e.value.size)
          target := ctx.target
          value := .ofNat e.value.size }
      else none := by
  change (if e.value.size ≤ most then none else some _) = _
  rw [Violation.withEntries_eq]
  split_ifs with hle hlt hlt
  · simp only [decide_eq_true_eq] at hlt
    omega
  · rfl
  · rfl
  · simp only [decide_eq_true_eq] at hlt
    omega

theorem value_check_valueSize_eq_none_iff {most : Nat} {e : Entry} {ctx : Context} :
    ((valueSize most).check e ctx).value = none ↔ e.value.size ≤ most := by
  rw [value_check_valueSize]
  simp

theorem value_check_valueSize_eq_some_iff {most : Nat} {e : Entry} {ctx : Context}
    {v : Violation} :
    ((valueSize most).check e ctx).value = some v ↔ most < e.value.size ∧ v =
      { kind := Violation.standardKind
        code := tooLargeCode
        metadata := .ofEntries [("max-size", .ofNat most), ("actual-size", .ofNat e.value.size),
          ("key", .string e.key)]
        message := some ("value too large: maximum " ++ toString most ++ " bytes, got " ++
          toString e.value.size)
        target := ctx.target
        value := .ofNat e.value.size } := by
  rw [value_check_valueSize]
  simp [eq_comm]

theorem code_of_check_valueSize {most : Nat} {e : Entry} {ctx : Context} {v : Violation}
    (h : ((valueSize most).check e ctx).value = some v) : v.code = tooLargeCode := by
  rw [(value_check_valueSize_eq_some_iff.1 h).2]

/-- Rejected bytes are echoed as text, beside the key. -/
theorem value_check_valueContent (accepts : ByteArray → Bool) (message : String) (e : Entry)
    (ctx : Context) :
    ((valueContent accepts message).check e ctx).value =
      if accepts e.value then none
      else some
        { kind := Violation.standardKind
          code := "value-content-invalid"
          metadata := .ofEntries [("key", .string e.key)]
          message := some ("value validation failed: " ++ message)
          target := ctx.target
          value := .string (Text.lossy e.value) } :=
  rfl

end StoreGuard.Rules
