import Mathlib.Data.List.TakeWhile
import StoreGuard.Proofs.Pattern.Search
import StoreGuard.Rules.Text

namespace StoreGuard

/-- Nothing is left of a text that is cut from both ends exactly if all of it is blank. -/
theorem Text.trim_eq_nil_iff {s : List Char} : trim s = [] ↔ ∀ c ∈ s, isBlank c = true := by
  rw [trim, List.reverse_eq_nil_iff, List.dropWhile_eq_nil_iff]
  simp only [List.mem_reverse]
  constructor
  · intro hrest c hc
    rw [← List.takeWhile_append_dropWhile (p := isBlank) (l := s)] at hc
    rcases List.mem_append.1 hc with hc | hc
    · exact List.mem_takeWhile_imp hc
    · exact hrest c hc
  · exact fun hall c hc => hall c ((List.dropWhile_sublist isBlank).subset hc)

namespace Rules

theorem value_check_textRule (name code : String) (accepts : String → Bool)
    (evidence : String → List (String × Datum)) (message : String → String) (s : String)
    (ctx : Context) :
    ((textRule name code accepts evidence message).check s ctx).value =
      if accepts s then none else some (reject code (evidence s) (message s) s ctx.target) := by
  unfold textRule Rule.ofTest
  dsimp only
  rw [Traced.value_pure]
  cases accepts s <;> rfl

theorem value_check_textRule_eq_none_iff {name code : String} {accepts : String → Bool}
    {evidence : String → List (String × Datum)} {message : String → String} {s : String}
    {ctx : Context} :
    ((textRule name code accepts evidence message).check s ctx).value = none ↔
      accepts s = true := by
  rw [value_check_textRule]
  cases accepts s <;> simp

theorem value_check_textRule_eq_some_iff {name code : String} {accepts : String → Bool}
    {evidence : String → List (String × Datum)} {message : String → String} {s : String}
    {ctx : Context} {v : Violation} :
    ((textRule name code accepts evidence message).check s ctx).value = some v ↔
      accepts s = false ∧ v = reject code (evidence s) (message s) s ctx.target := by
  rw [value_check_textRule]
  cases accepts s <;> simp [eq_comm]

theorem eq_reject_of_check_textRule {name code : String} {accepts : String → Bool}
    {evidence : String → List (String × Datum)} {message : String → String} {s : String}
    {ctx : Context} {v : Violation}
    (h : ((textRule name code accepts evidence message).check s ctx).value = some v) :
    v = reject code (evidence s) (message s) s ctx.target :=
  (value_check_textRule_eq_some_iff.1 h).2

/-- A rejected text is echoed as the value, beside the evidence and nothing else. -/
theorem reject_eq (code : String) (evidence : List (String × Datum)) (message s target : String) :
    reject code evidence message s target =
      { kind := Violation.standardKind
        code := code
        metadata := .ofEntries evidence
        message := some message
        target := target
        value := .string s } := by
  rw [reject, Violation.withEntries_eq]
  rfl

theorem code_reject (code : String) (evidence : List (String × Datum)) (message s target : String) :
    (reject code evidence message s target).code = code := by
  rw [reject_eq]

/-- At most so many characters, whatever name the rule has. -/
theorem value_check_maxLength_eq_none_iff {most : Nat} {name s : String} {ctx : Context} :
    (((maxLength most).withName name).check s ctx).value = none ↔ s.length ≤ most := by
  change ((maxLength most).check s ctx).value = none ↔ _
  rw [maxLength, value_check_textRule_eq_none_iff, decide_eq_true_iff]

/-- Some character is not blank. -/
theorem value_check_notEmpty_eq_none_iff {s : String} {ctx : Context} :
    (notEmpty.check s ctx).value = none ↔ ∃ c ∈ s.toList, Text.isBlank c = false := by
  rw [notEmpty, value_check_textRule_eq_none_iff, Bool.not_eq_true', ← Bool.not_eq_true,
    List.isEmpty_iff, Text.trim_eq_nil_iff]
  simp

theorem value_check_nonEmptyKey_eq_none_iff {s : String} {ctx : Context} :
    (nonEmptyKey.check s ctx).value = none ↔ ∃ c ∈ s.toList, Text.isBlank c = false :=
  value_check_notEmpty_eq_none_iff

theorem value_check_noWhitespace_eq_none_iff {s : String} {ctx : Context} :
    (noWhitespace.check s ctx).value = none ↔ ∀ c ∈ s.toList, Text.isBlank c = false := by
  rw [noWhitespace, value_check_textRule_eq_none_iff]
  simp

theorem value_check_alpha_eq_none_iff {s : String} {ctx : Context} :
    (alpha.check s ctx).value = none ↔ ∀ c ∈ s.toList, Text.isLetter c = true := by
  rw [alpha, value_check_textRule_eq_none_iff, List.all_eq_true]

theorem value_check_alphanumeric_eq_none_iff {s : String} {ctx : Context} :
    (alphanumeric.check s ctx).value = none ↔ ∀ c ∈ s.toList, Text.isAlphanumeric c = true := by
  rw [alphanumeric, value_check_textRule_eq_none_iff, List.all_eq_true]

/-- Some part of the text matches, whatever name the rule has. -/
theorem value_check_matching_eq_none_iff {source name s : String} {regex : Pattern.Regex}
    {ctx : Context} :
    (((matching source regex).withName name).check s ctx).value = none ↔
      Pattern.Occurs regex s.toList := by
  change ((matching source regex).check s ctx).value = none ↔ _
  rw [matching, value_check_textRule_eq_none_iff, Pattern.occurs_iff]

section Findings

variable {name s : String} {ctx : Context} {v : Violation}

/-- A text that is too long is reported with the limit and its own length. -/
theorem value_check_maxLength_eq_some_iff {most : Nat} :
    (((maxLength most).withName name).check s ctx).value = some v ↔
      most < s.length ∧ v = reject "max-length"
        [("max", .ofNat most), ("actual", .ofNat s.length)]
        ("must be at most " ++ toString most ++ " characters, got " ++ toString s.length)
        s ctx.target := by
  change ((maxLength most).check s ctx).value = some v ↔ _
  rw [maxLength, value_check_textRule_eq_some_iff, decide_eq_false_iff_not, Nat.not_le]

/-- A text is reported as empty exactly if all of it is blank. -/
theorem value_check_notEmpty_eq_some_iff :
    (notEmpty.check s ctx).value = some v ↔
      (∀ c ∈ s.toList, Text.isBlank c = true) ∧
        v = reject "not-empty" [] "must not be empty" s ctx.target := by
  rw [notEmpty, value_check_textRule_eq_some_iff, Bool.not_eq_false', List.isEmpty_iff,
    Text.trim_eq_nil_iff]

theorem value_check_nonEmptyKey_eq_some_iff :
    (nonEmptyKey.check s ctx).value = some v ↔
      (∀ c ∈ s.toList, Text.isBlank c = true) ∧
        v = reject "not-empty" [] "must not be empty" s ctx.target :=
  value_check_notEmpty_eq_some_iff

/-- A text that matches nowhere is reported with the pattern. -/
theorem value_check_matching_eq_some_iff {source : String} {regex : Pattern.Regex} :
    (((matching source regex).withName name).check s ctx).value = some v ↔
      ¬Pattern.Occurs regex s.toList ∧
        v = reject "pattern-mismatch" [("pattern", .string source)]
          "does not match required pattern" s ctx.target := by
  change ((matching source regex).check s ctx).value = some v ↔ _
  rw [matching, value_check_textRule_eq_some_iff, ← Bool.not_eq_true, Pattern.occurs_iff]

end Findings

end Rules

end StoreGuard
