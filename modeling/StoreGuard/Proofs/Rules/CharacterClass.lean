import StoreGuard.Proofs.Rules.Text
import StoreGuard.Proofs.Unicode.CodeSet

namespace StoreGuard.Rules

open Text Unicode

theorem blank_apart_letter : CodeSet.Apart blankRanges letterRanges := by
  decide +kernel

theorem blank_apart_numeral : CodeSet.Apart blankRanges numeralRanges := by
  decide +kernel

theorem isBlank_of_isAlphanumeric {c : Char} (h : isAlphanumeric c = true) : isBlank c = false := by
  apply Bool.eq_false_iff.2
  intro hblank
  have hletter : isLetter c = false := blank_apart_letter.holds_eq_false hblank
  have hnumeral : isNumeral c = false := blank_apart_numeral.holds_eq_false hblank
  rw [isAlphanumeric, hletter, hnumeral] at h
  cases h

section Texts

variable {s : String} {ctx : Context}

theorem alphanumeric_of_alpha (h : (alpha.check s ctx).value = none) :
    (alphanumeric.check s ctx).value = none := by
  rw [value_check_alphanumeric_eq_none_iff]
  intro c hc
  rw [isAlphanumeric, value_check_alpha_eq_none_iff.1 h c hc, Bool.true_or]

theorem noWhitespace_of_alphanumeric (h : (alphanumeric.check s ctx).value = none) :
    (noWhitespace.check s ctx).value = none := by
  rw [value_check_noWhitespace_eq_none_iff]
  intro c hc
  exact isBlank_of_isAlphanumeric (value_check_alphanumeric_eq_none_iff.1 h c hc)

/-- The first character of such a text is not blank. -/
theorem notEmpty_of_noWhitespace (hs : s ≠ "") (h : (noWhitespace.check s ctx).value = none) :
    (notEmpty.check s ctx).value = none := by
  have hne : s.toList ≠ [] := fun hnil => hs (String.toList_eq_nil_iff.1 hnil)
  obtain ⟨c, rest, hcons⟩ := List.exists_cons_of_ne_nil hne
  have hc : c ∈ s.toList := by
    rw [hcons]
    exact List.mem_cons_self
  rw [value_check_notEmpty_eq_none_iff]
  exact ⟨c, hc, value_check_noWhitespace_eq_none_iff.1 h c hc⟩

end Texts

/-- Each of the rules for letters, for letters and numerals and against blanks accepts what the one
before it does. What the last of them accepts is empty or passes the rule against empty texts, which
rejects a text exactly if all of it is blank; so under any of the three a key is not empty. -/
theorem class_rules_widen (s : String) (ctx : Context) :
    ((alpha.check s ctx).value = none → (alphanumeric.check s ctx).value = none) ∧
    ((alphanumeric.check s ctx).value = none → (noWhitespace.check s ctx).value = none) ∧
    (s ≠ "" → (noWhitespace.check s ctx).value = none → (notEmpty.check s ctx).value = none) ∧
    ((∃ v, (notEmpty.check s ctx).value = some v) ↔ ∀ c ∈ s.toList, isBlank c = true) ∧
    ∀ r ∈ [alpha, alphanumeric, noWhitespace], s ≠ "" → (r.check s ctx).value = none →
      (nonEmptyKey.check s ctx).value = none := by
  refine ⟨alphanumeric_of_alpha, noWhitespace_of_alphanumeric, notEmpty_of_noWhitespace, ?_, ?_⟩
  · simp only [value_check_notEmpty_eq_some_iff, exists_and_left, exists_eq, and_true]
  · intro r hr hs h
    have hblank : (noWhitespace.check s ctx).value = none := by
      simp only [List.mem_cons, List.not_mem_nil, or_false] at hr
      obtain rfl | rfl | rfl := hr
      · exact noWhitespace_of_alphanumeric (alphanumeric_of_alpha h)
      · exact noWhitespace_of_alphanumeric h
      · exact h
    exact notEmpty_of_noWhitespace hs hblank

/-- Letters from two scripts, and three blanks of different kinds. -/
theorem class_rules_widen_scripts :
    ("né語" ≠ "" ∧ (alpha.check "né語" default).value = none ∧
      (alphanumeric.check "né語" default).value = none ∧
      (noWhitespace.check "né語" default).value = none ∧
      (notEmpty.check "né語" default).value = none ∧
      (nonEmptyKey.check "né語" default).value = none) ∧
    ∃ v, (notEmpty.check "\t\u2003 " default).value = some v := by
  obtain ⟨hnumerals, hblanks, hempty, -, hkey⟩ := class_rules_widen "né語" default
  obtain ⟨-, -, -, hrejected, -⟩ := class_rules_widen "\t\u2003 " default
  have hne : "né語" ≠ "" := by decide
  have hletters : "né語".toList.all isLetter = true := by decide +kernel
  have hallBlank : "\t\u2003 ".toList.all isBlank = true := by decide +kernel
  have halpha : (alpha.check "né語" default).value = none :=
    value_check_alpha_eq_none_iff.2 (List.all_eq_true.1 hletters)
  have hnone : (noWhitespace.check "né語" default).value = none := hblanks (hnumerals halpha)
  exact ⟨⟨hne, halpha, hnumerals halpha, hnone, hempty hne hnone,
    hkey alpha List.mem_cons_self hne halpha⟩, hrejected.2 (List.all_eq_true.1 hallBlank)⟩

end StoreGuard.Rules
