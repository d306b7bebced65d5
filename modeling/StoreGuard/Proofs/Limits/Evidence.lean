import StoreGuard.Proofs.Dictionary
import StoreGuard.Proofs.Limits.Report

namespace StoreGuard.Limits

def reportCodes : List String :=
  ["not-empty", "max-length", "pattern-mismatch", "value-too-large"]

/-- What can be wrong with an entry under the limits, and the violation that says so. -/
inductive Breaks (l : Limits) (key : String) (value : ByteArray) : Violation → Prop where
  | blank (h : ∀ c ∈ key.toList, Text.isBlank c = true) :
    Breaks l key value {
      kind := "validation"
      code := "not-empty"
      metadata := .ofEntries []
      message := some "must not be empty"
      target := "key"
      value := .string key }
  | long (h : l.maxKeyLength.toNat < key.length) :
    Breaks l key value {
      kind := "validation"
      code := "max-length"
      metadata := .ofEntries
        [("max", .ofNat l.maxKeyLength.toNat), ("actual", .ofNat key.length)]
      message := some ("must be at most " ++ toString l.maxKeyLength.toNat ++
        " characters, got " ++ toString key.length)
      target := "key"
      value := .string key }
  | mismatch {source : String} {regex : Pattern.Regex} (hsource : l.keyPattern = some source)
    (hparse : Pattern.parse source = .ok regex) (h : ¬Pattern.Occurs regex key.toList) :
    Breaks l key value {
      kind := "validation"
      code := "pattern-mismatch"
      metadata := .ofEntries [("pattern", .string source)]
      message := some "does not match required pattern"
      target := "key"
      value := .string key }
  | large (h : l.maxValueSize.toNat < value.size) :
    Breaks l key value {
      kind := "validation"
      code := "value-too-large"
      metadata := .ofEntries [("max-size", .ofNat l.maxValueSize.toNat),
        ("actual-size", .ofNat value.size), ("key", .string key)]
      message := some ("value too large: maximum " ++ toString l.maxValueSize.toNat ++
        " bytes, got " ++ toString value.size)
      target := "value"
      value := .ofNat value.size }

/-- The limit and the number found that a violation of a length or a size records. -/
def Records (v : Violation) (limit found : Int) : Prop :=
  v.metadata.get? "max" = some (.int limit) ∧ v.metadata.get? "actual" = some (.int found) ∨
  v.metadata.get? "max-size" = some (.int limit) ∧
    v.metadata.get? "actual-size" = some (.int found)

section Found

variable {l : Limits} {g : Guard} {key : String} {value : ByteArray} {v : Violation}

theorem mem_keyViolations_iff (h : l.guard = .ok g) :
    v ∈ g.keys.violations key ↔
      ((∀ c ∈ key.toList, Text.isBlank c = true) ∧
        v = Rules.reject "not-empty" [] "must not be empty" key KeyGuard.keyTarget) ∨
      (l.maxKeyLength.toNat < key.length ∧
        v = Rules.reject "max-length"
          [("max", .ofNat l.maxKeyLength.toNat), ("actual", .ofNat key.length)]
          ("must be at most " ++ toString l.maxKeyLength.toNat ++ " characters, got " ++
            toString key.length) key KeyGuard.keyTarget) ∨
      ∃ source regex, l.keyPattern = some source ∧ Pattern.parse source = .ok regex ∧
        ¬Pattern.Occurs regex key.toList ∧
        v = Rules.reject "pattern-mismatch" [("pattern", .string source)]
          "does not match required pattern" key KeyGuard.keyTarget := by
  obtain ⟨rules, hrules, hkeys⟩ := keyRules_of_guard h
  have hmem : v ∈ g.keys.violations key ↔
      ∃ r ∈ [Rules.nonEmptyKey, Rules.keyLength l.maxKeyLength.toNat] ++ rules,
        (r.check key (Context.ofTarget KeyGuard.keyTarget)).value = some v := by
    rw [hkeys]
    exact mem_findings
  rw [hmem, List.cons_append, List.cons_append, List.nil_append, List.exists_mem_cons_iff,
    List.exists_mem_cons_iff, Rules.value_check_nonEmptyKey_eq_some_iff, Rules.keyLength,
    Rules.value_check_maxLength_eq_some_iff]
  refine or_congr Iff.rfl (or_congr Iff.rfl ?_)
  rcases patternRules_cases hrules with ⟨hnone, rfl⟩ | ⟨source, regex, hsome, hparse, rfl⟩
  · simp [hnone]
  · simp [hsome, hparse, Rules.value_check_matching_eq_some_iff, Context.ofTarget]

/-- Every rule finds what it is there for, and none keeps another from finding its own. -/
theorem mem_violations_put_iff (h : l.guard = .ok g) :
    v ∈ g.violations (.put key value) ↔ l.Breaks key value v := by
  have hvalue : v ∈ g.values.violations ⟨key, value⟩ ↔
      ((Rules.valueSize l.maxValueSize.toNat).check ⟨key, value⟩
        (ValueGuard.contextOf key)).value = some v := by
    rw [(keyGuard_of_guard h).2.1]
    refine mem_findings.trans ?_
    simp [valueGuard, ValueGuard.ofRules, Chain.ofRules]
  rw [Guard.violations_put, List.mem_append, mem_keyViolations_iff h, hvalue,
    Rules.value_check_valueSize_eq_some_iff]
  simp only [Rules.reject_eq]
  constructor
  · rintro ((⟨hblank, rfl⟩ | ⟨hlong, rfl⟩ | ⟨source, regex, hsource, hparse, hnot, rfl⟩) |
      ⟨hlarge, rfl⟩)
    · exact .blank hblank
    · exact .long hlong
    · exact .mismatch hsource hparse hnot
    · exact .large hlarge
  · intro hbreaks
    cases hbreaks with
    | blank hblank => exact Or.inl (Or.inl ⟨hblank, rfl⟩)
    | long hlong => exact Or.inl (Or.inr (Or.inl ⟨hlong, rfl⟩))
    | mismatch hsource hparse hnot =>
      exact Or.inl (Or.inr (Or.inr ⟨_, _, hsource, hparse, hnot, rfl⟩))
    | large hlarge => exact Or.inr ⟨hlarge, rfl⟩

theorem map_code_keyViolations_sublist (h : l.guard = .ok g) :
    ((g.keys.violations key).map Violation.code).Sublist
      ["not-empty", "max-length", "pattern-mismatch"] := by
  obtain ⟨rules, hrules, hkeys⟩ := keyRules_of_guard h
  let ctx : Context := .ofTarget KeyGuard.keyTarget
  have hpattern : ∃ codes : List String, codes.Sublist ["pattern-mismatch"] ∧
      List.Forall₂ (fun r code => ∀ v ∈ (r.check key ctx).value, v.code = code) rules codes := by
    rcases patternRules_cases hrules with ⟨-, rfl⟩ | ⟨source, regex, -, -, rfl⟩
    · exact ⟨[], List.nil_sublist _, .nil⟩
    · refine ⟨_, List.Sublist.refl _, .cons (fun v hv => ?_) .nil⟩
      rw [(Rules.value_check_matching_eq_some_iff.1 hv).2, Rules.code_reject]
  obtain ⟨codes, hcodes, hfound⟩ := hpattern
  have hall : List.Forall₂ (fun r code => ∀ v ∈ (r.check key ctx).value, v.code = code)
      (Rules.nonEmptyKey :: Rules.keyLength l.maxKeyLength.toNat :: rules)
      ("not-empty" :: "max-length" :: codes) := by
    refine .cons (fun v hv => ?_) (.cons (fun v hv => ?_) hfound)
    · rw [(Rules.value_check_nonEmptyKey_eq_some_iff.1 hv).2, Rules.code_reject]
    · rw [(Rules.value_check_maxLength_eq_some_iff.1 hv).2, Rules.code_reject]
  rw [hkeys]
  exact (map_code_findings_sublist hall).trans ((hcodes.cons_cons _).cons_cons _)

theorem map_code_violations_put_sublist (h : l.guard = .ok g) :
    ((g.violations (.put key value)).map Violation.code).Sublist reportCodes := by
  have hvalues : ((g.values.violations ⟨key, value⟩).map Violation.code).Sublist
      ["value-too-large"] := by
    rw [(keyGuard_of_guard h).2.1]
    refine map_code_findings_sublist (.cons (fun v hv => ?_) .nil)
    exact Rules.code_of_check_valueSize hv
  rw [Guard.violations_put, List.map_append]
  exact (map_code_keyViolations_sublist h).append hvalues

/-- Only lengths and sizes record a limit, and only where it is exceeded. -/
theorem Breaks.lt_of_records (hbreaks : l.Breaks key value v) {limit found : Int}
    (hrecords : Records v limit found) : limit < found := by
  cases hbreaks with
  | blank => simp [Records, Dictionary.get?_ofEntries] at hrecords
  | long hlong =>
    have hnumbers : (l.maxKeyLength.toNat : Int) = limit ∧ (key.length : Int) = found := by
      simpa [Records, Dictionary.get?_ofEntries, lookup_cons_ite, Datum.ofNat] using hrecords
    omega
  | mismatch => simp [Records, Dictionary.get?_ofEntries, lookup_cons_ite] at hrecords
  | large hlarge =>
    have hnumbers : (l.maxValueSize.toNat : Int) = limit ∧ (value.size : Int) = found := by
      simpa [Records, Dictionary.get?_ofEntries, lookup_cons_ite, Datum.ofNat] using hrecords
    omega

end Found

/-- The report on an entry holds what is wrong with it and nothing else: at most one violation of
each kind, in the order of the rules, with its own evidence. A number that is recorded beside a
limit is greater than the limit. -/
theorem report_holds_what_is_broken (l : Limits) (hl : l.Compiles) (key : String)
    (value : ByteArray) :
    ∃ report, l.checkEntry ⟨key, value⟩ = .ok report ∧ report.size ≤ 4 ∧
      (report.violations.map Violation.code).Sublist
        ["not-empty", "max-length", "pattern-mismatch", "value-too-large"] ∧
      (∀ v, v ∈ report.violations ↔ l.Breaks key value v) ∧
      ∀ v ∈ report.violations, ∀ limit found, Records v limit found → limit < found := by
  obtain ⟨g, hg⟩ := hl.exists_guard
  have hcodes : ((g.violations (.put key value)).map Violation.code).Sublist reportCodes :=
    map_code_violations_put_sublist hg
  refine ⟨_, checkEntry_of_guard hg key value, ?_, hcodes, fun v => mem_violations_put_iff hg,
    fun v hv limit found hrecords => ?_⟩
  · have hlength := hcodes.length_le
    rwa [List.length_map] at hlength
  · exact ((mem_violations_put_iff hg).1 hv).lt_of_records hrecords

/-- A blank key that is too long and does not match, and a value that is too large. -/
theorem report_holds_what_is_broken_all :
    let l : Limits := ⟨2, 3, some "[a-z]", false⟩
    let value := "four".toUTF8
    l.Compiles ∧ ∃ report, l.checkEntry ⟨" \t ", value⟩ = .ok report ∧
      report.violations.map Violation.code = reportCodes ∧
      ∃ v ∈ report.violations, v.code = "max-length" ∧ Records v 2 3 := by
  intro l value
  have hl : l.Compiles := by decide +kernel
  have hcodes : (l.checkEntry ⟨" \t ", value⟩).toOption.map
      (fun report => report.violations.map Violation.code) = some reportCodes := by
    decide +kernel
  obtain ⟨report, hreport, -, -, hmem, -⟩ := report_holds_what_is_broken l hl " \t " value
  rw [hreport] at hcodes
  have hlength : " \t ".length = 3 := by decide
  have hlong : l.maxKeyLength.toNat < " \t ".length := by decide
  refine ⟨hl, report, hreport, Option.some.inj hcodes, _, (hmem _).2 (.long hlong), rfl, ?_⟩
  rw [Records, Dictionary.get?_ofEntries, Dictionary.get?_ofEntries, hlength]
  exact Or.inl ⟨rfl, rfl⟩

end StoreGuard.Limits
