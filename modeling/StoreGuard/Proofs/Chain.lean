import Mathlib.Data.List.Forall2
import StoreGuard.Chain

namespace StoreGuard

variable {α : Type}

/-- What the rules find, in the order in which they stand. -/
def findings (rules : List (Rule α)) (value : α) (ctx : Context) : List Violation :=
  rules.filterMap fun r => (r.check value ctx).value

theorem findings_cons (r : Rule α) (rules : List (Rule α)) (value : α) (ctx : Context) :
    findings (r :: rules) value ctx =
      (r.check value ctx).value.toList ++ findings rules value ctx := by
  unfold findings
  rw [List.filterMap_cons]
  cases (r.check value ctx).value <;> rfl

theorem findings_eq_nil_iff {rules : List (Rule α)} {value : α} {ctx : Context} :
    findings rules value ctx = [] ↔ ∀ r ∈ rules, (r.check value ctx).value = none :=
  List.filterMap_eq_nil_iff

theorem mem_findings {rules : List (Rule α)} {value : α} {ctx : Context} {v : Violation} :
    v ∈ findings rules value ctx ↔ ∃ r ∈ rules, (r.check value ctx).value = some v :=
  List.mem_filterMap

/-- Each rule adds a violation with its own code or nothing, so the codes keep the order of the
rules. -/
theorem map_code_findings_sublist {rules : List (Rule α)} {codes : List String} {value : α}
    {ctx : Context}
    (h : List.Forall₂ (fun r code => ∀ v ∈ (r.check value ctx).value, v.code = code) rules codes) :
    ((findings rules value ctx).map Violation.code).Sublist codes := by
  induction h with
  | nil => exact List.Sublist.refl []
  | @cons r code rules codes hr hrules ih =>
    rw [findings_cons]
    cases hcheck : (r.check value ctx).value with
    | none => exact ih.cons code
    | some v =>
      rw [Option.toList_some, List.singleton_append, List.map_cons, hr v hcheck]
      exact ih.cons_cons code

theorem value_allViolations (rules : List (Rule α)) (value : α) (ctx : Context) :
    (allViolations value ctx rules).value = findings rules value ctx := by
  induction rules with
  | nil => rfl
  | cons r rules ih =>
    rw [findings_cons, ← ih]
    rfl

theorem value_firstViolation (rules : List (Rule α)) (value : α) (ctx : Context) :
    (firstViolation value ctx rules).value = (findings rules value ctx).head? := by
  induction rules with
  | nil => rfl
  | cons r rules ih =>
    rw [findings_cons, firstViolation, Traced.value_bind]
    cases (r.check value ctx).value with
    | none => exact ih
    | some v => rfl

theorem marks_allViolations (rules : List (Rule α)) (value : α) (ctx : Context) :
    (allViolations value ctx rules).marks = rules.flatMap fun r => (r.check value ctx).marks := by
  induction rules with
  | nil => rfl
  | cons r rules ih => simp [allViolations, ih]

/-- Rules that find nothing are all run, and the run goes on behind them. -/
theorem marks_firstViolation_append {rules : List (Rule α)} {value : α} {ctx : Context}
    (h : findings rules value ctx = []) (rest : List (Rule α)) :
    (firstViolation value ctx (rules ++ rest)).marks =
      (rules.flatMap fun r => (r.check value ctx).marks) ++
        (firstViolation value ctx rest).marks := by
  induction rules with
  | nil => rfl
  | cons r rules ih =>
    have hall := findings_eq_nil_iff.1 h
    have hr := hall r List.mem_cons_self
    have hrules := findings_eq_nil_iff.2 fun q hq => hall q (List.mem_cons_of_mem _ hq)
    rw [List.cons_append, firstViolation, Traced.marks_bind, hr, ih hrules, List.flatMap_cons,
      List.append_assoc]

theorem marks_firstViolation_cons {r : Rule α} {value : α} {ctx : Context} {v : Violation}
    (h : (r.check value ctx).value = some v) (rest : List (Rule α)) :
    (firstViolation value ctx (r :: rest)).marks = (r.check value ctx).marks := by
  rw [firstViolation, Traced.marks_bind, h]
  exact List.append_nil _

/-- The first violation is found by some rule, and by none that stands before it. -/
theorem exists_of_head?_findings {rules : List (Rule α)} {value : α} {ctx : Context}
    {v : Violation} (h : (findings rules value ctx).head? = some v) :
    ∃ before r after, rules = before ++ r :: after ∧ findings before value ctx = [] ∧
      (r.check value ctx).value = some v := by
  rw [findings, List.head?_filterMap] at h
  obtain ⟨before, r, after, hrules, hr, hbefore⟩ := List.findSome?_eq_some_iff.1 h
  exact ⟨before, r, after, hrules, findings_eq_nil_iff.2 hbefore, hr⟩

namespace Chain

theorem value_validate (c : Chain α) (value : α) (ctx : Context) :
    (c.validate value ctx).value = ⟨findings c.rules value ctx⟩ :=
  congrArg Verdict.mk (value_allViolations ..)

theorem value_validateFirst (c : Chain α) (value : α) (ctx : Context) :
    (c.validateFirst value ctx).value = (findings c.rules value ctx).head? :=
  value_firstViolation ..

theorem marks_validate (c : Chain α) (value : α) (ctx : Context) :
    (c.validate value ctx).marks = c.rules.flatMap fun r => (r.check value ctx).marks := by
  rw [validate, Traced.marks_bind, Traced.marks_pure, List.append_nil, marks_allViolations]

end Chain

end StoreGuard
