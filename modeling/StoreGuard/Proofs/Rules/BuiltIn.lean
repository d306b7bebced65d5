import StoreGuard.Proofs.Basic
import StoreGuard.Proofs.Rules.Text
import StoreGuard.Proofs.Store.Guard

namespace StoreGuard

def Violation.withTarget (v : Violation) (target : String) : Violation := { v with target }

theorem Violation.map_withTarget_map_withTarget (vs : List Violation) (first second : String) :
    (vs.map fun v => v.withTarget first).map (fun v => v.withTarget second) =
      vs.map fun v => v.withTarget second := by
  rw [List.map_map]
  rfl

section Targets

variable {α : Type}

/-- From what is found in one context it follows what is found in any other: the same, under the
target of that context. -/
def Rule.TargetOnly (r : Rule α) : Prop := ∀ value a b,
  (r.check value b).value = (r.check value a).value.map fun v => v.withTarget b.target

theorem Rule.TargetOnly.withName {r : Rule α} (h : r.TargetOnly) (name : String) :
    (r.withName name).TargetOnly :=
  h

theorem Conditional.targetOnly_toRule {c : Conditional α}
    (hcondition : ∀ value a b, c.condition value a = c.condition value b)
    (h : c.rule.TargetOnly) : c.toRule.TargetOnly := by
  intro value a b
  change (c.check value b).value = (c.check value a).value.map _
  unfold Conditional.check
  rw [hcondition value b a]
  split_ifs with hholds
  · exact h value a b
  · rfl

theorem findings_targetOnly {rules : List (Rule α)} (h : ∀ r ∈ rules, r.TargetOnly) (value : α)
    (a b : Context) :
    findings rules value b = (findings rules value a).map fun v => v.withTarget b.target := by
  induction rules with
  | nil => rfl
  | cons r rules ih =>
    obtain ⟨hr, hrules⟩ := List.forall_mem_cons.1 h
    rw [findings_cons, findings_cons, List.map_append, ← ih hrules, hr value a b]
    cases (r.check value a).value <;> rfl

theorem KeyGuard.violations_withTarget {g : KeyGuard} (h : ∀ r ∈ g.chain.rules, r.TargetOnly)
    (target key : String) :
    (g.withTarget target).violations key =
      (g.violations key).map fun v => v.withTarget target :=
  findings_targetOnly h ..

/-- Reports from two contexts that are of the same length and the same violation by violation once
the targets are overwritten, each violation with the target of its own context. -/
structure SameButTarget (a b : Context) (left right : List Violation) : Prop where
  length_eq : left.length = right.length
  overwritten : ∀ target, left.map (fun v => v.withTarget target) =
    right.map fun v => v.withTarget target
  left_target : ∀ v ∈ left, v.target = a.target
  right_target : ∀ v ∈ right, v.target = b.target

theorem SameButTarget.of_map {a b : Context} {left right : List Violation} (found : List Violation)
    (hleft : left = found.map fun v => v.withTarget a.target)
    (hright : right = found.map fun v => v.withTarget b.target) :
    SameButTarget a b left right := by
  subst hleft hright
  refine ⟨?_, fun target => ?_, fun v hv => ?_, fun v hv => ?_⟩
  · rw [List.length_map, List.length_map]
  · rw [Violation.map_withTarget_map_withTarget, Violation.map_withTarget_map_withTarget]
  · obtain ⟨w, -, rfl⟩ := List.mem_map.1 hv
    rfl
  · obtain ⟨w, -, rfl⟩ := List.mem_map.1 hv
    rfl

end Targets

namespace Rules

/-- A built-in rule about texts, perhaps under another name and under conditions that depend on the
text alone. -/
inductive BuiltIn : Rule String → Prop where
  | notEmpty : BuiltIn notEmpty
  | length (least most : Nat) : BuiltIn (length least most)
  | minLength (least : Nat) : BuiltIn (minLength least)
  | maxLength (most : Nat) : BuiltIn (maxLength most)
  | pattern {source : String} {r : Rule String} (h : pattern source = .ok r) : BuiltIn r
  | email : BuiltIn email
  | url : BuiltIn url
  | oneOf (allowed : List String) : BuiltIn (oneOf allowed)
  | noWhitespace : BuiltIn noWhitespace
  | alpha : BuiltIn alpha
  | alphanumeric : BuiltIn alphanumeric
  | custom (accepts : String → Bool) (message : String) : BuiltIn (custom accepts message)
  | nonEmptyKey : BuiltIn nonEmptyKey
  | keyLength (most : Nat) : BuiltIn (keyLength most)
  | keyPattern {source : String} {r : Rule String} (h : keyPattern source = .ok r) : BuiltIn r
  | renamed {r : Rule String} (name : String) (h : BuiltIn r) : BuiltIn (r.withName name)
  | conditional {c : Conditional String}
    (hcondition : ∀ text a b, c.condition text a = c.condition text b) (h : BuiltIn c.rule) :
    BuiltIn c.toRule

theorem targetOnly_textRule {name code : String} {accepts : String → Bool}
    {evidence : String → List (String × Datum)} {message : String → String} :
    (textRule name code accepts evidence message).TargetOnly := by
  intro text a b
  rw [value_check_textRule, value_check_textRule]
  split_ifs with haccepts
  · rfl
  · rw [Option.map_some, reject_eq, reject_eq]
    rfl

theorem targetOnly_of_pattern {source : String} {r : Rule String} (h : pattern source = .ok r) :
    r.TargetOnly := by
  obtain ⟨regex, -, rfl⟩ := exists_ok_of_map h
  exact targetOnly_textRule

theorem BuiltIn.targetOnly {r : Rule String} (h : BuiltIn r) : r.TargetOnly := by
  induction h with
  | notEmpty | length | minLength | maxLength | email | url | oneOf | noWhitespace | alpha
  | alphanumeric | custom | nonEmptyKey | keyLength => exact targetOnly_textRule
  | pattern h => exact targetOnly_of_pattern h
  | keyPattern h =>
    obtain ⟨r, hr, rfl⟩ := exists_ok_of_map h
    exact (targetOnly_of_pattern hr).withName _
  | renamed name h ih => exact ih.withName name
  | conditional hcondition h ih => exact Conditional.targetOnly_toRule hcondition ih

/-- Run on one text in two contexts, a chain of built-in rules reports the same in full and the same
first, but for the targets, and whatever else the contexts hold makes no difference. So a guard of
keys accepts the same keys under every target. -/
theorem reports_differ_in_target_only (c : Chain String) (hc : ∀ r ∈ c.rules, BuiltIn r)
    (text : String) :
    (∀ a b : Context,
      SameButTarget a b (c.validate text a).value.violations
          (c.validate text b).value.violations ∧
        SameButTarget a b (c.validateFirst text a).value.toList
          (c.validateFirst text b).value.toList) ∧
    (∀ a b : Context, a.target = b.target →
      (c.validate text a).value = (c.validate text b).value ∧
        (c.validateFirst text a).value = (c.validateFirst text b).value) ∧
    ∀ (g : KeyGuard) (target : String), g.chain = c →
      (((g.withTarget target).check text).value = none ↔ (g.check text).value = none) ∧
        ((g.withTarget target).checkAll text).value.isEmpty = (g.checkAll text).value.isEmpty := by
  have hrules : ∀ r ∈ c.rules, r.TargetOnly := fun r hr => (hc r hr).targetOnly
  have hreport (a b : Context) : findings c.rules text b =
      (findings c.rules text a).map fun v => v.withTarget b.target :=
    findings_targetOnly hrules text a b
  refine ⟨fun a b => ⟨?_, ?_⟩, fun a b hab => ?_, fun g target hg => ?_⟩
  · rw [Chain.value_validate, Chain.value_validate]
    exact .of_map _ (hreport a a) (hreport a b)
  · rw [Chain.value_validateFirst, Chain.value_validateFirst]
    apply SameButTarget.of_map (findings c.rules text a).head?.toList
    · rw [← Option.toList_map, ← List.head?_map, ← hreport a a]
    · rw [← Option.toList_map, ← List.head?_map, ← hreport a b]
  · have hsame : findings c.rules text a = findings c.rules text b := by
      rw [hreport a b, ← hab, ← hreport a a]
    rw [Chain.value_validate, Chain.value_validate, Chain.value_validateFirst,
      Chain.value_validateFirst, hsame]
    exact ⟨rfl, rfl⟩
  · subst hg
    have hviolations := KeyGuard.violations_withTarget hrules target text
    constructor
    · rw [KeyGuard.value_check, KeyGuard.value_check, hviolations, List.head?_eq_none_iff,
        List.head?_eq_none_iff, List.map_eq_nil_iff]
    · rw [KeyGuard.value_checkAll, KeyGuard.value_checkAll, hviolations]
      exact List.isEmpty_map

/-- Two rules under other names and one under two conditions, for a key that is too short, too long
and not all letters. -/
theorem reports_differ_in_target_only_conditions :
    let inner : Conditional String := ⟨fun text _ => text.length < 5, alpha.withName "letters"⟩
    let outer : Conditional String := ⟨fun text _ => text ≠ "", inner.toRule⟩
    let c := Chain.ofRules [(minLength 4).withName "short", keyLength 2, outer.toRule]
    let a := Context.ofTarget "key"
    let b := (Context.ofTarget "prefix").withMetadata "target" (.string "key")
    (∀ r ∈ c.rules, BuiltIn r) ∧
      (c.validate "é12" b).value.violations.map (fun v => (v.code, v.target)) =
        [("min-length", "prefix"), ("max-length", "prefix"), ("not-alpha", "prefix")] ∧
      SameButTarget a b (c.validate "é12" a).value.violations
        (c.validate "é12" b).value.violations := by
  intro inner outer c a b
  have hinner : BuiltIn inner.toRule :=
    .conditional (fun _ _ _ => rfl) (.renamed "letters" .alpha)
  have hc : ∀ r ∈ c.rules, BuiltIn r := by
    intro r hr
    simp only [c, Chain.ofRules, List.mem_cons, List.not_mem_nil, or_false] at hr
    obtain rfl | rfl | rfl := hr
    · exact .renamed "short" (.minLength 4)
    · exact .keyLength 2
    · exact .conditional (fun _ _ _ => rfl) hinner
  exact ⟨hc, by decide +kernel, ((reports_differ_in_target_only c hc "é12").1 a b).1⟩

end Rules

end StoreGuard
