import StoreGuard.Proofs.Store.Stack

namespace StoreGuard

variable {σ : Type}

structure Logged (σ : Type) where
  state : σ
  log : List Request

/-- The store that logs every request, also those that fail. -/
def Store.logged (s : Store σ) : Store (Logged σ) := fun r c => do
  let (outcome, state) ← s r c.state
  pure (outcome, ⟨state, c.log ++ [r]⟩)

structure RuleSet where
  keys : Chain String
  values : List (Rule Entry)
  prefixes : Option (Chain String)

namespace RuleSet

def guard (rs : RuleSet) (keyTarget prefixTarget : String) : Guard where
  keys := (KeyGuard.ofChain rs.keys).withTarget keyTarget
  values := .ofRules rs.values
  prefixes := rs.prefixes.map fun c => (KeyGuard.ofChain c).withTarget prefixTarget

/-- The rules of both; rules for prefixes that one of them lacks count as none. -/
def append (a b : RuleSet) : RuleSet where
  keys := a.keys.extend b.keys.rules
  values := a.values ++ b.values
  prefixes := a.prefixes.merge (fun c d => c.extend d.rules) b.prefixes

instance : Append RuleSet := ⟨append⟩

end RuleSet

/-- Two guards in a row that give keys the same name in violations, and prefixes the same name. -/
structure Nested where
  outerRules : RuleSet
  innerRules : RuleSet
  keyTarget : String
  prefixTarget : String

namespace Nested

variable (n : Nested)

def outer : Guard := n.outerRules.guard n.keyTarget n.prefixTarget

def inner : Guard := n.innerRules.guard n.keyTarget n.prefixTarget

def stack : Stack := [.guard n.outer, .guard n.inner]

def fused : Guard := (n.outerRules ++ n.innerRules).guard n.keyTarget n.prefixTarget

theorem violations_stack (r : Request) :
    n.stack.violations r = n.outer.violations r ++ n.inner.violations r := by
  rw [stack, Stack.violations_cons, Stack.violations_cons]
  exact congrArg _ (List.append_nil _)

theorem keyViolations_fused (key : String) :
    n.fused.keys.violations key = n.outer.keys.violations key ++ n.inner.keys.violations key :=
  List.filterMap_append

theorem valueViolations_fused (e : Entry) :
    n.fused.values.violations e = n.outer.values.violations e ++ n.inner.values.violations e :=
  List.filterMap_append

theorem scanViolations_fused (start : String) :
    n.fused.violations (.scan start) =
      n.outer.violations (.scan start) ++ n.inner.violations (.scan start) := by
  simp only [Guard.violations_scan]
  obtain ⟨⟨k₁, v₁, p₁⟩, ⟨k₂, v₂, p₂⟩, keyTarget, prefixTarget⟩ := n
  cases p₁ with
  | none => cases p₂ <;> rfl
  | some c =>
    cases p₂ with
    | none => exact (List.append_nil _).symm
    | some d => exact List.filterMap_append

/-- A request other than a put is looked at by one kind of rules, of which the outer stand first. -/
theorem violations_fused {r : Request} (h : ∀ key value, r ≠ .put key value) :
    n.fused.violations r = n.stack.violations r := by
  rw [violations_stack]
  cases r with
  | get key =>
    simp only [Guard.violations_get]
    exact n.keyViolations_fused key
  | put key value => exact absurd rfl (h key value)
  | delete key =>
    simp only [Guard.violations_delete]
    exact n.keyViolations_fused key
  | scan start => exact n.scanViolations_fused start
  | close => rfl

section Put

variable (key : String) (value : ByteArray)

theorem violations_stack_put :
    n.stack.violations (.put key value) =
      n.outer.keys.violations key ++ n.outer.values.violations ⟨key, value⟩ ++
        (n.inner.keys.violations key ++ n.inner.values.violations ⟨key, value⟩) := by
  rw [violations_stack, Guard.violations_put, Guard.violations_put]

/-- Where the two guards in a row come to the outer value rules, the one guard comes to the inner
key rules. -/
theorem violations_fused_put :
    n.fused.violations (.put key value) =
      n.outer.keys.violations key ++ n.inner.keys.violations key ++
        (n.outer.values.violations ⟨key, value⟩ ++ n.inner.values.violations ⟨key, value⟩) := by
  rw [Guard.violations_put, keyViolations_fused, valueViolations_fused]

end Put

/-- The outer guard accepts the key and rejects its value, and the inner one rejects the key. -/
structure Disputed (key : String) (value : ByteArray) : Prop where
  outer_key : n.outer.keys.Accepts key
  inner_key : ¬n.inner.keys.Accepts key
  outer_value : ¬n.outer.values.Accepts ⟨key, value⟩

theorem admits_fused (r : Request) : n.fused.Admits r ↔ n.stack.Admits r := by
  rw [← Guard.violations_eq_nil_iff, ← Stack.violations_eq_nil_iff]
  by_cases hput : ∀ key value, r ≠ .put key value
  · rw [n.violations_fused hput]
  · obtain ⟨key, value, rfl⟩ : ∃ key value, r = .put key value := by simpa using hput
    rw [violations_fused_put, violations_stack_put]
    simp only [List.append_eq_nil_iff]
    exact and_and_and_comm

theorem head?_violations_put {key : String} {value : ByteArray} (h : ¬n.Disputed key value) :
    (n.fused.violations (.put key value)).head? = (n.stack.violations (.put key value)).head? := by
  rw [violations_fused_put, violations_stack_put]
  -- A violation of the outer key rules comes first on both sides, and without any of the inner key
  -- rules the order of the rest is the same.
  cases houter : n.outer.keys.violations key with
  | cons v vs => rfl
  | nil =>
    cases hinner : n.inner.keys.violations key with
    | nil => rfl
    | cons w ws =>
      cases hvalue : n.outer.values.violations ⟨key, value⟩ with
      | nil => rfl
      | cons v vs =>
        have hdisputed : n.Disputed key value :=
          { outer_key := KeyGuard.violations_eq_nil_iff.1 houter
            inner_key := mt KeyGuard.violations_eq_nil_iff.2 (by simp [hinner])
            outer_value := mt ValueGuard.violations_eq_nil_iff.2 (by simp [hvalue]) }
        exact absurd hdisputed h

theorem step_fused (s : Store σ) (r : Request) (c : σ) :
    (n.fused.protect s).step r c = answerUnless (n.fused.violations r) s r c :=
  Guard.value_protect ..

theorem step_stack (s : Store σ) (r : Request) (c : σ) :
    (n.stack.protect s).step r c = answerUnless (n.stack.violations r) s r c :=
  Stack.value_protect ..

theorem step_eq_of_head? {r : Request}
    (h : (n.fused.violations r).head? = (n.stack.violations r).head?) (s : Store σ) (c : σ) :
    (n.fused.protect s).step r c = (n.stack.protect s).step r c := by
  rw [step_fused, step_stack, answerUnless, answerUnless, h]

theorem step_eq_of_not_put {r : Request} (h : ∀ key value, r ≠ .put key value) (s : Store σ)
    (c : σ) : (n.fused.protect s).step r c = (n.stack.protect s).step r c :=
  n.step_eq_of_head? (by rw [n.violations_fused h]) s c

theorem step_eq_of_not_disputed {key : String} {value : ByteArray} (h : ¬n.Disputed key value)
    (s : Store σ) (c : σ) :
    (n.fused.protect s).step (.put key value) c = (n.stack.protect s).step (.put key value) c :=
  n.step_eq_of_head? (n.head?_violations_put h) s c

theorem step_of_admits {r : Request} (h : n.fused.Admits r) (s : Store σ) (c : σ) :
    (n.fused.protect s).step r c = s.step r c ∧ (n.stack.protect s).step r c = s.step r c := by
  have hstack := (n.admits_fused r).1 h
  rw [step_fused, Guard.violations_eq_nil_iff.2 h]
  exact ⟨rfl, Stack.value_protect_of_admits hstack s c⟩

theorem step_of_not_admits {r : Request} (h : ¬n.fused.Admits r) (s : Store σ) (c : σ) :
    ∃ v w, (n.fused.protect s).step r c = (.error (.violation v), c) ∧
      (n.stack.protect s).step r c = (.error (.violation w), c) := by
  obtain ⟨v, vs, hv⟩ := List.exists_cons_of_ne_nil (mt Guard.violations_eq_nil_iff.1 h)
  obtain ⟨w, -, hw⟩ := Stack.value_protect_of_not_admits (mt (n.admits_fused r).2 h) s c
  refine ⟨v, w, ?_, hw⟩
  rw [step_fused, hv]
  rfl

theorem Disputed.step_put {n : Nested} {key : String} {value : ByteArray}
    (h : n.Disputed key value) (s : Store σ) (c : σ) :
    ∃ v w, (n.inner.keys.violations key).head? = some v ∧
      (n.outer.values.violations ⟨key, value⟩).head? = some w ∧
      (n.fused.protect s).step (.put key value) c = (.error (.violation v), c) ∧
      (n.stack.protect s).step (.put key value) c = (.error (.violation w), c) := by
  obtain ⟨v, vs, hv⟩ :=
    List.exists_cons_of_ne_nil (mt KeyGuard.violations_eq_nil_iff.1 h.inner_key)
  obtain ⟨w, ws, hw⟩ :=
    List.exists_cons_of_ne_nil (mt ValueGuard.violations_eq_nil_iff.1 h.outer_value)
  have houter := KeyGuard.violations_eq_nil_iff.2 h.outer_key
  refine ⟨v, w, by rw [hv, List.head?_cons], by rw [hw, List.head?_cons], ?_, ?_⟩
  · rw [step_fused, violations_fused_put, houter, hv]
    rfl
  · rw [step_stack, violations_stack_put, houter, hw]
    rfl

/-- Either both pass the request on or neither does. -/
theorem state_step (s : Store σ) (r : Request) (c : σ) :
    ((n.fused.protect s).step r c).2 = ((n.stack.protect s).step r c).2 := by
  by_cases h : n.fused.Admits r
  · obtain ⟨hfused, hstack⟩ := n.step_of_admits h s c
    rw [hfused, hstack]
  · obtain ⟨v, w, hfused, hstack⟩ := n.step_of_not_admits h s c
    rw [hfused, hstack]

theorem state_runAll (s : Store σ) (rs : List Request) (c : σ) :
    (runAll (n.fused.protect s).step rs c).2 = (runAll (n.stack.protect s).step rs c).2 := by
  induction rs generalizing c with
  | nil => rfl
  | cons r rs ih => rw [runAll_cons, runAll_cons, ih, state_step]

/-- One guard with the rules of two stands for the two in a row. It answers every request but a put
as they do, passes on the puts that they pass on, and rejects the others with the same violation
unless the put is disputed. Of a disputed put the two report what is wrong with the value, and the
one what is wrong with the key. The store behind sees the same requests all along. -/
theorem fused_guard_stands_for_stack (s : Store σ) :
    let fused := (n.fused.protect s.logged).step
    let stacked := (n.stack.protect s.logged).step
    (∀ r c, (∀ key value, r ≠ .put key value) → fused r c = stacked r c) ∧
      (∀ key value c,
        let r := Request.put key value
        (n.fused.Admits r → fused r c = s.logged.step r c ∧ stacked r c = s.logged.step r c) ∧
        (¬n.fused.Admits r → ∃ v w, fused r c = (.error (.violation v), c) ∧
          stacked r c = (.error (.violation w), c)) ∧
        (¬n.Disputed key value → fused r c = stacked r c) ∧
        (n.Disputed key value → ∃ v w, (n.inner.keys.violations key).head? = some v ∧
          (n.outer.values.violations ⟨key, value⟩).head? = some w ∧
          fused r c = (.error (.violation v), c) ∧ stacked r c = (.error (.violation w), c))) ∧
      ∀ rs c, (runAll fused rs c).2 = (runAll stacked rs c).2 := by
  refine ⟨fun r c hr => n.step_eq_of_not_put hr s.logged c, fun key value c => ?_,
    n.state_runAll s.logged⟩
  exact ⟨fun h => n.step_of_admits h s.logged c, fun h => n.step_of_not_admits h s.logged c,
    fun h => n.step_eq_of_not_disputed h s.logged c, fun h => h.step_put s.logged c⟩

open Rules in
/-- Too large a value under an empty key, where the outer guard looks at values alone and the inner
one at keys. -/
example :
    let n : Nested := ⟨⟨.empty, [valueSize 0], none⟩, ⟨.ofRules [nonEmptyKey], [], none⟩, "k", "p"⟩
    let codes := fun (vs : List Violation) => vs.map Violation.code
    codes (n.stack.violations (.put "" ⟨#[0]⟩)) = [tooLargeCode, "not-empty"] ∧
      codes (n.fused.violations (.put "" ⟨#[0]⟩)) = ["not-empty", tooLargeCode] := by
  decide

end Nested

end StoreGuard
