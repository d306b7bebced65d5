import StoreGuard.Proofs.Chain
import StoreGuard.Store.Guard

namespace StoreGuard

namespace KeyGuard

def Accepts (g : KeyGuard) (key : String) : Prop :=
  ∀ r ∈ g.chain.rules, (r.check key (Context.ofTarget g.target)).value = none

def violations (g : KeyGuard) (key : String) : List Violation :=
  findings g.chain.rules key (Context.ofTarget g.target)

theorem violations_eq_nil_iff {g : KeyGuard} {key : String} :
    g.violations key = [] ↔ g.Accepts key :=
  findings_eq_nil_iff

theorem value_check (g : KeyGuard) (key : String) :
    (g.check key).value = (g.violations key).head? :=
  Chain.value_validateFirst ..

theorem value_checkAll (g : KeyGuard) (key : String) :
    (g.checkAll key).value = ⟨g.violations key⟩ :=
  Chain.value_validate ..

end KeyGuard

namespace ValueGuard

def Accepts (g : ValueGuard) (e : Entry) : Prop :=
  ∀ r ∈ g.chain.rules, (r.check e (contextOf e.key)).value = none

def violations (g : ValueGuard) (e : Entry) : List Violation :=
  findings g.chain.rules e (contextOf e.key)

theorem violations_eq_nil_iff {g : ValueGuard} {e : Entry} : g.violations e = [] ↔ g.Accepts e :=
  findings_eq_nil_iff

theorem value_check (g : ValueGuard) (e : Entry) : (g.check e).value = (g.violations e).head? :=
  Chain.value_validateFirst ..

theorem value_checkAll (g : ValueGuard) (e : Entry) : (g.checkAll e).value = ⟨g.violations e⟩ :=
  Chain.value_validate ..

end ValueGuard

inductive Origin where
  | key
  | value
  | scanPrefix
deriving DecidableEq

namespace Guard

/-- No rule that looks at the request rejects it; closing is free of rules. -/
def Admits (g : Guard) : Request → Prop
  | .get key => g.keys.Accepts key
  | .put key value => g.keys.Accepts key ∧ g.values.Accepts ⟨key, value⟩
  | .delete key => g.keys.Accepts key
  | .scan start => ∀ p ∈ g.prefixes, p.Accepts start
  | .close => True

/-- What the rules find in the request, each violation with what it is about: those of the key in
their order, then those of the value. -/
def sourced (g : Guard) : Request → List (Origin × Violation)
  | .get key => (g.keys.violations key).map (Origin.key, ·)
  | .put key value => (g.keys.violations key).map (Origin.key, ·) ++
      (g.values.violations ⟨key, value⟩).map (Origin.value, ·)
  | .delete key => (g.keys.violations key).map (Origin.key, ·)
  | .scan start => (g.prefixes.elim [] fun p => p.violations start).map (Origin.scanPrefix, ·)
  | .close => []

def violations (g : Guard) (r : Request) : List Violation := (g.sourced r).map Prod.snd

section Requests

variable (g : Guard) (key : String)

theorem map_snd_map_mk (o : Origin) (vs : List Violation) : (vs.map (o, ·)).map Prod.snd = vs := by
  simp [Function.comp_def]

theorem violations_get : g.violations (.get key) = g.keys.violations key := map_snd_map_mk ..

theorem violations_put (value : ByteArray) : g.violations (.put key value) =
    g.keys.violations key ++ g.values.violations ⟨key, value⟩ := by
  rw [violations, sourced, List.map_append, map_snd_map_mk, map_snd_map_mk]

theorem violations_delete : g.violations (.delete key) = g.keys.violations key :=
  map_snd_map_mk ..

theorem violations_scan (start : String) :
    g.violations (.scan start) = g.prefixes.elim [] fun p => p.violations start :=
  map_snd_map_mk ..

theorem violations_close : g.violations .close = [] := rfl

end Requests

theorem violations_eq_nil_iff {g : Guard} {r : Request} : g.violations r = [] ↔ g.Admits r := by
  cases r with
  | get key =>
    rw [violations_get]
    exact KeyGuard.violations_eq_nil_iff
  | put key value =>
    rw [violations_put, Admits, List.append_eq_nil_iff, KeyGuard.violations_eq_nil_iff,
      ValueGuard.violations_eq_nil_iff]
  | delete key =>
    rw [violations_delete]
    exact KeyGuard.violations_eq_nil_iff
  | scan start =>
    rw [violations_scan, Admits]
    cases g.prefixes with
    | none => simp
    | some p => simp [KeyGuard.violations_eq_nil_iff]
  | close => simp [violations_close, Admits]

theorem value_check (g : Guard) (r : Request) : (g.check r).value = (g.violations r).head? := by
  cases r with
  | get key =>
    rw [violations_get]
    exact KeyGuard.value_check ..
  | put key value =>
    rw [check, Traced.value_bind, KeyGuard.value_check, violations_put]
    cases g.keys.violations key with
    | nil => exact ValueGuard.value_check ..
    | cons v vs => rfl
  | delete key =>
    rw [violations_delete]
    exact KeyGuard.value_check ..
  | scan start =>
    rw [check, violations_scan]
    cases g.prefixes with
    | none => rfl
    | some p => exact KeyGuard.value_check ..
  | close => rfl

end Guard

/-- A store that answers for itself where nothing is wrong, and else with the first violation. -/
def answerUnless {σ : Type} (wrong : List Violation) (s : Store σ) (r : Request) (state : σ) :
    Outcome × σ :=
  match wrong.head? with
  | some v => (.error (.violation v), state)
  | none => (s r state).value

theorem Guard.value_protect {σ : Type} (g : Guard) (s : Store σ) (r : Request) (state : σ) :
    (g.protect s r state).value = answerUnless (g.violations r) s r state := by
  rw [Guard.protect, Traced.value_bind, Guard.value_check, answerUnless]
  cases (g.violations r).head? <;> rfl

def Layer.sourced : Layer → Request → List (Origin × Violation)
  | .guard g, r => g.sourced r
  | .pointer, _ => []

def Layer.violations (layer : Layer) (r : Request) : List Violation :=
  (layer.sourced r).map Prod.snd

namespace Stack

def Admits (stack : Stack) (r : Request) : Prop := ∀ g, .guard g ∈ stack → g.Admits r

/-- What the rules of all the layers find in the request, walking inwards. -/
def sourced (stack : Stack) (r : Request) : List (Origin × Violation) :=
  stack.flatMap fun layer => layer.sourced r

def violations (stack : Stack) (r : Request) : List Violation := (stack.sourced r).map Prod.snd

theorem violations_cons (layer : Layer) (stack : Stack) (r : Request) :
    violations (layer :: stack) r = layer.violations r ++ stack.violations r := by
  rw [violations, sourced, List.flatMap_cons, List.map_append]
  rfl

theorem violations_eq_nil_iff {stack : Stack} {r : Request} :
    stack.violations r = [] ↔ stack.Admits r := by
  rw [violations, List.map_eq_nil_iff, sourced, List.flatMap_eq_nil_iff]
  constructor
  · intro h g hg
    exact Guard.violations_eq_nil_iff.1 (List.map_eq_nil_iff.2 (h _ hg))
  · intro h layer hlayer
    cases layer with
    | guard g => exact List.map_eq_nil_iff.1 (Guard.violations_eq_nil_iff.2 (h g hlayer))
    | pointer => rfl

theorem value_protect {σ : Type} (stack : Stack) (s : Store σ) (r : Request) (state : σ) :
    (stack.protect s r state).value = answerUnless (stack.violations r) s r state := by
  induction stack with
  | nil => rfl
  | cons layer rest ih =>
    cases layer with
    | guard g =>
      have hlayer : (Layer.guard g).violations r = g.violations r := rfl
      rw [protect, Guard.value_protect, violations_cons, hlayer]
      cases g.violations r with
      | nil => exact ih
      | cons v vs => rfl
    | pointer => exact ih

theorem value_protect_of_admits {σ : Type} {stack : Stack} {r : Request} (h : stack.Admits r)
    (s : Store σ) (state : σ) : (stack.protect s r state).value = (s r state).value := by
  rw [value_protect, violations_eq_nil_iff.2 h]
  rfl

theorem value_protect_of_not_admits {σ : Type} {stack : Stack} {r : Request} (h : ¬stack.Admits r)
    (s : Store σ) (state : σ) :
    ∃ v, (stack.violations r).head? = some v ∧
      (stack.protect s r state).value = (.error (.violation v), state) := by
  have hne : stack.violations r ≠ [] := fun hnil => h (violations_eq_nil_iff.1 hnil)
  obtain ⟨v, vs, hv⟩ := List.exists_cons_of_ne_nil hne
  refine ⟨v, by rw [hv, List.head?_cons], ?_⟩
  rw [value_protect, hv]
  rfl

end Stack

end StoreGuard
