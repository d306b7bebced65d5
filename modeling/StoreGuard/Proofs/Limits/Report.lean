import StoreGuard.Proofs.Limits.Guard
import StoreGuard.Proofs.Store.Stack

namespace StoreGuard

/-- The guard lets a request through to a counted store where the report is empty, and else answers
it with the first violation of the report. -/
def Guard.Follows (g : Guard) (r : Request) (report : Verdict) : Prop :=
  ∀ (σ : Type) (inner : Store σ) (c : Counted σ),
    (report.isEmpty = true → (g.protect inner.counted).step r c =
      ((inner.step r c.state).1, ⟨(inner.step r c.state).2, c.calls.add r⟩)) ∧
    ∀ v, report.first? = some v →
      (g.protect inner.counted).step r c = (.error (.violation v), c)

theorem Guard.follows_of_violations_eq {g : Guard} {r : Request} {vs : List Violation}
    (h : g.violations r = vs) : g.Follows r ⟨vs⟩ := by
  intro σ inner c
  refine ⟨fun hempty => ?_, fun v hfirst => ?_⟩
  · have hnil : vs = [] := List.isEmpty_iff.1 hempty
    rw [Store.step, Guard.value_protect, h, hnil]
    rfl
  · have hhead : vs.head? = some v := hfirst
    rw [Store.step, Guard.value_protect, h, answerUnless, hhead]

namespace Limits

theorem checkKey_of_guard {l : Limits} {g : Guard} (h : l.guard = .ok g) (key : String) :
    l.checkKey key = .ok ⟨g.keys.violations key⟩ := by
  rw [checkKey, (keyGuard_of_guard h).1, Except.map, KeyGuard.value_checkAll]

/-- The report on an entry is what the guard finds in writing it. -/
theorem checkEntry_of_guard {l : Limits} {g : Guard} (h : l.guard = .ok g) (key : String)
    (value : ByteArray) : l.checkEntry ⟨key, value⟩ = .ok ⟨g.violations (.put key value)⟩ := by
  rw [checkEntry, checkKey_of_guard h, Except.map, ← (keyGuard_of_guard h).2.1,
    ValueGuard.value_checkAll, Guard.violations_put]
  rfl

/-- Reports and guard fail together, over the same pattern. Where they do not, a guarded store
carries out exactly the requests whose report is empty, and answers the others with the first
violation of the report. -/
theorem guard_follows_report (l : Limits) (key : String) (value : ByteArray) :
    (∃ source e, l.keyPattern = some source ∧
      l.checkKey key = .error (.badPattern source e) ∧
      l.checkEntry ⟨key, value⟩ = .error (.badPattern source e) ∧
      l.guard = .error (.badPattern source e)) ∨
    ∃ keyReport report g,
      l.checkKey key = .ok keyReport ∧ l.checkEntry ⟨key, value⟩ = .ok report ∧
      l.guard = .ok g ∧ keyReport.violations <+: report.violations ∧
      g.Follows (.put key value) report ∧ g.Follows (.get key) keyReport ∧
      g.Follows (.delete key) keyReport := by
  rcases l.keyGuard_cases with ⟨source, e, hsource, -, hbad⟩ | ⟨keys, hkeys⟩
  · have hkey : l.checkKey key = .error (.badPattern source e) := by rw [checkKey, hbad]; rfl
    refine Or.inl ⟨source, e, hsource, hkey, ?_, ?_⟩
    · rw [checkEntry, hkey]
      rfl
    · rw [guard, hbad]
      rfl
  · have hg : l.guard = .ok ⟨keys, l.valueGuard, l.prefixGuard⟩ := by rw [guard, hkeys]; rfl
    refine Or.inr ⟨_, _, _, checkKey_of_guard hg key, checkEntry_of_guard hg key value, hg, ?_,
      Guard.follows_of_violations_eq rfl, Guard.follows_of_violations_eq (Guard.violations_get ..),
      Guard.follows_of_violations_eq (Guard.violations_delete ..)⟩
    rw [Guard.violations_put]
    exact List.prefix_append _ _

end Limits

end StoreGuard
