import StoreGuard.Limits.Basic
import StoreGuard.Proofs.Basic
import StoreGuard.Proofs.Rules.Stored
import StoreGuard.Proofs.Rules.Text
import StoreGuard.Proofs.Store.Guard

namespace StoreGuard

theorem Rules.keyPattern_eq_map (source : String) :
    keyPattern source =
      (Pattern.parse source).map fun regex => (matching source regex).withName "key-pattern" := by
  rw [keyPattern, pattern]
  cases Pattern.parse source <;> rfl

namespace Limits

def Compiles (l : Limits) : Prop := ∀ source ∈ l.keyPattern, (Pattern.parse source).isOk

instance (l : Limits) : Decidable l.Compiles :=
  inferInstanceAs (Decidable (∀ source ∈ l.keyPattern, (Pattern.parse source).isOk = true))

/-- Only a pattern that cannot be read keeps limits from having rules for keys. -/
theorem keyGuard_cases (l : Limits) :
    (∃ source e, l.keyPattern = some source ∧ Pattern.parse source = .error e ∧
      l.keyGuard = .error (.badPattern source e)) ∨
    ∃ keys, l.keyGuard = .ok keys := by
  unfold keyGuard patternRules
  cases l.keyPattern with
  | none => exact Or.inr ⟨_, rfl⟩
  | some source =>
    simp only [Rules.keyPattern_eq_map]
    cases hparse : Pattern.parse source with
    | error e => exact Or.inl ⟨source, e, rfl, hparse, rfl⟩
    | ok regex => exact Or.inr ⟨_, rfl⟩

theorem Compiles.exists_guard {l : Limits} (h : l.Compiles) : ∃ g, l.guard = .ok g := by
  rcases l.keyGuard_cases with ⟨source, e, hsource, hparse, -⟩ | ⟨keys, hkeys⟩
  · have hok : (Pattern.parse source).isOk = true := h source hsource
    rw [hparse] at hok
    cases hok
  · exact ⟨⟨keys, l.valueGuard, l.prefixGuard⟩, by rw [guard, hkeys]; rfl⟩

variable {l : Limits} {g : Guard}

theorem keyGuard_of_guard (h : l.guard = .ok g) :
    l.keyGuard = .ok g.keys ∧ g.values = l.valueGuard ∧ g.prefixes = l.prefixGuard := by
  obtain ⟨keys, hkeys, rfl⟩ := exists_ok_of_map h
  exact ⟨hkeys, rfl, rfl⟩

theorem keyRules_of_guard (h : l.guard = .ok g) :
    ∃ rules, l.patternRules = .ok rules ∧
      g.keys = .ofRules ([Rules.nonEmptyKey, Rules.keyLength l.maxKeyLength.toNat] ++ rules) := by
  obtain ⟨rules, hrules, hkeys⟩ := exists_ok_of_map (keyGuard_of_guard h).1
  exact ⟨rules, hrules, hkeys.symm⟩

structure AllowsKey (l : Limits) (key : String) : Prop where
  notBlank : ∃ c ∈ key.toList, Text.isBlank c = false
  length_le : key.length ≤ l.maxKeyLength.toNat
  occurs : ∀ source ∈ l.keyPattern,
    ∃ regex, Pattern.parse source = .ok regex ∧ Pattern.Occurs regex key.toList

theorem patternRules_cases {rules : List (Rule String)} (h : l.patternRules = .ok rules) :
    l.keyPattern = none ∧ rules = [] ∨
    ∃ source regex, l.keyPattern = some source ∧ Pattern.parse source = .ok regex ∧
      rules = [(Rules.matching source regex).withName "key-pattern"] := by
  rw [patternRules] at h
  cases hpattern : l.keyPattern with
  | none =>
    rw [hpattern] at h
    exact Or.inl ⟨rfl, (Except.ok.inj h).symm⟩
  | some source =>
    simp only [hpattern, Rules.keyPattern_eq_map] at h
    cases hparse : Pattern.parse source with
    | error e =>
      rw [hparse] at h
      cases h
    | ok regex =>
      rw [hparse] at h
      exact Or.inr ⟨source, regex, rfl, hparse, (Except.ok.inj h).symm⟩

theorem compiles_of_guard (h : l.guard = .ok g) : l.Compiles := by
  obtain ⟨rules, hrules, -⟩ := keyRules_of_guard h
  rcases patternRules_cases hrules with ⟨hnone, -⟩ | ⟨source, regex, hsome, hparse, -⟩
  · simp [Compiles, hnone]
  · simp [Compiles, hsome, hparse, Except.isOk, Except.toBool]

theorem patternRules_accept_iff {rules : List (Rule String)} (h : l.patternRules = .ok rules)
    {key : String} {ctx : Context} :
    (∀ r ∈ rules, (r.check key ctx).value = none) ↔ ∀ source ∈ l.keyPattern,
      ∃ regex, Pattern.parse source = .ok regex ∧ Pattern.Occurs regex key.toList := by
  rcases patternRules_cases h with ⟨hnone, rfl⟩ | ⟨source, regex, hsome, hparse, rfl⟩
  · simp [hnone]
  · simp [hsome, hparse, Rules.value_check_matching_eq_none_iff]

theorem accepts_key_iff (h : l.guard = .ok g) {key : String} :
    g.keys.Accepts key ↔ l.AllowsKey key := by
  obtain ⟨rules, hrules, hkeys⟩ := keyRules_of_guard h
  have haccepts : g.keys.Accepts key ↔
      ∀ r ∈ Rules.nonEmptyKey :: Rules.keyLength l.maxKeyLength.toNat :: rules,
        (r.check key (Context.ofTarget KeyGuard.keyTarget)).value = none := by
    rw [hkeys]
    rfl
  rw [haccepts, List.forall_mem_cons, List.forall_mem_cons, patternRules_accept_iff hrules,
    Rules.value_check_nonEmptyKey_eq_none_iff, Rules.keyLength,
    Rules.value_check_maxLength_eq_none_iff]
  exact ⟨fun ⟨hblank, hlength, hpattern⟩ => ⟨hblank, hlength, hpattern⟩,
    fun ⟨hblank, hlength, hpattern⟩ => ⟨hblank, hlength, hpattern⟩⟩

/-- The three things that can be wrong with a key. -/
theorem key_violation_cases (h : l.guard = .ok g) {key : String} {v : Violation}
    (hv : v ∈ g.keys.violations key) :
    ∃ message, v = Rules.reject "not-empty" [] message key KeyGuard.keyTarget ∨
      v = Rules.reject "max-length" [("max", .ofNat l.maxKeyLength.toNat),
        ("actual", .ofNat key.length)] message key KeyGuard.keyTarget ∨
      ∃ source ∈ l.keyPattern, v = Rules.reject "pattern-mismatch" [("pattern", .string source)]
        message key KeyGuard.keyTarget := by
  obtain ⟨rules, hrules, hkeys⟩ := keyRules_of_guard h
  rw [hkeys] at hv
  obtain ⟨r, hr, hcheck⟩ := mem_findings.1 hv
  rcases List.mem_append.1 hr with hr | hr
  · simp only [List.mem_cons, List.not_mem_nil, or_false] at hr
    rcases hr with rfl | rfl
    · exact ⟨_, Or.inl (Rules.eq_reject_of_check_textRule hcheck)⟩
    · exact ⟨_, Or.inr (Or.inl (Rules.eq_reject_of_check_textRule hcheck))⟩
  · rcases patternRules_cases hrules with ⟨-, rfl⟩ | ⟨source, regex, hsource, -, rfl⟩
    · cases hr
    · rw [List.mem_singleton.1 hr] at hcheck
      exact ⟨_, Or.inr (Or.inr ⟨source, hsource, Rules.eq_reject_of_check_textRule hcheck⟩)⟩

theorem accepts_value_iff (h : l.guard = .ok g) {e : Entry} :
    g.values.Accepts e ↔ e.value.size ≤ l.maxValueSize.toNat := by
  rw [(keyGuard_of_guard h).2.1, ← Rules.value_check_valueSize_eq_none_iff]
  exact List.forall_mem_singleton

theorem accepts_prefix_iff {start : String} :
    (∀ p ∈ l.prefixGuard, p.Accepts start) ↔
      (l.validateScanPrefix = true → start.length ≤ l.maxKeyLength.toNat) := by
  rw [prefixGuard]
  cases hscan : l.validateScanPrefix with
  | false => simp
  | true =>
    simp only [if_true, Option.mem_some_iff, forall_eq', forall_const]
    rw [← Rules.value_check_maxLength_eq_none_iff]
    exact List.forall_mem_singleton

def Allows (l : Limits) : Request → Prop
  | .get key => l.AllowsKey key
  | .put key value => l.AllowsKey key ∧ value.size ≤ l.maxValueSize.toNat
  | .delete key => l.AllowsKey key
  | .scan start => l.validateScanPrefix = true → start.length ≤ l.maxKeyLength.toNat
  | .close => True

theorem admits_iff_allows (h : l.guard = .ok g) {r : Request} : g.Admits r ↔ l.Allows r := by
  cases r with
  | get key => exact accepts_key_iff h
  | put key value => exact and_congr (accepts_key_iff h) (accepts_value_iff h)
  | delete key => exact accepts_key_iff h
  | scan start =>
    rw [Guard.Admits, (keyGuard_of_guard h).2.2]
    exact accepts_prefix_iff
  | close => exact Iff.rfl

/-- Only the length of a scan prefix counts, so what begins a key is as good as the key. -/
theorem admits_scan_of_accepts (h : l.guard = .ok g) {key start : String}
    (hkey : g.keys.Accepts key) (hstart : start.toList <+: key.toList) :
    g.Admits (.scan start) := by
  have hlength : start.length ≤ key.length := by
    rw [← String.length_toList, ← String.length_toList]
    exact hstart.length_le
  have hmost : key.length ≤ l.maxKeyLength.toNat := ((accepts_key_iff h).1 hkey).length_le
  exact (admits_iff_allows h).2 fun _ => Nat.le_trans hlength hmost

/-- The guards of several limits as layers, if each of the limits has one; the first limits stand
outermost. -/
def stack : List Limits → Except Failure Stack
  | [] => .ok []
  | l :: ls => do
    let rest ← stack ls
    return .guard (← l.guard) :: rest

theorem exists_stack {ls : List Limits} (h : ∀ l ∈ ls, l.Compiles) :
    ∃ layers, stack ls = .ok layers := by
  induction ls with
  | nil => exact ⟨[], rfl⟩
  | cons l ls ih =>
    obtain ⟨hl, hls⟩ := List.forall_mem_cons.1 h
    obtain ⟨g, hg⟩ := hl.exists_guard
    obtain ⟨rest, hrest⟩ := ih hls
    refine ⟨.guard g :: rest, ?_⟩
    rw [stack, hrest, hg]
    rfl

/-- The layers of a stack are the guards of its limits. -/
theorem mem_stack {ls : List Limits} {layers : Stack} (h : stack ls = .ok layers) :
    (∀ l ∈ ls, ∃ g, l.guard = .ok g ∧ .guard g ∈ layers) ∧
      ∀ layer ∈ layers, ∃ l ∈ ls, ∃ g, l.guard = .ok g ∧ layer = .guard g := by
  induction ls generalizing layers with
  | nil =>
    cases h
    exact ⟨nofun, nofun⟩
  | cons l ls ih =>
    obtain ⟨rest, hrest, h⟩ := exists_ok_of_bind h
    obtain ⟨g, hg, hlayers⟩ := exists_ok_of_bind h
    cases hlayers
    obtain ⟨hguards, hlimits⟩ := ih hrest
    constructor
    · refine List.forall_mem_cons.2 ⟨⟨g, hg, List.mem_cons_self⟩, fun l' hl' => ?_⟩
      obtain ⟨g', hg', hmem⟩ := hguards l' hl'
      exact ⟨g', hg', List.mem_cons_of_mem _ hmem⟩
    · refine List.forall_mem_cons.2 ⟨⟨l, List.mem_cons_self, g, hg, rfl⟩, fun layer hlayer => ?_⟩
      obtain ⟨l', hl', hlayer⟩ := hlimits layer hlayer
      exact ⟨l', List.mem_cons_of_mem _ hl', hlayer⟩

/-- A stack of limits lets through what each of their guards does. -/
theorem admits_stack_iff {ls : List Limits} {layers : Stack} (h : stack ls = .ok layers)
    {r : Request} : layers.Admits r ↔ ∀ l ∈ ls, ∃ g, l.guard = .ok g ∧ g.Admits r := by
  constructor
  · intro hadmits l hl
    obtain ⟨g, hg, hmem⟩ := (mem_stack h).1 l hl
    exact ⟨g, hg, hadmits g hmem⟩
  · intro hls g hmem
    obtain ⟨l, hl, g', hg, heq⟩ := (mem_stack h).2 _ hmem
    cases heq
    obtain ⟨g', hg', hadmits⟩ := hls l hl
    cases hg.symm.trans hg'
    exact hadmits

theorem admits_stack_iff_allows {ls : List Limits} {layers : Stack} (h : stack ls = .ok layers)
    {r : Request} : layers.Admits r ↔ ∀ l ∈ ls, l.Allows r := by
  rw [admits_stack_iff h]
  refine forall₂_congr fun l hl => ?_
  obtain ⟨g, hg, -⟩ := (mem_stack h).1 l hl
  constructor
  · rintro ⟨g', hg', hadmits⟩
    exact (admits_iff_allows hg').1 hadmits
  · exact fun hallows => ⟨g, hg, (admits_iff_allows hg).2 hallows⟩

end Limits

/-- How a guarding layer comes about: from limits, or with the standard rules. -/
inductive Configured where
  | limits (l : Limits)
  | standard

namespace Configured

def guard : Configured → Except Failure Guard
  | limits l => l.guard
  | standard => .ok .standard

def enforced : Configured → Limits
  | limits l => l
  | standard => .standard

/-- The standard rules are those of the standard limits. -/
theorem guard_eq (c : Configured) : c.guard = c.enforced.guard := by
  cases c <;> rfl

def stack : List Configured → Except Failure Stack
  | [] => .ok []
  | c :: cs => do
    let rest ← stack cs
    return .guard (← c.guard) :: rest

theorem stack_eq (cs : List Configured) : stack cs = Limits.stack (cs.map enforced) := by
  induction cs with
  | nil => rfl
  | cons c cs ih => rw [stack, ih, guard_eq, List.map_cons, Limits.stack]

theorem exists_stack {cs : List Configured} (h : ∀ c ∈ cs, c.enforced.Compiles) :
    ∃ layers, stack cs = .ok layers := by
  rw [stack_eq]
  exact Limits.exists_stack (List.forall_mem_map.2 h)

end Configured

end StoreGuard
