import Mathlib.Data.List.Nodup
import StoreGuard.Proofs.Limits.Evidence
import StoreGuard.Proofs.Limits.Stored
import StoreGuard.Proofs.Limits.Tightest

namespace StoreGuard

theorem sublist_of_subset {α : Type} [DecidableEq α] {all l m : List α} (hall : all.Nodup)
    (hl : l.Sublist all) (hm : m.Sublist all) (h : l ⊆ m) : l.Sublist m := by
  have hfilter : (m.filter (· ∈ l)).Sublist all := List.filter_sublist.trans hm
  have hperm : l.Perm (m.filter (· ∈ l)) := by
    refine (List.perm_ext_iff_of_nodup (hall.sublist hl) (hall.sublist hfilter)).2 fun a => ?_
    rw [List.mem_filter, decide_eq_true_iff]
    exact ⟨fun ha => ⟨h ha, ha⟩, And.right⟩
  have heq : l = m.filter (· ∈ l) := (hall.perm_iff_eq_of_sublist hl hfilter).1 hperm
  rw [heq]
  exact List.filter_sublist

namespace Stack

/-- In front of the layers the entry is in reach: it is found, can be written again or deleted, and
is listed under every beginning of its key. -/
structure Reaches (layers : Stack) (m : Memory) (key : String) (value : ByteArray) : Prop where
  get : ((layers.protect Memory.store).step (.get key) m).1 = .ok (.found (some value))
  put : ((layers.protect Memory.store).step (.put key value) m).1 = .ok .done
  delete : ((layers.protect Memory.store).step (.delete key) m).1 = .ok .done
  scan : ∀ start : String, start.toList <+: key.toList →
    ∃ listed, ((layers.protect Memory.store).step (.scan start) m).1 = .ok (.listed listed) ∧
      (key, value) ∈ listed

theorem reaches_of_admits {layers : Stack} {d : Dictionary ByteArray} {key : String}
    {value : ByteArray} (hget : d.get? key = some value) (hkey : key ≠ "")
    (hput : layers.Admits (.put key value))
    (hscan : ∀ start : String, start.toList <+: key.toList → layers.Admits (.scan start)) :
    layers.Reaches ⟨some d⟩ key value := by
  have hne : some key ≠ some "" := fun h => hkey (Option.some.inj h)
  have hadmits : layers.Admits (.get key) := fun g hg => (hput g hg).1
  refine ⟨?_, answer_of_admits hput hne d, ?_, fun start hstart => ?_⟩
  · have hanswer := answer_of_admits hadmits hne d
    rwa [Memory.openStep, hget] at hanswer
  · have hdelete : layers.Admits (.delete key) := hadmits
    exact answer_of_admits hdelete hne d
  · have hnone : (Request.scan start).key? ≠ some "" := (Option.some_ne_none "").symm
    refine ⟨_, answer_of_admits (hscan start hstart) hnone d, ?_⟩
    rw [Dictionary.mem_entries_iff, Dictionary.get?_filterKeys,
      if_pos (List.isPrefixOf_iff_prefix.2 hstart), hget]

end Stack

theorem Guard.admits_of_calls {σ : Type} {g : Guard} {inner : Store σ} {c : Counted σ} {r : Request}
    (h : ((g.protect inner.counted).step r c).2.calls = c.calls.add r) : g.Admits r := by
  by_contra hnot
  have hne : g.violations r ≠ [] := fun hnil => hnot (violations_eq_nil_iff.1 hnil)
  obtain ⟨v, vs, hv⟩ := List.exists_cons_of_ne_nil hne
  rw [Store.step, value_protect, hv] at h
  exact Calls.add_ne c.calls r h.symm

namespace Limits

/-- The second limits allow longer keys and larger values, ask for no pattern or the same one, and
look at scan prefixes only if the first ones do. -/
structure Looser (l l' : Limits) : Prop where
  maxKeyLength_le : l.maxKeyLength ≤ l'.maxKeyLength
  maxValueSize_le : l.maxValueSize ≤ l'.maxValueSize
  keyPattern : l'.keyPattern = none ∨ l'.keyPattern = l.keyPattern
  validateScanPrefix : l'.validateScanPrefix = true → l.validateScanPrefix = true

section Looser

variable {l l' : Limits} {g g' : Guard} {key : String} {value : ByteArray}

theorem Looser.mem_keyPattern (h : l.Looser l') {source : String} (hsource : source ∈ l'.keyPattern) :
    source ∈ l.keyPattern := by
  rcases h.keyPattern with hnone | hsame
  · rw [hnone] at hsource
    cases hsource
  · rwa [hsame] at hsource

theorem Looser.compiles (h : l.Looser l') (hl : l.Compiles) : l'.Compiles := fun source hsource =>
  hl source (h.mem_keyPattern hsource)

theorem Looser.maxKeyLength_toNat_le (h : l.Looser l') :
    l.maxKeyLength.toNat ≤ l'.maxKeyLength.toNat :=
  UInt64.le_iff_toNat_le.1 h.maxKeyLength_le

theorem Looser.maxValueSize_toNat_le (h : l.Looser l') :
    l.maxValueSize.toNat ≤ l'.maxValueSize.toNat :=
  UInt64.le_iff_toNat_le.1 h.maxValueSize_le

/-- What is wrong under the looser limits is wrong under the stricter ones, where the violation
records other numbers but has the same code. -/
theorem Breaks.exists_of_looser (h : l.Looser l') {v' : Violation}
    (hbreaks : l'.Breaks key value v') : ∃ v, l.Breaks key value v ∧ v.code = v'.code := by
  have hlength := h.maxKeyLength_toNat_le
  have hsize := h.maxValueSize_toNat_le
  cases hbreaks with
  | blank hblank => exact ⟨_, .blank hblank, rfl⟩
  | long hlong => exact ⟨_, .long (by omega), rfl⟩
  | mismatch hsource hparse hnot =>
    exact ⟨_, .mismatch (h.mem_keyPattern hsource) hparse hnot, rfl⟩
  | large hlarge => exact ⟨_, .large (by omega), rfl⟩

theorem map_code_sublist_of_looser (h : l.Looser l') (hg : l.guard = .ok g)
    (hg' : l'.guard = .ok g') :
    ((g'.violations (.put key value)).map Violation.code).Sublist
      ((g.violations (.put key value)).map Violation.code) := by
  have hnodup : reportCodes.Nodup := by decide
  refine sublist_of_subset hnodup (map_code_violations_put_sublist hg')
    (map_code_violations_put_sublist hg) fun code hcode => ?_
  obtain ⟨v', hv', rfl⟩ := List.mem_map.1 hcode
  obtain ⟨v, hv, hsame⟩ := ((mem_violations_put_iff hg').1 hv').exists_of_looser h
  exact List.mem_map.2 ⟨v, (mem_violations_put_iff hg).2 hv, hsame⟩

theorem AllowsKey.of_looser (h : l.Looser l') (hkey : l.AllowsKey key) : l'.AllowsKey key where
  notBlank := hkey.notBlank
  length_le := hkey.length_le.trans h.maxKeyLength_toNat_le
  occurs source hsource := hkey.occurs source (h.mem_keyPattern hsource)

theorem Allows.of_looser (h : l.Looser l') {r : Request} (hr : l.Allows r) : l'.Allows r := by
  cases r with
  | get key => exact AllowsKey.of_looser h hr
  | put key value =>
    exact ⟨hr.1.of_looser h, hr.2.trans h.maxValueSize_toNat_le⟩
  | delete key => exact AllowsKey.of_looser h hr
  | scan start =>
    -- A prefix that the looser limits look at the stricter ones have looked at, with a lower bound.
    intro hscan
    have hstart : start.length ≤ l.maxKeyLength.toNat := hr (h.validateScanPrefix hscan)
    exact hstart.trans h.maxKeyLength_toNat_le
  | close => trivial

theorem admits_of_looser (h : l.Looser l') (hg : l.guard = .ok g) (hg' : l'.guard = .ok g')
    {r : Request} (hr : g.Admits r) : g'.Admits r :=
  (admits_iff_allows hg').2 (((admits_iff_allows hg).1 hr).of_looser h)

/-- What a guard has let in, a looser one keeps in reach. -/
theorem reaches_of_looser (h : l.Looser l') (hg : l.guard = .ok g) (hg' : l'.guard = .ok g')
    (rs : List Request) {d : Dictionary ByteArray}
    (hopen : (runAll (Stack.protect [.guard g] Memory.store).step rs .new).2.contents = some d)
    (hentry : (key, value) ∈ d.entries) :
    Stack.Reaches [.guard g'] ⟨some d⟩ key value := by
  have hkeeps : Stack.Keeps [.guard g]
      (runAll (Stack.protect [.guard g] Memory.store).step rs .new).2 := Stack.keeps_runAll rs
  have hget : d.get? key = some value := Dictionary.mem_entries_iff.1 hentry
  have hput : g.Admits (.put key value) :=
    hkeeps.admits d hopen key value hget g List.mem_cons_self
  have hput' : g'.Admits (.put key value) := admits_of_looser h hg hg' hput
  have honly {r : Request} (hr : g'.Admits r) : Stack.Admits [.guard g'] r := by
    intro g'' hg''
    cases List.mem_singleton.1 hg''
    exact hr
  have hne : key ≠ "" := by
    rintro rfl
    rw [hkeeps.lacksEmptyKey d hopen] at hget
    cases hget
  exact Stack.reaches_of_admits hget hne (honly hput') fun start hstart =>
    honly (admits_scan_of_accepts hg' hput'.1 hstart)

end Looser

/-- Under looser limits a report has the codes of the stricter one or fewer, in the same order, a
request that gets through to one store gets through to any other, and what a run under the stricter
limits has left in an open memory is in reach when the looser guard takes the place of the other. -/
theorem looser_limits_reject_no_more (l l' : Limits) (hl : l.Compiles) (h : l.Looser l') :
    ∃ g g', l.guard = .ok g ∧ l'.guard = .ok g' ∧
      (∀ key value, ∃ report report',
        l.checkEntry ⟨key, value⟩ = .ok report ∧ l'.checkEntry ⟨key, value⟩ = .ok report' ∧
        (report'.violations.map Violation.code).Sublist
          (report.violations.map Violation.code)) ∧
      (∀ (σ τ : Type) (inner : Store σ) (inner' : Store τ) (c : Counted σ) (c' : Counted τ)
        (r : Request), ((g.protect inner.counted).step r c).2.calls = c.calls.add r →
          (g'.protect inner'.counted).step r c' = inner'.counted.step r c') ∧
      ∀ (rs : List Request) (d : Dictionary ByteArray) (key : String) (value : ByteArray),
        let stack : Stack := [.guard g]
        let m := (runAll (stack.protect Memory.store).step rs .new).2
        m.contents = some d → (key, value) ∈ d.entries →
          Stack.Reaches (.guard g' :: stack.inner) m key value := by
  obtain ⟨g, hg⟩ := hl.exists_guard
  obtain ⟨g', hg'⟩ := (h.compiles hl).exists_guard
  refine ⟨g, g', hg, hg', fun key value => ?_, fun σ τ inner inner' c c' r hcalls => ?_,
    fun rs d key value => ?_⟩
  · exact ⟨_, _, checkEntry_of_guard hg key value, checkEntry_of_guard hg' key value,
      map_code_sublist_of_looser h hg hg'⟩
  · have hadmits : g'.Admits r := admits_of_looser h hg hg' (Guard.admits_of_calls hcalls)
    rw [Store.step, Guard.value_protect, Guard.violations_eq_nil_iff.2 hadmits]
    rfl
  · intro stack m hopen hentry
    have hm : m = ⟨some d⟩ := congrArg Memory.mk hopen
    rw [hm]
    exact reaches_of_looser h hg hg' rs hopen hentry

/-- Without the pattern, and with longer keys, what was stored stays in reach. -/
theorem looser_limits_reject_no_more_pattern :
    let l : Limits := ⟨4, 8, some "^k", true⟩
    let l' : Limits := ⟨16, 8, none, false⟩
    let value := "v".toUTF8
    let rs : List Request := [.put "k1" value, .put "x1" value, .put "k2345" value]
    l.Compiles ∧ l.Looser l' ∧ ∃ g g', l.guard = .ok g ∧ l'.guard = .ok g' ∧
      ∃ d, (runAll (g.protect Memory.store).step rs .new).2.contents = some d ∧
        d.entries = [("k1", value)] ∧ Stack.Reaches [.guard g'] ⟨some d⟩ "k1" value := by
  intro l l' value rs
  have hl : l.Compiles := by decide +kernel
  have hlooser : l.Looser l' := ⟨by decide, by decide, Or.inl rfl, by decide⟩
  have hrun : l.guard.toOption.map (fun g =>
      (runAll (g.protect Memory.store).step rs .new).2.contents.map Dictionary.entries) =
        some (some [("k1", value)]) := by
    decide +kernel
  obtain ⟨g, g', hg, hg', -, -, hreach⟩ := looser_limits_reject_no_more l l' hl hlooser
  rw [hg] at hrun
  obtain ⟨d, hopen, hentries⟩ := Option.map_eq_some_iff.1 (Option.some.inj hrun)
  have hentry : ("k1", value) ∈ d.entries := by rw [hentries]; exact List.mem_cons_self
  have hreaches := hreach rs d "k1" value hopen hentry
  have hm : (runAll (g.protect Memory.store).step rs .new).2 = ⟨some d⟩ :=
    congrArg Memory.mk hopen
  exact ⟨hl, hlooser, g, g', hg, hg', d, hopen, hentries, hm ▸ hreaches⟩

end Limits

end StoreGuard
