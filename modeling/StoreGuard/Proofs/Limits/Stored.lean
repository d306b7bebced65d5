import StoreGuard.Proofs.Limits.Guard
import StoreGuard.Proofs.Limits.Report
import StoreGuard.Proofs.Store.Memory

namespace StoreGuard

namespace Stack

variable {layers : Stack}

/-- The memory behind a stack holds nothing that the stack would not let in. -/
structure Keeps (layers : Stack) (m : Memory) : Prop where
  lacksEmptyKey : m.LacksEmptyKey
  admits : ∀ d, m.contents = some d → ∀ key value, d.get? key = some value →
    layers.Admits (.put key value)

theorem keeps_new : layers.Keeps .new where
  lacksEmptyKey := Memory.lacksEmptyKey_new
  admits := by
    rintro d ⟨⟩ key value hget
    cases hget

theorem Keeps.step {m : Memory} (h : layers.Keeps m) (r : Request) :
    layers.Keeps ((layers.protect Memory.store).step r m).2 := by
  by_cases hadmits : layers.Admits r
  · have hrun : (layers.protect Memory.store).step r m = Memory.run r m :=
      value_protect_of_admits hadmits Memory.store m
    rw [hrun]
    refine ⟨Memory.lacksEmptyKey_run r m h.lacksEmptyKey, fun d hopen key value hget => ?_⟩
    -- What is new has just been admitted, and nothing else is stored that was not there.
    rcases Memory.get?_of_run hopen hget with ⟨rfl, -⟩ | ⟨d', hopen', hget'⟩
    · exact hadmits
    · exact h.admits d' hopen' key value hget'
  · obtain ⟨v, -, hstep⟩ := value_protect_of_not_admits hadmits Memory.store m
    have hsame : ((layers.protect Memory.store).step r m).2 = m := congrArg Prod.snd hstep
    rwa [hsame]

theorem keeps_runAll (rs : List Request) :
    layers.Keeps (runAll (layers.protect Memory.store).step rs .new).2 :=
  runAll_preserves (fun r _ h => h.step r) rs keeps_new

theorem answer_of_admits {r : Request} (hadmits : layers.Admits r) (hkey : r.key? ≠ some "")
    (d : Dictionary ByteArray) :
    ((layers.protect Memory.store).step r ⟨some d⟩).1 = .ok (Memory.openStep d r).1 := by
  have hrun : (layers.protect Memory.store).step r ⟨some d⟩ = Memory.run r ⟨some d⟩ :=
    value_protect_of_admits hadmits Memory.store _
  rw [hrun, Memory.run_open hkey]

end Stack

namespace Limits

variable {ls : List Limits} {layers : Stack} {key : String} {value : ByteArray}

theorem checkEntry_of_admits_put (hstack : stack ls = .ok layers)
    (hput : layers.Admits (.put key value)) {l : Limits} (hl : l ∈ ls) :
    l.checkEntry ⟨key, value⟩ = .ok .empty := by
  obtain ⟨g, hg, hadmits⟩ := (admits_stack_iff hstack).1 hput l hl
  rw [checkEntry_of_guard hg, Guard.violations_eq_nil_iff.2 hadmits]
  rfl

theorem admits_scan_of_admits_put (hstack : stack ls = .ok layers)
    (hput : layers.Admits (.put key value)) {start : String}
    (hstart : start.toList <+: key.toList) : layers.Admits (.scan start) := by
  rw [admits_stack_iff hstack]
  intro l hl
  obtain ⟨g, hg, hadmits⟩ := (admits_stack_iff hstack).1 hput l hl
  exact ⟨g, hg, admits_scan_of_accepts hg hadmits.1 hstart⟩

/-- Limits that compile have a stack. After any run at its top that leaves the memory open, the
report on every stored entry is empty under each of the limits, and at the top the entry is found,
can be written again or deleted, and is listed under every beginning of its key. -/
theorem stored_entries_stay_reachable (hls : ∀ l ∈ ls, l.Compiles) :
    ∃ layers, stack ls = .ok layers ∧
      ∀ (rs : List Request) (d : Dictionary ByteArray) (key : String) (value : ByteArray),
        let top := (layers.protect Memory.store).step
        let m : Memory := (runAll top rs .new).2
        m.contents = some d → (key, value) ∈ d.entries →
          (∀ l ∈ ls, l.checkEntry ⟨key, value⟩ = .ok .empty) ∧
          (top (.get key) m).1 = .ok (.found (some value)) ∧
          (top (.put key value) m).1 = .ok .done ∧
          (top (.delete key) m).1 = .ok .done ∧
          ∀ start : String, start.toList <+: key.toList →
            ∃ listed, (top (.scan start) m).1 = .ok (.listed listed) ∧ (key, value) ∈ listed := by
  obtain ⟨layers, hstack⟩ := exists_stack hls
  refine ⟨layers, hstack, fun rs d key value => ?_⟩
  intro top m hopen hentry
  have hkeeps : layers.Keeps m := Stack.keeps_runAll rs
  have hget : d.get? key = some value := Dictionary.mem_entries_iff.1 hentry
  have hput : layers.Admits (.put key value) := hkeeps.admits d hopen key value hget
  have hkey : some key ≠ some "" := by
    rintro ⟨⟩
    rw [hkeeps.lacksEmptyKey d hopen] at hget
    cases hget
  have hm : m = ⟨some d⟩ := congrArg Memory.mk hopen
  rw [hm]
  refine ⟨fun l hl => checkEntry_of_admits_put hstack hput hl, ?_, ?_, ?_, fun start hstart => ?_⟩
  · have hadmits : layers.Admits (.get key) := fun g hg => (hput g hg).1
    have hanswer := Stack.answer_of_admits hadmits hkey d
    rwa [Memory.openStep, hget] at hanswer
  · exact Stack.answer_of_admits hput hkey d
  · have hadmits : layers.Admits (.delete key) := fun g hg => (hput g hg).1
    exact Stack.answer_of_admits hadmits hkey d
  · have hadmits : layers.Admits (.scan start) := admits_scan_of_admits_put hstack hput hstart
    refine ⟨_, Stack.answer_of_admits hadmits nofun d, ?_⟩
    rw [Dictionary.mem_entries_iff, Dictionary.get?_filterKeys,
      if_pos (List.isPrefixOf_iff_prefix.2 hstart), hget]

/-- Behind two limits, of a pattern and of short keys, only what passes both is stored. -/
theorem stored_entries_stay_reachable_two_layers :
    let ls : List Limits := [⟨16, 64, some "^k", true⟩, ⟨4, 8, none, true⟩]
    let value := "v".toUTF8
    let rs : List Request :=
      [.put "k1" value, .put "x1" value, .put "k2345" value, .scan "", .delete "x1"]
    (∀ l ∈ ls, l.Compiles) ∧ ∃ layers d, stack ls = .ok layers ∧
      (runAll (layers.protect Memory.store).step rs .new).2.contents = some d ∧
      d.entries = [("k1", value)] ∧ ∀ l ∈ ls, l.checkEntry ⟨"k1", value⟩ = .ok .empty := by
  intro ls value rs
  have hls : ∀ l ∈ ls, l.Compiles := by decide +kernel
  have hrun : (stack ls).toOption.map (fun layers =>
      (runAll (layers.protect Memory.store).step rs .new).2.contents.map Dictionary.entries) =
        some (some [("k1", value)]) := by
    decide +kernel
  obtain ⟨layers, hstack, hreach⟩ := stored_entries_stay_reachable hls
  rw [hstack] at hrun
  obtain ⟨d, hopen, hentries⟩ := Option.map_eq_some_iff.1 (Option.some.inj hrun)
  have hentry : ("k1", value) ∈ d.entries := by rw [hentries]; exact List.mem_cons_self
  exact ⟨hls, layers, d, hstack, hopen, hentries, (hreach rs d "k1" value hopen hentry).1⟩

end Limits

end StoreGuard
