import StoreGuard.Proofs.Limits.Guard
import StoreGuard.Proofs.Store.Memory
import StoreGuard.Proofs.Store.Stack

namespace StoreGuard

namespace Limits

variable {ls : List Limits}

def tightest (bound : Limits → UInt64) (ls : List Limits) : Option Nat :=
  (ls.map fun l => (bound l).toNat).min?

theorem le_tightest_iff {bound : Limits → UInt64} {n : Nat} :
    (∀ most ∈ tightest bound ls, n ≤ most) ↔ ∀ l ∈ ls, n ≤ (bound l).toNat := by
  rw [tightest]
  cases hmin : (ls.map fun l => (bound l).toNat).min? with
  | none => simp_all
  | some most => simp [List.le_min?_iff hmin]

structure KeyWithin (ls : List Limits) (key : String) : Prop where
  notBlank : ∃ c ∈ key.toList, Text.isBlank c = false
  length_le : ∀ most ∈ tightest maxKeyLength ls, key.length ≤ most
  occurs : ∀ l ∈ ls, ∀ source ∈ l.keyPattern,
    ∃ regex, Pattern.parse source = .ok regex ∧ Pattern.Occurs regex key.toList

/-- The request keeps to the tightest limits. Of a scan only the length of the prefix counts, and
only for the limits that look at it. -/
def Within (ls : List Limits) : Request → Prop
  | .get key => KeyWithin ls key
  | .put key value =>
    KeyWithin ls key ∧ ∀ most ∈ tightest maxValueSize ls, value.size ≤ most
  | .delete key => KeyWithin ls key
  | .scan start =>
    ∀ most ∈ tightest maxKeyLength (ls.filter validateScanPrefix), start.length ≤ most
  | .close => True

theorem keyWithin_iff (hne : ls ≠ []) {key : String} :
    KeyWithin ls key ↔ ∀ l ∈ ls, l.AllowsKey key := by
  constructor
  · intro h l hl
    exact ⟨h.notBlank, le_tightest_iff.1 h.length_le l hl, h.occurs l hl⟩
  · intro h
    obtain ⟨l, hl⟩ := List.exists_mem_of_ne_nil ls hne
    exact ⟨(h l hl).notBlank, le_tightest_iff.2 fun l hl => (h l hl).length_le,
      fun l hl => (h l hl).occurs⟩

theorem within_iff (hne : ls ≠ []) {r : Request} : Within ls r ↔ ∀ l ∈ ls, l.Allows r := by
  cases r with
  | get key => exact keyWithin_iff hne
  | put key value =>
    rw [Within, keyWithin_iff hne, le_tightest_iff, ← forall₂_and]
    rfl
  | delete key => exact keyWithin_iff hne
  | scan start =>
    rw [Within, le_tightest_iff]
    simp only [List.mem_filter, and_imp]
    rfl
  | close => exact iff_of_true trivial fun _ _ => trivial

theorem KeyWithin.ne_empty {key : String} (h : KeyWithin ls key) : key ≠ "" := by
  rintro rfl
  obtain ⟨c, hc, -⟩ := h.notBlank
  cases hc

theorem Within.key?_ne_empty {r : Request} (h : Within ls r) : r.key? ≠ some "" := by
  cases r with
  | get key => exact fun he => h.ne_empty (Option.some.inj he)
  | put key value => exact fun he => h.1.ne_empty (Option.some.inj he)
  | delete key => exact fun he => h.ne_empty (Option.some.inj he)
  | scan start => exact nofun
  | close => exact nofun

end Limits

theorem Calls.add_ne (c : Calls) (r : Request) : c.add r ≠ c := by
  cases c
  cases r <;> simp [Calls.add]

theorem Memory.run_ne_emptyKey {r : Request} (h : r.key? ≠ some "") (m : Memory) :
    (run r m).1 ≠ .error .emptyKey := by
  rcases run_cases r m with ⟨hkey, -⟩ | ⟨-, -, hrun⟩ | ⟨-, -, -, hrun⟩ | ⟨d, -, -, hrun⟩
  · exact absurd hkey h
  all_goals
    rw [hrun]
    nofun

namespace Configured

variable {cs : List Configured} {layers : Stack}

theorem admits_iff_within (hstack : stack cs = .ok layers) (hne : cs ≠ []) {r : Request} :
    layers.Admits r ↔ Limits.Within (cs.map enforced) r := by
  rw [stack_eq] at hstack
  rw [Limits.admits_stack_iff_allows hstack, Limits.within_iff (by simpa using hne)]

/-- Configured layers let no empty key through. -/
theorem key?_ne_empty_of_admits (hstack : stack cs = .ok layers) (hne : cs ≠ []) {r : Request}
    (hadmits : layers.Admits r) : r.key? ≠ some "" :=
  ((admits_iff_within hstack hne).1 hadmits).key?_ne_empty

/-- Layers that are configured in any way let a request through to the memory exactly if it keeps to
the tightest of their limits, and no empty key ever gets that far. -/
theorem reaches_memory_iff_within_tightest (cs : List Configured) (hne : cs ≠ [])
    (hcs : ∀ c ∈ cs, c.enforced.Compiles) :
    ∃ layers, stack cs = .ok layers ∧ ∀ (r : Request) (m : Counted Memory),
      let top := (layers.protect Memory.store.counted).step
      ((top r m).2.calls = m.calls.add r ↔ Limits.Within (cs.map enforced) r) ∧
        ((top r m).2 = m ↔ ¬Limits.Within (cs.map enforced) r) ∧
        (top r m).1 ≠ .error .emptyKey := by
  obtain ⟨layers, hstack⟩ := exists_stack hcs
  refine ⟨layers, hstack, fun r m => ?_⟩
  intro top
  rw [← admits_iff_within hstack hne]
  by_cases hadmits : layers.Admits r
  · have htop : top r m = Memory.store.counted.step r m :=
      Stack.value_protect_of_admits hadmits _ m
    rw [htop]
    refine ⟨iff_of_true rfl hadmits, iff_of_false (fun hsame => ?_) (not_not.2 hadmits), ?_⟩
    · exact Calls.add_ne m.calls r (congrArg Counted.calls hsame)
    · exact Memory.run_ne_emptyKey (key?_ne_empty_of_admits hstack hne hadmits) m.state
  · obtain ⟨v, -, htop⟩ := Stack.value_protect_of_not_admits hadmits Memory.store.counted m
    have htop : top r m = (.error (.violation v), m) := htop
    rw [htop]
    exact ⟨iff_of_false (Calls.add_ne m.calls r).symm hadmits, iff_of_true rfl hadmits, nofun⟩

/-- Three layers, of which the first asks for a pattern and the last for short keys. -/
theorem reaches_memory_iff_within_tightest_three :
    let cs : List Configured :=
      [.limits ⟨16, 64, some "k[0-9]", true⟩, .standard, .limits ⟨4, 8, none, false⟩]
    let ls := cs.map enforced
    cs ≠ [] ∧ (∀ c ∈ cs, c.enforced.Compiles) ∧ Limits.Within ls (.put " k1 " "v".toUTF8) ∧
      ¬Limits.Within ls (.get "k1234") ∧ ¬Limits.Within ls (.delete "key") ∧
      Limits.Within ls (.scan "0123456789abcdef") := by
  intro cs ls
  have hne : cs ≠ [] := List.cons_ne_nil _ _
  have hcs : ∀ c ∈ cs, c.enforced.Compiles := by decide +kernel
  obtain ⟨layers, hstack, hreach⟩ := reaches_memory_iff_within_tightest cs hne hcs
  let calls (layers : Stack) (r : Request) : Calls :=
    ((layers.protect Memory.store.counted).step r ⟨.new, .zero⟩).2.calls
  have hcalls {r : Request} {c : Calls}
      (h : (stack cs).toOption.map (fun layers => calls layers r) = some c) :
      calls layers r = c := by
    rw [hstack] at h
    exact Option.some.inj h
  have hput : calls layers (.put " k1 " "v".toUTF8) = ⟨0, 1, 0, 0, 0⟩ := hcalls (by decide +kernel)
  have hget : calls layers (.get "k1234") = .zero := hcalls (by decide +kernel)
  have hdelete : calls layers (.delete "key") = .zero := hcalls (by decide +kernel)
  have hscan : calls layers (.scan "0123456789abcdef") = ⟨0, 0, 0, 1, 0⟩ :=
    hcalls (by decide +kernel)
  refine ⟨hne, hcs, (hreach _ _).1.1 hput, fun h => ?_, fun h => ?_, (hreach _ _).1.1 hscan⟩
  · exact Calls.add_ne _ _ (((hreach _ _).1.2 h).symm.trans hget)
  · exact Calls.add_ne _ _ (((hreach _ _).1.2 h).symm.trans hdelete)

end Configured

end StoreGuard
