import Mathlib.Data.Set.Card
import StoreGuard.Proofs.Dictionary
import StoreGuard.Proofs.Store.Machine
import StoreGuard.Proofs.Store.Run

namespace StoreGuard.Memory

theorem withKey_closed {key : String} (h : key ≠ "")
    (act : Dictionary ByteArray → Reply × Dictionary ByteArray) :
    withKey ⟨none⟩ key act = (.error .closed, ⟨none⟩) := by
  rw [withKey, if_neg (by simpa using h)]

theorem withKey_open {key : String} (h : key ≠ "")
    (act : Dictionary ByteArray → Reply × Dictionary ByteArray) (d : Dictionary ByteArray) :
    withKey ⟨some d⟩ key act = (.ok (act d).1, ⟨some (act d).2⟩) := by
  rw [withKey, if_neg (by simpa using h)]

/-- What open contents answer to a request that is not about the empty key, and what they become. -/
def openStep (d : Dictionary ByteArray) : Request → Reply × Option (Dictionary ByteArray)
  | .get key => (.found (d.get? key), d)
  | .put key value => (.done, d.insert key value)
  | .delete key => (.done, d.erase key)
  | .scan start => (.listed (d.filterKeys fun k => start.toList.isPrefixOf k.toList).entries, d)
  | .close => (.done, none)

theorem run_empty {r : Request} (h : r.key? = some "") (m : Memory) :
    run r m = (.error .emptyKey, m) := by
  cases r <;> cases h <;> rfl

theorem run_closed {r : Request} (hkey : r.key? ≠ some "") (hr : r ≠ .close) :
    run r ⟨none⟩ = (.error .closed, ⟨none⟩) := by
  cases r with
  | get key => rw [run, withKey_closed fun h => hkey (congrArg some h)]
  | put key value => rw [run, withKey_closed fun h => hkey (congrArg some h)]
  | delete key => rw [run, withKey_closed fun h => hkey (congrArg some h)]
  | scan start => rfl
  | close => exact absurd rfl hr

theorem run_open {r : Request} (hkey : r.key? ≠ some "") (d : Dictionary ByteArray) :
    run r ⟨some d⟩ = (.ok (openStep d r).1, ⟨(openStep d r).2⟩) := by
  cases r with
  | get key =>
    rw [run, withKey_open fun h => hkey (congrArg some h)]
    rfl
  | put key value =>
    rw [run, withKey_open fun h => hkey (congrArg some h)]
    rfl
  | delete key =>
    rw [run, withKey_open fun h => hkey (congrArg some h)]
    rfl
  | scan start => rfl
  | close => rfl

/-- All that a request can do to a memory. -/
theorem run_cases (r : Request) (m : Memory) :
    r.key? = some "" ∧ run r m = (.error .emptyKey, m) ∨
    m = ⟨none⟩ ∧ r = .close ∧ run r m = (.ok .done, ⟨none⟩) ∨
    m = ⟨none⟩ ∧ r.key? ≠ some "" ∧ r ≠ .close ∧ run r m = (.error .closed, ⟨none⟩) ∨
    ∃ d, m = ⟨some d⟩ ∧ r.key? ≠ some "" ∧
      run r m = (.ok (openStep d r).1, ⟨(openStep d r).2⟩) := by
  -- The empty key is refused before the memory is asked whether it is open.
  by_cases hempty : r.key? = some ""
  · exact Or.inl ⟨hempty, run_empty hempty m⟩
  right
  obtain ⟨_ | d⟩ := m
  · by_cases hclose : r = .close
    · exact Or.inl ⟨rfl, hclose, hclose ▸ rfl⟩
    · exact Or.inr (Or.inl ⟨rfl, hempty, hclose, run_closed hempty hclose⟩)
  · exact Or.inr (Or.inr ⟨d, rfl, hempty, run_open hempty d⟩)

/-- What is stored after a request was stored before it, or is what the request puts. -/
theorem get?_of_run {r : Request} {m : Memory} {d : Dictionary ByteArray}
    (hopen : (run r m).2.contents = some d) {key : String} {value : ByteArray}
    (hget : d.get? key = some value) :
    r = .put key value ∧ key ≠ "" ∨ ∃ d', m.contents = some d' ∧ d'.get? key = some value := by
  rcases run_cases r m with ⟨-, hrun⟩ | ⟨-, -, hrun⟩ | ⟨-, -, -, hrun⟩ | ⟨d', rfl, hkey, hrun⟩ <;>
    rw [hrun] at hopen
  · exact Or.inr ⟨d, hopen, hget⟩
  · cases hopen
  · cases hopen
  · cases r with
    | put other new =>
      cases hopen
      rw [Dictionary.get?_insert] at hget
      split_ifs at hget with hsame
      · cases hget
        subst hsame
        exact Or.inl ⟨rfl, fun h => hkey (congrArg some h)⟩
      · exact Or.inr ⟨d', rfl, hget⟩
    | delete other =>
      cases hopen
      rw [Dictionary.get?_erase] at hget
      split_ifs at hget with hsame
      exact Or.inr ⟨d', rfl, hget⟩
    | get other =>
      cases hopen
      exact Or.inr ⟨d, rfl, hget⟩
    | scan start =>
      cases hopen
      exact Or.inr ⟨d, rfl, hget⟩
    | close => cases hopen

def view (m : Memory) : Machine := m.contents.elim .closed fun d => .holding fun key => d.get? key

theorem view_eq_closed_iff {m : Memory} : m.view = .closed ↔ m.contents = none := by
  obtain ⟨_ | d⟩ := m <;> simp [view]

theorem next_empty {r : Request} (h : r.key? = some "") (m : Machine) : m.next r = m := by
  cases m <;> cases r <;> cases h <;> simp [Machine.next, Machine.write]

theorem view_run (r : Request) (m : Memory) : (run r m).2.view = m.view.next r := by
  rcases run_cases r m with ⟨hempty, hrun⟩ | ⟨rfl, rfl, hrun⟩ | ⟨rfl, -, -, hrun⟩ | ⟨d, rfl, -, hrun⟩ <;>
    rw [hrun]
  · rw [next_empty hempty]
  · rfl
  · cases r <;> rfl
  · cases r with
    | put key value =>
      apply congrArg Machine.holding
      funext other
      rw [Dictionary.get?_insert, Machine.write_apply]
    | delete key =>
      apply congrArg Machine.holding
      funext other
      rw [Dictionary.get?_erase, Machine.write_apply]
    | get key => rfl
    | scan start => rfl
    | close => rfl

theorem view_runAll (rs : List Request) (m : Memory) :
    (runAll run rs m).2.view = rs.foldl Machine.next m.view := by
  induction rs generalizing m with
  | nil => rfl
  | cons r rs ih => rw [runAll_cons, ih, view_run, List.foldl_cons]

def LacksEmptyKey (m : Memory) : Prop := ∀ d, m.contents = some d → d.get? "" = none

theorem lacksEmptyKey_new : new.LacksEmptyKey := by
  rintro d ⟨⟩
  rfl

theorem lacksEmptyKey_run (r : Request) (m : Memory) (h : m.LacksEmptyKey) :
    (run r m).2.LacksEmptyKey := by
  intro d hopen
  rw [Option.eq_none_iff_forall_ne_some]
  intro value hget
  rcases get?_of_run hopen hget with ⟨-, hkey⟩ | ⟨d', hopen', hget'⟩
  · exact hkey rfl
  · rw [h d' hopen'] at hget'
    cases hget'

theorem lists_filterKeys {d : Dictionary ByteArray} (hd : d.get? "" = none) (start : String) :
    Machine.Lists (fun key => d.get? key) start
      (d.filterKeys fun k => start.toList.isPrefixOf k.toList).entries where
  ascending := (Dictionary.ordered _).imp Text.bytesOf_lt
  mem_iff key value := by
    rw [Dictionary.mem_entries_iff, Dictionary.get?_filterKeys]
    simp only [List.isPrefixOf_iff_prefix, Option.ite_none_right_eq_some, exists_prop]
    refine and_congr_right fun _ => ⟨fun hget => ⟨?_, hget⟩, And.right⟩
    rintro rfl
    rw [hd] at hget
    cases hget

theorem answers_run (r : Request) {m : Memory} (h : m.LacksEmptyKey) :
    m.view.Answers r (run r m).1 := by
  rcases run_cases r m with ⟨hempty, hrun⟩ | ⟨rfl, rfl, hrun⟩ | ⟨rfl, hkey, hclose, hrun⟩ |
    ⟨d, rfl, hkey, hrun⟩ <;> rw [hrun]
  · exact .emptyKey hempty
  · exact .close
  · exact .closed hkey hclose
  · cases r with
    | get key => exact .get fun h => hkey (congrArg some h)
    | put key value => exact .put fun h => hkey (congrArg some h)
    | delete key => exact .delete fun h => hkey (congrArg some h)
    | scan start => exact .scan (lists_filterKeys (h d rfl) start)
    | close => exact .close

def liveKeys (f : StoredKey → Option ByteArray) : Set String :=
  {key | ∃ h : key ≠ "", (f ⟨key, h⟩).isSome}

theorem liveKeys_view {d : Dictionary ByteArray} (hd : d.get? "" = none) :
    liveKeys (fun key => d.get? key) = ↑(d.entries.map Prod.fst).toFinset := by
  ext key
  simp only [Finset.mem_coe, List.mem_toFinset, List.mem_map, Prod.exists, exists_and_right,
    exists_eq_right, Dictionary.mem_entries_iff, ← Option.isSome_iff_exists]
  refine ⟨fun ⟨_, hkey⟩ => hkey, fun hkey => ⟨?_, hkey⟩⟩
  rintro rfl
  rw [hd] at hkey
  cases hkey

theorem size_of_view_closed {m : Memory} (h : m.view = .closed) : m.size = 0 := by
  obtain ⟨_ | d⟩ := m
  · rfl
  · cases h

theorem size_eq_ncard {m : Memory} {f : StoredKey → Option ByteArray} (h : m.LacksEmptyKey)
    (hf : m.view = .holding f) : (liveKeys f).Finite ∧ m.size = (liveKeys f).ncard := by
  obtain ⟨_ | d⟩ := m
  · cases hf
  · cases hf
    rw [liveKeys_view (h d rfl)]
    refine ⟨Finset.finite_toSet _, ?_⟩
    rw [Set.ncard_coe_finset, List.toFinset_card_of_nodup d.keys_nodup, List.length_map]
    rfl

/-- After any run of requests a memory answers the next one as the machine does, which leaves it no
choice. What it holds is what was put last and not deleted, and it counts its live keys. -/
theorem memory_refines_machine (before after : List Request) (r : Request) :
    let m := (runAll run before new).2
    let answer := (runAll run (before ++ r :: after) new).1[before.length]?
    let machine := before.foldl Machine.next .fresh
    (∀ o, machine.Answers r o ↔ answer = some o) ∧
      m.view = machine ∧ m.LacksEmptyKey ∧
      (.close ∈ before → machine = .closed ∧ m.size = 0) ∧
      (.close ∉ before → ∃ f, machine = .holding f ∧
        (∀ (key : StoredKey) (value : ByteArray),
          f key = some value ↔ LatestPut before key value) ∧
        (liveKeys f).Finite ∧ m.size = (liveKeys f).ncard) := by
  intro m answer machine
  have hview : m.view = machine := view_runAll before new
  have hlacks : m.LacksEmptyKey := runAll_preserves lacksEmptyKey_run before lacksEmptyKey_new
  have hanswer : answer = some (run r m).1 := runAll_answer ..
  have hmachine : machine.Answers r (run r m).1 := hview ▸ answers_run r hlacks
  refine ⟨fun o => ?_, hview, hlacks, fun hclosed => ?_, fun hopen => ?_⟩
  · rw [hanswer, Option.some.injEq]
    exact ⟨hmachine.unique, fun h => h ▸ hmachine⟩
  · have hstate : machine = .closed := Machine.foldl_next_eq_closed_iff.2 hclosed
    refine ⟨hstate, ?_⟩
    exact size_of_view_closed (hview.trans hstate)
  · cases hstate : machine with
    | closed => exact absurd (Machine.foldl_next_eq_closed_iff.1 hstate) hopen
    | holding f =>
      refine ⟨f, rfl, Machine.foldl_next_eq_holding hstate, size_eq_ncard hlacks ?_⟩
      rw [hview, hstate]

end StoreGuard.Memory
