import Mathlib.Data.Finset.Card
import Mathlib.Data.List.Induction
import Mathlib.Data.List.Sort
import StoreGuard.Proofs.Basic

namespace StoreGuard

variable {α : Type}

namespace Dictionary

theorem get?_insert (d : Dictionary α) (key other : String) (value : α) :
    (d.insert key value).get? other = if other = key then some value else d.get? other :=
  lookup_insertEntry ..

theorem get?_erase (d : Dictionary α) (key other : String) :
    (d.erase key).get? other = if other = key then none else d.get? other := by
  have h := lookup_filter_key (fun k => decide (k ≠ key)) other d.entries
  by_cases hk : other = key <;> simpa [erase, get?, hk] using h

theorem get?_filterKeys (d : Dictionary α) (keep : String → Bool) (key : String) :
    (d.filterKeys keep).get? key = if keep key then d.get? key else none :=
  lookup_filter_key ..

/-- Of the entries written under a key the last one is found. -/
theorem get?_ofEntries (l : List (String × α)) (key : String) :
    (ofEntries l).get? key = l.reverse.lookup key := by
  induction l using List.reverseRec with
  | nil => rfl
  | append_singleton l e ih =>
    have hlast : ofEntries (l ++ [e]) = (ofEntries l).insert e.1 e.2 := by
      rw [ofEntries, List.foldl_append]
      rfl
    rw [hlast, get?_insert, ih, List.reverse_append, List.reverse_singleton, List.singleton_append]
    exact (lookup_cons_ite e.1 key e.2 l.reverse).symm

/-- The entries are what look-ups find. -/
theorem mem_entries_iff {d : Dictionary α} {key : String} {value : α} :
    (key, value) ∈ d.entries ↔ d.get? key = some value :=
  ⟨lookup_of_mem d.ordered, mem_of_lookup⟩

theorem ext_get? {a b : Dictionary α} (h : ∀ key, a.get? key = b.get? key) : a = b := by
  have hirrefl : Std.Irrefl fun e f : String × α => e.1 < f.1 := ⟨fun e => String.lt_irrefl e.1⟩
  refine ext (List.Pairwise.eq_of_mem_iff a.ordered b.ordered ?_)
  rintro ⟨key, value⟩
  rw [mem_entries_iff, mem_entries_iff, h key]

theorem keys_nodup (d : Dictionary α) : (d.entries.map Prod.fst).Nodup :=
  List.pairwise_map.2 (d.ordered.imp String.ne_of_lt)

/-- A dictionary is what comes of writing its own entries. -/
theorem ofEntries_entries (d : Dictionary α) : ofEntries d.entries = d := by
  refine ext_get? fun key => ?_
  rw [get?_ofEntries]
  refine (lookup_eq_of_perm ?_ d.entries.reverse_perm.symm).symm
  exact List.nodup_iff_count_le_one.1 d.keys_nodup key

/-- Written under different keys, the entries are all there, in the order of their keys. -/
theorem perm_entries_ofEntries {l : List (String × α)} (h : (l.map Prod.fst).Nodup) :
    (ofEntries l).entries.Perm l := by
  apply (List.perm_ext_iff_of_nodup (.of_map _ (keys_nodup _)) (.of_map _ h)).2
  rintro ⟨key, value⟩
  have honce : (l.reverse.map Prod.fst).count key ≤ 1 := by
    rw [List.map_reverse, List.count_reverse]
    exact List.nodup_iff_count_le_one.1 h key
  rw [mem_entries_iff, get?_ofEntries, lookup_eq_some_iff_mem honce, List.mem_reverse]

theorem mem_keys_ofEntries {l : List (String × α)} {key : String} :
    key ∈ (ofEntries l).entries.map Prod.fst ↔ key ∈ l.map Prod.fst := by
  have hnone : (ofEntries l).entries.lookup key = none ↔ l.lookup key = none := by
    rw [← get?, get?_ofEntries, lookup_eq_none_iff_count, lookup_eq_none_iff_count,
      List.map_reverse, List.count_reverse]
  rw [lookup_eq_none_iff_notMem, lookup_eq_none_iff_notMem] at hnone
  exact not_iff_not.1 hnone

/-- However often keys are written, there is one entry for each of them. -/
theorem size_ofEntries (l : List (String × α)) :
    (ofEntries l).size = (l.map Prod.fst).toFinset.card := by
  have hkeys : ((ofEntries l).entries.map Prod.fst).toFinset = (l.map Prod.fst).toFinset := by
    ext key
    rw [List.mem_toFinset, List.mem_toFinset, mem_keys_ofEntries]
  rw [← hkeys, List.toFinset_card_of_nodup (keys_nodup _), List.length_map, size]

end Dictionary

end StoreGuard
