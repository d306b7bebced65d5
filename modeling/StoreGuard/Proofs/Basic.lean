import Mathlib.Data.List.Count
import Mathlib.Data.List.Perm.Basic
import Mathlib.Tactic.SplitIfs
import StoreGuard.Dictionary

namespace StoreGuard

section Results

variable {ε α β : Type} {x : Except ε α} {b : β}

theorem exists_ok_of_map {f : α → β} (h : x.map f = .ok b) : ∃ a, x = .ok a ∧ f a = b := by
  cases x with
  | error e => cases h
  | ok a => exact ⟨a, rfl, Except.ok.inj h⟩

theorem exists_ok_of_bind {f : α → Except ε β} (h : x >>= f = .ok b) :
    ∃ a, x = .ok a ∧ f a = .ok b := by
  cases x with
  | error e => cases h
  | ok a => exact ⟨a, rfl, h⟩

theorem map_eq_ok_iff {f : α → β} : x.map f = .ok b ↔ ∃ a, x = .ok a ∧ f a = b := by
  refine ⟨exists_ok_of_map, ?_⟩
  rintro ⟨a, rfl, rfl⟩
  rfl

theorem bind_eq_ok_iff {f : α → Except ε β} : x >>= f = .ok b ↔ ∃ a, x = .ok a ∧ f a = .ok b := by
  refine ⟨exists_ok_of_bind, ?_⟩
  rintro ⟨a, rfl, h⟩
  exact h

end Results

section Lookups

variable {α : Type}

theorem lookup_cons_ite (key other : String) (value : α) (l : List (String × α)) :
    ((key, value) :: l).lookup other = if other = key then some value else l.lookup other := by
  by_cases h : other = key
  · rw [if_pos h, h, List.lookup_cons_self]
  · rw [if_neg h, List.lookup_cons, beq_false_of_ne h]

/-- The order of the entries plays no part: the new one stands before every other under its key. -/
theorem lookup_insertEntry (key other : String) (value : α) (l : List (String × α)) :
    (insertEntry key value l).lookup other = if other = key then some value else l.lookup other := by
  induction l with
  | nil => rw [insertEntry, lookup_cons_ite]
  | cons e rest ih =>
    obtain ⟨k, v⟩ := e
    rw [insertEntry, lookup_cons_ite k]
    split_ifs with hlt hkey hother hother <;> simp only [lookup_cons_ite, ih] <;> grind

theorem lookup_filter_key (keep : String → Bool) (key : String) (l : List (String × α)) :
    (l.filter fun e => keep e.1).lookup key = if keep key then l.lookup key else none := by
  induction l with
  | nil => simp
  | cons e rest ih =>
    obtain ⟨k, v⟩ := e
    rw [List.filter_cons, lookup_cons_ite]
    split_ifs with hk hkey hsame <;> simp only [lookup_cons_ite, ih] <;> grind

theorem lookup_of_mem {l : List (String × α)} (hl : Ordered l) {key : String} {value : α}
    (h : (key, value) ∈ l) : l.lookup key = some value := by
  induction l with
  | nil => cases h
  | cons e rest ih =>
    obtain ⟨k, v⟩ := e
    have ⟨first, later⟩ := List.pairwise_cons.1 hl
    rw [lookup_cons_ite]
    rcases List.mem_cons.1 h with heq | hrest
    · cases heq
      rw [if_pos rfl]
    · have hlt : k < key := first _ hrest
      rw [if_neg (String.ne_of_lt hlt).symm]
      exact ih later hrest

theorem mem_of_lookup {l : List (String × α)} {key : String} {value : α}
    (h : l.lookup key = some value) : (key, value) ∈ l := by
  obtain ⟨before, after, rfl, -⟩ := List.lookup_eq_some_iff.1 h
  exact List.mem_append_right _ List.mem_cons_self

theorem lookup_eq_none_iff_count {key : String} {l : List (String × α)} :
    l.lookup key = none ↔ (l.map Prod.fst).count key = 0 := by
  rw [List.count_eq_zero, List.lookup_eq_none_iff]
  simp only [bne_iff_ne, List.mem_map, not_exists, not_and]
  exact ⟨fun h e he hkey => h e he hkey.symm, fun h e he hkey => h e he hkey.symm⟩

theorem lookup_eq_none_iff_notMem {key : String} {l : List (String × α)} :
    l.lookup key = none ↔ key ∉ l.map Prod.fst := by
  rw [lookup_eq_none_iff_count, List.count_eq_zero]

/-- Where a key stands once at most, what is found under it is what stands there. -/
theorem lookup_eq_some_iff_mem {key : String} {value : α} {l : List (String × α)}
    (h : (l.map Prod.fst).count key ≤ 1) : l.lookup key = some value ↔ (key, value) ∈ l := by
  refine ⟨mem_of_lookup, fun hmem => ?_⟩
  induction l with
  | nil => cases hmem
  | cons e rest ih =>
    obtain ⟨k, v⟩ := e
    rw [lookup_cons_ite]
    rw [List.map_cons, List.count_cons] at h
    rcases List.mem_cons.1 hmem with heq | hrest
    · cases heq
      rw [if_pos rfl]
    · have hpos : 0 < (rest.map Prod.fst).count key :=
        List.count_pos_iff.2 (List.mem_map_of_mem hrest)
      have hne : key ≠ k := by
        rintro rfl
        simp only [beq_self_eq_true, if_true] at h
        omega
      rw [if_neg hne]
      exact ih (by omega) hrest

/-- Where a key stands once at most, it does not matter where. -/
theorem lookup_eq_of_perm {key : String} {l l' : List (String × α)}
    (h : (l.map Prod.fst).count key ≤ 1) (hperm : l.Perm l') : l.lookup key = l'.lookup key := by
  have h' : (l'.map Prod.fst).count key ≤ 1 := (hperm.map Prod.fst).count_eq key ▸ h
  refine Option.ext fun value => ?_
  rw [lookup_eq_some_iff_mem h, lookup_eq_some_iff_mem h', hperm.mem_iff]

end Lookups

end StoreGuard
