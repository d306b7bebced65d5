import Mathlib.Logic.Basic
import Mathlib.Tactic.SplitIfs
import StoreGuard.Pattern.Search

namespace StoreGuard.Pattern

open Regex

inductive Iterates (r : Regex) : Nat → Option Char → List Char → Option Char → Prop where
  | zero {b a} : Iterates r 0 b [] a
  | succ {n b a s u} : Matches r b s (headOr u a) → Iterates r n (lastOr b s) u a →
      Iterates r (n + 1) b (s ++ u) a

variable {r t : Regex} {before after : Option Char} {c : Char} {s : List Char}

@[simp] theorem lastOr_nil (before : Option Char) : lastOr before [] = before := rfl

@[simp] theorem lastOr_cons (before : Option Char) (c : Char) (s : List Char) :
    lastOr before (c :: s) = lastOr (some c) s := by
  rw [lastOr, lastOr, List.getLast?_cons]
  cases s.getLast? <;> rfl

@[simp] theorem headOr_nil (after : Option Char) : headOr [] after = after := rfl

@[simp] theorem headOr_cons (c : Char) (s : List Char) (after : Option Char) :
    headOr (c :: s) after = some c := rfl

section Iterations

/-- A repetition matches by some number of iterations between its bounds. -/
theorem matches_repeat_iff {least : Nat} {most : Option Nat} :
    Matches (.repeat least most r) before s after ↔
      ∃ n, least ≤ n ∧ (∀ m ∈ most, n ≤ m) ∧ Iterates r n before s after := by
  constructor
  · intro h
    generalize hq : Regex.repeat least most r = q at h
    induction h generalizing least most with
    | done =>
      cases hq
      exact ⟨0, Nat.le_refl 0, fun m _ => Nat.zero_le m, .zero⟩
    | more hfirst _ hmost _ ih =>
      cases hq
      obtain ⟨n, hleast, hn, hrest⟩ := ih rfl
      refine ⟨n + 1, by omega, fun m hm => ?_, .succ hfirst hrest⟩
      have hpred : n ≤ m - 1 := hn (m - 1) (by simp [Option.mem_def.1 hm])
      have hpos : m ≠ 0 := by
        rintro rfl
        exact hmost hm
      omega
    | _ => cases hq
  · rintro ⟨n, hleast, hn, h⟩
    induction h generalizing least most with
    | zero =>
      rw [Nat.le_zero.1 hleast]
      exact .done
    | @succ n before after s u hfirst _ ih =>
      have hmost : most ≠ some 0 := by
        rintro rfl
        exact absurd (hn 0 rfl) (by omega)
      refine .more hfirst (ih (by omega) fun m hm => ?_) hmost
      obtain ⟨m', hm', rfl⟩ := Option.map_eq_some_iff.1 hm
      have := hn m' hm'
      omega

theorem iterates_nil_iff {n : Nat} :
    Iterates r n before [] after ↔ n = 0 ∨ Matches r before [] after := by
  constructor
  · intro h
    generalize hs : ([] : List Char) = s at h
    cases h with
    | zero => exact Or.inl rfl
    | succ hfirst hrest =>
      obtain ⟨rfl, rfl⟩ := List.append_eq_nil_iff.1 hs.symm
      exact Or.inr hfirst
  · intro h
    induction n with
    | zero => exact .zero
    | succ n ih =>
      have hmatch : Matches r before [] after := h.resolve_left (Nat.succ_ne_zero n)
      exact .succ (s := []) (u := []) hmatch (ih (Or.inr hmatch))

/-- Of the iterations that match a text which is not empty, the first few may match nothing, then
one takes the first character, and the others the rest. -/
theorem iterates_cons_iff {n : Nat} :
    Iterates r n before (c :: s) after ↔
      ∃ k j x y, n = k + 1 + j ∧ s = x ++ y ∧ (k = 0 ∨ Matches r before [] (some c)) ∧
        Matches r before (c :: x) (headOr y after) ∧ Iterates r j (lastOr (some c) x) y after := by
  constructor
  · intro h
    generalize hs : c :: s = w at h
    induction h with
    | zero => cases hs
    | @succ n before after x y hfirst hrest ih =>
      rcases List.cons_eq_append_iff.1 hs with ⟨rfl, rfl⟩ | ⟨x', rfl, rfl⟩
      · obtain ⟨k, j, x, y, rfl, rfl, hk, htake, hothers⟩ := ih rfl
        exact ⟨k + 1, j, x, y, by omega, rfl, Or.inr hfirst, htake, hothers⟩
      · rw [lastOr_cons] at hrest
        exact ⟨0, n, x', y, by omega, rfl, Or.inl rfl, hfirst, hrest⟩
  · rintro ⟨k, j, x, y, rfl, rfl, hk, htake, hothers⟩
    have hone : Iterates r (j + 1) before (c :: (x ++ y)) after :=
      .succ (s := c :: x) htake (by rwa [lastOr_cons])
    induction k with
    | zero => rwa [Nat.zero_add, Nat.add_comm]
    | succ k ih =>
      have hmatch : Matches r before [] (some c) := hk.resolve_left (Nat.succ_ne_zero k)
      rw [show k + 1 + 1 + j = k + 1 + j + 1 by omega]
      exact .succ (s := []) hmatch (ih (Or.inr hmatch))

end Iterations

theorem matches_seq_iff :
    Matches (.seq r t) before s after ↔
      ∃ x y, s = x ++ y ∧ Matches r before x (headOr y after) ∧
        Matches t (lastOr before x) y after := by
  constructor
  · rintro (_ | _)
    exact ⟨_, _, rfl, ‹_›, ‹_›⟩
  · rintro ⟨x, y, rfl, hr, ht⟩
    exact .seq hr ht

theorem matches_alt_iff :
    Matches (.alt r t) before s after ↔ Matches r before s after ∨ Matches t before s after := by
  constructor
  · intro h
    cases h with
    | left h => exact Or.inl h
    | right h => exact Or.inr h
  · rintro (h | h)
    · exact .left h
    · exact .right h

theorem matches_group_iff : Matches (.group r) before s after ↔ Matches r before s after :=
  ⟨fun | .group h => h, .group⟩

theorem matches_cat_iff : Matches (cat r t) before s after ↔ Matches (.seq r t) before s after := by
  cases r with
  | empty =>
    rw [cat, matches_seq_iff]
    constructor
    · exact fun h => ⟨[], s, rfl, .empty, h⟩
    · rintro ⟨x, y, rfl, ⟨⟩, ht⟩
      exact ht
  | _ => rfl

/-- An expression is nullable where it matches the empty text. -/
theorem nullable_iff : r.nullable before after = true ↔ Matches r before [] after := by
  induction r with
  | empty => exact ⟨fun _ => .empty, fun _ => rfl⟩
  | chars set => exact ⟨nofun, nofun⟩
  | look test => exact ⟨.look, fun | .look h => h⟩
  | seq r t ihr iht =>
    rw [nullable, Bool.and_eq_true, ihr, iht, matches_seq_iff]
    constructor
    · rintro ⟨hr, ht⟩
      exact ⟨[], [], rfl, hr, ht⟩
    · rintro ⟨x, y, hs, hr, ht⟩
      obtain ⟨rfl, rfl⟩ := List.append_eq_nil_iff.1 hs.symm
      exact ⟨hr, ht⟩
  | alt r t ihr iht => rw [nullable, Bool.or_eq_true, ihr, iht, matches_alt_iff]
  | «repeat» least most r ih =>
    simp only [nullable, Bool.or_eq_true, Bool.and_eq_true, decide_eq_true_eq, Option.all_eq_true,
      ih, matches_repeat_iff, iterates_nil_iff]
    constructor
    · rintro (rfl | ⟨hbounds, h⟩)
      · exact ⟨0, Nat.le_refl 0, fun m _ => Nat.zero_le m, Or.inl rfl⟩
      · exact ⟨least, Nat.le_refl least, hbounds, Or.inr h⟩
    · rintro ⟨n, hleast, hn, rfl | h⟩
      · exact Or.inl (Nat.le_zero.1 hleast)
      · exact Or.inr ⟨fun m hm => Nat.le_trans hleast (hn m hm), h⟩
  | group r ih => rw [nullable, ih, matches_group_iff]

theorem mem_after_repeat_iff {least : Nat} {most : Option Nat} :
    t ∈ (Regex.repeat least most r).after before c ↔
      most ≠ some 0 ∧ (∀ m ∈ most, least ≤ m) ∧ ∃ r' ∈ r.after before c,
        t = cat r' (.repeat (if r.nullable before (some c) then 0 else least - 1)
          (most.map (· - 1)) r) := by
  have hguard : (decide (most = some 0) || !most.all (least ≤ ·)) = true ↔
      ¬(most ≠ some 0 ∧ ∀ m ∈ most, least ≤ m) := by
    simp only [Bool.or_eq_true, Bool.not_eq_true', decide_eq_true_eq, ← Bool.not_eq_true,
      Option.all_eq_true, not_and_or, not_not, Option.mem_def]
  rw [Regex.after, ← and_assoc]
  by_cases h : most ≠ some 0 ∧ ∀ m ∈ most, least ≤ m
  · rw [if_neg fun hg => hguard.1 hg h, and_iff_right h]
    simp only [List.mem_map, @eq_comm _ _ t]
  · rw [if_pos (hguard.2 h)]
    simp only [h, List.not_mem_nil, false_and]

/-- What is left after a character matches what follows it, and nothing else does. -/
theorem exists_after_iff :
    (∃ t ∈ r.after before c, Matches t (some c) s after) ↔ Matches r before (c :: s) after := by
  induction r generalizing s after with
  | empty => exact ⟨nofun, nofun⟩
  | chars set =>
    rw [Regex.after]
    split_ifs with h
    · constructor
      · rintro ⟨t, ht, hmatch⟩
        rw [List.mem_singleton.1 ht] at hmatch
        cases hmatch
        exact .chars h
      · rintro ⟨⟩
        exact ⟨.empty, List.mem_singleton_self _, .empty⟩
    · constructor
      · exact nofun
      · rintro (_ | hc)
        exact absurd hc h
  | look test => exact ⟨nofun, nofun⟩
  | seq r t ihr iht =>
    rw [Regex.after, matches_seq_iff]
    constructor
    · rintro ⟨q, hq, hmatch⟩
      rcases List.mem_append.1 hq with hq | hq
      · obtain ⟨r', hr', rfl⟩ := List.mem_map.1 hq
        obtain ⟨x, y, rfl, hx, hy⟩ := matches_seq_iff.1 (matches_cat_iff.1 hmatch)
        refine ⟨c :: x, y, rfl, ihr.1 ⟨r', hr', hx⟩, ?_⟩
        rwa [lastOr_cons]
      · split_ifs at hq with hnull
        · exact ⟨[], c :: s, rfl, nullable_iff.1 hnull, iht.1 ⟨q, hq, hmatch⟩⟩
        · cases hq
    · rintro ⟨x, y, hs, hx, hy⟩
      rcases List.cons_eq_append_iff.1 hs with ⟨rfl, rfl⟩ | ⟨x, rfl, rfl⟩
      · obtain ⟨t', ht', hmatch⟩ := iht.2 hy
        have hnull : r.nullable before (some c) = true := nullable_iff.2 hx
        refine ⟨t', List.mem_append_right _ ?_, hmatch⟩
        rwa [if_pos hnull]
      · obtain ⟨r', hr', hmatch⟩ := ihr.2 hx
        rw [lastOr_cons] at hy
        exact ⟨cat r' t, List.mem_append_left _ (List.mem_map_of_mem hr'),
          matches_cat_iff.2 (.seq hmatch hy)⟩
  | alt r t ihr iht =>
    simp only [Regex.after, List.mem_append, or_and_right, exists_or, ihr, iht, matches_alt_iff]
  | «repeat» least most r ih =>
    rw [matches_repeat_iff]
    constructor
    · rintro ⟨t, ht, hmatch⟩
      obtain ⟨hpos, hbounds, r', hr', rfl⟩ := mem_after_repeat_iff.1 ht
      obtain ⟨x, y, rfl, hx, hy⟩ := matches_seq_iff.1 (matches_cat_iff.1 hmatch)
      obtain ⟨j, hleast, hmost, hj⟩ := matches_repeat_iff.1 hy
      have hpred : ∀ m ∈ most, j + 1 ≤ m := by
        intro m hm
        have hle : j ≤ m - 1 := hmost (m - 1) (by simp [Option.mem_def.1 hm])
        have hne : m ≠ 0 := fun h => hpos (h ▸ hm)
        omega
      have hfirst : Matches r before (c :: x) (headOr y after) := ih.1 ⟨r', hr', hx⟩
      split_ifs at hleast with hnull
      · -- Iterations over nothing make up for those that the bound still asks for.
        have hempty : Matches r before [] (some c) := nullable_iff.1 hnull
        refine ⟨least - 1 - j + 1 + j, by omega, fun m hm => ?_,
          iterates_cons_iff.2 ⟨_, j, x, y, rfl, rfl, Or.inr hempty, hfirst, hj⟩⟩
        have := hbounds m hm
        have := hpred m hm
        omega
      · refine ⟨0 + 1 + j, by omega, fun m hm => ?_,
          iterates_cons_iff.2 ⟨0, j, x, y, rfl, rfl, Or.inl rfl, hfirst, hj⟩⟩
        have := hpred m hm
        omega
    · rintro ⟨n, hleast, hmost, hn⟩
      obtain ⟨k, j, x, y, rfl, rfl, hk, hfirst, hj⟩ := iterates_cons_iff.1 hn
      obtain ⟨r', hr', hx⟩ := ih.2 hfirst
      refine ⟨_, mem_after_repeat_iff.2 ⟨?_, fun m hm => ?_, r', hr', rfl⟩,
        matches_cat_iff.2 (.seq hx (matches_repeat_iff.2 ⟨j, ?_, fun m hm => ?_, hj⟩))⟩
      · rintro rfl
        exact absurd (hmost 0 rfl) (by omega)
      · exact Nat.le_trans hleast (hmost m hm)
      · split_ifs with hnull
        · exact Nat.zero_le j
        · have hzero : k = 0 := hk.resolve_right fun h => hnull (nullable_iff.2 h)
          omega
      · obtain ⟨m', hm', rfl⟩ := Option.map_eq_some_iff.1 hm
        have := hmost m' hm'
        omega
  | group r ih => rw [Regex.after, ih, matches_group_iff]

theorem mem_distinct {acc l : List Regex} : t ∈ distinct acc l ↔ t ∈ acc ∨ t ∈ l := by
  induction l generalizing acc with
  | nil => simp [distinct]
  | cons r l ih =>
    rw [distinct]
    split_ifs with h
    · have hr : r ∈ acc := List.contains_iff_mem.1 h
      rw [ih, List.mem_cons]
      grind
    · rw [ih, List.mem_cons, List.mem_cons]
      grind

def Begins (r : Regex) (before : Option Char) (s : List Char) : Prop :=
  ∃ y z, s = y ++ z ∧ Matches r before y (headOr z none)

theorem begins_nil_iff : Begins r before [] ↔ r.nullable before none = true := by
  rw [nullable_iff]
  constructor
  · rintro ⟨y, z, hs, h⟩
    obtain ⟨rfl, rfl⟩ := List.append_eq_nil_iff.1 hs.symm
    exact h
  · exact fun h => ⟨[], [], rfl, h⟩

theorem begins_cons_iff :
    Begins r before (c :: s) ↔
      r.nullable before (some c) = true ∨ ∃ t ∈ r.after before c, Begins t (some c) s := by
  constructor
  · rintro ⟨y, z, hs, h⟩
    rcases List.cons_eq_append_iff.1 hs with ⟨rfl, rfl⟩ | ⟨y, rfl, rfl⟩
    · exact Or.inl (nullable_iff.2 h)
    · obtain ⟨t, ht, hmatch⟩ := exists_after_iff.2 h
      exact Or.inr ⟨t, ht, y, z, rfl, hmatch⟩
  · rintro (h | ⟨t, ht, y, z, rfl, hmatch⟩)
    · exact ⟨[], c :: s, rfl, nullable_iff.1 h⟩
    · exact ⟨c :: y, z, rfl, exists_after_iff.1 ⟨t, ht, hmatch⟩⟩

/-- The search finds what is left of the matches that began before, and the matches that begin
here or later. -/
theorem searchFrom_iff {pending : List Regex} :
    searchFrom r before pending s = true ↔
      (∃ t ∈ pending, Begins t before s) ∨ ∃ x w, s = x ++ w ∧ Begins r (lastOr before x) w := by
  induction s generalizing before pending with
  | nil =>
    simp only [searchFrom, List.any_eq_true, List.mem_cons, exists_eq_or_imp, ← begins_nil_iff]
    rw [or_comm]
    refine or_congr_right ⟨fun h => ⟨[], [], rfl, h⟩, ?_⟩
    rintro ⟨x, w, hs, h⟩
    obtain ⟨rfl, rfl⟩ := List.append_eq_nil_iff.1 hs.symm
    exact h
  | cons c s ih =>
    -- A match that begins at or after the first character begins there or after it.
    have hlater : (∃ x w, c :: s = x ++ w ∧ Begins r (lastOr before x) w) ↔
        Begins r before (c :: s) ∨ ∃ x w, s = x ++ w ∧ Begins r (lastOr (some c) x) w := by
      constructor
      · rintro ⟨x, w, hs, h⟩
        rcases List.cons_eq_append_iff.1 hs with ⟨rfl, rfl⟩ | ⟨x, rfl, rfl⟩
        · exact Or.inl h
        · rw [lastOr_cons] at h
          exact Or.inr ⟨x, w, rfl, h⟩
      · rintro (h | ⟨x, w, rfl, h⟩)
        · exact ⟨[], c :: s, rfl, h⟩
        · refine ⟨c :: x, w, rfl, ?_⟩
          rwa [lastOr_cons]
    have hnow (l : List Regex) : (∃ t ∈ l, Begins t before (c :: s)) ↔
        l.any (fun t => t.nullable before (some c)) = true ∨
          ∃ t ∈ distinct [] (l.flatMap fun t => t.after before c), Begins t (some c) s := by
      simp only [begins_cons_iff, List.any_eq_true, mem_distinct, List.not_mem_nil, false_or,
        List.mem_flatMap, and_or_left, exists_or]
      refine or_congr_right ⟨?_, ?_⟩
      · rintro ⟨t, ht, t', ht', h⟩
        exact ⟨t', ⟨t, ht, ht'⟩, h⟩
      · rintro ⟨t', ⟨t, ht, ht'⟩, h⟩
        exact ⟨t, ht, t', ht', h⟩
    rw [hlater, searchFrom, Bool.or_eq_true, ih, ← or_assoc, ← hnow]
    simp only [List.mem_cons, exists_eq_or_imp]
    rw [or_assoc]
    exact or_left_comm

/-- The search answers that an expression matches some part of a text exactly if it does. -/
theorem occurs_iff : r.occurs s = true ↔ Occurs r s := by
  rw [Regex.occurs, searchFrom_iff, Occurs]
  simp only [List.not_mem_nil, false_and, exists_false, false_or]
  constructor
  · rintro ⟨x, w, rfl, y, z, rfl, h⟩
    exact ⟨x, y, z, (List.append_assoc x y z).symm, h⟩
  · rintro ⟨x, y, z, rfl, h⟩
    exact ⟨x, y ++ z, List.append_assoc x y z, y, z, rfl, h⟩

end StoreGuard.Pattern
