import Mathlib.Tactic.SplitIfs
import StoreGuard.Unicode.CodeSet

namespace StoreGuard.Unicode.CodeSet

variable {n : Nat}

theorem holds_cons (r : Nat × Nat) (s : CodeSet) :
    holds (r :: s) n = true ↔ (r.1 ≤ n ∧ n ≤ r.2) ∨ holds s n = true := by
  simp [holds]

theorem holdsChar_single (c d : Char) : holdsChar (single c.toNat) d = true ↔ d = c := by
  have hsame : holdsChar (single c.toNat) d = true ↔ d.toNat = c.toNat := by
    simp [holdsChar, holds, single]
    omega
  exact hsame.trans Char.toNat_inj

section Apart

def Apart (s t : CodeSet) : Prop := ∀ q ∈ s, ∀ r ∈ t, q.2 < r.1 ∨ r.2 < q.1

instance (s t : CodeSet) : Decidable (Apart s t) :=
  inferInstanceAs (Decidable (∀ q ∈ s, ∀ r ∈ t, q.2 < r.1 ∨ r.2 < q.1))

theorem Apart.holds_eq_false {s t : CodeSet} (h : Apart s t) (hs : holds s n = true) :
    holds t n = false := by
  apply Bool.eq_false_iff.2
  intro ht
  obtain ⟨q, hq, hqn⟩ := List.any_eq_true.1 hs
  obtain ⟨r, hr, hrn⟩ := List.any_eq_true.1 ht
  simp only [Bool.and_eq_true, decide_eq_true_eq] at hqn hrn
  have := h q hq r hr
  omega

end Apart

section Union

theorem holds_insertRange {r : Nat × Nat} {s : CodeSet} (hr : r.1 ≤ r.2)
    (hs : ∀ q ∈ s, q.1 ≤ q.2) :
    holds (insertRange r s) n = true ↔ (r.1 ≤ n ∧ n ≤ r.2) ∨ holds s n = true := by
  induction s generalizing r with
  | nil => exact holds_cons r []
  | cons q rest ih =>
    obtain ⟨hq, hrest⟩ := List.forall_mem_cons.1 hs
    rw [insertRange]
    split_ifs with hbefore hbehind
    · rw [holds_cons]
    · rw [holds_cons, holds_cons, ih hr hrest]
      exact or_left_comm
    · -- Ranges that meet or touch leave nothing between them.
      rw [ih (by omega) hrest, holds_cons, ← or_assoc]
      refine or_congr_left ?_
      omega

theorem nonempty_insertRange {r : Nat × Nat} {s : CodeSet} (hr : r.1 ≤ r.2)
    (hs : ∀ q ∈ s, q.1 ≤ q.2) : ∀ q ∈ insertRange r s, q.1 ≤ q.2 := by
  induction s generalizing r with
  | nil => simpa [insertRange] using hr
  | cons q rest ih =>
    obtain ⟨hq, hrest⟩ := List.forall_mem_cons.1 hs
    rw [insertRange]
    split_ifs with hbefore hbehind
    · exact List.forall_mem_cons.2 ⟨hr, hs⟩
    · exact List.forall_mem_cons.2 ⟨hq, ih hr hrest⟩
    · exact ih (by omega) hrest

theorem nonempty_ofRanges {l : List (Nat × Nat)} (h : ∀ q ∈ l, q.1 ≤ q.2) :
    ∀ q ∈ ofRanges l, q.1 ≤ q.2 := by
  induction l with
  | nil => exact h
  | cons q l ih =>
    obtain ⟨hq, hl⟩ := List.forall_mem_cons.1 h
    exact nonempty_insertRange hq (ih hl)

/-- Ranges in any order hold the same when they are put in order. -/
theorem holds_ofRanges {l : List (Nat × Nat)} (h : ∀ q ∈ l, q.1 ≤ q.2) :
    holds (ofRanges l) n = true ↔ holds l n = true := by
  induction l with
  | nil => rfl
  | cons q l ih =>
    obtain ⟨hq, hl⟩ := List.forall_mem_cons.1 h
    have hinsert : ofRanges (q :: l) = insertRange q (ofRanges l) := rfl
    rw [hinsert, holds_insertRange hq (nonempty_ofRanges hl), ih hl, holds_cons]

theorem holdsChar_union {s t : CodeSet} (h : ∀ q ∈ s ++ t, q.1 ≤ q.2) (c : Char) :
    holdsChar (union s t) c = (holdsChar s c || holdsChar t c) := by
  rw [Bool.eq_iff_iff, holdsChar, union, holds_ofRanges h]
  simp [holds, holdsChar]

end Union

section Complement

/-- The ranges go up from `lo` on without meeting, and end within the code points. -/
def Ascends (lo : Nat) : CodeSet → Prop
  | [] => True
  | r :: rest => lo ≤ r.1 ∧ r.1 ≤ r.2 ∧ r.2 ≤ lastCodePoint ∧ Ascends (r.2 + 1) rest

instance decidableAscends (lo : Nat) : (s : CodeSet) → Decidable (Ascends lo s)
  | [] => inferInstanceAs (Decidable True)
  | r :: rest =>
    have := decidableAscends (r.2 + 1) rest
    inferInstanceAs
      (Decidable (lo ≤ r.1 ∧ r.1 ≤ r.2 ∧ r.2 ≤ lastCodePoint ∧ Ascends (r.2 + 1) rest))

theorem Ascends.le_of_holds {lo : Nat} {s : CodeSet} (h : Ascends lo s) (hn : holds s n = true) :
    lo ≤ n := by
  induction s generalizing lo with
  | nil => cases hn
  | cons r rest ih =>
    obtain ⟨hlo, hr, -, hrest⟩ := h
    rcases (holds_cons r rest).1 hn with hn | hn
    · omega
    · have := ih hrest hn
      omega

theorem Ascends.holds_gaps {lo : Nat} {s : CodeSet} (h : Ascends lo s) :
    holds (gaps lo s) n = true ↔ lo ≤ n ∧ n ≤ lastCodePoint ∧ ¬holds s n = true := by
  induction s generalizing lo with
  | nil =>
    rw [gaps]
    split_ifs with hlo
    · simp [holds]
    · simp [holds]
      omega
  | cons r rest ih =>
    obtain ⟨hlo, hr, hlast, hrest⟩ := h
    have hlater : holds rest n = true → r.2 + 1 ≤ n := hrest.le_of_holds
    rw [gaps]
    split_ifs with hgap
    · rw [holds_cons, holds_cons, ih hrest]
      grind
    · rw [holds_cons, ih hrest]
      grind

/-- A character is in a set or in what the set leaves out. -/
theorem holdsChar_negate {s : CodeSet} (h : Ascends 0 s) (c : Char) :
    holdsChar (negate s) c = !holdsChar s c := by
  have hlast : c.toNat ≤ lastCodePoint := by
    rcases c.valid with hc | hc <;> simp only [lastCodePoint, Char.toNat] at * <;> omega
  rw [Bool.eq_iff_iff, holdsChar, negate, h.holds_gaps, Bool.not_eq_true', holdsChar,
    Bool.not_eq_true]
  simp [hlast]

end Complement

end StoreGuard.Unicode.CodeSet
