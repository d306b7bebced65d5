import StoreGuard.Proofs.Pattern.Search
import StoreGuard.Proofs.Unicode.CodeSet

namespace StoreGuard.Pattern

open Unicode

/-- One character of a class, or so many in a row. -/
inductive Piece where
  | one (set : CodeSet)
  | run (least : Nat) (most : Option Nat) (set : CodeSet)

namespace Piece

def char (c : Char) : Piece := .one (CodeSet.single c.toNat)

def regex : Piece → Regex
  | one set => .chars set
  | run least most set => .repeat least most (.chars set)

def Takes : Piece → List Char → Prop
  | one set, s => ∃ c, s = [c] ∧ set.holdsChar c = true
  | run least most set, s =>
    least ≤ s.length ∧ (∀ m ∈ most, s.length ≤ m) ∧ ∀ c ∈ s, set.holdsChar c = true

end Piece

/-- The row as an expression that has to match a whole text. -/
def rowEnd (ps : List Piece) : Regex := ps.foldr (fun p r => .seq p.regex r) (.look .textEnd)

def wholeRow (ps : List Piece) : Regex := .seq (.look .textStart) (rowEnd ps)

/-- The text is cut into what the pieces take, one after the other. -/
def CutInto : List Piece → List Char → Prop
  | [], s => s = []
  | p :: ps, s => ∃ x y, s = x ++ y ∧ p.Takes x ∧ CutInto ps y

section Cuts

variable {ps : List Piece} {s : List Char}

theorem cutInto_one_iff {set : CodeSet} :
    CutInto (.one set :: ps) s ↔ ∃ c y, s = c :: y ∧ set.holdsChar c = true ∧ CutInto ps y := by
  constructor
  · rintro ⟨_, y, rfl, ⟨c, rfl, hc⟩, hy⟩
    exact ⟨c, y, rfl, hc, hy⟩
  · rintro ⟨c, y, rfl, hc, hy⟩
    exact ⟨[c], y, rfl, ⟨c, rfl, hc⟩, hy⟩

theorem cutInto_run_iff {least : Nat} {set : CodeSet} :
    CutInto (.run least none set :: ps) s ↔ ∃ x y, s = x ++ y ∧ least ≤ x.length ∧
      (∀ c ∈ x, set.holdsChar c = true) ∧ CutInto ps y := by
  simp [CutInto, Piece.Takes, and_assoc]

theorem cutInto_char_iff {c : Char} :
    CutInto (.char c :: ps) s ↔ ∃ y, s = c :: y ∧ CutInto ps y := by
  simp only [Piece.char, cutInto_one_iff, CodeSet.holdsChar_single]
  constructor
  · rintro ⟨_, y, hs, rfl, hy⟩
    exact ⟨y, hs, hy⟩
  · rintro ⟨y, hs, hy⟩
    exact ⟨c, y, hs, rfl, hy⟩

/-- A character that may be left out. -/
theorem cutInto_optional_iff {c : Char} :
    CutInto (.run 0 (some 1) (CodeSet.single c.toNat) :: ps) s ↔
      CutInto ps s ∨ ∃ y, s = c :: y ∧ CutInto ps y := by
  constructor
  · rintro ⟨x, y, rfl, ⟨-, hmost, hall⟩, hy⟩
    match x, hmost 1 rfl with
    | [], _ => exact .inl hy
    | [d], _ =>
      obtain rfl := (CodeSet.holdsChar_single c d).1 (hall d List.mem_cons_self)
      exact .inr ⟨y, rfl, hy⟩
  · rintro (hy | ⟨y, rfl, hy⟩)
    · exact ⟨[], s, rfl, ⟨Nat.le_refl 0, by simp, nofun⟩, hy⟩
    · exact ⟨[c], y, rfl, ⟨Nat.zero_le 1, by simp, by simp [CodeSet.holdsChar_single]⟩, hy⟩

theorem cutInto_word_iff {w : List Char} :
    CutInto (w.map .char ++ ps) s ↔ ∃ y, s = w ++ y ∧ CutInto ps y := by
  induction w generalizing s with
  | nil => simp
  | cons c w ih =>
    simp only [List.map_cons, List.cons_append, cutInto_char_iff, ih]
    constructor
    · rintro ⟨_, rfl, y, rfl, hy⟩
      exact ⟨y, rfl, hy⟩
    · rintro ⟨y, rfl, hy⟩
      exact ⟨_, rfl, y, rfl, hy⟩

end Cuts

section Occurrence

variable {set : CodeSet} {before after : Option Char} {s : List Char}

theorem matches_chars_iff :
    Matches (.chars set) before s after ↔ ∃ c, s = [c] ∧ set.holdsChar c = true := by
  constructor
  · rintro (_ | hc)
    exact ⟨_, rfl, hc⟩
  · rintro ⟨c, rfl, hc⟩
    exact .chars hc

theorem matches_look_iff {l : Look} :
    Matches (.look l) before s after ↔ s = [] ∧ l.holds before after = true := by
  constructor
  · rintro (_ | _ | hl)
    exact ⟨rfl, hl⟩
  · rintro ⟨rfl, hl⟩
    exact .look hl

theorem iterates_chars_iff {n : Nat} :
    Iterates (.chars set) n before s after ↔
      s.length = n ∧ ∀ c ∈ s, set.holdsChar c = true := by
  constructor
  · intro h
    induction h with
    | zero => exact ⟨rfl, nofun⟩
    | succ hfirst _ ih =>
      obtain ⟨c, rfl, hc⟩ := matches_chars_iff.1 hfirst
      exact ⟨congrArg (· + 1) ih.1, List.forall_mem_cons.2 ⟨hc, ih.2⟩⟩
  · rintro ⟨rfl, hall⟩
    induction s generalizing before with
    | nil => exact .zero
    | cons c s ih =>
      obtain ⟨hc, hs⟩ := List.forall_mem_cons.1 hall
      exact .succ (s := [c]) (.chars hc) (ih hs)

theorem matches_piece_iff {p : Piece} : Matches p.regex before s after ↔ p.Takes s := by
  cases p with
  | one set => exact matches_chars_iff
  | run least most set =>
    rw [Piece.regex, matches_repeat_iff]
    simp only [iterates_chars_iff, Piece.Takes]
    constructor
    · rintro ⟨n, hleast, hmost, rfl, hall⟩
      exact ⟨hleast, hmost, hall⟩
    · rintro ⟨hleast, hmost, hall⟩
      exact ⟨_, hleast, hmost, rfl, hall⟩

/-- What stands around a text decides only whether it is the last. -/
theorem matches_rowEnd_iff {ps : List Piece} :
    Matches (rowEnd ps) before s after ↔ CutInto ps s ∧ after = none := by
  induction ps generalizing before s with
  | nil =>
    rw [rowEnd, List.foldr_nil, matches_look_iff, Look.holds, Option.isNone_iff_eq_none]
    rfl
  | cons p ps ih =>
    rw [rowEnd, List.foldr_cons, ← rowEnd, matches_seq_iff]
    simp only [matches_piece_iff, ih, CutInto]
    constructor
    · rintro ⟨x, y, rfl, hx, hy, hlast⟩
      exact ⟨⟨x, y, rfl, hx, hy⟩, hlast⟩
    · rintro ⟨⟨x, y, rfl, hx, hy⟩, hlast⟩
      exact ⟨x, y, rfl, hx, hy, hlast⟩

theorem lastOr_none_eq_none_iff : lastOr none s = none ↔ s = [] := by
  simp [lastOr]

theorem headOr_none_eq_none_iff : headOr s none = none ↔ s = [] := by
  simp [headOr]

/-- A row occurs in a text exactly if the whole text can be cut into its pieces. -/
theorem occurs_wholeRow_iff {ps : List Piece} : Occurs (wholeRow ps) s ↔ CutInto ps s := by
  rw [Occurs, wholeRow]
  simp only [matches_seq_iff, matches_look_iff, matches_rowEnd_iff]
  constructor
  · rintro ⟨x, y, z, rfl, u, w, rfl, ⟨rfl, hstart⟩, hcut, hend⟩
    rw [headOr_none_eq_none_iff] at hend
    have hx : x = [] := lastOr_none_eq_none_iff.1 (Option.isNone_iff_eq_none.1 hstart)
    simpa [hx, hend] using hcut
  · intro hcut
    exact ⟨[], s, [], by simp, [], s, rfl, ⟨rfl, rfl⟩, hcut, rfl⟩

end Occurrence

end StoreGuard.Pattern
