import StoreGuard.Json.Decode
import StoreGuard.Proofs.Basic
import StoreGuard.Proofs.Json.Tree

namespace StoreGuard.Json

def paired (high low : Nat) : Char :=
  Char.ofNat (0x10000 + (high - 0xD800) * 0x400 + (low - 0xDC00))

/-- Pieces and the characters that they make. A surrogate makes one together with the next. -/
inductive Decodes : List Piece → List Char → Prop where
  | nil : Decodes [] []
  | char {c : Char} {ps : List Piece} {s : List Char} (h : Decodes ps s) :
    Decodes (.char c :: ps) (c :: s)
  | unit {n : Nat} {ps : List Piece} {s : List Char} (hscalar : n < 0xD800 ∨ 0xDFFF < n)
    (h : Decodes ps s) : Decodes (.unit n :: ps) (Char.ofNat n :: s)
  | pair {n m : Nat} {ps : List Piece} {s : List Char} (hhigh : 0xD800 ≤ n ∧ n ≤ 0xDBFF)
    (hlow : 0xDC00 ≤ m ∧ m ≤ 0xDFFF) (h : Decodes ps s) :
    Decodes (.unit n :: .unit m :: ps) (paired n m :: s)

def Quoted.Says (q : Quoted) (s : String) : Prop := q.fault = none ∧ Decodes q.pieces s.toList

def IsNamed (m : Quoted × Node) (e : String × Node) : Prop := m.1.Says e.1 ∧ m.2 = e.2

/-- A tree and the value that it is of, with the members as they are written. A number that is too
large for its format has no value, and neither has a string with half a pair of surrogates. -/
inductive Node.Says : Node → Json → Prop where
  | null : Says .null .null
  | bool (b : Bool) : Says (.bool b) (.bool b)
  | number {m : Numeral} {j : Json} (h : m.value = .ok j) : Says (.number m) j
  | string {q : Quoted} {s : String} (h : q.Says s) : Says (.string q) (.string s)
  | array {l : List (Node × Json)} (h : ∀ p ∈ l, Says p.1 p.2) :
    Says (.array (l.map Prod.fst) none) (.array (l.map Prod.snd))
  | object {l : List ((Quoted × Node) × (String × Json))} (hname : ∀ p ∈ l, p.1.1.Says p.2.1)
    (h : ∀ p ∈ l, Says p.1.2 p.2.2) :
    Says (.object (l.map Prod.fst) none) (.object (l.map Prod.snd))

section Strings

theorem readPieces_unit {n : Nat} (h : n < 0xD800 ∨ 0xDFFF < n) (ps : List Piece) :
    readPieces none (.unit n :: ps) = (readPieces none ps).map (Char.ofNat n :: ·) := by
  have hlow : lowSurrogate n = false := by
    simp only [lowSurrogate, Bool.and_eq_false_iff, decide_eq_false_iff_not]
    omega
  have hhigh : highSurrogate n = false := by
    simp only [highSurrogate, Bool.and_eq_false_iff, decide_eq_false_iff_not]
    omega
  rw [readPieces.eq_def]
  simp [hlow, hhigh]

theorem readPieces_pair {n m : Nat} (hhigh : 0xD800 ≤ n ∧ n ≤ 0xDBFF)
    (hlow : 0xDC00 ≤ m ∧ m ≤ 0xDFFF) (ps : List Piece) :
    readPieces none (.unit n :: .unit m :: ps) = (readPieces none ps).map (paired n m :: ·) := by
  have hn : lowSurrogate n = false := by
    simp only [lowSurrogate, Bool.and_eq_false_iff, decide_eq_false_iff_not]
    omega
  have hn' : highSurrogate n = true := by simpa [highSurrogate] using hhigh
  have hm : lowSurrogate m = true := by simpa [lowSurrogate] using hlow
  rw [readPieces.eq_def]
  simp [hn, hn', hm, paired]

/-- A string is read exactly if it was read to its end and its pieces make characters. -/
theorem readPieces_eq_ok_iff {fault : Option Fault} {ps : List Piece} {s : List Char} :
    readPieces fault ps = .ok s ↔ fault = none ∧ Decodes ps s := by
  constructor
  · intro h
    fun_induction readPieces fault ps generalizing s with
    | case1 =>
      obtain ⟨_, hfault, rfl⟩ := map_eq_ok_iff.1 h
      cases fault with
      | none => exact ⟨rfl, .nil⟩
      | some f => cases hfault
    | case2 c ps ih =>
      obtain ⟨t, ht, rfl⟩ := map_eq_ok_iff.1 h
      exact ⟨(ih ht).1, .char (ih ht).2⟩
    | case3 n ps hlow => cases h
    | case4 n hlow hhigh => cases h
    | case5 n hlow hhigh m ps hm ih =>
      obtain ⟨t, ht, rfl⟩ := map_eq_ok_iff.1 h
      refine ⟨(ih ht).1, .pair ?_ ?_ (ih ht).2⟩
      · simpa [highSurrogate] using hhigh
      · simpa [lowSurrogate] using hm
    | case6 n hlow hhigh m ps hm => cases h
    | case7 n hlow hhigh c ps => cases h
    | case8 n ps hlow hhigh ih =>
      obtain ⟨t, ht, rfl⟩ := map_eq_ok_iff.1 h
      refine ⟨(ih ht).1, .unit ?_ (ih ht).2⟩
      simp only [lowSurrogate, highSurrogate, Bool.and_eq_true, decide_eq_true_eq] at hlow hhigh
      omega
  · rintro ⟨rfl, h⟩
    induction h with
    | nil => rfl
    | char h ih => rw [readPieces, ih]; rfl
    | unit hscalar h ih => rw [readPieces_unit hscalar, ih]; rfl
    | pair hhigh hlow h ih => rw [readPieces_pair hhigh hlow, ih]; rfl

theorem Quoted.text_eq_ok_iff {q : Quoted} {s : String} : q.text = .ok s ↔ q.Says s := by
  rw [Quoted.text, map_eq_ok_iff]
  simp only [readPieces_eq_ok_iff]
  constructor
  · rintro ⟨t, ⟨hfault, hdecodes⟩, rfl⟩
    refine ⟨hfault, ?_⟩
    rwa [String.toList_ofList]
  · intro h
    exact ⟨s.toList, h, String.ofList_toList⟩

theorem Quoted.Says.unique {q : Quoted} {s t : String} (hs : q.Says s) (ht : q.Says t) : s = t := by
  have hread : (Except.ok s : Reading String) = .ok t := by
    rw [← text_eq_ok_iff.2 hs, ← text_eq_ok_iff.2 ht]
  exact Except.ok.inj hread

theorem IsNamed.unique {m : Quoted × Node} {e e' : String × Node} (h : IsNamed m e)
    (h' : IsNamed m e') : e = e' :=
  Prod.ext (h.1.unique h'.1) (h.2.symm.trans h'.2)

theorem decodes_map_pieceOf (cs : List Char) : Decodes (cs.map pieceOf) cs := by
  induction cs with
  | nil => exact .nil
  | cons c cs ih =>
    rw [List.map_cons, pieceOf]
    split_ifs with hcontrol
    · have hunit := Decodes.unit (n := c.toNat) (by omega) ih
      rwa [Char.ofNat_toNat] at hunit
    · exact .char ih

theorem says_quotedOf (s : String) : (quotedOf s).Says s := ⟨rfl, decodes_map_pieceOf s.toList⟩

end Strings

section Numbers

variable {m : Numeral} {j : Json}

theorem Numeral.read_eq_ok_iff : m.read = .ok j ↔ m.value = .ok j := by
  rw [read]
  cases m.value with
  | ok v => simp
  | error f => simp [failAt]

/-- A number with a point or an exponent, or of more than 64 bits, is no whole number. -/
theorem Numeral.exists_float_of_floating (h : m.floating = .ok j) : ∃ x, j = .float x := by
  have hscale {k : Nat} {e : Int} (h : (scale k e).map (withSign m.negative) = .ok j) :
      ∃ x, j = .float x := by
    obtain ⟨x, -, rfl⟩ := exists_ok_of_map h
    exact ⟨_, rfl⟩
  unfold floating at h
  dsimp only at h
  split at h
  · exact hscale h
  · split_ifs at h
    · exact hscale h
    · exact ⟨_, (Except.ok.inj h).symm⟩

theorem Numeral.value_cases (h : m.value = .ok j) : (∃ n, j = .int n) ∨ ∃ x, j = .float x := by
  unfold value at h
  dsimp only at h
  split_ifs at h
  · exact .inl ⟨_, (Except.ok.inj h).symm⟩
  · exact .inr (exists_float_of_floating h)

theorem Numeral.value_ne_null : m.value ≠ .ok .null := by
  intro h
  rcases value_cases h with ⟨n, hn⟩ | ⟨x, hx⟩ <;> contradiction

theorem Numeral.value_ne_string {s : String} : m.value ≠ .ok (.string s) := by
  intro h
  rcases value_cases h with ⟨n, hn⟩ | ⟨x, hx⟩ <;> contradiction

theorem Numeral.value_ne_object {ms : List (String × Json)} : m.value ≠ .ok (.object ms) := by
  intro h
  rcases value_cases h with ⟨n, hn⟩ | ⟨x, hx⟩ <;> contradiction

theorem value_toDigits {n : Int} (h : fitsWord n = true) :
    Numeral.value ⟨n < 0, Nat.toDigits 10 n.natAbs, none, none⟩ = .ok (.int n) := by
  have hexact : Floating.signed (decide (n < 0)) n.natAbs = n := by
    rw [Floating.signed]
    split_ifs with hn <;> simp only [decide_eq_true_eq] at hn <;> omega
  have hzero : 0 ≤ n ∨ ¬n = 0 := by omega
  rw [Numeral.value]
  simp [hexact, hzero, h]

end Numbers

section Values

variable {n : Node} {j : Json}

/-- What is printed for a value is read as a tree of that value. -/
theorem Exact.says_tree (h : j.Exact) : (tree j).Says j := by
  induction h with
  | null => exact .null
  | bool b => exact .bool b
  | int h => exact .number (value_toDigits h)
  | string s => exact .string (says_quotedOf s)
  | @array vs h ih =>
    have harray := Node.Says.array (l := vs.map fun v => (tree v, v)) (List.forall_mem_map.2 ih)
    rw [tree, trees_eq_map]
    simpa [Function.comp_def] using harray
  | @object ms h ih =>
    have hobject := Node.Says.object (l := ms.map fun m => ((quotedOf m.1, tree m.2), m))
      (List.forall_mem_map.2 fun m _ => says_quotedOf m.1) (List.forall_mem_map.2 ih)
    rw [tree, memberTrees_eq_map]
    simpa [Function.comp_def] using hobject

theorem refuse_ne_ok {α : Type} (expected : String) (n : Node) (a : α) :
    n.refuse expected ≠ .ok a := by
  intro h
  obtain ⟨f, -, hf⟩ := exists_ok_of_bind h
  cases hf

theorem says_string_iff {q : Quoted} {s : String} : (Node.string q).Says (.string s) ↔ q.Says s := by
  refine ⟨fun h => ?_, .string⟩
  cases h with
  | string h => exact h

/-- Only a string is read as a text. -/
theorem text_eq_ok_iff {s : String} : n.text = .ok s ↔ n.Says (.string s) := by
  cases n with
  | string q => exact Quoted.text_eq_ok_iff.trans says_string_iff.symm
  | number m =>
    refine iff_of_false (refuse_ne_ok _ _ _) fun h => ?_
    cases h with
    | number h => exact absurd h Numeral.value_ne_string
  | _ => exact iff_of_false (refuse_ne_ok _ _ _) nofun

theorem says_null_iff : n.Says .null ↔ n = .null := by
  constructor
  · intro h
    cases h with
    | null => rfl
    | number h => exact absurd h Numeral.value_ne_null
  · rintro rfl
    exact .null

/-- Only null and strings are read as a text that may be missing. -/
theorem text?_eq_ok_iff {m : Option String} : n.text? = .ok m ↔ n.Says (m.elim .null .string) := by
  by_cases hn : n = .null
  · subst hn
    cases m with
    | none => exact iff_of_true rfl .null
    | some s => exact iff_of_false nofun nofun
  · have hmap : n.text? = n.text.map some := by
      rw [Node.text?]
      exact hn
    rw [hmap, map_eq_ok_iff]
    simp only [text_eq_ok_iff]
    cases m with
    | none => exact iff_of_false nofun fun h => hn (says_null_iff.1 h)
    | some s => simp

end Values

end StoreGuard.Json
