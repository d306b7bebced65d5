import StoreGuard.Json.Printer
import StoreGuard.Proofs.Json.Spelling

namespace StoreGuard.Json

/-- How a character of a written string is read: a control character without a letter of its own
comes back as a unit, every other character as itself. -/
def pieceOf (c : Char) : Piece :=
  if c.toNat < 32 ∧ c ∉ ['\n', '\r', '\t', '\x08', '\x0c'] then .unit c.toNat else .char c

def quotedOf (s : String) : Quoted := ⟨s.toList.map pieceOf, none⟩

theorem hexUnit?_hexDigits : ∀ n < 32,
    hexUnit? '0' '0' (Nat.digitChar (n / 16)) (Nat.digitChar (n % 16)) = some n := by decide

theorem inside_escape (c : Char) {ps : List Piece} {t : List Char} (h : Inside ps t) :
    Inside (pieceOf c :: ps) (escape c ++ t) := by
  unfold escape
  split_ifs with hquote hslash hn hr ht hb hf hcontrol
  · subst hquote
    exact .letter (by decide) h
  · subst hslash
    exact .letter (by decide) h
  · subst hn
    exact .letter (by decide) h
  · subst hr
    exact .letter (by decide) h
  · subst ht
    exact .letter (by decide) h
  · subst hb
    exact .letter (by decide) h
  · subst hf
    exact .letter (by decide) h
  · have hpiece : pieceOf c = .unit c.toNat := if_pos ⟨hcontrol, by simp [hn, hr, ht, hb, hf]⟩
    rw [hpiece]
    exact .unit (hexUnit?_hexDigits c.toNat hcontrol) h
  · have hpiece : pieceOf c = .char c := if_neg fun h => hcontrol h.1
    rw [hpiece]
    exact .plain hquote hslash (by omega) h

theorem inside_flatMap_escape (cs : List Char) : Inside (cs.map pieceOf) (cs.flatMap escape) := by
  induction cs with
  | nil => exact .nil
  | cons c cs ih =>
    rw [List.map_cons, List.flatMap_cons]
    exact inside_escape c ih

theorem label_quote (s : String) : Label (quotedOf s) (quote s) := by
  have hnone : Blank [] := by simp [Blank]
  exact .mk hnone (inside_flatMap_escape s.toList) hnone

section Numbers

/-- Only zero is written with a zero in front. -/
theorem head?_toDigits {n : Nat} (hn : 0 < n) : (Nat.toDigits 10 n).head? ≠ some '0' := by
  induction n using Nat.strongRecOn with
  | ind n ih =>
    by_cases hlt : n < 10
    · rw [Nat.toDigits_of_lt_base hlt]
      have hdigit : ∀ d < 10, 0 < d → Nat.digitChar d ≠ '0' := by decide
      simpa using hdigit n hlt hn
    · rw [Nat.toDigits_of_base_le (by omega) (by omega)]
      have hhead := ih (n / 10) (by omega) (by omega)
      obtain ⟨c, cs, hcs⟩ :=
        List.exists_cons_of_ne_nil (Nat.toDigits_ne_nil (n := n / 10) (b := 10))
      rw [hcs] at hhead ⊢
      exact hhead

theorem digits_toDigits (n : Nat) : Digits (Nat.toDigits 10 n) :=
  ⟨Nat.toDigits_ne_nil, fun _ hc => Nat.isDigit_of_mem_toDigits (by omega) (by omega) hc⟩

theorem toDigits_eq_zero_cons {n : Nat} {ds : List Char} (h : Nat.toDigits 10 n = '0' :: ds) :
    ds = [] := by
  rcases Nat.eq_zero_or_pos n with rfl | hn
  · cases h
    rfl
  · exact absurd (by rw [h, List.head?_cons]) (head?_toDigits hn)

/-- A whole number is spelled by its digits, after a minus where it is negative. -/
theorem spelled_toDigits (negative : Bool) (n : Nat) :
    Numeral.Spelled ⟨negative, Nat.toDigits 10 n, none, none⟩
      ((if negative then ['-'] else []) ++ Nat.toDigits 10 n) := by
  have hspelled := @Numeral.Spelled.mk negative _ _ _ _ _ (digits_toDigits n)
    (fun _ => toDigits_eq_zero_cons) .absent .absent
  rwa [List.append_nil, List.append_nil] at hspelled

theorem spelled_writeInt (n : Int) :
    Numeral.Spelled ⟨n < 0, Nat.toDigits 10 n.natAbs, none, none⟩ (writeInt n) := by
  have hspelled := spelled_toDigits (n < 0) n.natAbs
  rw [writeInt]
  split_ifs with hn <;> simpa [hn] using hspelled

end Numbers

theorem fitsWord_iff {n : Int} :
    fitsWord n = true ↔ -9223372036854775808 ≤ n ∧ n < 18446744073709551616 := by
  rw [fitsWord, Bool.and_eq_true, decide_eq_true_iff, decide_eq_true_iff]

theorem fitsWord_natCast {n : Nat} (h : n < UInt64.size) : fitsWord n = true := by
  rw [UInt64.size] at h
  rw [fitsWord_iff]
  omega

/-- Every number in the value is a whole number of 64 bits. -/
inductive Exact : Json → Prop where
  | null : Exact .null
  | bool (b : Bool) : Exact (.bool b)
  | int {n : Int} (h : fitsWord n = true) : Exact (.int n)
  | string (s : String) : Exact (.string s)
  | array {vs : List Json} (h : ∀ v ∈ vs, Exact v) : Exact (.array vs)
  | object {ms : List (String × Json)} (h : ∀ m ∈ ms, Exact m.2) : Exact (.object ms)

mutual

def tree : Json → Node
  | .null => .null
  | .bool b => .bool b
  | .int n => .number ⟨n < 0, Nat.toDigits 10 n.natAbs, none, none⟩
  | .float x => (node 1 (write (.float x))).1
  | .string s => .string (quotedOf s)
  | .array vs => .array (trees vs) none
  | .object ms => .object (memberTrees ms) none

def trees : List Json → List Node
  | [] => []
  | v :: vs => tree v :: trees vs

def memberTrees : List (String × Json) → List (Quoted × Node)
  | [] => []
  | (k, v) :: ms => (quotedOf k, tree v) :: memberTrees ms

end

theorem trees_eq_map (vs : List Json) : trees vs = vs.map tree := by
  induction vs with
  | nil => rfl
  | cons v vs ih => rw [trees, ih, List.map_cons]

theorem memberTrees_eq_map (ms : List (String × Json)) :
    memberTrees ms = ms.map fun m => (quotedOf m.1, tree m.2) := by
  induction ms with
  | nil => rfl
  | cons m ms ih => rw [memberTrees, ih, List.map_cons]

theorem writeItems_eq (vs : List Json) : writeItems vs = commas (vs.map write) ++ [']'] := by
  induction vs with
  | nil => rfl
  | cons v vs ih => rw [writeItems, ih, List.map_cons, commas_cons_append]

theorem writeMembers_eq (ms : List (String × Json)) :
    writeMembers ms = commas (ms.map fun m => quote m.1 ++ ':' :: write m.2) ++ ['}'] := by
  induction ms with
  | nil => rfl
  | cons m ms ih =>
    obtain ⟨k, v⟩ := m
    rw [writeMembers, ih, List.map_cons, commas_cons_append, List.append_assoc, List.cons_append]

/-- What is printed for a value spells its tree. -/
theorem Exact.spelled {j : Json} (h : j.Exact) : (tree j).Spelled (write j) := by
  have hnone : Blank [] := by simp [Blank]
  induction h with
  | null => exact .null
  | bool b =>
    cases b with
    | true => exact .yes
    | false => exact .no
  | @int n h => exact .number (spelled_writeInt n)
  | string s => exact .string (inside_flatMap_escape s.toList)
  | @array vs h ih =>
    cases vs with
    | nil => exact .noItems hnone
    | cons v vs =>
      have hitems := Node.Spelled.items (p := (tree v, write v))
        (l := vs.map fun w => (tree w, write w)) <| List.forall_mem_cons.2 ⟨ih v List.mem_cons_self,
          List.forall_mem_map.2 fun w hw => ih w (List.mem_cons_of_mem v hw)⟩
      rw [tree, trees_eq_map, write, writeItems_eq]
      simpa [Function.comp_def] using hitems
  | @object ms h ih =>
    cases ms with
    | nil => exact .noMembers hnone
    | cons m ms =>
      obtain ⟨k, v⟩ := m
      have hmembers := Node.Spelled.members (p := ((quotedOf k, quote k), (tree v, write v)))
        (l := ms.map fun m => ((quotedOf m.1, quote m.1), (tree m.2, write m.2)))
        (List.forall_mem_cons.2 ⟨label_quote k, List.forall_mem_map.2 fun m _ => label_quote m.1⟩)
        (List.forall_mem_cons.2 ⟨ih (k, v) List.mem_cons_self,
          List.forall_mem_map.2 fun m hm => ih m (List.mem_cons_of_mem _ hm)⟩)
      rw [tree, memberTrees_eq_map, write, writeMembers_eq]
      simpa [Function.comp_def, memberOf] using hmembers

/-- The text of a value is its tree and nothing else. -/
theorem Exact.ofText_render {j : Json} (h : j.Exact) :
    Document.ofText j.render = ⟨tree j, false⟩ := by
  apply Node.Spelled.ofText
  rw [render, String.toList_ofList]
  exact h.spelled

end StoreGuard.Json
