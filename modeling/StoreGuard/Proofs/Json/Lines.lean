import Mathlib.Tactic.SplitIfs
import StoreGuard.Proofs.Json.Tree

namespace StoreGuard.Json

/-- No control character is among the characters. -/
def Printed (cs : List Char) : Prop := ∀ c ∈ cs, 32 ≤ c.toNat

instance (cs : List Char) : Decidable (Printed cs) := List.decidableBAll _ cs

theorem printed_cons {c : Char} {cs : List Char} :
    Printed (c :: cs) ↔ 32 ≤ c.toNat ∧ Printed cs := List.forall_mem_cons

theorem printed_append {cs ds : List Char} : Printed (cs ++ ds) ↔ Printed cs ∧ Printed ds :=
  List.forall_mem_append

theorem Printed.newline_notMem {cs : List Char} (h : Printed cs) : '\n' ∉ cs := by
  intro hmem
  have hle : 32 ≤ '\n'.toNat := h _ hmem
  revert hle
  decide

theorem printed_of_isDigit {cs : List Char} (h : ∀ c ∈ cs, c.isDigit = true) : Printed cs := by
  intro c hc
  have hzero : '0'.toNat ≤ c.toNat := (Char.isDigit_iff_toNat.1 (h c hc)).1
  exact Nat.le_trans (by decide) hzero

theorem printed_hexDigits {n : Nat} (h : n < 256) : Printed (hexDigits n) := by
  have hdigit : ∀ d < 16, 32 ≤ (Nat.digitChar d).toNat := by decide
  rw [hexDigits, printed_cons, printed_cons]
  exact ⟨hdigit _ (by omega), hdigit _ (by omega), nofun⟩

theorem printed_escape (c : Char) : Printed (escape c) := by
  unfold escape
  split_ifs with hquote hslash hn hr ht hb hf hcontrol
  -- Seven characters have a letter of their own, the other control characters only their number.
  iterate 7 decide
  · rw [printed_append]
    exact ⟨by decide, printed_hexDigits (by omega)⟩
  · rw [printed_cons]
    exact ⟨Nat.not_lt.1 hcontrol, nofun⟩

theorem printed_quote (s : String) : Printed (quote s) := by
  have hinside : Printed (s.toList.flatMap escape) := by
    intro d hd
    obtain ⟨c, -, hc⟩ := List.mem_flatMap.1 hd
    exact printed_escape c d hc
  rw [quote, printed_cons, printed_append]
  exact ⟨by decide, hinside, by decide⟩

theorem printed_writeInt (n : Int) : Printed (writeInt n) := by
  have hdigits : Printed (Nat.toDigits 10 n.natAbs) :=
    printed_of_isDigit fun c hc => Nat.isDigit_of_mem_toDigits (by omega) (by omega) hc
  rw [writeInt]
  split_ifs with hn
  · rw [printed_cons]
    exact ⟨by decide, hdigits⟩
  · exact hdigits

theorem printed_writeItems {vs : List Json} (h : ∀ v ∈ vs, Printed (write v)) :
    Printed (writeItems vs) := by
  induction vs with
  | nil => decide
  | cons v vs ih =>
    obtain ⟨hv, hvs⟩ := List.forall_mem_cons.1 h
    rw [writeItems, printed_cons, printed_append]
    exact ⟨by decide, hv, ih hvs⟩

theorem printed_writeMembers {ms : List (String × Json)} (h : ∀ m ∈ ms, Printed (write m.2)) :
    Printed (writeMembers ms) := by
  induction ms with
  | nil => decide
  | cons m ms ih =>
    obtain ⟨hm, hms⟩ := List.forall_mem_cons.1 h
    rw [writeMembers, printed_cons, printed_append, printed_cons, printed_append]
    exact ⟨by decide, printed_quote m.1, by decide, hm, ih hms⟩

theorem Exact.printed {j : Json} (h : j.Exact) : Printed (write j) := by
  induction h with
  | null => decide
  | bool b => cases b <;> decide
  | int h => exact printed_writeInt _
  | string s => exact printed_quote s
  | @array vs h ih =>
    cases vs with
    | nil => decide
    | cons v vs =>
      obtain ⟨hv, hvs⟩ := List.forall_mem_cons.1 ih
      rw [write, printed_cons, printed_append]
      exact ⟨by decide, hv, printed_writeItems hvs⟩
  | @object ms h ih =>
    cases ms with
    | nil => decide
    | cons m ms =>
      obtain ⟨hm, hms⟩ := List.forall_mem_cons.1 ih
      rw [write, printed_cons, printed_append, printed_cons, printed_append]
      exact ⟨by decide, printed_quote m.1, by decide, hm, printed_writeMembers hms⟩

end StoreGuard.Json
