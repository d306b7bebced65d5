import Mathlib.Data.List.Lex
import Mathlib.Tactic.SplitIfs

namespace StoreGuard.Text

def bytesOf (s : String) : List UInt8 := s.toUTF8.data.toList

theorem bytesOf_eq_flatMap (s : String) : bytesOf s = s.toList.flatMap String.utf8EncodeChar := by
  conv_lhs => rw [← String.ofList_toList (s := s)]
  change (String.ofList s.toList).toByteArray.data.toList = _
  rw [String.toByteArray_ofList, List.utf8Encode, List.data_toByteArray]

theorem digit_lt {a b : ℕ} (h : a < b) : a / 64 < b / 64 ∨ a / 64 = b / 64 ∧ a % 64 < b % 64 := by
  omega

/-- A later character has a greater byte where the bytes first differ, whatever follows them. -/
theorem encodeChar_append_lt {c d : Char} (h : c < d) (s t : List UInt8) :
    String.utf8EncodeChar c ++ s < String.utf8EncodeChar d ++ t := by
  have hcd : c.val.toNat < d.val.toNat := h
  have hd : d.val.toNat < 0x110000 := by rcases d.valid with h | h <;> omega
  unfold String.utf8EncodeChar
  generalize c.val.toNat = a at hcd
  generalize d.val.toNat = b at hcd hd
  dsimp only
  rw [show a / 4096 = a / 64 / 64 by omega, show a / 262144 = a / 64 / 64 / 64 by omega,
    show b / 4096 = b / 64 / 64 by omega, show b / 262144 = b / 64 / 64 / 64 by omega]
  -- Written in base 64, the greater number has the greater digit where the digits first differ.
  have h0 := digit_lt hcd
  have h1 : a / 64 < b / 64 → _ := digit_lt
  have h2 : a / 64 / 64 < b / 64 / 64 → _ := digit_lt
  have htop : b / 64 / 64 / 64 < 8 := by omega
  split_ifs <;>
    simp only [List.cons_append, List.nil_append, List.cons_lt_cons_iff, UInt8.lt_iff_toNat_lt,
      ← UInt8.toNat_inj, UInt8.toNat_ofNat'] <;>
    omega

theorem bytesOf_lt {s t : String} (h : s < t) : bytesOf s < bytesOf t := by
  have hlex : List.Lex (· < ·) s.toList t.toList := h
  rw [bytesOf_eq_flatMap, bytesOf_eq_flatMap]
  generalize s.toList = cs at hlex
  generalize t.toList = ds at hlex
  induction hlex with
  | @nil c rest =>
    obtain ⟨b, bs, hb⟩ := List.exists_cons_of_ne_nil (String.utf8EncodeChar_ne_nil (c := c))
    rw [List.flatMap_cons, hb]
    exact List.nil_lt_cons ..
  | cons _ ih =>
    rw [List.flatMap_cons, List.flatMap_cons]
    exact List.Lex.append_left _ ih _
  | rel hlt => exact encodeChar_append_lt hlt _ _

end StoreGuard.Text
