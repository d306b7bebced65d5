import Mathlib.Data.Nat.Find
import Mathlib.Tactic.SplitIfs
import StoreGuard.Proofs.Text.ByteOrder
import StoreGuard.Text.Utf8

namespace StoreGuard.Text

section Sequences

/-- The bytes are well-formed and spell the character with this number. The second of them is bound
more tightly where there would be a shorter spelling, where the number would be that of a surrogate,
and where it would be too great. -/
def Sequence (n : Nat) : List Byte → Prop
  | [a] => a.toNat < 0x80 ∧ n = a.toNat
  | [a, b] => (0xC2 ≤ a.toNat ∧ a.toNat ≤ 0xDF) ∧ isContinuation b = true ∧
      n = a.toNat % 32 * 64 + b.toNat % 64
  | [a, b, c] => (0xE0 ≤ a.toNat ∧ a.toNat ≤ 0xEF) ∧
      (a.toNat = 0xE0 → 0xA0 ≤ b.toNat) ∧ (a.toNat = 0xED → b.toNat ≤ 0x9F) ∧
      isContinuation b = true ∧ isContinuation c = true ∧
      n = (a.toNat % 16 * 64 + b.toNat % 64) * 64 + c.toNat % 64
  | [a, b, c, d] => (0xF0 ≤ a.toNat ∧ a.toNat ≤ 0xF4) ∧
      (a.toNat = 0xF0 → 0x90 ≤ b.toNat) ∧ (a.toNat = 0xF4 → b.toNat ≤ 0x8F) ∧
      isContinuation b = true ∧ isContinuation c = true ∧ isContinuation d = true ∧
      n = ((a.toNat % 8 * 64 + b.toNat % 64) * 64 + c.toNat % 64) * 64 + d.toNat % 64
  | _ => False

variable {n : Nat} {a b : Byte} {bs rest : List Byte} {c : Char}

theorem isContinuation_iff : isContinuation b = true ↔ 0x80 ≤ b.toNat ∧ b.toNat ≤ 0xBF := by
  simp [isContinuation, UInt8.le_iff_toNat_le]

/-- A byte that carries the last digit of a number, to whatever base, on top of a mark. -/
theorem ofNat_marked_iff {k mark : Nat} (hmark : k ∣ mark) (hk : 0 < k) (hfits : mark + k ≤ 256) :
    UInt8.ofNat (n % k + mark) = b ↔
      (mark ≤ b.toNat ∧ b.toNat < mark + k) ∧ n % k = b.toNat % k := by
  have hdigit : n % k < k := Nat.mod_lt n hk
  rw [← UInt8.toNat_inj, UInt8.toNat_ofNat', Nat.mod_eq_of_lt (by omega)]
  constructor
  · intro h
    have hmod : b.toNat % k = n % k := by
      rw [← h, Nat.add_mod, Nat.mod_eq_zero_of_dvd hmark, Nat.add_zero, Nat.mod_mod, Nat.mod_mod]
    omega
  · intro h
    have hmod : b.toNat % k = b.toNat - mark := by
      obtain ⟨m, rfl⟩ := hmark
      rw [← Nat.sub_mul_mod h.1.1]
      exact Nat.mod_eq_of_lt (by omega)
    omega

/-- The bytes of a character are the one sequence that spells it. -/
theorem encodeChar_eq_iff : String.utf8EncodeChar c = bs ↔ Sequence c.toNat bs := by
  have hvalid : c.toNat < 0xD800 ∨ 0xDFFF < c.toNat ∧ c.toNat < 0x110000 := c.valid
  -- Any byte but the first, and the first of two, of three and of four.
  have htail (n : Nat) (b : Byte) : UInt8.ofNat (n % 0x40 + 0x80) = b ↔ _ :=
    ofNat_marked_iff (by decide) (by decide) (by decide)
  have htwo (n : Nat) (b : Byte) : UInt8.ofNat (n % 0x20 + 0xC0) = b ↔ _ :=
    ofNat_marked_iff (by decide) (by decide) (by decide)
  have hthree (n : Nat) (b : Byte) : UInt8.ofNat (n % 0x10 + 0xE0) = b ↔ _ :=
    ofNat_marked_iff (by decide) (by decide) (by decide)
  have hfour (n : Nat) (b : Byte) : UInt8.ofNat (n % 0x08 + 0xF0) = b ↔ _ :=
    ofNat_marked_iff (by decide) (by decide) (by decide)
  unfold String.utf8EncodeChar Char.toNat at *
  generalize c.val.toNat = n at hvalid
  dsimp only
  obtain _ | ⟨w, _ | ⟨x, more⟩⟩ := bs
  · split_ifs <;> simp [Sequence]
  · have hw := w.toNat_lt
    split_ifs <;> simp [Sequence, ← UInt8.toNat_inj] <;> omega
  · obtain _ | ⟨y, _ | ⟨z, _ | ⟨_, _⟩⟩⟩ := more <;> split_ifs <;>
      simp only [Sequence, isContinuation_iff, htail, htwo, hthree, hfour, List.cons.injEq,
        and_true, and_false, false_iff, reduceCtorEq] <;>
      omega

theorem Sequence.isValidChar (h : Sequence n bs) : n.isValidChar := by
  unfold Nat.isValidChar
  obtain _ | ⟨w, _ | ⟨x, _ | ⟨y, _ | ⟨z, _ | ⟨_, _⟩⟩⟩⟩⟩ := bs <;>
    simp only [Sequence, isContinuation_iff] at h <;> omega

theorem Sequence.ofNat (h : Sequence n bs) : Sequence (Char.ofNat n).toNat bs := by
  unfold Char.ofNat
  rw [dif_pos h.isValidChar]
  exact h

end Sequences

section Heads

variable {lo hi a : Byte} {count code : Nat} {bs rest : List Byte} {c : Char}

/-- The table of first bytes, by their numbers. -/
theorem following?_eq (a : Byte) : following? a =
    if 0xC2 ≤ a.toNat ∧ a.toNat ≤ 0xDF then some (1, 0x80, 0xBF)
    else if 0xE0 ≤ a.toNat ∧ a.toNat ≤ 0xEF then
      some (2, if a.toNat = 0xE0 then 0xA0 else 0x80, if a.toNat = 0xED then 0x9F else 0xBF)
    else if 0xF0 ≤ a.toNat ∧ a.toNat ≤ 0xF4 then
      some (3, if a.toNat = 0xF0 then 0x90 else 0x80, if a.toNat = 0xF4 then 0x8F else 0xBF)
    else none := by
  unfold following?
  simp only [UInt8.le_iff_toNat_le, ← UInt8.toNat_inj, Bool.and_eq_true, decide_eq_true_eq,
    UInt8.reduceToNat]
  grind

theorem following?_two (h : 0xC2 ≤ a.toNat ∧ a.toNat ≤ 0xDF) :
    following? a = some (1, 0x80, 0xBF) := by
  rw [following?_eq, if_pos h]

theorem following?_three (h : 0xE0 ≤ a.toNat ∧ a.toNat ≤ 0xEF) :
    following? a = some (2, if a.toNat = 0xE0 then 0xA0 else 0x80,
      if a.toNat = 0xED then 0x9F else 0xBF) := by
  rw [following?_eq, if_neg (by omega), if_pos h]

theorem following?_four (h : 0xF0 ≤ a.toNat ∧ a.toNat ≤ 0xF4) :
    following? a = some (3, if a.toNat = 0xF0 then 0x90 else 0x80,
      if a.toNat = 0xF4 then 0x8F else 0xBF) := by
  rw [following?_eq, if_neg (by omega), if_neg (by omega), if_pos h]

theorem following?_eq_none (h : ¬(0xC2 ≤ a.toNat ∧ a.toNat ≤ 0xF4)) : following? a = none := by
  rw [following?_eq, if_neg (by omega), if_neg (by omega), if_neg (by omega)]

theorem decodeHead_of_lt (h : a.toNat < 0x80) : decodeHead a bs = (some (Char.ofNat a.toNat), bs) :=
  if_pos h

theorem decodeHead_of_following (h : following? a = some (count, lo, hi)) :
    decodeHead a bs = continue? lo hi count (firstBits a count) bs := by
  have ha : ¬a < 0x80 := by
    intro hsmall
    have hlt : a.toNat < 0x80 := hsmall
    rw [following?_eq_none (by omega)] at h
    cases h
  unfold decodeHead
  rw [if_neg ha, h]

theorem decodeHead_of_none (ha : 0x80 ≤ a.toNat) (h : following? a = none) :
    decodeHead a bs = (none, bs) := by
  have hlarge : ¬a < 0x80 := Nat.not_lt.2 ha
  unfold decodeHead
  rw [if_neg hlarge, h]

/-- The second byte of a sequence, where some first bytes narrow its range at one end. -/
theorem second_iff {least greatest : Nat} {low high x : Byte} (hlow : 0x80 ≤ low.toNat)
    (hhigh : high.toNat ≤ 0xBF) :
    ((if a.toNat = least then low else 0x80).toNat ≤ x.toNat ∧
        x.toNat ≤ (if a.toNat = greatest then high else 0xBF).toNat) ↔
      (a.toNat = least → low.toNat ≤ x.toNat) ∧ (a.toNat = greatest → x.toNat ≤ high.toNat) ∧
        isContinuation x = true := by
  have hfirst : (0x80 : Byte).toNat = 0x80 := rfl
  have hlast : (0xBF : Byte).toNat = 0xBF := rfl
  rw [isContinuation_iff]
  split_ifs <;> omega

theorem continue?_zero_iff :
    continue? lo hi 0 code bs = (some c, rest) ↔ Char.ofNat code = c ∧ bs = rest := by
  simp [continue?]

theorem continue?_succ_iff :
    continue? lo hi (count + 1) code bs = (some c, rest) ↔ ∃ b more, bs = b :: more ∧
      (lo.toNat ≤ b.toNat ∧ b.toNat ≤ hi.toNat) ∧
      continue? 0x80 0xBF count (code * 64 + b.toNat % 64) more = (some c, rest) := by
  cases bs with
  | nil => simp [continue?]
  | cons b more =>
    rw [continue?]
    split_ifs with h <;> simp_all [UInt8.le_iff_toNat_le]

theorem length_continue?_le : (continue? lo hi count code bs).2.length ≤ bs.length := by
  induction count generalizing lo hi code bs with
  | zero => exact le_rfl
  | succ count ih =>
    cases bs with
    | nil => exact le_rfl
    | cons b bs =>
      rw [continue?]
      split_ifs
      · exact ih.trans (Nat.le_succ _)
      · exact le_rfl

theorem length_decodeHead_le : (decodeHead a bs).2.length ≤ bs.length := by
  unfold decodeHead
  split_ifs
  · exact le_rfl
  · cases following? a with
    | none => exact le_rfl
    | some f => exact length_continue?_le

/-- Bytes that spell a character are read as that character, and what follows them is left. -/
theorem decodeHead_append {more : List Byte} (h : Sequence c.toNat (a :: more))
    (rest : List Byte) : decodeHead a (more ++ rest) = (some c, rest) := by
  obtain _ | ⟨x, _ | ⟨y, _ | ⟨z, _ | ⟨_, _⟩⟩⟩⟩ := more
  · obtain ⟨ha, hn⟩ := h
    rw [decodeHead_of_lt ha, ← hn, Char.ofNat_toNat]
    rfl
  · obtain ⟨ha, hx, hn⟩ := h
    rw [decodeHead_of_following (following?_two ha)]
    refine continue?_succ_iff.2 ⟨x, rest, rfl, isContinuation_iff.1 hx, ?_⟩
    exact continue?_zero_iff.2 ⟨hn ▸ Char.ofNat_toNat c, rfl⟩
  · obtain ⟨ha, hleast, hgreatest, hx, hy, hn⟩ := h
    rw [decodeHead_of_following (following?_three ha)]
    refine continue?_succ_iff.2 ⟨x, _, rfl, ?_, ?_⟩
    · exact (second_iff (by decide) (by decide)).2 ⟨hleast, hgreatest, hx⟩
    refine continue?_succ_iff.2 ⟨y, rest, rfl, isContinuation_iff.1 hy, ?_⟩
    exact continue?_zero_iff.2 ⟨hn ▸ Char.ofNat_toNat c, rfl⟩
  · obtain ⟨ha, hleast, hgreatest, hx, hy, hz, hn⟩ := h
    rw [decodeHead_of_following (following?_four ha)]
    refine continue?_succ_iff.2 ⟨x, _, rfl, ?_, ?_⟩
    · exact (second_iff (by decide) (by decide)).2 ⟨hleast, hgreatest, hx⟩
    refine continue?_succ_iff.2 ⟨y, _, rfl, isContinuation_iff.1 hy, ?_⟩
    refine continue?_succ_iff.2 ⟨z, rest, rfl, isContinuation_iff.1 hz, ?_⟩
    exact continue?_zero_iff.2 ⟨hn ▸ Char.ofNat_toNat c, rfl⟩
  · exact h.elim

/-- A character is read only from bytes that spell it. -/
theorem sequence_of_decodeHead (h : decodeHead a bs = (some c, rest)) :
    ∃ more, bs = more ++ rest ∧ Sequence c.toNat (a :: more) := by
  by_cases hone : a.toNat < 0x80
  · rw [decodeHead_of_lt hone] at h
    cases h
    exact ⟨[], rfl, Sequence.ofNat ⟨hone, rfl⟩⟩
  by_cases htwo : 0xC2 ≤ a.toNat ∧ a.toNat ≤ 0xDF
  · rw [decodeHead_of_following (following?_two htwo)] at h
    obtain ⟨x, _, rfl, hx, h⟩ := continue?_succ_iff.1 h
    obtain ⟨rfl, rfl⟩ := continue?_zero_iff.1 h
    exact ⟨[x], rfl, Sequence.ofNat ⟨htwo, isContinuation_iff.2 hx, rfl⟩⟩
  by_cases hthree : 0xE0 ≤ a.toNat ∧ a.toNat ≤ 0xEF
  · rw [decodeHead_of_following (following?_three hthree)] at h
    obtain ⟨x, _, rfl, hx, h⟩ := continue?_succ_iff.1 h
    obtain ⟨y, _, rfl, hy, h⟩ := continue?_succ_iff.1 h
    obtain ⟨rfl, rfl⟩ := continue?_zero_iff.1 h
    obtain ⟨hleast, hgreatest, hx⟩ := (second_iff (by decide) (by decide)).1 hx
    exact ⟨[x, y], rfl, Sequence.ofNat
      ⟨hthree, hleast, hgreatest, hx, isContinuation_iff.2 hy, rfl⟩⟩
  by_cases hfour : 0xF0 ≤ a.toNat ∧ a.toNat ≤ 0xF4
  · rw [decodeHead_of_following (following?_four hfour)] at h
    obtain ⟨x, _, rfl, hx, h⟩ := continue?_succ_iff.1 h
    obtain ⟨y, _, rfl, hy, h⟩ := continue?_succ_iff.1 h
    obtain ⟨z, _, rfl, hz, h⟩ := continue?_succ_iff.1 h
    obtain ⟨rfl, rfl⟩ := continue?_zero_iff.1 h
    obtain ⟨hleast, hgreatest, hx⟩ := (second_iff (by decide) (by decide)).1 hx
    exact ⟨[x, y, z], rfl, Sequence.ofNat
      ⟨hfour, hleast, hgreatest, hx, isContinuation_iff.2 hy, isContinuation_iff.2 hz, rfl⟩⟩
  · rw [decodeHead_of_none (by omega) (following?_eq_none (by omega))] at h
    cases h

end Heads

section Whole

variable {fuel fuel' : Nat} {bs : List Byte}

theorem decodeFrom_cons (acc : List (Option Char)) (a : Byte) (bs : List Byte) :
    decodeFrom acc (fuel + 1) (a :: bs) =
      decodeFrom ((decodeHead a bs).1 :: acc) fuel (decodeHead a bs).2 :=
  rfl

theorem decodeFrom_eq_append (acc : List (Option Char)) (bs : List Byte) :
    decodeFrom acc fuel bs = acc.reverse ++ decodeFrom [] fuel bs := by
  induction fuel generalizing acc bs with
  | zero => simp [decodeFrom]
  | succ fuel ih =>
    cases bs with
    | nil => simp [decodeFrom]
    | cons a bs =>
      rw [decodeFrom_cons, decodeFrom_cons, ih, ih [_], List.reverse_cons, List.append_assoc]
      rfl

/-- The bytes run out before the fuel does. -/
theorem decodeFrom_congr (h : bs.length ≤ fuel) (h' : bs.length ≤ fuel') :
    decodeFrom [] fuel bs = decodeFrom [] fuel' bs := by
  induction fuel generalizing fuel' bs with
  | zero =>
    obtain rfl := List.length_eq_zero_iff.1 (Nat.le_zero.1 h)
    cases fuel' <;> rfl
  | succ fuel ih =>
    cases bs with
    | nil => cases fuel' <;> rfl
    | cons a bs =>
      obtain _ | fuel' := fuel'
      · cases h'
      · rw [List.length_cons] at h h'
        have hrest : (decodeHead a bs).2.length ≤ bs.length := length_decodeHead_le
        have hsame : decodeFrom [] fuel (decodeHead a bs).2 =
            decodeFrom [] fuel' (decodeHead a bs).2 := ih (by omega) (by omega)
        rw [decodeFrom_cons, decodeFrom_cons, decodeFrom_eq_append, hsame, ← decodeFrom_eq_append]

theorem decode_cons (a : Byte) (bs : List Byte) :
    decode (a :: bs) = (decodeHead a bs).1 :: decode (decodeHead a bs).2 := by
  rw [decode, List.length_cons, decodeFrom_cons, decodeFrom_eq_append,
    decodeFrom_congr length_decodeHead_le le_rfl]
  rfl

/-- From what is left behind a head to the whole. -/
theorem decode_induction {motive : List Byte → Prop} (nil : motive [])
    (cons : ∀ a bs, motive (decodeHead a bs).2 → motive (a :: bs)) : ∀ bs, motive bs
  | [] => nil
  | a :: bs => cons a bs (decode_induction nil cons (decodeHead a bs).2)
termination_by bs => bs.length
decreasing_by exact Nat.lt_succ_of_le length_decodeHead_le

theorem decode_encodeChar_append (c : Char) (rest : List Byte) :
    decode (String.utf8EncodeChar c ++ rest) = some c :: decode rest := by
  obtain ⟨a, more, hc⟩ := List.exists_cons_of_ne_nil (String.utf8EncodeChar_ne_nil (c := c))
  rw [hc, List.cons_append, decode_cons, decodeHead_append (encodeChar_eq_iff.1 hc)]

/-- The characters of a text come back from its bytes, whatever follows. -/
theorem decode_append (cs : List Char) (rest : List Byte) :
    decode (cs.flatMap String.utf8EncodeChar ++ rest) = cs.map some ++ decode rest := by
  induction cs with
  | nil => rfl
  | cons c cs ih =>
    rw [List.flatMap_cons, List.append_assoc, decode_encodeChar_append, ih]
    rfl

/-- Where every part is read as a character, the bytes are those of a text. -/
theorem exists_text_of_decode (h : none ∉ decode bs) :
    ∃ cs : List Char, bs = cs.flatMap String.utf8EncodeChar := by
  induction bs using decode_induction with
  | nil => exact ⟨[], rfl⟩
  | cons a bs ih =>
    rw [decode_cons, List.mem_cons, not_or] at h
    obtain ⟨hhead, hrest⟩ := h
    obtain ⟨cs, hcs⟩ := ih hrest
    obtain ⟨c, hc⟩ := Option.ne_none_iff_exists'.1 (Ne.symm hhead)
    obtain ⟨more, hbs, hsequence⟩ := sequence_of_decodeHead (Prod.ext hc rfl)
    refine ⟨c :: cs, ?_⟩
    rw [List.flatMap_cons, encodeChar_eq_iff.2 hsequence, List.cons_append, ← hcs, ← hbs]

end Whole

section Texts

variable {bytes : ByteArray} {t : String}

theorem toUTF8_eq_iff : t.toUTF8 = bytes ↔ bytesOf t = bytes.data.toList := by
  rw [bytesOf, Array.toList_inj, ByteArray.ext_iff]

theorem isValidUTF8_iff : bytes.IsValidUTF8 ↔ ∃ t : String, t.toUTF8 = bytes := by
  constructor
  · intro h
    exact ⟨String.fromUTF8 bytes h, rfl⟩
  · rintro ⟨t, rfl⟩
    exact t.isValidUTF8

/-- What begins with a text is read as that text and more. -/
theorem toList_lossy_of_append {rest : List Byte} (h : bytes.data.toList = bytesOf t ++ rest) :
    (lossy bytes).toList = t.toList ++ (decode rest).map fun c => c.getD replacement := by
  rw [lossy, String.toList_ofList, h, bytesOf_eq_flatMap, decode_append, List.map_append,
    List.map_map]
  exact congrArg (· ++ _) (List.map_id _)

theorem toUTF8_lossy (h : bytes.IsValidUTF8) : (lossy bytes).toUTF8 = bytes := by
  obtain ⟨t, rfl⟩ := isValidUTF8_iff.1 h
  have hwhole : (lossy t.toUTF8).toList = t.toList ++ [] :=
    toList_lossy_of_append (List.append_nil _).symm
  rw [List.append_nil, String.toList_inj] at hwhole
  rw [hwhole]

theorem replacement_mem_lossy (h : ¬bytes.IsValidUTF8) : replacement ∈ (lossy bytes).toList := by
  by_contra hmissing
  have hnone : none ∉ decode bytes.data.toList := by
    intro hmem
    apply hmissing
    rw [lossy, String.toList_ofList]
    exact List.mem_map.2 ⟨none, hmem, rfl⟩
  obtain ⟨cs, hcs⟩ := exists_text_of_decode hnone
  apply h
  refine isValidUTF8_iff.2 ⟨String.ofList cs, toUTF8_eq_iff.2 ?_⟩
  rw [bytesOf_eq_flatMap, String.toList_ofList, hcs]

theorem bytesOf_prefix_lossy (h : bytesOf t <+: bytes.data.toList) :
    bytesOf t <+: bytesOf (lossy bytes) := by
  obtain ⟨rest, hrest⟩ := h
  rw [bytesOf_eq_flatMap, bytesOf_eq_flatMap, toList_lossy_of_append hrest.symm,
    List.flatMap_append]
  exact List.prefix_append ..

/-- The bytes begin with the text and with no text of more bytes. -/
structure LongestText (bytes : ByteArray) (t : String) : Prop where
  begins : bytesOf t <+: bytes.data.toList
  longest : ∀ u, bytesOf u <+: bytes.data.toList → (bytesOf u).length ≤ (bytesOf t).length

theorem exists_longestText (bytes : ByteArray) : ∃ t, LongestText bytes t := by
  classical
  let p : Nat → Prop := fun n => ∃ t, bytesOf t <+: bytes.data.toList ∧ (bytesOf t).length = n
  have hempty : p 0 := ⟨"", List.nil_prefix, rfl⟩
  obtain ⟨t, hbegins, hlength⟩ := Nat.findGreatest_spec (Nat.zero_le bytes.data.toList.length) hempty
  refine ⟨t, hbegins, fun u hu => ?_⟩
  rw [hlength]
  exact Nat.le_findGreatest hu.length_le ⟨u, hu, rfl⟩

end Texts

end StoreGuard.Text
