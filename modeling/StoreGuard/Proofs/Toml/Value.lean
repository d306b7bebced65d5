import Mathlib.Algebra.Group.Nat.Defs
import StoreGuard.Proofs.Json.Tree
import StoreGuard.Toml.Document

namespace StoreGuard.Toml

def Codes (digits : List Char) (c : Char) : Prop :=
  (digits.mapM Text.hexValue?).map (fun values => values.foldl (fun n d => n * 16 + d) 0) =
    some c.toNat

instance (digits : List Char) (c : Char) : Decidable (Codes digits c) :=
  inferInstanceAs (Decidable (_ = _))

def letters : List (Char × Char) :=
  [('b', '\x08'), ('t', '\t'), ('n', '\n'), ('f', '\x0c'), ('r', '\r'), ('"', '"'), ('\\', '\\')]

/-- A text, and what stands between the quotes of a string that is written for it. -/
inductive Spells : List Char → List Char → Prop where
  | nil : Spells [] []
  | plain {c : Char} {s t : List Char} (hquote : c ≠ '"') (hslash : c ≠ '\\')
    (hplain : c = '\t' ∨ 32 ≤ c.toNat ∧ c.toNat ≠ 127) (h : Spells s t) :
    Spells (c :: s) (c :: t)
  | letter {e c : Char} {s t : List Char} (he : (e, c) ∈ letters) (h : Spells s t) :
    Spells (c :: s) ('\\' :: e :: t)
  | code {mark c : Char} {digits s t : List Char}
    (hmark : (mark, digits.length) ∈ [('u', 4), ('U', 8)]) (hdigits : Codes digits c)
    (h : Spells s t) : Spells (c :: s) ('\\' :: mark :: (digits ++ t))

/-- Decimal digits, and how they are written: a low line may stand between two of them. -/
inductive Divided : List Char → List Char → Prop where
  | one {d : Char} (hd : d.isDigit = true) : Divided [d] [d]
  | next {d : Char} {ds t : List Char} (hd : d.isDigit = true) (h : Divided ds t) :
    Divided (d :: ds) (d :: t)
  | line {d : Char} {ds t : List Char} (hd : d.isDigit = true) (h : Divided ds t) :
    Divided (d :: ds) (d :: '_' :: t)

/-- The signs, none among them, each with whether it makes a number negative. -/
def signs : List (List Char × Bool) := [([], false), (['+'], false), (['-'], true)]

inductive Writes : Found → List Char → Prop where
  | whole {sign t : List Char} {negative : Bool} {n : Nat} (hsign : (sign, negative) ∈ signs)
    (hdigits : Divided (Nat.toDigits 10 n) t)
    (hfits : fitsSigned (Floating.signed negative n) = true) :
    Writes (.whole (Floating.signed negative n)) (sign ++ t)
  | yes : Writes (.bool true) ['t', 'r', 'u', 'e']
  | no : Writes (.bool false) ['f', 'a', 'l', 's', 'e']
  | string {s t : List Char} (h : Spells s t) :
    Writes (.string (String.ofList s)) ('"' :: (t ++ ['"']))

/-- What can follow a value on its line: nothing, a blank, or the end of the line. -/
def Ends (rest : List Char) : Prop := ∀ c ∈ rest.head?, c ∈ [' ', '\t', '\n', '\r']

section Strings

theorem escape_letter {e c : Char} (h : (e, c) ∈ letters) (rest : List Char) :
    escape (e :: rest) = some (c, rest) := by
  simp only [letters, List.mem_cons, List.not_mem_nil, or_false, Prod.mk.injEq] at h
  rcases h with ⟨rfl, rfl⟩ | ⟨rfl, rfl⟩ | ⟨rfl, rfl⟩ | ⟨rfl, rfl⟩ | ⟨rfl, rfl⟩ | ⟨rfl, rfl⟩ |
    ⟨rfl, rfl⟩ <;> rfl

theorem isScalar_toNat (c : Char) : Pattern.isScalar c.toNat = true := by
  have hvalid : c.toNat < 0xD800 ∨ 0xDFFF < c.toNat ∧ c.toNat < 0x110000 := c.valid
  rw [Pattern.isScalar, Unicode.lastCodePoint]
  simp only [Bool.or_eq_true, Bool.and_eq_true, decide_eq_true_eq]
  omega

theorem codeEscape_codes {c : Char} {digits : List Char} (h : Codes digits c) (rest : List Char) :
    codeEscape digits.length (digits ++ rest) = some (c, rest) := by
  obtain ⟨values, hvalues, hvalue⟩ := Option.map_eq_some_iff.1 h
  simp [codeEscape, hvalues, hvalue, isScalar_toNat, Char.ofNat_toNat]

theorem escape_code {mark c : Char} {digits : List Char}
    (hmark : (mark, digits.length) ∈ [('u', 4), ('U', 8)]) (h : Codes digits c)
    (rest : List Char) : escape (mark :: (digits ++ rest)) = some (c, rest) := by
  simp only [List.mem_cons, List.not_mem_nil, or_false, Prod.mk.injEq] at hmark
  rw [← codeEscape_codes h rest]
  rcases hmark with ⟨rfl, hlength⟩ | ⟨rfl, hlength⟩ <;> rw [hlength] <;> rfl

theorem basicString_escape {fuel : Nat} {acc u rest : List Char} {c : Char}
    (h : escape u = some (c, rest)) :
    basicString acc (fuel + 1) ('\\' :: u) = basicString (c :: acc) fuel rest := by
  rw [basicString, if_neg (by decide), if_pos rfl, h]
  rfl

/-- A string is read up to its closing quote, whatever characters and escapes it is made of. -/
theorem basicString_spells {s t : List Char} (h : Spells s t) (acc rest : List Char) {fuel : Nat}
    (hfuel : t.length < fuel) :
    basicString acc fuel (t ++ '"' :: rest) = some (String.ofList (acc.reverse ++ s), rest) := by
  induction h generalizing acc fuel with
  | nil =>
    obtain ⟨fuel, rfl⟩ := Nat.exists_eq_add_of_lt hfuel
    simp [basicString]
  | @plain c s t hquote hslash hplain h ih =>
    rw [List.length_cons] at hfuel
    obtain ⟨fuel, rfl⟩ : ∃ f, fuel = f + 1 := ⟨fuel - 1, by omega⟩
    have hc : isPlain c = true := by simpa [isPlain] using hplain
    rw [List.cons_append, basicString, if_neg hquote, if_neg hslash, if_pos hc,
      ih (c :: acc) (by omega)]
    simp
  | @letter e c s t he h ih =>
    rw [List.length_cons, List.length_cons] at hfuel
    obtain ⟨fuel, rfl⟩ : ∃ f, fuel = f + 1 := ⟨fuel - 1, by omega⟩
    rw [List.cons_append, List.cons_append, basicString_escape (escape_letter he _),
      ih (c :: acc) (by omega)]
    simp
  | @code mark c digits s t hmark hdigits h ih =>
    rw [List.length_cons, List.length_cons, List.length_append] at hfuel
    obtain ⟨fuel, rfl⟩ : ∃ f, fuel = f + 1 := ⟨fuel - 1, by omega⟩
    rw [List.cons_append, List.cons_append, List.append_assoc,
      basicString_escape (escape_code hmark hdigits _), ih (c :: acc) (by omega)]
    simp

/-- The controls have numbers of two digits. -/
theorem exists_codes {c : Char} (hc : c.toNat < 32 ∨ c.toNat = 127) :
    ∃ digits : List Char, digits.length = 4 ∧ Codes digits c := by
  have hcontrol : ∀ n < 32, Codes ['0', '0', Nat.digitChar (n / 16), Nat.digitChar (n % 16)]
      (Char.ofNat n) := by decide
  rw [← Char.ofNat_toNat c]
  rcases hc with hlt | hlast
  · exact ⟨_, rfl, hcontrol c.toNat hlt⟩
  · rw [hlast]
    exact ⟨['0', '0', '7', 'f'], rfl, by decide⟩

/-- Every text can be written: a character either stands for itself or has an escape. -/
theorem exists_spells (s : List Char) : ∃ t, Spells s t := by
  induction s with
  | nil => exact ⟨[], .nil⟩
  | cons c s ih =>
    obtain ⟨t, ht⟩ := ih
    by_cases hcode : c.toNat < 32 ∨ c.toNat = 127
    · obtain ⟨digits, hlength, hcodes⟩ := exists_codes hcode
      exact ⟨_, @Spells.code 'u' c digits s t (by simp [hlength]) hcodes ht⟩
    · by_cases hquote : c = '"'
      · exact ⟨_, .letter (e := '"') (by simp [letters, hquote]) ht⟩
      · by_cases hslash : c = '\\'
        · exact ⟨_, .letter (e := '\\') (by simp [letters, hslash]) ht⟩
        · exact ⟨_, .plain hquote hslash (.inr (by omega)) ht⟩

end Strings

section Numbers

variable {ds t rest : List Char}

/-- After a value there stands no character that could belong to it. -/
theorem Ends.ne {c : Char} (h : Ends rest) (hc : c ∉ [' ', '\t', '\n', '\r']) (r : List Char) :
    rest ≠ c :: r := by
  rintro rfl
  exact hc (h c rfl)

theorem Ends.isDigit (h : Ends rest) : ∀ c ∈ rest.head?, c.isDigit = false := by
  intro c hc
  have hmem := h c hc
  simp only [List.mem_cons, List.not_mem_nil, or_false] at hmem
  rcases hmem with rfl | rfl | rfl | rfl <;> rfl

theorem Divided.exists_cons (h : Divided ds t) :
    ∃ d ds' t', ds = d :: ds' ∧ t = d :: t' ∧ d.isDigit = true := by
  cases h with
  | one hd => exact ⟨_, _, _, rfl, rfl, hd⟩
  | next hd => exact ⟨_, _, _, rfl, rfl, hd⟩
  | line hd => exact ⟨_, _, _, rfl, rfl, hd⟩

theorem Divided.isDigit_or (h : Divided ds t) : ∀ c ∈ t, c.isDigit = true ∨ c = '_' := by
  induction h with
  | one hd => simp [hd]
  | next hd _ ih => exact List.forall_mem_cons.2 ⟨.inl hd, ih⟩
  | line hd _ ih =>
    exact List.forall_mem_cons.2 ⟨.inl hd, List.forall_mem_cons.2 ⟨.inr rfl, ih⟩⟩

theorem divided_self (hne : ds ≠ []) (hds : ∀ c ∈ ds, c.isDigit = true) : Divided ds ds := by
  induction ds with
  | nil => exact absurd rfl hne
  | cons d ds ih =>
    obtain ⟨hd, hds⟩ := List.forall_mem_cons.1 hds
    cases ds with
    | nil => exact .one hd
    | cons e ds => exact .next hd (ih (List.cons_ne_nil e ds) hds)

theorem dividedDigits_divided (h : Divided ds t) (hrest : Ends rest) {fuel : Nat}
    (hfuel : t.length ≤ fuel) :
    dividedDigits Char.isDigit fuel (t ++ rest) = some (ds, rest) := by
  induction h generalizing fuel with
  | @one d hd =>
    obtain ⟨fuel, rfl⟩ : ∃ f, fuel = f + 1 := ⟨fuel - 1, by simp at hfuel; omega⟩
    cases rest with
    | nil => simp [dividedDigits, hd]
    | cons c rest =>
      have hc : c.isDigit = false := hrest.isDigit c rfl
      have hline : c ≠ '_' := by
        rintro rfl
        exact hrest.ne (by decide) rest rfl
      simp [dividedDigits, hd, hc]
  | @next d ds t hd h ih =>
    rw [List.length_cons] at hfuel
    obtain ⟨fuel, rfl⟩ : ∃ f, fuel = f + 1 := ⟨fuel - 1, by omega⟩
    have hlater := @ih fuel (by omega)
    obtain ⟨c, _, t, -, rfl, hc⟩ := h.exists_cons
    have hline : c ≠ '_' := Json.ne_of_isDigit hc rfl
    rw [List.cons_append] at hlater
    simp [dividedDigits, hd, hc, hlater]
  | @line d ds t hd h ih =>
    rw [List.length_cons, List.length_cons] at hfuel
    obtain ⟨fuel, rfl⟩ : ∃ f, fuel = f + 1 := ⟨fuel - 1, by omega⟩
    have hlater := @ih fuel (by omega)
    simp [dividedDigits, hd, hlater]

/-- Digits at a place where there are only digits before the end of the value. -/
theorem fixed_digits (hrest : Ends rest) {count least most n : Nat} {r : List Char}
    (h : fixed count least most (t ++ rest) = some (n, r)) :
    r = t.drop count ++ rest := by
  simp only [fixed] at h
  split_ifs at h with hcond
  simp only [Bool.and_eq_true, decide_eq_true_eq, List.all_eq_true] at hcond
  obtain ⟨⟨⟨hlength, hall⟩, -⟩, -⟩ := hcond
  have hcount : count ≤ t.length := by
    refine Nat.not_lt.1 fun hlt => ?_
    obtain ⟨k, hk⟩ : ∃ k, count - t.length = k + 1 := ⟨count - t.length - 1, by omega⟩
    rw [List.take_append, hk] at hlength hall
    cases rest with
    | nil => simp at hlength; omega
    | cons c rest =>
      have hc : c.isDigit = true := hall c (by simp)
      rw [hrest.isDigit c rfl] at hc
      cases hc
  rw [← (Prod.mk.inj (Option.some.inj h)).2, List.drop_append_of_le_length hcount]

theorem expect_digits {c : Char} (hdigit : c.isDigit = false) (hline : c ≠ '_')
    (hend : c ∉ [' ', '\t', '\n', '\r']) (ht : ∀ c ∈ t, c.isDigit = true ∨ c = '_')
    (hrest : Ends rest) : expect c (t ++ rest) = none := by
  cases t with
  | nil =>
    cases rest with
    | nil => rfl
    | cons d rest =>
      have hne : d ≠ c := fun h => hrest.ne hend rest (by rw [h])
      rw [List.nil_append, expect, if_neg hne]
  | cons d t =>
    have hne : d ≠ c := by
      rcases ht d List.mem_cons_self with hd | rfl
      · exact Json.ne_of_isDigit hd hdigit
      · exact hline.symm
    rw [List.cons_append, expect, if_neg hne]

/-- A number alone is neither a date nor a time, both of which go on after the first digits. -/
theorem moment_divided (h : Divided ds t) (hrest : Ends rest) : moment (t ++ rest) = none := by
  have hdrop (n : Nat) : ∀ c ∈ t.drop n, c.isDigit = true ∨ c = '_' := fun c hc =>
    h.isDigit_or c (List.mem_of_mem_drop hc)
  have hdate : date (t ++ rest) = none := by
    rw [date]
    cases hyear : fixed 4 0 9999 (t ++ rest) with
    | none => rfl
    | some p =>
      have hp : p.2 = t.drop 4 ++ rest := fixed_digits hrest hyear
      have hexpect : expect '-' p.2 = none := by
        rw [hp]
        exact expect_digits rfl (by decide) (by decide) (hdrop 4) hrest
      simp [hexpect]
  have htime : time (t ++ rest) = none := by
    rw [time]
    cases hhour : fixed 2 0 23 (t ++ rest) with
    | none => rfl
    | some p =>
      have hp : p.2 = t.drop 2 ++ rest := fixed_digits hrest hhour
      have hexpect : expect ':' p.2 = none := by
        rw [hp]
        exact expect_digits rfl (by decide) (by decide) (hdrop 2) hrest
      simp [hexpect]
  rw [moment, hdate, htime]
  rfl

/-- Dates and times have no sign. -/
theorem moment_cons {c : Char} (hc : c.isDigit = false) (s : List Char) :
    moment (c :: s) = none := by
  have hfixed (count least most : Nat) : fixed (count + 1) least most (c :: s) = none := by
    simp [fixed, hc]
  simp [moment, date, time, hfixed]

theorem wholeDigits_divided {n : Nat} (h : Divided (Nat.toDigits 10 n) t) (hrest : Ends rest) :
    wholeDigits (t ++ rest) = some (Nat.toDigits 10 n, rest) := by
  rcases Nat.eq_zero_or_pos n with rfl | hn
  · cases h with
    | one => rfl
    | next _ h => cases h
    | line _ h => cases h
  · have hdigits : digits Char.isDigit (t ++ rest) = some (Nat.toDigits 10 n, rest) :=
      dividedDigits_divided h hrest (by rw [List.length_append]; omega)
    have hhead := Json.head?_toDigits hn
    obtain ⟨c, cs, t, hcs, rfl, -⟩ := h.exists_cons
    have hne : c ≠ '0' := fun h => hhead (by rw [hcs, h, List.head?_cons])
    rw [List.cons_append] at hdigits ⊢
    rw [wholeDigits]
    · exact hdigits
    · exact fun r hr => hne (List.cons.inj hr).1

theorem exponent_ends (hrest : Ends rest) : exponent rest = none := by
  cases rest with
  | nil => rfl
  | cons c rest =>
    have hlower : c ≠ 'e' := by
      rintro rfl
      exact hrest.ne (by decide) rest rfl
    have hupper : c ≠ 'E' := by
      rintro rfl
      exact hrest.ne (by decide) rest rfl
    simp [exponent, hlower, hupper]

theorem decimal_divided {n : Nat} {negative : Bool} (h : Divided (Nat.toDigits 10 n) t)
    (hfits : fitsSigned (Floating.signed negative n) = true) (hrest : Ends rest) :
    decimal negative (t ++ rest) = some (.whole (Floating.signed negative n), rest) := by
  rw [decimal, wholeDigits_divided h hrest]
  simp only [Option.bind_eq_bind, Option.bind_some]
  split
  · exact absurd rfl (hrest.ne (by decide) _)
  · simp [exponent_ends hrest, Nat.ofDigitChars_toDigits, hfits]

/-- A zero in front is the whole number, so that no mark of another base can follow it. -/
theorem number_divided {n : Nat} (h : Divided (Nat.toDigits 10 n) t) (hrest : Ends rest) :
    number (t ++ rest) = decimal false (t ++ rest) := by
  obtain ⟨c, _, t, -, rfl, hc⟩ := h.exists_cons
  have hplus : c ≠ '+' := Json.ne_of_isDigit hc rfl
  have hminus : c ≠ '-' := Json.ne_of_isDigit hc rfl
  have hmark {d : Char} (hdigit : d.isDigit = false) (hline : d ≠ '_')
      (hend : d ∉ [' ', '\t', '\n', '\r']) (r : List Char) :
      c :: (t ++ rest) ≠ '0' :: d :: r := by
    intro hr
    obtain ⟨-, hr⟩ := List.cons.inj hr
    have hexpect : expect d (t ++ rest) = none :=
      expect_digits hdigit hline hend (fun e he => h.isDigit_or e (List.mem_cons_of_mem c he)) hrest
    rw [hr, expect, if_pos rfl] at hexpect
    cases hexpect
  rw [List.cons_append, number]
  · exact fun r h => hplus (List.cons.inj h).1
  · exact fun r h => hminus (List.cons.inj h).1
  · exact hmark rfl (by decide) (by decide)
  · exact hmark rfl (by decide) (by decide)
  · exact hmark rfl (by decide) (by decide)

theorem afterSign_divided {n : Nat} (h : Divided (Nat.toDigits 10 n) t) (negative : Bool)
    (rest : List Char) : afterSign negative (t ++ rest) = decimal negative (t ++ rest) := by
  obtain ⟨c, _, t, -, rfl, hc⟩ := h.exists_cons
  have hi : c ≠ 'i' := Json.ne_of_isDigit hc rfl
  have hn : c ≠ 'n' := Json.ne_of_isDigit hc rfl
  rw [List.cons_append, afterSign]
  · exact fun r h => hi (List.cons.inj h).1
  · exact fun r h => hn (List.cons.inj h).1

theorem value_whole {sign : List Char} {negative : Bool} {n : Nat}
    (hsign : (sign, negative) ∈ signs) (h : Divided (Nat.toDigits 10 n) t)
    (hfits : fitsSigned (Floating.signed negative n) = true) (hrest : Ends rest)
    (depth fuel : Nat) : value depth (fuel + 1) (sign ++ t ++ rest) =
      some (.whole (Floating.signed negative n), rest) := by
  have hdecimal := decimal_divided h hfits hrest
  have hafter := afterSign_divided h negative rest
  simp only [signs, List.mem_cons, List.not_mem_nil, or_false, Prod.mk.injEq] at hsign
  rcases hsign with ⟨rfl, rfl⟩ | ⟨rfl, rfl⟩ | ⟨rfl, rfl⟩
  · have hmoment := moment_divided h hrest
    have hnumber := (number_divided h hrest).trans hdecimal
    obtain ⟨c, _, t, -, rfl, hc⟩ := h.exists_cons
    rw [List.nil_append]
    rw [List.cons_append] at hmoment hnumber ⊢
    rw [value.eq_def]
    simp [Json.ne_of_isDigit hc, hc, hmoment, hnumber]
  · have hnumber : number ('+' :: (t ++ rest)) = _ := hafter.trans hdecimal
    simp [value, moment_cons, hnumber]
  · have hnumber : number ('-' :: (t ++ rest)) = _ := hafter.trans hdecimal
    simp [value, moment_cons, hnumber]

end Numbers

/-- Whole numbers of sixty-four bits without a sign can be written as long as they have one bit to
spare. -/
theorem exists_writes_whole {n : Nat} (hn : n < 2 ^ 63) : ∃ t, Writes (.whole n) t := by
  have hfits : fitsSigned (Floating.signed false n) = true := by
    have hsigned : Floating.signed false n = n := rfl
    simp only [hsigned, fitsSigned, Bool.and_eq_true, decide_eq_true_eq]
    omega
  have hdivided : Divided (Nat.toDigits 10 n) (Nat.toDigits 10 n) :=
    divided_self Nat.toDigits_ne_nil fun c hc =>
      Nat.isDigit_of_mem_toDigits (by omega) (by omega) hc
  exact ⟨_, .whole (by simp [signs] : ([], false) ∈ signs) hdivided hfits⟩

/-- Two quotes in a row that a third one does not follow are a string already. -/
theorem string_quote {u : List Char} (h : ∀ r, u ≠ '"' :: '"' :: r) :
    string ('"' :: u) = basicString [] (u.length + 1) u := by
  rw [string]
  exact h

theorem string_spells {s t rest : List Char} (h : Spells s t) (hrest : Ends rest) :
    string ('"' :: (t ++ '"' :: rest)) = some (String.ofList s, rest) := by
  have hquotes : ∀ r, t ++ '"' :: rest ≠ '"' :: '"' :: r := by
    intro r hr
    cases h with
    | nil => exact hrest.ne (by decide) r (List.cons.inj hr).2
    | plain hquote => exact hquote (List.cons.inj hr).1
    | letter => exact absurd (List.cons.inj hr).1 (by decide)
    | code => exact absurd (List.cons.inj hr).1 (by decide)
  have hfuel : t.length < (t ++ '"' :: rest).length + 1 := by
    rw [List.length_append]
    omega
  rw [string_quote hquotes, basicString_spells h [] rest hfuel]
  rfl

/-- What is written is read, wherever the value stands. -/
theorem value_writes {found : Found} {t rest : List Char} (h : Writes found t) (hrest : Ends rest)
    (depth fuel : Nat) : value depth (fuel + 1) (t ++ rest) = some (found, rest) := by
  cases h with
  | whole hsign hdigits hfits => exact value_whole hsign hdigits hfits hrest depth fuel
  | yes => rfl
  | no => rfl
  | @string s t hs =>
    rw [List.cons_append, List.append_assoc, List.singleton_append, value, string_spells hs hrest]
    rfl

end StoreGuard.Toml
