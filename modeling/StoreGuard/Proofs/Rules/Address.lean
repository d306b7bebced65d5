import StoreGuard.Proofs.Pattern.Row
import StoreGuard.Proofs.Rules.Text

namespace StoreGuard.Rules

open Pattern Unicode Text

section Classes

theorem isAlpha_iff_toNat {c : Char} : c.isAlpha = true ↔
    (65 ≤ c.toNat ∧ c.toNat ≤ 90) ∨ (97 ≤ c.toNat ∧ c.toNat ≤ 122) := by
  have hopen : c.isAlpha = (decide ('A'.val ≤ c.val ∧ c.val ≤ 'Z'.val) ||
      decide ('a'.val ≤ c.val) && decide (c.val ≤ 'z'.val)) := rfl
  simp [hopen, UInt32.le_iff_toNat_le]

theorem isDigit_iff_toNat {c : Char} : c.isDigit = true ↔ 48 ≤ c.toNat ∧ c.toNat ≤ 57 := by
  simp [Char.isDigit, UInt32.le_iff_toNat_le]

def userCodes : CodeSet :=
  [(37, 37), (43, 43), (45, 46), (48, 57), (65, 90), (95, 95), (97, 122)]

theorem holdsChar_userCodes {c : Char} : userCodes.holdsChar c = true ↔
    c.isAlphanum = true ∨ c ∈ ['.', '_', '%', '+', '-'] := by
  simp [userCodes, CodeSet.holdsChar, CodeSet.holds, Char.isAlphanum, isAlpha_iff_toNat,
    isDigit_iff_toNat, ← Char.toNat_inj]
  omega

def hostCodes : CodeSet := [(45, 46), (48, 57), (65, 90), (97, 122)]

theorem holdsChar_hostCodes {c : Char} : hostCodes.holdsChar c = true ↔
    c.isAlphanum = true ∨ c ∈ ['.', '-'] := by
  simp [hostCodes, CodeSet.holdsChar, CodeSet.holds, Char.isAlphanum, isAlpha_iff_toNat,
    isDigit_iff_toNat, ← Char.toNat_inj]
  omega

def letterCodes : CodeSet := [(65, 90), (97, 122)]

theorem holdsChar_letterCodes {c : Char} : letterCodes.holdsChar c = true ↔ c.isAlpha = true := by
  simp [letterCodes, CodeSet.holdsChar, CodeSet.holds, isAlpha_iff_toNat]

/-- All but blanks and a few marks. -/
def firstCodes : CodeSet :=
  CodeSet.negate (CodeSet.union blankRanges [(35, 36), (46, 47), (63, 63)])

theorem holdsChar_firstCodes {c : Char} : firstCodes.holdsChar c = true ↔
    isBlank c = false ∧ c ∉ ['/', '$', '.', '?', '#'] := by
  have hmarks : CodeSet.holdsChar [(35, 36), (46, 47), (63, 63)] c = true ↔
      c ∈ ['/', '$', '.', '?', '#'] := by
    simp [CodeSet.holdsChar, CodeSet.holds, ← Char.toNat_inj]
    omega
  rw [firstCodes, CodeSet.holdsChar_negate (by decide), CodeSet.holdsChar_union (by decide),
    ← hmarks, isBlank]
  simp

theorem holdsChar_notNewline {c : Char} :
    (CodeSet.negate [(10, 10)]).holdsChar c = true ↔ c ≠ '\n' := by
  rw [CodeSet.holdsChar_negate (by decide), Bool.not_eq_true', ← Bool.not_eq_true]
  exact not_congr (CodeSet.holdsChar_single '\n' c)

theorem holdsChar_notBlank {c : Char} :
    (CodeSet.negate blankRanges).holdsChar c = true ↔ isBlank c = false := by
  rw [CodeSet.holdsChar_negate (by decide), isBlank, Bool.not_eq_true']

end Classes

section Reading

variable {source name : String} {row : List Piece}

theorem parse_eq_ok {regex : Regex} (h : (parse source).toOption = some regex) :
    parse source = .ok regex := by
  cases hparse : parse source with
  | error e =>
    rw [hparse] at h
    cases h
  | ok r =>
    rw [hparse] at h
    cases h
    rfl

/-- The rule is the one that its pattern gives: a row never falls back on matching nothing. -/
theorem pattern_row (h : parse source = .ok (wholeRow row)) :
    (pattern source).map (fun r => r.withName name) =
      .ok ((matching source (regexOf source)).withName name) := by
  rw [pattern, regexOf, h]
  rfl

theorem value_check_row_eq_none_iff (h : parse source = .ok (wholeRow row)) {s : String}
    {ctx : Context} :
    (((matching source (regexOf source)).withName name).check s ctx).value = none ↔
      CutInto row s.toList := by
  rw [value_check_matching_eq_none_iff, regexOf, h]
  exact occurs_wholeRow_iff

end Reading

section Email

def emailRow : List Piece :=
  [.run 1 none userCodes, .char '@', .run 1 none hostCodes, .char '.', .run 2 none letterCodes]

theorem parse_emailPattern : parse emailPattern = .ok (wholeRow emailRow) :=
  parse_eq_ok (by decide +kernel)

theorem cutInto_emailRow_iff {s : List Char} : CutInto emailRow s ↔
    ∃ user host top, s = user ++ '@' :: (host ++ '.' :: top) ∧
      user ≠ [] ∧ (∀ c ∈ user, c.isAlphanum = true ∨ c ∈ ['.', '_', '%', '+', '-']) ∧
      host ≠ [] ∧ (∀ c ∈ host, c.isAlphanum = true ∨ c ∈ ['.', '-']) ∧
      2 ≤ top.length ∧ ∀ c ∈ top, c.isAlpha = true := by
  simp only [emailRow, cutInto_run_iff, cutInto_char_iff, holdsChar_userCodes,
    holdsChar_hostCodes, holdsChar_letterCodes]
  constructor
  · rintro ⟨user, _, rfl, huser, husers, _, rfl, host, _, rfl, hhost, hhosts, _, rfl, top, _, rfl,
      htop, htops, rfl⟩
    refine ⟨user, host, top, ?_, List.length_pos_iff.1 huser, husers, List.length_pos_iff.1 hhost,
      hhosts, htop, htops⟩
    rw [List.append_nil]
  · rintro ⟨user, host, top, rfl, huser, husers, hhost, hhosts, htop, htops⟩
    refine ⟨user, _, rfl, List.length_pos_iff.2 huser, husers, _, rfl, host, _, rfl,
      List.length_pos_iff.2 hhost, hhosts, _, rfl, top, [], ?_, htop, htops, rfl⟩
    rw [List.append_nil]

/-- The rule for mail addresses accepts a text exactly if it has one `@`, with a user before it and
a host and a top label after it, cut at the last point. -/
theorem email_accepts_iff :
    (pattern emailPattern).map (fun r => r.withName "email") = .ok email ∧
    ∀ (s : String) (ctx : Context), (email.check s ctx).value = none ↔
      s.toList.count '@' = 1 ∧ ∃ user host top,
        s.toList = user ++ '@' :: (host ++ '.' :: top) ∧ '.' ∉ top ∧
        user ≠ [] ∧ (∀ c ∈ user, c.isAlphanum = true ∨ c ∈ ['.', '_', '%', '+', '-']) ∧
        host ≠ [] ∧ (∀ c ∈ host, c.isAlphanum = true ∨ c ∈ ['.', '-']) ∧
        2 ≤ top.length ∧ ∀ c ∈ top, c.isAlpha = true := by
  refine ⟨pattern_row parse_emailPattern, fun s ctx => ?_⟩
  rw [email, value_check_row_eq_none_iff parse_emailPattern, cutInto_emailRow_iff]
  constructor
  · rintro ⟨user, host, top, hs, huser, husers, hhost, hhosts, htop, htops⟩
    have huserAt : user.count '@' = 0 :=
      List.count_eq_zero.2 fun h => absurd (husers _ h) (by decide)
    have hhostAt : host.count '@' = 0 :=
      List.count_eq_zero.2 fun h => absurd (hhosts _ h) (by decide)
    have htopAt : top.count '@' = 0 :=
      List.count_eq_zero.2 fun h => absurd (htops _ h) (by decide)
    have hpoint : '.' ∉ top := fun h => absurd (htops _ h) (by decide)
    refine ⟨?_, user, host, top, hs, hpoint, huser, husers, hhost, hhosts, htop, htops⟩
    simp [hs, huserAt, hhostAt, htopAt]
  · rintro ⟨-, user, host, top, hs, -, huser, husers, hhost, hhosts, htop, htops⟩
    exact ⟨user, host, top, hs, huser, husers, hhost, hhosts, htop, htops⟩

end Email

section Url

def urlRow : List Piece :=
  ['h', 't', 't', 'p'].map .char ++ (.run 0 (some 1) (CodeSet.single 's'.toNat) ::
    ([':', '/', '/'].map .char ++ [.one firstCodes, .one (CodeSet.negate [(10, 10)]),
      .run 0 none (CodeSet.negate blankRanges)]))

theorem parse_urlPattern : parse urlPattern = .ok (wholeRow urlRow) :=
  parse_eq_ok (by decide +kernel)

def schemes : List (List Char) := ["http://".toList, "https://".toList]

theorem cutInto_urlRow_iff {s : List Char} : CutInto urlRow s ↔
    ∃ scheme ∈ schemes, ∃ first second rest, s = scheme ++ first :: second :: rest ∧
      (isBlank first = false ∧ first ∉ ['/', '$', '.', '?', '#']) ∧ second ≠ '\n' ∧
      ∀ c ∈ rest, isBlank c = false := by
  -- What stands after the scheme.
  have hpath {y : List Char} : CutInto [.one firstCodes, .one (CodeSet.negate [(10, 10)]),
      .run 0 none (CodeSet.negate blankRanges)] y ↔ ∃ first second rest,
        y = first :: second :: rest ∧
        (isBlank first = false ∧ first ∉ ['/', '$', '.', '?', '#']) ∧ second ≠ '\n' ∧
        ∀ c ∈ rest, isBlank c = false := by
    simp only [cutInto_one_iff, cutInto_run_iff, holdsChar_firstCodes, holdsChar_notNewline,
      holdsChar_notBlank]
    constructor
    · rintro ⟨first, _, rfl, hfirst, second, _, rfl, hsecond, rest, _, rfl, -, hrest, rfl⟩
      exact ⟨first, second, rest, by rw [List.append_nil], hfirst, hsecond, hrest⟩
    · rintro ⟨first, second, rest, rfl, hfirst, hsecond, hrest⟩
      exact ⟨first, _, rfl, hfirst, second, _, rfl, hsecond, rest, [], by rw [List.append_nil],
        Nat.zero_le _, hrest, rfl⟩
  simp only [urlRow, cutInto_word_iff, cutInto_optional_iff, hpath]
  constructor
  · rintro ⟨_, rfl, hplain | ⟨_, rfl, hsecure⟩⟩
    · obtain ⟨_, rfl, first, second, rest, rfl, h⟩ := hplain
      exact ⟨_, List.mem_cons_self, first, second, rest, rfl, h⟩
    · obtain ⟨_, rfl, first, second, rest, rfl, h⟩ := hsecure
      exact ⟨_, List.mem_cons_of_mem _ List.mem_cons_self, first, second, rest, rfl, h⟩
  · rintro ⟨scheme, hscheme, first, second, rest, rfl, h⟩
    simp only [schemes, List.mem_cons, List.not_mem_nil, or_false] at hscheme
    rcases hscheme with rfl | rfl
    · exact ⟨_, rfl, .inl ⟨_, rfl, first, second, rest, rfl, h⟩⟩
    · exact ⟨_, rfl, .inr ⟨_, rfl, _, rfl, first, second, rest, rfl, h⟩⟩

theorem isBlank_of_mem_schemes {scheme : List Char} (h : scheme ∈ schemes) :
    ∀ c ∈ scheme, isBlank c = false := by
  have hall : schemes.all (fun s => s.all fun c => !isBlank c) = true := by decide
  simp only [List.all_eq_true, Bool.not_eq_true'] at hall
  exact hall scheme h

theorem value_check_url_eq_none_iff {s : String} {ctx : Context} :
    (url.check s ctx).value = none ↔
    ∃ scheme ∈ schemes, ∃ first second rest, s.toList = scheme ++ first :: second :: rest ∧
      (isBlank first = false ∧ first ∉ ['/', '$', '.', '?', '#']) ∧ second ≠ '\n' ∧
      ∀ c ∈ rest, isBlank c = false := by
  rw [url, value_check_row_eq_none_iff parse_urlPattern, cutInto_urlRow_iff]

/-- A web address that the rule accepts is longer than its scheme, and can have a blank in one place
only, the second after the scheme. -/
theorem blank_only_second_of_url (s : String) (ctx : Context)
    (haccepted : (url.check s ctx).value = none) :
    (pattern urlPattern).map (fun r => r.withName "url") = .ok url ∧
      ∃ scheme ∈ schemes, ∃ first second rest, s.toList = scheme ++ first :: second :: rest ∧
        isBlank first = false ∧ (∀ c ∈ rest, isBlank c = false) ∧
        ((noWhitespace.check s ctx).value = none ↔ isBlank second = false) := by
  refine ⟨pattern_row parse_urlPattern, ?_⟩
  obtain ⟨scheme, hscheme, first, second, rest, hs, hfirst, -, hrest⟩ :=
    value_check_url_eq_none_iff.1 haccepted
  refine ⟨scheme, hscheme, first, second, rest, hs, hfirst.1, hrest, ?_⟩
  rw [value_check_noWhitespace_eq_none_iff, hs]
  simp only [List.forall_mem_append, List.forall_mem_cons]
  constructor
  · rintro ⟨-, -, hsecond, -⟩
    exact hsecond
  · intro hsecond
    exact ⟨isBlank_of_mem_schemes hscheme, hfirst.1, hsecond, hrest⟩

theorem value_check_url_blank (ctx : Context) : (url.check "http://a b" ctx).value = none :=
  value_check_url_eq_none_iff.2 ⟨_, List.mem_cons_self, 'a', ' ', ['b'], rfl, by decide, by decide,
    List.forall_mem_singleton.2 (by decide)⟩

theorem blank_only_second_of_url_blank :
    (url.check "http://a b" default).value = none ∧
    ∃ scheme ∈ schemes, ∃ first second rest,
      "http://a b".toList = scheme ++ first :: second :: rest ∧
      isBlank first = false ∧ (∀ c ∈ rest, isBlank c = false) ∧
      ((noWhitespace.check "http://a b" default).value = none ↔ isBlank second = false) :=
  ⟨value_check_url_blank default,
    (blank_only_second_of_url "http://a b" default (value_check_url_blank default)).2⟩

/-- What the rule for web addresses accepts need not pass the rule against blanks. -/
theorem url_accepts_blank :
    (url.check "http://a b" default).value = none ∧
      (noWhitespace.check "http://a b" default).value ≠ none := by
  refine ⟨value_check_url_blank default, fun h => ?_⟩
  have hblank : isBlank ' ' = false := value_check_noWhitespace_eq_none_iff.1 h ' ' (by decide)
  exact absurd hblank (by decide)

end Url

end StoreGuard.Rules
