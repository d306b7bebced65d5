import StoreGuard.Proofs.Json.Says

namespace StoreGuard.Json

namespace Numeral

variable {m : Numeral} {j : Json}

/-- The number `-0` is none of the whole numbers. -/
theorem value_eq_natCast_iff {n : Nat} (hn : n < UInt64.size) :
    m.value = .ok (.int n) ↔
      ∃ digits, m = ⟨false, digits, none, none⟩ ∧ Nat.ofDigitChars 10 digits 0 = n := by
  obtain ⟨negative, whole, fraction, exponent⟩ := m
  unfold value
  dsimp only
  split_ifs with hexact
  · simp only [Bool.and_eq_true, Bool.not_eq_true', Option.isNone_iff_eq_none] at hexact
    obtain ⟨⟨⟨rfl, rfl⟩, -⟩, hzero⟩ := hexact
    cases negative with
    | false =>
      have hsame : Floating.signed false (Nat.ofDigitChars 10 whole 0) = n ↔
          Nat.ofDigitChars 10 whole 0 = n := Int.natCast_inj
      simp [hsame]
    | true =>
      simp [Floating.signed] at hzero ⊢
      omega
  · refine iff_of_false ?_ ?_
    · intro h
      obtain ⟨x, hx⟩ := exists_float_of_floating h
      cases hx
    · rintro ⟨digits, hm, hdigits⟩
      cases hm
      exact hexact (by simp [Floating.signed, hdigits, fitsWord_natCast hn])

end Numeral

inductive Node.Shows : Node → Found → Prop where
  | unit : Shows .null .unit
  | bool (b : Bool) : Shows (.bool b) (.bool b)
  | whole {m : Numeral} {n : Int} (h : m.value = .ok (.int n)) : Shows (.number m) (.whole n)
  | float {m : Numeral} {x : Floating} (h : m.value = .ok (.float x)) : Shows (.number m) (.float x)
  | string {ps : List Piece} {s : String} (h : Decodes ps s.toList) :
    Shows (.string ⟨ps, none⟩) (.string s)
  | sequence (vs : List Node) (fault : Option Fault) : Shows (.array vs fault) .sequence
  | map (ms : List (Quoted × Node)) (fault : Option Fault) : Shows (.object ms fault) .map

theorem Node.found_eq_ok_iff {v : Node} {f : Found} : v.found = .ok f ↔ v.Shows f := by
  constructor
  · intro h
    cases v with
    | array vs fault =>
      cases h
      exact .sequence vs fault
    | object ms fault =>
      cases h
      exact .map ms fault
    | null =>
      cases h
      exact .unit
    | bool b =>
      cases h
      exact .bool b
    | number m =>
      obtain ⟨j, hj, rfl⟩ := exists_ok_of_map h
      have hvalue := Numeral.read_eq_ok_iff.1 hj
      rcases Numeral.value_cases hvalue with ⟨n, rfl⟩ | ⟨x, rfl⟩
      · exact .whole hvalue
      · exact .float hvalue
    | string q =>
      obtain ⟨j, hj, rfl⟩ := exists_ok_of_map h
      obtain ⟨s, hs, rfl⟩ := exists_ok_of_map hj
      obtain ⟨pieces, fault⟩ := q
      obtain ⟨rfl, hdecodes⟩ := Quoted.text_eq_ok_iff.1 hs
      exact .string hdecodes
    | cutNumber => cases h
    | broken f => cases h
  · rintro (_ | _ | h | h | h | _ | _)
    · rfl
    · rfl
    · exact map_eq_ok_iff.2 ⟨_, Numeral.read_eq_ok_iff.2 h, rfl⟩
    · exact map_eq_ok_iff.2 ⟨_, Numeral.read_eq_ok_iff.2 h, rfl⟩
    · exact map_eq_ok_iff.2 ⟨_, map_eq_ok_iff.2 ⟨_, Quoted.text_eq_ok_iff.2 ⟨rfl, h⟩, rfl⟩, rfl⟩
    · rfl
    · rfl

/-- A tree shows what its value is. -/
theorem Node.Says.found_eq {v : Node} {j : Json} (h : v.Says j) : v.found = .ok j.found := by
  cases h with
  | number h =>
    rw [Node.found_eq_ok_iff]
    rcases Numeral.value_cases h with ⟨n, rfl⟩ | ⟨x, rfl⟩
    · exact .whole h
    · exact .float h
  | @string q s h =>
    obtain ⟨ps, fault⟩ := q
    obtain ⟨rfl, h⟩ : fault = none ∧ Decodes ps s.toList := h
    exact Node.found_eq_ok_iff.2 (.string h)
  | _ => rfl

end StoreGuard.Json
