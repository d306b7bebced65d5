import Mathlib.Tactic.SplitIfs
import StoreGuard.Json.Document

namespace StoreGuard.Json

def letters : List (Char × Char) :=
  [('"', '"'), ('\\', '\\'), ('/', '/'), ('b', '\x08'), ('f', '\x0c'), ('n', '\n'), ('r', '\r'),
    ('t', '\t')]

/-- The pieces of a string, and what stands for them between the quotes. Any unit can be escaped,
also a surrogate that makes no character with its neighbours. -/
inductive Inside : List Piece → List Char → Prop where
  | nil : Inside [] []
  | plain {c : Char} {ps : List Piece} {t : List Char} (hquote : c ≠ '"') (hslash : c ≠ '\\')
    (hc : 32 ≤ c.toNat) (h : Inside ps t) : Inside (.char c :: ps) (c :: t)
  | letter {e c : Char} {ps : List Piece} {t : List Char} (he : (e, c) ∈ letters)
    (h : Inside ps t) : Inside (.char c :: ps) ('\\' :: e :: t)
  | unit {a b c d : Char} {n : Nat} {ps : List Piece} {t : List Char}
    (hn : hexUnit? a b c d = some n) (h : Inside ps t) :
    Inside (.unit n :: ps) ('\\' :: 'u' :: a :: b :: c :: d :: t)

def Blank (s : List Char) : Prop := ∀ c ∈ s, isSpace c = true

inductive Label : Quoted → List Char → Prop where
  | mk {before t after : List Char} {ps : List Piece} (hbefore : Blank before) (h : Inside ps t)
    (hafter : Blank after) : Label ⟨ps, none⟩ (before ++ '"' :: (t ++ '"' :: after))

def Digits (ds : List Char) : Prop := ds ≠ [] ∧ ∀ c ∈ ds, c.isDigit = true

inductive Fraction : Option (List Char) → List Char → Prop where
  | absent : Fraction none []
  | present {ds : List Char} (h : Digits ds) : Fraction (some ds) ('.' :: ds)

/-- The signs of an exponent, of which only one says that it is negative. -/
def exponentSigns : List (Bool × List Char) := [(false, []), (false, ['+']), (true, ['-'])]

inductive Exponent : Option (Bool × List Char) → List Char → Prop where
  | absent : Exponent none []
  | present {mark : Char} {negative : Bool} {sign ds : List Char} (hmark : mark = 'e' ∨ mark = 'E')
    (hsign : (negative, sign) ∈ exponentSigns) (h : Digits ds) :
    Exponent (some (negative, ds)) (mark :: (sign ++ ds))

/-- A number and its text. Before the point there is no zero in front of another digit. -/
inductive Numeral.Spelled : Numeral → List Char → Prop where
  | mk {negative : Bool} {whole f e : List Char} {fraction : Option (List Char)}
    {exponent : Option (Bool × List Char)} (hwhole : Digits whole)
    (hzero : ∀ ds, whole = '0' :: ds → ds = []) (hfraction : Fraction fraction f)
    (hexponent : Exponent exponent e) :
    Spelled ⟨negative, whole, fraction, exponent⟩
      ((if negative then ['-'] else []) ++ (whole ++ (f ++ e)))

def commas (ts : List (List Char)) : List Char := ts.flatMap (',' :: ·)

def memberOf (q : (Quoted × List Char) × (Node × List Char)) : List Char := q.1.2 ++ ':' :: q.2.2

/-- A tree, and a text that is JSON and is read as it, with blanks around it. -/
inductive Node.Spelled : Node → List Char → Prop where
  | before {n : Node} {c : Char} {t : List Char} (hc : isSpace c = true) (h : Spelled n t) :
    Spelled n (c :: t)
  | after {n : Node} {c : Char} {t : List Char} (hc : isSpace c = true) (h : Spelled n t) :
    Spelled n (t ++ [c])
  | null : Spelled .null ['n', 'u', 'l', 'l']
  | yes : Spelled (.bool true) ['t', 'r', 'u', 'e']
  | no : Spelled (.bool false) ['f', 'a', 'l', 's', 'e']
  | number {m : Numeral} {t : List Char} (h : m.Spelled t) : Spelled (.number m) t
  | string {ps : List Piece} {t : List Char} (h : Inside ps t) :
    Spelled (.string ⟨ps, none⟩) ('"' :: (t ++ ['"']))
  | noItems {blank : List Char} (hblank : Blank blank) :
    Spelled (.array [] none) ('[' :: (blank ++ [']']))
  | items {p : Node × List Char} {l : List (Node × List Char)}
    (h : ∀ q ∈ p :: l, Spelled q.1 q.2) :
    Spelled (.array ((p :: l).map Prod.fst) none)
      ('[' :: (p.2 ++ (commas (l.map Prod.snd) ++ [']'])))
  | noMembers {blank : List Char} (hblank : Blank blank) :
    Spelled (.object [] none) ('{' :: (blank ++ ['}']))
  | members {p : (Quoted × List Char) × (Node × List Char)}
    {l : List ((Quoted × List Char) × (Node × List Char))}
    (hname : ∀ q ∈ p :: l, Label q.1.1 q.1.2) (h : ∀ q ∈ p :: l, Spelled q.2.1 q.2.2) :
    Spelled (.object ((p :: l).map fun q => (q.1.1, q.2.1)) none)
      ('{' :: (memberOf p ++ (commas (l.map memberOf) ++ ['}'])))

theorem Node.Spelled.stops {n : Node} {t : List Char} (h : n.Spelled t) : n.stops = false := by
  induction h with
  | before _ _ ih => exact ih
  | after _ _ ih => exact ih
  | _ => rfl

section Strings

variable (acc : List Piece) (rest : List Char)

theorem scanString_close : scanString acc ('"' :: rest) = (⟨acc.reverse, none⟩, rest) := by
  rw [scanString.eq_def]
  simp

theorem scanString_plain {c : Char} (hquote : c ≠ '"') (hslash : c ≠ '\\') (hc : 32 ≤ c.toNat) :
    scanString acc (c :: rest) = scanString (.char c :: acc) rest := by
  have hc' : ¬c.toNat < 32 := by omega
  rw [scanString.eq_def]
  simp only [hquote, hslash, hc', if_false]

theorem unescape?_of_mem {e c : Char} (h : (e, c) ∈ letters) : unescape? e = some c ∧ e ≠ 'u' := by
  simp only [letters, List.mem_cons, List.not_mem_nil, or_false, Prod.mk.injEq] at h
  rcases h with ⟨rfl, rfl⟩ | ⟨rfl, rfl⟩ | ⟨rfl, rfl⟩ | ⟨rfl, rfl⟩ | ⟨rfl, rfl⟩ | ⟨rfl, rfl⟩ |
    ⟨rfl, rfl⟩ | ⟨rfl, rfl⟩ <;> exact ⟨rfl, by decide⟩

theorem scanString_letter {e c : Char} (he : (e, c) ∈ letters) :
    scanString acc ('\\' :: e :: rest) = scanString (.char c :: acc) rest := by
  obtain ⟨hletter, hu⟩ := unescape?_of_mem he
  rw [scanString.eq_def]
  simp [hu, hletter]

theorem scanString_unit {a b c d : Char} {n : Nat} (h : hexUnit? a b c d = some n) :
    scanString acc ('\\' :: 'u' :: a :: b :: c :: d :: rest) =
      scanString (.unit n :: acc) rest := by
  rw [scanString.eq_def]
  simp [h]

/-- A string is read piece by piece up to its closing quote. -/
theorem scanString_inside {ps : List Piece} {t : List Char} (h : Inside ps t) :
    scanString acc (t ++ '"' :: rest) = (⟨acc.reverse ++ ps, none⟩, rest) := by
  induction h generalizing acc with
  | nil => simp [scanString_close]
  | plain hquote hslash hc h ih =>
    rw [List.cons_append, scanString_plain acc _ hquote hslash hc, ih]
    simp
  | letter he h ih =>
    rw [List.cons_append, List.cons_append, scanString_letter acc _ he, ih]
    simp
  | unit hn h ih =>
    simp only [List.cons_append]
    rw [scanString_unit acc _ hn, ih]
    simp

theorem quoted_inside {ps : List Piece} {t : List Char} (h : Inside ps t) :
    quoted (t ++ '"' :: rest) = (⟨ps, none⟩, rest) :=
  scanString_inside [] rest h

end Strings

section Blanks

variable {s rest : List Char} {c : Char}

theorem skipSpace_cons (h : isSpace c = false) (cs : List Char) :
    skipSpace (c :: cs) = c :: cs := by
  rw [skipSpace, List.dropWhile_cons, h]
  rfl

theorem skipSpace_cons_space (hc : isSpace c = true) (s : List Char) :
    skipSpace (c :: s) = skipSpace s := by
  simp [skipSpace, hc]

theorem skipSpace_append (h : Blank s) (rest : List Char) :
    skipSpace (s ++ rest) = skipSpace rest :=
  List.dropWhile_append_of_pos h

theorem skipSpace_skipSpace (s : List Char) : skipSpace (skipSpace s) = skipSpace s := by
  induction s with
  | nil => rfl
  | cons c s ih =>
    by_cases hc : isSpace c = true
    · rw [skipSpace_cons_space hc, ih]
    · rw [skipSpace_cons (Bool.eq_false_iff.2 hc), skipSpace_cons (Bool.eq_false_iff.2 hc)]

theorem node_skipSpace (fuel : Nat) (s : List Char) : node fuel (skipSpace s) = node fuel s := by
  cases fuel with
  | zero => rfl
  | succ fuel => rw [node, node, skipSpace_skipSpace]

theorem items_skipSpace (fuel : Nat) (s : List Char) : items fuel (skipSpace s) = items fuel s := by
  cases fuel with
  | zero => rfl
  | succ fuel => rw [items, items, node_skipSpace]

theorem isSpace_iff : isSpace c = true ↔ c = ' ' ∨ c = '\n' ∨ c = '\t' ∨ c = '\r' := by
  simp [isSpace, or_assoc]

end Blanks

/-- What can follow a value: nothing, a blank, or what separates it from the next one or closes. -/
def Ends (rest : List Char) : Prop :=
  ∀ c ∈ rest.head?, c = ',' ∨ c = ']' ∨ c = '}' ∨ isSpace c = true

theorem Ends.mem {rest : List Char} (h : Ends rest) :
    ∀ c ∈ rest.head?, c ∈ [',', ']', '}', ' ', '\n', '\t', '\r'] := by
  intro c hc
  have hmem := h c hc
  rw [isSpace_iff] at hmem
  simpa using hmem

section Numbers

variable {rest : List Char}

theorem ne_of_isDigit {c d : Char} (hc : c.isDigit = true) (hd : d.isDigit = false) : c ≠ d := by
  rintro rfl
  rw [hc] at hd
  cases hd

/-- The digits end where something else follows. -/
theorem takeWhile_digits {ds : List Char} (hds : Digits ds)
    (hrest : ∀ c ∈ rest.head?, c.isDigit = false) :
    (ds ++ rest).takeWhile Char.isDigit = ds ∧ (ds ++ rest).dropWhile Char.isDigit = rest := by
  rw [List.takeWhile_append_of_pos hds.2, List.dropWhile_append_of_pos hds.2]
  cases rest with
  | nil => simp
  | cons c rest => simp [hrest c rfl]

theorem Digits.isEmpty {ds : List Char} (h : Digits ds) : ds.isEmpty = false :=
  Bool.eq_false_iff.2 fun hnil => h.1 (List.isEmpty_iff.1 hnil)

theorem Ends.isDigit (h : Ends rest) : ∀ c ∈ rest.head?, c.isDigit = false := by
  intro c hc
  have hmem := h.mem c hc
  simp only [List.mem_cons, List.not_mem_nil, or_false] at hmem
  rcases hmem with rfl | rfl | rfl | rfl | rfl | rfl | rfl <;> rfl

theorem exponentPart_of_ends (negative : Bool) (whole : List Char) (fraction : Option (List Char))
    (h : Ends rest) : exponentPart negative whole fraction rest =
      (.number ⟨negative, whole, fraction, none⟩, rest) := by
  cases rest with
  | nil => rfl
  | cons c rest =>
    have hmem := h.mem c rfl
    simp only [List.mem_cons, List.not_mem_nil, or_false] at hmem
    rcases hmem with rfl | rfl | rfl | rfl | rfl | rfl | rfl <;> rfl

theorem signOf_exponentSign {negative : Bool} {sign ds : List Char}
    (hsign : (negative, sign) ∈ exponentSigns) (hds : Digits ds) (rest : List Char) :
    Floating.signOf (sign ++ (ds ++ rest)) = (negative, ds ++ rest) := by
  obtain ⟨d, ds, rfl⟩ := List.exists_cons_of_ne_nil hds.1
  have hd : d.isDigit = true := hds.2 d List.mem_cons_self
  have hminus : d ≠ '-' := ne_of_isDigit hd rfl
  have hplus : d ≠ '+' := ne_of_isDigit hd rfl
  simp only [exponentSigns, List.mem_cons, List.not_mem_nil, or_false, Prod.mk.injEq] at hsign
  rcases hsign with ⟨rfl, rfl⟩ | ⟨rfl, rfl⟩ | ⟨rfl, rfl⟩
  · rw [List.nil_append, List.cons_append, Floating.signOf.eq_def]
    split <;> simp_all
  · rfl
  · rfl

theorem exponentPart_spelled {exponent : Option (Bool × List Char)} {e : List Char}
    (he : Exponent exponent e) (negative : Bool) (whole : List Char)
    (fraction : Option (List Char)) (h : Ends rest) :
    exponentPart negative whole fraction (e ++ rest) =
      (.number ⟨negative, whole, fraction, exponent⟩, rest) := by
  cases he with
  | absent => exact exponentPart_of_ends negative whole fraction h
  | @present mark negativeExponent sign ds hmark hsign hds =>
    have hmark' : (decide (mark = 'e') || decide (mark = 'E')) = true := by simpa using hmark
    obtain ⟨htake, hdrop⟩ := takeWhile_digits hds h.isDigit
    rw [List.cons_append, List.append_assoc, exponentPart, if_pos hmark',
      signOf_exponentSign hsign hds]
    simp [htake, hdrop, hds.isEmpty]

section Parts

variable {fraction : Option (List Char)} {exponent : Option (Bool × List Char)} {f e : List Char}

/-- After the digits before it an exponent begins with its mark, and else the number ends. -/
theorem Exponent.head (he : Exponent exponent e) (h : Ends rest) :
    ∀ c ∈ (e ++ rest).head?, c.isDigit = false ∧ c ≠ '.' := by
  cases he with
  | absent =>
    intro c hc
    refine ⟨h.isDigit c hc, ?_⟩
    rintro rfl
    exact absurd (h.mem '.' hc) (by decide)
  | present hmark hsign hds =>
    rintro c ⟨⟩
    rcases hmark with rfl | rfl <;> decide

theorem Fraction.head (hf : Fraction fraction f) (he : Exponent exponent e) (h : Ends rest) :
    ∀ c ∈ (f ++ (e ++ rest)).head?, c.isDigit = false := by
  cases hf with
  | absent => exact fun c hc => (he.head h c hc).1
  | present hds =>
    rintro c ⟨⟩
    rfl

theorem fractionPart_spelled (hf : Fraction fraction f) (he : Exponent exponent e)
    (negative : Bool) (whole : List Char) (h : Ends rest) :
    fractionPart negative whole (f ++ (e ++ rest)) =
      (.number ⟨negative, whole, fraction, exponent⟩, rest) := by
  cases hf with
  | absent =>
    have hpoint : ∀ t, e ++ rest ≠ '.' :: t := by
      intro t ht
      exact (he.head h '.' (by rw [ht]; rfl)).2 rfl
    rw [List.nil_append, fractionPart.eq_2 _ _ _ hpoint]
    exact exponentPart_spelled he negative whole none h
  | @present ds hds =>
    obtain ⟨htake, hdrop⟩ := takeWhile_digits hds fun c hc => (he.head h c hc).1
    rw [List.cons_append, fractionPart, htake, hdrop, hds.isEmpty]
    exact exponentPart_spelled he negative whole (some ds) h

theorem number_spelled {whole : List Char} (hwhole : Digits whole)
    (hzero : ∀ ds, whole = '0' :: ds → ds = []) (hf : Fraction fraction f)
    (he : Exponent exponent e) (negative : Bool) (h : Ends rest) :
    number negative (whole ++ (f ++ (e ++ rest))) =
      (.number ⟨negative, whole, fraction, exponent⟩, rest) := by
  obtain ⟨htake, hdrop⟩ := takeWhile_digits hwhole (hf.head he h)
  rw [number, htake, hdrop]
  split
  case h_1 => exact absurd rfl hwhole.1
  case h_2 => cases hzero _ rfl
  case h_3 => exact fractionPart_spelled hf he negative whole h

end Parts

end Numbers

section Steps

variable {fuel : Nat} {s r rest : List Char} {v : Node}

theorem node_digit {c : Char} (hc : c.isDigit = true) (cs : List Char) :
    node (fuel + 1) (c :: cs) = number false (c :: cs) := by
  have hspace : isSpace c = false := by simp [isSpace, ne_of_isDigit hc]
  rw [node, skipSpace_cons hspace]
  simp [ne_of_isDigit hc, hc]

theorem node_number {m : Numeral} {t : List Char} (hm : m.Spelled t) (h : Ends rest) :
    node (fuel + 1) (t ++ rest) = (.number m, rest) := by
  obtain @⟨negative, whole, f, e, fraction, exponent, hwhole, hzero, hf, he⟩ := hm
  have hnumber := number_spelled hwhole hzero hf he negative h
  simp only [List.append_assoc]
  cases negative with
  | true =>
    rw [if_pos rfl, List.singleton_append, node, skipSpace_cons rfl]
    exact hnumber
  | false =>
    obtain ⟨d, ds, rfl⟩ := List.exists_cons_of_ne_nil hwhole.1
    rw [List.cons_append] at hnumber
    rw [if_neg Bool.false_ne_true, List.nil_append, List.cons_append,
      node_digit (hwhole.2 d List.mem_cons_self), hnumber]

theorem node_items {c : Char} {cs : List Char} (hs : skipSpace s = c :: cs) (hc : c ≠ ']')
    {vs : List Node} (hitems : items fuel (c :: cs) = (vs, none, rest)) :
    node (fuel + 1) ('[' :: s) = (.array vs none, rest) := by
  rw [node, skipSpace_cons rfl]
  simp [hs, hitems, hc]

theorem node_members {t : List Char} {ms : List (Quoted × Node)} (hs : skipSpace s = '"' :: t)
    (hmembers : members fuel t = (ms, none, rest)) :
    node (fuel + 1) ('{' :: s) = (.object ms none, rest) := by
  rw [node, skipSpace_cons rfl]
  simp [hs, hmembers]

theorem items_close (hnode : node fuel s = (v, r)) (hr : skipSpace r = ']' :: rest)
    (hv : v.stops = false) : items (fuel + 1) s = ([v], none, rest) := by
  rw [items, hnode]
  simp [hv, hr]

theorem items_comma {vs : List Node} {t : List Char} (hnode : node fuel s = (v, r))
    (hr : skipSpace r = ',' :: t) (hv : v.stops = false)
    (hitems : items fuel t = (vs, none, rest)) : items (fuel + 1) s = (v :: vs, none, rest) := by
  rw [items, hnode]
  simp [hv, hr, hitems]

variable {q : Quoted} {t u : List Char}

theorem members_close (hname : quoted t = (q, u)) (hq : q.fault = none)
    (hu : skipSpace u = ':' :: s) (hnode : node fuel s = (v, r)) (hr : skipSpace r = '}' :: rest)
    (hv : v.stops = false) : members (fuel + 1) t = ([(q, v)], none, rest) := by
  rw [members, hname]
  simp [hq, hu, hnode, hr, hv]

theorem members_comma {ms : List (Quoted × Node)} {w x : List Char} (hname : quoted t = (q, u))
    (hq : q.fault = none) (hu : skipSpace u = ':' :: s) (hnode : node fuel s = (v, r))
    (hr : skipSpace r = ',' :: w) (hw : skipSpace w = '"' :: x) (hv : v.stops = false)
    (hmembers : members fuel x = (ms, none, rest)) :
    members (fuel + 1) t = ((q, v) :: ms, none, rest) := by
  rw [members, hname]
  simp [hq, hu, hnode, hr, hw, hv, hmembers]

end Steps

/-- Wherever the text stands, it is read as the tree, which is read to its end. -/
def Reads (n : Node) (t : List Char) : Prop :=
  n.stops = false ∧ ∀ fuel rest, 2 * t.length ≤ fuel → Ends rest →
    ∃ r, node (fuel + 1) (t ++ rest) = (n, r) ∧ skipSpace r = skipSpace rest

theorem length_commas_cons (t : List Char) (ts : List (List Char)) :
    (commas (t :: ts)).length = t.length + (commas ts).length + 1 := by
  simp [commas]

theorem commas_cons_append (t : List Char) (ts : List (List Char)) (rest : List Char) :
    commas (t :: ts) ++ rest = ',' :: (t ++ (commas ts ++ rest)) := by
  simp [commas]

theorem memberOf_append (q : (Quoted × List Char) × (Node × List Char)) (rest : List Char) :
    memberOf q ++ rest = q.1.2 ++ ':' :: (q.2.2 ++ rest) := by
  rw [memberOf, List.append_assoc, List.cons_append]

theorem items_reads {p : Node × List Char} {l : List (Node × List Char)}
    (h : ∀ q ∈ p :: l, Reads q.1 q.2) (fuel : Nat) (rest : List Char)
    (hfuel : 2 * (p.2.length + (commas (l.map Prod.snd)).length + 1) ≤ fuel) :
    items fuel (p.2 ++ (commas (l.map Prod.snd) ++ ']' :: rest)) =
      ((p :: l).map Prod.fst, none, rest) := by
  obtain ⟨hstops, hp⟩ := h p List.mem_cons_self
  induction l generalizing p fuel with
  | nil =>
    obtain ⟨fuel, rfl⟩ : ∃ f, fuel = f + 2 := ⟨fuel - 2, by omega⟩
    obtain ⟨r, hnode, hr⟩ := hp fuel (']' :: rest) (by omega) (by simp [Ends])
    exact items_close hnode hr hstops
  | cons q l ih =>
    rw [List.map_cons, length_commas_cons] at hfuel
    rw [List.map_cons, commas_cons_append]
    obtain ⟨fuel, rfl⟩ : ∃ f, fuel = f + 2 := ⟨fuel - 2, by omega⟩
    obtain ⟨r, hnode, hr⟩ := hp fuel
      (',' :: (q.2 ++ (commas (l.map Prod.snd) ++ ']' :: rest))) (by omega) (by simp [Ends])
    obtain ⟨hqstops, hq⟩ := h q (List.mem_cons_of_mem p List.mem_cons_self)
    have hitems := ih (fun w hw => h w (List.mem_cons_of_mem p hw)) (fuel + 1) (by omega) hqstops hq
    exact items_comma hnode hr hstops hitems

/-- Up to the opening quote of a name there are blanks, and from its closing quote on as well. -/
theorem Label.quoted {q : Quoted} {t : List Char} (h : Label q t) (rest : List Char) :
    ∃ s r, skipSpace (t ++ rest) = '"' :: s ∧ quoted s = (q, r) ∧ q.fault = none ∧
      skipSpace r = skipSpace rest := by
  obtain @⟨before, t, after, ps, hbefore, hinside, hafter⟩ := h
  refine ⟨t ++ '"' :: (after ++ rest), after ++ rest, ?_, quoted_inside _ hinside, rfl,
    skipSpace_append hafter rest⟩
  rw [List.append_assoc, skipSpace_append hbefore]
  simp [skipSpace_cons (c := '"') rfl]

theorem members_reads {p : (Quoted × List Char) × (Node × List Char)}
    {l : List ((Quoted × List Char) × (Node × List Char))}
    (hname : ∀ q ∈ p :: l, Label q.1.1 q.1.2) (h : ∀ q ∈ p :: l, Reads q.2.1 q.2.2)
    (fuel : Nat) (rest : List Char)
    (hfuel : 2 * ((memberOf p).length + (commas (l.map memberOf)).length + 1) ≤ fuel) :
    ∃ s, skipSpace (memberOf p ++ (commas (l.map memberOf) ++ '}' :: rest)) = '"' :: s ∧
      members fuel s = ((p :: l).map fun q => (q.1.1, q.2.1), none, rest) := by
  have hpname := hname p List.mem_cons_self
  obtain ⟨hstops, hp⟩ := h p List.mem_cons_self
  induction l generalizing p fuel with
  | nil =>
    rw [memberOf, List.length_append, List.length_cons] at hfuel
    obtain ⟨fuel, rfl⟩ : ∃ f, fuel = f + 2 := ⟨fuel - 2, by omega⟩
    obtain ⟨r, hnode, hr⟩ := hp fuel ('}' :: rest) (by omega) (by simp [Ends])
    obtain ⟨s, u, hs, hquoted, hq, hu⟩ := hpname.quoted (':' :: (p.2.2 ++ '}' :: rest))
    rw [memberOf_append]
    exact ⟨s, hs, members_close hquoted hq hu hnode hr hstops⟩
  | cons m l ih =>
    rw [List.map_cons, length_commas_cons, memberOf, List.length_append,
      List.length_cons] at hfuel
    rw [List.map_cons, commas_cons_append]
    obtain ⟨fuel, rfl⟩ : ∃ f, fuel = f + 2 := ⟨fuel - 2, by omega⟩
    -- The members after this one, which begin with blanks and the quote of a name.
    obtain ⟨hmstops, hm⟩ := h m (List.mem_cons_of_mem p List.mem_cons_self)
    obtain ⟨w, hw, hmembers⟩ := ih (fun q hq => hname q (List.mem_cons_of_mem p hq))
      (fun q hq => h q (List.mem_cons_of_mem p hq)) (fuel + 1) (by omega)
      (hname m (List.mem_cons_of_mem p List.mem_cons_self)) hmstops hm
    obtain ⟨r, hnode, hr⟩ := hp fuel
      (',' :: (memberOf m ++ (commas (l.map memberOf) ++ '}' :: rest))) (by omega) (by simp [Ends])
    obtain ⟨s, u, hs, hquoted, hq, hu⟩ := hpname.quoted
      (':' :: (p.2.2 ++ ',' :: (memberOf m ++ (commas (l.map memberOf) ++ '}' :: rest))))
    rw [memberOf_append]
    exact ⟨s, hs, members_comma hquoted hq hu hnode hr hw hstops hmembers⟩

/-- A value begins neither with the end of the text nor with the end of an array. -/
theorem Node.Spelled.head {n : Node} {t : List Char} (h : n.Spelled t) :
    ∃ c cs, c ≠ ']' ∧ ∀ rest, skipSpace (t ++ rest) = c :: (cs ++ rest) := by
  induction h with
  | before hc h ih =>
    obtain ⟨d, cs, hd, hskip⟩ := ih
    refine ⟨d, cs, hd, fun rest => ?_⟩
    rw [List.cons_append, skipSpace_cons_space hc, hskip]
  | @after n c t hc h ih =>
    obtain ⟨d, cs, hd, hskip⟩ := ih
    refine ⟨d, cs ++ [c], hd, fun rest => ?_⟩
    rw [List.append_assoc, hskip, List.append_assoc]
  | number hm =>
    obtain @⟨negative, whole, f, e, fraction, exponent, hwhole, -, -, -⟩ := hm
    cases negative with
    | true => exact ⟨_, _, by decide, fun rest => skipSpace_cons rfl _⟩
    | false =>
      obtain ⟨d, ds, rfl⟩ := List.exists_cons_of_ne_nil hwhole.1
      have hd : d.isDigit = true := hwhole.2 d List.mem_cons_self
      have hspace : isSpace d = false := by simp [isSpace, ne_of_isDigit hd]
      exact ⟨d, _, ne_of_isDigit hd rfl, fun rest => skipSpace_cons hspace _⟩
  | _ => exact ⟨_, _, by decide, fun rest => skipSpace_cons rfl _⟩

/-- A text that is JSON is read as the tree that it spells. -/
theorem Node.Spelled.reads {n : Node} {t : List Char} (h : n.Spelled t) : Reads n t := by
  refine ⟨h.stops, ?_⟩
  induction h with
  | @before n c t hc h ih =>
    intro fuel rest hfuel hrest
    rw [List.length_cons] at hfuel
    rw [List.cons_append, ← node_skipSpace, skipSpace_cons_space hc, node_skipSpace]
    exact ih fuel rest (by omega) hrest
  | @after n c t hc h ih =>
    intro fuel rest hfuel hrest
    rw [List.length_append] at hfuel
    have hends : Ends (c :: rest) := by simp [Ends, hc]
    -- The blank belongs to the value but is only skipped by what reads on.
    obtain ⟨r, hnode, hr⟩ := ih fuel (c :: rest) (by omega) hends
    refine ⟨r, ?_, hr.trans (skipSpace_cons_space hc rest)⟩
    rw [List.append_assoc]
    exact hnode
  | null => exact fun fuel rest _ _ => ⟨rest, rfl, rfl⟩
  | yes => exact fun fuel rest _ _ => ⟨rest, rfl, rfl⟩
  | no => exact fun fuel rest _ _ => ⟨rest, rfl, rfl⟩
  | number hm => exact fun fuel rest _ hrest => ⟨rest, node_number hm hrest, rfl⟩
  | @string ps t h =>
    intro fuel rest _ _
    refine ⟨rest, ?_, rfl⟩
    rw [List.cons_append, List.append_assoc, node, skipSpace_cons rfl]
    simp [quoted_inside rest h]
  | @noItems blank hblank =>
    intro fuel rest _ _
    refine ⟨rest, ?_, rfl⟩
    rw [List.cons_append, List.append_assoc, node, skipSpace_cons rfl]
    simp [skipSpace_append hblank, skipSpace_cons (c := ']') rfl]
  | @items p l h ih =>
    intro fuel rest hfuel _
    simp only [List.length_cons, List.length_append, List.length_nil] at hfuel
    have hitems := items_reads (fun q hq => ⟨(h q hq).stops, ih q hq⟩) fuel rest (by omega)
    obtain ⟨c, cs, hc, hhead⟩ := (h p List.mem_cons_self).head
    rw [← items_skipSpace, hhead] at hitems
    refine ⟨rest, ?_, rfl⟩
    rw [List.cons_append, List.append_assoc, List.append_assoc]
    exact node_items (hhead _) hc hitems
  | @noMembers blank hblank =>
    intro fuel rest _ _
    refine ⟨rest, ?_, rfl⟩
    rw [List.cons_append, List.append_assoc, node, skipSpace_cons rfl]
    simp [skipSpace_append hblank, skipSpace_cons (c := '}') rfl]
  | @members p l hname h ih =>
    intro fuel rest hfuel _
    simp only [List.length_cons, List.length_append, List.length_nil] at hfuel
    obtain ⟨s, hs, hmembers⟩ := members_reads hname (fun q hq => ⟨(h q hq).stops, ih q hq⟩) fuel
      rest (by omega)
    refine ⟨rest, ?_, rfl⟩
    rw [List.cons_append, List.append_assoc, List.append_assoc]
    exact node_members hs hmembers

/-- The whole of a text that is JSON is the tree that it spells. -/
theorem Node.Spelled.ofText {n : Node} {text : String} (h : n.Spelled text.toList) :
    Document.ofText text = ⟨n, false⟩ := by
  obtain ⟨r, hnode, hr⟩ := h.reads.2 (2 * text.toList.length + 1) [] (by omega) (by simp [Ends])
  rw [List.append_nil] at hnode
  have hblank : skipSpace r = [] := hr
  simp [Document.ofText, hnode, hblank]

end StoreGuard.Json
