import StoreGuard.Proofs.Dictionary
import StoreGuard.Proofs.Toml.Value

namespace StoreGuard.Toml

def Gap (s : List Char) : Prop := ∀ c ∈ s, isGap c = true

def Bare (name : String) : Prop := name.toList ≠ [] ∧ name.toList.all isBare = true

/-- The beginning of a line that assigns something to a bare key, up to the equals sign. -/
inductive Begins (name : String) : List Char → Prop where
  | mk {before after : List Char} (hname : Bare name) (hbefore : Gap before) (hafter : Gap after) :
    Begins name (before ++ (name.toList ++ (after ++ ['='])))

inductive Assigns : String × Found → List Char → Prop where
  | mk {name : String} {found : Found} {start before t after : List Char}
    (hstart : Begins name start) (hbefore : Gap before) (hvalue : Writes found t)
    (hafter : Gap after) : Assigns (name, found) (start ++ (before ++ (t ++ after)))

def newlines : List (List Char) := [['\n'], ['\r', '\n']]

inductive Lines : List (String × Found) → List Char → Prop where
  | nil : Lines [] []
  | cons {m : String × Found} {ms : List (String × Found)} {line e t : List Char}
    (hline : Assigns m line) (he : e ∈ newlines) (h : Lines ms t) :
    Lines (m :: ms) (line ++ (e ++ t))

/-- A document of such lines, the last of which may be ended by the text alone. -/
inductive Document : List (String × Found) → List Char → Prop where
  | ended {ms : List (String × Found)} {t : List Char} (h : Lines ms t) : Document ms t
  | last {m : String × Found} {ms : List (String × Found)} {line t : List Char} (h : Lines ms t)
    (hline : Assigns m line) : Document (ms ++ [m]) (t ++ line)

section Keys

variable {name : String} {start rest s t : List Char} {c : Char}

theorem isGap_iff : isGap c = true ↔ c = ' ' ∨ c = '\t' := by simp [isGap]

theorem skipGap_append (h : Gap s) (rest : List Char) : skipGap (s ++ rest) = skipGap rest :=
  List.dropWhile_append_of_pos h

theorem skipGap_cons (hc : isGap c = false) (rest : List Char) :
    skipGap (c :: rest) = c :: rest := by
  simp [skipGap, hc]

theorem isGap_of_isBare (h : isBare c = true) : isGap c = false := by
  refine Bool.eq_false_iff.2 fun hgap => ?_
  rcases isGap_iff.1 hgap with rfl | rfl <;> cases h

theorem Bare.exists_cons (h : Bare name) : ∃ c cs, name.toList = c :: cs ∧ isBare c = true := by
  obtain ⟨hne, hall⟩ := h
  obtain ⟨c, cs, hcs⟩ := List.exists_cons_of_ne_nil hne
  exact ⟨c, cs, hcs, List.all_eq_true.1 hall c (by simp [hcs])⟩

/-- After a bare key come blanks and the equals sign, none of which could belong to it. -/
theorem isBare_after {after : List Char} (hafter : Gap after) (rest : List Char) :
    ∃ c s, after ++ '=' :: rest = c :: s ∧ isBare c = false := by
  cases after with
  | nil => exact ⟨'=', rest, rfl, rfl⟩
  | cons c after =>
    have hc : isGap c = true := hafter c List.mem_cons_self
    refine ⟨c, after ++ '=' :: rest, rfl, Bool.eq_false_iff.2 fun hbare => ?_⟩
    rw [isGap_of_isBare hbare] at hc
    cases hc

theorem simpleKey_bare (hname : Bare name) (hc : isBare c = false) (s : List Char) :
    simpleKey (name.toList ++ c :: s) = some (name, c :: s) := by
  have hbare : ∀ c ∈ name.toList, isBare c = true := List.all_eq_true.1 hname.2
  have htake : (name.toList ++ c :: s).takeWhile isBare = name.toList := by
    rw [List.takeWhile_append_of_pos hbare, List.takeWhile_cons, hc]
    simp
  have hdrop : (name.toList ++ c :: s).dropWhile isBare = c :: s := by
    rw [List.dropWhile_append_of_pos hbare, List.dropWhile_cons, hc]
    simp
  obtain ⟨d, ds, hds, hd⟩ := hname.exists_cons
  have hquote : ∀ r, name.toList ++ c :: s ≠ '"' :: r := by
    intro r hr
    rw [hds] at hr
    rw [(List.cons.inj hr).1] at hd
    cases hd
  have hapostrophe : ∀ r, name.toList ++ c :: s ≠ '\'' :: r := by
    intro r hr
    rw [hds] at hr
    rw [(List.cons.inj hr).1] at hd
    cases hd
  rw [simpleKey, htake, hdrop, String.ofList_toList]
  · simp [hname.1]
  · exact hquote
  · exact hapostrophe

theorem key_bare {after : List Char} (hname : Bare name) (hafter : Gap after) (rest : List Char) :
    key (name.toList ++ (after ++ '=' :: rest)) = some ([name], '=' :: rest) := by
  obtain ⟨c, s, hs, hc⟩ := isBare_after hafter rest
  have hskip : skipGap (after ++ '=' :: rest) = '=' :: rest := by
    rw [skipGap_append hafter, skipGap_cons rfl]
  have hstay : skipGap (name.toList ++ (after ++ '=' :: rest)) =
      name.toList ++ (after ++ '=' :: rest) := by
    obtain ⟨d, ds, hds, hd⟩ := hname.exists_cons
    rw [hds, List.cons_append, skipGap_cons (isGap_of_isBare hd)]
  have hkey : simpleKey (name.toList ++ (after ++ '=' :: rest)) =
      some (name, after ++ '=' :: rest) := by
    rw [hs]
    exact simpleKey_bare hname hc s
  simp [key, keyParts, hstay, hkey, hskip, nestLimit]

end Keys

section Lines

variable {name : String} {found : Found} {start rest s t : List Char} {b : Building}
  {m : String × Found} {ms : List (String × Found)}

def rightSide (s : List Char) : Option (Found × List Char) := do
  let (found, rest) ← value 0 ((skipGap s).length + 1) (skipGap s)
  let rest ← endLine rest
  some (found, rest)

/-- A line that assigns something to a bare key, whatever that is and whatever follows. -/
theorem lines_begins (h : Begins name start) (fuel : Nat) (b : Building) (rest : List Char) :
    lines (fuel + 1) b (start ++ rest) = (rightSide rest).bind fun p =>
      (b.assign [name] (.value p.1)).bind fun b => lines fuel b p.2 := by
  obtain @⟨before, after, hname, hbefore, hafter⟩ := h
  have hkey := key_bare hname hafter rest
  obtain ⟨c, cs, hcs, hc⟩ := hname.exists_cons
  have hne {d : Char} (hd : isBare d = false) : c ≠ d := by
    rintro rfl
    rw [hc] at hd
    cases hd
  have hskip : skipGap (before ++ (name.toList ++ (after ++ ['='])) ++ rest) =
      c :: (cs ++ (after ++ '=' :: rest)) := by
    rw [List.append_assoc, skipGap_append hbefore, hcs]
    simp [skipGap_cons (isGap_of_isBare hc)]
  rw [hcs, List.cons_append] at hkey
  have hcomment : c ≠ '#' := hne rfl
  have htable : c ≠ '[' := hne rfl
  have hfeed : c ≠ '\n' := hne rfl
  have hreturn : c ≠ '\r' := hne rfl
  rw [lines, hskip]
  simp [hfeed, hreturn, assignment, hkey, expect, rightSide, Option.bind_assoc]

/-- The end of a line, with what comes after it. -/
inductive LineEnd : List Char → List Char → Prop where
  | newline {e t : List Char} (he : e ∈ newlines) : LineEnd (e ++ t) t
  | text : LineEnd [] []

theorem LineEnd.endLine {after : List Char} (h : LineEnd s t) (hafter : Gap after) :
    endLine (after ++ s) = some t := by
  rw [Toml.endLine, skipGap_append hafter]
  cases h with
  | newline he =>
    simp only [newlines, List.mem_cons, List.not_mem_nil, or_false] at he
    rcases he with rfl | rfl <;> rfl
  | text => rfl

theorem LineEnd.ends {after : List Char} (h : LineEnd s t) (hafter : Gap after) :
    Ends (after ++ s) := by
  intro c hc
  cases after with
  | nil =>
    cases h with
    | newline he =>
      simp only [newlines, List.mem_cons, List.not_mem_nil, or_false] at he
      rcases he with rfl | rfl <;> cases hc <;> decide
    | text => cases hc
  | cons d after =>
    cases hc
    rcases isGap_iff.1 (hafter _ List.mem_cons_self) with rfl | rfl <;> decide

/-- What is written does not begin with a blank. -/
theorem Writes.skipGap (h : Writes found t) (rest : List Char) :
    skipGap (t ++ rest) = t ++ rest := by
  cases h with
  | whole hsign hdigits _ =>
    simp only [signs, List.mem_cons, List.not_mem_nil, or_false, Prod.mk.injEq] at hsign
    rcases hsign with ⟨rfl, rfl⟩ | ⟨rfl, rfl⟩ | ⟨rfl, rfl⟩
    · obtain ⟨c, _, t, -, rfl, hc⟩ := hdigits.exists_cons
      have hgap : isGap c = false := by
        simp [isGap, Json.ne_of_isDigit hc]
      exact skipGap_cons hgap _
    · rfl
    · rfl
  | yes => rfl
  | no => rfl
  | string => rfl

/-- A whole line, up to its end. -/
theorem lines_assigns {line : List Char} (hline : Assigns m line) (hend : LineEnd s t) (fuel : Nat)
    (b : Building) : lines (fuel + 1) b (line ++ s) =
      (b.assign [m.1] (.value m.2)).bind fun b => lines fuel b t := by
  obtain @⟨name, found, start, before, text, after, hstart, hbefore, hvalue, hafter⟩ := hline
  have hright : rightSide (before ++ (text ++ (after ++ s))) = some (found, t) := by
    rw [rightSide, skipGap_append hbefore, hvalue.skipGap,
      value_writes hvalue (hend.ends hafter)]
    simp [hend.endLine hafter]
  have hassoc : start ++ (before ++ (text ++ after)) ++ s =
      start ++ (before ++ (text ++ (after ++ s))) := by simp
  rw [hassoc, lines_begins hstart, hright]
  rfl

def Building.assignAll (b : Building) (ms : List (String × Found)) : Option Building :=
  ms.foldlM (fun b m => b.assign [m.1] (.value m.2)) b

theorem lines_lines (h : Lines ms t) (fuel : Nat) (b : Building) (s : List Char) :
    lines (ms.length + fuel) b (t ++ s) =
      (b.assignAll ms).bind fun b => lines fuel b s := by
  induction h generalizing b with
  | nil => simp [Building.assignAll]
  | @cons m ms line e t hline he h ih =>
    have hfuel : (m :: ms).length + fuel = ms.length + fuel + 1 := by
      rw [List.length_cons]
      omega
    have hassoc : line ++ (e ++ t) ++ s = line ++ (e ++ (t ++ s)) := by simp
    rw [hfuel, hassoc, lines_assigns hline (.newline he), Building.assignAll, List.foldlM_cons]
    cases b.assign [m.1] (.value m.2) with
    | none => rfl
    | some b => exact ih b

theorem assign_single (b : Building) (name : String) (item : Item) :
    b.assign [name] item = if (b.current.entries.lookup name).isSome then none else
      some { b with current.entries := b.current.entries ++ [(name, item)] } := by
  rw [Building.assign, splitLast]
  simp only [Option.bind_eq_bind, Option.bind_some, Entries.assign, Entries.update]
  split_ifs with htable hname <;> simp_all

theorem assignAll_cons (b : Building) (m : String × Found) (ms : List (String × Found)) :
    b.assignAll (m :: ms) = (b.assign [m.1] (.value m.2)).bind fun b => b.assignAll ms := by
  rw [Building.assignAll, List.foldlM_cons]
  rfl

theorem assignAll_append (b : Building) (ms ms' : List (String × Found)) :
    b.assignAll (ms ++ ms') = (b.assignAll ms).bind fun b => b.assignAll ms' := by
  rw [Building.assignAll, List.foldlM_append]
  rfl

/-- Names that are not there yet, each assigned once, stand at the end in their order. -/
theorem assignAll_nodup (hnodup : (ms.map Prod.fst).Nodup)
    (hnew : ∀ m ∈ ms, b.current.entries.lookup m.1 = none) :
    b.assignAll ms = some { b with
      current.entries := b.current.entries ++ ms.map fun m => (m.1, .value m.2) } := by
  induction ms generalizing b with
  | nil => simp [Building.assignAll]
  | cons m ms ih =>
    rw [List.map_cons, List.nodup_cons] at hnodup
    obtain ⟨hm, hms⟩ := List.forall_mem_cons.1 hnew
    have hlater : ∀ n ∈ ms,
        (b.current.entries ++ [(m.1, Item.value m.2)]).lookup n.1 = none := by
      intro n hn
      have hne : n.1 ≠ m.1 := fun h => hnodup.1 (h ▸ List.mem_map_of_mem hn)
      rw [List.lookup_append, hms n hn, Option.none_or, lookup_cons_ite, if_neg hne]
      rfl
    rw [assignAll_cons, assign_single, hm, Option.isSome_none, if_neg Bool.false_ne_true,
      Option.bind_some, ih hnodup.2 hlater]
    simp

end Lines

section Documents

variable {name : String} {start t : List Char} {m : String × Found} {ms : List (String × Found)}

theorem Begins.head? (h : Begins name start) (rest : List Char) :
    ∀ c ∈ (start ++ rest).head?, isGap c = true ∨ isBare c = true := by
  intro c hc
  obtain @⟨before, after, hname, hbefore, -⟩ := h
  cases before with
  | nil =>
    obtain ⟨d, ds, hds, hd⟩ := hname.exists_cons
    rw [hds] at hc
    cases hc
    exact .inr hd
  | cons d before =>
    cases hc
    exact .inl (hbefore _ List.mem_cons_self)

theorem Assigns.head? {line : List Char} (h : Assigns m line) (rest : List Char) :
    ∀ c ∈ (line ++ rest).head?, isGap c = true ∨ isBare c = true := by
  obtain ⟨hstart, -, -, -⟩ := h
  rw [List.append_assoc]
  exact hstart.head? _

/-- No line begins with a mark of the byte order. -/
theorem dropByteOrderMark_eq_self (h : ∀ c ∈ t.head?, isGap c = true ∨ isBare c = true) :
    dropByteOrderMark t = t := by
  rw [dropByteOrderMark.eq_def]
  split
  · rcases h _ rfl with hmark | hmark <;> cases hmark
  · rfl

theorem Lines.dropByteOrderMark (h : Lines ms t) {s : List Char}
    (hs : ∀ c ∈ s.head?, isGap c = true ∨ isBare c = true) :
    dropByteOrderMark (t ++ s) = t ++ s := by
  cases h with
  | nil => exact dropByteOrderMark_eq_self hs
  | cons hline he h =>
    rw [List.append_assoc]
    exact dropByteOrderMark_eq_self (hline.head? _)

theorem Document.dropByteOrderMark (h : Document ms t) : dropByteOrderMark t = t := by
  cases h with
  | ended h =>
    rw [← List.append_nil t]
    exact h.dropByteOrderMark (by simp)
  | @last m ms line t h hline =>
    have hhead := hline.head? []
    rw [List.append_nil] at hhead
    exact h.dropByteOrderMark hhead

theorem Assigns.length_pos {line : List Char} (h : Assigns m line) : 0 < line.length := by
  obtain ⟨⟨-, -, -⟩, -, -, -⟩ := h
  simp only [List.length_append, List.length_cons]
  omega

theorem Lines.length_le (h : Lines ms t) : ms.length ≤ t.length := by
  induction h with
  | nil => exact Nat.le_refl 0
  | cons hline he h ih =>
    have hpos := hline.length_pos
    simp only [List.length_append, List.length_cons]
    omega

/-- Lines in front of anything else, read with at least so much fuel as there are characters. -/
theorem Lines.exists_fuel (h : Lines ms t) (b : Building) (s : List Char) :
    ∃ fuel, lines ((t ++ s).length + 1) b (t ++ s) =
      (b.assignAll ms).bind fun b => lines (fuel + s.length + 1) b s := by
  obtain ⟨k, hk⟩ := Nat.exists_eq_add_of_le h.length_le
  refine ⟨k, ?_⟩
  rw [← lines_lines h, List.length_append, hk]
  congr 1
  omega

theorem lines_document (h : Document ms t) :
    lines (t.length + 1) .start t = Building.start.assignAll ms := by
  cases h with
  | ended h =>
    obtain ⟨fuel, hlines⟩ := h.exists_fuel .start []
    rw [List.append_nil] at hlines
    rw [hlines]
    simp [lines, skipGap]
  | @last m ms line t h hline =>
    obtain ⟨fuel, hlines⟩ := h.exists_fuel .start line
    obtain ⟨k, hk⟩ := Nat.exists_eq_add_of_lt hline.length_pos
    have hlast (b : Building) :
        lines (fuel + line.length + 1) b line = b.assign [m.1] (.value m.2) := by
      have hstep := lines_assigns hline .text (fuel + line.length) b
      rw [List.append_nil] at hstep
      rw [hstep, hk]
      simp [lines, skipGap]
    rw [hlines, assignAll_append]
    simp [hlast, Building.assignAll]

/-- A document of lines with different names has these names, with what is written under them. -/
theorem document_eq_some {text : String} (h : Document ms text.toList)
    (hnodup : (ms.map Prod.fst).Nodup) : document text = some ms := by
  have hall := assignAll_nodup (b := .start) hnodup fun _ _ => rfl
  rw [document, h.dropByteOrderMark, lines_document h, hall]
  simp [Building.start, Building.close, splitLast, Item.found, Function.comp_def]

end Documents

end StoreGuard.Toml
