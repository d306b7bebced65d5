import StoreGuard.Proofs.Toml.Lines

namespace StoreGuard.Toml

variable {name : String} {f : Found} {entries entries' : Entries} {b b' : Building}

def Entries.Holds (name : String) (f : Found) (entries : Entries) : Prop :=
  entries.lookup name = some (.value f)

/-- A value stands under a name at the root: in the table that is being filled, as long as that is
the root itself. -/
def Building.Holds (name : String) (f : Found) (b : Building) : Prop :=
  if b.current.path = [] then Entries.Holds name f b.current.entries
  else Entries.Holds name f b.root

namespace Entries

theorem Holds.append (h : Holds name f entries) (later : Entries) :
    Holds name f (entries ++ later) := by
  rw [Holds, List.lookup_append, h]
  rfl

theorem lookup_replaceEntry {other : String} (hne : name ≠ other) (item : Item)
    (entries : Entries) : (replaceEntry other item entries).lookup name = entries.lookup name := by
  induction entries with
  | nil => rfl
  | cons e rest ih =>
    obtain ⟨key, old⟩ := e
    rw [replaceEntry]
    split_ifs with hkey
    · cases hkey
      rw [lookup_cons_ite, lookup_cons_ite, if_neg hne, if_neg hne]
    · rw [lookup_cons_ite, lookup_cons_ite, ih]

/-- What is no value is under another name. -/
theorem Holds.ne {other : String} {old : Item} (h : Holds name f entries)
    (hother : entries.lookup other = some old) (hold : old ≠ .value f) : name ≠ other := by
  rintro rfl
  rw [h] at hother
  exact hold (Option.some.inj hother).symm

theorem Holds.replaceEntry {other : String} (h : Holds name f entries) (hne : name ≠ other)
    (item : Item) : Holds name f (replaceEntry other item entries) := by
  rw [Holds, lookup_replaceEntry hne]
  exact h

theorem Holds.filter {other : String} (h : Holds name f entries) (hne : name ≠ other) :
    Holds name f (entries.filter fun e => e.1 ≠ other) := by
  have hfilter := lookup_filter_key (fun key => decide (key ≠ other)) name entries
  rw [if_pos (decide_eq_true hne)] at hfilter
  rw [Holds, hfilter]
  exact h

/-- An update keeps a value at the root if the change does that is made there. -/
theorem Holds.update {dotted here : Bool} {change : Bool → Entries → Option Entries}
    {path : List String} (h : Holds name f entries)
    (hchange : path = [] → ∀ inner, change here entries = some inner → Holds name f inner)
    (hupdate : entries.update dotted change path here = some entries') :
    Holds name f entries' := by
  cases path with
  | nil => exact hchange rfl entries' hupdate
  | cons step path =>
    rw [Entries.update] at hupdate
    cases hstep : entries.lookup step with
    | none =>
      simp only [hstep, Option.bind_eq_bind, Option.bind_eq_some_iff, Option.some.injEq] at hupdate
      obtain ⟨inner, -, rfl⟩ := hupdate
      exact h.append _
    | some old =>
      cases old with
      | value g => simp [hstep] at hupdate
      | tables last =>
        simp only [hstep, Option.bind_eq_bind, Option.bind_eq_some_iff,
          Option.some.injEq] at hupdate
        obtain ⟨inner, -, rfl⟩ := hupdate
        exact h.replaceEntry (h.ne hstep (by simp)) _
      | table implicit d kept =>
        simp only [hstep] at hupdate
        split_ifs at hupdate
        simp only [Option.bind_eq_bind, Option.bind_eq_some_iff, Option.some.injEq] at hupdate
        obtain ⟨inner, -, rfl⟩ := hupdate
        exact h.replaceEntry (h.ne hstep (by simp)) _

theorem Holds.assign {path : List String} {last : String} {item : Item}
    (h : Holds name f entries) (hassign : entries.assign path last item = some entries') :
    Holds name f entries' := by
  refine h.update (fun _ inner hinner => ?_) hassign
  split_ifs at hinner
  cases hinner
  exact h.append _

end Entries

namespace Building

theorem Holds.assign {path : List String} {item : Item} (h : b.Holds name f)
    (hassign : b.assign path item = some b') : b'.Holds name f := by
  simp only [Building.assign, Option.bind_eq_bind, Option.bind_eq_some_iff,
    Option.some.injEq] at hassign
  obtain ⟨p, -, entries, hentries, rfl⟩ := hassign
  rw [Holds] at h ⊢
  split_ifs at h ⊢
  · exact h.assign hentries
  · exact h

theorem splitLast_eq_none_iff {path : List String} : splitLast path = none ↔ path = [] := by
  induction path with
  | nil => simp [splitLast]
  | cons step path ih =>
    cases path with
    | nil => simp [splitLast]
    | cons next path => simp [splitLast, ih]

theorem Holds.close (h : b.Holds name f) (hclose : b.close = some entries) :
    entries.Holds name f := by
  rw [Building.close] at hclose
  cases hpath : splitLast b.current.path with
  | none =>
    simp only [hpath, Option.some.injEq] at hclose
    rw [Holds, if_pos (splitLast_eq_none_iff.1 hpath), hclose] at h
    exact h
  | some p =>
    -- The table goes into the root, where it finds no value under its name.
    have hne : b.current.path ≠ [] := fun hnil => by
      rw [splitLast_eq_none_iff.2 hnil] at hpath
      cases hpath
    rw [Holds, if_neg hne] at h
    simp only [hpath] at hclose
    refine Entries.Holds.update h (fun _ inner hinner => ?_) hclose
    split_ifs at hinner
    · cases hlast : b.root.lookup p.2 with
      | none =>
        simp only [hlast, Option.some.injEq] at hinner
        cases hinner
        exact Entries.Holds.append h _
      | some old =>
        cases old with
        | tables last =>
          simp only [hlast, Option.some.injEq] at hinner
          cases hinner
          exact Entries.Holds.replaceEntry h (Entries.Holds.ne h hlast (by simp)) _
        | value g => simp [hlast] at hinner
        | table implicit dotted kept => simp [hlast] at hinner
    · cases hinner
      exact Entries.Holds.append h _

/-- In a table that was opened by its name the root is as it was closed. -/
theorem holds_mk {root : Entries} {s : Section} (hpath : s.path ≠ []) :
    Holds name f ⟨root, s⟩ ↔ root.Holds name f := by
  rw [Holds, if_neg hpath]

theorem path_ne_nil {path : List String} {p : List String × String}
    (h : splitLast path = some p) : path ≠ [] := by
  rintro rfl
  cases h

theorem Holds.openTable {path : List String} (h : b.Holds name f)
    (hopen : b.openTable path = some b') : b'.Holds name f := by
  simp only [Building.openTable, Option.bind_eq_bind, Option.bind_eq_some_iff] at hopen
  obtain ⟨root, hclose, p, hp, hopen⟩ := hopen
  have hroot := h.close hclose
  have hpath : path ≠ [] := path_ne_nil hp
  split at hopen
  · simp only [Option.bind_eq_some_iff, Option.some.injEq] at hopen
    obtain ⟨entries, hupdate, rfl⟩ := hopen
    refine (holds_mk hpath).2 (hroot.update (fun _ inner hinner => ?_) hupdate)
    cases hinner
    exact hroot
  · rename_i kept hat
    -- What is opened again was a table, so that the value does not stand under its name.
    simp only [Option.bind_eq_some_iff, Option.some.injEq] at hopen
    obtain ⟨entries, hupdate, rfl⟩ := hopen
    refine (holds_mk hpath).2 (hroot.update (fun houter inner hinner => ?_) hupdate)
    rw [houter] at hat
    cases hinner
    exact hroot.filter (hroot.ne hat (by simp))
  · cases hopen

theorem Holds.openRepeated {path : List String} (h : b.Holds name f)
    (hopen : b.openRepeated path = some b') : b'.Holds name f := by
  simp only [Building.openRepeated, Option.bind_eq_bind, Option.bind_eq_some_iff,
    Option.some.injEq] at hopen
  obtain ⟨root, hclose, p, hp, entries, hupdate, rfl⟩ := hopen
  have hroot := h.close hclose
  refine (holds_mk (path_ne_nil hp)).2 (hroot.update (fun _ inner hinner => ?_) hupdate)
  split at hinner
  · cases hinner
    exact hroot.append _
  · cases hinner
    exact hroot
  · cases hinner

end Building

/-- Line after line: each either leaves the root alone or adds to it. -/
theorem lines_holds {fuel : Nat} {s : List Char} (h : b.Holds name f)
    (hlines : lines fuel b s = some b') : b'.Holds name f := by
  induction fuel generalizing b s with
  | zero => cases hlines
  | succ fuel ih =>
    rw [lines] at hlines
    split at hlines
    · cases hlines
      exact h
    · simp only [Option.bind_eq_bind, Option.bind_eq_some_iff] at hlines
      obtain ⟨rest, -, hlines⟩ := hlines
      exact ih h hlines
    · simp only [Option.bind_eq_bind, Option.bind_eq_some_iff] at hlines
      obtain ⟨⟨⟨repeated, path⟩, rest⟩, -, hlines⟩ := hlines
      split_ifs at hlines
      · obtain ⟨opened, hopen, hlines⟩ := Option.bind_eq_some_iff.1 hlines
        exact ih (h.openRepeated hopen) hlines
      · obtain ⟨opened, hopen, hlines⟩ := Option.bind_eq_some_iff.1 hlines
        exact ih (h.openTable hopen) hlines
    · split_ifs at hlines
      · simp only [Option.bind_eq_bind, Option.bind_eq_some_iff] at hlines
        obtain ⟨rest, -, hlines⟩ := hlines
        exact ih h hlines
      · simp only [Option.bind_eq_bind, Option.bind_eq_some_iff] at hlines
        obtain ⟨⟨⟨path, g⟩, rest⟩, -, assigned, hassign, hlines⟩ := hlines
        exact ih (h.assign hassign) hlines

theorem assign_path {path : List String} {item : Item} (h : b.assign path item = some b') :
    b'.current.path = b.current.path := by
  simp only [Building.assign, Option.bind_eq_bind, Option.bind_eq_some_iff,
    Option.some.injEq] at h
  obtain ⟨p, -, entries, -, rfl⟩ := h
  rfl

theorem assignAll_path {ms : List (String × Found)} (h : b.assignAll ms = some b') :
    b'.current.path = b.current.path := by
  induction ms generalizing b with
  | nil =>
    cases h
    rfl
  | cons m ms ih =>
    rw [assignAll_cons, Option.bind_eq_some_iff] at h
    obtain ⟨assigned, hassign, hlater⟩ := h
    rw [ih hlater, assign_path hassign]

theorem holds_of_assign (hpath : b.current.path = [])
    (h : b.assign [name] (.value f) = some b') : b'.Holds name f := by
  rw [assign_single] at h
  split_ifs at h with hnew
  cases h
  rw [Option.not_isSome_iff_eq_none] at hnew
  rw [Building.Holds, if_pos hpath, Entries.Holds, List.lookup_append, hnew, Option.none_or,
    List.lookup_cons_self]

/-- A name that a line assigns at the root is at the root of the document, if there is a document:
whatever is assigned to it, and whatever lines follow. -/
theorem exists_mem_document {before members : List (String × Found)} {pre start rest : List Char}
    {text : String} (hpre : Lines before pre) (hstart : Begins name start)
    (htext : text.toList = pre ++ (start ++ rest)) (h : document text = some members) :
    ∃ found, (name, found) ∈ members := by
  have hmark : dropByteOrderMark text.toList = pre ++ (start ++ rest) := by
    rw [htext, hpre.dropByteOrderMark (hstart.head? rest)]
  obtain ⟨fuel, hfuel⟩ := hpre.exists_fuel .start (start ++ rest)
  simp only [document, hmark, hfuel, lines_begins hstart, Option.bind_eq_bind,
    Option.bind_eq_some_iff, Option.some.injEq] at h
  obtain ⟨b, ⟨assigned, hassigned, p, -, opened, hassign, hlater⟩, entries, hclose, rfl⟩ := h
  have hholds : opened.Holds name p.1 := holds_of_assign (assignAll_path hassigned) hassign
  have hentries : entries.Holds name p.1 := (lines_holds hholds hlater).close hclose
  exact ⟨p.1, List.mem_map.2 ⟨_, mem_of_lookup hentries, rfl⟩⟩

end StoreGuard.Toml
