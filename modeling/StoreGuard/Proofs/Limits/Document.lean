import StoreGuard.Proofs.Limits.Reading
import StoreGuard.Proofs.Toml.Table

namespace StoreGuard.Limits

/-- A field of the limits, with the value that is written for it. -/
inductive Setting where
  | maxKeyLength (n : UInt64)
  | maxValueSize (n : UInt64)
  | keyPattern (source : String)
  | validateScanPrefix (b : Bool)

namespace Setting

def name : Setting → String
  | maxKeyLength _ => "max_key_length"
  | maxValueSize _ => "max_value_size"
  | keyPattern _ => "key_pattern"
  | validateScanPrefix _ => "validate_scan_prefix"

def found : Setting → Found
  | maxKeyLength n => .whole n.toNat
  | maxValueSize n => .whole n.toNat
  | keyPattern source => .string source
  | validateScanPrefix b => .bool b

def member (s : Setting) : String × Found := (s.name, s.found)

def isZero : Setting → Bool
  | maxKeyLength n => n = 0
  | maxValueSize n => n = 0
  | _ => false

end Setting

def put (l : Limits) : Setting → Limits
  | .maxKeyLength n => { l with maxKeyLength := n }
  | .maxValueSize n => { l with maxValueSize := n }
  | .keyPattern source => { l with keyPattern := some source }
  | .validateScanPrefix b => { l with validateScanPrefix := b }

/-- The limits that have the settings, and the standard values for the fields without one. -/
def written (settings : List Setting) : Limits := settings.foldl put standard

def Draft.fill (d : Draft) : Setting → Draft
  | .maxKeyLength n => { d with maxKeyLength := some n }
  | .maxValueSize n => { d with maxValueSize := some n }
  | .keyPattern source => { d with keyPattern := some (some source) }
  | .validateScanPrefix b => { d with validateScanPrefix := some b }

variable {l : Limits} {d : Draft} {s : Setting} {settings : List Setting} {text : String}

section Settings

theorem put_put (l : Limits) (s : Setting) : (l.put s).put s = l.put s := by
  cases s <;> rfl

/-- Settings for different fields do not touch one another. -/
theorem put_comm {s t : Setting} (h : s.name ≠ t.name) (l : Limits) :
    (l.put s).put t = (l.put t).put s := by
  cases s with
  | maxKeyLength n =>
    cases t with
    | maxKeyLength m => exact absurd rfl h
    | _ => rfl
  | maxValueSize n =>
    cases t with
    | maxValueSize m => exact absurd rfl h
    | _ => rfl
  | keyPattern source =>
    cases t with
    | keyPattern other => exact absurd rfl h
    | _ => rfl
  | validateScanPrefix b =>
    cases t with
    | validateScanPrefix c => exact absurd rfl h
    | _ => rfl

theorem foldl_put_comm (h : s.name ∉ settings.map Setting.name) (l : Limits) :
    (settings.foldl put l).put s = settings.foldl put (l.put s) := by
  induction settings generalizing l with
  | nil => rfl
  | cons t settings ih =>
    rw [List.map_cons, List.mem_cons, not_or] at h
    rw [List.foldl_cons, List.foldl_cons, ih h.2, put_comm (Ne.symm h.1)]

/-- Where each field is written once, the limits have what is written. -/
theorem foldl_put_eq_self (hnames : (settings.map Setting.name).Nodup) (h : s ∈ settings)
    (l : Limits) : (settings.foldl put l).put s = settings.foldl put l := by
  induction settings generalizing l with
  | nil => cases h
  | cons t settings ih =>
    rw [List.map_cons, List.nodup_cons] at hnames
    rw [List.foldl_cons]
    rcases List.mem_cons.1 h with rfl | h
    · rw [foldl_put_comm hnames.1, put_put]
    · exact ih hnames.2 h _

theorem fault?_put_of_isZero (h : s.isZero = true) : ∃ fault, (l.put s).fault? = some fault := by
  refine Option.ne_none_iff_exists'.1 fun hnone => ?_
  obtain ⟨hlength, hsize⟩ := fault?_eq_none_iff.1 hnone
  cases s with
  | maxKeyLength n => exact hlength (of_decide_eq_true h)
  | maxValueSize n => exact hsize (of_decide_eq_true h)
  | keyPattern source => cases h
  | validateScanPrefix b => cases h

theorem fault?_put_eq_none (hl : l.fault? = none) (h : s.isZero = false) :
    (l.put s).fault? = none := by
  rw [fault?_eq_none_iff] at hl ⊢
  cases s with
  | maxKeyLength n => exact ⟨of_decide_eq_false h, hl.2⟩
  | maxValueSize n => exact ⟨hl.1, of_decide_eq_false h⟩
  | keyPattern source => exact hl
  | validateScanPrefix b => exact hl

theorem fault?_foldl_put_eq_none (hl : l.fault? = none)
    (h : ∀ s ∈ settings, s.isZero = false) : (settings.foldl put l).fault? = none := by
  induction settings generalizing l with
  | nil => exact hl
  | cons s settings ih =>
    obtain ⟨hs, hsettings⟩ := List.forall_mem_cons.1 h
    exact ih (fault?_put_eq_none hl hs) hsettings

end Settings

section Members

theorem build_fill (d : Draft) (s : Setting) : (d.fill s).build = d.build.put s := by
  cases s <;> rfl

/-- Each setting has a slot, which takes what is written for it. -/
theorem exists_slot (s : Setting) : ∃ slot, (slots.find? fun t => t.name = s.name) = some slot ∧
    ∀ d, slot.put s.found d = .ok (d.fill s) := by
  cases s with
  | maxKeyLength n =>
    refine ⟨_, rfl, fun d => ?_⟩
    simp only [Setting.found, limitOf_toNat]
    rfl
  | maxValueSize n =>
    refine ⟨_, rfl, fun d => ?_⟩
    simp only [Setting.found, limitOf_toNat]
    rfl
  | keyPattern source => exact ⟨_, rfl, fun d => rfl⟩
  | validateScanPrefix b => exact ⟨_, rfl, fun d => rfl⟩

theorem takeMembers_member (d : Draft) (s : Setting) (rest : List (String × Found)) :
    takeMembers d (s.member :: rest) = takeMembers (d.fill s) rest := by
  obtain ⟨slot, hslot, hput⟩ := exists_slot s
  rw [Setting.member, takeMembers, hslot]
  show (slot.put s.found d >>= fun d => takeMembers d rest) = _
  rw [hput d]
  rfl

theorem takeMembers_members (d : Draft) (settings : List Setting) :
    takeMembers d (settings.map Setting.member) = .ok (settings.foldl Draft.fill d) := by
  induction settings generalizing d with
  | nil => rfl
  | cons s settings ih => rw [List.map_cons, takeMembers_member, ih, List.foldl_cons]

theorem build_foldl_fill (d : Draft) (settings : List Setting) :
    (settings.foldl Draft.fill d).build = settings.foldl put d.build := by
  induction settings generalizing d with
  | nil => rfl
  | cons s settings ih => rw [List.foldl_cons, ih, build_fill, List.foldl_cons]

theorem takeMembers_unknown {members : List (String × Found)} {name : String} {found : Found}
    (h : (name, found) ∈ members) (hname : name ∉ slots.map Slot.name) (d : Draft) :
    ∃ m, takeMembers d members = .error m := by
  induction members generalizing d with
  | nil => cases h
  | cons e members ih =>
    rw [takeMembers]
    cases hslot : slots.find? fun s => s.name = e.1 with
    | none => exact ⟨_, rfl⟩
    | some slot =>
      rcases List.mem_cons.1 h with rfl | h
      · have hfound : slot.name = name := by simpa using List.find?_some hslot
        exact absurd (hfound ▸ List.mem_map_of_mem (List.mem_of_find?_eq_some hslot)) hname
      · cases hput : slot.put e.2 d with
        | error m => exact ⟨m, by simp [hput, bind, Except.bind]⟩
        | ok filled =>
          obtain ⟨m, hm⟩ := ih h filled
          exact ⟨m, by simp [hput, hm, bind, Except.bind]⟩

end Members

section Writing

theorem exists_writes (h : ∀ n, s = .maxKeyLength n ∨ s = .maxValueSize n → n.toNat < 2 ^ 63) :
    ∃ t, Toml.Writes s.found t := by
  cases s with
  | maxKeyLength n => exact Toml.exists_writes_whole (h n (.inl rfl))
  | maxValueSize n => exact Toml.exists_writes_whole (h n (.inr rfl))
  | keyPattern source =>
    obtain ⟨t, ht⟩ := Toml.exists_spells source.toList
    have hwrites := Toml.Writes.string ht
    rw [String.ofList_toList] at hwrites
    exact ⟨_, hwrites⟩
  | validateScanPrefix b =>
    cases b with
    | false => exact ⟨_, .no⟩
    | true => exact ⟨_, .yes⟩

/-- All settings but those of the largest limits can be written in a document, in any order. -/
theorem exists_document (h : ∀ s ∈ settings, ∀ n,
    s = .maxKeyLength n ∨ s = .maxValueSize n → n.toNat < 2 ^ 63) :
    ∃ t, Toml.Document (settings.map Setting.member) t := by
  have hnone : Toml.Gap [] := by simp [Toml.Gap]
  suffices hlines : ∃ t, Toml.Lines (settings.map Setting.member) t by
    obtain ⟨t, ht⟩ := hlines
    exact ⟨t, .ended ht⟩
  induction settings with
  | nil => exact ⟨[], .nil⟩
  | cons s settings ih =>
    obtain ⟨hs, hsettings⟩ := List.forall_mem_cons.1 h
    obtain ⟨t, ht⟩ := ih hsettings
    obtain ⟨value, hvalue⟩ := exists_writes hs
    have hname : Toml.Bare s.name := by
      cases s <;> simp only [Setting.name] <;> exact ⟨by decide, rfl⟩
    exact ⟨_, .cons (.mk (.mk hname hnone hnone) hnone hvalue hnone)
      (by decide : ['\n'] ∈ Toml.newlines) ht⟩

end Writing

/-- What a document of settings gives, each of which is written once: the limits that are written,
whether their pattern compiles or not, unless one of them is zero, which is refused. A document that
begins with such lines and then assigns anything to another name is refused, whatever follows. There
is a document of any settings but those of the largest limits. -/
theorem ofToml_of_settings (hnames : (settings.map Setting.name).Nodup) :
    ((∀ s ∈ settings, ∀ n, s = .maxKeyLength n ∨ s = .maxValueSize n → n.toNat < 2 ^ 63) →
      ∃ t, Toml.Document (settings.map Setting.member) t) ∧
    ∀ {text : String}, Toml.Document (settings.map Setting.member) text.toList →
      ((∀ s ∈ settings, s.isZero = false) → ofToml text = .ok (written settings)) ∧
      ((∃ s ∈ settings, s.isZero = true) → ∃ fault, (written settings).fault? = some fault ∧
        ofToml text = .error (.config fault)) ∧
      ∀ {before : List (String × Found)} {lead start : List Char} {name : String},
        Toml.Lines before lead → Toml.Begins name start → name ∉ slots.map Slot.name →
          ∀ rest, ∃ fault, ofToml (String.ofList (lead ++ (start ++ rest))) =
            .error (.config fault) := by
  refine ⟨exists_document, fun {text} hdocument => ?_⟩
  have hmembers : Toml.document text = some (settings.map Setting.member) := by
    refine Toml.document_eq_some hdocument ?_
    rw [List.map_map]
    exact hnames
  have htaken := takeMembers_members .blank settings
  have hbuild : (settings.foldl Draft.fill .blank).build = written settings :=
    build_foldl_fill .blank settings
  refine ⟨fun hzero => ?_, fun ⟨s, hs, hzero⟩ => ?_, fun hlead hstart hname rest => ?_⟩
  · have hfault : (written settings).fault? = none := fault?_foldl_put_eq_none rfl hzero
    simp [ofToml, hmembers, htaken, hbuild, hfault]
  · have hwritten : (written settings).put s = written settings :=
      foldl_put_eq_self hnames hs standard
    obtain ⟨fault, hfault⟩ := fault?_put_of_isZero (l := written settings) hzero
    rw [hwritten] at hfault
    exact ⟨fault, hfault, by simp [ofToml, hmembers, htaken, hbuild, hfault]⟩
  · rw [ofToml]
    cases hother : Toml.document (String.ofList (_ ++ (_ ++ rest))) with
    | none => exact ⟨.notToml, rfl⟩
    | some members =>
      obtain ⟨found, hmem⟩ :=
        Toml.exists_mem_document hlead hstart String.toList_ofList hother
      obtain ⟨m, hm⟩ := takeMembers_unknown hmem hname .blank
      exact ⟨.shape m, by simp [hm]⟩

/-- Three of the fields, with a pattern that does not compile, and a stray name at the end. -/
theorem ofToml_of_settings_three :
    ofToml "validate_scan_prefix=true\r\nkey_pattern = \"([\\\"\"\nmax_key_length = +1_6" =
      .ok ⟨16, 104857600, some "([\"", true⟩ ∧
    ∃ fault, ofToml "validate_scan_prefix=true\r\nextra = [\n" = .error (.config fault) := by
  have hnone : Toml.Gap [] := by simp [Toml.Gap]
  have hone : Toml.Gap [' '] := by simp [Toml.Gap, Toml.isGap]
  have hflag : Toml.Assigns (Setting.member (.validateScanPrefix true))
      ("validate_scan_prefix=".toList ++ ([] ++ ("true".toList ++ []))) :=
    .mk (.mk ⟨by decide, rfl⟩ hnone hnone) hnone .yes hnone
  have hsource : Toml.Spells "([\"".toList "([\\\"".toList :=
    .plain (by decide) (by decide) (by decide) <| .plain (by decide) (by decide) (by decide) <|
      .letter (by decide) .nil
  have hpattern : Toml.Assigns (Setting.member (.keyPattern "([\""))
      ("key_pattern =".toList ++ ([' '] ++ ("\"([\\\"\"".toList ++ []))) :=
    .mk (.mk ⟨by decide, rfl⟩ hnone hone) hone (.string hsource) hnone
  have hlength : Toml.Assigns (Setting.member (.maxKeyLength 16))
      ("max_key_length =".toList ++ ([' '] ++ ("+1_6".toList ++ []))) :=
    .mk (.mk ⟨by decide, rfl⟩ hnone hone) hone
      (@Toml.Writes.whole ['+'] ['1', '_', '6'] false 16 (by decide) (.line rfl (.one rfl)) rfl)
      hnone
  have hfeed : ['\n'] ∈ Toml.newlines := by decide
  have hreturn : ['\r', '\n'] ∈ Toml.newlines := by decide
  have hdocument := Toml.Document.last (.cons hflag hreturn (.cons hpattern hfeed .nil)) hlength
  have hextra : Toml.Begins "extra" "extra =".toList :=
    .mk ⟨by decide, rfl⟩ hnone hone
  obtain ⟨-, hreads⟩ := @ofToml_of_settings
    [.validateScanPrefix true, .keyPattern "([\"", .maxKeyLength 16] (by decide)
  obtain ⟨hgives, -, hrefuses⟩ := @hreads
    "validate_scan_prefix=true\r\nkey_pattern = \"([\\\"\"\nmax_key_length = +1_6" hdocument
  exact ⟨hgives (by decide), hrefuses (.cons hflag hreturn .nil) hextra (by decide) " [\n".toList⟩

end StoreGuard.Limits
