import StoreGuard.Proofs.Json.Fields
import StoreGuard.Proofs.Json.Found
import StoreGuard.Proofs.Json.Record
import StoreGuard.Proofs.Limits.Reading

namespace StoreGuard.Limits

open Json (Node Quoted Numeral Decodes Gives IsNamed taken)

/-- A whole number of 64 bits, in digits and nothing else. -/
inductive IsLimit : Node → UInt64 → Prop where
  | mk {digits : List Char} {n : UInt64} (h : Nat.ofDigitChars 10 digits 0 = n.toNat) :
    IsLimit (.number ⟨false, digits, none, none⟩) n

inductive IsPattern : Node → Option String → Prop where
  | null : IsPattern .null none
  | string {ps : List Json.Piece} {s : String} (h : Decodes ps s.toList) :
    IsPattern (.string ⟨ps, none⟩) (some s)

inductive IsFlag : Node → Bool → Prop where
  | mk (b : Bool) : IsFlag (.bool b) b

/-- What is written under the names of the fields gives the limits. -/
structure FieldsGive (written : String → Option Node) (l : Limits) : Prop where
  maxKeyLength : Gives IsLimit standard.maxKeyLength (written "max_key_length") l.maxKeyLength
  maxValueSize : Gives IsLimit standard.maxValueSize (written "max_value_size") l.maxValueSize
  keyPattern : Gives IsPattern standard.keyPattern (written "key_pattern") l.keyPattern
  validateScanPrefix :
    Gives IsFlag standard.validateScanPrefix (written "validate_scan_prefix") l.validateScanPrefix

def fieldNames : List String :=
  ["max_key_length", "max_value_size", "key_pattern", "validate_scan_prefix"]

inductive GivenByTree : Node → Limits → Prop where
  | object {ms : List (Quoted × Node)} {members : List (String × Node)} {l : Limits}
    (hnamed : List.Forall₂ IsNamed ms members) (hnodup : (members.map Prod.fst).Nodup)
    (hknown : ∀ e ∈ members, e.1 ∈ fieldNames)
    (hfields : FieldsGive (fun name => members.lookup name) l) :
    GivenByTree (.object ms none) l
  | array {items : List Node} {l : Limits} (hlength : items.length ≤ fieldNames.length)
    (hfields : FieldsGive (fun name => (fieldNames.zip items).lookup name) l) :
    GivenByTree (.array items none) l

section Values

variable {v : Node}

/-- What `take` takes from what stands in a text. -/
def taking {α : Type} (take : Found → Except Mismatch α) (v : Node) : Json.Reading α := do
  match take (← v.found) with
  | .ok a => return a
  | .error m => Json.mismatch m

theorem taking_eq_ok_iff {α : Type} {take : Found → Except Mismatch α} {a : α} :
    taking take v = .ok a ↔ ∃ f, v.found = .ok f ∧ take f = .ok a := by
  rw [taking, bind_eq_ok_iff]
  refine exists_congr fun f => and_congr_right fun _ => ?_
  cases take f with
  | ok b => simp [pure, Except.pure]
  | error m => simp [Json.mismatch]

theorem taking_limit_iff {n : UInt64} : taking limitOf v = .ok n ↔ IsLimit v n := by
  simp only [taking_eq_ok_iff, Node.found_eq_ok_iff, limitOf_eq_ok_iff]
  constructor
  · rintro ⟨_, hshows, rfl⟩
    cases hshows with
    | whole h =>
      obtain ⟨digits, rfl, hdigits⟩ := (Numeral.value_eq_natCast_iff n.toNat_lt_size).1 h
      exact .mk hdigits
  · rintro ⟨hdigits⟩
    exact ⟨_, .whole ((Numeral.value_eq_natCast_iff n.toNat_lt_size).2 ⟨_, rfl, hdigits⟩), rfl⟩

theorem taking_pattern_iff {p : Option String} : taking patternOf v = .ok p ↔ IsPattern v p := by
  simp only [taking_eq_ok_iff, Node.found_eq_ok_iff]
  constructor
  · rintro ⟨_, hshows, htake⟩
    cases hshows with
    | unit =>
      cases htake
      exact .null
    | string h =>
      cases htake
      exact .string h
    | _ => cases htake
  · rintro (_ | h)
    · exact ⟨_, .unit, rfl⟩
    · exact ⟨_, .string h, rfl⟩

theorem taking_flag_iff {b : Bool} : taking flagOf v = .ok b ↔ IsFlag v b := by
  simp only [taking_eq_ok_iff, Node.found_eq_ok_iff]
  constructor
  · rintro ⟨_, hshows, htake⟩
    cases hshows with
    | bool b =>
      cases htake
      exact .mk b
    | _ => cases htake
  · rintro ⟨⟩
    exact ⟨_, .bool b, rfl⟩

end Values

section Filling

def filled (members : List (String × Node)) : Draft where
  maxKeyLength := taken (taking limitOf) "max_key_length" members
  maxValueSize := taken (taking limitOf) "max_value_size" members
  keyPattern := taken (taking patternOf) "key_pattern" members
  validateScanPrefix := taken (taking flagOf) "validate_scan_prefix" members

def Slot.field (s : Slot) : Json.Field Draft :=
  ⟨s.name, false, s.isSet, fun _ v d => do
    match s.put (← v.found) d with
    | .ok d => return d
    | .error m => Json.mismatch m⟩

theorem names_record : record.names = fieldNames := rfl

theorem required_record {f : Json.Field Draft} (hf : f ∈ record.fields) : f.required = false := by
  obtain ⟨s, -, rfl⟩ := List.mem_map.1 hf
  rfl

/-- A slot that puts what it takes in its place. -/
theorem field_eq_of {α : Type} (name : String) (slot : Draft → Option α)
    (take : Found → Except Mismatch α) (put : Draft → α → Draft) :
    Slot.field ⟨name, fun d => (slot d).isSome, fun f d => do return put d (← take f)⟩ =
      .of name false slot (fun _ => taking take) put := by
  rw [Slot.field, Json.Field.of]
  congr 1
  funext limit v d
  rw [taking]
  cases v.found with
  | error e => rfl
  | ok f =>
    simp only [bind, Except.bind]
    cases take f <;> rfl

theorem fields_eq : record.fields = [
    .of "max_key_length" false Draft.maxKeyLength (fun _ => taking limitOf)
      fun d n => { d with maxKeyLength := some n },
    .of "max_value_size" false Draft.maxValueSize (fun _ => taking limitOf)
      fun d n => { d with maxValueSize := some n },
    .of "key_pattern" false Draft.keyPattern (fun _ => taking patternOf)
      fun d p => { d with keyPattern := some p },
    .of "validate_scan_prefix" false Draft.validateScanPrefix (fun _ => taking flagOf)
      fun d b => { d with validateScanPrefix := some b }] := by
  rw [← field_eq_of, ← field_eq_of, ← field_eq_of, ← field_eq_of]
  rfl

theorem fills (limit : Nat) : record.Fills limit filled where
  nodup := by decide
  fits := by
    intro f hf
    simp only [fields_eq, List.mem_cons, List.not_mem_nil, or_false] at hf
    rcases hf with rfl | rfl | rfl | rfl
    all_goals
      refine Json.Field.fits_of (fun _ => rfl) fun hopen ha => ?_
      simp [filled, Json.taken_concat_self hopen ha, Json.taken_concat_of_ne]
  pass := by
    intro members name n hname
    simp only [names_record, fieldNames, List.mem_cons, List.not_mem_nil, or_false, not_or,
      eq_comm (a := name)] at hname
    obtain ⟨hlength, hsize, hpattern, hflag⟩ := hname
    simp only [filled, Json.taken_concat_of_ne hlength, Json.taken_concat_of_ne hsize,
      Json.taken_concat_of_ne hpattern, Json.taken_concat_of_ne hflag]

variable {limit : Nat} {members : List (String × Node)} {n : Node} {l : Limits}

/-- The fields give what has been read where each of them could be read. -/
theorem fieldsGive_iff : FieldsGive (fun name => members.lookup name) l ↔
    (∀ f ∈ record.fields, ∀ n, members.lookup f.name = some n → f.Readable limit .blank n) ∧
      (filled members).build = l := by
  obtain ⟨maxKeyLength, maxValueSize, keyPattern, validateScanPrefix⟩ := l
  have hlimit (name : String) (usual n : UInt64) : Gives IsLimit usual (members.lookup name) n ↔ _ :=
    Json.gives_iff fun n _ s => taking_limit_iff
  have hpattern : Gives IsPattern standard.keyPattern (members.lookup "key_pattern") keyPattern ↔ _ :=
    Json.gives_iff fun n _ s => taking_pattern_iff
  have hflag : Gives IsFlag standard.validateScanPrefix (members.lookup "validate_scan_prefix")
      validateScanPrefix ↔ _ :=
    Json.gives_iff fun n _ s => taking_flag_iff
  have hbuild : (filled members).build =
      ⟨maxKeyLength, maxValueSize, keyPattern, validateScanPrefix⟩ ↔
      (taken (taking limitOf) "max_key_length" members).getD standard.maxKeyLength = maxKeyLength ∧
      (taken (taking limitOf) "max_value_size" members).getD standard.maxValueSize = maxValueSize ∧
      (taken (taking patternOf) "key_pattern" members).getD standard.keyPattern = keyPattern ∧
      (taken (taking flagOf) "validate_scan_prefix" members).getD standard.validateScanPrefix =
        validateScanPrefix := by
    simp only [Draft.build, filled, mk.injEq]
  rw [hbuild]
  simp only [fields_eq, List.forall_mem_cons, Json.Field.name_of, Json.readable_of_iff]
  constructor
  · intro h
    obtain ⟨hread₁, hlength⟩ := (hlimit _ _ _).1 h.maxKeyLength
    obtain ⟨hread₂, hsize⟩ := (hlimit _ _ _).1 h.maxValueSize
    obtain ⟨hread₃, hpattern⟩ := hpattern.1 h.keyPattern
    obtain ⟨hread₄, hflag⟩ := hflag.1 h.validateScanPrefix
    exact ⟨⟨hread₁, hread₂, hread₃, hread₄, nofun⟩, hlength, hsize, hpattern, hflag⟩
  · rintro ⟨⟨hread₁, hread₂, hread₃, hread₄, -⟩, hlength, hsize, hpattern', hflag'⟩
    exact ⟨(hlimit _ _ _).2 ⟨hread₁, hlength⟩, (hlimit _ _ _).2 ⟨hread₂, hsize⟩,
      hpattern.2 ⟨hread₃, hpattern'⟩, hflag.2 ⟨hread₄, hflag'⟩⟩

/-- A tree gives limits by the members that it has for the record. -/
theorem givenByTree_iff : GivenByTree n l ↔ ∃ members, record.Members n members ∧
    (members.map Prod.fst).Nodup ∧ (∀ e ∈ members, e.1 ∈ fieldNames) ∧
    FieldsGive (fun name => members.lookup name) l := by
  constructor
  · rintro (⟨hnamed, hnodup, hknown, hfields⟩ | ⟨hlength, hfields⟩)
    · exact ⟨_, .object hnamed, hnodup, hknown, hfields⟩
    · exact ⟨_, .array hlength, Json.Record.nodup_zip (by decide) _,
        fun e he => (List.of_mem_zip he).1, hfields⟩
  · rintro ⟨members, hmembers, hnodup, hknown, hfields⟩
    cases hmembers with
    | object hnamed => exact .object hnamed hnodup hknown hfields
    | array hlength => exact .array hlength hfields

theorem fine_record_iff : record.Fine limit .blank members ↔ (members.map Prod.fst).Nodup ∧
    (∀ e ∈ members, e.1 ∈ fieldNames) ∧
    ∀ f ∈ record.fields, ∀ n, members.lookup f.name = some n → f.Readable limit .blank n := by
  rw [Json.Record.fine_iff, names_record, List.nodup_iff_count_le_one]
  constructor
  · rintro ⟨honce, hreadable, hknown⟩
    refine ⟨fun name => ?_, hknown rfl, hreadable⟩
    by_cases hname : name ∈ fieldNames
    · exact honce name hname
    · have hnone : name ∉ members.map Prod.fst := by
        rintro hmem
        obtain ⟨e, he, rfl⟩ := List.mem_map.1 hmem
        exact hname (hknown rfl e he)
      rw [List.count_eq_zero.2 hnone]
      exact Nat.zero_le 1
  · rintro ⟨honce, hknown, hreadable⟩
    exact ⟨fun name _ => honce name, hreadable, fun _ => hknown⟩

end Filling

section Texts

variable {l : Limits} {n : Node} {text : String}

theorem ofJsonText_of_spelled (h : n.Spelled text.toList) :
    ofJsonText text = (record.read Json.depthLimit .blank n).map Draft.build := by
  rw [ofJsonText, Json.readText, h.ofText]
  exact bind_pure _

theorem ofJsonText_eq_ok_iff (h : n.Spelled text.toList) :
    ofJsonText text = .ok l ↔ GivenByTree n l := by
  have hread (d : Draft) : record.read Json.depthLimit .blank n = .ok d ↔ _ :=
    Json.Record.read_eq_ok_iff (fills 127) (by decide) h.stops h.pass
  rw [ofJsonText_of_spelled h, map_eq_ok_iff, givenByTree_iff]
  simp only [hread]
  constructor
  · rintro ⟨_, ⟨members, hmembers, hfine, -, rfl⟩, hbuild⟩
    obtain ⟨hnodup, hknown, hreadable⟩ := fine_record_iff.1 hfine
    exact ⟨members, hmembers, hnodup, hknown, fieldsGive_iff.2 ⟨hreadable, hbuild⟩⟩
  · rintro ⟨members, hmembers, hnodup, hknown, hfields⟩
    obtain ⟨hreadable, hbuild⟩ := fieldsGive_iff.1 hfields
    refine ⟨_, ⟨members, hmembers, fine_record_iff.2 ⟨hnodup, hknown, hreadable⟩, ?_, rfl⟩, hbuild⟩
    intro f hf hrequired
    rw [required_record hf] at hrequired
    cases hrequired

/-- The order of the members does not matter. -/
theorem GivenByTree.perm {ms ms' : List (Quoted × Node)} (hperm : ms.Perm ms')
    (h : GivenByTree (.object ms none) l) : GivenByTree (.object ms' none) l := by
  cases h with
  | @object _ members _ hnamed hnodup hknown hfields =>
    obtain ⟨members', hnamed', hmembers⟩ := List.perm_comp_forall₂ hperm.symm hnamed
    have hnodup' : (members'.map Prod.fst).Nodup := (hmembers.map Prod.fst).nodup_iff.2 hnodup
    have hlookup : (fun name => members'.lookup name) = fun name => members.lookup name := by
      funext name
      exact lookup_eq_of_perm (List.nodup_iff_count_le_one.1 hnodup' name) hmembers
    refine .object hnamed' hnodup' (fun e he => hknown e (hmembers.mem_iff.1 he)) ?_
    rw [hlookup]
    exact hfields

theorem forall₂_isNamed_memberTrees (ms : List (String × Json)) :
    List.Forall₂ IsNamed (Json.memberTrees ms) (ms.map fun m => (m.1, Json.tree m.2)) := by
  rw [Json.memberTrees_eq_map, List.forall₂_map_left_iff, List.forall₂_map_right_iff,
    List.forall₂_same]
  intro m _
  exact ⟨Json.says_quotedOf m.1, rfl⟩

theorem isLimit_tree (n : UInt64) : IsLimit (Json.tree (.ofNat n.toNat)) n := by
  have htree : Json.tree (.ofNat n.toNat) =
      .number ⟨false, Nat.toDigits 10 n.toNat, none, none⟩ := by
    simp [Json.ofNat, Json.tree]
  rw [htree]
  exact .mk Nat.ofDigitChars_ten_toDigits

theorem isPattern_tree (pattern : Option String) :
    IsPattern (Json.tree (pattern.elim .null .string)) pattern := by
  cases pattern with
  | none => exact .null
  | some s => exact .string (Json.decodes_map_pieceOf s.toList)

theorem exact_toJson (l : Limits) : l.toJson.Exact := by
  have hlimit (n : UInt64) : (Json.ofNat n.toNat).Exact :=
    .int (Json.fitsWord_natCast n.toNat_lt_size)
  have hpattern : (l.keyPattern.elim Json.null Json.string).Exact := by
    cases l.keyPattern with
    | none => exact .null
    | some s => exact .string s
  refine .object ?_
  simp only [List.forall_mem_cons, List.not_mem_nil, false_implies, implies_true, and_true]
  exact ⟨hlimit _, hlimit _, hpattern, .bool _⟩

/-- The tree of printed limits gives them. -/
theorem givenByTree_toJson (l : Limits) : GivenByTree (Json.tree l.toJson) l := by
  have hnodup : fieldNames.Nodup := by decide
  exact .object (forall₂_isNamed_memberTrees _) hnodup (fun e he => List.mem_map_of_mem he)
    ⟨isLimit_tree _, isLimit_tree _, isPattern_tree _, .mk _⟩

/-- Limits are read back from what is printed for them, whatever they are. A text that is JSON is
read as the limits that its tree gives, and refused if that gives none; the order of the members
does not matter. -/
theorem json_texts_give_limits :
    (∀ l : Limits, ofJsonText l.toJsonText = .ok l) ∧
    ∀ {n : Node} {text : String}, n.Spelled text.toList →
      (∀ l, ofJsonText text = .ok l ↔ GivenByTree n l) ∧
      ∀ {ms ms' : List (Quoted × Node)} {text' : String}, n = .object ms none → ms.Perm ms' →
        (Node.object ms' none).Spelled text'.toList →
          ∀ l, ofJsonText text' = .ok l ↔ ofJsonText text = .ok l := by
  refine ⟨fun l => ?_, fun h => ⟨fun l => ofJsonText_eq_ok_iff h, ?_⟩⟩
  · apply (ofJsonText_eq_ok_iff _).2 (givenByTree_toJson l)
    rw [toJsonText, Json.render, String.toList_ofList]
    exact l.exact_toJson.spelled
  · intro ms ms' text' hn hperm h' l
    subst hn
    rw [ofJsonText_eq_ok_iff h', ofJsonText_eq_ok_iff h]
    exact ⟨.perm hperm.symm, .perm hperm⟩

/-- A limit of zero, under a name that is written with an escape, and a pattern that does not
compile; the same the other way round; and an array with a limit that is no whole number. -/
theorem json_texts_give_limits_two :
    let l : Limits := ⟨0, 104857600, some "(", false⟩
    ofJsonText "\x7b\"\\u006dax_key_length\":0,\"key_pattern\":\"(\"\x7d" = .ok l ∧
    ofJsonText "\x7b\"key_pattern\":\"(\",\"\\u006dax_key_length\":0\x7d" = .ok l ∧
    ∀ l, ofJsonText "[-0]" ≠ .ok l := by
  intro l
  let length : Quoted × List Char := (⟨.unit 0x6d :: "ax_key_length".toList.map Json.pieceOf, none⟩,
    "\"\\u006dax_key_length\"".toList)
  let zero : Node × List Char := (.number ⟨false, ['0'], none, none⟩, ['0'])
  let pattern : Quoted × List Char := (Json.quotedOf "key_pattern", Json.quote "key_pattern")
  let source : Node × List Char := (Json.tree (.string "("), Json.write (.string "("))
  have hlength : Json.Label length.1 length.2 :=
    @Json.Label.mk [] _ [] _ nofun (.unit (by decide) (Json.inside_flatMap_escape _)) nofun
  have hpattern : Json.Label pattern.1 pattern.2 := Json.label_quote "key_pattern"
  have hzero : zero.1.Spelled zero.2 := .number (Json.spelled_toDigits false 0)
  have hsource : source.1.Spelled source.2 := (Json.Exact.string "(").spelled
  have hobject : Node.Spelled (.object [(length.1, zero.1), (pattern.1, source.1)] none)
      "\x7b\"\\u006dax_key_length\":0,\"key_pattern\":\"(\"\x7d".toList :=
    .members (p := (length, zero)) (l := [(pattern, source)]) (by simp [hlength, hpattern])
      (by simp [hzero, hsource])
  have hturned : Node.Spelled (.object [(pattern.1, source.1), (length.1, zero.1)] none)
      "\x7b\"key_pattern\":\"(\",\"\\u006dax_key_length\":0\x7d".toList :=
    .members (p := (pattern, source)) (l := [(length, zero)]) (by simp [hlength, hpattern])
      (by simp [hzero, hsource])
  have harray : Node.Spelled (.array [.number ⟨true, ['0'], none, none⟩] none) "[-0]".toList :=
    .items (p := (_, ['-', '0'])) (l := []) (by simpa using .number (Json.spelled_toDigits true 0))
  have hname : length.1.Says "max_key_length" :=
    ⟨rfl, .unit (n := 0x6d) (by decide) (Json.decodes_map_pieceOf "ax_key_length".toList)⟩
  have hgiven : GivenByTree (.object [(length.1, zero.1), (pattern.1, source.1)] none) l :=
    @GivenByTree.object _ [("max_key_length", zero.1), ("key_pattern", source.1)] l
      (.cons ⟨hname, rfl⟩ <| .cons ⟨Json.says_quotedOf _, rfl⟩ .nil)
      (by decide) (by decide) ⟨.mk rfl, rfl, .string (Json.decodes_map_pieceOf _), rfl⟩
  obtain ⟨hgives, halike⟩ := json_texts_give_limits.2 hobject
  have hok := (hgives l).2 hgiven
  refine ⟨hok, (halike rfl (.swap _ _ []) hturned l).2 hok, fun l' hl' => ?_⟩
  have hrefused := ((json_texts_give_limits.2 harray).1 l').1 hl'
  cases hrefused with
  | array hshort hfields => cases hfields.maxKeyLength

end Texts

end StoreGuard.Limits
