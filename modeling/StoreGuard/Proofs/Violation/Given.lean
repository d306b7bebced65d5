import StoreGuard.Proofs.Json.Fields
import StoreGuard.Violation

namespace StoreGuard.Violation

open Json

def fieldNames : List String := ["type", "code", "metadata", "message", "target", "value"]

def IsText (n : Node) (s : String) : Prop := n.Says (.string s)

def IsMessage (n : Node) (m : Option String) : Prop := n.Says (m.elim .null .string)

def IsMetadata (n : Node) (d : Metadata) : Prop :=
  ∃ ms, n.Says (.object ms) ∧ d = .ofEntries (keptMembers ms)

def IsDatum (n : Node) (d : Datum) : Prop := ∃ j, n.Says j ∧ d = j.kept

/-- What is written under the names of the fields gives a violation. Kind and target must be there;
where another field is not there the violation has nothing in its place. -/
structure FieldsGive (written : String → Option Node) (v : Violation) : Prop where
  kind : ∃ n ∈ written "type", IsText n v.kind
  code : Gives IsText "" (written "code") v.code
  metadata : Gives IsMetadata .empty (written "metadata") v.metadata
  message : Gives IsMessage none (written "message") v.message
  target : ∃ n ∈ written "target", IsText n v.target
  value : Gives IsDatum .null (written "value") v.value

/-- The fields that a tree has: the members of an object under their names, whatever else is in it,
or five or six items of an array for the fields in order. -/
inductive FieldsOf : Node → List (String × Node) → Prop where
  | object {ms : List (Quoted × Node)} {members : List (String × Node)}
    (hnamed : List.Forall₂ IsNamed ms members) :
    FieldsOf (.object ms none) (members.filter fun m => fieldNames.contains m.1)
  | array {items : List Node} (hlength : items.length = 5 ∨ items.length = 6) :
    FieldsOf (.array items none) (fieldNames.zip items)

/-- A tree that gives a violation has no field twice. -/
def GivenBy (n : Node) (v : Violation) : Prop :=
  ∃ fields, FieldsOf n fields ∧ (fields.map Prod.fst).Nodup ∧
    FieldsGive (fun name => fields.lookup name) v

def SaysAlike (n n' : Node) : Prop := ∀ j, n.Says j ↔ n'.Says j

def SameField (e e' : String × Node) : Prop := e.1 = e'.1 ∧ SaysAlike e.2 e'.2

/-- Trees with the same values in the same fields, in any order. -/
def SameFields (n n' : Node) : Prop :=
  ∃ fields fields' sorted, FieldsOf n fields ∧ FieldsOf n' fields' ∧ fields.Perm sorted ∧
    List.Forall₂ SameField sorted fields'

section Filling

def filled (limit : Nat) (members : List (String × Node)) : Draft where
  kind := taken Node.text "type" members
  code := taken Node.text "code" members
  metadata := taken (Node.metadata limit) "metadata" members
  message := taken Node.text? "message" members
  target := taken Node.text "target" members
  value := taken (Node.datum limit) "value" members

theorem names_record : record.names = fieldNames := rfl

theorem fills (limit : Nat) : record.Fills limit (filled limit) where
  nodup := by decide
  fits := by
    intro f hf
    simp only [record, List.mem_cons, List.not_mem_nil, or_false] at hf
    rcases hf with rfl | rfl | rfl | rfl | rfl | rfl
    all_goals
      refine Field.fits_of (fun _ => rfl) fun hopen ha => ?_
      simp [filled, taken_concat_self hopen ha, taken_concat_of_ne]
  pass := by
    intro members name n hname
    simp only [names_record, fieldNames, List.mem_cons, List.not_mem_nil, or_false, not_or,
      eq_comm (a := name)] at hname
    obtain ⟨hkind, hcode, hmetadata, hmessage, htarget, hvalue⟩ := hname
    simp only [filled, taken_concat_of_ne hkind, taken_concat_of_ne hcode,
      taken_concat_of_ne hmetadata, taken_concat_of_ne hmessage, taken_concat_of_ne htarget,
      taken_concat_of_ne hvalue]

variable {limit : Nat} {n : Node} {members : List (String × Node)} {v : Violation}

theorem datum_eq_ok_iff (hdepth : n.depth < limit) {d : Datum} :
    n.datum limit = .ok d ↔ IsDatum n d := by
  rw [Node.datum, map_eq_ok_iff]
  simp only [Node.value_eq_ok_iff hdepth, eq_comm (b := d)]
  exact Iff.rfl

/-- What must be given is given where anything is. -/
theorem exists_mem_iff {Is : Node → String → Prop} {written : Option Node} {s : String} :
    (∃ n ∈ written, Is n s) ↔ written.isSome = true ∧ Gives Is "" written s := by
  cases written <;> simp [Gives]

/-- The fields give what has been read where each of them could be read and those that are required
are there. -/
theorem fieldsGive_iff (hdepth : ∀ m ∈ members, m.2.depth < limit) :
    FieldsGive (fun name => members.lookup name) v ↔
      (∀ f ∈ record.fields, ∀ n, members.lookup f.name = some n → f.Readable limit .blank n) ∧
      (∀ f ∈ record.fields, f.required = true → (members.lookup f.name).isSome = true) ∧
      (filled limit members).build = v := by
  obtain ⟨kind, code, metadata, message, target, value⟩ := v
  have hlow (name : String) (n : Node) (h : members.lookup name = some n) : n.depth < limit :=
    hdepth (name, n) (mem_of_lookup h)
  have htext (name s : String) : Gives IsText "" (members.lookup name) s ↔ _ :=
    gives_iff fun n _ s => text_eq_ok_iff
  have hmessage : Gives IsMessage none (members.lookup "message") message ↔ _ :=
    gives_iff fun n _ m => text?_eq_ok_iff
  have hmetadata : Gives IsMetadata .empty (members.lookup "metadata") metadata ↔ _ :=
    gives_iff fun n hn d => Node.metadata_eq_ok_iff (hlow _ n hn)
  have hvalue : Gives IsDatum .null (members.lookup "value") value ↔ _ :=
    gives_iff fun n hn d => datum_eq_ok_iff (hlow _ n hn)
  have hbuild : (filled limit members).build = ⟨kind, code, metadata, message, target, value⟩ ↔
      (taken Node.text "type" members).getD "" = kind ∧
      (taken Node.text "code" members).getD "" = code ∧
      (taken (Node.metadata limit) "metadata" members).getD .empty = metadata ∧
      (taken Node.text? "message" members).getD none = message ∧
      (taken Node.text "target" members).getD "" = target ∧
      (taken (Node.datum limit) "value" members).getD .null = value := by
    simp only [Draft.build, filled, mk.injEq]
  have hrequired : (∀ f ∈ record.fields, f.required = true →
      (members.lookup f.name).isSome = true) ↔
      (members.lookup "type").isSome = true ∧ (members.lookup "target").isSome = true := by
    simp [record]
  rw [hbuild, hrequired]
  simp only [record, List.forall_mem_cons, Field.name_of, readable_of_iff]
  constructor
  · intro h
    obtain ⟨hkind, hkind'⟩ := exists_mem_iff.1 h.kind
    obtain ⟨htarget, htarget'⟩ := exists_mem_iff.1 h.target
    obtain ⟨hread₁, hkind'⟩ := (htext "type" kind).1 hkind'
    obtain ⟨hread₂, hcode⟩ := (htext "code" code).1 h.code
    obtain ⟨hread₃, hmetadata⟩ := hmetadata.1 h.metadata
    obtain ⟨hread₄, hmessage⟩ := hmessage.1 h.message
    obtain ⟨hread₅, htarget'⟩ := (htext "target" target).1 htarget'
    obtain ⟨hread₆, hvalue⟩ := hvalue.1 h.value
    exact ⟨⟨hread₁, hread₂, hread₃, hread₄, hread₅, hread₆, nofun⟩, ⟨hkind, htarget⟩,
      hkind', hcode, hmetadata, hmessage, htarget', hvalue⟩
  · rintro ⟨⟨hread₁, hread₂, hread₃, hread₄, hread₅, hread₆, -⟩, ⟨hkind, htarget⟩,
      hkind', hcode', hmetadata', hmessage', htarget', hvalue'⟩
    exact {
      kind := exists_mem_iff.2 ⟨hkind, (htext "type" kind).2 ⟨hread₁, hkind'⟩⟩
      code := (htext "code" code).2 ⟨hread₂, hcode'⟩
      metadata := hmetadata.2 ⟨hread₃, hmetadata'⟩
      message := hmessage.2 ⟨hread₄, hmessage'⟩
      target := exists_mem_iff.2 ⟨htarget, (htext "target" target).2 ⟨hread₅, htarget'⟩⟩
      value := hvalue.2 ⟨hread₆, hvalue'⟩ }

end Filling

section Fields

variable {n : Node} {members : List (String × Node)} {v : Violation}

theorem lookup_fields {name : String} (hname : name ∈ fieldNames) (members : List (String × Node)) :
    (members.filter fun m => fieldNames.contains m.1).lookup name = members.lookup name := by
  rw [lookup_filter_key fieldNames.contains, if_pos (by simpa using hname)]

/-- No field is there twice among the fields exactly if none is among the members. -/
theorem nodup_fields_iff :
    ((members.filter fun m => fieldNames.contains m.1).map Prod.fst).Nodup ↔
      ∀ name ∈ fieldNames, (members.map Prod.fst).count name ≤ 1 := by
  have hfilter : (members.filter fun m => fieldNames.contains m.1).map Prod.fst =
      (members.map Prod.fst).filter fieldNames.contains := by
    rw [List.filter_map]
    rfl
  rw [hfilter, List.nodup_iff_count_le_one]
  refine forall_congr' fun name => ?_
  by_cases hname : name ∈ fieldNames
  · rw [List.count_filter (by simpa using hname), forall_prop_of_true hname]
  · have hnone : name ∉ (members.map Prod.fst).filter fieldNames.contains := by simp [hname]
    rw [List.count_eq_zero.2 hnone]
    exact iff_of_true (Nat.zero_le 1) fun h => absurd h hname

/-- What a field gives depends only on the value that is written for it. -/
theorem Gives.of_rel {α : Type} {Is : Node → α → Prop} {usual a : α} {written written' : Option Node}
    (hIs : ∀ {n n'}, SaysAlike n n' → Is n a → Is n' a)
    (hwritten : Option.Rel SaysAlike written written') (h : Gives Is usual written a) :
    Gives Is usual written' a := by
  cases hwritten with
  | none => exact h
  | some hsame => exact hIs hsame h

theorem isSome_eq_of_rel {written written' : Option Node}
    (h : Option.Rel SaysAlike written written') : written.isSome = written'.isSome := by
  cases h <;> rfl

theorem IsText.of_saysAlike {n n' : Node} {s : String} (hsame : SaysAlike n n') (h : IsText n s) :
    IsText n' s :=
  (hsame _).1 h

theorem FieldsGive.of_rel {written written' : String → Option Node}
    (hwritten : ∀ name ∈ fieldNames, Option.Rel SaysAlike (written name) (written' name))
    (h : FieldsGive written v) : FieldsGive written' v := by
  have htext {name s : String} (hname : name ∈ fieldNames) (h : ∃ n ∈ written name, IsText n s) :
      ∃ n ∈ written' name, IsText n s := by
    rw [exists_mem_iff] at h ⊢
    refine ⟨?_, Gives.of_rel IsText.of_saysAlike (hwritten name hname) h.2⟩
    rw [← isSome_eq_of_rel (hwritten name hname), h.1]
  exact {
    kind := htext (by decide) h.kind
    code := Gives.of_rel IsText.of_saysAlike (hwritten "code" (by decide)) h.code
    metadata := by
      refine Gives.of_rel (fun hsame hms => ?_) (hwritten "metadata" (by decide)) h.metadata
      obtain ⟨ms, hms, hd⟩ := hms
      exact ⟨ms, (hsame _).1 hms, hd⟩
    message := Gives.of_rel (fun hsame => (hsame _).1) (hwritten "message" (by decide)) h.message
    target := htext (by decide) h.target
    value := by
      refine Gives.of_rel (fun hsame hj => ?_) (hwritten "value" (by decide)) h.value
      obtain ⟨j, hj, hd⟩ := hj
      exact ⟨j, (hsame _).1 hj, hd⟩ }

theorem rel_of_eq {written written' : Option Node} (h : written = written') :
    Option.Rel SaysAlike written written' := by
  subst h
  cases written with
  | none => exact .none
  | some n => exact .some fun _ => Iff.rfl

/-- Only an array of five items or more has one for the target. -/
theorem length_of_lookup_target {items : List Node} {n : Node}
    (h : (fieldNames.zip items).lookup "target" = some n) : 5 ≤ items.length := by
  rcases items with _ | ⟨a, _ | ⟨b, _ | ⟨c, _ | ⟨d, _ | ⟨e, rest⟩⟩⟩⟩⟩
  case cons.cons.cons.cons.cons => exact Nat.le_add_left 5 rest.length
  all_goals
    have hnone : none = some n := h
    cases hnone

/-- A tree gives a violation by the members that it has for the record. -/
theorem givenBy_iff : GivenBy n v ↔ ∃ members, record.Members n members ∧
    (∀ name ∈ fieldNames, (members.map Prod.fst).count name ≤ 1) ∧
    FieldsGive (fun name => members.lookup name) v := by
  constructor
  · rintro ⟨fields, hfields, honce, hgive⟩
    cases hfields with
    | @object ms members hnamed =>
      exact ⟨members, .object hnamed, nodup_fields_iff.1 honce,
        hgive.of_rel fun name hname => rel_of_eq (lookup_fields hname members)⟩
    | @array items hlength =>
      have hshort : items.length ≤ fieldNames.length := by
        rcases hlength with hlength | hlength <;> rw [hlength] <;> decide
      exact ⟨_, .array hshort, fun name _ => List.nodup_iff_count_le_one.1 honce name, hgive⟩
  · rintro ⟨members, hmembers, honce, hgive⟩
    cases hmembers with
    | @object ms _ hnamed =>
      exact ⟨_, .object hnamed, nodup_fields_iff.2 honce,
        hgive.of_rel fun name hname => rel_of_eq (lookup_fields hname members).symm⟩
    | @array items hshort =>
      obtain ⟨target, htarget, -⟩ := hgive.target
      have hlong : 5 ≤ items.length := length_of_lookup_target htarget
      have hshort : items.length ≤ 6 := hshort
      exact ⟨_, .array (by omega), Record.nodup_zip (by decide) items, hgive⟩

end Fields

section Sameness

variable {n n' : Node} {fields fields' : List (String × Node)} {v : Violation}

/-- A string makes one text at most, and so a tree has its fields in one way at most. -/
theorem FieldsOf.unique (h : FieldsOf n fields) (h' : FieldsOf n fields') : fields = fields' := by
  cases h with
  | object hnamed =>
    cases h' with
    | object hnamed' =>
      have hunique : Relator.RightUnique IsNamed := fun _ _ _ => IsNamed.unique
      rw [List.right_unique_forall₂' hunique hnamed hnamed']
  | array =>
    cases h'
    rfl

theorem names_eq_of_forall₂
    (h : List.Forall₂ SameField fields fields') : fields.map Prod.fst = fields'.map Prod.fst := by
  induction h with
  | nil => rfl
  | cons hfirst _ ih => rw [List.map_cons, List.map_cons, hfirst.1, ih]

theorem lookup_rel_of_forall₂ (name : String)
    (h : List.Forall₂ SameField fields fields') :
    Option.Rel SaysAlike (fields.lookup name) (fields'.lookup name) := by
  induction h with
  | nil => exact .none
  | @cons e e' _ _ hfirst _ ih =>
    obtain ⟨key, n⟩ := e
    obtain ⟨key', n'⟩ := e'
    obtain ⟨rfl, hsame⟩ := hfirst
    rw [lookup_cons_ite, lookup_cons_ite]
    split_ifs
    · exact .some hsame
    · exact ih

theorem saysAlike_string {q q' : Quoted} {s : String} (hq : q.Says s) (hq' : q'.Says s) :
    SaysAlike (.string q) (.string q') := by
  have hmakes {q q' : Quoted} (hq : q.Says s) (hq' : q'.Says s) {j : Json}
      (h : (Node.string q).Says j) : (Node.string q').Says j := by
    cases h with
    | string h => exact hq.unique h ▸ .string hq'
  exact fun j => ⟨hmakes hq hq', hmakes hq' hq⟩

theorem SameFields.symm (h : SameFields n n') : SameFields n' n := by
  obtain ⟨fields, fields', sorted, hn, hn', hperm, halike⟩ := h
  -- The fields of the one in the order of the other's.
  obtain ⟨sorted', halike', hperm'⟩ := List.perm_comp_forall₂ hperm halike
  exact ⟨fields', fields, sorted', hn', hn, hperm'.symm,
    halike'.flip.imp fun e e' h => ⟨h.1.symm, fun j => (h.2 j).symm⟩⟩

theorem SameFields.givenBy (h : SameFields n n') (hgiven : GivenBy n v) : GivenBy n' v := by
  obtain ⟨fields, fields', sorted, hn, hn', hperm, halike⟩ := h
  obtain ⟨_, hfields, honce, hgive⟩ := hgiven
  obtain rfl := hfields.unique hn
  have honce' : (sorted.map Prod.fst).Nodup := (hperm.map Prod.fst).nodup_iff.1 honce
  refine ⟨fields', hn', names_eq_of_forall₂ halike ▸ honce', ?_⟩
  refine hgive.of_rel fun name _ => ?_
  -- A name that stands there once at most is found wherever it stands.
  have hcount := List.nodup_iff_count_le_one.1 honce name
  have hlookup := lookup_rel_of_forall₂ name halike
  rwa [← lookup_eq_of_perm hcount hperm] at hlookup

end Sameness

section Reading

variable {n : Node} {v : Violation} {text : String}

theorem ofJsonText_of_spelled (h : n.Spelled text.toList) :
    ofJsonText text = (record.read depthLimit .blank n).map Draft.build := by
  rw [ofJsonText, readText, h.ofText]
  exact bind_pure _

theorem ofJsonText_eq_ok_iff (h : n.Spelled text.toList) (hnesting : nesting text ≤ 127) :
    ofJsonText text = .ok v ↔ GivenBy n v := by
  have hdepth : n.depth ≤ 127 := h.nesting ▸ hnesting
  have hread (d : Draft) : record.read depthLimit .blank n = .ok d ↔ _ :=
    Record.read_eq_ok_iff (fills 127) (by decide) h.stops h.pass
  rw [ofJsonText_of_spelled h, map_eq_ok_iff, givenBy_iff]
  simp only [hread]
  constructor
  · rintro ⟨_, ⟨members, hmembers, hfine, hrequired, rfl⟩, hbuild⟩
    obtain ⟨honce, hreadable, -⟩ := Record.fine_iff.1 hfine
    exact ⟨members, hmembers, honce,
      (fieldsGive_iff (hmembers.depth_lt hdepth)).2 ⟨hreadable, hrequired, hbuild⟩⟩
  · rintro ⟨members, hmembers, honce, hgive⟩
    obtain ⟨hreadable, hrequired, hbuild⟩ :=
      (fieldsGive_iff (hmembers.depth_lt hdepth)).1 hgive
    exact ⟨_, ⟨members, hmembers, Record.fine_iff.2 ⟨honce, hreadable, nofun⟩, hrequired, rfl⟩,
      hbuild⟩

/-- A text that nests at most 127 deep is read as the violation that its tree gives, and refused if
it gives none. Texts of the same fields, in any order, among others, or in an array, are read
alike. -/
theorem reads_exactly_given (h : n.Spelled text.toList) (hnesting : nesting text ≤ 127) :
    (∀ v, ofJsonText text = .ok v ↔ GivenBy n v) ∧
    ∀ {n' : Node} {text' : String}, n'.Spelled text'.toList → nesting text' ≤ 127 →
      SameFields n n' → (ofJsonText text).toOption = (ofJsonText text').toOption := by
  refine ⟨fun v => ofJsonText_eq_ok_iff h hnesting, fun h' hnesting' hsame => ?_⟩
  refine Option.ext fun v => ?_
  rw [toOption_eq_some_iff, toOption_eq_some_iff, ofJsonText_eq_ok_iff h hnesting,
    ofJsonText_eq_ok_iff h' hnesting']
  exact ⟨hsame.givenBy, hsame.symm.givenBy⟩

section Lone

/-- Half a pair of surrogates alone. -/
def lone : Quoted := ⟨[.unit 0xd800], none⟩

theorem inside_lone : Inside lone.pieces "\\ud800".toList :=
  .unit (a := 'd') (b := '8') (c := '0') (d := '0') rfl .nil

theorem label_lone : Label lone "\"\\ud800\"".toList :=
  @Label.mk [] _ [] _ nofun inside_lone nofun

theorem spelled_lone : (Node.string lone).Spelled "\"\\ud800\"".toList := .string inside_lone

def withMember (name : Quoted) (value : Node) : Node :=
  .object [(quotedOf "type", tree (.string "a")), (quotedOf "target", tree (.string "b")),
    (name, value)] none

theorem withMember_spelled {name : Quoted} {value : Node} {t u : List Char} (hname : Label name t)
    (hvalue : value.Spelled u) : (withMember name value).Spelled
      ('\x7b' :: (quote "type" ++ ':' :: write (.string "a") ++
        (commas [quote "target" ++ ':' :: write (.string "b"), t ++ ':' :: u] ++ ['\x7d']))) :=
  .members (p := ((quotedOf "type", quote "type"), (tree (.string "a"), write (.string "a"))))
    (l := [((quotedOf "target", quote "target"), (tree (.string "b"), write (.string "b"))),
      ((name, t), (value, u))])
    (by simp [label_quote, hname]) (by simp [(Exact.string _).spelled, hvalue])

/-- A string that makes no text is passed over in a member with another name. As a name it is
refused, and so it is in a field. -/
theorem lone_surrogate_refused :
    (∃ text, (withMember (quotedOf "x") (.string lone)).Spelled text.toList ∧ nesting text = 1 ∧
      text = "\x7b\"type\":\"a\",\"target\":\"b\",\"x\":\"\\ud800\"\x7d" ∧
      ofJsonText text = .ok ⟨"a", "", .empty, none, "b", .null⟩) ∧
    (∃ text, (withMember lone .null).Spelled text.toList ∧ nesting text = 1 ∧
      text = "\x7b\"type\":\"a\",\"target\":\"b\",\"\\ud800\":null\x7d" ∧
      ofJsonText text = .error (.fault .malformed)) ∧
    ∃ text, (withMember (quotedOf "value") (.string lone)).Spelled text.toList ∧ nesting text = 1 ∧
      text = "\x7b\"type\":\"a\",\"target\":\"b\",\"value\":\"\\ud800\"\x7d" ∧
      ofJsonText text = .error (.fault .malformed) := by
  have hother : (withMember (quotedOf "x") (.string lone)).Spelled
      "\x7b\"type\":\"a\",\"target\":\"b\",\"x\":\"\\ud800\"\x7d".toList :=
    withMember_spelled (label_quote "x") spelled_lone
  have hnamed : (withMember lone .null).Spelled
      "\x7b\"type\":\"a\",\"target\":\"b\",\"\\ud800\":null\x7d".toList :=
    withMember_spelled label_lone .null
  have hvalue : (withMember (quotedOf "value") (.string lone)).Spelled
      "\x7b\"type\":\"a\",\"target\":\"b\",\"value\":\"\\ud800\"\x7d".toList :=
    withMember_spelled (label_quote "value") spelled_lone
  refine ⟨⟨_, hother, hother.nesting, rfl, ?_⟩, ⟨_, hnamed, hnamed.nesting, rfl, ?_⟩,
    _, hvalue, hvalue.nesting, rfl, ?_⟩
  · rw [ofJsonText_of_spelled hother]
    rfl
  · rw [ofJsonText_of_spelled hnamed]
    rfl
  · rw [ofJsonText_of_spelled hvalue]
    rfl

end Lone

/-- Five fields among another member, with blanks, an escape, and a piece of evidence that is
written twice; and the same fields in an array. -/
theorem reads_exactly_given_two :
    let v : Violation := ⟨"k", "", Dictionary.empty.insert "a" (.int 2), none, "t", .null⟩
    ofJsonText ("\n\x7b\"target\":\"\\u0074\",\"x\":\"\\ud800\" ,\"type\":\"k\",\"code\":\"\"," ++
      "\"metadata\":\x7b\"a\":1,\"a\":2\x7d,\"message\":null\x7d") = .ok v ∧
    (ofJsonText "[\"k\",\"\",\x7b\"a\":1,\"a\":2\x7d,null,\"t\"]").toOption = some v := by
  intro v
  let evidence : Json := .object [("a", .int 1), ("a", .int 2)]
  let target : Quoted := ⟨[.unit 0x74], none⟩
  let members : List (String × Node) := [("target", .string target), ("x", .string lone),
    ("type", tree (.string "k")), ("code", tree (.string "")), ("metadata", tree evidence),
    ("message", .null)]
  let items : List Json := [.string "k", .string "", evidence, .null, .string "t"]
  have hevidence : evidence.Exact := .object <| by
    simp only [List.forall_mem_cons, List.not_mem_nil, false_implies, implies_true, and_true]
    exact ⟨.int (by decide), .int (by decide)⟩
  have hitems : (tree (.array items)).Spelled
      "[\"k\",\"\",\x7b\"a\":1,\"a\":2\x7d,null,\"t\"]".toList := by
    refine Exact.spelled (.array ?_)
    simp only [items, List.forall_mem_cons, List.not_mem_nil, false_implies, implies_true, and_true]
    exact ⟨.string "k", .string "", hevidence, .null, .string "t"⟩
  have htarget : Node.Spelled (.string target) "\"\\u0074\"".toList :=
    .string (.unit (a := '0') (b := '0') (c := '7') (d := '4') rfl .nil)
  have hother : Node.Spelled (.string lone) "\"\\ud800\" ".toList :=
    .after (t := "\"\\ud800\"".toList) rfl spelled_lone
  have hmembers : Node.Spelled (.object (members.map fun m => (quotedOf m.1, m.2)) none)
      ("\n\x7b\"target\":\"\\u0074\",\"x\":\"\\ud800\" ,\"type\":\"k\",\"code\":\"\"," ++
        "\"metadata\":\x7b\"a\":1,\"a\":2\x7d,\"message\":null\x7d").toList :=
    .before (c := '\n') rfl <| .members
      (p := ((quotedOf "target", quote "target"), (.string target, "\"\\u0074\"".toList)))
      (l := [((quotedOf "x", quote "x"), (.string lone, "\"\\ud800\" ".toList)),
        ((quotedOf "type", quote "type"), (tree (.string "k"), write (.string "k"))),
        ((quotedOf "code", quote "code"), (tree (.string ""), write (.string ""))),
        ((quotedOf "metadata", quote "metadata"), (tree evidence, write evidence)),
        ((quotedOf "message", quote "message"), (.null, write .null))])
      (by simp [label_quote])
      (by
        simp only [List.forall_mem_cons, List.not_mem_nil, false_implies, implies_true, and_true]
        exact ⟨htarget, hother, (Exact.string "k").spelled, (Exact.string "").spelled,
          hevidence.spelled, .null⟩)
  have hnamed : List.Forall₂ IsNamed (members.map fun m => (quotedOf m.1, m.2)) members :=
    List.forall₂_map_left_iff.2 (List.forall₂_same.2 fun m _ => ⟨says_quotedOf m.1, rfl⟩)
  have hmakes : target.Says "t" := ⟨rfl, .unit (by decide) .nil⟩
  have hgiven : GivenBy (.object (members.map fun m => (quotedOf m.1, m.2)) none) v := by
    refine ⟨_, .object hnamed, by decide, ?_⟩
    exact {
      kind := ⟨_, rfl, (Exact.string "k").says_tree⟩
      code := (Exact.string "").says_tree
      metadata := ⟨_, hevidence.says_tree, Dictionary.ext rfl⟩
      message := .null
      target := ⟨_, rfl, .string hmakes⟩
      value := rfl }
  have hsame : SameFields (.object (members.map fun m => (quotedOf m.1, m.2)) none)
      (tree (.array items)) := by
    have hrefl (e : String × Node) : SameField e e := ⟨rfl, fun _ => Iff.rfl⟩
    have htarget : SaysAlike (.string target) (tree (.string "t")) :=
      saysAlike_string hmakes (says_quotedOf "t")
    exact ⟨_, _, _, .object hnamed, .array (.inl rfl), (List.perm_append_singleton _ _).symm,
      .cons (hrefl _) (.cons (hrefl _) (.cons (hrefl _) (.cons (hrefl _)
        (.cons ⟨rfl, htarget⟩ .nil))))⟩
  have hdepth : nesting _ ≤ 127 := Nat.le_trans (Nat.le_of_eq hmembers.nesting) (by decide)
  have hdepth' : nesting _ ≤ 127 := Nat.le_trans (Nat.le_of_eq hitems.nesting) (by decide)
  obtain ⟨hreads, halike⟩ := reads_exactly_given hmembers hdepth
  have hok := (hreads v).2 hgiven
  refine ⟨hok, ?_⟩
  rw [← halike hitems hdepth' hsame, hok]
  rfl

end Reading

end StoreGuard.Violation
