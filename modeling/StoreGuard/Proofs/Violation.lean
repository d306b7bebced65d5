import StoreGuard.Proofs.Json.Record
import StoreGuard.Violation

namespace StoreGuard.Violation

open Json

def All (p : Json → Prop) (v : Violation) : Prop :=
  p v.value.json ∧ ∀ e ∈ v.metadata.entries, p e.2.json

section All

variable {v : Violation} {p q : Json → Prop}

theorem All.mono (h : v.All p) (hpq : ∀ j, p j → q j) : v.All q :=
  ⟨hpq _ h.1, fun e he => hpq _ (h.2 e he)⟩

theorem All.withMetadata (h : v.All p) (key : String) {value : Datum} (hvalue : p value.json) :
    (v.withMetadata key value).All p := by
  refine ⟨h.1, fun e he => ?_⟩
  rcases mem_insertEntry he with rfl | he
  · exact hvalue
  · exact h.2 e he

theorem All.withEntries (h : v.All p) {entries : List (String × Datum)}
    (hentries : ∀ e ∈ entries, p e.2.json) : (v.withEntries entries).All p := by
  induction entries generalizing v with
  | nil => exact h
  | cons e rest ih =>
    obtain ⟨he, hrest⟩ := List.forall_mem_cons.1 hentries
    exact ih (h.withMetadata e.1 he) hrest

end All

/-- What has been read when all the members of a violation have been. -/
def draft (v : Violation) : Draft where
  kind := some v.kind
  code := if v.code.isEmpty then none else some v.code
  metadata := if v.metadata.isEmpty then none else some v.metadata
  message := v.message.map some
  target := some v.target
  value := some v.value

theorem build_draft (v : Violation) : v.draft.build = v := by
  obtain ⟨kind, code, metadata, message, target, value⟩ := v
  have hcode : (if code.isEmpty then none else some code).getD "" = code := by
    split_ifs with h
    · exact (String.isEmpty_iff.1 h).symm
    · rfl
  have hmetadata : (if metadata.isEmpty then none else some metadata).getD .empty = metadata := by
    split_ifs with h
    · exact Dictionary.ext (List.isEmpty_iff.1 h).symm
    · rfl
  simp only [Draft.build, draft, hcode, hmetadata]
  cases message <;> rfl

def members (v : Violation) : List (String × Json) :=
  [("type", Json.string v.kind)] ++
  (if v.code.isEmpty then [] else [("code", .string v.code)]) ++
  (if v.metadata.isEmpty then [] else [("metadata", (Datum.object v.metadata).json)]) ++
  (v.message.toList.map fun m => ("message", .string m)) ++
  [("target", .string v.target), ("value", v.value.json)]

theorem toJson_eq_object (v : Violation) : v.toJson = .object v.members := rfl

/-- Around evidence that does not nest there are the object of the evidence and the one of the
violation. -/
theorem All.depth_toJson_le {v : Violation} (h : v.All Scalar) : v.toJson.depth ≤ 2 := by
  have hmetadata : (Datum.object v.metadata).json.depth = 1 := by
    rw [Datum.json_object, depth, membersDepth_eq_zero]
    exact List.forall_mem_map.2 fun e he => (h.2 e he).depth_eq_zero
  rw [toJson_eq_object, depth, members]
  simp only [membersDepth_append]
  cases v.code.isEmpty <;> cases v.metadata.isEmpty <;> cases v.message <;>
    simp [membersDepth, depth, hmetadata, h.1.depth_eq_zero]

theorem exact_toJson {v : Violation} (h : v.All Exact) : v.toJson.Exact := by
  refine Exact.object fun m hm => ?_
  simp only [List.mem_append, List.mem_cons, List.not_mem_nil, or_false] at hm
  rcases hm with (((rfl | hm) | hm) | hm) | rfl | rfl
  · exact Exact.string _
  · split_ifs at hm
    · cases hm
    · rw [List.mem_singleton.1 hm]
      exact Exact.string _
  · split_ifs at hm
    · cases hm
    · rw [List.mem_singleton.1 hm]
      exact Exact.object (List.forall_mem_map.2 h.2)
  · obtain ⟨s, -, rfl⟩ := List.mem_map.1 hm
    exact Exact.string s
  · exact Exact.string _
  · exact h.1

theorem takes_members {v : Violation} (h : v.All Exact) :
    record.Takes v.members .blank v.draft := by
  -- What has been read after each of the members.
  let d₁ : Draft := { Draft.blank with kind := some v.kind }
  let d₂ : Draft := { d₁ with code := v.draft.code }
  let d₃ : Draft := { d₂ with metadata := v.draft.metadata }
  let d₄ : Draft := { d₃ with message := v.draft.message }
  let d₅ : Draft := { d₄ with target := some v.target }
  have hkind : record.Takes [("type", Json.string v.kind)] .blank d₁ :=
    Record.takes_field (fun _ n => n.text) (fun s => { Draft.blank with kind := some s }) rfl rfl
      (fun _ _ => rfl) (text_tree_string v.kind)
  have hcode : record.Takes
      (if v.code.isEmpty then [] else [("code", Json.string v.code)]) d₁ d₂ := by
    dsimp only [d₂, draft]
    split_ifs
    · exact Record.takes_nil record d₁
    · exact Record.takes_field (s := d₁) (fun _ n => n.text) (fun s => { d₁ with code := some s })
        rfl rfl (fun _ _ => rfl) (text_tree_string v.code)
  have hmetadata : record.Takes
      (if v.metadata.isEmpty then [] else [("metadata", (Datum.object v.metadata).json)])
      d₂ d₃ := by
    dsimp only [d₃, draft]
    split_ifs
    · exact Record.takes_nil record d₂
    · exact Record.takes_field (s := d₂) (fun limit n => n.metadata limit)
        (fun m => { d₂ with metadata := some m }) rfl rfl (fun _ _ => rfl)
        (fun limit _ => metadata_tree h.2 limit)
  have hmessage : record.Takes
      (v.message.toList.map fun m => ("message", Json.string m)) d₃ d₄ := by
    dsimp only [d₄, draft]
    cases v.message with
    | none => exact Record.takes_nil record d₃
    | some m =>
      exact Record.takes_field (s := d₃) (fun _ n => n.text?)
        (fun s => { d₃ with message := some s }) rfl rfl (fun _ _ => rfl) (text?_tree_string m)
  have htarget : record.Takes [("target", Json.string v.target)] d₄ d₅ :=
    Record.takes_field (fun _ n => n.text) (fun s => { d₄ with target := some s }) rfl rfl
      (fun _ _ => rfl) (text_tree_string v.target)
  have hvalue : record.Takes [("value", v.value.json)] d₅ v.draft :=
    Record.takes_field (fun limit n => n.datum limit) (fun d => { d₅ with value := some d }) rfl rfl
      (fun _ _ => rfl) (datum_tree h.1)
  exact (((hkind.append hcode).append hmetadata).append hmessage).append (htarget.append hvalue)

theorem read_tree {v : Violation} (h : v.All Exact) (limit : Nat) :
    read limit (tree v.toJson) = within v.toJson.depth limit v := by
  have hread : record.read limit .blank (tree v.toJson) = within v.toJson.depth limit v.draft :=
    (takes_members h).read rfl
  rw [read, hread, map_within, build_draft]

theorem nesting_toJsonText {v : Violation} (h : v.All Exact) :
    nesting v.toJsonText = v.toJson.depth :=
  (exact_toJson h).nesting_render

theorem ofJsonText_eq_within {v : Violation} (h : v.All Exact) :
    ofJsonText v.toJsonText = within v.toJson.depth depthLimit v :=
  (readText_render _ (exact_toJson h)).trans (read_tree h depthLimit)

/-- Texts and whole numbers do not nest, so there is room for them. -/
theorem ofJsonText_of_scalar {v : Violation} (h : v.All Scalar) :
    ofJsonText v.toJsonText = .ok v := by
  have hroom : v.toJson.depth < depthLimit := Nat.lt_of_le_of_lt h.depth_toJson_le (by decide)
  rw [ofJsonText_eq_within (h.mono fun _ => Scalar.exact), within_of_lt hroom]

/-- A violation reads back the same as long as its text nests at most 127 deep; a text that nests
deeper is refused. -/
theorem reads_back_within_nesting (v : Violation) (hexact : v.All Exact) :
    (nesting v.toJsonText ≤ 127 → ofJsonText v.toJsonText = .ok v) ∧
      (127 < nesting v.toJsonText → ofJsonText v.toJsonText = .error (.fault .malformed)) := by
  rw [ofJsonText_eq_within hexact, nesting_toJsonText hexact, depthLimit]
  exact ⟨fun h => within_of_lt (by omega) v, fun h => within_of_le (by omega) v⟩

section Deep

/-- An array in an array, so many deep, around null. -/
def nested : Nat → Datum
  | 0 => .null
  | n + 1 => .array [nested n]

/-- A violation without code or message, with the greatest number as evidence, about a value that
nests so deep. -/
def deep (n : Nat) : Violation where
  kind := ""
  code := ""
  metadata := Dictionary.empty.insert "a \"quoted\"\n" (.int 18446744073709551615)
  message := none
  target := ""
  value := nested n

theorem deep_exact (n : Nat) : (deep n).All Exact := by
  refine ⟨?_, fun e he => ?_⟩
  · change (nested n).json.Exact
    induction n with
    | zero => exact Exact.null
    | succ n ih => exact Exact.array (by simpa using ih)
  · rw [List.mem_singleton.1 he]
    exact Exact.int (by decide)

theorem nesting_deep (n : Nat) : nesting (deep n).toJsonText = max 1 n + 1 := by
  have hvalue : (nested n).json.depth = n := by
    induction n with
    | zero => rfl
    | succ n ih =>
      rw [nested, Datum.json_array, List.map_singleton, depth, itemsDepth, itemsDepth, ih,
        Nat.max_zero]
  rw [nesting_toJsonText (deep_exact n), toJson_eq_object, depth]
  change max 0 (max 1 (max 0 (max (nested n).json.depth 0))) + 1 = _
  rw [hvalue]
  omega

/-- The last depth that reads back, and the first that does not. -/
theorem reads_back_within_nesting_deep :
    ((deep 126).All Exact ∧ nesting (deep 126).toJsonText = 127 ∧
      ofJsonText (deep 126).toJsonText = .ok (deep 126)) ∧
    (deep 127).All Exact ∧ nesting (deep 127).toJsonText = 128 ∧
      ofJsonText (deep 127).toJsonText = .error (.fault .malformed) := by
  have hlast : nesting (deep 126).toJsonText = 127 := nesting_deep 126
  have hfirst : nesting (deep 127).toJsonText = 128 := nesting_deep 127
  refine ⟨⟨deep_exact 126, hlast, ?_⟩, deep_exact 127, hfirst, ?_⟩
  · apply (reads_back_within_nesting (deep 126) (deep_exact 126)).1
    omega
  · apply (reads_back_within_nesting (deep 127) (deep_exact 127)).2
    omega

end Deep

end StoreGuard.Violation
