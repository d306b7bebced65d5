import StoreGuard.Context
import StoreGuard.Proofs.Dictionary
import StoreGuard.Proofs.Json.Record
import StoreGuard.Proofs.Text.ByteOrder
import StoreGuard.Violation

namespace StoreGuard

open Json

section Writes

def lastWritten (writes : List (String × Datum)) (key : String) : Option Datum :=
  writes.reverse.lookup key

theorem ofEntries_congr {writes writes' : List (String × Datum)}
    (h : ∀ key, lastWritten writes' key = lastWritten writes key) :
    Dictionary.ofEntries writes' = Dictionary.ofEntries writes := by
  refine Dictionary.ext_get? fun key => ?_
  rw [Dictionary.get?_ofEntries, Dictionary.get?_ofEntries]
  exact h key

theorem Violation.withEntries_of_empty {v : Violation} (hv : v.metadata = .empty)
    (writes : List (String × Datum)) :
    v.withEntries writes = { v with metadata := .ofEntries writes } := by
  rw [withEntries_eq, hv]
  rfl

def Context.withEntries (c : Context) (writes : List (String × Datum)) : Context :=
  writes.foldl (fun c e => c.withMetadata e.1 e.2) c

theorem Context.withEntries_eq (c : Context) (writes : List (String × Datum)) :
    c.withEntries writes =
      { c with metadata := writes.foldl (fun d e => d.insert e.1 e.2) c.metadata } := by
  induction writes generalizing c with
  | nil => rfl
  | cons e rest ih =>
    rw [withEntries, List.foldl_cons, ← withEntries, ih]
    rfl

theorem Context.withEntries_ofTarget (target : String) (writes : List (String × Datum)) :
    (ofTarget target).withEntries writes = ⟨target, .ofEntries writes⟩ :=
  withEntries_eq ..

end Writes

namespace Context

section RoundTrip

variable {c : Context}

def draft (c : Context) : Draft := ⟨some c.target, some c.metadata⟩

def members (c : Context) : List (String × Json) :=
  [("target", .string c.target), ("metadata", (Datum.object c.metadata).json)]

theorem toJson_eq_object (c : Context) : c.toJson = .object c.members := rfl

theorem exact_toJson (h : ∀ e ∈ c.metadata.entries, e.2.json.Exact) : c.toJson.Exact := by
  refine Exact.object fun m hm => ?_
  simp only [List.mem_cons, List.not_mem_nil, or_false] at hm
  rcases hm with rfl | rfl
  · exact Exact.string _
  · exact Exact.object (List.forall_mem_map.2 h)

theorem takes_members (h : ∀ e ∈ c.metadata.entries, e.2.json.Exact) :
    record.Takes c.members ⟨none, none⟩ c.draft := by
  have htarget : record.Takes [("target", Json.string c.target)] ⟨none, none⟩
      ⟨some c.target, none⟩ :=
    Record.takes_field (fun _ n => n.text) (fun s => Draft.mk (some s) none) rfl rfl
      (fun _ _ => rfl) (text_tree_string c.target)
  have hmetadata : record.Takes [("metadata", (Datum.object c.metadata).json)]
      ⟨some c.target, none⟩ c.draft :=
    Record.takes_field (fun limit n => n.metadata limit)
      (fun d => Draft.mk (some c.target) (some d)) rfl rfl (fun _ _ => rfl)
      (fun limit _ => metadata_tree h limit)
  exact htarget.append hmetadata

theorem ofJsonText_render (h : ∀ e ∈ c.metadata.entries, e.2.json.Exact) :
    ofJsonText c.toJson.render = within c.toJson.depth depthLimit c := by
  have hread : record.read depthLimit ⟨none, none⟩ (tree c.toJson) =
      within c.toJson.depth depthLimit c.draft := (takes_members h).read rfl
  rw [ofJsonText, readText_render _ (exact_toJson h), hread, map_within]
  rfl

end RoundTrip

section Text

theorem intercalate_cons (t : List Char) (ts : List (List Char)) :
    [','].intercalate (t :: ts) = t ++ commas ts := by
  induction ts generalizing t with
  | nil => simp [commas]
  | cons u ts ih =>
    rw [List.intercalate_cons_cons, ih u]
    simp [commas]

/-- Entries in order, each with its key in quotes, and commas between them. -/
def objectText (entries : List (String × Datum)) : List Char :=
  '{' :: ([','].intercalate (entries.map fun e => quote e.1 ++ ':' :: write e.2.json) ++ ['}'])

theorem write_object (d : Metadata) : write (Datum.object d).json = objectText d.entries := by
  rw [Datum.json_object, objectText]
  cases d.entries with
  | nil => rfl
  | cons e rest =>
    rw [List.map_cons, List.map_cons, write, writeMembers_eq, intercalate_cons, List.map_map]
    simp [Function.comp_def]

theorem render_object (d : Metadata) : (Datum.object d).render.toList = objectText d.entries := by
  rw [Datum.render, render, String.toList_ofList, write_object]

theorem render_toJson (c : Context) : c.toJson.render.toList =
    "\x7b\"target\":".toList ++ quote c.target ++
      ",\"metadata\":".toList ++ objectText c.metadata.entries ++ "\x7d".toList := by
  rw [toJson, render, String.toList_ofList, write, writeMembers, write_object, writeMembers, write]
  simp [quote, escape]

end Text

/-- Entries written one after the other, whether to copies of a context or to a violation in place:
the last one under each key stays, and the text lists each key once, in the order of its bytes. -/
theorem last_write_stays (target : String) (v : Violation) (hv : v.metadata = .empty)
    (writes : List (String × Datum)) :
    let c := (ofTarget target).withEntries writes
    c.metadata = (v.withEntries writes).metadata ∧
    (∀ key, c.get? key = lastWritten writes key) ∧
    c.metadata.size = (writes.map Prod.fst).toFinset.card ∧
    (∃ entries : List (String × Datum),
      (entries.map Prod.fst).Pairwise (fun k l => Text.bytesOf k < Text.bytesOf l) ∧
      (∀ key value, (key, value) ∈ entries ↔ lastWritten writes key = some value) ∧
      (Datum.object c.metadata).render.toList = objectText entries ∧
      c.toJson.render.toList =
        "\x7b\"target\":".toList ++ quote target ++
          ",\"metadata\":".toList ++ objectText entries ++ "\x7d".toList) ∧
    (∀ writes', (∀ key, lastWritten writes' key = lastWritten writes key) →
      ((ofTarget target).withEntries writes').toJson.render = c.toJson.render ∧
      (v.withEntries writes').toJsonText = (v.withEntries writes).toJsonText) ∧
    ((∀ e ∈ c.metadata.entries, e.2.json.Exact) → nesting c.toJson.render ≤ 127 →
      ofJsonText c.toJson.render = .ok c) := by
  intro c
  have hc : c = ⟨target, .ofEntries writes⟩ := withEntries_ofTarget target writes
  have hmem (key : String) (value : Datum) :
      (key, value) ∈ c.metadata.entries ↔ lastWritten writes key = some value := by
    rw [hc, Dictionary.mem_entries_iff, Dictionary.get?_ofEntries]
    rfl
  refine ⟨?_, fun key => ?_, ?_, ⟨c.metadata.entries, ?_, hmem, render_object _, ?_⟩, ?_, ?_⟩
  · rw [hc, Violation.withEntries_of_empty hv]
  · rw [hc]
    exact Dictionary.get?_ofEntries writes key
  · rw [hc]
    exact Dictionary.size_ofEntries writes
  · exact List.pairwise_map.2 (c.metadata.ordered.imp Text.bytesOf_lt)
  · have htarget : c.target = target := congrArg Context.target hc
    rw [render_toJson, htarget]
  · intro writes' hsame
    have hentries : Dictionary.ofEntries writes' = .ofEntries writes := ofEntries_congr hsame
    rw [hc, withEntries_ofTarget, Violation.withEntries_of_empty hv,
      Violation.withEntries_of_empty hv, hentries]
    exact ⟨rfl, rfl⟩
  · intro hexact hnesting
    rw [(exact_toJson hexact).nesting_render] at hnesting
    rw [ofJsonText_render hexact, depthLimit]
    exact within_of_lt (by omega) c

/-- Writes of which one takes the place of another. -/
def overwriting : List (String × Datum) :=
  [("b", .array [.int 1]), ("a", .string "x"), ("b", .array [.int 2])]

theorem last_write_stays_overwriting :
    let c := (ofTarget "value").withEntries overwriting
    let v := (Violation.labelled "value" .null "bad").withEntries overwriting
    let direct : List (String × Datum) := [("a", .string "x"), ("b", .array [.int 2])]
    c.metadata = v.metadata ∧ c.get? "b" = some (.array [.int 2]) ∧ c.metadata.size = 2 ∧
      (∀ key, lastWritten direct key = lastWritten overwriting key) ∧
      ((ofTarget "value").withEntries direct).toJson.render = c.toJson.render ∧
      (∀ e ∈ c.metadata.entries, e.2.json.Exact) ∧
      nesting c.toJson.render ≤ 127 ∧ ofJsonText c.toJson.render = .ok c := by
  intro c v direct
  obtain ⟨hmetadata, hget, hsize, -, htext, hback⟩ :=
    last_write_stays "value" (Violation.labelled "value" .null "bad") rfl overwriting
  have hsame : ∀ key, lastWritten direct key = lastWritten overwriting key := by
    intro key
    simp only [direct, overwriting, lastWritten, List.reverse_cons, List.reverse_nil,
      List.nil_append, List.cons_append, lookup_cons_ite]
    split_ifs <;> rfl
  have hentries : c.metadata.entries = direct := rfl
  have hexact : ∀ e ∈ c.metadata.entries, e.2.json.Exact := by
    rw [hentries]
    refine List.forall_mem_cons.2 ⟨.string _, List.forall_mem_singleton.2 ?_⟩
    exact .array (List.forall_mem_singleton.2 (.int (by decide)))
  have hnesting : nesting c.toJson.render ≤ 127 := by decide +kernel
  exact ⟨hmetadata, hget "b", hsize, hsame, (htext direct hsame).1, hexact, hnesting,
    hback hexact hnesting⟩

end Context

end StoreGuard
