import StoreGuard.Json.Datum
import StoreGuard.Proofs.Dictionary

namespace StoreGuard

namespace Datum

theorem json_array (items : List Datum) : (array items).json = .array (items.map json) := rfl

theorem json_object (members : Metadata) :
    (object members).json = .object (members.entries.map fun m => (m.1, m.2.json)) := rfl

end Datum

namespace Json

theorem keptItems_eq_map (vs : List Json) : keptItems vs = vs.map kept := by
  induction vs with
  | nil => rfl
  | cons v vs ih => rw [keptItems, ih, List.map_cons]

theorem keptMembers_eq_map (ms : List (String × Json)) :
    keptMembers ms = ms.map fun m => (m.1, m.2.kept) := by
  induction ms with
  | nil => rfl
  | cons m ms ih => rw [keptMembers, ih, List.map_cons]

/-- Nothing is changed where every object has its members in order. -/
theorem WellFormed.json_kept {j : Json} (h : j.WellFormed) : j.kept.json = j := by
  induction h with
  | @array vs h ih =>
    have hsame : vs.map (Datum.json ∘ kept) = vs := (List.map_congr_left ih).trans (List.map_id' vs)
    rw [kept, Datum.json_array, keptItems_eq_map, List.map_map, hsame]
  | @object ms hordered h ih =>
    have hkept : Ordered (ms.map fun m => (m.1, m.2.kept)) := hordered.map _ fun _ _ h => h
    have hentries : (Dictionary.ofEntries (keptMembers ms)).entries =
        ms.map fun m => (m.1, m.2.kept) := by
      rw [keptMembers_eq_map]
      exact congrArg Dictionary.entries (Dictionary.ofEntries_entries ⟨_, hkept⟩)
    rw [kept, Datum.json_object, hentries, List.map_map]
    have hsame : ∀ m ∈ ms, (m.1, m.2.kept.json) = m := fun m hm => Prod.ext rfl (ih m hm)
    simp [Function.comp_def, List.map_congr_left hsame]
  | _ => rfl

theorem kept_json (d : Datum) : d.json.kept = d := Datum.ext d.wellFormed.json_kept

/-- The members of an object that is kept are the metadata it was made of. -/
theorem ofEntries_keptMembers (d : Metadata) :
    .ofEntries (keptMembers (d.entries.map fun m => (m.1, m.2.json))) = d := by
  have hsame : ∀ m ∈ d.entries, (m.1, m.2.json.kept) = m := fun m _ => by rw [kept_json]
  rw [keptMembers_eq_map, List.map_map]
  simp [Function.comp_def, List.map_congr_left hsame, Dictionary.ofEntries_entries]

end Json

end StoreGuard
