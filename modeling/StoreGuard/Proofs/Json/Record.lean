import StoreGuard.Proofs.Json.RoundTrip

namespace StoreGuard.Json

theorem memberTrees_append (ms ns : List (String × Json)) :
    memberTrees (ms ++ ns) = memberTrees ms ++ memberTrees ns := by
  induction ms with
  | nil => rfl
  | cons m ms ih => rw [List.cons_append, memberTrees, memberTrees, ih, List.cons_append]

theorem text_tree_string (s : String) (limit : Nat) (hlimit : 0 < limit) :
    (tree (.string s)).text = within (depth (.string s)) limit s :=
  (text_eq_ok_iff.2 (Exact.string s).says_tree).trans (within_of_lt hlimit s).symm

theorem text?_tree_string (s : String) (limit : Nat) (hlimit : 0 < limit) :
    (tree (.string s)).text? = within (depth (.string s)) limit (some s) :=
  (congrArg (Except.map some) (text_tree_string s limit hlimit)).trans (map_within s some)

/-- What is kept comes back from its text as it was, where the limit leaves room for it. -/
theorem datum_tree {d : Datum} (h : d.json.Exact) (limit : Nat) (hlimit : 0 < limit) :
    (tree d.json).datum limit = within d.json.depth limit d := by
  rw [Node.datum, h.says_tree.value hlimit, map_within, kept_json]

theorem metadata_tree {d : Metadata} (h : ∀ e ∈ d.entries, e.2.json.Exact) (limit : Nat) :
    (tree (Datum.object d).json).metadata limit = within (Datum.object d).json.depth limit d := by
  have hexact : (Datum.object d).json.Exact := .object (List.forall_mem_map.2 h)
  rw [hexact.says_tree.metadata, ofEntries_keptMembers, Datum.json_object]

/-- A whole text that was written is read as its tree is. -/
theorem readText_render {α : Type} (read : Node → Reading α) {j : Json} (h : j.Exact) :
    readText read j.render = read (tree j) := by
  rw [readText, h.ofText_render]
  exact bind_pure _

namespace Record

variable {σ : Type} {r : Record σ} {ms ns : List (String × Json)} {s t u : σ}

/-- The members take the reader from one state to another, where the limit leaves room for them. -/
def Takes (r : Record σ) (ms : List (String × Json)) (s t : σ) : Prop :=
  ∀ limit, 0 < limit → r.members limit (memberTrees ms) s = within (membersDepth ms) limit t

theorem takes_nil (r : Record σ) (s : σ) : r.Takes [] s s := fun _ hlimit =>
  (within_of_lt hlimit s).symm

theorem members_append (limit : Nat) (l k : List (Quoted × Node)) (s : σ) :
    r.members limit (l ++ k) s = r.members limit l s >>= r.members limit k := by
  induction l generalizing s with
  | nil => rfl
  | cons m l ih =>
    obtain ⟨q, v⟩ := m
    rw [List.cons_append, members, members, bind_assoc]
    exact bind_congr fun s => ih s

theorem Takes.append (h : r.Takes ms s t) (h' : r.Takes ns t u) : r.Takes (ms ++ ns) s u := by
  intro limit hlimit
  rw [memberTrees_append, members_append, h limit hlimit, membersDepth_append]
  exact within_bind (h' limit hlimit)

/-- A member whose field is still open is taken where the field can read its value. -/
theorem takes_field {name : String} {v : Json} {f : Field σ} {α : Type} {a : α}
    (get : Nat → Node → Reading α) (put : α → σ)
    (hf : r.fields.find? (fun f => f.name = name) = some f) (hset : f.isSet s = false)
    (hread : ∀ limit n, f.read limit n s = (get limit n).map put)
    (hget : ∀ limit, 0 < limit → get limit (tree v) = within v.depth limit a) :
    r.Takes [(name, v)] s (put a) := by
  intro limit hlimit
  have hfield : f.read limit (tree v) s = within v.depth limit (put a) := by
    rw [hread, hget limit hlimit, map_within]
  have hmember : r.member limit (quotedOf name) (tree v) s = within v.depth limit (put a) := by
    rw [member, Quoted.text_eq_ok_iff.2 (says_quotedOf name), ← hfield]
    simp only [bind, Except.bind, hf, hset]
    rfl
  rw [memberTrees, members, hmember]
  exact within_bind (takes_nil r (put a) limit hlimit)

/-- A record is read from the object of its members. -/
theorem Takes.read {limit : Nat} (h : r.Takes ms s t) (hcomplete : r.complete t = .ok t) :
    r.read limit s (tree (.object ms)) = within (depth (.object ms)) limit t := by
  refine enter_bind fun hroom => ?_
  have hlast : (do finish none; r.complete t) = within 0 (limit - 1) t :=
    hcomplete.trans (within_of_lt (by omega) t).symm
  rw [h (limit - 1) (by omega)]
  conv => rhs; rw [← Nat.max_zero (membersDepth ms)]
  exact within_bind hlast

end Record

end StoreGuard.Json
