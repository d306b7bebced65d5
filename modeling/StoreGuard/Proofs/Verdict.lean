import StoreGuard.Proofs.Violation
import StoreGuard.Verdict

namespace StoreGuard

theorem Json.itemsDepth_le_iff {vs : List Json} {n : Nat} :
    itemsDepth vs ≤ n ↔ ∀ v ∈ vs, v.depth ≤ n := by
  induction vs with
  | nil => simp [itemsDepth]
  | cons v vs ih => rw [itemsDepth, Nat.max_le, ih, List.forall_mem_cons]

namespace Verdict

theorem isEmpty_iff {r : Verdict} : r.isEmpty = true ↔ r = .empty := by
  obtain ⟨vs⟩ := r
  rw [isEmpty, List.isEmpty_iff, empty, Verdict.mk.injEq]

open Json

theorem readItems_trees {limit : Nat} {vs : List Violation} (h : ∀ v ∈ vs, v.All Exact)
    (hlimit : 0 < limit) :
    readItems limit (trees (vs.map Violation.toJson)) =
      within (itemsDepth (vs.map Violation.toJson)) limit vs := by
  induction vs with
  | nil => exact (within_of_lt hlimit _).symm
  | cons v vs ih =>
    have hrest := ih fun w hw => h w (List.mem_cons_of_mem v hw)
    rw [List.map_cons, trees, readItems, Violation.read_tree (h v List.mem_cons_self), hrest]
    exact within_bind (map_within vs (v :: ·))

theorem readList_tree {limit : Nat} {vs : List Violation} (h : ∀ v ∈ vs, v.All Exact) :
    readList limit (tree (.array (vs.map Violation.toJson))) =
      within (depth (.array (vs.map Violation.toJson))) limit vs := by
  refine enter_bind fun hroom => ?_
  rw [readItems_trees h (by omega)]
  exact map_within vs id

theorem exact_toJson {r : Verdict} (h : ∀ v ∈ r.violations, v.All Exact) : r.toJson.Exact := by
  refine Exact.object fun m hm => ?_
  rw [List.mem_singleton.1 hm]
  refine Exact.array fun j hj => ?_
  obtain ⟨v, hv, rfl⟩ := List.mem_map.1 hj
  exact Violation.exact_toJson (h v hv)

/-- Around the violations there are an array and an object. -/
theorem depth_toJson (r : Verdict) :
    r.toJson.depth = itemsDepth (r.violations.map Violation.toJson) + 2 := by
  rw [toJson, depth, membersDepth, membersDepth, depth, Nat.max_zero]

theorem ofJsonText_eq_within {r : Verdict} (h : ∀ v ∈ r.violations, v.All Exact) :
    ofJsonText r.toJsonText = within r.toJson.depth depthLimit r := by
  have htakes : record.Takes [("errors", .array (r.violations.map Violation.toJson))] none
      (some r.violations) :=
    Record.takes_field (fun limit n => readList limit n) some rfl rfl (fun _ _ => rfl)
      (fun limit _ => readList_tree h)
  have hread : record.read depthLimit none (tree r.toJson) =
      within r.toJson.depth depthLimit (some r.violations) :=
    htakes.read rfl
  rw [ofJsonText, toJsonText, readText_render _ (exact_toJson h), hread, map_within]
  rfl

/-- A verdict reads back with the same violations in the same order exactly if the text of each of
them nests at most 125 deep; otherwise the text is refused. -/
theorem reads_back_iff_nesting_le (r : Verdict) (hexact : ∀ v ∈ r.violations, v.All Exact) :
    (ofJsonText r.toJsonText = .ok r ↔ ∀ v ∈ r.violations, nesting v.toJsonText ≤ 125) ∧
      (¬(∀ v ∈ r.violations, nesting v.toJsonText ≤ 125) →
        ofJsonText r.toJsonText = .error (.fault .malformed)) := by
  have hnesting : (∀ v ∈ r.violations, nesting v.toJsonText ≤ 125) ↔
      r.toJson.depth < depthLimit := by
    have hlt : r.toJson.depth < depthLimit ↔
        itemsDepth (r.violations.map Violation.toJson) ≤ 125 := by
      rw [depth_toJson, depthLimit]
      omega
    rw [hlt, itemsDepth_le_iff, List.forall_mem_map]
    refine forall₂_congr fun v hv => ?_
    rw [Violation.toJsonText, (Violation.exact_toJson (hexact v hv)).nesting_render]
  rw [ofJsonText_eq_within hexact, hnesting]
  by_cases hroom : r.toJson.depth < depthLimit
  · rw [within_of_lt hroom]
    exact ⟨iff_of_true rfl hroom, fun h => absurd hroom h⟩
  · rw [within_of_le (Nat.not_lt.1 hroom)]
    exact ⟨iff_of_false (by simp [failAt]) hroom, fun _ => rfl⟩

/-- Repeated violations at the last depth read back, and one more level, which a violation alone may
have, does not. -/
theorem reads_back_iff_nesting_le_deep :
    let r : Verdict := ⟨[.deep 124, .deep 3, .deep 124]⟩
    let r' : Verdict := ⟨[.deep 3, .deep 125]⟩
    (∀ v ∈ r.violations ++ r'.violations, v.All Exact) ∧
      ofJsonText r.toJsonText = .ok r ∧
      ofJsonText r'.toJsonText = .error (.fault .malformed) := by
  intro r r'
  have hexact : ∀ v ∈ r.violations ++ r'.violations, v.All Exact := by
    simp [r, r', Violation.deep_exact]
  obtain ⟨hr, hr'⟩ := List.forall_mem_append.1 hexact
  refine ⟨hexact, ?_, ?_⟩
  · apply (reads_back_iff_nesting_le r hr).1.2
    simp [r, Violation.nesting_deep]
  · apply (reads_back_iff_nesting_le r' hr').2
    simp [r', Violation.nesting_deep]

end Verdict

end StoreGuard
