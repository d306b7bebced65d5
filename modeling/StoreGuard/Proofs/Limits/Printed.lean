import StoreGuard.Proofs.Json.Lines
import StoreGuard.Proofs.Limits.Report
import StoreGuard.Proofs.Verdict

namespace StoreGuard

namespace Verdict

variable {r : Verdict}

theorem reads_back_of_scalar (h : ∀ v ∈ r.violations, v.All Json.Scalar) :
    ofJsonText r.toJsonText = .ok r := by
  have hdepth : Json.itemsDepth (r.violations.map Violation.toJson) ≤ 2 := by
    rw [Json.itemsDepth_le_iff, List.forall_mem_map]
    exact fun v hv => (h v hv).depth_toJson_le
  have hroom : r.toJson.depth < Json.depthLimit := by
    rw [depth_toJson, Json.depthLimit]
    omega
  rw [ofJsonText_eq_within fun v hv => (h v hv).mono fun _ => Json.Scalar.exact,
    Json.within_of_lt hroom]

theorem newline_notMem_toJsonText (h : ∀ v ∈ r.violations, v.All Json.Scalar) :
    '\n' ∉ r.toJsonText.toList := by
  have hexact : r.toJson.Exact :=
    exact_toJson fun v hv => (h v hv).mono fun _ => Json.Scalar.exact
  rw [toJsonText, Json.render, String.toList_ofList]
  exact hexact.printed.newline_notMem

end Verdict

theorem Rules.all_reject {p : Json → Prop} {code message s target : String}
    {evidence : List (String × Datum)} (hs : p (.string s)) (hevidence : ∀ e ∈ evidence, p e.2.json) :
    (reject code evidence message s target).All p :=
  Violation.All.withEntries ⟨hs, List.forall_mem_nil _⟩ hevidence

namespace Limits

variable {l : Limits} {g : Guard} {v : Violation}

theorem scalar_of_key_violation (h : l.guard = .ok g) {key : String}
    (hkey : key.length < UInt64.size) (hv : v ∈ g.keys.violations key) : v.All Json.Scalar := by
  obtain ⟨message, rfl | rfl | ⟨source, -, rfl⟩⟩ := key_violation_cases h hv
  · exact Rules.all_reject (.string key) (List.forall_mem_nil _)
  · refine Rules.all_reject (.string key) fun e he => ?_
    have hmost : l.maxKeyLength.toNat < UInt64.size := l.maxKeyLength.toNat_lt_size
    simp only [List.mem_cons, List.not_mem_nil, or_false] at he
    rcases he with rfl | rfl
    · exact .ofNat hmost
    · exact .ofNat hkey
  · refine Rules.all_reject (.string key) fun e he => ?_
    rw [List.mem_singleton.1 he]
    exact .string source

/-- The report on a key is printed on a line, from which it can be read. -/
structure Printed (l : Limits) (key : String) (report : Verdict) : Prop where
  checkKey_eq : l.checkKey key = .ok report
  newline_notMem : '\n' ∉ report.toJsonText.toList
  reads_back : Verdict.ofJsonText report.toJsonText = .ok report

theorem printed_of_guard (h : l.guard = .ok g) {key : String} (hkey : key.length < UInt64.size) :
    l.Printed key ⟨g.keys.violations key⟩ := by
  have hscalar : ∀ v ∈ g.keys.violations key, v.All Json.Scalar := fun v hv =>
    scalar_of_key_violation h hkey hv
  exact ⟨checkKey_of_guard h key, Verdict.newline_notMem_toJsonText hscalar,
    Verdict.reads_back_of_scalar hscalar⟩

end Limits

end StoreGuard
