import Mathlib.Data.List.Forall2
import StoreGuard.CommandLine.Run
import StoreGuard.Proofs.Limits.Printed
import StoreGuard.Proofs.Limits.Reading

namespace StoreGuard.CommandLine

variable {files : Files} {config : Option String} {l : Limits}

/-- The limits that a run goes by: the standard ones, or those that the text of a file gives. -/
inductive Loads (files : Files) : Option String → Limits → Prop where
  | standard : Loads files none .standard
  | file {path : String} {bytes : ByteArray} {text : String} {l : Limits}
      (hread : files path = .ok bytes) (htext : String.fromUTF8? bytes = some text)
      (hgiven : l.GivenBy text) : Loads files (some path) l

theorem loadLimits_eq_ok_iff : loadLimits files config = .ok l ↔ Loads files config l := by
  cases config with
  | none =>
    rw [loadLimits, Except.ok.injEq]
    exact ⟨fun h => h ▸ .standard, fun h => by cases h; rfl⟩
  | some path =>
    have hfile : loadLimits files (some path) = .ok l ↔
        Limits.ofFile path (files path) = .ok l := by
      rw [loadLimits]
      cases Limits.ofFile path (files path) <;> simp [Except.mapError]
    rw [hfile, Limits.ofFile_eq_ok_iff]
    constructor
    · rintro ⟨bytes, text, hread, htext, hgiven⟩
      exact .file hread htext hgiven
    · rintro ⟨⟩
      exact ⟨_, _, ‹_›, ‹_›, ‹_›⟩

theorem words_ne_nil_of_ofGiven {g : Given} {c : Command} {keys : List String}
    (h : Task.ofGiven g c = .ok (.keys keys)) : keys ≠ [] := by
  cases c with
  | checkKey =>
    rw [Task.ofGiven] at h
    split_ifs at h with hempty
    · cases h
    · rw [Except.ok.injEq, Task.keys.injEq] at h
      rw [← h]
      exact fun hnil => hempty (List.isEmpty_iff.2 hnil)
  | checkValue =>
    cases hkey : g.get? .key with
    | none =>
      simp only [Task.ofGiven, hkey] at h
      cases h
    | some key =>
      simp only [Task.ofGiven, hkey] at h
      obtain ⟨source, -, htask⟩ := exists_ok_of_map h
      cases htask

theorem ne_ok_of_askHelp (args : List String) (i : Invocation) :
    Invocation.askHelp args ≠ .ok i := by
  unfold Invocation.askHelp
  split
  · nofun
  · split_ifs <;> nofun
  · nofun

/-- Keys are asked for only if there are some. -/
theorem keys_ne_nil_of_ofArguments {args keys : List String} {json : Bool}
    (h : Invocation.ofArguments args = .ok ⟨config, .keys keys, json⟩) : keys ≠ [] := by
  rw [Invocation.ofArguments] at h
  -- What has been given before the command does not matter, so the induction is over all of it.
  generalize Given.start = g at h
  induction args generalizing g with
  | nil =>
    obtain ⟨-, -, hmissing⟩ := exists_ok_of_bind h
    cases hmissing
  | cons arg rest ih =>
    have hnext (h : (g.take leadingSwitches false arg >>= fun g => Invocation.ofLeading g rest) =
        .ok ⟨config, .keys keys, json⟩) : keys ≠ [] := by
      obtain ⟨g', -, hrest⟩ := exists_ok_of_bind h
      exact ih g' hrest
    rw [Invocation.ofLeading] at h
    split at h
    case isTrue => exact hnext h
    case isFalse =>
      cases hfind : Command.find? arg with
      | some c =>
        simp only [hfind] at h
        obtain ⟨own, -, hcommand⟩ := exists_ok_of_bind h
        obtain ⟨task, htask, hinvocation⟩ := exists_ok_of_bind hcommand
        cases hinvocation
        exact words_ne_nil_of_ofGiven htask
      | none =>
        simp only [hfind] at h
        split_ifs at h with hhelp
        · exact absurd h (ne_ok_of_askHelp rest _)
        · exact hnext h

/-- The reports on keys under limits that have a guard. -/
theorem check_keys_of_guard {g : Guard} (hg : l.guard = .ok g) (keys : List String) :
    (Task.keys keys).check files l =
      .ok (keys.map fun key => ⟨key, ⟨g.keys.violations key⟩⟩) := by
  have hkey : (fun key => do
      let verdict ← (l.checkKey key).mapError Problem.check
      return Report.Item.mk key verdict) =
        (fun key => (pure ⟨key, ⟨g.keys.violations key⟩⟩ : Except Problem Report.Item)) := by
    funext key
    rw [Limits.checkKey_of_guard hg]
    rfl
  rw [Task.check, hkey, List.mapM_pure]
  rfl

/-- Limits whose pattern cannot be read have no reports to give. -/
theorem check_keys_of_not_compiles (files : Files) (h : ¬l.Compiles) {keys : List String}
    (hkeys : keys ≠ []) :
    ∃ p, (Task.keys keys).check files l = .error p := by
  obtain ⟨key, rest, rfl⟩ := List.exists_cons_of_ne_nil hkeys
  rcases l.keyGuard_cases with ⟨source, e, -, -, hbad⟩ | ⟨g, hkeyGuard⟩
  · refine ⟨.check (.badPattern source e), ?_⟩
    rw [Task.check, List.mapM_cons, Limits.checkKey, hbad]
    rfl
  · have hg : l.guard = .ok ⟨g, l.valueGuard, l.prefixGuard⟩ := by
      rw [Limits.guard, hkeyGuard]
      rfl
    exact absurd (Limits.compiles_of_guard hg) h

theorem splitOn_jsonText {items : List Report.Item}
    (h : ∀ i ∈ items, '\n' ∉ i.verdict.toJsonText.toList) :
    (Checked.jsonText items).toList.splitOn '\n' =
      items.map (fun i => i.verdict.toJsonText.toList) ++ [[]] := by
  induction items with
  | nil => rfl
  | cons i rest ih =>
    obtain ⟨hi, hrest⟩ := List.forall_mem_cons.1 h
    -- A line feed ends the first line, and none stands in it.
    have htext : (Checked.jsonText (i :: rest)).toList =
        i.verdict.toJsonText.toList ++ '\n' :: (Checked.jsonText rest).toList := by
      simp [Checked.jsonText, String.toList_join]
    have hline : i.verdict.toJsonText.toList.splitOn '\n' = [i.verdict.toJsonText.toList] := by
      refine List.splitOnP_eq_singleton fun c hc => beq_eq_false_iff_ne.2 ?_
      rintro rfl
      exact hi hc
    rw [htext, List.splitOn_append_cons_self, hline, ih hrest]
    rfl

section Endings

variable {c : Checked}

theorem allValid_iff : c.allValid = true ↔ ∀ i ∈ c.items, i.verdict.isEmpty = true :=
  List.all_eq_true

theorem exitCode_checked_eq_zero_iff :
    (Ending.checked c).exitCode = 0 ↔ ∀ i ∈ c.items, i.verdict.isEmpty = true := by
  rw [← allValid_iff, Ending.exitCode]
  split_ifs with hvalid <;> simp [hvalid]

theorem exitCode_checked_eq_two_iff :
    (Ending.checked c).exitCode = 2 ↔ ∃ i ∈ c.items, i.verdict.isEmpty = false := by
  have hsome : (∃ i ∈ c.items, i.verdict.isEmpty = false) ↔ ¬c.allValid = true := by
    rw [allValid_iff]
    simp
  rw [hsome, Ending.exitCode]
  split_ifs with hvalid <;> simp [hvalid]

theorem exitCode_checked_ne_one : (Ending.checked c).exitCode ≠ 1 := by
  rw [Ending.exitCode]
  split_ifs <;> decide

end Endings

section Runs

variable {args keys : List String} {json : Bool}

theorem run_of_loads (hargs : Invocation.ofArguments args = .ok ⟨config, .keys keys, json⟩)
    (hloads : Loads files config l) {g : Guard} (hg : l.guard = .ok g) :
    run files args =
      .checked ⟨l, keys.map fun key => ⟨key, ⟨g.keys.violations key⟩⟩, json⟩ := by
  have hcheck : Invocation.check files ⟨config, .keys keys, json⟩ =
      .ok ⟨l, keys.map fun key => ⟨key, ⟨g.keys.violations key⟩⟩, json⟩ := by
    rw [Invocation.check, loadLimits_eq_ok_iff.2 hloads]
    change ((Task.keys keys).check files l >>= _) = _
    rw [check_keys_of_guard hg]
    rfl
  rw [run, hargs]
  dsimp only
  rw [hcheck]

theorem run_of_fails (hargs : Invocation.ofArguments args = .ok ⟨config, .keys keys, json⟩)
    (hfails : (∀ l, ¬Loads files config l) ∨ ∃ l, Loads files config l ∧ ¬l.Compiles) :
    ∃ p, run files args = .failed p := by
  have hcheck : ∃ p, Invocation.check files ⟨config, .keys keys, json⟩ = .error p := by
    rw [Invocation.check]
    rcases hfails with hnone | ⟨l, hloads, hcompiles⟩
    · cases hload : loadLimits files config with
      | ok l => exact absurd (loadLimits_eq_ok_iff.1 hload) (hnone l)
      | error p => exact ⟨p, rfl⟩
    · obtain ⟨p, hp⟩ :=
        check_keys_of_not_compiles files hcompiles (keys_ne_nil_of_ofArguments hargs)
      refine ⟨p, ?_⟩
      rw [loadLimits_eq_ok_iff.2 hloads]
      change ((Task.keys keys).check files l >>= _) = _
      rw [hp]
      rfl
  obtain ⟨p, hp⟩ := hcheck
  refine ⟨p, ?_⟩
  rw [run, hargs]
  dsimp only
  rw [hp]

end Runs

/-- A run that checks keys and answers in JSON fails, printing nothing, exactly if the limits cannot
be had or their pattern cannot be read. Else it prints the report of every key on a line of its own
and ends by whether one of them has violations. The characters of a key are counted in 64 bits, as
those of every text in memory can be. -/
theorem run_checks_keys_in_json (files : Files) (args : List String) (config : Option String)
    (keys : List String) (hargs : Invocation.ofArguments args = .ok ⟨config, .keys keys, true⟩)
    (hkeys : ∀ key ∈ keys, key.length < UInt64.size) (colour : Bool) :
    let e := run files args
    (e.exitCode = 1 ∧ e.stdout colour = "" ↔
      (∀ l, ¬Loads files config l) ∨ ∃ l, Loads files config l ∧ ¬l.Compiles) ∧
    ∀ l, Loads files config l → l.Compiles →
      (e.exitCode = 2 ↔
        ∃ key ∈ keys, ∃ report, l.checkKey key = .ok report ∧ report.isEmpty = false) ∧
      (e.exitCode = 0 ↔ ∀ key ∈ keys, l.checkKey key = .ok .empty) ∧
      ∃ lines : List String,
        (e.stdout colour).toList.splitOn '\n' = lines.map String.toList ++ [[]] ∧
        List.Forall₂ (fun key line => ∃ report,
          l.checkKey key = .ok report ∧ Verdict.ofJsonText line = .ok report) keys lines := by
  intro e
  refine ⟨⟨?_, ?_⟩, ?_⟩
  · rintro ⟨hcode, -⟩
    by_contra hfails
    push Not at hfails
    obtain ⟨⟨l, hloads⟩, hcompiles⟩ := hfails
    obtain ⟨g, hg⟩ := (hcompiles l hloads).exists_guard
    have he : e = _ := run_of_loads hargs hloads hg
    rw [he] at hcode
    exact exitCode_checked_ne_one hcode
  · intro hfails
    obtain ⟨p, hp⟩ := run_of_fails hargs hfails
    have he : e = .failed p := hp
    rw [he]
    exact ⟨rfl, rfl⟩
  · intro l hloads hcompiles
    obtain ⟨g, hg⟩ := hcompiles.exists_guard
    have he : e = _ := run_of_loads hargs hloads hg
    have hreport (key : String) : l.checkKey key = .ok ⟨g.keys.violations key⟩ :=
      Limits.checkKey_of_guard hg key
    have hprinted : ∀ key ∈ keys, l.Printed key ⟨g.keys.violations key⟩ := fun key hkey =>
      Limits.printed_of_guard hg (hkeys key hkey)
    rw [he]
    refine ⟨?_, ?_, keys.map fun key => Verdict.toJsonText ⟨g.keys.violations key⟩, ?_, ?_⟩
    · rw [exitCode_checked_eq_two_iff]
      simp [hreport]
    · rw [exitCode_checked_eq_zero_iff]
      simp [hreport, Verdict.isEmpty_iff]
    · change (Checked.jsonText _).toList.splitOn '\n' = _
      rw [splitOn_jsonText, List.map_map, List.map_map]
      · rfl
      · simpa using fun key hkey => (hprinted key hkey).newline_notMem
    · rw [List.forall₂_map_right_iff, List.forall₂_same]
      exact fun key hkey => ⟨_, hreport key, (hprinted key hkey).reads_back⟩

/-- A key that keeps to the limits of a file and one that breaks two of them, both with characters
that are escaped. -/
theorem run_checks_keys_in_json_two :
    let files : Files := fun path =>
      if path = "limits.toml" then
        .ok "max_key_length = 4\nkey_pattern = \"^[^\\\"]*$\"\n".toUTF8
      else .error .missing
    let args := ["check-key", "--config=limits.toml", "--json", "--", "a\nb\\", "\"a\tb\""]
    let keys := ["a\nb\\", "\"a\tb\""]
    let l : Limits := ⟨4, Limits.standard.maxValueSize, some "^[^\"]*$", false⟩
    Invocation.ofArguments args = .ok ⟨some "limits.toml", .keys keys, true⟩ ∧
      (∀ key ∈ keys, key.length < UInt64.size) ∧ Loads files (some "limits.toml") l ∧ l.Compiles ∧
      (∃ key ∈ keys, ∃ report, l.checkKey key = .ok report ∧ report.isEmpty = false) ∧
      ∃ lines : List String, lines.length = 2 ∧
        ((run files args).stdout false).toList.splitOn '\n' = lines.map String.toList ++ [[]] := by
  intro files args keys l
  have hargs : Invocation.ofArguments args = .ok ⟨some "limits.toml", .keys keys, true⟩ := by
    decide +kernel
  have hkeys : ∀ key ∈ keys, key.length < UInt64.size := by decide +kernel
  have hloads : Loads files (some "limits.toml") l := by
    have hload : (loadLimits files (some "limits.toml")).toOption = some l := by decide +kernel
    cases hresult : loadLimits files (some "limits.toml") with
    | error p =>
      rw [hresult] at hload
      cases hload
    | ok l' =>
      rw [hresult] at hload
      cases hload
      exact loadLimits_eq_ok_iff.1 hresult
  have hcompiles : l.Compiles := by decide +kernel
  obtain ⟨hviolated, -, lines, hlines, hread⟩ :=
    (run_checks_keys_in_json files args _ keys hargs hkeys false).2 l hloads hcompiles
  have hcode : (run files args).exitCode = 2 := by decide +kernel
  exact ⟨hargs, hkeys, hloads, hcompiles, hviolated.1 hcode, lines, hread.length_eq.symm, hlines⟩

end StoreGuard.CommandLine
