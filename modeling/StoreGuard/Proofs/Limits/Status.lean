import StoreGuard.Proofs.Limits.Stored
import StoreGuard.Proofs.Limits.Tightest

namespace StoreGuard

namespace Stack

variable {layers : Stack}

def first? (layers : Stack) (r : Request) : Option (Origin × Violation) := (layers.sourced r).head?

theorem first?_eq_none_iff {r : Request} : layers.first? r = none ↔ layers.Admits r := by
  rw [first?, List.head?_eq_none_iff, ← List.map_eq_nil_iff (f := Prod.snd), ← violations,
    violations_eq_nil_iff]

theorem admits_close (layers : Stack) : layers.Admits .close := fun _ _ => trivial

/-- A request that meets a violation is answered with it. -/
theorem value_protect_of_first? {σ : Type} {r : Request} {o : Origin} {v : Violation}
    (h : layers.first? r = some (o, v)) (s : Store σ) (state : σ) :
    (layers.protect s r state).value = (.error (.violation v), state) := by
  have hhead : (layers.violations r).head? = some v := by
    rw [violations, List.head?_map, ← first?, h]
    rfl
  rw [value_protect, answerUnless, hhead]

theorem step_closed_iff (layers : Stack) (r : Request) (m : Memory) :
    ((layers.protect Memory.store).step r m).2.contents = none ↔
      m.contents = none ∨ r = .close := by
  by_cases hadmits : layers.Admits r
  · have hstep : (layers.protect Memory.store).step r m = Memory.run r m :=
      value_protect_of_admits hadmits Memory.store m
    rw [hstep, ← Memory.view_eq_closed_iff, Memory.view_run, Machine.next_eq_closed_iff,
      Memory.view_eq_closed_iff]
  · obtain ⟨v, -, hstep⟩ := value_protect_of_not_admits hadmits Memory.store m
    have hstep : (layers.protect Memory.store).step r m = (.error (.violation v), m) := hstep
    have hclose : r ≠ .close := by
      rintro rfl
      exact hadmits layers.admits_close
    rw [hstep, or_iff_left hclose]

/-- The memory behind a stack is closed once the stack has been asked to close. -/
theorem closed_iff (layers : Stack) (rs : List Request) :
    (runAll (layers.protect Memory.store).step rs .new).2.contents = none ↔ .close ∈ rs := by
  induction rs using List.reverseRecOn with
  | nil => simp [runAll, Memory.new]
  | append_singleton rs r ih =>
    rw [runAll_concat, step_closed_iff, ih, List.mem_append, List.mem_singleton, eq_comm (a := r)]

end Stack

namespace Limits

variable {l : Limits} {g : Guard} {v : Violation}

theorem code_ne_of_key_violation (h : l.guard = .ok g) {key : String}
    (hv : v ∈ g.keys.violations key) : v.code ≠ Rules.tooLargeCode := by
  obtain ⟨message, rfl | rfl | ⟨source, -, rfl⟩⟩ := key_violation_cases h hv
  all_goals
    rw [Rules.code_reject]
    decide

theorem code_ne_of_prefix_violation {p : KeyGuard} (hp : p ∈ l.prefixGuard) {start : String}
    (hv : v ∈ p.violations start) : v.code ≠ Rules.tooLargeCode := by
  rw [prefixGuard] at hp
  split_ifs at hp
  · cases hp
    obtain ⟨rule, hrule, hcheck⟩ := mem_findings.1 hv
    rw [List.mem_singleton.1 hrule] at hcheck
    rw [Rules.eq_reject_of_check_textRule hcheck, Rules.code_reject]
    decide
  · cases hp

/-- The value under the key has too many bytes for the limits, which `v` says. -/
def SizeViolation (l : Limits) (r : Request) (v : Violation) : Prop :=
  ∃ key value, r = .put key value ∧
    ((Rules.valueSize l.maxValueSize.toNat).check ⟨key, value⟩ (ValueGuard.contextOf key)).value =
      some v

theorem SizeViolation.code_eq {r : Request} (h : l.SizeViolation r v) :
    v.code = Rules.tooLargeCode := by
  obtain ⟨key, value, -, hcheck⟩ := h
  exact Rules.code_of_check_valueSize hcheck

/-- Only a value that is too large is about the value, and has the code that says so. -/
theorem sourced_cases (h : l.guard = .ok g) {r : Request} {o : Origin}
    (hv : (o, v) ∈ g.sourced r) :
    o = .value ∧ l.SizeViolation r v ∨ o ≠ .value ∧ v.code ≠ Rules.tooLargeCode := by
  have hkey {key : String} (hv : (o, v) ∈ (g.keys.violations key).map (Origin.key, ·)) :
      o ≠ .value ∧ v.code ≠ Rules.tooLargeCode := by
    obtain ⟨w, hw, heq⟩ := List.mem_map.1 hv
    cases heq
    exact ⟨nofun, code_ne_of_key_violation h hw⟩
  cases r with
  | get key => exact Or.inr (hkey hv)
  | put key value =>
    rcases List.mem_append.1 hv with hv | hv
    · exact Or.inr (hkey hv)
    · obtain ⟨w, hw, heq⟩ := List.mem_map.1 hv
      cases heq
      rw [(keyGuard_of_guard h).2.1] at hw
      obtain ⟨rule, hrule, hcheck⟩ := mem_findings.1 hw
      rw [List.mem_singleton.1 hrule] at hcheck
      exact Or.inl ⟨rfl, key, value, rfl, hcheck⟩
  | delete key => exact Or.inr (hkey hv)
  | scan start =>
    obtain ⟨w, hw, heq⟩ := List.mem_map.1 hv
    cases heq
    rw [(keyGuard_of_guard h).2.2] at hw
    cases hchecked : l.prefixGuard with
    | none =>
      rw [hchecked] at hw
      cases hw
    | some p =>
      rw [hchecked] at hw
      exact Or.inr ⟨nofun, code_ne_of_prefix_violation hchecked hw⟩
  | close => cases hv

end Limits

namespace Configured

variable {cs : List Configured} {layers : Stack} {r : Request} {o : Origin} {v : Violation}

theorem first?_cases (hstack : stack cs = .ok layers) (hfirst : layers.first? r = some (o, v)) :
    (o = .value ∧ ∃ c ∈ cs, c.enforced.SizeViolation r v) ∨
      o ≠ .value ∧ v.code ≠ Rules.tooLargeCode := by
  have hmem : (o, v) ∈ layers.sourced r := List.mem_of_head? hfirst
  obtain ⟨layer, hlayer, hv⟩ := List.mem_flatMap.1 hmem
  rw [stack_eq] at hstack
  obtain ⟨l, hl, g, hg, rfl⟩ := (Limits.mem_stack hstack).2 layer hlayer
  obtain ⟨c, hc, rfl⟩ := List.mem_map.1 hl
  rcases Limits.sourced_cases hg hv with ⟨ho, hsize⟩ | h
  · exact Or.inl ⟨ho, c, hc, hsize⟩
  · exact Or.inr h

/-- All that a request can come to at the top of configured layers. -/
theorem step_cases (hstack : stack cs = .ok layers) (hne : cs ≠ []) (r : Request) (m : Memory) :
    let top := (layers.protect Memory.store).step
    (∃ o v, layers.first? r = some (o, v) ∧ top r m = (.error (.violation v), m)) ∨
    layers.Admits r ∧ m.contents = none ∧ r ≠ .close ∧ top r m = (.error .closed, m) ∨
    layers.Admits r ∧ (m.contents = none → r = .close) ∧ ∃ reply, (top r m).1 = .ok reply := by
  intro top
  cases hfirst : layers.first? r with
  | some found => exact Or.inl ⟨_, _, rfl, Stack.value_protect_of_first? hfirst Memory.store m⟩
  | none =>
    right
    have hadmits : layers.Admits r := Stack.first?_eq_none_iff.1 hfirst
    have htop : top r m = Memory.run r m := Stack.value_protect_of_admits hadmits Memory.store m
    -- The memory refuses empty keys, but none gets there.
    have hkey : r.key? ≠ some "" := key?_ne_empty_of_admits hstack hne hadmits
    rw [htop]
    rcases Memory.run_cases r m with ⟨hempty, -⟩ | ⟨rfl, rfl, hrun⟩ | ⟨rfl, -, hclose, hrun⟩ |
      ⟨d, rfl, -, hrun⟩
    · exact absurd hempty hkey
    · exact Or.inr ⟨hadmits, fun _ => rfl, _, rfl⟩
    · exact Or.inl ⟨hadmits, rfl, hclose, hrun⟩
    · exact Or.inr ⟨hadmits, nofun, _, congrArg Prod.fst hrun⟩

/-- What the status of a failure says about the request that failed. -/
structure Tells (cs : List Configured) (layers : Stack) (closed : Prop) (r : Request)
    (f : Failure) : Prop where
  invalidArgument_iff : f.status = .invalidArgument ↔
    ∃ v, layers.first? r = some (.key, v) ∨ layers.first? r = some (.scanPrefix, v)
  resourceExhausted_iff : f.status = .resourceExhausted ↔
    ∃ v, layers.first? r = some (.value, v) ∧ ∃ c ∈ cs, c.enforced.SizeViolation r v
  unavailable_iff : f.status = .unavailable ↔ layers.Admits r ∧ closed
  ne_internal : f.status ≠ .internal

theorem tells_violation (hstack : stack cs = .ok layers) (hfirst : layers.first? r = some (o, v))
    (closed : Prop) : Tells cs layers closed r (.violation v) := by
  have hnot : ¬layers.Admits r := by
    rw [← Stack.first?_eq_none_iff, hfirst]
    nofun
  rcases first?_cases hstack hfirst with ⟨rfl, c, hc, hsize⟩ | ⟨ho, hcode⟩
  · have hstatus : (Failure.violation v).status = .resourceExhausted := if_pos hsize.code_eq
    constructor <;> rw [hstatus]
    · simp [hfirst]
    · exact iff_of_true rfl ⟨v, hfirst, c, hc, hsize⟩
    · simp [hnot]
    · nofun
  · have hstatus : (Failure.violation v).status = .invalidArgument := if_neg hcode
    constructor <;> rw [hstatus]
    · refine iff_of_true rfl ⟨v, ?_⟩
      cases o with
      | key => exact Or.inl hfirst
      | value => exact absurd rfl ho
      | scanPrefix => exact Or.inr hfirst
    · simp [hfirst, ho]
    · simp [hnot]
    · nofun

theorem tells_closed (hadmits : layers.Admits r) {closed : Prop} (hclosed : closed) :
    Tells cs layers closed r .closed := by
  have hfirst : layers.first? r = none := Stack.first?_eq_none_iff.2 hadmits
  constructor
  · simp [hfirst, Failure.status]
  · simp [hfirst, Failure.status]
  · exact iff_of_true rfl ⟨hadmits, hclosed⟩
  · nofun

theorem tells_of_error (hstack : stack cs = .ok layers) (hne : cs ≠ []) {m : Memory}
    {closed : Prop} (hclosed : m.contents = none → closed) {f : Failure}
    (hf : ((layers.protect Memory.store).step r m).1 = .error f) : Tells cs layers closed r f := by
  rcases step_cases hstack hne r m with ⟨o, v, hfirst, hstep⟩ | ⟨hadmits, hnone, -, hstep⟩ |
    ⟨-, -, reply, hreply⟩
  · cases hf.symm.trans (congrArg Prod.fst hstep)
    exact tells_violation hstack hfirst closed
  · cases hf.symm.trans (congrArg Prod.fst hstep)
    exact tells_closed hadmits (hclosed hnone)
  · cases hf.symm.trans hreply

/-- Closing is the only request that a closed store carries out. -/
theorem exists_ok_iff (hstack : stack cs = .ok layers) (hne : cs ≠ []) (r : Request) (m : Memory) :
    (∃ reply, ((layers.protect Memory.store).step r m).1 = .ok reply) ↔
      layers.Admits r ∧ (m.contents = none → r = .close) := by
  rcases step_cases hstack hne r m with ⟨o, v, hfirst, hstep⟩ | ⟨-, hnone, hclose, hstep⟩ |
    ⟨hadmits, hopen, hreply⟩
  · rw [hstep, ← Stack.first?_eq_none_iff, hfirst]
    simp
  · rw [hstep]
    simp [hnone, hclose]
  · exact iff_of_true hreply ⟨hadmits, hopen⟩

end Configured

def Memory.stored? (m : Memory) (key : String) : Option ByteArray :=
  m.contents.bind fun d => d.get? key

/-- A failure is not mistaken for a value or a miss. -/
theorem lookupStatus_error (f : Failure) :
    lookupStatus (.error f) ≠ .ok ∧ lookupStatus (.error f) ≠ .notFound := by
  change f.status ≠ _ ∧ f.status ≠ _
  cases f with
  | violation v =>
    rw [Failure.status]
    split_ifs <;> exact ⟨nofun, nofun⟩
  | _ => exact ⟨nofun, nofun⟩

namespace Configured

variable {cs : List Configured} {layers : Stack}

theorem lookup_tells_stored (hstack : stack cs = .ok layers) (hne : cs ≠ []) {m : Memory}
    (hkeeps : layers.Keeps m) (key : String) :
    ∃ result : Except Failure (Option ByteArray),
      ((layers.protect Memory.store).step (.get key) m).1 = result.map .found ∧
        (lookupStatus result = .notFound ↔
          layers.Admits (.get key) ∧ m.contents ≠ none ∧ m.stored? key = none) ∧
        (lookupStatus result = .ok ↔ ∃ value, m.stored? key = some value) := by
  rcases step_cases hstack hne (.get key) m with ⟨o, v, hfirst, hstep⟩ | ⟨-, hclosed, -, hstep⟩ |
    ⟨hadmits, hopen, -⟩
  · have hnot : ¬layers.Admits (.get key) := by
      rw [← Stack.first?_eq_none_iff, hfirst]
      nofun
    refine ⟨.error (.violation v), congrArg Prod.fst hstep,
      iff_of_false (lookupStatus_error _).2 fun h => hnot h.1,
      iff_of_false (lookupStatus_error _).1 ?_⟩
    -- What is stored has passed all the layers, and its key would pass them again.
    rintro ⟨value, hvalue⟩
    obtain ⟨d, hd, hget⟩ := Option.bind_eq_some_iff.1 hvalue
    exact hnot fun g hg => (hkeeps.admits d hd key value hget g hg).1
  · have hnone : m.stored? key = none := by rw [Memory.stored?, hclosed, Option.bind_none]
    refine ⟨.error .closed, congrArg Prod.fst hstep, iff_of_false nofun fun h => h.2.1 hclosed,
      iff_of_false nofun ?_⟩
    rw [hnone]
    nofun
  · obtain ⟨d, hd⟩ := Option.ne_none_iff_exists'.1 fun hnone : m.contents = none =>
      nomatch hopen hnone
    have hstored : m.stored? key = d.get? key := by rw [Memory.stored?, hd, Option.bind_some]
    have hanswer := Stack.answer_of_admits hadmits
      (key?_ne_empty_of_admits hstack hne hadmits) d
    rw [← hd] at hanswer
    refine ⟨.ok (d.get? key), hanswer, ?_, ?_⟩
    · rw [hstored, hd]
      cases d.get? key <;> simp [lookupStatus, statusOf, Except.map, hadmits]
    · rw [hstored]
      cases d.get? key <;> simp [lookupStatus, statusOf, Except.map]

/-- The status of every failure of a configured store tells what was wrong, requests that pass all
the layers of an open store succeed, and a look-up is told apart from a miss. -/
theorem status_tells_outcome (cs : List Configured) (hne : cs ≠ [])
    (hcs : ∀ c ∈ cs, c.enforced.Compiles) :
    ∃ layers, stack cs = .ok layers ∧ ∀ (before : List Request) (r : Request),
      let top := (layers.protect Memory.store).step
      let m := (runAll top before .new).2
      (∀ f, (top r m).1 = .error f → Tells cs layers (.close ∈ before) r f) ∧
        ((∃ reply, (top r m).1 = .ok reply) ↔
          layers.Admits r ∧ (.close ∈ before → r = .close)) ∧
        ∀ key, r = .get key → ∃ result : Except Failure (Option ByteArray),
          (top r m).1 = result.map .found ∧
            (lookupStatus result = .notFound ↔
              layers.Admits r ∧ .close ∉ before ∧ m.stored? key = none) ∧
            (lookupStatus result = .ok ↔ ∃ value, m.stored? key = some value) := by
  obtain ⟨layers, hstack⟩ := exists_stack hcs
  refine ⟨layers, hstack, fun before r => ?_⟩
  intro top m
  have hclosed : m.contents = none ↔ .close ∈ before := Stack.closed_iff layers before
  refine ⟨fun f hf => tells_of_error hstack hne hclosed.1 hf, ?_, ?_⟩
  · rw [← hclosed]
    exact exists_ok_iff hstack hne r m
  · rintro key rfl
    rw [← hclosed]
    exact lookup_tells_stored hstack hne (Stack.keeps_runAll before) key

/-- Two layers, of which the first allows short values only, before and after they are closed. -/
theorem status_tells_outcome_two :
    let cs : List Configured := [.limits ⟨16, 4, some "k[0-9]", true⟩, .standard]
    cs ≠ [] ∧ (∀ c ∈ cs, c.enforced.Compiles) ∧ ∃ layers, stack cs = .ok layers ∧
      (∃ v, layers.first? (.put "k1" "abcde".toUTF8) = some (.value, v)) ∧
      (∃ v, layers.first? (.put " " "abcde".toUTF8) = some (.key, v) ∨
        layers.first? (.put " " "abcde".toUTF8) = some (.scanPrefix, v)) ∧
      layers.Admits (.get "k2") := by
  intro cs
  have hne : cs ≠ [] := List.cons_ne_nil _ _
  have hcs : ∀ c ∈ cs, c.enforced.Compiles := by decide +kernel
  obtain ⟨layers, hstack, htells⟩ := status_tells_outcome cs hne hcs
  let answer (layers : Stack) (before : List Request) (r : Request) : Except Failure Reply :=
    let top := (layers.protect Memory.store).step
    (top r (runAll top before .new).2).1
  let told : Except Failure Reply → Option Status
    | .ok _ => none
    | .error f => some f.status
  have hanswer (before : List Request) (r : Request) (status : Status)
      (h : (stack cs).toOption.map (fun layers => told (answer layers before r)) =
        some (some status)) : ∃ f, answer layers before r = .error f ∧ f.status = status := by
    rw [hstack] at h
    have h : told (answer layers before r) = some status := Option.some.inj h
    cases hf : answer layers before r with
    | ok reply =>
      rw [hf] at h
      cases h
    | error f =>
      rw [hf] at h
      exact ⟨f, rfl, Option.some.inj h⟩
  refine ⟨hne, hcs, layers, hstack, ?_, ?_, ?_⟩
  · obtain ⟨f, hf, hstatus⟩ := hanswer [] (.put "k1" "abcde".toUTF8)
      .resourceExhausted (by decide +kernel)
    obtain ⟨v, hv, -⟩ := ((htells [] _).1 f hf).resourceExhausted_iff.1 hstatus
    exact ⟨v, hv⟩
  · obtain ⟨f, hf, hstatus⟩ := hanswer [.close] (.put " " "abcde".toUTF8)
      .invalidArgument (by decide +kernel)
    exact ((htells [.close] _).1 f hf).invalidArgument_iff.1 hstatus
  · obtain ⟨f, hf, hstatus⟩ := hanswer [.close] (.get "k2") .unavailable (by decide +kernel)
    exact (((htells [.close] _).1 f hf).unavailable_iff.1 hstatus).1

end Configured

end StoreGuard
