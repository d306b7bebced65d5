import StoreGuard.Proofs.Chain
import StoreGuard.Store.Guard

namespace StoreGuard

variable {α : Type}

abbrev Check (α : Type) := α → Context → Finding

mutual

/-- How a rule comes about: from a check, under another name, or from a conditional. -/
inductive Member (α : Type) where
  | check (run : Check α)
  | renamed (m : Member α) (name : String)
  | flattened (g : Gated α)

/-- How a conditional comes about: around a rule, or under another name. -/
inductive Gated (α : Type) where
  | when (condition : α → Context → Bool) (m : Member α)
  | renamed (g : Gated α) (name : String)

end

mutual

def Member.rule : Member α → Rule α
  | .check run => .ofCheck run
  | .renamed m name => m.rule.withName name
  | .flattened g => g.conditional.toRule

def Gated.conditional : Gated α → Conditional α
  | .when condition m => ⟨condition, m.rule⟩
  | .renamed g name => g.conditional.withName name

end

mutual

/-- The conditions around the check, the outermost first. -/
def Member.conditions : Member α → List (α → Context → Bool)
  | .check _ => []
  | .renamed m _ => m.conditions
  | .flattened g => g.conditions

def Gated.conditions : Gated α → List (α → Context → Bool)
  | .when condition m => condition :: m.conditions
  | .renamed g _ => g.conditions

end

mutual

def Member.innermost : Member α → Check α
  | .check run => run
  | .renamed m _ => m.innermost
  | .flattened g => g.innermost

def Gated.innermost : Gated α → Check α
  | .when _ m => m.innermost
  | .renamed g _ => g.innermost

end

def Member.enabled (m : Member α) (value : α) (ctx : Context) : Bool :=
  m.conditions.all fun condition => condition value ctx

def Gated.enabled (g : Gated α) (value : α) (ctx : Context) : Bool :=
  g.conditions.all fun condition => condition value ctx

/-- The innermost checks of the members whose conditions all hold. -/
def invokedOf (ms : List (Member α)) (value : α) (ctx : Context) : List (Check α) :=
  (ms.filter fun m => m.enabled value ctx).map Member.innermost

theorem invokedOf_cons (m : Member α) (ms : List (Member α)) (value : α) (ctx : Context) :
    invokedOf (m :: ms) value ctx =
      if m.enabled value ctx then m.innermost :: invokedOf ms value ctx
      else invokedOf ms value ctx := by
  rw [invokedOf, List.filter_cons]
  cases m.enabled value ctx <;> rfl

-- One induction for both: a rule is looked into by way of conditionals, and those by way of rules.
mutual

theorem Member.check_rule (m : Member α) (value : α) (ctx : Context) :
    m.rule.check value ctx = if m.enabled value ctx then m.innermost value ctx else pure none := by
  cases m with
  | check run => rfl
  | renamed m name => exact m.check_rule value ctx
  | flattened g => exact g.check_conditional value ctx

theorem Gated.check_conditional (g : Gated α) (value : α) (ctx : Context) :
    g.conditional.check value ctx =
      if g.enabled value ctx then g.innermost value ctx else pure none := by
  cases g with
  | when condition m =>
    rw [Gated.conditional, Conditional.check, m.check_rule value ctx, Gated.enabled,
      Gated.conditions, Gated.innermost, List.all_cons, Member.enabled]
    cases hcondition : condition value ctx with
    | true => rw [if_pos hcondition, Bool.true_and]
    | false => rw [if_neg (by simp [hcondition]), Bool.false_and, if_neg Bool.false_ne_true]
  | renamed g name => exact g.check_conditional value ctx

end

inductive Assembly (α : Type) where
  | new
  | collect (ms : List (Member α))
  | add (a : Assembly α) (m : Member α)
  | extend (a : Assembly α) (ms : List (Member α))
  | clone (a : Assembly α)

namespace Assembly

def chain : Assembly α → Chain α
  | new => .empty
  | collect ms => .ofRules (ms.map Member.rule)
  | add a m => a.chain.add m.rule
  | extend a ms => a.chain.extend (ms.map Member.rule)
  | clone a => a.chain

def members : Assembly α → List (Member α)
  | new => []
  | collect ms => ms
  | add a m => a.members ++ [m]
  | extend a ms => a.members ++ ms
  | clone a => a.members

theorem rules_chain (a : Assembly α) : a.chain.rules = a.members.map Member.rule := by
  induction a with
  | new => rfl
  | collect ms => rfl
  | add a m ih => rw [chain, Chain.add, ih, members, List.map_append, List.map_singleton]
  | extend a ms ih => rw [chain, Chain.extend, ih, members, List.map_append]
  | clone a ih => exact ih

def invoked (a : Assembly α) (value : α) (ctx : Context) : List (Check α) :=
  invokedOf a.members value ctx

end Assembly

/-- A full and a short run through the same checks. Both invoke them in their order, and each leaves
its marks where it is invoked; the short run ends with the first check that finds something. -/
structure ShortRun (checks : List (Check α)) (value : α) (ctx : Context) (full : Traced Verdict)
    (short : Finding) : Prop where
  full_value : full.value.violations = checks.filterMap fun c => (c value ctx).value
  full_marks : full.marks = checks.flatMap fun c => (c value ctx).marks
  short_value : short.value = full.value.first?
  marks_of_none : short.value = none → short.marks = full.marks
  marks_of_some : ∀ v, short.value = some v → ∃ before c after, checks = before ++ c :: after ∧
    (∀ b ∈ before, (b value ctx).value = none) ∧ (c value ctx).value = some v ∧
      short.marks = (before ++ [c]).flatMap fun c => (c value ctx).marks

theorem Chain.shortRun (c : Chain α) (value : α) (ctx : Context) :
    ShortRun (c.rules.map Rule.check) value ctx (c.validate value ctx)
      (c.validateFirst value ctx) where
  full_value := by rw [Chain.value_validate, List.filterMap_map]; rfl
  full_marks := by rw [Chain.marks_validate, List.flatMap_map]
  short_value := by rw [Chain.value_validateFirst, Chain.value_validate]; rfl
  marks_of_none h := by
    rw [Chain.value_validateFirst, List.head?_eq_none_iff] at h
    have hrun := marks_firstViolation_append h []
    rw [List.append_nil] at hrun
    rw [Chain.validateFirst, hrun, Chain.marks_validate]
    exact List.append_nil _
  marks_of_some v h := by
    rw [Chain.value_validateFirst] at h
    obtain ⟨before, r, after, hrules, hbefore, hr⟩ := exists_of_head?_findings h
    refine ⟨before.map Rule.check, r.check, after.map Rule.check, ?_, ?_, hr, ?_⟩
    · rw [hrules, List.map_append, List.map_cons]
    · intro b hb
      obtain ⟨q, hq, rfl⟩ := List.mem_map.1 hb
      exact findings_eq_nil_iff.1 hbefore q hq
    · rw [Chain.validateFirst, hrules, marks_firstViolation_append hbefore,
        marks_firstViolation_cons hr, List.flatMap_append, List.flatMap_map,
        List.flatMap_singleton]

/-- A member of which some condition fails leaves nothing in a full run. -/
theorem allViolations_members (ms : List (Member α)) (value : α) (ctx : Context) :
    allViolations value ctx (ms.map Member.rule) =
      allViolations value ctx ((invokedOf ms value ctx).map Rule.ofCheck) := by
  induction ms with
  | nil => rfl
  | cons m ms ih =>
    rw [List.map_cons, allViolations, m.check_rule, ih, invokedOf_cons]
    cases m.enabled value ctx with
    | true => rfl
    | false =>
      -- The member passes unmarked, and the rest is put together anew without it.
      change Traced.mk _ (_ ++ []) = _
      rw [List.append_nil]
      rfl

theorem firstViolation_members (ms : List (Member α)) (value : α) (ctx : Context) :
    firstViolation value ctx (ms.map Member.rule) =
      firstViolation value ctx ((invokedOf ms value ctx).map Rule.ofCheck) := by
  induction ms with
  | nil => rfl
  | cons m ms ih =>
    rw [List.map_cons, firstViolation, m.check_rule, ih, invokedOf_cons]
    cases m.enabled value ctx <;> rfl

theorem Assembly.shortRun_invoked (a : Assembly α) (value : α) (ctx : Context) :
    ShortRun (a.invoked value ctx) value ctx (a.chain.validate value ctx)
      (a.chain.validateFirst value ctx) := by
  have hrun := (Chain.ofRules ((a.invoked value ctx).map Rule.ofCheck)).shortRun value ctx
  have hchecks : ((a.invoked value ctx).map Rule.ofCheck).map Rule.check = a.invoked value ctx :=
    List.map_map.trans (List.map_id _)
  rw [Chain.validate, Chain.validateFirst, a.rules_chain, allViolations_members,
    firstViolation_members]
  rwa [Chain.ofRules, hchecks] at hrun

/-- However a chain was put together, a full run goes through its members in the order in which they
were added, and a short run ends with the first that fails. Of a member it is the innermost check
that is invoked, where all conditions around it hold; elsewhere the member passes. The guards of
values and keys run their rules in the same two ways. -/
theorem short_runs_are_cut_full_runs :
    (∀ {α : Type} (a : Assembly α) (value : α) (ctx : Context),
      let full := a.chain.validate value ctx
      let short := a.chain.validateFirst value ctx
      (∀ m : Member α, m.rule.check value ctx =
          if m.enabled value ctx then m.innermost value ctx else pure none) ∧
        ShortRun (a.members.map fun m => m.rule.check) value ctx full short ∧
        ShortRun (a.invoked value ctx) value ctx full short) ∧
    (∀ (rules : List (Rule Entry)) (e : Entry),
      let g := ValueGuard.ofRules rules
      ShortRun (rules.map Rule.check) e (ValueGuard.contextOf e.key) (g.checkAll e) (g.check e)) ∧
    (∀ (a : Assembly String) (target key : String),
      let g := (KeyGuard.ofChain a.chain).withTarget target
      ShortRun (a.invoked key (.ofTarget target)) key (.ofTarget target) (g.checkAll key)
        (g.check key)) := by
  refine ⟨fun a value ctx => ⟨fun m => m.check_rule value ctx, ?_, a.shortRun_invoked value ctx⟩,
    fun rules e => Chain.shortRun .., fun a target key => a.shortRun_invoked key _⟩
  have hrun := a.chain.shortRun value ctx
  rwa [a.rules_chain, List.map_map] at hrun

end StoreGuard
