import StoreGuard.Proofs.Json.Datum
import StoreGuard.Proofs.Json.Nesting

namespace StoreGuard.Json

/-- The answer where the arrays and objects that enclose one another leave room under the limit, and
a refusal where they do not. -/
def within {α : Type} (used limit : Nat) (a : α) : Reading α :=
  if used < limit then .ok a else failAt .malformed

section Within

variable {α β : Type} {used more limit : Nat}

theorem within_of_lt (h : used < limit) (a : α) : within used limit a = .ok a := if_pos h

theorem within_of_le (h : limit ≤ used) (a : α) : within used limit a = failAt .malformed :=
  if_neg (Nat.not_lt.2 h)

theorem map_within (a : α) (f : α → β) :
    (within used limit a).map f = within used limit (f a) := by
  rcases Nat.lt_or_ge used limit with h | h
  · rw [within_of_lt h, within_of_lt h]
    rfl
  · rw [within_of_le h, within_of_le h]
    rfl

/-- One after the other, two answers need the greater room of the two. -/
theorem within_bind {a : α} {b : β} {f : α → Reading β} (h : f a = within more limit b) :
    within used limit a >>= f = within (max used more) limit b := by
  rcases Nat.lt_or_ge used limit with hused | hused
  · have hmax : max used more < limit ↔ more < limit := by omega
    rw [within_of_lt hused, within]
    simp only [hmax]
    exact h
  · rw [within_of_le hused, within_of_le (by omega)]
    rfl

/-- Inside an array or object there is room for one less. -/
theorem enter_bind {b : β} {f : Nat → Reading β}
    (h : 1 < limit → f (limit - 1) = within used (limit - 1) b) :
    enter limit >>= f = within (used + 1) limit b := by
  rcases Nat.lt_or_ge 1 limit with hlimit | hlimit
  · have hless : used + 1 < limit ↔ used < limit - 1 := by omega
    rw [enter, if_neg (by omega), within]
    simp only [hless]
    exact h hlimit
  · rw [enter, if_pos hlimit, within_of_le (by omega)]
    rfl

end Within

section Values

variable {limit : Nat}

theorem itemValues_eq_within {l : List (Node × Json)}
    (h : ∀ p ∈ l, p.1.value limit = within p.2.depth limit p.2) (hlimit : 0 < limit) :
    itemValues limit (l.map Prod.fst) =
      within (itemsDepth (l.map Prod.snd)) limit (l.map Prod.snd) := by
  induction l with
  | nil => exact (within_of_lt hlimit _).symm
  | cons p l ih =>
    obtain ⟨hp, hl⟩ := List.forall_mem_cons.1 h
    rw [List.map_cons, List.map_cons, itemValues, hp, ih hl]
    exact within_bind (map_within (l.map Prod.snd) (p.2 :: ·))

theorem memberValues_eq_within {l : List ((Quoted × Node) × (String × Json))}
    (hname : ∀ p ∈ l, p.1.1.Says p.2.1)
    (h : ∀ p ∈ l, p.1.2.value limit = within p.2.2.depth limit p.2.2) (hlimit : 0 < limit) :
    memberValues limit (l.map Prod.fst) =
      within (membersDepth (l.map Prod.snd)) limit (l.map Prod.snd) := by
  induction l with
  | nil => exact (within_of_lt hlimit _).symm
  | cons p l ih =>
    obtain ⟨hpname, hlname⟩ := List.forall_mem_cons.1 hname
    obtain ⟨hp, hl⟩ := List.forall_mem_cons.1 h
    rw [List.map_cons, List.map_cons, memberValues, Quoted.text_eq_ok_iff.2 hpname, hp,
      ih hlname hl]
    exact within_bind (map_within (l.map Prod.snd) (p.2 :: ·))

/-- The value of a tree is read where the limit leaves room for it. -/
theorem Node.Says.value {n : Node} {j : Json} (h : n.Says j) (hlimit : 0 < limit) :
    n.value limit = within j.depth limit j := by
  induction h generalizing limit with
  | null => exact (within_of_lt hlimit _).symm
  | bool b => exact (within_of_lt hlimit _).symm
  | @number m j h =>
    have hdepth : j.depth = 0 := (Node.Says.number h).depth_eq.symm
    rw [Node.value, Numeral.read_eq_ok_iff.2 h, hdepth, within_of_lt hlimit]
  | string h =>
    rw [Node.value, Quoted.text_eq_ok_iff.2 h]
    exact (within_of_lt hlimit _).symm
  | @array l h ih =>
    refine enter_bind fun hroom => ?_
    rw [itemValues_eq_within (fun p hp => ih p hp (by omega)) (by omega)]
    exact map_within (l.map Prod.snd) Json.array
  | @object l hname h ih =>
    refine enter_bind fun hroom => ?_
    rw [memberValues_eq_within hname (fun p hp => ih p hp (by omega)) (by omega)]
    exact map_within (l.map Prod.snd) Json.object

theorem finish_eq_ok_iff {fault : Option Fault} {u : Unit} : finish fault = .ok u ↔ fault = none := by
  cases fault <;> simp [finish, failAt]

mutual

theorem Node.says_of_value {limit : Nat} {j : Json} :
    ∀ {n : Node}, n.value limit = .ok j → n.Says j
  | .null, h => by
    cases h
    exact .null
  | .bool b, h => by
    cases h
    exact .bool b
  | .number m, h => .number (Numeral.read_eq_ok_iff.1 h)
  | .string q, h => by
    obtain ⟨s, hs, rfl⟩ := exists_ok_of_map h
    exact .string (Quoted.text_eq_ok_iff.1 hs)
  | .array vs fault, h => by
    obtain ⟨inside, -, h⟩ := exists_ok_of_bind h
    obtain ⟨js, hjs, h⟩ := exists_ok_of_bind h
    obtain ⟨u, hfault, h⟩ := exists_ok_of_bind h
    obtain ⟨l, rfl, rfl, hl⟩ := says_of_itemValues hjs
    cases h
    rw [finish_eq_ok_iff.1 hfault]
    exact .array hl
  | .object ms fault, h => by
    obtain ⟨inside, -, h⟩ := exists_ok_of_bind h
    obtain ⟨js, hjs, h⟩ := exists_ok_of_bind h
    obtain ⟨u, hfault, h⟩ := exists_ok_of_bind h
    obtain ⟨l, rfl, rfl, hname, hl⟩ := says_of_memberValues hjs
    cases h
    rw [finish_eq_ok_iff.1 hfault]
    exact .object hname hl

theorem says_of_itemValues {limit : Nat} {js : List Json} :
    ∀ {vs : List Node}, itemValues limit vs = .ok js →
      ∃ l : List (Node × Json), l.map Prod.fst = vs ∧ l.map Prod.snd = js ∧ ∀ p ∈ l, p.1.Says p.2
  | [], h => by
    cases h
    exact ⟨[], rfl, rfl, nofun⟩
  | v :: vs, h => by
    obtain ⟨j, hj, h⟩ := exists_ok_of_bind h
    obtain ⟨rest, hrest, h⟩ := exists_ok_of_bind h
    obtain ⟨l, rfl, rfl, hl⟩ := says_of_itemValues hrest
    cases h
    exact ⟨(v, j) :: l, rfl, rfl, List.forall_mem_cons.2 ⟨Node.says_of_value hj, hl⟩⟩

theorem says_of_memberValues {limit : Nat} {js : List (String × Json)} :
    ∀ {ms : List (Quoted × Node)}, memberValues limit ms = .ok js →
      ∃ l : List ((Quoted × Node) × (String × Json)), l.map Prod.fst = ms ∧ l.map Prod.snd = js ∧
        (∀ p ∈ l, p.1.1.Says p.2.1) ∧ ∀ p ∈ l, p.1.2.Says p.2.2
  | [], h => by
    cases h
    exact ⟨[], rfl, rfl, nofun, nofun⟩
  | (q, v) :: ms, h => by
    obtain ⟨name, hname, h⟩ := exists_ok_of_bind h
    obtain ⟨j, hj, h⟩ := exists_ok_of_bind h
    obtain ⟨rest, hrest, h⟩ := exists_ok_of_bind h
    obtain ⟨l, rfl, rfl, hnames, hl⟩ := says_of_memberValues hrest
    cases h
    exact ⟨((q, v), (name, j)) :: l, rfl, rfl,
      List.forall_mem_cons.2 ⟨Quoted.text_eq_ok_iff.1 hname, hnames⟩,
      List.forall_mem_cons.2 ⟨Node.says_of_value hj, hl⟩⟩

end

variable {n : Node} {j : Json}

theorem Node.value_eq_ok_iff (hdepth : n.depth < limit) : n.value limit = .ok j ↔ n.Says j := by
  refine ⟨Node.says_of_value, fun h => ?_⟩
  rw [h.value (by omega)]
  exact within_of_lt (h.depth_eq ▸ hdepth) j

/-- An object is read as metadata where it is read as a value. -/
theorem Node.metadata_eq_ok_iff (hdepth : n.depth < limit) {d : Metadata} :
    n.metadata limit = .ok d ↔ ∃ ms, n.Says (.object ms) ∧ d = .ofEntries (keptMembers ms) := by
  simp only [← Node.value_eq_ok_iff hdepth]
  cases n with
  | object ms fault =>
    simp only [Node.metadata, Node.value, bind_eq_ok_iff]
    constructor
    · rintro ⟨inside, hinside, js, hjs, u, hfault, hd⟩
      exact ⟨js, ⟨inside, hinside, js, hjs, u, hfault, rfl⟩, (Except.ok.inj hd).symm⟩
    · rintro ⟨js, ⟨inside, hinside, js', hjs, u, hfault, hobject⟩, rfl⟩
      obtain rfl : js' = js := Json.object.inj (Except.ok.inj hobject)
      exact ⟨inside, hinside, js', hjs, u, hfault, rfl⟩
  | number m =>
    refine iff_of_false (refuse_ne_ok _ _ _) ?_
    rintro ⟨ms, hms, -⟩
    exact Numeral.value_ne_object (Numeral.read_eq_ok_iff.1 hms)
  | _ =>
    refine iff_of_false (refuse_ne_ok _ _ _) ?_
    rintro ⟨ms, hms, -⟩
    cases Node.says_of_value hms

/-- The members of an object are read as metadata where the limit leaves room for them. -/
theorem Node.Says.metadata {ms : List (String × Json)} (h : n.Says (.object ms)) :
    n.metadata limit = within (Json.object ms).depth limit (.ofEntries (keptMembers ms)) := by
  cases h with
  | number h => exact absurd h Numeral.value_ne_object
  | @object l hname h =>
    refine enter_bind fun hroom => ?_
    rw [memberValues_eq_within hname (fun p hp => (h p hp).value (by omega)) (by omega)]
    exact map_within _ fun ms => Dictionary.ofEntries (keptMembers ms)

end Values

/-- A text, or a whole number of 64 bits, with a sign or without. -/
inductive Scalar : Json → Prop where
  | string (s : String) : Scalar (.string s)
  | int {n : Int} (h : fitsWord n = true) : Scalar (.int n)

namespace Scalar

variable {j : Json}

theorem exact (h : j.Scalar) : j.Exact := by
  cases h with
  | string s => exact Exact.string s
  | int h => exact Exact.int h

theorem depth_eq_zero (h : j.Scalar) : j.depth = 0 := by
  cases h <;> rfl

theorem ofNat {n : Nat} (h : n < UInt64.size) : (Json.ofNat n).Scalar := .int (fitsWord_natCast h)

end Scalar

end StoreGuard.Json
