import StoreGuard.Proofs.Json.Says

namespace StoreGuard.Json

/-- Where a walk along a text has got to: whether it is inside a string, and there just after a
backslash, the brackets open at this point, and the most that were open at once. -/
structure Walk where
  inString : Bool
  escaped : Bool
  level : Nat
  deepest : Nat

namespace Walk

def step (w : Walk) (c : Char) : Walk :=
  if w.inString then
    if w.escaped then { w with escaped := false }
    else if c = '\\' then { w with escaped := true }
    else if c = '"' then { w with inString := false }
    else w
  else if c = '"' then { w with inString := true }
  else if c = '[' ∨ c = '{' then
    { w with level := w.level + 1, deepest := max w.deepest (w.level + 1) }
  else if c = ']' ∨ c = '}' then { w with level := w.level - 1 }
  else w

def start : Walk := ⟨false, false, 0, 0⟩

end Walk

/-- How many brackets are open at once in a text, those inside strings not counted. -/
def nesting (text : String) : Nat := (text.toList.foldl Walk.step Walk.start).deepest

mutual

/-- How many arrays and objects enclose one another. -/
def depth : Json → Nat
  | .array vs => itemsDepth vs + 1
  | .object ms => membersDepth ms + 1
  | .null | .bool _ | .int _ | .float _ | .string _ => 0

def itemsDepth : List Json → Nat
  | [] => 0
  | v :: vs => max (depth v) (itemsDepth vs)

def membersDepth : List (String × Json) → Nat
  | [] => 0
  | (_, v) :: ms => max (depth v) (membersDepth ms)

end

theorem membersDepth_append (ms ns : List (String × Json)) :
    membersDepth (ms ++ ns) = max (membersDepth ms) (membersDepth ns) := by
  induction ms with
  | nil => simp [membersDepth]
  | cons m ms ih => rw [List.cons_append, membersDepth, membersDepth, ih, Nat.max_assoc]

theorem membersDepth_eq_zero {ms : List (String × Json)} (h : ∀ m ∈ ms, m.2.depth = 0) :
    membersDepth ms = 0 := by
  induction ms with
  | nil => rfl
  | cons m ms ih =>
    obtain ⟨hm, hms⟩ := List.forall_mem_cons.1 h
    rw [membersDepth, hm, ih hms, Nat.max_zero]

theorem itemsDepth_eq_foldr (vs : List Json) : itemsDepth vs = (vs.map depth).foldr max 0 := by
  induction vs with
  | nil => rfl
  | cons v vs ih => rw [itemsDepth, ih, List.map_cons, List.foldr_cons]

theorem membersDepth_eq_foldr (ms : List (String × Json)) :
    membersDepth ms = (ms.map fun m => m.2.depth).foldr max 0 := by
  induction ms with
  | nil => rfl
  | cons m ms ih =>
    obtain ⟨k, v⟩ := m
    rw [membersDepth, ih, List.map_cons, List.foldr_cons]

mutual

def Node.depth : Node → Nat
  | .array vs _ => nodesDepth vs + 1
  | .object ms _ => memberNodesDepth ms + 1
  | .null | .bool _ | .number _ | .cutNumber | .string _ | .broken _ => 0

def nodesDepth : List Node → Nat
  | [] => 0
  | v :: vs => max v.depth (nodesDepth vs)

def memberNodesDepth : List (Quoted × Node) → Nat
  | [] => 0
  | (_, v) :: ms => max v.depth (memberNodesDepth ms)

end

theorem nodesDepth_eq_foldr (vs : List Node) : nodesDepth vs = (vs.map Node.depth).foldr max 0 := by
  induction vs with
  | nil => rfl
  | cons v vs ih => rw [nodesDepth, ih, List.map_cons, List.foldr_cons]

theorem memberNodesDepth_eq_foldr (ms : List (Quoted × Node)) :
    memberNodesDepth ms = (ms.map fun m => m.2.depth).foldr max 0 := by
  induction ms with
  | nil => rfl
  | cons m ms ih =>
    obtain ⟨q, v⟩ := m
    rw [memberNodesDepth, ih, List.map_cons, List.foldr_cons]

theorem depth_le_nodesDepth (vs : List Node) : ∀ v ∈ vs, v.depth ≤ nodesDepth vs := by
  induction vs with
  | nil => nofun
  | cons v vs ih =>
    rw [nodesDepth, List.forall_mem_cons]
    exact ⟨Nat.le_max_left .., fun w hw => Nat.le_trans (ih w hw) (Nat.le_max_right ..)⟩

theorem depth_le_memberNodesDepth (ms : List (Quoted × Node)) :
    ∀ m ∈ ms, m.2.depth ≤ memberNodesDepth ms := by
  induction ms with
  | nil => nofun
  | cons m ms ih =>
    obtain ⟨q, v⟩ := m
    rw [memberNodesDepth, List.forall_mem_cons]
    exact ⟨Nat.le_max_left .., fun w hw => Nat.le_trans (ih w hw) (Nat.le_max_right ..)⟩

theorem Node.Says.depth_eq {n : Node} {j : Json} (h : n.Says j) : n.depth = j.depth := by
  induction h with
  | null => rfl
  | bool b => rfl
  | number h =>
    rcases Numeral.value_cases h with ⟨k, rfl⟩ | ⟨x, rfl⟩ <;> rfl
  | string h => rfl
  | @array l h ih =>
    rw [Node.depth, Json.depth, nodesDepth_eq_foldr, itemsDepth_eq_foldr, List.map_map,
      List.map_map]
    exact congrArg (fun l => l.foldr max 0 + 1) (List.map_congr_left ih)
  | @object l hname h ih =>
    rw [Node.depth, Json.depth, memberNodesDepth_eq_foldr, membersDepth_eq_foldr, List.map_map,
      List.map_map]
    exact congrArg (fun l => l.foldr max 0 + 1) (List.map_congr_left ih)

section Walks

variable {s t : List Char} {m n : Nat}

/-- A walk along the text, outside strings, comes back to the level where it began, having been so
deep below it. -/
def Walked (t : List Char) (n : Nat) : Prop :=
  ∀ l d, l ≤ d → t.foldl Walk.step ⟨false, false, l, d⟩ = ⟨false, false, l, max d (l + n)⟩

theorem Walked.append (hs : Walked s m) (ht : Walked t n) : Walked (s ++ t) (max m n) := by
  intro l d hl
  rw [List.foldl_append, hs l d hl, ht l _ (by omega), Nat.max_assoc, Nat.add_max_add_left]

def Plain (t : List Char) : Prop := ∀ c ∈ t, c ∉ ['"', '[', '{', ']', '}']

theorem plain_append : Plain (s ++ t) ↔ Plain s ∧ Plain t := List.forall_mem_append

theorem walked_of_plain (h : Plain t) : Walked t 0 := by
  intro l d hl
  rw [Nat.add_zero, Nat.max_eq_left hl]
  induction t with
  | nil => rfl
  | cons c t ih =>
    obtain ⟨hc, ht⟩ := List.forall_mem_cons.1 h
    simp only [List.mem_cons, List.not_mem_nil, not_or] at hc
    have hstep : Walk.step ⟨false, false, l, d⟩ c = ⟨false, false, l, d⟩ := by
      simp [Walk.step, hc]
    rw [List.foldl_cons, hstep, ih ht]

theorem walked_of_blank (h : Blank t) : Walked t 0 := by
  refine walked_of_plain fun c hc => ?_
  rcases isSpace_iff.1 (h c hc) with rfl | rfl | rfl | rfl <;> decide

theorem Walked.cons {c : Char} (hc : c ∉ ['"', '[', '{', ']', '}']) (h : Walked t n) :
    Walked (c :: t) n := by
  have hplain : Plain [c] := by simpa [Plain] using hc
  have hcons := (walked_of_plain hplain).append h
  rwa [Nat.zero_max] at hcons

/-- Brackets go one level down and come back. -/
theorem Walked.enclosed {a b : Char} (h : Walked t n)
    (hbrackets : (a, b) = ('[', ']') ∨ (a, b) = ('{', '}')) : Walked (a :: (t ++ [b])) (n + 1) := by
  intro l d hl
  have hopen : Walk.step ⟨false, false, l, d⟩ a = ⟨false, false, l + 1, max d (l + 1)⟩ := by
    rcases hbrackets with heq | heq <;> cases heq <;> rfl
  have hclose (d : Nat) : Walk.step ⟨false, false, l + 1, d⟩ b = ⟨false, false, l, d⟩ := by
    rcases hbrackets with heq | heq <;> cases heq <;> rfl
  rw [List.foldl_cons, hopen, List.foldl_append, h _ _ (by omega), List.foldl_cons, List.foldl_nil,
    hclose]
  congr 1
  omega

theorem walked_commas {α : Type} {text : α → List Char} {deep : α → Nat} {l : List α}
    (h : ∀ p ∈ l, Walked (text p) (deep p)) :
    Walked (commas (l.map text)) ((l.map deep).foldr max 0) := by
  induction l with
  | nil => exact walked_of_plain (by simp [commas, Plain])
  | cons p l ih =>
    obtain ⟨hp, hl⟩ := List.forall_mem_cons.1 h
    rw [List.map_cons, List.map_cons, List.foldr_cons]
    exact (hp.append (ih hl)).cons (by decide)

/-- Between quotes a walk goes past anything but quotes and backslashes. -/
theorem foldl_step_inside {l d : Nat} (h : ∀ c ∈ t, c ≠ '"' ∧ c ≠ '\\') :
    t.foldl Walk.step ⟨true, false, l, d⟩ = ⟨true, false, l, d⟩ := by
  induction t with
  | nil => rfl
  | cons c t ih =>
    obtain ⟨⟨hquote, hslash⟩, ht⟩ := List.forall_mem_cons.1 h
    have hstep : Walk.step ⟨true, false, l, d⟩ c = ⟨true, false, l, d⟩ := by
      simp [Walk.step, hquote, hslash]
    rw [List.foldl_cons, hstep, ih ht]

theorem hexUnit?_inside {a b c d : Char} {n : Nat} (h : hexUnit? a b c d = some n) :
    ∀ e ∈ [a, b, c, d], e ≠ '"' ∧ e ≠ '\\' := by
  have hdigit {e : Char} {k : Nat} (he : Text.hexValue? e = some k) : e ≠ '"' ∧ e ≠ '\\' := by
    constructor <;> rintro rfl <;> cases he
  simp only [hexUnit?, Option.bind_eq_bind, Option.bind_eq_some_iff] at h
  obtain ⟨_, ha, _, hb, _, hc, _, hd, -⟩ := h
  simp [hdigit ha, hdigit hb, hdigit hc, hdigit hd]

theorem foldl_step_unit {a b c e : Char} {l d : Nat} (h : hexUnit? a b c e = some n)
    (t : List Char) : ('\\' :: 'u' :: a :: b :: c :: e :: t).foldl Walk.step ⟨true, false, l, d⟩ =
      t.foldl Walk.step ⟨true, false, l, d⟩ := by
  have hdigits := foldl_step_inside (l := l) (d := d) (hexUnit?_inside h)
  have hescape : ('\\' :: 'u' :: a :: b :: c :: e :: t).foldl Walk.step ⟨true, false, l, d⟩ =
      ([a, b, c, e] ++ t).foldl Walk.step ⟨true, false, l, d⟩ := rfl
  rw [hescape, List.foldl_append, hdigits]

theorem foldl_step_of_inside {ps : List Piece} {l d : Nat} (h : Inside ps t) :
    t.foldl Walk.step ⟨true, false, l, d⟩ = ⟨true, false, l, d⟩ := by
  induction h with
  | nil => rfl
  | @plain c ps t hquote hslash hc h ih =>
    have hstep : Walk.step ⟨true, false, l, d⟩ c = ⟨true, false, l, d⟩ := by
      simp [Walk.step, hquote, hslash]
    rw [List.foldl_cons, hstep, ih]
  | letter he h ih => exact ih
  | unit hn h ih => rw [foldl_step_unit hn, ih]

theorem walked_quoted {ps : List Piece} (h : Inside ps t) : Walked ('"' :: (t ++ ['"'])) 0 := by
  intro l d hl
  rw [List.foldl_cons, List.foldl_append]
  show List.foldl Walk.step (List.foldl Walk.step ⟨true, false, l, d⟩ t) ['"'] = _
  rw [foldl_step_of_inside h, Nat.add_zero, Nat.max_eq_left hl]
  rfl

theorem Label.walked {q : Quoted} (h : Label q t) : Walked t 0 := by
  obtain @⟨before, s, after, ps, hbefore, hinside, hafter⟩ := h
  have hname := (walked_of_blank hbefore).append
    ((walked_quoted hinside).append (walked_of_blank hafter))
  simpa using hname

theorem Digits.plain (h : Digits t) : Plain t := by
  intro c hc
  simp [ne_of_isDigit (h.2 c hc)]

theorem Numeral.Spelled.plain {m : Numeral} (h : m.Spelled t) : Plain t := by
  obtain @⟨negative, whole, f, e, fraction, exponent, hwhole, hzero, hf, he⟩ := h
  rw [plain_append, plain_append, plain_append]
  refine ⟨?_, hwhole.plain, ?_, ?_⟩
  · cases negative <;> simp [Plain]
  · cases hf with
    | absent => nofun
    | present hds => exact List.forall_mem_cons.2 ⟨by decide, hds.plain⟩
  · cases he with
    | absent => nofun
    | present hmark hsign hds =>
      refine List.forall_mem_cons.2 ⟨?_, plain_append.2 ⟨?_, hds.plain⟩⟩
      · rcases hmark with rfl | rfl <;> decide
      · simp only [exponentSigns, List.mem_cons, List.not_mem_nil, or_false, Prod.mk.injEq] at hsign
        rcases hsign with ⟨-, rfl⟩ | ⟨-, rfl⟩ | ⟨-, rfl⟩ <;> simp [Plain]

theorem memberOf_walked {q : (Quoted × List Char) × (Node × List Char)} (hname : Label q.1.1 q.1.2)
    (h : Walked q.2.2 n) : Walked (memberOf q) n := by
  have hmember := hname.walked.append (h.cons (c := ':') (by decide))
  rwa [Nat.zero_max] at hmember

theorem Node.Spelled.walked {v : Node} (h : v.Spelled t) : Walked t v.depth := by
  induction h with
  | before hc h ih =>
    refine ih.cons ?_
    rcases isSpace_iff.1 hc with rfl | rfl | rfl | rfl <;> decide
  | @after v c t hc h ih =>
    have hlast := ih.append (walked_of_blank (t := [c]) (by simpa [Blank] using hc))
    rwa [Nat.max_zero] at hlast
  | null => exact walked_of_plain (by simp [Plain])
  | yes => exact walked_of_plain (by simp [Plain])
  | no => exact walked_of_plain (by simp [Plain])
  | number h => exact walked_of_plain h.plain
  | string h => exact walked_quoted h
  | noItems hblank => exact (walked_of_blank hblank).enclosed (.inl rfl)
  | @items p l h ih =>
    have hp := ih p List.mem_cons_self
    have hl := walked_commas fun q hq => ih q (List.mem_cons_of_mem p hq)
    have harray := (hp.append hl).enclosed (.inl rfl)
    rw [Node.depth, nodesDepth_eq_foldr, List.map_map, List.map_cons, List.foldr_cons]
    simpa [Function.comp_def] using harray
  | noMembers hblank => exact (walked_of_blank hblank).enclosed (.inr rfl)
  | @members p l hname h ih =>
    have hwalked : ∀ q ∈ p :: l, Walked (memberOf q) q.2.1.depth := fun q hq =>
      memberOf_walked (hname q hq) (ih q hq)
    have hp := hwalked p List.mem_cons_self
    have hl := walked_commas fun q hq => hwalked q (List.mem_cons_of_mem p hq)
    have hobject := (hp.append hl).enclosed (.inr rfl)
    rw [Node.depth, memberNodesDepth_eq_foldr, List.map_map, List.map_cons, List.foldr_cons]
    simpa [Function.comp_def] using hobject

end Walks

/-- Every text of a tree nests as deep as the tree does. -/
theorem Node.Spelled.nesting {v : Node} {text : String} (h : v.Spelled text.toList) :
    nesting text = v.depth := by
  rw [Json.nesting, Walk.start, h.walked 0 0 (Nat.le_refl 0)]
  simp

theorem Exact.nesting_render {j : Json} (h : j.Exact) : nesting j.render = j.depth := by
  rw [← h.says_tree.depth_eq]
  refine Node.Spelled.nesting ?_
  rw [render, String.toList_ofList]
  exact h.spelled

end StoreGuard.Json
