import StoreGuard.Proofs.Limits.Json

namespace StoreGuard.Limits

open Json (Node Quoted Numeral)

variable {before after : Draft} {l : Limits} {limit : Nat}

theorem field_read_eq_ok_iff {s : Slot} {v : Node} {j : Json} (h : v.Says j) :
    s.field.read limit v before = .ok after ↔ s.put j.found before = .ok after := by
  simp only [Slot.field, h.found_eq, bind, Except.bind]
  cases s.put j.found before with
  | ok d => simp [pure, Except.pure]
  | error m => simp [Json.mismatch]

/-- What is put into one slot leaves the others as they are. -/
theorem isSet_of_put {s t : Slot} (hs : s ∈ slots) (ht : t ∈ slots) (hne : t.name ≠ s.name)
    {f : Found} (h : s.put f before = .ok after) : t.isSet after = t.isSet before := by
  simp only [slots, List.mem_cons, List.not_mem_nil, or_false] at hs ht
  rcases hs with rfl | rfl | rfl | rfl
  all_goals
    obtain ⟨a, -, hput⟩ := exists_ok_of_bind h
    cases hput
    rcases ht with rfl | rfl | rfl | rfl <;> first | rfl | exact absurd rfl hne

theorem member_eq_ok_iff {q : Quoted} {name : String} {v : Node} {j : Json} (hq : q.Says name)
    (hv : v.Says j) (hopen : ∀ s ∈ slots, s.name = name → s.isSet before = false) :
    record.member limit q v before = .ok after ↔
      ∃ s, (slots.find? fun s => s.name = name) = some s ∧ s.put j.found before = .ok after := by
  have hfind : (record.fields.find? fun f => f.name = name) =
      (slots.find? fun s => s.name = name).map Slot.field := List.find?_map
  rw [Json.Record.member, Json.Quoted.text_eq_ok_iff.2 hq]
  simp only [bind, Except.bind, hfind]
  cases hslot : slots.find? fun s => s.name = name with
  | none => simp [record, Json.mismatch]
  | some s =>
    have hset : s.isSet before = false :=
      hopen s (List.mem_of_find?_eq_some hslot) (by simpa using List.find?_some hslot)
    simp only [Option.map_some, Option.some.injEq, exists_eq_left']
    rw [← field_read_eq_ok_iff hv]
    show (if s.isSet before then Json.mismatch _ else s.field.read limit v before) = _ ↔ _
    rw [hset, if_neg Bool.false_ne_true]

theorem members_eq_ok_iff {ms : List ((Quoted × Node) × (String × Json))}
    (hname : ∀ p ∈ ms, p.1.1.Says p.2.1) (h : ∀ p ∈ ms, p.1.2.Says p.2.2)
    (hnodup : ((ms.map Prod.snd).map Prod.fst).Nodup)
    (hopen : ∀ s ∈ slots, s.name ∈ (ms.map Prod.snd).map Prod.fst → s.isSet before = false) :
    record.members limit (ms.map Prod.fst) before = .ok after ↔
      takeMembers before ((ms.map Prod.snd).map fun m => (m.1, m.2.found)) = .ok after := by
  induction ms generalizing before with
  | nil => simp [Json.Record.members, takeMembers]
  | cons p ms ih =>
    obtain ⟨⟨q, v⟩, name, j⟩ := p
    obtain ⟨hpname, hmsname⟩ := List.forall_mem_cons.1 hname
    obtain ⟨hp, hms⟩ := List.forall_mem_cons.1 h
    simp only [List.map_cons, List.nodup_cons, List.mem_cons] at hnodup hopen ⊢
    rw [Json.Record.members, takeMembers, bind_eq_ok_iff]
    simp only [member_eq_ok_iff hpname hp fun s hs heq => hopen s hs (.inl heq)]
    cases hslot : slots.find? fun s => s.name = name with
    | none => simp
    | some s =>
      obtain rfl : s.name = name := by simpa using List.find?_some hslot
      have hs : s ∈ slots := List.mem_of_find?_eq_some hslot
      simp only [Option.some.injEq, exists_eq_left', bind_eq_ok_iff]
      refine exists_congr fun d => and_congr_right fun hput => ih hmsname hms hnodup.2 ?_
      intro t ht hmem
      have hne : t.name ≠ s.name := fun heq => hnodup.1 (heq ▸ hmem)
      rw [isSet_of_put hs ht hne hput]
      exact hopen t ht (.inr hmem)

theorem items_eq_ok_iff {vs : List (Node × Json)} (h : ∀ p ∈ vs, p.1.Says p.2) {ss : List Slot}
    (done : Nat) : record.items limit none done (ss.map Slot.field) (vs.map Prod.fst) before =
        .ok after ↔ vs.length ≤ ss.length ∧
      takeItems before ss ((vs.map Prod.snd).map Json.found) = .ok after := by
  induction ss generalizing before vs done with
  | nil =>
    cases vs with
    | nil =>
      simp [Json.Record.items, takeItems, Json.finish, bind, Except.bind, pure, Except.pure]
    | cons p vs => simp [Json.Record.items, Json.failAt]
  | cons s ss ih =>
    cases vs with
    | nil =>
      have hrest := @ih before [] (List.forall_mem_nil _) (done + 1)
      have htake : takeItems before ss [] = takeItems before (s :: ss) [] := by cases ss <;> rfl
      rw [List.map_nil, List.map_nil, List.map_nil, htake] at hrest
      exact hrest.trans (and_congr_left' (by simp))
    | cons p vs =>
      obtain ⟨hp, h⟩ := List.forall_mem_cons.1 h
      rw [List.map_cons, List.map_cons, List.map_cons, List.map_cons, Json.Record.items, takeItems,
        bind_eq_ok_iff, bind_eq_ok_iff, List.length_cons, List.length_cons,
        Nat.add_le_add_iff_right]
      simp only [field_read_eq_ok_iff hp, ih h]
      constructor
      · rintro ⟨d, hput, hlength, htake⟩
        exact ⟨hlength, d, hput, htake⟩
      · rintro ⟨hlength, d, hput, htake⟩
        exact ⟨d, hput, hlength, htake⟩

/-- A value gives the limits that are read from any of its texts. -/
theorem ofJson_eq_ok_iff {n : Node} {text : String} {d : Datum} (hn : n.Spelled text.toList)
    (h : n.Says d.json) : ofJson d = .ok l ↔ ofJsonText text = .ok l := by
  obtain ⟨j, hordered⟩ := d
  rw [ofJsonText_of_spelled hn, ofJson]
  cases h with
  | number h =>
    refine iff_of_false ?_ ?_
    · rcases Numeral.value_cases h with ⟨k, rfl⟩ | ⟨x, rfl⟩ <;> nofun
    · rw [map_eq_ok_iff]
      rintro ⟨d, hread, -⟩
      exact Json.refuse_ne_ok _ _ _ hread
  | @array vs h =>
    have hread (after : Draft) :
        record.read Json.depthLimit .blank (.array (vs.map Prod.fst) none) = .ok after ↔ _ :=
      @items_eq_ok_iff .blank after 127 vs h slots 0
    rw [map_eq_ok_iff, bind_eq_ok_iff]
    simp only [hread, List.length_map]
    refine exists_congr fun after => ?_
    split_ifs with hlength
    · exact iff_of_false nofun fun hshort => absurd hshort.1.1 (by omega)
    · have hshort : vs.length ≤ slots.length := by omega
      rw [and_iff_right hshort]
      exact and_congr_right fun _ => by simp [pure, Except.pure]
  | @object ms hname h =>
    have hnodup : ((ms.map Prod.snd).map Prod.fst).Nodup := by
      cases hordered with
      | object hordered _ => exact Dictionary.keys_nodup ⟨_, hordered⟩
    have hopen : ∀ s ∈ slots, s.isSet .blank = false := by decide
    have hread (after : Draft) :
        record.read Json.depthLimit .blank (.object (ms.map Prod.fst) none) = .ok after ↔
          takeMembers .blank ((ms.map Prod.snd).map fun m => (m.1, m.2.found)) = .ok after := by
      rw [← members_eq_ok_iff hname h hnodup fun s hs _ => hopen s hs]
      show (do let s ← record.members 127 (ms.map Prod.fst) .blank; .ok s) = _ ↔ _
      cases record.members 127 (ms.map Prod.fst) .blank <;> exact Iff.rfl
    rw [map_eq_ok_iff, map_eq_ok_iff]
    simp only [hread]
  | _ =>
    refine iff_of_false nofun ?_
    rw [map_eq_ok_iff]
    rintro ⟨d, hread, -⟩
    exact Json.refuse_ne_ok _ _ _ hread

end StoreGuard.Limits
