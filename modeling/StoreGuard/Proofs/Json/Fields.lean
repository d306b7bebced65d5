import Mathlib.Data.List.Forall2
import Mathlib.Data.List.Nodup
import StoreGuard.Proofs.Json.RoundTrip

namespace StoreGuard.Json

/-- What is written for a field gives its value, which is the standard one if nothing is written. -/
def Gives {α : Type} (Is : Node → α → Prop) (usual : α) (written : Option Node) (a : α) : Prop :=
  match written with
  | none => a = usual
  | some v => Is v a

def taken {α : Type} (get : Node → Reading α) (name : String) (members : List (String × Node)) :
    Option α :=
  (members.lookup name).bind fun n => (get n).toOption

section Taken

variable {α : Type} {get : Node → Reading α} {name key : String} {members : List (String × Node)}
  {n : Node} {a : α}

theorem toOption_eq_some_iff {reading : Reading α} : reading.toOption = some a ↔ reading = .ok a := by
  cases reading <;> simp [Except.toOption]

theorem taken_concat_of_ne (h : key ≠ name) :
    taken get key (members ++ [(name, n)]) = taken get key members := by
  rw [taken, List.lookup_append, lookup_cons_ite, if_neg h]
  exact congrArg (Option.bind · _) Option.or_none

theorem taken_concat_self (hopen : members.lookup name = none) (h : get n = .ok a) :
    taken get name (members ++ [(name, n)]) = some a := by
  rw [taken, List.lookup_append, hopen, Option.none_or, List.lookup_cons_self, Option.bind_some,
    toOption_eq_some_iff, h]

theorem isSome_taken (h : ∀ n, members.lookup name = some n → ∃ a, get n = .ok a) :
    (taken get name members).isSome = (members.lookup name).isSome := by
  rw [taken]
  cases hlookup : members.lookup name with
  | none => rfl
  | some n =>
    obtain ⟨a, ha⟩ := h n hlookup
    rw [Option.bind_some, ha]
    rfl

/-- A field is given where what is written for it is taken, if anything is. -/
theorem gives_iff {Is : Node → α → Prop} {usual : α}
    (hget : ∀ n, members.lookup name = some n → ∀ a, get n = .ok a ↔ Is n a) :
    Gives Is usual (members.lookup name) a ↔
      (∀ n, members.lookup name = some n → ∃ a, get n = .ok a) ∧
        (taken get name members).getD usual = a := by
  rw [taken]
  cases hlookup : members.lookup name with
  | none => simp [Gives, eq_comm]
  | some n =>
    have hthere : (∀ v, some n = some v → ∃ b, get v = .ok b) ↔ ∃ b, get n = .ok b := by simp
    rw [Gives, ← hget n hlookup a, hthere, Option.bind_some]
    cases get n <;> simp [Except.toOption]

end Taken

theorem Label.fault_eq {q : Quoted} {t : List Char} (h : Label q t) : q.fault = none := by
  cases h
  rfl

/-- What can be read can be passed over as well. -/
theorem Node.Spelled.pass {n : Node} {t : List Char} (h : n.Spelled t) : n.pass = .ok () := by
  induction h with
  | before hc h ih => exact ih
  | after hc h ih => exact ih
  | @items p l h ih =>
    have hitems : ∀ l : List (Node × List Char), (∀ q ∈ l, q.1.pass = .ok ()) →
        passItems (l.map Prod.fst) = .ok () := by
      intro l hl
      induction l with
      | nil => rfl
      | cons q l ihl =>
        obtain ⟨hq, hl⟩ := List.forall_mem_cons.1 hl
        rw [List.map_cons, passItems, hq]
        exact ihl hl
    rw [Node.pass, hitems _ ih]
    rfl
  | @members p l hname h ih =>
    have hmembers : ∀ l : List ((Quoted × List Char) × (Node × List Char)),
        (∀ q ∈ l, Label q.1.1 q.1.2) → (∀ q ∈ l, q.2.1.pass = .ok ()) →
        passMembers (l.map fun q => (q.1.1, q.2.1)) = .ok () := by
      intro l hlabel hl
      induction l with
      | nil => rfl
      | cons q l ihl =>
        obtain ⟨hqlabel, hlabel⟩ := List.forall_mem_cons.1 hlabel
        obtain ⟨hq, hl⟩ := List.forall_mem_cons.1 hl
        rw [List.map_cons, passMembers, hqlabel.fault_eq, hq]
        exact ihl hlabel hl
    rw [Node.pass, hmembers _ hname ih]
    rfl
  | _ => rfl

theorem pass_of_passMembers {ms : List (Quoted × Node)} (h : passMembers ms = .ok ()) :
    ∀ m ∈ ms, m.2.pass = .ok () := by
  induction ms with
  | nil => nofun
  | cons m ms ih =>
    obtain ⟨_, -, h⟩ := exists_ok_of_bind h
    obtain ⟨_, hm, hms⟩ := exists_ok_of_bind h
    exact List.forall_mem_cons.2 ⟨hm, ih hms⟩

variable {σ : Type}

def Field.Readable (f : Field σ) (limit : Nat) (start : σ) (n : Node) : Prop :=
  ∃ s, f.read limit n start = .ok s

/-- After any members a field is set if its name is among them, and where it is not, its reader
takes what it takes at the start. -/
structure Field.Fits (f : Field σ) (limit : Nat) (fill : List (String × Node) → σ) : Prop where
  isSet : ∀ {members : List (String × Node)},
    (∀ n, members.lookup f.name = some n → f.Readable limit (fill []) n) →
      f.isSet (fill members) = (members.lookup f.name).isSome
  read : ∀ {members : List (String × Node)} {n : Node} {s : σ}, members.lookup f.name = none →
    (f.read limit n (fill members) = .ok s ↔
      f.Readable limit (fill []) n ∧ s = fill (members ++ [(f.name, n)]))

section Slots

variable {name : String} {required : Bool} {α : Type} {slot : σ → Option α}
  {get : Nat → Node → Reading α} {put : σ → α → σ} {limit : Nat}

@[simp] theorem Field.name_of : (Field.of name required slot get put).name = name := rfl

@[simp] theorem Field.required_of : (Field.of name required slot get put).required = required := rfl

theorem readable_of_iff {start : σ} {n : Node} :
    (Field.of name required slot get put).Readable limit start n ↔ ∃ a, get limit n = .ok a := by
  simp only [Field.Readable, Field.of, map_eq_ok_iff]
  constructor
  · rintro ⟨s, a, ha, -⟩
    exact ⟨a, ha⟩
  · rintro ⟨a, ha⟩
    exact ⟨_, a, ha, rfl⟩

theorem Field.fits_of {fill : List (String × Node) → σ}
    (hslot : ∀ members, slot (fill members) = taken (get limit) name members)
    (hput : ∀ {members n a}, members.lookup name = none → get limit n = .ok a →
      put (fill members) a = fill (members ++ [(name, n)])) :
    (Field.of name required slot get put).Fits limit fill := by
  refine ⟨fun {members} h => ?_, fun {members n s} hopen => ?_⟩
  · have htaken : ∀ n, members.lookup name = some n → ∃ a, get limit n = .ok a :=
      fun n hn => readable_of_iff.1 (h n hn)
    have hset : (slot (fill members)).isSome = (members.lookup name).isSome := by
      rw [hslot, isSome_taken htaken]
    exact hset
  · rw [readable_of_iff, Field.of, map_eq_ok_iff]
    constructor
    · rintro ⟨a, ha, rfl⟩
      exact ⟨⟨a, ha⟩, hput hopen ha⟩
    · rintro ⟨⟨a, ha⟩, rfl⟩
      exact ⟨a, ha, hput hopen ha⟩

end Slots

namespace Record

/-- Members that a record can be read from: each field once at most, with a value that its reader
takes, and no other names if the record is closed. -/
structure Fine (r : Record σ) (limit : Nat) (start : σ) (members : List (String × Node)) :
    Prop where
  once : ∀ name ∈ r.names, (members.map Prod.fst).count name ≤ 1
  readable : ∀ f ∈ r.fields, ∀ n, (f.name, n) ∈ members → f.Readable limit start n
  known : r.closed = true → ∀ m ∈ members, m.1 ∈ r.names

structure Fills (r : Record σ) (limit : Nat) (fill : List (String × Node) → σ) : Prop where
  nodup : r.names.Nodup
  fits : ∀ f ∈ r.fields, f.Fits limit fill
  pass : ∀ {members : List (String × Node)} {name : String} {n : Node}, name ∉ r.names →
    fill (members ++ [(name, n)]) = fill members

variable {r : Record σ} {limit : Nat} {fill : List (String × Node) → σ} {start s : σ}
  {members : List (String × Node)} {name : String} {n : Node}

theorem fine_nil : r.Fine limit start [] := ⟨fun _ _ => Nat.zero_le 1, nofun, nofun⟩

theorem Fine.readable_of_lookup {f : Field σ} (h : r.Fine limit start members) (hf : f ∈ r.fields)
    (n : Node) (hlookup : members.lookup f.name = some n) : f.Readable limit start n :=
  h.readable f hf n (mem_of_lookup hlookup)

theorem Fine.of_append {later : List (String × Node)}
    (h : r.Fine limit start (members ++ later)) : r.Fine limit start members := by
  refine ⟨fun name hname => ?_, fun f hf n hn => h.readable f hf n (List.mem_append_left _ hn),
    fun hclosed m hm => h.known hclosed m (List.mem_append_left _ hm)⟩
  have honce := h.once name hname
  rw [List.map_append, List.count_append] at honce
  omega

/-- One more member is fine where its name is a field's that is still open and takes the value, or
where other names are allowed. -/
theorem fine_concat_iff : r.Fine limit start (members ++ [(name, n)]) ↔
    r.Fine limit start members ∧
    (∀ f ∈ r.fields, f.name = name → members.lookup name = none ∧ f.Readable limit start n) ∧
    (name ∉ r.names → r.closed = false) := by
  constructor
  · intro h
    refine ⟨h.of_append, ?_, fun hname => ?_⟩
    · rintro f hf rfl
      refine ⟨?_, h.readable f hf n (by simp)⟩
      have honce := h.once f.name (List.mem_map_of_mem hf)
      rw [List.map_append, List.count_append, List.map_singleton, List.count_singleton_self] at honce
      rw [lookup_eq_none_iff_count]
      omega
    · exact Bool.eq_false_iff.2 fun hclosed => hname (h.known hclosed (name, n) (by simp))
  · rintro ⟨h, hfield, hother⟩
    refine ⟨fun other hother => ?_, fun f hf v hv => ?_, fun hclosed m hm => ?_⟩
    · rw [List.map_append, List.count_append, List.map_singleton, List.count_singleton]
      have honce := h.once other hother
      split_ifs with heq
      · obtain rfl : name = other := eq_of_beq heq
        obtain ⟨f, hf, hname⟩ := List.mem_map.1 hother
        have hnone := lookup_eq_none_iff_count.1 (hfield f hf hname).1
        omega
      · exact honce
    · rcases List.mem_append.1 hv with hv | hv
      · exact h.readable f hf v hv
      · cases List.mem_singleton.1 hv
        exact (hfield f hf rfl).2
    · rcases List.mem_append.1 hm with hm | hm
      · exact h.known hclosed m hm
      · cases List.mem_singleton.1 hm
        by_contra hname
        rw [hother hname] at hclosed
        cases hclosed

theorem Fills.eq_of_name_eq (hr : r.Fills limit fill) {f g : Field σ} (hf : f ∈ r.fields)
    (hg : g ∈ r.fields) (h : f.name = g.name) : f = g :=
  List.inj_on_of_nodup_map hr.nodup hf hg h

/-- One member: what is read so far decides whether it is taken. -/
theorem member_eq_ok_iff (hr : r.Fills limit fill) (hfine : r.Fine limit (fill []) members)
    {q : Quoted} (hpass : n.pass = .ok ()) :
    r.member limit q n (fill members) = .ok s ↔
      ∃ name, q.Says name ∧ r.Fine limit (fill []) (members ++ [(name, n)]) ∧
        s = fill (members ++ [(name, n)]) := by
  rw [member, bind_eq_ok_iff]
  refine exists_congr fun name => and_congr Quoted.text_eq_ok_iff ?_
  rw [fine_concat_iff, and_iff_right hfine]
  cases hfind : r.fields.find? fun f => f.name = name with
  | none =>
    have hnone : ∀ f ∈ r.fields, f.name ≠ name := fun f hf => by
      simpa using List.find?_eq_none.1 hfind f hf
    have hname : name ∉ r.names := by
      rw [names, List.mem_map]
      rintro ⟨f, hf, hname⟩
      exact hnone f hf hname
    rw [hr.pass hname, and_iff_right fun f hf hf' => absurd hf' (hnone f hf)]
    cases hclosed : r.closed with
    | true => simp [mismatch, hname]
    | false => simp [hpass, bind, Except.bind, pure, Except.pure, eq_comm]
  | some f =>
    obtain rfl : f.name = name := by simpa using List.find?_some hfind
    have hf : f ∈ r.fields := List.mem_of_find?_eq_some hfind
    have hname : f.name ∈ r.names := List.mem_map_of_mem hf
    -- Among the fields there is no other of this name.
    have hfield : (∀ g ∈ r.fields, g.name = f.name →
        members.lookup f.name = none ∧ g.Readable limit (fill []) n) ↔
        members.lookup f.name = none ∧ f.Readable limit (fill []) n := by
      refine ⟨fun h => h f hf rfl, fun h g hg hg' => ?_⟩
      rwa [hr.eq_of_name_eq hg hf hg']
    rw [hfield, and_iff_left fun h => absurd hname h]
    simp only [(hr.fits f hf).isSet (hfine.readable_of_lookup hf)]
    cases hlookup : members.lookup f.name with
    | some v => simp [mismatch]
    | none => simp [(hr.fits f hf).read hlookup]

/-- The members one after the other. -/
theorem members_eq_ok_iff (hr : r.Fills limit fill) (hfine : r.Fine limit (fill []) members)
    {ms : List (Quoted × Node)} (hpass : ∀ m ∈ ms, m.2.pass = .ok ()) :
    r.members limit ms (fill members) = .ok s ↔
      ∃ later, List.Forall₂ IsNamed ms later ∧ r.Fine limit (fill []) (members ++ later) ∧
        s = fill (members ++ later) := by
  induction ms generalizing members with
  | nil => simp [Record.members, hfine, eq_comm]
  | cons m ms ih =>
    obtain ⟨q, v⟩ := m
    obtain ⟨hv, hpass⟩ := List.forall_mem_cons.1 hpass
    rw [Record.members, bind_eq_ok_iff]
    simp only [member_eq_ok_iff hr hfine hv]
    constructor
    · rintro ⟨_, ⟨name, hname, hfirst, rfl⟩, hrest⟩
      obtain ⟨later, hnamed, hall, rfl⟩ := (ih hfirst hpass).1 hrest
      rw [← List.append_cons] at hall
      refine ⟨(name, v) :: later, .cons ⟨hname, rfl⟩ hnamed, hall, ?_⟩
      rw [← List.append_cons]
    · rintro ⟨later, hnamed, hall, rfl⟩
      cases hnamed with
      | @cons _ e _ later hfirst hrest =>
        obtain ⟨name, w⟩ := e
        obtain ⟨hname, heq⟩ := hfirst
        obtain rfl : v = w := heq
        rw [List.append_cons] at hall
        refine ⟨_, ⟨name, hname, hall.of_append, rfl⟩,
          (ih hall.of_append hpass).2 ⟨later, hrest, hall, ?_⟩⟩
        rw [← List.append_cons]

theorem complete_eq_ok_iff (hr : r.Fills limit fill) (hfine : r.Fine limit (fill []) members) :
    r.complete (fill members) = .ok s ↔
      (∀ f ∈ r.fields, f.required = true → (members.lookup f.name).isSome = true) ∧
        s = fill members := by
  have hset (f : Field σ) (hf : f ∈ r.fields) :
      f.isSet (fill members) = (members.lookup f.name).isSome :=
    (hr.fits f hf).isSet (hfine.readable_of_lookup hf)
  rw [complete]
  cases hfind : r.fields.find? fun f => f.required && !f.isSet (fill members) with
  | some f =>
    have hf : f ∈ r.fields := List.mem_of_find?_eq_some hfind
    have hmissing := List.find?_some hfind
    simp only [Bool.and_eq_true, Bool.not_eq_true', hset f hf] at hmissing
    simp only [mismatch, reduceCtorEq, false_iff, not_and]
    intro hall
    rw [hall f hf hmissing.1] at hmissing
    cases hmissing.2
  | none =>
    have hall : ∀ f ∈ r.fields, f.required = true → (members.lookup f.name).isSome = true := by
      intro f hf hrequired
      have hfound := List.find?_eq_none.1 hfind f hf
      rw [hset f hf, hrequired] at hfound
      simpa using hfound
    rw [and_iff_right hall, Except.ok.injEq]
    exact eq_comm

/-- The items stand for the fields in order; fields at the end may be left out if they are not
required. -/
theorem items_eq_ok_iff (hr : r.Fills limit fill) {fs : List (Field σ)} {vs : List Node}
    (hfs : ∀ f ∈ fs, f ∈ r.fields) (hnames : (fs.map Field.name).Nodup)
    (hopen : ∀ f ∈ fs, members.lookup f.name = none) (done : Nat) :
    r.items limit none done fs vs (fill members) = .ok s ↔
      vs.length ≤ fs.length ∧ (∀ f ∈ fs.drop vs.length, f.required = false) ∧
      (∀ p ∈ fs.zip vs, p.1.Readable limit (fill []) p.2) ∧
      s = fill (members ++ (fs.map Field.name).zip vs) := by
  induction fs generalizing vs members done with
  | nil =>
    cases vs with
    | nil =>
      have hsame : fill members = s ↔ s = fill members := eq_comm
      simp [items, finish, bind, Except.bind, pure, Except.pure, hsame]
    | cons v vs => simp [items, failAt]
  | cons f fs ih =>
    obtain ⟨hf, hfs⟩ := List.forall_mem_cons.1 hfs
    obtain ⟨hfopen, hopen⟩ := List.forall_mem_cons.1 hopen
    rw [List.map_cons, List.nodup_cons] at hnames
    cases vs with
    | nil =>
      have hrest := @ih members [] hfs hnames.2 hopen (done + 1)
      cases hrequired : f.required with
      | true => simp [items, finish, bind, Except.bind, mismatch, hrequired]
      | false =>
        simp only [List.zip_nil_right, List.length_nil, List.drop_zero, Nat.zero_le,
          true_and] at hrest ⊢
        simp only [items, finish, bind, Except.bind, hrequired, Bool.false_eq_true, if_false, hrest,
          List.forall_mem_cons, true_and]
    | cons v vs =>
      -- The fields to come have other names and are as open as before.
      have hlater : ∀ g ∈ fs, (members ++ [(f.name, v)]).lookup g.name = none := by
        intro g hg
        have hne : g.name ≠ f.name := fun heq => hnames.1 (heq ▸ List.mem_map_of_mem hg)
        rw [List.lookup_append, hopen g hg, Option.none_or, lookup_cons_ite, if_neg hne]
        rfl
      have hrest := @ih (members ++ [(f.name, v)]) vs hfs hnames.2 hlater (done + 1)
      rw [items, bind_eq_ok_iff, List.map_cons, List.zip_cons_cons, List.zip_cons_cons,
        List.append_cons, List.forall_mem_cons, List.length_cons, List.length_cons,
        List.drop_succ_cons, Nat.add_le_add_iff_right]
      simp only [(hr.fits f hf).read hfopen]
      constructor
      · rintro ⟨_, ⟨hreadable, rfl⟩, hitems⟩
        obtain ⟨hlength, hrequired, hall, hs⟩ := hrest.1 hitems
        exact ⟨hlength, hrequired, ⟨hreadable, hall⟩, hs⟩
      · rintro ⟨hlength, hrequired, ⟨hreadable, hall⟩, hs⟩
        exact ⟨_, ⟨hreadable, rfl⟩, hrest.2 ⟨hlength, hrequired, hall, hs⟩⟩

theorem map_fst_zip_take {α β : Type} (l : List α) (k : List β) :
    (l.zip k).map Prod.fst = l.take k.length := by
  induction l generalizing k with
  | nil => simp
  | cons a l ih => cases k <;> simp [ih]

theorem nodup_zip {α : Type} {names : List String} (hnames : names.Nodup) (l : List α) :
    ((names.zip l).map Prod.fst).Nodup := by
  rw [map_fst_zip_take]
  exact hnames.sublist (List.take_sublist _ _)

/-- Items are fine under the names of the fields where each field's reader takes its item. -/
theorem fine_zip_iff (hr : r.Fills limit fill) {vs : List Node} :
    r.Fine limit start (r.names.zip vs) ↔ ∀ p ∈ r.fields.zip vs, p.1.Readable limit start p.2 := by
  have hmem (f : Field σ) (v : Node) (hf : f ∈ r.fields) :
      (f.name, v) ∈ r.names.zip vs ↔ (f, v) ∈ r.fields.zip vs := by
    rw [names, List.zip_map_left, List.mem_map]
    constructor
    · rintro ⟨⟨g, w⟩, hg, heq⟩
      simp only [Prod.map_apply, id_eq, Prod.mk.injEq] at heq
      obtain ⟨hname, rfl⟩ := heq
      rwa [hr.eq_of_name_eq hf (List.of_mem_zip hg).1 hname.symm]
    · intro h
      exact ⟨(f, v), h, rfl⟩
  constructor
  · rintro h ⟨f, v⟩ hp
    have hf : f ∈ r.fields := (List.of_mem_zip hp).1
    exact h.readable f hf v ((hmem f v hf).2 hp)
  · intro h
    refine ⟨fun name _ => List.nodup_iff_count_le_one.1 (nodup_zip hr.nodup vs) name,
      fun f hf v hv => h (f, v) ((hmem f v hf).1 hv), fun _ m hm => (List.of_mem_zip hm).1⟩

/-- Fields that have no item are not required exactly if every required one has an item. -/
theorem drop_required_iff (hr : r.Fills limit fill) {vs : List Node} :
    (∀ f ∈ r.fields.drop vs.length, f.required = false) ↔
      ∀ f ∈ r.fields, f.required = true → ((r.names.zip vs).lookup f.name).isSome = true := by
  have hset (name : String) : ((r.names.zip vs).lookup name).isSome = true ↔
      name ∈ (r.fields.take vs.length).map Field.name := by
    rw [Option.isSome_iff_ne_none, Ne, lookup_eq_none_iff_notMem, not_not, map_fst_zip_take, names,
      List.map_take]
  constructor
  · intro h f hf hrequired
    rw [hset]
    refine List.mem_map_of_mem ?_
    rw [← List.take_append_drop vs.length r.fields, List.mem_append] at hf
    refine hf.resolve_right fun hlast => ?_
    rw [h f hlast] at hrequired
    cases hrequired
  · intro h f hf
    refine Bool.eq_false_iff.2 fun hrequired => ?_
    have hearly := (hset f.name).1 (h f (List.mem_of_mem_drop hf) hrequired)
    have hlate : f.name ∈ r.names.drop vs.length := by
      rw [names, ← List.map_drop]
      exact List.mem_map_of_mem hf
    rw [List.map_take] at hearly
    exact List.disjoint_take_drop hr.nodup (Nat.le_refl _) hearly hlate

theorem fine_iff : r.Fine limit start members ↔
    (∀ name ∈ r.names, (members.map Prod.fst).count name ≤ 1) ∧
    (∀ f ∈ r.fields, ∀ n, members.lookup f.name = some n → f.Readable limit start n) ∧
    (r.closed = true → ∀ m ∈ members, m.1 ∈ r.names) := by
  refine ⟨fun h => ⟨h.once, fun f hf => h.readable_of_lookup hf, h.known⟩, ?_⟩
  rintro ⟨honce, hreadable, hknown⟩
  refine ⟨honce, fun f hf n hn => hreadable f hf n ?_, hknown⟩
  exact (lookup_eq_some_iff_mem (honce f.name (List.mem_map_of_mem hf))).2 hn

/-- The members that a tree has for a record: those of an object, and the items of an array under
the names of the fields in order. -/
inductive Members (r : Record σ) : Node → List (String × Node) → Prop where
  | object {ms : List (Quoted × Node)} {members : List (String × Node)}
    (hnamed : List.Forall₂ IsNamed ms members) : Members r (.object ms none) members
  | array {vs : List Node} (hlength : vs.length ≤ r.names.length) :
    Members r (.array vs none) (r.names.zip vs)

theorem Members.depth_lt (h : r.Members n members) (hdepth : n.depth ≤ limit) :
    ∀ m ∈ members, m.2.depth < limit := by
  intro m hm
  cases h with
  | @object ms _ hnamed =>
    have hvalues : members.map Prod.snd = ms.map Prod.snd := by
      clear hm hdepth
      induction hnamed with
      | nil => rfl
      | cons hfirst _ ih => rw [List.map_cons, List.map_cons, ih, hfirst.2]
    have hmem : m.2 ∈ ms.map Prod.snd := hvalues ▸ List.mem_map_of_mem hm
    obtain ⟨q, hq, heq⟩ := List.mem_map.1 hmem
    have hle := depth_le_memberNodesDepth ms q hq
    rw [heq] at hle
    rw [Node.depth] at hdepth
    omega
  | array hlength =>
    have hle := depth_le_nodesDepth _ m.2 (List.of_mem_zip hm).2
    rw [Node.depth] at hdepth
    omega

/-- A record is read from a tree with members for it that are fine and complete, and from no
other. -/
theorem read_eq_ok_iff (hr : r.Fills limit fill) (hlimit : 0 < limit) (hstops : n.stops = false)
    (hpass : n.pass = .ok ()) : r.read (limit + 1) (fill []) n = .ok s ↔
      ∃ members, r.Members n members ∧ r.Fine limit (fill []) members ∧
        (∀ f ∈ r.fields, f.required = true → (members.lookup f.name).isSome = true) ∧
        s = fill members := by
  have henter : enter (limit + 1) = .ok limit := if_neg (by omega)
  cases n with
  | object ms fault =>
    obtain rfl : fault = none := by simpa [Node.stops] using hstops
    obtain ⟨u, hms, -⟩ := exists_ok_of_bind hpass
    have hread : r.read (limit + 1) (fill []) (.object ms none) =
        r.members limit ms (fill []) >>= r.complete := by
      rw [read, henter]
      rfl
    rw [hread, bind_eq_ok_iff]
    simp only [members_eq_ok_iff hr fine_nil (pass_of_passMembers hms), List.nil_append]
    constructor
    · rintro ⟨_, ⟨members, hnamed, hfine, rfl⟩, hcomplete⟩
      exact ⟨members, .object hnamed, hfine, (complete_eq_ok_iff hr hfine).1 hcomplete⟩
    · rintro ⟨members, hmembers, hfine, hcomplete⟩
      cases hmembers with
      | object hnamed =>
        exact ⟨_, ⟨members, hnamed, hfine, rfl⟩, (complete_eq_ok_iff hr hfine).2 hcomplete⟩
  | array vs fault =>
    obtain rfl : fault = none := by simpa [Node.stops] using hstops
    have hread : r.read (limit + 1) (fill []) (.array vs none) =
        r.items limit none 0 r.fields vs (fill []) := by
      rw [read, henter]
      rfl
    have hlength : r.names.length = r.fields.length := List.length_map _
    rw [hread, items_eq_ok_iff hr (fun f hf => hf) hr.nodup (fun _ _ => rfl), ← fine_zip_iff hr,
      drop_required_iff hr]
    constructor
    · rintro ⟨hshort, hrequired, hfine, hs⟩
      exact ⟨_, .array (hlength ▸ hshort), hfine, hrequired, hs⟩
    · rintro ⟨members, hmembers, hfine, hrequired, hs⟩
      cases hmembers with
      | array hshort => exact ⟨hlength ▸ hshort, hrequired, hfine, hs⟩
  | _ =>
    refine iff_of_false (refuse_ne_ok _ _ _) ?_
    rintro ⟨members, ⟨⟩, -⟩

end Record

end StoreGuard.Json
