import Mathlib
import StoreGuard.Proofs.Store.Memory
import StoreGuard.Proofs.Store.Stack

namespace StoreGuard

section Shares

variable {ι α : Type} [DecidableEq ι]

def shareOf (client : ι) (l : List (ι × α)) : List α :=
  (l.filter fun e => e.1 = client).map Prod.snd

theorem shareOf_cons_self (client : ι) (a : α) (l : List (ι × α)) :
    shareOf client ((client, a) :: l) = a :: shareOf client l := by
  simp [shareOf]

theorem shareOf_cons_of_ne {client other : ι} (h : other ≠ client) (a : α) (l : List (ι × α)) :
    shareOf client ((other, a) :: l) = shareOf client l := by
  simp [shareOf, h]

theorem mem_shareOf {client : ι} {a : α} {l : List (ι × α)} (h : (client, a) ∈ l) :
    a ∈ shareOf client l :=
  List.mem_map.2 ⟨(client, a), List.mem_filter.2 ⟨h, by simp⟩, rfl⟩

end Shares

/-- A request about a key is answered by what is stored there, and gives the key what `next` makes
of that. -/
theorem Stack.step_local (layers : Stack) {r : Request} {key : String} (hkey : r.key? = some key) :
    ∃ (answer : Option ByteArray → Outcome) (next : Option ByteArray → Option ByteArray),
      ∀ d : Dictionary ByteArray, ∃ d' : Dictionary ByteArray,
        (layers.protect Memory.store).step r ⟨some d⟩ = (answer (d.get? key), ⟨some d'⟩) ∧
        ∀ other, d'.get? other = if other = key then next (d.get? key) else d.get? other := by
  have hsame (d : Dictionary ByteArray) (other : String) :
      d.get? other = if other = key then d.get? key else d.get? other := by
    split_ifs with h
    · rw [h]
    · rfl
  by_cases hadmits : layers.Admits r
  · have hstep (m : Memory) : (layers.protect Memory.store).step r m = Memory.run r m :=
      value_protect_of_admits hadmits Memory.store m
    by_cases hempty : key = ""
    · have hrun (m : Memory) := Memory.run_empty (hempty ▸ hkey) m
      exact ⟨fun _ => .error .emptyKey, id, fun d => ⟨d, (hstep _).trans (hrun _), hsame d⟩⟩
    · have hrun (d : Dictionary ByteArray) := Memory.run_open (r := r) (by simpa [hkey]) d
      cases r with
      | get other =>
        cases hkey
        exact ⟨fun v => .ok (.found v), id, fun d => ⟨d, (hstep _).trans (hrun d), hsame d⟩⟩
      | put other value =>
        cases hkey
        refine ⟨fun _ => .ok .done, fun _ => some value, fun d => ?_⟩
        exact ⟨d.insert key value, (hstep _).trans (hrun d), fun other => d.get?_insert ..⟩
      | delete other =>
        cases hkey
        refine ⟨fun _ => .ok .done, fun _ => none, fun d => ?_⟩
        exact ⟨d.erase key, (hstep _).trans (hrun d), fun other => d.get?_erase ..⟩
      | scan start => cases hkey
      | close => cases hkey
  · obtain ⟨v, hv, -⟩ := value_protect_of_not_admits hadmits Memory.store .new
    refine ⟨fun _ => .error (.violation v), id, fun d => ⟨d, ?_, hsame d⟩⟩
    obtain ⟨w, hw, hstep⟩ := value_protect_of_not_admits hadmits Memory.store ⟨some d⟩
    cases hv.symm.trans hw
    exact hstep

variable {ι : Type} {own : ι → Set String} {d : Dictionary ByteArray}
  {alone : ι → Dictionary ByteArray}

/-- Shared contents are what the clients would have each for itself: they agree with every client's
contents on its keys, and on no side is there anything else. -/
structure Splits (own : ι → Set String) (d : Dictionary ByteArray)
    (alone : ι → Dictionary ByteArray) : Prop where
  agree : ∀ i, ∀ key ∈ own i, d.get? key = (alone i).get? key
  owned : ∀ i key value, (alone i).get? key = some value → key ∈ own i
  covered : ∀ key value, d.get? key = some value → ∃ i, key ∈ own i

namespace Splits

theorem empty (own : ι → Set String) : Splits own .empty fun _ => .empty where
  agree _ _ _ := rfl
  owned _ _ _ h := by cases h
  covered _ _ h := by cases h

theorem mem_entries_iff (h : Splits own d alone) {e : String × ByteArray} :
    e ∈ d.entries ↔ ∃ i, e ∈ (alone i).entries := by
  obtain ⟨key, value⟩ := e
  simp only [Dictionary.mem_entries_iff]
  constructor
  · intro hget
    obtain ⟨i, hi⟩ := h.covered key value hget
    exact ⟨i, (h.agree i key hi).symm.trans hget⟩
  · rintro ⟨i, hget⟩
    exact (h.agree i key (h.owned i key value hget)).trans hget

variable [DecidableEq ι]

/-- One client changes what is under one of its keys, in the shared contents and in its own. -/
theorem update (hown : Pairwise fun i j => Disjoint (own i) (own j)) (h : Splits own d alone)
    {i : ι} {key : String} (hkey : key ∈ own i) {next : Option ByteArray → Option ByteArray}
    {d' a' : Dictionary ByteArray}
    (hd : ∀ other, d'.get? other = if other = key then next (d.get? key) else d.get? other)
    (ha : ∀ other, a'.get? other =
      if other = key then next ((alone i).get? key) else (alone i).get? other) :
    Splits own d' (Function.update alone i a') where
  agree j other hother := by
    rw [hd]
    by_cases hj : j = i
    · subst hj
      rw [Function.update_self, ha, h.agree j key hkey, h.agree j other hother]
    · have hne : other ≠ key := by
        rintro rfl
        exact Set.disjoint_left.1 (hown hj) hother hkey
      rw [Function.update_of_ne hj, if_neg hne, h.agree j other hother]
  owned j other value hget := by
    by_cases hj : j = i
    · subst hj
      rw [Function.update_self, ha] at hget
      split_ifs at hget with hsame
      · exact hsame ▸ hkey
      · exact h.owned j other value hget
    · rw [Function.update_of_ne hj] at hget
      exact h.owned j other value hget
  covered other value hget := by
    rw [hd] at hget
    split_ifs at hget with hsame
    · exact ⟨i, hsame ▸ hkey⟩
    · exact h.covered other value hget

/-- A run of all the clients' requests, and each client's run of its own. -/
theorem run (hown : Pairwise fun i j => Disjoint (own i) (own j)) (layers : Stack)
    {events : List (ι × Request)} (hevents : ∀ e ∈ events, ∃ key ∈ own e.1, e.2.key? = some key)
    (h : Splits own d alone) :
    let top := (layers.protect Memory.store).step
    let shared := runAll top (events.map Prod.snd) ⟨some d⟩
    ∃ d' alone', Splits own d' alone' ∧ shared.2 = ⟨some d'⟩ ∧
      ∀ i, runAll top (shareOf i events) ⟨some (alone i)⟩ =
        (shareOf i ((events.map Prod.fst).zip shared.1), ⟨some (alone' i)⟩) := by
  dsimp only
  induction events generalizing d alone with
  | nil => exact ⟨d, alone, h, rfl, fun i => rfl⟩
  | cons e events ih =>
    obtain ⟨j, r⟩ := e
    obtain ⟨⟨key, hkey, hr⟩, hrest⟩ := List.forall_mem_cons.1 hevents
    obtain ⟨answer, next, hstep⟩ := layers.step_local hr
    obtain ⟨d₁, hd₁, hd⟩ := hstep d
    obtain ⟨a₁, ha₁, ha⟩ := hstep (alone j)
    -- The client alone gets the same answer, as the key is one of its own.
    rw [← h.agree j key hkey] at ha₁
    obtain ⟨d', alone', hsplits, hlast, hshares⟩ := ih hrest (h.update hown hkey hd ha)
    rw [List.map_cons, List.map_cons, runAll_cons, hd₁, List.zip_cons_cons]
    refine ⟨d', alone', hsplits, hlast, fun i => ?_⟩
    have hi := hshares i
    by_cases hj : j = i
    · subst hj
      rw [Function.update_self] at hi
      rw [shareOf_cons_self, shareOf_cons_self, runAll_cons, ha₁, hi]
    · rw [Function.update_of_ne (Ne.symm hj)] at hi
      rw [shareOf_cons_of_ne hj, shareOf_cons_of_ne hj, hi]

end Splits

theorem Memory.run_scan_all (d : Dictionary ByteArray) :
    run (.scan "") ⟨some d⟩ = (.ok (.listed d.entries), ⟨some d⟩) := by
  have hall : d.filterKeys (fun k => "".toList.isPrefixOf k.toList) = d :=
    Dictionary.ext (List.filter_eq_self.2 fun _ _ => rfl)
  rw [run_open (r := .scan "") nofun, openStep, hall]

namespace Stack

/-- Any number of clients send requests about single keys to one stack, each about keys that no
other client has. Whatever the interleaving, every client gets the answers that it would get alone,
and in the end the memory lists just what the clients would have stored each for itself. -/
theorem clients_are_served_as_alone {n : Nat} (layers : Stack) (own : Fin n → Set String)
    (hown : Pairwise fun i j => Disjoint (own i) (own j)) (asked : Fin n → List Request)
    (hasked : ∀ i, ∀ r ∈ asked i, ∃ key ∈ own i, r.key? = some key)
    (events : List (Fin n × Request)) (hevents : ∀ i, shareOf i events = asked i) :
    let top := (layers.protect Memory.store).step
    let shared := runAll top (events.map Prod.snd) .new
    let alone := fun i => runAll top (asked i) .new
    (∀ i, shareOf i ((events.map Prod.fst).zip shared.1) = (alone i).1) ∧
      ∃ (listed : List (String × ByteArray)) (listedAlone : Fin n → List (String × ByteArray)),
        (Memory.run (.scan "") shared.2).1 = .ok (.listed listed) ∧
        (∀ i, (Memory.run (.scan "") (alone i).2).1 = .ok (.listed (listedAlone i))) ∧
        Ordered listed ∧ listed.Perm ((List.finRange n).flatMap listedAlone) := by
  intro top shared alone
  have hkeys : ∀ e ∈ events, ∃ key ∈ own e.1, e.2.key? = some key := by
    rintro ⟨i, r⟩ he
    exact hasked i r (hevents i ▸ mem_shareOf he)
  obtain ⟨d, solo, hsplits, hshared, halone⟩ := (Splits.empty own).run hown layers hkeys
  have halone (i : Fin n) :
      alone i = (shareOf i ((events.map Prod.fst).zip shared.1), ⟨some (solo i)⟩) :=
    (congrArg (runAll top · .new) (hevents i).symm).trans (halone i)
  refine ⟨fun i => by rw [halone i], d.entries, fun i => (solo i).entries, ?_, fun i => ?_,
    d.ordered, ?_⟩
  · have hlast : shared.2 = ⟨some d⟩ := hshared
    rw [hlast, Memory.run_scan_all]
  · rw [halone i, Memory.run_scan_all]
  · have hnodup (d : Dictionary ByteArray) : d.entries.Nodup := d.keys_nodup.of_map _
    have hdisjoint : ∀ i j, i ≠ j → (solo i).entries.Disjoint (solo j).entries := by
      rintro i j hij ⟨key, value⟩ hi hj
      rw [Dictionary.mem_entries_iff] at hi hj
      exact Set.disjoint_left.1 (hown hij) (hsplits.owned i key value hi)
        (hsplits.owned j key value hj)
    have hunion : ((List.finRange n).flatMap fun i => (solo i).entries).Nodup :=
      List.nodup_flatMap.2 ⟨fun i _ => hnodup (solo i),
        (List.nodup_finRange n).imp fun {i j} hij => hdisjoint i j hij⟩
    rw [List.perm_ext_iff_of_nodup (hnodup d) hunion]
    intro e
    rw [hsplits.mem_entries_iff, List.mem_flatMap]
    simp

/-- Two clients behind two guards, with a value that is too large, a key that is too long, and keys
that are written twice or deleted. -/
theorem clients_are_served_as_alone_two :
    let short : Guard := ⟨.ofRules [Rules.keyLength 2], .ofRules [Rules.valueSize 1], none⟩
    let layers : Stack := [.guard .standard, .pointer, .guard short]
    let own : Fin 2 → Set String := ![{"a1", "a22"}, {"b1", "b2"}]
    let asked : Fin 2 → List Request := ![
      [.put "a1" "x".toUTF8, .put "a22" "x".toUTF8, .put "a1" "xx".toUTF8, .get "a1"],
      [.put "b1" "y".toUTF8, .put "b1" "z".toUTF8, .put "b2" "y".toUTF8, .delete "b2"]]
    let events : List (Fin 2 × Request) := [(1, .put "b1" "y".toUTF8), (0, .put "a1" "x".toUTF8),
      (0, .put "a22" "x".toUTF8), (1, .put "b1" "z".toUTF8), (1, .put "b2" "y".toUTF8),
      (0, .put "a1" "xx".toUTF8), (1, .delete "b2"), (0, .get "a1")]
    let top := (layers.protect Memory.store).step
    let shared := runAll top (events.map Prod.snd) .new
    (Pairwise fun i j => Disjoint (own i) (own j)) ∧
      (∀ i, ∀ r ∈ asked i, ∃ key ∈ own i, r.key? = some key) ∧
      (∀ i, shareOf i events = asked i) ∧
      (∀ i, shareOf i ((events.map Prod.fst).zip shared.1) = (runAll top (asked i) .new).1) ∧
      shared.2.contents.map (fun d => d.entries) =
        some [("a1", "x".toUTF8), ("b1", "z".toUTF8)] := by
  intro short layers own asked events top shared
  have hown : Pairwise fun i j => Disjoint (own i) (own j) := by
    intro i j hij
    fin_cases i <;> fin_cases j <;> simp_all [own]
  have hasked : ∀ i, ∀ r ∈ asked i, ∃ key ∈ own i, r.key? = some key := by
    intro i
    fin_cases i <;> simp [asked, own, Request.key?]
  have hevents : ∀ i, shareOf i events = asked i := by
    intro i
    fin_cases i <;> rfl
  obtain ⟨hanswers, -⟩ := clients_are_served_as_alone layers own hown asked hasked events hevents
  exact ⟨hown, hasked, hevents, hanswers, by decide +kernel⟩

end Stack

end StoreGuard
