import StoreGuard.Proofs.Limits.Reading
import StoreGuard.Proofs.Limits.Stored
import StoreGuard.Proofs.Toml.Table

namespace StoreGuard

namespace Stack

/-- At the top of the layers, some value that is not empty can be put on the open contents. -/
def Stores (layers : Stack) (d : Dictionary ByteArray) : Prop :=
  ∃ key value, 0 < value.size ∧
    ((layers.protect Memory.store).step (.put key value) ⟨some d⟩).1 = .ok .done

variable {layers : Stack} {d : Dictionary ByteArray}

/-- What can be put was admitted by every guard. -/
theorem Stores.exists_admits (h : layers.Stores d) :
    ∃ key value, 0 < value.size ∧ layers.Admits (.put key value) := by
  obtain ⟨key, value, hsize, hdone⟩ := h
  refine ⟨key, value, hsize, ?_⟩
  by_contra hadmits
  obtain ⟨v, -, hstep⟩ := value_protect_of_not_admits hadmits Memory.store ⟨some d⟩
  have hrefused : ((layers.protect Memory.store).step (.put key value) ⟨some d⟩).1 =
      .error (.violation v) := congrArg Prod.fst hstep
  rw [hdone] at hrefused
  cases hrefused

theorem stores_of_admits {key : String} {value : ByteArray} (hkey : key ≠ "")
    (hsize : 0 < value.size) (hadmits : layers.Admits (.put key value)) : layers.Stores d :=
  ⟨key, value, hsize, answer_of_admits hadmits (fun h => hkey (Option.some.inj h)) d⟩

end Stack

namespace Limits

variable {l : Limits}

theorem compiles_of_keyPattern_eq_none (hpattern : l.keyPattern = none) : l.Compiles := by
  simp [Compiles, hpattern]

/-- The least that can be stored, a single byte under a single letter, is allowed unless a limit is
zero. -/
theorem allows_put_letter (hpattern : l.keyPattern = none) (hfault : l.fault? = none) :
    l.Allows (.put "k" ⟨#[0]⟩) := by
  obtain ⟨hlength, hsize⟩ := fault?_eq_none_iff.1 hfault
  have hkeys : 0 < l.maxKeyLength.toNat := UInt64.pos_iff_ne_zero.2 hlength
  have hvalues : 0 < l.maxValueSize.toNat := UInt64.pos_iff_ne_zero.2 hsize
  refine ⟨⟨⟨'k', by decide, rfl⟩, hkeys, ?_⟩, hvalues⟩
  intro source hsource
  rw [hpattern] at hsource
  cases hsource

/-- A key that is not blank has a character, so neither limit of what is allowed is zero. -/
theorem fault?_eq_none_of_allows_put {key : String} {value : ByteArray}
    (hallows : l.Allows (.put key value)) (hvalue : 0 < value.size) : l.fault? = none := by
  obtain ⟨hkey, hsize⟩ := hallows
  obtain ⟨c, hc, -⟩ := hkey.notBlank
  have hpos : 0 < key.length := by
    rw [← String.length_toList]
    exact List.length_pos_of_mem hc
  have hlength : key.length ≤ l.maxKeyLength.toNat := hkey.length_le
  apply fault?_eq_none_iff.2
  constructor
  · intro hzero
    rw [hzero, UInt64.toNat_zero] at hlength
    omega
  · intro hzero
    rw [hzero, UInt64.toNat_zero] at hsize
    omega

variable {ls : List Limits} {layers : Stack} {d : Dictionary ByteArray}

theorem stores_iff (hstack : stack ls = .ok layers) (hls : ∀ l ∈ ls, l.keyPattern = none) :
    layers.Stores d ↔ ∀ l ∈ ls, l.fault? = none := by
  constructor
  · intro hstores l hl
    obtain ⟨key, value, hsize, hadmits⟩ := hstores.exists_admits
    have hallows : l.Allows (.put key value) := (admits_stack_iff_allows hstack).1 hadmits l hl
    exact fault?_eq_none_of_allows_put hallows hsize
  · intro hfault
    -- The entry must be one and the same for all the layers.
    have hadmits : layers.Admits (.put "k" ⟨#[0]⟩) :=
      (admits_stack_iff_allows hstack).2 fun l hl => allows_put_letter (hls l hl) (hfault l hl)
    exact Stack.stores_of_admits (by decide) (by decide) hadmits

theorem exists_guard_stores_iff (hpattern : l.keyPattern = none) :
    ∃ g, l.guard = .ok g ∧ (Stack.Stores [.guard g] d ↔ l.fault? = none) := by
  obtain ⟨g, hguard⟩ := (compiles_of_keyPattern_eq_none hpattern).exists_guard
  have hstack : stack [l] = .ok [.guard g] := by
    rw [stack, hguard]
    rfl
  refine ⟨g, hguard, ?_⟩
  rw [stores_iff hstack (List.forall_mem_singleton.2 hpattern), List.forall_mem_singleton]

/-- Limits without a pattern have a stack, and behind it something can be stored if and only if all
of them pass their check. So it can behind any limits that a document gives, and cannot behind any
that the check refuses. -/
theorem storable_iff_unfaulted (d : Dictionary ByteArray) :
    (∀ ls : List Limits, (∀ l ∈ ls, l.keyPattern = none) →
      ∃ layers, stack ls = .ok layers ∧ (layers.Stores d ↔ ∀ l ∈ ls, l.fault? = none)) ∧
    (∀ (text : String) (l : Limits), ofToml text = .ok l → l.keyPattern = none →
      ∃ g, l.guard = .ok g ∧ Stack.Stores [.guard g] d) ∧
    ∀ (l : Limits) (fault : ConfigFault), l.fault? = some fault → l.keyPattern = none →
      ∃ g, l.guard = .ok g ∧ ¬Stack.Stores [.guard g] d := by
  refine ⟨fun ls hls => ?_, fun text l hread hpattern => ?_, fun l fault hfault hpattern => ?_⟩
  · obtain ⟨layers, hstack⟩ := exists_stack fun l hl => compiles_of_keyPattern_eq_none (hls l hl)
    exact ⟨layers, hstack, stores_iff hstack hls⟩
  · obtain ⟨g, hguard, hiff⟩ := exists_guard_stores_iff (d := d) hpattern
    obtain ⟨-, -, hlength, hsize⟩ := ofToml_eq_ok_iff.1 hread
    exact ⟨g, hguard, hiff.2 (fault?_eq_none_iff.2 ⟨hlength, hsize⟩)⟩
  · obtain ⟨g, hguard, hiff⟩ := exists_guard_stores_iff (d := d) hpattern
    have hne : l.fault? ≠ none := by rw [hfault]; exact nofun
    exact ⟨g, hguard, fun hstores => hne (hiff.1 hstores)⟩

/-- One character and one byte are enough of a limit; a zero in any layer is too little. -/
theorem storable_iff_unfaulted_two_layers :
    let least : Limits := ⟨1, 1, none, true⟩
    let greatest : Limits := ⟨18446744073709551615, 18446744073709551615, none, false⟩
    let zero : Limits := ⟨8, 0, none, false⟩
    (∃ layers, stack [least, greatest] = .ok layers ∧ layers.Stores .empty) ∧
    (∃ layers, stack [least, zero] = .ok layers ∧ ¬layers.Stores .empty) ∧
    ofToml "max_key_length = 3" = .ok { standard with maxKeyLength := 3 } ∧
    (∃ g, ({ standard with maxKeyLength := 3 } : Limits).guard = .ok g ∧
      Stack.Stores [.guard g] .empty) ∧
    zero.fault? = some .zeroValueSize ∧
    ∃ g, zero.guard = .ok g ∧ ¬Stack.Stores [.guard g] .empty := by
  intro least greatest zero
  have hone : Toml.Gap [' '] := by simp [Toml.Gap, Toml.isGap]
  have hnone : Toml.Gap [] := by simp [Toml.Gap]
  have hline : Toml.Assigns ("max_key_length", .whole 3)
      ("max_key_length =".toList ++ ([' '] ++ (['3'] ++ []))) :=
    .mk (.mk ⟨by decide, rfl⟩ hnone hone) hone
      (@Toml.Writes.whole [] ['3'] false 3 (by decide) (.one rfl) rfl) hnone
  have hdocument : Toml.document "max_key_length = 3" = some [("max_key_length", .whole 3)] :=
    Toml.document_eq_some (.last .nil hline) (List.nodup_singleton _)
  have hread : ofToml "max_key_length = 3" = .ok { standard with maxKeyLength := 3 } :=
    ofToml_eq_ok_iff.2 (.document hdocument rfl (by decide) (by decide))
  have hfault : zero.fault? = some .zeroValueSize := rfl
  obtain ⟨hstacks, hdocuments, hrefused⟩ := storable_iff_unfaulted .empty
  refine ⟨?_, ?_, hread, hdocuments _ _ hread rfl, hfault, hrefused zero _ hfault rfl⟩
  · obtain ⟨layers, hstack, hiff⟩ := hstacks [least, greatest] (by decide)
    exact ⟨layers, hstack, hiff.2 (by decide)⟩
  · obtain ⟨layers, hstack, hiff⟩ := hstacks [least, zero] (by decide)
    exact ⟨layers, hstack, fun hstores => absurd (hiff.1 hstores) (by decide)⟩

end Limits

end StoreGuard
