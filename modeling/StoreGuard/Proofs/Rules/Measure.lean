import StoreGuard.Proofs.Dictionary
import StoreGuard.Proofs.Rules.Number
import StoreGuard.Proofs.Rules.Stored
import StoreGuard.Proofs.Rules.Text
import StoreGuard.Proofs.Violation

namespace StoreGuard

open Json (Scalar fitsWord_iff fitsWord_natCast)

inductive Side where
  | below
  | above

def Side.Breaks (found limit : Int) : Side → Prop
  | below => found < limit
  | above => limit < found

instance (found limit : Int) (side : Side) : Decidable (side.Breaks found limit) :=
  match side with
  | .below => inferInstanceAs (Decidable (found < limit))
  | .above => inferInstanceAs (Decidable (limit < found))

structure Bound where
  side : Side
  name : String
  limit : Int

def Bound.entry (b : Bound) : String × Datum := (b.name, .int b.limit)

/-- A rule with its bounds, the number it finds in a value, the name that number is recorded under,
and what else is recorded. -/
structure Measure (α : Type) where
  rule : Rule α
  bounds : List Bound
  label : String
  find : α → Int
  others : α → List (String × Datum)

namespace Measure

variable {α : Type} {m : Measure α} {x : α} {ctx : Context}

def evidence (m : Measure α) (x : α) : List (String × Datum) :=
  m.bounds.map Bound.entry ++ (m.label, .int (m.find x)) :: m.others x

def Broken (m : Measure α) (x : α) : Prop := ∃ b ∈ m.bounds, b.side.Breaks (m.find x) b.limit

instance (m : Measure α) (x : α) : Decidable (m.Broken x) :=
  inferInstanceAs (Decidable (∃ b ∈ m.bounds, b.side.Breaks (m.find x) b.limit))

def ShownBroken (m : Measure α) (d : Metadata) : Prop :=
  ∃ b ∈ m.bounds, ∃ found limit, d.get? m.label = some (.int found) ∧
    d.get? b.name = some (.int limit) ∧ b.side.Breaks found limit

/-- The value is reported exactly if it breaks a bound. A report comes back from its text, records
the bounds, what was found and nothing else that the rule does not name, and shows what is broken. -/
structure Proves (m : Measure α) (x : α) (ctx : Context) : Prop where
  reported_iff : (∃ v, (m.rule.check x ctx).value = some v) ↔ m.Broken x
  reads_back : ∀ v, (m.rule.check x ctx).value = some v →
    Violation.ofJsonText v.toJsonText = .ok v
  records : ∀ v, (m.rule.check x ctx).value = some v → v.metadata.entries.Perm (m.evidence x)
  shows : ∀ v, (m.rule.check x ctx).value = some v → m.ShownBroken v.metadata

/-- Nothing is recorded twice under one name, and all of it is text or a number of 64 bits. -/
structure Recordable (m : Measure α) (x : α) : Prop where
  nodup : ((m.evidence x).map Prod.fst).Nodup
  limits : ∀ b ∈ m.bounds, fitsWord b.limit = true
  found : fitsWord (m.find x) = true
  others : ∀ e ∈ m.others x, e.2.json.Scalar

namespace Recordable

theorem perm (h : m.Recordable x) :
    (Dictionary.ofEntries (m.evidence x)).entries.Perm (m.evidence x) :=
  Dictionary.perm_entries_ofEntries h.nodup

theorem scalar (h : m.Recordable x) : ∀ e ∈ m.evidence x, e.2.json.Scalar := by
  intro e he
  rcases List.mem_append.1 he with he | he
  · obtain ⟨b, hb, rfl⟩ := List.mem_map.1 he
    exact .int (h.limits b hb)
  · rcases List.mem_cons.1 he with rfl | he
    · exact .int h.found
    · exact h.others e he

theorem get?_of_mem (h : m.Recordable x) {name : String} {d : Datum}
    (hmem : (name, d) ∈ m.evidence x) : (Dictionary.ofEntries (m.evidence x)).get? name = some d :=
  Dictionary.mem_entries_iff.1 (h.perm.mem_iff.2 hmem)

theorem shownBroken (h : m.Recordable x) (hbroken : m.Broken x) :
    m.ShownBroken (.ofEntries (m.evidence x)) := by
  obtain ⟨b, hb, hbreaks⟩ := hbroken
  have hfound : (m.label, Datum.int (m.find x)) ∈ m.evidence x :=
    List.mem_append_right _ List.mem_cons_self
  have hlimit : (b.name, Datum.int b.limit) ∈ m.evidence x :=
    List.mem_append_left _ (List.mem_map_of_mem hb)
  exact ⟨b, hb, m.find x, b.limit, h.get?_of_mem hfound, h.get?_of_mem hlimit, hbreaks⟩

/-- What a rule has to do: test for a broken bound, and write the evidence into its report. -/
theorem proves (h : m.Recordable x) {broken : Bool} {report : Violation}
    (hcheck : (m.rule.check x ctx).value = if broken then some report else none)
    (hbroken : broken = true ↔ m.Broken x)
    (hmetadata : report.metadata = .ofEntries (m.evidence x)) (hvalue : report.value.json.Scalar) :
    m.Proves x ctx := by
  have hreport : ∀ v, (m.rule.check x ctx).value = some v → m.Broken x ∧ v = report := by
    intro v hv
    rw [hcheck] at hv
    split_ifs at hv with hyes
    exact ⟨hbroken.1 hyes, (Option.some.inj hv).symm⟩
  have hall : report.All Scalar := by
    refine ⟨hvalue, fun e he => h.scalar e ?_⟩
    rw [hmetadata] at he
    exact h.perm.mem_iff.1 he
  refine ⟨⟨?_, ?_⟩, ?_, ?_, ?_⟩
  · rintro ⟨v, hv⟩
    exact (hreport v hv).1
  · intro hyes
    rw [hcheck, if_pos (hbroken.2 hyes)]
    exact ⟨report, rfl⟩
  · intro v hv
    rw [(hreport v hv).2]
    exact Violation.ofJsonText_of_scalar hall
  · intro v hv
    rw [(hreport v hv).2, hmetadata]
    exact h.perm
  · intro v hv
    rw [(hreport v hv).2, hmetadata]
    exact h.shownBroken (hreport v hv).1

end Recordable

section Texts

def length (least most : UInt64) : Measure String where
  rule := Rules.length least.toNat most.toNat
  bounds := [⟨.below, "min-length", least.toNat⟩, ⟨.above, "max-length", most.toNat⟩]
  label := "actual-length"
  find s := s.length
  others _ := []

def minLength (least : UInt64) : Measure String where
  rule := Rules.minLength least.toNat
  bounds := [⟨.below, "min", least.toNat⟩]
  label := "actual"
  find s := s.length
  others _ := []

def maxLength (most : UInt64) : Measure String where
  rule := Rules.maxLength most.toNat
  bounds := [⟨.above, "max", most.toNat⟩]
  label := "actual"
  find s := s.length
  others _ := []

def keyLength (most : UInt64) : Measure String :=
  { maxLength most with rule := Rules.keyLength most.toNat }

theorem proves_of_textRule {m : Measure String} {s : String} {name code : String}
    {accepts : String → Bool} {message : String → String} (h : m.Recordable s)
    (hrule : m.rule.check = (Rules.textRule name code accepts m.evidence message).check)
    (haccepts : accepts s = true ↔ ¬m.Broken s) : m.Proves s ctx := by
  have hcheck : (m.rule.check s ctx).value =
      if !accepts s then some (Rules.reject code (m.evidence s) (message s) s ctx.target)
      else none := by
    rw [hrule, Rules.value_check_textRule]
    cases accepts s <;> rfl
  refine h.proves hcheck ?_ ?_ ?_
  · rw [Bool.not_eq_true', ← Bool.not_eq_true, haccepts, not_not]
  · rw [Rules.reject_eq]
  · rw [Rules.reject_eq]
    exact .string s

variable {least most : UInt64} {s : String}

theorem length_proves (hs : s.length < UInt64.size) : (length least most).Proves s ctx := by
  refine proves_of_textRule ⟨?_, ?_, fitsWord_natCast hs, List.forall_mem_nil _⟩ rfl ?_
  · show ["min-length", "max-length", "actual-length"].Nodup
    decide
  · simp [length, fitsWord_natCast least.toNat_lt_size, fitsWord_natCast most.toNat_lt_size]
  · simp [Broken, length, Side.Breaks]

theorem minLength_proves (hs : s.length < UInt64.size) : (minLength least).Proves s ctx := by
  refine proves_of_textRule ⟨?_, ?_, fitsWord_natCast hs, List.forall_mem_nil _⟩ rfl ?_
  · show ["min", "actual"].Nodup
    decide
  · simp [minLength, fitsWord_natCast least.toNat_lt_size]
  · simp [Broken, minLength, Side.Breaks]

theorem maxLength_proves (hs : s.length < UInt64.size) : (maxLength most).Proves s ctx := by
  refine proves_of_textRule ⟨?_, ?_, fitsWord_natCast hs, List.forall_mem_nil _⟩ rfl ?_
  · show ["max", "actual"].Nodup
    decide
  · simp [maxLength, fitsWord_natCast most.toNat_lt_size]
  · simp [Broken, maxLength, Side.Breaks]

/-- Another name does not change what a rule does. -/
theorem Proves.keyLength (h : (maxLength most).Proves s ctx) : (keyLength most).Proves s ctx :=
  ⟨h.reported_iff, h.reads_back, h.records, h.shows⟩

end Texts

section Values

def valueSize (most : UInt64) : Measure Entry where
  rule := Rules.valueSize most.toNat
  bounds := [⟨.above, "max-size", most.toNat⟩]
  label := "actual-size"
  find e := e.value.size
  others e := [("key", .string e.key)]

theorem valueSize_proves {most : UInt64} {e : Entry} (he : e.value.size < UInt64.size) :
    (valueSize most).Proves e ctx := by
  have hrecordable : (valueSize most).Recordable e := by
    refine ⟨?_, ?_, fitsWord_natCast he, ?_⟩
    · show ["max-size", "actual-size", "key"].Nodup
      decide
    · simp [valueSize, fitsWord_natCast most.toNat_lt_size]
    · exact List.forall_mem_singleton.2 (.string e.key)
  refine hrecordable.proves (Rules.value_check_valueSize ..) ?_ rfl (.ofNat he)
  simp [Broken, valueSize, Side.Breaks]

end Values

section Numbers

variable {w : Width}

def range (least most : Whole w) : Measure (Whole w) where
  rule := Rules.range least most
  bounds := [⟨.below, "min", least.val⟩, ⟨.above, "max", most.val⟩]
  label := "actual"
  find n := n.val
  others _ := []

def atLeast (least : Whole w) : Measure (Whole w) where
  rule := Rules.atLeast least
  bounds := [⟨.below, "min", least.val⟩]
  label := "actual"
  find n := n.val
  others _ := []

def atMost (most : Whole w) : Measure (Whole w) where
  rule := Rules.atMost most
  bounds := [⟨.above, "max", most.val⟩]
  label := "actual"
  find n := n.val
  others _ := []

theorem least_ge (w : Width) : -9223372036854775808 ≤ w.least := by
  cases w with
  | signed bits => revert bits; decide
  | unsigned bits => revert bits; decide

theorem greatest_lt (w : Width) : w.greatest < 18446744073709551616 := by
  cases w with
  | signed bits => revert bits; decide
  | unsigned bits => revert bits; decide

/-- Whatever the width, 64 bits are enough, with a sign or without. -/
theorem fitsWord_val (n : Whole w) : fitsWord n.val = true := by
  have hlow : w.least ≤ n.val := n.least_le
  have hhigh : n.val ≤ w.greatest := n.le_greatest
  have hleast := least_ge w
  have hgreatest := greatest_lt w
  rw [fitsWord_iff]
  omega

variable {least most n : Whole w}

theorem range_proves : (range least most).Proves n ctx := by
  have hrecordable : (range least most).Recordable n := by
    refine ⟨?_, ?_, fitsWord_val n, List.forall_mem_nil _⟩
    · show ["min", "max", "actual"].Nodup
      decide
    · simp [range, fitsWord_val]
  refine hrecordable.proves (Rules.value_check_numberRule ..) ?_ rfl (.int (fitsWord_val n))
  simp [Broken, range, Side.Breaks, Number.below]

theorem atLeast_proves : (atLeast least).Proves n ctx := by
  have hrecordable : (atLeast least).Recordable n := by
    refine ⟨?_, ?_, fitsWord_val n, List.forall_mem_nil _⟩
    · show ["min", "actual"].Nodup
      decide
    · simp [atLeast, fitsWord_val]
  refine hrecordable.proves (Rules.value_check_numberRule ..) ?_ rfl (.int (fitsWord_val n))
  simp [Broken, atLeast, Side.Breaks, Number.below]

theorem atMost_proves : (atMost most).Proves n ctx := by
  have hrecordable : (atMost most).Recordable n := by
    refine ⟨?_, ?_, fitsWord_val n, List.forall_mem_nil _⟩
    · show ["max", "actual"].Nodup
      decide
    · simp [atMost, fitsWord_val]
  refine hrecordable.proves (Rules.value_check_numberRule ..) ?_ rfl (.int (fitsWord_val n))
  simp [Broken, atMost, Side.Breaks, Number.below]

end Numbers

/-- A violation of a length, a size or a number of any width carries the numbers that prove it, and
wherever they would there is one. Lengths and sizes are those of a machine of 64 bits. -/
theorem violations_carry_proof (ctx : Context) :
    (∀ (least most : UInt64) (s : String), s.length < UInt64.size →
      (length least most).Proves s ctx ∧ (minLength least).Proves s ctx ∧
        (maxLength most).Proves s ctx ∧ (keyLength most).Proves s ctx) ∧
    (∀ (most : UInt64) (e : Entry), e.value.size < UInt64.size → (valueSize most).Proves e ctx) ∧
    ∀ (w : Width) (least most n : Whole w),
      (range least most).Proves n ctx ∧ (atLeast least).Proves n ctx ∧
        (atMost most).Proves n ctx := by
  refine ⟨fun least most s hs => ?_, fun most e he => valueSize_proves he, fun w least most n => ?_⟩
  · exact ⟨length_proves hs, minLength_proves hs, maxLength_proves hs,
      (maxLength_proves hs).keyLength⟩
  · exact ⟨range_proves, atLeast_proves, atMost_proves⟩

/-- The greatest bounds and the least number of 64 bits, with a sign and without. -/
theorem violations_carry_proof_extremes :
    let most : UInt64 := 18446744073709551615
    let bytes : ByteArray := ⟨#[0]⟩
    let least : Whole (.signed 3) := ⟨-9223372036854775808, by decide, by decide⟩
    let greatest : Whole (.signed 3) := ⟨9223372036854775807, by decide, by decide⟩
    ("".length < UInt64.size ∧ (length most most).Proves "" default ∧
      (length most most).Broken "") ∧
    (bytes.size < UInt64.size ∧ (valueSize 0).Proves ⟨"k", bytes⟩ default ∧
      (valueSize 0).Broken ⟨"k", bytes⟩) ∧
    ∃ v, ((range greatest greatest).rule.check least default).value = some v ∧
      Violation.ofJsonText v.toJsonText = .ok v ∧
      v.metadata.entries.Perm [("min", .int 9223372036854775807),
        ("max", .int 9223372036854775807), ("actual", .int (-9223372036854775808))] := by
  intro most bytes least greatest
  obtain ⟨htexts, hvalues, hnumbers⟩ := violations_carry_proof default
  have hrange : (range greatest greatest).Proves least default :=
    (hnumbers _ greatest greatest least).1
  have hbroken : (range greatest greatest).Broken least := by decide
  obtain ⟨v, hv⟩ := hrange.reported_iff.2 hbroken
  exact ⟨⟨by decide, (htexts most most "" (by decide)).1, by decide⟩,
    ⟨by decide, hvalues 0 ⟨"k", bytes⟩ (by decide), by decide⟩, v, hv, hrange.reads_back v hv,
    hrange.records v hv⟩

end Measure

end StoreGuard
