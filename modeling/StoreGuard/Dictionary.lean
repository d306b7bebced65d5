namespace StoreGuard

def Ordered {α : Type} (l : List (String × α)) : Prop := l.Pairwise fun a b => a.1 < b.1

/-- Puts an entry in its place, instead of the one under the same key if there is one. -/
def insertEntry {α : Type} (key : String) (value : α) : List (String × α) → List (String × α)
  | [] => [(key, value)]
  | e :: rest =>
    if key < e.1 then (key, value) :: e :: rest
    else if key = e.1 then (key, value) :: rest
    else e :: insertEntry key value rest

theorem mem_insertEntry {α : Type} {key : String} {value : α} {x : String × α}
    {l : List (String × α)} (h : x ∈ insertEntry key value l) : x = (key, value) ∨ x ∈ l := by
  induction l with
  | nil => simpa [insertEntry] using h
  | cons e rest ih =>
    rw [insertEntry] at h
    split at h
    · simpa using h
    · split at h
      · exact (List.mem_cons.1 h).imp id (List.mem_cons_of_mem e)
      · rcases List.mem_cons.1 h with rfl | h
        · exact Or.inr (List.mem_cons_self)
        · exact (ih h).imp id (List.mem_cons_of_mem e)

theorem ordered_insertEntry {α : Type} (key : String) (value : α) {l : List (String × α)}
    (h : Ordered l) : Ordered (insertEntry key value l) := by
  induction l with
  | nil => exact List.pairwise_singleton ..
  | cons e rest ih =>
    have ⟨first, later⟩ := List.pairwise_cons.1 h
    rw [insertEntry]
    split
    case isTrue lt =>
      refine List.pairwise_cons.2 ⟨fun x hx => ?_, h⟩
      rcases List.mem_cons.1 hx with rfl | hx
      · exact lt
      · exact String.lt_trans lt (first x hx)
    case isFalse nlt =>
      split
      case isTrue eq => exact List.pairwise_cons.2 ⟨fun x hx => eq ▸ first x hx, later⟩
      case isFalse ne =>
        refine List.pairwise_cons.2 ⟨fun x hx => ?_, ih later⟩
        rcases mem_insertEntry hx with rfl | hx
        · exact Decidable.byContradiction fun ngt =>
            ne (String.le_antisymm (String.not_lt.1 ngt) (String.not_lt.1 nlt))
        · exact first x hx

/-- Values under text keys. -/
structure Dictionary (α : Type) where
  entries : List (String × α)
  ordered : Ordered entries

namespace Dictionary

variable {α : Type}

def empty : Dictionary α := ⟨[], List.Pairwise.nil⟩

instance : Inhabited (Dictionary α) := ⟨empty⟩

def insert (d : Dictionary α) (key : String) (value : α) : Dictionary α :=
  ⟨insertEntry key value d.entries, ordered_insertEntry key value d.ordered⟩

def erase (d : Dictionary α) (key : String) : Dictionary α :=
  ⟨d.entries.filter fun e => e.1 ≠ key, d.ordered.filter _⟩

def filterKeys (d : Dictionary α) (keep : String → Bool) : Dictionary α :=
  ⟨d.entries.filter fun e => keep e.1, d.ordered.filter _⟩

def get? (d : Dictionary α) (key : String) : Option α := d.entries.lookup key

def size (d : Dictionary α) : Nat := d.entries.length

def isEmpty (d : Dictionary α) : Bool := d.entries.isEmpty

/-- Writes the entries one after the other, so that the last one under a key stays. -/
def ofEntries (l : List (String × α)) : Dictionary α := l.foldl (fun d e => d.insert e.1 e.2) empty

theorem ext {a b : Dictionary α} (h : a.entries = b.entries) : a = b := by
  cases a; cases b; cases h; rfl

end Dictionary

end StoreGuard
