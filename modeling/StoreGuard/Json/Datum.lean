import StoreGuard.Dictionary
import StoreGuard.Json.Printer

namespace StoreGuard

/-- The members of every object in the value stand in increasing order of their names. -/
inductive Json.WellFormed : Json → Prop where
  | null : WellFormed .null
  | bool (b : Bool) : WellFormed (.bool b)
  | int (n : Int) : WellFormed (.int n)
  | float (x : Floating) : WellFormed (.float x)
  | string (s : String) : WellFormed (.string s)
  | array {vs : List Json} (h : ∀ v ∈ vs, WellFormed v) : WellFormed (.array vs)
  | object {ms : List (String × Json)} (hordered : Ordered ms) (h : ∀ m ∈ ms, WellFormed m.2) :
    WellFormed (.object ms)

/-- A JSON value that is kept: in its objects each name stands once, and in order. -/
structure Datum where
  json : Json
  wellFormed : json.WellFormed

abbrev Metadata := Dictionary Datum

namespace Datum

def null : Datum := ⟨.null, .null⟩

instance : Inhabited Datum := ⟨null⟩

def bool (b : Bool) : Datum := ⟨.bool b, .bool b⟩

def int (n : Int) : Datum := ⟨.int n, .int n⟩

def ofNat (n : Nat) : Datum := int n

def float (x : Floating) : Datum := ⟨.float x, .float x⟩

/-- A number of double width; what is no number is written as null. -/
def ofFloating (x : Floating) : Datum := if x.isFinite then float x else null

def string (s : String) : Datum := ⟨.string s, .string s⟩

def array (items : List Datum) : Datum :=
  ⟨.array (items.map json), .array (List.forall_mem_map.2 fun d _ => d.wellFormed)⟩

def object (members : Metadata) : Datum where
  json := .object (members.entries.map fun m => (m.1, m.2.json))
  wellFormed := by
    refine .object (members.ordered.map _ fun _ _ h => h) ?_
    exact List.forall_mem_map.2 fun m _ => m.2.wellFormed

@[simp] theorem int_inj {m n : Int} : int m = int n ↔ m = n := by
  simp [int]

theorem ext {a b : Datum} (h : a.json = b.json) : a = b := by
  cases a; cases b; cases h; rfl

def same (a b : Datum) : Bool := a.json.same b.json

def render (d : Datum) : String := d.json.render

end Datum

namespace Json

mutual

/-- A value as it is kept: of several members under one name the last one stays. -/
def kept : Json → Datum
  | null => .null
  | bool b => .bool b
  | int n => .int n
  | float x => .float x
  | string s => .string s
  | array items => .array (keptItems items)
  | object members => .object (.ofEntries (keptMembers members))

def keptItems : List Json → List Datum
  | [] => []
  | v :: vs => kept v :: keptItems vs

def keptMembers : List (String × Json) → List (String × Datum)
  | [] => []
  | (k, v) :: ms => (k, kept v) :: keptMembers ms

end

instance : Coe Json Datum := ⟨kept⟩

end Json

end StoreGuard
