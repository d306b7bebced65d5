import StoreGuard.Violation

namespace StoreGuard

/-- No violation, or several in the order they were reported. -/
structure Verdict where
  violations : List Violation

namespace Verdict

def empty : Verdict := ⟨[]⟩

instance : Inhabited Verdict := ⟨empty⟩

def ofViolation (v : Violation) : Verdict := ⟨[v]⟩

def add (r : Verdict) (v : Violation) : Verdict := ⟨r.violations ++ [v]⟩

def append (a b : Verdict) : Verdict := ⟨a.violations ++ b.violations⟩

instance : Append Verdict := ⟨append⟩

def size (r : Verdict) : Nat := r.violations.length

def isEmpty (r : Verdict) : Bool := r.violations.isEmpty

def hasViolations (r : Verdict) : Bool := !r.isEmpty

def first? (r : Verdict) : Option Violation := r.violations.head?

def same (a b : Verdict) : Bool :=
  a.size = b.size && (a.violations.zip b.violations).all fun p => p.1.same p.2

def describe (r : Verdict) : String :=
  if r.isEmpty then "validation failed" else "; ".intercalate (r.violations.map Violation.describe)

def toJson (r : Verdict) : Json := .object [("errors", .array (r.violations.map Violation.toJson))]

def toJsonText (r : Verdict) : String := r.toJson.render

def readItems (depth : Nat) : List Json.Node → Json.Reading (List Violation)
  | [] => .ok []
  | v :: vs => do
    let first ← Violation.read depth v
    let rest ← readItems depth vs
    return first :: rest

def readList (depth : Nat) : Json.Node → Json.Reading (List Violation)
  | .array vs f => do
    let depth ← Json.enter depth
    let items ← readItems depth vs
    Json.finish f
    return items
  | v => v.refuse "a sequence"

open Json in
def record : Record (Option (List Violation)) where
  name := "struct ValidationResult"
  closed := false
  fields := [.of "errors" true id readList fun _ l => some l]

def ofJsonText (s : String) : Json.Reading Verdict :=
  Json.readText (fun v => (record.read Json.depthLimit none v).map fun l => ⟨l.getD []⟩) s

end Verdict

end StoreGuard
