import StoreGuard.Rule
import StoreGuard.Verdict

namespace StoreGuard

def firstViolation {α : Type} (value : α) (ctx : Context) : List (Rule α) → Finding
  | [] => pure none
  | r :: rs => do
    match ← r.check value ctx with
    | some v => pure (some v)
    | none => firstViolation value ctx rs

def allViolations {α : Type} (value : α) (ctx : Context) : List (Rule α) → Traced (List Violation)
  | [] => pure []
  | r :: rs => do
    let found ← r.check value ctx
    let rest ← allViolations value ctx rs
    pure (found.toList ++ rest)

/-- Rules in the order in which they were added. -/
structure Chain (α : Type) where
  rules : List (Rule α)

namespace Chain

variable {α : Type}

def empty : Chain α := ⟨[]⟩

def ofRules (rules : List (Rule α)) : Chain α := ⟨rules⟩

def add (c : Chain α) (r : Rule α) : Chain α := ⟨c.rules ++ [r]⟩

def extend (c : Chain α) (rs : List (Rule α)) : Chain α := ⟨c.rules ++ rs⟩

def size (c : Chain α) : Nat := c.rules.length

def isEmpty (c : Chain α) : Bool := c.rules.isEmpty

def names (c : Chain α) : List String := c.rules.map Rule.name

def describe (c : Chain α) : String := Text.quotedList c.names

def validate (c : Chain α) (value : α) (ctx : Context) : Traced Verdict := do
  pure ⟨← allViolations value ctx c.rules⟩

/-- The first violation; no rule after it is run. -/
def validateFirst (c : Chain α) (value : α) (ctx : Context) : Finding :=
  firstViolation value ctx c.rules

end Chain

end StoreGuard
