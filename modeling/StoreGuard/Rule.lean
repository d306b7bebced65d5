import StoreGuard.Context
import StoreGuard.Violation
import StoreGuard.Text.Quoted

namespace StoreGuard

/-- A value, and the marks of the checks that ran on the way to it, in order. -/
structure Traced (α : Type) where
  value : α
  marks : List String
deriving Repr

namespace Traced

def mark (m : String) : Traced Unit := ⟨(), [m]⟩

instance : Monad Traced where
  pure a := ⟨a, []⟩
  bind x f := ⟨(f x.value).value, x.marks ++ (f x.value).marks⟩

variable {α β : Type}

@[simp] theorem value_pure (a : α) : (pure a : Traced α).value = a := rfl

@[simp] theorem marks_pure (a : α) : (pure a : Traced α).marks = [] := rfl

@[simp] theorem value_bind (x : Traced α) (f : α → Traced β) :
    (x >>= f).value = (f x.value).value := rfl

@[simp] theorem marks_bind (x : Traced α) (f : α → Traced β) :
    (x >>= f).marks = x.marks ++ (f x.value).marks := rfl

end Traced

abbrev Finding := Traced (Option Violation)

/-- A check that may have a name. -/
structure Rule (α : Type) where
  label : Option String
  check : α → Context → Finding

namespace Rule

variable {α : Type}

def ofCheck (check : α → Context → Finding) : Rule α := ⟨none, check⟩

/-- A named rule that looks at the value alone and reports what it finds under the target. -/
def ofTest (name : String) (test : α → Option (String → Violation)) : Rule α :=
  ⟨some name, fun value ctx => pure ((test value).map (· ctx.target))⟩

def withName (r : Rule α) (name : String) : Rule α := { r with label := some name }

def unnamed : String := "unnamed-validator"

def name (r : Rule α) : String := r.label.getD unnamed

def describe (r : Rule α) : String := "Validator \x7b name: " ++ Text.quoted r.name ++ ", .. \x7d"

end Rule

/-- A rule that is run only where its condition holds, and passes everything else. -/
structure Conditional (α : Type) where
  condition : α → Context → Bool
  rule : Rule α

namespace Conditional

variable {α : Type}

def check (c : Conditional α) (value : α) (ctx : Context) : Finding :=
  if c.condition value ctx then c.rule.check value ctx else pure none

def withName (c : Conditional α) (name : String) : Conditional α :=
  { c with rule := c.rule.withName name }

def name (c : Conditional α) : String := c.rule.name

def toRule (c : Conditional α) : Rule α := (Rule.ofCheck c.check).withName c.name

def describe (c : Conditional α) : String :=
  "ConditionalValidator \x7b validator: " ++ c.rule.describe ++ ", .. \x7d"

end Conditional

end StoreGuard
