import StoreGuard.Rule
import StoreGuard.Text.Utf8

namespace StoreGuard

/-- A value together with the key it is stored under. -/
structure Entry where
  key : String
  value : ByteArray

namespace Rules

def standardValueSize : Nat := 100 * 1024 * 1024

def tooLargeCode : String := "value-too-large"

/-- At most `most` bytes; a larger value is echoed as its size. -/
def valueSize (most : Nat) : Rule Entry :=
  Rule.ofCheck fun e ctx => pure <|
    if e.value.size ≤ most then none
    else some <|
      ((Violation.labelled ctx.target (.ofNat e.value.size)
        ("value too large: maximum " ++ toString most ++ " bytes, got " ++ toString e.value.size)
      ).withCode tooLargeCode).withEntries
        [("max-size", .ofNat most), ("actual-size", .ofNat e.value.size), ("key", .string e.key)]

/-- The bytes that the caller's test accepts; others are echoed as text. -/
def valueContent (accepts : ByteArray → Bool) (message : String) : Rule Entry :=
  Rule.ofCheck fun e ctx => pure <|
    if accepts e.value then none
    else some <|
      ((Violation.labelled ctx.target (.string (Text.lossy e.value))
        ("value validation failed: " ++ message)).withCode "value-content-invalid").withEntries
        [("key", .string e.key)]

def standardValueRules : List (Rule Entry) := [valueSize standardValueSize]

end Rules

end StoreGuard
