import StoreGuard.Pattern.Parser
import StoreGuard.Pattern.Search
import StoreGuard.Rule

namespace StoreGuard.Rules

open Text

def reject (code : String) (evidence : List (String × Datum)) (message : String) (value : String)
    (target : String) : Violation :=
  ((Violation.labelled target (.string value) message).withCode code).withEntries evidence

/-- A rule that accepts the texts for which `accepts` holds. -/
def textRule (name code : String) (accepts : String → Bool)
    (evidence : String → List (String × Datum)) (message : String → String) : Rule String :=
  Rule.ofTest name fun value =>
    if accepts value then none else some (reject code (evidence value) (message value) value)

/-- Some character is not blank. -/
def notEmpty : Rule String :=
  textRule "not-empty" "not-empty" (fun s => !(trim s.toList).isEmpty) (fun _ => [])
    fun _ => "must not be empty"

def length (least most : Nat) : Rule String :=
  textRule "length" "length-range" (fun s => least ≤ s.length && s.length ≤ most)
    (fun s => [("min-length", .ofNat least), ("max-length", .ofNat most),
      ("actual-length", .ofNat s.length)])
    fun s => "must be between " ++ toString least ++ " and " ++ toString most ++
      " characters, got " ++ toString s.length

def minLength (least : Nat) : Rule String :=
  textRule "min-length" "min-length" (fun s => least ≤ s.length)
    (fun s => [("min", .ofNat least), ("actual", .ofNat s.length)])
    fun s => "must be at least " ++ toString least ++ " characters, got " ++ toString s.length

def maxLength (most : Nat) : Rule String :=
  textRule "max-length" "max-length" (fun s => s.length ≤ most)
    (fun s => [("max", .ofNat most), ("actual", .ofNat s.length)])
    fun s => "must be at most " ++ toString most ++ " characters, got " ++ toString s.length

/-- Some part of the text matches the expression that `source` denotes. -/
def matching (source : String) (regex : Pattern.Regex) : Rule String :=
  textRule "pattern" "pattern-mismatch" (fun s => regex.occurs s.toList)
    (fun _ => [("pattern", .string source)]) fun _ => "does not match required pattern"

def pattern (source : String) : Except Pattern.PatternError (Rule String) :=
  (Pattern.parse source).map (matching source)

/-- The expression of a pattern; one that cannot be read matches nothing. -/
def regexOf (source : String) : Pattern.Regex :=
  match Pattern.parse source with
  | .ok r => r
  | .error _ => .chars []

def emailPattern : String := "^[a-zA-Z0-9._%+-]+@[a-zA-Z0-9.-]+\\.[a-zA-Z]\x7b2,\x7d$"

def urlPattern : String := "^https?://[^\\s/$.?#].[^\\s]*$"

def email : Rule String := (matching emailPattern (regexOf emailPattern)).withName "email"

def url : Rule String := (matching urlPattern (regexOf urlPattern)).withName "url"

def oneOf (allowed : List String) : Rule String :=
  textRule "one-of" "not-one-of" (fun s => allowed.contains s)
    (fun _ => [("allowed-values", .array (allowed.map .string))])
    fun _ => "must be one of " ++ ", ".intercalate allowed

def noWhitespace : Rule String :=
  textRule "no-whitespace" "contains-whitespace" (fun s => !s.toList.any isBlank) (fun _ => [])
    fun _ => "cannot contain whitespace"

def alpha : Rule String :=
  textRule "alpha" "not-alpha" (fun s => s.toList.all isLetter) (fun _ => [])
    fun _ => "must contain only alphabetic characters"

def alphanumeric : Rule String :=
  textRule "alphanumeric" "not-alphanumeric" (fun s => s.toList.all isAlphanumeric) (fun _ => [])
    fun _ => "must contain only alphanumeric characters"

/-- The texts that the caller's test accepts, with the caller's message for the others. -/
def custom (accepts : String → Bool) (message : String) : Rule String :=
  textRule "custom" "custom-validation-failed" accepts (fun _ => []) fun _ => message

def standardKeyLength : Nat := 1024

def nonEmptyKey : Rule String := notEmpty.withName "non-empty-key"

def keyLength (most : Nat) : Rule String := (maxLength most).withName "key-length"

def keyPattern (source : String) : Except Pattern.PatternError (Rule String) :=
  (pattern source).map fun r => r.withName "key-pattern"

def standardKeyRules : List (Rule String) := [nonEmptyKey, keyLength standardKeyLength]

end StoreGuard.Rules
