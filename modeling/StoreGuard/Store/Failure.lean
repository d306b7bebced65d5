import StoreGuard.Json.Mismatch
import StoreGuard.Pattern.Parser
import StoreGuard.Rules.Stored
import StoreGuard.Violation

namespace StoreGuard

inductive ConfigFault where
  | other (text : String)
  | notToml
  | shape (m : Mismatch)
  | zeroKeyLength
  | zeroValueSize

def ConfigFault.message : ConfigFault → String
  | other text => text
  | notToml => "not a TOML document"
  | shape m => m.message Wording.plain
  | zeroKeyLength => "max_key_length must be at least 1"
  | zeroValueSize => "max_value_size must be at least 1"

inductive Failure where
  | violation (v : Violation)
  | emptyKey
  | closed
  | io (text : String)
  | unreadable (path reason : String)
  | config (fault : ConfigFault)
  | badPattern (pattern : String) (error : Pattern.PatternError)

namespace Failure

def patternIntroduction (pattern : String) : String :=
  "Invalid pattern " ++ Text.quoted pattern ++ ": "

def message : Failure → String
  | violation v => v.describe
  | emptyKey => "key cannot be empty"
  | closed => "store is closed"
  | io text => "I/O error: " ++ text
  | unreadable path reason => "Failed to read config file " ++ path ++ ": " ++ reason
  | config fault => "Invalid configuration: " ++ fault.message
  | badPattern pattern error => patternIntroduction pattern ++ error.message

def violation? : Failure → Option Violation
  | violation v => some v
  | _ => none

def isViolation (f : Failure) : Bool := f.violation?.isSome

end Failure

inductive Status where
  | ok
  | invalidArgument
  | notFound
  | resourceExhausted
  | unavailable
  | internal
deriving DecidableEq, Repr

def Status.name : Status → String
  | ok => "ok"
  | invalidArgument => "invalid-argument"
  | notFound => "not-found"
  | resourceExhausted => "resource-exhausted"
  | unavailable => "unavailable"
  | internal => "internal"

/-- The caller is at fault for violations, the store for the rest. -/
def Failure.status : Failure → Status
  | violation v => if v.code = Rules.tooLargeCode then .resourceExhausted else .invalidArgument
  | emptyKey => .invalidArgument
  | closed => .unavailable
  | io _ => .internal
  | unreadable .. => .internal
  | config _ => .internal
  | badPattern .. => .internal

end StoreGuard
