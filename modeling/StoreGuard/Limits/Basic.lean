import StoreGuard.Store.Guard

namespace StoreGuard

/-- The limits of a store; without a pattern only length and size count. -/
structure Limits where
  maxKeyLength : UInt64
  maxValueSize : UInt64
  keyPattern : Option String
  validateScanPrefix : Bool
deriving DecidableEq, Repr

namespace Limits

def standard : Limits :=
  ⟨.ofNat Rules.standardKeyLength, .ofNat Rules.standardValueSize, none, false⟩

instance : Inhabited Limits := ⟨standard⟩

def toJson (l : Limits) : Json :=
  .object [
    ("max_key_length", .ofNat l.maxKeyLength.toNat),
    ("max_value_size", .ofNat l.maxValueSize.toNat),
    ("key_pattern", l.keyPattern.elim .null .string),
    ("validate_scan_prefix", .bool l.validateScanPrefix)]

def toJsonText (l : Limits) : String := l.toJson.render

/-- A limit of zero would let nothing be stored. -/
def fault? (l : Limits) : Option ConfigFault :=
  if l.maxKeyLength = 0 then some .zeroKeyLength
  else if l.maxValueSize = 0 then some .zeroValueSize
  else none

def patternRules (l : Limits) : Except Failure (List (Rule String)) :=
  match l.keyPattern with
  | none => .ok []
  | some source =>
    match Rules.keyPattern source with
    | .ok rule => .ok [rule]
    | .error e => .error (.badPattern source e)

def keyGuard (l : Limits) : Except Failure KeyGuard :=
  l.patternRules.map fun rules =>
    .ofRules ([Rules.nonEmptyKey, Rules.keyLength l.maxKeyLength.toNat] ++ rules)

def valueGuard (l : Limits) : ValueGuard := .ofRules [Rules.valueSize l.maxValueSize.toNat]

/-- Scan prefixes are at most as long as keys; they may be empty and need not match the pattern. -/
def prefixGuard (l : Limits) : Option KeyGuard :=
  if l.validateScanPrefix then
    some <| (KeyGuard.ofRules
      [(Rules.maxLength l.maxKeyLength.toNat).withName "prefix-length"]
    ).withTarget KeyGuard.prefixTarget
  else none

def guard (l : Limits) : Except Failure Guard :=
  l.keyGuard.map fun keys => ⟨keys, l.valueGuard, l.prefixGuard⟩

def checkKey (l : Limits) (key : String) : Except Failure Verdict :=
  l.keyGuard.map fun keys => (keys.checkAll key).value

/-- All violations of an entry, those of the key before those of the value. -/
def checkEntry (l : Limits) (e : Entry) : Except Failure Verdict :=
  (l.checkKey e.key).map fun verdict => verdict ++ (l.valueGuard.checkAll e).value

end Limits

end StoreGuard
