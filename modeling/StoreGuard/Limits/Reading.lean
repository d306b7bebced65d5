import StoreGuard.Limits.Basic
import StoreGuard.Toml.Document

namespace StoreGuard

inductive FileFault where
  | missing
  | notText
  | other (text : String)
deriving DecidableEq, Repr

def FileFault.message : FileFault → String
  | missing => "No such file or directory (os error 2)"
  | notText => "stream did not contain valid UTF-8"
  | other text => text

abbrev FileContents := Except FileFault ByteArray

namespace Limits

structure Draft where
  maxKeyLength : Option UInt64
  maxValueSize : Option UInt64
  keyPattern : Option (Option String)
  validateScanPrefix : Option Bool

def Draft.blank : Draft := ⟨none, none, none, none⟩

def Draft.build (d : Draft) : Limits where
  maxKeyLength := d.maxKeyLength.getD standard.maxKeyLength
  maxValueSize := d.maxValueSize.getD standard.maxValueSize
  keyPattern := d.keyPattern.getD standard.keyPattern
  validateScanPrefix := d.validateScanPrefix.getD standard.validateScanPrefix

/-- A whole number of 64 bits without a sign. -/
def limitOf : Found → Except Mismatch UInt64
  | .whole n =>
    if 0 ≤ n && fitsWord n then .ok (.ofNat n.toNat) else .error (.value (.whole n) "usize")
  | f => .error (.type f "usize")

/-- A text, or null for none. -/
def patternOf : Found → Except Mismatch (Option String)
  | .unit => .ok none
  | .string s => .ok (some s)
  | f => .error (.type f "a string")

def flagOf : Found → Except Mismatch Bool
  | .bool b => .ok b
  | f => .error (.type f "a boolean")

/-- A field: its name, whether it was given, and how what is found there is taken. -/
structure Slot where
  name : String
  isSet : Draft → Bool
  put : Found → Draft → Except Mismatch Draft

def slots : List Slot := [
  ⟨"max_key_length", fun d => d.maxKeyLength.isSome, fun f d => do
    return { d with maxKeyLength := some (← limitOf f) }⟩,
  ⟨"max_value_size", fun d => d.maxValueSize.isSome, fun f d => do
    return { d with maxValueSize := some (← limitOf f) }⟩,
  ⟨"key_pattern", fun d => d.keyPattern.isSome, fun f d => do
    return { d with keyPattern := some (← patternOf f) }⟩,
  ⟨"validate_scan_prefix", fun d => d.validateScanPrefix.isSome, fun f d => do
    return { d with validateScanPrefix := some (← flagOf f) }⟩]

def recordName : String := "struct ValidationConfig"

def takeMembers (d : Draft) : List (String × Found) → Except Mismatch Draft
  | [] => .ok d
  | (name, f) :: rest =>
    match slots.find? fun s => s.name = name with
    | none => .error (.unknown name (slots.map Slot.name))
    | some s => do
      let d ← s.put f d
      takeMembers d rest

def takeItems (d : Draft) : List Slot → List Found → Except Mismatch Draft
  | s :: ss, f :: fs => do
    let d ← s.put f d
    takeItems d ss fs
  | _, _ => .ok d

/-- The limits that a value gives, as an object or as an array of the fields. -/
def ofJson (d : Datum) : Except Mismatch Limits :=
  match d.json with
  | .object members =>
    (takeMembers .blank (members.map fun m => (m.1, m.2.found))).map Draft.build
  | .array items => do
    let d ← takeItems .blank slots (items.map Json.found)
    if slots.length < items.length then
      .error (.length items.length "fewer elements in array")
    else return d.build
  | j => .error (.type j.found recordName)

open Json in
/-- A field that is not given keeps its standard value, and no other field may be given. -/
def record : Record Draft where
  name := recordName
  closed := true
  fields := slots.map fun s => ⟨s.name, false, s.isSet, fun _ v d => do
    match s.put (← v.found) d with
    | .ok d => return d
    | .error m => mismatch m⟩

def ofJsonText (s : String) : Json.Reading Limits :=
  Json.readText (fun v => (record.read Json.depthLimit .blank v).map Draft.build) s

/-- The limits of a TOML document, none of which may be zero. -/
def ofToml (text : String) : Except Failure Limits :=
  match Toml.document text with
  | none => .error (.config .notToml)
  | some members =>
    match takeMembers .blank members with
    | .error m => .error (.config (.shape m))
    | .ok d =>
      match d.build.fault? with
      | some fault => .error (.config fault)
      | none => .ok d.build

def ofFile (path : String) (contents : FileContents) : Except Failure Limits :=
  match contents with
  | .error fault => .error (.unreadable path fault.message)
  | .ok bytes =>
    match String.fromUTF8? bytes with
    | none => .error (.unreadable path FileFault.notText.message)
    | some text => ofToml text

end Limits

end StoreGuard
