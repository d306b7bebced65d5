import StoreGuard.Json.Decode

namespace StoreGuard

/-- One failed rule: kind, code, evidence, message if there is one, field and rejected value. -/
structure Violation where
  kind : String
  code : String
  metadata : Metadata
  message : Option String
  target : String
  value : Datum

namespace Violation

def standardKind : String := "validation"

def standardCode : String := "validation-failed"

def unlabelled (target : String) (value : Datum) : Violation :=
  ⟨standardKind, standardCode, .empty, none, target, value⟩

def labelled (target : String) (value : Datum) (message : String) : Violation :=
  { unlabelled target value with message := some message }

instance : Inhabited Violation := ⟨unlabelled "" .null⟩

def withCode (v : Violation) (code : String) : Violation := { v with code }

/-- The violation with one more piece of evidence, in place of the one under the same key. -/
def withMetadata (v : Violation) (key : String) (value : Datum) : Violation :=
  { v with metadata := v.metadata.insert key value }

def withEntries (v : Violation) (entries : List (String × Datum)) : Violation :=
  entries.foldl (fun v e => v.withMetadata e.1 e.2) v

theorem withEntries_eq (v : Violation) (entries : List (String × Datum)) :
    v.withEntries entries =
      { v with metadata := entries.foldl (fun d e => d.insert e.1 e.2) v.metadata } := by
  induction entries generalizing v with
  | nil => rfl
  | cons e rest ih =>
    rw [withEntries, List.foldl_cons, ← withEntries, ih]
    rfl

def same (a b : Violation) : Bool :=
  a.kind = b.kind && a.code = b.code && (Datum.object a.metadata).same (.object b.metadata) &&
    a.message = b.message && a.target = b.target && a.value.same b.value

/-- The JSON form; an empty code, empty metadata and a missing message are left out. -/
def toJson (v : Violation) : Json :=
  .object <|
    [("type", Json.string v.kind)] ++
    (if v.code.isEmpty then [] else [("code", .string v.code)]) ++
    (if v.metadata.isEmpty then [] else [("metadata", (Datum.object v.metadata).json)]) ++
    (v.message.toList.map fun m => ("message", .string m)) ++
    [("target", .string v.target), ("value", v.value.json)]

def toJsonText (v : Violation) : String := v.toJson.render

def valueText (value : Datum) : String :=
  match value.json with
  | .string s => s
  | j => j.render

/-- The text for people: the message after the field, or else the rejected value. -/
def describe (v : Violation) : String :=
  match v.message with
  | some m => v.target ++ ": " ++ (if m.isEmpty then fallback else m)
  | none => v.target ++ ": " ++ fallback
where
  fallback : String := "validation failed for \"" ++ valueText v.value ++ "\""

structure Draft where
  kind : Option String
  code : Option String
  metadata : Option Metadata
  message : Option (Option String)
  target : Option String
  value : Option Datum

def Draft.blank : Draft := ⟨none, none, none, none, none, none⟩

open Json in
def record : Record Draft where
  name := "struct ValidationError"
  closed := false
  fields := [
    .of "type" true Draft.kind (fun _ => Node.text) fun d s => { d with kind := some s },
    .of "code" false Draft.code (fun _ => Node.text) fun d s => { d with code := some s },
    .of "metadata" false Draft.metadata Node.metadata fun d m => { d with metadata := some m },
    .of "message" false Draft.message (fun _ => Node.text?) fun d m => { d with message := some m },
    .of "target" true Draft.target (fun _ => Node.text) fun d s => { d with target := some s },
    .of "value" false Draft.value Node.datum fun d j => { d with value := some j }]

def Draft.build (d : Draft) : Violation where
  kind := d.kind.getD ""
  code := d.code.getD ""
  metadata := d.metadata.getD .empty
  message := d.message.getD none
  target := d.target.getD ""
  value := d.value.getD .null

/-- Reads a violation inside `depthLimit - depth` arrays and objects. -/
def read (depth : Nat) (v : Json.Node) : Json.Reading Violation :=
  (record.read depth .blank v).map Draft.build

def ofJsonText (s : String) : Json.Reading Violation := Json.readText (read Json.depthLimit) s

end Violation

end StoreGuard
