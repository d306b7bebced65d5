import StoreGuard.Json.Decode

namespace StoreGuard

/-- What a rule is told beside the value: the field's name and further entries. -/
structure Context where
  target : String
  metadata : Metadata

namespace Context

def ofTarget (target : String) : Context := ⟨target, .empty⟩

instance : Inhabited Context := ⟨ofTarget ""⟩

/-- The context with one more entry, in place of the one under the same key. -/
def withMetadata (c : Context) (key : String) (value : Datum) : Context :=
  { c with metadata := c.metadata.insert key value }

def get? (c : Context) (key : String) : Option Datum := c.metadata.get? key

def toJson (c : Context) : Json :=
  .object [("target", .string c.target), ("metadata", (Datum.object c.metadata).json)]

def same (a b : Context) : Bool :=
  a.target = b.target && (Datum.object a.metadata).same (.object b.metadata)

structure Draft where
  target : Option String
  metadata : Option Metadata

open Json in
def record : Record Draft where
  name := "struct Context"
  closed := false
  fields := [
    .of "target" true Draft.target (fun _ => Node.text) fun d s => { d with target := some s },
    .of "metadata" false Draft.metadata Node.metadata fun d m => { d with metadata := some m }]

def Draft.build (d : Draft) : Context := ⟨d.target.getD "", d.metadata.getD .empty⟩

def ofJsonText (s : String) : Json.Reading Context :=
  Json.readText (fun v => (record.read Json.depthLimit ⟨none, none⟩ v).map Draft.build) s

end Context

end StoreGuard
