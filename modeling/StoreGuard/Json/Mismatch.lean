import StoreGuard.Json.Basic
import StoreGuard.Text.Quoted

namespace StoreGuard

/-- What stands where something else was expected. -/
inductive Found where
  | unit
  | bool (b : Bool)
  | whole (n : Int)
  | float (x : Floating)
  | string (s : String)
  | sequence
  | map
deriving DecidableEq, Repr

structure Wording where
  unit : String
  float : Floating → String

/-- Numbers in the wording of shape errors have a point. -/
def pointedText (x : Floating) : String :=
  let s := Floating.render .double Floating.messageLayout x
  if x.isFinite && !s.toList.contains '.' then s ++ ".0" else s

def Wording.json : Wording := ⟨"null", Floating.render .double Floating.jsonLayout⟩

def Wording.plain : Wording := ⟨"unit value", pointedText⟩

def Found.describe (w : Wording) : Found → String
  | .unit => w.unit
  | .bool b => "boolean `" ++ (if b then "true" else "false") ++ "`"
  | .whole n => "integer `" ++ toString n ++ "`"
  | .float x => "floating point `" ++ w.float x ++ "`"
  | .string s => "string " ++ Text.quoted s
  | .sequence => "sequence"
  | .map => "map"

/-- How well-formed data can fail to be what is asked for. -/
inductive Mismatch where
  | type (found : Found) (expected : String)
  | value (found : Found) (expected : String)
  | length (n : Nat) (expected : String)
  | missing (field : String)
  | duplicate (field : String)
  | unknown (field : String) (known : List String)
deriving DecidableEq, Repr

def backquoted (s : String) : String := "`" ++ s ++ "`"

def Mismatch.message (w : Wording) : Mismatch → String
  | .type f e => "invalid type: " ++ f.describe w ++ ", expected " ++ e
  | .value f e => "invalid value: " ++ f.describe w ++ ", expected " ++ e
  | .length n e => "invalid length " ++ toString n ++ ", expected " ++ e
  | .missing f => "missing field " ++ backquoted f
  | .duplicate f => "duplicate field " ++ backquoted f
  | .unknown f known => "unknown field " ++ backquoted f ++ ", expected one of "
      ++ ", ".intercalate (known.map backquoted)

end StoreGuard
