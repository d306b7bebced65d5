import StoreGuard.Json.Datum
import StoreGuard.Json.Mismatch
import StoreGuard.Json.Numeral

namespace StoreGuard.Json

inductive ReadError where
  | fault (f : Fault)
  | shape (m : Mismatch)
deriving DecidableEq, Repr

abbrev Reading (α : Type) := Except ReadError α

def failAt {α : Type} (f : Fault) : Reading α := .error (.fault f)

def mismatch {α : Type} (m : Mismatch) : Reading α := .error (.shape m)

/-- One more than the arrays and objects that may enclose one another, save in members that are
passed over. -/
def depthLimit : Nat := 128

def enter (depth : Nat) : Reading Nat := if depth ≤ 1 then failAt .malformed else .ok (depth - 1)

def finish : Option Fault → Reading Unit
  | none => .ok ()
  | some f => failAt f

def highSurrogate (n : Nat) : Bool := 0xD800 ≤ n && n ≤ 0xDBFF

def lowSurrogate (n : Nat) : Bool := 0xDC00 ≤ n && n ≤ 0xDFFF

/-- The characters of a string; surrogates must come in pairs. -/
def readPieces (fault : Option Fault) : List Piece → Reading (List Char)
  | [] => (finish fault).map fun _ => []
  | .char c :: ps => (readPieces fault ps).map (c :: ·)
  | .unit n :: ps =>
    if lowSurrogate n then failAt .malformed
    else if highSurrogate n then
      match ps with
      | [] => failAt (fault.getD .malformed)
      | .unit m :: ps =>
        if lowSurrogate m then
          (readPieces fault ps).map
            (Char.ofNat (0x10000 + (n - 0xD800) * 0x400 + (m - 0xDC00)) :: ·)
        else failAt .malformed
      | .char _ :: _ => failAt .malformed
    else (readPieces fault ps).map (Char.ofNat n :: ·)

def Quoted.text (q : Quoted) : Reading String := (readPieces q.fault q.pieces).map String.ofList

def Numeral.read (n : Numeral) : Reading Json :=
  match n.value with
  | .ok v => .ok v
  | .error f => failAt f

mutual

/-- Any value, at most `depth - 1` arrays and objects deep. -/
def Node.value (depth : Nat) : Node → Reading Json
  | .null => .ok .null
  | .bool b => .ok (.bool b)
  | .number n => n.read
  | .cutNumber => failAt .ended
  | .string s => s.text.map .string
  | .array vs f => do
    let depth ← enter depth
    let items ← itemValues depth vs
    finish f
    return .array items
  | .object ms f => do
    let depth ← enter depth
    let members ← memberValues depth ms
    finish f
    return .object members
  | .broken f => failAt f

def itemValues (depth : Nat) : List Node → Reading (List Json)
  | [] => .ok []
  | v :: vs => do
    let first ← v.value depth
    let rest ← itemValues depth vs
    return first :: rest

def memberValues (depth : Nat) : List (Quoted × Node) → Reading (List (String × Json))
  | [] => .ok []
  | (q, v) :: ms => do
    let name ← q.text
    let value ← v.value depth
    let rest ← memberValues depth ms
    return (name, value) :: rest

end

mutual

/-- Passes over a value, which need only be well-formed. -/
def Node.pass : Node → Reading Unit
  | .cutNumber => failAt .malformed
  | .string s => finish s.fault
  | .array vs f => do
    passItems vs
    finish f
  | .object ms f => do
    passMembers ms
    finish f
  | .broken f => failAt f
  | _ => .ok ()

def passItems : List Node → Reading Unit
  | [] => .ok ()
  | v :: vs => do
    v.pass
    passItems vs

def passMembers : List (Quoted × Node) → Reading Unit
  | [] => .ok ()
  | (q, v) :: ms => do
    finish q.fault
    v.pass
    passMembers ms

end

def found : Json → Found
  | .null => .unit
  | .bool b => .bool b
  | .int n => .whole n
  | .float x => .float x
  | .string s => .string s
  | .array _ => .sequence
  | .object _ => .map

/-- What stands in a text; a number or string is read to its end, an array or object not at all. -/
def Node.found : Node → Reading Found
  | .array .. => .ok .sequence
  | .object .. => .ok .map
  | v => (v.value 0).map Json.found

def Node.refuse {α : Type} (expected : String) (v : Node) : Reading α := do
  let f ← v.found
  mismatch (.type f expected)

def Node.text : Node → Reading String
  | .string s => s.text
  | v => v.refuse "a string"

def Node.text? : Node → Reading (Option String)
  | .null => .ok none
  | v => v.text.map some

def Node.datum (depth : Nat) (v : Node) : Reading Datum := (v.value depth).map kept

def Node.metadata (depth : Nat) : Node → Reading Metadata
  | .object ms f => do
    let depth ← enter depth
    let members ← memberValues depth ms
    finish f
    return .ofEntries (keptMembers members)
  | v => v.refuse "a map"

/-- A field of a record under construction: its name, whether it must be given, and its reader. -/
structure Field (σ : Type) where
  name : String
  required : Bool
  isSet : σ → Bool
  read : Nat → Node → σ → Reading σ

def Field.of {σ α : Type} (name : String) (required : Bool) (slot : σ → Option α)
    (get : Nat → Node → Reading α) (put : σ → α → σ) : Field σ where
  name := name
  required := required
  isSet s := (slot s).isSome
  read depth v s := (get depth v).map (put s)

/-- A record: what its errors call it, its fields in order, and whether other names are refused. -/
structure Record (σ : Type) where
  name : String
  fields : List (Field σ)
  closed : Bool

namespace Record

variable {σ : Type}

def names (r : Record σ) : List String := r.fields.map Field.name

/-- One member of an object; a name that is no field's is passed over or refused. -/
def member (r : Record σ) (depth : Nat) (q : Quoted) (v : Node) (s : σ) : Reading σ := do
  let name ← q.text
  match r.fields.find? fun f => f.name = name with
  | some f => if f.isSet s then mismatch (.duplicate name) else f.read depth v s
  | none =>
    if r.closed then mismatch (.unknown name r.names)
    else do
      v.pass
      return s

def members (r : Record σ) (depth : Nat) : List (Quoted × Node) → σ → Reading σ
  | [], s => .ok s
  | (q, v) :: ms, s => do
    let s ← r.member depth q v s
    r.members depth ms s

def complete (r : Record σ) (s : σ) : Reading σ :=
  match r.fields.find? fun f => f.required && !f.isSet s with
  | some f => mismatch (.missing f.name)
  | none => .ok s

def expectation (r : Record σ) : String :=
  r.name ++ " with " ++ toString r.fields.length ++
    (if r.fields.length = 1 then " element" else " elements")

/-- The items of an array stand for the fields in order, of which `done` have had their turn. -/
def items (r : Record σ) (depth : Nat) (fault : Option Fault) (done : Nat) :
    List (Field σ) → List Node → σ → Reading σ
  | [], [], s => do
    finish fault
    return s
  | [], _ :: _, _ => failAt .malformed
  | f :: fs, [], s => do
    finish fault
    if f.required then mismatch (.length done r.expectation)
    else r.items depth fault (done + 1) fs [] s
  | f :: fs, v :: vs, s => do
    let s ← f.read depth v s
    r.items depth fault (done + 1) fs vs s

def read (r : Record σ) (depth : Nat) (start : σ) : Node → Reading σ
  | .object ms f => do
    let depth ← enter depth
    let s ← r.members depth ms start
    finish f
    r.complete s
  | .array vs f => do
    let depth ← enter depth
    r.items depth f 0 r.fields vs start
  | v => v.refuse r.name

end Record

/-- Reads a whole text, after which only blanks may stand. -/
def readText {α : Type} (read : Node → Reading α) (s : String) : Reading α := do
  let d := Document.ofText s
  let a ← read d.root
  if d.surplus then failAt .malformed else return a

end StoreGuard.Json
