import StoreGuard.Rule
import StoreGuard.Store.Failure

namespace StoreGuard

inductive Request where
  | get (key : String)
  | put (key : String) (value : ByteArray)
  | delete (key : String)
  | scan (start : String)
  | close

inductive Reply where
  | done
  | found (value : Option ByteArray)
  | listed (entries : List (String × ByteArray))

abbrev Outcome := Except Failure Reply

/-- How a request is answered in a state, and the state after it. -/
abbrev Store (σ : Type) := Request → σ → Traced (Outcome × σ)

/-- The status of an outcome; a look-up may find nothing. -/
def statusOf : Outcome → Status
  | .ok (.found none) => .notFound
  | .ok _ => .ok
  | .error f => f.status

def lookupStatus (result : Except Failure (Option ByteArray)) : Status :=
  statusOf (result.map .found)

/-- A store in memory: its contents, or nothing once it is closed. -/
structure Memory where
  contents : Option (Dictionary ByteArray)

namespace Memory

def new : Memory := ⟨some .empty⟩

instance : Inhabited Memory := ⟨new⟩

def size (m : Memory) : Nat := m.contents.elim 0 Dictionary.size

def isEmpty (m : Memory) : Bool := m.size = 0

/-- Carries out a request on open contents, after the key was seen not to be empty. -/
def withKey (m : Memory) (key : String)
    (act : Dictionary ByteArray → Reply × Dictionary ByteArray) : Outcome × Memory :=
  if key.isEmpty then (.error .emptyKey, m)
  else match m.contents with
    | none => (.error .closed, m)
    | some d => (.ok (act d).1, ⟨some (act d).2⟩)

def run : Request → Memory → Outcome × Memory
  | .get key, m => m.withKey key fun d => (.found (d.get? key), d)
  | .put key value, m => m.withKey key fun d => (.done, d.insert key value)
  | .delete key, m => m.withKey key fun d => (.done, d.erase key)
  | .scan start, m =>
    match m.contents with
    | none => (.error .closed, m)
    | some d => (.ok (.listed (d.filterKeys fun k => start.toList.isPrefixOf k.toList).entries), m)
  | .close, _ => (.ok .done, ⟨none⟩)

def store : Store Memory := fun r m => pure (run r m)

end Memory

structure Calls where
  get : Nat
  put : Nat
  delete : Nat
  scan : Nat
  close : Nat
deriving DecidableEq, Repr

namespace Calls

def zero : Calls := ⟨0, 0, 0, 0, 0⟩

def add (c : Calls) : Request → Calls
  | .get _ => { c with get := c.get + 1 }
  | .put .. => { c with put := c.put + 1 }
  | .delete _ => { c with delete := c.delete + 1 }
  | .scan _ => { c with scan := c.scan + 1 }
  | .close => { c with close := c.close + 1 }

end Calls

structure Counted (σ : Type) where
  state : σ
  calls : Calls

/-- The store that counts every call, also the failing ones. -/
def Store.counted {σ : Type} (s : Store σ) : Store (Counted σ) := fun r c => do
  let (outcome, state) ← s r c.state
  pure (outcome, ⟨state, c.calls.add r⟩)

end StoreGuard
