import StoreGuard.Chain
import StoreGuard.Rules.Stored
import StoreGuard.Rules.Text
import StoreGuard.Store.Basic

namespace StoreGuard

/-- Rules for keys, and the name that keys have in violations. -/
structure KeyGuard where
  chain : Chain String
  target : String

namespace KeyGuard

def keyTarget : String := "key"

def prefixTarget : String := "prefix"

def ofChain (chain : Chain String) : KeyGuard := ⟨chain, keyTarget⟩

def ofRules (rules : List (Rule String)) : KeyGuard := ofChain (.ofRules rules)

def withTarget (g : KeyGuard) (target : String) : KeyGuard := { g with target }

def standard : KeyGuard := ofRules Rules.standardKeyRules

def permissive : KeyGuard := ofChain .empty

def check (g : KeyGuard) (key : String) : Finding :=
  g.chain.validateFirst key (Context.ofTarget g.target)

def checkAll (g : KeyGuard) (key : String) : Traced Verdict :=
  g.chain.validate key (Context.ofTarget g.target)

def describe (g : KeyGuard) : String :=
  "KeyValidator \x7b chain: " ++ g.chain.describe ++ ", target: " ++ Text.quoted g.target ++ " \x7d"

end KeyGuard

/-- Rules for values, each of which sees the key as well. -/
structure ValueGuard where
  chain : Chain Entry

namespace ValueGuard

def ofRules (rules : List (Rule Entry)) : ValueGuard := ⟨.ofRules rules⟩

def standard : ValueGuard := ofRules Rules.standardValueRules

def permissive : ValueGuard := ofRules []

def add (g : ValueGuard) (r : Rule Entry) : ValueGuard := ⟨g.chain.add r⟩

def valueTarget : String := "value"

def contextOf (key : String) : Context :=
  (Context.ofTarget valueTarget).withMetadata "key" (.string key)

def check (g : ValueGuard) (e : Entry) : Finding := g.chain.validateFirst e (contextOf e.key)

def checkAll (g : ValueGuard) (e : Entry) : Traced Verdict := g.chain.validate e (contextOf e.key)

def describe (g : ValueGuard) : String :=
  "ValueValidator \x7b rules: " ++ toString g.chain.size ++ " \x7d"

end ValueGuard

/-- What a store is guarded with; scan prefixes are checked only where there are rules for them. -/
structure Guard where
  keys : KeyGuard
  values : ValueGuard
  prefixes : Option KeyGuard

namespace Guard

def standard : Guard := ⟨.standard, .standard, none⟩

/-- The first violation of a request, keys before values. -/
def check (g : Guard) : Request → Finding
  | .get key => g.keys.check key
  | .put key value => do
    match ← g.keys.check key with
    | some v => pure (some v)
    | none => g.values.check ⟨key, value⟩
  | .delete key => g.keys.check key
  | .scan start => g.prefixes.elim (pure none) fun p => p.check start
  | .close => pure none

def protect {σ : Type} (g : Guard) (s : Store σ) : Store σ := fun r state => do
  match ← g.check r with
  | some v => pure (.error (.violation v), state)
  | none => s r state

end Guard

/-- What can stand before a store: a guard, or something that only passes requests on. -/
inductive Layer where
  | guard (g : Guard)
  | pointer

/-- Layers before a store, the outermost first. -/
abbrev Stack := List Layer

namespace Stack

def protect {σ : Type} : Stack → Store σ → Store σ
  | [], s => s
  | .guard g :: rest, s => g.protect (protect rest s)
  | .pointer :: rest, s => protect rest s

/-- The layers behind a guard that stands outermost, or else all of them. -/
def inner : Stack → Stack
  | .guard _ :: rest => rest
  | stack => stack

end Stack

end StoreGuard
