import StoreGuard.Unicode.Lookup
import StoreGuard.Unicode.CodeSet

namespace StoreGuard.Pattern

open Unicode

/-- How the characters on both sides of a place bear on words. -/
inductive WordEdge where
  | boundary
  | noBoundary
  | start
  | «end»
  | startHalf
  | endHalf
deriving DecidableEq, Repr

inductive Look where
  | textStart
  | textEnd
  | lineStart
  | lineEnd
  | lineStartCrlf
  | lineEndCrlf
  | word (unicode : Bool) (edge : WordEdge)
deriving DecidableEq, Repr

inductive Regex where
  | empty
  | chars (set : CodeSet)
  | look (test : Look)
  | seq (first second : Regex)
  | alt (left right : Regex)
  /-- At least `least` times, and at most `most` times where there is a bound. -/
  | repeat (least : Nat) (most : Option Nat) (body : Regex)
  | group (body : Regex)
deriving DecidableEq, Repr

instance : Inhabited Regex := ⟨.empty⟩

def asciiWord : CodeSet := [(48, 57), (65, 90), (95, 95), (97, 122)]

def isWord (unicode : Bool) : Option Char → Bool
  | none => false
  | some c => if unicode then wordCodes.holdsChar c else asciiWord.holdsChar c

def WordEdge.holds (e : WordEdge) (before after : Bool) : Bool :=
  match e with
  | boundary => before != after
  | noBoundary => before == after
  | start => !before && after
  | «end» => before && !after
  | startHalf => !before
  | endHalf => !after

def Look.holds (l : Look) (before after : Option Char) : Bool :=
  match l with
  | textStart => before.isNone
  | textEnd => after.isNone
  | lineStart => before.isNone || before = some '\n'
  | lineEnd => after.isNone || after = some '\n'
  | lineStartCrlf =>
    before.isNone || before = some '\n' || (before = some '\r' && after ≠ some '\n')
  | lineEndCrlf => after.isNone || after = some '\r' || (after = some '\n' && before ≠ some '\r')
  | word unicode edge => edge.holds (isWord unicode before) (isWord unicode after)

/-- The last character of a text, or the one before it if it has none. -/
def lastOr (before : Option Char) (s : List Char) : Option Char := s.getLast?.or before

/-- The first character of a text, or the one after it if it has none. -/
def headOr (s : List Char) (after : Option Char) : Option Char := s.head?.or after

/-- `Matches r before s after`: the expression matches all of `s` standing between the two. -/
inductive Matches : Regex → Option Char → List Char → Option Char → Prop where
  | empty {b a} : Matches .empty b [] a
  | chars {set c b a} : set.holdsChar c = true → Matches (.chars set) b [c] a
  | look {l b a} : l.holds b a = true → Matches (.look l) b [] a
  | seq {r t b a s u} : Matches r b s (headOr u a) → Matches t (lastOr b s) u a →
      Matches (.seq r t) b (s ++ u) a
  | left {r t b a s} : Matches r b s a → Matches (.alt r t) b s a
  | right {r t b a s} : Matches t b s a → Matches (.alt r t) b s a
  | done {r most b a} : Matches (.repeat 0 most r) b [] a
  | more {r least most b a s u} : Matches r b s (headOr u a) →
      Matches (.repeat (least - 1) (most.map (· - 1)) r) (lastOr b s) u a → most ≠ some 0 →
      Matches (.repeat least most r) b (s ++ u) a
  | group {r b a s} : Matches r b s a → Matches (.group r) b s a

def Occurs (r : Regex) (s : List Char) : Prop :=
  ∃ x y z, s = x ++ y ++ z ∧ Matches r (lastOr none x) y (headOr z none)

end StoreGuard.Pattern
