namespace StoreGuard.Unicode

/-- A set of code points: ranges with both ends included, in increasing order and apart. -/
abbrev CodeSet := List (Nat × Nat)

def lastCodePoint : Nat := 0x10FFFF

namespace CodeSet

def holds (s : CodeSet) (n : Nat) : Bool := s.any fun r => r.1 ≤ n && n ≤ r.2

def holdsChar (s : CodeSet) (c : Char) : Bool := holds s c.toNat

def single (n : Nat) : CodeSet := [(n, n)]

def range (lo hi : Nat) : CodeSet := [(lo, hi)]

def full : CodeSet := [(0, lastCodePoint)]

/-- Adds a range, joined with those that it meets or touches. -/
def insertRange (r : Nat × Nat) : CodeSet → CodeSet
  | [] => [r]
  | s :: rest =>
    if r.2 + 1 < s.1 then r :: s :: rest
    else if s.2 + 1 < r.1 then s :: insertRange r rest
    else insertRange (min r.1 s.1, max r.2 s.2) rest

def ofRanges (l : List (Nat × Nat)) : CodeSet := l.foldr insertRange []

def union (a b : CodeSet) : CodeSet := ofRanges (a ++ b)

/-- The gaps between the ranges from `lo` on. -/
def gaps (lo : Nat) : CodeSet → CodeSet
  | [] => if lo ≤ lastCodePoint then [(lo, lastCodePoint)] else []
  | r :: rest => if lo < r.1 then (lo, r.1 - 1) :: gaps (r.2 + 1) rest else gaps (r.2 + 1) rest

def negate (s : CodeSet) : CodeSet := gaps 0 s

def inter (a b : CodeSet) : CodeSet := negate (union (negate a) (negate b))

def diff (a b : CodeSet) : CodeSet := inter a (negate b)

def symmDiff (a b : CodeSet) : CodeSet := union (diff a b) (diff b a)

def isAscii (s : CodeSet) : Bool := s.all fun r => r.2 < 128

def addRange (n lo : Option Nat) (acc : List (Nat × Nat)) : List (Nat × Nat) :=
  match n with
  | some n => (lo.getD n, n) :: acc
  | none => acc

def digitCode (c : Char) : Nat := if c.isDigit then c.toNat - 48 else c.toNat - 87

/-- Reads ranges written in hexadecimal, such as `41-5a 5f`; `lo` is the lower end once read. -/
def scan : List Char → Option Nat → Option Nat → List (Nat × Nat) → List (Nat × Nat)
  | [], n, lo, acc => (addRange n lo acc).reverse
  | c :: rest, n, lo, acc =>
    if c = ' ' || c = '\n' then scan rest none none (addRange n lo acc)
    else if c = '-' then scan rest none n acc
    else scan rest (some (16 * n.getD 0 + digitCode c)) lo acc

def ofText (s : String) : CodeSet := scan s.toList none none []

end CodeSet

/-- A property under all its names, in loose form, with its code points written as ranges. -/
structure Property where
  names : List String
  ranges : String

namespace Property

def codes (p : Property) : CodeSet := CodeSet.ofText p.ranges

def find? (table : List Property) (name : String) : Option CodeSet :=
  (table.find? fun p => p.names.contains name).map codes

end Property

/-- A leading "is" does not count in a property's name. -/
def dropIs : List Char → Bool × List Char
  | i :: s :: rest =>
    if (i = 'i' || i = 'I') && (s = 's' || s = 'S') then (true, rest) else (false, i :: s :: rest)
  | cs => (false, cs)

/-- Case, spaces, hyphens and low lines do not count in a property's name. -/
def looseName (name : String) : String :=
  let (isGone, rest) := dropIs name.toList
  let kept := (rest.filter fun c => c ≠ ' ' && c ≠ '_' && c ≠ '-' && c.toNat < 128).map Char.toLower
  if isGone && kept = ['c'] then "isc" else String.ofList kept

end StoreGuard.Unicode
