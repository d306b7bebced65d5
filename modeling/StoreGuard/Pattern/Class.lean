import StoreGuard.Unicode.Lookup
import StoreGuard.Unicode.CaseFold
import StoreGuard.Text.Character

namespace StoreGuard.Pattern

open Unicode

structure Flags where
  ignoreCase : Bool
  multiLine : Bool
  dotAll : Bool
  swapGreed : Bool
  unicode : Bool
  crlf : Bool
  verbose : Bool
deriving DecidableEq, Repr

def Flags.standard : Flags := ⟨false, false, false, false, true, false, false⟩

/-- The class of `\d`, `\s` or `\w`. -/
inductive Shorthand where
  | digit
  | space
  | word
deriving DecidableEq, Repr

def Shorthand.codes (unicode : Bool) : Shorthand → CodeSet
  | digit => if unicode then digits else [(48, 57)]
  | space => if unicode then Text.blankRanges else [(9, 13), (32, 32)]
  | word => if unicode then wordCodes else [(48, 57), (65, 90), (95, 95), (97, 122)]

def asciiClasses : List (String × CodeSet) := [
  ("alnum", [(48, 57), (65, 90), (97, 122)]),
  ("alpha", [(65, 90), (97, 122)]),
  ("ascii", [(0, 127)]),
  ("blank", [(9, 9), (32, 32)]),
  ("cntrl", [(0, 31), (127, 127)]),
  ("digit", [(48, 57)]),
  ("graph", [(33, 126)]),
  ("lower", [(97, 122)]),
  ("print", [(32, 126)]),
  ("punct", [(33, 47), (58, 64), (91, 96), (123, 126)]),
  ("space", [(9, 13), (32, 32)]),
  ("upper", [(65, 90)]),
  ("word", [(48, 57), (65, 90), (95, 95), (97, 122)]),
  ("xdigit", [(48, 57), (65, 70), (97, 102)])]

namespace Flags

def fold (f : Flags) (s : CodeSet) : CodeSet :=
  if !f.ignoreCase then s else if f.unicode then s.foldCase else s.foldAsciiCase

/-- Without Unicode a class is one of bytes, and must not hold a byte beyond ASCII. -/
def admits (f : Flags) (s : CodeSet) : Bool := f.unicode || CodeSet.isAscii s

/-- The set under the flags, or what is not in it. -/
def resolve (f : Flags) (negated : Bool) (s : CodeSet) : Option CodeSet :=
  let s := f.fold s
  let s := if negated then CodeSet.negate s else s
  if f.admits s then some s else none

def dot (f : Flags) : Option CodeSet :=
  if !f.unicode then none
  else if f.dotAll then some CodeSet.full
  else if f.crlf then some (CodeSet.negate [(10, 10), (13, 13)])
  else some (CodeSet.negate [(10, 10)])

end Flags

end StoreGuard.Pattern
