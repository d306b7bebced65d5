import Mathlib.Algebra.GroupWithZero.Nat
import Mathlib.Data.List.Count
import StoreGuard.Proofs.CommandLine.Run

namespace StoreGuard

namespace Report

def numbersIn (cs : List Char) : List Nat :=
  ((cs.splitOnP fun c => !c.isDigit).filter (· ≠ [])).map fun ds => Nat.ofDigitChars 10 ds 0

section Numbers

variable {c : Char} {w : List Char}

end Numbers

def chars (l : Line) : List Char := l.flatMap fun s => s.text.toList

/-- A subject as a report shows it: its mark, the numbers behind it, and the blocks below it. -/
structure Section where
  valid : Bool
  subject : String
  numbers : List Nat
  blocks : List (List Line)

/-- The mark of a line that begins with one, the subject, and the numbers behind that. -/
def marked? : Line → Option (Bool × String × List Nat)
  | mark :: _ :: subject :: rest =>
    if mark = ⟨[.bold, .green], "VALID"⟩ then some (true, subject.text, numbersIn (chars rest))
    else if mark = ⟨[.bold, .red], "INVALID"⟩ then
      some (false, subject.text, numbersIn (chars rest))
    else none
  | _ => none

/-- What stands on a page: first the lines of no block, then the blocks of no subject, then the
subjects. -/
structure Page where
  loose : List Line
  blocks : List (List Line)
  sections : List Section

namespace Page

def empty : Page := ⟨[], [], []⟩

/-- The page with one more line at its top. A line with something yellow begins a block with the
lines under it, a mark begins a section with the blocks under it. -/
def push (l : Line) (p : Page) : Page :=
  if l = rule '-' then p
  else if l.any fun s => s.styles = [.yellow] then
    { p with loose := [], blocks := (l :: p.loose) :: p.blocks }
  else match marked? l with
    | some (valid, subject, numbers) =>
      { p with blocks := [], sections := ⟨valid, subject, numbers, p.blocks⟩ :: p.sections }
    | none => { p with loose := l :: p.loose }

section Push

variable (p : Page)

end Push

end Page

def Item.shown (i : Item) : Section where
  valid := i.isValid
  subject := i.subject
  numbers := if i.isValid then [] else [i.verdict.size]
  blocks := i.violationBlocks

namespace Page

end Page

section Summary

variable (items : List Item)

end Summary

/-- Each item has its section, in the same order: its mark, its subject and a block for each
violation, in the order of the verdict. -/
def Shows (p : Page) (items : List Item) : Prop :=
  p.loose = [] ∧ p.blocks = [] ∧ List.Forall₂ (fun (i : Item) (s : Section) =>
    s.valid = i.verdict.isEmpty ∧ s.subject = i.subject ∧
      s.blocks = i.verdict.violations.map violationBlock) items p.sections

end Report

namespace CommandLine

open Report

end CommandLine

end StoreGuard
