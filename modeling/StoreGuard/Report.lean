import StoreGuard.Limits.Basic

namespace StoreGuard.Report

inductive Style where
  | bold
  | red
  | green
  | yellow
  | cyan
deriving DecidableEq, Repr

def Style.code : Style → String
  | bold => "1"
  | red => "31"
  | green => "32"
  | yellow => "33"
  | cyan => "36"

def escapeCode (code : String) : String := "\x1b[" ++ code ++ "m"

def resetCode : String := escapeCode "0"

/-- A stretch of text in some styles, of which bold stands first. -/
structure Span where
  styles : List Style
  text : String
deriving DecidableEq, Repr

def plain (text : String) : Span := ⟨[], text⟩

/-- Begins the styles again wherever the text itself ends them. -/
def resume (opening text : String) : String := (resetCode ++ opening).intercalate (text.splitOn resetCode)

def Span.render (colour : Bool) (s : Span) : String :=
  if colour && !s.styles.isEmpty then
    let opening := escapeCode (";".intercalate (s.styles.map Style.code))
    opening ++ resume opening s.text ++ resetCode
  else s.text

abbrev Line := List Span

def renderLine (colour : Bool) (l : Line) : String := String.join (l.map (Span.render colour)) ++ "\n"

def render (colour : Bool) (ls : List Line) : String := String.join (ls.map (renderLine colour))

def rule (c : Char) : Line := [plain (String.ofList (List.replicate 80 c))]

def blank : Line := []

/-- A title over the limits that apply. -/
def header (title : String) (l : Limits) : List Line :=
  [rule '=', [⟨[.bold], title⟩], rule '=',
    [plain ("Max key length: " ++ toString l.maxKeyLength.toNat ++ " characters")],
    [plain ("Max value size: " ++ toString l.maxValueSize.toNat ++ " bytes")]] ++
  (l.keyPattern.toList.map fun p => [plain ("Key pattern: " ++ p)]) ++ [blank]

def shownLength : Nat := 60

/-- A text of which only the beginning and the length are shown if it is long. -/
def shorten (s : String) : String :=
  if s.length ≤ shownLength then s
  else String.ofList (s.toList.take shownLength) ++ "... (" ++ toString s.length ++ " characters)"

/-- A rejected value: texts in plain quotes, other values as JSON. -/
def valueText (value : Datum) : String :=
  match value.json with
  | .string s => shorten ("\"" ++ s ++ "\"")
  | j => shorten j.render

def violationBlock (v : Violation) : List Line :=
  [[plain "  ", ⟨[.yellow], v.target⟩, plain " [", ⟨[.red], v.code⟩, plain "]"],
    [plain ("    Message: " ++ v.describe)],
    [plain ("    Value: " ++ valueText v.value)]] ++
  (v.metadata.entries.map fun e => [plain ("    " ++ e.1 ++ ": " ++ e.2.render)]) ++ [blank]

structure Item where
  subject : String
  verdict : Verdict

namespace Item

def isValid (i : Item) : Bool := i.verdict.isEmpty

def headline (i : Item) : Line :=
  if i.isValid then [⟨[.bold, .green], "VALID"⟩, plain " ", ⟨[.cyan], i.subject⟩]
  else
    [⟨[.bold, .red], "INVALID"⟩, plain " ", ⟨[.cyan], i.subject⟩,
      plain (" (" ++ toString i.verdict.size ++ " violation(s))")]

def violationBlocks (i : Item) : List (List Line) := i.verdict.violations.map violationBlock

def lines (i : Item) : List Line :=
  if i.isValid then [rule '-', i.headline]
  else [rule '-', i.headline, rule '-'] ++ i.violationBlocks.flatten

end Item

structure Tally where
  violations : Nat
  invalid : Nat
  items : Nat
deriving DecidableEq, Repr

namespace Tally

def ofItems (items : List Item) : Tally where
  violations := (items.flatMap fun i => i.verdict.violations).length
  invalid := items.countP fun i => !i.isValid
  items := items.length

def line (t : Tally) : Line :=
  if t.invalid = 0 then [⟨[.bold, .green], "All checks passed"⟩]
  else
    [⟨[.bold], "Summary"⟩, plain ": ", ⟨[.red], toString t.violations⟩,
      plain (" violation(s) in " ++ toString t.invalid ++ " of " ++ toString t.items ++ " item(s)")]

end Tally

def summary (items : List Item) : List Line :=
  [rule '=', (Tally.ofItems items).line, rule '=']

def full (title : String) (l : Limits) (items : List Item) : List Line :=
  header title l ++ items.flatMap Item.lines ++ summary items

end StoreGuard.Report
