import StoreGuard.CommandLine.Arguments
import StoreGuard.Limits.Reading
import StoreGuard.Report

namespace StoreGuard

/-- A failure in words, followed by what caused it. -/
def Failure.causes (f : Failure) : List String :=
  f.message :: match f with
    | .violation v => [v.describe]
    | .io text => [text]
    | .unreadable _ reason => [reason]
    | .badPattern _ e => [e.message]
    | .emptyKey | .closed | .config _ => []

namespace CommandLine

abbrev Files := String → FileContents

inductive Problem where
  | limits (path : String) (f : Failure)
  | value (path : String) (fault : FileFault)
  | check (f : Failure)

def Problem.causes : Problem → List String
  | limits path f => ("loading config " ++ path) :: f.causes
  | value path fault => ["reading value from " ++ path, fault.message]
  | check f => f.causes

/-- The limits that apply: those of the file, or else the standard ones. -/
def loadLimits (files : Files) : Option String → Except Problem Limits
  | none => .ok .standard
  | some path => (Limits.ofFile path (files path)).mapError (.limits path)

def Source.read (files : Files) : Source → Except Problem ByteArray
  | .text data => .ok data.toUTF8
  | .file path => (files path).mapError (.value path)

def Task.check (files : Files) (l : Limits) : Task → Except Problem (List Report.Item)
  | .keys given => given.mapM fun key => do
    let verdict ← (l.checkKey key).mapError Problem.check
    return ⟨key, verdict⟩
  | .value key source => do
    let bytes ← source.read files
    let verdict ← (l.checkEntry ⟨key, bytes⟩).mapError Problem.check
    return [⟨key, verdict⟩]

structure Checked where
  limits : Limits
  items : List Report.Item
  json : Bool

namespace Checked

def allValid (c : Checked) : Bool := c.items.all Report.Item.isValid

def reportTitle : String := "Key-Value Validation Report"

/-- One verdict a line. -/
def jsonText (items : List Report.Item) : String :=
  String.join (items.map fun i => i.verdict.toJsonText ++ "\n")

def text (colour : Bool) (c : Checked) : String :=
  if c.json then jsonText c.items
  else Report.render colour (Report.full reportTitle c.limits c.items)

end Checked

def Invocation.check (files : Files) (i : Invocation) : Except Problem Checked := do
  let limits ← loadLimits files i.config
  let items ← i.task.check files limits
  return ⟨limits, items, i.json⟩

def programName : String := "kv-validator"

def versionText : String := programName ++ " 0.1.0\n"

def helpText : String :=
  "Checks keys and values against key-value store validation rules\n\n" ++
  "Usage: " ++ programName ++ " [OPTIONS] <COMMAND>\n\n" ++
  "Commands:\n" ++
  "  check-key    Validate one or more keys\n" ++
  "  check-value  Validate a value as it would be stored under a key\n" ++
  "  help         Print this message or the help of the given subcommand(s)\n\n" ++
  "Options:\n" ++
  "  -c, --config <CONFIG>  TOML file with validation limits (defaults apply when omitted)\n" ++
  "  -h, --help             Print help\n" ++
  "  -V, --version          Print version\n"

inductive Ending where
  | shown (text : String)
  | misused (m : Misuse)
  | failed (p : Problem)
  | checked (c : Checked)

def run (files : Files) (args : List String) : Ending :=
  match Invocation.ofArguments args with
  | .error .help => .shown helpText
  | .error .version => .shown versionText
  | .error (.misuse m) => .misused m
  | .ok i =>
    match i.check files with
    | .error p => .failed p
    | .ok c => .checked c

namespace Ending

/-- 0 if all is valid, 1 if nothing could be checked, 2 for violations and wrong arguments. -/
def exitCode : Ending → UInt32
  | shown _ => 0
  | misused _ => 2
  | failed _ => 1
  | checked c => if c.allValid then 0 else 2

def stdout (colour : Bool) : Ending → String
  | shown text => text
  | checked c => c.text colour
  | misused _ | failed _ => ""

def stderr : Ending → String
  | misused m => "error: " ++ m.message ++ "\n"
  | failed p => "Error: " ++ ": ".intercalate p.causes ++ "\n"
  | shown _ | checked _ => ""

end Ending

/-- Whether to colour, by three settings of the environment and the kind of output. -/
def wantsColour (force plain allowed : Option String) (terminal : Bool) : Bool :=
  if isOn force then true
  else if plain.isSome then false
  else allowed.all (· ≠ "0") && terminal
where
  isOn (setting : Option String) : Bool := setting.any (· ≠ "0")

end CommandLine

end StoreGuard
