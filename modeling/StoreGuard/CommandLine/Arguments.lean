namespace StoreGuard.CommandLine

/-- What an argument that begins with a hyphen can stand for. -/
inductive Switch where
  | config
  | key
  | file
  | data
  | json
  | help
  | version
deriving DecidableEq, Repr

namespace Switch

def name : Switch → String
  | config => "config"
  | key => "key"
  | file => "file"
  | data => "data"
  | json => "json"
  | help => "help"
  | version => "version"

def letter? : Switch → Option Char
  | config => some 'c'
  | key => some 'k'
  | file => some 'f'
  | data => some 'd'
  | json => none
  | help => some 'h'
  | version => some 'V'

def takesValue : Switch → Bool
  | config | key | file | data => true
  | json | help | version => false

/-- Whether the value names a file, so that it cannot be empty. -/
def namesFile (s : Switch) : Bool := s = config || s = file

end Switch

inductive Command where
  | checkKey
  | checkValue
deriving DecidableEq, Repr

namespace Command

def name : Command → String
  | checkKey => "check-key"
  | checkValue => "check-value"

def find? (arg : String) : Option Command := [checkKey, checkValue].find? fun c => c.name = arg

def switches : Command → List Switch
  | checkKey => [.config, .json, .help]
  | checkValue => [.config, .key, .file, .data, .json, .help]

/-- Whether arguments without a hyphen belong to the command. -/
def takesWords (c : Command) : Bool := c = checkKey

end Command

def leadingSwitches : List Switch := [.config, .help, .version]

inductive Misuse where
  | unexpected (argument : String)
  | repeated (s : Switch)
  | missingValue (s : Switch)
  | surplusValue (s : Switch)
  | missing (what : String)
  | conflict (a b : Switch)
deriving DecidableEq, Repr

def Misuse.message : Misuse → String
  | unexpected argument => "unexpected argument '" ++ argument ++ "' found"
  | repeated s => "the argument '--" ++ s.name ++ "' cannot be used multiple times"
  | missingValue s => "a value is required for '--" ++ s.name ++ "' but none was supplied"
  | surplusValue s => "unexpected value for '--" ++ s.name ++ "' found"
  | missing what => "required argument " ++ what ++ " was not provided"
  | conflict a b => "the argument '--" ++ a.name ++ "' cannot be used with '--" ++ b.name ++ "'"

/-- Why nothing is checked: the arguments are wrong, or ask for a text. -/
inductive Stop where
  | misuse (m : Misuse)
  | help
  | version
deriving DecidableEq, Repr

abbrev Reading (α : Type) := Except Stop α

def misuse {α : Type} (m : Misuse) : Reading α := .error (.misuse m)

/-- What the arguments so far have given, and what the next one is for. -/
structure Given where
  values : List (Switch × String)
  words : List String
  pending : Option Switch
  literal : Bool

namespace Given

def start : Given := ⟨[], [], none, false⟩

def get? (g : Given) (s : Switch) : Option String := g.values.lookup s

def has (g : Given) (s : Switch) : Bool := (g.get? s).isSome

/-- Gives a switch its value, once. -/
def set (g : Given) (s : Switch) (value : String) : Reading Given :=
  if g.has s then misuse (.repeated s)
  else if s.namesFile && value.isEmpty then misuse (.missingValue s)
  else .ok { g with values := (s, value) :: g.values, pending := none }

def turnOn (g : Given) : Switch → Reading Given
  | .help => .error .help
  | .version => .error .version
  | s => g.set s ""

/-- The text after two hyphens: a name, and a value behind an equals sign. -/
def takeName (known : List Switch) (g : Given) (body : List Char) : Reading Given :=
  let name := String.ofList (body.takeWhile (· ≠ '='))
  match known.find? fun s => s.name = name, body.dropWhile (· ≠ '=') with
  | none, _ => misuse (.unexpected ("--" ++ name))
  | some s, [] => if s.takesValue then .ok { g with pending := some s } else g.turnOn s
  | some s, _ :: value =>
    if s.takesValue then g.set s (String.ofList value) else misuse (.surplusValue s)

/-- The letters after one hyphen; what follows a letter that takes a value is the value. -/
def takeLetters (known : List Switch) (g : Given) : List Char → Reading Given
  | [] => .ok g
  | c :: cs =>
    match known.find? fun s => s.letter? = some c with
    | none => misuse (.unexpected (String.ofList ['-', c]))
    | some s =>
      if s.takesValue then
        match cs with
        | [] => .ok { g with pending := some s }
        | '=' :: value => g.set s (String.ofList value)
        | value => g.set s (String.ofList value)
      else do
        let g ← g.turnOn s
        takeLetters known g cs

def takeWord (wanted : Bool) (g : Given) (arg : String) : Reading Given :=
  if wanted then .ok { g with words := g.words ++ [arg] } else misuse (.unexpected arg)

/-- A value must come before anything with a hyphen, and before the end. -/
def settled (g : Given) : Reading Unit :=
  match g.pending with
  | some s => misuse (.missingValue s)
  | none => .ok ()

def take (known : List Switch) (wantsWords : Bool) (g : Given) (arg : String) : Reading Given :=
  if g.literal then g.takeWord wantsWords arg
  else match arg.toList with
    | ['-', '-'] => do
      g.settled
      return { g with literal := true }
    | '-' :: '-' :: body => do
      g.settled
      g.takeName known body
    | '-' :: c :: cs => do
      g.settled
      g.takeLetters known (c :: cs)
    | _ =>
      match g.pending with
      | some s => g.set s arg
      | none => g.takeWord wantsWords arg

def takeAll (c : Command) (args : List String) : Reading Given := do
  let g ← args.foldlM (take c.switches c.takesWords) start
  g.settled
  return g

end Given

inductive Source where
  | file (path : String)
  | text (data : String)
deriving DecidableEq, Repr

inductive Task where
  | keys (keys : List String)
  | value (key : String) (source : Source)
deriving DecidableEq, Repr

/-- What is asked for, under which limits, and how it is to be answered. -/
structure Invocation where
  config : Option String
  task : Task
  json : Bool
deriving DecidableEq, Repr

def Source.ofGiven (g : Given) : Reading Source :=
  match g.get? .file, g.get? .data with
  | some _, some _ => misuse (.conflict .file .data)
  | some path, none => .ok (.file path)
  | none, some data => .ok (.text data)
  | none, none => misuse (.missing "--file or --data")

def Task.ofGiven (g : Given) : Command → Reading Task
  | .checkKey => if g.words.isEmpty then misuse (.missing "KEYS") else .ok (.keys g.words)
  | .checkValue =>
    match g.get? .key with
    | none => misuse (.missing "--key")
    | some key => (Source.ofGiven g).map (.value key)

namespace Invocation

/-- The command with its own arguments; a file of limits named there is the one that counts. -/
def ofCommand (outer : Given) (c : Command) (args : List String) : Reading Invocation := do
  let g ← Given.takeAll c args
  let task ← Task.ofGiven g c
  return ⟨(g.get? .config).or (outer.get? .config), task, g.has .json⟩

def askHelp : List String → Reading Invocation
  | [] => .error .help
  | [topic] =>
    if topic = "help" || (Command.find? topic).isSome then .error .help
    else misuse (.unexpected topic)
  | _ :: topic :: _ => misuse (.unexpected topic)

/-- The arguments before the command, and then the command. -/
def ofLeading (g : Given) : List String → Reading Invocation
  | [] => do
    g.settled
    misuse (.missing "COMMAND")
  | arg :: rest =>
    if g.literal || g.pending.isSome then do
      let g ← g.take leadingSwitches false arg
      ofLeading g rest
    else match Command.find? arg with
      | some c => ofCommand g c rest
      | none =>
        if arg = "help" then askHelp rest
        else do
          let g ← g.take leadingSwitches false arg
          ofLeading g rest

def ofArguments (args : List String) : Reading Invocation := ofLeading .start args

end Invocation

end StoreGuard.CommandLine
