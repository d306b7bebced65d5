import StoreGuard.Toml.Number
import StoreGuard.Toml.Table

namespace StoreGuard.Toml

mutual

/-- A value at the head of a text, inside so many others. -/
def value (depth : Nat) : Nat → Scan Found
  | 0, _ => none
  | fuel + 1, s =>
    match s with
    | '"' :: _ => (string s).map fun (t, rest) => (.string t, rest)
    | '\'' :: _ => (string s).map fun (t, rest) => (.string t, rest)
    | '[' :: rest =>
      if nestLimit ≤ depth + 1 then none
      else (arrayItems (depth + 1) fuel rest).map (.sequence, ·)
    | '{' :: rest =>
      if nestLimit ≤ depth + 1 then none
      else match skipGap rest with
        | '}' :: rest => some (.map, rest)
        | rest => (inlineMembers (depth + 1) [] fuel rest).map (.map, ·)
    | 't' :: _ => word ['t', 'r', 'u', 'e'] (.bool true) s
    | 'f' :: _ => word ['f', 'a', 'l', 's', 'e'] (.bool false) s
    | 'i' :: _ => afterSign false s
    | 'n' :: _ => afterSign false s
    | c :: _ =>
      if c = '+' || c = '-' || c.isDigit then (moment s).or (number s) else none
    | [] => none

def arrayItems (depth : Nat) : Nat → List Char → Option (List Char)
  | 0, _ => none
  | fuel + 1, s => do
    match ← skipLines (s.length + 1) s with
    | ']' :: rest => some rest
    | s => do
      let (_, rest) ← value depth fuel s
      match ← skipLines (rest.length + 1) rest with
      | ']' :: rest => some rest
      | ',' :: rest => arrayItems depth fuel rest
      | _ => none

def inlineMembers (depth : Nat) (entries : Entries) : Nat → List Char → Option (List Char)
  | 0, _ => none
  | fuel + 1, s => do
    let (path, rest) ← key s
    let rest ← expect '=' rest
    let (found, rest) ← value depth fuel (skipGap rest)
    let (outer, name) ← splitLast path
    let entries ← entries.assign outer name (.value found)
    match skipGap rest with
    | '}' :: rest => some rest
    | ',' :: rest => inlineMembers depth entries fuel rest
    | _ => none

end

def assignment (s : List Char) : Option ((List String × Found) × List Char) := do
  let (path, rest) ← key s
  let rest ← expect '=' rest
  let rest := skipGap rest
  let (found, rest) ← value 0 (rest.length + 1) rest
  let rest ← endLine rest
  some ((path, found), rest)

/-- A line that opens a table, from after its first bracket. -/
def header (s : List Char) : Option ((Bool × List String) × List Char) :=
  match s with
  | '[' :: s => do
    let (path, rest) ← key s
    let rest ← expect ']' rest
    let rest ← expect ']' rest
    let rest ← endLine rest
    some ((true, path), rest)
  | s => do
    let (path, rest) ← key s
    let rest ← expect ']' rest
    let rest ← endLine rest
    some ((false, path), rest)

def lines : Nat → Building → List Char → Option Building
  | 0, _, _ => none
  | fuel + 1, b, s =>
    match skipGap s with
    | [] => some b
    | '#' :: rest => do
      let rest ← endLine ('#' :: rest)
      lines fuel b rest
    | '[' :: rest => do
      let ((repeated, path), rest) ← header rest
      let b ← if repeated then b.openRepeated path else b.openTable path
      lines fuel b rest
    | c :: rest =>
      if c = '\n' || c = '\r' then do
        let rest ← newline? (c :: rest)
        lines fuel b rest
      else do
        let ((path, found), rest) ← assignment (c :: rest)
        let b ← b.assign path (.value found)
        lines fuel b rest

def Item.found : Item → Found
  | .value f => f
  | .table .. => .map
  | .tables _ => .sequence

/-- A mark of the byte order at the beginning does not count. -/
def dropByteOrderMark : List Char → List Char
  | '\uFEFF' :: rest => rest
  | s => s

/-- What stands under the names at the root. A document that is not well-formed, or writes a name
twice, has none. -/
def document (text : String) : Option (List (String × Found)) := do
  let s := dropByteOrderMark text.toList
  let b ← lines (s.length + 1) .start s
  let entries ← b.close
  some (entries.map fun e => (e.1, e.2.found))

end StoreGuard.Toml
