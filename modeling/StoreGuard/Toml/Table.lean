import StoreGuard.Json.Mismatch

namespace StoreGuard.Toml

/-- What stands under a name; of the tables in an array the last one is kept. -/
inductive Item where
  | value (f : Found)
  | table (implicit dotted : Bool) (entries : List (String × Item))
  | tables (last : List (String × Item))

abbrev Entries := List (String × Item)

def replaceEntry (name : String) (item : Item) : Entries → Entries
  | [] => []
  | e :: rest => if e.1 = name then (name, item) :: rest else e :: replaceEntry name item rest

/-- Goes down a path, making tables that are missing, and changes the entries at its end. There
`change` is told whether the table belongs to dotted keys. -/
def Entries.update (dotted : Bool) (change : Bool → Entries → Option Entries) :
    List String → Bool → Entries → Option Entries
  | [], here, entries => change here entries
  | name :: path, _, entries =>
    match entries.lookup name with
    | none => do
      let inner ← update dotted change path dotted []
      some (entries ++ [(name, .table true dotted inner)])
    | some (.value _) => none
    | some (.tables last) => do
      let inner ← update dotted change path false last
      some (replaceEntry name (.tables inner) entries)
    | some (.table implicit d inner) =>
      if dotted && !implicit then none
      else do
        let inner ← update dotted change path d inner
        some (replaceEntry name (.table implicit d inner) entries)

def Entries.assign (path : List String) (name : String) (item : Item) (entries : Entries) :
    Option Entries :=
  entries.update true (fun dotted inner =>
    if dotted = path.isEmpty then none
    else if (inner.lookup name).isSome then none
    else some (inner ++ [(name, item)])) path false

/-- The table that is being filled: its name, whether it is one of several, and its entries. -/
structure Section where
  path : List String
  repeated : Bool
  entries : Entries

/-- A document under construction: what is finished, and the table that is being filled. -/
structure Building where
  root : Entries
  current : Section

def Building.start : Building := ⟨[], ⟨[], false, []⟩⟩

def splitLast : List String → Option (List String × String)
  | [] => none
  | [name] => some ([], name)
  | name :: path => (splitLast path).map fun p => (name :: p.1, p.2)

def Building.close (b : Building) : Option Entries :=
  match splitLast b.current.path with
  | none => some b.current.entries
  | some (path, name) =>
    b.root.update false (fun _ inner =>
      if b.current.repeated then
        match inner.lookup name with
        | some (.tables _) => some (replaceEntry name (.tables b.current.entries) inner)
        | some _ => none
        | none => some (inner ++ [(name, .tables b.current.entries)])
      else if (inner.lookup name).isSome then none
      else some (inner ++ [(name, .table false false b.current.entries)])) path false

def Entries.at? : List String → String → Entries → Option Item
  | [], name, entries => entries.lookup name
  | step :: path, name, entries =>
    match entries.lookup step with
    | some (.table _ _ inner) => at? path name inner
    | some (.tables last) => at? path name last
    | _ => none

/-- Opens a table by its name; one that was only implied by longer names keeps its entries. -/
def Building.openTable (b : Building) (path : List String) : Option Building := do
  let root ← b.close
  let (outer, name) ← splitLast path
  match root.at? outer name with
  | none =>
    let root ← root.update false (fun _ inner => some inner) outer false
    some ⟨root, ⟨path, false, []⟩⟩
  | some (.table true false kept) =>
    let root ← root.update false (fun _ inner => some (inner.filter fun e => e.1 ≠ name)) outer false
    some ⟨root, ⟨path, false, kept⟩⟩
  | some _ => none

def Building.openRepeated (b : Building) (path : List String) : Option Building := do
  let root ← b.close
  let (outer, name) ← splitLast path
  let root ← root.update false (fun _ inner =>
    match inner.lookup name with
    | none => some (inner ++ [(name, .tables [])])
    | some (.tables _) => some inner
    | some _ => none) outer false
  some ⟨root, ⟨path, true, []⟩⟩

def Building.assign (b : Building) (path : List String) (item : Item) : Option Building := do
  let (outer, name) ← splitLast path
  let entries ← b.current.entries.assign outer name item
  some { b with current := { b.current with entries } }

end StoreGuard.Toml
