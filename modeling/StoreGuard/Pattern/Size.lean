import StoreGuard.Pattern.Regex

namespace StoreGuard.Pattern

open Unicode

def stateSize : Nat := 32

/-- Bytes that one arc out of a state with several ranges takes. -/
def arcSize : Nat := 8

def branchSize : Nat := 4

def sizeLimit : Nat := 10 * 1024 * 1024

abbrev ByteRange := Nat × Nat

def encode (n : Nat) : List Nat :=
  if n < 0x80 then [n]
  else if n < 0x800 then [0xC0 + n / 0x40, 0x80 + n % 0x40]
  else if n < 0x10000 then [0xE0 + n / 0x1000, 0x80 + n / 0x40 % 0x40, 0x80 + n % 0x40]
  else [0xF0 + n / 0x40000, 0x80 + n / 0x1000 % 0x40, 0x80 + n / 0x40 % 0x40, 0x80 + n % 0x40]

/-- Where a range has to be cut so that its parts have all combinations of ranges of bytes. -/
def cutAt? (lo hi : Nat) : Option Nat :=
  let lengths := [0x7F, 0x7FF, 0xFFFF].find? fun m => lo ≤ m && m < hi
  let ends := if hi < 0x80 then none else [0x3F, 0xFFF, 0x3FFFF].findSome? fun m =>
    if lo / (m + 1) = hi / (m + 1) then none
    else if lo % (m + 1) ≠ 0 then some (lo + (m - lo % (m + 1)))
    else if hi % (m + 1) ≠ m then some (hi - hi % (m + 1) - 1)
    else none
  lengths.or ends

def byteSequences : Nat → Nat → Nat → List (List ByteRange)
  | 0, _, _ => []
  | fuel + 1, lo, hi =>
    if hi < lo then []
    else match cutAt? lo hi with
      | some m => byteSequences fuel lo m ++ byteSequences fuel (m + 1) hi
      | none => [(encode lo).zip (encode hi)]

/-- The same for a set; surrogates have no bytes. -/
def setSequences (s : CodeSet) : List (List ByteRange) :=
  (CodeSet.diff s (CodeSet.range 0xD800 0xDFFF)).flatMap fun r => byteSequences 40 r.1 r.2

/-- A node: the arcs that leave it, each with a range of bytes and the number of its target. -/
abbrev Arcs := List (ByteRange × Nat)

/-- Nodes already laid out, the newest first; the number of a node counts those from it on. -/
abbrev Nodes := List Arcs

def nodeWith? (arcs : Arcs) : Nodes → Option Nat
  | [] => none
  | a :: rest => if a = arcs then some (rest.length + 1) else nodeWith? arcs rest

def byHead : List (List ByteRange) → List (ByteRange × List (List ByteRange))
  | [] => []
  | [] :: rest => byHead rest
  | (r :: t) :: rest =>
    match byHead rest with
    | (q, ts) :: more => if q = r then (r, t :: ts) :: more else (r, [t]) :: (q, ts) :: more
    | [] => [(r, [t])]

/-- Lays out sequences of at most `depth` ranges, with one node for equal remainders. -/
def layNodes : Nat → List (List ByteRange) → Nodes → Nat × Nodes
  | 0, _, nodes => (0, nodes)
  | depth + 1, seqs, nodes =>
    let (arcs, nodes) := (byHead seqs).foldl (fun (arcs, nodes) (r, tails) =>
      let (n, nodes) := layNodes depth tails nodes
      ((r, n) :: arcs, nodes)) (([] : Arcs), nodes)
    if arcs.isEmpty then (0, nodes)
    else match nodeWith? arcs nodes with
      | some n => (n, nodes)
      | none => (nodes.length + 1, arcs :: nodes)

def countBeginnings : Nat → List (List ByteRange) → Nat
  | 0, _ => 0
  | depth + 1, seqs => (byHead seqs).foldl (fun n g => n + 1 + countBeginnings depth g.2) 0

def asciiSetSize (s : CodeSet) : Nat := 2 * stateSize + arcSize * s.length

/-- Bytes that a set takes, forwards and backwards. -/
def setSize (s : CodeSet) : Nat × Nat :=
  match s with
  | [] => (stateSize, stateSize)
  | [(lo, hi)] =>
    if lo = hi then (stateSize * (encode lo).length, stateSize * (encode lo).length)
    else if hi < 128 then (asciiSetSize s, asciiSetSize s)
    else sequencesSize (setSequences s)
  | _ => if CodeSet.isAscii s then (asciiSetSize s, asciiSetSize s)
    else sequencesSize (setSequences s)
where
  sequencesSize (seqs : List (List ByteRange)) : Nat × Nat :=
    let (_, nodes) := layNodes 4 seqs []
    (nodes.foldl (fun n arcs => n + stateSize + arcSize * arcs.length) stateSize,
      2 * stateSize + branchSize * seqs.length + stateSize * countBeginnings 4 seqs)

namespace Regex

def onlyEmpty : Regex → Bool
  | empty => true
  | chars _ => false
  | look _ => true
  | seq r t => r.onlyEmpty && t.onlyEmpty
  | alt r t => r.onlyEmpty && t.onlyEmpty
  | .repeat _ most r => most = some 0 || r.onlyEmpty
  | group r => r.onlyEmpty

def canBeEmpty : Regex → Bool
  | empty => true
  | chars _ => false
  | look _ => true
  | seq r t => r.canBeEmpty && t.canBeEmpty
  | alt r t => r.canBeEmpty || t.canBeEmpty
  | .repeat least _ r => least = 0 || r.canBeEmpty
  | group r => r.canBeEmpty

def repeatSize (least : Nat) (most : Option Nat) (loops : Bool) (one : Nat) : Nat :=
  let choice := stateSize + 2 * branchSize
  match least, most with
  | 0, none => if loops then one + 2 * choice + stateSize else one + choice
  | least, none => least * one + choice
  | 0, some 1 => one + choice + stateSize
  | least, some most =>
    if least = most then least * one
    else (if least = 0 then stateSize else least * one) + stateSize + (most - least) * (one + choice)

def size : Regex → Nat × Nat
  | empty => (stateSize, stateSize)
  | chars s => setSize s
  | look _ => (stateSize, stateSize)
  | seq r t => let (a, b) := r.size; let (c, d) := t.size; (a + c, b + d)
  | alt r t =>
    let (a, b) := r.size
    let (c, d) := t.size
    let extra := 2 * stateSize + 2 * branchSize
    (a + c + extra, b + d + extra)
  | .repeat least most r =>
    let (a, b) := r.size
    let least := if r.onlyEmpty then min least 1 else least
    let most := if r.onlyEmpty then some ((most.map (min · 1)).getD 1) else most
    if most = some 0 then (stateSize, stateSize)
    else if least = 1 && most = some 1 then (a, b)
    else (repeatSize least most r.canBeEmpty a, repeatSize least most r.canBeEmpty b)
  | group r => let (a, b) := r.size; (a + 2 * stateSize, b)

/-- What every automaton has beside the states of its expression. -/
def frameSize : Nat := 7 * stateSize

def tooLarge (r : Regex) : Bool :=
  let (a, b) := r.size
  sizeLimit < max a b + frameSize

end Regex

end StoreGuard.Pattern
