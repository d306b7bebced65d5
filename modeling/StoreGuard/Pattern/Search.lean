import StoreGuard.Pattern.Regex

namespace StoreGuard.Pattern

open Regex

def Regex.nullable (before after : Option Char) : Regex → Bool
  | empty => true
  | chars _ => false
  | look l => l.holds before after
  | seq r t => r.nullable before after && t.nullable before after
  | alt r t => r.nullable before after || t.nullable before after
  | .repeat least most r => least = 0 || (most.all (least ≤ ·) && r.nullable before after)
  | group r => r.nullable before after

/-- One expression after another, where the empty one adds nothing. -/
def cat : Regex → Regex → Regex
  | .empty, t => t
  | r, t => .seq r t

/-- What can be left to match of the expression after the character `c`. -/
def Regex.after (before : Option Char) (c : Char) : Regex → List Regex
  | empty => []
  | chars set => if set.holdsChar c then [empty] else []
  | look _ => []
  | seq r t =>
    (r.after before c).map (cat · t) ++
      if r.nullable before (some c) then t.after before c else []
  | alt r t => r.after before c ++ t.after before c
  | .repeat least most r =>
    if most = some 0 || !most.all (least ≤ ·) then [] else
    let least := if r.nullable before (some c) then 0 else least - 1
    let left := Regex.repeat least (most.map (· - 1)) r
    (r.after before c).map (cat · left)
  | group r => r.after before c

/-- Drops repetitions, so that few expressions are pending however long the text is. -/
def distinct : List Regex → List Regex → List Regex
  | acc, [] => acc.reverse
  | acc, r :: rs => if acc.contains r then distinct acc rs else distinct (r :: acc) rs

/-- Whether a match that began before and has one of `pending` left, or one that begins here, ends
later. -/
def searchFrom (r : Regex) (before : Option Char) (pending : List Regex) : List Char → Bool
  | [] => (r :: pending).any fun t => t.nullable before none
  | c :: rest =>
    let now := r :: pending
    now.any (fun t => t.nullable before (some c)) ||
      searchFrom r (some c) (distinct [] (now.flatMap fun t => t.after before c)) rest

def Regex.occurs (r : Regex) (s : List Char) : Bool := searchFrom r none [] s

end StoreGuard.Pattern
