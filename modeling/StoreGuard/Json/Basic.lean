import StoreGuard.Floating.Text

namespace StoreGuard

/-- A JSON value with the members of its objects as a text has them, in any order. -/
inductive Json where
  | null
  | bool (b : Bool)
  | int (n : Int)
  | float (x : Floating)
  | string (s : String)
  | array (items : List Json)
  | object (members : List (String × Json))
deriving Repr

/-- The whole numbers that fit 64 bits, with a sign or without. -/
def fitsWord (n : Int) : Bool := -9223372036854775808 ≤ n && n < 18446744073709551616

namespace Json

instance : Inhabited Json := ⟨null⟩

def ofNat (n : Nat) : Json := int n

mutual

/-- Equality of values, where the two floating zeros are equal and `1` differs from `1.0`. -/
def same : Json → Json → Bool
  | null, null => true
  | bool a, bool b => a = b
  | int a, int b => a = b
  | float a, float b => a.sameNumber b
  | string a, string b => a = b
  | array a, array b => sameItems a b
  | object a, object b => sameMembers a b
  | _, _ => false

def sameItems : List Json → List Json → Bool
  | [], [] => true
  | a :: as, b :: bs => same a b && sameItems as bs
  | _, _ => false

def sameMembers : List (String × Json) → List (String × Json) → Bool
  | [], [] => true
  | (k, a) :: as, (l, b) :: bs => k = l && same a b && sameMembers as bs
  | _, _ => false

end

def get? (key : String) : Json → Option Json
  | object members => members.lookup key
  | _ => none

end Json

end StoreGuard
