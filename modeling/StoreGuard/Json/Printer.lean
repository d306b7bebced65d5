import StoreGuard.Json.Basic

namespace StoreGuard.Json

def hexDigits : Nat → List Char := fun n => [Nat.digitChar (n / 16), Nat.digitChar (n % 16)]

/-- Only quotes, backslashes and the characters below U+0020 are escaped in strings. -/
def escape (c : Char) : List Char :=
  if c = '"' then ['\\', '"']
  else if c = '\\' then ['\\', '\\']
  else if c = '\n' then ['\\', 'n']
  else if c = '\r' then ['\\', 'r']
  else if c = '\t' then ['\\', 't']
  else if c = '\x08' then ['\\', 'b']
  else if c = '\x0c' then ['\\', 'f']
  else if c.toNat < 32 then ['\\', 'u', '0', '0'] ++ hexDigits c.toNat
  else [c]

def quote (s : String) : List Char := '"' :: (s.toList.flatMap escape ++ ['"'])

def writeInt (n : Int) : List Char :=
  if n < 0 then '-' :: Nat.toDigits 10 n.natAbs else Nat.toDigits 10 n.natAbs

mutual

def write : Json → List Char
  | null => ['n', 'u', 'l', 'l']
  | bool true => ['t', 'r', 'u', 'e']
  | bool false => ['f', 'a', 'l', 's', 'e']
  | int n => writeInt n
  | float x => (Floating.render .double Floating.jsonLayout x).toList
  | string s => quote s
  | array [] => ['[', ']']
  | array (v :: vs) => '[' :: (write v ++ writeItems vs)
  | object [] => ['{', '}']
  | object ((k, v) :: ms) => '{' :: (quote k ++ ':' :: (write v ++ writeMembers ms))

/-- The items after the first one, and the closing bracket. -/
def writeItems : List Json → List Char
  | [] => [']']
  | v :: vs => ',' :: (write v ++ writeItems vs)

/-- The members after the first one, and the closing brace. -/
def writeMembers : List (String × Json) → List Char
  | [] => ['}']
  | (k, v) :: ms => ',' :: (quote k ++ ':' :: (write v ++ writeMembers ms))

end

def render (j : Json) : String := String.ofList (write j)

end StoreGuard.Json
