import StoreGuard.Unicode.Lookup

namespace StoreGuard.Text

open Unicode

/-- Controls, formats, private and unassigned code points, and all separators but the space. -/
def hiddenCodes : CodeSet :=
  CodeSet.diff
    (unionOf (["cc", "cf", "co", "cn", "zl", "zp", "zs"].filterMap generalCategory?))
    (CodeSet.single 32)

/-- Code points that are drawn as part of the character before them. -/
def attachedCodes : CodeSet := (Property.find? binaryProperties "grext").getD []

def escapeCode (c : Char) : List Char :=
  '\\' :: 'u' :: '\x7b' :: (Nat.toDigits 16 c.toNat ++ ['\x7d'])

def escapeShown (c : Char) : List Char :=
  if c = '\x00' then ['\\', '0']
  else if c = '\t' then ['\\', 't']
  else if c = '\r' then ['\\', 'r']
  else if c = '\n' then ['\\', 'n']
  else if c = '"' || c = '\\' then ['\\', c]
  else if 32 ≤ c.toNat && c.toNat < 127 then [c]
  else if attachedCodes.holdsChar c || hiddenCodes.holdsChar c then escapeCode c
  else [c]

def quoted (s : String) : String :=
  String.ofList ('"' :: (s.toList.flatMap escapeShown ++ ['"']))

def quotedList (l : List String) : String := "[" ++ ", ".intercalate (l.map quoted) ++ "]"

end StoreGuard.Text
