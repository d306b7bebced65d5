namespace StoreGuard.Text

abbrev Byte := UInt8

def isContinuation (b : Byte) : Bool := 0x80 ≤ b && b ≤ 0xBF

/-- How many bytes follow the first one, and the range that the next one must lie in. -/
def following? (b : Byte) : Option (Nat × Byte × Byte) :=
  if 0xC2 ≤ b && b ≤ 0xDF then some (1, 0x80, 0xBF)
  else if b = 0xE0 then some (2, 0xA0, 0xBF)
  else if b = 0xED then some (2, 0x80, 0x9F)
  else if 0xE1 ≤ b && b ≤ 0xEF then some (2, 0x80, 0xBF)
  else if b = 0xF0 then some (3, 0x90, 0xBF)
  else if 0xF1 ≤ b && b ≤ 0xF3 then some (3, 0x80, 0xBF)
  else if b = 0xF4 then some (3, 0x80, 0x8F)
  else none

def firstBits (b : Byte) (count : Nat) : Nat := b.toNat % Nat.pow 2 (6 - count)

/-- Takes `count` more bytes of a character whose bits so far are `code`. -/
def continue? (lo hi : Byte) : Nat → Nat → List Byte → Option Char × List Byte
  | 0, code, bs => (some (Char.ofNat code), bs)
  | _ + 1, _, [] => (none, [])
  | count + 1, code, b :: bs =>
    if lo ≤ b && b ≤ hi then continue? 0x80 0xBF count (code * 64 + b.toNat % 64) bs
    else (none, b :: bs)

/-- The character that begins with `b`, or none, and the bytes after what was read of it. -/
def decodeHead (b : Byte) (bs : List Byte) : Option Char × List Byte :=
  if b < 0x80 then (some (Char.ofNat b.toNat), bs)
  else match following? b with
    | some (count, lo, hi) => continue? lo hi count (firstBits b count) bs
    | none => (none, bs)

def replacement : Char := '�'

def decodeFrom (acc : List (Option Char)) : Nat → List Byte → List (Option Char)
  | 0, _ => acc.reverse
  | _, [] => acc.reverse
  | fuel + 1, b :: bs =>
    let (c, rest) := decodeHead b bs
    decodeFrom (c :: acc) fuel rest

/-- The characters of the bytes, `none` for each part that is not well-formed. -/
def decode (bs : List Byte) : List (Option Char) := decodeFrom [] bs.length bs

/-- The text of the bytes. Where they are not well-formed, each longest beginning of a character that
goes no further becomes one U+FFFD. -/
def lossy (bytes : ByteArray) : String :=
  String.ofList ((decode bytes.data.toList).map fun c => c.getD replacement)

end StoreGuard.Text
