import StoreGuard.Json.Document

namespace StoreGuard.Json

open Floating

def wordLimit : Nat := 18446744073709551616

def powerLimit : Nat := 308

def exponentLimit : Nat := 2147483648

def powerOfTen (k : Nat) : Floating := Floating.ofNat .double (tenTo k)

/-- Digits are taken as long as the number they make is below the limit; the rest is counted. -/
def takeDigits (limit : Nat) : Nat → List Char → Nat × List Char
  | n, [] => (n, [])
  | n, d :: ds =>
    let next := n * 10 + (d.toNat - 48)
    if next < limit then takeDigits limit next ds else (n, d :: ds)

/-- `f` divided by powers of ten until the exponent left is one a single step can take. -/
def lower (f : Floating) (exponent : Nat) : Nat → Floating
  | 0 => f
  | fuel + 1 =>
    if exponent ≤ powerLimit then div .double f (powerOfTen exponent)
    else if f.isZero then f
    else lower (div .double f (powerOfTen powerLimit)) (exponent - powerLimit) fuel

def scale (significand : Nat) (exponent : Int) : Except Fault Floating :=
  let f := Floating.ofNat .double significand
  if exponent < 0 then .ok (lower f exponent.natAbs 5)
  else if exponent ≤ powerLimit then
    let x := mul .double f (powerOfTen exponent.toNat)
    if x.isFinite then .ok x else .error .malformed
  else if f.isZero then .ok f
  else .error .malformed

def withSign (negative : Bool) (x : Floating) : Json := .float (if negative then x.negate else x)

namespace Numeral

/-- The first digits, and the power of ten they are to be multiplied by before the written one. -/
def parts (n : Numeral) : Nat × Int :=
  let (m, dropped) := takeDigits wordLimit 0 n.whole
  match n.fraction with
  | none => (m, dropped.length)
  | some ds =>
    let (m', left) := takeDigits wordLimit m ds
    (m', (dropped.length : Int) - (ds.length - left.length : Nat))

def floating (n : Numeral) : Except Fault Json :=
  let (m, shift) := n.parts
  match n.exponent with
  | none => (scale m shift).map (withSign n.negative)
  | some (negativeExponent, ds) =>
    let (e, left) := takeDigits exponentLimit 0 ds
    if left.isEmpty then
      (scale m (shift + signed negativeExponent e)).map (withSign n.negative)
    else if m ≠ 0 && !negativeExponent then .error .malformed
    else .ok (withSign n.negative Floating.zero)

/-- The value of a number; `-0` is a floating zero. The leading digits are rounded before they are
scaled by a rounded power of ten, so that the last place can be off. -/
def value (n : Numeral) : Except Fault Json :=
  let whole := Nat.ofDigitChars 10 n.whole 0
  let exact := signed n.negative whole
  if n.fraction.isNone && n.exponent.isNone && fitsWord exact && !(n.negative && whole = 0) then
    .ok (.int exact)
  else n.floating

end Numeral

end StoreGuard.Json
