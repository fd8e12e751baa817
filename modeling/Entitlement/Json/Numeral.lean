import Entitlement.Json.Basic
import Entitlement.Number.Decimal

/-!
# Numbers in JSON text

What a JSON number denotes. Its digits are gathered into one natural number for as long as that
fits 64 bits; a digit of the whole part that does not fit counts as a power of ten, and a decimal
that does not fit is dropped. An integer that fits is that integer. Any other number is the
gathered digits, rounded to binary64 and then multiplied or divided by a rounded power of ten, so
that it is rounded at most three times.
-/

namespace Entitlement.Json

/-- A number as written: the digits before the point, those after it, and the power of ten. -/
structure Numeral where
  negative : Bool
  whole : List Char
  fraction : Option (List Char)
  exponent : Option Int

/-- Appends digits to a number while it fits 64 bits. Returns also the digits that are left. -/
def gather : Nat → List Char → Nat × List Char
  | n, [] => (n, [])
  | n, d :: ds =>
    let next := 10 * n + Decimal.digitValue d
    if next < 2 ^ 64 then gather next ds else (n, d :: ds)

/-- The absolute value of `x` times ten to the power `e`, which is at most 308. -/
def timesPower? (x : Binary64) (e : Nat) : Option Binary64 :=
  (Binary64.nearest? false (10 ^ e) 1).bind fun p =>
    Binary64.nearest? false (x.units * p.units) (2 ^ 2148)

/-- The absolute value of `x` divided by ten to the power `e`, which is at most 308. -/
def overPower? (x : Binary64) (e : Nat) : Option Binary64 :=
  (Binary64.nearest? false (10 ^ e) 1).bind fun p => Binary64.nearest? false x.units p.units

/-- A number below 2^64 times any power of ten. Powers below 10^-308 take two divisions, and after
two divisions by 10^308 nothing is left. -/
def scale? (n : Nat) (e : Int) : Option Binary64 :=
  (Binary64.nearest? false n 1).bind fun x =>
    if n = 0 then some x
    else if 308 < e then none
    else if 0 ≤ e then timesPower? x e.toNat
    else if -308 ≤ e then overPower? x (-e).toNat
    else if -616 ≤ e then (overPower? x 308).bind fun y => overPower? y (-e - 308).toNat
    else some .zero

/-- The number with the given sign. -/
def withSign (negative : Bool) (x : Binary64) : Binary64 :=
  { x with negative }

/-- The number that a numeral denotes, unless it is too large. -/
def Numeral.toNumber? (t : Numeral) : Option Number :=
  let (n, beyond) := gather 0 t.whole
  if beyond.isEmpty && t.fraction.isNone && t.exponent.isNone
      && (!t.negative || (n != 0 && n ≤ 2 ^ 63)) then
    some (.integer (if t.negative then -(n : Int) else n))
  else
    let decimals := t.fraction.getD []
    let (m, dropped) := gather n decimals
    let e := (t.exponent.getD 0) + beyond.length + dropped.length - decimals.length
    (scale? m e).map fun x => .real (withSign t.negative x)

end Entitlement.Json
