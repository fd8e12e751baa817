import Entitlement.Number.Shortest

/-!
# Numbers as text

Two ways to write a number, both with its shortest digits. In plain form every digit is written
out, an integral value has no point, and of two equally near digits the upper one is taken. In
JSON form an integral value ends in `.0`, very large and very small values have a power of ten with
a sign, and of two equally near digits the even one is taken. Both keep the sign of zero.
-/

namespace Entitlement

/-- Digits with the point after the first `point` of them, which may lie outside the digits. -/
def positional (ds : List Char) (point : Int) : List Char :=
  if point ≤ 0 then ['0', '.'] ++ List.replicate (-point).toNat '0' ++ ds
  else if ds.length ≤ point then ds ++ List.replicate (point.toNat - ds.length) '0'
  else ds.take point.toNat ++ '.' :: ds.drop point.toNat

/-- The first digit, and the others after a point. -/
def pointAfterFirst : List Char → List Char
  | d :: e :: ds => d :: '.' :: e :: ds
  | ds => ds

/-- Digits with a power of ten, whose sign is always written. -/
def scientific (ds : List Char) (point : Int) : List Char :=
  let e := point - 1
  pointAfterFirst ds ++ ['e', if e < 0 then '-' else '+'] ++ Nat.toDigits 10 e.natAbs

namespace Binary64

/-- The sign in front of the digits. -/
def signText (x : Binary64) : List Char :=
  if x.negative then ['-'] else []

/-- The number in plain form. -/
def plainText (x : Binary64) : String :=
  let d := x.shortest .upward
  let ds := Nat.toDigits 10 d.digits
  String.ofList (x.signText ++
    if x.magnitude = 0 then ['0'] else positional ds (d.exponent + ds.length))

/-- The number in JSON form: positional from 0.00001 up to below 10^16. -/
def jsonText (x : Binary64) : String :=
  let d := x.shortest .toEven
  let ds := Nat.toDigits 10 d.digits
  let point := d.exponent + ds.length
  String.ofList (x.signText ++
    if x.magnitude = 0 then ['0', '.', '0']
    else if point ≤ -5 || 16 < point then scientific ds point
    else positional ds point ++ if ds.length ≤ point then ['.', '0'] else [])

end Binary64

end Entitlement
