/-!
# Finite binary64 numbers

A number of the 64-bit binary floating-point format that is neither infinite nor NaN: a sign and a
magnitude, which is the other 63 bits read as a natural number. Larger magnitudes are larger
numbers, so order and equality are those of the signed magnitude, in which both zeros are 0.
Rounding is to the nearest number, of two equally near ones to the even one.
-/

-- powers of numbers are those of the core library in every module, whatever else is imported
attribute [instance (20000), default_instance (20000)] instPowNat

namespace Entitlement

/-- A finite number of the format binary64. -/
structure Binary64 where
  negative : Bool
  /-- The bits below the sign. -/
  magnitude : Nat
  finite : magnitude < 0x7FF0000000000000
  deriving DecidableEq

namespace Binary64

/-- The positive zero. -/
def zero : Binary64 := ⟨false, 0, by decide⟩

/-- The number with the given sign and magnitude, if that magnitude is finite. -/
def ofMagnitude? (negative : Bool) (magnitude : Nat) : Option Binary64 :=
  if h : magnitude < 0x7FF0000000000000 then some ⟨negative, magnitude, h⟩ else none

/-- The 64 bits of the number. -/
def bits (x : Binary64) : Nat :=
  (if x.negative then 2 ^ 63 else 0) + x.magnitude

/-- The place of the number in the order of all numbers; both zeros have place 0. -/
def place (x : Binary64) : Int :=
  if x.negative then -(x.magnitude : Int) else x.magnitude

instance : LT Binary64 := ⟨fun x y => x.place < y.place⟩

instance : LE Binary64 := ⟨fun x y => x.place ≤ y.place⟩

instance (x y : Binary64) : Decidable (x < y) := inferInstanceAs (Decidable (x.place < y.place))

instance (x y : Binary64) : Decidable (x ≤ y) := inferInstanceAs (Decidable (x.place ≤ y.place))

/-- The significand: the low 52 bits, with the implicit bit of a normal number. -/
def significand (x : Binary64) : Nat :=
  if x.magnitude < 2 ^ 52 then x.magnitude else 2 ^ 52 + x.magnitude % 2 ^ 52

/-- The power of two by which the significand counts in units of 2^-1074. -/
def scale (x : Binary64) : Nat :=
  x.magnitude / 2 ^ 52 - 1

/-- The absolute value in units of 2^-1074, the least positive number. -/
def units (x : Binary64) : Nat :=
  x.significand * 2 ^ x.scale

/-- The quotient rounded to the nearest natural number, a half to the even one. -/
def roundDiv (num den : Nat) : Nat :=
  let q := num / den
  let r := num % den
  if 2 * r < den then q
  else if den < 2 * r then q + 1
  else if q % 2 = 0 then q else q + 1

/-- The magnitude nearest to `num / den`. A significand has at most 53 bits, so the units are
counted in steps of the power of two that leaves no more. -/
def nearestMagnitude (num den : Nat) : Nat :=
  let total := num * 2 ^ 1074
  let scale := Nat.log2 (total / den) - 52
  roundDiv total (den * 2 ^ scale) + scale * 2 ^ 52

/-- The number nearest to `num / den` with the given sign, unless that is too large. -/
def nearest? (negative : Bool) (num den : Nat) : Option Binary64 :=
  ofMagnitude? negative (nearestMagnitude num den)

/-- The nearest number to an integer below 2^1023 in size. -/
def ofInt? (n : Int) : Option Binary64 :=
  nearest? (n < 0) n.natAbs 1

end Binary64

end Entitlement
