import Entitlement.Number.Binary64

/-!
# Shortest digits

The decimal with the fewest digits that reads back as a given number. The decimals that read back
form the interval from halfway to the neighbour below to halfway to the neighbour above, both ends
included when the significand is even. Grids of ever finer powers of ten are tried in turn; on
each only the two neighbours of the number can lie in the interval, and the nearer one is taken.
-/

namespace Entitlement

/-- `digits` times ten to the power `exponent`. -/
structure ShortDecimal where
  digits : Nat
  exponent : Int
  deriving DecidableEq

/-- Which of two equally near decimals is taken. -/
inductive Tie where
  | toEven
  | upward
  deriving DecidableEq

namespace Binary64

/-- The exact absolute value in units of 2^-1076, a quarter of the least positive number. -/
def quarterUnits (x : Binary64) : Nat :=
  4 * x.significand * 2 ^ x.scale

/-- The lower end of the interval of the decimals that read back, in the same units. The gap below
a power of two is half the gap above it. -/
def lowerEnd (x : Binary64) : Nat :=
  let gap := if x.significand = 2 ^ 52 && 0 < x.scale then 1 else 2
  (4 * x.significand - gap) * 2 ^ x.scale

/-- The upper end of the interval. -/
def upperEnd (x : Binary64) : Nat :=
  (4 * x.significand + 2) * 2 ^ x.scale

/-- Holds when the decimal, taken without sign, lies in the interval of the number. -/
def readsBack (x : Binary64) (d : ShortDecimal) : Bool :=
  let value := d.digits * 10 ^ d.exponent.toNat * 2 ^ 1076
  let low := x.lowerEnd * 10 ^ (-d.exponent).toNat
  let high := x.upperEnd * 10 ^ (-d.exponent).toNat
  if x.significand % 2 = 0 then low ≤ value && value ≤ high else low < value && value < high

/-- The least power of ten above the number, counted by the digits of the number times 10^324. -/
def decimalScale (x : Binary64) : Int :=
  (Nat.toDigits 10 (x.units * 10 ^ 324 / 2 ^ 1074)).length - 324

/-- The decimal on the grid of the given power of ten that reads back and is nearest. -/
def onGrid? (x : Binary64) (tie : Tie) (exponent : Int) : Option ShortDecimal :=
  let num := x.quarterUnits * 10 ^ (-exponent).toNat
  let den := 2 ^ 1076 * 10 ^ exponent.toNat
  let below : ShortDecimal := ⟨num / den, exponent⟩
  let above : ShortDecimal := ⟨num / den + 1, exponent⟩
  match x.readsBack below, x.readsBack above with
  | true, true =>
    let twice := 2 * (num % den)
    if twice < den then some below
    else if den < twice then some above
    else
      match tie with
      | .toEven => some (if below.digits % 2 = 0 then below else above)
      | .upward => some above
  | true, false => some below
  | false, true => some above
  | false, false => none

end Binary64

/-- The decimal without the zeros at its end. At most `fuel` zeros are dropped. -/
def ShortDecimal.dropZeros : Nat → ShortDecimal → ShortDecimal
  | 0, d => d
  | fuel + 1, d =>
    if d.digits ≠ 0 ∧ d.digits % 10 = 0 then dropZeros fuel ⟨d.digits / 10, d.exponent + 1⟩ else d

/-- The shortest decimal that reads back as the absolute value of the number. Seventeen digits
always suffice; the exact value stands where none were found. -/
def Binary64.shortest (x : Binary64) (tie : Tie) : ShortDecimal :=
  let found := (List.range 17).findSome? fun (n : Nat) => x.onGrid? tie (x.decimalScale - (n + 1))
  (found.getD ⟨x.units * 5 ^ 1074, -1074⟩).dropZeros 18

end Entitlement
