import Entitlement.Number.Binary64
import Entitlement.Text.Basic

/-!
# Decimal numerals

Numbers written in decimal: an optional sign, digits with at most one point among or beside them,
and an optional power of ten. A numeral denotes the binary64 number nearest to its exact value.
-/

namespace Entitlement

/-- A decimal numeral: `digits`, read as a natural number, times ten to the power `exponent`. -/
structure Decimal where
  negative : Bool
  digits : List Char
  exponent : Int
  deriving DecidableEq

namespace Decimal

/-- Holds of the ten ASCII digits. -/
def isDigit (c : Char) : Bool :=
  '0' ≤ c && c ≤ '9'

/-- The value of an ASCII digit. -/
def digitValue (c : Char) : Nat :=
  c.toNat - '0'.toNat

/-- The natural number that a row of digits denotes. -/
def natOfDigits (ds : List Char) : Nat :=
  ds.foldl (fun n d => 10 * n + digitValue d) 0

/-- The natural number that digits denote, after an optional plus sign. -/
def natOfText? (cs : List Char) : Option Nat :=
  let ds :=
    match cs with
    | '+' :: rest => rest
    | cs => cs
  if ds.isEmpty || !ds.all isDigit then none else some (natOfDigits ds)

/-- An optional sign, `true` for minus, and what follows it. -/
def takeSign : List Char → Bool × List Char
  | '+' :: rest => (false, rest)
  | '-' :: rest => (true, rest)
  | cs => (false, cs)

/-- The integer that a text denotes: an optional sign and one or more digits, to its end. -/
def intOfText? (cs : List Char) : Option Int :=
  let (negative, ds) := takeSign cs
  if ds.isEmpty || !ds.all isDigit then none
  else some (if negative then -(natOfDigits ds : Int) else natOfDigits ds)

/-- The power of ten after the digits: nothing, or `e` and an integer, to the end of the text. -/
def exponentOfText? : List Char → Option Int
  | [] => some 0
  | c :: rest => if c = 'e' || c = 'E' then intOfText? rest else none

/-- The digits after the point, if a point follows, and the rest of the text. -/
def takeFraction : List Char → List Char × List Char
  | '.' :: rest => (rest.takeWhile isDigit, rest.dropWhile isDigit)
  | cs => ([], cs)

/-- The numeral that a text spells from its first to its last character. -/
def ofText? (cs : List Char) : Option Decimal :=
  let (negative, unsigned) := takeSign cs
  let whole := unsigned.takeWhile isDigit
  let (fraction, tail) := takeFraction (unsigned.dropWhile isDigit)
  if whole.isEmpty && fraction.isEmpty then none
  else
    (exponentOfText? tail).map fun e => ⟨negative, whole ++ fraction, e - fraction.length⟩

/-- The number nearest to the numeral, unless it is too large. With its leading zeros dropped, a
numeral of `n` digits lies between `10 ^ (exponent + n - 1)` and `10 ^ (exponent + n)`, so far too
large and far too small ones are decided by their length. -/
def toBinary64? (d : Decimal) : Option Binary64 :=
  let ds := d.digits.dropWhile (· = '0')
  let top := d.exponent + ds.length
  if ds.isEmpty || top < -330 then Binary64.ofMagnitude? d.negative 0
  else if 310 < top then none
  else
    Binary64.nearest? d.negative (natOfDigits ds * 10 ^ d.exponent.toNat) (10 ^ (-d.exponent).toNat)

end Decimal

/-- The finite number that a text denotes, blanks around it aside. -/
def numberOfText? (s : String) : Option Binary64 :=
  (Decimal.ofText? (Text.trim s.toList)).bind Decimal.toBinary64?

end Entitlement
