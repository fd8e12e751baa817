import Entitlement.Calendar.Date
import Entitlement.Number.Decimal

/-!
# Reading dates

Three written forms of a date. The plain form is year, month and day with hyphens, and allows
blanks before each number; the year is one to four digits, or any number after a sign. The loose
form allows blanks before the hyphens and at the end as well. A timestamp has fixed places for its
numbers, and its date is the one written in it, whatever its time and offset.
-/

namespace Entitlement

/-- Why a text is no date. -/
inductive DateError where
  | premature
  | unexpected
  | outOfRange
  | trailing
  deriving DecidableEq

/-- The message for a text that is no date. -/
def DateError.message : DateError → String
  | .premature => "premature end of input"
  | .unexpected => "input contains invalid characters"
  | .outOfRange => "input is out of range"
  | .trailing => "trailing input"

namespace Date

open Decimal (isDigit natOfDigits)

/-! ### Plain and loose dates -/

/-- A number at the front of the text, of which at most `most` digits are taken. A number of 2^63
or more is out of range. -/
def takeNumber (most : Nat) (cs : List Char) : Except DateError (Nat × List Char) :=
  if cs.isEmpty then .error .premature
  else
    let ds := (cs.take most).takeWhile isDigit
    if ds.isEmpty then .error .unexpected
    else if 2 ^ 63 ≤ natOfDigits ds then .error .outOfRange
    else .ok (natOfDigits ds, cs.drop ds.length)

/-- The year at the front of the text. A year of 2^31 or more, or less than -2^31, is out of
range. -/
def takeYear (cs : List Char) : Except DateError (Int × List Char) := do
  let (year, rest) ←
    match Text.trimStart cs with
    | '-' :: rest => (takeNumber rest.length rest).map fun (n, rest) => (-(n : Int), rest)
    | '+' :: rest => (takeNumber rest.length rest).map fun (n, rest) => ((n : Int), rest)
    | cs => (takeNumber 4 cs).map fun (n, rest) => ((n : Int), rest)
  if -2 ^ 31 ≤ year ∧ year < 2 ^ 31 then return (year, rest) else .error .outOfRange

/-- A number of one or two digits from 1 to `last`. -/
def takePart (last : Nat) (cs : List Char) : Except DateError (Nat × List Char) := do
  let (n, rest) ← takeNumber 2 (Text.trimStart cs)
  if 1 ≤ n ∧ n ≤ last then return (n, rest) else .error .outOfRange

/-- The hyphen at the front of the text. -/
def takeHyphen : List Char → Except DateError (List Char)
  | [] => .error .premature
  | '-' :: rest => .ok rest
  | _ => .error .unexpected

/-- Year, month and day with hyphens, where `gap` drops what may stand before a hyphen and at the
end. Whether the month has that day is looked at last. -/
def readWith (gap : List Char → List Char) (cs : List Char) : Except DateError Date := do
  let (year, cs) ← takeYear cs
  let cs ← takeHyphen (gap cs)
  let (month, cs) ← takePart 12 cs
  let cs ← takeHyphen (gap cs)
  let (day, cs) ← takePart 31 cs
  if !(gap cs).isEmpty then .error .trailing
  else
    match of? year month day with
    | some date => return date
    | none => .error .outOfRange

/-- The date that a text in plain form spells. -/
def readPlain (cs : List Char) : Except DateError Date :=
  readWith id cs

/-- The date that a text in loose form spells. -/
def readLoose (cs : List Char) : Except DateError Date :=
  readWith Text.trimStart cs

/-! ### Timestamps -/

/-- A number of exactly `width` digits, at most `last`. -/
def fixed? (width last : Nat) (cs : List Char) : Option (Nat × List Char) :=
  let ds := cs.take width
  if ds.length = width ∧ ds.all isDigit ∧ natOfDigits ds ≤ last then
    some (natOfDigits ds, cs.drop width)
  else none

/-- The text after one of the given characters. -/
def afterOneOf? (allowed : List Char) : List Char → Option (List Char)
  | c :: rest => if allowed.contains c then some rest else none
  | [] => none

/-- The text after the digits of a second's fraction, if there is one. -/
def afterFraction? : List Char → Option (List Char)
  | '.' :: rest => if (rest.takeWhile isDigit).isEmpty then none else some (rest.dropWhile isDigit)
  | cs => some cs

/-- The text after an offset: the letter Z, or a sign, hours and minutes. -/
def afterOffset? (cs : List Char) : Option (List Char) :=
  match afterOneOf? ['Z', 'z'] cs with
  | some rest => some rest
  | none => do
    let cs ← afterOneOf? ['+', '-', '\u2212'] cs
    let (_, cs) ← fixed? 2 23 cs
    let cs ← afterOneOf? [':'] cs
    let (_, cs) ← fixed? 2 59 cs
    return cs

/-- The date of a timestamp: four, two and two digits with hyphens, the time of day, which may be a
leap second, and an offset of less than a day. -/
def ofTimestamp? (cs : List Char) : Option Date := do
  let (year, cs) ← fixed? 4 9999 cs
  let cs ← afterOneOf? ['-'] cs
  let (month, cs) ← fixed? 2 12 cs
  let cs ← afterOneOf? ['-'] cs
  let (day, cs) ← fixed? 2 31 cs
  let cs ← afterOneOf? ['T', 't', ' '] cs
  let (_, cs) ← fixed? 2 23 cs
  let cs ← afterOneOf? [':'] cs
  let (_, cs) ← fixed? 2 59 cs
  let cs ← afterOneOf? [':'] cs
  let (_, cs) ← fixed? 2 60 cs
  let cs ← afterFraction? cs
  let cs ← afterOffset? cs
  if cs.isEmpty then of? year month day else none

/-- The date of birth that a text gives, in plain form or as a timestamp, blanks around it aside. -/
def ofBirthText? (s : String) : Option Date :=
  let cs := Text.trim s.toList
  match readPlain cs with
  | .ok date => some date
  | .error _ => ofTimestamp? cs

end Date

end Entitlement
