/-!
# Calendar dates

Dates of the proleptic Gregorian calendar, from year -262143 to year 262142. The year before year 1
is year 0. Dates are ordered by year, then month, then day; their day numbers count the days
between them.
-/

namespace Entitlement

/-- Holds of the years that have a 29 February. -/
def isLeapYear (year : Int) : Bool :=
  year % 4 = 0 && (year % 100 ≠ 0 || year % 400 = 0)

/-- The number of days of a month, counted from 1 for January. -/
def daysInMonth (year : Int) (month : Nat) : Nat :=
  if month = 2 then (if isLeapYear year then 29 else 28)
  else if month = 4 ∨ month = 6 ∨ month = 9 ∨ month = 11 then 30
  else 31

/-- A date of the calendar. -/
structure Date where
  year : Int
  month : Nat
  day : Nat
  year_mem : -262143 ≤ year ∧ year ≤ 262142
  month_mem : 1 ≤ month ∧ month ≤ 12
  day_mem : 1 ≤ day ∧ day ≤ daysInMonth year month
  deriving DecidableEq

namespace Date

/-- The date with the given year, month and day, if the calendar has it. -/
def of? (year : Int) (month day : Nat) : Option Date :=
  if h : (-262143 ≤ year ∧ year ≤ 262142) ∧ (1 ≤ month ∧ month ≤ 12) ∧
      (1 ≤ day ∧ day ≤ daysInMonth year month) then
    some ⟨year, month, day, h.1, h.2.1, h.2.2⟩
  else none

/-- Holds when the first day of the year given by month and day is before the second. -/
def earlierInYear (month₁ day₁ month₂ day₂ : Nat) : Prop :=
  month₁ < month₂ ∨ (month₁ = month₂ ∧ day₁ < day₂)

instance (m₁ d₁ m₂ d₂ : Nat) : Decidable (earlierInYear m₁ d₁ m₂ d₂) :=
  inferInstanceAs (Decidable (_ ∨ _))

instance : LT Date :=
  ⟨fun a b => a.year < b.year ∨ (a.year = b.year ∧ earlierInYear a.month a.day b.month b.day)⟩

instance : LE Date := ⟨fun a b => ¬ b < a⟩

instance (a b : Date) : Decidable (a < b) := inferInstanceAs (Decidable (_ ∨ _))

instance (a b : Date) : Decidable (a ≤ b) := inferInstanceAs (Decidable (¬ _))

/-- The days of the year before the first of the month. -/
def daysBeforeMonth (year : Int) : Nat → Nat
  | 0 | 1 => 0
  | month + 2 => daysBeforeMonth year (month + 1) + daysInMonth year (month + 1)

/-- The days from the first of January of year 1 to that of the given year. -/
def daysBeforeYear (year : Int) : Int :=
  let y := year - 1
  365 * y + y / 4 - y / 100 + y / 400

/-- The number of the date when days are counted one by one from 1 January of year 1, which is
day 1. -/
def dayNumber (d : Date) : Int :=
  daysBeforeYear d.year + daysBeforeMonth d.year d.month + d.day

/-- The last date of the calendar. -/
def last : Date := ⟨262142, 12, 31, by decide, by decide, by decide⟩

/-- The year that the day with the given number is in. Four hundred years have 146097 days, and a
guess by that is never too late and at most one year too early. -/
def yearOfDay (n : Int) : Int :=
  let guess := 400 * (n - 1) / 146097 + 1
  if n ≤ daysBeforeYear (guess + 1) then guess else guess + 1

/-- The date of a day of a year, counted from 1 for the first of January. -/
def ofYearDay? (year : Int) (n : Nat) : Option Date :=
  ((List.range 12).find? fun m => n ≤ daysBeforeMonth year (m + 2)).bind fun m =>
    of? year (m + 1) (n - daysBeforeMonth year (m + 1))

/-- The date with the given day number, if the calendar has it. -/
def ofDayNumber? (n : Int) : Option Date :=
  let year := yearOfDay n
  ofYearDay? year (n - daysBeforeYear year).toNat

/-- The date that comes the given number of days later, if the calendar has it. -/
def plusDays? (d : Date) (days : Nat) : Option Date :=
  ofDayNumber? (d.dayNumber + days)

/-- The whole years from a birth to a day: the difference of the years, less one until the birthday
has come. -/
def ageOn (birth day : Date) : Int :=
  let years := day.year - birth.year
  if earlierInYear day.month day.day birth.month birth.day then years - 1 else years

/-- A natural number with at least `width` digits. -/
def padded (width n : Nat) : List Char :=
  let ds := Nat.toDigits 10 n
  List.replicate (width - ds.length) '0' ++ ds

/-- The date as year, month and day with hyphens. The year has at least four digits; one before
year 0 or after year 9999 has a sign. -/
def text (d : Date) : String :=
  let sign := if d.year < 0 then ['-'] else if 9999 < d.year then ['+'] else []
  String.ofList (sign ++ padded 4 d.year.natAbs ++ '-' :: padded 2 d.month ++ '-' :: padded 2 d.day)

end Date

end Entitlement
