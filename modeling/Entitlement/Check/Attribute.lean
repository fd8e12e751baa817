import Entitlement.Number.Decimal
import Entitlement.Profile
import Entitlement.Rule.Vocabulary

/-!
# Attributes

The value that a profile supplies for a field on a given day. Only the age depends on the day, and
only where it is worked out from the date of birth.
-/

namespace Entitlement

/-- The value of one field of a profile. -/
inductive Attribute where
  | number (x : Binary64)
  | text (s : String)
  deriving DecidableEq

/-- The attribute as a number: a text counts when it denotes a finite number. -/
def Attribute.number? : Attribute → Option Binary64
  | .number x => some x
  | .text s => numberOfText? s

/-- The attribute as a text. -/
def Attribute.shown : Attribute → String
  | .number x => x.plainText
  | .text s => s

namespace Profile

/-- The age of a citizen. A stated age counts before the date of birth, and one of 2^31 or more is
no age. -/
def age? (p : Profile) (today : Date) : Option Int :=
  match p.age with
  | some n => if n.toNat < 2 ^ 31 then some n.toNat else none
  | none => (p.dateOfBirth.bind Date.ofBirthText?).map fun birth => Date.ageOn birth today

/-- The value of a field, if the profile supplies one. -/
def attribute? (p : Profile) (today : Date) : Field → Option Attribute
  | .annualIncome => p.annualIncome.map .number
  | .age => ((p.age? today).bind Binary64.ofInt?).map .number
  | .category => p.category.map .text
  | .state => p.state.map .text
  | .educationLevel => p.educationLevel.map .text
  | .gender => p.gender.map .text
  | .minorityStatus => p.minorityStatus.map .text
  | .disabilityStatus => p.disabilityStatus.map .text
  | .institutionType => p.institutionType.map .text
  | .marksPercentage => p.marksPercentage.map .number

end Profile

end Entitlement
