import Entitlement.Json.Record

/-!
# Citizen profiles

What is known of a citizen. An attribute that was never supplied is absent, and no condition on it
holds; a text that is empty was supplied.
-/

namespace Entitlement

open Json

/-- The role of an account. -/
inductive Role where
  | student
  | normalUser
  | admin
  deriving DecidableEq

/-- The names of the roles. -/
def Role.variants : List (String × Role) :=
  [("student", .student), ("normalUser", .normalUser), ("admin", .admin)]

/-- The name of a role. -/
def Role.name : Role → String
  | .student => "student"
  | .normalUser => "normalUser"
  | .admin => "admin"

/-- A citizen's profile. -/
structure Profile where
  id : String
  role : Role := .student
  annualIncome : Option Binary64 := none
  dateOfBirth : Option String := none
  /-- The age as stated, which counts before the date of birth. -/
  age : Option UInt32 := none
  category : Option String := none
  state : Option String := none
  educationLevel : Option String := none
  gender : Option String := none
  minorityStatus : Option String := none
  disabilityStatus : Option String := none
  institutionType : Option String := none
  marksPercentage : Option Binary64 := none
  deriving DecidableEq

namespace Profile

/-- Holds unless the profile is an administrator's, which is never matched with a scheme. -/
def isMatchable (p : Profile) : Bool :=
  p.role ≠ .admin

/-- Reads a profile. Of several faults the one in the member with the least key is reported. -/
def ofJson : Reader Profile
  | .object members => do
    let text (key : String) : Except RecordError (Option String) :=
      Option.join <$> readMember members key (readOptional readText)
    let number (key : String) : Except RecordError (Option Binary64) :=
      Option.join <$> readMember members key (readOptional readNumber)
    let age ← Option.join <$> readMember members "age" (readOptional readWord)
    let annualIncome ← number "annualIncome"
    let category ← text "category"
    let dateOfBirth ← text "dateOfBirth"
    let disabilityStatus ← text "disabilityStatus"
    let educationLevel ← text "educationLevel"
    let gender ← text "gender"
    let id ← readMember members "id" readText
    let institutionType ← text "institutionType"
    let marksPercentage ← number "marksPercentage"
    let minorityStatus ← text "minorityStatus"
    let role ← readMember members "role" (readVariant Role.variants)
    let state ← text "state"
    return { id := id.getD "", role := role.getD .student, annualIncome, dateOfBirth, age, category,
             state, educationLevel, gender, minorityStatus, disabilityStatus, institutionType,
             marksPercentage }
  | .array items => do
    let shape := "struct Profile with 13 elements"
    let text (i : Nat) : Except RecordError (Option String) :=
      readItem shape items i (readOptional readText)
    let id ← readItemOr "" items 0 readText
    let role ← readItemOr .student items 1 (readVariant Role.variants)
    let annualIncome ← readItem shape items 2 (readOptional readNumber)
    let dateOfBirth ← text 3
    let age ← readItem shape items 4 (readOptional readWord)
    let category ← text 5
    let state ← text 6
    let educationLevel ← text 7
    let gender ← text 8
    let minorityStatus ← text 9
    let disabilityStatus ← text 10
    let institutionType ← text 11
    let marksPercentage ← readItem shape items 12 (readOptional readNumber)
    checkLength items 13
    return { id, role, annualIncome, dateOfBirth, age, category, state, educationLevel, gender,
             minorityStatus, disabilityStatus, institutionType, marksPercentage }
  | v => wrongType v "struct Profile"

end Profile

end Entitlement
