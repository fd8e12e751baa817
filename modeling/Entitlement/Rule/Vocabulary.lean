import Entitlement.Text.Basic

/-!
# The vocabulary of rules

The fields, operators and joiners that a rule is written in. Each has one label. A label is
recognized with blanks around it, and in no other spelling; any other text is kept as it is.
-/

namespace Entitlement

/-- A closed list of labelled terms. -/
class Vocabulary (α : Type) where
  all : List α
  label : α → String

export Vocabulary (label)

/-- The term whose label a text is, blanks around it aside. -/
def Vocabulary.ofLabel? {α : Type} [Vocabulary α] (raw : String) : Option α :=
  (Vocabulary.all (α := α)).find? fun t => label t == Text.trimmed raw

/-- A text read as a term: the term, or the whole text where it is none. -/
inductive Term (α : Type) where
  | known (term : α)
  | unrecognized (raw : String)
  deriving DecidableEq

namespace Term

variable {α : Type} [Vocabulary α]

/-- Reads a term. -/
def read (raw : String) : Term α :=
  match Vocabulary.ofLabel? raw with
  | some t => .known t
  | none => .unrecognized raw

/-- The term, if the text was one. -/
def known? : Term α → Option α
  | .known t => some t
  | .unrecognized _ => none

/-- The label of the term, or the text that was none. -/
def text : Term α → String
  | .known t => label t
  | .unrecognized raw => raw

end Term

/-! ### Fields -/

/-- What a condition can ask about a profile. -/
inductive Field where
  | annualIncome
  | age
  | category
  | state
  | educationLevel
  | gender
  | minorityStatus
  | disabilityStatus
  | institutionType
  | marksPercentage
  deriving DecidableEq

instance : Vocabulary Field where
  all := [.annualIncome, .age, .category, .state, .educationLevel, .gender, .minorityStatus,
    .disabilityStatus, .institutionType, .marksPercentage]
  label
    | .annualIncome => "Annual Income"
    | .age => "Age"
    | .category => "Category"
    | .state => "State"
    | .educationLevel => "Education Level"
    | .gender => "Gender"
    | .minorityStatus => "Minority Status"
    | .disabilityStatus => "Disability Status"
    | .institutionType => "Institution Type"
    | .marksPercentage => "Marks Percentage"

/-- The options that authors choose from for a field. An open field has none. -/
def Field.options : Field → List String
  | .category => ["General", "OBC", "SC", "ST"]
  | .educationLevel => ["10th", "12th", "Diploma", "UG", "PG"]
  | .gender => ["Male", "Female", "Other"]
  | .minorityStatus => ["Yes", "No"]
  | .disabilityStatus => ["No Disability", "Physical", "Visual", "Hearing", "Other"]
  | .institutionType => ["Government", "Private"]
  | .annualIncome | .age | .state | .marksPercentage => []

/-! ### Operators and joiners -/

/-- How a profile's value is compared with a rule's. -/
inductive Operator where
  | equals
  | notEquals
  | lessThan
  | greaterThan
  | between
  | includes
  deriving DecidableEq

instance : Vocabulary Operator where
  all := [.equals, .notEquals, .lessThan, .greaterThan, .between, .includes]
  label
    | .equals => "Equals"
    | .notEquals => "Not Equals"
    | .lessThan => "Less Than"
    | .greaterThan => "Greater Than"
    | .between => "Between"
    | .includes => "Includes"

/-- How the rows of a group combine. -/
inductive Joiner where
  | all
  | any
  deriving DecidableEq

instance : Vocabulary Joiner where
  all := [.all, .any]
  label
    | .all => "AND"
    | .any => "OR"

end Entitlement
