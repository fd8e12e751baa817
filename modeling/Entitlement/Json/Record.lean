import Entitlement.Calendar.Reading
import Entitlement.Json.Basic
import Entitlement.Text.Quoted

/-!
# Reading records from JSON

A record is an object whose members are its fields, or an array of its fields in order. Fields that
may be absent have a default; members that are no fields are passed over. A value of the wrong kind
is an error that says what was found and what was expected.
-/

namespace Entitlement.Json

/-! ### Errors -/

/-- What stands where something else was expected. -/
inductive Found where
  | null
  | bool (b : Bool)
  | number (n : Number)
  | text (s : String)
  | sequence
  | map

/-- Why a value is not the record that was asked for. -/
inductive RecordError where
  | missingField (name : String)
  | invalidType (found : Found) (expected : String)
  | invalidValue (found : Found) (expected : String)
  | unknownVariant (name : String) (known : List String)
  | invalidLength (length : Nat) (expected : String)
  | noDate (e : DateError)

/-- What a value is, for messages. -/
def found : Json → Found
  | .null => .null
  | .bool b => .bool b
  | .number n => .number n
  | .text s => .text s
  | .array _ => .sequence
  | .object _ => .map

/-- The words for what was found. -/
def Found.message : Found → String
  | .null => "null"
  | .bool b => "boolean `" ++ toString b ++ "`"
  | .number (.integer n) => "integer `" ++ toString n ++ "`"
  | .number (.real x) => "floating point `" ++ x.jsonText ++ "`"
  | .text s => "string " ++ Text.quoted s
  | .sequence => "sequence"
  | .map => "map"

/-- The message for a record that cannot be read. -/
def RecordError.message : RecordError → String
  | .missingField name => "missing field `" ++ name ++ "`"
  | .invalidType found expected =>
    "invalid type: " ++ found.message ++ ", expected " ++ expected
  | .invalidValue found expected =>
    "invalid value: " ++ found.message ++ ", expected " ++ expected
  | .unknownVariant name known =>
    "unknown variant `" ++ name ++ "`, expected one of " ++
      ", ".intercalate (known.map fun k => "`" ++ k ++ "`")
  | .invalidLength length expected =>
    "invalid length " ++ toString length ++ ", expected " ++ expected
  | .noDate e => e.message

/-- A way to read a value. -/
abbrev Reader (α : Type) := Json → Except RecordError α

/-- The error for a value of the wrong kind. -/
def wrongType {α : Type} (v : Json) (expected : String) : Except RecordError α :=
  .error (.invalidType v.found expected)

/-! ### Single values -/

/-- Reads a text. -/
def readText : Reader String
  | .text s => .ok s
  | v => wrongType v "a string"

/-- Reads a truth value. -/
def readBool : Reader Bool
  | .bool b => .ok b
  | v => wrongType v "a boolean"

/-- Reads a number. -/
def readNumber : Reader Binary64
  | .number n => .ok n.toBinary64
  | v => wrongType v "f64"

/-- Reads an integer from 0 to below `limit`; `kind` is its name. -/
def readNat (limit : Nat) (kind : String) : Reader Nat
  | .number (.integer n) =>
    if 0 ≤ n ∧ n < limit then .ok n.toNat else .error (.invalidValue (.number (.integer n)) kind)
  | v => wrongType v kind

/-- Reads an integer of 8 bits. -/
def readNat8 : Reader Nat := readNat (2 ^ 8) "u8"

/-- Reads an integer of 32 bits. -/
def readWord : Reader UInt32 := fun v => UInt32.ofNat <$> readNat (2 ^ 32) "u32" v

/-- Reads an integer of 64 bits. -/
def readSize : Reader Nat := readNat (2 ^ 64) "usize"

/-- Reads a date in loose form. -/
def readDate : Reader Date
  | .text s => (Date.readLoose s.toList).mapError .noDate
  | v => wrongType v "a formatted date string"

/-- Reads a value that may be null. -/
def readOptional {α : Type} (read : Reader α) : Reader (Option α)
  | .null => .ok none
  | v => some <$> read v

/-- Reads an array of values. -/
def readList {α : Type} (read : Reader α) : Reader (List α)
  | .array items => items.mapM read
  | v => wrongType v "a sequence"

/-- Reads one of several names: a text, or an object with the name as its only key and null as the
value. -/
def readVariant {α : Type} (variants : List (String × α)) : Reader α := fun v =>
  let named (name : String) : Except RecordError α :=
    match variants.lookup name with
    | some a => .ok a
    | none => .error (.unknownVariant name (variants.map Prod.fst))
  match v with
  | .text name => named name
  | .object [(name, content)] => do
    let a ← named name
    match content with
    | .null => return a
    | _ => wrongType content "unit"
  | .object _ => .error (.invalidValue .map "map with a single key")
  | _ => wrongType v "string or map"

/-! ### Members of objects -/

/-- Reads the member with the given key, if it is there. -/
def readMember {α : Type} (members : List (String × Json)) (key : String) (read : Reader α) :
    Except RecordError (Option α) :=
  match members.lookup key with
  | some v => some <$> read v
  | none => .ok none

/-- The value of a field that has to be there. -/
def required {α : Type} (key : String) : Option α → Except RecordError α
  | some a => .ok a
  | none => .error (.missingField key)

/-! ### Items of arrays -/

/-- Reads the item at a place; `shape` is the record it belongs to. -/
def readItem {α : Type} (shape : String) (items : List Json) (i : Nat) (read : Reader α) :
    Except RecordError α :=
  match items[i]? with
  | some v => read v
  | none => .error (.invalidLength i shape)

/-- Reads the item at a place, which may be absent. -/
def readItemOr {α : Type} (default : α) (items : List Json) (i : Nat) (read : Reader α) :
    Except RecordError α :=
  match items[i]? with
  | some v => read v
  | none => .ok default

/-- Checks that an array has no more items than a record has fields. -/
def checkLength (items : List Json) (fields : Nat) : Except RecordError Unit :=
  if items.length ≤ fields then .ok ()
  else .error (.invalidLength items.length "fewer elements in array")

end Entitlement.Json
