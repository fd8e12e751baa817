import Entitlement.Json.Outline
import Entitlement.Json.Record

/-!
# Reading a text by its shape

A text can be read straight into the shape that is expected of it. It is then looked at from front
to back, and what it meets first counts: a value of the wrong kind, a repeated field, or a fault of
the text itself. Members that are no fields are skipped, and only their structure has to be sound.
-/

namespace Entitlement.Json

/-- What is expected of a value. Each shape comes with the test of a reader. -/
inductive Shape where
  /-- A text, a number, a truth value or null. -/
  | scalar (accepts : Json → Bool)
  /-- Any value. -/
  | anything
  /-- One of several names, written as a text or as the key of an object that holds null. -/
  | variant (names : List String)
  /-- An array of values of one shape. -/
  | list (item : Shape)
  /-- A record, by its fields in order. -/
  | record (fields : List (String × Shape)) (accepts : Json → Bool)

/-- Why a text does not have the expected shape. -/
inductive ShapeError where
  | notJson
  | mismatch
  deriving DecidableEq

/-- The test whether a reader accepts a value. -/
def Reader.accepts {α : Type} (read : Reader α) (v : Json) : Bool :=
  (read v).isOk

/-! ### Skipping -/

mutual

/-- Holds when the structure of a value is sound to its end, whatever its strings and numbers. -/
def Outline.isSound : Outline → Bool
  | .null | .bool _ | .number _ => true
  | .string _ ending => ending.isNone
  | .array items ending => areSoundItems items && ending.isNone
  | .object members ending => areSoundMembers members && ending.isNone
  | .broken _ => false

/-- Holds when the structure of all items is sound. -/
def areSoundItems : List Outline → Bool
  | [] => true
  | item :: items => item.isSound && areSoundItems items

/-- Holds when the structure of all members is sound. -/
def areSoundMembers : List (Except Fault String × Outline) → Bool
  | [] => true
  | (_, value) :: members => value.isSound && areSoundMembers members

end

/-! ### Reading -/

/-- Succeeds when no end is missing. -/
def closed (ending : Option Fault) : Except ShapeError Unit :=
  if ending.isNone then .ok () else .error .notJson

/-- The value, if the test accepts it. -/
def acceptedBy (accepts : Json → Bool) (v : Json) : Except ShapeError Json :=
  if accepts v then .ok v else .error .mismatch

/-- Reads a value that is no array or object, and fails with a mismatch unless the test accepts
it. -/
def Outline.scalarAs (accepts : Json → Bool) (o : Outline) : Except ShapeError Json :=
  match o.value 0 with
  | .ok v => acceptedBy accepts v
  | .error _ => .error .notJson

/-- Reads one of several names from the members of an object. -/
def variantOfMembers (names : List String) (ending : Option Fault) :
    List (Except Fault String × Outline) → Except ShapeError Json
  | [] => .error .notJson
  | (key, content) :: rest => do
    let name ← key.mapError fun _ => ShapeError.notJson
    if !names.contains name then .error .mismatch
    else
      let value ←
        match content with
        | .array _ _ | .object _ _ => .error .mismatch
        | content => content.scalarAs fun v => v matches .null
      closed ending
      if rest.isEmpty then return .object [(name, value)] else .error .notJson

mutual

/-- Reads a value of the given shape, with at most `depth` arrays and objects nested. -/
def Outline.readAs (depth : Nat) (shape : Shape) : Outline → Except ShapeError Json
  | .array items ending =>
    match shape, depth with
    | .scalar _, _ => .error .mismatch
    | .variant _, _ => .error .notJson
    | .anything, depth => (Outline.array items ending |>.value depth).mapError fun _ => .notJson
    | .list _, 0 | .record _ _, 0 => .error .notJson
    | .list item, depth + 1 => do
      let values ← itemsAs depth item items
      closed ending
      return .array values
    | .record fields accepts, depth + 1 => do
      let values ← fieldsAs depth (fields.map Prod.snd) items
      closed ending
      acceptedBy accepts (.array values)
  | .object members ending =>
    match shape, depth with
    | .scalar _, _ | .list _, _ => .error .mismatch
    | .anything, depth => (Outline.object members ending |>.value depth).mapError fun _ => .notJson
    | .variant _, 0 | .record _ _, 0 => .error .notJson
    | .variant names, _ + 1 => variantOfMembers names ending members
    | .record fields accepts, depth + 1 => do
      let values ← membersAs depth fields [] members
      closed ending
      acceptedBy accepts (.object (sortMembers values))
  | .string content ending =>
    match shape with
    | .scalar accepts => (Outline.string content ending).scalarAs accepts
    | .anything => (Outline.string content ending).scalarAs fun _ => true
    | .variant names =>
      (Outline.string content ending).scalarAs fun v =>
        match v with
        | .text name => names.contains name
        | _ => false
    | .list _ | .record _ _ => (Outline.string content ending).scalarAs fun _ => false
  | o =>
    match shape with
    | .scalar accepts => o.scalarAs accepts
    | .anything => o.scalarAs fun _ => true
    | .variant _ => .error .notJson
    | .list _ | .record _ _ => o.scalarAs fun _ => false

/-- Reads items of one shape. -/
def itemsAs (depth : Nat) (shape : Shape) : List Outline → Except ShapeError (List Json)
  | [] => .ok []
  | item :: items => do
    let value ← item.readAs depth shape
    let values ← itemsAs depth shape items
    return value :: values

/-- Reads items of the given shapes in turn, of which some may be absent at the end. -/
def fieldsAs (depth : Nat) (shapes : List Shape) : List Outline → Except ShapeError (List Json)
  | [] => .ok []
  | item :: items =>
    match shapes with
    | [] => .error .notJson
    | shape :: shapes => do
      let value ← item.readAs depth shape
      let values ← fieldsAs depth shapes items
      return value :: values

/-- Reads the members that are fields, none of which may be among those `seen`, and skips the
others. -/
def membersAs (depth : Nat) (fields : List (String × Shape)) (seen : List String) :
    List (Except Fault String × Outline) → Except ShapeError (List (String × Json))
  | [] => .ok []
  | (key, value) :: members => do
    let name ← key.mapError fun _ => ShapeError.notJson
    match fields.lookup name with
    | none =>
      if value.isSound then membersAs depth fields seen members else .error .notJson
    | some shape =>
      if seen.contains name then .error .mismatch
      else do
        let value ← value.readAs depth shape
        let values ← membersAs depth fields (name :: seen) members
        return (name, value) :: values

end

/-- The value that the symbols of a text spell in the given shape. What follows it is not looked
at. -/
def readShape (shape : Shape) (cs : List Text.Symbol) : Except ShapeError Json :=
  (outlineOf cs).1.readAs maxDepth shape

end Entitlement.Json
