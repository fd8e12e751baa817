import Entitlement.Number.Text

/-!
# JSON values

Values of the JSON data format. A number is an integer of at most 64 bits or a binary64 number;
the two are told apart by how they are written. The members of an object that was read are
ascending by key, and a key occurs once.
-/

namespace Entitlement

/-- A JSON number. -/
inductive Json.Number where
  | integer (n : Int)
  | real (x : Binary64)
  deriving DecidableEq

/-- A JSON value. -/
inductive Json where
  | null
  | bool (b : Bool)
  | number (n : Json.Number)
  | text (s : String)
  | array (items : List Json)
  | object (members : List (String × Json))

namespace Json

/-- The number as written in JSON. -/
def Number.text : Number → String
  | .integer n => toString n
  | .real x => x.jsonText

/-- The binary64 number nearest to a JSON number. -/
def Number.toBinary64 : Number → Binary64
  | .integer n => (Binary64.ofInt? n).getD .zero
  | .real x => x

/-- A natural number as a JSON value. -/
def nat (n : Nat) : Json :=
  .number (.integer n)

/-- A list of texts as a JSON value. -/
def texts (ss : List String) : Json :=
  .array (ss.map .text)

/-- Puts a member in its place among members that ascend by key; it replaces one with its key. -/
def insertMember (key : String) (value : Json) : List (String × Json) → List (String × Json)
  | [] => [(key, value)]
  | (k, v) :: rest =>
    if key < k then (key, value) :: (k, v) :: rest
    else if key = k then (key, value) :: rest
    else (k, v) :: insertMember key value rest

/-- Members in ascending order of their keys. Of members with one key the last stays. -/
def sortMembers (members : List (String × Json)) : List (String × Json) :=
  members.foldl (fun sorted m => insertMember m.1 m.2 sorted) []

mutual

/-- The value with the members of all of its objects in ascending order. -/
def sorted : Json → Json
  | .array items => .array (sortedItems items)
  | .object members => .object (sortMembers (sortedMembers members))
  | v => v

/-- The items, each sorted. -/
def sortedItems : List Json → List Json
  | [] => []
  | item :: items => item.sorted :: sortedItems items

/-- The members in their order, the value of each sorted. -/
def sortedMembers : List (String × Json) → List (String × Json)
  | [] => []
  | (key, value) :: members => (key, value.sorted) :: sortedMembers members

end

/-- The value of the member with the given key. -/
def member? (key : String) : Json → Option Json
  | .object members => members.lookup key
  | _ => none

end Json

end Entitlement
