import Entitlement.Json.Outline
import Entitlement.Profile
import Entitlement.Scheme

/-!
# Catalogs

Exports of profiles and of schemes: JSON arrays of records. A record that cannot be read is set
aside with the reason, and does not keep the others from being loaded.
-/

namespace Entitlement

open Json

/-- Why an export cannot be loaded at all. -/
inductive CatalogError where
  | unreadable (reason : String)
  | notJson (reason : String)
  | notAnArray
  deriving DecidableEq

/-- The message for an export that cannot be loaded. -/
def CatalogError.message : CatalogError → String
  | .unreadable reason => "failed to read catalog export: " ++ reason
  | .notJson reason => "catalog export is not valid JSON: " ++ reason
  | .notAnArray => "catalog export must be a JSON array of records"

/-- A record that was set aside, by its place in the array. -/
structure Rejection where
  index : Nat
  reason : RecordError

/-- The records of an export, and those set aside. -/
structure CatalogLoad (α : Type) where
  records : List α
  rejected : List Rejection

/-- Reads the records of an array from the given place on. -/
def CatalogLoad.ofItems {α : Type} (read : Reader α) : Nat → List Json → CatalogLoad α
  | _, [] => ⟨[], []⟩
  | index, item :: items =>
    let rest := ofItems read (index + 1) items
    match read item with
    | .ok record => { rest with records := record :: rest.records }
    | .error reason => { rest with rejected := ⟨index, reason⟩ :: rest.rejected }

/-- How a reader of JSON words a fault that it met in some bytes. -/
abbrev FaultWording := Json.Fault → List UInt8 → String

/-- Loads the records of an export, given by its bytes. -/
def CatalogLoad.ofBytes {α : Type} (read : Reader α) (wording : FaultWording)
    (bytes : List UInt8) : Except CatalogError (CatalogLoad α) :=
  match parseBytes bytes with
  | .error fault => .error (.notJson (wording fault bytes))
  | .ok (.array items) => .ok (ofItems read 0 items)
  | .ok _ => .error .notAnArray

/-- Loads an export of profiles. -/
def loadProfiles (wording : FaultWording) (bytes : List UInt8) :
    Except CatalogError (CatalogLoad Profile) :=
  CatalogLoad.ofBytes Profile.ofJson wording bytes

/-- Loads an export of schemes. -/
def loadSchemes (wording : FaultWording) (bytes : List UInt8) :
    Except CatalogError (CatalogLoad Scheme) :=
  CatalogLoad.ofBytes Scheme.ofJson wording bytes

end Entitlement
