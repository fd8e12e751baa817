import Entitlement.Profile
import Entitlement.Scheme

/-!
# Stores

The profiles and the schemes that a service works on. The profile store lists one profile for each
id, ascending; the scheme store keeps the order of the catalog, in which an id may occur again, and
there the first scheme counts. A store may be out, and then every use of it fails.
-/

namespace Entitlement

/-- Why a store gives no answer. -/
inductive StoreError where
  | notFound
  | unavailable (reason : String)
  deriving DecidableEq

/-- The message for a store that gives no answer. -/
def StoreError.message : StoreError → String
  | .notFound => "record not found"
  | .unavailable reason => "store unavailable: " ++ reason

/-- The answer of a store, which is the error while the store is out. -/
def unlessOut {α : Type} (outage : Option StoreError) (answer : Except StoreError α) :
    Except StoreError α :=
  match outage with
  | some e => .error e
  | none => answer

/-! ### Profiles -/

/-- A store of profiles. -/
structure ProfileStore where
  /-- The profiles, ascending by id. -/
  records : List Profile
  outage : Option StoreError := none
  deriving DecidableEq

namespace ProfileStore

/-- Puts a profile in its place among profiles that ascend by id; it replaces one with its id. -/
def insert (p : Profile) : List Profile → List Profile
  | [] => [p]
  | q :: rest =>
    if p.id < q.id then p :: q :: rest
    else if p.id = q.id then p :: rest
    else q :: insert p rest

/-- The store of a list of profiles. Of profiles with one id the last stays. -/
def ofList (profiles : List Profile) : ProfileStore where
  records := profiles.foldl (fun records p => insert p records) []

/-- The profile with the given id, if there is one. -/
def fetch (s : ProfileStore) (id : String) : Except StoreError (Option Profile) :=
  unlessOut s.outage (.ok (s.records.find? (·.id = id)))

/-- All profiles. -/
def all (s : ProfileStore) : Except StoreError (List Profile) :=
  unlessOut s.outage (.ok s.records)

end ProfileStore

/-! ### Schemes -/

/-- A store of schemes. -/
structure SchemeStore where
  /-- The schemes, in the order of the catalog. -/
  records : List Scheme
  outage : Option StoreError := none
  deriving DecidableEq

namespace SchemeStore

/-- Puts a scheme in the place of the first one with its id. -/
def replace? (scheme : Scheme) : List Scheme → Option (List Scheme)
  | [] => none
  | s :: rest =>
    if s.id = scheme.id then some (scheme :: rest) else (replace? scheme rest).map (s :: ·)

/-- The store of a list of schemes. -/
def ofList (schemes : List Scheme) : SchemeStore where
  records := schemes

/-- The first scheme with the given id, if there is one. -/
def fetch (s : SchemeStore) (id : String) : Except StoreError (Option Scheme) :=
  unlessOut s.outage (.ok (s.records.find? (·.id = id)))

/-- All schemes. -/
def all (s : SchemeStore) : Except StoreError (List Scheme) :=
  unlessOut s.outage (.ok s.records)

/-- The store with a scheme in the place of the first one that has its id. -/
def update (s : SchemeStore) (scheme : Scheme) : Except StoreError SchemeStore :=
  unlessOut s.outage
    (match replace? scheme s.records with
      | some records => .ok { s with records }
      | none => .error .notFound)

end SchemeStore

end Entitlement
