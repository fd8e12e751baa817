import Entitlement.Calendar.Reading
import Entitlement.Number.Decimal

/-!
# Commands

The command line: one of three commands with its options, or a question for the version or for
help. An option is given once, and its value follows it or stands after an equals sign; a value
that starts with a hyphen has to stand after an equals sign. Without a command the service is
started.
-/

namespace Entitlement.Command

/-- The exports that the stores are filled from. -/
structure CatalogOptions where
  profiles : Option String := none
  schemes : Option String := none
  deriving DecidableEq

/-- The paths of the exports that are given. -/
def CatalogOptions.paths (o : CatalogOptions) : List String :=
  o.profiles.toList ++ o.schemes.toList

/-- How the service is started. -/
structure ServeOptions where
  host : Option String := none
  port : Option UInt16 := none
  catalog : CatalogOptions := {}
  deriving DecidableEq

/-- Which results are reported: those of one profile or of all. -/
structure ResultsOptions where
  catalog : CatalogOptions
  profileId : Option String
  today : Option Date
  json : Bool
  deriving DecidableEq

/-- Which scheme is published. -/
structure PublishOptions where
  catalog : CatalogOptions
  schemeId : String
  today : Option Date
  json : Bool
  deriving DecidableEq

/-- What the program is asked to do. -/
inductive Request where
  | help
  | version
  | serve (options : ServeOptions)
  | results (options : ResultsOptions)
  | publish (options : PublishOptions)
  deriving DecidableEq

/-! ### Options -/

/-- The options that were given, by name. Flags have no value. -/
abbrev Given := List (String × Option String)

/-- The name of an option, and the value after an equals sign. -/
def nameAndValue? (arg : String) : Option (String × Option String) :=
  match arg.toList with
  | '-' :: '-' :: cs =>
    let name := String.ofList (cs.takeWhile (· ≠ '='))
    match cs.dropWhile (· ≠ '=') with
    | [] => some (name, none)
    | _ :: value => some (name, some (String.ofList value))
  | _ => none

/-- Holds when a text can follow an option as its value. -/
def canFollow (value : String) : Bool :=
  value = "-" || !value.startsWith "-"

/-- Collects the options of a command that takes the given valued options and flags. Two hyphens
may end them. -/
def collect? (valued flags : List String) (given : Given) : List String → Option Given
  | [] => some given
  | arg :: rest =>
    if arg = "--" then (if rest.isEmpty then some given else none)
    else
      match nameAndValue? arg with
      | none => none
      | some (name, value) =>
        if (given.lookup name).isSome then none
        else if flags.contains name then
          if value.isSome then none else collect? valued flags ((name, none) :: given) rest
        else if !valued.contains name then none
        else
          match value with
          | some value => collect? valued flags ((name, some value) :: given) rest
          | none =>
            match rest with
            | value :: rest =>
              if canFollow value then collect? valued flags ((name, some value) :: given) rest
              else none
            | [] => none

/-- The value of an option that may be absent, if it can be read. -/
def optional? {α : Type} (given : Given) (name : String) (read : String → Option α) :
    Option (Option α) :=
  match (given.lookup name).join with
  | some value => (read value).map some
  | none => some none

/-- Holds when a flag was given. -/
def hasFlag (given : Given) (name : String) : Bool :=
  (given.lookup name).isSome

/-! ### Values -/

/-- A path, which is not empty. -/
def pathOfText? (s : String) : Option String :=
  if s.isEmpty then none else some s

/-- A port: an integer of 16 bits. -/
def portOfText? (s : String) : Option UInt16 :=
  ((Decimal.intOfText? s.toList).filter fun n => 0 ≤ n && n < 65536).map fun n =>
    UInt16.ofNat n.toNat

/-- A date in plain form, or the message that the text is none. -/
def readDay (raw : String) : Except String Date :=
  (Date.readPlain (Text.trim raw.toList)).mapError fun e =>
    "failed to parse '" ++ raw ++ "' as YYYY-MM-DD (" ++ e.message ++ ")"

/-! ### Commands -/

/-- The exports among the options. -/
def catalogOf? (given : Given) : Option CatalogOptions := do
  let profiles ← optional? given "profiles" pathOfText?
  let schemes ← optional? given "schemes" pathOfText?
  return { profiles, schemes }

/-- The options to start the service with. -/
def serveOf? (args : List String) : Option ServeOptions := do
  let given ← collect? ["host", "port", "profiles", "schemes"] [] [] args
  let catalog ← catalogOf? given
  let host ← optional? given "host" some
  let port ← optional? given "port" portOfText?
  return { host, port, catalog }

/-- The options to report results with. -/
def resultsOf? (args : List String) : Option ResultsOptions := do
  let given ← collect? ["profiles", "schemes", "profile-id", "today"] ["json"] [] args
  let catalog ← catalogOf? given
  let profileId ← optional? given "profile-id" some
  let today ← optional? given "today" fun raw => (readDay raw).toOption
  return { catalog, profileId, today, json := hasFlag given "json" }

/-- The options to publish a scheme with. -/
def publishOf? (args : List String) : Option PublishOptions := do
  let given ← collect? ["profiles", "schemes", "scheme-id", "today"] ["json"] [] args
  let catalog ← catalogOf? given
  let schemeId ← (given.lookup "scheme-id").join
  let today ← optional? given "today" fun raw => (readDay raw).toOption
  return { catalog, schemeId, today, json := hasFlag given "json" }

/-- The question that an argument asks by one of its letters or by its name. -/
def questionOf? (arg : String) : Option Request :=
  match arg.toList with
  | '-' :: 'V' :: _ => some .version
  | '-' :: 'h' :: _ => some .help
  | _ =>
    if arg = "--version" then some .version
    else if arg = "--help" then some .help
    else none

/-- The names of the commands, each of which help can be asked for. -/
def commandNames : List String :=
  ["serve", "results", "publish", "help"]

/-- The question for help with the command that is named, or with all of them. -/
def helpOf? : List String → Option Request
  | [] => some .help
  | [name] => if commandNames.contains name then some .help else none
  | _ => none

/-- Reads a command line, if it is well formed. -/
def Request.ofArgs? : List String → Option Request
  | [] | ["--"] => some (.serve {})
  | "serve" :: args => (serveOf? args).map .serve
  | "results" :: args => (resultsOf? args).map .results
  | "publish" :: args => (publishOf? args).map .publish
  | "help" :: args => helpOf? args
  | arg :: _ => questionOf? arg

/-- The paths that the exports are read from. -/
def Request.paths : Request → List String
  | .help | .version => []
  | .serve o => o.catalog.paths
  | .results o => o.catalog.paths
  | .publish o => o.catalog.paths

end Entitlement.Command
