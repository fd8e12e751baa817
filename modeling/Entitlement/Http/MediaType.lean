import Entitlement.Text.Lower

/-!
# Media types

The value of a content type header: a type and a subtype with a slash between them, and perhaps
parameters after semicolons. The last plus sign of the subtype, unless it stands first, starts a
suffix. Only visible ASCII characters may occur, and case does not matter.
-/

namespace Entitlement.Http

/-- A media type without its parameters. -/
structure MediaType where
  type : List Char
  subtype : List Char
  suffix : Option (List Char)
  deriving DecidableEq

namespace MediaType

/-- Holds of the characters of names and of values without quotes. -/
def isTokenChar (c : Char) : Bool :=
  c.isAlphanum || "!#$%&'*+-.^_`|~".toList.contains c

/-! ### Parameters -/

/-- Where the reading of parameters stands. -/
inductive ParameterState where
  /-- Before a name, where blanks and the end may stand. -/
  | between
  | name
  /-- After the equals sign. -/
  | valueStart
  | value
  /-- After the opening quote, where even a quote belongs to the value. -/
  | quoteStart
  | quoted
  /-- After the closing quote. -/
  | afterQuote
  deriving DecidableEq

/-- The state after the next character, if it may stand there. -/
def ParameterState.next (c : Char) : ParameterState → Option ParameterState
  | .between => if c = ' ' then some .between else if isTokenChar c then some .name else none
  | .name => if c = '=' then some .valueStart else if isTokenChar c then some .name else none
  | .valueStart => if c = '"' then some .quoteStart else if isTokenChar c then some .value else none
  | .value => if c = ';' then some .between else if isTokenChar c then some .value else none
  | .quoteStart => some .quoted
  | .quoted => if c = '"' then some .afterQuote else some .quoted
  | .afterQuote => if c = ';' then some .between else if c = ' ' then some .afterQuote else none

/-- Holds when the parameters may end in the state. -/
def ParameterState.isFinal : ParameterState → Bool
  | .between | .valueStart | .value | .afterQuote => true
  | .name | .quoteStart | .quoted => false

/-- Holds of well-formed parameters, given without the semicolon in front. -/
def areParameters (cs : List Char) : Bool :=
  match cs.foldlM (fun (state : ParameterState) c => state.next c) .between with
  | some state => state.isFinal
  | none => false

/-! ### Types -/

/-- Splits a name at its last plus sign, unless that stands first. -/
def splitSuffix (cs : List Char) : List Char × Option (List Char) :=
  let suffix := (cs.reverse.takeWhile (· ≠ '+')).reverse
  let rest := cs.take (cs.length - suffix.length - 1)
  if cs.contains '+' && !rest.isEmpty then (rest, some suffix) else (cs, none)

/-- The media type that a text spells, in lower case. The subtype may be empty at the end of the
text, but not in front of parameters. -/
def ofText? (s : String) : Option MediaType :=
  let cs := s.toList.map Char.toLower
  let type := cs.takeWhile (· ≠ '/')
  match cs.dropWhile (· ≠ '/') with
  | [] => none
  | _ :: rest =>
    let name := rest.takeWhile (· ≠ ';')
    let tail := rest.dropWhile (· ≠ ';')
    let visible := cs.all fun c => ' ' ≤ c && c ≤ '~'
    let parametersOk := tail.isEmpty || (!name.isEmpty && areParameters (tail.drop 1))
    if visible && !type.isEmpty && type.all isTokenChar && name.all isTokenChar && parametersOk then
      let (subtype, suffix) := splitSuffix name
      some ⟨type, subtype, suffix⟩
    else none

/-- Holds of the media types of JSON: its own, and every application type built on it. -/
def isJson (m : MediaType) : Bool :=
  m.type = "application".toList &&
    (m.subtype = "json".toList || m.suffix = some "json".toList)

end MediaType

end Entitlement.Http
