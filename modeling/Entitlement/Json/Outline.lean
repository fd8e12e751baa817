import Entitlement.Json.Token

/-!
# Reading JSON by its outline

The structure of a text as far as it goes: members in the order written, keys that repeat, and the
place where the text goes wrong. A value can be taken from an outline as a whole, or parts of it
can be looked at and the rest skipped; either way the first fault that is met counts. A text is JSON
when it holds one value and nothing after it but blanks, with arrays and objects nested at most 127
deep.
-/

namespace Entitlement.Json

/-- A value as written. -/
inductive Outline where
  | null
  | bool (b : Bool)
  /-- A number, or nothing where it is too large. -/
  | number (n : Option Number)
  /-- A string: its text, or why its content is none, and how its end is missing. -/
  | string (content : Except Fault String) (ending : Option Fault)
  /-- The items as far as they go, and how the end is missing. -/
  | array (items : List Outline) (ending : Option Fault)
  /-- The members as far as they go, each with its key or why the key is no text, and how the end
  is missing. A key without an end is followed by nothing, so its value is broken. -/
  | object (members : List (Except Fault String × Outline)) (ending : Option Fault)
  /-- No value, because of the fault. -/
  | broken (f : Fault)

/-! ### From tokens -/

/-- How a text fails that has this token where a value should stand. -/
def Token.faultAsValue : Token → Fault
  | .broken f => f
  | _ => .malformed

/-- How a text fails that continues like this where punctuation should stand. -/
def faultAtPunctuation : List Token → Fault
  | [] => .truncated
  | _ => .malformed

mutual

/-- The outline of the value at the front of the tokens, and the tokens after it. A fault ends the
tokens. -/
def outline : Nat → List Token → Outline × List Token
  | 0, _ => (.broken .truncated, [])
  | _ + 1, [] => (.broken .truncated, [])
  | fuel + 1, t :: ts =>
    match t with
    | .null => (.null, ts)
    | .bool b => (.bool b, ts)
    | .number n => (.number n, ts)
    | .string content ending => (.string content ending, ts)
    | .openBracket =>
      match ts with
      | .closeBracket :: ts => (.array [] none, ts)
      | ts =>
        let (items, ending, ts) := outlineItems fuel ts
        (.array items ending, ts)
    | .openBrace =>
      match ts with
      | .closeBrace :: ts => (.object [] none, ts)
      | ts =>
        let (members, ending, ts) := outlineMembers fuel ts
        (.object members ending, ts)
    | t => (.broken t.faultAsValue, [])

/-- The items of an array that has at least one more, up to its closing bracket. -/
def outlineItems : Nat → List Token → List Outline × Option Fault × List Token
  | 0, _ => ([], some .truncated, [])
  | fuel + 1, ts =>
    let (item, ts) := outline fuel ts
    match ts with
    | .comma :: ts =>
      let (items, ending, ts) := outlineItems fuel ts
      (item :: items, ending, ts)
    | .closeBracket :: ts => ([item], none, ts)
    | ts => ([item], some (faultAtPunctuation ts), [])

/-- The members of an object that has at least one more, up to its closing brace. A key is a
string. -/
def outlineMembers :
    Nat → List Token → List (Except Fault String × Outline) × Option Fault × List Token
  | 0, _ => ([], some .truncated, [])
  | fuel + 1, ts =>
    match ts with
    | .string key _ :: ts =>
      match ts with
      | .colon :: ts =>
        let (value, ts) := outline fuel ts
        match ts with
        | .comma :: ts =>
          let (members, ending, ts) := outlineMembers fuel ts
          ((key, value) :: members, ending, ts)
        | .closeBrace :: ts => ([(key, value)], none, ts)
        | ts => ([(key, value)], some (faultAtPunctuation ts), [])
      | ts => ([(key, .broken (faultAtPunctuation ts))], some .malformed, [])
    | ts => ([], some (faultAtPunctuation ts), [])

end

/-- The outline of the value that a text starts with, and the tokens after it. Each token is
passed in at most two steps. -/
def outlineOf (cs : List Text.Symbol) : Outline × List Token :=
  let ts := tokens cs
  outline (2 * ts.length + 2) ts

/-! ### To values -/

mutual

/-- The value of an outline, read to its end, with at most `depth` arrays and objects nested. -/
def Outline.value (depth : Nat) : Outline → Except Fault Json
  | .null => .ok .null
  | .bool b => .ok (.bool b)
  | .number (some n) => .ok (.number n)
  | .number none => .error .malformed
  | .string content _ => content.map .text
  | .array items ending =>
    match depth with
    | 0 => .error .malformed
    | depth + 1 => do
      let values ← valuesOf depth items
      match ending with
      | some f => .error f
      | none => return .array values
  | .object members ending =>
    match depth with
    | 0 => .error .malformed
    | depth + 1 => do
      let values ← membersOf depth members
      match ending with
      | some f => .error f
      | none => return .object (sortMembers values)
  | .broken f => .error f

/-- The values of the items of an array. -/
def valuesOf (depth : Nat) : List Outline → Except Fault (List Json)
  | [] => .ok []
  | item :: items => do
    let value ← item.value depth
    let values ← valuesOf depth items
    return value :: values

/-- The members of an object, in the order written. -/
def membersOf (depth : Nat) :
    List (Except Fault String × Outline) → Except Fault (List (String × Json))
  | [] => .ok []
  | (key, value) :: members => do
    let key ← key
    let value ← value.value depth
    let rest ← membersOf depth members
    return (key, value) :: rest

end

/-! ### Whole texts -/

/-- The most arrays and objects that may be nested. -/
def maxDepth : Nat := 127

/-- The value that the symbols of a text spell. -/
def parseSymbols (cs : List Text.Symbol) : Except Fault Json := do
  let (found, rest) := outlineOf cs
  let value ← found.value maxDepth
  if rest.isEmpty then return value else .error .malformed

/-- The value that a text spells. -/
def parse (s : String) : Except Fault Json :=
  parseSymbols (Text.symbolsOfText s)

/-- The value that a byte sequence spells. -/
def parseBytes (bytes : List UInt8) : Except Fault Json :=
  parseSymbols (Text.symbolsOfBytes bytes)

end Entitlement.Json
