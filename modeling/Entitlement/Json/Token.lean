import Entitlement.Json.Numeral
import Entitlement.Text.Symbols

/-!
# Tokens of JSON text

JSON text is split into punctuation, names, numbers and strings. Where the text goes wrong the
tokens end with one that says how: the text stops too early, or it holds something that JSON does
not allow. A string is split at its quotes first and its content read after that, because a value
that nobody asks for may hold escapes that form no text.
-/

namespace Entitlement.Json

open Entitlement.Text

/-- How a text fails to be JSON. -/
inductive Fault where
  /-- It stops too early. -/
  | truncated
  /-- It holds something that is not allowed where it stands. -/
  | malformed
  deriving DecidableEq

/-- A token of JSON text. -/
inductive Token where
  | openBrace
  | closeBrace
  | openBracket
  | closeBracket
  | comma
  | colon
  | null
  | bool (b : Bool)
  /-- A number, or nothing where it is too large. -/
  | number (n : Option Number)
  /-- A string: its text, or why its content is none, and how its end is missing. -/
  | string (content : Except Fault String) (ending : Option Fault)
  /-- Something that starts no token or is cut off. -/
  | broken (f : Fault)

/-! ### Strings -/

/-- A part of a string's content as written. -/
inductive Piece where
  | symbol (s : Symbol)
  /-- A character given by a letter after a backslash. -/
  | escaped (c : Char)
  /-- A 16-bit unit given by four hexadecimal digits. -/
  | unit (n : Nat)

/-- The character that a letter after a backslash stands for. -/
def escapedChar? : Symbol → Option Char
  | .char '"' => some '"'
  | .char '\\' => some '\\'
  | .char '/' => some '/'
  | .char 'b' => some '\x08'
  | .char 'f' => some '\x0c'
  | .char 'n' => some '\n'
  | .char 'r' => some '\r'
  | .char 't' => some '\t'
  | _ => none

/-- The value of a hexadecimal digit. -/
def hexValue? (c : Char) : Option Nat :=
  if '0' ≤ c ∧ c ≤ '9' then some (c.toNat - '0'.toNat)
  else if 'a' ≤ c ∧ c ≤ 'f' then some (c.toNat - 'a'.toNat + 10)
  else if 'A' ≤ c ∧ c ≤ 'F' then some (c.toNat - 'A'.toNat + 10)
  else none

/-- The unit that hexadecimal digits denote. -/
def hexUnit? (digits : List Symbol) : Option Nat :=
  digits.foldlM (fun n s => (s.char?.bind hexValue?).map (16 * n + ·)) 0

/-- The bytes that a symbol takes in the text. -/
def byteCount : Symbol → Nat
  | .char c => c.utf8Size
  | .stray => 1

/-- How a unit fails that is followed by fewer than four symbols: four bytes are read before any
is looked at. -/
def unitFault (rest : List Symbol) : Fault :=
  if rest.foldl (fun n c => n + byteCount c) 0 < 4 then .truncated else .malformed

/-- Holds of a character that may not stand in a string as it is. -/
def isControl : Symbol → Bool
  | .char c => c.toNat < 0x20
  | .stray => false

/-- The pieces of a string after its opening quote, how its end is missing, and the text after its
closing quote. -/
def pieces : List Symbol → List Piece × Option Fault × List Symbol
  | [] => ([], some .truncated, [])
  | s :: rest =>
    if s = .char '"' then ([], none, rest)
    else if s = .char '\\' then
      match rest with
      | [] => ([], some .truncated, [])
      | e :: rest =>
        if e = .char 'u' then
          match rest with
          | a :: b :: c :: d :: rest =>
            match hexUnit? [a, b, c, d] with
            | some n =>
              let (ps, ending, after) := pieces rest
              (.unit n :: ps, ending, after)
            | none => ([], some .malformed, [])
          | short => ([], some (unitFault short), [])
        else
          match escapedChar? e with
          | some c =>
            let (ps, ending, after) := pieces rest
            (.escaped c :: ps, ending, after)
          | none => ([], some .malformed, [])
    else if isControl s then ([], some .malformed, [])
    else
      let (ps, ending, after) := pieces rest
      (.symbol s :: ps, ending, after)

/-- The text that pieces spell. Two units that are the halves of a character past the first plane
spell that character; such a half alone spells none. Symbols that are no characters are noticed
only at the closing quote. -/
def textOfPieces (ending : Option Fault) : List Piece → Except Fault (List Symbol)
  | [] => (ending.map .error).getD (.ok [])
  | .symbol s :: ps => (s :: ·) <$> textOfPieces ending ps
  | .escaped c :: ps => (.char c :: ·) <$> textOfPieces ending ps
  | .unit n :: ps =>
    if 0xDC00 ≤ n ∧ n < 0xE000 then .error .malformed
    else if n < 0xD800 ∨ 0xE000 ≤ n then (.char (Char.ofNat n) :: ·) <$> textOfPieces ending ps
    else
      match ps with
      | .unit m :: ps =>
        if 0xDC00 ≤ m ∧ m < 0xE000 then
          (.char (Char.ofNat (0x10000 + (n - 0xD800) * 0x400 + (m - 0xDC00))) :: ·)
            <$> textOfPieces ending ps
        else .error .malformed
      | [] => .error (if ending = some .truncated then .truncated else .malformed)
      | _ => .error .malformed

/-- The string token after an opening quote, and the text after it. -/
def stringToken (cs : List Symbol) : Token × List Symbol :=
  let (ps, ending, after) := pieces cs
  let content := (textOfPieces ending ps).bind fun symbols =>
    match symbols.mapM Symbol.char? with
    | some cs => .ok (String.ofList cs)
    | none => .error .malformed
  (.string content ending, after)

/-! ### Numbers and names -/

/-- The digits at the front of the text, and the rest. -/
def spanDigits : List Symbol → List Char × List Symbol
  | .char c :: rest =>
    if Decimal.isDigit c then
      let (ds, after) := spanDigits rest
      (c :: ds, after)
    else ([], .char c :: rest)
  | rest => ([], rest)

/-- Digits of which there must be at least one. -/
def someDigits (cs : List Symbol) : Except Fault (List Char × List Symbol) :=
  match spanDigits cs with
  | ([], []) => .error .truncated
  | ([], _) => .error .malformed
  | found => .ok found

/-- The digits before the point: a zero stands alone. -/
def wholeDigits (cs : List Symbol) : Except Fault (List Char × List Symbol) :=
  match someDigits cs with
  | .ok ('0' :: _ :: _, _) => .error .malformed
  | found => found

/-- The digits after the point, if there is one. -/
def fractionDigits : List Symbol → Except Fault (Option (List Char) × List Symbol)
  | .char '.' :: rest => (someDigits rest).map fun (ds, after) => (some ds, after)
  | cs => .ok (none, cs)

/-- The power of ten, if there is one. -/
def powerOfTen : List Symbol → Except Fault (Option Int × List Symbol)
  | .char c :: rest =>
    if c = 'e' ∨ c = 'E' then
      let (negative, rest) :=
        match rest with
        | .char '-' :: rest => (true, rest)
        | .char '+' :: rest => (false, rest)
        | rest => (false, rest)
      (someDigits rest).map fun (ds, after) =>
        let n : Int := Decimal.natOfDigits ds
        (some (if negative then -n else n), after)
    else .ok (none, .char c :: rest)
  | cs => .ok (none, cs)

/-- The number at the front of the text, without its sign. -/
def numeral (negative : Bool) (cs : List Symbol) : Except Fault (Numeral × List Symbol) := do
  let (whole, cs) ← wholeDigits cs
  let (fraction, cs) ← fractionDigits cs
  let (exponent, cs) ← powerOfTen cs
  return (⟨negative, whole, fraction, exponent⟩, cs)

/-- The number token at the front of the text, without its sign, and the text after it. -/
def numberToken (negative : Bool) (cs : List Symbol) : Token × List Symbol :=
  match numeral negative cs with
  | .ok (t, after) => (.number t.toNumber?, after)
  | .error f => (.broken f, [])

/-- The token for a name, after its first letter, and the text after it. -/
def nameToken (token : Token) : List Char → List Symbol → Token × List Symbol
  | [], cs => (token, cs)
  | _ :: _, [] => (.broken .truncated, [])
  | c :: name, s :: cs => if s = .char c then nameToken token name cs else (.broken .malformed, [])

/-! ### Tokens -/

/-- Holds of the four blanks that may stand between tokens. -/
def isGap : Symbol → Bool
  | .char c => c = ' ' || c = '\n' || c = '\t' || c = '\r'
  | .stray => false

/-- The token that starts with the given symbol, and the text after it. -/
def tokenFrom : Symbol → List Symbol → Token × List Symbol
  | .stray, _ => (.broken .malformed, [])
  | .char c, cs =>
    match c with
    | '{' => (.openBrace, cs)
    | '}' => (.closeBrace, cs)
    | '[' => (.openBracket, cs)
    | ']' => (.closeBracket, cs)
    | ',' => (.comma, cs)
    | ':' => (.colon, cs)
    | '"' => stringToken cs
    | 'n' => nameToken .null ['u', 'l', 'l'] cs
    | 't' => nameToken (.bool true) ['r', 'u', 'e'] cs
    | 'f' => nameToken (.bool false) ['a', 'l', 's', 'e'] cs
    | '-' => numberToken true cs
    | c => if Decimal.isDigit c then numberToken false (.char c :: cs) else (.broken .malformed, [])

/-- The tokens of a text, which takes at most one step for each symbol. -/
def tokensWithin : Nat → List Symbol → List Token
  | 0, _ => []
  | _ + 1, [] => []
  | steps + 1, s :: cs =>
    if isGap s then tokensWithin steps cs
    else
      let (token, after) := tokenFrom s cs
      token :: tokensWithin steps after

/-- The tokens of a text. -/
def tokens (cs : List Symbol) : List Token :=
  tokensWithin cs.length cs

end Entitlement.Json
