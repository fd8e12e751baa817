import Entitlement.Number.Decimal
import Entitlement.Text.Alphanumeric
import Entitlement.Text.Basic
import Entitlement.Text.Lower

/-!
# Log filters

A log filter is a list of directives with commas between them, and empty ones are passed over. A
directive is a target, a span in brackets after it, and a level after an equals sign. Span and
level may be absent. A level alone reads like a target, so any word is a directive.
-/

namespace Entitlement.LogFilter

/-! ### Levels -/

/-- The names of the levels, by their numbers. -/
def levels : List String :=
  ["off", "error", "warn", "info", "debug", "trace"]

/-- Holds of the name of a level, in any case of ASCII letters, and of its number. -/
def isLevel (cs : List Char) : Bool :=
  levels.any (Text.sameIgnoringAsciiCase · (String.ofList cs)) ||
    (Decimal.natOfText? cs).any (· < levels.length)

/-! ### Directives -/

/-- Holds of a character that a target starts with. After it any character may follow. -/
def startsTarget (c : Char) : Bool :=
  c = '-' || c = ':' || c = '_' || Text.isAlphanumeric c

/-- What follows a span, whose opening bracket was read. Its name may be followed by fields in
braces, of which there has to be at least one. -/
def afterSpan? (cs : List Char) : Option (List Char) :=
  match cs.dropWhile fun c => c ≠ ']' && c ≠ '\x7b' with
  | ']' :: rest => some rest
  | '\x7b' :: fields =>
    match fields.takeWhile (· ≠ '\x7d'), fields.dropWhile (· ≠ '\x7d') with
    | _ :: _, '\x7d' :: ']' :: rest => some rest
    | _, _ => none
  | _ => none

/-- What follows the target and the span of a directive, if the span is well formed. -/
def afterTarget? (cs : List Char) : Option (List Char) :=
  match cs.dropWhile fun c => c ≠ '=' && c ≠ '[' with
  | '[' :: span => afterSpan? span
  | rest => some rest

/-- Holds of a directive that can be read. Blanks may stand around it where it gives no level. The
level may be missing after the equals sign. -/
def isDirective (cs : List Char) : Bool :=
  let body := Text.trim cs
  (body.head?.any fun c => c = '[' || startsTarget c) &&
    match afterTarget? body with
    | some [] => true
    | some ('=' :: level) => body == cs && (level.isEmpty || isLevel level)
    | _ => false

/-! ### Filters -/

/-- Holds of a log filter that can be read. -/
def isValid (s : String) : Bool :=
  ((Text.parts ',' s.toList).filter (!·.isEmpty)).all isDirective

/-- The log filter in force, if there is one: that of the environment when it can be read, else the
one that is configured. -/
def choose (fromEnvironment : Option String) (configured : String) : Option String :=
  match fromEnvironment with
  | some filter =>
    if isValid filter then some filter
    else if isValid configured then some configured else none
  | none => if isValid configured then some configured else none

end Entitlement.LogFilter
