import Entitlement.Json.Token
import Entitlement.Text.Basic
import Entitlement.Text.Symbols

/-!
# Request targets

The path of a request, taken apart at its slashes. The query and the fragment are not part of it,
nor are the scheme and the authority that a target may start with. A part of the path may hold
bytes written as a percent sign and two hexadecimal digits; any other percent sign stands for
itself.
-/

namespace Entitlement.Http

/-- Holds of a character of a scheme. -/
def isSchemeChar (c : Char) : Bool :=
  c.isAlphanum || c = '+' || c = '-' || c = '.' || c = '~'

/-- A target without the scheme and the authority in front of its path, if it has them. The scheme
may be empty. -/
def withoutAuthority (target : List Char) : List Char :=
  match target.dropWhile isSchemeChar with
  | ':' :: '/' :: '/' :: rest => rest.dropWhile (· ≠ '/')
  | _ => target

/-- The parts of the path of a target, none for a target whose path does not start with a slash. -/
def pathParts (target : String) : List String :=
  let path := target.toList.takeWhile fun c => c ≠ '?' && c ≠ '#'
  match Text.parts '/' (withoutAuthority path) with
  | [] :: parts => parts.map String.ofList
  | _ => []

/-- The bytes that a text with percent signs stands for. -/
def percentBytes : List Char → List UInt8
  | '%' :: a :: b :: rest =>
    match Json.hexValue? a, Json.hexValue? b with
    | some x, some y => UInt8.ofNat (16 * x + y) :: percentBytes rest
    | _, _ => '%'.toUInt8 :: percentBytes (a :: b :: rest)
  | c :: rest => String.utf8EncodeChar c ++ percentBytes rest
  | [] => []

/-- The text that a part of the path stands for, if its bytes are one. -/
def percentDecoded? (part : String) : Option String :=
  (Text.textOfBytes? (percentBytes part.toList)).map String.ofList

end Entitlement.Http
