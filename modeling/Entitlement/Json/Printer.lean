import Entitlement.Json.Basic

/-!
# Writing JSON

Two layouts of the same tokens: compact, without any blanks, and indented, with each item and
member on a line of its own. Members are written in the order they have.
-/

namespace Entitlement.Json

/-! ### Strings -/

/-- A character as it stands inside a string: the quote, the backslash and the controls are
escaped, and nothing else. -/
def writtenChar (c : Char) : List Char :=
  if c = '"' then ['\\', '"']
  else if c = '\\' then ['\\', '\\']
  else if c = '\x08' then ['\\', 'b']
  else if c = '\t' then ['\\', 't']
  else if c = '\n' then ['\\', 'n']
  else if c = '\x0c' then ['\\', 'f']
  else if c = '\r' then ['\\', 'r']
  else if c.toNat < 0x20 then
    ['\\', 'u', '0', '0', Nat.digitChar (c.toNat / 16), Nat.digitChar (c.toNat % 16)]
  else [c]

/-- A text between quotes. -/
def writtenText (s : String) : List Char :=
  '"' :: s.toList.flatMap writtenChar ++ ['"']

/-! ### Compact layout -/

mutual

/-- The value without blanks. -/
def compactChars : Json → List Char
  | .null => ['n', 'u', 'l', 'l']
  | .bool true => ['t', 'r', 'u', 'e']
  | .bool false => ['f', 'a', 'l', 's', 'e']
  | .number n => n.text.toList
  | .text s => writtenText s
  | .array items => '[' :: compactItems items ++ [']']
  | .object members => '{' :: compactMembers members ++ ['}']

/-- Items with commas between them. -/
def compactItems : List Json → List Char
  | [] => []
  | [item] => compactChars item
  | item :: items => compactChars item ++ ',' :: compactItems items

/-- Members with commas between them. -/
def compactMembers : List (String × Json) → List Char
  | [] => []
  | [(key, value)] => writtenText key ++ ':' :: compactChars value
  | (key, value) :: members =>
    writtenText key ++ ':' :: compactChars value ++ ',' :: compactMembers members

end

/-- The value on one line, without blanks. -/
def compact (v : Json) : String :=
  String.ofList (compactChars v)

/-! ### Indented layout -/

/-- A new line, with two blanks for each level. -/
def newLine (level : Nat) : List Char :=
  '\n' :: List.replicate (2 * level) ' '

mutual

/-- The value with its items and members on lines of their own, one level further in. -/
def indentedChars (level : Nat) : Json → List Char
  | .array (item :: items) =>
    '[' :: indentedItems (level + 1) (item :: items) ++ newLine level ++ [']']
  | .object (m :: members) =>
    '{' :: indentedMembers (level + 1) (m :: members) ++ newLine level ++ ['}']
  | .array [] => ['[', ']']
  | .object [] => ['{', '}']
  | .null => ['n', 'u', 'l', 'l']
  | .bool true => ['t', 'r', 'u', 'e']
  | .bool false => ['f', 'a', 'l', 's', 'e']
  | .number n => n.text.toList
  | .text s => writtenText s

/-- Items, each on its line, with commas between them. -/
def indentedItems (level : Nat) : List Json → List Char
  | [] => []
  | [item] => newLine level ++ indentedChars level item
  | item :: items =>
    newLine level ++ indentedChars level item ++ ',' :: indentedItems level items

/-- Members, each on its line, with commas between them. -/
def indentedMembers (level : Nat) : List (String × Json) → List Char
  | [] => []
  | [(key, value)] => newLine level ++ writtenText key ++ [':', ' '] ++ indentedChars level value
  | (key, value) :: members =>
    newLine level ++ writtenText key ++ [':', ' '] ++ indentedChars level value
      ++ ',' :: indentedMembers level members

end

/-- The value on several lines. -/
def indented (v : Json) : String :=
  String.ofList (indentedChars 0 v)

end Entitlement.Json
