/-!
# Characters and texts

A character property is kept as the ascending list of the ranges that hold it. White space is the
Unicode property White_Space, which holds the no-break spaces and the line separators but neither
U+200B nor U+FEFF. A text can be trimmed of it, and taken apart at a character.
-/

namespace Entitlement.Text

/-! ### Ranges of code points -/

/-- Ranges of code points, both ends included. -/
abbrev Ranges := List (Nat × Nat)

/-- Holds when some range contains the character. -/
def Ranges.covers (ranges : Ranges) (c : Char) : Bool :=
  ranges.any fun r => r.1 ≤ c.toNat && c.toNat ≤ r.2

/-! ### Blanks -/

/-- Holds of the 25 characters of the Unicode property White_Space. -/
def isBlank (c : Char) : Bool :=
  let n := c.toNat
  (9 ≤ n && n ≤ 13) || n == 0x20 || n == 0x85 || n == 0xA0 || n == 0x1680 ||
    (0x2000 ≤ n && n ≤ 0x200A) || n == 0x2028 || n == 0x2029 || n == 0x202F || n == 0x205F ||
    n == 0x3000

/-- The text without its leading blanks. -/
def trimStart (cs : List Char) : List Char :=
  cs.dropWhile isBlank

/-- The text without its trailing blanks. -/
def trimEnd (cs : List Char) : List Char :=
  (cs.reverse.dropWhile isBlank).reverse

/-- The text without the blanks on either side. -/
def trim (cs : List Char) : List Char :=
  trimEnd (trimStart cs)

/-- The string without the blanks on either side. -/
def trimmed (s : String) : String :=
  String.ofList (trim s.toList)

/-! ### Parts -/

/-- The parts of a text between the separators, always one more than there are separators. -/
def parts (separator : Char) : List Char → List (List Char)
  | [] => [[]]
  | c :: cs =>
    if c = separator then [] :: parts separator cs
    else
      match parts separator cs with
      | part :: rest => (c :: part) :: rest
      | [] => [[c]]

end Entitlement.Text
