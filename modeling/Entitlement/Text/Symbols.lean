/-!
# Symbols of a byte sequence

Bytes read as UTF-8: each symbol is a character, or a byte that is part of none. Overlong forms,
surrogates and code points past the last plane are no characters.
-/

namespace Entitlement.Text

/-- A character of a text, or a byte that belongs to no character. -/
inductive Symbol where
  | char (c : Char)
  | stray
  deriving DecidableEq

/-- The character of a symbol. -/
def Symbol.char? : Symbol → Option Char
  | .char c => some c
  | .stray => none

/-- The symbols of a text. -/
def symbolsOfText (s : String) : List Symbol :=
  s.toList.map .char

/-- The low six bits of a byte that continues a character. -/
def continuation? (b : UInt8) : Option Nat :=
  if 0x80 ≤ b.toNat ∧ b.toNat < 0xC0 then some (b.toNat - 0x80) else none

/-- The character that starts with the byte `b`, and how many of the following bytes it takes. -/
def leadingChar? (b : UInt8) (rest : List UInt8) : Option (Char × Nat) :=
  let n := b.toNat
  if n < 0x80 then some (Char.ofNat n, 0)
  else if 0xC2 ≤ n ∧ n < 0xE0 then
    match rest with
    | b₁ :: _ => do
      let x ← continuation? b₁
      some (Char.ofNat ((n - 0xC0) * 0x40 + x), 1)
    | _ => none
  else if 0xE0 ≤ n ∧ n < 0xF0 then
    match rest with
    | b₁ :: b₂ :: _ => do
      let x ← continuation? b₁
      let y ← continuation? b₂
      let code := ((n - 0xE0) * 0x40 + x) * 0x40 + y
      if 0x800 ≤ code ∧ ¬(0xD800 ≤ code ∧ code < 0xE000) then some (Char.ofNat code, 2) else none
    | _ => none
  else if 0xF0 ≤ n ∧ n < 0xF5 then
    match rest with
    | b₁ :: b₂ :: b₃ :: _ => do
      let x ← continuation? b₁
      let y ← continuation? b₂
      let z ← continuation? b₃
      let code := (((n - 0xF0) * 0x40 + x) * 0x40 + y) * 0x40 + z
      if 0x10000 ≤ code ∧ code < 0x110000 then some (Char.ofNat code, 3) else none
    | _ => none
  else none

/-- The symbols of a byte sequence. -/
def symbolsOfBytes : List UInt8 → List Symbol
  | [] => []
  | b :: rest =>
    match leadingChar? b rest with
    | some (c, taken) => .char c :: symbolsOfBytes (rest.drop taken)
    | none => .stray :: symbolsOfBytes rest
  termination_by bytes => bytes.length
  decreasing_by all_goals (simp only [List.length_drop, List.length_cons]; omega)

/-- The text that a byte sequence spells, when all of its bytes belong to characters. -/
def textOfBytes? (bytes : List UInt8) : Option (List Char) :=
  (symbolsOfBytes bytes).mapM Symbol.char?

/-- The bytes of a text in UTF-8. -/
def bytes (s : String) : List UInt8 :=
  s.toList.flatMap String.utf8EncodeChar

end Entitlement.Text
