import Entitlement.Json.Printer
import Entitlement.Json.Token
import Entitlement.Proofs.Number.Digits

/-!
# Written values, token by token

A string is split off as it was written, whatever follows its closing quote: each character is
written in a way of its own, and the pieces spell the text again. A number ends only where no digit,
point or power of ten can follow, which is so wherever a value may end.
-/

namespace Entitlement.Json

open Text (Symbol)

/-- The symbols of a row of characters. -/
abbrev symbols (cs : List Char) : List Symbol :=
  cs.map .char

/-! ### Strings -/

/-- The piece that a written character is read as. -/
def writtenPiece (c : Char) : Piece :=
  if c = '"' ∨ c = '\\' ∨ c = '\x08' ∨ c = '\t' ∨ c = '\n' ∨ c = '\x0c' ∨ c = '\r' then .escaped c
  else if c.toNat < 0x20 then .unit c.toNat
  else .symbol (.char c)

/-- A control character is below 32, and its two last digits give it. -/
theorem hexUnit?_control : ∀ n < 0x20,
    hexUnit? (symbols ['0', '0', Nat.digitChar (n / 16), Nat.digitChar (n % 16)]) = some n := by
  decide

theorem pieces_quote (rest : List Symbol) : pieces (.char '"' :: rest) = ([], none, rest) := by
  rw [pieces.eq_def]
  exact if_pos rfl

theorem pieces_escaped {e c : Char} (rest : List Symbol) (hunit : e ≠ 'u')
    (h : escapedChar? (.char e) = some c) :
    pieces (.char '\\' :: .char e :: rest) =
      (.escaped c :: (pieces rest).1, (pieces rest).2.1, (pieces rest).2.2) := by
  rw [pieces.eq_def]
  dsimp only
  rw [if_neg (by decide), if_pos rfl, if_neg (by simpa using hunit), h]

theorem pieces_unit {a b c d : Symbol} {n : Nat} (rest : List Symbol)
    (h : hexUnit? [a, b, c, d] = some n) :
    pieces (.char '\\' :: .char 'u' :: a :: b :: c :: d :: rest) =
      (.unit n :: (pieces rest).1, (pieces rest).2.1, (pieces rest).2.2) := by
  rw [pieces.eq_def]
  dsimp only
  rw [if_neg (by decide), if_pos rfl, if_pos rfl, h]

theorem pieces_symbol {c : Char} (rest : List Symbol) (hquote : c ≠ '"') (hslash : c ≠ '\\')
    (hcontrol : ¬ c.toNat < 0x20) :
    pieces (.char c :: rest) =
      (.symbol (.char c) :: (pieces rest).1, (pieces rest).2.1, (pieces rest).2.2) := by
  have hplain : ¬ isControl (.char c) = true := by simpa [isControl] using hcontrol
  rw [pieces.eq_def]
  dsimp only
  rw [if_neg (by simpa using hquote), if_neg (by simpa using hslash), if_neg hplain]

theorem pieces_writtenChar (c : Char) (rest : List Symbol) :
    pieces (symbols (writtenChar c) ++ rest) =
      (writtenPiece c :: (pieces rest).1, (pieces rest).2.1, (pieces rest).2.2) := by
  rw [writtenChar]
  -- seven characters have a letter of their own, other controls have four digits
  split_ifs with hquote hslash hb ht hn hf hr hcontrol
  · subst hquote
    exact pieces_escaped (e := '"') rest (by decide) rfl
  · subst hslash
    exact pieces_escaped (e := '\\') rest (by decide) rfl
  · subst hb
    exact pieces_escaped (e := 'b') rest (by decide) rfl
  · subst ht
    exact pieces_escaped (e := 't') rest (by decide) rfl
  · subst hn
    exact pieces_escaped (e := 'n') rest (by decide) rfl
  · subst hf
    exact pieces_escaped (e := 'f') rest (by decide) rfl
  · subst hr
    exact pieces_escaped (e := 'r') rest (by decide) rfl
  · rw [writtenPiece, if_neg (by simp only [*, or_self, not_false_eq_true]), if_pos hcontrol]
    exact pieces_unit rest (hexUnit?_control c.toNat hcontrol)
  · rw [writtenPiece, if_neg (by simp only [*, or_self, not_false_eq_true]), if_neg hcontrol]
    exact pieces_symbol rest hquote hslash hcontrol

theorem pieces_written (cs : List Char) (rest : List Symbol) :
    pieces (symbols (cs.flatMap writtenChar ++ ['"']) ++ rest) =
      (cs.map writtenPiece, none, rest) := by
  induction cs with
  | nil => exact pieces_quote rest
  | cons c cs ih =>
    have hsplit : symbols ((c :: cs).flatMap writtenChar ++ ['"']) ++ rest =
        symbols (writtenChar c) ++ (symbols (cs.flatMap writtenChar ++ ['"']) ++ rest) := by
      simp
    rw [hsplit, pieces_writtenChar, ih, List.map_cons]

theorem textOfPieces_writtenPiece (c : Char) (ps : List Piece) :
    textOfPieces none (writtenPiece c :: ps) = (Symbol.char c :: ·) <$> textOfPieces none ps := by
  rw [writtenPiece]
  split_ifs with hescaped hcontrol
  · rfl
  · rw [textOfPieces.eq_def]
    dsimp only
    rw [if_neg (by omega), if_pos (by omega), Char.ofNat_toNat]
  · rfl

theorem textOfPieces_written (cs : List Char) :
    textOfPieces none (cs.map writtenPiece) = .ok (symbols cs) := by
  induction cs with
  | nil => rfl
  | cons c cs ih =>
    rw [List.map_cons, textOfPieces_writtenPiece, ih]
    rfl

theorem mapM_char?_symbols (cs : List Char) : (symbols cs).mapM Symbol.char? = some cs := by
  induction cs with
  | nil => rfl
  | cons c cs ih =>
    rw [symbols, List.map_cons, List.mapM_cons, ih]
    rfl

/-- A text is split off as it was written, whatever follows. -/
theorem stringToken_written (s : String) (rest : List Symbol) :
    stringToken (symbols (s.toList.flatMap writtenChar ++ ['"']) ++ rest) =
      (.string (.ok s) none, rest) := by
  rw [stringToken, pieces_written]
  dsimp only
  rw [textOfPieces_written]
  simp only [Except.bind, mapM_char?_symbols, String.ofList_toList]

/-! ### Whole numbers -/

/-- Holds of text that stops or goes on with punctuation, as it does after a value. -/
def Ends (rest : List Symbol) : Prop :=
  ∀ s ∈ rest.head?, s = .char ',' ∨ s = .char ']' ∨ s = .char '}'

theorem spanDigits_append {ds : List Char} {rest : List Symbol}
    (hds : ∀ c ∈ ds, Decimal.isDigit c = true) (hrest : Ends rest) :
    spanDigits (symbols ds ++ rest) = (ds, rest) := by
  induction ds with
  | nil =>
    cases rest with
    | nil => rfl
    | cons s rest => rcases hrest s rfl with rfl | rfl | rfl <;> rfl
  | cons d ds ih =>
    rw [List.forall_mem_cons] at hds
    rw [symbols, List.map_cons, List.cons_append, spanDigits, if_pos hds.1, ih hds.2]

theorem fractionDigits_of_ends {rest : List Symbol} (hrest : Ends rest) :
    fractionDigits rest = .ok (none, rest) := by
  cases rest with
  | nil => rfl
  | cons s rest => rcases hrest s rfl with rfl | rfl | rfl <;> rfl

theorem powerOfTen_of_ends {rest : List Symbol} (hrest : Ends rest) :
    powerOfTen rest = .ok (none, rest) := by
  cases rest with
  | nil => rfl
  | cons s rest => rcases hrest s rfl with rfl | rfl | rfl <;> rfl

theorem wholeDigits_toDigits (n : Nat) {rest : List Symbol} (hrest : Ends rest) :
    wholeDigits (symbols (Nat.toDigits 10 n) ++ rest) = .ok (Nat.toDigits 10 n, rest) := by
  have hspan := spanDigits_append (fun _ => Decimal.isDigit_of_mem_toDigits (n := n)) hrest
  obtain ⟨d, ds, hd⟩ := List.exists_cons_of_ne_nil (Nat.toDigits_ne_nil (b := 10) (n := n))
  have hsome : someDigits (symbols (Nat.toDigits 10 n) ++ rest) =
      .ok (Nat.toDigits 10 n, rest) := by
    rw [someDigits, hspan, hd]
  rw [wholeDigits, hsome]
  -- the one thing refused is a zero with more digits behind it
  split
  · rename_i hzero
    exact absurd (Prod.mk.inj (Except.ok.inj hzero)).1 (Decimal.toDigits_ne_zero_cons n _ _)
  · rfl

theorem numeral_toDigits (negative : Bool) (n : Nat) {rest : List Symbol} (hrest : Ends rest) :
    numeral negative (symbols (Nat.toDigits 10 n) ++ rest) =
      .ok (⟨negative, Nat.toDigits 10 n, none, none⟩, rest) := by
  rw [numeral, wholeDigits_toDigits n hrest]
  simp only [bind, Except.bind, fractionDigits_of_ends hrest, powerOfTen_of_ends hrest]
  rfl

/-- Digits are gathered as a whole when their number fits 64 bits. -/
theorem gather_eq {ds : List Char} {n : Nat} (h : Nat.ofDigitChars 10 ds n < 2 ^ 64) :
    gather n ds = (Nat.ofDigitChars 10 ds n, []) := by
  induction ds generalizing n with
  | nil => rfl
  | cons d ds ih =>
    rw [Nat.ofDigitChars_cons] at h ⊢
    have hnext : 10 * n + Decimal.digitValue d < 2 ^ 64 := by
      refine Nat.lt_of_le_of_lt ?_ h
      rw [Nat.ofDigitChars_eq_ofDigitChars_zero]
      exact Nat.le_add_right_of_le (Nat.le_mul_of_pos_left _ (Nat.pow_pos (by decide)))
    rw [gather, if_pos hnext]
    exact ih h

theorem toNumber?_toDigits {negative : Bool} {n : Nat} (hn : n < 2 ^ 64)
    (hnegative : negative = true → n ≠ 0 ∧ n ≤ 2 ^ 63) :
    Numeral.toNumber? ⟨negative, Nat.toDigits 10 n, none, none⟩ =
      some (.integer (if negative then -(n : Int) else n)) := by
  have hgather : gather 0 (Nat.toDigits 10 n) = (n, []) := by
    rw [gather_eq (by rwa [Nat.ofDigitChars_ten_toDigits]), Nat.ofDigitChars_ten_toDigits]
  rw [Numeral.toNumber?, hgather]
  cases negative with
  | false => rfl
  | true => simp [hnegative rfl]

theorem numberToken_toDigits (negative : Bool) {n : Nat} {rest : List Symbol} (hn : n < 2 ^ 64)
    (hnegative : negative = true → n ≠ 0 ∧ n ≤ 2 ^ 63) (hrest : Ends rest) :
    numberToken negative (symbols (Nat.toDigits 10 n) ++ rest) =
      (.number (some (.integer (if negative then -(n : Int) else n))), rest) := by
  rw [numberToken, numeral_toDigits negative n hrest]
  exact congrArg (fun m => (Token.number m, rest)) (toNumber?_toDigits hn hnegative)

/-! ### Rows of tokens -/

/-- Holds of a row of characters that is split into the given tokens wherever a value may end. Each
token takes one step. -/
structure Spells (cs : List Char) (ts : List Token) : Prop where
  length_le : ts.length ≤ cs.length
  tokens_eq : ∀ (steps : Nat) (rest : List Symbol), Ends rest →
    tokensWithin (ts.length + steps) (symbols cs ++ rest) = ts ++ tokensWithin steps rest

theorem tokensWithin_succ {s : Symbol} {cs after : List Symbol} {t : Token} (steps : Nat)
    (hgap : isGap s = false) (h : tokenFrom s cs = (t, after)) :
    tokensWithin (steps + 1) (s :: cs) = t :: tokensWithin steps after := by
  rw [tokensWithin, hgap, h]
  rfl

theorem spells_nil : Spells [] [] := by
  refine ⟨Nat.le_refl _, fun steps rest _ => ?_⟩
  simp

theorem spells_token {c : Char} {cs : List Char} {t : Token} (hgap : isGap (.char c) = false)
    (h : ∀ rest, Ends rest → tokenFrom (.char c) (symbols cs ++ rest) = (t, rest)) :
    Spells (c :: cs) [t] := by
  refine ⟨by simp, fun steps rest hrest => ?_⟩
  rw [List.length_singleton, Nat.add_comm]
  exact tokensWithin_succ steps hgap (h rest hrest)

/-- A character that is a token by itself may stand before anything. -/
theorem Spells.cons {c : Char} {cs : List Char} {t : Token} {ts : List Token}
    (hgap : isGap (.char c) = false) (h : ∀ rest, tokenFrom (.char c) rest = (t, rest))
    (hs : Spells cs ts) : Spells (c :: cs) (t :: ts) := by
  refine ⟨Nat.succ_le_succ hs.length_le, fun steps rest hrest => ?_⟩
  rw [List.length_cons, Nat.add_right_comm, List.cons_append, ← hs.tokens_eq steps rest hrest]
  exact tokensWithin_succ _ hgap (h _)

theorem Spells.append {cs ds : List Char} {ts us : List Token} (hs : Spells cs ts)
    (hends : ∀ rest, Ends (symbols ds ++ rest)) (hd : Spells ds us) :
    Spells (cs ++ ds) (ts ++ us) := by
  constructor
  · rw [List.length_append, List.length_append]
    exact Nat.add_le_add hs.length_le hd.length_le
  · intro steps rest hrest
    rw [List.length_append, Nat.add_assoc, symbols, List.map_append, List.append_assoc,
      hs.tokens_eq _ _ (hends rest), hd.tokens_eq _ _ hrest, List.append_assoc]

theorem ends_cons {c : Char} (hc : c = ',' ∨ c = ']' ∨ c = '}') (rest : List Symbol) :
    Ends (.char c :: rest) := by
  rintro s ⟨⟩
  simpa using hc

/-! ### Written values that are single tokens -/

/-- A text may stand before anything. -/
theorem Spells.text_append {cs : List Char} {ts : List Token} (s : String) (hs : Spells cs ts) :
    Spells (writtenText s ++ cs) (.string (.ok s) none :: ts) := by
  constructor
  · have hle := hs.length_le
    simp only [writtenText, List.length_append, List.length_cons]
    omega
  · intro steps rest hrest
    have hsplit : symbols (writtenText s ++ cs) ++ rest = .char '"' ::
        (symbols (s.toList.flatMap writtenChar ++ ['"']) ++ (symbols cs ++ rest)) := by
      simp [writtenText]
    rw [hsplit, List.length_cons, Nat.add_right_comm, List.cons_append,
      ← hs.tokens_eq steps rest hrest]
    exact tokensWithin_succ _ rfl (stringToken_written s _)

theorem tokenFrom_digit {d : Char} (hd : Decimal.isDigit d = true) (cs : List Symbol) :
    tokenFrom (.char d) cs = numberToken false (.char d :: cs) := by
  rw [tokenFrom.eq_def]
  dsimp only
  split <;> first | exact absurd hd (by decide) | exact if_pos hd

theorem isGap_digit {d : Char} (hd : Decimal.isDigit d = true) : isGap (.char d) = false := by
  simp only [isGap, Bool.or_eq_false_iff, decide_eq_false_iff_not]
  refine ⟨⟨⟨?_, ?_⟩, ?_⟩, ?_⟩ <;> (rintro rfl; exact absurd hd (by decide))

theorem text_integer (n : Int) : (Number.integer n).text.toList =
    (if n < 0 then ['-'] else []) ++ Nat.toDigits 10 n.natAbs := by
  cases n with
  | ofNat m => exact Nat.toList_repr
  | negSucc m =>
    rw [if_pos (Int.negSucc_lt_zero m)]
    exact (String.toList_append).trans (congrArg _ Nat.toList_repr)

/-- An integer is read as itself when it has one of the sizes that integers are kept in. -/
theorem spells_integer {n : Int} (hlow : -2 ^ 63 ≤ n) (hhigh : n < 2 ^ 64) :
    Spells (Number.integer n).text.toList [.number (some (.integer n))] := by
  rw [text_integer]
  split_ifs with hneg
  · refine spells_token rfl fun rest hrest => ?_
    have htoken := numberToken_toDigits true (n := n.natAbs) (by omega)
      (fun _ => by omega) hrest
    have hvalue : -(n.natAbs : Int) = n := by omega
    rw [if_pos rfl, hvalue] at htoken
    exact htoken
  · obtain ⟨d, ds, hd⟩ := List.exists_cons_of_ne_nil (Nat.toDigits_ne_nil (b := 10) (n := n.natAbs))
    have hdigit : Decimal.isDigit d = true :=
      Decimal.isDigit_of_mem_toDigits (hd ▸ List.mem_cons_self)
    have hvalue : (n.natAbs : Int) = n := by omega
    rw [List.nil_append, hd]
    refine spells_token (isGap_digit hdigit) fun rest hrest => ?_
    have htoken := numberToken_toDigits false (n := n.natAbs) (by omega)
      (fun h => by cases h) hrest
    rw [hd, if_neg (by decide), hvalue] at htoken
    rw [tokenFrom_digit hdigit]
    exact htoken

end Entitlement.Json
