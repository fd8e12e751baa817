import Entitlement.Calendar.Reading
import Entitlement.Proofs.Number.Digits

/-!
# Dates read back

Every date of the calendar is read back from its text: the year with or without a sign, and the
month and the day as two digits each.
-/

namespace Entitlement.Date

open Decimal (isDigit natOfDigits NoDigitAhead)

/-! ### Padded numbers -/

theorem natOfDigits_padded (width n : Nat) : natOfDigits (padded width n) = n := by
  rw [padded, Decimal.natOfDigits_zeros_append, Decimal.natOfDigits_toDigits]

theorem isDigit_of_mem_padded {width n : Nat} : ∀ c ∈ padded width n, isDigit c = true := by
  intro c hc
  rcases List.mem_append.mp hc with hzero | hdigit
  · rw [List.eq_of_mem_replicate hzero]
    rfl
  · exact Decimal.isDigit_of_mem_toDigits hdigit

theorem padded_ne_nil (width n : Nat) : padded width n ≠ [] :=
  List.append_ne_nil_of_right_ne_nil _ Nat.toDigits_ne_nil

theorem length_padded {width n : Nat} (hwidth : 0 < width) (hn : n < 10 ^ width) :
    (padded width n).length = width := by
  have hle : (Nat.toDigits 10 n).length ≤ width :=
    (Nat.length_toDigits_le_iff (by decide) hwidth).mpr hn
  rw [padded, List.length_append, List.length_replicate]
  omega

/-! ### Numbers at the front of a text -/

theorem isBlank_of_isDigit {c : Char} (h : isDigit c = true) : Text.isBlank c = false := by
  have hrange := Decimal.toNat_of_isDigit h
  simp only [Text.isBlank, Bool.or_eq_false_iff, Bool.and_eq_false_iff, decide_eq_false_iff_not,
    beq_eq_false_iff_ne, ne_eq]
  omega

theorem trimStart_of_isDigit {c : Char} {cs : List Char} (h : isDigit c = true) :
    Text.trimStart (c :: cs) = c :: cs := by
  rw [Text.trimStart, List.dropWhile_cons_of_neg (by rw [isBlank_of_isDigit h]; decide)]

theorem noDigitAhead_hyphen (rest : List Char) : NoDigitAhead ('-' :: rest) := by
  rintro c ⟨⟩
  rfl

theorem takeNumber_digits {most : Nat} {ds rest : List Char} (hds : ∀ c ∈ ds, isDigit c = true)
    (hne : ds ≠ []) (hlength : ds.length ≤ most) (hsmall : natOfDigits ds < 2 ^ 63)
    (hrest : NoDigitAhead rest) : takeNumber most (ds ++ rest) = .ok (natOfDigits ds, rest) := by
  have hahead : NoDigitAhead (rest.take (most - ds.length)) := by
    intro c hc
    rw [List.head?_take] at hc
    split_ifs at hc
    · cases hc
    · exact hrest c hc
  have htaken : ((ds ++ rest).take most).takeWhile isDigit = ds := by
    rw [List.take_append, List.take_of_length_le hlength]
    exact Decimal.takeWhile_isDigit_append hds hahead
  rw [takeNumber, htaken, if_neg (by simp [hne])]
  dsimp only
  rw [if_neg (by simp [hne]), if_neg (Nat.not_le.mpr hsmall), List.drop_left]

theorem takeNumber_padded {most width n : Nat} {rest : List Char}
    (hlength : (padded width n).length ≤ most) (hn : n < 2 ^ 63) (hrest : NoDigitAhead rest) :
    takeNumber most (padded width n ++ rest) = .ok (n, rest) := by
  have htaken := takeNumber_digits isDigit_of_mem_padded (padded_ne_nil width n) hlength
    (by rwa [natOfDigits_padded]) hrest
  rwa [natOfDigits_padded] at htaken

theorem trimStart_padded_append (width n : Nat) (rest : List Char) :
    Text.trimStart (padded width n ++ rest) = padded width n ++ rest := by
  obtain ⟨c, cs, hc⟩ := List.exists_cons_of_ne_nil (padded_ne_nil width n)
  have hdigit : isDigit c = true := isDigit_of_mem_padded c (hc ▸ List.mem_cons_self)
  rw [hc]
  exact trimStart_of_isDigit hdigit

theorem takePart_two (last : Nat) {n : Nat} {rest : List Char} (hn : n ≤ 99)
    (hrest : NoDigitAhead rest) :
    takePart last (padded 2 n ++ rest) =
      if 1 ≤ n ∧ n ≤ last then .ok (n, rest) else .error .outOfRange := by
  have hlength : (padded 2 n).length = 2 := length_padded (by decide) (by omega)
  rw [takePart, trimStart_padded_append, takeNumber_padded (by omega) (by omega) hrest]
  rfl

theorem takePart_padded {last n : Nat} {rest : List Char} (hn : 1 ≤ n ∧ n ≤ last)
    (hlast : last < 100) (hrest : NoDigitAhead rest) :
    takePart last (padded 2 n ++ rest) = .ok (n, rest) := by
  rw [takePart_two last (by omega) hrest, if_pos hn]

/-! ### Years -/

theorem takeYear_minus {n : Nat} {cs rest : List Char}
    (h : takeNumber cs.length cs = .ok (n, rest)) (hn : n ≤ 2 ^ 31) :
    takeYear ('-' :: cs) = .ok (-(n : Int), rest) := by
  have hread : takeYear ('-' :: cs) =
      ((takeNumber cs.length cs).map fun x => (-(x.1 : Int), x.2)).bind fun x =>
        if -2 ^ 31 ≤ x.1 ∧ x.1 < 2 ^ 31 then .ok x else .error .outOfRange := rfl
  simp only [hread, h, Except.map, Except.bind]
  rw [if_pos (by omega)]

theorem takeYear_plus {n : Nat} {cs rest : List Char}
    (h : takeNumber cs.length cs = .ok (n, rest)) (hn : n < 2 ^ 31) :
    takeYear ('+' :: cs) = .ok ((n : Int), rest) := by
  have hread : takeYear ('+' :: cs) =
      ((takeNumber cs.length cs).map fun x => ((x.1 : Int), x.2)).bind fun x =>
        if -2 ^ 31 ≤ x.1 ∧ x.1 < 2 ^ 31 then .ok x else .error .outOfRange := rfl
  simp only [hread, h, Except.map, Except.bind]
  rw [if_pos (by omega)]

theorem takeYear_digit {n : Nat} {c : Char} {cs rest : List Char} (hc : isDigit c = true)
    (h : takeNumber 4 (c :: cs) = .ok (n, rest)) (hn : n < 2 ^ 31) :
    takeYear (c :: cs) = .ok ((n : Int), rest) := by
  rw [takeYear, trimStart_of_isDigit hc]
  split
  · rename_i hsign
    cases hsign
    cases hc
  · rename_i hsign
    cases hsign
    cases hc
  · simp only [h, Except.map, bind, Except.bind]
    rw [if_pos (by omega)]
    rfl

/-- The sign of a year as it is written. -/
def yearSign (year : Int) : List Char :=
  if year < 0 then ['-'] else if 9999 < year then ['+'] else []

/-- A year is read up to the hyphen behind it. With a sign it may have any number of digits, and
without one it has four. -/
theorem takeYear_text {year : Int} (hyear : -262143 ≤ year ∧ year ≤ 262142) (rest : List Char) :
    takeYear (yearSign year ++ (padded 4 year.natAbs ++ '-' :: rest)) =
      .ok (year, '-' :: rest) := by
  have hnumber (most : Nat) (hmost : (padded 4 year.natAbs).length ≤ most) :
      takeNumber most (padded 4 year.natAbs ++ '-' :: rest) = .ok (year.natAbs, '-' :: rest) :=
    takeNumber_padded hmost (by omega) (noDigitAhead_hyphen rest)
  have hall := hnumber (padded 4 year.natAbs ++ '-' :: rest).length
    (by rw [List.length_append]; exact Nat.le_add_right _ _)
  rw [yearSign]
  split_ifs with hneg hlarge
  · have hvalue : -(year.natAbs : Int) = year := by omega
    rw [List.singleton_append, takeYear_minus hall (by omega), hvalue]
  · have hvalue : (year.natAbs : Int) = year := by omega
    rw [List.singleton_append, takeYear_plus hall (by omega), hvalue]
  · have hvalue : (year.natAbs : Int) = year := by omega
    have hfour := hnumber 4 (Nat.le_of_eq (length_padded (by decide) (by omega)))
    obtain ⟨c, cs, hc⟩ := List.exists_cons_of_ne_nil (padded_ne_nil 4 year.natAbs)
    have hdigit : isDigit c = true := isDigit_of_mem_padded c (hc ▸ List.mem_cons_self)
    rw [hc, List.cons_append] at hfour
    rw [List.nil_append, hc, List.cons_append, takeYear_digit hdigit hfour (by omega), hvalue]

/-! ### Dates -/

theorem of?_eq_some (d : Date) : of? d.year d.month d.day = some d :=
  dif_pos ⟨d.year_mem, d.month_mem, d.day_mem⟩

theorem daysInMonth_le (year : Int) (month : Nat) : daysInMonth year month ≤ 31 := by
  rw [daysInMonth]
  split_ifs <;> decide

/-- Dates are read back whether or not blanks are allowed before the hyphens and at the end. -/
theorem readWith_text {gap : List Char → List Char} (hhyphen : ∀ cs, gap ('-' :: cs) = '-' :: cs)
    (hend : gap [] = []) (d : Date) : readWith gap d.text.toList = .ok d := by
  have htext : d.text.toList = yearSign d.year ++
      (padded 4 d.year.natAbs ++ '-' :: (padded 2 d.month ++ '-' :: (padded 2 d.day ++ []))) := by
    simp [text, yearSign]
  have hday : d.day ≤ 31 := Nat.le_trans d.day_mem.2 (daysInMonth_le _ _)
  have hyear := takeYear_text d.year_mem (padded 2 d.month ++ '-' :: (padded 2 d.day ++ []))
  have hmonth : takePart 12 (padded 2 d.month ++ '-' :: (padded 2 d.day ++ [])) =
      .ok (d.month, '-' :: (padded 2 d.day ++ [])) :=
    takePart_padded d.month_mem (by decide) (noDigitAhead_hyphen _)
  have hlast : takePart 31 (padded 2 d.day ++ []) = .ok (d.day, []) :=
    takePart_padded ⟨d.day_mem.1, hday⟩ (by decide) (fun _ hc => nomatch hc)
  rw [readWith, htext, hyear]
  simp only [Except.bind, bind, hhyphen, takeHyphen, hmonth, hlast, hend, of?_eq_some]
  rfl

theorem readLoose_text (d : Date) : readLoose d.text.toList = .ok d :=
  readWith_text (fun _ => rfl) rfl d

end Entitlement.Date
