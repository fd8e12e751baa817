import Entitlement.Proofs.Calendar.Birth
import Entitlement.Proofs.Steps

/-!
# The grammar of plain dates

What is read as a date in plain form, no more and no less: a year, a month and a day with hyphens
between them. The year is one to four digits, or any number of digits behind a sign; the month and
the day are one or two digits. Blanks may stand before each of the three numbers and nowhere else.
-/

namespace Entitlement

/-- Holds of one or more digits that denote a number. -/
structure Decimal.Spells (ds : List Char) (n : Nat) : Prop where
  ne_nil : ds ≠ []
  isDigit : ∀ c ∈ ds, isDigit c = true
  value : natOfDigits ds = n

namespace Text

/-- What is trimmed off in front are blanks. -/
theorem exists_blanks (cs : List Char) :
    ∃ blanks, cs = blanks ++ trimStart cs ∧ ∀ c ∈ blanks, isBlank c = true :=
  ⟨cs.takeWhile isBlank, List.takeWhile_append_dropWhile.symm,
    fun _ hc => List.mem_takeWhile_imp hc⟩

theorem trimStart_blanks_append {blanks : List Char} (hblanks : ∀ c ∈ blanks, isBlank c = true)
    (cs : List Char) : trimStart (blanks ++ cs) = trimStart cs :=
  List.dropWhile_append_of_pos hblanks

theorem trimStart_eq_nil_iff {cs : List Char} : trimStart cs = [] ↔ ∀ c ∈ cs, isBlank c = true :=
  List.dropWhile_eq_nil_iff

theorem trim_eq_nil_iff {cs : List Char} : trim cs = [] ↔ ∀ c ∈ cs, isBlank c = true := by
  rw [trim, trimEnd, List.reverse_eq_nil_iff, ← trimStart, trimStart_eq_nil_iff]
  constructor
  · intro hrest c hc
    obtain ⟨blanks, hcs, hblanks⟩ := exists_blanks cs
    rw [hcs, List.mem_append] at hc
    exact hc.elim (hblanks c) fun hc => hrest c (List.mem_reverse.mpr hc)
  · intro h
    simp [trimStart_eq_nil_iff.mpr h]

end Text

namespace Date

open Decimal (isDigit natOfDigits NoDigitAhead Spells)

/-- Holds of a year as it is written. -/
inductive YearText : List Char → Int → Prop where
  | unsigned {ds : List Char} {n : Nat} (hn : Spells ds n) (hlength : ds.length ≤ 4) :
    YearText ds n
  | plus {ds : List Char} {n : Nat} (hn : Spells ds n) : YearText ('+' :: ds) n
  | minus {ds : List Char} {n : Nat} (hn : Spells ds n) : YearText ('-' :: ds) (-n)

/-- Holds of a month or a day as it is written. -/
def PartText (ds : List Char) (n : Nat) : Prop :=
  Spells ds n ∧ ds.length ≤ 2

/-- Holds of a date in plain form. -/
def PlainText (cs : List Char) (d : Date) : Prop :=
  ∃ blanks₁ year blanks₂ month blanks₃ day,
    cs = blanks₁ ++ (year ++ '-' :: (blanks₂ ++ (month ++ '-' :: (blanks₃ ++ day)))) ∧
      (∀ c ∈ blanks₁ ++ blanks₂ ++ blanks₃, Text.isBlank c = true) ∧
      YearText year d.year ∧ PartText month d.month ∧ PartText day d.day

variable {cs ds blanks rest : List Char} {n most last : Nat} {year : Int} {d : Date}

/-! ### What is read has the form -/

theorem spells_of_takeNumber (h : takeNumber most cs = .ok (n, rest)) :
    ∃ ds, cs = ds ++ rest ∧ Spells ds n ∧ ds.length ≤ most := by
  rw [takeNumber] at h
  split_ifs at h with hcs
  dsimp only at h
  split_ifs at h with hnil hlarge
  cases h
  obtain ⟨ds, hds⟩ : ∃ ds, ds = (cs.take most).takeWhile isDigit := ⟨_, rfl⟩
  have hprefix : ds <+: cs := hds ▸ (List.takeWhile_prefix _).trans (List.take_prefix _ _)
  obtain ⟨tail, rfl⟩ := hprefix
  rw [← hds] at hnil ⊢
  refine ⟨ds, by rw [List.drop_left], ⟨by simpa using hnil, ?_, rfl⟩, ?_⟩
  · exact hds ▸ fun c hc => List.mem_takeWhile_imp hc
  · rw [hds]
    exact (List.takeWhile_prefix _).length_le.trans (List.length_take_le _ _)

/-- A number that stands for a year, as it is or with its sign changed. -/
theorem spells_of_year {f : Nat → Int}
    (h : (((takeNumber most cs).map fun x => (f x.1, x.2)) >>= fun x =>
      if -2 ^ 31 ≤ x.1 ∧ x.1 < 2 ^ 31 then .ok x else .error .outOfRange) = .ok (year, rest)) :
    ∃ ds n, cs = ds ++ rest ∧ Spells ds n ∧ ds.length ≤ most ∧ year = f n := by
  obtain ⟨x, hread, hrange⟩ := bind_eq_ok_iff.mp h
  obtain ⟨⟨n, tail⟩, hnumber, rfl⟩ := map_eq_ok_iff.mp hread
  split_ifs at hrange
  cases hrange
  obtain ⟨ds, hds, hspells, hlength⟩ := spells_of_takeNumber hnumber
  exact ⟨ds, n, hds, hspells, hlength, rfl⟩

theorem yearText_of_takeYear (h : takeYear cs = .ok (year, rest)) :
    ∃ blanks ys, cs = blanks ++ (ys ++ rest) ∧ (∀ c ∈ blanks, Text.isBlank c = true) ∧
      YearText ys year := by
  obtain ⟨blanks, hcs, hblanks⟩ := Text.exists_blanks cs
  rw [takeYear] at h
  generalize Text.trimStart cs = trimmed at hcs h
  refine ⟨blanks, ?_⟩
  dsimp only at h
  split at h
  · obtain ⟨ds, n, rfl, hspells, -, rfl⟩ := spells_of_year (f := fun n => -(n : Int)) h
    exact ⟨'-' :: ds, hcs, hblanks, .minus hspells⟩
  · obtain ⟨ds, n, rfl, hspells, -, rfl⟩ := spells_of_year (f := fun n => (n : Int)) h
    exact ⟨'+' :: ds, hcs, hblanks, .plus hspells⟩
  · obtain ⟨ds, n, rfl, hspells, hlength, rfl⟩ := spells_of_year (f := fun n => (n : Int)) h
    exact ⟨ds, hcs, hblanks, .unsigned hspells hlength⟩

theorem partText_of_takePart (h : takePart last cs = .ok (n, rest)) :
    ∃ blanks ds, cs = blanks ++ (ds ++ rest) ∧ (∀ c ∈ blanks, Text.isBlank c = true) ∧
      PartText ds n := by
  obtain ⟨blanks, hcs, hblanks⟩ := Text.exists_blanks cs
  obtain ⟨⟨m, tail⟩, hread, h⟩ := bind_eq_ok_iff.mp h
  dsimp only at h
  split_ifs at h with hrange
  cases h
  obtain ⟨ds, hds, hspells, hlength⟩ := spells_of_takeNumber hread
  exact ⟨blanks, ds, hds ▸ hcs, hblanks, hspells, hlength⟩

theorem eq_cons_of_takeHyphen (h : takeHyphen cs = .ok rest) : cs = '-' :: rest := by
  rw [takeHyphen.eq_def] at h
  split at h <;> cases h
  rfl

theorem fields_of_of? {month day : Nat} (h : of? year month day = some d) :
    d.year = year ∧ d.month = month ∧ d.day = day := by
  rw [of?] at h
  split_ifs at h
  cases h
  exact ⟨rfl, rfl, rfl⟩

theorem plainText_of_readPlain (h : readPlain cs = .ok d) : PlainText cs d := by
  obtain ⟨⟨year, cs₁⟩, hyear, h⟩ := bind_eq_ok_iff.mp h
  obtain ⟨cs₂, hhyphen, h⟩ := bind_eq_ok_iff.mp h
  obtain ⟨⟨month, cs₃⟩, hmonth, h⟩ := bind_eq_ok_iff.mp h
  obtain ⟨cs₄, hhyphen', h⟩ := bind_eq_ok_iff.mp h
  obtain ⟨⟨day, cs₅⟩, hday, h⟩ := bind_eq_ok_iff.mp h
  dsimp only [id] at h
  split_ifs at h with hend
  obtain rfl : cs₅ = [] := by simpa using hend
  split at h <;> cases h
  rename_i hdate
  obtain ⟨rfl, rfl, rfl⟩ := fields_of_of? hdate
  obtain rfl := eq_cons_of_takeHyphen hhyphen
  obtain rfl := eq_cons_of_takeHyphen hhyphen'
  obtain ⟨blanks₁, ys, rfl, hblanks₁, hys⟩ := yearText_of_takeYear hyear
  obtain ⟨blanks₂, ms, rfl, hblanks₂, hms⟩ := partText_of_takePart hmonth
  obtain ⟨blanks₃, ds, rfl, hblanks₃, hds⟩ := partText_of_takePart hday
  refine ⟨blanks₁, ys, blanks₂, ms, blanks₃, ds, by rw [List.append_nil], ?_, hys, hms, hds⟩
  intro c hc
  simp only [List.mem_append] at hc
  obtain (hc | hc) | hc := hc
  · exact hblanks₁ c hc
  · exact hblanks₂ c hc
  · exact hblanks₃ c hc

/-! ### What has the form is read -/

theorem takeYear_blanks_append (hblanks : ∀ c ∈ blanks, Text.isBlank c = true) (cs : List Char) :
    takeYear (blanks ++ cs) = takeYear cs := by
  rw [takeYear, Text.trimStart_blanks_append hblanks, ← takeYear]

theorem takePart_blanks_append (hblanks : ∀ c ∈ blanks, Text.isBlank c = true) (cs : List Char) :
    takePart last (blanks ++ cs) = takePart last cs := by
  rw [takePart, Text.trimStart_blanks_append hblanks, ← takePart]

theorem takeNumber_of_spells (hds : Spells ds n) (hlength : ds.length ≤ most) (hn : n < 2 ^ 63)
    (hrest : NoDigitAhead rest) : takeNumber most (ds ++ rest) = .ok (n, rest) := by
  obtain ⟨hne, hdigits, rfl⟩ := hds
  exact takeNumber_digits hdigits hne hlength hn hrest

theorem exists_cons_of_spells (hds : Spells ds n) : ∃ c cs, ds = c :: cs ∧ isDigit c = true := by
  obtain ⟨c, cs, rfl⟩ := List.exists_cons_of_ne_nil hds.ne_nil
  exact ⟨c, cs, rfl, hds.isDigit c List.mem_cons_self⟩

theorem takeYear_of_yearText {ys : List Char} (hys : YearText ys year)
    (hyear : -262143 ≤ year ∧ year ≤ 262142) (hrest : NoDigitAhead rest) :
    takeYear (ys ++ rest) = .ok (year, rest) := by
  have hfits (ds : List Char) : ds.length ≤ (ds ++ rest).length := by
    rw [List.length_append]
    exact Nat.le_add_right _ _
  cases hys with
  | @unsigned ds n hn hlength =>
    have hnumber := takeNumber_of_spells hn hlength (by omega) hrest
    obtain ⟨c, cs, rfl, hc⟩ := exists_cons_of_spells hn
    exact takeYear_digit hc hnumber (by omega)
  | @plus ds n hn =>
    exact takeYear_plus (takeNumber_of_spells hn (hfits ds) (by omega) hrest) (by omega)
  | @minus ds n hn =>
    exact takeYear_minus (takeNumber_of_spells hn (hfits ds) (by omega) hrest) (by omega)

theorem takePart_of_partText (hds : PartText ds n) (hn : 1 ≤ n ∧ n ≤ last) (hlast : last < 100)
    (hrest : NoDigitAhead rest) : takePart last (ds ++ rest) = .ok (n, rest) := by
  have hnumber := takeNumber_of_spells hds.1 hds.2 (by omega) hrest
  have hfirst : Text.trimStart (ds ++ rest) = ds ++ rest := by
    obtain ⟨c, cs, rfl, hc⟩ := exists_cons_of_spells hds.1
    exact trimStart_of_isDigit hc
  rw [takePart, hfirst]
  exact bind_eq_ok_iff.mpr ⟨_, hnumber, if_pos hn⟩

theorem readPlain_of_plainText (h : PlainText cs d) : readPlain cs = .ok d := by
  obtain ⟨blanks₁, ys, blanks₂, ms, blanks₃, ds, rfl, hblanks, hys, hms, hds⟩ := h
  simp only [List.mem_append] at hblanks
  have hday : d.day ≤ 31 := Nat.le_trans d.day_mem.2 (daysInMonth_le _ _)
  have hreadYear := (takeYear_blanks_append (fun c hc => hblanks c (.inl (.inl hc))) _).trans
    (takeYear_of_yearText hys d.year_mem (noDigitAhead_hyphen
      (blanks₂ ++ (ms ++ '-' :: (blanks₃ ++ ds)))))
  have hreadMonth := (takePart_blanks_append (fun c hc => hblanks c (.inl (.inr hc))) _).trans
    (takePart_of_partText hms d.month_mem (by decide) (noDigitAhead_hyphen (blanks₃ ++ ds)))
  have hreadDay : takePart 31 (blanks₃ ++ ds) = .ok (d.day, []) := by
    have hread := takePart_of_partText hds ⟨d.day_mem.1, hday⟩ (by decide)
      (nofun : NoDigitAhead [])
    rw [List.append_nil] at hread
    exact (takePart_blanks_append (fun c hc => hblanks c (.inr hc)) _).trans hread
  rw [readPlain, readWith, hreadYear]
  simp only [Except.bind, bind, id, takeHyphen, hreadMonth, hreadDay, of?_eq_some]
  rfl

/-- A text is read as a date just if it is that date in plain form. -/
theorem readPlain_eq_ok_iff : readPlain cs = .ok d ↔ PlainText cs d :=
  ⟨plainText_of_readPlain, readPlain_of_plainText⟩

theorem ne_nil_of_plainText (h : PlainText cs d) : cs ≠ [] := by
  obtain ⟨blanks₁, year, blanks₂, month, blanks₃, day, rfl, -⟩ := h
  simp

end Date

end Entitlement
