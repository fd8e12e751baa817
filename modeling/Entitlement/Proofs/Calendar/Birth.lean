import Entitlement.Check.Attribute
import Entitlement.Proofs.Calendar.Reading
import Mathlib.Data.List.Basic

/-!
# Dates of birth

A date of birth is the date that is written, by itself or at the front of a timestamp, with any
blanks around it. The time of day and the offset have no part in it. A month or day that the
calendar does not have makes no date of birth in either form.
-/

namespace Entitlement

/-! ### Blanks around a text -/

namespace Text

variable {front cs back : List Char}

theorem trimStart_append (hfront : ∀ c ∈ front, isBlank c = true)
    (hcs : ∀ c ∈ cs.head?, isBlank c = false) : trimStart (front ++ cs) = cs := by
  rw [trimStart, List.dropWhile_append_of_pos hfront]
  cases cs with
  | nil => rfl
  | cons c cs => rw [List.dropWhile_cons_of_neg (by simp [hcs c rfl])]

theorem trimEnd_append (hback : ∀ c ∈ back, isBlank c = true)
    (hcs : ∀ c ∈ cs.getLast?, isBlank c = false) : trimEnd (cs ++ back) = cs := by
  have hreversed : trimStart (back.reverse ++ cs.reverse) = cs.reverse :=
    trimStart_append (by simpa using hback) (by simpa using hcs)
  rw [trimEnd, List.reverse_append, ← trimStart, hreversed, List.reverse_reverse]

/-- What stands between the blanks is left when it neither starts nor ends with one. -/
theorem trim_append (hfront : ∀ c ∈ front, isBlank c = true) (hback : ∀ c ∈ back, isBlank c = true)
    (hne : cs ≠ []) (hfirst : ∀ c ∈ cs.head?, isBlank c = false)
    (hlast : ∀ c ∈ cs.getLast?, isBlank c = false) : trim (front ++ cs ++ back) = cs := by
  have hhead : ∀ c ∈ (cs ++ back).head?, isBlank c = false := by
    rwa [List.head?_append_of_ne_nil _ hne]
  rw [trim, List.append_assoc, trimStart_append hfront hhead, trimEnd_append hback hlast]

end Text

namespace Date

open Decimal (isDigit natOfDigits NoDigitAhead)

variable {year month day n last width : Nat} {rest front back : List Char}

/-! ### The date in front -/

/-- Year, month and day with hyphens, the year with four digits and the others with two. -/
def hyphenated (year month day : Nat) : List Char :=
  padded 4 year ++ '-' :: (padded 2 month ++ '-' :: padded 2 day)

theorem of?_eq_none (h : ¬ ((1 ≤ month ∧ month ≤ 12) ∧ 1 ≤ day ∧ day ≤ daysInMonth year month)) :
    of? year month day = none :=
  dif_neg fun hall => h hall.2

/-- Alone the date is read; with anything else behind it is no plain date. -/
theorem readPlain_hyphenated (hyear : year ≤ 9999) (hmonth : month ≤ 99) (hday : day ≤ 99)
    (hrest : NoDigitAhead rest) :
    (readPlain (hyphenated year month day ++ rest)).toOption =
      if rest.isEmpty then of? year month day else none := by
  have hsign : yearSign year = [] := by
    rw [yearSign, if_neg (by omega), if_neg (by omega)]
  have htext : hyphenated year month day ++ rest = yearSign year ++
      (padded 4 (year : Int).natAbs ++
        '-' :: (padded 2 month ++ '-' :: (padded 2 day ++ rest))) := by
    simp [hyphenated, hsign]
  have hcalendar : -262143 ≤ (year : Int) ∧ (year : Int) ≤ 262142 := by omega
  have htakeYear := takeYear_text hcalendar (padded 2 month ++ '-' :: (padded 2 day ++ rest))
  have htakeMonth := takePart_two 12 hmonth (noDigitAhead_hyphen (padded 2 day ++ rest))
  have htakeDay := takePart_two 31 hday hrest
  rw [readPlain, readWith, htext, htakeYear]
  simp only [bind, Except.bind, id, takeHyphen, htakeMonth]
  by_cases hm : 1 ≤ month ∧ month ≤ 12
  · simp only [if_pos hm, htakeDay]
    by_cases hd : 1 ≤ day ∧ day ≤ 31
    · simp only [if_pos hd]
      cases rest with
      | nil => cases of? year month day <;> rfl
      | cons c cs => rfl
    · have hnone : of? year month day = none := of?_eq_none fun h =>
        hd ⟨h.2.1, h.2.2.trans (daysInMonth_le _ _)⟩
      rw [if_neg hd, hnone, ite_self]
      rfl
  · have hnone : of? year month day = none := of?_eq_none fun h => hm h.1
    rw [if_neg hm, hnone, ite_self]
    rfl

/-! ### What follows the date in a timestamp -/

/-- The offset of a timestamp, which is less than a day in either direction. -/
inductive Offset where
  | zulu (letter : Char) (letter_mem : letter ∈ ['Z', 'z'])
  | away (sign : Char) (hour minute : Nat) (sign_mem : sign ∈ ['+', '-', '\u2212'])
      (hour_le : hour ≤ 23) (minute_le : minute ≤ 59)

/-- The offset as it is written. -/
def Offset.text : Offset → List Char
  | .zulu letter _ => [letter]
  | .away sign hour minute _ _ _ => sign :: (padded 2 hour ++ ':' :: padded 2 minute)

/-- A time of day and an offset, with what separates them from the date. The second 60 is a leap
second, and a second may have any number of decimals. -/
structure Daytime where
  separator : Char
  hour : Nat
  minute : Nat
  second : Nat
  decimals : List Char
  offset : Offset
  separator_mem : separator ∈ ['T', 't', ' ']
  hour_le : hour ≤ 23
  minute_le : minute ≤ 59
  second_le : second ≤ 60
  isDigit_decimals : ∀ c ∈ decimals, isDigit c = true

/-- The decimals of the second behind a point, if there are any. -/
def Daytime.fraction (t : Daytime) : List Char :=
  if t.decimals.isEmpty then [] else '.' :: t.decimals

/-- The time of day as it is written behind a date. -/
def Daytime.clock (t : Daytime) : List Char :=
  t.separator ::
    (padded 2 t.hour ++ ':' :: (padded 2 t.minute ++ ':' :: (padded 2 t.second ++ t.fraction)))

/-- The time of day and the offset as they are written behind a date. -/
def Daytime.text (t : Daytime) : List Char :=
  t.clock ++ t.offset.text

theorem fixed?_padded (hwidth : 0 < width) (hn : n < 10 ^ width) :
    fixed? width last (padded width n ++ rest) = if n ≤ last then some (n, rest) else none := by
  have hlength := length_padded hwidth hn
  have htake : (padded width n ++ rest).take width = padded width n := List.take_left' hlength
  have hdrop : (padded width n ++ rest).drop width = rest := List.drop_left' hlength
  have hdigits : (padded width n).all isDigit = true := List.all_eq_true.mpr isDigit_of_mem_padded
  rw [fixed?, htake, hdrop]
  simp only [hlength, hdigits, natOfDigits_padded, true_and]

theorem fixed?_of_le (hn : n ≤ last) (hlast : last ≤ 99) (rest : List Char) :
    fixed? 2 last (padded 2 n ++ rest) = some (n, rest) := by
  rw [fixed?_padded (by decide) (by omega), if_pos hn]

theorem afterOneOf?_cons {allowed : List Char} {c : Char} (hc : c ∈ allowed) :
    afterOneOf? allowed (c :: rest) = some rest :=
  if_pos (List.contains_iff_mem.mpr hc)

theorem Offset.afterOffset?_text (o : Offset) : afterOffset? o.text = some [] := by
  cases o with
  | zulu letter hmem => rw [text, afterOffset?, afterOneOf?_cons hmem]
  | away sign hour minute hsign hhour hminute =>
    have hnotzulu : ∀ rest, afterOneOf? ['Z', 'z'] (sign :: rest) = none := by
      simp only [List.mem_cons, List.not_mem_nil, or_false] at hsign
      rcases hsign with rfl | rfl | rfl <;> exact fun _ => rfl
    have htakeMinute := fixed?_of_le hminute (by decide) []
    rw [List.append_nil] at htakeMinute
    rw [text, afterOffset?, hnotzulu]
    simp only [afterOneOf?_cons hsign, fixed?_of_le hhour (by decide),
      afterOneOf?_cons (List.mem_singleton_self ':'), htakeMinute, Option.bind_eq_bind,
      Option.bind_some, Option.pure_def]

/-- An offset starts with a letter or a sign, so that neither decimals nor a point go on. -/
theorem Offset.exists_text (o : Offset) :
    ∃ c cs, o.text = c :: cs ∧ isDigit c = false ∧ c ≠ '.' := by
  cases o with
  | zulu letter hmem =>
    refine ⟨letter, [], rfl, ?_⟩
    simp only [List.mem_cons, List.not_mem_nil, or_false] at hmem
    rcases hmem with rfl | rfl <;> decide
  | away sign hour minute hsign hhour hminute =>
    refine ⟨sign, _, rfl, ?_⟩
    simp only [List.mem_cons, List.not_mem_nil, or_false] at hsign
    rcases hsign with rfl | rfl | rfl <;> decide

theorem Daytime.afterFraction?_append (t : Daytime) :
    afterFraction? (t.fraction ++ t.offset.text) = some t.offset.text := by
  obtain ⟨c, cs, htext, hdigit, hpoint⟩ := t.offset.exists_text
  have hahead : NoDigitAhead t.offset.text := by
    rw [htext]
    rintro d ⟨⟩
    exact hdigit
  rw [fraction]
  split_ifs with hnone
  · rw [List.nil_append, htext, afterFraction?]
    rintro rest ⟨⟩
    exact hpoint rfl
  · have htaken := Decimal.takeWhile_isDigit_append t.isDigit_decimals hahead
    have hdropped : (t.decimals ++ t.offset.text).dropWhile isDigit = t.offset.text := by
      rw [List.dropWhile_append_of_pos t.isDigit_decimals, htext,
        List.dropWhile_cons_of_neg (by simp [hdigit])]
    rw [List.cons_append, afterFraction?, htaken, hdropped, if_neg hnone]

/-- The text after a time of day and an offset. -/
def afterDaytime? (cs : List Char) : Option (List Char) := do
  let cs ← afterOneOf? ['T', 't', ' '] cs
  let (_, cs) ← fixed? 2 23 cs
  let cs ← afterOneOf? [':'] cs
  let (_, cs) ← fixed? 2 59 cs
  let cs ← afterOneOf? [':'] cs
  let (_, cs) ← fixed? 2 60 cs
  let cs ← afterFraction? cs
  afterOffset? cs

theorem Daytime.afterDaytime?_text (t : Daytime) : afterDaytime? t.text = some [] := by
  have hcolon {rest : List Char} : afterOneOf? [':'] (':' :: rest) = some rest :=
    afterOneOf?_cons (List.mem_singleton_self ':')
  simp only [afterDaytime?, text, clock, List.append_assoc, List.cons_append,
    afterOneOf?_cons t.separator_mem, Option.bind_eq_bind, Option.bind_some, hcolon,
    fixed?_of_le t.hour_le (by decide), fixed?_of_le t.minute_le (by decide),
    fixed?_of_le t.second_le (by decide), t.afterFraction?_append, t.offset.afterOffset?_text]

/-- A timestamp gives the date that is written in it, if a time of day and an offset follow. -/
theorem ofTimestamp?_hyphenated (hyear : year ≤ 9999) (hmonth : month ≤ 99) (hday : day ≤ 99)
    (rest : List Char) : ofTimestamp? (hyphenated year month day ++ rest) =
      (afterDaytime? rest).bind fun cs => if cs.isEmpty then of? year month day else none := by
  have htakeYear {rest : List Char} :
      fixed? 4 9999 (padded 4 year ++ rest) = some (year, rest) := by
    rw [fixed?_padded (by decide) (by omega), if_pos hyear]
  have htakeMonth {rest : List Char} : fixed? 2 12 (padded 2 month ++ rest) =
      if month ≤ 12 then some (month, rest) else none := fixed?_padded (by decide) (by omega)
  have htakeDay {rest : List Char} : fixed? 2 31 (padded 2 day ++ rest) =
      if day ≤ 31 then some (day, rest) else none := fixed?_padded (by decide) (by omega)
  have hhyphen {rest : List Char} : afterOneOf? ['-'] ('-' :: rest) = some rest :=
    afterOneOf?_cons (List.mem_singleton_self '-')
  simp only [ofTimestamp?, hyphenated, List.append_assoc, List.cons_append, htakeYear, hhyphen,
    Option.bind_eq_bind, Option.bind_some, htakeMonth]
  by_cases hm : month ≤ 12
  · simp only [if_pos hm, Option.bind_some, hhyphen, htakeDay]
    by_cases hd : day ≤ 31
    · simp only [if_pos hd, Option.bind_some, afterDaytime?, Option.bind_eq_bind, Option.bind_assoc]
    · have hnone : of? year month day = none :=
        of?_eq_none fun h => hd (h.2.2.trans (daysInMonth_le _ _))
      simp [hd, hnone]
  · have hnone : of? year month day = none := of?_eq_none fun h => hm h.1.2
    simp [hm, hnone]

/-! ### Dates of birth -/

theorem isBlank_of_mem_hyphenated : ∀ c ∈ hyphenated year month day, Text.isBlank c = false := by
  intro c hc
  simp only [hyphenated, List.mem_append, List.mem_cons] at hc
  rcases hc with hc | rfl | hc | rfl | hc
  · exact isBlank_of_isDigit (isDigit_of_mem_padded c hc)
  · decide
  · exact isBlank_of_isDigit (isDigit_of_mem_padded c hc)
  · decide
  · exact isBlank_of_isDigit (isDigit_of_mem_padded c hc)

theorem Offset.isBlank_of_mem_text (o : Offset) : ∀ c ∈ o.text, Text.isBlank c = false := by
  intro c hc
  cases o with
  | zulu letter hmem =>
    rw [List.mem_singleton.mp hc]
    simp only [List.mem_cons, List.not_mem_nil, or_false] at hmem
    rcases hmem with rfl | rfl <;> decide
  | away sign hour minute hsign hhour hminute =>
    simp only [text, List.mem_cons, List.mem_append] at hc
    rcases hc with rfl | hc | rfl | hc
    · simp only [List.mem_cons, List.not_mem_nil, or_false] at hsign
      rcases hsign with rfl | rfl | rfl <;> decide
    · exact isBlank_of_isDigit (isDigit_of_mem_padded c hc)
    · decide
    · exact isBlank_of_isDigit (isDigit_of_mem_padded c hc)

theorem hyphenated_ne_nil : hyphenated year month day ≠ [] :=
  List.append_ne_nil_of_left_ne_nil (padded_ne_nil 4 year) _

/-- Blanks around a date, with or without something behind it that ends in no blank, have no part
in reading it. -/
theorem ofBirthText?_between (hfront : ∀ c ∈ front, Text.isBlank c = true)
    (hback : ∀ c ∈ back, Text.isBlank c = true)
    (hlast : ∀ c ∈ (hyphenated year month day ++ rest).getLast?, Text.isBlank c = false) :
    ofBirthText? (String.ofList (front ++ (hyphenated year month day ++ rest) ++ back)) =
      (readPlain (hyphenated year month day ++ rest)).toOption.or
        (ofTimestamp? (hyphenated year month day ++ rest)) := by
  have hne : hyphenated year month day ++ rest ≠ [] :=
    List.append_ne_nil_of_left_ne_nil hyphenated_ne_nil _
  have hfirst : ∀ c ∈ (hyphenated year month day ++ rest).head?, Text.isBlank c = false := by
    intro c hc
    rw [List.head?_append_of_ne_nil _ hyphenated_ne_nil] at hc
    exact isBlank_of_mem_hyphenated c (List.mem_of_mem_head? hc)
  rw [ofBirthText?, String.toList_ofList, Text.trim_append hfront hback hne hfirst hlast]
  cases readPlain (hyphenated year month day ++ rest) <;> rfl

theorem ofBirthText?_plain (hyear : year ≤ 9999) (hmonth : month ≤ 99) (hday : day ≤ 99)
    (hfront : ∀ c ∈ front, Text.isBlank c = true) (hback : ∀ c ∈ back, Text.isBlank c = true) :
    ofBirthText? (String.ofList (front ++ hyphenated year month day ++ back)) =
      of? year month day := by
  have hlast : ∀ c ∈ (hyphenated year month day ++ []).getLast?, Text.isBlank c = false := by
    rw [List.append_nil]
    exact fun c hc => isBlank_of_mem_hyphenated c (List.mem_of_mem_getLast? hc)
  have hnothing : NoDigitAhead [] := nofun
  have hread := ofBirthText?_between hfront hback hlast
  have hplain := readPlain_hyphenated hyear hmonth hday hnothing
  have hstamp := ofTimestamp?_hyphenated hyear hmonth hday []
  rw [List.append_nil] at hread hplain hstamp
  rw [hread, hplain, hstamp]
  exact Option.or_none

theorem ofBirthText?_timestamp (hyear : year ≤ 9999) (hmonth : month ≤ 99) (hday : day ≤ 99)
    (hfront : ∀ c ∈ front, Text.isBlank c = true) (hback : ∀ c ∈ back, Text.isBlank c = true)
    (t : Daytime) :
    ofBirthText? (String.ofList (front ++ (hyphenated year month day ++ t.text) ++ back)) =
      of? year month day := by
  have hne : t.offset.text ≠ [] := by
    obtain ⟨c, cs, htext, -⟩ := t.offset.exists_text
    rw [htext]
    exact List.cons_ne_nil c cs
  have hlast : ∀ c ∈ (hyphenated year month day ++ t.text).getLast?, Text.isBlank c = false := by
    intro c hc
    rw [Daytime.text, ← List.append_assoc, List.getLast?_append_of_ne_nil _ hne] at hc
    exact t.offset.isBlank_of_mem_text c (List.mem_of_mem_getLast? hc)
  have hahead : NoDigitAhead t.text := by
    have hsep := t.separator_mem
    rintro c ⟨⟩
    simp only [List.mem_cons, List.not_mem_nil, or_false] at hsep
    rcases hsep with h | h | h <;> rw [h] <;> decide
  rw [ofBirthText?_between hfront hback hlast, readPlain_hyphenated hyear hmonth hday hahead,
    ofTimestamp?_hyphenated hyear hmonth hday, t.afterDaytime?_text]
  rfl

/-- The date of birth that a text gives is the date written in it, whether that stands alone or a
time of day and an offset follow, and whatever blanks are around it. So the age is counted from the
written date. A text with a month or a day that the calendar does not have gives none. -/
theorem birth_is_the_written_date {year month day : Nat} (hyear : year ≤ 9999)
    (hmonth : month ≤ 99) (hday : day ≤ 99) {front back : List Char}
    (hfront : ∀ c ∈ front, Text.isBlank c = true) (hback : ∀ c ∈ back, Text.isBlank c = true) :
    let plain := String.ofList (front ++ hyphenated year month day ++ back)
    let timestamp (t : Daytime) :=
      String.ofList (front ++ (hyphenated year month day ++ t.text) ++ back)
    (∀ d : Date, d.year = year → d.month = month → d.day = day →
      ofBirthText? plain = some d ∧ (∀ t, ofBirthText? (timestamp t) = some d) ∧
      ∀ (p : Profile) (today : Date), p.age = none →
        (p.dateOfBirth = some plain ∨ ∃ t, p.dateOfBirth = some (timestamp t)) →
          p.age? today = some (ageOn d today)) ∧
    (¬ ((1 ≤ month ∧ month ≤ 12) ∧ 1 ≤ day ∧ day ≤ daysInMonth year month) →
      ofBirthText? plain = none ∧ ∀ t, ofBirthText? (timestamp t) = none) := by
  intro plain timestamp
  have hplain : ofBirthText? plain = of? year month day :=
    ofBirthText?_plain hyear hmonth hday hfront hback
  have htimestamp : ∀ t, ofBirthText? (timestamp t) = of? year month day :=
    ofBirthText?_timestamp hyear hmonth hday hfront hback
  constructor
  · intro d hy hm hd
    have hdate : of? year month day = some d := by
      rw [← hy, ← hm, ← hd]
      exact of?_eq_some d
    rw [hdate] at hplain htimestamp
    refine ⟨hplain, htimestamp, fun p today hage hbirth => ?_⟩
    rw [Profile.age?, hage]
    rcases hbirth with hbirth | ⟨t, hbirth⟩
    · rw [hbirth, Option.bind_some, hplain, Option.map_some]
    · rw [hbirth, Option.bind_some, htimestamp, Option.map_some]
  · intro hmissing
    rw [of?_eq_none hmissing] at hplain htimestamp
    exact ⟨hplain, htimestamp⟩

/-- A birth in a leap second, nearly a day behind the time at zero longitude. -/
theorem birth_in_a_leap_second :
    let d : Date := ⟨2000, 2, 29, by decide, by decide, by decide⟩
    let p : Profile :=
      { id := "p-1", dateOfBirth := some "\u3000 2000-02-29 23:59:60.07\u221223:59\t" }
    let today : Date := ⟨2024, 2, 28, by decide, by decide, by decide⟩
    ofBirthText? "\u3000 2000-02-29\t" = some d ∧ p.age? today = some 23 ∧
      ¬ ((1 ≤ 2 ∧ 2 ≤ 12) ∧ 1 ≤ 29 ∧ 29 ≤ daysInMonth 2001 2) ∧
      ofBirthText? "2001-02-29" = none ∧
      ofBirthText? "2001-02-29 23:59:60.07\u221223:59" = none := by
  intro d p today
  let offset : Offset := .away '\u2212' 23 59 (by decide) (by decide) (by decide)
  let t : Daytime :=
    ⟨' ', 23, 59, 60, ['0', '7'], offset, by decide, by decide, by decide, by decide,
      List.all_eq_true.mp (by decide)⟩
  have hblanks : ∀ c ∈ ['\u3000', ' '], Text.isBlank c = true := List.all_eq_true.mp (by decide)
  have htab : ∀ c ∈ ['\t'], Text.isBlank c = true := List.all_eq_true.mp (by decide)
  have hnothing : ∀ c ∈ ([] : List Char), Text.isBlank c = true := nofun
  have hmissing : ¬ ((1 ≤ 2 ∧ 2 ≤ 12) ∧ 1 ≤ 29 ∧ 29 ≤ daysInMonth 2001 2) := by decide
  have hstamped : String.ofList (['\u3000', ' '] ++ (hyphenated 2000 2 29 ++ t.text) ++ ['\t']) =
      "\u3000 2000-02-29 23:59:60.07\u221223:59\t" := by decide +kernel
  have halone : String.ofList (['\u3000', ' '] ++ hyphenated 2000 2 29 ++ ['\t']) =
      "\u3000 2000-02-29\t" := by decide +kernel
  have hstampedLater : String.ofList ([] ++ (hyphenated 2001 2 29 ++ t.text) ++ []) =
      "2001-02-29 23:59:60.07\u221223:59" := by decide +kernel
  have haloneLater : String.ofList ([] ++ hyphenated 2001 2 29 ++ []) = "2001-02-29" := by
    decide +kernel
  obtain ⟨hleap, -⟩ := birth_is_the_written_date
    (by decide : 2000 ≤ 9999) (by decide : 2 ≤ 99) (by decide : 29 ≤ 99) hblanks htab
  obtain ⟨hplain, -, hage⟩ := hleap d rfl rfl rfl
  obtain ⟨-, hcommon⟩ := birth_is_the_written_date
    (by decide : 2001 ≤ 9999) (by decide : 2 ≤ 99) (by decide : 29 ≤ 99) hnothing hnothing
  obtain ⟨hnone, hnone'⟩ := hcommon hmissing
  have hborn : p.age? today = some (ageOn d today) :=
    hage p today rfl (Or.inr ⟨t, congrArg some hstamped.symm⟩)
  rw [halone] at hplain
  rw [haloneLater] at hnone
  have hnone'' :
      ofBirthText? (String.ofList ([] ++ (hyphenated 2001 2 29 ++ t.text) ++ [])) = none :=
    hnone' t
  rw [hstampedLater] at hnone''
  refine ⟨hplain, ?_, hmissing, hnone, hnone''⟩
  rw [hborn]
  decide

end Date

end Entitlement
