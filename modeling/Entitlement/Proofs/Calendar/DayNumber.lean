import Entitlement.Calendar.Date
import Mathlib.Order.Monotone.Basic

/-!
# Day numbers count days

A date has one following date: the next day of its month, the first of the next month, or the first
of January. Day numbers go up by one from a date to the following one, ascend as dates do, and leave
none out between two dates. So the date that is some days later is the one that is reached by going
on that many times, and the calendar ends for both at once.
-/

namespace Entitlement.Date

variable {d e : Date} {year : Int} {month n : Nat}

/-! ### Months and years -/

theorem of?_eq_some_iff {day : Nat} :
    of? year month day = some d ↔ d.year = year ∧ d.month = month ∧ d.day = day := by
  rw [of?]
  constructor
  · intro h
    split_ifs at h
    cases h
    exact ⟨rfl, rfl, rfl⟩
  · rintro ⟨rfl, rfl, rfl⟩
    exact dif_pos ⟨d.year_mem, d.month_mem, d.day_mem⟩

theorem eq_of_fields (hyear : d.year = e.year) (hmonth : d.month = e.month)
    (hday : d.day = e.day) : d = e := by
  have he : of? e.year e.month e.day = some e := of?_eq_some_iff.mpr ⟨rfl, rfl, rfl⟩
  have hd : of? e.year e.month e.day = some d := of?_eq_some_iff.mpr ⟨hyear, hmonth, hday⟩
  exact Option.some_inj.mp (hd.symm.trans he)

theorem daysInMonth_pos (year : Int) (month : Nat) : 0 < daysInMonth year month := by
  rw [daysInMonth]
  split_ifs <;> decide

theorem daysBeforeMonth_succ (year : Int) (hmonth : 1 ≤ month) :
    daysBeforeMonth year (month + 1) = daysBeforeMonth year month + daysInMonth year month := by
  obtain ⟨m, rfl⟩ := Nat.exists_eq_add_of_le' hmonth
  rfl

theorem daysBeforeMonth_mono (year : Int) : Monotone (daysBeforeMonth year) := by
  refine monotone_nat_of_le_succ fun month => ?_
  cases month with
  | zero => exact Nat.le_refl 0
  | succ m => exact Nat.le_add_right _ _

/-- The days of a year, by its months. -/
theorem daysBeforeMonth_thirteen (year : Int) :
    daysBeforeMonth year 13 = if isLeapYear year then 366 else 365 := by
  cases h : isLeapYear year <;> simp [daysBeforeMonth, daysInMonth, h]

/-- Each year adds the days of its months: four years add a leap day, unless a century ends with
them that is no multiple of four. -/
theorem daysBeforeYear_succ (year : Int) :
    daysBeforeYear (year + 1) = daysBeforeYear year + daysBeforeMonth year 13 := by
  have hleap : isLeapYear year = true ↔ year % 4 = 0 ∧ (year % 100 ≠ 0 ∨ year % 400 = 0) := by
    simp [isLeapYear]
  rw [daysBeforeMonth_thirteen, daysBeforeYear, daysBeforeYear]
  split_ifs with h
  · have h4 := hleap.mp h
    omega
  · have h4 : ¬ (year % 4 = 0 ∧ (year % 100 ≠ 0 ∨ year % 400 = 0)) := fun h4 => h (hleap.mpr h4)
    omega

theorem daysBeforeYear_le {year' : Int} (h : year ≤ year') :
    daysBeforeYear year ≤ daysBeforeYear year' := by
  rw [daysBeforeYear, daysBeforeYear]
  omega

/-! ### Dates in order -/

/-- A date lies after the days before its month, and not after those before the next one. -/
theorem dayOfYear_bounds (d : Date) :
    daysBeforeMonth d.year d.month < daysBeforeMonth d.year d.month + d.day ∧
      daysBeforeMonth d.year d.month + d.day ≤ daysBeforeMonth d.year (d.month + 1) := by
  have hday := d.day_mem
  have hmonth := daysBeforeMonth_succ d.year d.month_mem.1
  omega

theorem dayNumber_bounds (d : Date) :
    daysBeforeYear d.year < d.dayNumber ∧ d.dayNumber ≤ daysBeforeYear (d.year + 1) := by
  have hmonth : daysBeforeMonth d.year (d.month + 1) ≤ daysBeforeMonth d.year 13 :=
    daysBeforeMonth_mono d.year (Nat.succ_le_succ d.month_mem.2)
  have hday := dayOfYear_bounds d
  have hyear := daysBeforeYear_succ d.year
  rw [dayNumber]
  omega

theorem dayNumber_lt_of_lt (h : d < e) : d.dayNumber < e.dayNumber := by
  rcases h with hyear | ⟨hyear, hmonth | ⟨hmonth, hday⟩⟩
  · have hle : daysBeforeYear (d.year + 1) ≤ daysBeforeYear e.year := daysBeforeYear_le hyear
    have hd := dayNumber_bounds d
    have he := dayNumber_bounds e
    omega
  · have hle : daysBeforeMonth d.year (d.month + 1) ≤ daysBeforeMonth e.year e.month :=
      hyear ▸ daysBeforeMonth_mono d.year hmonth
    have hd := dayOfYear_bounds d
    have he := dayOfYear_bounds e
    rw [dayNumber, dayNumber, hyear]
    rw [hyear] at hd hle
    omega
  · rw [dayNumber, dayNumber, hyear, hmonth]
    omega

theorem lt_or_eq_or_gt (d e : Date) : d < e ∨ d = e ∨ e < d := by
  rcases Int.lt_trichotomy d.year e.year with hy | hy | hy
  · exact Or.inl (Or.inl hy)
  · rcases Nat.lt_trichotomy d.month e.month with hm | hm | hm
    · exact Or.inl (Or.inr ⟨hy, Or.inl hm⟩)
    · rcases Nat.lt_trichotomy d.day e.day with hd | hd | hd
      · exact Or.inl (Or.inr ⟨hy, Or.inr ⟨hm, hd⟩⟩)
      · exact Or.inr (Or.inl (eq_of_fields hy hm hd))
      · exact Or.inr (Or.inr (Or.inr ⟨hy.symm, Or.inr ⟨hm.symm, hd⟩⟩))
    · exact Or.inr (Or.inr (Or.inr ⟨hy.symm, Or.inl hm⟩))
  · exact Or.inr (Or.inr (Or.inl hy))

theorem le_iff_dayNumber_le : d ≤ e ↔ d.dayNumber ≤ e.dayNumber := by
  constructor
  · intro hle
    rcases lt_or_eq_or_gt d e with h | rfl | h
    · exact Int.le_of_lt (dayNumber_lt_of_lt h)
    · exact Int.le_refl _
    · exact absurd h hle
  · intro hle hlt
    exact absurd (dayNumber_lt_of_lt hlt) (Int.not_lt.mpr hle)

theorem eq_of_dayNumber_eq (h : d.dayNumber = e.dayNumber) : d = e := by
  rcases lt_or_eq_or_gt d e with hlt | heq | hlt
  · exact absurd h (Int.ne_of_lt (dayNumber_lt_of_lt hlt))
  · exact heq
  · exact absurd h.symm (Int.ne_of_lt (dayNumber_lt_of_lt hlt))

theorem le_last (d : Date) : d ≤ last := by
  have hyear : d.year ≤ 262142 := d.year_mem.2
  have hmonth : d.month ≤ 12 := d.month_mem.2
  rintro (hy | ⟨hy, hm | ⟨hm, hday⟩⟩)
  · exact absurd hyear (Int.not_le.mpr hy)
  · exact absurd hmonth (Nat.not_le.mpr hm)
  · have hdec : d.day ≤ daysInMonth d.year d.month := d.day_mem.2
    rw [← hy, ← hm] at hdec
    exact absurd hdec (Nat.not_le.mpr hday)

/-! ### From numbers to dates -/

theorem ofYearDay?_eq_some_iff :
    ofYearDay? year n = some d ↔ d.year = year ∧ daysBeforeMonth year d.month + d.day = n := by
  simp only [ofYearDay?, Option.bind_eq_some_iff, List.find?_range_eq_some, of?_eq_some_iff]
  constructor
  · rintro ⟨m, -, rfl, hmonth, hday⟩
    have hpos := d.day_mem.1
    refine ⟨rfl, ?_⟩
    rw [hmonth]
    omega
  · rintro ⟨rfl, rfl⟩
    have hmonth := d.month_mem
    have hbounds := dayOfYear_bounds d
    have hpred : d.month - 1 + 1 = d.month := by omega
    refine ⟨d.month - 1, ⟨?_, ?_, fun m hm => ?_⟩, rfl, hpred.symm, ?_⟩
    · rw [show d.month - 1 + 2 = d.month + 1 by omega]
      exact decide_eq_true hbounds.2
    · exact List.mem_range.mpr (by omega)
    -- every earlier month ends before the day
    · have hle : daysBeforeMonth d.year (m + 2) ≤ daysBeforeMonth d.year d.month :=
        daysBeforeMonth_mono d.year (by omega)
      simp only [Bool.not_eq_true', decide_eq_false_iff_not]
      omega
    · rw [hpred]
      omega

/-- Years are nearly as long as they are on average. -/
theorem daysBeforeYear_bounds (year : Int) :
    146097 * (year - 1) - 699 ≤ 400 * daysBeforeYear year ∧
      400 * daysBeforeYear year ≤ 146097 * (year - 1) + 396 := by
  rw [daysBeforeYear]
  omega

/-- The guess is the year that a day is in or the one before, and the days before the next year tell
which. -/
theorem yearOfDay_eq {n : Int} (hlow : daysBeforeYear year < n)
    (hhigh : n ≤ daysBeforeYear (year + 1)) : yearOfDay n = year := by
  have hthis := daysBeforeYear_bounds year
  have hnext := daysBeforeYear_bounds (year + 1)
  have hguess : 400 * (n - 1) / 146097 + 1 = year ∨ 400 * (n - 1) / 146097 + 1 + 1 = year := by
    omega
  simp only [yearOfDay]
  rcases hguess with h | h
  · rw [h, if_pos hhigh]
  · rw [h, if_neg (Int.not_le.mpr hlow)]

theorem ofDayNumber?_eq_some_iff {n : Int} : ofDayNumber? n = some d ↔ d.dayNumber = n := by
  simp only [ofDayNumber?, ofYearDay?_eq_some_iff]
  constructor
  · rintro ⟨hyear, hday⟩
    have hpos := d.day_mem.1
    rw [dayNumber, hyear]
    omega
  · rintro rfl
    have hyear := yearOfDay_eq (dayNumber_bounds d).1 (dayNumber_bounds d).2
    rw [hyear, dayNumber]
    refine ⟨rfl, ?_⟩
    omega

theorem plusDays?_eq_some_iff : d.plusDays? n = some e ↔ e.dayNumber = d.dayNumber + n :=
  ofDayNumber?_eq_some_iff

/-! ### From day to day -/

/-- The following date, which only the last date of the calendar does not have. -/
def next? (d : Date) : Option Date :=
  if d.day < daysInMonth d.year d.month then of? d.year d.month (d.day + 1)
  else if d.month < 12 then of? d.year (d.month + 1) 1
  else of? (d.year + 1) 1 1

/-- The date that is reached by going on to the following date the given number of times. -/
def after? (d : Date) : Nat → Option Date
  | 0 => some d
  | n + 1 => (d.after? n).bind next?

theorem dayNumber_of_next? (h : d.next? = some e) : e.dayNumber = d.dayNumber + 1 := by
  have hday := d.day_mem.2
  rw [next?] at h
  split_ifs at h with hlater hmonth
  · obtain ⟨hy, hm, hd⟩ := of?_eq_some_iff.mp h
    rw [dayNumber, dayNumber, hy, hm, hd]
    omega
  · obtain ⟨hy, hm, hd⟩ := of?_eq_some_iff.mp h
    have hsucc := daysBeforeMonth_succ d.year d.month_mem.1
    rw [dayNumber, dayNumber, hy, hm, hd]
    omega
  -- the month is December, and the new year starts after the days of all months
  · obtain ⟨hy, hm, hd⟩ := of?_eq_some_iff.mp h
    have hdecember : d.month = 12 := by
      have hle := d.month_mem.2
      omega
    have hsucc := daysBeforeMonth_succ d.year d.month_mem.1
    have hyear := daysBeforeYear_succ d.year
    rw [hdecember] at hsucc hlater hday
    rw [dayNumber, dayNumber, hy, hm, hd, hdecember, hyear, hsucc, daysBeforeMonth]
    omega

theorem exists_next? (h : d < last) : ∃ e, d.next? = some e := by
  have hyear := d.year_mem
  have hmonth := d.month_mem
  have hday := d.day_mem
  rw [next?]
  split_ifs with hlater hmiddle
  · exact ⟨_, dif_pos ⟨hyear, hmonth, by omega, hlater⟩⟩
  · exact ⟨_, dif_pos ⟨hyear, by omega, Nat.le_refl 1, daysInMonth_pos _ _⟩⟩
  · have hnotlast : d.year ≠ 262142 := by
      rintro hy
      have hdecember : d.month = 12 := by omega
      rw [hdecember] at hlater
      rcases h with hlt | ⟨-, hlt | ⟨-, hlt⟩⟩
      · exact absurd hy (Int.ne_of_lt hlt)
      · exact absurd hdecember (Nat.ne_of_lt hlt)
      · exact hlater hlt
    exact ⟨_, dif_pos ⟨by omega, by decide, Nat.le_refl 1, daysInMonth_pos _ _⟩⟩

/-- Going on reaches every date that is not after the last one. -/
theorem exists_after? (d : Date) : ∀ {n : Nat}, d.dayNumber + n ≤ last.dayNumber →
    ∃ e, d.after? n = some e ∧ e.dayNumber = d.dayNumber + n
  | 0, _ => ⟨d, rfl, by omega⟩
  | n + 1, h => by
    obtain ⟨e, he, hnumber⟩ := exists_after? d (n := n) (by omega)
    have hlt : e < last := by
      rcases lt_or_eq_or_gt e last with hlt | rfl | hgt
      · exact hlt
      · omega
      · exact absurd hgt (le_last e)
    obtain ⟨f, hf⟩ := exists_next? hlt
    have hstep := dayNumber_of_next? hf
    exact ⟨f, by rw [after?, he, Option.bind_some, hf], by omega⟩

theorem dayNumber_of_after? : ∀ {n : Nat} {e : Date}, d.after? n = some e →
    e.dayNumber = d.dayNumber + n
  | 0, e, h => by
    cases h
    omega
  | n + 1, e, h => by
    obtain ⟨f, hf, hnext⟩ := Option.bind_eq_some_iff.mp h
    have hnumber := dayNumber_of_after? hf
    have hstep := dayNumber_of_next? hnext
    omega

theorem after?_eq_some_iff : d.after? n = some e ↔ e.dayNumber = d.dayNumber + n := by
  refine ⟨dayNumber_of_after?, fun h => ?_⟩
  have hlast := le_iff_dayNumber_le.mp (le_last e)
  obtain ⟨f, hf, hnumber⟩ := exists_after? d (n := n) (by omega)
  rw [hf, eq_of_dayNumber_eq (hnumber.trans h.symm)]

/-- Adding days by their number is the same as going on day by day. -/
theorem plusDays?_eq_after? (d : Date) (n : Nat) : d.plusDays? n = d.after? n := by
  refine Option.ext fun e => ?_
  rw [plusDays?_eq_some_iff, after?_eq_some_iff]

end Entitlement.Date
