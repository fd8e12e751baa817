import Entitlement.Proofs.Calendar.DayNumber
import Mathlib.Data.Prod.Lex

/-!
# Ages count anniversaries

The age on a day is the number of the last anniversary of the birth that is not after that day, by
year, month and day in this order. This holds before the birth as well, where ages are negative.
Everything else follows: ages grow with the day and shrink with the birth, from one day to the
next they stay or grow by one, and the age is how often a year was completed since the birth.
-/

namespace Entitlement.Date

variable {birth day today later tomorrow : Date}

/-! ### Anniversaries -/

/-- Year, month and day, compared in this order. -/
def written (d : Date) : Int ×ₗ Nat ×ₗ Nat :=
  toLex (d.year, toLex (d.month, d.day))

/-- The day and month of birth in the year that lies `k` years later. The calendar need not have
that day. -/
def anniversary (birth : Date) (k : Int) : Int ×ₗ Nat ×ₗ Nat :=
  toLex (birth.year + k, toLex (birth.month, birth.day))

theorem written_lt_iff : day.written < later.written ↔ day < later := by
  rw [written, written, Prod.Lex.toLex_lt_toLex, Prod.Lex.toLex_lt_toLex]
  exact Iff.rfl

theorem written_le_iff : day.written ≤ later.written ↔ day ≤ later := by
  rw [← not_lt, written_lt_iff]
  exact Iff.rfl

theorem anniversary_zero (birth : Date) : birth.anniversary 0 = birth.written := by
  rw [anniversary, written, Int.add_zero]

theorem anniversary_le_anniversary (h : birth ≤ later) (k : Int) :
    birth.anniversary k ≤ later.anniversary k := by
  rw [← written_le_iff, written, written, Prod.Lex.toLex_le_toLex] at h
  rw [anniversary, anniversary, Prod.Lex.toLex_le_toLex]
  rcases h with hyear | ⟨hyear, hrest⟩
  · exact Or.inl (Int.add_lt_add_right hyear k)
  · exact Or.inr ⟨congrArg (· + k) hyear, hrest⟩

/-- The age is the number of the last anniversary that is not after the day. -/
theorem anniversary_le_iff {k : Int} :
    birth.anniversary k ≤ today.written ↔ k ≤ ageOn birth today := by
  rw [← not_lt, anniversary, written, Prod.Lex.toLex_lt_toLex, Prod.Lex.toLex_lt_toLex]
  simp only [ageOn, earlierInYear]
  split_ifs <;> omega

theorem ageOn_unique {k : Int} :
    birth.anniversary k ≤ today.written ∧ today.written < birth.anniversary (k + 1) ↔
      k = ageOn birth today := by
  rw [← not_le, anniversary_le_iff, anniversary_le_iff]
  omega

/-! ### Ages in order -/

theorem ageOn_mono (h : today ≤ later) : ageOn birth today ≤ ageOn birth later := by
  have hlast : birth.anniversary (ageOn birth today) ≤ today.written :=
    anniversary_le_iff.mpr (Int.le_refl _)
  exact anniversary_le_iff.mp (hlast.trans (written_le_iff.mpr h))

theorem ageOn_anti (h : birth ≤ later) : ageOn later today ≤ ageOn birth today := by
  have hlast : later.anniversary (ageOn later today) ≤ today.written :=
    anniversary_le_iff.mpr (Int.le_refl _)
  exact anniversary_le_iff.mp ((anniversary_le_anniversary h _).trans hlast)

theorem ageOn_neg_iff : ageOn birth today < 0 ↔ today < birth := by
  rw [← Int.not_le, ← anniversary_le_iff, not_le, anniversary_zero, written_lt_iff]

theorem ageOn_self (birth : Date) : ageOn birth birth = 0 := by
  have hnever : ¬ earlierInYear birth.month birth.day birth.month birth.day := by
    rw [earlierInYear]
    omega
  rw [ageOn, if_neg hnever]
  exact Int.sub_self _

/-! ### From day to day -/

/-- Holds of the days on which a year since the birth is completed. Those are the days with the day
and month of birth, and after a birth on 29 February the first of March in years without one. -/
def CompletesYear (birth day : Date) : Prop :=
  (day.month = birth.month ∧ day.day = birth.day) ∨
    ((birth.month = 2 ∧ birth.day = 29) ∧ isLeapYear day.year = false ∧
      day.month = 3 ∧ day.day = 1)

instance (birth day : Date) : Decidable (birth.CompletesYear day) :=
  inferInstanceAs (Decidable (_ ∨ _))

/-- The day of birth is missing from the same month of another year for 29 February alone. -/
theorem daysInMonth_lt_day_iff (hmonth : birth.month = day.month) :
    daysInMonth day.year day.month < birth.day ↔
      (birth.month = 2 ∧ birth.day = 29) ∧ isLeapYear day.year = false := by
  have hbirth : birth.day ≤ daysInMonth birth.year day.month := hmonth ▸ birth.day_mem.2
  rw [hmonth]
  by_cases hfeb : day.month = 2
  · rw [daysInMonth, if_pos hfeb] at hbirth ⊢
    cases isLeapYear day.year <;> split_ifs at hbirth <;> simp [hfeb] <;> omega
  · rw [daysInMonth, if_neg hfeb] at hbirth ⊢
    exact iff_of_false (Nat.not_lt.mpr hbirth) fun h => hfeb h.1.1

theorem ageOn_next? (h : today.next? = some tomorrow) :
    ageOn birth tomorrow = ageOn birth today + if birth.CompletesYear tomorrow then 1 else 0 := by
  have hpos := birth.day_mem.1
  have hmonth := birth.month_mem
  have htoday := today.day_mem
  rw [next?] at h
  split_ifs at h with hlater hmiddle
  · obtain ⟨hy, hm, hd⟩ := of?_eq_some_iff.mp h
    have hcompletes : birth.CompletesYear tomorrow ↔
        today.month = birth.month ∧ today.day + 1 = birth.day := by
      rw [CompletesYear, hm, hd]
      refine or_iff_left ?_
      rintro ⟨-, -, -, hfirst⟩
      omega
    simp only [hcompletes, ageOn, earlierInYear, hy, hm, hd]
    split_ifs <;> omega
  -- the first of March stands in for a day that the February before it lacks
  · obtain ⟨hy, hm, hd⟩ := of?_eq_some_iff.mp h
    have hcompletes : birth.CompletesYear tomorrow ↔
        (today.month + 1 = birth.month ∧ 1 = birth.day) ∨
          (birth.month = today.month ∧ daysInMonth today.year today.month < birth.day) := by
      rw [CompletesYear, hy, hm, hd]
      refine or_congr_right ?_
      constructor
      · rintro ⟨hfeb, hleap, hmarch, -⟩
        have hsame : birth.month = today.month := by omega
        exact ⟨hsame, (daysInMonth_lt_day_iff hsame).mpr ⟨hfeb, hleap⟩⟩
      · rintro ⟨hsame, hmissing⟩
        obtain ⟨hfeb, hleap⟩ := (daysInMonth_lt_day_iff hsame).mp hmissing
        exact ⟨hfeb, hleap, by omega, rfl⟩
    simp only [hcompletes, ageOn, earlierInYear, hy, hm, hd]
    split_ifs <;> omega
  · obtain ⟨hy, hm, hd⟩ := of?_eq_some_iff.mp h
    have hcompletes : birth.CompletesYear tomorrow ↔ 1 = birth.month ∧ 1 = birth.day := by
      rw [CompletesYear, hm, hd]
      simp
    have hdecember : birth.month = today.month →
        birth.day ≤ daysInMonth today.year today.month := by
      intro hsame
      by_contra hmissing
      obtain ⟨⟨hfeb, -⟩, -⟩ := (daysInMonth_lt_day_iff hsame).mp (Nat.not_le.mp hmissing)
      omega
    simp only [hcompletes, ageOn, earlierInYear, hy, hm, hd]
    split_ifs <;> omega

/-- How many of the given number of days after a date complete a year since the birth. -/
def yearsCompleted (birth d : Date) (days : Nat) : Nat :=
  (List.range days).countP fun i => (d.after? (i + 1)).any fun e => decide (birth.CompletesYear e)

theorem ageOn_after? : ∀ {n : Nat} {later : Date}, today.after? n = some later →
    ageOn birth later = ageOn birth today + birth.yearsCompleted today n
  | 0, later, h => by
    cases h
    exact (Int.add_zero _).symm
  | n + 1, later, h => by
    obtain ⟨day, hday, hnext⟩ := Option.bind_eq_some_iff.mp h
    have hbefore : ageOn birth day = ageOn birth today + birth.yearsCompleted today n :=
      ageOn_after? hday
    have hcount : birth.yearsCompleted today (n + 1) =
        birth.yearsCompleted today n + if birth.CompletesYear later then 1 else 0 := by
      rw [yearsCompleted, List.range_succ, List.countP_append, List.countP_singleton, h]
      simp [yearsCompleted]
    rw [ageOn_next? hnext, hbefore, hcount]
    split_ifs <;> omega

/-! ### Machine words -/

/-- A number that fits 32 bits, one of which is the sign. -/
def signedWord? (n : Int) : Option Int :=
  if -2 ^ 31 ≤ n ∧ n < 2 ^ 31 then some n else none

/-- The age worked out step by step in words of 32 bits. It is missing where a step does not fit. -/
def ageInWords? (birth day : Date) : Option Int := do
  let years ← signedWord? (day.year - birth.year)
  if earlierInYear day.month day.day birth.month birth.day then signedWord? (years - 1)
  else return years

theorem ageInWords?_eq (birth day : Date) : ageInWords? birth day = some (ageOn birth day) := by
  have hbirth := birth.year_mem
  have hday := day.year_mem
  have hyears : signedWord? (day.year - birth.year) = some (day.year - birth.year) :=
    if_pos (by omega)
  have hless : signedWord? (day.year - birth.year - 1) = some (day.year - birth.year - 1) :=
    if_pos (by omega)
  rw [ageInWords?, ageOn, hyears]
  simp only [Option.bind_eq_bind, Option.bind_some, hless]
  split_ifs <;> rfl

/-- The age is the only number of years for which the birthday that many years on is not after the
day and the next one is, and working it out leaves no machine word. It is 0 on the day of birth and
negative before it. It grows with the day and shrinks with the birth; from one day to the next it
grows by one if a year is completed and stays otherwise, and since the birth it grew with every
year completed. -/
theorem ageOn_counts_anniversaries (birth today : Date) :
    (∀ k, birth.anniversary k ≤ today.written ∧ today.written < birth.anniversary (k + 1) ↔
      k = ageOn birth today) ∧
    ageInWords? birth today = some (ageOn birth today) ∧
    (birth = today → ageOn birth today = 0) ∧
    (ageOn birth today < 0 ↔ today < birth) ∧
    (∀ later, today ≤ later → ageOn birth today ≤ ageOn birth later) ∧
    (∀ later, birth ≤ later → ageOn later today ≤ ageOn birth today) ∧
    (∀ tomorrow, today.next? = some tomorrow → ageOn birth tomorrow =
      ageOn birth today + if birth.CompletesYear tomorrow then 1 else 0) ∧
    ∀ days, birth.after? days = some today →
      ageOn birth today = birth.yearsCompleted birth days := by
  refine ⟨fun k => ageOn_unique, ageInWords?_eq birth today, ?_, ageOn_neg_iff,
    fun later => ageOn_mono, fun later => ageOn_anti, fun tomorrow => ageOn_next?, ?_⟩
  · rintro rfl
    exact ageOn_self birth
  · intro days hdays
    rw [ageOn_after? hdays, ageOn_self, Int.zero_add]

/-- Born on 29 February 2004, in the common year 2023 one is 19 years old from the first of March
on. -/
theorem nineteenth_birthday_in_a_common_year :
    let birth : Date := ⟨2004, 2, 29, by decide, by decide, by decide⟩
    let eve : Date := ⟨2023, 2, 28, by decide, by decide, by decide⟩
    let birthday : Date := ⟨2023, 3, 1, by decide, by decide, by decide⟩
    ageOn birth birth = 0 ∧ eve.next? = some birthday ∧ birth ≤ eve ∧ eve ≤ birthday ∧
      ageOn birth eve = 18 ∧ ageOn birth birthday = 19 ∧
      ageOn birth eve ≤ ageOn birth birthday ∧ ageOn eve birthday ≤ ageOn birth birthday ∧
      birth.after? 6940 = some birthday ∧ birth.yearsCompleted birth 6940 = 19 := by
  intro birth eve birthday
  obtain ⟨hunique, -, -, -, hmono, -, hnext, -⟩ := ageOn_counts_anniversaries birth eve
  obtain ⟨-, -, -, -, -, hanti, -, hcount⟩ := ageOn_counts_anniversaries birth birthday
  have hself := (ageOn_counts_anniversaries birth birth).2.2.1 rfl
  have hstep : eve.next? = some birthday := by decide
  have heve : ageOn birth eve = 18 := ((hunique 18).mp (by decide)).symm
  have hage : ageOn birth birthday = 19 := by
    rw [hnext birthday hstep, heve]
    decide
  have hborn : birth ≤ eve := by decide
  have hafter : eve ≤ birthday := by decide
  have hdays : birth.after? 6940 = some birthday := after?_eq_some_iff.mpr (by decide +kernel)
  have hyears := hcount 6940 hdays
  exact ⟨hself, hstep, hborn, hafter, heve, hage, hmono birthday hafter, hanti eve hborn, hdays,
    by omega⟩

end Entitlement.Date
