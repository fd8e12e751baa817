import Entitlement.Check.Attribute
import Entitlement.Proofs.Calendar.DayNumber
import Entitlement.Proofs.Json.Number
import Entitlement.Proofs.Number.Value

/-!
# Values that profiles can supply

Some fields take any text and some any number. The age takes only integers: a stated age is never
negative, and one worked out from a date of birth is never further from zero than the years of the
calendar are from each other.
-/

namespace Entitlement

/-! ### Ages -/

/-- Holds of the integers that are the age of some profile on some day. -/
def IsAge (k : Int) : Prop :=
  -524286 ≤ k ∧ k ≤ 2147483647

instance : DecidablePred IsAge :=
  fun _ => inferInstanceAs (Decidable (_ ∧ _))

namespace Date

theorem isAge_ageOn (birth day : Date) : IsAge (ageOn birth day) := by
  have hbirth := birth.year_mem
  have hday := day.year_mem
  rw [IsAge, ageOn]
  split_ifs <;> omega

/-- Until the last day of a year somebody born on such a day is a year younger than the years
say. -/
theorem exists_ageOn_last {k : Int} (hlow : -524286 ≤ k) (hneg : k < 0) :
    ∃ day, ageOn last day = k := by
  let day : Date :=
    ⟨262143 + k, 1, 1, by omega, by decide, le_refl 1, daysInMonth_pos _ _⟩
  have hearlier : earlierInYear day.month day.day last.month last.day :=
    (by decide : earlierInYear 1 1 12 31)
  have hage : ageOn last day = day.year - last.year - 1 := by
    rw [ageOn, if_pos hearlier]
  have hyears : day.year - last.year = 262143 + k - 262142 := rfl
  exact ⟨day, by omega⟩

end Date

namespace Profile

theorem isAge_of_age? {p : Profile} {today : Date} {k : Int} (h : p.age? today = some k) :
    IsAge k := by
  rw [age?] at h
  cases hage : p.age with
  | some n =>
    rw [hage] at h
    dsimp only at h
    split_ifs at h with hn
    cases h
    exact ⟨by omega, by omega⟩
  | none =>
    rw [hage] at h
    obtain ⟨birth, -, rfl⟩ := Option.map_eq_some_iff.mp h
    exact birth.isAge_ageOn today

/-- Ages from 0 on can be stated, and the others belong to somebody born on the last day of the
calendar. -/
theorem exists_age?_iff {k : Int} :
    (∃ (p : Profile) (today : Date), p.age? today = some k) ↔ IsAge k := by
  refine ⟨fun ⟨p, today, h⟩ => isAge_of_age? h, fun ⟨hlow, hhigh⟩ => ?_⟩
  rcases Int.lt_or_le k 0 with hneg | hnonneg
  · obtain ⟨day, hday⟩ := Date.exists_ageOn_last hlow hneg
    have hbirth : Date.ofBirthText? "+262142-12-31" = some Date.last := by decide +kernel
    refine ⟨{ id := "", dateOfBirth := some "+262142-12-31" }, day, ?_⟩
    rw [age?]
    dsimp only
    rw [Option.bind_some, hbirth, Option.map_some, hday]
  · have hword : (UInt32.ofNat k.toNat).toNat = k.toNat := by
      rw [UInt32.toNat_ofNat']
      omega
    refine ⟨{ id := "", age := some (UInt32.ofNat k.toNat) }, .last, ?_⟩
    rw [age?]
    dsimp only
    rw [hword, if_pos (by omega), Int.toNat_of_nonneg hnonneg]

end Profile

/-- An age is taken as a number of that value, and shown as an integer. -/
theorem IsAge.exists_number {k : Int} (hk : IsAge k) :
    ∃ x, Binary64.ofInt? k = some x ∧ x.value = k ∧ x.plainText = toString k := by
  obtain ⟨hlow, hhigh⟩ := hk
  have hsmall : k.natAbs < 2 ^ 53 := by omega
  obtain ⟨x, hx, hvalue⟩ := Binary64.exists_value_eq hsmall
  have hnearest : (Json.Number.integer k).toBinary64 = x := by
    rw [Json.Number.toBinary64, hx, Option.getD_some]
  have hshown := (Json.Number.text_integer_eq_plainText_iff (by omega)).mpr
    (Json.Number.writtenAsShown_of_lt hsmall)
  rw [hnearest] at hshown
  exact ⟨x, hx, hvalue, hshown.symm⟩

/-! ### Kinds of fields -/

/-- What a field takes. -/
inductive FieldKind where
  | text
  | number
  | age

/-- What the field takes. -/
def Field.kind : Field → FieldKind
  | .annualIncome | .marksPercentage => .number
  | .age => .age
  | .category | .state | .educationLevel | .gender | .minorityStatus | .disabilityStatus
  | .institutionType => .text

/-- Holds of the values that a field of the kind can have. -/
def FieldKind.Takes : FieldKind → Attribute → Prop
  | .text, a => ∃ s, a = .text s
  | .number, a => ∃ x, a = .number x
  | .age, a => ∃ k, IsAge k ∧ (Binary64.ofInt? k).map .number = some a

theorem exists_attribute?_age_iff {a : Attribute} :
    (∃ (p : Profile) (today : Date), p.attribute? today .age = some a) ↔
      FieldKind.age.Takes a := by
  constructor
  · rintro ⟨p, today, h⟩
    rw [Profile.attribute?] at h
    cases hage : p.age? today with
    | none => rw [hage] at h; cases h
    | some k =>
      rw [hage, Option.bind_some] at h
      exact ⟨k, Profile.isAge_of_age? hage, h⟩
  · rintro ⟨k, hk, ha⟩
    obtain ⟨p, today, hage⟩ := Profile.exists_age?_iff.mpr hk
    exact ⟨p, today, by rw [Profile.attribute?, hage, Option.bind_some, ha]⟩

/-- A field has just those values that its kind takes. -/
theorem Field.exists_attribute?_iff {f : Field} {a : Attribute} :
    (∃ (p : Profile) (today : Date), p.attribute? today f = some a) ↔ f.kind.Takes a := by
  -- what is stated as it is can be anything of its kind
  have hstated : ∀ {α : Type} {part : Profile → Option α} {toAttribute : α → Attribute}
      (state : α → Profile), (∀ v, part (state v) = some v) →
      ((∃ (p : Profile) (_ : Date), (part p).map toAttribute = some a) ↔
        ∃ v, a = toAttribute v) := by
    intro α part toAttribute state hstate
    constructor
    · rintro ⟨p, -, h⟩
      obtain ⟨v, -, rfl⟩ := Option.map_eq_some_iff.mp h
      exact ⟨v, rfl⟩
    · rintro ⟨v, rfl⟩
      exact ⟨state v, .last, by rw [hstate, Option.map_some]⟩
  cases f with
  | age => exact exists_attribute?_age_iff
  | annualIncome => exact hstated (fun x => { id := "", annualIncome := some x }) fun _ => rfl
  | marksPercentage => exact hstated (fun x => { id := "", marksPercentage := some x }) fun _ => rfl
  | category => exact hstated (fun s => { id := "", category := some s }) fun _ => rfl
  | state => exact hstated (fun s => { id := "", state := some s }) fun _ => rfl
  | educationLevel => exact hstated (fun s => { id := "", educationLevel := some s }) fun _ => rfl
  | gender => exact hstated (fun s => { id := "", gender := some s }) fun _ => rfl
  | minorityStatus => exact hstated (fun s => { id := "", minorityStatus := some s }) fun _ => rfl
  | disabilityStatus =>
    exact hstated (fun s => { id := "", disabilityStatus := some s }) fun _ => rfl
  | institutionType => exact hstated (fun s => { id := "", institutionType := some s }) fun _ => rfl

namespace FieldKind

variable {kind : FieldKind} {s : String} {x : Binary64}

/-! ### Values as texts -/

/-- Holds of the texts that values of the kind are shown as. -/
def Shows : FieldKind → String → Prop
  | .text, _ => True
  | .number, s => ∃ x : Binary64, s = x.plainText
  | .age, s => ∃ k : Int, IsAge k ∧ s = toString k

theorem exists_shown_iff : (∃ a, kind.Takes a ∧ a.shown = s) ↔ kind.Shows s := by
  cases kind with
  | text => exact iff_of_true ⟨.text s, ⟨s, rfl⟩, rfl⟩ trivial
  | number =>
    constructor
    · rintro ⟨_, ⟨x, rfl⟩, rfl⟩
      exact ⟨x, rfl⟩
    · rintro ⟨x, rfl⟩
      exact ⟨.number x, ⟨x, rfl⟩, rfl⟩
  | age =>
    constructor
    · rintro ⟨a, ⟨k, hk, ha⟩, rfl⟩
      obtain ⟨x, hx, -, hshown⟩ := hk.exists_number
      rw [hx] at ha
      cases ha
      exact ⟨k, hk, hshown⟩
    · rintro ⟨k, hk, rfl⟩
      obtain ⟨x, hx, -, hshown⟩ := hk.exists_number
      exact ⟨.number x, ⟨k, hk, by rw [hx, Option.map_some]⟩, hshown⟩

/-- What is no text is shown without letters. -/
theorem Shows.isCaseless (h : kind.Shows s) (hkind : kind ≠ .text) :
    ∀ d ∈ s.toList, Text.IsCaseless d := by
  obtain ⟨x, rfl⟩ : ∃ x : Binary64, s = x.plainText := by
    cases kind with
    | text => exact absurd rfl hkind
    | number => exact h
    | age =>
      obtain ⟨k, hk, rfl⟩ := h
      obtain ⟨x, -, -, hshown⟩ := hk.exists_number
      exact ⟨x, hshown.symm⟩
  exact fun d => Binary64.isCaseless_of_mem_plainText

theorem shows_zero (kind : FieldKind) : kind.Shows "0" := by
  cases kind with
  | text => trivial
  | number => exact ⟨.zero, by decide +kernel⟩
  | age => exact ⟨0, by decide, by decide +kernel⟩

theorem shows_one (kind : FieldKind) : kind.Shows "1" := by
  have hage : IsAge 1 := by decide
  cases kind with
  | text => trivial
  | number =>
    obtain ⟨x, -, -, hshown⟩ := hage.exists_number
    exact ⟨x, hshown.symm⟩
  | age => exact ⟨1, hage, rfl⟩

/-! ### Values as numbers -/

/-- Holds of the numbers that values of the kind count as. -/
def Counts (kind : FieldKind) (x : Binary64) : Prop :=
  ∃ a, kind.Takes a ∧ a.number? = some x

theorem counts_text_iff : text.Counts x ↔ ∃ s, numberOfText? s = some x := by
  constructor
  · rintro ⟨_, ⟨s, rfl⟩, hx⟩
    exact ⟨s, hx⟩
  · rintro ⟨s, hx⟩
    exact ⟨.text s, ⟨s, rfl⟩, hx⟩

theorem counts_number (x : Binary64) : number.Counts x :=
  ⟨.number x, ⟨x, rfl⟩, rfl⟩

theorem Counts.exists_isAge (h : age.Counts x) : ∃ k : Int, IsAge k ∧ x.value = k := by
  obtain ⟨a, ⟨k, hk, ha⟩, hx⟩ := h
  obtain ⟨y, hy, hvalue, -⟩ := hk.exists_number
  rw [hy] at ha
  cases ha
  cases hx
  exact ⟨k, hk, hvalue⟩

theorem counts_of_isAge {k : Int} (hk : IsAge k) : ∃ x, age.Counts x ∧ x.value = k := by
  obtain ⟨x, hx, hvalue, -⟩ := hk.exists_number
  exact ⟨x, ⟨.number x, ⟨k, hk, by rw [hx, Option.map_some]⟩, rfl⟩, hvalue⟩

/-- The least value that a number of the kind has. -/
def lower : FieldKind → ℚ
  | .text | .number => Binary64.least.value
  | .age => -524286

/-- The greatest value that a number of the kind has. -/
def upper : FieldKind → ℚ
  | .text | .number => Binary64.greatest.value
  | .age => 2147483647

theorem Counts.value_mem (h : kind.Counts x) : kind.lower ≤ x.value ∧ x.value ≤ kind.upper := by
  have hall : Binary64.least.value ≤ x.value ∧ x.value ≤ Binary64.greatest.value :=
    ⟨Binary64.le_iff_value_le.mp (Binary64.least_le x),
      Binary64.le_iff_value_le.mp (Binary64.le_greatest x)⟩
  cases kind with
  | text | number => exact hall
  | age =>
    obtain ⟨k, ⟨hlow, hhigh⟩, hvalue⟩ := h.exists_isAge
    rw [hvalue, lower, upper]
    exact ⟨by exact_mod_cast hlow, by exact_mod_cast hhigh⟩

theorem exists_counts_lower (kind : FieldKind) : ∃ x, kind.Counts x ∧ x.value = kind.lower := by
  cases kind with
  | text =>
    have htext : numberOfText? "-1.7976931348623157e308" = some .least := by decide +kernel
    exact ⟨.least, counts_text_iff.mpr ⟨_, htext⟩, rfl⟩
  | number => exact ⟨.least, counts_number _, rfl⟩
  | age =>
    obtain ⟨x, hx, hvalue⟩ := counts_of_isAge (by decide : IsAge (-524286))
    exact ⟨x, hx, by rw [hvalue, lower]; norm_num⟩

theorem exists_counts_upper (kind : FieldKind) : ∃ x, kind.Counts x ∧ x.value = kind.upper := by
  cases kind with
  | text =>
    have htext : numberOfText? "1.7976931348623157e308" = some .greatest := by decide +kernel
    exact ⟨.greatest, counts_text_iff.mpr ⟨_, htext⟩, rfl⟩
  | number => exact ⟨.greatest, counts_number _, rfl⟩
  | age =>
    obtain ⟨x, hx, hvalue⟩ := counts_of_isAge (by decide : IsAge 2147483647)
    exact ⟨x, hx, by rw [hvalue, upper]; norm_num⟩

end FieldKind

end Entitlement
