import Entitlement.Config.Settings
import Entitlement.Proofs.Calendar.Plain

/-!
# Which settings are accepted

Four variables of the environment are checked: the port, the threshold, the date of the clock and
the window for deadlines. The settings are read just if each of them that is present is written as
its grammar says, and they are then what the texts denote. Otherwise the error is that of the first
one that is not.
-/

namespace Entitlement

open Decimal (natOfDigits Spells)

/-! ### How settings are written -/

/-- Holds of a text that gives a number of at most `most`: blanks around it aside, it is an optional
plus sign and digits. -/
def NumberSetting (most : Nat) (raw : String) (n : Nat) : Prop :=
  n ≤ most ∧ ∃ ds, (Text.trim raw.toList = ds ∨ Text.trim raw.toList = '+' :: ds) ∧ Spells ds n

/-- Holds of a text that gives a clock: that of the system where it is blank, and else a date. -/
inductive ClockSetting (raw : String) : Clock → Prop where
  | system (hblank : ∀ c ∈ raw.toList, Text.isBlank c = true) : ClockSetting raw .system
  | fixed {d : Date} (hdate : Date.PlainText (Text.trim raw.toList) d) :
    ClockSetting raw (.fixed d)

/-- Holds of what a variable gives, which is the default where it is absent. -/
def Given {α : Type} (default : α) (gives : String → α → Prop) : Option String → α → Prop
  | none, a => a = default
  | some raw, a => gives raw a

/-- Holds of the settings that the variables spell out. -/
structure Settings.ReadFrom (s : Settings) (env : Variables) : Prop where
  stage : s.stage = (env "APP_ENV").elim .development Stage.ofText
  host : s.host = (env "APP_HOST").getD "127.0.0.1"
  port : Given 3000 (NumberSetting 65535) (env "APP_PORT") s.port.toNat
  logLevel : s.logLevel = (env "APP_LOG_LEVEL").getD "info"
  threshold : Given 50 (NumberSetting 100) (env "ELIGIBILITY_PARTIAL_THRESHOLD")
    s.matching.threshold
  clock : Given .system ClockSetting (env "ELIGIBILITY_CLOCK_DATE") s.matching.clock
  window : Given 7 (NumberSetting 3650) (env "ELIGIBILITY_DEADLINE_WINDOW_DAYS") s.matching.window

/-- The variables whose texts are checked. -/
inductive CheckedVariable where
  | port
  | threshold
  | clockDate
  | window
  deriving DecidableEq

namespace CheckedVariable

def name : CheckedVariable → String
  | port => "APP_PORT"
  | threshold => "ELIGIBILITY_PARTIAL_THRESHOLD"
  | clockDate => "ELIGIBILITY_CLOCK_DATE"
  | window => "ELIGIBILITY_DEADLINE_WINDOW_DAYS"

/-- The error for a text that is not accepted. Only the one for the port leaves the text out. -/
def error : CheckedVariable → String → SettingsError
  | port, _ => .invalidPort
  | threshold, raw => .invalidThreshold raw
  | clockDate, raw => .invalidClockDate raw
  | window, raw => .invalidWindow raw

/-- The variables in the order in which they are looked at. -/
def inOrder : List CheckedVariable :=
  [port, threshold, clockDate, window]

/-- Holds of the texts that a variable may have. -/
def Accepts : CheckedVariable → String → Prop
  | port, raw => ∃ n, NumberSetting 65535 raw n
  | threshold, raw => ∃ n, NumberSetting 100 raw n
  | clockDate, raw => ∃ c, ClockSetting raw c
  | window, raw => ∃ n, NumberSetting 3650 raw n

/-- Holds when a variable is absent or has one of its texts. -/
def Accepted (v : CheckedVariable) (env : Variables) : Prop :=
  ∀ raw, env v.name = some raw → v.Accepts raw

/-- Holds of the error for the text of a variable that is present but not accepted. -/
def Rejected (v : CheckedVariable) (env : Variables) (e : SettingsError) : Prop :=
  ∃ raw, env v.name = some raw ∧ ¬ v.Accepts raw ∧ e = v.error raw

/-- Holds of the error for the first of the variables that is not accepted. -/
def FirstRejected (env : Variables) (e : SettingsError) : List CheckedVariable → Prop
  | [] => False
  | v :: vs => v.Rejected env e ∨ v.Accepted env ∧ FirstRejected env e vs

end CheckedVariable

variable {α : Type} {env : Variables} {most n : Nat} {cs : List Char} {raw : String}

/-! ### Readers of single settings -/

theorem Decimal.natOfText?_eq_some_iff :
    natOfText? cs = some n ↔ ∃ ds, (cs = ds ∨ cs = '+' :: ds) ∧ Spells ds n := by
  have hdigits {ds : List Char} :
      (if ds.isEmpty || !ds.all isDigit then none else some (natOfDigits ds)) = some n ↔
        Spells ds n := by
    constructor
    · intro h
      split_ifs at h with hds
      simp only [Bool.or_eq_true, List.isEmpty_iff, Bool.not_eq_true', not_or,
        Bool.not_eq_false, List.all_eq_true] at hds
      exact ⟨hds.1, hds.2, Option.some.inj h⟩
    · rintro ⟨hne, hall, rfl⟩
      rw [if_neg (by simpa [hne] using hall)]
  rw [natOfText?.eq_def]
  dsimp only
  split
  · -- a plus sign is no digit, so what is spelled is behind it
    rename_i rest
    rw [hdigits]
    constructor
    · exact fun h => ⟨rest, .inr rfl, h⟩
    · rintro ⟨ds, rfl | hcons, h⟩
      · exact absurd (h.isDigit '+' List.mem_cons_self) (by decide)
      · cases hcons
        exact h
  · rename_i hplus
    rw [hdigits]
    constructor
    · exact fun h => ⟨cs, .inl rfl, h⟩
    · rintro ⟨ds, rfl | rfl, h⟩
      · exact h
      · exact absurd rfl (hplus ds)

theorem settingUpTo?_eq_some_iff : settingUpTo? most raw = some n ↔ NumberSetting most raw n := by
  rw [settingUpTo?, Option.filter_eq_some_iff, Decimal.natOfText?_eq_some_iff, decide_eq_true_iff]
  exact And.comm

/-- A reader of a variable's text: what it gives for the texts that it takes, and its error for the
others. -/
structure Reads (read : String → Except SettingsError α) (gives : String → α → Prop)
    (error : String → SettingsError) : Prop where
  ok_iff : ∀ {raw a}, read raw = .ok a ↔ gives raw a
  eq_error : ∀ {raw e}, read raw = .error e → e = error raw

theorem reads_number {f : Nat → α} {gives : String → α → Prop} {error : String → SettingsError}
    (hgives : ∀ raw a, gives raw a ↔ ∃ n, NumberSetting most raw n ∧ f n = a) :
    Reads (fun raw => (settingUpTo? most raw).elim (.error (error raw)) (.ok ∘ f)) gives error where
  ok_iff {raw a} := by
    rw [hgives]
    simp only [← settingUpTo?_eq_some_iff]
    cases settingUpTo? most raw <;> simp
  eq_error {raw e} h := by
    cases hn : settingUpTo? most raw <;> rw [hn] at h <;> cases h
    rfl

theorem reads_clock : Reads Clock.ofText ClockSetting .invalidClockDate where
  ok_iff {raw c} := by
    rw [Clock.ofText]
    split_ifs with hempty
    · have hnil : Text.trim raw.toList = [] := List.isEmpty_iff.mp hempty
      constructor
      · rintro ⟨⟩
        exact .system (Text.trim_eq_nil_iff.mp hnil)
      · rintro (_ | hdate)
        · rfl
        · exact absurd hnil (Date.ne_nil_of_plainText hdate)
    · have hne : Text.trim raw.toList ≠ [] := fun hnil => hempty (List.isEmpty_iff.mpr hnil)
      constructor
      · intro h
        split at h <;> cases h
        exact .fixed (Date.readPlain_eq_ok_iff.mp ‹_›)
      · rintro (hblank | hdate)
        · exact absurd (Text.trim_eq_nil_iff.mpr hblank) hne
        · rw [Date.readPlain_eq_ok_iff.mpr hdate]
  eq_error {raw e} h := by
    rw [Clock.ofText] at h
    split_ifs at h
    split at h <;> cases h
    rfl

section Reads

variable {read : String → Except SettingsError α} {gives : String → α → Prop}
  {error : String → SettingsError} {default a : α} {value : Option String} {e : SettingsError}

theorem Reads.error_iff (h : Reads read gives error) :
    read raw = .error e ↔ (¬ ∃ a, gives raw a) ∧ e = error raw := by
  constructor
  · intro herror
    refine ⟨?_, h.eq_error herror⟩
    rintro ⟨a, ha⟩
    rw [h.ok_iff.mpr ha] at herror
    cases herror
  · rintro ⟨hnone, rfl⟩
    cases hread : read raw with
    | ok a => exact absurd ⟨a, h.ok_iff.mp hread⟩ hnone
    | error d => rw [h.eq_error hread]

theorem Reads.settingOr_eq_ok_iff (h : Reads read gives error) :
    settingOr default read value = .ok a ↔ Given default gives value a := by
  cases value with
  | none => exact ⟨fun heq => (Except.ok.inj heq).symm, fun heq => congrArg _ heq.symm⟩
  | some raw => exact h.ok_iff

end Reads

/-! ### Steps that look at variables in order -/

/-- Holds of a step that goes on just if all of the variables are accepted, and else fails with the
error for the first that is not. -/
structure Checks (x : Except SettingsError α) (vs : List CheckedVariable) (env : Variables) :
    Prop where
  exists_ok_iff : (∃ a, x = .ok a) ↔ ∀ v ∈ vs, v.Accepted env
  error_iff : ∀ {e}, x = .error e ↔ CheckedVariable.FirstRejected env e vs

section Checks

variable {β : Type} {v : CheckedVariable} {vs : List CheckedVariable}

theorem checks_singleton_iff {x : Except SettingsError α} : Checks x [v] env ↔
    ((∃ a, x = .ok a) ↔ v.Accepted env) ∧ ∀ e, x = .error e ↔ v.Rejected env e := by
  have hrejected {e : SettingsError} : CheckedVariable.FirstRejected env e [v] ↔ v.Rejected env e :=
    ⟨fun h => h.resolve_right fun hrest => hrest.2, Or.inl⟩
  constructor
  · intro h
    exact ⟨by simpa using h.exists_ok_iff, fun e => h.error_iff.trans hrejected⟩
  · rintro ⟨hok, herror⟩
    exact ⟨by simpa using hok, fun {e} => (herror e).trans hrejected.symm⟩

theorem Reads.checks {read : String → Except SettingsError α} {gives : String → α → Prop}
    {default : α} (h : Reads read gives v.error)
    (haccepts : ∀ raw, v.Accepts raw ↔ ∃ a, gives raw a) :
    Checks (settingOr default read (env v.name)) [v] env := by
  have haccepted : v.Accepted env ↔ ∀ raw, env v.name = some raw → ∃ a, gives raw a := by
    simp only [CheckedVariable.Accepted, haccepts]
  have hrejected {e : SettingsError} : v.Rejected env e ↔
      ∃ raw, env v.name = some raw ∧ (¬ ∃ a, gives raw a) ∧ e = v.error raw := by
    simp only [CheckedVariable.Rejected, haccepts]
  generalize env v.name = value at *
  cases value with
  | none =>
    refine checks_singleton_iff.mpr
      ⟨⟨fun _ => haccepted.mpr nofun, fun _ => ⟨default, rfl⟩⟩, fun e => ⟨nofun, fun h => ?_⟩⟩
    obtain ⟨_, ⟨⟩, -⟩ := hrejected.mp h
  | some raw =>
    refine checks_singleton_iff.mpr ⟨?_, fun e => ?_⟩
    · rw [haccepted]
      constructor
      · rintro ⟨a, ha⟩ _ ⟨⟩
        exact ⟨a, h.ok_iff.mp ha⟩
      · intro hall
        obtain ⟨a, ha⟩ := hall raw rfl
        exact ⟨a, h.ok_iff.mpr ha⟩
    · rw [hrejected]
      refine h.error_iff.trans ⟨fun herror => ⟨raw, rfl, herror⟩, ?_⟩
      rintro ⟨_, ⟨⟩, herror⟩
      exact herror

theorem Checks.bind {x : Except SettingsError α} {f : α → Except SettingsError β}
    (h : Checks x [v] env) (hf : ∀ a, Checks (f a) vs env) : Checks (x >>= f) (v :: vs) env := by
  obtain ⟨hok, herror⟩ := checks_singleton_iff.mp h
  constructor
  · rw [List.forall_mem_cons, ← hok]
    simp only [bind_eq_ok_iff]
    constructor
    · rintro ⟨b, a, ha, hb⟩
      exact ⟨⟨a, ha⟩, (hf a).exists_ok_iff.mp ⟨b, hb⟩⟩
    · rintro ⟨⟨a, ha⟩, hvs⟩
      obtain ⟨b, hb⟩ := (hf a).exists_ok_iff.mpr hvs
      exact ⟨b, a, ha, hb⟩
  · intro e
    rw [bind_eq_error_iff, herror, CheckedVariable.FirstRejected, ← hok]
    refine or_congr_right ⟨?_, ?_⟩
    · rintro ⟨a, ha, hrest⟩
      exact ⟨⟨a, ha⟩, (hf a).error_iff.mp hrest⟩
    · rintro ⟨⟨a, ha⟩, hrest⟩
      exact ⟨a, ha, (hf a).error_iff.mpr hrest⟩

/-- What is made of the result in the end does not matter. -/
theorem Checks.map {x : Except SettingsError α} (h : Checks x vs env) (g : α → β) :
    Checks (x >>= fun a => .ok (g a)) vs env where
  exists_ok_iff := by
    rw [← h.exists_ok_iff]
    simp [bind_eq_ok_iff]
  error_iff {e} := by
    rw [← h.error_iff]
    simp [bind_eq_error_iff]

end Checks

/-! ### All settings -/

theorem reads_threshold : Reads
    (fun raw => (settingUpTo? 100 raw).elim (.error (.invalidThreshold raw)) .ok)
    (NumberSetting 100) CheckedVariable.threshold.error :=
  reads_number (f := id) (by simp)

theorem reads_window : Reads
    (fun raw => (settingUpTo? maxWindow raw).elim (.error (.invalidWindow raw)) .ok)
    (NumberSetting 3650) CheckedVariable.window.error :=
  reads_number (f := id) (by simp [maxWindow])

theorem NumberSetting.toNat_ofNat (h : NumberSetting 65535 raw n) : (UInt16.ofNat n).toNat = n :=
  UInt16.toNat_ofNat_of_lt' (Nat.lt_succ_of_le h.1)

theorem reads_port : Reads
    (fun raw => (settingUpTo? 65535 raw).elim (.error .invalidPort) (.ok ∘ UInt16.ofNat))
    (fun raw p => NumberSetting 65535 raw p.toNat) CheckedVariable.port.error := by
  refine reads_number fun raw p => ⟨fun h => ⟨p.toNat, h, UInt16.ofNat_toNat⟩, ?_⟩
  rintro ⟨n, hn, rfl⟩
  rwa [hn.toNat_ofNat]

theorem accepts_port_iff :
    CheckedVariable.port.Accepts raw ↔ ∃ p : UInt16, NumberSetting 65535 raw p.toNat := by
  refine ⟨?_, fun ⟨p, hp⟩ => ⟨p.toNat, hp⟩⟩
  rintro ⟨n, hn⟩
  exact ⟨UInt16.ofNat n, by rwa [hn.toNat_ofNat]⟩

namespace MatchingSettings

theorem ofVariables_eq_ok_iff {m : MatchingSettings} : ofVariables env = .ok m ↔
    Given 50 (NumberSetting 100) (env "ELIGIBILITY_PARTIAL_THRESHOLD") m.threshold ∧
      Given .system ClockSetting (env "ELIGIBILITY_CLOCK_DATE") m.clock ∧
      Given 7 (NumberSetting 3650) (env "ELIGIBILITY_DEADLINE_WINDOW_DAYS") m.window := by
  rw [ofVariables]
  simp only [bind_eq_ok_iff, reads_threshold.settingOr_eq_ok_iff, reads_clock.settingOr_eq_ok_iff,
    reads_window.settingOr_eq_ok_iff]
  constructor
  · rintro ⟨threshold, hthreshold, clock, hclock, window, hwindow, ⟨⟩⟩
    exact ⟨hthreshold, hclock, hwindow⟩
  · rintro ⟨hthreshold, hclock, hwindow⟩
    exact ⟨_, hthreshold, _, hclock, _, hwindow, rfl⟩

theorem checks_ofVariables : Checks (ofVariables env) [.threshold, .clockDate, .window] env :=
  (reads_threshold.checks (v := .threshold) fun _ => Iff.rfl).bind fun _ =>
    (reads_clock.checks (v := .clockDate) fun _ => Iff.rfl).bind fun _ =>
      (reads_window.checks (v := .window) fun _ => Iff.rfl).map _

end MatchingSettings

namespace Settings

theorem given_port_iff {value : Option String} {port : UInt16} :
    Given 3000 (fun raw (p : UInt16) => NumberSetting 65535 raw p.toNat) value port ↔
      Given 3000 (NumberSetting 65535) value port.toNat := by
  cases value with
  | none => exact UInt16.toNat_inj.symm
  | some raw => exact Iff.rfl

theorem ofVariables_eq_ok_iff {s : Settings} : ofVariables env = .ok s ↔ s.ReadFrom env := by
  rw [ofVariables]
  simp only [bind_eq_ok_iff, reads_port.settingOr_eq_ok_iff, given_port_iff,
    MatchingSettings.ofVariables_eq_ok_iff]
  constructor
  · rintro ⟨port, hport, matching, ⟨hthreshold, hclock, hwindow⟩, h⟩
    cases h
    exact ⟨rfl, rfl, hport, rfl, hthreshold, hclock, hwindow⟩
  · rcases s with ⟨stage, host, port, logLevel, matching⟩
    rintro ⟨rfl, rfl, hport, rfl, hthreshold, hclock, hwindow⟩
    exact ⟨port, hport, matching, ⟨hthreshold, hclock, hwindow⟩, rfl⟩

theorem checks_ofVariables : Checks (ofVariables env) CheckedVariable.inOrder env :=
  (reads_port.checks (v := .port) fun _ => accepts_port_iff).bind fun _ =>
    MatchingSettings.checks_ofVariables.map _

end Settings

/-- Whatever texts the variables have or lack, the settings are read just if they are what the
texts spell out. There are such settings just if each of the port, the threshold, the date of the
clock and the window is absent or written as its grammar says. Otherwise the error is that of the
first of them, in this order, that is not, with its text as it stands except for the port. -/
theorem settings_are_read_by_their_grammar (env : Variables) :
    (∀ s, Settings.ofVariables env = .ok s ↔ s.ReadFrom env) ∧
      ((∃ s, Settings.ofVariables env = .ok s) ↔ ∀ v : CheckedVariable, v.Accepted env) ∧
      ∀ e, Settings.ofVariables env = .error e ↔
        CheckedVariable.FirstRejected env e CheckedVariable.inOrder := by
  have hall : ∀ v, v ∈ CheckedVariable.inOrder := by
    intro v
    cases v <;> decide
  refine ⟨fun s => Settings.ofVariables_eq_ok_iff, ?_, fun e => Settings.checks_ofVariables.error_iff⟩
  rw [Settings.checks_ofVariables.exists_ok_iff]
  exact ⟨fun h v => h v (hall v), fun h v _ => h v⟩

example :
    let env (rest : List (String × String)) : Variables :=
      fun name => (("APP_PORT", " +0008080\n") :: rest).lookup name
    Settings.ofVariables (env [("ELIGIBILITY_CLOCK_DATE", " ")]) = .ok { port := 8080 } ∧
      Settings.ofVariables (env [("ELIGIBILITY_DEADLINE_WINDOW_DAYS", "3651"),
        ("ELIGIBILITY_CLOCK_DATE", " 2023-02-29")]) = .error (.invalidClockDate " 2023-02-29") := by
  decide +kernel

end Entitlement
