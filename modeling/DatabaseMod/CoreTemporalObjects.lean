import DatabaseMod.CoreTemporal
import DatabaseMod.LoopRules

/-!
# Calls on dates and times

The setters of the date, time and datetime objects in any order. A date is kept twice, as a
value and as parts; each setter computes one from the other, and not all of them check what
they are given.
-/

namespace DatabaseMod.CoreTemporalObjects
open MachineInteger CivilCalendar CoreGlue CoreStrptime CoreTemporal LoopRules
open CoreDateTypes (TDBDateTime calcDateValue_valid)

/-! ### Setters -/

/-- `_splitDateValue` never refuses a value. -/
def dateSetDate (this : TDBDate) (v : ℤ) : Option TDBDate := do
  let p ← splitDateValue v
  some { this with isNull := false, value := v, year := p.year, month := p.month, day := p.day }

/-- The microseconds are not looked at. -/
def dateTimeSetDate (this : TDBDateTime) (v micros : ℤ) : Option TDBDateTime := do
  let p ← splitDateValue v
  some { this with isNull := false, value := v, microsecond := micros, year := p.year,
                   month := p.month, day := p.day, hour := p.hour, minute := p.minute,
                   second := p.second }

def timeSetDate (this : TDBTime) (v micros : ℤ) : Option TDBTime :=
  if dbIsValidTime 0 0 0 micros = false then some this.clear
  else do
    let p ← splitDateValue v
    some { this with isNull := false, value := v, microsecond := micros, hour := p.hour,
                     minute := p.minute, second := p.second }

inductive DateCall where
  | setFromParts (y m d : ℤ)
  | setDate (v : ℤ)
  | clear

inductive DateTimeCall where
  | setFromParts (y m d hh mm ss micros : ℤ)
  | setDate (v micros : ℤ)
  | clear

inductive TimeCall where
  | setFromParts (hh mm ss micros : ℤ)
  | setDate (v micros : ℤ)
  | clear

def DateCall.apply (this : TDBDate) : DateCall → Option TDBDate
  | .setFromParts y m d => this.setFromParts y m d
  | .setDate v => dateSetDate this v
  | .clear => some this.clear

def DateTimeCall.apply (this : TDBDateTime) : DateTimeCall → Option TDBDateTime
  | .setFromParts y m d hh mm ss micros => this.setFromParts y m d hh mm ss micros
  | .setDate v micros => dateTimeSetDate this v micros
  | .clear => some this.clear

def TimeCall.apply (this : TDBTime) : TimeCall → Option TDBTime
  | .setFromParts hh mm ss micros => this.setFromParts hh mm ss micros
  | .setDate v micros => timeSetDate this v micros
  | .clear => some this.clear

def dateRun (calls : List DateCall) : Option TDBDate := calls.foldlM DateCall.apply {}

def dateTimeRun (calls : List DateTimeCall) : Option TDBDateTime :=
  calls.foldlM DateTimeCall.apply {}

def timeRun (calls : List TimeCall) : Option TDBTime := calls.foldlM TimeCall.apply {}

/-! ### Arguments -/

/-- The arguments have the types of the parameters. -/
def DateCall.Typed : DateCall → Prop
  | .setFromParts y m d => InInt32 y ∧ InInt32 m ∧ InInt32 d
  | .setDate v => InInt64 v
  | .clear => True

def DateTimeCall.Typed : DateTimeCall → Prop
  | .setFromParts y m d hh mm ss micros =>
    (InInt32 y ∧ InInt32 m ∧ InInt32 d) ∧ InInt32 hh ∧ InInt32 mm ∧ InInt32 ss ∧ InInt32 micros
  | .setDate v micros => InInt64 v ∧ InInt32 micros
  | .clear => True

def TimeCall.Typed : TimeCall → Prop
  | .setFromParts hh mm ss micros => InInt32 hh ∧ InInt32 mm ∧ InInt32 ss ∧ InInt32 micros
  | .setDate v micros => InInt64 v ∧ InInt32 micros
  | .clear => True

/-- The year of a value, as an `Int`, is one, and has the day if that is a leap day. -/
structure HasDate (v : ℤ) : Prop where
  year : 1 ≤ castInt32 (ofDayNumber (v / 86400)).1
  leap_day : (ofDayNumber (v / 86400)).2.1 = 2 → (ofDayNumber (v / 86400)).2.2 = 29 →
    dbIsLeapYear (castInt32 (ofDayNumber (v / 86400)).1) = true

def DateCall.Sound : DateCall → Prop
  | .setDate v => HasDate v
  | _ => True

def DateTimeCall.Sound : DateTimeCall → Prop
  | .setDate v micros => HasDate v ∧ 0 ≤ micros ∧ micros ≤ 999999
  | _ => True

/-! ### Valid objects -/

structure DateValid (t : TDBDate) : Prop where
  date : t.isNull = false → dbIsValidDate t.year t.month t.day = true
  null : t.isNull = true → t.value = 0

structure DateTimeValid (t : TDBDateTime) : Prop where
  date : t.isNull = false → dbIsValidDate t.year t.month t.day = true
  time : t.isNull = false → dbIsValidTime t.hour t.minute t.second t.microsecond = true
  null : t.isNull = true → t.value = 0

structure TimeValid (t : TDBTime) : Prop where
  time : t.isNull = false → dbIsValidTime t.hour t.minute t.second t.microsecond = true
  null : t.isNull = true → t.value = 0

theorem splitDateValue_int64 {v : ℤ} (hv : InInt64 v) :
    splitDateValue v = some ⟨castInt32 (ofDayNumber (v / 86400)).1,
      (ofDayNumber (v / 86400)).2.1, (ofDayNumber (v / 86400)).2.2,
      v % 86400 / 3600, v % 86400 % 3600 / 60, v % 86400 % 3600 % 60⟩ := by
  obtain ⟨hlo, hhi⟩ := hv
  exact splitDateValue_eq ⟨by omega, by omega⟩

/-- Only February depends on the year. -/
theorem daysInMonth_iff {y y' m d : ℤ} (hm : 1 ≤ m ∧ m ≤ 12) (hd : d ≤ monthLength y m) :
    d ≤ dbDaysInMonth y' m ↔ (m = 2 → d = 29 → dbIsLeapYear y' = true) := by
  by_cases hfebruary : m = 2
  · have hlength : monthLength y m ≤ 29 := by
      rw [monthLength, if_pos hfebruary]
      split_ifs <;> decide
    have hdays : dbDaysInMonth y' m = if dbIsLeapYear y' then 29 else 28 := by
      rw [hfebruary]
      rfl
    rw [hdays]
    split_ifs with hleap
    · exact iff_of_true (hd.trans hlength) fun _ _ => hleap
    · constructor
      · intro hle _ heq
        omega
      · intro h
        have hne : d ≠ 29 := fun heq => hleap (h hfebruary heq)
        omega
  · have hsame : monthLength y m = dbDaysInMonth y' m := by
      rw [dbDaysInMonth_eq hm, monthLength, monthLength, if_neg hfebruary, if_neg hfebruary]
    exact iff_of_true (hsame ▸ hd) fun h => absurd h hfebruary

theorem hasDate_iff (v : ℤ) : dbIsValidDate (castInt32 (ofDayNumber (v / 86400)).1)
    (ofDayNumber (v / 86400)).2.1 (ofDayNumber (v / 86400)).2.2 = true ↔ HasDate v := by
  have hm := ofDayNumber_month (v / 86400)
  have hd := ofDayNumber_day (v / 86400)
  rw [dbIsValidDate_iff, daysInMonth_iff hm hd.2]
  exact ⟨fun h => ⟨h.1, h.2.2.2⟩, fun h => ⟨h.year, hm, hd.1, h.leap_day⟩⟩

theorem timeOfDay_valid (v : ℤ) {micros : ℤ} (h : 0 ≤ micros ∧ micros ≤ 999999) :
    dbIsValidTime (v % 86400 / 3600) (v % 86400 % 3600 / 60) (v % 86400 % 3600 % 60) micros =
      true := by
  rw [dbIsValidTime_iff]
  omega

/-! ### One call -/

theorem date_clear_valid (t : TDBDate) : DateValid t.clear := ⟨fun h => (by cases h), fun _ => rfl⟩

theorem dateTime_clear_valid (t : TDBDateTime) : DateTimeValid t.clear :=
  ⟨fun h => (by cases h), fun h => (by cases h), fun _ => rfl⟩

theorem time_clear_valid (t : TDBTime) : TimeValid t.clear := ⟨fun h => (by cases h), fun _ => rfl⟩

theorem date_step (t : TDBDate) {c : DateCall} (hc : c.Typed) :
    ∃ t', c.apply t = some t' ∧ (DateValid t' ↔ c.Sound) := by
  cases c with
  | setFromParts y m d =>
    dsimp only [DateCall.apply]
    unfold TDBDate.setFromParts
    split_ifs with hinvalid
    · exact ⟨_, rfl, iff_of_true (date_clear_valid t) trivial⟩
    · have hdate : dbIsValidDate y m d = true := by simpa using hinvalid
      rw [calcDateValue_valid hc.1.2 hdate (by decide)]
      exact ⟨_, rfl, iff_of_true ⟨fun _ => hdate, fun h => (by cases h)⟩ trivial⟩
  | setDate v =>
    dsimp only [DateCall.apply]
    unfold dateSetDate
    rw [splitDateValue_int64 hc]
    refine ⟨_, rfl, ?_⟩
    change _ ↔ HasDate v
    rw [← hasDate_iff]
    exact ⟨fun h => h.date rfl, fun h => ⟨fun _ => h, fun hnull => (by cases hnull)⟩⟩
  | clear => exact ⟨_, rfl, iff_of_true (date_clear_valid t) trivial⟩

theorem dateTime_step (t : TDBDateTime) {c : DateTimeCall} (hc : c.Typed) :
    ∃ t', c.apply t = some t' ∧ (DateTimeValid t' ↔ c.Sound) := by
  cases c with
  | setFromParts y m d hh mm ss micros =>
    dsimp only [DateTimeCall.apply]
    unfold TDBDateTime.setFromParts
    split_ifs with hinvalid
    · exact ⟨_, rfl, iff_of_true (dateTime_clear_valid t) trivial⟩
    · obtain ⟨hdate, htime⟩ := valid_parts hinvalid
      rw [calcDateValue_valid hc.1.1.2 hdate (valid_time_of_micros htime)]
      refine ⟨_, rfl, iff_of_true ?_ trivial⟩
      exact ⟨fun _ => hdate, fun _ => htime, fun h => (by cases h)⟩
  | setDate v micros =>
    dsimp only [DateTimeCall.apply]
    unfold dateTimeSetDate
    rw [splitDateValue_int64 hc.1]
    refine ⟨_, rfl, ?_⟩
    change _ ↔ HasDate v ∧ 0 ≤ micros ∧ micros ≤ 999999
    rw [← hasDate_iff]
    constructor
    · intro h
      exact ⟨h.date rfl, (dbIsValidTime_iff.mp (h.time rfl)).2.2.2⟩
    · rintro ⟨hdate, hmicros⟩
      exact ⟨fun _ => hdate, fun _ => timeOfDay_valid v hmicros, fun h => (by cases h)⟩
  | clear => exact ⟨_, rfl, iff_of_true (dateTime_clear_valid t) trivial⟩

theorem time_step (t : TDBTime) {c : TimeCall} (hc : c.Typed) :
    ∃ t', c.apply t = some t' ∧ TimeValid t' := by
  cases c with
  | setFromParts hh mm ss micros =>
    dsimp only [TimeCall.apply]
    unfold TDBTime.setFromParts
    split_ifs with hinvalid
    · exact ⟨_, rfl, time_clear_valid t⟩
    · have hvalid : dbIsValidTime hh mm ss micros = true := by simpa using hinvalid
      rw [calcDateValue_valid (by decide) (by decide) (valid_time_of_micros hvalid)]
      exact ⟨_, rfl, fun _ => hvalid, fun h => (by cases h)⟩
  | setDate v micros =>
    dsimp only [TimeCall.apply]
    unfold timeSetDate
    split_ifs with hinvalid
    · exact ⟨_, rfl, time_clear_valid t⟩
    · have hmicros : dbIsValidTime 0 0 0 micros = true := by simpa using hinvalid
      rw [splitDateValue_int64 hc.1]
      exact ⟨_, rfl, fun _ => timeOfDay_valid v (dbIsValidTime_iff.mp hmicros).2.2.2,
        fun h => (by cases h)⟩
  | clear => exact ⟨_, rfl, time_clear_valid t⟩

/-! ### Rejected calls -/

def DateCall.Rejected : DateCall → Prop
  | .setFromParts y m d => dbIsValidDate y m d = false
  | _ => False

def DateTimeCall.Rejected : DateTimeCall → Prop
  | .setFromParts y m d hh mm ss micros =>
    dbIsValidDate y m d = false ∨ dbIsValidTime hh mm ss micros = false
  | _ => False

def TimeCall.Rejected : TimeCall → Prop
  | .setFromParts hh mm ss micros => dbIsValidTime hh mm ss micros = false
  | .setDate _ micros => dbIsValidTime 0 0 0 micros = false
  | .clear => False

theorem date_rejected (t : TDBDate) {c : DateCall} (h : c.Rejected) :
    ∃ t', c.apply t = some t' ∧ t'.isNull = true ∧ t'.value = 0 := by
  cases c with
  | setFromParts y m d => exact ⟨_, if_pos h, rfl, rfl⟩
  | setDate v => exact h.elim
  | clear => exact h.elim

theorem dateTime_rejected (t : TDBDateTime) {c : DateTimeCall} (h : c.Rejected) :
    ∃ t', c.apply t = some t' ∧ t'.isNull = true ∧ t'.getDate = 0 := by
  cases c with
  | setFromParts y m d hh mm ss micros => exact ⟨_, if_pos h, rfl, rfl⟩
  | setDate v micros => exact h.elim
  | clear => exact h.elim

theorem time_rejected (t : TDBTime) {c : TimeCall} (h : c.Rejected) :
    ∃ t', c.apply t = some t' ∧ t'.isNull = true ∧ t'.value = 0 := by
  cases c with
  | setFromParts hh mm ss micros => exact ⟨_, if_pos h, rfl, rfl⟩
  | setDate v micros => exact ⟨_, if_pos h, rfl, rfl⟩
  | clear => exact h.elim

/-! ### Runs -/

section

variable {dates : List DateCall} {dateTimes : List DateTimeCall} {times : List TimeCall}

theorem dates_valid_iff (h : ∀ c ∈ dates, c.Typed) :
    (∀ n, ∃ t, dateRun (dates.take n) = some t ∧ DateValid t) ↔ ∀ c ∈ dates, c.Sound :=
  foldlM_take_iff (f := DateCall.apply) (s := {}) (fun t c hc _ => date_step t (h c hc))
    (date_clear_valid {})

theorem dateTimes_valid_iff (h : ∀ c ∈ dateTimes, c.Typed) :
    (∀ n, ∃ t, dateTimeRun (dateTimes.take n) = some t ∧ DateTimeValid t) ↔
      ∀ c ∈ dateTimes, c.Sound :=
  foldlM_take_iff (f := DateTimeCall.apply) (s := {}) (fun t c hc _ => dateTime_step t (h c hc))
    (dateTime_clear_valid {})

theorem times_valid (h : ∀ c ∈ times, c.Typed) (n : ℕ) :
    ∃ t, timeRun (times.take n) = some t ∧ TimeValid t := by
  have hstep : ∀ t, ∀ c ∈ times, TimeValid t →
      ∃ t', c.apply t = some t' ∧ (TimeValid t' ↔ True) := fun t c hc _ => by
    obtain ⟨t', happly, hvalid⟩ := time_step t (h c hc)
    exact ⟨t', happly, iff_of_true hvalid trivial⟩
  exact (foldlM_take_iff (f := TimeCall.apply) hstep (time_clear_valid {})).mpr
    (fun _ _ => trivial) n

/-- Dates and datetimes are valid after every call of a sequence if and only if each value
that they are set to has a date, and microseconds in their range. Times always are, and
rejected parts leave a null object. -/
theorem objects_valid (hdates : ∀ c ∈ dates, c.Typed) (hdateTimes : ∀ c ∈ dateTimes, c.Typed)
    (htimes : ∀ c ∈ times, c.Typed) :
    ((∀ n, ∃ t, dateRun (dates.take n) = some t ∧ DateValid t) ↔ ∀ c ∈ dates, c.Sound) ∧
    ((∀ n, ∃ t, dateTimeRun (dateTimes.take n) = some t ∧ DateTimeValid t) ↔
      ∀ c ∈ dateTimes, c.Sound) ∧
    (∀ n, ∃ t, timeRun (times.take n) = some t ∧ TimeValid t) ∧
    (∀ t, ∀ c ∈ dates, c.Rejected → ∃ t', c.apply t = some t' ∧ t'.isNull = true ∧ t'.value = 0) ∧
    (∀ t, ∀ c ∈ dateTimes, c.Rejected →
      ∃ t', c.apply t = some t' ∧ t'.isNull = true ∧ t'.getDate = 0) ∧
    ∀ t, ∀ c ∈ times, c.Rejected → ∃ t', c.apply t = some t' ∧ t'.isNull = true ∧ t'.value = 0 :=
  ⟨dates_valid_iff hdates, dateTimes_valid_iff hdateTimes, times_valid htimes,
    fun t _ _ => date_rejected t, fun t _ _ => dateTime_rejected t, fun t _ _ => time_rejected t⟩

end

theorem objects_valid_day :
    (∀ n, ∃ t, timeRun ([TimeCall.setDate (-1) 5].take n) = some t ∧ TimeValid t) ∧
    ((∀ n, ∃ t, dateRun ([DateCall.setDate 86400].take n) = some t ∧ DateValid t) ↔
      ∀ c ∈ [DateCall.setDate 86400], c.Sound) := by
  have hdates : ∀ c ∈ [DateCall.setDate 86400], c.Typed := by
    intro c hc
    rw [List.mem_singleton.mp hc]
    change InInt64 86400
    decide
  have htimes : ∀ c ∈ [TimeCall.setDate (-1) 5], c.Typed := by
    intro c hc
    rw [List.mem_singleton.mp hc]
    change InInt64 (-1) ∧ InInt32 5
    decide
  have hvalid := @objects_valid _ [] _ hdates (by simp) htimes
  exact ⟨hvalid.2.2.1, hvalid.1⟩

/-- A datetime of the year zero with too many microseconds. -/
theorem year_zero_accepted : ∃ t, dateTimeRun [.setDate (-62167219200) 1000000] = some t ∧
    t.isNull = false ∧ t.year = 0 ∧ dbIsValidDate t.year t.month t.day = false ∧
      dbIsValidTime t.hour t.minute t.second t.microsecond = false := by
  refine ⟨⟨false, -62167219200, 1000000, 0, 1, 1, 0, 0, 0⟩, ?_, rfl, rfl, by decide, by decide⟩
  decide +kernel

end DatabaseMod.CoreTemporalObjects
