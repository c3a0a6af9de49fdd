import DatabaseMod.CoreTemporalObjects

/-!
# The value and the parts of a date

A datetime's value is that of its parts whichever setter was called. A date that is set to
a value keeps the time of day in it, which its parts do not have.
-/

namespace DatabaseMod.CoreTemporalValues
open MachineInteger CivilCalendar CoreGlue CoreStrptime CoreTemporal LoopRules
open CoreDateTypes (TDBDateTime TimeOfDay calcDateValue_valid year_of_bounded_value seconds_lt_iff
  eq_iff_of_lt_iff)
open CoreTemporalObjects

/-! ### Calls and agreement -/

/-- Values from which the year fits. -/
def Bounded (v : ℤ) : Prop := |v| ≤ 60000000000000000

def dateBounded : DateCall → Prop
  | .setFromParts y m d => InInt32 y ∧ InInt32 m ∧ InInt32 d
  | .setDate v => Bounded v
  | .clear => True

def dateTimeBounded : DateTimeCall → Prop
  | .setFromParts y m d hh mm ss micros =>
    (InInt32 y ∧ InInt32 m ∧ InInt32 d) ∧ InInt32 hh ∧ InInt32 mm ∧ InInt32 ss ∧ InInt32 micros
  | .setDate v micros => Bounded v ∧ InInt32 micros
  | .clear => True

/-- A value without a time of day. -/
def WholeDay : DateCall → Prop
  | .setDate v => v % 86400 = 0
  | _ => True

def DateAgrees (t : TDBDate) : Prop :=
  t.isNull = false → calcDateValue t.year t.month t.day 0 0 0 = some t.value

def DateTimeAgrees (t : TDBDateTime) : Prop :=
  t.isNull = false →
    calcDateValue t.year t.month t.day t.hour t.minute t.second = some t.getDate

/-- A day of the calendar whose year the encoding can take. -/
structure Civil (y m d : ℤ) : Prop where
  year : -2147483248 ≤ y ∧ y ≤ 2147483647
  month : 1 ≤ m ∧ m ≤ 12
  day : 1 ≤ d ∧ d ≤ monthLength y m

def Civil.toDate {y m d : ℤ} (h : Civil y m d) : Date := ⟨y, m, d, h.month, h.day⟩

def dateTuple (t : TDBDate) : List ℤ := [t.year, t.month, t.day]

/-! ### One call -/

section

variable {v y m d hh mm ss : ℤ}

theorem civil_of_valid (hy : y ≤ 2147483647) (h : dbIsValidDate y m d = true) : Civil y m d := by
  obtain ⟨hy1, hm, hd⟩ := dbIsValidDate_iff.mp h
  exact ⟨⟨by omega, hy⟩, hm, dbDaysInMonth_eq hm ▸ hd⟩

theorem timeOfDay_of_valid {micros : ℤ} (h : dbIsValidTime hh mm ss micros = true) :
    TimeOfDay hh mm ss := by
  obtain ⟨hhh, hmm, hss, -⟩ := dbIsValidTime_iff.mp h
  exact ⟨hhh, hmm, hss⟩

theorem Bounded.civil (h : Bounded v) : Civil (ofDayNumber (v / 86400)).1
    (ofDayNumber (v / 86400)).2.1 (ofDayNumber (v / 86400)).2.2 :=
  ⟨year_of_bounded_value h, ofDayNumber_month _, ofDayNumber_day _⟩

theorem timeOfDay_mod (v : ℤ) :
    TimeOfDay (v % 86400 / 3600) (v % 86400 % 3600 / 60) (v % 86400 % 3600 % 60) :=
  ⟨by omega, by omega, by omega⟩

theorem Bounded.split (h : Bounded v) : splitDateValue v = some ⟨(ofDayNumber (v / 86400)).1,
    (ofDayNumber (v / 86400)).2.1, (ofDayNumber (v / 86400)).2.2,
    v % 86400 / 3600, v % 86400 % 3600 / 60, v % 86400 % 3600 % 60⟩ := by
  obtain ⟨hlo, hhi⟩ := abs_le.mp h
  obtain ⟨hylo, hyhi⟩ := year_of_bounded_value h
  rw [splitDateValue_int64 ⟨by omega, by omega⟩, castInt32_of_mem ⟨by omega, hyhi⟩]

theorem Civil.value (h : Civil y m d) (ht : TimeOfDay hh mm ss) :
    calcDateValue y m d hh mm ss = some (h.toDate.number * 86400 + hh * 3600 + mm * 60 + ss) := by
  have hd := h.day.2.trans (monthLength_le y m)
  exact calcDateValue_eq h.year h.month ⟨h.day.1, hd⟩ ht.hour ht.minute ht.second

theorem Bounded.number (h : Bounded v) : h.civil.toDate.number = v / 86400 :=
  dayNumber_ofDayNumber (v / 86400)

end

/-- What every object has, its value or not. -/
def DateCivil (t : TDBDate) : Prop := t.isNull = false → Civil t.year t.month t.day

structure DateTimeCivil (t : TDBDateTime) : Prop where
  date : t.isNull = false → Civil t.year t.month t.day
  time : t.isNull = false → TimeOfDay t.hour t.minute t.second

theorem midnight : TimeOfDay 0 0 0 := ⟨by decide, by decide, by decide⟩

theorem date_call (t : TDBDate) {c : DateCall} (hc : dateBounded c) :
    ∃ t', c.apply t = some t' ∧ DateCivil t' ∧ (DateAgrees t' ↔ WholeDay c) := by
  cases c with
  | setFromParts y m d =>
    dsimp only [DateCall.apply]
    unfold TDBDate.setFromParts
    split_ifs with hinvalid
    · exact ⟨_, rfl, fun h => (by cases h), iff_of_true (fun h => by cases h) trivial⟩
    · have hdate : dbIsValidDate y m d = true := by simpa using hinvalid
      have hcivil := civil_of_valid hc.1.2 hdate
      have hvalue := hcivil.value midnight
      rw [hvalue]
      exact ⟨_, rfl, fun _ => hcivil, iff_of_true (fun _ => hvalue) trivial⟩
  | setDate v =>
    have hv : Bounded v := hc
    dsimp only [DateCall.apply]
    unfold dateSetDate
    rw [hv.split]
    refine ⟨_, rfl, fun _ => hv.civil, ?_⟩
    have hvalue := hv.civil.value midnight
    rw [hv.number] at hvalue
    have hiff : DateAgrees ⟨false, v, (ofDayNumber (v / 86400)).1, (ofDayNumber (v / 86400)).2.1,
        (ofDayNumber (v / 86400)).2.2⟩ ↔ v / 86400 * 86400 + 0 * 3600 + 0 * 60 + 0 = v := by
      unfold DateAgrees
      dsimp only
      rw [hvalue, Option.some_inj]
      exact ⟨fun h => h rfl, fun h _ => h⟩
    refine hiff.trans ?_
    change _ ↔ v % 86400 = 0
    omega
  | clear => exact ⟨_, rfl, fun h => (by cases h), iff_of_true (fun h => by cases h) trivial⟩

/-- Every setter of a datetime keeps both in agreement. -/
theorem dateTime_call (t : TDBDateTime) {c : DateTimeCall} (hc : dateTimeBounded c) :
    ∃ t', c.apply t = some t' ∧ DateTimeCivil t' ∧ DateTimeAgrees t' := by
  cases c with
  | setFromParts y m d hh mm ss micros =>
    dsimp only [DateTimeCall.apply]
    unfold TDBDateTime.setFromParts
    split_ifs with hinvalid
    · exact ⟨_, rfl, ⟨fun h => (by cases h), fun h => (by cases h)⟩, fun h => (by cases h)⟩
    · obtain ⟨hdate, htime⟩ := valid_parts hinvalid
      have hcivil := civil_of_valid hc.1.1.2 hdate
      have htime := timeOfDay_of_valid htime
      have hvalue := hcivil.value htime
      rw [hvalue]
      exact ⟨_, rfl, ⟨fun _ => hcivil, fun _ => htime⟩, fun _ => hvalue⟩
  | setDate v micros =>
    have hv : Bounded v := hc.1
    dsimp only [DateTimeCall.apply]
    unfold dateTimeSetDate
    rw [hv.split]
    refine ⟨_, rfl, ⟨fun _ => hv.civil, fun _ => timeOfDay_mod v⟩, fun _ => ?_⟩
    have hvalue := hv.civil.value (timeOfDay_mod v)
    rw [hv.number] at hvalue
    refine hvalue.trans (congrArg some ?_)
    change _ = v
    omega
  | clear => exact ⟨_, rfl, ⟨fun h => (by cases h), fun h => (by cases h)⟩, fun h => (by cases h)⟩

/-! ### Order -/

theorem date_value {t : TDBDate} (hcivil : Civil t.year t.month t.day) (hnull : t.isNull = false)
    (h : DateAgrees t) : t.value = hcivil.toDate.number * 86400 := by
  have hvalue := h hnull
  rw [hcivil.value midnight] at hvalue
  have hseconds := Option.some.inj hvalue
  omega

theorem dateTime_value {t : TDBDateTime} (hcivil : Civil t.year t.month t.day)
    (htime : TimeOfDay t.hour t.minute t.second) (hnull : t.isNull = false) (h : DateTimeAgrees t) :
    t.getDate = hcivil.toDate.number * 86400 + t.hour * 3600 + t.minute * 60 + t.second := by
  have hvalue := h hnull
  rw [hcivil.value htime] at hvalue
  exact (Option.some.inj hvalue).symm

/-- A date that is not null, from calls that agree. -/
def DateBuilt (t : TDBDate) : Prop :=
  t.isNull = false ∧ ∃ calls, (∀ c ∈ calls, dateBounded c ∧ WholeDay c) ∧ dateRun calls = some t

def DateTimeBuilt (t : TDBDateTime) : Prop :=
  t.isNull = false ∧ ∃ calls, (∀ c ∈ calls, dateTimeBounded c) ∧ dateTimeRun calls = some t

theorem DateBuilt.spec {t : TDBDate} (h : DateBuilt t) :
    ∃ hcivil : Civil t.year t.month t.day, t.value = hcivil.toDate.number * 86400 := by
  obtain ⟨hnull, calls, hcalls, hrun⟩ := h
  have hstep : ∀ t, ∀ c ∈ calls, ∀ t', DateCivil t ∧ DateAgrees t → c.apply t = some t' →
      DateCivil t' ∧ DateAgrees t' := fun t c hc t' _ happly => by
    obtain ⟨s, hs, hcivil, hiff⟩ := date_call t (hcalls c hc).1
    obtain rfl : s = t' := Option.some.inj (hs.symm.trans happly)
    exact ⟨hcivil, hiff.mpr (hcalls c hc).2⟩
  have hnew : DateCivil {} ∧ DateAgrees {} := ⟨fun h => (by cases h), fun h => (by cases h)⟩
  obtain ⟨hcivil, hagrees⟩ := foldlM_some_invariant (f := DateCall.apply)
    (I := fun t => DateCivil t ∧ DateAgrees t) hstep hnew hrun
  exact ⟨hcivil hnull, date_value (hcivil hnull) hnull hagrees⟩

theorem DateTimeBuilt.spec {t : TDBDateTime} (h : DateTimeBuilt t) :
    ∃ hcivil : Civil t.year t.month t.day, TimeOfDay t.hour t.minute t.second ∧
      t.getDate = hcivil.toDate.number * 86400 + t.hour * 3600 + t.minute * 60 + t.second := by
  obtain ⟨hnull, calls, hcalls, hrun⟩ := h
  have hstep : ∀ t, ∀ c ∈ calls, ∀ t', DateTimeCivil t ∧ DateTimeAgrees t → c.apply t = some t' →
      DateTimeCivil t' ∧ DateTimeAgrees t' := fun t c hc t' _ happly => by
    obtain ⟨s, hs, hcall⟩ := dateTime_call t (hcalls c hc)
    obtain rfl : s = t' := Option.some.inj (hs.symm.trans happly)
    exact hcall
  have hnew : DateTimeCivil {} ∧ DateTimeAgrees {} :=
    ⟨⟨fun h => (by cases h), fun h => (by cases h)⟩, fun h => (by cases h)⟩
  obtain ⟨hcivil, hagrees⟩ := foldlM_some_invariant (f := DateTimeCall.apply)
    (I := fun t => DateTimeCivil t ∧ DateTimeAgrees t) hstep hnew hrun
  have htime := hcivil.time hnull
  exact ⟨hcivil.date hnull, htime, dateTime_value (hcivil.date hnull) htime hnull hagrees⟩

theorem date_value_lt_iff {a b : TDBDate} (ha : DateBuilt a) (hb : DateBuilt b) :
    a.value < b.value ↔ dateTuple a < dateTuple b := by
  obtain ⟨hcivil, hvalue⟩ := ha.spec
  obtain ⟨hcivil', hvalue'⟩ := hb.spec
  have hlt := Date.number_lt_iff (s := hcivil.toDate) (t := hcivil'.toDate)
  rw [hvalue, hvalue', Int.mul_lt_mul_right (by decide), hlt]
  simp only [dateTuple, Date.Before, Civil.toDate, List.cons_lt_cons_iff, List.lt_irrefl, and_false,
    or_false]

theorem dateTime_value_lt_iff {a b : TDBDateTime} (ha : DateTimeBuilt a) (hb : DateTimeBuilt b) :
    a.getDate < b.getDate ↔ a.tuple < b.tuple := by
  obtain ⟨hcivil, htime, hvalue⟩ := ha.spec
  obtain ⟨hcivil', htime', hvalue'⟩ := hb.spec
  rw [hvalue, hvalue']
  exact seconds_lt_iff hcivil.toDate hcivil'.toDate htime htime'

/-! ### Runs -/

/-- The value of a date is that of its parts after every call of a sequence if and only if
no value that it is set to has a time of day. That of a datetime always is. Then the values
of two objects are ordered as their parts are, and equal where these are. -/
theorem values_agree {dates : List DateCall} {dateTimes : List DateTimeCall}
    (hdates : ∀ c ∈ dates, dateBounded c) (hdateTimes : ∀ c ∈ dateTimes, dateTimeBounded c) :
    ((∀ n, ∃ t, dateRun (dates.take n) = some t ∧ DateAgrees t) ↔ ∀ c ∈ dates, WholeDay c) ∧
    (∀ n, ∃ t, dateTimeRun (dateTimes.take n) = some t ∧ DateTimeAgrees t) ∧
    (∀ a b, DateBuilt a → DateBuilt b → (a.value < b.value ↔ dateTuple a < dateTuple b) ∧
      (a.value = b.value ↔ dateTuple a = dateTuple b)) ∧
    ∀ a b, DateTimeBuilt a → DateTimeBuilt b → (a.getDate < b.getDate ↔ a.tuple < b.tuple) ∧
      (a.getDate = b.getDate ↔ a.tuple = b.tuple) := by
  refine ⟨?_, ?_, fun a b ha hb => ?_, fun a b ha hb => ?_⟩
  · refine foldlM_take_iff (f := DateCall.apply) (s := {}) (fun t c hc _ => ?_) fun h => by cases h
    obtain ⟨t', happly, -, hiff⟩ := date_call t (hdates c hc)
    exact ⟨t', happly, hiff⟩
  · have hstep : ∀ t, ∀ c ∈ dateTimes, DateTimeAgrees t →
        ∃ t', c.apply t = some t' ∧ (DateTimeAgrees t' ↔ True) := fun t c hc _ => by
      obtain ⟨t', happly, -, hagrees⟩ := dateTime_call t (hdateTimes c hc)
      exact ⟨t', happly, iff_of_true hagrees trivial⟩
    exact (foldlM_take_iff (f := DateTimeCall.apply) (s := {}) hstep fun h => by cases h).mpr
      fun _ _ => trivial
  · have hlt := date_value_lt_iff ha hb
    exact ⟨hlt, eq_iff_of_lt_iff hlt (date_value_lt_iff hb ha)⟩
  · have hlt := dateTime_value_lt_iff ha hb
    exact ⟨hlt, eq_iff_of_lt_iff hlt (dateTime_value_lt_iff hb ha)⟩

theorem values_agree_leap_day :
    ((∀ n, ∃ t, dateRun ([DateCall.setFromParts 2024 2 29].take n) = some t ∧ DateAgrees t) ↔
      ∀ c ∈ [DateCall.setFromParts 2024 2 29], WholeDay c) ∧
    ∀ n, ∃ t, dateTimeRun ([DateTimeCall.setDate (-1) 0].take n) = some t ∧ DateTimeAgrees t := by
  have hdates : ∀ c ∈ [DateCall.setFromParts 2024 2 29], dateBounded c := by
    intro c hc
    rw [List.mem_singleton.mp hc]
    change InInt32 2024 ∧ InInt32 2 ∧ InInt32 29
    decide
  have hdateTimes : ∀ c ∈ [DateTimeCall.setDate (-1) 0], dateTimeBounded c := by
    intro c hc
    rw [List.mem_singleton.mp hc]
    change |(-1 : ℤ)| ≤ 60000000000000000 ∧ InInt32 0
    decide
  have hagree := values_agree hdates hdateTimes
  exact ⟨hagree.1, hagree.2.1⟩

/-- The first day of 1970 and its first hour as dates. -/
theorem time_of_day_kept : ∃ a b, dateRun [.setDate 0] = some a ∧ dateRun [.setDate 3600] = some b ∧
    a.isNull = false ∧ b.isNull = false ∧ dateTuple a = dateTuple b ∧ a.value ≠ b.value ∧
      ¬ DateAgrees b := by
  refine ⟨⟨false, 0, 1970, 1, 1⟩, ⟨false, 3600, 1970, 1, 1⟩, by decide +kernel, by decide +kernel,
    rfl, rfl, rfl, by decide, fun h => ?_⟩
  exact absurd (h rfl) (by decide +kernel)

end DatabaseMod.CoreTemporalValues
