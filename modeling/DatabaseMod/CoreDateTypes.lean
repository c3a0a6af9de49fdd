import DatabaseMod.CoreGlue
import DatabaseMod.CoreStrptime

/-!
# Date values and the date types of the core

The encoding of a date and time as seconds, both ways, and `TDBDateTime` as far
as its value and parts go. The encoding is exact on every date the validity
rules accept and every value the decoder is given, and its order is that of the
calendar.
-/

namespace DatabaseMod.CoreDateTypes
open MachineInteger CivilCalendar CoreGlue CoreStrptime

/-! ## Encoding and decoding -/

/-- The range in which the decoder's years fit an `int`. -/
theorem year_of_bounded_value {v : ℤ} (hv : |v| ≤ 60000000000000000) :
    -2147483248 ≤ (ofDayNumber (v / 86400)).1 ∧ (ofDayNumber (v / 86400)).1 ≤ 2147483647 := by
  obtain ⟨hlo, hhi⟩ := abs_le.mp hv
  have hlt : ((v / 86400 + 719468) % 146097).toNat < 146097 := by omega
  have hk := yearOfEra_lt hlt
  simp only [ofDayNumber]
  split_ifs <;> omega

theorem calcDateValue_valid {y m d hh mm ss : ℤ} (hy : y ≤ 2147483647)
    (hdate : dbIsValidDate y m d = true) (htime : dbIsValidTime hh mm ss = true) :
    calcDateValue y m d hh mm ss =
      some ((dateOfValid hdate).number * 86400 + hh * 3600 + mm * 60 + ss) := by
  obtain ⟨hy1, hm, hd⟩ := dbIsValidDate_iff.mp hdate
  obtain ⟨hhh, hmm, hss, _⟩ := dbIsValidTime_iff.mp htime
  exact calcDateValue_eq ⟨by omega, hy⟩ hm ⟨hd.1, dbIsValidDate_day_le hdate⟩ hhh hmm hss

theorem splitDateValue_calcDateValue {y m d hh mm ss : ℤ} (hy : y ≤ 2147483647)
    (hdate : dbIsValidDate y m d = true) (htime : dbIsValidTime hh mm ss = true) :
    (calcDateValue y m d hh mm ss >>= splitDateValue) = some ⟨y, m, d, hh, mm, ss⟩ := by
  obtain ⟨hy1, hm, hd⟩ := dbIsValidDate_iff.mp hdate
  obtain ⟨hhh, hmm, hss, _⟩ := dbIsValidTime_iff.mp htime
  have hb : -785000000000 ≤ (dateOfValid hdate).number ∧
      (dateOfValid hdate).number ≤ 785000000000 :=
    dayNumber_bounds (y := y) ⟨by omega, hy⟩ ⟨hd.1, dbIsValidDate_day_le hdate⟩
  have hinv := dateOfNumber_number (dateOfValid hdate)
  rw [calcDateValue_valid hy hdate htime]
  generalize (dateOfValid hdate).number = n at hb hinv
  have hq : (n * 86400 + hh * 3600 + mm * 60 + ss) / 86400 = n := by omega
  have hr : (n * 86400 + hh * 3600 + mm * 60 + ss) % 86400 = hh * 3600 + mm * 60 + ss := by omega
  have hyear : (ofDayNumber n).1 = y := congrArg Date.year hinv
  have hmonth : (ofDayNumber n).2.1 = m := congrArg Date.month hinv
  have hday : (ofDayNumber n).2.2 = d := congrArg Date.day hinv
  have hint : InInt32 y := ⟨by omega, hy⟩
  show splitDateValue (n * 86400 + hh * 3600 + mm * 60 + ss) = _
  rw [splitDateValue_eq (by rw [hq]; omega), hq, hr, hyear, hmonth, hday,
    castInt32_of_mem hint]
  simp only [Option.some.injEq, DateParts.mk.injEq, true_and]
  omega

theorem calcDateValue_splitDateValue {v : ℤ} (hv : |v| ≤ 60000000000000000) :
    ∃ p, splitDateValue v = some p ∧ (1 ≤ p.month ∧ p.month ≤ 12) ∧
      (1 ≤ p.day ∧ p.day ≤ dbDaysInMonth p.year p.month) ∧
      dbIsValidTime p.hour p.minute p.second = true ∧
      calcDateValue p.year p.month p.day p.hour p.minute p.second = some v := by
  obtain ⟨hlo, hhi⟩ := abs_le.mp hv
  have hy := year_of_bounded_value hv
  have hm := ofDayNumber_month (v / 86400)
  have hd := ofDayNumber_day (v / 86400)
  have hnum := dayNumber_ofDayNumber (v / 86400)
  have hsplit := splitDateValue_eq (v := v) ⟨by omega, by omega⟩
  rw [castInt32_of_mem ⟨by omega, hy.2⟩] at hsplit
  refine ⟨_, hsplit, hm, ?_, ?_, ?_⟩
  · rw [dbDaysInMonth_eq hm]
    exact hd
  · dsimp only
    exact dbIsValidTime_iff.mpr ⟨by omega, by omega, by omega, by omega⟩
  · have hml := monthLength_le (ofDayNumber (v / 86400)).1 (ofDayNumber (v / 86400)).2.1
    dsimp only
    rw [calcDateValue_eq hy hm ⟨hd.1, hd.2.trans hml⟩ (by omega) (by omega) (by omega), hnum]
    congr 1
    omega

/-- Encoding and decoding of dates are inverse to each other: on every valid
date and time whose year fits an `int`, and on every value whose year does. -/
theorem date_encoding_bijective :
    (∀ y m d hh mm ss : ℤ, 1 ≤ y → y ≤ 2147483647 →
      dbIsValidDate y m d = true → dbIsValidTime hh mm ss = true →
      (calcDateValue y m d hh mm ss >>= splitDateValue) = some ⟨y, m, d, hh, mm, ss⟩) ∧
    (∀ v : ℤ, |v| ≤ 60000000000000000 →
      ∃ p, splitDateValue v = some p ∧ (1 ≤ p.month ∧ p.month ≤ 12) ∧
        (1 ≤ p.day ∧ p.day ≤ dbDaysInMonth p.year p.month) ∧
        dbIsValidTime p.hour p.minute p.second = true ∧
        calcDateValue p.year p.month p.day p.hour p.minute p.second = some v) :=
  ⟨fun _ _ _ _ _ _ _ hy hdate htime => splitDateValue_calcDateValue hy hdate htime,
    fun _ hv => calcDateValue_splitDateValue hv⟩

theorem date_encoding_bijective_leap_day :
    (calcDateValue 2000 2 29 23 59 59 >>= splitDateValue) = some ⟨2000, 2, 29, 23, 59, 59⟩ ∧
      ∃ p, splitDateValue (-1) = some p ∧ (1 ≤ p.month ∧ p.month ≤ 12) ∧
        (1 ≤ p.day ∧ p.day ≤ dbDaysInMonth p.year p.month) ∧
        dbIsValidTime p.hour p.minute p.second = true ∧
        calcDateValue p.year p.month p.day p.hour p.minute p.second = some (-1) :=
  ⟨date_encoding_bijective.1 2000 2 29 23 59 59 (by decide) (by decide) (by decide) (by decide),
    date_encoding_bijective.2 (-1) (by decide)⟩

/-! ## Seconds in the order of the calendar -/

structure TimeOfDay (hh mm ss : ℤ) : Prop where
  hour : 0 ≤ hh ∧ hh ≤ 23
  minute : 0 ≤ mm ∧ mm ≤ 59
  second : 0 ≤ ss ∧ ss ≤ 59

/-- Days decide first; on the same day both values are seconds below 86400. -/
theorem seconds_lt_iff (s t : Date) {hh mm ss hh' mm' ss' : ℤ} (hs : TimeOfDay hh mm ss)
    (ht : TimeOfDay hh' mm' ss') :
    s.number * 86400 + hh * 3600 + mm * 60 + ss < t.number * 86400 + hh' * 3600 + mm' * 60 + ss' ↔
      [s.year, s.month, s.day, hh, mm, ss] < [t.year, t.month, t.day, hh', mm', ss'] := by
  obtain ⟨hhh, hmm, hss⟩ := hs
  obtain ⟨hhh', hmm', hss'⟩ := ht
  have hlt := Date.number_lt_iff (s := s) (t := t)
  have hgt := Date.number_lt_iff (s := t) (t := s)
  generalize s.number = na at hlt hgt
  generalize t.number = nb at hlt hgt
  simp only [Date.Before] at hlt hgt
  simp only [List.cons_lt_cons_iff, List.lt_irrefl, and_false, or_false]
  rcases lt_trichotomy na nb with h | h | h
  · have hb := hlt.mp h
    constructor <;> intro <;> omega
  · have hnlt := mt hlt.mpr h.not_lt
    have hngt := mt hgt.mpr h.not_gt
    have hy : s.year = t.year := by omega
    have hm : s.month = t.month := by omega
    have hd : s.day = t.day := by omega
    simp only [hy, hm, hd, h, lt_irrefl, false_or, true_and]
    constructor <;> intro <;> omega
  · have hb := hgt.mp h
    constructor <;> intro <;> omega

theorem eq_iff_of_lt_iff {α β : Type*} [LinearOrder α] [LinearOrder β] {a b : α} {x y : β}
    (hlt : a < b ↔ x < y) (hgt : b < a ↔ y < x) : a = b ↔ x = y := by
  constructor
  · intro h
    rcases lt_trichotomy x y with hl | he | hg
    · exact absurd h (hlt.mpr hl).ne
    · exact he
    · exact absurd h (hgt.mpr hg).ne'
  · intro h
    rcases lt_trichotomy a b with hl | he | hg
    · exact absurd h (hlt.mp hl).ne
    · exact he
    · exact absurd h (hgt.mp hg).ne'

/-! ## Date and time objects -/

/-- A datetime field: the value in seconds and the parts it was built from. -/
structure TDBDateTime where
  isNull : Bool := true
  value : ℤ := 0
  microsecond : ℤ := 0
  year : ℤ := 1900
  month : ℤ := 1
  day : ℤ := 1
  hour : ℤ := 0
  minute : ℤ := 0
  second : ℤ := 0
  deriving DecidableEq, Repr

namespace TDBDateTime

/-- `clear` keeps the parts. -/
def clear (this : TDBDateTime) : TDBDateTime :=
  { this with value := 0, microsecond := 0, isNull := true }

def getDate (this : TDBDateTime) : ℤ := this.value

/-- `none` only where `_calcDateValue` overflows. -/
def setFromParts (this : TDBDateTime) (y m d hh mm ss micros : ℤ) : Option TDBDateTime :=
  if dbIsValidDate y m d = false ∨ dbIsValidTime hh mm ss micros = false then some this.clear
  else do
    let v ← calcDateValue y m d hh mm ss
    some { isNull := false, value := v, microsecond := micros, year := y, month := m, day := d,
           hour := hh, minute := mm, second := ss }

/-- The date and time of day in the order a reader compares them. -/
def tuple (this : TDBDateTime) : List ℤ :=
  [this.year, this.month, this.day, this.hour, this.minute, this.second]

/-- A non-null object that some call of `setFromParts` with 32-bit arguments left. -/
def BuiltFromParts (t : TDBDateTime) : Prop :=
  t.isNull = false ∧ ∃ (t₀ : TDBDateTime) (y m d hh mm ss micros : ℤ),
    (InInt32 y ∧ InInt32 m ∧ InInt32 d ∧ InInt32 hh ∧ InInt32 mm ∧ InInt32 ss ∧ InInt32 micros) ∧
    t₀.setFromParts y m d hh mm ss micros = some t

theorem BuiltFromParts.spec {t : TDBDateTime} (h : BuiltFromParts t) :
    ∃ hdate : dbIsValidDate t.year t.month t.day = true,
      (0 ≤ t.hour ∧ t.hour ≤ 23) ∧ (0 ≤ t.minute ∧ t.minute ≤ 59) ∧
      (0 ≤ t.second ∧ t.second ≤ 59) ∧
      t.getDate = (dateOfValid hdate).number * 86400 + t.hour * 3600 + t.minute * 60 + t.second := by
  obtain ⟨hnull, t₀, y, m, d, hh, mm, ss, micros, hint, hset⟩ := h
  unfold setFromParts at hset
  split_ifs at hset with hbad
  · rw [← Option.some.inj hset] at hnull
    simp [clear] at hnull
  · obtain ⟨hdate, htime⟩ := valid_parts hbad
    obtain ⟨hhh, hmm, hss, _⟩ := dbIsValidTime_iff.mp htime
    rw [calcDateValue_valid hint.1.2 hdate (valid_time_of_micros htime)] at hset
    obtain rfl := Option.some.inj hset
    exact ⟨hdate, hhh, hmm, hss, rfl⟩

theorem getDate_lt_iff {a b : TDBDateTime} (ha : BuiltFromParts a) (hb : BuiltFromParts b) :
    a.getDate < b.getDate ↔ a.tuple < b.tuple := by
  obtain ⟨hda, hha, hma, hsa, hva⟩ := ha.spec
  obtain ⟨hdb, hhb, hmb, hsb, hvb⟩ := hb.spec
  rw [hva, hvb]
  exact seconds_lt_iff (dateOfValid hda) (dateOfValid hdb) ⟨hha, hma, hsa⟩ ⟨hhb, hmb, hsb⟩

theorem getDate_eq_iff {a b : TDBDateTime} (ha : BuiltFromParts a) (hb : BuiltFromParts b) :
    a.getDate = b.getDate ↔ a.tuple = b.tuple :=
  eq_iff_of_lt_iff (getDate_lt_iff ha hb) (getDate_lt_iff hb ha)

end TDBDateTime

/-! ## Day numbers and the calendar of the validity rules -/

theorem dbDaysFromCivil_valid {y m d : ℤ} (hy : y ≤ 2147483647)
    (h : dbIsValidDate y m d = true) :
    dbDaysFromCivil y (UInt32.ofInt m) (UInt32.ofInt d) = some (dayNumber y m d) := by
  obtain ⟨hy1, hm, hd⟩ := dbIsValidDate_iff.mp h
  have hd31 := dbIsValidDate_day_le h
  have hum : (UInt32.ofInt m).toNat = m.toNat := toNat_ofInt (by omega) (by omega)
  have hud : (UInt32.ofInt d).toNat = d.toNat := toNat_ofInt (by omega) (by omega)
  have hcm : ((UInt32.ofInt m).toNat : ℤ) = m := by omega
  have hcd : ((UInt32.ofInt d).toNat : ℤ) = d := by omega
  rw [dbDaysFromCivil_eq ⟨by omega, hy⟩ (by omega) (by omega), hcm, hcd]

/-- Day numbers start at the epoch and grow by one with each date of the rule-based
calendar; hence values order the non-null datetimes as their parts do. -/
theorem day_numbers_follow_calendar :
    dbDaysFromCivil 1970 1 1 = some 0 ∧
    (∀ y m d : ℤ, y < 2147483647 → dbIsValidDate y m d = true →
      ∃ n, dbDaysFromCivil y (UInt32.ofInt m) (UInt32.ofInt d) = some n ∧
        dbDaysFromCivil (nextDate y m d).1 (UInt32.ofInt (nextDate y m d).2.1)
          (UInt32.ofInt (nextDate y m d).2.2) = some (n + 1)) ∧
    (∀ a b : TDBDateTime, a.BuiltFromParts → b.BuiltFromParts →
      (a.getDate < b.getDate ↔ a.tuple < b.tuple) ∧
      (a.getDate = b.getDate ↔ a.tuple = b.tuple)) := by
  refine ⟨by decide, ?_, fun a b ha hb =>
    ⟨TDBDateTime.getDate_lt_iff ha hb, TDBDateTime.getDate_eq_iff ha hb⟩⟩
  intro y m d hy h
  have hnext : (nextDate y m d).1 ≤ 2147483647 := by
    unfold nextDate
    split_ifs <;> dsimp only <;> omega
  exact ⟨_, dbDaysFromCivil_valid (by omega) h,
    by rw [dbDaysFromCivil_valid hnext (nextDate_valid h), dayNumber_nextDate h]⟩

def leapNoon : TDBDateTime := ⟨false, 951825600, 5, 2000, 2, 29, 12, 0, 0⟩
def marchFirst : TDBDateTime := ⟨false, 951868800, 0, 2000, 3, 1, 0, 0, 0⟩

theorem day_numbers_follow_calendar_leap_day :
    (∃ n, dbDaysFromCivil 2000 (UInt32.ofInt 2) (UInt32.ofInt 29) = some n ∧
      dbDaysFromCivil (nextDate 2000 2 29).1 (UInt32.ofInt (nextDate 2000 2 29).2.1)
        (UInt32.ofInt (nextDate 2000 2 29).2.2) = some (n + 1)) ∧
    (leapNoon.getDate < marchFirst.getDate ↔ leapNoon.tuple < marchFirst.tuple) ∧
    (leapNoon.getDate = marchFirst.getDate ↔ leapNoon.tuple = marchFirst.tuple) := by
  obtain ⟨_, hnext, horder⟩ := day_numbers_follow_calendar
  have hnoon : leapNoon.BuiltFromParts :=
    ⟨rfl, {}, 2000, 2, 29, 12, 0, 0, 5, by decide, by decide⟩
  have hmarch : marchFirst.BuiltFromParts :=
    ⟨rfl, {}, 2000, 3, 1, 0, 0, 0, 0, by decide, by decide⟩
  exact ⟨hnext 2000 2 29 (by decide) (by decide), horder leapNoon marchFirst hnoon hmarch⟩

end DatabaseMod.CoreDateTypes
