import DatabaseMod.CivilCalendar

/-!
# Validity rules for dates and times

`dbIsLeapYear`, `dbDaysInMonth`, `dbIsValidDate` and `dbIsValidTime` follow the
source branch by branch; `Mod` is the truncated remainder. Their table of months
is the month length of the civil calendar.
-/

namespace DatabaseMod.CoreStrptime
open CivilCalendar

def dbIsLeapYear (y : ℤ) : Bool :=
  if y.tmod 400 = 0 then true
  else if y.tmod 100 = 0 then false
  else y.tmod 4 = 0

def dbDaysInMonth (y m : ℤ) : ℤ :=
  if m = 1 ∨ m = 3 ∨ m = 5 ∨ m = 7 ∨ m = 8 ∨ m = 10 ∨ m = 12 then 31
  else if m = 4 ∨ m = 6 ∨ m = 9 ∨ m = 11 then 30
  else if m = 2 then (if dbIsLeapYear y then 29 else 28)
  else 0

def dbIsValidDate (y m d : ℤ) : Bool :=
  if y < 1 then false
  else if m < 1 ∨ m > 12 then false
  else if d < 1 ∨ d > dbDaysInMonth y m then false
  else true

def dbIsValidTime (hh mm ss : ℤ) (micros : ℤ := 0) : Bool :=
  if hh < 0 ∨ hh > 23 then false
  else if mm < 0 ∨ mm > 59 then false
  else if ss < 0 ∨ ss > 59 then false
  else if micros < 0 ∨ micros > 999999 then false
  else true

theorem dbIsLeapYear_iff (y : ℤ) : dbIsLeapYear y = true ↔ IsLeap y := by
  have h (k : ℤ) : y.tmod k = 0 ↔ y % k = 0 :=
    Int.dvd_iff_tmod_eq_zero.symm.trans Int.dvd_iff_emod_eq_zero
  unfold dbIsLeapYear IsLeap
  simp only [h]
  split_ifs <;> simp <;> omega

theorem dbDaysInMonth_eq {y m : ℤ} (hm : 1 ≤ m ∧ m ≤ 12) :
    dbDaysInMonth y m = monthLength y m := by
  unfold dbDaysInMonth monthLength
  simp only [dbIsLeapYear_iff]
  split_ifs <;> omega

theorem dbIsValidDate_iff {y m d : ℤ} : dbIsValidDate y m d = true ↔
    1 ≤ y ∧ (1 ≤ m ∧ m ≤ 12) ∧ (1 ≤ d ∧ d ≤ dbDaysInMonth y m) := by
  unfold dbIsValidDate
  split_ifs <;> simp <;> omega

theorem dbIsValidTime_iff {hh mm ss micros : ℤ} : dbIsValidTime hh mm ss micros = true ↔
    (0 ≤ hh ∧ hh ≤ 23) ∧ (0 ≤ mm ∧ mm ≤ 59) ∧ (0 ≤ ss ∧ ss ≤ 59) ∧
      (0 ≤ micros ∧ micros ≤ 999999) := by
  unfold dbIsValidTime
  split_ifs <;> simp <;> omega

theorem valid_time_of_micros {hh mm ss micros : ℤ} (h : dbIsValidTime hh mm ss micros = true) :
    dbIsValidTime hh mm ss = true := by
  obtain ⟨hhh, hmm, hss, -⟩ := dbIsValidTime_iff.mp h
  exact dbIsValidTime_iff.mpr ⟨hhh, hmm, hss, by decide⟩

theorem valid_parts {y m d hh mm ss micros : ℤ}
    (h : ¬ (dbIsValidDate y m d = false ∨ dbIsValidTime hh mm ss micros = false)) :
    dbIsValidDate y m d = true ∧ dbIsValidTime hh mm ss micros = true := by
  simpa [not_or] using h

/-- A date accepted by the source is a date of the calendar. -/
def dateOfValid {y m d : ℤ} (h : dbIsValidDate y m d = true) : Date :=
  ⟨y, m, d, (dbIsValidDate_iff.mp h).2.1, by
    obtain ⟨_, hm, hd⟩ := dbIsValidDate_iff.mp h
    rwa [dbDaysInMonth_eq hm] at hd⟩

theorem dbIsValidDate_day_le {y m d : ℤ} (h : dbIsValidDate y m d = true) : d ≤ 31 :=
  (dateOfValid h).day_mem.2.trans (monthLength_le y m)

/-- The calendar successor by the source's own month table. -/
def nextDate (y m d : ℤ) : ℤ × ℤ × ℤ :=
  if d < dbDaysInMonth y m then (y, m, d + 1)
  else if m < 12 then (y, m + 1, 1)
  else (y + 1, 1, 1)

theorem nextDate_valid {y m d : ℤ} (h : dbIsValidDate y m d = true) :
    dbIsValidDate (nextDate y m d).1 (nextDate y m d).2.1 (nextDate y m d).2.2 = true := by
  obtain ⟨hy, hm, hd⟩ := dbIsValidDate_iff.mp h
  unfold nextDate
  split_ifs with hlast hdec
  · show dbIsValidDate y m (d + 1) = true
    exact dbIsValidDate_iff.mpr ⟨hy, hm, by omega, by omega⟩
  · show dbIsValidDate y (m + 1) 1 = true
    have hpos := monthLength_pos y (m + 1)
    have hm1 : 1 ≤ m + 1 ∧ m + 1 ≤ 12 := by omega
    rw [← dbDaysInMonth_eq hm1] at hpos
    exact dbIsValidDate_iff.mpr ⟨hy, hm1, by omega, by omega⟩
  · show dbIsValidDate (y + 1) 1 1 = true
    exact dbIsValidDate_iff.mpr ⟨by omega, by omega, by omega, by simp [dbDaysInMonth]⟩

theorem dayNumber_nextDate {y m d : ℤ} (h : dbIsValidDate y m d = true) :
    dayNumber (nextDate y m d).1 (nextDate y m d).2.1 (nextDate y m d).2.2 =
      dayNumber y m d + 1 := by
  obtain ⟨_, hm, hd⟩ := dbIsValidDate_iff.mp h
  have hday := dayNumber_add y m 1 (d - 1)
  rw [add_sub_cancel] at hday
  have hlen := dbDaysInMonth_eq (y := y) hm
  unfold nextDate
  split_ifs with hlast hdec
  · exact dayNumber_add y m d 1
  · show dayNumber y (m + 1) 1 = dayNumber y m d + 1
    rw [dayNumber_next_month hm.1 hdec]
    omega
  · have hdecember : m = 12 := by omega
    subst hdecember
    show dayNumber (y + 1) 1 1 = dayNumber y 12 d + 1
    rw [dayNumber_next_year]
    omega

end DatabaseMod.CoreStrptime
