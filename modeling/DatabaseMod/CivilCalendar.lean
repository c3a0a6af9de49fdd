import Mathlib

/-!
# The proleptic civil calendar as a line of days

A civil date is a year, a month and a day that exists in that month under the
rule of leap centuries. `dayNumber` counts days from 1970-01-01 in closed form,
over a year that starts in March so that the leap day comes last. The closed
form grows by one from each date to the next, which makes it an order
isomorphism, and `ofDayNumber` computes its inverse inside a 400-year era.
-/

namespace DatabaseMod.CivilCalendar

def IsLeap (y : ℤ) : Prop := y % 400 = 0 ∨ (y % 4 = 0 ∧ y % 100 ≠ 0)

instance : DecidablePred IsLeap := fun y => by unfold IsLeap; infer_instance

def monthLength (y m : ℤ) : ℤ :=
  if m = 2 then (if IsLeap y then 29 else 28)
  else if m = 4 ∨ m = 6 ∨ m = 9 ∨ m = 11 then 30
  else 31

/-- A date that exists in the calendar. -/
structure Date where
  year : ℤ
  month : ℤ
  day : ℤ
  month_mem : 1 ≤ month ∧ month ≤ 12
  day_mem : 1 ≤ day ∧ day ≤ monthLength year month

theorem monthLength_pos (y m : ℤ) : 28 ≤ monthLength y m := by
  unfold monthLength
  split_ifs <;> omega

theorem monthLength_le (y m : ℤ) : monthLength y m ≤ 31 := by
  unfold monthLength
  split_ifs <;> omega

/-- Months counted from March: March is `0`, February is `11`. -/
def marchMonth (m : ℤ) : ℤ := (m + 9) % 12

/-- The year a month belongs to when the year starts in March. -/
def marchYear (y m : ℤ) : ℤ := if m ≤ 2 then y - 1 else y

/-- Days before the first of March of the March-based year `k`. -/
def yearStart (k : ℤ) : ℤ := 365 * k + k / 4 - k / 100 + k / 400

/-- Days before the first of the March-based month `p` inside its year. -/
def monthStart (p : ℤ) : ℤ := (153 * p + 2) / 5

def dayNumber (y m d : ℤ) : ℤ :=
  yearStart (marchYear y m) + monthStart (marchMonth m) + (d - 1) - 719468

def Date.number (t : Date) : ℤ := dayNumber t.year t.month t.day

theorem dayNumber_epoch : dayNumber 1970 1 1 = 0 := by decide

theorem dayNumber_add (y m d k : ℤ) : dayNumber y m (d + k) = dayNumber y m d + k := by
  unfold dayNumber
  omega

/-- Twelve months after March the next March-based year starts. -/
theorem dayNumber_next_month {y m : ℤ} (h1 : 1 ≤ m) (h2 : m < 12) :
    dayNumber y (m + 1) 1 = dayNumber y m 1 + monthLength y m := by
  by_cases hm : m = 2
  · -- March starts the next March-based year, whose length shows the leap day.
    subst hm
    unfold dayNumber monthLength marchYear marchMonth monthStart yearStart IsLeap
    norm_num
    split_ifs <;> omega
  · unfold dayNumber monthLength marchYear marchMonth monthStart
    interval_cases m <;> first | exact absurd rfl hm | (norm_num; omega)

theorem dayNumber_next_year (y : ℤ) :
    dayNumber (y + 1) 1 1 = dayNumber y 12 1 + monthLength y 12 := by
  unfold dayNumber monthLength marchYear marchMonth monthStart yearStart
  norm_num
  omega

/-- Months counted without gaps, so that the month after December is January. -/
def monthIndex (y m : ℤ) : ℤ := 12 * y + (m - 1)

def monthFirst (i : ℤ) : ℤ := dayNumber (i / 12) (i % 12 + 1) 1

theorem monthFirst_monthIndex {y m : ℤ} (h1 : 1 ≤ m) (h2 : m ≤ 12) :
    monthFirst (monthIndex y m) = dayNumber y m 1 := by
  have hq : (12 * y + (m - 1)) / 12 = y := by omega
  have hr : (12 * y + (m - 1)) % 12 + 1 = m := by omega
  simp only [monthFirst, monthIndex, hq, hr]

theorem monthFirst_succ (i : ℤ) :
    monthFirst (i + 1) = monthFirst i + monthLength (i / 12) (i % 12 + 1) := by
  unfold monthFirst
  by_cases h : i % 12 = 11
  · have hq : (i + 1) / 12 = i / 12 + 1 := by omega
    have hr : (i + 1) % 12 = 0 := by omega
    rw [hq, hr, h]
    exact dayNumber_next_year (i / 12)
  · have hq : (i + 1) / 12 = i / 12 := by omega
    have hr : (i + 1) % 12 = i % 12 + 1 := by omega
    rw [hq, hr]
    exact dayNumber_next_month (by omega) (by omega)

theorem monthFirst_strictMono : StrictMono monthFirst := by
  apply strictMono_int_of_lt_succ
  intro i
  have h := monthFirst_succ i
  have hp := monthLength_pos (i / 12) (i % 12 + 1)
  omega

namespace Date

theorem number_eq (t : Date) :
    t.number = monthFirst (monthIndex t.year t.month) + (t.day - 1) := by
  rw [monthFirst_monthIndex t.month_mem.1 t.month_mem.2, ← dayNumber_add]
  simp only [number, add_sub_cancel]

theorem number_lt_next_month (t : Date) :
    t.number < monthFirst (monthIndex t.year t.month + 1) := by
  have hq : monthIndex t.year t.month / 12 = t.year := by
    have h := t.month_mem
    unfold monthIndex
    omega
  have hr : monthIndex t.year t.month % 12 + 1 = t.month := by
    have h := t.month_mem
    unfold monthIndex
    omega
  have hd := t.day_mem.2
  rw [t.number_eq, monthFirst_succ, hq, hr]
  omega

/-- The order of dates is that of their years, months and days. -/
def Before (s t : Date) : Prop :=
  s.year < t.year ∨ (s.year = t.year ∧
    (s.month < t.month ∨ (s.month = t.month ∧ s.day < t.day)))

theorem number_lt_of_before {s t : Date} (h : Before s t) : s.number < t.number := by
  have hs := s.month_mem
  have ht := t.month_mem
  by_cases hm : monthIndex s.year s.month = monthIndex t.year t.month
  · rw [s.number_eq, t.number_eq, hm]
    unfold monthIndex at hm
    rcases h with h | ⟨hy, h | ⟨_, hd⟩⟩ <;> omega
  · have hlt : monthIndex s.year s.month + 1 ≤ monthIndex t.year t.month := by
      unfold monthIndex at hm ⊢
      rcases h with h | ⟨hy, h | ⟨hm', _⟩⟩ <;> omega
    have hmono := monthFirst_strictMono.monotone hlt
    have hnext := s.number_lt_next_month
    have hday := t.day_mem.1
    rw [t.number_eq]
    omega

theorem before_trichotomy (s t : Date) : Before s t ∨ s = t ∨ Before t s := by
  obtain ⟨y, m, d, _, _⟩ := s
  obtain ⟨y', m', d', _, _⟩ := t
  simp only [Before, Date.mk.injEq]
  omega

theorem number_lt_iff {s t : Date} : s.number < t.number ↔ Before s t := by
  constructor
  · intro h
    rcases before_trichotomy s t with hb | rfl | hb
    · exact hb
    · exact absurd h (lt_irrefl _)
    · exact absurd (number_lt_of_before hb) (not_lt.mpr h.le)
  · exact number_lt_of_before

theorem number_injective : Function.Injective number := by
  intro s t h
  rcases before_trichotomy s t with hb | he | hb
  · exact absurd h (number_lt_of_before hb).ne
  · exact he
  · exact absurd h (number_lt_of_before hb).ne'

end Date

/-! ## The inverse inside a 400-year era -/

/-- The March-based year inside an era of 146097 days, by dropping leap days. -/
def yearOfEra (e : ℕ) : ℕ := (e - e / 1460 + e / 36524 - e / 146096) / 365

def leapless (e : ℕ) : ℕ := e - e / 1460 + e / 36524 - e / 146096

def eraYearStart (k : ℕ) : ℕ := 365 * k + k / 4 - k / 100 + k / 400

theorem leapless_monotone : Monotone leapless := by
  apply monotone_nat_of_le_succ
  intro n
  unfold leapless
  omega

/-- On the first and on the last day of each year of the era the count without
leap days lies in that year; the 400 years are checked one by one. -/
theorem leapless_bracket : ∀ k < 400, 365 * k ≤ leapless (eraYearStart k) ∧
    leapless (eraYearStart (k + 1) - 1) < 365 * (k + 1) := by
  decide +kernel

theorem yearOfEra_lt {e : ℕ} (h : e < 146097) : yearOfEra e < 400 := by
  unfold yearOfEra
  omega

theorem eraYearStart_yearOfEra_le {e : ℕ} (h : e < 146097) :
    eraYearStart (yearOfEra e) ≤ e := by
  by_contra hlt
  have hk := yearOfEra_lt h
  obtain ⟨k, hke⟩ : ∃ k, yearOfEra e = k + 1 := by
    refine ⟨yearOfEra e - 1, ?_⟩
    have h0 : yearOfEra e ≠ 0 := by
      intro h0
      rw [h0] at hlt
      exact hlt (Nat.zero_le e)
    omega
  have hb := (leapless_bracket k (by omega)).2
  have hm := leapless_monotone (show e ≤ eraYearStart (k + 1) - 1 by rw [← hke]; omega)
  have hd : leapless e / 365 = k + 1 := hke
  omega

theorem lt_eraYearStart_succ {e : ℕ} (h : e < 146097) :
    e < eraYearStart (yearOfEra e + 1) := by
  have hk := yearOfEra_lt h
  by_contra hge
  have hd : leapless e / 365 = yearOfEra e := rfl
  rcases Nat.lt_or_ge (yearOfEra e + 1) 400 with h4 | h4
  · have hb := (leapless_bracket (yearOfEra e + 1) h4).1
    have hm := leapless_monotone (not_lt.mp hge)
    omega
  · have h399 : yearOfEra e + 1 = 400 := by omega
    rw [h399] at hge
    exact hge h

/-- The March-based month of a day of the year. -/
def monthOfDay (q : ℕ) : ℕ := (5 * q + 2) / 153

def ofDayNumber (z : ℤ) : ℤ × ℤ × ℤ :=
  let era := (z + 719468) / 146097
  let e := ((z + 719468) % 146097).toNat
  let q := e - eraYearStart (yearOfEra e)
  let p := monthOfDay q
  let m : ℤ := if p < 10 then p + 3 else p - 9
  ((yearOfEra e : ℤ) + era * 400 + (if m ≤ 2 then 1 else 0), m, (q : ℤ) - monthStart p + 1)

theorem monthStart_monthOfDay_le (q : ℕ) : monthStart (monthOfDay q) ≤ q := by
  unfold monthStart monthOfDay
  omega

theorem lt_monthStart_succ (q : ℕ) : (q : ℤ) < monthStart (monthOfDay q + 1) := by
  unfold monthStart monthOfDay
  omega

theorem yearStart_add_era (k : ℕ) (era : ℤ) :
    yearStart (k + era * 400) = eraYearStart k + era * 146097 := by
  unfold yearStart eraYearStart
  omega

/-- The last day of a year is day 365 only before a leap February ends. -/
theorem eraYearStart_succ (k : ℕ) (era : ℤ) :
    (eraYearStart (k + 1) : ℤ) =
      eraYearStart k + (if IsLeap (k + era * 400 + 1) then 366 else 365) := by
  unfold eraYearStart IsLeap
  split_ifs <;> omega

theorem dayNumber_ofDayNumber (z : ℤ) :
    dayNumber (ofDayNumber z).1 (ofDayNumber z).2.1 (ofDayNumber z).2.2 = z := by
  set e := ((z + 719468) % 146097).toNat with he
  have hlt : e < 146097 := by omega
  have hle := eraYearStart_yearOfEra_le hlt
  have hnext := lt_eraYearStart_succ hlt
  have hys := yearStart_add_era (yearOfEra e) ((z + 719468) / 146097)
  have hlen := eraYearStart_succ (yearOfEra e) 0
  have hp : monthOfDay (e - eraYearStart (yearOfEra e)) < 12 := by
    unfold monthOfDay
    split_ifs at hlen <;> omega
  simp only [ofDayNumber, dayNumber, ← he]
  generalize monthOfDay (e - eraYearStart (yearOfEra e)) = p at hp ⊢
  by_cases h10 : p < 10
  · have hm : ¬ ((p : ℤ) + 3 ≤ 2) := by omega
    have hmm : marchMonth ((p : ℤ) + 3) = p := by unfold marchMonth; omega
    simp only [h10, if_true, hm, if_false, marchYear, hmm, add_zero, hys]
    omega
  · have hm : (p : ℤ) - 9 ≤ 2 := by omega
    have hmm : marchMonth ((p : ℤ) - 9) = p := by unfold marchMonth; omega
    simp only [h10, if_true, hm, if_false, marchYear, hmm, add_sub_cancel_right, hys]
    omega

theorem ofDayNumber_month (z : ℤ) :
    1 ≤ (ofDayNumber z).2.1 ∧ (ofDayNumber z).2.1 ≤ 12 := by
  set e := ((z + 719468) % 146097).toNat with he
  have hnext := lt_eraYearStart_succ (e := e) (by omega)
  have hlen := eraYearStart_succ (yearOfEra e) 0
  simp only [ofDayNumber, ← he, monthOfDay]
  split_ifs at hlen ⊢ <;> omega

theorem ofDayNumber_day (z : ℤ) : 1 ≤ (ofDayNumber z).2.2 ∧
    (ofDayNumber z).2.2 ≤ monthLength (ofDayNumber z).1 (ofDayNumber z).2.1 := by
  set e := ((z + 719468) % 146097).toNat with he
  have hlt : e < 146097 := by omega
  have hle := eraYearStart_yearOfEra_le hlt
  have hnext := lt_eraYearStart_succ hlt
  have hlen := eraYearStart_succ (yearOfEra e) ((z + 719468) / 146097)
  simp only [ofDayNumber, ← he]
  generalize yearOfEra e = k at hle hnext hlen ⊢
  generalize hera : (z + 719468) / 146097 = era at hlen ⊢
  generalize hq : e - eraYearStart k = q
  have hlo := monthStart_monthOfDay_le q
  have hhi := lt_monthStart_succ q
  have hp : monthOfDay q < 12 := by
    unfold monthOfDay
    split_ifs at hlen <;> omega
  generalize monthOfDay q = p at hlo hhi hp ⊢
  refine ⟨by omega, ?_⟩
  by_cases hfeb : p = 11
  · -- February is the last month of the March-based year.
    subst hfeb
    norm_num [monthLength, monthStart]
    split_ifs at hlen ⊢ <;> omega
  · interval_cases p <;> first
      | exact absurd rfl hfeb
      | (norm_num [monthLength, monthStart] at hlo hhi ⊢; omega)

def dateOfNumber (z : ℤ) : Date :=
  ⟨(ofDayNumber z).1, (ofDayNumber z).2.1, (ofDayNumber z).2.2,
    ofDayNumber_month z, ofDayNumber_day z⟩

theorem number_dateOfNumber (z : ℤ) : (dateOfNumber z).number = z :=
  dayNumber_ofDayNumber z

/-- Every day has exactly one date, and every date exactly one day. -/
theorem dateOfNumber_number (t : Date) : dateOfNumber t.number = t :=
  Date.number_injective (number_dateOfNumber t.number)

end DatabaseMod.CivilCalendar
