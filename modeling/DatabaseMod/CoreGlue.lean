import DatabaseMod.MachineInteger
import DatabaseMod.CivilCalendar

/-!
# The date glue of the core

`db_days_from_civil`, `db_civil_from_days`, `_calcDateValue` and
`_splitDateValue` as the C code computes them: `int` and 64-bit steps are
checked, `unsigned` steps wrap. Each is then shown to be the closed form of the
civil calendar, with no signed overflow on its documented range.
-/

namespace DatabaseMod.CoreGlue
open MachineInteger CivilCalendar

def dbDaysFromCivil (y : ℤ) (m d : UInt32) : Option ℤ := do
  let y ← int32 (y - if m ≤ 2 then 1 else 0)
  let num ← int32 (if 0 ≤ y then y else y - 399)
  let era ← int32 (num.tdiv 400)
  let past ← int32 (era * 400)
  let rest ← int32 (y - past)
  let yoe := UInt32.ofInt rest
  let doy := (153 * (m + if m > 2 then -3 else 9) + 2) / 5 + d - 1
  let doe := yoe * 365 + yoe / 4 - yoe / 100 + doy
  let eraDays ← int64 (era * 146097)
  let days ← int64 (eraDays + doe.toNat)
  int64 (days - 719468)

def dbCivilFromDays (z : ℤ) : Option (ℤ × UInt32 × UInt32) := do
  let z ← int64 (z + 719468)
  let num ← int64 (if 0 ≤ z then z else z - 146096)
  let era ← int64 (num.tdiv 146097)
  let past ← int64 (era * 146097)
  let rest ← int64 (z - past)
  let doe := UInt32.ofInt rest
  let yoe := (doe - doe / 1460 + doe / 36524 - doe / 146096) / 365
  let eraYears ← int64 (era * 400)
  let yy ← int64 (yoe.toNat + eraYears)
  let doy := doe - (365 * yoe + yoe / 4 - yoe / 100)
  let mp := (5 * doy + 2) / 153
  let d := doy - (153 * mp + 2) / 5 + 1
  let m := mp + if mp < 10 then 3 else -9
  let yv ← int64 (yy + if m ≤ 2 then 1 else 0)
  pure (castInt32 yv, m, d)

def calcDateValue (y m d hh mm ss : ℤ) : Option ℤ := do
  let days ← dbDaysFromCivil y (UInt32.ofInt m) (UInt32.ofInt d)
  let v ← int64 (days * 86400)
  let h ← int64 (hh * 3600)
  let v ← int64 (v + h)
  let n ← int64 (mm * 60)
  let v ← int64 (v + n)
  int64 (v + ss)

/-- The values `_splitDateValue` stores through its six pointers. -/
structure DateParts where
  year : ℤ
  month : ℤ
  day : ℤ
  hour : ℤ
  minute : ℤ
  second : ℤ
  deriving DecidableEq, Repr

def splitDateValue (value : ℤ) : Option DateParts := do
  let days := value.tdiv 86400
  let rem := value.tmod 86400
  let days ← int64 (if rem < 0 then days - 1 else days)
  let rem ← int64 (if rem < 0 then rem + 86400 else rem)
  let (y, um, ud) ← dbCivilFromDays days
  let hh := castInt32 (rem.tdiv 3600)
  let rem := rem.tmod 3600
  pure ⟨y, castInt32 um.toNat, castInt32 ud.toNat, hh,
    castInt32 (rem.tdiv 60), castInt32 (rem.tmod 60)⟩

/-! ## Days from a civil date -/

theorem marchShift_toNat {m : UInt32} (hm : 1 ≤ m.toNat ∧ m.toNat ≤ 12) :
    (m + if m > 2 then -3 else 9 : UInt32).toNat = (m.toNat + 9) % 12 := by
  split_ifs with h
  · have h' : 2 < m.toNat := UInt32.lt_iff_toNat_lt.mp h
    rw [toNat_add_neg_of_le (by simp only [UInt32.reduceToNat]; omega)]
    simp only [UInt32.reduceToNat]
    omega
  · have h' : m.toNat ≤ 2 := not_lt.mp (fun hlt => h (UInt32.lt_iff_toNat_lt.mpr hlt))
    rw [toNat_add_of_lt (by simp only [UInt32.reduceToNat]; omega)]
    simp only [UInt32.reduceToNat]
    omega

theorem monthDays_toNat {p : UInt32} (hp : p.toNat < 12) :
    ((153 * p + 2) / 5 : UInt32).toNat = (153 * p.toNat + 2) / 5 := by
  have hmul : (153 * p : UInt32).toNat = 153 * p.toNat :=
    toNat_mul_of_lt (by simp only [UInt32.reduceToNat]; omega)
  rw [UInt32.toNat_div, toNat_add_of_lt (by simp only [hmul, UInt32.reduceToNat]; omega), hmul]
  rfl

theorem dayOfYear_toNat {m d : UInt32} (hm : 1 ≤ m.toNat ∧ m.toNat ≤ 12)
    (hd : 1 ≤ d.toNat ∧ d.toNat ≤ 31) :
    (((153 * (m + if m > 2 then -3 else 9) + 2) / 5 + d - 1 : UInt32).toNat : ℤ) =
      monthStart (marchMonth m.toNat) + (d.toNat - 1) := by
  have hp := marchShift_toNat hm
  have hs := monthDays_toNat (p := m + if m > 2 then -3 else 9) (by omega)
  have ha := toNat_add_of_lt (a := (153 * (m + if m > 2 then -3 else 9) + 2) / 5) (b := d)
    (by omega)
  rw [UInt32.toNat_sub_of_le _ _ (by rw [UInt32.le_iff_toNat_le, ha]; exact hd.1.trans (by omega)),
    ha, hs, hp]
  have hmarch : marchMonth m.toNat = ((m.toNat + 9) % 12 : ℕ) := by
    unfold marchMonth
    push_cast
    rfl
  rw [hmarch]
  generalize (m.toNat + 9) % 12 = pn
  simp only [UInt32.reduceToNat, monthStart]
  omega

theorem yearDays_toNat (yoe : UInt32) (h : yoe.toNat < 400) :
    (yoe * 365 + yoe / 4 - yoe / 100).toNat =
      365 * yoe.toNat + yoe.toNat / 4 - yoe.toNat / 100 := by
  simp only [UInt32.toNat_sub, UInt32.toNat_add, UInt32.toNat_div, UInt32.toNat_mul,
    UInt32.reduceToNat]
  omega

/-- The day of the era added to the days of the earlier eras. -/
theorem eraDays_add {Y : ℤ} {yoe : UInt32} (doy : UInt32) (hyoe : yoe.toNat = (Y % 400).toNat)
    (hdoy : doy.toNat ≤ 367) :
    Y / 400 * 146097 + ((yoe * 365 + yoe / 4 - yoe / 100 + doy).toNat : ℤ) =
      yearStart Y + doy.toNat := by
  have hyd := yearDays_toNat yoe (by omega)
  rw [toNat_add_of_lt (by omega), hyd, hyoe]
  unfold yearStart
  omega

theorem dbDaysFromCivil_eq {y : ℤ} {m d : UInt32}
    (hy : -2147483248 ≤ y ∧ y ≤ 2147483647)
    (hm : 1 ≤ m.toNat ∧ m.toNat ≤ 12) (hd : 1 ≤ d.toNat ∧ d.toNat ≤ 31) :
    dbDaysFromCivil y m d = some (dayNumber y m.toNat d.toNat) := by
  have hle : (m ≤ 2) ↔ ((m.toNat : ℤ) ≤ 2) := by
    rw [UInt32.le_iff_toNat_le]
    simp only [UInt32.reduceToNat]
    omega
  have hYdef : (y - if m ≤ 2 then 1 else 0) = marchYear y m.toNat := by
    simp only [marchYear, hle]
    split_ifs <;> omega
  have hY : -2147483249 ≤ marchYear y m.toNat ∧ marchYear y m.toNat ≤ 2147483647 := by
    rw [← hYdef]
    split_ifs <;> omega
  have hdoy := dayOfYear_toNat hm hd
  have hmax : 0 ≤ monthStart (marchMonth m.toNat) ∧ monthStart (marchMonth m.toNat) ≤ 337 := by
    unfold monthStart marchMonth
    omega
  simp only [dbDaysFromCivil, hYdef, dayNumber]
  generalize marchYear y m.toNat = Y at hY
  generalize ((153 * (m + if m > 2 then -3 else 9) + 2) / 5 + d - 1 : UInt32) = doy at hdoy
  have hera : (if 0 ≤ Y then Y else Y - 399).tdiv 400 = Y / 400 :=
    tdiv_shift_eq_ediv (b := 400) (by norm_num)
  have hnum : InInt32 (if 0 ≤ Y then Y else Y - 399) := by
    unfold InInt32
    split_ifs <;> omega
  have hrest : Y - Y / 400 * 400 = Y % 400 := by omega
  have hyoe : (UInt32.ofInt (Y % 400)).toNat = (Y % 400).toNat :=
    toNat_ofInt (by omega) (by omega)
  have hdays := eraDays_add doy hyoe (by omega)
  have hb : -785000000000 ≤ yearStart Y ∧ yearStart Y ≤ 785000000000 := by
    unfold yearStart
    omega
  have h1 : InInt32 Y := ⟨by omega, by omega⟩
  have h2 : InInt32 (Y / 400) := ⟨by omega, by omega⟩
  have h3 : InInt32 (Y / 400 * 400) := ⟨by omega, by omega⟩
  have h4 : InInt32 (Y % 400) := ⟨by omega, by omega⟩
  have h5 : InInt64 (Y / 400 * 146097) := ⟨by omega, by omega⟩
  have h6 : InInt64 (yearStart Y + doy.toNat) := ⟨by omega, by omega⟩
  have h7 : InInt64 (yearStart Y + doy.toNat - 719468) := ⟨by omega, by omega⟩
  rw [int32_bind h1, int32_bind hnum, hera, int32_bind h2, int32_bind h3, hrest, int32_bind h4,
    int64_bind h5, hdays, int64_bind h6, int64_of_mem h7, hdoy]
  congr 1
  omega

/-! ## The civil date of a day -/

theorem leapless_toNat {doe : UInt32} (h : doe.toNat < 146097) :
    (doe - doe / 1460 + doe / 36524 - doe / 146096).toNat = leapless doe.toNat := by
  have hdiv (k : UInt32) : (doe / k).toNat = doe.toNat / k.toNat := UInt32.toNat_div doe k
  have h1 : (doe - doe / 1460).toNat = doe.toNat - doe.toNat / 1460 := by
    rw [UInt32.toNat_sub_of_le _ _ (UInt32.le_iff_toNat_le.mpr ?_), hdiv]
    · rfl
    · rw [hdiv]
      exact Nat.div_le_self _ _
  have h2 : (doe - doe / 1460 + doe / 36524).toNat =
      doe.toNat - doe.toNat / 1460 + doe.toNat / 36524 := by
    rw [toNat_add_of_lt] <;> rw [h1, hdiv] <;> simp only [UInt32.reduceToNat]
    omega
  rw [UInt32.toNat_sub_of_le _ _ (UInt32.le_iff_toNat_le.mpr ?_), h2, hdiv]
  · rfl
  · rw [h2, hdiv]
    simp only [UInt32.reduceToNat]
    omega

theorem yearOfEra_toNat {doe : UInt32} (h : doe.toNat < 146097) :
    ((doe - doe / 1460 + doe / 36524 - doe / 146096) / 365).toNat = yearOfEra doe.toNat := by
  rw [UInt32.toNat_div, leapless_toNat h]
  rfl

theorem dayOfEraYear_toNat {doe yoe : UInt32} (hy : yoe.toNat < 400)
    (hs : eraYearStart yoe.toNat ≤ doe.toNat) :
    (doe - (365 * yoe + yoe / 4 - yoe / 100)).toNat = doe.toNat - eraYearStart yoe.toNat := by
  have hyd := yearDays_toNat yoe hy
  rw [UInt32.mul_comm] at hyd
  have hle : 365 * yoe + yoe / 4 - yoe / 100 ≤ doe := by
    rw [UInt32.le_iff_toNat_le, hyd]
    unfold eraYearStart at hs
    omega
  rw [UInt32.toNat_sub_of_le _ _ hle, hyd]
  unfold eraYearStart
  omega

theorem monthOfDay_toNat {doy : UInt32} (h : doy.toNat ≤ 365) :
    ((5 * doy + 2) / 153 : UInt32).toNat = monthOfDay doy.toNat := by
  have hmul : (5 * doy : UInt32).toNat = 5 * doy.toNat :=
    toNat_mul_of_lt (by simp only [UInt32.reduceToNat]; omega)
  rw [UInt32.toNat_div, toNat_add_of_lt (by simp only [hmul, UInt32.reduceToNat]; omega), hmul]
  rfl

theorem civilMonth_toNat {mp : UInt32} (h : mp.toNat < 12) :
    ((mp + if mp < 10 then 3 else -9 : UInt32).toNat : ℤ) =
      if mp.toNat < 10 then (mp.toNat : ℤ) + 3 else mp.toNat - 9 := by
  have hlt : mp < 10 ↔ mp.toNat < 10 := UInt32.lt_iff_toNat_lt
  simp only [hlt]
  split_ifs with h10
  · rw [toNat_add_of_lt (by simp only [UInt32.reduceToNat]; omega)]
    simp only [UInt32.reduceToNat]
    omega
  · rw [toNat_add_neg_of_le (by simp only [UInt32.reduceToNat]; omega)]
    simp only [UInt32.reduceToNat]
    omega

theorem civilDay_toNat {doy mp : UInt32} (hp : mp.toNat < 12) (hq : doy.toNat ≤ 365)
    (hle : monthStart mp.toNat ≤ doy.toNat) :
    ((doy - (153 * mp + 2) / 5 + 1 : UInt32).toNat : ℤ) = doy.toNat - monthStart mp.toNat + 1 := by
  have hm := monthDays_toNat hp
  unfold monthStart at hle ⊢
  rw [toNat_add_of_lt, UInt32.toNat_sub_of_le, hm]
  · simp only [UInt32.reduceToNat]
    omega
  · rw [UInt32.le_iff_toNat_le, hm]
    omega
  · rw [UInt32.toNat_sub_of_le _ _ (by rw [UInt32.le_iff_toNat_le, hm]; omega), hm]
    simp only [UInt32.reduceToNat]
    omega

theorem dbCivilFromDays_eq {z : ℤ} (hz : -200000000000000 ≤ z ∧ z ≤ 200000000000000) :
    ∃ m d : UInt32, dbCivilFromDays z = some (castInt32 (ofDayNumber z).1, m, d) ∧
      (m.toNat : ℤ) = (ofDayNumber z).2.1 ∧ (d.toNat : ℤ) = (ofDayNumber z).2.2 := by
  have hera : (if 0 ≤ z + 719468 then z + 719468 else z + 719468 - 146096).tdiv 146097 =
      (z + 719468) / 146097 := tdiv_shift_eq_ediv (b := 146097) (by norm_num)
  have hrest : z + 719468 - (z + 719468) / 146097 * 146097 = (z + 719468) % 146097 := by omega
  have hdoe : (UInt32.ofInt ((z + 719468) % 146097)).toNat = ((z + 719468) % 146097).toNat :=
    toNat_ofInt (by omega) (by omega)
  have h1 : InInt64 (z + 719468) := ⟨by omega, by omega⟩
  have h2 : InInt64 (if 0 ≤ z + 719468 then z + 719468 else z + 719468 - 146096) := by
    unfold InInt64
    split_ifs <;> omega
  have h3 : InInt64 ((z + 719468) / 146097) := ⟨by omega, by omega⟩
  have h4 : InInt64 ((z + 719468) / 146097 * 146097) := ⟨by omega, by omega⟩
  have h5 : InInt64 ((z + 719468) % 146097) := ⟨by omega, by omega⟩
  have hb : -1400000000 ≤ (z + 719468) / 146097 ∧ (z + 719468) / 146097 ≤ 1400000000 := by omega
  have h6 : InInt64 ((z + 719468) / 146097 * 400) := ⟨by omega, by omega⟩
  have hlt : ((z + 719468) % 146097).toNat < 146097 := by omega
  have hk := yearOfEra_lt hlt
  have hle := eraYearStart_yearOfEra_le hlt
  have hnext := lt_eraYearStart_succ hlt
  have hlen := eraYearStart_succ (yearOfEra ((z + 719468) % 146097).toNat) 0
  have hq : ((z + 719468) % 146097).toNat -
      eraYearStart (yearOfEra ((z + 719468) % 146097).toNat) ≤ 365 := by
    split_ifs at hlen <;> omega
  rw [← hdoe] at hlt hk hle hq
  have hyoe := yearOfEra_toNat hlt
  simp only [dbCivilFromDays]
  rw [int64_bind h1, int64_bind h2, hera, int64_bind h3, int64_bind h4, hrest, int64_bind h5,
    int64_bind h6]
  simp only [ofDayNumber, ← hdoe]
  generalize (z + 719468) / 146097 = era at h6 hb
  generalize UInt32.ofInt ((z + 719468) % 146097) = doe at hlt hk hle hq hyoe
  rw [← hyoe] at hk hle hq ⊢
  generalize (doe - doe / 1460 + doe / 36524 - doe / 146096) / 365 = yoe at hk hle hq ⊢
  have hdoy := dayOfEraYear_toNat hk hle
  rw [← hdoy] at hq ⊢
  generalize doe - (365 * yoe + yoe / 4 - yoe / 100) = doy at hq hdoy ⊢
  have hmp := monthOfDay_toNat hq
  have hp : monthOfDay doy.toNat < 12 := by
    unfold monthOfDay
    omega
  have hlo := monthStart_monthOfDay_le doy.toNat
  rw [← hmp] at hp hlo ⊢
  generalize ((5 * doy + 2) / 153 : UInt32) = mp at hp hlo hmp ⊢
  have hm := civilMonth_toNat hp
  have hd := civilDay_toNat hp hq hlo
  have hm2 : (mp + if mp < 10 then 3 else -9 : UInt32) ≤ 2 ↔
      (if mp.toNat < 10 then (mp.toNat : ℤ) + 3 else mp.toNat - 9) ≤ 2 := by
    rw [← hm, UInt32.le_iff_toNat_le]
    simp only [UInt32.reduceToNat]
    omega
  refine ⟨mp + if mp < 10 then 3 else -9, doy - (153 * mp + 2) / 5 + 1, ?_, hm, hd⟩
  have h7 : InInt64 ((yoe.toNat : ℤ) + era * 400) := ⟨by omega, by omega⟩
  have h8 : InInt64 ((yoe.toNat : ℤ) + era * 400 +
      if (if mp.toNat < 10 then (mp.toNat : ℤ) + 3 else mp.toNat - 9) ≤ 2 then 1 else 0) := by
    unfold InInt64
    split_ifs <;> omega
  simp only [hm2]
  rw [int64_bind h7, int64_bind h8]
  rfl

/-! ## Date values in seconds -/

theorem dayNumber_bounds {y m d : ℤ} (hy : -2147483248 ≤ y ∧ y ≤ 2147483647) (hd : 1 ≤ d ∧ d ≤ 31) :
    -785000000000 ≤ dayNumber y m d ∧ dayNumber y m d ≤ 785000000000 := by
  have hY : -2147483249 ≤ marchYear y m ∧ marchYear y m ≤ 2147483647 := by
    unfold marchYear
    split_ifs <;> omega
  have hp : 0 ≤ monthStart (marchMonth m) ∧ monthStart (marchMonth m) ≤ 337 := by
    unfold monthStart marchMonth
    omega
  have hb : -784400000000 ≤ yearStart (marchYear y m) ∧
      yearStart (marchYear y m) ≤ 784400000000 := by
    unfold yearStart
    omega
  unfold dayNumber
  omega

theorem calcDateValue_eq {y m d hh mm ss : ℤ} (hy : -2147483248 ≤ y ∧ y ≤ 2147483647)
    (hm : 1 ≤ m ∧ m ≤ 12) (hd : 1 ≤ d ∧ d ≤ 31) (hhh : 0 ≤ hh ∧ hh ≤ 23)
    (hmm : 0 ≤ mm ∧ mm ≤ 59) (hss : 0 ≤ ss ∧ ss ≤ 59) :
    calcDateValue y m d hh mm ss =
      some (dayNumber y m d * 86400 + hh * 3600 + mm * 60 + ss) := by
  have hum : (UInt32.ofInt m).toNat = m.toNat := toNat_ofInt (by omega) (by omega)
  have hud : (UInt32.ofInt d).toNat = d.toNat := toNat_ofInt (by omega) (by omega)
  have hdays := dbDaysFromCivil_eq (m := UInt32.ofInt m) (d := UInt32.ofInt d) hy
    (by omega) (by omega)
  have hcm : ((UInt32.ofInt m).toNat : ℤ) = m := by omega
  have hcd : ((UInt32.ofInt d).toNat : ℤ) = d := by omega
  rw [hcm, hcd] at hdays
  obtain ⟨hlo, hhi⟩ := dayNumber_bounds (m := m) hy hd
  generalize dayNumber y m d = n at hdays hlo hhi ⊢
  have h1 : InInt64 (n * 86400) := ⟨by omega, by omega⟩
  have h2 : InInt64 (hh * 3600) := ⟨by omega, by omega⟩
  have h3 : InInt64 (n * 86400 + hh * 3600) := ⟨by omega, by omega⟩
  have h4 : InInt64 (mm * 60) := ⟨by omega, by omega⟩
  have h5 : InInt64 (n * 86400 + hh * 3600 + mm * 60) := ⟨by omega, by omega⟩
  have h6 : InInt64 (n * 86400 + hh * 3600 + mm * 60 + ss) := ⟨by omega, by omega⟩
  simp only [calcDateValue, hdays, Option.bind_eq_bind, Option.bind_some]
  rw [← Option.bind_eq_bind, int64_bind h1, int64_bind h2, int64_bind h3, int64_bind h4,
    int64_bind h5, int64_of_mem h6]

theorem splitDateValue_eq {v : ℤ}
    (hv : -200000000000000 ≤ v / 86400 ∧ v / 86400 ≤ 200000000000000) :
    splitDateValue v = some ⟨castInt32 (ofDayNumber (v / 86400)).1,
      (ofDayNumber (v / 86400)).2.1, (ofDayNumber (v / 86400)).2.2,
      v % 86400 / 3600, v % 86400 % 3600 / 60, v % 86400 % 3600 % 60⟩ := by
  obtain ⟨hq, hr⟩ := floor_of_truncated (x := v) (b := 86400) (by norm_num)
  obtain ⟨um, ud, hcivil, hum, hud⟩ := dbCivilFromDays_eq hv
  have hm := ofDayNumber_month (v / 86400)
  have hd := ofDayNumber_day (v / 86400)
  have hml := monthLength_le (ofDayNumber (v / 86400)).1 (ofDayNumber (v / 86400)).2.1
  have h1 : InInt64 (v / 86400) := ⟨by omega, by omega⟩
  have h2 : InInt64 (v % 86400) := ⟨by omega, by omega⟩
  have hrem : 0 ≤ v % 86400 ∧ v % 86400 < 86400 := by omega
  rw [← hum] at hm ⊢
  rw [← hud] at hd ⊢
  simp only [splitDateValue, hq, hr]
  rw [int64_bind h1, int64_bind h2, hcivil]
  generalize v % 86400 = r at hrem
  have hh : r.tdiv 3600 = r / 3600 := Int.tdiv_eq_ediv_of_nonneg hrem.1
  have hmod : r.tmod 3600 = r % 3600 := Int.tmod_eq_emod_of_nonneg hrem.1
  have hmin : (r % 3600).tdiv 60 = r % 3600 / 60 := Int.tdiv_eq_ediv_of_nonneg (by omega)
  have hsec : (r % 3600).tmod 60 = r % 3600 % 60 := Int.tmod_eq_emod_of_nonneg (by omega)
  have c1 : InInt32 (r / 3600) := ⟨by omega, by omega⟩
  have c2 : InInt32 (r % 3600 / 60) := ⟨by omega, by omega⟩
  have c3 : InInt32 (r % 3600 % 60) := ⟨by omega, by omega⟩
  have c4 : InInt32 (um.toNat : ℤ) := ⟨by omega, by omega⟩
  have c5 : InInt32 (ud.toNat : ℤ) := ⟨by omega, by omega⟩
  simp only [Option.bind_eq_bind, Option.bind_some, hh, hmod, hmin, hsec, castInt32_of_mem c1,
    castInt32_of_mem c2, castInt32_of_mem c3, castInt32_of_mem c4, castInt32_of_mem c5]
  rfl

end DatabaseMod.CoreGlue
