import DatabaseMod.PostgresColumns

/-!
# Dates and times from PostgreSQL

The texts that the server prints for dates and times are read by the three parsers of the
core, which have no case for the zone at the end of a `TIMETZ` or a `TIMESTAMPTZ`.
-/

namespace DatabaseMod.PostgresTemporal
open CoreStrptime CoreDateParser CoreTemporal CoreFormat
open CoreDateTypes (TDBDateTime)
open SqlTokens (Text)
open CoreValues CoreResultSet CoreQuery PostgresDriver TPostgreSQLResultSet PostgresRecord
open PostgresColumns

/-! ### What the server prints -/

/-- The fraction of a second and the microseconds it stands for. -/
inductive Fraction : Text → ℤ → Prop
  | none : Fraction [] 0
  | digits {fs : Text} (hdigits : ∀ c ∈ fs, isdigit c = true)
    (hlength : 1 ≤ fs.length ∧ fs.length ≤ 6) :
    Fraction ('.' :: fs) ((Nat.ofDigitChars 10 fs 0 : ℕ) * 10 ^ (6 - fs.length))

structure Zone where
  east : Bool
  hours : ℤ
  minutes : Option ℤ

def Zone.text (z : Zone) : Text :=
  (if z.east then '+' else '-') :: (padded 2 z.hours ++ z.minutes.elim [] (':' :: padded 2 ·))

/-- The text of a cell of each type with the date and time that it stands for. -/
inductive Printed : ℕ → DateFields → Text → Prop
  | date {y m d : ℤ} (hy : y ≤ 9999) (hdate : dbIsValidDate y m d = true) :
    Printed DATEOID ⟨y, m, d, 0, 0, 0, 0⟩ (dateText (padded 4 y) m d [])
  | time {hh mm ss micros : ℤ} {fraction : Text} (htime : dbIsValidTime hh mm ss = true)
    (hfraction : Fraction fraction micros) :
    Printed TIMEOID ⟨1900, 1, 1, hh, mm, ss, micros⟩ (timeText hh mm ss fraction)
  | timeWithZone {hh mm ss micros : ℤ} {fraction : Text} (htime : dbIsValidTime hh mm ss = true)
    (hfraction : Fraction fraction micros) (zone : Zone) :
    Printed TIMETZOID ⟨1900, 1, 1, hh, mm, ss, micros⟩ (timeText hh mm ss (fraction ++ zone.text))
  | timestamp {y m d hh mm ss micros : ℤ} {fraction : Text} (hy : y ≤ 9999)
    (hdate : dbIsValidDate y m d = true) (htime : dbIsValidTime hh mm ss = true)
    (hfraction : Fraction fraction micros) :
    Printed TIMESTAMPOID ⟨y, m, d, hh, mm, ss, micros⟩
      (dateText (padded 4 y) m d (' ' :: timeText hh mm ss fraction))
  | timestampWithZone {y m d hh mm ss micros : ℤ} {fraction : Text} (hy : y ≤ 9999)
    (hdate : dbIsValidDate y m d = true) (htime : dbIsValidTime hh mm ss = true)
    (hfraction : Fraction fraction micros) (zone : Zone) :
    Printed TIMESTAMPTZOID ⟨y, m, d, hh, mm, ss, micros⟩
      (dateText (padded 4 y) m d (' ' :: timeText hh mm ss (fraction ++ zone.text)))

/-! ### Fractions and zones -/

theorem denotes_digits {fs : Text} (hdigits : ∀ c ∈ fs, isdigit c = true) (hne : fs ≠ [])
    (hlength : fs.length ≤ 6) : Denotes fs (Nat.ofDigitChars 10 fs 0 : ℕ) := by
  have hlt := ofDigitChars_lt hdigits 0
  have hpow : 10 ^ fs.length ≤ 10 ^ 6 := Nat.pow_le_pow_right (by decide) hlength
  refine ⟨hne, hdigits, ?_⟩
  have hscan := scanNumber_value hdigits (n := 0) (by omega)
  rw [Nat.cast_zero (R := ℤ)] at hscan
  rw [hscan]

theorem fraction_micros {fs : Text} (hdigits : ∀ c ∈ fs, isdigit c = true) (hlength : fs.length ≤ 6) :
    0 ≤ ((Nat.ofDigitChars 10 fs 0 : ℕ) : ℤ) * 10 ^ (6 - fs.length) ∧
      ((Nat.ofDigitChars 10 fs 0 : ℕ) : ℤ) * 10 ^ (6 - fs.length) ≤ 999999 := by
  have hlt := ofDigitChars_lt hdigits 0
  have hpos : 0 < 10 ^ (6 - fs.length) := by positivity
  have hmul : Nat.ofDigitChars 10 fs 0 * 10 ^ (6 - fs.length) < 10 ^ 6 := by
    calc Nat.ofDigitChars 10 fs 0 * 10 ^ (6 - fs.length)
        < (0 + 1) * 10 ^ fs.length * 10 ^ (6 - fs.length) := Nat.mul_lt_mul_of_pos_right hlt hpos
      _ = 10 ^ 6 := by
        rw [Nat.zero_add, Nat.one_mul, ← Nat.pow_add, Nat.add_sub_cancel' hlength]
  refine ⟨by positivity, ?_⟩
  have hcast : ((Nat.ofDigitChars 10 fs 0 : ℕ) : ℤ) * 10 ^ (6 - fs.length) =
      ((Nat.ofDigitChars 10 fs 0 * 10 ^ (6 - fs.length) : ℕ) : ℤ) := by push_cast; rfl
  rw [hcast]
  omega

section

variable {hh mm ss micros : ℤ} {fraction : Text}

theorem Fraction.valid (h : Fraction fraction micros) (htime : dbIsValidTime hh mm ss = true) :
    dbIsValidTime hh mm ss micros = true := by
  obtain ⟨hhh, hmm, hss, -⟩ := dbIsValidTime_iff.mp htime
  cases h with
  | none => exact htime
  | digits hdigits hlength =>
    exact dbIsValidTime_iff.mpr ⟨hhh, hmm, hss, fraction_micros hdigits hlength.2⟩

theorem time_read_back (htime : dbIsValidTime hh mm ss = true) (h : Fraction fraction micros) :
    TDBTime.setFromString (timeText hh mm ss fraction) = TDBTime.set hh mm ss micros := by
  cases h with
  | none => exact time_setFromString htime
  | digits hdigits hlength =>
    have hdenotes := denotes_digits hdigits (List.length_pos_iff.mp hlength.1) hlength.2
    exact time_setFromString_fraction htime hdenotes hlength.2

theorem dateTime_read_back {ys : Text} {y m d : ℤ} (hys : Denotes ys y)
    (hdate : dbIsValidDate y m d = true) (htime : dbIsValidTime hh mm ss = true)
    (h : Fraction fraction micros) :
    TDBDateTime.setFromString (dateText ys m d (' ' :: timeText hh mm ss fraction)) =
      TDBDateTime.set y m d hh mm ss micros := by
  have hvalid := h.valid htime
  cases h with
  | none => exact dateTime_setFromString hys hdate htime
  | digits hdigits hlength =>
    have hdenotes := denotes_digits hdigits (List.length_pos_iff.mp hlength.1) hlength.2
    exact dateTime_setFromString_fraction hys hdate hvalid hdenotes hlength.2

/-- Neither format of a time ends where a zone begins. -/
theorem zone_unread (h : Fraction fraction micros) (zone : Zone) (fields : DateFields) :
    (strptimeLoop false (formatText fractionItems) (fraction ++ zone.text) fields).1 = false ∧
      (strptimeLoop false (formatText []) (fraction ++ zone.text) fields).1 = false := by
  have hsign : ∀ rest, ((if zone.east then '+' else '-') :: rest).dropWhile isspace ≠ [] := by
    intro rest
    cases zone.east <;> exact List.cons_ne_nil _ _
  cases h with
  | none =>
    refine ⟨?_, ?_⟩
    · rw [List.nil_append, fractionItems, literal, loop_literal, Zone.text]
      cases zone.east <;> rfl
    · exact decide_eq_false (hsign _)
  | digits hdigits hlength =>
    have hdenotes := denotes_digits hdigits (List.length_pos_iff.mp hlength.1) hlength.2
    refine ⟨?_, rfl⟩
    rw [List.cons_append, fraction_reads hdenotes hlength.2]
    · exact decide_eq_false (hsign _)
    · rw [Zone.text]
      cases zone.east <;> rfl

theorem zone_head (h : Fraction fraction micros) (zone : Zone) :
    (fraction ++ zone.text).head?.any isdigit = false ∧
      (fraction ++ zone.text).head?.any isspace = false := by
  cases h with
  | none =>
    rw [List.nil_append, Zone.text]
    cases zone.east <;> exact ⟨rfl, rfl⟩
  | digits => exact ⟨rfl, rfl⟩

theorem time_with_zone (htime : dbIsValidTime hh mm ss = true) (h : Fraction fraction micros)
    (zone : Zone) : TDBTime.setFromString (timeText hh mm ss (fraction ++ zone.text)) = none := by
  obtain ⟨hdigit, hspace⟩ := zone_head h zone
  have hword {items : List Item} : (fraction ++ zone.text).head?.any isspace = true →
      items.head?.all Item.isSpace = true := fun hblank => absurd (hspace.symm.trans hblank) (by decide)
  have hread (items : List Item) := @timeText_read hh mm ss items _ htime hdigit hword
  have hdate := hread []
  rw [List.append_nil] at hdate
  unfold TDBTime.setFromString dbStrptime
  rw [timeFractionFormat_eq, timeFormat_eq]
  dsimp only
  rw [hread, hdate, if_neg, if_neg]
  · rw [(zone_unread h zone _).2]
    decide
  · rw [(zone_unread h zone _).1]
    decide

theorem dateTime_with_zone {ys : Text} {y m d : ℤ} (hys : Denotes ys y)
    (hdate : dbIsValidDate y m d = true) (htime : dbIsValidTime hh mm ss = true)
    (h : Fraction fraction micros) (zone : Zone) :
    TDBDateTime.setFromString
      (dateText ys m d (' ' :: timeText hh mm ss (fraction ++ zone.text))) = none := by
  obtain ⟨hdigit, hspace⟩ := zone_head h zone
  have hword {items : List Item} : (fraction ++ zone.text).head?.any isspace = true →
      items.head?.all Item.isSpace = true := fun hblank => absurd (hspace.symm.trans hblank) (by decide)
  have hread (items : List Item) :=
    @dateTimeText_read ys y m d hh mm ss items _ hys (monthDay_of_valid hdate) htime hdigit hword
  have hplain := hread []
  rw [List.append_nil] at hplain
  unfold TDBDateTime.setFromString dbStrptime
  rw [dateTimeFractionFormat_eq, dateTimeFormat_eq]
  dsimp only
  rw [hread, hplain, if_neg, if_neg]
  · simp [(zone_unread h zone _).2]
  · simp [(zone_unread h zone _).1]

end

theorem denotes_four {y m d : ℤ} (hy : y ≤ 9999) (hdate : dbIsValidDate y m d = true) :
    Denotes (padded 4 y) y := by
  have hy1 := (dbIsValidDate_iff.mp hdate).1
  exact denotes_padded _ ⟨by omega, by omega⟩

section

variable (pq : Libpq) (rt : Runtime)

theorem date_kept {y m d : ℤ} (hy : y ≤ 9999) (hdate : dbIsValidDate y m d = true) :
    ∃ text, columnValue pq rt DBTYPE_DATE DATEOID (dateText (padded 4 y) m d []) =
      some ⟨.temporal .date ⟨y, m, d, 0, 0, 0, 0⟩ text, false⟩ := by
  have hy1 := (dbIsValidDate_iff.mp hdate).1
  obtain ⟨v, hset⟩ := date_set (by omega) hdate
  obtain ⟨text, htext⟩ := @dateValue_eq rt.strftime ⟨false, v, y, m, d⟩ ⟨hy1, by dsimp only; omega⟩
  rw [columnValue_date, date_setFromString (denotes_four hy hdate) hdate, hset]
  exact ⟨text, htext⟩

variable {hh mm ss micros : ℤ} {fraction : Text}

theorem time_kept (htime : dbIsValidTime hh mm ss = true) (h : Fraction fraction micros) :
    ∃ text, columnValue pq rt DBTYPE_TIME TIMEOID (timeText hh mm ss fraction) =
      some ⟨.temporal .time ⟨1900, 1, 1, hh, mm, ss, micros⟩ text, false⟩ := by
  obtain ⟨v, hset⟩ := time_set (h.valid htime)
  obtain ⟨text, htext⟩ := timeValue_eq rt.strftime ⟨false, v, micros, hh, mm, ss⟩
  rw [columnValue_time, time_read_back htime h, hset]
  exact ⟨text, htext⟩

theorem timestamp_kept {y m d : ℤ} (hy : y ≤ 9999) (hdate : dbIsValidDate y m d = true)
    (htime : dbIsValidTime hh mm ss = true) (h : Fraction fraction micros) :
    ∃ text, columnValue pq rt DBTYPE_DATETIME TIMESTAMPOID
        (dateText (padded 4 y) m d (' ' :: timeText hh mm ss fraction)) =
      some ⟨.temporal .dateTime ⟨y, m, d, hh, mm, ss, micros⟩ text, false⟩ := by
  have hy1 := (dbIsValidDate_iff.mp hdate).1
  obtain ⟨v, hset⟩ := dateTime_set (by omega) hdate (h.valid htime)
  obtain ⟨text, htext⟩ := @dateTimeValue_eq rt.strftime ⟨false, v, micros, y, m, d, hh, mm, ss⟩
    ⟨hy1, by dsimp only; omega⟩
  rw [columnValue_dateTime, dateTime_read_back (denotes_four hy hdate) hdate htime h,
    hset]
  exact ⟨text, htext⟩

/-- The value of a cell, which has the printed parts unless the text ends in a zone. -/
theorem columnValue_printed_iff {dtype : ℕ} {parts : DateFields} {text : Text}
    (h : Printed dtype parts text) :
    (∃ kind printed, columnValue pq rt (dbTypeFromNative dtype) dtype text =
      some ⟨.temporal kind parts printed, false⟩) ↔
        dtype ≠ TIMETZOID ∧ dtype ≠ TIMESTAMPTZOID := by
  cases h with
  | date hy hdate => exact iff_of_true ⟨_, date_kept pq rt hy hdate⟩ ⟨by decide, by decide⟩
  | time htime hfraction =>
    exact iff_of_true ⟨_, time_kept pq rt htime hfraction⟩ ⟨by decide, by decide⟩
  | timestamp hy hdate htime hfraction =>
    exact iff_of_true ⟨_, timestamp_kept pq rt hy hdate htime hfraction⟩ ⟨by decide, by decide⟩
  | timeWithZone htime hfraction zone =>
    refine iff_of_false ?_ fun hne => hne.1 rfl
    rintro ⟨kind, printed, hvalue⟩
    have hnull := time_with_zone htime hfraction zone
    change columnValue pq rt DBTYPE_TIME TIMETZOID _ = _ at hvalue
    rw [columnValue_time, hnull] at hvalue
    cases hvalue
  | timestampWithZone hy hdate htime hfraction zone =>
    refine iff_of_false ?_ fun hne => hne.2 rfl
    rintro ⟨kind, printed, hvalue⟩
    have hnull := dateTime_with_zone (denotes_four hy hdate) hdate htime hfraction zone
    change columnValue pq rt DBTYPE_DATETIME TIMESTAMPTZOID _ = _ at hvalue
    rw [columnValue_dateTime, hnull] at hvalue
    cases hvalue

/-- The value of a column is an object that is not null and has these parts. -/
def Kept (rs : TPostgreSQLResultSet) (i : ℕ) (parts : DateFields) : Prop :=
  ∃ kind printed, rs.values[i]? = some (some ⟨.temporal kind parts printed, false⟩)

/-- In every row of every result, the printed dates and times are kept exactly where their
column has no zone. -/
theorem temporal_columns_kept_iff {q q' : Query} (hq : q.Reached (driver pq rt))
    (h : q.nextRow (driver pq rt) = (true, q')) :
    ∃ rs tuples, q'.resultSet = some rs ∧ Fetched pq rt rs tuples ∧
      ∀ i column text parts, tuples.columns[i]? = some column →
        (PGresult.tuplesOk tuples).cell rs.index.toNat i = some text →
        Printed column.ftype parts text →
        (Kept rs i parts ↔ column.ftype ≠ TIMETZOID ∧ column.ftype ≠ TIMESTAMPTZOID) := by
  obtain ⟨rs, tuples, hrs, hfetched⟩ := fetched_of_nextRow pq rt hq h
  refine ⟨rs, tuples, hrs, hfetched, fun i column text parts hcolumn hcell hprinted => ?_⟩
  rw [← columnValue_printed_iff pq rt hprinted, Kept, hfetched.value i column text hcolumn hcell]
  simp only [Option.some.injEq]

end

def noon : Text := "2024-01-02 12:00:00+00".toList

theorem noon_printed : Printed TIMESTAMPTZOID ⟨2024, 1, 2, 12, 0, 0, 0⟩ noon := by
  have hnoon : noon = dateText (padded 4 2024) 1 2
      (' ' :: timeText 12 0 0 ([] ++ Zone.text ⟨true, 0, none⟩)) := by decide
  rw [hnoon]
  exact .timestampWithZone (by decide) (by decide) (by decide) .none _

/-- The row has no value for a time stamp with a zone. -/
theorem zone_loses_timestamp :
    Printed TIMESTAMPTZOID ⟨2024, 1, 2, 12, 0, 0, 0⟩ noon ∧
    ∃ rs, ((executed TIMESTAMPTZOID noon).nextRow
        (driver (oneCell TIMESTAMPTZOID noon) words)).1 = true ∧
      ((executed TIMESTAMPTZOID noon).nextRow
        (driver (oneCell TIMESTAMPTZOID noon) words)).2.resultSet = some rs ∧
      rs.record.fields = [⟨"value".toList, DBTYPE_DATETIME⟩] ∧ rs.values = [none] ∧
      ¬ Kept rs 0 ⟨2024, 1, 2, 12, 0, 0, 0⟩ := by
  have hvalues : (((executed TIMESTAMPTZOID noon).nextRow
      (driver (oneCell TIMESTAMPTZOID noon) words)).2.resultSet.map (·.values)) = some [none] := by
    decide +kernel
  obtain ⟨rs, hrs, hnone⟩ := Option.map_eq_some_iff.mp hvalues
  refine ⟨noon_printed, rs, rfl, hrs, ?_, hnone, ?_⟩
  · have hfields : (((executed TIMESTAMPTZOID noon).nextRow
        (driver (oneCell TIMESTAMPTZOID noon) words)).2.resultSet.map (·.record.fields)) =
          some [⟨"value".toList, DBTYPE_DATETIME⟩] := by decide +kernel
    rw [hrs] at hfields
    exact Option.some.inj hfields
  · rintro ⟨kind, printed, hvalue⟩
    rw [hnone] at hvalue
    cases hvalue

theorem temporal_columns_kept_iff_date :
    ∃ q', (executed DATEOID "2024-02-29".toList).nextRow
        (driver (oneCell DATEOID "2024-02-29".toList) words) = (true, q') ∧
      ∃ rs tuples, q'.resultSet = some rs ∧
        Fetched (oneCell DATEOID "2024-02-29".toList) words rs tuples ∧
        ∀ i column text parts, tuples.columns[i]? = some column →
          (PGresult.tuplesOk tuples).cell rs.index.toNat i = some text →
          Printed column.ftype parts text →
          (Kept rs i parts ↔ column.ftype ≠ TIMETZOID ∧ column.ftype ≠ TIMESTAMPTZOID) :=
  ⟨_, rfl, temporal_columns_kept_iff (oneCell DATEOID "2024-02-29".toList) words
    (executed_reached DATEOID "2024-02-29".toList) rfl⟩

end DatabaseMod.PostgresTemporal
