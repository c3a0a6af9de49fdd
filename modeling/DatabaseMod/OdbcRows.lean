import DatabaseMod.OdbcTexts
import DatabaseMod.ParameterReferences

/-!
# Rows of the ODBC driver

The helpers that fetch one column of a row, each with the structure and the C type it asks
for, and what the value of a column is after each row of a result.
-/

namespace DatabaseMod.OdbcRows
open MachineInteger CoreStrptime CoreTemporal CoreFormat
open SqlTokens (Text)
open CoreValues CoreResultSet OdbcDriver OdbcTexts
open CoreDateParser (DateFields)
open CoreDateTypes (TDBDateTime)
open PostgresDriver (dateValue dateTimeValue timeValue dateValue_eq dateTimeValue_eq timeValue_eq)
open ParameterReferences (Datum denoted visible meaning meaning_of_null meaning_of_not_null)

/-! ### Structures of the helpers -/

structure DateStruct where
  year : Int16
  month : UInt16
  day : UInt16
deriving DecidableEq

structure TimeStruct where
  hour : UInt16
  minute : UInt16
  second : UInt16
deriving DecidableEq

structure TimestampStruct where
  year : Int16
  month : UInt16
  day : UInt16
  hour : UInt16
  minute : UInt16
  second : UInt16
  fraction : UInt32
deriving DecidableEq

/-- The words that `SQLGetData` writes for `SQL_C_TYPE_DATE`. -/
def DateStruct.words (date : DateStruct) : List UInt16 :=
  [date.year.toUInt16, date.month, date.day]

def DateStruct.ofWords (words : List UInt16) : DateStruct :=
  ⟨(words.getD 0 0).toInt16, words.getD 1 0, words.getD 2 0⟩

def TimeStruct.ofWords (words : List UInt16) : TimeStruct :=
  ⟨words.getD 0 0, words.getD 1 0, words.getD 2 0⟩

/-- The words that `SQLGetData` writes for `SQL_C_TYPE_TIMESTAMP`. -/
def TimestampStruct.words (t : TimestampStruct) : List UInt16 :=
  [t.year.toUInt16, t.month, t.day, t.hour, t.minute, t.second, t.fraction.toUInt16,
    (t.fraction >>> 16).toUInt16]

def TimestampStruct.ofWords (words : List UInt16) : TimestampStruct :=
  ⟨(words.getD 0 0).toInt16, words.getD 1 0, words.getD 2 0, words.getD 3 0, words.getD 4 0,
    words.getD 5 0, (words.getD 6 0).toUInt32 ||| (words.getD 7 0).toUInt32 <<< 16⟩

/-! ### Helpers -/

def SQL_ERROR : ℤ := -1

/-- What a call of `SQLGetData` answers and leaves behind its pointer. -/
structure Answer (α : Type) where
  result : ℤ
  indicator : ℤ
  data : α

/-- The data that `nextRow` goes on with. -/
def Answer.get {α : Type} (answer : Answer α) : Option α :=
  if isSQLError answer.result ∨ answer.indicator = SQL_NULL_DATA then none else some answer.data

/-- A number that the C type cannot hold is an error. -/
def getDataInteger (fits : ℤ → Bool) (size : ℤ) : Option ℤ → Answer ℤ
  | none => ⟨SQL_SUCCESS, SQL_NULL_DATA, 0⟩
  | some value => if fits value then ⟨SQL_SUCCESS, size, value⟩ else ⟨SQL_ERROR, 0, 0⟩

def getDataInt : Option ℤ → Answer ℤ := getDataInteger (fun n => decide (InInt32 n)) 4

def getDataLong : Option ℤ → Answer ℤ := getDataInteger (fun n => decide (InInt64 n)) 8

def getDataWords (words : Option (List UInt16)) : Answer (List UInt16) :=
  words.elim ⟨SQL_SUCCESS, SQL_NULL_DATA, []⟩ fun w => ⟨SQL_SUCCESS, 2 * w.length, w⟩

def Answer.map {α β : Type} (f : α → β) (answer : Answer α) : Answer β :=
  ⟨answer.result, answer.indicator, f answer.data⟩

/-- `bmx_odbc_SQLGetData_date` with the cell as the C type it asks for. -/
def getDataDate (cell : Option DateStruct) : Answer DateFields :=
  (getDataWords (cell.map (·.words))).map fun words =>
    let date := DateStruct.ofWords words
    ⟨date.year.toInt, date.month.toNat, date.day.toNat, 0, 0, 0, 0⟩

/-- `bmx_odbc_SQLGetData_time` reads a timestamp through the structure of a time. -/
def getDataTime (cell : Option TimestampStruct) : Answer DateFields :=
  (getDataWords (cell.map (·.words))).map fun words =>
    let time := TimeStruct.ofWords words
    ⟨0, 0, 0, time.hour.toNat, time.minute.toNat, time.second.toNat, 0⟩

def getDataDatetime (cell : Option TimestampStruct) : Answer DateFields :=
  (getDataWords (cell.map (·.words))).map fun words =>
    let t := TimestampStruct.ofWords words
    ⟨t.year.toInt, t.month.toNat, t.day.toNat, t.hour.toNat, t.minute.toNat, t.second.toNat, 0⟩

/-! ### Cells and columns -/

/-- The cells of a row, by the kind of their column; `none` is NULL. -/
structure Row where
  integer : ℕ → Option ℤ
  date : ℕ → Option DateStruct
  time : ℕ → Option TimeStruct
  timestamp : ℕ → Option TimestampStruct
  text : ℕ → Option Text

inductive Cell
  | int (cell : Option ℤ)
  | long (cell : Option ℤ)
  | date (cell : Option DateStruct)
  | time (cell : Option TimeStruct)
  | dateTime (cell : Option TimestampStruct)
  | text (cell : Option Text)
  /-- A number with a point, or a blob. -/
  | other

def Row.cell (row : Row) (dataType : ℤ) (i : ℕ) : Cell :=
  let fType := dbTypeFromNative dataType
  if fType = DBTYPE_INT then .int (row.integer i)
  else if fType = DBTYPE_LONG then .long (row.integer i)
  else if fType = DBTYPE_DATE then .date (row.date i)
  else if fType = DBTYPE_TIME then .time (row.time i)
  else if fType = DBTYPE_DATETIME then .dateTime (row.timestamp i)
  else if fType = DBTYPE_STRING then .text (row.text i)
  else .other

/-- The driver manager of one executed statement, with the answers of its calls, its rows and
the date of today. -/
structure Source where
  base : Odbc
  columns : List Column
  row : List Call → Row
  today : List Call → DateStruct

namespace Source

variable (src : Source)

/-- A time as a timestamp has the current date. -/
def timestampOf (today : DateStruct) (time : TimeStruct) : TimestampStruct :=
  ⟨today.year, today.month, today.day, time.hour, time.minute, time.second, 0⟩

/-- The helper that `nextRow` calls for a column of dates or times. -/
def parts (log : List Call) (i : ℕ) : Answer DateFields :=
  let fType := (src.columns[i]?).elim 0 fun column => dbTypeFromNative column.dataType
  if fType = DBTYPE_DATE then getDataDate ((src.row log).date i)
  else if fType = DBTYPE_TIME then
    getDataTime (((src.row log).time i).map (timestampOf (src.today log)))
  else getDataDatetime ((src.row log).timestamp i)

def odbc : Odbc :=
  { src.base with
    columns := fun _ => src.columns
    int := fun log i => (getDataInt ((src.row log).integer i)).get
    long := fun log i => (getDataLong ((src.row log).integer i)).get
    parts := fun log i => (src.parts log i).get
    chars := fun log i => ((src.row log).text i).map encode }

end Source

/-! ### What a column holds -/

/-- A value of a row; a Null reference and a null object say the same. -/
def shown (v : Option TDBType) : Datum := v.elim .null meaning

/-- The value is null exactly where the cell is, and otherwise denotes the cell. -/
def Reads {α : Type} (denotes : α → Datum → Prop) (cell : Option α) (d : Datum) : Prop :=
  cell.elim (d = .null) fun c => denotes c d

def Cell.Holds : Cell → Datum → Prop
  | .int cell | .long cell => Reads (fun n d => d = .integer n) cell
  | .date cell => Reads (fun t d =>
      d = .temporal .date ⟨t.year.toInt, t.month.toNat, t.day.toNat, 0, 0, 0, 0⟩) cell
  | .time cell => Reads (fun t d =>
      d = .temporal .time ⟨0, 0, 0, t.hour.toNat, t.minute.toNat, t.second.toNat, 0⟩) cell
  | .dateTime cell => Reads (fun t d => ∃ micros : ℤ, d = .temporal .dateTime
      ⟨t.year.toInt, t.month.toNat, t.day.toNat, t.hour.toNat, t.minute.toNat, t.second.toNat,
        micros⟩ ∧ 1000 * micros = t.fraction.toNat) cell
  | .text cell => Reads (fun s d => d = .text s) cell
  | .other => fun _ => True

/-- The number fits, the date and the time are ones of the calendar and the clock without a
fraction, the text is not empty and fits the buffer. A time has to look like the date. -/
def Cell.Readable (today : DateStruct) (length : ℤ) : Cell → Prop
  | .int cell => ∀ n ∈ cell, InInt32 n
  | .long cell => ∀ n ∈ cell, InInt64 n
  | .date cell => ∀ t ∈ cell, dbIsValidDate t.year.toInt t.month.toNat t.day.toNat = true
  | .time cell => ∀ t ∈ cell, dbIsValidTime t.hour.toNat t.minute.toNat t.second.toNat 0 = true ∧
      t = ⟨today.year.toUInt16, today.month, today.day⟩
  | .dateTime cell => ∀ t ∈ cell, dbIsValidDate t.year.toInt t.month.toNat t.day.toNat = true ∧
      dbIsValidTime t.hour.toNat t.minute.toNat t.second.toNat 0 = true ∧ t.fraction = 0
  | .text cell => ∀ s ∈ cell, s ≠ [] ∧ (encode s).length < bufferSize length
  | .other => True

theorem reads_iff {α : Type} {denotes : α → Datum → Prop} {cell : Option α}
    {d : Option α → Datum} {ok : α → Prop} (hnone : d none = .null)
    (hsome : ∀ c, denotes c (d (some c)) ↔ ok c) :
    Reads denotes cell (d cell) ↔ ∀ c ∈ cell, ok c := by
  cases cell with
  | none => exact iff_of_true hnone (by simp)
  | some c => simpa [Reads] using hsome c

theorem shown_date (c : Strftime) {y m d : ℤ} (hy : y ≤ 2147483647) :
    shown ((TDBDate.set y m d).bind (dateValue c)) =
      if dbIsValidDate y m d = true then .temporal .date ⟨y, m, d, 0, 0, 0, 0⟩ else .null := by
  by_cases hdate : dbIsValidDate y m d = true
  · obtain ⟨v, hset⟩ := date_set hy hdate
    obtain ⟨text, hvalue⟩ := dateValue_eq c (date_set_year hset)
    rw [hset, Option.bind_some, hvalue, if_pos hdate]
    rfl
  · have hset : TDBDate.set y m d = some (TDBDate.clear {}) := by
      unfold TDBDate.set TDBDate.setFromParts
      rw [if_pos (by simpa using hdate)]
    obtain ⟨text, hvalue⟩ := dateValue_eq c (date_set_year hset)
    rw [hset, Option.bind_some, hvalue, if_neg hdate]
    rfl

theorem shown_time (c : Strftime) (hh mm ss : ℤ) :
    shown ((TDBTime.set hh mm ss 0).bind (timeValue c)) =
      if dbIsValidTime hh mm ss 0 = true then .temporal .time ⟨0, 0, 0, hh, mm, ss, 0⟩
      else .null := by
  by_cases htime : dbIsValidTime hh mm ss 0 = true
  · obtain ⟨v, hset⟩ := time_set htime
    obtain ⟨text, hvalue⟩ := timeValue_eq c ⟨false, v, 0, hh, mm, ss⟩
    rw [hset, Option.bind_some, hvalue, if_pos htime]
    rfl
  · have hset : TDBTime.set hh mm ss 0 = some (TDBTime.clear {}) := by
      unfold TDBTime.set TDBTime.setFromParts
      rw [if_pos (by simpa using htime)]
    obtain ⟨text, hvalue⟩ := timeValue_eq c (TDBTime.clear {})
    rw [hset, Option.bind_some, hvalue, if_neg htime]
    rfl

theorem shown_dateTime (c : Strftime) {y m d hh mm ss : ℤ} (hy : y ≤ 2147483647) :
    shown ((TDBDateTime.set y m d hh mm ss 0).bind (dateTimeValue c)) =
      if dbIsValidDate y m d = true ∧ dbIsValidTime hh mm ss 0 = true then
        .temporal .dateTime ⟨y, m, d, hh, mm, ss, 0⟩
      else .null := by
  by_cases hvalid : dbIsValidDate y m d = true ∧ dbIsValidTime hh mm ss 0 = true
  · obtain ⟨v, hset⟩ := dateTime_set hy hvalid.1 hvalid.2
    obtain ⟨text, hvalue⟩ := dateTimeValue_eq c (dateTime_set_year hset)
    rw [hset, Option.bind_some, hvalue, if_pos hvalid]
    rfl
  · have hrefused : dbIsValidDate y m d = false ∨ dbIsValidTime hh mm ss 0 = false :=
      (not_and_or.mp hvalid).imp Bool.eq_false_of_not_eq_true Bool.eq_false_of_not_eq_true
    have hset : TDBDateTime.set y m d hh mm ss 0 = some (TDBDateTime.clear {}) := by
      unfold TDBDateTime.set TDBDateTime.setFromParts
      rw [if_pos hrefused]
    obtain ⟨text, hvalue⟩ := dateTimeValue_eq c (dateTime_set_year hset)
    rw [hset, Option.bind_some, hvalue, if_neg hvalid]
    rfl

theorem dbTypeFromNative_cases (type : ℤ) :
    dbTypeFromNative type = DBTYPE_INT ∨ dbTypeFromNative type = DBTYPE_LONG ∨
      dbTypeFromNative type = DBTYPE_DOUBLE ∨ dbTypeFromNative type = DBTYPE_DATE ∨
      dbTypeFromNative type = DBTYPE_TIME ∨ dbTypeFromNative type = DBTYPE_DATETIME ∨
      dbTypeFromNative type = DBTYPE_BLOB ∨ dbTypeFromNative type = DBTYPE_STRING := by
  unfold dbTypeFromNative
  split_ifs <;> simp

/-! ### One column -/

section

variable (src : Source) (strftime : Strftime)

theorem integer_iff {fits : ℤ → Bool} {size : ℤ} {make : ℤ → TDBType}
    (hmake : ∀ n, meaning (make n) = .integer n) (hsize : size ≠ SQL_NULL_DATA)
    (cell : Option ℤ) :
    Reads (fun n d => d = .integer n) cell (shown ((getDataInteger fits size cell).get.map make)) ↔
      ∀ n ∈ cell, fits n = true := by
  refine @reads_iff ℤ _ cell (fun cell => shown ((getDataInteger fits size cell).get.map make))
    (fun n => fits n = true) rfl fun n => ?_
  by_cases hfits : fits n = true
  · have hget : (getDataInteger fits size (some n)).get = some n := by
      rw [getDataInteger, if_pos hfits]
      exact if_neg (by simp [isSQLError, hsize])
    rw [hget]
    exact iff_of_true (hmake n) hfits
  · have hget : (getDataInteger fits size (some n)).get = none := by
      rw [getDataInteger, if_neg hfits]
      rfl
    rw [hget]
    exact iff_of_false (fun h => by cases h) hfits

theorem int_iff (cell : Option ℤ) :
    (Cell.int cell).Holds (shown ((getDataInt cell).get.map .setInt)) ↔
      ∀ n ∈ cell, InInt32 n := by
  have h := @integer_iff (fun n => decide (InInt32 n)) 4 .setInt (fun _ => rfl) (by decide) cell
  exact h.trans (by simp)

theorem long_iff (cell : Option ℤ) :
    (Cell.long cell).Holds (shown ((getDataLong cell).get.map .setLong)) ↔
      ∀ n ∈ cell, InInt64 n := by
  have h := @integer_iff (fun n => decide (InInt64 n)) 8 .setLong (fun _ => rfl) (by decide) cell
  exact h.trans (by simp)

theorem getDataWords_get {words : List UInt16} (f : List UInt16 → DateFields) :
    ((getDataWords (some words)).map f).get = some (f words) := by
  have hsize : ((2 * words.length : ℕ) : ℤ) ≠ SQL_NULL_DATA := by
    unfold SQL_NULL_DATA
    omega
  refine if_neg ?_
  simp only [Answer.map, getDataWords, Option.elim_some, isSQLError, not_or]
  exact ⟨by decide, by exact_mod_cast hsize⟩

theorem year_le (year : Int16) : year.toInt ≤ 2147483647 := by
  have hle := year.toInt_le
  have hmax : Int16.maxValue.toInt = 32767 := rfl
  omega

theorem date_iff (cell : Option DateStruct) :
    (Cell.date cell).Holds (shown ((getDataDate cell).get.bind fun p =>
      (TDBDate.set p.y p.m p.d).bind (dateValue strftime))) ↔
    ∀ t ∈ cell, dbIsValidDate t.year.toInt t.month.toNat t.day.toNat = true := by
  unfold Cell.Holds
  dsimp only
  refine @reads_iff DateStruct _ cell (fun cell => shown ((getDataDate cell).get.bind fun p =>
    (TDBDate.set p.y p.m p.d).bind (dateValue strftime))) _ rfl fun t => ?_
  have hget : (getDataDate (some t)).get =
    some ⟨t.year.toInt, t.month.toNat, t.day.toNat, 0, 0, 0, 0⟩ := getDataWords_get _
  rw [hget, Option.bind_some, shown_date strftime (year_le t.year)]
  split_ifs with hvalid
  · exact iff_of_true rfl hvalid
  · exact iff_of_false (fun h => by cases h) hvalid

theorem dateTime_iff (cell : Option TimestampStruct) :
    (Cell.dateTime cell).Holds (shown ((getDataDatetime cell).get.bind fun p =>
      (TDBDateTime.set p.y p.m p.d p.hh p.mm p.ss 0).bind (dateTimeValue strftime))) ↔
    ∀ t ∈ cell, dbIsValidDate t.year.toInt t.month.toNat t.day.toNat = true ∧
      dbIsValidTime t.hour.toNat t.minute.toNat t.second.toNat 0 = true ∧ t.fraction = 0 := by
  unfold Cell.Holds
  dsimp only
  refine @reads_iff TimestampStruct _ cell (fun cell =>
    shown ((getDataDatetime cell).get.bind fun p =>
      (TDBDateTime.set p.y p.m p.d p.hh p.mm p.ss 0).bind (dateTimeValue strftime))) _ rfl
    fun t => ?_
  have hget : (getDataDatetime (some t)).get = some ⟨t.year.toInt, t.month.toNat, t.day.toNat,
    t.hour.toNat, t.minute.toNat, t.second.toNat, 0⟩ := getDataWords_get _
  rw [hget, Option.bind_some, shown_dateTime strftime (year_le t.year)]
  split_ifs with hvalid
  · constructor
    · rintro ⟨micros, hdatum, hfraction⟩
      cases hdatum
      refine ⟨hvalid.1, hvalid.2, UInt32.toNat_inj.mp ?_⟩
      exact_mod_cast hfraction.symm
    · rintro ⟨-, -, hfraction⟩
      exact ⟨0, rfl, by rw [hfraction]; rfl⟩
  · refine iff_of_false ?_ fun h => hvalid ⟨h.1, h.2.1⟩
    rintro ⟨micros, hdatum, -⟩
    cases hdatum

theorem time_iff (today : DateStruct) (cell : Option TimeStruct) :
    (Cell.time cell).Holds (shown ((getDataTime (cell.map (Source.timestampOf today))).get.bind
      fun p => (TDBTime.set p.hh p.mm p.ss 0).bind (timeValue strftime))) ↔
    ∀ t ∈ cell, dbIsValidTime t.hour.toNat t.minute.toNat t.second.toNat 0 = true ∧
      t = ⟨today.year.toUInt16, today.month, today.day⟩ := by
  unfold Cell.Holds
  dsimp only
  refine @reads_iff TimeStruct _ cell (fun cell => shown ((getDataTime
    (cell.map (Source.timestampOf today))).get.bind fun p =>
      (TDBTime.set p.hh p.mm p.ss 0).bind (timeValue strftime))) _ rfl fun t => ?_
  have hget : (getDataTime (some (Source.timestampOf today t))).get = some ⟨0, 0, 0,
    today.year.toUInt16.toNat, today.month.toNat, today.day.toNat, 0⟩ := getDataWords_get _
  rw [Option.map_some, hget, Option.bind_some, shown_time]
  obtain ⟨hour, minute, second⟩ := t
  simp only [TimeStruct.mk.injEq]
  split_ifs with hvalid
  · constructor
    · intro hdatum
      simp only [Datum.temporal.injEq, DateFields.mk.injEq, true_and, and_true] at hdatum
      obtain ⟨hhour, hminute, hsecond⟩ := hdatum
      have hsame : hour = today.year.toUInt16 ∧ minute = today.month ∧ second = today.day :=
        ⟨UInt16.toNat_inj.mp (by exact_mod_cast hhour.symm),
          UInt16.toNat_inj.mp (by exact_mod_cast hminute.symm),
          UInt16.toNat_inj.mp (by exact_mod_cast hsecond.symm)⟩
      obtain ⟨rfl, rfl, rfl⟩ := hsame
      exact ⟨hvalid, rfl, rfl, rfl⟩
    · rintro ⟨-, rfl, rfl, rfl⟩
      rfl
  · refine iff_of_false (fun h => by cases h) ?_
    rintro ⟨htime, rfl, rfl, rfl⟩
    exact hvalid htime

theorem text_iff (length : ℤ) (cell : Option Text) :
    (∀ decoder : Decoder, (Cell.text cell).Holds (shown ((cell.map encode).bind fun content =>
      let s := getStringData decoder.decode length content
      if s = [] then none else some (.setString s)))) ↔
    ∀ s ∈ cell, s ≠ [] ∧ (encode s).length < bufferSize length := by
  cases cell with
  | none => exact iff_of_true (fun _ => rfl) (by simp)
  | some text =>
    have hread (decoder : Decoder) : (Cell.text (some text)).Holds
        (shown (((some text).map encode).bind fun content =>
          let s := getStringData decoder.decode length content
          if s = [] then none else some (.setString s))) ↔
        text ≠ [] ∧ getStringData decoder.decode length (encode text) = text := by
      simp only [Option.map_some, Option.bind_some, Cell.Holds, Reads, Option.elim_some]
      generalize getStringData decoder.decode length (encode text) = s
      split_ifs with hempty
      · subst hempty
        exact iff_of_false (fun h => by cases h) fun h => h.1 h.2.symm
      · constructor
        · intro h
          obtain rfl : s = text := Datum.text.inj h
          exact ⟨hempty, rfl⟩
        · rintro ⟨-, rfl⟩
          rfl
    simp only [hread, Option.mem_some_iff, forall_eq', ← text_read_iff]
    exact ⟨fun h => ⟨(h strict).1, fun decoder => (h decoder).2⟩,
      fun h decoder => ⟨h.1, h.2 decoder⟩⟩

/-- A column of a row after every decoder, for each type that a column can have. -/
theorem column_iff {i : ℕ} {column : Column} (hcolumn : src.columns[i]? = some column)
    (log : List Call) (length : ℤ) :
    (∀ decoder : Decoder, ((src.row log).cell column.dataType i).Holds
      (shown (TODBCResultSet.columnValue src.odbc ⟨strftime, decoder⟩ log i
        (dbTypeFromNative column.dataType) length))) ↔
    ((src.row log).cell column.dataType i).Readable (src.today log) length := by
  have hparts : src.parts log i =
      if dbTypeFromNative column.dataType = DBTYPE_DATE then getDataDate ((src.row log).date i)
      else if dbTypeFromNative column.dataType = DBTYPE_TIME then
        getDataTime (((src.row log).time i).map (Source.timestampOf (src.today log)))
      else getDataDatetime ((src.row log).timestamp i) := by
    rw [Source.parts, hcolumn]
    rfl
  have hdecoders : Nonempty Decoder := ⟨strict⟩
  have htype := dbTypeFromNative_cases column.dataType
  unfold Row.cell TODBCResultSet.columnValue Source.odbc
  dsimp only
  rw [hparts]
  generalize dbTypeFromNative column.dataType = fType at htype ⊢
  rcases htype with rfl | rfl | rfl | rfl | rfl | rfl | rfl | rfl
  · exact (forall_const Decoder).trans (int_iff _)
  · exact (forall_const Decoder).trans (long_iff _)
  · exact iff_of_true (fun _ => trivial) trivial
  · exact (forall_const Decoder).trans (date_iff strftime _)
  · exact (forall_const Decoder).trans (time_iff strftime _ _)
  · exact (forall_const Decoder).trans (dateTime_iff strftime _)
  · exact iff_of_true (fun _ => trivial) trivial
  · exact text_iff length _

end

/-! ### The values of a row -/

def NotBlob (v : TDBType) : Prop := ∀ data, v.content ≠ .blob data

theorem NotBlob.clear {v : TDBType} (h : NotBlob v) : v.clear.isNull = true ∧ NotBlob v.clear := by
  obtain ⟨content, isNull⟩ := v
  cases content with
  | blob data => exact absurd rfl (h data)
  | temporal kind parts text =>
    cases kind <;> exact ⟨rfl, fun data hdata => by cases hdata⟩
  | string | integer | float | double | decimal =>
    exact ⟨rfl, fun data hdata => by cases hdata⟩

theorem shown_or_clear {old : Option TDBType} (h : ∀ v, old = some v → NotBlob v) (v : Option TDBType) :
    shown (v.or (old.map .clear)) = shown v := by
  cases v with
  | some v => rfl
  | none =>
    cases old with
    | none => rfl
    | some w => exact meaning_of_null (h w rfl).clear.1

theorem dateValue_notBlob {c : Strftime} {t : TDBDate} {v : TDBType}
    (h : dateValue c t = some v) : NotBlob v := by
  obtain ⟨text, -, rfl⟩ := Option.map_eq_some_iff.mp h
  exact fun data hdata => by cases hdata

theorem dateTimeValue_notBlob {c : Strftime} {t : TDBDateTime} {v : TDBType}
    (h : dateTimeValue c t = some v) : NotBlob v := by
  obtain ⟨text, -, rfl⟩ := Option.map_eq_some_iff.mp h
  exact fun data hdata => by cases hdata

theorem timeValue_notBlob {c : Strftime} {t : TDBTime} {v : TDBType}
    (h : timeValue c t = some v) : NotBlob v := by
  obtain ⟨text, -, rfl⟩ := Option.map_eq_some_iff.mp h
  exact fun data hdata => by cases hdata

theorem columnValue_notBlob {odbc : Odbc} {rt : Runtime} {log : List Call} {i fType : ℕ}
    {length : ℤ} {v : TDBType}
    (h : TODBCResultSet.columnValue odbc rt log i fType length = some v) : NotBlob v := by
  unfold TODBCResultSet.columnValue at h
  split_ifs at h
  · obtain ⟨n, -, rfl⟩ := Option.map_eq_some_iff.mp h
    exact fun data hdata => by cases hdata
  · obtain ⟨n, -, rfl⟩ := Option.map_eq_some_iff.mp h
    exact fun data hdata => by cases hdata
  · obtain ⟨n, -, rfl⟩ := Option.map_eq_some_iff.mp h
    exact fun data hdata => by cases hdata
  · obtain ⟨p, -, hvalue⟩ := Option.bind_eq_some_iff.mp h
    obtain ⟨t, -, hvalue⟩ := Option.bind_eq_some_iff.mp hvalue
    exact dateValue_notBlob hvalue
  · obtain ⟨p, -, hvalue⟩ := Option.bind_eq_some_iff.mp h
    obtain ⟨t, -, hvalue⟩ := Option.bind_eq_some_iff.mp hvalue
    exact dateTimeValue_notBlob hvalue
  · obtain ⟨p, -, hvalue⟩ := Option.bind_eq_some_iff.mp h
    obtain ⟨t, -, hvalue⟩ := Option.bind_eq_some_iff.mp hvalue
    exact timeValue_notBlob hvalue
  · obtain ⟨content, -, hvalue⟩ := Option.bind_eq_some_iff.mp h
    dsimp only at hvalue
    split_ifs at hvalue
    cases hvalue
    exact fun data hdata => by cases hdata

/-! ### Successive rows -/

/-- The length of a field, which is `-1` where none is declared. -/
def declared (column : Column) : ℤ := if column.columnSize = 0 then -1 else column.columnSize

section

variable (src : Source) (rt : Runtime)

/-- A result set that was described, with the values of some of its rows. -/
structure Described (rs : TODBCResultSet) : Prop where
  types : rs.record.fields.map (·.fType) =
    src.columns.map fun column => dbTypeFromNative column.dataType
  lengths : rs.lengths = src.columns.map declared
  size : rs.values.length = src.columns.length
  notBlob : ∀ (i : ℕ) (v : TDBType), (rs.values[i]?).join = some v → NotBlob v

theorem describeColumns_fields (odbc : Odbc) {i : ℕ} {log : List Call} {columns : List Column}
    (h : (TODBCResultSet.describeColumns odbc i log columns).1 = true) :
    (TODBCResultSet.describeColumns odbc i log columns).2.2 =
      columns.map fun column => ⟨column.name, dbTypeFromNative column.dataType⟩ := by
  induction columns generalizing i log with
  | nil => rfl
  | cons column columns ih =>
    rw [TODBCResultSet.describeColumns] at h ⊢
    dsimp only at h ⊢
    split_ifs at h ⊢ with herror
    rw [ih h]
    rfl

theorem describe_described {s : Session}
    (h : (TODBCResultSet.describe src.odbc s).1 = true) :
    Described src (TODBCResultSet.describe src.odbc s).2.2 := by
  have hnone (n i : ℕ) : ((List.replicate n (none : Option TDBType))[i]?).join = none := by
    rw [List.getElem?_replicate]
    split_ifs <;> rfl
  unfold TODBCResultSet.describe at h ⊢
  dsimp only at h ⊢
  have hcolumns : src.odbc.columns s.1.log = src.columns := rfl
  rw [hcolumns] at h ⊢
  by_cases hempty : src.columns.length = 0
  · rw [if_pos hempty] at h ⊢
    have hnil := List.eq_nil_of_length_eq_zero hempty
    refine ⟨by rw [hnil]; rfl, by rw [hnil]; rfl, List.length_replicate, fun i v hv => ?_⟩
    rw [show ((TQueryResultSet.resetValues _ _).values[i]?).join = none from hnone _ i] at hv
    cases hv
  · rw [if_neg hempty] at h ⊢
    by_cases hall : (TODBCResultSet.describeColumns src.odbc 0 s.1.log src.columns).1 = true
    · rw [if_pos hall]
      have hfields := describeColumns_fields src.odbc hall
      refine ⟨?_, rfl, List.length_replicate, fun i v hv => ?_⟩
      · dsimp only
        rw [hfields, List.length_map, Nat.sub_self]
        simp [Function.comp_def]
      · rw [show ((TQueryResultSet.resetValues _ _).values[i]?).join = none from hnone _ i] at hv
        cases hv
    · rw [if_neg hall] at h
      cases h

theorem fillValues_getElem? {rs : TODBCResultSet} (h : Described src rs) (log : List Call)
    {i : ℕ} {column : Column} (hcolumn : src.columns[i]? = some column) :
    ((TODBCResultSet.fillValues src.odbc rt rs log)[i]?).join =
      (TODBCResultSet.columnValue src.odbc rt log i (dbTypeFromNative column.dataType)
        (declared column)).or (((rs.values[i]?).join).map .clear) := by
  obtain ⟨hlt, hcol⟩ := List.getElem?_eq_some_iff.mp hcolumn
  have htypes := congrArg (·[i]?) h.types
  simp only [List.getElem?_map, hcolumn, Option.map_some] at htypes
  obtain ⟨field, hfield, hftype⟩ := Option.map_eq_some_iff.mp htypes
  have hcount : i < rs.record.count := (List.getElem?_eq_some_iff.mp hfield).1
  have hsize : i < rs.values.length := by
    rw [h.size]
    exact hlt
  obtain ⟨old, hvalue⟩ : ∃ old, rs.values[i]? = some old := ⟨_, List.getElem?_eq_getElem hsize⟩
  have hlength : rs.lengths.getD i (-1) = declared column := by
    rw [List.getD_eq_getElem?_getD, h.lengths, List.getElem?_map, hcolumn]
    rfl
  unfold TODBCResultSet.fillValues
  rw [List.getElem?_mapIdx, hvalue, Option.map_some, if_pos hcount, hfield, hlength]
  simp only [Option.elim_some, hftype, Option.join_some]

theorem fillValues_described {rs : TODBCResultSet} (h : Described src rs) (log : List Call)
    (index : ℤ) :
    Described src { rs with
      values := TODBCResultSet.fillValues src.odbc rt rs log, index := index } := by
  refine ⟨h.types, h.lengths, ?_, fun i v hv => ?_⟩
  · rw [TODBCResultSet.fillValues, List.length_mapIdx]
    exact h.size
  · cases hcolumn : src.columns[i]? with
    | none =>
      have hlong : src.columns.length ≤ i := List.getElem?_eq_none_iff.mp hcolumn
      have hnone : (TODBCResultSet.fillValues src.odbc rt rs log)[i]? = none := by
        rw [List.getElem?_eq_none_iff, TODBCResultSet.fillValues, List.length_mapIdx, h.size]
        exact hlong
      rw [hnone] at hv
      cases hv
    | some column =>
      rw [fillValues_getElem? src rt h log hcolumn] at hv
      rcases Option.or_eq_some_iff.mp hv with hnew | ⟨-, hold⟩
      · exact columnValue_notBlob hnew
      · obtain ⟨w, hw, rfl⟩ := Option.map_eq_some_iff.mp hold
        exact (h.notBlob i w hw).clear.2

/-- The statement after some calls of `nextRow`. -/
def after (s : Session) (k : ℕ) : Session :=
  (fun t => (TODBCResultSet.nextRow src.odbc rt t).2)^[k] s

/-- The calls after the next fetch. -/
def fetched (log : List Call) (k : ℕ) : List Call := log ++ List.replicate (k + 1) .fetchScroll

theorem nextRow_fst (s : Session) : (TODBCResultSet.nextRow src.odbc rt s).1 = true ↔
    s.2.stmtHandle = true ∧ isSQLError (src.base.result (s.1.log ++ [.fetchScroll])) = false := by
  unfold TODBCResultSet.nextRow TDBODBC.call Source.odbc
  dsimp only
  cases s.2.stmtHandle <;> cases isSQLError (src.base.result (s.1.log ++ [.fetchScroll])) <;> simp

theorem nextRow_kept {s : Session} (h : Described src s.2) (hhandle : s.2.stmtHandle = true) :
    Described src (TODBCResultSet.nextRow src.odbc rt s).2.2 ∧
      (TODBCResultSet.nextRow src.odbc rt s).2.2.stmtHandle = true ∧
      (TODBCResultSet.nextRow src.odbc rt s).2.1.log = s.1.log ++ [.fetchScroll] := by
  unfold TODBCResultSet.nextRow
  dsimp only
  rw [if_neg (by simp [hhandle])]
  split_ifs with herror hdata
  · exact ⟨h, hhandle, rfl⟩
  · exact ⟨h, hhandle, rfl⟩
  · exact ⟨fillValues_described src rt h _ _, hhandle, rfl⟩

theorem after_kept {s : Session} (h : Described src s.2) (hhandle : s.2.stmtHandle = true)
    (k : ℕ) : Described src (after src rt s k).2 ∧ (after src rt s k).2.stmtHandle = true ∧
      (after src rt s k).1.log = s.1.log ++ List.replicate k .fetchScroll := by
  induction k with
  | zero => exact ⟨h, hhandle, (List.append_nil _).symm⟩
  | succ k ih =>
    obtain ⟨hdescribed, hopen, hlog⟩ := ih
    have hnext := nextRow_kept src rt hdescribed hopen
    unfold after at hnext hlog ⊢
    rw [Function.iterate_succ_apply']
    refine ⟨hnext.1, hnext.2.1, hnext.2.2.trans ?_⟩
    rw [hlog, List.append_assoc, List.replicate_succ']

end

/-- After every call of `nextRow` that finds a row, and with every decoder, every column
holds its cell. -/
def RowsHold (src : Source) (strftime : Strftime) (s : Session) : Prop :=
  ∀ (decoder : Decoder) (k : ℕ),
    let r := TODBCResultSet.nextRow src.odbc ⟨strftime, decoder⟩
      (after src ⟨strftime, decoder⟩ s k)
    r.1 = true → ∀ i column, src.columns[i]? = some column →
      ((src.row r.2.1.log).cell column.dataType i).Holds (shown (r.2.2.values[i]?).join)

/-- Every cell of every row that is found is one that the driver reads. -/
def RowsReadable (src : Source) (s : Session) : Prop :=
  ∀ k, s.2.stmtHandle = true → isSQLError (src.base.result (fetched s.1.log k)) = false →
    ∀ i column, src.columns[i]? = some column →
      ((src.row (fetched s.1.log k)).cell column.dataType i).Readable
        (src.today (fetched s.1.log k)) (declared column)

section

variable (src : Source) (strftime : Strftime)

theorem row_holds {s : Session} (h : Described src s.2) (hhandle : s.2.stmtHandle = true)
    (decoder : Decoder) (k : ℕ)
    (hrow : (TODBCResultSet.nextRow src.odbc ⟨strftime, decoder⟩
      (after src ⟨strftime, decoder⟩ s k)).1 = true) {i : ℕ} {column : Column}
    (hcolumn : src.columns[i]? = some column) :
    (TODBCResultSet.nextRow src.odbc ⟨strftime, decoder⟩
        (after src ⟨strftime, decoder⟩ s k)).2.1.log = fetched s.1.log k ∧
      shown (((TODBCResultSet.nextRow src.odbc ⟨strftime, decoder⟩
          (after src ⟨strftime, decoder⟩ s k)).2.2.values[i]?).join) =
        shown (TODBCResultSet.columnValue src.odbc ⟨strftime, decoder⟩ (fetched s.1.log k) i
          (dbTypeFromNative column.dataType) (declared column)) := by
  obtain ⟨hdescribed, hopen, hlog⟩ := after_kept src ⟨strftime, decoder⟩ h hhandle k
  generalize after src ⟨strftime, decoder⟩ s k = t at *
  have hfetched : t.1.log ++ [.fetchScroll] = fetched s.1.log k := by
    rw [hlog, fetched, List.append_assoc, List.replicate_succ']
  have hresult := ((nextRow_fst src ⟨strftime, decoder⟩ t).mp hrow).2
  have hnext : (TODBCResultSet.nextRow src.odbc ⟨strftime, decoder⟩ t).2 =
      (t.1.call .fetchScroll, { t.2 with
        values := TODBCResultSet.fillValues src.odbc ⟨strftime, decoder⟩ t.2
          (fetched s.1.log k), index := t.2.index + 1 }) := by
    unfold TODBCResultSet.nextRow
    dsimp only
    have hok : ¬ isSQLError (src.odbc.result (t.1.call .fetchScroll).log) = true := by
      rw [Bool.not_eq_true]
      exact hresult
    rw [if_neg (by simp [hopen]), if_neg hok, ← hfetched]
    rfl
  rw [hnext]
  refine ⟨hfetched, ?_⟩
  dsimp only
  rw [fillValues_getElem? src ⟨strftime, decoder⟩ hdescribed _ hcolumn]
  exact shown_or_clear (hdescribed.notBlob i) _

theorem rows_hold_iff {s : Session} (h : Described src s.2) :
    RowsHold src strftime s ↔ RowsReadable src s := by
  by_cases hhandle : s.2.stmtHandle = true
  · have hfst (decoder : Decoder) (k : ℕ) : (TODBCResultSet.nextRow src.odbc ⟨strftime, decoder⟩
        (after src ⟨strftime, decoder⟩ s k)).1 = true ↔
          isSQLError (src.base.result (fetched s.1.log k)) = false := by
      obtain ⟨-, hopen, hlog⟩ := after_kept src ⟨strftime, decoder⟩ h hhandle k
      rw [nextRow_fst, hlog, List.append_assoc, ← List.replicate_succ']
      exact and_iff_right hopen
    constructor
    · intro hhold k _ hresult i column hcolumn
      rw [← column_iff src strftime hcolumn]
      intro decoder
      have hrow := (hfst decoder k).mpr hresult
      obtain ⟨hlog, hshown⟩ := row_holds src strftime h hhandle decoder k hrow hcolumn
      have hcell := hhold decoder k hrow i column hcolumn
      rw [hlog, hshown] at hcell
      exact hcell
    · intro hread decoder k
      dsimp only
      intro hrow i column hcolumn
      obtain ⟨hlog, hshown⟩ := row_holds src strftime h hhandle decoder k hrow hcolumn
      rw [hlog, hshown]
      have hcell := hread k hhandle ((hfst decoder k).mp hrow) i column hcolumn
      exact (column_iff src strftime hcolumn _ _).mpr hcell decoder
  · refine iff_of_true (fun decoder k => ?_) fun k hopen => absurd hopen hhandle
    dsimp only
    intro hrow
    have hclosed : (after src ⟨strftime, decoder⟩ s k).2.stmtHandle ≠ true := by
      have hsame : after src ⟨strftime, decoder⟩ s k = s := by
        refine Function.iterate_fixed ?_ k
        unfold TODBCResultSet.nextRow
        rw [if_pos hhandle]
      rw [hsame]
      exact hhandle
    exact absurd ((nextRow_fst src ⟨strftime, decoder⟩ _).mp hrow).1 hclosed

/-- After a statement was executed its rows hold their cells if and only if the cells are ones
that the driver reads. -/
theorem executed_rows_hold (s : Session) (h : (TODBCResultSet.describe src.odbc s).1 = true) :
    RowsHold src strftime (TODBCResultSet.describe src.odbc s).2 ↔
      RowsReadable src (TODBCResultSet.describe src.odbc s).2 :=
  rows_hold_iff src strftime (describe_described src h)

end

/-! ### Rows that are not held -/

/-- A result of one column whose rows are all the same. -/
def oneColumn (column : Column) (row : Row) : Source where
  base := DriverNulls.succeeding
  columns := [column]
  row _ := row
  today _ := ⟨2024, 5, 6⟩

def nulls : Row := ⟨fun _ => none, fun _ => none, fun _ => none, fun _ => none, fun _ => none⟩

def start : Column := ⟨"start".toList, SQL_TYPE_TIME, 8⟩

def name : Column := ⟨"name".toList, 12, 10⟩

/-- A result set behind the native execute. -/
def executed : Session :=
  (⟨⟨true, none⟩, 0, []⟩, { TQueryResultSet.create with stmtHandle := true, lengths := [] })

def ada : Row := { nulls with text := fun _ => some "Ada".toList }

/-- A name that fits the buffer of its column. -/
theorem executed_rows_hold_name :
    (TODBCResultSet.describe (oneColumn name ada).odbc executed).1 = true ∧
      RowsHold (oneColumn name ada) unpadded
        (TODBCResultSet.describe (oneColumn name ada).odbc executed).2 := by
  refine ⟨rfl, (executed_rows_hold (oneColumn name ada) unpadded executed rfl).mpr ?_⟩
  intro k _ _ i column hcolumn
  obtain ⟨-, rfl⟩ : i = 0 ∧ name = column := by
    cases i with
    | zero => exact ⟨rfl, Option.some.inj hcolumn⟩
    | succ i => cases hcolumn
  have htext : ∀ s ∈ some "Ada".toList, s ≠ [] ∧ (encode s).length < bufferSize 10 := by
    rintro s ⟨⟩
    decide +kernel
  exact htext

/-- A time of day comes back as null, and so does an empty text. -/
theorem cells_not_held :
    ¬ RowsHold (oneColumn start { nulls with time := fun _ => some ⟨12, 34, 56⟩ }) unpadded
        (TODBCResultSet.describe
          (oneColumn start { nulls with time := fun _ => some ⟨12, 34, 56⟩ }).odbc executed).2 ∧
      ¬ RowsHold (oneColumn name { nulls with text := fun _ => some [] }) unpadded
        (TODBCResultSet.describe
          (oneColumn name { nulls with text := fun _ => some [] }).odbc executed).2 := by
  constructor
  · rw [rows_hold_iff _ _ (describe_described _ rfl)]
    intro h
    have hcell := h 0 rfl rfl 0 start rfl ⟨12, 34, 56⟩ rfl
    exact absurd hcell.2 (by decide)
  · rw [rows_hold_iff _ _ (describe_described _ rfl)]
    intro h
    have hcell := h 0 rfl rfl 0 name rfl [] rfl
    exact absurd rfl hcell.1

end DatabaseMod.OdbcRows
