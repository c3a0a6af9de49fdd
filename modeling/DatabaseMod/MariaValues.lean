import DatabaseMod.MariaRecord

/-!
# Prepared and text values of MariaDB

What a column holds is sent as text to a query that is executed directly, and written to a
bound buffer for a prepared one. The buffer is read at the width of the mapped type, whatever
was written to it.
-/

namespace DatabaseMod.MariaValues
open MachineInteger LittleEndian
open SqlTokens (Text)
open CoreValues CoreResultSet CoreQuery CoreTemporal CoreFormat CoreStrptime
open CoreDateParser (DateFields isdigit)
open CoreDateTypes (TDBDateTime)
open PostgresDriver (dateValue dateTimeValue timeValue dateValue_eq dateTimeValue_eq timeValue_eq)
open MariaDriver MariaRecord TMySQLResultSet

/-- What a column holds. -/
inductive Held
  | integer (value : ℤ)
  | date (y m d : ℤ)
  | time (hh mm ss : ℤ)
  | dateTime (y m d hh mm ss : ℤ)
deriving DecidableEq, Repr

/-- The bytes of an integer type; zero for the other types. -/
def width (type : ℕ) : ℕ :=
  if type = MYSQL_TYPE_TINY then 1
  else if type ∈ [MYSQL_TYPE_SHORT, MYSQL_TYPE_YEAR] then 2
  else if type ∈ [MYSQL_TYPE_LONG, MYSQL_TYPE_INT24] then 4
  else if type = MYSQL_TYPE_LONGLONG then 8
  else 0

/-- A `MYSQL_TIME` up to its seconds. -/
def timeBytes (y m d hh mm ss : ℤ) : List UInt8 := [y, m, d, hh, mm, ss].flatMap (bytesOf 4)

/-- A value of a column with the text that is sent for it and the bytes that are written. An
integer is one of the signed or of the unsigned type; the dates and times are those that the
core accepts. -/
inductive Sent : ℕ → Held → Text → List UInt8 → Prop
  | integer {type : ℕ} {n : ℤ} (hwidth : 0 < width type)
    (hn : -2 ^ (8 * width type - 1) ≤ n ∧ n < 2 ^ (8 * width type)) :
    Sent type (.integer n) (printInteger n) (bytesOf (width type) n)
  | date {y m d : ℤ} (hy : y ≤ 2147483647) (hdate : dbIsValidDate y m d = true)
    (rest : List UInt8) : Sent MYSQL_TYPE_DATE (.date y m d) (dateText (padded 4 y) m d [])
      (timeBytes y m d 0 0 0 ++ rest)
  | time {hh mm ss : ℤ} (htime : dbIsValidTime hh mm ss = true) (rest : List UInt8) :
    Sent MYSQL_TYPE_TIME (.time hh mm ss) (timeText hh mm ss [])
      (timeBytes 0 0 0 hh mm ss ++ rest)
  | dateTime {type : ℕ} {y m d hh mm ss : ℤ}
    (htype : type ∈ [MYSQL_TYPE_DATETIME, MYSQL_TYPE_TIMESTAMP]) (hy : y ≤ 2147483647)
    (hdate : dbIsValidDate y m d = true) (htime : dbIsValidTime hh mm ss = true)
    (rest : List UInt8) : Sent type (.dateTime y m d hh mm ss)
      (dateText (padded 4 y) m d (' ' :: timeText hh mm ss [])) (timeBytes y m d hh mm ss ++ rest)

/-- The bytes of a text in ASCII. -/
def ascii (text : Text) : List UInt8 := text.map fun c => UInt8.ofNat c.toNat

/-- The runtime reads decimal numbers, which wrap around, and texts in ASCII. -/
structure Reads (rt : Runtime) : Prop where
  toInt : ∀ n, rt.conv.toInt (printInteger n) = castInt32 n
  toLong : ∀ n, rt.conv.toLong (printInteger n) = castInt64 n
  fromUTF8 : ∀ text : Text, (∀ c ∈ text, c.toNat < 128) → rt.fromUTF8 text = text

/-- The bytes that are read above those of an integer are its sign, and the microseconds of a
time, which the driver does not pass, are zero. -/
def Complete (type : ℕ) (data : Memory) (stray : ℤ) : Held → Prop
  | .integer n => ∀ i, width type ≤ i → i < 4 → data i = byteAt n i
  | .date .. => True
  | .time .. | .dateTime .. => stray = 0

/-! ### Texts -/

theorem isAscii_digits {digits : Text} {n : ℤ} (h : Denotes digits n) :
    ∀ c ∈ digits, c.toNat < 128 := by
  intro c hc
  have hdigit := h.all_digits c hc
  simp only [isdigit, Bool.and_eq_true, decide_eq_true_eq, Char.le_def, UInt32.le_iff_toNat_le]
    at hdigit
  exact hdigit.2.trans_lt (by decide)

theorem isAscii_two {n : ℤ} (hn : 0 ≤ n ∧ n ≤ 99) : ∀ c ∈ padded 2 n, c.toNat < 128 :=
  isAscii_digits (denotes_two hn)

theorem isAscii_printInteger (n : ℤ) : ∀ c ∈ printInteger n, c.toNat < 128 := by
  have hdigits : ∀ c ∈ Nat.toDigits 10 n.natAbs, c.toNat < 128 := by
    intro c hc
    have hdigit := Nat.isDigit_of_mem_toDigits (by decide) (le_refl 10) hc
    simp only [Char.isDigit, Bool.and_eq_true, decide_eq_true_eq, ge_iff_le,
      UInt32.le_iff_toNat_le] at hdigit
    exact hdigit.2.trans_lt (by decide)
  unfold printInteger
  split_ifs
  · exact List.forall_mem_cons.mpr ⟨by decide, hdigits⟩
  · exact hdigits

theorem isAscii_append {a b : Text} (ha : ∀ c ∈ a, c.toNat < 128) (hb : ∀ c ∈ b, c.toNat < 128) :
    ∀ c ∈ a ++ b, c.toNat < 128 :=
  List.forall_mem_append.mpr ⟨ha, hb⟩

theorem isAscii_cons {c : Char} {b : Text} (hc : c.toNat < 128) (hb : ∀ c ∈ b, c.toNat < 128) :
    ∀ c' ∈ c :: b, c'.toNat < 128 :=
  List.forall_mem_cons.mpr ⟨hc, hb⟩

theorem isAscii_dateText {y m d : ℤ} (hy : y ≤ 2147483647) (hdate : dbIsValidDate y m d = true)
    {rest : Text} (hrest : ∀ c ∈ rest, c.toNat < 128) :
    ∀ c ∈ dateText (padded 4 y) m d rest, c.toNat < 128 := by
  obtain ⟨hm, hd⟩ := monthDay_of_valid hdate
  have hyear : Denotes (padded 4 y) y :=
    denotes_padded _ ⟨(by decide : (0 : ℤ) ≤ 1).trans (dbIsValidDate_iff.mp hdate).1, hy⟩
  refine isAscii_append (isAscii_digits hyear) (isAscii_cons (by decide) ?_)
  refine isAscii_append (isAscii_two ⟨by omega, by omega⟩) (isAscii_cons (by decide) ?_)
  exact isAscii_append (isAscii_two ⟨by omega, by omega⟩) hrest

theorem isAscii_timeText {hh mm ss : ℤ} (htime : dbIsValidTime hh mm ss = true) :
    ∀ c ∈ timeText hh mm ss [], c.toNat < 128 := by
  obtain ⟨hhh, hmm, hss, -⟩ := dbIsValidTime_iff.mp htime
  refine isAscii_append (isAscii_two ⟨hhh.1, by omega⟩) (isAscii_cons (by decide) ?_)
  refine isAscii_append (isAscii_two ⟨hmm.1, by omega⟩) (isAscii_cons (by decide) ?_)
  exact isAscii_append (isAscii_two ⟨hss.1, by omega⟩) (fun _ hc => absurd hc List.not_mem_nil)

theorem Sent.isAscii {type : ℕ} {value : Held} {text : Text} {bytes : List UInt8}
    (h : Sent type value text bytes) : ∀ c ∈ text, c.toNat < 128 := by
  cases h with
  | integer => exact isAscii_printInteger _
  | date hy hdate => exact isAscii_dateText hy hdate (fun _ hc => absurd hc List.not_mem_nil)
  | time htime => exact isAscii_timeText htime
  | dateTime _ hy hdate htime =>
    exact isAscii_dateText hy hdate (isAscii_cons (by decide) (isAscii_timeText htime))

theorem fromBytes_ascii {text : Text} (h : ∀ c ∈ text, c.toNat < 128) :
    fromBytes (ascii text) = text := by
  rw [fromBytes, ascii, List.map_map]
  refine (List.map_congr_left fun c hc => ?_).trans (List.map_id text)
  have hc := h c hc
  change Char.ofNat (UInt8.ofNat c.toNat).toNat = c
  rw [UInt8.toNat_ofNat_of_lt' (show _ < 256 by omega), Char.ofNat_toNat]

/-! ### Buffers -/

theorem read_write_iff (data : Memory) {bytes : List UInt8} (n : ℤ) {size : ℕ}
    (h : ∀ i < size, bytes[i]? = none ∨ bytes[i]? = some (byteAt n i)) :
    (data.write bytes).read 0 size = bytesOf size n ↔
      ∀ i, bytes.length ≤ i → i < size → data i = byteAt n i := by
  rw [Memory.read, bytesOf, List.map_inj_left]
  constructor
  · intro hread i hlength hsize
    have hi := hread i (List.mem_range.mpr hsize)
    rw [Nat.zero_add, Memory.write, List.getElem?_eq_none hlength] at hi
    exact hi
  · intro hdata i hi
    have hsize := List.mem_range.mp hi
    rw [Nat.zero_add, Memory.write]
    rcases h i hsize with hnone | hsome
    · rw [hnone]
      exact hdata i (List.getElem?_eq_none_iff.mp hnone) hsize
    · rw [hsome]
      rfl

/-- A number of four bytes in a run of such numbers. -/
theorem getElem?_flatMap_bytesOf {members : List ℤ} {k : ℕ} {n : ℤ} (h : members[k]? = some n)
    (rest : List UInt8) {j : ℕ} (hj : j < 4) :
    (members.flatMap (bytesOf 4) ++ rest)[4 * k + j]? = some (byteAt n j) := by
  induction members generalizing k with
  | nil => cases h
  | cons first members ih =>
    rw [List.flatMap_cons, List.append_assoc]
    cases k with
    | zero =>
      obtain rfl := Option.some.inj h
      rw [Nat.mul_zero, Nat.zero_add, List.getElem?_append_left (by rwa [length_bytesOf])]
      exact getElem?_bytesOf first hj
    | succ k =>
      have hindex : 4 * (k + 1) + j - (bytesOf 4 first).length = 4 * k + j := by
        rw [length_bytesOf]
        omega
      rw [List.getElem?_append_right (by rw [length_bytesOf]; omega), hindex]
      exact ih h

theorem timeMember_write (data : Memory) {members : List ℤ} {k : ℕ} {n : ℤ}
    (h : members[k]? = some n) (hn : InInt32 n) (rest : List UInt8) :
    timeMember (data.write (members.flatMap (bytesOf 4) ++ rest)) k = n := by
  have hread : (data.write (members.flatMap (bytesOf 4) ++ rest)).read (4 * k) 4 = bytesOf 4 n := by
    refine List.map_congr_left fun j hj => ?_
    rw [Memory.write, getElem?_flatMap_bytesOf h rest (List.mem_range.mp hj)]
    rfl
  rw [timeMember, hread, (castInt32_littleEndian_iff (length_bytesOf 4 n) n).mpr rfl,
    castInt32_of_mem hn]

/-! ### Times -/

theorem time_set_kept {hh mm ss micros : ℤ} {t : TDBTime} (h : TDBTime.set hh mm ss micros = some t)
    (hnull : t.isNull = false) : t.microsecond = micros := by
  unfold TDBTime.set TDBTime.setFromParts at h
  split_ifs at h
  · obtain rfl := Option.some.inj h
    cases hnull
  · obtain ⟨v, -, ht⟩ := Option.bind_eq_some_iff.mp h
    obtain rfl := Option.some.inj ht
    rfl

theorem dateTime_set_kept {y m d hh mm ss micros : ℤ} {t : TDBDateTime}
    (h : TDBDateTime.set y m d hh mm ss micros = some t) (hnull : t.isNull = false) :
    t.microsecond = micros := by
  unfold TDBDateTime.set CoreDateTypes.TDBDateTime.setFromParts at h
  split_ifs at h
  · obtain rfl := Option.some.inj h
    cases hnull
  · obtain ⟨v, -, ht⟩ := Option.bind_eq_some_iff.mp h
    obtain rfl := Option.some.inj ht
    rfl

/-! ### One value -/

/-- Both values are there and the same. -/
def SameValue (a b : Option TDBType) : Prop := ∃ v, v.isNull = false ∧ a = some v ∧ b = some v

theorem sameValue_some {a b : TDBType} (hnull : b.isNull = false) :
    SameValue (some a) (some b) ↔ a = b := by
  constructor
  · rintro ⟨v, -, ha, hb⟩
    exact (Option.some.inj ha).trans (Option.some.inj hb).symm
  · rintro rfl
    exact ⟨a, hnull, rfl, rfl⟩

theorem integer_cases {type : ℕ} (h : 0 < width type) (flags : ℕ) :
    (width type ≤ 4 ∧ dbTypeFromNative type flags = DBTYPE_INT) ∨
      (width type = 8 ∧ dbTypeFromNative type flags = DBTYPE_LONG) := by
  unfold width at h ⊢
  split_ifs at h ⊢ with htiny hshort hlong hlonglong
  · exact htiny ▸ .inl ⟨by decide, rfl⟩
  · simp only [List.mem_cons, List.not_mem_nil, or_false] at hshort
    rcases hshort with rfl | rfl <;> exact .inl ⟨by decide, rfl⟩
  · simp only [List.mem_cons, List.not_mem_nil, or_false] at hlong
    rcases hlong with rfl | rfl <;> exact .inl ⟨by decide, rfl⟩
  · exact hlonglong ▸ .inr ⟨rfl, rfl⟩
  · exact absurd h (lt_irrefl 0)

section

variable {rt : Runtime} (hrt : Reads rt) (stray : ℤ) (f : TMySQLField)

include hrt

theorem text_read {type : ℕ} {value : Held} {text : Text} {bytes : List UInt8}
    (h : Sent type value text bytes) : rt.fromUTF8 (fromBytes (ascii text)) = text := by
  rw [fromBytes_ascii h.isAscii]
  exact hrt.fromUTF8 text h.isAscii

theorem integer_agrees_iff {type : ℕ} (hwidth : 0 < width type) (flags : ℕ) (n : ℤ) :
    SameValue (bufferValue rt stray (dbTypeFromNative type flags)
        (f.fetch (some (bytesOf (width type) n))))
      (textValue rt (dbTypeFromNative type flags) (ascii (printInteger n))) ↔
        Complete type f.dataValue stray (.integer n) := by
  have htext := fromBytes_ascii (isAscii_printInteger n)
  have hwritten {size : ℕ} (i : ℕ) (_ : i < size) : (bytesOf (width type) n)[i]? = none ∨
      (bytesOf (width type) n)[i]? = some (byteAt n i) := by
    by_cases hi : i < width type
    · exact .inr (getElem?_bytesOf n hi)
    · exact .inl (List.getElem?_eq_none (by rw [length_bytesOf]; omega))
  rcases integer_cases hwidth flags with ⟨hle, hint⟩ | ⟨heq, hlong⟩
  · have hbuffer : bufferValue rt stray DBTYPE_INT (f.fetch (some (bytesOf (width type) n))) =
        some (.setInt (charToInt (f.dataValue.write (bytesOf (width type) n)))) := rfl
    have hcell : textValue rt DBTYPE_INT (ascii (printInteger n)) =
        some (.setInt (rt.conv.toInt (fromBytes (ascii (printInteger n))))) := rfl
    have hset {a b : ℤ} : TDBType.setInt a = .setInt b ↔ a = b := by simp [TDBType.setInt]
    have hread : ((f.dataValue.write (bytesOf (width type) n)).read 0 4).length = 4 := by
      simp [Memory.read]
    rw [hint, hbuffer, hcell, htext, hrt.toInt, sameValue_some rfl, hset, charToInt,
      castInt32_littleEndian_iff hread, read_write_iff f.dataValue n hwritten, length_bytesOf]
    rfl
  · have hbuffer : bufferValue rt stray DBTYPE_LONG (f.fetch (some (bytesOf (width type) n))) =
        some (.setLong (charToLong (f.dataValue.write (bytesOf (width type) n)))) := rfl
    have hcell : textValue rt DBTYPE_LONG (ascii (printInteger n)) =
        some (.setLong (rt.conv.toLong (fromBytes (ascii (printInteger n))))) := rfl
    have hread := (@read_write_iff f.dataValue _ n 8 hwritten).mpr fun i hlength hsize => by
      rw [length_bytesOf] at hlength
      omega
    rw [hlong, hbuffer, hcell, htext, hrt.toLong, sameValue_some rfl, charToLong, hread,
      castInt64_littleEndian]
    exact iff_of_true rfl fun i hlength hsize => by omega

omit hrt in
theorem inInt32_of_valid {y m d : ℤ} (hy : y ≤ 2147483647) (hdate : dbIsValidDate y m d = true) :
    InInt32 y ∧ InInt32 m ∧ InInt32 d := by
  obtain ⟨hm, hd⟩ := monthDay_of_valid hdate
  have hy1 := (dbIsValidDate_iff.mp hdate).1
  exact ⟨⟨by omega, hy⟩, ⟨by omega, by omega⟩, ⟨by omega, by omega⟩⟩

omit hrt in
theorem inInt32_of_validTime {hh mm ss : ℤ} (htime : dbIsValidTime hh mm ss = true) :
    InInt32 hh ∧ InInt32 mm ∧ InInt32 ss := by
  obtain ⟨hhh, hmm, hss, -⟩ := dbIsValidTime_iff.mp htime
  exact ⟨⟨by omega, by omega⟩, ⟨by omega, by omega⟩, ⟨by omega, by omega⟩⟩

omit hrt in
theorem year_of_valid {y m d : ℤ} (hy : y ≤ 2147483647) (hdate : dbIsValidDate y m d = true) :
    Denotes (padded 4 y) y := by
  have hy1 := (dbIsValidDate_iff.mp hdate).1
  exact denotes_padded _ ⟨by omega, hy⟩

omit hrt in
theorem bufferValue_date : bufferValue rt stray DBTYPE_DATE f =
    (TDBDate.set (timeMember f.dataValue 0) (timeMember f.dataValue 1)
      (timeMember f.dataValue 2)).bind (dateValue rt.strftime) := rfl

omit hrt in
theorem bufferValue_time : bufferValue rt stray DBTYPE_TIME f =
    (TDBTime.set (timeMember f.dataValue 3) (timeMember f.dataValue 4)
      (timeMember f.dataValue 5) stray).bind (timeValue rt.strftime) := rfl

omit hrt in
theorem bufferValue_dateTime : bufferValue rt stray DBTYPE_DATETIME f =
    (TDBDateTime.set (timeMember f.dataValue 0) (timeMember f.dataValue 1)
      (timeMember f.dataValue 2) (timeMember f.dataValue 3) (timeMember f.dataValue 4)
      (timeMember f.dataValue 5) stray).bind (dateTimeValue rt.strftime) := rfl

omit hrt in
theorem textValue_date (bytes : List UInt8) : textValue rt DBTYPE_DATE bytes =
    (TDBDate.setFromString (rt.fromUTF8 (fromBytes bytes))).bind (dateValue rt.strftime) := rfl

omit hrt in
theorem textValue_time (bytes : List UInt8) : textValue rt DBTYPE_TIME bytes =
    (TDBTime.setFromString (rt.fromUTF8 (fromBytes bytes))).bind (timeValue rt.strftime) := rfl

omit hrt in
theorem textValue_dateTime (bytes : List UInt8) : textValue rt DBTYPE_DATETIME bytes =
    (TDBDateTime.setFromString (rt.fromUTF8 (fromBytes bytes))).bind
      (dateTimeValue rt.strftime) := rfl

omit hrt in
theorem fetch_dataValue (bytes : List UInt8) :
    (f.fetch (some bytes)).dataValue = f.dataValue.write bytes := rfl

theorem date_agrees {y m d : ℤ} (hy : y ≤ 2147483647) (hdate : dbIsValidDate y m d = true)
    (rest : List UInt8) :
    SameValue (bufferValue rt stray DBTYPE_DATE (f.fetch (some (timeBytes y m d 0 0 0 ++ rest))))
      (textValue rt DBTYPE_DATE (ascii (dateText (padded 4 y) m d []))) := by
  obtain ⟨hyear, hmonth, hday⟩ := inInt32_of_valid hy hdate
  obtain ⟨v, hset⟩ := date_set hy hdate
  obtain ⟨text, hvalue⟩ := @dateValue_eq rt.strftime ⟨false, v, y, m, d⟩
    ⟨(dbIsValidDate_iff.mp hdate).1, hy.trans (by decide)⟩
  refine ⟨⟨.temporal .date ⟨y, m, d, 0, 0, 0, 0⟩ text, false⟩, rfl, ?_, ?_⟩
  · rw [bufferValue_date, fetch_dataValue, timeBytes, timeMember_write _ rfl hyear,
      timeMember_write _ rfl hmonth, timeMember_write _ rfl hday, hset]
    exact hvalue
  · rw [textValue_date, text_read hrt (.date hy hdate rest),
      date_setFromString (year_of_valid hy hdate) hdate, hset]
    exact hvalue

/-- Without the microseconds, the time is the one that was sent only if they happen to be zero. -/
theorem time_agrees_iff {hh mm ss : ℤ} (htime : dbIsValidTime hh mm ss = true)
    (rest : List UInt8) :
    SameValue (bufferValue rt stray DBTYPE_TIME (f.fetch (some (timeBytes 0 0 0 hh mm ss ++ rest))))
      (textValue rt DBTYPE_TIME (ascii (timeText hh mm ss []))) ↔ stray = 0 := by
  obtain ⟨hhour, hminute, hsecond⟩ := inInt32_of_validTime htime
  obtain ⟨v, hset⟩ := time_set htime
  obtain ⟨text, hvalue⟩ := timeValue_eq rt.strftime ⟨false, v, 0, hh, mm, ss⟩
  have htext : textValue rt DBTYPE_TIME (ascii (timeText hh mm ss [])) =
      some ⟨.temporal .time ⟨1900, 1, 1, hh, mm, ss, 0⟩ text, false⟩ := by
    rw [textValue_time, text_read hrt (.time htime rest), time_setFromString htime, hset]
    exact hvalue
  rw [bufferValue_time, fetch_dataValue, timeBytes, timeMember_write _ rfl hhour,
    timeMember_write _ rfl hminute, timeMember_write _ rfl hsecond, htext]
  constructor
  · rintro ⟨w, hnull, hbuffer, hw⟩
    obtain ⟨t, ht, hw'⟩ := Option.bind_eq_some_iff.mp hbuffer
    obtain ⟨text', hvalue'⟩ := timeValue_eq rt.strftime t
    obtain rfl := Option.some.inj hw
    have heq := hvalue'.symm.trans hw'
    simp only [Option.some.injEq, TDBType.mk.injEq, Content.temporal.injEq, true_and,
      DateFields.mk.injEq] at heq
    exact (time_set_kept ht heq.2).symm.trans heq.1.1.2.2.2
  · rintro rfl
    rw [hset]
    exact ⟨_, rfl, hvalue, rfl⟩

theorem dateTime_agrees_iff {type : ℕ} (htype : type ∈ [MYSQL_TYPE_DATETIME, MYSQL_TYPE_TIMESTAMP])
    {y m d hh mm ss : ℤ} (hy : y ≤ 2147483647) (hdate : dbIsValidDate y m d = true)
    (htime : dbIsValidTime hh mm ss = true) (rest : List UInt8) :
    SameValue (bufferValue rt stray DBTYPE_DATETIME
        (f.fetch (some (timeBytes y m d hh mm ss ++ rest))))
      (textValue rt DBTYPE_DATETIME
        (ascii (dateText (padded 4 y) m d (' ' :: timeText hh mm ss [])))) ↔ stray = 0 := by
  obtain ⟨hyear, hmonth, hday⟩ := inInt32_of_valid hy hdate
  obtain ⟨hhour, hminute, hsecond⟩ := inInt32_of_validTime htime
  obtain ⟨v, hset⟩ := dateTime_set hy hdate htime
  obtain ⟨text, hvalue⟩ := @dateTimeValue_eq rt.strftime ⟨false, v, 0, y, m, d, hh, mm, ss⟩
    ⟨(dbIsValidDate_iff.mp hdate).1, hy.trans (by decide)⟩
  have htext : textValue rt DBTYPE_DATETIME
      (ascii (dateText (padded 4 y) m d (' ' :: timeText hh mm ss []))) =
        some ⟨.temporal .dateTime ⟨y, m, d, hh, mm, ss, 0⟩ text, false⟩ := by
    rw [textValue_dateTime, text_read hrt (.dateTime htype hy hdate htime rest),
      dateTime_setFromString (year_of_valid hy hdate) hdate htime, hset]
    exact hvalue
  rw [bufferValue_dateTime, fetch_dataValue, timeBytes, timeMember_write _ rfl hyear,
    timeMember_write _ rfl hmonth, timeMember_write _ rfl hday, timeMember_write _ rfl hhour,
    timeMember_write _ rfl hminute, timeMember_write _ rfl hsecond, htext]
  constructor
  · rintro ⟨w, hnull, hbuffer, hw⟩
    obtain ⟨t, ht, hw'⟩ := Option.bind_eq_some_iff.mp hbuffer
    obtain ⟨text', hvalue'⟩ := dateTimeValue_eq rt.strftime (dateTime_set_year ht)
    obtain rfl := Option.some.inj hw
    have heq := hvalue'.symm.trans hw'
    simp only [Option.some.injEq, TDBType.mk.injEq, Content.temporal.injEq, true_and,
      DateFields.mk.injEq] at heq
    exact (dateTime_set_kept ht heq.2).symm.trans heq.1.1.2.2.2.2.2.2
  · rintro rfl
    rw [hset]
    exact ⟨_, rfl, hvalue, rfl⟩

/-- What is written and what is sent give one value exactly where nothing is missing. -/
theorem sent_agrees_iff {type : ℕ} {value : Held} {text : Text} {bytes : List UInt8}
    (h : Sent type value text bytes) (flags : ℕ) :
    SameValue (bufferValue rt stray (dbTypeFromNative type flags) (f.fetch (some bytes)))
      (textValue rt (dbTypeFromNative type flags) (ascii text)) ↔
        Complete type f.dataValue stray value := by
  cases h with
  | integer hwidth => exact integer_agrees_iff hrt stray f hwidth flags _
  | date hy hdate rest => exact iff_of_true (date_agrees hrt stray f hy hdate rest) trivial
  | time htime rest => exact time_agrees_iff hrt stray f htime rest
  | dateTime htype hy hdate htime rest =>
    have hkind : dbTypeFromNative type flags = DBTYPE_DATETIME := by
      have hmem := htype
      simp only [List.mem_cons, List.not_mem_nil, or_false] at hmem
      rcases hmem with rfl | rfl <;> rfl
    rw [hkind]
    exact dateTime_agrees_iff hrt stray f htype hy hdate htime rest

end

/-! ### One row -/

section

variable (lib : Libmariadb) (rt : Runtime)

theorem prepared_value {s : Session} (hprepared : s.2.preparedQuery = true)
    (hnext : (nextRow lib rt s).1 = true) {columns : List Field} {column : Field} {i : ℕ}
    (hdescribes : Describes s.2 columns) (hcolumn : columns[i]? = some column)
    {f : TMySQLField} (hf : s.2.mySQLFields[i]? = some f) {bytes : List UInt8}
    (hbytes : (lib.fetched (s.1.call .stmtFetch).log)[i]? = some (some bytes)) :
    (nextRow lib rt s).2.2.values[i]? =
      some (bufferValue rt (lib.stray (s.1.call .stmtFetch).log i)
        (dbTypeFromNative column.type column.flags) (f.fetch (some bytes))) := by
  unfold nextRow at hnext ⊢
  simp only [hprepared, if_true] at hnext ⊢
  split_ifs at hnext ⊢
  dsimp only
  refine fillValues_column hdescribes hcolumn _ ?_
  rw [List.getElem?_mapIdx, hf, hbytes]
  rfl

theorem text_value {s : Session} (hprepared : s.2.preparedQuery = false)
    {result : StoredResult} (hresult : s.2.resultHandle = some result)
    {row : List (Option (List UInt8))} {rows : List (List (Option (List UInt8)))}
    (hrows : result.rows = row :: rows) {column : Field} {i : ℕ}
    (hdescribes : Describes s.2 result.columns) (hcolumn : result.columns[i]? = some column)
    {bytes : List UInt8} (hbytes : row[i]? = some (some bytes)) :
    (nextRow lib rt s).2.2.values[i]? =
      some (textValue rt (dbTypeFromNative column.type column.flags) bytes) := by
  unfold nextRow
  simp only [hprepared, Bool.false_eq_true, if_false, hresult, hrows]
  refine fillValues_column hdescribes hcolumn _ ?_
  rw [hbytes]
  rfl

/-- The next rows of a prepared and of a stored result have one column with one value. -/
def SameCell (conn : TDBMariaDB) (prepared text : TMySQLResultSet) (i : ℕ) (column : Field)
    (value : Held) : Prop :=
  ∃ columns result row rows string bytes,
    prepared.metaHandle = some columns ∧ columns[i]? = some column ∧
    text.resultHandle = some result ∧ result.columns[i]? = some column ∧
    result.rows = row :: rows ∧ Sent column.type value string bytes ∧
    (lib.fetched (conn.call .stmtFetch).log)[i]? = some (some bytes) ∧
    row[i]? = some (some (ascii string))

/-- Both rows have the same value in a column. -/
def Agree (rs rs' : TMySQLResultSet) (i : ℕ) : Prop :=
  SameValue (rs.values[i]?).join (rs'.values[i]?).join

/-- Over any run, a row of a prepared query agrees with the row of the same query executed
directly exactly in the columns where nothing is missing. -/
theorem prepared_agrees_iff (hrt : Reads rt) {q q' p p' : Query} (hq : q.Reached (driver lib rt))
    (hp : p.Reached (driver lib rt)) (hnext : q.nextRow (driver lib rt) = (true, q'))
    (hnext' : p.nextRow (driver lib rt) = (true, p')) :
    ∃ prepared prepared' text text', q.resultSet = some prepared ∧ q'.resultSet = some prepared' ∧
      p.resultSet = some text ∧ p'.resultSet = some text' ∧
      (prepared.preparedQuery = true → text.preparedQuery = false → ∀ i column value,
        SameCell lib q.conn prepared text i column value →
          ∃ f, prepared.mySQLFields[i]? = some f ∧ (Agree prepared' text' i ↔
            Complete column.type f.dataValue (lib.stray (q.conn.call .stmtFetch).log i) value)) := by
  obtain ⟨prepared, hprepared, hfetch, hq'⟩ := nextRow_true lib rt hnext
  obtain ⟨text, htext, -, hp'⟩ := nextRow_true lib rt hnext'
  refine ⟨prepared, _, text, _, hprepared, hq', htext, hp', fun hpq hdirect i column value hcell => ?_⟩
  obtain ⟨columns, result, row, rows, string, bytes, hmeta, hcolumn, hresult, hcolumn', hrows,
    hsent, hbytes, hstring⟩ := hcell
  obtain ⟨hdescribes, hlength⟩ :=
    ((described_reached lib rt hq prepared hprepared).prepared hpq).2 columns hmeta
  have hdescribes' := (described_reached lib rt hp text htext).stored result hresult
  have hi : i < prepared.mySQLFields.length :=
    hlength ▸ (List.getElem?_eq_some_iff.mp hcolumn).1
  have hf := List.getElem?_eq_getElem hi
  have hvalue := @prepared_value lib rt (q.conn, prepared) hpq hfetch _ _ _ hdescribes hcolumn _ hf
    _ hbytes
  have hvalue' := @text_value lib rt (p.conn, text) hdirect _ hresult _ _ hrows _ _ hdescribes'
    hcolumn' _ hstring
  refine ⟨_, hf, ?_⟩
  rw [Agree, hvalue, hvalue']
  exact sent_agrees_iff hrt _ _ hsent column.flags

end

/-! ### A server of one value -/

/-- A server with one column and one row; allocated memory holds ones. -/
def oneValue (type : ℕ) (bytes : List UInt8) (text : Text) : Libmariadb where
  code _ := 0
  stmtInit _ := true
  prepared _ := ⟨0, some [⟨['n'], type, 0, 11⟩]⟩
  stored _ := .rows ⟨[⟨['n'], type, 0, 11⟩], [[some (ascii text)]]⟩
  fetched _ := [some bytes]
  errno _ := 0
  error _ := []
  fresh _ _ := fun _ => 255
  stray _ _ := 1

/-- Numbers that wrap around, and texts in ASCII. -/
def wrapping : Runtime :=
  { plain with conv := { Conversions.integers with
      toInt := fun text => castInt32 (readInteger text)
      toLong := fun text => castInt64 (readInteger text) } }

theorem wrapping_reads : Reads wrapping where
  toInt n := congrArg castInt32 (readInteger_printInteger n)
  toLong n := congrArg castInt64 (readInteger_printInteger n)
  fromUTF8 _ _ := rfl

/-- A query that was prepared and executed. -/
def preparedQuery (lib : Libmariadb) : Query :=
  let q := ((TDatabaseQuery.create opened).prepare (driver lib wrapping) "SELECT n".toList).2
  (q.execute (driver lib wrapping) []).elim q (·.2)

/-- A query that was executed directly. -/
def directQuery (lib : Libmariadb) : Query :=
  ((TDatabaseQuery.create opened).execute (driver lib wrapping) "SELECT n".toList).elim
    (.create opened) (·.2)

theorem executed_reached (lib : Libmariadb) {q : Query} (h : q.Reached (driver lib wrapping))
    (statement : Text) :
    ((q.execute (driver lib wrapping) statement).elim q (·.2)).Reached (driver lib wrapping) := by
  cases hexecute : q.execute (driver lib wrapping) statement with
  | none => exact h
  | some r => exact .call (c := .execute statement) h hexecute

theorem preparedQuery_reached (lib : Libmariadb) :
    (preparedQuery lib).Reached (driver lib wrapping) :=
  executed_reached lib (.call (c := .prepare "SELECT n".toList) (.create opened) rfl) []

theorem directQuery_reached (lib : Libmariadb) : (directQuery lib).Reached (driver lib wrapping) :=
  executed_reached lib (.create opened) "SELECT n".toList

theorem sameCell_oneValue {type : ℕ} {value : Held} {text : Text} {bytes : List UInt8}
    (h : Sent type value text bytes) {prepared direct : TMySQLResultSet} {conn : TDBMariaDB}
    (hmeta : prepared.metaHandle = some [⟨['n'], type, 0, 11⟩])
    (hresult : direct.resultHandle = some ⟨[⟨['n'], type, 0, 11⟩], [[some (ascii text)]]⟩) :
    SameCell (oneValue type bytes text) conn prepared direct 0 ⟨['n'], type, 0, 11⟩ value :=
  ⟨_, _, _, _, _, _, hmeta, rfl, hresult, rfl, rfl, h, rfl, rfl⟩

def tiny : Libmariadb := oneValue MYSQL_TYPE_TINY [1] ['1']
def long : Libmariadb := oneValue MYSQL_TYPE_LONG [7, 0, 0, 0] ['7']

theorem sent_tiny : Sent MYSQL_TYPE_TINY (.integer 1) ['1'] [1] :=
  @Sent.integer MYSQL_TYPE_TINY 1 (by decide) (by decide)

/-- One byte is written to the buffer and four are read from it. -/
theorem tiny_read_with_high_bytes :
    Reads wrapping ∧ ∃ prepared prepared' text text' q' p',
      (preparedQuery tiny).resultSet = some prepared ∧
      (directQuery tiny).resultSet = some text ∧
      (preparedQuery tiny).nextRow (driver tiny wrapping) = (true, q') ∧
      (directQuery tiny).nextRow (driver tiny wrapping) = (true, p') ∧
      q'.resultSet = some prepared' ∧ p'.resultSet = some text' ∧
      prepared.preparedQuery = true ∧ text.preparedQuery = false ∧
      SameCell tiny (preparedQuery tiny).conn prepared text 0 ⟨['n'], MYSQL_TYPE_TINY, 0, 11⟩
        (.integer 1) ∧
      prepared'.values = [some (.setInt (-255))] ∧ text'.values = [some (.setInt 1)] ∧
      ¬ Agree prepared' text' 0 := by
  have hvalues : ((preparedQuery tiny).nextRow (driver tiny wrapping)).2.resultSet.map (·.values) =
      some [some (.setInt (-255))] := by decide +kernel
  have hvalues' : ((directQuery tiny).nextRow (driver tiny wrapping)).2.resultSet.map (·.values) =
      some [some (.setInt 1)] := by decide +kernel
  obtain ⟨prepared', hprepared', heq⟩ := Option.map_eq_some_iff.mp hvalues
  obtain ⟨text', htext', heq'⟩ := Option.map_eq_some_iff.mp hvalues'
  refine ⟨wrapping_reads, _, prepared', _, text', _, _, rfl, rfl, rfl, rfl, hprepared', htext', rfl, rfl,
    sameCell_oneValue sent_tiny rfl rfl, heq, heq', ?_⟩
  rintro ⟨v, -, hv, hv'⟩
  rw [heq] at hv
  rw [heq'] at hv'
  exact absurd (hv.trans hv'.symm) (by decide)

theorem prepared_agrees_iff_long :
    ∃ q' p', (preparedQuery long).nextRow (driver long wrapping) = (true, q') ∧
      (directQuery long).nextRow (driver long wrapping) = (true, p') ∧
      ∃ prepared prepared' text text', (preparedQuery long).resultSet = some prepared ∧
        q'.resultSet = some prepared' ∧ (directQuery long).resultSet = some text ∧
        p'.resultSet = some text' ∧
        (prepared.preparedQuery = true → text.preparedQuery = false → ∀ i column value,
          SameCell long (preparedQuery long).conn prepared text i column value →
          ∃ f, prepared.mySQLFields[i]? = some f ∧ (Agree prepared' text' i ↔
            Complete column.type f.dataValue 1 value)) :=
  ⟨_, _, rfl, rfl, prepared_agrees_iff long wrapping wrapping_reads (preparedQuery_reached _)
    (directQuery_reached _) rfl rfl⟩

end DatabaseMod.MariaValues
