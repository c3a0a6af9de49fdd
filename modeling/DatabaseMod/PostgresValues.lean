import DatabaseMod.PostgresParameters

/-!
# The values sent to PostgreSQL

Whether the text of a parameter says what the bound value is, for the values of every class.
A decimal goes through the `getString` of the base class, which has no text for it.
-/

namespace DatabaseMod.PostgresValues
open MachineInteger CoreStrptime CoreDateParser CoreTemporal CoreFormat
open CoreDateTypes (TDBDateTime)
open SqlTokens (Text)
open CoreValues CoreResultSet PostgresDriver PostgresParameters TPostgreSQLResultSet

/-! ### Bound values -/

structure IsDate (y m d : ℤ) : Prop extends MonthDay m d where
  year : InInt32 y

/-- The values that are not null, of every class but the floats. -/
inductive BoundValue
  | integer (kind : IntegerKind) (value : ℤ)
  | string (value : Text)
  | decimal (value : Text) (hvalue : value ≠ [])
  | date (t : TDBDate) (hnull : t.isNull = false) (hdate : IsDate t.year t.month t.day)
  | dateTime (t : TDBDateTime) (hnull : t.isNull = false) (hdate : IsDate t.year t.month t.day)
    (htime : dbIsValidTime t.hour t.minute t.second = true)
  | time (t : TDBTime) (hnull : t.isNull = false)
    (htime : dbIsValidTime t.hour t.minute t.second = true)
  | blob (value : List UInt8)

namespace BoundValue

/-- The object that is bound; there is none where the text of a date is undefined. -/
def object (c : Strftime) : BoundValue → Option TDBType
  | .integer kind value => some ⟨.integer kind value, false⟩
  | .string value => some (.setString value)
  | .decimal value _ => some ⟨.decimal (some value), false⟩
  | .date t _ _ => dateValue c t
  | .dateTime t _ _ _ => dateTimeValue c t
  | .time t _ _ => timeValue c t
  | .blob value => some (.setBlob value)

/-- An empty string or blob. -/
def IsEmpty : BoundValue → Prop
  | .string value => value = []
  | .blob value => value = []
  | _ => False

def Sendable : BoundValue → Prop
  | .decimal _ _ => False
  | .string value => NUL ∉ value
  | _ => True

end BoundValue

/-- The parts that a text has in a format, whose year may have a sign. -/
def readParts (format text : Text) : Option DateFields :=
  let negative := text.head? = some '-'
  let r := dbStrptime (if negative then text.tail else text) format .zero
  if r.1 then some (if negative then { r.2 with y := -r.2.y } else r.2) else none

/-- The value can be read from the parameter. -/
def Recovered : BoundValue → Param → Prop
  | .integer .bool value, p => p = .text (if value ≠ 0 then ['t'] else ['f'])
  | .integer _ value, p => ∃ text, p = .text text ∧ readInteger text = value
  | .string value, p => p = .text value
  | .decimal value _, p => p = .text value
  | .date t _ _, p => ∃ text, p = .text text ∧
      readParts dateFormat text = some ⟨t.year, t.month, t.day, 0, 0, 0, 0⟩
  | .dateTime t _ _ _, p => ∃ text, p = .text text ∧ readParts dateTimeFormat text =
      some ⟨t.year, t.month, t.day, t.hour, t.minute, t.second, 0⟩
  | .time t _ _, p => ∃ text, p = .text text ∧
      readParts timeFormat text = some ⟨0, 0, 0, t.hour, t.minute, t.second, 0⟩
  | .blob value, p => value = [] ∨ p = .binary value

/-- Only empty values are sent as null or as an empty text. -/
structure Says (v : BoundValue) (p : Param) : Prop where
  recovered : Recovered v p
  present : ¬ v.IsEmpty → p ≠ .null ∧ p ≠ .text []

theorem nul_not_mem_printInteger (n : ℤ) : NUL ∉ printInteger n := by
  have hdigits := nul_not_mem_toDigits n.natAbs
  unfold printInteger
  split_ifs
  · rintro (_ | ⟨_, hmem⟩)
    exact hdigits hmem
  · exact hdigits

theorem printInteger_ne_nil (n : ℤ) : printInteger n ≠ [] := by
  unfold printInteger
  split_ifs
  · exact List.cons_ne_nil _ _
  · exact Nat.toDigits_ne_nil

theorem nul_not_mem_digits {s : Text} {n : ℤ} (h : Denotes s n) : NUL ∉ s :=
  fun hmem => absurd (h.all_digits NUL hmem) (by decide)

theorem nul_not_mem_two {n : ℤ} (hn : 0 ≤ n ∧ n ≤ 99) : NUL ∉ padded 2 n :=
  nul_not_mem_digits (denotes_two hn)

/-! ### Reading the texts of dates and times -/

section

variable {y m d hh mm ss : ℤ}

/-- The digits of a year, with a minus sign in front of them where it is negative. -/
theorem yearText_digits (c : Strftime) (hy : -2147481748 ≤ y ∧ y ≤ 2147483647) :
    ∃ ys, Denotes ys |y| ∧ yearText c.padding y = if y < 0 then '-' :: ys else ys := by
  obtain ⟨hlo, hhi⟩ := hy
  have habs : |y| = (y.natAbs : ℤ) := Int.abs_eq_natAbs y
  have hdenotes := @denotes_padded (c.padding y) |y| ⟨abs_nonneg y, by omega⟩
  rw [habs, Int.toNat_natCast] at hdenotes
  refine ⟨_, habs ▸ hdenotes, ?_⟩
  rw [yearText]
  split_ifs <;> rfl

theorem readParts_unsigned {format digits rest : Text} {n : ℤ} (h : Denotes digits n)
    {fields : DateFields} (hread : dbStrptime (digits ++ rest) format .zero = (true, fields)) :
    readParts format (digits ++ rest) = some fields := by
  have hhead : (digits ++ rest).head? ≠ some '-' := by
    have hdigits := h.all_digits
    obtain ⟨c, digits, rfl⟩ := List.exists_cons_of_ne_nil h.ne_nil
    have hdigit := hdigits c List.mem_cons_self
    intro hminus
    obtain rfl : c = '-' := Option.some.inj hminus
    exact absurd hdigit (by decide)
  rw [readParts, if_neg hhead, if_neg hhead, hread]
  rfl

theorem readParts_signed {format ys rest : Text} (hys : Denotes ys |y|) {fields : DateFields}
    (hread : dbStrptime (ys ++ rest) format .zero = (true, { fields with y := |y| })) :
    readParts format ((if y < 0 then '-' :: ys else ys) ++ rest) = some { fields with y := y } := by
  by_cases hsign : y < 0
  · rw [if_pos hsign, List.cons_append]
    change (if (dbStrptime (ys ++ rest) format .zero).1 then
      some { (dbStrptime (ys ++ rest) format .zero).2 with
        y := -(dbStrptime (ys ++ rest) format .zero).2.y } else none) = _
    rw [hread, if_pos rfl, abs_of_neg hsign, Int.neg_neg]
  · rw [abs_of_nonneg (not_lt.mp hsign)] at hys hread
    rw [if_neg hsign]
    exact readParts_unsigned hys hread

/-- The text of a date, whatever follows it. -/
theorem readParts_date (c : Strftime) (hdate : Printable y m d) {items : List Item} {rest : Text}
    {fields : DateFields} (hrest : rest.head?.any isdigit = false)
    (hword : rest.head?.any isspace = true → items.head?.all Item.isSpace = true)
    (hread : ∀ y, strptimeLoop false (formatText items) rest ⟨y, m, d, 0, 0, 0, 0⟩ =
      (true, { fields with y := y })) :
    readParts (formatText (dateItems ++ items)) (dateText (yearText c.padding y) m d rest) =
      some { fields with y := y } := by
  obtain ⟨ys, hys, hyear⟩ := yearText_digits c hdate.year
  have hloop := @dateText_read ys |y| m d items rest hys hdate.toMonthDay hrest hword .zero
  rw [dateText, hyear]
  refine readParts_signed hys ?_
  rw [← hread]
  exact hloop

theorem date_recovered (c : Strftime) (hdate : Printable y m d) :
    readParts dateFormat (dateText (yearText c.padding y) m d []) = some ⟨y, m, d, 0, 0, 0, 0⟩ := by
  have hparts := @readParts_date y m d c hdate [] [] ⟨y, m, d, 0, 0, 0, 0⟩ rfl (by simp) fun _ => rfl
  rwa [List.append_nil, ← dateFormat_eq] at hparts

theorem dateTime_recovered (c : Strftime) (hdate : Printable y m d)
    (htime : dbIsValidTime hh mm ss = true) :
    readParts dateTimeFormat
        (dateText (yearText c.padding y) m d (' ' :: timeText hh mm ss [])) =
      some ⟨y, m, d, hh, mm, ss, 0⟩ := by
  have hread (y : ℤ) := @spaceTime_read hh mm ss [] [] htime rfl (by simp) ⟨y, m, d, 0, 0, 0, 0⟩
  rw [List.append_nil] at hread
  rw [dateTimeFormat_eq]
  exact @readParts_date y m d c hdate (.space ' ' (by decide) :: timeItems) _
    ⟨y, m, d, hh, mm, ss, 0⟩ rfl (fun _ => rfl) hread

theorem time_recovered (htime : dbIsValidTime hh mm ss = true) :
    readParts timeFormat (timeText hh mm ss []) = some ⟨0, 0, 0, hh, mm, ss, 0⟩ := by
  obtain ⟨hhh, -⟩ := dbIsValidTime_iff.mp htime
  have hread := @timeText_read hh mm ss [] [] htime rfl (by simp) .zero
  rw [List.append_nil, ← timeFormat_eq] at hread
  exact readParts_unsigned (denotes_two ⟨hhh.1, by omega⟩) hread

/-! ### The texts of the objects -/

theorem formatDate_year {c : Strftime} {format text : Text} {micros : ℤ}
    (h : formatDate c format y m d hh mm ss micros = some text) : -2147481748 ≤ y := by
  unfold formatDate at h
  obtain ⟨year, hyear, -⟩ := Option.bind_eq_some_iff.mp h
  obtain ⟨hmem, -⟩ := int32_eq_some.mp hyear
  have hlow := hmem.1
  omega

theorem IsDate.printable {c : Strftime} {format text : Text} {micros : ℤ} (hdate : IsDate y m d)
    (h : formatDate c format y m d hh mm ss micros = some text) : Printable y m d :=
  ⟨hdate.toMonthDay, formatDate_year h, hdate.year.2⟩

theorem nul_not_mem_yearText (c : Strftime) (hy : -2147481748 ≤ y ∧ y ≤ 2147483647) :
    NUL ∉ yearText c.padding y := by
  obtain ⟨ys, hys, hyear⟩ := yearText_digits c hy
  have hdigits := nul_not_mem_digits hys
  rw [hyear]
  split_ifs
  · rintro (_ | ⟨_, hmem⟩)
    exact hdigits hmem
  · exact hdigits

theorem nul_not_mem_timeText (htime : dbIsValidTime hh mm ss = true) :
    NUL ∉ timeText hh mm ss [] := by
  obtain ⟨hhh, hmm, hss, -⟩ := dbIsValidTime_iff.mp htime
  have hcolon : NUL ≠ ':' := by decide
  have hhour := @nul_not_mem_two hh ⟨hhh.1, by omega⟩
  have hminute := @nul_not_mem_two mm ⟨hmm.1, by omega⟩
  have hsecond := @nul_not_mem_two ss ⟨hss.1, by omega⟩
  simp [timeText, hcolon, hhour, hminute, hsecond]

theorem nul_not_mem_dateText (c : Strftime) (hdate : Printable y m d) {rest : Text}
    (hrest : NUL ∉ rest) : NUL ∉ dateText (yearText c.padding y) m d rest := by
  obtain ⟨⟨hm, hd⟩, hy⟩ := hdate
  have hdash : NUL ≠ '-' := by decide
  have hyear := nul_not_mem_yearText c hy
  have hmonth := @nul_not_mem_two m ⟨by omega, by omega⟩
  have hday := @nul_not_mem_two d ⟨by omega, by omega⟩
  simp [dateText, hdash, hyear, hmonth, hday, hrest]

theorem dateText_ne_nil (ys : Text) (m d : ℤ) (rest : Text) : dateText ys m d rest ≠ [] :=
  List.append_ne_nil_of_right_ne_nil _ (List.cons_ne_nil _ _)

theorem timeText_ne_nil (hh mm ss : ℤ) (rest : Text) : timeText hh mm ss rest ≠ [] :=
  List.append_ne_nil_of_right_ne_nil _ (List.cons_ne_nil _ _)

end

/-! ### The parameter of each value -/

section

variable (rt : Runtime)

theorem says_text {v : BoundValue} {text : Text} (hrecovered : Recovered v (.text text))
    (hne : text ≠ []) (hnul : NUL ∉ text) : Says v (.text (cString text)) := by
  rw [cString_eq_iff.mpr hnul]
  refine ⟨hrecovered, fun _ => ⟨Param.noConfusion, fun h => hne ?_⟩⟩
  exact Param.text.inj h

theorem says_integer (kind : IntegerKind) (value : ℤ) :
    Says (.integer kind value) (paramOf rt (some ⟨.integer kind value, false⟩)) := by
  have hdecimal (hkind : Recovered (.integer kind value) (.text (printInteger value))) :
      Says (.integer kind value) (.text (cString (printInteger value))) :=
    says_text hkind (printInteger_ne_nil value) (nul_not_mem_printInteger value)
  have hread : ∃ text, Param.text (printInteger value) = .text text ∧ readInteger text = value :=
    ⟨_, rfl, readInteger_printInteger value⟩
  cases kind with
  | bool =>
    refine ⟨rfl, fun _ => ⟨Param.noConfusion, fun h => ?_⟩⟩
    have htext := Param.text.inj h
    split_ifs at htext
  | _ => exact hdecimal hread

theorem says_string_iff (value : Text) :
    Says (.string value) (paramOf rt (some (.setString value))) ↔ NUL ∉ value := by
  constructor
  · intro hsaid
    exact cString_eq_iff.mp (Param.text.inj hsaid.recovered)
  · intro hnul
    have hsent : paramOf rt (some (.setString value)) = .text value :=
      congrArg Param.text (cString_eq_iff.mpr hnul)
    rw [hsent]
    refine ⟨rfl, fun hne => ⟨Param.noConfusion, fun h => hne ?_⟩⟩
    exact Param.text.inj h

theorem not_says_decimal {value : Text} (hvalue : value ≠ []) :
    ¬ Says (.decimal value hvalue) (paramOf rt (some ⟨.decimal (some value), false⟩)) := by
  intro hsaid
  exact hvalue (Param.text.inj hsaid.recovered).symm

theorem says_date {t : TDBDate} {o : TDBType} (hnull : t.isNull = false)
    (hdate : IsDate t.year t.month t.day) (h : dateValue rt.strftime t = some o) :
    Says (.date t hnull hdate) (paramOf rt (some o)) := by
  obtain ⟨text, hformat, rfl⟩ := Option.map_eq_some_iff.mp h
  have hprintable := hdate.printable hformat
  obtain rfl : dateText (yearText rt.strftime.padding t.year) t.month t.day [] = text :=
    Option.some.inj ((formatDate_date rt.strftime hprintable 0).symm.trans hformat)
  rw [hnull]
  exact says_text ⟨_, rfl, date_recovered rt.strftime hprintable⟩ (dateText_ne_nil _ _ _ _)
    (nul_not_mem_dateText rt.strftime hprintable List.not_mem_nil)

theorem dateTimeFormat_spliced (micros : ℤ) :
    spliceMicros (microText micros) dateTimeFormat = formatText (dateTimeItems ++ []) := by
  rw [List.append_nil, dateTimeFormat_eq]
  exact spliceMicros_plain _ dateTimeItems_plain

theorem timeFormat_spliced (micros : ℤ) :
    spliceMicros (microText micros) timeFormat = formatText (timeItems ++ []) := by
  rw [List.append_nil, timeFormat_eq]
  exact spliceMicros_plain _ timeItems_plain

theorem says_dateTime {t : TDBDateTime} {o : TDBType} (hnull : t.isNull = false)
    (hdate : IsDate t.year t.month t.day) (htime : dbIsValidTime t.hour t.minute t.second = true)
    (h : dateTimeValue rt.strftime t = some o) :
    Says (.dateTime t hnull hdate htime) (paramOf rt (some o)) := by
  obtain ⟨text, hformat, rfl⟩ := Option.map_eq_some_iff.mp h
  have hprintable := hdate.printable hformat
  have hprinted := formatDate_dateTime rt.strftime (constant_nil _) hprintable htime
    (dateTimeFormat_spliced t.microsecond)
  obtain rfl : dateText (yearText rt.strftime.padding t.year) t.month t.day
      (' ' :: timeText t.hour t.minute t.second []) = text :=
    Option.some.inj (hprinted.symm.trans hformat)
  have hrest : NUL ∉ ' ' :: timeText t.hour t.minute t.second [] := by
    rintro (_ | ⟨_, hmem⟩)
    exact nul_not_mem_timeText htime hmem
  rw [hnull]
  exact says_text ⟨_, rfl, dateTime_recovered rt.strftime hprintable htime⟩
    (dateText_ne_nil _ _ _ _) (nul_not_mem_dateText rt.strftime hprintable hrest)

theorem says_time {t : TDBTime} {o : TDBType} (hnull : t.isNull = false)
    (htime : dbIsValidTime t.hour t.minute t.second = true) (h : timeValue rt.strftime t = some o) :
    Says (.time t hnull htime) (paramOf rt (some o)) := by
  obtain ⟨text, hformat, rfl⟩ := Option.map_eq_some_iff.mp h
  have hprinted := formatDate_time rt.strftime (constant_nil _) htime
    (timeFormat_spliced t.microsecond)
  obtain rfl : timeText t.hour t.minute t.second [] = text :=
    Option.some.inj (hprinted.symm.trans hformat)
  rw [hnull]
  exact says_text ⟨_, rfl, time_recovered htime⟩ (timeText_ne_nil _ _ _ _)
    (nul_not_mem_timeText htime)

theorem says_blob (value : List UInt8) : Says (.blob value) (paramOf rt (some (.setBlob value))) := by
  cases value with
  | nil => exact ⟨.inl rfl, fun hne => absurd rfl hne⟩
  | cons b data => exact ⟨.inr rfl, fun _ => ⟨Param.noConfusion, Param.noConfusion⟩⟩

theorem says_iff {v : BoundValue} {o : TDBType} (h : v.object rt.strftime = some o) :
    Says v (paramOf rt (some o)) ↔ v.Sendable := by
  cases v with
  | integer kind value =>
    cases h
    exact iff_of_true (says_integer rt kind value) trivial
  | string value =>
    cases h
    exact says_string_iff rt value
  | decimal value hvalue =>
    cases h
    exact iff_of_false (not_says_decimal rt hvalue) not_false
  | date t hnull hdate => exact iff_of_true (says_date rt hnull hdate h) trivial
  | dateTime t hnull hdate htime => exact iff_of_true (says_dateTime rt hnull hdate htime h) trivial
  | time t hnull htime => exact iff_of_true (says_time rt hnull htime h) trivial
  | blob value =>
    cases h
    exact iff_of_true (says_blob rt value) trivial

/-- Each execution of a prepared statement sends a parameter at the position of a bound
value, which says the value unless it is a decimal or a string with a NUL. -/
theorem parameter_says_value_iff (pq : Libpq) {s : Session} {v : BoundValue} {o : TDBType} {i : ℕ}
    (hobject : v.object rt.strftime = some o) (hbound : s.2.boundValues[i]? = some (some o)) :
    ∃ name params, (execute pq rt s).2.1.log =
        s.1.log ++ [.execPrepared name params.length params] ∧
      ∃ p, params[i]? = some p ∧ (Says v p ↔ v.Sendable) := by
  have hlog := execute_log pq rt s
  rw [← List.length_map (paramOf rt)] at hlog
  refine ⟨_, _, hlog, paramOf rt (some o), ?_, says_iff rt hobject⟩
  rw [List.getElem?_map, hbound]
  rfl

end

/-- A prepared statement with one bound value. -/
def binding (o : TDBType) : Session :=
  let s := createResultSet opened
  (s.1, { s.2 with toTQueryResultSet := s.2.toTQueryResultSet.addBindValue (some o) })

theorem parameter_says_value_integer :
    ∃ name params, (execute acknowledging plain (binding (.setInt 7))).2.1.log =
        (binding (.setInt 7)).1.log ++ [.execPrepared name params.length params] ∧
      ∃ p, params[0]? = some p ∧
        (Says (.integer .int 7) p ↔ BoundValue.Sendable (.integer .int 7)) :=
  parameter_says_value_iff plain acknowledging rfl rfl

/-- A decimal that is not null is sent as an empty text. -/
theorem decimal_sent_empty :
    (execute acknowledging plain (binding ⟨.decimal (some "1.5".toList), false⟩)).2.1.log =
        [.execPrepared [] 1 [.text []]] ∧
      ¬ Says (.decimal "1.5".toList (by decide)) (.text []) :=
  ⟨by decide +kernel, fun hsaid => absurd rfl (hsaid.present not_false).2⟩

end DatabaseMod.PostgresValues
