import DatabaseMod.CoreDateParser
import DatabaseMod.CoreDateTypes

/-!
# Dates and times as texts

The date, time and datetime objects of the core: how they are made from parts and from
texts, and how they are formatted. The C library's `strftime` is a parameter that prints
what the conversions used here are documented to print.
-/

namespace DatabaseMod.CoreTemporal
open MachineInteger CoreGlue CoreStrptime CoreDateParser
open CoreDateTypes (TDBDateTime)
open SqlTokens (Text)

/-! ### Formats -/

def literal (c : Char) (h : c ≠ '%' ∧ isspace c = false := by decide) : Item := .literal c h

def dateItems : List Item :=
  [.field .year, literal '-', .field .month, literal '-', .field .day]

def timeItems : List Item :=
  [.field .hour, literal ':', .field .minute, literal ':', .field .second]

def fractionItems : List Item := [literal '.', .field .fraction]

def dateTimeItems : List Item := dateItems ++ .space ' ' (by decide) :: timeItems

def dateFormat : Text := "%Y-%m-%d".toList
def timeFormat : Text := "%H:%M:%S".toList
def timeFractionFormat : Text := "%H:%M:%S.%f".toList
def dateTimeFormat : Text := "%Y-%m-%d %H:%M:%S".toList
def dateTimeFractionFormat : Text := "%Y-%m-%d %H:%M:%S.%f".toList

theorem dateFormat_eq : dateFormat = formatText dateItems := by decide

theorem timeFormat_eq : timeFormat = formatText timeItems := by decide

theorem timeFractionFormat_eq : timeFractionFormat = formatText (timeItems ++ fractionItems) := by
  decide

theorem dateTimeFormat_eq : dateTimeFormat = formatText dateTimeItems := by decide

theorem dateTimeFractionFormat_eq :
    dateTimeFractionFormat = formatText (dateTimeItems ++ fractionItems) := by decide

/-! ### Objects -/

structure TDBDate where
  isNull : Bool := true
  value : ℤ := 0
  year : ℤ := 1900
  month : ℤ := 1
  day : ℤ := 1
deriving DecidableEq, Repr

namespace TDBDate

def clear (this : TDBDate) : TDBDate := { this with value := 0, isNull := true }

/-- `none` only where `_calcDateValue` overflows. -/
def setFromParts (this : TDBDate) (y m d : ℤ) : Option TDBDate :=
  if dbIsValidDate y m d = false then some this.clear
  else do
    let v ← calcDateValue y m d 0 0 0
    some { isNull := false, value := v, year := y, month := m, day := d }

def set (y m d : ℤ) : Option TDBDate := setFromParts {} y m d

/-- `none` is the null object. -/
def setFromString (date : Text) : Option TDBDate :=
  let r := dbStrptime date dateFormat .zero
  if r.1 && dbIsValidDate r.2.y r.2.m r.2.d then set r.2.y r.2.m r.2.d else none

end TDBDate

structure TDBTime where
  isNull : Bool := true
  value : ℤ := 0
  microsecond : ℤ := 0
  hour : ℤ := 0
  minute : ℤ := 0
  second : ℤ := 0
deriving DecidableEq, Repr

namespace TDBTime

def clear (_ : TDBTime) : TDBTime := {}

def setFromParts (this : TDBTime) (hh mm ss micros : ℤ) : Option TDBTime :=
  if dbIsValidTime hh mm ss micros = false then some this.clear
  else do
    let v ← calcDateValue 1900 1 1 hh mm ss
    some { isNull := false, value := v, microsecond := micros, hour := hh, minute := mm,
           second := ss }

def set (hh mm ss micros : ℤ) : Option TDBTime := setFromParts {} hh mm ss micros

/-- Both attempts write to the same variables. -/
def setFromString (date : Text) : Option TDBTime :=
  let r := dbStrptime date timeFractionFormat .zero
  if r.1 then set r.2.hh r.2.mm r.2.ss r.2.micros
  else
    let r := dbStrptime date timeFormat r.2
    if r.1 then set r.2.hh r.2.mm r.2.ss r.2.micros else none

end TDBTime

namespace TDBDateTime

def set (y m d hh mm ss micros : ℤ) : Option TDBDateTime :=
  CoreDateTypes.TDBDateTime.setFromParts {} y m d hh mm ss micros

def setFromString (date : Text) : Option TDBDateTime :=
  let r := dbStrptime date dateTimeFractionFormat .zero
  if r.1 && dbIsValidDate r.2.y r.2.m r.2.d && dbIsValidTime r.2.hh r.2.mm r.2.ss r.2.micros then
    set r.2.y r.2.m r.2.d r.2.hh r.2.mm r.2.ss r.2.micros
  else
    let r := dbStrptime date dateTimeFormat r.2
    if r.1 && dbIsValidDate r.2.y r.2.m r.2.d && dbIsValidTime r.2.hh r.2.mm r.2.ss then
      set r.2.y r.2.m r.2.d r.2.hh r.2.mm r.2.ss 0
    else none

end TDBDateTime

/-! ### What is missing from a text -/

theorem time_set_isSome (hh mm ss micros : ℤ) : ∃ t, TDBTime.set hh mm ss micros = some t := by
  unfold TDBTime.set TDBTime.setFromParts
  split_ifs with hvalid
  · exact ⟨_, rfl⟩
  · have hvalid : dbIsValidTime hh mm ss micros = true := by simpa using hvalid
    obtain ⟨hhh, hmm, hss, -⟩ := dbIsValidTime_iff.mp hvalid
    have hcalc := calcDateValue_eq (y := 1900) (m := 1) (d := 1) (by omega) (by omega) (by omega)
      hhh hmm hss
    rw [hcalc]
    exact ⟨_, rfl⟩

theorem time_setFromString_iff (date : Text) : (∃ t, TDBTime.setFromString date = some t) ↔
    (∃ omitted, Accepted omitted (timeItems ++ fractionItems) date) ∨
      ∃ omitted, Accepted omitted timeItems date := by
  unfold TDBTime.setFromString
  rw [timeFractionFormat_eq, timeFormat_eq]
  dsimp only
  rw [← @dbStrptime_iff (timeItems ++ fractionItems) date .zero, ← @dbStrptime_iff timeItems date
    (dbStrptime date (formatText (timeItems ++ fractionItems)) .zero).2]
  split_ifs with hfraction htime
  · exact iff_of_true (time_set_isSome _ _ _ _) (.inl hfraction)
  · exact iff_of_true (time_set_isSome _ _ _ _) (.inr htime)
  · simp [hfraction, htime]

/-- A text that leaves out a part of a format does not match a longer one either. -/
theorem not_matches_append {omitted : Bool} {items : List Item} {date : Text}
    (h : Accepted omitted items date) (homitted : omitted = true) (tail : List Item) :
    ¬ Matches (items ++ tail) date := by
  induction h with
  | done h => cases homitted
  | literal hhead h ih => exact fun hmatches => ih homitted hmatches.2
  | space h ih => exact ih homitted
  | percent hhead h ih => exact fun hmatches => ih homitted hmatches.2
  | number hdigits hrange hword h ih => exact fun hmatches => ih homitted hmatches.2
  | @cut omitted items date s hdigits hrange hblank hword h ih =>
    rintro ⟨-, hrest⟩
    cases items with
    | nil => cases hword
    | cons item items => exact not_matches_of_space hword hblank hrest
  | missing hs hblank h ih => exact fun hmatches => hmatches.1 (no_digits_of_blank hblank)
  | missingYear hblank h ih => exact fun hmatches => hmatches.1 (no_digits_of_blank hblank)

/-- Where a word of numbers is accepted with an omission, so is its beginning. -/
theorem word_step {s : Specifier} (hs : s ≠ .year) {c : Char} {hc : c ≠ '%' ∧ isspace c = false}
    (rest : List Item) {tail : List Item} (hword : ∀ item ∈ rest ++ tail, item.isSpace = false)
    (h : ∀ date, Accepted true (rest ++ tail) date → ∃ omitted, Accepted omitted rest date)
    {date : Text} (hdate : Accepted true (.field s :: .literal c hc :: (rest ++ tail)) date) :
    ∃ omitted, Accepted omitted (.field s :: .literal c hc :: rest) date := by
  have hdrop {l : List Item} (hl : ∀ item ∈ l, item.isSpace = false) :
      (Item.literal c hc :: l).dropWhile (!Item.isSpace ·) = [] := by
    rw [List.dropWhile_eq_nil_iff]
    intro item hitem
    rcases List.mem_cons.mp hitem with rfl | hitem
    · rfl
    · simp [hl item hitem]
  cases hdate with
  | number hdigits hrange hnext hdate =>
    cases hdate with
    | literal hhead hdate =>
      obtain ⟨omitted, hrest⟩ := h _ hdate
      exact ⟨omitted, .number hdigits hrange hnext (.literal hhead hrest)⟩
  | cut hdigits hrange hblank hnext hdate =>
    rw [hdrop hword] at hdate
    have hrest := hdrop fun item hitem => hword item (List.mem_append_left tail hitem)
    exact ⟨true, .cut hdigits hrange hblank rfl (hrest ▸ hdate)⟩
  | missing hs hblank hdate =>
    cases hdate with
    | literal hhead hdate =>
      rw [atBlank, hhead] at hblank
      exact absurd (hblank.symm.trans hc.2) (by decide)
  | missingYear => exact absurd rfl hs

theorem second_prefix {date : Text} (h : Accepted true (.field .second :: fractionItems) date) :
    ∃ omitted, Accepted omitted [.field .second] date := by
  cases h with
  | number hdigits hrange hnext h =>
    cases h with
    | literal hhead h =>
      cases h with
      | number hdigits hrange hnext h => cases h
      | cut hdigits hrange hblank hnext h => cases hnext
      | missing hs => simp at hs
  | cut hdigits hrange hblank hnext h => exact ⟨_, .number hdigits hrange (fun _ => rfl) h⟩
  | missing hs hblank h =>
    cases h with
    | literal hhead h =>
      rw [atBlank, hhead] at hblank
      cases hblank

theorem time_prefix {date : Text} (h : Accepted true (timeItems ++ fractionItems) date) :
    ∃ omitted, Accepted omitted timeItems date := by
  refine word_step (by decide) [.field .minute, literal ':', .field .second] (by decide)
    (fun date h => ?_) h
  exact word_step (by decide) [.field .second] (by decide)
    (fun date h => second_prefix h) h

/-- A time is made from a text that lacks a part exactly where `timeFormat` leaves it out. -/
theorem time_complete_iff (date : Text) :
    ((∃ t, TDBTime.setFromString date = some t) →
      Matches timeItems date ∨ Matches (timeItems ++ fractionItems) date) ↔
    ¬ Accepted true timeItems date := by
  rw [time_setFromString_iff]
  constructor
  · intro h homitted
    rcases h (.inr ⟨true, homitted⟩) with hmatches | hmatches
    · exact absurd (homitted.matches_iff.mp hmatches) (by decide)
    · exact not_matches_append homitted rfl fractionItems hmatches
  · rintro h (⟨omitted, haccepted⟩ | ⟨omitted, haccepted⟩)
    · cases omitted with
      | false => exact .inr (haccepted.matches_iff.mpr rfl)
      | true =>
        obtain ⟨omitted, htime⟩ := time_prefix haccepted
        cases omitted with
        | false => exact .inl (htime.matches_iff.mpr rfl)
        | true => exact absurd htime h
    · cases omitted with
      | false => exact .inl (haccepted.matches_iff.mpr rfl)
      | true => exact absurd haccepted h

theorem dateTime_complete {date : Text} (h : ¬ Accepted true dateTimeItems date)
    (hfraction : ¬ Accepted true (dateTimeItems ++ fractionItems) date)
    (hdate : ∃ t, TDBDateTime.setFromString date = some t) :
    Matches dateTimeItems date ∨ Matches (dateTimeItems ++ fractionItems) date := by
  have hcomplete {items : List Item} {fields : DateFields} (h : ¬ Accepted true items date)
      (hr : (dbStrptime date (formatText items) fields).1 = true) : Matches items date :=
    (accepted_matches_iff items date fields).mpr h hr
  obtain ⟨t, ht⟩ := hdate
  unfold TDBDateTime.setFromString at ht
  rw [dateTimeFractionFormat_eq, dateTimeFormat_eq] at ht
  dsimp only at ht
  split_ifs at ht with hfirst hsecond
  · simp only [Bool.and_eq_true] at hfirst
    exact .inr (hcomplete hfraction hfirst.1.1)
  · simp only [Bool.and_eq_true] at hsecond
    exact .inl (hcomplete h hsecond.1.1)

/-- A text that is accepted matches the whole format unless a part of it was left out; then
the times that are made from it lack that part. -/
theorem accepted_texts_complete (date : Text) :
    (∀ items fields, ((dbStrptime date (formatText items) fields).1 = true →
      Matches items date) ↔ ¬ Accepted true items date) ∧
    (((∃ t, TDBTime.setFromString date = some t) →
      Matches timeItems date ∨ Matches (timeItems ++ fractionItems) date) ↔
        ¬ Accepted true timeItems date) ∧
    (¬ Accepted true dateTimeItems date →
      ¬ Accepted true (dateTimeItems ++ fractionItems) date →
      (∃ t, TDBDateTime.setFromString date = some t) →
      Matches dateTimeItems date ∨ Matches (dateTimeItems ++ fractionItems) date) :=
  ⟨fun items fields => accepted_matches_iff items date fields, time_complete_iff date,
    fun h hfraction hdate => dateTime_complete h hfraction hdate⟩

/-- Times without their seconds, and without their minutes and seconds. -/
theorem incomplete_times_accepted :
    ((dbStrptime "12:34:".toList timeFormat .zero).1 = true ∧
      ¬ Matches timeItems "12:34:".toList ∧
      TDBTime.setFromString "12:34:".toList = some ⟨false, -2208943560, 0, 12, 34, 0⟩) ∧
    (dbStrptime "12 ".toList timeFormat .zero).1 = true ∧ ¬ Matches timeItems "12 ".toList ∧
      TDBTime.setFromString "12 ".toList = some ⟨false, -2208945600, 0, 12, 0, 0⟩ := by
  decide +kernel

theorem accepted_texts_complete_datetime :
    Matches dateTimeItems "2024-01-02 12:34:56".toList ∨
      Matches (dateTimeItems ++ fractionItems) "2024-01-02 12:34:56".toList := by
  obtain ⟨hformat, -, hdateTime⟩ := accepted_texts_complete "2024-01-02 12:34:56".toList
  refine hdateTime ((hformat _ .zero).mp fun _ => ?_) ((hformat _ .zero).mp fun h => ?_)
    (Option.isSome_iff_exists.mp (by decide +kernel))
  · decide +kernel
  · exact absurd h (by decide +kernel)

/-! ### Reading the parts of a text -/

/-- A run of digits that is read as `n`. -/
structure Denotes (digits : Text) (n : ℤ) : Prop where
  ne_nil : digits ≠ []
  all_digits : ∀ c ∈ digits, isdigit c = true
  value : (scanNumber 0 digits).1 = n

/-- A decimal number, possibly padded with zeros, that fits an `Int`. -/
theorem denotes_padded (padding : ℕ) {n : ℤ} (hn : 0 ≤ n ∧ n ≤ 2147483647) :
    Denotes (List.replicate padding '0' ++ Nat.toDigits 10 n.toNat) n := by
  have hdigits : ∀ c ∈ List.replicate padding '0' ++ Nat.toDigits 10 n.toNat, isdigit c = true := by
    intro c hc
    rcases List.mem_append.mp hc with hc | hc
    · rw [List.eq_of_mem_replicate hc]
      decide
    · have hdigit := Nat.isDigit_of_mem_toDigits (by decide) (le_refl 10) hc
      simpa [isdigit, Char.isDigit, Char.le_def] using hdigit
  refine ⟨by simp [Nat.toDigits_ne_nil], hdigits, ?_⟩
  have hvalue : Nat.ofDigitChars 10 (List.replicate padding '0' ++ Nat.toDigits 10 n.toNat) 0 =
      n.toNat := by
    rw [Nat.ofDigitChars_append, Nat.ofDigitChars_replicate_zero, Nat.mul_zero,
      Nat.ofDigitChars_ten_toDigits]
  have hscan := scanNumber_value hdigits (n := 0) (by omega)
  rw [Nat.cast_zero (R := ℤ), hvalue] at hscan
  rw [hscan]
  exact Int.toNat_of_nonneg hn.1

theorem takeWhile_digits {digits rest : Text} (h : ∀ c ∈ digits, isdigit c = true)
    (hrest : rest.head?.any isdigit = false) :
    (digits ++ rest).takeWhile isdigit = digits ∧ (digits ++ rest).dropWhile isdigit = rest := by
  rw [List.takeWhile_append_of_pos h, List.dropWhile_append_of_pos h]
  cases rest with
  | nil => simp
  | cons c rest =>
    have hc : isdigit c = false := hrest
    simp [hc]

section Reading

variable {items : List Item} {rest : Text} {fields : DateFields}

theorem loop_reads {s : Specifier} {digits : Text} {n : ℤ} (h : Denotes digits n)
    (hrange : s.inRange digits = true) (hrest : rest.head?.any isdigit = false)
    (hword : rest.head?.any isspace = true → items.head?.all Item.isSpace = true) :
    strptimeLoop false (formatText (.field s :: items)) (digits ++ rest) fields =
      strptimeLoop false (formatText items) rest (s.set fields digits) := by
  obtain ⟨htake, hdrop⟩ := takeWhile_digits h.all_digits hrest
  have hne : (digits ++ rest).takeWhile isdigit ≠ [] := htake.symm ▸ h.ne_nil
  rw [loop_field, readSpecifier_digits s hne, htake, hdrop, if_pos hrange]
  dsimp only
  rw [loop_below]
  split_ifs with hblank
  · rw [dropWhile_of_head_space (hword hblank)]
  · rfl

theorem loop_reads_literal {c : Char} {h : c ≠ '%' ∧ isspace c = false} :
    strptimeLoop false (formatText (literal c h :: items)) (c :: rest) fields =
      strptimeLoop false (formatText items) rest fields := by
  rw [literal, loop_literal]
  exact if_pos rfl

theorem loop_reads_end (fields : DateFields) :
    strptimeLoop false (formatText []) [] fields = (true, fields) := rfl

theorem date_read {ys ms ds : Text} {y m d : ℤ} (hy : Denotes ys y) (hm : Denotes ms m)
    (hd : Denotes ds d) (hmonth : 1 ≤ m ∧ m ≤ 12) (hday : d ≤ 31)
    (hrest : rest.head?.any isdigit = false)
    (hword : rest.head?.any isspace = true → items.head?.all Item.isSpace = true) :
    strptimeLoop false (formatText (dateItems ++ items)) (ys ++ '-' :: (ms ++ '-' :: (ds ++ rest)))
      fields = strptimeLoop false (formatText items) rest { fields with y := y, m := m, d := d } := by
  have hmrange : Specifier.month.inRange ms = true := by
    simp only [Specifier.inRange, hm.value, Bool.and_eq_true, decide_eq_true_eq]
    exact hmonth
  have hdrange : Specifier.day.inRange ds = true := by
    simpa only [Specifier.inRange, hd.value, decide_eq_true_eq] using hday
  rw [dateItems, List.cons_append, loop_reads hy rfl rfl (by simp [isspace]), List.cons_append,
    loop_reads_literal, List.cons_append, loop_reads hm hmrange rfl (by simp [isspace]),
    List.cons_append, loop_reads_literal, List.cons_append, List.nil_append,
    loop_reads hd hdrange hrest hword]
  simp only [Specifier.set, hy.value, hm.value, hd.value]

theorem time_read {hs ms ss : Text} {hh mm sec : ℤ} (hhh : Denotes hs hh) (hmm : Denotes ms mm)
    (hss : Denotes ss sec) (hhour : hh ≤ 23) (hminute : mm ≤ 59) (hsecond : sec ≤ 59)
    (hrest : rest.head?.any isdigit = false)
    (hword : rest.head?.any isspace = true → items.head?.all Item.isSpace = true) :
    strptimeLoop false (formatText (timeItems ++ items)) (hs ++ ':' :: (ms ++ ':' :: (ss ++ rest)))
      fields =
        strptimeLoop false (formatText items) rest { fields with hh := hh, mm := mm, ss := sec } := by
  have hhrange : Specifier.hour.inRange hs = true := by
    simpa only [Specifier.inRange, hhh.value, decide_eq_true_eq] using hhour
  have hmrange : Specifier.minute.inRange ms = true := by
    simpa only [Specifier.inRange, hmm.value, decide_eq_true_eq] using hminute
  have hsrange : Specifier.second.inRange ss = true := by
    simpa only [Specifier.inRange, hss.value, decide_eq_true_eq] using hsecond
  rw [timeItems, List.cons_append, loop_reads hhh hhrange rfl (by simp [isspace]), List.cons_append,
    loop_reads_literal, List.cons_append, loop_reads hmm hmrange rfl (by simp [isspace]),
    List.cons_append, loop_reads_literal, List.cons_append, List.nil_append,
    loop_reads hss hsrange hrest hword]
  simp only [Specifier.set, hhh.value, hmm.value, hss.value]

/-- Up to six digits of a fraction are read as microseconds. -/
theorem fraction_reads {fs : Text} {f : ℤ} (hf : Denotes fs f) (hlength : fs.length ≤ 6)
    (hrest : rest.head?.any isdigit = false) :
    strptimeLoop false (formatText fractionItems) ('.' :: (fs ++ rest)) fields =
      strptimeLoop false (formatText []) rest { fields with micros := f * 10 ^ (6 - fs.length) } := by
  have hrange : Specifier.fraction.inRange fs = true := by
    simpa only [Specifier.inRange, decide_eq_true_eq] using hlength
  rw [fractionItems, loop_reads_literal, loop_reads hf hrange hrest fun _ => rfl]
  simp only [Specifier.set, hf.value]

theorem fraction_read {fs : Text} {f : ℤ} (hf : Denotes fs f) (hlength : fs.length ≤ 6) :
    strptimeLoop false (formatText fractionItems) ('.' :: fs) fields =
      (true, { fields with micros := f * 10 ^ (6 - fs.length) }) := by
  have hread := @fraction_reads [] fields fs f hf hlength rfl
  rwa [List.append_nil, loop_reads_end] at hread

end Reading

end DatabaseMod.CoreTemporal
