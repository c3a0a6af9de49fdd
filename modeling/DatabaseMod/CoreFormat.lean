import DatabaseMod.CoreTemporal

/-!
# Formatted dates and times

`_formatDate` puts the microseconds into the format and leaves the rest to the C library's
`strftime`, which is a parameter here: it prints what the conversions that the core uses
are documented to print. The texts that are formatted this way are read back as the
objects they were printed from.
-/

namespace DatabaseMod.CoreFormat
open MachineInteger CoreGlue CoreStrptime CoreDateParser CoreTemporal
open CoreDateTypes (TDBDateTime calcDateValue_valid)
open SqlTokens (Text)

/-! ### The C library -/

/-- A number with at least `width` digits. -/
def padded (width : ℕ) (n : ℤ) : Text :=
  List.replicate (width - (Nat.toDigits 10 n.toNat).length) '0' ++ Nat.toDigits 10 n.toNat

structure Tm where
  year : ℤ
  mon : ℤ
  mday : ℤ
  hour : ℤ
  min : ℤ
  sec : ℤ

structure Tm.Normal (tm : Tm) : Prop where
  year : -2147483648 ≤ tm.year ∧ tm.year + 1900 ≤ 2147483647
  mon : 0 ≤ tm.mon ∧ tm.mon ≤ 11
  mday : 1 ≤ tm.mday ∧ tm.mday ≤ 31
  hour : 0 ≤ tm.hour ∧ tm.hour ≤ 23
  min : 0 ≤ tm.min ∧ tm.min ≤ 59
  sec : 0 ≤ tm.sec ∧ tm.sec ≤ 59

/-- The year with its sign and its zeros in front. -/
def yearText (padding : ℤ → ℕ) (y : ℤ) : Text :=
  (if y < 0 then ['-'] else []) ++ (List.replicate (padding y) '0' ++ Nat.toDigits 10 y.natAbs)

def printed (padding : ℤ → ℕ) (tm : Tm) : Item → Text
  | .literal c _ => [c]
  | .space c _ => [c]
  | .percent => ['%']
  | .field .year => yearText padding (tm.year + 1900)
  | .field .month => padded 2 (tm.mon + 1)
  | .field .day => padded 2 tm.mday
  | .field .hour => padded 2 tm.hour
  | .field .minute => padded 2 tm.min
  | .field .second => padded 2 tm.sec
  | .field .fraction => []

/-- `strftime` without its limit. A library may pad the year, but not beyond its buffer. -/
structure Strftime where
  print : Text → Tm → Text
  padding : ℤ → ℕ
  padding_le : ∀ y, padding y ≤ 900
  prints : ∀ items tm, tm.Normal → (∀ item ∈ items, item ≠ .field .fraction) →
    print (formatText items) tm = items.flatMap (printed padding tm)

/-! ### Formatting -/

/-- `%06d`, cut to the six characters of `us`. -/
def microText (micros : ℤ) : Text :=
  (if micros < 0 then '-' :: padded 5 (-micros) else padded 6 micros).take 6

/-- Replaces `%f` by the microseconds. -/
def spliceMicros (us : Text) : Text → Text
  | [] => []
  | [c] => [c]
  | c :: d :: src =>
    if c = '%' ∧ d = 'f' then us ++ spliceMicros us src else c :: spliceMicros us (d :: src)

/-- An empty text where the result does not fit the buffer; `none` only where the year of
the C library overflows. -/
def formatDate (c : Strftime) (format : Text) (y m d hh mm ss micros : ℤ) : Option Text := do
  let fmtbuf := (spliceMicros (microText micros) format).take 1023
  let year ← int32 (y - 1900)
  let buffer := c.print fmtbuf
    { year := year, mon := m - 1, mday := d, hour := hh, min := mm, sec := ss }
  some (if buffer.length < 1024 then buffer else [])

def TDBDate.format (c : Strftime) (this : TDBDate) (fmt : Text := dateFormat) : Option Text :=
  formatDate c fmt this.year this.month this.day 0 0 0 0

def TDBDateTime.format (c : Strftime) (this : TDBDateTime) (fmt : Text := dateTimeFormat) :
    Option Text :=
  formatDate c fmt this.year this.month this.day this.hour this.minute this.second
    this.microsecond

def TDBTime.format (c : Strftime) (this : TDBTime) (fmt : Text := timeFormat) : Option Text :=
  formatDate c fmt 1900 1 1 this.hour this.minute this.second this.microsecond

/-! ### Padded numbers -/

theorem length_toDigits_le {width : ℕ} (hwidth : 0 < width) {n : ℤ} (hn : n < 10 ^ width) :
    (Nat.toDigits 10 n.toNat).length ≤ width := by
  rw [Nat.length_toDigits_le_iff (by decide) hwidth]
  have hpow : (10 : ℤ) ^ width = ((10 ^ width : ℕ) : ℤ) := by push_cast; rfl
  have hpos : 0 < 10 ^ width := by positivity
  omega

theorem padded_length {width : ℕ} (hwidth : 0 < width) {n : ℤ} (hn : n < 10 ^ width) :
    (padded width n).length = width := by
  have hle := length_toDigits_le hwidth hn
  simp only [padded, List.length_append, List.length_replicate]
  omega

theorem denotes_two {n : ℤ} (hn : 0 ≤ n ∧ n ≤ 99) : Denotes (padded 2 n) n :=
  denotes_padded _ ⟨hn.1, by omega⟩

theorem microText_eq {micros : ℤ} (h : 0 ≤ micros ∧ micros ≤ 999999) :
    microText micros = padded 6 micros := by
  have hlength := @padded_length 6 (by decide) micros (by omega)
  rw [microText, if_neg (by omega), List.take_of_length_le hlength.le]

theorem denotes_micros {micros : ℤ} (h : 0 ≤ micros ∧ micros ≤ 999999) :
    Denotes (microText micros) micros := by
  rw [microText_eq h]
  exact denotes_padded _ ⟨h.1, by omega⟩

theorem denotes_year (c : Strftime) {y : ℤ} (hy : 0 ≤ y ∧ y ≤ 2147483647) :
    Denotes (yearText c.padding y) y := by
  have hnat : y.natAbs = y.toNat := by omega
  rw [yearText, if_neg (by omega), List.nil_append, hnat]
  exact denotes_padded _ hy

theorem yearText_length (c : Strftime) {y : ℤ} (hy : -2147481748 ≤ y ∧ y ≤ 2147483647) :
    (yearText c.padding y).length ≤ 911 := by
  have hdigits := @length_toDigits_le 10 (by decide) (y.natAbs : ℤ) (by omega)
  have hpadding := c.padding_le y
  have hsign : (if y < 0 then ['-'] else []).length ≤ 1 := by split_ifs <;> decide
  rw [Int.toNat_natCast] at hdigits
  simp only [yearText, List.length_append, List.length_replicate]
  omega

/-! ### The microseconds in the format -/

theorem literal_of_digit {c : Char} (h : isdigit c = true) : c ≠ '%' ∧ isspace c = false := by
  refine ⟨?_, not_isspace_of_isdigit h⟩
  rintro rfl
  exact absurd h (by decide)

/-- Digits as literals of a format. -/
def literals (us : Text) (h : ∀ c ∈ us, isdigit c = true) : List Item :=
  us.pmap (fun c hc => .literal c (literal_of_digit hc)) h

theorem formatText_literals (us : Text) (h : ∀ c ∈ us, isdigit c = true) :
    formatText (literals us h) = us := by
  induction us with
  | nil => rfl
  | cons c us ih => exact congrArg (c :: ·) (ih fun x hx => h x (List.mem_cons_of_mem c hx))

theorem printed_literals (padding : ℤ → ℕ) (tm : Tm) (us : Text) (h : ∀ c ∈ us, isdigit c = true) :
    (literals us h).flatMap (printed padding tm) = us := by
  induction us with
  | nil => rfl
  | cons c us ih => exact congrArg (c :: ·) (ih fun x hx => h x (List.mem_cons_of_mem c hx))

theorem spliceMicros_cons (us : Text) {c : Char} (hc : c ≠ '%') (src : Text) :
    spliceMicros us (c :: src) = c :: spliceMicros us src := by
  cases src with
  | nil => rfl
  | cons d src => exact if_neg fun h => hc h.1

/-- Apart from percent signs and `%f` itself, the items of a format stay as they are. -/
theorem spliceMicros_items (us : Text) {items : List Item}
    (h : ∀ item ∈ items, item ≠ .percent ∧ item ≠ .field .fraction) (src : Text) :
    spliceMicros us (formatText items ++ src) = formatText items ++ spliceMicros us src := by
  induction items with
  | nil => rfl
  | cons item items ih =>
    have hrest := ih fun x hx => h x (List.mem_cons_of_mem item hx)
    cases item with
    | literal c hc => exact (spliceMicros_cons us hc.1 _).trans (congrArg (c :: ·) hrest)
    | space c hc =>
      have hne : c ≠ '%' := by
        rintro rfl
        exact absurd hc (by decide)
      exact (spliceMicros_cons us hne _).trans (congrArg (c :: ·) hrest)
    | percent => exact absurd rfl (h _ List.mem_cons_self).1
    | field s =>
      have hs : s ≠ .fraction := fun hs => (h _ List.mem_cons_self).2 (congrArg Item.field hs)
      have hf : s.char ≠ 'f' := by cases s <;> simp_all [Specifier.char]
      have hpercent : s.char ≠ '%' := by cases s <;> decide
      calc spliceMicros us ('%' :: s.char :: (formatText items ++ src))
          = '%' :: spliceMicros us (s.char :: (formatText items ++ src)) := if_neg fun h => hf h.2
        _ = '%' :: s.char :: (formatText items ++ spliceMicros us src) := by
          rw [spliceMicros_cons us hpercent, hrest]

theorem timeItems_plain : ∀ item ∈ timeItems, item ≠ .percent ∧ item ≠ .field .fraction := by
  decide

theorem dateTimeItems_plain :
    ∀ item ∈ dateTimeItems, item ≠ .percent ∧ item ≠ .field .fraction := by
  decide

theorem spliceMicros_plain (us : Text) {items : List Item}
    (h : ∀ item ∈ items, item ≠ .percent ∧ item ≠ .field .fraction) :
    spliceMicros us (formatText items) = formatText items := by
  have hitems := spliceMicros_items us h []
  rwa [List.append_nil, spliceMicros, List.append_nil] at hitems

theorem formatText_append (items items' : List Item) :
    formatText (items ++ items') = formatText items ++ formatText items' :=
  List.flatMap_append

theorem spliceMicros_fraction (us : Text) (hus : ∀ c ∈ us, isdigit c = true) {items : List Item}
    (h : ∀ item ∈ items, item ≠ .percent ∧ item ≠ .field .fraction) :
    spliceMicros us (formatText (items ++ fractionItems)) =
      formatText (items ++ literal '.' :: literals us hus) := by
  have hpoint : spliceMicros us (formatText fractionItems) = '.' :: (us ++ []) := rfl
  rw [formatText_append, spliceMicros_items us h, hpoint, List.append_nil, formatText_append]
  exact congrArg (fun t => formatText items ++ '.' :: t) (formatText_literals us hus).symm

/-! ### The printed texts -/

theorem formatDate_prints (c : Strftime) {format : Text} {items : List Item}
    {y m d hh mm ss micros : ℤ}
    (hnormal : Tm.Normal { year := y - 1900, mon := m - 1, mday := d, hour := hh, min := mm, sec := ss })
    (hsplice : spliceMicros (microText micros) format = formatText items)
    (hitems : ∀ item ∈ items, item ≠ .field .fraction) (hformat : (formatText items).length ≤ 1023)
    (hlength : (items.flatMap (printed c.padding ⟨y - 1900, m - 1, d, hh, mm, ss⟩)).length < 1024) :
    formatDate c format y m d hh mm ss micros =
      some (items.flatMap (printed c.padding ⟨y - 1900, m - 1, d, hh, mm, ss⟩)) := by
  have hyear : InInt32 (y - 1900) := by
    obtain ⟨hlo, hhi⟩ : -2147483648 ≤ y - 1900 ∧ y - 1900 + 1900 ≤ 2147483647 := hnormal.year
    exact ⟨hlo, by omega⟩
  unfold formatDate
  rw [int32_bind hyear, hsplice, List.take_of_length_le hformat, c.prints items _ hnormal hitems]
  exact congrArg some (if_pos hlength)

def dateText (ys : Text) (m d : ℤ) (rest : Text) : Text :=
  ys ++ '-' :: (padded 2 m ++ '-' :: (padded 2 d ++ rest))

def timeText (hh mm ss : ℤ) (rest : Text) : Text :=
  padded 2 hh ++ ':' :: (padded 2 mm ++ ':' :: (padded 2 ss ++ rest))

theorem printed_date (padding : ℤ → ℕ) (y m d hh mm ss : ℤ) (items : List Item) :
    (dateItems ++ items).flatMap (printed padding ⟨y - 1900, m - 1, d, hh, mm, ss⟩) =
      dateText (yearText padding y) m d
        (items.flatMap (printed padding ⟨y - 1900, m - 1, d, hh, mm, ss⟩)) := by
  simp [dateItems, literal, printed, dateText]

theorem printed_time (padding : ℤ → ℕ) (y m d hh mm ss : ℤ) (items : List Item) :
    (timeItems ++ items).flatMap (printed padding ⟨y - 1900, m - 1, d, hh, mm, ss⟩) =
      timeText hh mm ss (items.flatMap (printed padding ⟨y - 1900, m - 1, d, hh, mm, ss⟩)) := by
  simp [timeItems, literal, printed, timeText]

theorem dateText_length {ys : Text} {m d : ℤ} {rest : Text} (hm : m ≤ 99) (hd : d ≤ 99) :
    (dateText ys m d rest).length = ys.length + rest.length + 6 := by
  have hm := @padded_length 2 (by decide) m (by omega)
  have hd := @padded_length 2 (by decide) d (by omega)
  simp only [dateText, List.length_append, List.length_cons, hm, hd]
  omega

theorem timeText_length {hh mm ss : ℤ} {rest : Text} (hhh : hh ≤ 99) (hmm : mm ≤ 99) (hss : ss ≤ 99) :
    (timeText hh mm ss rest).length = rest.length + 8 := by
  have hhh := @padded_length 2 (by decide) hh (by omega)
  have hmm := @padded_length 2 (by decide) mm (by omega)
  have hss := @padded_length 2 (by decide) ss (by omega)
  simp only [timeText, List.length_append, List.length_cons, hhh, hmm, hss]
  omega

section Objects

variable {ys : Text} {y m d hh mm ss micros : ℤ}

/-- The month and the day of a date, of whatever year. -/
structure MonthDay (m d : ℤ) : Prop where
  month : 1 ≤ m ∧ m ≤ 12
  day : 1 ≤ d ∧ d ≤ 31

theorem monthDay_of_valid (hdate : dbIsValidDate y m d = true) : MonthDay m d := by
  obtain ⟨-, hm, hd⟩ := dbIsValidDate_iff.mp hdate
  exact ⟨hm, hd.1, dbIsValidDate_day_le hdate⟩

/-- A date whose text the C library can print. -/
structure Printable (y m d : ℤ) : Prop extends MonthDay m d where
  year : -2147481748 ≤ y ∧ y ≤ 2147483647

theorem printable_of_valid (hy : y ≤ 2147483647) (hdate : dbIsValidDate y m d = true) :
    Printable y m d := by
  have hy1 := (dbIsValidDate_iff.mp hdate).1
  exact ⟨monthDay_of_valid hdate, by omega, hy⟩

theorem Printable.normal (h : Printable y m d) (htime : dbIsValidTime hh mm ss = true) :
    Tm.Normal { year := y - 1900, mon := m - 1, mday := d, hour := hh, min := mm, sec := ss } := by
  obtain ⟨⟨hm, hd⟩, hy⟩ := h
  obtain ⟨hhh, hmm, hss, -⟩ := dbIsValidTime_iff.mp htime
  constructor <;> dsimp only <;> omega

theorem formatDate_date (c : Strftime) (h : Printable y m d) (micros : ℤ) :
    formatDate c dateFormat y m d 0 0 0 micros =
      some (dateText (yearText c.padding y) m d []) := by
  obtain ⟨⟨hm, hd⟩, hy⟩ := h
  have hprinted := printed_date c.padding y m d 0 0 0 []
  rw [List.append_nil, List.flatMap_nil] at hprinted
  have hlength := @dateText_length (yearText c.padding y) m d [] (by omega) (by omega)
  have hyear := yearText_length c hy
  rw [List.length_nil] at hlength
  rw [dateFormat_eq, formatDate_prints c (Printable.normal ⟨⟨hm, hd⟩, hy⟩ (by decide))
    (spliceMicros_plain _ (by decide)) (by decide) (by decide) (by rw [hprinted]; omega), hprinted]

theorem formatDate_isSome (c : Strftime) (format : Text) (hy : -2147481748 ≤ y ∧ y ≤ 2147485547)
    (m d hh mm ss micros : ℤ) : ∃ text, formatDate c format y m d hh mm ss micros = some text := by
  have hyear : InInt32 (y - 1900) := ⟨by omega, by omega⟩
  unfold formatDate
  rw [int32_bind hyear]
  exact ⟨_, rfl⟩

theorem calcDateValue_year {v : ℤ} (h : calcDateValue y m d hh mm ss = some v) :
    y ≤ 2147483648 := by
  unfold calcDateValue at h
  obtain ⟨days, hdays, -⟩ := Option.bind_eq_some_iff.mp h
  unfold dbDaysFromCivil at hdays
  obtain ⟨y', hy', -⟩ := Option.bind_eq_some_iff.mp hdays
  obtain ⟨hmem, -⟩ := int32_eq_some.mp hy'
  have hle := hmem.2
  split_ifs at hle <;> omega

/-- Items that print the same text for every time. -/
structure Constant (padding : ℤ → ℕ) (items : List Item) (text : Text) : Prop where
  not_fraction : ∀ item ∈ items, item ≠ .field .fraction
  format_length : (formatText items).length ≤ 8
  prints : ∀ tm, items.flatMap (printed padding tm) = text
  length : text.length ≤ 8

theorem constant_nil (padding : ℤ → ℕ) : Constant padding [] [] :=
  ⟨by simp, by decide, fun _ => rfl, by decide⟩

theorem literal_not_fraction {us : Text} (h : ∀ c ∈ us, isdigit c = true) :
    ∀ item ∈ literals us h, item ≠ .field .fraction := by
  intro item hitem
  obtain ⟨c, hc, rfl⟩ := List.mem_pmap.mp hitem
  exact Item.noConfusion

theorem constant_micros (padding : ℤ → ℕ) (h : 0 ≤ micros ∧ micros ≤ 999999) :
    Constant padding (literal '.' :: literals (microText micros) (denotes_micros h).all_digits)
      ('.' :: microText micros) := by
  have hlength : (microText micros).length = 6 := by
    rw [microText_eq h]
    exact padded_length (by decide) (by omega)
  refine ⟨?_, ?_, fun tm => congrArg ('.' :: ·) (printed_literals padding tm _ _), ?_⟩
  · rintro item (_ | ⟨_, hitem⟩)
    · exact Item.noConfusion
    · exact literal_not_fraction _ item hitem
  · change ('.' :: formatText (literals _ _)).length ≤ 8
    rw [formatText_literals, List.length_cons, hlength]
    decide
  · rw [List.length_cons, hlength]
    decide

theorem formatDate_time (c : Strftime) {format : Text} {items : List Item} {text : Text}
    (hitems : Constant c.padding items text) (htime : dbIsValidTime hh mm ss = true)
    (hsplice : spliceMicros (microText micros) format = formatText (timeItems ++ items)) :
    formatDate c format 1900 1 1 hh mm ss micros = some (timeText hh mm ss text) := by
  obtain ⟨hhh, hmm, hss, -⟩ := dbIsValidTime_iff.mp htime
  have hprinted := printed_time c.padding 1900 1 1 hh mm ss items
  rw [hitems.prints] at hprinted
  have hlength := @timeText_length hh mm ss text (by omega) (by omega) (by omega)
  have htext := hitems.length
  have hprintable : Printable 1900 1 1 := ⟨⟨by decide, by decide⟩, by decide⟩
  rw [formatDate_prints c (hprintable.normal htime) hsplice ?_ ?_ (by rw [hprinted]; omega),
    hprinted]
  · intro item hitem
    rcases List.mem_append.mp hitem with hitem | hitem
    · exact (timeItems_plain item hitem).2
    · exact hitems.not_fraction item hitem
  · have htimeItems : (formatText timeItems).length = 8 := by decide
    have hformat := hitems.format_length
    rw [formatText_append, List.length_append]
    omega

theorem formatDate_dateTime (c : Strftime) {format : Text} {items : List Item} {text : Text}
    (hitems : Constant c.padding items text) (hdate : Printable y m d)
    (htime : dbIsValidTime hh mm ss = true)
    (hsplice : spliceMicros (microText micros) format = formatText (dateTimeItems ++ items)) :
    formatDate c format y m d hh mm ss micros =
      some (dateText (yearText c.padding y) m d (' ' :: timeText hh mm ss text)) := by
  obtain ⟨⟨hm, hd⟩, hy⟩ := hdate
  obtain ⟨hhh, hmm, hss, -⟩ := dbIsValidTime_iff.mp htime
  have hprinted : (dateTimeItems ++ items).flatMap
      (printed c.padding ⟨y - 1900, m - 1, d, hh, mm, ss⟩) =
        dateText (yearText c.padding y) m d (' ' :: timeText hh mm ss text) := by
    have htail := printed_time c.padding y m d hh mm ss items
    rw [hitems.prints] at htail
    rw [dateTimeItems, List.append_assoc, printed_date, List.cons_append]
    exact congrArg (fun t => dateText _ m d (' ' :: t)) htail
  have hlength := @dateText_length (yearText c.padding y) m d (' ' :: timeText hh mm ss text)
    (by omega) (by omega)
  rw [List.length_cons, timeText_length (by omega) (by omega) (by omega)] at hlength
  have hyear := yearText_length c hy
  have htext := hitems.length
  rw [formatDate_prints c (Printable.normal ⟨⟨hm, hd⟩, hy⟩ htime) hsplice ?_ ?_
    (by rw [hprinted]; omega), hprinted]
  · intro item hitem
    rcases List.mem_append.mp hitem with hitem | hitem
    · exact (dateTimeItems_plain item hitem).2
    · exact hitems.not_fraction item hitem
  · have hdateTimeItems : (formatText dateTimeItems).length = 17 := by decide
    have hformat := hitems.format_length
    rw [formatText_append, List.length_append]
    omega

/-! ### Reading the printed texts -/

theorem dateText_read {items : List Item} {rest : Text} (hys : Denotes ys y) (h : MonthDay m d)
    (hrest : rest.head?.any isdigit = false)
    (hword : rest.head?.any isspace = true → items.head?.all Item.isSpace = true)
    (fields : DateFields) :
    strptimeLoop false (formatText (dateItems ++ items)) (dateText ys m d rest) fields =
      strptimeLoop false (formatText items) rest { fields with y := y, m := m, d := d } := by
  obtain ⟨hm, hd⟩ := h
  exact date_read hys (denotes_two ⟨by omega, by omega⟩) (denotes_two ⟨by omega, by omega⟩) hm hd.2
    hrest hword

theorem timeText_read {items : List Item} {rest : Text} (htime : dbIsValidTime hh mm ss = true)
    (hrest : rest.head?.any isdigit = false)
    (hword : rest.head?.any isspace = true → items.head?.all Item.isSpace = true)
    (fields : DateFields) :
    strptimeLoop false (formatText (timeItems ++ items)) (timeText hh mm ss rest) fields =
      strptimeLoop false (formatText items) rest { fields with hh := hh, mm := mm, ss := ss } := by
  obtain ⟨hhh, hmm, hss, -⟩ := dbIsValidTime_iff.mp htime
  exact time_read (denotes_two ⟨hhh.1, by omega⟩) (denotes_two ⟨hmm.1, by omega⟩)
    (denotes_two ⟨hss.1, by omega⟩) hhh.2 hmm.2 hss.2 hrest hword

theorem spaceTime_read {items : List Item} {rest : Text} (htime : dbIsValidTime hh mm ss = true)
    (hrest : rest.head?.any isdigit = false)
    (hword : rest.head?.any isspace = true → items.head?.all Item.isSpace = true)
    (fields : DateFields) :
    strptimeLoop false (formatText (.space ' ' (by decide) :: (timeItems ++ items)))
        (' ' :: timeText hh mm ss rest) fields =
      strptimeLoop false (formatText items) rest { fields with hh := hh, mm := mm, ss := ss } := by
  obtain ⟨hhh, -⟩ := dbIsValidTime_iff.mp htime
  have hblank : (' ' :: timeText hh mm ss rest).dropWhile isspace = timeText hh mm ss rest := by
    obtain ⟨c, rest', heq, hc⟩ : ∃ c rest', timeText hh mm ss rest = c :: rest' ∧ isdigit c = true := by
      have hhour := @denotes_two hh ⟨hhh.1, by omega⟩
      obtain ⟨c, digits, heq⟩ := List.exists_cons_of_ne_nil hhour.ne_nil
      refine ⟨c, _, by rw [timeText, heq, List.cons_append], hhour.all_digits c ?_⟩
      rw [heq]
      exact List.mem_cons_self
    rw [List.dropWhile_cons_of_pos rfl, heq,
      List.dropWhile_cons_of_neg (by simp [not_isspace_of_isdigit hc])]
  rw [loop_space, hblank, timeText_read htime hrest hword]

theorem dateTimeText_read {items : List Item} {rest : Text} (hys : Denotes ys y)
    (hdate : MonthDay m d) (htime : dbIsValidTime hh mm ss = true)
    (hrest : rest.head?.any isdigit = false)
    (hword : rest.head?.any isspace = true → items.head?.all Item.isSpace = true)
    (fields : DateFields) :
    strptimeLoop false (formatText (dateTimeItems ++ items))
        (dateText ys m d (' ' :: timeText hh mm ss rest)) fields =
      strptimeLoop false (formatText items) rest
        { fields with y := y, m := m, d := d, hh := hh, mm := mm, ss := ss } := by
  rw [dateTimeItems, List.append_assoc, List.cons_append,
    dateText_read hys hdate rfl (fun _ => rfl), spaceTime_read htime hrest hword]

theorem fraction_missing (fields : DateFields) :
    strptimeLoop false (formatText fractionItems) [] fields = (false, fields) := by
  rw [fractionItems, literal, loop_literal]
  rfl

theorem date_setFromString (hys : Denotes ys y) (hdate : dbIsValidDate y m d = true) :
    TDBDate.setFromString (dateText ys m d []) = TDBDate.set y m d := by
  have hread := @dateText_read ys y m d [] [] hys (monthDay_of_valid hdate) rfl (by simp) .zero
  rw [List.append_nil] at hread
  unfold TDBDate.setFromString dbStrptime
  rw [dateFormat_eq, hread]
  exact if_pos hdate

theorem time_setFromString (htime : dbIsValidTime hh mm ss = true) :
    TDBTime.setFromString (timeText hh mm ss []) = TDBTime.set hh mm ss 0 := by
  have hfirst := @timeText_read hh mm ss fractionItems [] htime rfl (by simp) .zero
  have hread := @timeText_read hh mm ss [] [] htime rfl (by simp)
  rw [List.append_nil] at hread
  unfold TDBTime.setFromString dbStrptime
  rw [timeFractionFormat_eq, timeFormat_eq, hfirst, fraction_missing]
  dsimp only
  rw [hread]
  rfl

theorem time_setFromString_fraction {fs : Text} {f : ℤ} (htime : dbIsValidTime hh mm ss = true)
    (hf : Denotes fs f) (hlength : fs.length ≤ 6) :
    TDBTime.setFromString (timeText hh mm ss ('.' :: fs)) =
      TDBTime.set hh mm ss (f * 10 ^ (6 - fs.length)) := by
  have hread := @timeText_read hh mm ss fractionItems ('.' :: fs) htime rfl (by simp [isspace]) .zero
  rw [fraction_read hf hlength] at hread
  unfold TDBTime.setFromString dbStrptime
  rw [timeFractionFormat_eq, hread]
  rfl

theorem dateTime_setFromString (hys : Denotes ys y) (hdate : dbIsValidDate y m d = true)
    (htime : dbIsValidTime hh mm ss = true) :
    TDBDateTime.setFromString (dateText ys m d (' ' :: timeText hh mm ss [])) =
      TDBDateTime.set y m d hh mm ss 0 := by
  have hmonthDay := monthDay_of_valid hdate
  have hfirst := @dateTimeText_read ys y m d hh mm ss fractionItems [] hys hmonthDay htime rfl
    (by simp) .zero
  have hread := @dateTimeText_read ys y m d hh mm ss [] [] hys hmonthDay htime rfl (by simp)
  rw [List.append_nil] at hread
  unfold TDBDateTime.setFromString dbStrptime
  rw [dateTimeFractionFormat_eq, dateTimeFormat_eq, hfirst, fraction_missing]
  dsimp only
  rw [hread, loop_reads_end, if_neg (by simp)]
  exact if_pos (by simp [hdate, htime])

theorem dateTime_setFromString_fraction {fs : Text} {f : ℤ} (hys : Denotes ys y)
    (hdate : dbIsValidDate y m d = true)
    (htime : dbIsValidTime hh mm ss (f * 10 ^ (6 - fs.length)) = true) (hf : Denotes fs f)
    (hlength : fs.length ≤ 6) :
    TDBDateTime.setFromString (dateText ys m d (' ' :: timeText hh mm ss ('.' :: fs))) =
      TDBDateTime.set y m d hh mm ss (f * 10 ^ (6 - fs.length)) := by
  have hread := @dateTimeText_read ys y m d hh mm ss fractionItems ('.' :: fs) hys
    (monthDay_of_valid hdate) (valid_time_of_micros htime) rfl (by simp [isspace]) .zero
  rw [fraction_read hf hlength] at hread
  unfold TDBDateTime.setFromString dbStrptime
  rw [dateTimeFractionFormat_eq, hread]
  exact if_pos (by simp [hdate, htime])

/-! ### Objects of the valid parts -/

theorem date_set (hy : y ≤ 2147483647) (hdate : dbIsValidDate y m d = true) :
    ∃ v, TDBDate.set y m d = some ⟨false, v, y, m, d⟩ := by
  have hvalue := @calcDateValue_valid y m d 0 0 0 hy hdate (by decide)
  unfold TDBDate.set TDBDate.setFromParts
  rw [if_neg (by simp [hdate]), hvalue]
  exact ⟨_, rfl⟩

theorem time_set (htime : dbIsValidTime hh mm ss micros = true) :
    ∃ v, TDBTime.set hh mm ss micros = some ⟨false, v, micros, hh, mm, ss⟩ := by
  have hvalue := @calcDateValue_valid 1900 1 1 hh mm ss (by omega) (by decide)
    (valid_time_of_micros htime)
  unfold TDBTime.set TDBTime.setFromParts
  rw [if_neg (by simp [htime]), hvalue]
  exact ⟨_, rfl⟩

theorem dateTime_set (hy : y ≤ 2147483647) (hdate : dbIsValidDate y m d = true)
    (htime : dbIsValidTime hh mm ss micros = true) :
    ∃ v, TDBDateTime.set y m d hh mm ss micros = some ⟨false, v, micros, y, m, d, hh, mm, ss⟩ := by
  have hvalue := calcDateValue_valid hy hdate (valid_time_of_micros htime)
  unfold TDBDateTime.set CoreDateTypes.TDBDateTime.setFromParts
  rw [if_neg (by simp [hdate, htime]), hvalue]
  exact ⟨_, rfl⟩

theorem date_set_year {t : TDBDate} (h : TDBDate.set y m d = some t) :
    1 ≤ t.year ∧ t.year ≤ 2147483648 := by
  unfold TDBDate.set TDBDate.setFromParts at h
  split_ifs at h with hinvalid
  · cases h
    exact ⟨by decide, by decide⟩
  · obtain ⟨v, hv, ht⟩ := Option.bind_eq_some_iff.mp h
    cases ht
    have hdate : dbIsValidDate y m d = true := by simpa using hinvalid
    exact ⟨(dbIsValidDate_iff.mp hdate).1, calcDateValue_year hv⟩

theorem dateTime_set_year {t : TDBDateTime} (h : TDBDateTime.set y m d hh mm ss micros = some t) :
    1 ≤ t.year ∧ t.year ≤ 2147483648 := by
  unfold TDBDateTime.set CoreDateTypes.TDBDateTime.setFromParts at h
  split_ifs at h with hinvalid
  · cases h
    exact ⟨by decide, by decide⟩
  · obtain ⟨v, hv, ht⟩ := Option.bind_eq_some_iff.mp h
    cases ht
    have hdate : dbIsValidDate y m d = true := by
      by_contra hne
      exact hinvalid (.inl (by simpa using hne))
    exact ⟨(dbIsValidDate_iff.mp hdate).1, calcDateValue_year hv⟩

end Objects

/-! ### A library that does not pad years -/

def conversion (tm : Tm) (s : Char) : Text :=
  if s = '%' then ['%']
  else if s = 'Y' then yearText (fun _ => 0) (tm.year + 1900)
  else if s = 'm' then padded 2 (tm.mon + 1)
  else if s = 'd' then padded 2 tm.mday
  else if s = 'H' then padded 2 tm.hour
  else if s = 'M' then padded 2 tm.min
  else if s = 'S' then padded 2 tm.sec
  else []

def printFormat (tm : Tm) : Text → Text
  | [] => []
  | [c] => [c]
  | c :: s :: format =>
    if c = '%' then conversion tm s ++ printFormat tm format
    else c :: printFormat tm (s :: format)

theorem printFormat_cons (tm : Tm) {c : Char} (hc : c ≠ '%') (format : Text) :
    printFormat tm (c :: format) = c :: printFormat tm format := by
  cases format with
  | nil => rfl
  | cons s format => exact if_neg hc

theorem printFormat_items (tm : Tm) {items : List Item}
    (h : ∀ item ∈ items, item ≠ .field .fraction) :
    printFormat tm (formatText items) = items.flatMap (printed (fun _ => 0) tm) := by
  induction items with
  | nil => rfl
  | cons item items ih =>
    have hrest := ih fun x hx => h x (List.mem_cons_of_mem item hx)
    have hitem := h item List.mem_cons_self
    rw [List.flatMap_cons, ← hrest]
    cases item with
    | literal c hc => exact printFormat_cons tm hc.1 _
    | space c hc =>
      refine printFormat_cons tm ?_ _
      rintro rfl
      exact absurd hc (by decide)
    | percent => rfl
    | field s =>
      cases s with
      | fraction => exact absurd rfl hitem
      | _ => rfl

def unpadded : Strftime where
  print format tm := printFormat tm format
  padding _ := 0
  padding_le _ := by decide
  prints _ tm _ h := printFormat_items tm h

/-! ### The round trip -/

/-- A date, a time and both together are read back from their formatted texts. -/
theorem parsing_undoes_formatting (c : Strftime) {y m d hh mm ss micros : ℤ}
    (hy : y ≤ 2147483647) (hdate : dbIsValidDate y m d = true)
    (htime : dbIsValidTime hh mm ss micros = true) :
    (∃ t v, TDBDateTime.set y m d hh mm ss micros = some t ∧
      t = ⟨false, v, micros, y, m, d, hh, mm, ss⟩ ∧
      (TDBDateTime.format c t dateTimeFractionFormat >>= TDBDateTime.setFromString) = some t) ∧
    (∃ t v, TDBTime.set hh mm ss micros = some t ∧ t = ⟨false, v, micros, hh, mm, ss⟩ ∧
      (TDBTime.format c t timeFractionFormat >>= TDBTime.setFromString) = some t) ∧
    ∃ t v, TDBDate.set y m d = some t ∧ t = ⟨false, v, y, m, d⟩ ∧
      (TDBDate.format c t dateFormat >>= TDBDate.setFromString) = some t := by
  obtain ⟨hy1, -, -⟩ := dbIsValidDate_iff.mp hdate
  obtain ⟨-, -, -, hmicros⟩ := dbIsValidTime_iff.mp htime
  have htimeOfDay := valid_time_of_micros htime
  have hus := denotes_micros hmicros
  have hlength : (microText micros).length = 6 := by
    rw [microText_eq hmicros]
    exact padded_length (by decide) (by omega)
  have hvalue : micros * 10 ^ (6 - (microText micros).length) = micros := by
    rw [hlength]
    simp
  have hyear := denotes_year c ⟨by omega, hy⟩
  have hprintable := printable_of_valid hy hdate
  refine ⟨?_, ?_, ?_⟩
  · obtain ⟨v, hset⟩ := dateTime_set hy hdate htime
    refine ⟨_, v, hset, rfl, ?_⟩
    have hformat := formatDate_dateTime c (constant_micros c.padding hmicros) hprintable htimeOfDay
      (dateTimeFractionFormat_eq ▸ spliceMicros_fraction _ hus.all_digits dateTimeItems_plain)
    unfold TDBDateTime.format
    rw [hformat, Option.bind_eq_bind, Option.bind_some,
      dateTime_setFromString_fraction hyear hdate (hvalue.symm ▸ htime) hus hlength.le, hvalue]
    exact hset
  · obtain ⟨v, hset⟩ := time_set htime
    refine ⟨_, v, hset, rfl, ?_⟩
    have hformat := formatDate_time c (constant_micros c.padding hmicros) htimeOfDay
      (timeFractionFormat_eq ▸ spliceMicros_fraction _ hus.all_digits timeItems_plain)
    unfold TDBTime.format
    rw [hformat, Option.bind_eq_bind, Option.bind_some,
      time_setFromString_fraction htimeOfDay hus hlength.le, hvalue]
    exact hset
  · obtain ⟨v, hset⟩ := date_set hy hdate
    refine ⟨_, v, hset, rfl, ?_⟩
    unfold TDBDate.format
    rw [formatDate_date c hprintable, Option.bind_eq_bind, Option.bind_some,
      date_setFromString hyear hdate]
    exact hset

theorem leap_day_read_back :
    ∃ t v, TDBDateTime.set 2024 2 29 23 59 59 1 = some t ∧
      t = ⟨false, v, 1, 2024, 2, 29, 23, 59, 59⟩ ∧
      (TDBDateTime.format unpadded t dateTimeFractionFormat >>= TDBDateTime.setFromString) =
        some t :=
  (parsing_undoes_formatting unpadded (by decide) (by decide) (by decide)).1

end DatabaseMod.CoreFormat
