import DatabaseMod.CoreTemporal
import DatabaseMod.CoreDateReading

/-!
# Two attempts at a text

A datetime and a time are read with a fraction first and without one afterwards, and both
attempts write to the same variables. What the first attempt leaves there is written again
by the second one wherever that succeeds.
-/

namespace DatabaseMod.CoreTextAttempts
open MachineInteger CoreStrptime CoreDateParser CoreTemporal
open CoreDateReading (setAll)
open CoreDateTypes (TDBDateTime)
open SqlTokens (Text)

/-! ### Fresh variables for each attempt -/

def dateTimeReference (date : Text) : Option TDBDateTime :=
  let first := dbStrptime date dateTimeFractionFormat .zero
  let second := dbStrptime date dateTimeFormat .zero
  if first.1 && dbIsValidDate first.2.y first.2.m first.2.d &&
      dbIsValidTime first.2.hh first.2.mm first.2.ss first.2.micros then
    TDBDateTime.set first.2.y first.2.m first.2.d first.2.hh first.2.mm first.2.ss first.2.micros
  else if second.1 && dbIsValidDate second.2.y second.2.m second.2.d &&
      dbIsValidTime second.2.hh second.2.mm second.2.ss then
    TDBDateTime.set second.2.y second.2.m second.2.d second.2.hh second.2.mm second.2.ss 0
  else none

def timeReference (date : Text) : Option TDBTime :=
  let first := dbStrptime date timeFractionFormat .zero
  let second := dbStrptime date timeFormat .zero
  if first.1 && dbIsValidTime first.2.hh first.2.mm first.2.ss first.2.micros then
    TDBTime.set first.2.hh first.2.mm first.2.ss first.2.micros
  else if second.1 && dbIsValidTime second.2.hh second.2.mm second.2.ss then
    TDBTime.set second.2.hh second.2.mm second.2.ss 0
  else none

/-! ### Stores of a run -/

theorem set_same (fields : DateFields) (s : Specifier) (digits digits' : Text) :
    s.set (s.set fields digits) digits' = s.set fields digits' := by
  cases s <;> rfl

theorem set_comm (fields : DateFields) {s s' : Specifier} (h : s ≠ s') (digits digits' : Text) :
    s'.set (s.set fields digits) digits' = s.set (s'.set fields digits') digits := by
  cases s <;> cases s' <;> first | rfl | exact absurd rfl h

theorem setAll_cons (fields : DateFields) (run : Specifier × Text)
    (runs : List (Specifier × Text)) :
    setAll fields (run :: runs) = setAll (run.1.set fields run.2) runs := rfl

/-- What a run stores anyway does not show before it. -/
theorem setAll_set {s : Specifier} {runs : List (Specifier × Text)} (h : ∃ r ∈ runs, r.1 = s)
    (fields : DateFields) (digits : Text) :
    setAll (s.set fields digits) runs = setAll fields runs := by
  induction runs generalizing fields with
  | nil => simp at h
  | cons run runs ih =>
    rw [setAll_cons, setAll_cons]
    by_cases hs : run.1 = s
    · rw [hs, set_same]
    · have hrest : ∃ r ∈ runs, r.1 = s := by
        obtain ⟨r, hr, hrs⟩ := h
        rcases List.mem_cons.mp hr with rfl | hr
        · exact absurd hrs hs
        · exact ⟨r, hr, hrs⟩
      rw [set_comm fields (Ne.symm hs)]
      exact ih hrest _

theorem setAll_setAll {written runs : List (Specifier × Text)}
    (h : ∀ w ∈ written, ∃ r ∈ runs, r.1 = w.1) (fields : DateFields) :
    setAll (setAll fields written) runs = setAll fields runs := by
  induction written generalizing fields with
  | nil => rfl
  | cons w written ih =>
    rw [setAll_cons, ih (fun w' hw' => h w' (List.mem_cons_of_mem w hw'))]
    exact setAll_set (h w List.mem_cons_self) fields w.2

/-- A format ends, or goes on in the same word with a character. -/
structure Continues (tail : List Item) : Prop where
  no_space : ∀ item ∈ tail, item.isSpace = false
  literal : tail = [] ∨ ∃ c hc rest, tail = .literal c hc :: rest

theorem continues_nil : Continues [] := ⟨by simp, .inl rfl⟩

theorem continues_fraction : Continues fractionItems := ⟨by decide, .inr ⟨_, _, _, rfl⟩⟩

theorem Continues.dropWhile {tail : List Item} (h : Continues tail) :
    tail.dropWhile (!Item.isSpace ·) = [] := by
  rw [List.dropWhile_eq_nil_iff]
  intro item hitem
  simp [h.no_space item hitem]

theorem Continues.loop_blank {tail : List Item} (h : Continues tail) {date : Text}
    (hdate : date.dropWhile isspace = []) (fields : DateFields) :
    (strptimeLoop false (formatText tail) date fields).2 = fields := by
  rcases h.literal with rfl | ⟨c, hc, rest, rfl⟩
  · rfl
  · rw [loop_literal, if_neg]
    intro hhead
    obtain ⟨rest', rfl⟩ : ∃ rest', date = c :: rest' := by
      cases date with
      | nil => cases hhead
      | cons c' rest' => exact ⟨rest', by rw [Option.some.inj hhead]⟩
    have hspace := List.dropWhile_eq_nil_iff.mp hdate c List.mem_cons_self
    rw [hc.2] at hspace
    cases hspace

theorem loop_number {s : Specifier} {items : List Item} {date : Text}
    (hdigits : date.takeWhile isdigit ≠ []) (hrange : s.inRange (date.takeWhile isdigit) = true)
    (fields : DateFields) :
    strptimeLoop false (formatText (.field s :: items)) date fields =
      strptimeLoop false (formatText (if (date.dropWhile isdigit).head?.any isspace then
          items.dropWhile (!Item.isSpace ·) else items))
        (date.dropWhile isdigit) (s.set fields (date.takeWhile isdigit)) := by
  rw [loop_field, readSpecifier_digits s hdigits, if_pos hrange]
  exact loop_below _

/-- The rest of a word is passed over with the format that goes on and with the one that ends. -/
theorem dropWhile_append_tail {items tail : List Item} (h : Continues tail) :
    ∃ tail', Continues tail' ∧
      (items ++ tail).dropWhile (!Item.isSpace ·) = items.dropWhile (!Item.isSpace ·) ++ tail' := by
  rw [List.dropWhile_append]
  split_ifs with hempty
  · rw [List.isEmpty_iff] at hempty
    exact ⟨[], continues_nil, by rw [h.dropWhile, hempty, List.append_nil]⟩
  · exact ⟨tail, h, rfl⟩

/-- What a run over the items stores, and that a run which goes on behind them stores in no
other variable. -/
def StoresLess (items : List Item) (date : Text) (runs : List (Specifier × Text)) : Prop :=
  (∀ fields, strptimeLoop false (formatText items) date fields = (true, setAll fields runs)) ∧
    (∀ r ∈ runs, Item.field r.1 ∈ items) ∧
    ∀ tail fields, Continues tail → ∃ written,
      (strptimeLoop false (formatText (items ++ tail)) date fields).2 = setAll fields written ∧
        ∀ w ∈ written, ∃ r ∈ runs, r.1 = w.1

theorem mem_of_dropWhile {items : List Item} {item : Item}
    (h : item ∈ items.dropWhile (!Item.isSpace ·)) : item ∈ items :=
  (List.dropWhile_suffix _).subset h

theorem StoresLess.field {s : Specifier} {items : List Item} {date : Text}
    {runs : List (Specifier × Text)} (hdigits : date.takeWhile isdigit ≠ [])
    (hrange : s.inRange (date.takeWhile isdigit) = true)
    (h : StoresLess (if (date.dropWhile isdigit).head?.any isspace then
      items.dropWhile (!Item.isSpace ·) else items) (date.dropWhile isdigit) runs) :
    StoresLess (.field s :: items) date ((s, date.takeWhile isdigit) :: runs) := by
  obtain ⟨hloop, hmem, htail⟩ := h
  refine ⟨fun fields => ?_, fun r hr => ?_, fun tail fields hcontinues => ?_⟩
  · rw [loop_number hdigits hrange, hloop]
    rfl
  · rcases List.mem_cons.mp hr with rfl | hr
    · exact List.mem_cons_self
    · refine List.mem_cons_of_mem _ ?_
      have hitem := hmem r hr
      split_ifs at hitem
      · exact mem_of_dropWhile hitem
      · exact hitem
  · rw [List.cons_append, loop_number hdigits hrange]
    obtain ⟨tail', hcontinues', hrest⟩ : ∃ tail', Continues tail' ∧
        (if (date.dropWhile isdigit).head?.any isspace then
          (items ++ tail).dropWhile (!Item.isSpace ·) else items ++ tail) =
        (if (date.dropWhile isdigit).head?.any isspace then
          items.dropWhile (!Item.isSpace ·) else items) ++ tail' := by
      split_ifs
      · exact dropWhile_append_tail hcontinues
      · exact ⟨tail, hcontinues, rfl⟩
    rw [hrest]
    obtain ⟨written, hwritten, hless⟩ :=
      htail tail' (s.set fields (date.takeWhile isdigit)) hcontinues'
    refine ⟨(s, date.takeWhile isdigit) :: written, hwritten, fun w hw => ?_⟩
    rcases List.mem_cons.mp hw with rfl | hw
    · exact ⟨_, List.mem_cons_self, rfl⟩
    · obtain ⟨r, hr, hrw⟩ := hless w hw
      exact ⟨r, List.mem_cons_of_mem _ hr, hrw⟩

/-- An item that stores nothing. -/
theorem StoresLess.step {item : Item} {items items' : List Item} {date date' : Text}
    {runs : List (Specifier × Text)} (h : StoresLess items' date' runs)
    (hmem : ∀ x ∈ items', x ∈ items)
    (hloop : ∀ fields, strptimeLoop false (formatText (item :: items)) date fields =
      strptimeLoop false (formatText items') date' fields)
    (htail : ∀ tail fields, Continues tail → ∃ tail', Continues tail' ∧
      strptimeLoop false (formatText (item :: (items ++ tail))) date fields =
        strptimeLoop false (formatText (items' ++ tail')) date' fields) :
    StoresLess (item :: items) date runs := by
  refine ⟨fun fields => (hloop fields).trans (h.1 fields), fun r hr => ?_,
    fun tail fields hcontinues => ?_⟩
  · exact List.mem_cons_of_mem _ (hmem _ (h.2.1 r hr))
  · obtain ⟨tail', hcontinues', heq⟩ := htail tail fields hcontinues
    rw [List.cons_append, heq]
    exact h.2.2 tail' fields hcontinues'

/-- By induction on what is accepted. -/
theorem accepted_stores {omitted : Bool} {items : List Item} {date : Text}
    (h : Accepted omitted items date) : ∃ runs, StoresLess items date runs := by
  induction h with
  | @done date hdate =>
    refine ⟨[], fun fields => ?_, by simp, fun tail fields hcontinues => ⟨[], ?_, by simp⟩⟩
    · simp [formatText, strptimeLoop, hdate, setAll]
    · exact hcontinues.loop_blank hdate fields
  | @literal omitted items date c hc hhead h ih =>
    obtain ⟨runs, hruns⟩ := ih
    refine ⟨runs, hruns.step (fun _ => id) (fun fields => ?_) fun tail fields hcontinues =>
      ⟨tail, hcontinues, ?_⟩⟩
    all_goals rw [loop_literal, if_pos hhead]
  | @space omitted items date c hc h ih =>
    obtain ⟨runs, hruns⟩ := ih
    refine ⟨runs, hruns.step (fun _ => id) (fun fields => ?_) fun tail fields hcontinues =>
      ⟨tail, hcontinues, ?_⟩⟩
    all_goals rw [loop_space]
  | @percent omitted items date hhead h ih =>
    obtain ⟨runs, hruns⟩ := ih
    refine ⟨runs, hruns.step (fun _ => id) (fun fields => ?_) fun tail fields hcontinues =>
      ⟨tail, hcontinues, ?_⟩⟩
    all_goals rw [loop_percent, if_pos hhead]
  | @number omitted items date s hdigits hrange hword h ih =>
    obtain ⟨runs, hruns⟩ := ih
    refine ⟨(s, date.takeWhile isdigit) :: runs, StoresLess.field hdigits hrange ?_⟩
    split_ifs with hblank
    · rw [dropWhile_of_head_space (hword hblank)]
      exact hruns
    · exact hruns
  | @cut omitted items date s hdigits hrange hblank hword h ih =>
    obtain ⟨runs, hruns⟩ := ih
    refine ⟨(s, date.takeWhile isdigit) :: runs, StoresLess.field hdigits hrange ?_⟩
    rw [if_pos hblank]
    exact hruns
  | @missing omitted items date s hs hblank h ih =>
    obtain ⟨runs, hruns⟩ := ih
    refine ⟨runs, hruns.step (fun _ => id) (fun fields => ?_) fun tail fields hcontinues =>
      ⟨tail, hcontinues, ?_⟩⟩
    all_goals rw [loop_field, readSpecifier_missing hs hblank]
  | @missingYear omitted items date hblank h ih =>
    obtain ⟨runs, hruns⟩ := ih
    have hloop (items : List Item) (fields : DateFields) :
        strptimeLoop false (formatText (.field .year :: items)) date fields =
          strptimeLoop false (formatText
            (if date = [] then items else items.dropWhile (!Item.isSpace ·))) date fields := by
      rw [loop_field, readSpecifier_missingYear hblank]
      dsimp only
      rw [loop_below, word_after_blank hblank]
    refine ⟨runs, hruns.step (fun x hx => ?_) (fun fields => hloop items fields)
      fun tail fields hcontinues => ?_⟩
    · split_ifs at hx
      · exact hx
      · exact mem_of_dropWhile hx
    · obtain ⟨tail', hcontinues', hrest⟩ : ∃ tail', Continues tail' ∧
          (if date = [] then items ++ tail else (items ++ tail).dropWhile (!Item.isSpace ·)) =
            (if date = [] then items else items.dropWhile (!Item.isSpace ·)) ++ tail' := by
        split_ifs
        · exact ⟨tail, hcontinues, rfl⟩
        · exact dropWhile_append_tail hcontinues
      exact ⟨tail', hcontinues', by rw [hloop, hrest]⟩

/-- The second attempt reads as if the first one had not been made. -/
theorem second_attempt {items tail : List Item} (htail : Continues tail) {date : Text}
    {fields : DateFields} (h : (dbStrptime date (formatText items) fields).1 = true) :
    dbStrptime date (formatText items) (dbStrptime date (formatText (items ++ tail)) fields).2 =
      dbStrptime date (formatText items) fields := by
  obtain ⟨omitted, haccepted⟩ := dbStrptime_iff.mp h
  obtain ⟨runs, hloop, -, hless⟩ := accepted_stores haccepted
  obtain ⟨written, hwritten, hwrites⟩ := hless tail fields htail
  unfold dbStrptime
  rw [hwritten, hloop, hloop, setAll_setAll hwrites]

/-- Whether an attempt succeeds does not depend on the variables. -/
theorem attempt_fst (items : List Item) (date : Text) (fields fields' : DateFields) :
    (dbStrptime date (formatText items) fields).1 =
      (dbStrptime date (formatText items) fields').1 := by
  rw [Bool.eq_iff_iff, dbStrptime_iff, dbStrptime_iff]

/-! ### The numbers of a time -/

def number (digits : Text) : ℤ := (scanNumber 0 digits).1

def hourDigits (date : Text) : Text := date.takeWhile isdigit

/-- The digits behind the first number and a colon. -/
def minuteDigits (date : Text) : Text := hourDigits (date.dropWhile isdigit).tail

def secondDigits (date : Text) : Text := minuteDigits (date.dropWhile isdigit).tail

/-- The numbers of a text do not wrap around to negative ones. -/
structure NumbersFit (date : Text) : Prop where
  hour : 0 ≤ number (hourDigits date)
  minute : 0 ≤ number (minuteDigits date)
  second : 0 ≤ number (secondDigits date)

/-- The variables after a time was read. -/
structure TimeRead (date : Text) (fields : DateFields) : Prop where
  hour_eq : fields.hh = number (hourDigits date)
  minute_eq : fields.mm = number (minuteDigits date)
  second_eq : fields.ss = number (secondDigits date)
  hour_le : fields.hh ≤ 23
  minute_le : fields.mm ≤ 59
  second_le : fields.ss ≤ 59
  micros : 0 ≤ fields.micros ∧ fields.micros ≤ 999999

theorem TimeRead.valid_iff {date : Text} {fields : DateFields} (h : TimeRead date fields) :
    dbIsValidTime fields.hh fields.mm fields.ss fields.micros = true ↔ NumbersFit date := by
  obtain ⟨hhour, hminute, hsecond, hhour', hminute', hsecond', hmicros⟩ := h
  rw [dbIsValidTime_iff]
  constructor
  · rintro ⟨hhh, hmm, hss, -⟩
    exact ⟨hhour ▸ hhh.1, hminute ▸ hmm.1, hsecond ▸ hss.1⟩
  · rintro ⟨hhh, hmm, hss⟩
    exact ⟨⟨hhour ▸ hhh, hhour'⟩, ⟨hminute ▸ hmm, hminute'⟩, ⟨hsecond ▸ hss, hsecond'⟩, hmicros⟩

theorem hour_inRange {digits : Text} (h : Specifier.hour.inRange digits = true) :
    number digits ≤ 23 := of_decide_eq_true h

theorem minute_inRange {digits : Text} (h : Specifier.minute.inRange digits = true) :
    number digits ≤ 59 := of_decide_eq_true h

theorem second_inRange {digits : Text} (h : Specifier.second.inRange digits = true) :
    number digits ≤ 59 := of_decide_eq_true h

theorem hourDigits_blank {date : Text} (h : date.dropWhile isspace = []) :
    hourDigits date = [] := by
  cases date with
  | nil => rfl
  | cons c date =>
    have hc : isspace c = true := List.dropWhile_eq_nil_iff.mp h c List.mem_cons_self
    have hdigit : ¬ isdigit c = true := fun hdigit => by
      rw [not_isspace_of_isdigit hdigit] at hc
      cases hc
    exact List.takeWhile_cons_of_neg hdigit

theorem blank_tail {date : Text} (h : date.dropWhile isspace = []) :
    date.tail.dropWhile isspace = [] := by
  rw [List.dropWhile_eq_nil_iff] at h ⊢
  exact fun c hc => h c (List.mem_of_mem_tail hc)

theorem minuteDigits_blank {date : Text} (h : date.dropWhile isspace = []) :
    minuteDigits date = [] := by
  have hdrop : (date.dropWhile isdigit).dropWhile isspace = [] := by
    rw [List.dropWhile_eq_nil_iff] at h ⊢
    exact fun c hc => h c ((List.dropWhile_suffix _).subset hc)
  exact hourDigits_blank (blank_tail hdrop)

theorem loop_number_kept {s : Specifier} {items : List Item} {date : Text}
    (hdigits : date.takeWhile isdigit ≠ []) (hrange : s.inRange (date.takeWhile isdigit) = true)
    (hword : (date.dropWhile isdigit).head?.any isspace = true →
      items.head?.all Item.isSpace = true) (fields : DateFields) :
    strptimeLoop false (formatText (.field s :: items)) date fields =
      strptimeLoop false (formatText items) (date.dropWhile isdigit)
        (s.set fields (date.takeWhile isdigit)) := by
  rw [loop_number hdigits hrange]
  split_ifs with hblank
  · rw [dropWhile_of_head_space (hword hblank)]
  · rfl

theorem fraction_range {digits : Text} (hall : ∀ c ∈ digits, isdigit c = true)
    (hlength : digits.length ≤ 6) :
    0 ≤ (scanNumber 0 digits).1 * 10 ^ (6 - digits.length) ∧
      (scanNumber 0 digits).1 * 10 ^ (6 - digits.length) ≤ 999999 := by
  have hlt := ofDigitChars_lt hall 0
  rw [Nat.zero_add, Nat.one_mul] at hlt
  have hpow : (10 : ℕ) ^ digits.length ≤ 10 ^ 6 := Nat.pow_le_pow_right (by decide) hlength
  have hvalue := scanNumber_value hall (n := 0) (by omega)
  rw [Nat.cast_zero (R := ℤ)] at hvalue
  have hsplit : 10 ^ digits.length * 10 ^ (6 - digits.length) = 10 ^ 6 := by
    rw [← pow_add]
    congr 1
    omega
  have hmul : Nat.ofDigitChars 10 digits 0 * 10 ^ (6 - digits.length) < 10 ^ 6 :=
    hsplit ▸ Nat.mul_lt_mul_of_pos_right hlt (by positivity)
  rw [hvalue]
  have hcast : ((Nat.ofDigitChars 10 digits 0 : ℕ) : ℤ) * 10 ^ (6 - digits.length) =
      ((Nat.ofDigitChars 10 digits 0 * 10 ^ (6 - digits.length) : ℕ) : ℤ) := by push_cast; rfl
  dsimp only
  rw [hcast]
  omega

section

variable {omitted : Bool} {tail : List Item} {date : Text} {fields : DateFields}

theorem tail_read (htail : tail = [] ∨ tail = fractionItems) (h : Accepted omitted tail date)
    (hmicros : fields.micros = 0) : ∃ micros, (0 ≤ micros ∧ micros ≤ 999999) ∧
      (strptimeLoop false (formatText tail) date fields).2 = { fields with micros := micros } := by
  rcases htail with rfl | rfl
  · exact ⟨0, by decide, by rw [← hmicros]; rfl⟩
  · cases h with
    | literal hhead h =>
      cases h with
      | number hdigits hrange hword h =>
        have hlength : (date.tail.takeWhile isdigit).length ≤ 6 := by
          simpa [Specifier.inRange] using hrange
        refine ⟨_, @fraction_range (date.tail.takeWhile isdigit)
          (fun c hc => List.mem_takeWhile_imp hc) hlength, ?_⟩
        rw [fractionItems, literal, loop_literal, if_pos hhead,
          loop_number_kept hdigits hrange hword]
        rfl
      | cut hdigits hrange hblank hword h => cases hword
      | missing hs => simp at hs

theorem second_read (htail : tail = [] ∨ tail = fractionItems)
    (h : Accepted omitted (.field .second :: tail) date) (hsecond : fields.ss = 0)
    (hmicros : fields.micros = 0) : number (hourDigits date) ≤ 59 ∧
      ∃ micros, (0 ≤ micros ∧ micros ≤ 999999) ∧
        (strptimeLoop false (formatText (.field .second :: tail)) date fields).2 =
          { fields with ss := number (hourDigits date), micros := micros } := by
  have hdropped : tail.dropWhile (!Item.isSpace ·) = [] := by
    rcases htail with rfl | rfl <;> rfl
  cases h with
  | number hdigits hrange hword h =>
    refine ⟨second_inRange hrange, ?_⟩
    rw [loop_number_kept hdigits hrange hword]
    exact tail_read htail h hmicros
  | cut hdigits hrange hblank hword h =>
    refine ⟨second_inRange hrange, 0, by decide, ?_⟩
    rw [loop_number hdigits hrange, if_pos hblank, hdropped, ← hmicros]
    rfl
  | missing hs hblank h =>
    have hnone : hourDigits date = [] := no_digits_of_blank hblank
    rw [hnone]
    refine ⟨by decide, ?_⟩
    rw [loop_field, readSpecifier_missing hs hblank]
    obtain ⟨micros, hrange, hread⟩ := tail_read htail h hmicros
    refine ⟨micros, hrange, hread.trans ?_⟩
    rw [show number [] = fields.ss from hsecond.symm]

/-- A number that is followed by a colon and more, or by nothing but whitespace. -/
theorem number_read {s : Specifier} {items : List Item} (hs : ¬ s.mayMiss ∨ s = .minute)
    (hitems : items.dropWhile (!Item.isSpace ·) = [])
    (h : Accepted omitted (.field s :: literal ':' :: items) date) (fields : DateFields) :
    s.inRange (hourDigits date) = true ∧
      ((∃ omitted', Accepted omitted' items (date.dropWhile isdigit).tail ∧
        strptimeLoop false (formatText (.field s :: literal ':' :: items)) date fields =
          strptimeLoop false (formatText items) (date.dropWhile isdigit).tail
            (s.set fields (hourDigits date))) ∨
      ((date.dropWhile isdigit).dropWhile isspace = [] ∧
        (strptimeLoop false (formatText (.field s :: literal ':' :: items)) date fields).2 =
          s.set fields (hourDigits date))) := by
  cases h with
  | number hdigits hrange hword h =>
    refine ⟨hrange, .inl ?_⟩
    rw [loop_number_kept hdigits hrange hword]
    cases h with
    | literal hhead h =>
      refine ⟨_, h, ?_⟩
      rw [literal, loop_literal, if_pos hhead]
      rfl
  | cut hdigits hrange hblank hword h =>
    have hnil : (literal ':' :: items).dropWhile (!Item.isSpace ·) = [] := hitems
    rw [hnil] at h
    refine ⟨hrange, .inr ?_⟩
    cases h with
    | done hdone =>
      refine ⟨hdone, ?_⟩
      rw [loop_number hdigits hrange, if_pos hblank, hnil]
      rfl
  | missing hs' hblank h =>
    cases h with
    | literal hhead h =>
      rw [atBlank, hhead] at hblank
      cases hblank
  | missingYear hblank h =>
    rcases hs with hs | hs
    · exact absurd (.inr (.inr rfl)) hs
    · cases hs

theorem timeItems_append (tail : List Item) : timeItems ++ tail =
    .field .hour :: literal ':' :: .field .minute :: literal ':' :: .field .second :: tail := rfl

theorem time_reads (htail : tail = [] ∨ tail = fractionItems)
    (h : Accepted omitted (timeItems ++ tail) date) :
    TimeRead date (strptimeLoop false (formatText (timeItems ++ tail)) date .zero).2 := by
  have hspaces : tail.dropWhile (!Item.isSpace ·) = [] := by
    rcases htail with rfl | rfl <;> rfl
  obtain ⟨hhour, hrest⟩ := @number_read omitted date .hour
    (.field .minute :: literal ':' :: .field .second :: tail)
    (.inl (by simp [Specifier.mayMiss])) hspaces h .zero
  have hhour' : number (hourDigits date) ≤ 23 := hour_inRange hhour
  have hnothing : (0 : ℤ) ≤ 0 ∧ (0 : ℤ) ≤ 999999 := by decide
  have hzero : (0 : ℤ) ≤ 59 := by decide
  rcases hrest with ⟨omitted', h', hloop⟩ | ⟨hblank, hloop⟩
  · obtain ⟨hminute, hrest'⟩ := @number_read omitted' _ .minute (.field .second :: tail)
      (.inr rfl) hspaces h' (Specifier.hour.set .zero (hourDigits date))
    have hminute' : number (minuteDigits date) ≤ 59 := minute_inRange hminute
    rcases hrest' with ⟨omitted'', h'', hloop'⟩ | ⟨hblank', hloop'⟩
    · obtain ⟨hsecond, micros, hmicros, hread⟩ := @second_read omitted'' tail _
        (Specifier.minute.set (Specifier.hour.set .zero (hourDigits date)) (minuteDigits date))
        htail h'' rfl rfl
      have hall := (congrArg Prod.snd (hloop.trans hloop')).trans hread
      rw [timeItems_append, hall]
      exact ⟨rfl, rfl, rfl, hhour', hminute', hsecond, hmicros⟩
    · have hall := (congrArg Prod.snd hloop).trans hloop'
      have hnone : secondDigits date = [] := hourDigits_blank (blank_tail hblank')
      rw [timeItems_append, hall]
      exact ⟨rfl, rfl, by rw [hnone]; rfl, hhour', hminute', hzero, hnothing⟩
  · have hminute : minuteDigits date = [] := hourDigits_blank (blank_tail hblank)
    have hsecond : secondDigits date = [] := minuteDigits_blank (blank_tail hblank)
    rw [timeItems_append, hloop]
    exact ⟨rfl, by rw [hminute]; rfl, by rw [hsecond]; rfl, hhour', hzero, hzero, hnothing⟩

end

theorem setAll_micros {runs : List (Specifier × Text)} (h : ∀ r ∈ runs, r.1 ≠ .fraction)
    (fields : DateFields) : (setAll fields runs).micros = fields.micros := by
  induction runs generalizing fields with
  | nil => rfl
  | cons run runs ih =>
    rw [setAll_cons, ih (fun r hr => h r (List.mem_cons_of_mem _ hr))]
    have hrun := h run List.mem_cons_self
    cases hs : run.1 <;> first | rfl | exact absurd hs hrun

/-- A format without a fraction leaves the microseconds as they are. -/
theorem attempt_micros {items : List Item} (hitems : Item.field .fraction ∉ items) {date : Text}
    {fields : DateFields} (h : (dbStrptime date (formatText items) fields).1 = true) :
    (dbStrptime date (formatText items) fields).2.micros = fields.micros := by
  obtain ⟨omitted, haccepted⟩ := dbStrptime_iff.mp h
  obtain ⟨runs, hloop, hmem, -⟩ := accepted_stores haccepted
  unfold dbStrptime
  rw [hloop]
  refine setAll_micros (fun r hr hfraction => hitems ?_) fields
  rw [← hfraction]
  exact hmem r hr

theorem dateTime_attempts (date : Text) :
    TDBDateTime.setFromString date = dateTimeReference date := by
  unfold TDBDateTime.setFromString dateTimeReference
  rw [dateTimeFractionFormat_eq, dateTimeFormat_eq]
  dsimp only
  by_cases hsecond : (dbStrptime date (formatText dateTimeItems) .zero).1 = true
  · rw [second_attempt continues_fraction hsecond]
  · have hother := attempt_fst dateTimeItems date .zero
      (dbStrptime date (formatText (dateTimeItems ++ fractionItems)) .zero).2
    rw [Bool.not_eq_true] at hsecond
    rw [hsecond] at hother
    simp only [hsecond, ← hother, Bool.false_and, Bool.false_eq_true, if_false]

theorem time_attempts (date : Text) : TDBTime.setFromString date =
    (let first := dbStrptime date timeFractionFormat .zero
     let second := dbStrptime date timeFormat .zero
     if first.1 then TDBTime.set first.2.hh first.2.mm first.2.ss first.2.micros
     else if second.1 then TDBTime.set second.2.hh second.2.mm second.2.ss 0
     else none) := by
  unfold TDBTime.setFromString
  rw [timeFractionFormat_eq, timeFormat_eq]
  dsimp only
  by_cases hsecond : (dbStrptime date (formatText timeItems) .zero).1 = true
  · rw [second_attempt continues_fraction hsecond, attempt_micros (by decide) hsecond]
    rfl
  · have hother := attempt_fst timeItems date .zero
      (dbStrptime date (formatText (timeItems ++ fractionItems)) .zero).2
    rw [Bool.not_eq_true] at hsecond
    rw [hsecond] at hother
    simp only [hsecond, ← hother, Bool.false_eq_true, if_false]

theorem attempt_reads {tail : List Item} (htail : tail = [] ∨ tail = fractionItems) {date : Text}
    (h : (dbStrptime date (formatText (timeItems ++ tail)) .zero).1 = true) :
    TimeRead date (dbStrptime date (formatText (timeItems ++ tail)) .zero).2 := by
  obtain ⟨omitted, haccepted⟩ := dbStrptime_iff.mp h
  exact time_reads htail haccepted

theorem reference_ne {date : Text} (h : ¬ NumbersFit date) : timeReference date = none := by
  unfold timeReference
  rw [timeFractionFormat_eq, timeFormat_eq]
  dsimp only
  rw [if_neg, if_neg]
  · intro hsecond
    rw [Bool.and_eq_true] at hsecond
    obtain ⟨hread, hvalid⟩ := hsecond
    have hreads := @attempt_reads [] (.inl rfl) date hread
    have hmicros := @attempt_micros timeItems (by decide) _ _ hread
    rw [show timeItems ++ [] = timeItems from rfl] at hreads
    refine h (hreads.valid_iff.mp ?_)
    rw [hmicros]
    exact hvalid
  · intro hfirst
    rw [Bool.and_eq_true] at hfirst
    exact h ((attempt_reads (.inr rfl) hfirst.1).valid_iff.mp hfirst.2)

theorem reference_eq {date : Text}
    (h : (∃ omitted, Accepted omitted timeItems date ∨
      Accepted omitted (timeItems ++ fractionItems) date) → NumbersFit date) :
    TDBTime.setFromString date = timeReference date := by
  rw [time_attempts]
  unfold timeReference
  dsimp only
  rw [timeFractionFormat_eq, timeFormat_eq]
  by_cases hfirst : (dbStrptime date (formatText (timeItems ++ fractionItems)) .zero).1 = true
  · obtain ⟨omitted, haccepted⟩ := dbStrptime_iff.mp hfirst
    have hvalid := (attempt_reads (.inr rfl) hfirst).valid_iff.mpr (h ⟨omitted, .inr haccepted⟩)
    rw [hfirst, hvalid]
    rfl
  · rw [Bool.not_eq_true] at hfirst
    rw [hfirst]
    by_cases hsecond : (dbStrptime date (formatText timeItems) .zero).1 = true
    · obtain ⟨omitted, haccepted⟩ := dbStrptime_iff.mp hsecond
      have hvalid := (@attempt_reads [] (.inl rfl) date hsecond).valid_iff.mpr
        (h ⟨omitted, .inl haccepted⟩)
      rw [show timeItems ++ [] = timeItems from rfl,
        attempt_micros (by decide) hsecond, show DateFields.zero.micros = 0 from rfl] at hvalid
      rw [hsecond, hvalid]
      rfl
    · rw [Bool.not_eq_true] at hsecond
      rw [hsecond]
      rfl

/-- A datetime is what a fresh attempt with a fraction or else one without it reads. So is a
time unless a number of an accepted text wraps around to a negative one. -/
theorem attempts_separate (date : Text) :
    TDBDateTime.setFromString date = dateTimeReference date ∧
      (TDBTime.setFromString date = timeReference date ↔
        ((∃ omitted, Accepted omitted timeItems date ∨
          Accepted omitted (timeItems ++ fractionItems) date) → NumbersFit date)) := by
  refine ⟨dateTime_attempts date, fun heq haccepted => ?_, reference_eq⟩
  by_contra hfit
  obtain ⟨omitted, haccepted⟩ := haccepted
  have hsome : ∃ t, TDBTime.setFromString date = some t := by
    rw [time_setFromString_iff]
    exact haccepted.symm.imp (⟨omitted, ·⟩) (⟨omitted, ·⟩)
  obtain ⟨t, ht⟩ := hsome
  rw [reference_ne hfit, ht] at heq
  cases heq

/-- An hour that wraps around is refused for a time, but not for its object. -/
theorem wrapped_hour : TDBTime.setFromString "4294967295:00:00".toList = some {} ∧
    timeReference "4294967295:00:00".toList = none :=
  ⟨by decide +kernel, by decide +kernel⟩

end DatabaseMod.CoreTextAttempts
