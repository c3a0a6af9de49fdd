import DatabaseMod.CoreFormat

/-!
# The texts of datetimes and times

`getString` formats without a format of its own, and the default formats end at the second.
Reading such a text gives the object back but for its microseconds.
-/

namespace DatabaseMod.CoreDefaultTexts
open MachineInteger CoreGlue CoreStrptime CoreDateParser CoreTemporal CoreFormat
open CoreDateTypes (TDBDateTime)
open SqlTokens (Text)

/-! ### Texts that keep a part of a value -/

section Lossy

variable {α β : Type} {P : α → Prop} {text : α → Option β} {read : β → Option α} {keep : α → α}

/-- A text and what is read from it determine each other. -/
theorem text_eq_iff (htext : ∀ a, text (keep a) = text a)
    (hread : ∀ a, P a → (text a >>= read) = some (keep a)) {a b : α} (ha : P a) (hb : P b) :
    text a = text b ↔ keep a = keep b := by
  constructor
  · intro h
    have hkept : some (keep a) = some (keep b) := by rw [← hread a ha, ← hread b hb, h]
    exact Option.some.inj hkept
  · intro h
    rw [← htext a, ← htext b, h]

end Lossy

/-! ### Objects and their texts -/

def DateTimeBuilt (t : TDBDateTime) : Prop := t.BuiltFromParts ∧ 1 ≤ t.year ∧ t.year ≤ 9999

/-- A non-null time that some call of `setFromParts` with 32-bit arguments left. -/
def TimeBuilt (t : TDBTime) : Prop :=
  t.isNull = false ∧ ∃ (t₀ : TDBTime) (hh mm ss micros : ℤ),
    (InInt32 hh ∧ InInt32 mm ∧ InInt32 ss ∧ InInt32 micros) ∧
    t₀.setFromParts hh mm ss micros = some t

section

variable (c : Strftime)

def dateTimeString (t : TDBDateTime) : Option Text := TDBDateTime.format c t

def timeString (t : TDBTime) : Option Text := TDBTime.format c t

end

def dateTimeSecond (t : TDBDateTime) : TDBDateTime := { t with microsecond := 0 }

def timeSecond (t : TDBTime) : TDBTime := { t with microsecond := 0 }

theorem dateTimeSecond_eq_iff (t : TDBDateTime) : dateTimeSecond t = t ↔ t.microsecond = 0 := by
  constructor
  · intro h
    rw [← h]
    rfl
  · intro h
    rw [dateTimeSecond, ← h]

theorem timeSecond_eq_iff (t : TDBTime) : timeSecond t = t ↔ t.microsecond = 0 := by
  constructor
  · intro h
    rw [← h]
    rfl
  · intro h
    rw [timeSecond, ← h]

theorem dateTime_eq {a b : TDBDateTime} (h : dateTimeSecond a = dateTimeSecond b)
    (hmicros : a.microsecond = b.microsecond) : a = b := by
  have ha : a = { dateTimeSecond a with microsecond := a.microsecond } := rfl
  rw [ha, h, hmicros]
  rfl

theorem time_eq {a b : TDBTime} (h : timeSecond a = timeSecond b)
    (hmicros : a.microsecond = b.microsecond) : a = b := by
  have ha : a = { timeSecond a with microsecond := a.microsecond } := rfl
  rw [ha, h, hmicros]
  rfl

/-! ### Built objects -/

theorem DateTimeBuilt.spec {t : TDBDateTime} (h : DateTimeBuilt t) :
    dbIsValidDate t.year t.month t.day = true ∧
      dbIsValidTime t.hour t.minute t.second t.microsecond = true ∧
      TDBDateTime.set t.year t.month t.day t.hour t.minute t.second t.microsecond = some t := by
  obtain ⟨⟨hnull, t₀, y, m, d, hh, mm, ss, micros, -, hset⟩, -⟩ := h
  unfold CoreDateTypes.TDBDateTime.setFromParts at hset
  split_ifs at hset with hinvalid
  · cases hset
    cases hnull
  · obtain ⟨v, hv, ht⟩ := Option.bind_eq_some_iff.mp hset
    cases ht
    obtain ⟨hdate, htime⟩ := valid_parts hinvalid
    refine ⟨hdate, htime, ?_⟩
    unfold TDBDateTime.set CoreDateTypes.TDBDateTime.setFromParts
    rw [if_neg hinvalid, hv]
    rfl

theorem TimeBuilt.spec {t : TDBTime} (h : TimeBuilt t) :
    dbIsValidTime t.hour t.minute t.second t.microsecond = true ∧
      TDBTime.set t.hour t.minute t.second t.microsecond = some t := by
  obtain ⟨hnull, t₀, hh, mm, ss, micros, -, hset⟩ := h
  unfold TDBTime.setFromParts at hset
  split_ifs at hset with hinvalid
  · cases hset
    cases hnull
  · obtain ⟨v, hv, ht⟩ := Option.bind_eq_some_iff.mp hset
    cases ht
    refine ⟨by simpa using hinvalid, ?_⟩
    unfold TDBTime.set TDBTime.setFromParts
    rw [if_neg hinvalid, hv]
    rfl

section

variable {y m d hh mm ss micros : ℤ}

/-- Whole seconds of a time that was set. -/
theorem set_second {t : TDBDateTime} (hdate : dbIsValidDate y m d = true)
    (htime : dbIsValidTime hh mm ss micros = true)
    (h : TDBDateTime.set y m d hh mm ss micros = some t) :
    TDBDateTime.set y m d hh mm ss 0 = some (dateTimeSecond t) := by
  have hsecond := valid_time_of_micros htime
  unfold TDBDateTime.set CoreDateTypes.TDBDateTime.setFromParts at h ⊢
  rw [if_neg (by simp [hdate, htime])] at h
  rw [if_neg (by simp [hdate, hsecond])]
  obtain ⟨v, hv, ht⟩ := Option.bind_eq_some_iff.mp h
  cases ht
  rw [hv]
  rfl

theorem time_set_second {t : TDBTime} (htime : dbIsValidTime hh mm ss micros = true)
    (h : TDBTime.set hh mm ss micros = some t) :
    TDBTime.set hh mm ss 0 = some (timeSecond t) := by
  have hsecond := valid_time_of_micros htime
  unfold TDBTime.set TDBTime.setFromParts at h ⊢
  rw [if_neg (by simp [htime])] at h
  rw [if_neg (by simp [hsecond])]
  obtain ⟨v, hv, ht⟩ := Option.bind_eq_some_iff.mp h
  cases ht
  rw [hv]
  rfl

end

section

variable (c : Strftime)

/-! ### What the default formats print -/

/-- There is no `%f` in the format. -/
theorem dateTimeString_second (t : TDBDateTime) :
    dateTimeString c (dateTimeSecond t) = dateTimeString c t := by
  unfold dateTimeString TDBDateTime.format formatDate
  rw [dateTimeFormat_eq, spliceMicros_plain _ dateTimeItems_plain,
    spliceMicros_plain _ dateTimeItems_plain]
  rfl

theorem timeString_second (t : TDBTime) : timeString c (timeSecond t) = timeString c t := by
  unfold timeString TDBTime.format formatDate
  rw [timeFormat_eq, spliceMicros_plain _ timeItems_plain, spliceMicros_plain _ timeItems_plain]
  rfl

theorem dateTimeString_read {t : TDBDateTime} (h : DateTimeBuilt t) :
    (dateTimeString c t >>= TDBDateTime.setFromString) = some (dateTimeSecond t) := by
  obtain ⟨hdate, htime, hset⟩ := h.spec
  have hyear : t.year ≤ 2147483647 := h.2.2.trans (by decide)
  have hsecond := valid_time_of_micros htime
  have hsplice : spliceMicros (microText t.microsecond) dateTimeFormat =
      formatText (dateTimeItems ++ []) := by
    rw [dateTimeFormat_eq, List.append_nil, spliceMicros_plain _ dateTimeItems_plain]
  have htext := formatDate_dateTime c (constant_nil c.padding) (printable_of_valid hyear hdate)
    hsecond hsplice
  unfold dateTimeString TDBDateTime.format
  rw [htext, Option.bind_eq_bind, Option.bind_some,
    dateTime_setFromString (denotes_year c ⟨by have := h.2.1; omega, hyear⟩) hdate hsecond]
  exact set_second hdate htime hset

theorem timeString_read {t : TDBTime} (h : TimeBuilt t) :
    (timeString c t >>= TDBTime.setFromString) = some (timeSecond t) := by
  obtain ⟨htime, hset⟩ := h.spec
  have hsecond := valid_time_of_micros htime
  have hsplice : spliceMicros (microText t.microsecond) timeFormat =
      formatText (timeItems ++ []) := by
    rw [timeFormat_eq, List.append_nil, spliceMicros_plain _ timeItems_plain]
  have htext := formatDate_time c (constant_nil c.padding) hsecond hsplice
  unfold timeString TDBTime.format
  rw [htext, Option.bind_eq_bind, Option.bind_some, time_setFromString hsecond]
  exact time_set_second htime hset

/-- The text of a datetime or a time tells it from another one unless the two differ in
nothing but their microseconds, and is read back as the object if there are none. -/
theorem default_texts_identify :
    (∀ a b, DateTimeBuilt a → DateTimeBuilt b →
      ((dateTimeString c a = dateTimeString c b → a = b) ↔
        (dateTimeSecond a = dateTimeSecond b → a.microsecond = b.microsecond))) ∧
    (∀ a, DateTimeBuilt a →
      ((dateTimeString c a >>= TDBDateTime.setFromString) = some a ↔ a.microsecond = 0)) ∧
    (∀ a b, TimeBuilt a → TimeBuilt b →
      ((timeString c a = timeString c b → a = b) ↔
        (timeSecond a = timeSecond b → a.microsecond = b.microsecond))) ∧
    ∀ a, TimeBuilt a →
      ((timeString c a >>= TDBTime.setFromString) = some a ↔ a.microsecond = 0) := by
  have hdateTime := @text_eq_iff _ _ DateTimeBuilt (dateTimeString c) TDBDateTime.setFromString
    dateTimeSecond (dateTimeString_second c) fun _ => dateTimeString_read c
  have htime := @text_eq_iff _ _ TimeBuilt (timeString c) TDBTime.setFromString timeSecond
    (timeString_second c) fun _ => timeString_read c
  refine ⟨fun a b ha hb => ?_, fun a ha => ?_, fun a b ha hb => ?_, fun a ha => ?_⟩
  · rw [hdateTime ha hb]
    exact ⟨fun h hsecond => congrArg _ (h hsecond),
      fun h hsecond => dateTime_eq hsecond (h hsecond)⟩
  · rw [dateTimeString_read c ha, Option.some_inj, dateTimeSecond_eq_iff]
  · rw [htime ha hb]
    exact ⟨fun h hsecond => congrArg _ (h hsecond), fun h hsecond => time_eq hsecond (h hsecond)⟩
  · rw [timeString_read c ha, Option.some_inj, timeSecond_eq_iff]

end

/-- Two datetimes of one text. -/
theorem microseconds_unprinted : ∃ a b,
    TDBDateTime.set 2024 1 2 3 4 5 1 = some a ∧ TDBDateTime.set 2024 1 2 3 4 5 2 = some b ∧
      a ≠ b ∧ dateTimeString unpadded a = dateTimeString unpadded b ∧
      (dateTimeString unpadded a >>= TDBDateTime.setFromString) ≠ some a :=
  ⟨⟨false, 1704164645, 1, 2024, 1, 2, 3, 4, 5⟩, ⟨false, 1704164645, 2, 2024, 1, 2, 3, 4, 5⟩,
    by decide +kernel, by decide +kernel, by decide, by decide +kernel, by decide +kernel⟩

end DatabaseMod.CoreDefaultTexts
