import DatabaseMod.MachineInteger
import DatabaseMod.SqlTokens

/-!
# The date parser of the core

`dbStrptime` over texts, and the formats it is used with. A read of the date past its end
is a mismatch. What the parser accepts is described by a relation between the items of a
format and a date, which also says whether a part of the format was left out.
-/

namespace DatabaseMod.CoreDateParser
open MachineInteger
open SqlTokens (Text)

def isspace (c : Char) : Bool := c = ' ' || (9 ≤ c.toNat && c.toNat ≤ 13)

def isdigit (c : Char) : Bool := '0' ≤ c && c ≤ '9'

/-- The variables that `dbStrptime` writes to. -/
structure DateFields where
  y : ℤ
  m : ℤ
  d : ℤ
  hh : ℤ
  mm : ℤ
  ss : ℤ
  micros : ℤ
deriving DecidableEq, Repr

def DateFields.zero : DateFields := ⟨0, 0, 0, 0, 0, 0, 0⟩

/-! ### The loop -/

/-- The digit loops; the number wraps around as an `Int`. -/
def scanNumber (i : ℤ) : Text → ℤ × Text
  | [] => (i, [])
  | c :: date =>
    if isdigit c then scanNumber (castInt32 (castInt32 (i * 10) + (c.toNat - 48))) date
    else (i, c :: date)

/-- The digit loop of a fraction, of at most six digits. -/
def scanFraction (i : ℤ) (digits : ℕ) : Text → ℤ × ℕ × Text
  | [] => (i, digits, [])
  | c :: date =>
    if isdigit c ∧ digits < 6 then scanFraction (i * 10 + (c.toNat - 48)) (digits + 1) date
    else (i, digits, c :: date)

/-- How a case of the `Select` ends: with `Return False`, with `Continue`, or below it. -/
inductive Outcome
  | fail
  | next (date : Text) (fields : DateFields)
  | below (date : Text) (fields : DateFields)
deriving DecidableEq, Repr

def readNumber (inRange : ℤ → Bool) (set : ℤ → DateFields) : Text → Outcome
  | [] => .fail
  | c :: date =>
    if ¬ isdigit c then .fail
    else
      let r := scanNumber 0 (c :: date)
      if inRange r.1 then .below r.2 (set r.1) else .fail

/-- More than six digits are rejected, fewer are padded on the right. -/
def readFraction (set : ℤ → DateFields) : Text → Outcome
  | [] => .fail
  | c :: date =>
    if ¬ isdigit c then .fail
    else
      let r := scanFraction 0 0 (c :: date)
      if r.2.2.head?.any isdigit then .fail
      else .below r.2.2 (set (r.1 * 10 ^ (6 - r.2.1)))

/-- At the end of the date or before whitespace. -/
def atBlank (date : Text) : Bool := date.head?.all isspace

/-- The cases of the `Select`, after a percent sign. -/
def readSpecifier (s : Char) (date : Text) (fields : DateFields) : Outcome :=
  if s = '%' then if date.head? = some '%' then .next date.tail fields else .fail
  else if s = 'M' ∨ s = 'S' then
    if atBlank date then .next date fields
    else readNumber (fun i => i ≤ 59)
      (fun i => if s = 'M' then { fields with mm := i } else { fields with ss := i }) date
  else if s = 'H' then readNumber (fun i => i ≤ 23) (fun i => { fields with hh := i }) date
  else if s = 'd' then readNumber (fun i => i ≤ 31) (fun i => { fields with d := i }) date
  else if s = 'm' then
    readNumber (fun i => 1 ≤ i && i ≤ 12) (fun i => { fields with m := i }) date
  else if s = 'Y' then
    if atBlank date then .below date fields
    else readNumber (fun _ => true) (fun i => { fields with y := i }) date
  else if s = 'f' then readFraction (fun i => { fields with micros := i }) date
  else .below date fields

/-- The loop over the format. While it is `skipping`, it passes over the rest of a word:
below the `Select` this happens when the date goes on with whitespace. -/
def strptimeLoop (skipping : Bool) : Text → Text → DateFields → Bool × DateFields
  | [], date, fields => (date.dropWhile isspace = [], fields)
  | c :: format, date, fields =>
    if skipping && !isspace c then strptimeLoop true format date fields
    else if c ≠ '%' then
      if isspace c then strptimeLoop false format (date.dropWhile isspace) fields
      else if date.head? = some c then strptimeLoop false format date.tail fields
      else (false, fields)
    else match format with
      | [] => (false, fields)
      | s :: format =>
        match readSpecifier s date fields with
        | .fail => (false, fields)
        | .next date fields => strptimeLoop false format date fields
        | .below date fields => strptimeLoop (date.head?.any isspace) format date fields

/-- The result, and the variables as they are left. -/
def dbStrptime (date format : Text) (fields : DateFields) : Bool × DateFields :=
  strptimeLoop false format date fields

/-! ### Formats -/

inductive Specifier
  | year | month | day | hour | minute | second | fraction
deriving DecidableEq, Repr

def Specifier.char : Specifier → Char
  | .year => 'Y'
  | .month => 'm'
  | .day => 'd'
  | .hour => 'H'
  | .minute => 'M'
  | .second => 'S'
  | .fraction => 'f'

inductive Item
  | literal (c : Char) (h : c ≠ '%' ∧ isspace c = false)
  | space (c : Char) (h : isspace c = true)
  | percent
  | field (s : Specifier)
deriving DecidableEq, Repr

def Item.text : Item → Text
  | .literal c _ => [c]
  | .space c _ => [c]
  | .percent => ['%', '%']
  | .field s => ['%', s.char]

def Item.isSpace : Item → Bool
  | .space _ _ => true
  | _ => false

def formatText (items : List Item) : Text := items.flatMap Item.text

/-- The date consists of what the format asks for: its literals and percent signs, at
least one digit for each specifier, and whitespace where the format has it or at the end.
A specifier stands for the whole run of digits before it. -/
def Matches : List Item → Text → Prop
  | [], date => date.dropWhile isspace = []
  | .literal c _ :: items, date => date.head? = some c ∧ Matches items date.tail
  | .space _ _ :: items, date => Matches items (date.dropWhile isspace)
  | .percent :: items, date => date.head? = some '%' ∧ Matches items date.tail
  | .field _ :: items, date =>
    date.takeWhile isdigit ≠ [] ∧ Matches items (date.dropWhile isdigit)

instance decidableMatches : (items : List Item) → (date : Text) → Decidable (Matches items date)
  | [], _ => inferInstanceAs (Decidable (_ = _))
  | .literal _ _ :: items, date =>
    have := decidableMatches items date.tail
    inferInstanceAs (Decidable (_ ∧ _))
  | .space _ _ :: items, date => decidableMatches items (date.dropWhile isspace)
  | .percent :: items, date =>
    have := decidableMatches items date.tail
    inferInstanceAs (Decidable (_ ∧ _))
  | .field _ :: items, date =>
    have := decidableMatches items (date.dropWhile isdigit)
    inferInstanceAs (Decidable (_ ∧ _))

namespace Specifier

/-- The digits that a specifier takes. -/
def inRange : Specifier → Text → Bool
  | .year, _ => true
  | .month, digits => 1 ≤ (scanNumber 0 digits).1 && (scanNumber 0 digits).1 ≤ 12
  | .day, digits => (scanNumber 0 digits).1 ≤ 31
  | .hour, digits => (scanNumber 0 digits).1 ≤ 23
  | .minute, digits => (scanNumber 0 digits).1 ≤ 59
  | .second, digits => (scanNumber 0 digits).1 ≤ 59
  | .fraction, digits => digits.length ≤ 6

def set (fields : DateFields) : Specifier → Text → DateFields
  | .year, digits => { fields with y := (scanNumber 0 digits).1 }
  | .month, digits => { fields with m := (scanNumber 0 digits).1 }
  | .day, digits => { fields with d := (scanNumber 0 digits).1 }
  | .hour, digits => { fields with hh := (scanNumber 0 digits).1 }
  | .minute, digits => { fields with mm := (scanNumber 0 digits).1 }
  | .second, digits => { fields with ss := (scanNumber 0 digits).1 }
  | .fraction, digits =>
    { fields with micros := (scanNumber 0 digits).1 * 10 ^ (6 - digits.length) }

end Specifier

/-- The texts that the loop accepts. A part of the format is `omitted` where a minute, a
second or a year has no digits at the end of the date or before whitespace, and where
whitespace follows a number in the middle of a word of the format, whose rest is passed
over. -/
inductive Accepted : (omitted : Bool) → List Item → Text → Prop
  | done {date : Text} (h : date.dropWhile isspace = []) : Accepted false [] date
  | literal {omitted : Bool} {items : List Item} {date : Text} {c : Char}
    {hc : c ≠ '%' ∧ isspace c = false} (hhead : date.head? = some c)
    (h : Accepted omitted items date.tail) : Accepted omitted (.literal c hc :: items) date
  | space {omitted : Bool} {items : List Item} {date : Text} {c : Char}
    {hc : isspace c = true} (h : Accepted omitted items (date.dropWhile isspace)) :
    Accepted omitted (.space c hc :: items) date
  | percent {omitted : Bool} {items : List Item} {date : Text} (hhead : date.head? = some '%')
    (h : Accepted omitted items date.tail) : Accepted omitted (.percent :: items) date
  | number {omitted : Bool} {items : List Item} {date : Text} {s : Specifier}
    (hdigits : date.takeWhile isdigit ≠ []) (hrange : s.inRange (date.takeWhile isdigit) = true)
    (hword : (date.dropWhile isdigit).head?.any isspace = true → items.head?.all Item.isSpace = true)
    (h : Accepted omitted items (date.dropWhile isdigit)) : Accepted omitted (.field s :: items) date
  | cut {omitted : Bool} {items : List Item} {date : Text} {s : Specifier}
    (hdigits : date.takeWhile isdigit ≠ []) (hrange : s.inRange (date.takeWhile isdigit) = true)
    (hblank : (date.dropWhile isdigit).head?.any isspace = true)
    (hword : items.head?.all Item.isSpace = false)
    (h : Accepted omitted (items.dropWhile (!Item.isSpace ·)) (date.dropWhile isdigit)) :
    Accepted true (.field s :: items) date
  | missing {omitted : Bool} {items : List Item} {date : Text} {s : Specifier}
    (hs : s = .minute ∨ s = .second) (hblank : atBlank date = true)
    (h : Accepted omitted items date) : Accepted true (.field s :: items) date
  | missingYear {omitted : Bool} {items : List Item} {date : Text}
    (hblank : atBlank date = true)
    (h : Accepted omitted (if date = [] then items else items.dropWhile (!Item.isSpace ·)) date) :
    Accepted true (.field .year :: items) date

/-! ### Runs of digits -/

theorem not_isspace_of_isdigit {c : Char} (h : isdigit c = true) : isspace c = false := by
  simp only [isdigit, Bool.and_eq_true, decide_eq_true_eq, Char.le_def] at h
  have hlo : 48 ≤ c.toNat := h.1
  have hne : c ≠ ' ' := by
    rintro rfl
    exact absurd hlo (by decide)
  simp only [isspace, hne, decide_false, Bool.false_or, Bool.and_eq_false_iff,
    decide_eq_false_iff_not]
  omega

theorem scanNumber_eq (i : ℤ) (date : Text) : scanNumber i date =
    ((scanNumber i (date.takeWhile isdigit)).1, date.dropWhile isdigit) := by
  induction date generalizing i with
  | nil => rfl
  | cons c date ih =>
    rw [scanNumber]
    by_cases hc : isdigit c = true
    · rw [if_pos hc, ih, List.takeWhile_cons_of_pos hc, List.dropWhile_cons_of_pos hc, scanNumber,
        if_pos hc]
    · rw [if_neg hc, List.takeWhile_cons_of_neg hc, List.dropWhile_cons_of_neg hc]
      rfl

theorem exists_digit_of_takeWhile {date : Text} (h : date.takeWhile isdigit ≠ []) :
    ∃ c rest, date = c :: rest ∧ isdigit c = true := by
  cases date with
  | nil => exact absurd rfl h
  | cons c rest =>
    by_cases hc : isdigit c = true
    · exact ⟨c, rest, rfl, hc⟩
    · exact absurd (List.takeWhile_cons_of_neg hc) h

theorem takeWhile_eq_nil_iff_head {date : Text} :
    date.takeWhile isdigit = [] ↔ date.head?.any isdigit = false := by
  cases date with
  | nil => simp
  | cons c rest => by_cases hc : isdigit c = true <;> simp [hc]

theorem readNumber_digits {inRange : ℤ → Bool} {set : ℤ → DateFields} {date : Text}
    (h : date.takeWhile isdigit ≠ []) : readNumber inRange set date =
      if inRange (scanNumber 0 (date.takeWhile isdigit)).1 then
        .below (date.dropWhile isdigit) (set (scanNumber 0 (date.takeWhile isdigit)).1)
      else .fail := by
  obtain ⟨c, rest, rfl, hc⟩ := exists_digit_of_takeWhile h
  rw [readNumber, if_neg (by simp [hc]), scanNumber_eq]

theorem readNumber_none {inRange : ℤ → Bool} {set : ℤ → DateFields} {date : Text}
    (h : date.takeWhile isdigit = []) : readNumber inRange set date = .fail := by
  cases date with
  | nil => rfl
  | cons c rest =>
    have hc : isdigit c = false := by simpa using takeWhile_eq_nil_iff_head.mp h
    rw [readNumber, if_pos (by simp [hc])]

theorem digit_value {c : Char} (h : isdigit c = true) :
    ((c.toNat : ℤ) - 48 = ((c.toNat - '0'.toNat : ℕ) : ℤ)) ∧ c.toNat - '0'.toNat ≤ 9 := by
  simp only [isdigit, Bool.and_eq_true, decide_eq_true_eq, Char.le_def] at h
  have hlo : 48 ≤ c.toNat := h.1
  have hhi : c.toNat ≤ 57 := h.2
  have hzero : '0'.toNat = 48 := rfl
  omega

theorem ofDigitChars_lt {digits : Text} (h : ∀ c ∈ digits, isdigit c = true) (n : ℕ) :
    Nat.ofDigitChars 10 digits n < (n + 1) * 10 ^ digits.length := by
  induction digits generalizing n with
  | nil => simp
  | cons c digits ih =>
    have hc := (digit_value (h c List.mem_cons_self)).2
    have hrest := ih (fun x hx => h x (List.mem_cons_of_mem c hx)) (10 * n + (c.toNat - '0'.toNat))
    rw [Nat.ofDigitChars_cons, List.length_cons, pow_succ]
    refine hrest.trans_le ?_
    have hle : 10 * n + (c.toNat - '0'.toNat) + 1 ≤ (n + 1) * 10 := by omega
    calc _ ≤ (n + 1) * 10 * 10 ^ digits.length := Nat.mul_le_mul_right _ hle
      _ = (n + 1) * (10 ^ digits.length * 10) := by ring

/-- A number that fits an `Int` is read without wrapping around. -/
theorem scanNumber_value {digits : Text} (h : ∀ c ∈ digits, isdigit c = true) {n : ℕ}
    (hn : Nat.ofDigitChars 10 digits n < 2147483648) :
    scanNumber n digits = (((Nat.ofDigitChars 10 digits n : ℕ) : ℤ), []) := by
  induction digits generalizing n with
  | nil => rfl
  | cons c digits ih =>
    have hc := h c List.mem_cons_self
    obtain ⟨hvalue, -⟩ := digit_value hc
    have hfirst : Nat.ofDigitChars 10 digits (10 * n + (c.toNat - '0'.toNat)) = _ :=
      Nat.ofDigitChars_eq_ofDigitChars_zero
    rw [Nat.ofDigitChars_cons] at hn ⊢
    have hpos : 0 < 10 ^ digits.length := by positivity
    have hle : 10 * n + (c.toNat - '0'.toNat) ≤
        10 ^ digits.length * (10 * n + (c.toNat - '0'.toNat)) := Nat.le_mul_of_pos_left _ hpos
    have hmul : castInt32 ((n : ℤ) * 10) = n * 10 :=
      castInt32_of_mem ⟨by omega, by omega⟩
    have hadd : castInt32 ((n : ℤ) * 10 + (c.toNat - 48)) =
        ((10 * n + (c.toNat - '0'.toNat) : ℕ) : ℤ) := by
      rw [hvalue, castInt32_of_mem ⟨by omega, by omega⟩]
      push_cast
      ring
    rw [scanNumber, if_pos hc, hmul, hadd]
    exact ih (fun x hx => h x (List.mem_cons_of_mem c hx)) hn

theorem scanFraction_eq {date : Text} {n k : ℕ} (hk : k + (date.takeWhile isdigit).length ≤ 6) :
    scanFraction n k date = (((Nat.ofDigitChars 10 (date.takeWhile isdigit) n : ℕ) : ℤ),
      k + (date.takeWhile isdigit).length, date.dropWhile isdigit) := by
  induction date generalizing n k with
  | nil => rfl
  | cons c date ih =>
    rw [scanFraction]
    by_cases hc : isdigit c = true
    · rw [List.takeWhile_cons_of_pos hc, List.length_cons] at hk ⊢
      have hvalue : (n : ℤ) * 10 + (c.toNat - 48) = ((10 * n + (c.toNat - '0'.toNat) : ℕ) : ℤ) := by
        rw [(digit_value hc).1]
        push_cast
        ring
      rw [if_pos ⟨hc, by omega⟩, hvalue, ih (by omega), Nat.ofDigitChars_cons,
        List.dropWhile_cons_of_pos hc, Nat.add_assoc, Nat.add_comm 1]
    · rw [if_neg (by simp [hc]), List.takeWhile_cons_of_neg hc, List.dropWhile_cons_of_neg hc]
      rfl

theorem scanFraction_long {date : Text} {i : ℤ} {k : ℕ} (hle : k ≤ 6)
    (hk : 6 < k + (date.takeWhile isdigit).length) :
    (scanFraction i k date).2.2.head?.any isdigit = true := by
  induction date generalizing i k with
  | nil => simp at hk; omega
  | cons c date ih =>
    rw [scanFraction]
    by_cases hc : isdigit c = true
    · by_cases hlt : k < 6
      · rw [if_pos ⟨hc, hlt⟩]
        rw [List.takeWhile_cons_of_pos hc, List.length_cons] at hk
        exact ih (by omega) (by omega)
      · rw [if_neg (by simp [hlt])]
        simpa using hc
    · rw [List.takeWhile_cons_of_neg hc, List.length_nil] at hk
      omega

theorem head?_dropWhile_isdigit (date : Text) :
    (date.dropWhile isdigit).head?.any isdigit = false := by
  cases h : date.dropWhile isdigit with
  | nil => rfl
  | cons c rest =>
    have hc := List.head?_dropWhile_not isdigit date
    rw [h] at hc
    simpa using hc

theorem readFraction_digits {set : ℤ → DateFields} {date : Text}
    (h : date.takeWhile isdigit ≠ []) : readFraction set date =
      if (date.takeWhile isdigit).length ≤ 6 then
        .below (date.dropWhile isdigit) (set ((scanNumber 0 (date.takeWhile isdigit)).1 *
          10 ^ (6 - (date.takeWhile isdigit).length)))
      else .fail := by
  obtain ⟨c, rest, rfl, hc⟩ := exists_digit_of_takeWhile h
  have hdigits : ∀ x ∈ (c :: rest).takeWhile isdigit, isdigit x = true :=
    fun x hx => List.mem_takeWhile_imp hx
  rw [readFraction, if_neg (by simp [hc])]
  dsimp only
  by_cases hlen : ((c :: rest).takeWhile isdigit).length ≤ 6
  · have hfraction := @scanFraction_eq (c :: rest) 0 0 (by omega)
    have hlt := ofDigitChars_lt hdigits 0
    have hpow : 10 ^ ((c :: rest).takeWhile isdigit).length ≤ 10 ^ 6 :=
      Nat.pow_le_pow_right (by decide) hlen
    have hnumber := scanNumber_value hdigits (n := 0) (by omega)
    rw [Nat.cast_zero (R := ℤ)] at hfraction hnumber
    rw [hfraction, if_pos hlen, if_neg (by simp [head?_dropWhile_isdigit]), hnumber, Nat.zero_add]
  · rw [if_pos (scanFraction_long (by omega) (by omega)), if_neg hlen]

theorem readFraction_none {set : ℤ → DateFields} {date : Text}
    (h : date.takeWhile isdigit = []) : readFraction set date = .fail := by
  cases date with
  | nil => rfl
  | cons c rest =>
    have hc : isdigit c = false := by simpa using takeWhile_eq_nil_iff_head.mp h
    rw [readFraction, if_pos (by simp [hc])]

/-! ### One specifier -/

theorem atBlank_of_digits {date : Text} (h : date.takeWhile isdigit ≠ []) :
    atBlank date = false := by
  obtain ⟨c, rest, rfl, hc⟩ := exists_digit_of_takeWhile h
  simpa [atBlank] using not_isspace_of_isdigit hc

theorem readSpecifier_digits (s : Specifier) {date : Text} (h : date.takeWhile isdigit ≠ [])
    (fields : DateFields) : readSpecifier s.char date fields =
      if s.inRange (date.takeWhile isdigit) then
        .below (date.dropWhile isdigit) (s.set fields (date.takeWhile isdigit))
      else .fail := by
  have hblank := atBlank_of_digits h
  cases s with
  | fraction =>
    simp only [readSpecifier, Specifier.char, readFraction_digits h, Specifier.inRange,
      Specifier.set, decide_eq_true_eq]
    rfl
  | _ =>
    simp only [readSpecifier, Specifier.char, hblank, readNumber_digits h, Specifier.inRange,
      Specifier.set]
    rfl

theorem readSpecifier_missing {s : Specifier} (hs : s = .minute ∨ s = .second) {date : Text}
    (hblank : atBlank date = true) (fields : DateFields) :
    readSpecifier s.char date fields = .next date fields := by
  rcases hs with rfl | rfl <;> simp [readSpecifier, Specifier.char, hblank]

theorem readSpecifier_missingYear {date : Text} (hblank : atBlank date = true)
    (fields : DateFields) : readSpecifier Specifier.year.char date fields = .below date fields := by
  simp [readSpecifier, Specifier.char, hblank]

/-- The specifiers that the loop passes over at the end and before whitespace. -/
def Specifier.mayMiss (s : Specifier) : Prop := s = .minute ∨ s = .second ∨ s = .year

theorem readSpecifier_none (s : Specifier) {date : Text} (h : date.takeWhile isdigit = [])
    (hmiss : ¬ (s.mayMiss ∧ atBlank date = true)) (fields : DateFields) :
    readSpecifier s.char date fields = .fail := by
  simp only [Specifier.mayMiss, not_and, Bool.not_eq_true] at hmiss
  cases s with
  | fraction => simp [readSpecifier, Specifier.char, readFraction_none h]
  | year | minute | second =>
    simp [readSpecifier, Specifier.char, readNumber_none h, hmiss (by simp)]
  | _ => simp [readSpecifier, Specifier.char, readNumber_none h]

/-! ### The items of a format -/

theorem loop_passes {c : Char} (h : isspace c = false) (format date : Text) (fields : DateFields) :
    strptimeLoop true (c :: format) date fields = strptimeLoop true format date fields := by
  rw [strptimeLoop.eq_def]
  exact if_pos (by simp [h])

theorem loop_specifier (s : Char) (format date : Text) (fields : DateFields) :
    strptimeLoop false ('%' :: s :: format) date fields =
      match readSpecifier s date fields with
      | .fail => (false, fields)
      | .next date fields => strptimeLoop false format date fields
      | .below date fields => strptimeLoop (date.head?.any isspace) format date fields := by
  rw [strptimeLoop.eq_def]
  rfl

section Items

variable {items : List Item} {date : Text}

theorem loop_literal {c : Char} (h : c ≠ '%' ∧ isspace c = false) (fields : DateFields) :
    strptimeLoop false (formatText (.literal c h :: items)) date fields =
      if date.head? = some c then strptimeLoop false (formatText items) date.tail fields
      else (false, fields) := by
  change strptimeLoop false (c :: formatText items) date fields = _
  rw [strptimeLoop.eq_def]
  dsimp only
  rw [if_neg (by simp), if_pos h.1, if_neg (by simp [h.2])]

theorem loop_space {c : Char} (h : isspace c = true) (skipping : Bool) (fields : DateFields) :
    strptimeLoop skipping (formatText (.space c h :: items)) date fields =
      strptimeLoop false (formatText items) (date.dropWhile isspace) fields := by
  have hne : c ≠ '%' := by
    rintro rfl
    exact absurd h (by decide)
  change strptimeLoop skipping (c :: formatText items) date fields = _
  rw [strptimeLoop.eq_def]
  dsimp only
  rw [if_neg (by simp [h]), if_pos hne, if_pos h]

theorem loop_percent (fields : DateFields) :
    strptimeLoop false (formatText (.percent :: items)) date fields =
      if date.head? = some '%' then strptimeLoop false (formatText items) date.tail fields
      else (false, fields) := by
  change strptimeLoop false ('%' :: '%' :: formatText items) date fields = _
  rw [loop_specifier]
  simp only [readSpecifier, if_true]
  split_ifs <;> rfl

theorem loop_field (s : Specifier) (fields : DateFields) :
    strptimeLoop false (formatText (.field s :: items)) date fields =
      match readSpecifier s.char date fields with
      | .fail => (false, fields)
      | .next date fields => strptimeLoop false (formatText items) date fields
      | .below date fields =>
        strptimeLoop (date.head?.any isspace) (formatText items) date fields :=
  loop_specifier s.char (formatText items) date fields

theorem char_not_space (s : Specifier) : isspace s.char = false := by
  cases s <;> decide

/-- While it skips, the loop passes over the items up to the next whitespace. -/
theorem loop_skipping (fields : DateFields) :
    strptimeLoop true (formatText items) date fields =
      strptimeLoop false (formatText (items.dropWhile (!Item.isSpace ·))) date fields := by
  induction items with
  | nil => rfl
  | cons item items ih =>
    cases item with
    | literal c h =>
      change strptimeLoop true (c :: formatText items) date fields = _
      rw [loop_passes h.2, ih]
      rfl
    | space c h =>
      rw [loop_space]
      exact (loop_space h false fields).symm
    | percent =>
      change strptimeLoop true ('%' :: '%' :: formatText items) date fields = _
      rw [loop_passes rfl, loop_passes rfl, ih]
      rfl
    | field s =>
      change strptimeLoop true ('%' :: s.char :: formatText items) date fields = _
      rw [loop_passes rfl, loop_passes (char_not_space s), ih]
      rfl

/-- Below the `Select`, the rest of the word is kept when no whitespace follows. -/
theorem loop_below {skipping : Bool} (fields : DateFields) :
    strptimeLoop skipping (formatText items) date fields =
      strptimeLoop false
        (formatText (if skipping then items.dropWhile (!Item.isSpace ·) else items)) date fields := by
  cases skipping with
  | false => rfl
  | true => exact loop_skipping fields

end Items

/-! ### What is accepted -/

theorem dropWhile_of_head_space {items : List Item} (h : items.head?.all Item.isSpace = true) :
    items.dropWhile (!Item.isSpace ·) = items := by
  cases items with
  | nil => rfl
  | cons item items => simpa using h

theorem word_after_blank {items : List Item} {date : Text} (h : atBlank date = true) :
    (if date.head?.any isspace = true then items.dropWhile (!Item.isSpace ·) else items) =
      if date = [] then items else items.dropWhile (!Item.isSpace ·) := by
  cases date with
  | nil => simp
  | cons c rest =>
    have hc : isspace c = true := by simpa [atBlank] using h
    simp [hc]

theorem loop_of_accepted {omitted : Bool} {items : List Item} {date : Text}
    (h : Accepted omitted items date) (fields : DateFields) :
    (strptimeLoop false (formatText items) date fields).1 = true := by
  induction h generalizing fields with
  | done h => simpa [formatText, strptimeLoop] using h
  | literal hhead h ih =>
    rw [loop_literal, if_pos hhead]
    exact ih fields
  | space h ih =>
    rw [loop_space]
    exact ih fields
  | percent hhead h ih =>
    rw [loop_percent, if_pos hhead]
    exact ih fields
  | @number omitted items date s hdigits hrange hword h ih =>
    rw [loop_field, readSpecifier_digits s hdigits, if_pos hrange]
    dsimp only
    rw [loop_below]
    split_ifs with hblank
    · rw [dropWhile_of_head_space (hword hblank)]
      exact ih _
    · exact ih _
  | @cut omitted items date s hdigits hrange hblank hword h ih =>
    rw [loop_field, readSpecifier_digits s hdigits, if_pos hrange]
    dsimp only
    rw [loop_below, if_pos hblank]
    exact ih _
  | missing hs hblank h ih =>
    rw [loop_field, readSpecifier_missing hs hblank]
    exact ih fields
  | @missingYear omitted items date hblank h ih =>
    rw [loop_field, readSpecifier_missingYear hblank]
    dsimp only
    rw [loop_below, word_after_blank hblank]
    exact ih fields

theorem accepted_of_loop {items : List Item} {date : Text} {fields : DateFields}
    (h : (strptimeLoop false (formatText items) date fields).1 = true) :
    ∃ omitted, Accepted omitted items date := by
  -- below the `Select` the items of a whole word may go at once
  induction hn : items.length using Nat.strong_induction_on generalizing items date fields with
  | _ n ih =>
    subst hn
    cases items with
    | nil => exact ⟨false, .done (by simpa [formatText, strptimeLoop] using h)⟩
    | cons item items =>
      have hrest {items' : List Item} {date : Text} {fields : DateFields}
          (hlength : items'.length ≤ items.length)
          (h : (strptimeLoop false (formatText items') date fields).1 = true) :
          ∃ omitted, Accepted omitted items' date :=
        ih items'.length (Nat.lt_succ_of_le hlength) h rfl
      have hdrop : (items.dropWhile (!Item.isSpace ·)).length ≤ items.length :=
        (List.dropWhile_suffix _).length_le
      cases item with
      | literal c hc =>
        rw [loop_literal] at h
        split_ifs at h with hhead
        obtain ⟨omitted, hrest⟩ := hrest le_rfl h
        exact ⟨omitted, .literal hhead hrest⟩
      | space c hc =>
        rw [loop_space] at h
        obtain ⟨omitted, hrest⟩ := hrest le_rfl h
        exact ⟨omitted, .space hrest⟩
      | percent =>
        rw [loop_percent] at h
        split_ifs at h with hhead
        obtain ⟨omitted, hrest⟩ := hrest le_rfl h
        exact ⟨omitted, .percent hhead hrest⟩
      | field s =>
        rw [loop_field] at h
        by_cases hdigits : date.takeWhile isdigit = []
        · by_cases hmiss : s.mayMiss ∧ atBlank date = true
          · obtain ⟨hs, hblank⟩ := hmiss
            by_cases hyear : s = .year
            · subst hyear
              rw [readSpecifier_missingYear hblank] at h
              dsimp only at h
              rw [loop_below, word_after_blank hblank] at h
              obtain ⟨omitted, hrest⟩ := hrest (by split_ifs <;> simp [hdrop]) h
              exact ⟨true, .missingYear hblank hrest⟩
            · have hs : s = .minute ∨ s = .second := by
                rcases hs with hs | hs | hs
                · exact .inl hs
                · exact .inr hs
                · exact absurd hs hyear
              rw [readSpecifier_missing hs hblank] at h
              obtain ⟨omitted, hrest⟩ := hrest le_rfl h
              exact ⟨true, .missing hs hblank hrest⟩
          · rw [readSpecifier_none s hdigits hmiss] at h
            cases h
        · rw [readSpecifier_digits s hdigits] at h
          split_ifs at h with hrange
          · dsimp only at h
            rw [loop_below] at h
            by_cases hblank : (date.dropWhile isdigit).head?.any isspace = true
            · rw [if_pos hblank] at h
              obtain ⟨omitted, hrest⟩ := hrest hdrop h
              by_cases hword : items.head?.all Item.isSpace = true
              · rw [dropWhile_of_head_space hword] at hrest
                exact ⟨omitted, .number hdigits hrange (fun _ => hword) hrest⟩
              · exact ⟨true, .cut hdigits hrange hblank (by simpa using hword) hrest⟩
            · rw [if_neg hblank] at h
              obtain ⟨omitted, hrest⟩ := hrest le_rfl h
              exact ⟨omitted, .number hdigits hrange (fun hb => absurd hb hblank) hrest⟩

theorem dbStrptime_iff {items : List Item} {date : Text} {fields : DateFields} :
    (dbStrptime date (formatText items) fields).1 = true ↔
      ∃ omitted, Accepted omitted items date := by
  refine ⟨accepted_of_loop, ?_⟩
  rintro ⟨omitted, h⟩
  exact loop_of_accepted h fields

theorem no_digits_of_blank {date : Text} (h : atBlank date = true) :
    date.takeWhile isdigit = [] := by
  by_contra hdigits
  rw [atBlank_of_digits hdigits] at h
  cases h

theorem not_matches_of_space {item : Item} {items : List Item} {date : Text}
    (hitem : item.isSpace = false) (hdate : date.head?.any isspace = true) :
    ¬ Matches (item :: items) date := by
  cases date with
  | nil => cases hdate
  | cons c rest =>
    have hc : isspace c = true := hdate
    cases item with
    | literal c' hc' =>
      rintro ⟨hhead, -⟩
      obtain rfl : c = c' := Option.some.inj hhead
      rw [hc'.2] at hc
      cases hc
    | space c' hc' => cases hitem
    | percent =>
      rintro ⟨hhead, -⟩
      obtain rfl : c = '%' := Option.some.inj hhead
      exact absurd hc (by decide)
    | field s =>
      rintro ⟨hdigits, -⟩
      exact hdigits (no_digits_of_blank hc)

theorem Accepted.matches_iff {omitted : Bool} {items : List Item} {date : Text}
    (h : Accepted omitted items date) : Matches items date ↔ omitted = false := by
  induction h with
  | done h => exact iff_of_true h rfl
  | literal hhead h ih => exact (and_iff_right hhead).trans ih
  | space h ih => exact ih
  | percent hhead h ih => exact (and_iff_right hhead).trans ih
  | number hdigits hrange hword h ih => exact (and_iff_right hdigits).trans ih
  | @cut omitted items date s hdigits hrange hblank hword h ih =>
    refine iff_of_false ?_ (by decide)
    rintro ⟨-, hrest⟩
    cases items with
    | nil => cases hword
    | cons item items => exact not_matches_of_space hword hblank hrest
  | missing hs hblank h ih =>
    exact iff_of_false (fun hmatches => hmatches.1 (no_digits_of_blank hblank)) (by decide)
  | missingYear hblank h ih =>
    exact iff_of_false (fun hmatches => hmatches.1 (no_digits_of_blank hblank)) (by decide)

/-- Accepted dates match the whole format exactly where no part of it was left out. -/
theorem accepted_matches_iff (items : List Item) (date : Text) (fields : DateFields) :
    ((dbStrptime date (formatText items) fields).1 = true → Matches items date) ↔
      ¬ Accepted true items date := by
  rw [dbStrptime_iff]
  constructor
  · intro h homitted
    exact absurd (homitted.matches_iff.mp (h ⟨true, homitted⟩)) (by decide)
  · rintro h ⟨omitted, haccepted⟩
    cases omitted with
    | true => exact absurd haccepted h
    | false => exact haccepted.matches_iff.mpr rfl

end DatabaseMod.CoreDateParser
