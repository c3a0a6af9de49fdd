import DatabaseMod.CoreDateParser
import DatabaseMod.LoggedPrograms

/-!
# The date parser by its positions

`dbStrptime` with the two positions it moves, every character it reads and every variable
it writes. The source tests no bound before some of its reads, and such a read finds what
lies behind the text. Below it stands a relation between positions that says how one unit
of the format is read against the date.
-/

namespace DatabaseMod.CoreDateScanner
open MachineInteger LoggedPrograms
open SqlTokens (Text)
open CoreDateParser (isspace isdigit DateFields Specifier)

/-- A read of `date[b]` or `format[p]`, or the assignment of a number and the digits it
was read from. -/
inductive Event
  | date (b : ℕ)
  | format (p : ℕ)
  | store (s : Specifier) (digits : Text) (i : ℤ)
deriving DecidableEq, Repr

/-- The arguments of a call, and what lies in memory behind the two texts. -/
structure Arguments where
  date : Text
  format : Text
  behindDate : ℕ → Char
  behindFormat : ℕ → Char

/-- How a case of the `Select` ends: with `Return False`, with `Continue`, or below it. -/
inductive Flow
  | fail
  | next (b : ℕ) (fields : DateFields)
  | below (b : ℕ) (fields : DateFields)
deriving DecidableEq, Repr

structure State where
  b : ℕ
  p : ℕ
  fields : DateFields
deriving DecidableEq, Repr

/-- The assignment of a case. -/
def put (fields : DateFields) (i : ℤ) : Specifier → DateFields
  | .year => { fields with y := i }
  | .month => { fields with m := i }
  | .day => { fields with d := i }
  | .hour => { fields with hh := i }
  | .minute => { fields with mm := i }
  | .second => { fields with ss := i }
  | .fraction => { fields with micros := i }

/-- `i:* 10` and `i:+ date[b] - 48` on an `Int`. -/
def addDigit (i : ℤ) (c : Char) : ℤ := castInt32 (castInt32 (i * 10) + (c.toNat - 48))

namespace Arguments

variable (a : Arguments)

def dateChar (b : ℕ) : Char := a.date.getD b (a.behindDate b)

def formatChar (p : ℕ) : Char := a.format.getD p (a.behindFormat p)

def dateAt (b : ℕ) : Logged Event Char := logged (a.dateChar b) [.date b]

def formatAt (p : ℕ) : Logged Event Char := logged (a.formatChar p) [.format p]

/-! ### The loops, where `n` characters of a text are left -/

def skipSpaces : ℕ → ℕ → Logged Event ℕ
  | 0, b => pure b
  | n + 1, b => do
    if isspace (← a.dateAt b) then skipSpaces n (b + 1) else pure b

def scanNumber : ℕ → ℕ → ℤ → Logged Event (ℕ × ℤ)
  | 0, b, i => pure (b, i)
  | n + 1, b, i => do
    if isdigit (← a.dateAt b) then scanNumber n (b + 1) (addDigit i (← a.dateAt b))
    else pure (b, i)

def scanFraction : ℕ → ℕ → ℤ → ℕ → Logged Event (ℕ × ℤ × ℕ)
  | 0, b, i, digits => pure (b, i, digits)
  | n + 1, b, i, digits => do
    if isdigit (← a.dateAt b) then
      if digits < 6 then scanFraction n (b + 1) (addDigit i (← a.dateAt b)) (digits + 1)
      else pure (b, i, digits)
    else pure (b, i, digits)

def padFraction : ℕ → ℤ → ℤ
  | 0, i => i
  | n + 1, i => padFraction n (castInt32 (i * 10))

def passWord : ℕ → ℕ → Logged Event ℕ
  | 0, p => pure p
  | n + 1, p => do
    if isspace (← a.formatAt p) then pure p else passWord n (p + 1)

/-! ### The cases of the `Select` -/

/-- The assignment of a number read from the digits between two positions. -/
def store (s : Specifier) (first b : ℕ) (i : ℤ) (fields : DateFields) :
    Logged Event DateFields :=
  logged (put fields i s) [.store s ((a.date.drop first).take (b - first)) i]

def readNumber (which : Logged Event Specifier) (inRange : ℤ → Bool) (b : ℕ)
    (fields : DateFields) : Logged Event Flow := do
  if isdigit (← a.dateAt b) then
    let r ← a.scanNumber (a.date.length - b) b 0
    if inRange r.2 then
      let s ← which
      let fields ← a.store s b r.1 r.2 fields
      pure (.below r.1 fields)
    else pure .fail
  else pure .fail

/-- `b < date.length And isdigit(date[b])` -/
def atDigit (b : ℕ) : Logged Event Bool := do
  if b < a.date.length then pure (isdigit (← a.dateAt b)) else pure false

def readFraction (b : ℕ) (fields : DateFields) : Logged Event Flow := do
  if isdigit (← a.dateAt b) then
    let r ← a.scanFraction (a.date.length - b) b 0 0
    if ← a.atDigit r.1 then pure .fail
    else
      let fields ← a.store .fraction b r.1 (padFraction (6 - r.2.2) r.2.1) fields
      pure (.below r.1 fields)
  else pure .fail

/-- `b < date.length And Not isspace(date[b])` -/
def atText (b : ℕ) : Logged Event Bool := do
  if b < a.date.length then pure (!isspace (← a.dateAt b)) else pure false

/-- `b < date.length And isspace(date[b])` -/
def atSpace (b : ℕ) : Logged Event Bool := do
  if b < a.date.length then pure (isspace (← a.dateAt b)) else pure false

/-- `Select format[c]`, where the character is `s`. -/
def selectCase (s : Char) (c b : ℕ) (fields : DateFields) : Logged Event Flow := do
  if s = '%' then
    if b < a.date.length then
      if (← a.dateAt b) = '%' then pure (.next (b + 1) fields) else pure .fail
    else pure .fail
  else if s = 'M' ∨ s = 'S' then
    if ← a.atText b then
      a.readNumber (do if (← a.formatAt c) = 'M' then pure .minute else pure .second)
        (fun i => i ≤ 59) b fields
    else pure (.next b fields)
  else if s = 'H' then a.readNumber (pure .hour) (fun i => i ≤ 23) b fields
  else if s = 'd' then a.readNumber (pure .day) (fun i => i ≤ 31) b fields
  else if s = 'm' then a.readNumber (pure .month) (fun i => 1 ≤ i && i ≤ 12) b fields
  else if s = 'Y' then
    if ← a.atText b then a.readNumber (pure .year) (fun _ => true) b fields
    else pure (.below b fields)
  else if s = 'f' then a.readFraction b fields
  else pure (.below b fields)

def readSpecifier (c b : ℕ) (fields : DateFields) : Logged Event Flow := do
  a.selectCase (← a.formatAt c) c b fields

/-! ### The loop over the format -/

/-- Below the `Select`. -/
def skipWord (b p : ℕ) : Logged Event ℕ := do
  if ← a.atSpace b then a.passWord (a.format.length - p) p else pure p

/-- What follows a case: `Return False`, or the next turn from `p` or behind a word there. -/
def turn (p : ℕ) : Flow → Logged Event (Option State)
  | .fail => pure none
  | .next b fields => pure (some ⟨b, p, fields⟩)
  | .below b fields => do
    let p ← a.skipWord b p
    pure (some ⟨b, p, fields⟩)

/-- One turn of the loop, which goes on or returns `False`. -/
def step (s : State) : Logged Event (Option State) := do
  if (← a.formatAt s.p) ≠ '%' then
    if isspace (← a.formatAt s.p) then
      let b ← a.skipSpaces (a.date.length - s.b) s.b
      pure (some { s with b := b, p := s.p + 1 })
    else if (← a.formatAt s.p) = (← a.dateAt s.b) then
      pure (some { s with b := s.b + 1, p := s.p + 1 })
    else pure none
  else if s.p + 1 ≥ a.format.length then pure none
  else a.turn (s.p + 2) (← a.readSpecifier (s.p + 1) s.b s.fields)

/-- Below the loop. -/
def finish (s : State) : Logged Event (Bool × DateFields) := do
  let b ← a.skipSpaces (a.date.length - s.b) s.b
  pure (a.date.length ≤ b, s.fields)

def loop : ℕ → State → Logged Event (Bool × DateFields)
  | 0, s => a.finish s
  | n + 1, s =>
    if s.p < a.format.length then do
      match ← a.step s with
      | none => pure (false, s.fields)
      | some s => loop n s
    else a.finish s

/-- The result and the variables. Each turn moves the position in the format, so there are
at most as many turns as the format has characters. -/
def dbStrptime (fields : DateFields) : Logged Event (Bool × DateFields) :=
  a.loop a.format.length ⟨0, 0, fields⟩

/-! ### What the parts do -/

/-- A read inside its text. -/
def Inside : Event → Prop
  | .date b => b < a.date.length
  | .format p => p < a.format.length
  | .store _ _ _ => True

end Arguments

def Event.stored : Event → Option (Specifier × Text × ℤ)
  | .store s digits i => some (s, digits, i)
  | _ => none

/-- A part has a value, makes these assignments, and reads inside the texts under this
condition. -/
structure Does {α : Type} (a : Arguments) (x : Logged Event α) (v : α)
    (stores : List (Specifier × Text × ℤ)) (inside : Prop) : Prop where
  value_eq : value x = v
  stores_eq : (log x).filterMap Event.stored = stores
  inside_iff : Logs a.Inside x ↔ inside

section

variable {α β : Type} {a : Arguments}

theorem Does.pure (v : α) : Does a (pure v) v [] True :=
  ⟨rfl, rfl, by simp⟩

theorem Does.bind {x : Logged Event α} {f : α → Logged Event β} {v : α} {w : β}
    {stores stores' : List (Specifier × Text × ℤ)} {inside inside' : Prop}
    (hx : Does a x v stores inside) (hf : Does a (f v) w stores' inside') :
    Does a (x >>= f) w (stores ++ stores') (inside ∧ inside') where
  value_eq := by rw [value_bind, hx.value_eq, hf.value_eq]
  stores_eq := by rw [log_bind, List.filterMap_append, hx.stores_eq, hx.value_eq, hf.stores_eq]
  inside_iff := by rw [logs_bind, hx.inside_iff, hx.value_eq, hf.inside_iff]

/-- A first part that only reads, and inside the texts, does not show. -/
theorem Does.after {x : Logged Event α} {f : α → Logged Event β} {v : α} {w : β}
    {stores : List (Specifier × Text × ℤ)} {inside : Prop} (hx : Does a x v [] True)
    (hf : Does a (f v) w stores inside) : Does a (x >>= f) w stores inside := by
  have h := hx.bind hf
  rwa [List.nil_append, true_and] at h

/-- What follows a first read reads inside the texts. -/
theorem Does.before {x : Logged Event α} {f : α → Logged Event β} {v : α} {w : β}
    {stores : List (Specifier × Text × ℤ)} {inside : Prop} (hx : Does a x v [] inside)
    (hf : Does a (f v) w stores True) : Does a (x >>= f) w stores inside := by
  have h := hx.bind hf
  rwa [List.nil_append, and_true] at h

theorem Does.returning {x : Logged Event α} {v : α} {stores : List (Specifier × Text × ℤ)}
    {inside : Prop} (hx : Does a x v stores inside) (f : α → β) :
    Does a (x >>= fun v => Pure.pure (f v)) (f v) stores inside := by
  have h := hx.bind (f := fun v => Pure.pure (f v)) (.pure (f v))
  rwa [List.append_nil, and_true] at h

theorem does_dateAt (b : ℕ) : Does a (a.dateAt b) (a.dateChar b) [] (b < a.date.length) :=
  ⟨rfl, rfl, by simp [Arguments.dateAt, Arguments.Inside]⟩

theorem does_dateAt_inside {b : ℕ} (hb : b < a.date.length) :
    Does a (a.dateAt b) (a.dateChar b) [] True := by
  have h := does_dateAt (a := a) b
  rwa [eq_true hb] at h

theorem does_formatAt {p : ℕ} (hp : p < a.format.length) :
    Does a (a.formatAt p) (a.formatChar p) [] True :=
  ⟨rfl, rfl, by simpa [Arguments.formatAt, Arguments.Inside] using hp⟩

theorem drop_date {b : ℕ} (hb : b < a.date.length) :
    a.date.drop b = a.dateChar b :: a.date.drop (b + 1) := by
  rw [List.drop_eq_getElem_cons hb, Arguments.dateChar, List.getD_eq_getElem _ _ hb]

theorem drop_format {p : ℕ} (hp : p < a.format.length) :
    a.format.drop p = a.formatChar p :: a.format.drop (p + 1) := by
  rw [List.drop_eq_getElem_cons hp, Arguments.formatChar, List.getD_eq_getElem _ _ hp]

theorem skipSpaces_does {n b : ℕ} (hn : n = a.date.length - b) :
    Does a (a.skipSpaces n b) (b + ((a.date.drop b).takeWhile isspace).length) [] True := by
  induction n generalizing b with
  | zero =>
    have hend : a.date.length ≤ b := by omega
    rw [List.drop_eq_nil_of_le hend]
    exact .pure b
  | succ n ih =>
    have hb : b < a.date.length := by omega
    rw [drop_date hb]
    refine (does_dateAt_inside hb).after ?_
    split_ifs with hspace
    · rw [List.takeWhile_cons_of_pos hspace, List.length_cons, ← Nat.add_assoc,
        Nat.add_right_comm]
      exact ih (by omega : n = a.date.length - (b + 1))
    · rw [List.takeWhile_cons_of_neg hspace]
      exact .pure b

theorem passWord_does {n p : ℕ} (hn : n = a.format.length - p) :
    Does a (a.passWord n p) (p + ((a.format.drop p).takeWhile (!isspace ·)).length) [] True := by
  induction n generalizing p with
  | zero =>
    have hend : a.format.length ≤ p := by omega
    rw [List.drop_eq_nil_of_le hend]
    exact .pure p
  | succ n ih =>
    have hp : p < a.format.length := by omega
    rw [drop_format hp]
    refine (does_formatAt hp).after ?_
    split_ifs with hspace
    · rw [List.takeWhile_cons_of_neg (by simp [hspace])]
      exact .pure p
    · rw [List.takeWhile_cons_of_pos (by simp [hspace]), List.length_cons, ← Nat.add_assoc,
        Nat.add_right_comm]
      exact ih (by omega : n = a.format.length - (p + 1))

/-- The digits of the date from a position on. -/
def Arguments.digitsAt (a : Arguments) (b : ℕ) : Text := (a.date.drop b).takeWhile isdigit

theorem digitsAt_end {b : ℕ} (hb : a.date.length ≤ b) : a.digitsAt b = [] := by
  rw [Arguments.digitsAt, List.drop_eq_nil_of_le hb, List.takeWhile_nil]

theorem digitsAt_digit {b : ℕ} (hb : b < a.date.length) (hdigit : isdigit (a.dateChar b) = true) :
    a.digitsAt b = a.dateChar b :: a.digitsAt (b + 1) := by
  rw [Arguments.digitsAt, drop_date hb, List.takeWhile_cons_of_pos hdigit, Arguments.digitsAt]

theorem digitsAt_other {b : ℕ} (hdigit : ¬ isdigit (a.dateChar b) = true) :
    a.digitsAt b = [] := by
  by_cases hb : b < a.date.length
  · rw [Arguments.digitsAt, drop_date hb, List.takeWhile_cons_of_neg hdigit]
  · exact digitsAt_end (by omega)

theorem scanNumber_does {n b : ℕ} {i : ℤ} (hn : n = a.date.length - b) :
    Does a (a.scanNumber n b i) (b + (a.digitsAt b).length,
      (CoreDateParser.scanNumber i (a.digitsAt b)).1) [] True := by
  induction n generalizing b i with
  | zero =>
    rw [digitsAt_end (by omega)]
    exact .pure _
  | succ n ih =>
    have hb : b < a.date.length := by omega
    refine (does_dateAt_inside hb).after ?_
    split_ifs with hdigit
    · rw [digitsAt_digit hb hdigit, List.length_cons, CoreDateParser.scanNumber, if_pos hdigit,
        ← Nat.add_assoc, Nat.add_right_comm]
      exact (does_dateAt_inside hb).after (ih (by omega : n = a.date.length - (b + 1)))
    · rw [digitsAt_other hdigit]
      exact .pure _

theorem scanFraction_does {n b k : ℕ} {i : ℤ} (hn : n = a.date.length - b)
    (hk : k + (a.digitsAt b).length ≤ 6) :
    Does a (a.scanFraction n b i k) (b + (a.digitsAt b).length,
      (CoreDateParser.scanNumber i (a.digitsAt b)).1, k + (a.digitsAt b).length) [] True := by
  induction n generalizing b i k with
  | zero =>
    rw [digitsAt_end (by omega)]
    exact .pure _
  | succ n ih =>
    have hb : b < a.date.length := by omega
    refine (does_dateAt_inside hb).after ?_
    by_cases hdigit : isdigit (a.dateChar b) = true
    · rw [digitsAt_digit hb hdigit] at hk ⊢
      rw [List.length_cons] at hk ⊢
      rw [if_pos hdigit, if_pos (by omega), CoreDateParser.scanNumber, if_pos hdigit,
        ← Nat.add_assoc, ← Nat.add_assoc, Nat.add_right_comm, Nat.add_right_comm k]
      exact (does_dateAt_inside hb).after
        (ih (by omega : n = a.date.length - (b + 1)) (by omega))
    · rw [if_neg hdigit, digitsAt_other hdigit]
      exact .pure _

theorem scanFraction_long {n b k : ℕ} {i : ℤ} (hn : n = a.date.length - b) (hle : k ≤ 6)
    (hk : 6 < k + (a.digitsAt b).length) :
    ∃ b' i', Does a (a.scanFraction n b i k) (b', i', 6) [] True ∧ b' < a.date.length ∧
      isdigit (a.dateChar b') = true := by
  induction n generalizing b i k with
  | zero =>
    rw [digitsAt_end (by omega), List.length_nil] at hk
    omega
  | succ n ih =>
    have hb : b < a.date.length := by omega
    have hdigit : isdigit (a.dateChar b) = true := by
      by_contra hdigit
      rw [digitsAt_other hdigit, List.length_nil] at hk
      omega
    rw [digitsAt_digit hb hdigit, List.length_cons] at hk
    by_cases hlt : k < 6
    · obtain ⟨b', i', hrest, hb', hmore⟩ := @ih (b + 1) (k + 1) (addDigit i (a.dateChar b))
        (by omega) (by omega) (by omega)
      refine ⟨b', i', (does_dateAt_inside hb).after ?_, hb', hmore⟩
      rw [if_pos hdigit, if_pos hlt]
      exact (does_dateAt_inside hb).after hrest
    · obtain rfl : k = 6 := by omega
      refine ⟨b, i, (does_dateAt_inside hb).after ?_, hb, hdigit⟩
      rw [if_pos hdigit, if_neg hlt]
      exact .pure _

theorem padFraction_eq {n : ℕ} {i : ℤ} (h0 : 0 ≤ i) (hi : i * 10 ^ n ≤ 2147483647) :
    Arguments.padFraction n i = i * 10 ^ n := by
  induction n generalizing i with
  | zero => exact (mul_one i).symm
  | succ n ih =>
    have hpow : (1 : ℤ) ≤ 10 ^ n := one_le_pow₀ (by norm_num)
    have hsplit : i * 10 ^ (n + 1) = i * 10 * 10 ^ n := by ring
    have hle : i * 10 ≤ i * 10 * 10 ^ n := le_mul_of_one_le_right (by omega) hpow
    rw [hsplit] at hi ⊢
    rw [Arguments.padFraction, castInt32_of_mem ⟨by omega, by omega⟩]
    exact ih (by omega) hi

theorem atText_does (b : ℕ) : Does a (a.atText b)
    (!(CoreDateParser.atBlank (a.date.drop b))) [] True := by
  rw [Arguments.atText]
  split_ifs with hb
  · rw [drop_date hb]
    exact (does_dateAt_inside hb).after (.pure _)
  · rw [List.drop_eq_nil_of_le (by omega)]
    exact .pure _

theorem atSpace_does (b : ℕ) : Does a (a.atSpace b)
    ((a.date.drop b).head?.any isspace) [] True := by
  rw [Arguments.atSpace]
  split_ifs with hb
  · rw [drop_date hb]
    exact (does_dateAt_inside hb).after (.pure _)
  · rw [List.drop_eq_nil_of_le (by omega)]
    exact .pure _

theorem atDigit_does (b : ℕ) : Does a (a.atDigit b)
    ((a.date.drop b).head?.any isdigit) [] True := by
  rw [Arguments.atDigit]
  split_ifs with hb
  · rw [drop_date hb]
    exact (does_dateAt_inside hb).after (.pure _)
  · rw [List.drop_eq_nil_of_le (by omega)]
    exact .pure _

/-- What a case stores for the digits it takes. -/
def numberOf (s : Specifier) (digits : Text) : ℤ :=
  match s with
  | .fraction => (CoreDateParser.scanNumber 0 digits).1 * 10 ^ (6 - digits.length)
  | _ => (CoreDateParser.scanNumber 0 digits).1

theorem put_numberOf (s : Specifier) (digits : Text) (fields : DateFields) :
    put fields (numberOf s digits) s = s.set fields digits := by
  cases s <;> rfl

/-- A case that takes digits finds one and is content with their number. -/
def Arguments.takes (a : Arguments) (s : Specifier) (b : ℕ) : Bool :=
  isdigit (a.dateChar b) && s.inRange (a.digitsAt b)

/-- How the case ends. -/
def Arguments.taken (a : Arguments) (s : Specifier) (b : ℕ) (fields : DateFields) : Flow :=
  if a.takes s b then .below (b + (a.digitsAt b).length) (s.set fields (a.digitsAt b)) else .fail

/-- What it stores. -/
def Arguments.storesAt (a : Arguments) (s : Specifier) (b : ℕ) :
    List (Specifier × Text × ℤ) :=
  if a.takes s b then [(s, a.digitsAt b, numberOf s (a.digitsAt b))] else []

theorem store_does (s : Specifier) (b : ℕ) (fields : DateFields) :
    Does a (a.store s b (b + (a.digitsAt b).length) (numberOf s (a.digitsAt b)) fields)
      (s.set fields (a.digitsAt b)) [(s, a.digitsAt b, numberOf s (a.digitsAt b))] True := by
  have hdigits : (a.date.drop b).take (b + (a.digitsAt b).length - b) = a.digitsAt b := by
    rw [Nat.add_sub_cancel_left]
    exact (List.prefix_iff_eq_take.mp (List.takeWhile_prefix isdigit)).symm
  rw [Arguments.store, hdigits, put_numberOf]
  exact ⟨rfl, rfl, by simp [Arguments.Inside]⟩

theorem readNumber_does {which : Logged Event Specifier} {inRange : ℤ → Bool} (s : Specifier)
    (hs : s ≠ .fraction) (hwhich : Does a which s [] True)
    (hrange : ∀ digits, inRange (CoreDateParser.scanNumber 0 digits).1 = s.inRange digits) (b : ℕ)
    (fields : DateFields) : Does a (a.readNumber which inRange b fields) (a.taken s b fields)
      (a.storesAt s b) (b < a.date.length) := by
  have hnumber : (CoreDateParser.scanNumber 0 (a.digitsAt b)).1 = numberOf s (a.digitsAt b) := by
    cases s with
    | fraction => exact absurd rfl hs
    | _ => rfl
  refine (does_dateAt b).before ?_
  rw [Arguments.taken, Arguments.storesAt, Arguments.takes, ← hrange]
  by_cases hdigit : isdigit (a.dateChar b) = true
  · rw [if_pos hdigit, hdigit, Bool.true_and]
    refine (scanNumber_does rfl).after ?_
    rw [← hnumber]
    split_ifs with hin
    · refine hwhich.after ?_
      rw [hnumber]
      exact (store_does s b fields).returning _
    · exact .pure _
  · rw [if_neg hdigit, if_neg (by simp [hdigit]), if_neg (by simp [hdigit])]
    exact .pure _

theorem drop_takeWhile {α : Type} (f : α → Bool) (l : List α) (n : ℕ) :
    l.drop (n + ((l.drop n).takeWhile f).length) = (l.drop n).dropWhile f := by
  rw [← List.drop_drop]
  generalize l.drop n = rest
  calc rest.drop (rest.takeWhile f).length
      = (rest.takeWhile f ++ rest.dropWhile f).drop (rest.takeWhile f).length := by
        rw [List.takeWhile_append_dropWhile]
    _ = rest.dropWhile f := List.drop_left

theorem head_drop_digitsAt (b : ℕ) :
    (a.date.drop (b + (a.digitsAt b).length)).head?.any isdigit = false := by
  rw [Arguments.digitsAt, drop_takeWhile]
  exact CoreDateParser.head?_dropWhile_isdigit _

theorem digitsAt_isdigit (b : ℕ) : ∀ c ∈ a.digitsAt b, isdigit c = true :=
  fun _ hc => List.mem_takeWhile_imp hc

/-- The padding of a fraction does not wrap around. -/
theorem padFraction_number {digits : Text} (hdigits : ∀ c ∈ digits, isdigit c = true)
    (hlen : digits.length ≤ 6) :
    Arguments.padFraction (6 - digits.length) (CoreDateParser.scanNumber 0 digits).1 =
      numberOf .fraction digits ∧
    numberOf .fraction digits =
      ((Nat.ofDigitChars 10 digits 0 * 10 ^ (6 - digits.length) : ℕ) : ℤ) ∧
    Nat.ofDigitChars 10 digits 0 * 10 ^ (6 - digits.length) ≤ 999999 := by
  have hlt := CoreDateParser.ofDigitChars_lt hdigits 0
  rw [Nat.zero_add, one_mul] at hlt
  have hpow : 10 ^ digits.length ≤ 10 ^ 6 := Nat.pow_le_pow_right (by decide) hlen
  have hnumber := CoreDateParser.scanNumber_value hdigits (n := 0) (by omega)
  rw [Nat.cast_zero (R := ℤ)] at hnumber
  have hmul : Nat.ofDigitChars 10 digits 0 * 10 ^ (6 - digits.length) < 10 ^ 6 := by
    calc Nat.ofDigitChars 10 digits 0 * 10 ^ (6 - digits.length)
        < 10 ^ digits.length * 10 ^ (6 - digits.length) :=
          Nat.mul_lt_mul_of_pos_right hlt (by positivity)
      _ = 10 ^ 6 := by rw [← pow_add, Nat.add_sub_cancel' hlen]
  have hvalue : numberOf .fraction digits =
      ((Nat.ofDigitChars 10 digits 0 * 10 ^ (6 - digits.length) : ℕ) : ℤ) := by
    rw [numberOf, hnumber]
    push_cast
    rfl
  refine ⟨?_, hvalue, by omega⟩
  have hfits : (CoreDateParser.scanNumber 0 digits).1 * 10 ^ (6 - digits.length) ≤ 2147483647 := by
    rw [numberOf] at hvalue
    omega
  exact padFraction_eq (by rw [hnumber]; exact Int.natCast_nonneg _) hfits

theorem readFraction_does (b : ℕ) (fields : DateFields) : Does a (a.readFraction b fields)
    (a.taken .fraction b fields) (a.storesAt .fraction b) (b < a.date.length) := by
  refine (does_dateAt b).before ?_
  rw [Arguments.taken, Arguments.storesAt, Arguments.takes]
  by_cases hdigit : isdigit (a.dateChar b) = true
  · rw [if_pos hdigit, hdigit, Bool.true_and]
    by_cases hlen : (a.digitsAt b).length ≤ 6
    · have hin : Specifier.inRange .fraction (a.digitsAt b) = true := by
        simpa [Specifier.inRange] using hlen
      refine (scanFraction_does rfl (by omega)).after ((atDigit_does _).after ?_)
      rw [head_drop_digitsAt, if_neg Bool.false_ne_true, if_pos hin, if_pos hin, Nat.zero_add,
        (padFraction_number (digitsAt_isdigit b) hlen).1]
      exact (store_does .fraction b fields).returning _
    · have hin : ¬ Specifier.inRange .fraction (a.digitsAt b) = true := by
        simpa [Specifier.inRange] using hlen
      obtain ⟨b', i', hscan, hb', hmore⟩ := @scanFraction_long a _ b 0 0 rfl (by omega) (by omega)
      refine hscan.after ((atDigit_does _).after ?_)
      rw [drop_date hb', List.head?_cons, Option.any_some, if_pos hmore, if_neg hin, if_neg hin]
      exact .pure _
  · rw [if_neg hdigit, if_neg (by simp [hdigit]), if_neg (by simp [hdigit])]
    exact .pure _

end

end DatabaseMod.CoreDateScanner
