import DatabaseMod.CoreDateScanner

/-!
# What the date parser reads, stores and rejects

A format is a list of units, and one unit is read against the date from a pair of
positions. The runs of this relation say which dates `dbStrptime` accepts, which digits it
takes, and where it reads behind the date.
-/

namespace DatabaseMod.CoreDateReading
open MachineInteger LoggedPrograms CoreDateScanner
open SqlTokens (Text)
open CoreDateParser (isspace isdigit atBlank DateFields Specifier)

/-! ### The units of a format -/

inductive FormatUnit
  | literal (c : Char)
  | space
  | percent
  | field (s : Specifier)
  | unknown
  | lone
deriving DecidableEq, Repr

/-- A percent sign and the character after it. -/
def specifierUnit (s : Char) : FormatUnit :=
  if s = '%' then .percent
  else if s = 'M' then .field .minute
  else if s = 'S' then .field .second
  else if s = 'H' then .field .hour
  else if s = 'd' then .field .day
  else if s = 'm' then .field .month
  else if s = 'Y' then .field .year
  else if s = 'f' then .field .fraction
  else .unknown

def plainUnit (c : Char) : FormatUnit := if isspace c then .space else .literal c

/-- The units of a format from left to right. -/
def units : Text → List FormatUnit
  | [] => []
  | [c] => [if c = '%' then .lone else plainUnit c]
  | c :: s :: rest =>
    if c = '%' then specifierUnit s :: units rest else plainUnit c :: units (s :: rest)

/-- A specifier that the parser does not know, or a percent sign at the end. -/
def Malformed (format : Text) : Prop := .unknown ∈ units format ∨ .lone ∈ units format

instance (format : Text) : Decidable (Malformed format) :=
  inferInstanceAs (Decidable (_ ∨ _))

def unitAt (a : Arguments) (p : ℕ) : Option FormatUnit := (units (a.format.drop p)).head?

/-- The units whose case tests no bound before it reads the date. -/
def FormatUnit.Unguarded : FormatUnit → Prop
  | .literal _ => True
  | .field s => ¬ s.mayMiss
  | _ => False

/-! ### One unit against the date -/

/-- Below the `Select`, the rest of a word of the format is left out before whitespace. -/
def afterWord (a : Arguments) (b p : ℕ) : ℕ :=
  if (a.date.drop b).head?.any isspace then
    p + ((a.format.drop p).takeWhile (!isspace ·)).length
  else p

/-- A minute, a second or a year that is left out. -/
def Missing (a : Arguments) (s : Specifier) (b : ℕ) : Prop :=
  s.mayMiss ∧ atBlank (a.date.drop b) = true

/-- The digits that a unit at `p` takes from the date at `b`, and where it ends. A specifier
that is not known takes nothing. -/
def ReadsUnit (a : Arguments) (b p : ℕ) :
    FormatUnit → List (Specifier × Text) → ℕ × ℕ → Prop
  | .literal c, runs, q => a.dateChar b = c ∧ runs = [] ∧ q = (b + 1, p + 1)
  | .space, runs, q =>
    runs = [] ∧ q = (b + ((a.date.drop b).takeWhile isspace).length, p + 1)
  | .percent, runs, q =>
    b < a.date.length ∧ a.dateChar b = '%' ∧ runs = [] ∧ q = (b + 1, p + 2)
  | .field s, runs, q =>
    (Missing a s b ∧ runs = [] ∧ q = (b, if s = .year then afterWord a b (p + 2) else p + 2)) ∨
    (¬ Missing a s b ∧ a.takes s b = true ∧ runs = [(s, a.digitsAt b)] ∧
      q = (b + (a.digitsAt b).length, afterWord a (b + (a.digitsAt b).length) (p + 2)))
  | .unknown, runs, q => runs = [] ∧ q = (b, afterWord a b (p + 2))
  | .lone, _, _ => False

def Reading (a : Arguments) (q : ℕ × ℕ) (runs : List (Specifier × Text)) (q' : ℕ × ℕ) : Prop :=
  ∃ u, unitAt a q.2 = some u ∧ ReadsUnit a q.1 q.2 u runs q'

/-- Units read one after the other, with the digits they take. -/
inductive Reads (a : Arguments) : ℕ × ℕ → List (Specifier × Text) → ℕ × ℕ → Prop
  | refl (q : ℕ × ℕ) : Reads a q [] q
  | step {q q' q'' : ℕ × ℕ} {runs runs' : List (Specifier × Text)}
    (hfirst : Reading a q runs q') (hrest : Reads a q' runs' q'') : Reads a q (runs ++ runs') q''

/-- No run from `q` uses up the date before a unit that tests no bound. -/
def DateLasts (a : Arguments) (q : ℕ × ℕ) : Prop :=
  ∀ runs q' u, Reads a q runs q' → unitAt a q'.2 = some u → u.Unguarded → q'.1 < a.date.length

/-- The format is used up, and the date up to whitespace. -/
def Finished (a : Arguments) (q : ℕ × ℕ) : Prop :=
  a.format.length ≤ q.2 ∧ a.date.length ≤ q.1 + ((a.date.drop q.1).takeWhile isspace).length

/-- The date is what the format asks for, where an unknown specifier asks for nothing. -/
def Accepts (a : Arguments) (runs : List (Specifier × Text)) : Prop :=
  ∃ q, Reads a (0, 0) runs q ∧ Finished a q

def setAll (fields : DateFields) (runs : List (Specifier × Text)) : DateFields :=
  runs.foldl (fun fields run => run.1.set fields run.2) fields

def storeOf (run : Specifier × Text) : Specifier × Text × ℤ := (run.1, run.2, numberOf run.1 run.2)

section

variable {a : Arguments}

theorem units_length {c : Char} {rest : Text} : (units (c :: rest)).head?.isSome = true := by
  cases rest with
  | nil => rfl
  | cons s rest =>
    rw [units]
    split_ifs <;> rfl

theorem lt_of_unitAt {p : ℕ} {u : FormatUnit} (h : unitAt a p = some u) :
    p < a.format.length := by
  by_contra hp
  rw [unitAt, List.drop_eq_nil_of_le (by omega)] at h
  cases h

theorem unitAt_plain {p : ℕ} (hp : p < a.format.length) (hc : a.formatChar p ≠ '%') :
    unitAt a p = some (plainUnit (a.formatChar p)) := by
  rw [unitAt, drop_format hp]
  cases a.format.drop (p + 1) with
  | nil => rw [units, if_neg hc, List.head?_cons]
  | cons s rest => rw [units, if_neg hc, List.head?_cons]

theorem unitAt_lone {p : ℕ} (hp : p < a.format.length) (hc : a.formatChar p = '%')
    (hlast : a.format.length ≤ p + 1) : unitAt a p = some .lone := by
  rw [unitAt, drop_format hp, List.drop_eq_nil_of_le hlast, units, if_pos hc, List.head?_cons]

theorem unitAt_specifier {p : ℕ} (hp : p + 1 < a.format.length) (hc : a.formatChar p = '%') :
    unitAt a p = some (specifierUnit (a.formatChar (p + 1))) := by
  rw [unitAt, drop_format (by omega), drop_format hp, units, if_pos hc, List.head?_cons]

/-! ### One turn of the loop -/

theorem atBlank_of_present {s : Specifier} {b : ℕ} (hs : s.mayMiss) (h : ¬ Missing a s b) :
    atBlank (a.date.drop b) = false ∧ b < a.date.length := by
  have hblank : atBlank (a.date.drop b) = false := by
    rw [Missing, not_and, Bool.not_eq_true] at h
    exact h hs
  refine ⟨hblank, ?_⟩
  by_contra hb
  rw [List.drop_eq_nil_of_le (by omega)] at hblank
  cases hblank

/-- A case that the loop passes over when no text follows. -/
theorem guarded_does {s : Specifier} {b : ℕ} {fields : DateFields} {x : Logged Event Flow}
    {missed : Flow} (hs : s.mayMiss) (hx : Does a x (a.taken s b fields) (a.storesAt s b)
      (b < a.date.length)) :
    (Missing a s b → Does a (do if ← a.atText b then x else pure missed) missed [] True) ∧
    (¬ Missing a s b → Does a (do if ← a.atText b then x else pure missed)
      (a.taken s b fields) (a.storesAt s b) (¬ s.mayMiss → b < a.date.length)) := by
  constructor
  · intro hmissing
    refine (atText_does b).after ?_
    rw [hmissing.2, if_neg (by simp)]
    exact .pure _
  · intro hpresent
    obtain ⟨hblank, hb⟩ := atBlank_of_present hs hpresent
    refine (atText_does b).after ?_
    rw [hblank, if_pos (by simp)]
    rw [eq_true hb] at hx
    rwa [eq_true (absurd hs)]

theorem unguarded_does {s : Specifier} {b : ℕ} {fields : DateFields} {x : Logged Event Flow}
    {missed : Flow} (hs : ¬ s.mayMiss) (hx : Does a x (a.taken s b fields) (a.storesAt s b)
      (b < a.date.length)) :
    (Missing a s b → Does a x missed [] True) ∧
    (¬ Missing a s b → Does a x (a.taken s b fields) (a.storesAt s b)
      (¬ s.mayMiss → b < a.date.length)) := by
  refine ⟨fun hmissing => absurd hmissing.1 hs, fun _ => ?_⟩
  rwa [propext (forall_prop_of_true hs)]

/-- How the case of a unit ends, what it stores, and whether it reads inside the date. -/
def CaseDoes (a : Arguments) (x : Logged Event Flow) (b : ℕ) (fields : DateFields) :
    FormatUnit → Prop
  | .percent => Does a x
    (if b < a.date.length ∧ a.dateChar b = '%' then .next (b + 1) fields else .fail) [] True
  | .field s =>
    (Missing a s b → Does a x (if s = .year then .below b fields else .next b fields) [] True) ∧
    (¬ Missing a s b → Does a x (a.taken s b fields) (a.storesAt s b)
      (¬ s.mayMiss → b < a.date.length))
  | .unknown => Does a x (.below b fields) [] True
  | _ => False

/-- Every case, in the order of the `Select`. -/
theorem selectCase_does {s : Char} {c : ℕ} (hc : c < a.format.length)
    (hs : a.formatChar c = s) (b : ℕ) (fields : DateFields) :
    CaseDoes a (a.selectCase s c b fields) b fields (specifierUnit s) := by
  have hwhich : Does a (a.formatAt c) s [] True := hs ▸ does_formatAt hc
  rw [Arguments.selectCase, specifierUnit]
  by_cases hpercent : s = '%'
  · rw [if_pos hpercent, if_pos hpercent, CaseDoes]
    by_cases hb : b < a.date.length
    · rw [if_pos hb]
      refine (does_dateAt_inside hb).after ?_
      by_cases hdate : a.dateChar b = '%'
      · rw [if_pos hdate, if_pos ⟨hb, hdate⟩]
        exact .pure _
      · rw [if_neg hdate, if_neg (fun h => hdate h.2)]
        exact .pure _
    · rw [if_neg hb, if_neg (fun h => hb h.1)]
      exact .pure _
  rw [if_neg hpercent, if_neg hpercent]
  by_cases hM : s = 'M'
  · rw [if_pos (.inl hM), if_pos hM]
    refine guarded_does (.inl rfl) (readNumber_does .minute (by decide) ?_ (fun _ => rfl) b fields)
    refine hwhich.after ?_
    rw [if_pos hM]
    exact .pure _
  by_cases hS : s = 'S'
  · rw [if_pos (.inr hS), if_neg hM, if_pos hS]
    refine guarded_does (.inr (.inl rfl))
      (readNumber_does .second (by decide) ?_ (fun _ => rfl) b fields)
    refine hwhich.after ?_
    rw [if_neg hM]
    exact .pure _
  rw [if_neg (not_or.mpr ⟨hM, hS⟩), if_neg hM, if_neg hS]
  by_cases hH : s = 'H'
  · rw [if_pos hH, if_pos hH]
    exact unguarded_does (by simp [Specifier.mayMiss])
      (readNumber_does .hour (by decide) (.pure _) (fun _ => rfl) b fields)
  rw [if_neg hH, if_neg hH]
  by_cases hd : s = 'd'
  · rw [if_pos hd, if_pos hd]
    exact unguarded_does (by simp [Specifier.mayMiss])
      (readNumber_does .day (by decide) (.pure _) (fun _ => rfl) b fields)
  rw [if_neg hd, if_neg hd]
  by_cases hm : s = 'm'
  · rw [if_pos hm, if_pos hm]
    exact unguarded_does (by simp [Specifier.mayMiss])
      (readNumber_does .month (by decide) (.pure _) (fun _ => rfl) b fields)
  rw [if_neg hm, if_neg hm]
  by_cases hY : s = 'Y'
  · rw [if_pos hY, if_pos hY]
    exact guarded_does (.inr (.inr rfl))
      (readNumber_does .year (by decide) (.pure _) (fun _ => rfl) b fields)
  rw [if_neg hY, if_neg hY]
  by_cases hf : s = 'f'
  · rw [if_pos hf, if_pos hf]
    exact unguarded_does (by simp [Specifier.mayMiss]) (readFraction_does b fields)
  · rw [if_neg hf, if_neg hf]
    exact .pure _

theorem skipWord_does (b p : ℕ) : Does a (a.skipWord b p) (afterWord a b p) [] True := by
  rw [Arguments.skipWord, afterWord]
  refine (atSpace_does b).after ?_
  split_ifs
  · exact passWord_does rfl
  · exact .pure _

/-- How the loop goes on after a case. -/
def afterCase (a : Arguments) (p : ℕ) : Flow → Option State
  | .fail => none
  | .next b fields => some ⟨b, p, fields⟩
  | .below b fields => some ⟨b, afterWord a b p, fields⟩

theorem step_specifier {s : State} (hp : s.p + 1 < a.format.length)
    (hc : a.formatChar s.p = '%') {flow : Flow} {stores : List (Specifier × Text × ℤ)}
    {inside : Prop}
    (h : Does a (a.selectCase (a.formatChar (s.p + 1)) (s.p + 1) s.b s.fields) flow stores inside) :
    Does a (a.step s) (afterCase a (s.p + 2) flow) stores inside := by
  refine (does_formatAt (by omega)).after ?_
  rw [if_neg (not_not.mpr hc), if_neg (by omega)]
  have hread : Does a (a.readSpecifier (s.p + 1) s.b s.fields) flow stores inside :=
    (does_formatAt hp).after h
  have hrest : Does a (a.turn (s.p + 2) flow) (afterCase a (s.p + 2) flow) [] True := by
    cases flow with
    | fail => exact .pure _
    | next b fields => exact .pure _
    | below b fields => exact (skipWord_does b _).returning _
  have hstep := hread.bind hrest
  rwa [List.append_nil, and_true] at hstep

theorem step_plain {s : State} (hp : s.p < a.format.length) (hc : a.formatChar s.p ≠ '%') :
    if isspace (a.formatChar s.p) then
      Does a (a.step s) (some ⟨s.b + ((a.date.drop s.b).takeWhile isspace).length, s.p + 1,
        s.fields⟩) [] True
    else
      Does a (a.step s) (if a.dateChar s.b = a.formatChar s.p then
        some ⟨s.b + 1, s.p + 1, s.fields⟩ else none) [] (s.b < a.date.length) := by
  have hformat : Does a (a.formatAt s.p) (a.formatChar s.p) [] True := does_formatAt hp
  by_cases hspace : isspace (a.formatChar s.p) = true
  · rw [if_pos hspace]
    refine hformat.after ?_
    rw [if_pos hc]
    refine hformat.after ?_
    rw [if_pos hspace]
    exact (skipSpaces_does rfl).returning _
  · rw [if_neg hspace]
    refine hformat.after ?_
    rw [if_pos hc]
    refine hformat.after ?_
    rw [if_neg hspace]
    refine hformat.after ((does_dateAt s.b).before ?_)
    by_cases hdate : a.formatChar s.p = a.dateChar s.b
    · rw [if_pos hdate, if_pos hdate.symm]
      exact .pure _
    · rw [if_neg hdate, if_neg (Ne.symm hdate)]
      exact .pure _

/-- One turn of the loop reads one unit, or the unit does not fit the date. -/
structure StepReads (a : Arguments) (s : State) (u : FormatUnit) : Prop where
  some_of_reads : ∀ runs q, ReadsUnit a s.b s.p u runs q →
    value (a.step s) = some ⟨q.1, q.2, setAll s.fields runs⟩ ∧
    (log (a.step s)).filterMap Event.stored = runs.map storeOf
  none_of_not : (∀ runs q, ¬ ReadsUnit a s.b s.p u runs q) → value (a.step s) = none
  inside_iff : Logs a.Inside (a.step s) ↔ (u.Unguarded → s.b < a.date.length)

theorem stepReads_of_case {s : State} (hp : s.p + 1 < a.format.length)
    (hc : a.formatChar s.p = '%') {u : FormatUnit}
    (h : CaseDoes a (a.selectCase (a.formatChar (s.p + 1)) (s.p + 1) s.b s.fields) s.b s.fields u) :
    StepReads a s u := by
  cases u with
  | literal c => exact h.elim
  | space => exact h.elim
  | lone => exact h.elim
  | percent =>
    have hstep := step_specifier hp hc h
    refine ⟨?_, fun hnone => ?_, ?_⟩
    · rintro runs q ⟨hb, hdate, rfl, rfl⟩
      rw [if_pos ⟨hb, hdate⟩] at hstep
      exact ⟨hstep.value_eq, hstep.stores_eq⟩
    · rw [if_neg (fun hdate => hnone _ _ ⟨hdate.1, hdate.2, rfl, rfl⟩)] at hstep
      exact hstep.value_eq
    · rw [hstep.inside_iff]
      exact ⟨fun _ h => h.elim, fun _ => trivial⟩
  | unknown =>
    have hstep := step_specifier hp hc h
    refine ⟨?_, fun hnone => absurd ⟨rfl, rfl⟩ (hnone _ _), ?_⟩
    · rintro runs q ⟨rfl, rfl⟩
      exact ⟨hstep.value_eq, hstep.stores_eq⟩
    · rw [hstep.inside_iff]
      exact ⟨fun _ h => h.elim, fun _ => trivial⟩
  | field f =>
    by_cases hmissing : Missing a f s.b
    · have hstep := step_specifier hp hc (h.1 hmissing)
      refine ⟨?_, fun hnone => absurd (.inl ⟨hmissing, rfl, rfl⟩) (hnone _ _), ?_⟩
      · rintro runs q (⟨-, rfl, rfl⟩ | ⟨hpresent, -⟩)
        · refine ⟨?_, hstep.stores_eq⟩
          rw [hstep.value_eq]
          split_ifs <;> rfl
        · exact absurd hmissing hpresent
      · rw [hstep.inside_iff]
        exact ⟨fun _ h => absurd hmissing.1 h, fun _ => trivial⟩
    · have hstep := step_specifier hp hc (h.2 hmissing)
      rw [Arguments.taken, Arguments.storesAt] at hstep
      refine ⟨?_, fun hnone => ?_, hstep.inside_iff⟩
      · rintro runs q (⟨h, -⟩ | ⟨-, htakes, rfl, rfl⟩)
        · exact absurd h hmissing
        · rw [if_pos htakes, if_pos htakes] at hstep
          exact ⟨hstep.value_eq, hstep.stores_eq⟩
      · rw [if_neg (fun htakes => hnone _ _ (.inr ⟨hmissing, htakes, rfl, rfl⟩))] at hstep
        exact hstep.value_eq

theorem step_reads {s : State} {u : FormatUnit} (hunit : unitAt a s.p = some u) :
    StepReads a s u := by
  have hp := lt_of_unitAt hunit
  by_cases hc : a.formatChar s.p = '%'
  · by_cases hlast : a.format.length ≤ s.p + 1
    · rw [unitAt_lone hp hc hlast] at hunit
      obtain rfl := Option.some.inj hunit
      have hstep : Does a (a.step s) none [] True := by
        refine (does_formatAt hp).after ?_
        rw [if_neg (not_not.mpr hc), if_pos hlast]
        exact .pure _
      refine ⟨fun runs q h => h.elim, fun _ => hstep.value_eq, ?_⟩
      rw [hstep.inside_iff]
      exact ⟨fun _ h => h.elim, fun _ => trivial⟩
    · rw [unitAt_specifier (by omega) hc] at hunit
      obtain rfl := Option.some.inj hunit
      exact stepReads_of_case (by omega) hc
        (selectCase_does (by omega) (rfl : a.formatChar (s.p + 1) = _) s.b s.fields)
  · rw [unitAt_plain hp hc] at hunit
    obtain rfl := Option.some.inj hunit
    have hstep := step_plain hp hc
    rw [plainUnit]
    split_ifs with hspace
    · rw [if_pos hspace] at hstep
      refine ⟨?_, fun h => absurd ⟨rfl, rfl⟩ (h _ _), ?_⟩
      · rintro runs q ⟨rfl, rfl⟩
        exact ⟨hstep.value_eq, hstep.stores_eq⟩
      · rw [hstep.inside_iff]
        exact ⟨fun _ h => h.elim, fun _ => trivial⟩
    · rw [if_neg hspace] at hstep
      refine ⟨?_, fun h => ?_, ?_⟩
      · rintro runs q ⟨hdate, rfl, rfl⟩
        rw [if_pos hdate] at hstep
        exact ⟨hstep.value_eq, hstep.stores_eq⟩
      · rw [if_neg (fun hdate => h _ _ ⟨hdate, rfl, rfl⟩)] at hstep
        exact hstep.value_eq
      · rw [hstep.inside_iff]
        exact ⟨fun h _ => h, fun h => h trivial⟩

/-! ### Whole runs -/

theorem readsUnit_lt {b p : ℕ} {u : FormatUnit} {runs : List (Specifier × Text)} {q : ℕ × ℕ}
    (h : ReadsUnit a b p u runs q) : p < q.2 := by
  have hword (b' : ℕ) : p < afterWord a b' (p + 2) := by
    rw [afterWord]
    split_ifs
    · omega
    · omega
  cases u with
  | literal c =>
    obtain ⟨-, -, rfl⟩ := h
    exact Nat.lt_succ_self p
  | space =>
    obtain ⟨-, rfl⟩ := h
    exact Nat.lt_succ_self p
  | percent =>
    obtain ⟨-, -, -, rfl⟩ := h
    exact Nat.lt_add_of_pos_right (by decide)
  | field s =>
    obtain ⟨-, -, rfl⟩ | ⟨-, -, -, rfl⟩ := h
    · dsimp only
      split_ifs
      · exact hword b
      · omega
    · exact hword _
  | unknown =>
    obtain ⟨-, rfl⟩ := h
    exact hword b
  | lone => exact h.elim

theorem setAll_append (fields : DateFields) (runs runs' : List (Specifier × Text)) :
    setAll fields (runs ++ runs') = setAll (setAll fields runs) runs' := List.foldl_append

theorem finish_does (s : State) : Does a (a.finish s)
    (a.date.length ≤ s.b + ((a.date.drop s.b).takeWhile isspace).length, s.fields) [] True :=
  (skipSpaces_does rfl).returning _

theorem loop_end {n : ℕ} {s : State} (hp : a.format.length ≤ s.p) :
    a.loop n s = a.finish s := by
  cases n with
  | zero => rfl
  | succ n => exact if_neg (Nat.not_lt.mpr hp)

theorem loop_some {n : ℕ} {s t : State} (hp : s.p < a.format.length)
    (hstep : value (a.step s) = some t) : value (a.loop (n + 1) s) = value (a.loop n t) ∧
      log (a.loop (n + 1) s) = log (a.step s) ++ log (a.loop n t) := by
  rw [Arguments.loop, if_pos hp, value_bind, log_bind, hstep]
  exact ⟨rfl, rfl⟩

theorem loop_none {n : ℕ} {s : State} (hp : s.p < a.format.length)
    (hstep : value (a.step s) = none) : value (a.loop (n + 1) s) = (false, s.fields) ∧
      log (a.loop (n + 1) s) = log (a.step s) := by
  rw [Arguments.loop, if_pos hp, value_bind, log_bind, hstep]
  exact ⟨rfl, List.append_nil _⟩

/-- The loop follows a run to its end, stores what the run takes, and returns `True`. -/
theorem loop_of_reads {q q' : ℕ × ℕ} {runs : List (Specifier × Text)} (h : Reads a q runs q')
    (hfinished : Finished a q') {n : ℕ} (hn : a.format.length ≤ q.2 + n) (fields : DateFields) :
    value (a.loop n ⟨q.1, q.2, fields⟩) = (true, setAll fields runs) ∧
      (log (a.loop n ⟨q.1, q.2, fields⟩)).filterMap Event.stored = runs.map storeOf := by
  induction h generalizing n fields with
  | refl q =>
    rw [loop_end hfinished.1]
    have hfinish := finish_does (a := a) ⟨q.1, q.2, fields⟩
    rw [hfinish.value_eq, hfinish.stores_eq]
    exact ⟨Prod.ext (decide_eq_true hfinished.2) rfl, rfl⟩
  | @step q q' q'' runs runs' hfirst hrest ih =>
    obtain ⟨u, hunit, hread⟩ := hfirst
    have hp := lt_of_unitAt hunit
    have hlt := readsUnit_lt hread
    obtain ⟨m, rfl⟩ : ∃ m, n = m + 1 := ⟨n - 1, by omega⟩
    obtain ⟨hstep, hstores⟩ :=
      (step_reads (s := ⟨q.1, q.2, fields⟩) hunit).some_of_reads runs q' hread
    obtain ⟨hvalue, hlog⟩ := loop_some (n := m) hp hstep
    obtain ⟨hvalue', hstores'⟩ := ih hfinished (n := m) (by omega) (setAll fields runs)
    rw [hvalue, hlog, List.filterMap_append, hstores, hstores', List.map_append, setAll_append]
    exact ⟨hvalue', rfl⟩

theorem reads_of_finish {n : ℕ} {q : ℕ × ℕ} (hp : a.format.length ≤ q.2) {fields : DateFields}
    (h : (value (a.loop n ⟨q.1, q.2, fields⟩)).1 = true) :
    ∃ runs q', Reads a q runs q' ∧ Finished a q' := by
  rw [loop_end hp, (finish_does _).value_eq] at h
  exact ⟨[], q, .refl q, hp, of_decide_eq_true h⟩

theorem exists_unitAt {p : ℕ} (hp : p < a.format.length) : ∃ u, unitAt a p = some u := by
  rw [unitAt, drop_format hp]
  exact Option.isSome_iff_exists.mp units_length

/-- A loop that returns `True` has followed a run to its end. -/
theorem reads_of_loop {n : ℕ} {q : ℕ × ℕ} (hn : a.format.length ≤ q.2 + n) {fields : DateFields}
    (h : (value (a.loop n ⟨q.1, q.2, fields⟩)).1 = true) :
    ∃ runs q', Reads a q runs q' ∧ Finished a q' := by
  induction n generalizing q fields with
  | zero => exact reads_of_finish hn h
  | succ n ih =>
    by_cases hp : q.2 < a.format.length
    · obtain ⟨u, hunit⟩ := exists_unitAt hp
      have hsteps := step_reads (s := ⟨q.1, q.2, fields⟩) hunit
      by_cases hread : ∃ runs q', ReadsUnit a q.1 q.2 u runs q'
      · obtain ⟨runs, q', hread⟩ := hread
        have hlt := readsUnit_lt hread
        rw [(loop_some hp (hsteps.some_of_reads runs q' hread).1).1] at h
        obtain ⟨runs', q'', hrest, hfinished⟩ := ih (by omega) h
        exact ⟨runs ++ runs', q'', .step ⟨u, hunit, hread⟩ hrest, hfinished⟩
      · simp only [not_exists] at hread
        rw [(loop_none hp (hsteps.none_of_not hread)).1] at h
        cases h
    · exact reads_of_finish (by omega) h

theorem readsUnit_unique {b p : ℕ} {u : FormatUnit} {runs runs' : List (Specifier × Text)}
    {q q' : ℕ × ℕ} (h : ReadsUnit a b p u runs q) (h' : ReadsUnit a b p u runs' q') : q = q' := by
  cases u with
  | literal c => exact h.2.2.trans h'.2.2.symm
  | space => exact h.2.trans h'.2.symm
  | percent => exact h.2.2.2.trans h'.2.2.2.symm
  | field s =>
    obtain ⟨hm, -, hq⟩ | ⟨hm, -, -, hq⟩ := h
    · obtain ⟨-, -, hq'⟩ | ⟨hm', -⟩ := h'
      · exact hq.trans hq'.symm
      · exact absurd hm hm'
    · obtain ⟨hm', -⟩ | ⟨-, -, -, hq'⟩ := h'
      · exact absurd hm' hm
      · exact hq.trans hq'.symm
  | unknown => exact h.2.trans h'.2.symm
  | lone => exact h.elim

theorem reads_end {q q' : ℕ × ℕ} {runs : List (Specifier × Text)} (h : Reads a q runs q')
    (hp : a.format.length ≤ q.2) : q' = q := by
  cases h with
  | refl q => rfl
  | step hfirst hrest =>
    obtain ⟨u, hunit, -⟩ := hfirst
    exact absurd (lt_of_unitAt hunit) (Nat.not_lt.mpr hp)

theorem dateLasts_end {q : ℕ × ℕ} (hp : a.format.length ≤ q.2) : DateLasts a q := by
  intro runs q' u hreads hunit
  rw [reads_end hreads hp] at hunit
  exact absurd (lt_of_unitAt hunit) (Nat.not_lt.mpr hp)

theorem dateLasts_step {q q₁ : ℕ × ℕ} {u : FormatUnit} (hunit : unitAt a q.2 = some u)
    {runs : List (Specifier × Text)} (hread : ReadsUnit a q.1 q.2 u runs q₁) :
    DateLasts a q ↔ (u.Unguarded → q.1 < a.date.length) ∧ DateLasts a q₁ := by
  constructor
  · intro h
    exact ⟨h [] q u (.refl q) hunit, fun runs' q' u' hrest =>
      h (runs ++ runs') q' u' (.step ⟨u, hunit, hread⟩ hrest)⟩
  · intro h runs' q' u' hreads hunit'
    cases hreads with
    | refl q =>
      obtain rfl := Option.some.inj (hunit.symm.trans hunit')
      exact h.1
    | step hfirst hrest =>
      obtain ⟨u₂, hunit₂, hread₂⟩ := hfirst
      obtain rfl := Option.some.inj (hunit.symm.trans hunit₂)
      rw [readsUnit_unique hread₂ hread] at hrest
      exact h.2 _ q' u' hrest hunit'

theorem dateLasts_stop {q : ℕ × ℕ} {u : FormatUnit} (hunit : unitAt a q.2 = some u)
    (hnone : ∀ runs q', ¬ ReadsUnit a q.1 q.2 u runs q') :
    DateLasts a q ↔ (u.Unguarded → q.1 < a.date.length) := by
  constructor
  · intro h
    exact h [] q u (.refl q) hunit
  · intro h runs' q' u' hreads hunit'
    cases hreads with
    | refl q =>
      obtain rfl := Option.some.inj (hunit.symm.trans hunit')
      exact h
    | step hfirst hrest =>
      obtain ⟨u₂, hunit₂, hread₂⟩ := hfirst
      obtain rfl := Option.some.inj (hunit.symm.trans hunit₂)
      exact absurd hread₂ (hnone _ _)

/-- The loop reads inside the texts as long as the date lasts. -/
theorem loop_inside {n : ℕ} {q : ℕ × ℕ} (hn : a.format.length ≤ q.2 + n) {fields : DateFields} :
    Logs a.Inside (a.loop n ⟨q.1, q.2, fields⟩) ↔ DateLasts a q := by
  induction n generalizing q fields with
  | zero =>
    rw [loop_end hn, (finish_does _).inside_iff, true_iff]
    exact dateLasts_end hn
  | succ n ih =>
    by_cases hp : a.format.length ≤ q.2
    · rw [loop_end hp, (finish_does _).inside_iff, true_iff]
      exact dateLasts_end hp
    · rw [not_le] at hp
      obtain ⟨u, hunit⟩ := exists_unitAt hp
      have hsteps := step_reads (s := ⟨q.1, q.2, fields⟩) hunit
      by_cases hread : ∃ runs q', ReadsUnit a q.1 q.2 u runs q'
      · obtain ⟨runs, q₁, hread⟩ := hread
        have hlt := readsUnit_lt hread
        obtain ⟨-, hlog⟩ := loop_some (n := n) hp (hsteps.some_of_reads runs q₁ hread).1
        have hlogs : Logs a.Inside (a.loop (n + 1) ⟨q.1, q.2, fields⟩) ↔
            Logs a.Inside (a.step ⟨q.1, q.2, fields⟩) ∧
              Logs a.Inside (a.loop n ⟨q₁.1, q₁.2, setAll fields runs⟩) := by
          simp only [Logs, hlog, List.mem_append, or_imp, forall_and]
        rw [hlogs, hsteps.inside_iff, ih (by omega), dateLasts_step hunit hread]
      · simp only [not_exists] at hread
        have hlogs : Logs a.Inside (a.loop (n + 1) ⟨q.1, q.2, fields⟩) ↔
            Logs a.Inside (a.step ⟨q.1, q.2, fields⟩) := by
          simp only [Logs, (loop_none (n := n) hp (hsteps.none_of_not hread)).2]
        rw [hlogs, hsteps.inside_iff, dateLasts_stop hunit hread]

end

end DatabaseMod.CoreDateReading
