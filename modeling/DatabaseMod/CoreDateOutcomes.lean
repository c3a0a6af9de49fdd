import DatabaseMod.CoreDateReading

/-!
# The outcomes of the date parser

When `dbStrptime` stores the number that was written, when it reads inside its arguments,
and which malformed formats it rejects.
-/

namespace DatabaseMod.CoreDateOutcomes
open MachineInteger LoggedPrograms CoreDateScanner CoreDateReading
open SqlTokens (Text)
open CoreDateParser (isspace isdigit atBlank strptimeLoop DateFields Specifier)

/-- The number that a run of digits stands for, a fraction in microseconds. -/
def written (s : Specifier) (digits : Text) : ℤ :=
  match s with
  | .fraction => (Nat.ofDigitChars 10 digits 0 * 10 ^ (6 - digits.length) : ℕ)
  | _ => (Nat.ofDigitChars 10 digits 0 : ℕ)

def InRange (s : Specifier) (i : ℤ) : Prop :=
  match s with
  | .year => 0 ≤ i
  | .month => 1 ≤ i ∧ i ≤ 12
  | .day => 0 ≤ i ∧ i ≤ 31
  | .hour => 0 ≤ i ∧ i ≤ 23
  | .minute => 0 ≤ i ∧ i ≤ 59
  | .second => 0 ≤ i ∧ i ≤ 59
  | .fraction => 0 ≤ i ∧ i ≤ 999999

instance (s : Specifier) (i : ℤ) : Decidable (InRange s i) := by
  cases s <;> (unfold InRange; infer_instance)

variable {a : Arguments} {fields : DateFields}

/-! ### The runs of an accepted date -/

theorem readsUnit_digits {b p : ℕ} {u : FormatUnit} {runs : List (Specifier × Text)}
    {q : ℕ × ℕ} (h : ReadsUnit a b p u runs q) : ∀ run ∈ runs,
      (∀ c ∈ run.2, isdigit c = true) ∧ run.1.inRange run.2 = true := by
  intro run hrun
  cases u with
  | literal c =>
    rw [h.2.1] at hrun
    cases hrun
  | space =>
    rw [h.1] at hrun
    cases hrun
  | percent =>
    rw [h.2.2.1] at hrun
    cases hrun
  | field s =>
    obtain ⟨-, hruns, -⟩ | ⟨-, htakes, hruns, -⟩ := h
    · rw [hruns] at hrun
      cases hrun
    · rw [hruns, List.mem_singleton] at hrun
      rw [Arguments.takes, Bool.and_eq_true] at htakes
      rw [hrun]
      exact ⟨digitsAt_isdigit b, htakes.2⟩
  | unknown =>
    rw [h.1] at hrun
    cases hrun
  | lone => exact h.elim

theorem reads_digits {q q' : ℕ × ℕ} {runs : List (Specifier × Text)} (h : Reads a q runs q') :
    ∀ run ∈ runs, (∀ c ∈ run.2, isdigit c = true) ∧ run.1.inRange run.2 = true := by
  induction h with
  | refl q => exact fun run hrun => absurd hrun List.not_mem_nil
  | step hfirst hrest ih =>
    intro run hrun
    obtain ⟨u, -, hread⟩ := hfirst
    rcases List.mem_append.mp hrun with hrun | hrun
    · exact readsUnit_digits hread run hrun
    · exact ih run hrun

theorem dbStrptime_of_accepts {runs : List (Specifier × Text)} (h : Accepts a runs)
    (fields : DateFields) : value (a.dbStrptime fields) = (true, setAll fields runs) ∧
      (log (a.dbStrptime fields)).filterMap Event.stored = runs.map storeOf := by
  obtain ⟨q, hreads, hfinished⟩ := h
  exact loop_of_reads hreads hfinished (Nat.le_add_left _ _) fields

theorem dbStrptime_iff : (value (a.dbStrptime fields)).1 = true ↔ ∃ runs, Accepts a runs := by
  constructor
  · intro h
    obtain ⟨runs, q, hreads⟩ := reads_of_loop (q := (0, 0)) (Nat.le_add_left _ _) h
    exact ⟨runs, q, hreads⟩
  · intro h
    obtain ⟨runs, haccepts⟩ := h
    rw [(dbStrptime_of_accepts haccepts fields).1]

/-! ### The parser over the rest of its arguments -/

theorem head_drop_date {b : ℕ} (hb : b < a.date.length) :
    (a.date.drop b).head? = some (a.dateChar b) := by
  rw [drop_date hb, List.head?_cons]

theorem loop_blank {c : Char} (hc : isspace c = true) (skipping : Bool) (format date : Text)
    (fields : DateFields) : strptimeLoop skipping (c :: format) date fields =
      strptimeLoop false format (date.dropWhile isspace) fields := by
  have hne : c ≠ '%' := fun h => absurd (h ▸ hc) (by decide)
  conv_lhs => unfold strptimeLoop
  rw [if_neg (by simp [hc]), if_pos hne, if_pos hc]

theorem loop_skips (format date : Text) (fields : DateFields) :
    strptimeLoop true format date fields =
      strptimeLoop false (format.dropWhile (!isspace ·)) date fields := by
  induction format with
  | nil => rfl
  | cons c format ih =>
    by_cases hc : isspace c = true
    · rw [List.dropWhile_cons_of_neg (by simp [hc]), loop_blank hc, loop_blank hc]
    · rw [List.dropWhile_cons_of_pos (by simp [hc]), CoreDateParser.loop_passes (by simpa using hc),
        ih]

theorem loop_afterWord (b p : ℕ) (fields : DateFields) :
    strptimeLoop ((a.date.drop b).head?.any isspace) (a.format.drop p) (a.date.drop b) fields =
      strptimeLoop false (a.format.drop (afterWord a b p)) (a.date.drop b) fields := by
  rw [afterWord]
  split_ifs with hspace
  · rw [hspace, loop_skips, drop_takeWhile]
  · rw [Bool.not_eq_true] at hspace
    rw [hspace]

theorem loop_plain {c : Char} (hc : c ≠ '%') (format date : Text) (fields : DateFields) :
    strptimeLoop false (c :: format) date fields =
      if isspace c then strptimeLoop false format (date.dropWhile isspace) fields
      else if date.head? = some c then strptimeLoop false format date.tail fields
      else (false, fields) := by
  conv_lhs => unfold strptimeLoop
  rw [if_neg (by simp), if_pos hc]

/-- The loop over the rest of the texts reads a unit as the positions do. -/
structure SuffixReads (a : Arguments) (b p : ℕ) (u : FormatUnit) (fields : DateFields) :
    Prop where
  of_reads : ∀ runs q, ReadsUnit a b p u runs q →
    strptimeLoop false (a.format.drop p) (a.date.drop b) fields =
      strptimeLoop false (a.format.drop q.2) (a.date.drop q.1) (setAll fields runs)
  of_not : (∀ runs q, ¬ ReadsUnit a b p u runs q) →
    strptimeLoop false (a.format.drop p) (a.date.drop b) fields = (false, fields)

theorem specifierUnit_field {c : Char} {s : Specifier} (h : specifierUnit c = .field s) :
    c = s.char := by
  rw [specifierUnit] at h
  split_ifs at h <;> cases h <;> assumption

theorem readSpecifier_unknown {c : Char} (h : specifierUnit c = .unknown) (date : Text)
    (fields : DateFields) : CoreDateParser.readSpecifier c date fields = .below date fields := by
  rw [specifierUnit] at h
  split_ifs at h with h₁ h₂ h₃ h₄ h₅ h₆ h₇ h₈
  rw [CoreDateParser.readSpecifier, if_neg h₁, if_neg (not_or.mpr ⟨h₂, h₃⟩), if_neg h₄, if_neg h₅,
    if_neg h₆, if_neg h₇, if_neg h₈]

theorem readSpecifier_left {b : ℕ} {s : Specifier} (h : Missing a s b) (fields : DateFields) :
    CoreDateParser.readSpecifier s.char (a.date.drop b) fields =
      if s = .year then .below (a.date.drop b) fields else .next (a.date.drop b) fields := by
  obtain ⟨hs, hblank⟩ := h
  split_ifs with hyear
  · subst hyear
    exact CoreDateParser.readSpecifier_missingYear hblank fields
  · refine CoreDateParser.readSpecifier_missing ?_ hblank fields
    rcases hs with hs | hs | hs
    · exact .inl hs
    · exact .inr hs
    · exact absurd hs hyear

theorem readSpecifier_present {b : ℕ} {s : Specifier} (h : ¬ Missing a s b)
    (hlasts : ¬ s.mayMiss → b < a.date.length) (fields : DateFields) :
    CoreDateParser.readSpecifier s.char (a.date.drop b) fields =
      if a.takes s b then
        .below (a.date.drop (b + (a.digitsAt b).length)) (s.set fields (a.digitsAt b))
      else .fail := by
  have hb : b < a.date.length := by
    by_cases hs : s.mayMiss
    · exact (atBlank_of_present hs h).2
    · exact hlasts hs
  by_cases hdigit : isdigit (a.dateChar b) = true
  · have hdigits : a.digitsAt b ≠ [] := by
      rw [digitsAt_digit hb hdigit]
      exact List.cons_ne_nil _ _
    rw [CoreDateParser.readSpecifier_digits s hdigits, Arguments.takes, hdigit, Bool.true_and,
      Arguments.digitsAt, drop_takeWhile]
  · rw [CoreDateParser.readSpecifier_none s (digitsAt_other hdigit) h, Arguments.takes,
      if_neg (by simp [hdigit])]

theorem specifierUnit_ne (c c' : Char) : specifierUnit c ≠ .literal c' ∧
    specifierUnit c ≠ .space ∧ specifierUnit c ≠ .lone := by
  rw [specifierUnit]
  split_ifs <;> simp

theorem specifierUnit_percent {c : Char} (h : specifierUnit c = .percent) : c = '%' := by
  rw [specifierUnit] at h
  split_ifs at h with h₁
  exact h₁

/-- The units that begin with a percent sign. -/
theorem suffixReads_of_case {b p : ℕ} {c : Char}
    (hloop : strptimeLoop false (a.format.drop p) (a.date.drop b) fields =
      match CoreDateParser.readSpecifier c (a.date.drop b) fields with
      | .fail => (false, fields)
      | .next date fields => strptimeLoop false (a.format.drop (p + 2)) date fields
      | .below date fields =>
        strptimeLoop (date.head?.any isspace) (a.format.drop (p + 2)) date fields)
    (hlasts : (specifierUnit c).Unguarded → b < a.date.length) :
    SuffixReads a b p (specifierUnit c) fields := by
  cases hunit : specifierUnit c with
  | literal c' => exact absurd hunit (specifierUnit_ne c c').1
  | space => exact absurd hunit (specifierUnit_ne c c).2.1
  | lone => exact absurd hunit (specifierUnit_ne c c).2.2
  | percent =>
    obtain rfl := specifierUnit_percent hunit
    rw [CoreDateParser.readSpecifier, if_pos rfl] at hloop
    refine ⟨?_, fun hnone => ?_⟩
    · intro runs q h
      obtain ⟨hb, hdate, rfl, rfl⟩ := h
      rw [head_drop_date hb, hdate, if_pos rfl, List.tail_drop] at hloop
      exact hloop
    · have hhead : (a.date.drop b).head? ≠ some '%' := by
        intro hhead
        have hb : b < a.date.length := by
          by_contra hb
          rw [List.drop_eq_nil_of_le (by omega)] at hhead
          cases hhead
        rw [head_drop_date hb] at hhead
        exact hnone _ _ ⟨hb, Option.some.inj hhead, rfl, rfl⟩
      rw [if_neg hhead] at hloop
      exact hloop
  | unknown =>
    rw [readSpecifier_unknown hunit] at hloop
    refine ⟨?_, fun hnone => absurd ⟨rfl, rfl⟩ (hnone _ _)⟩
    intro runs q h
    obtain ⟨rfl, rfl⟩ := h
    exact hloop.trans (loop_afterWord b (p + 2) fields)
  | field s =>
    obtain rfl := specifierUnit_field hunit
    rw [hunit] at hlasts
    by_cases hmissing : Missing a s b
    · rw [readSpecifier_left hmissing] at hloop
      refine ⟨?_, fun hnone => absurd (.inl ⟨hmissing, rfl, rfl⟩) (hnone _ _)⟩
      intro runs q h
      obtain ⟨-, rfl, rfl⟩ | ⟨hpresent, -⟩ := h
      · by_cases hyear : s = .year
        · rw [if_pos hyear] at hloop
          rw [if_pos hyear]
          exact hloop.trans (loop_afterWord b (p + 2) fields)
        · rw [if_neg hyear] at hloop
          rw [if_neg hyear]
          exact hloop
      · exact absurd hmissing hpresent
    · rw [readSpecifier_present hmissing hlasts] at hloop
      refine ⟨?_, fun hnone => ?_⟩
      · intro runs q h
        obtain ⟨hm, -⟩ | ⟨-, htakes, rfl, rfl⟩ := h
        · exact absurd hm hmissing
        · rw [if_pos htakes] at hloop
          exact hloop.trans (loop_afterWord _ (p + 2) _)
      · rw [if_neg (fun htakes => hnone _ _ (.inr ⟨hmissing, htakes, rfl, rfl⟩))] at hloop
        exact hloop

theorem suffixReads {b p : ℕ} {u : FormatUnit} (hunit : unitAt a p = some u)
    (hlasts : u.Unguarded → b < a.date.length) : SuffixReads a b p u fields := by
  have hp := lt_of_unitAt hunit
  by_cases hc : a.formatChar p = '%'
  · by_cases hlast : a.format.length ≤ p + 1
    · rw [unitAt_lone hp hc hlast] at hunit
      obtain rfl := Option.some.inj hunit
      refine ⟨fun runs q h => h.elim, fun _ => ?_⟩
      rw [drop_format hp, hc, List.drop_eq_nil_of_le hlast]
      rfl
    · rw [unitAt_specifier (by omega) hc] at hunit
      have hformat : a.format.drop p =
          '%' :: a.formatChar (p + 1) :: a.format.drop (p + 2) := by
        rw [drop_format hp, drop_format (by omega : p + 1 < a.format.length), hc]
      have hloop := CoreDateParser.loop_specifier (a.formatChar (p + 1)) (a.format.drop (p + 2))
        (a.date.drop b) fields
      rw [← hformat] at hloop
      obtain rfl := Option.some.inj hunit
      exact suffixReads_of_case hloop hlasts
  · rw [unitAt_plain hp hc] at hunit
    obtain rfl := Option.some.inj hunit
    rw [plainUnit] at hlasts ⊢
    by_cases hspace : isspace (a.formatChar p) = true
    · rw [if_pos hspace]
      refine ⟨?_, fun h => absurd ⟨rfl, rfl⟩ (h _ _)⟩
      intro runs q h
      obtain ⟨rfl, rfl⟩ := h
      rw [drop_format hp, loop_plain hc, if_pos hspace, drop_takeWhile]
      rfl
    · rw [if_neg hspace] at hlasts ⊢
      have hb := hlasts trivial
      refine ⟨?_, fun h => ?_⟩
      · intro runs q h
        obtain ⟨hdate, rfl, rfl⟩ := h
        rw [drop_format hp, loop_plain hc, if_neg hspace, head_drop_date hb, hdate, if_pos rfl,
          List.tail_drop]
        rfl
      · have hdate : a.dateChar b ≠ a.formatChar p := fun hdate => h _ _ ⟨hdate, rfl, rfl⟩
        rw [drop_format hp, loop_plain hc, if_neg hspace, head_drop_date hb,
          if_neg (fun h => hdate (Option.some.inj h))]

theorem finish_eq_suffix {n : ℕ} {q : ℕ × ℕ} (hp : a.format.length ≤ q.2) :
    value (a.loop n ⟨q.1, q.2, fields⟩) =
      strptimeLoop false (a.format.drop q.2) (a.date.drop q.1) fields := by
  rw [loop_end hp, (finish_does _).value_eq, List.drop_eq_nil_of_le hp]
  refine Prod.ext (decide_eq_decide.mpr ?_) rfl
  rw [← drop_takeWhile, List.drop_eq_nil_iff]

/-- While the date lasts, the positions and the rest of the texts give the same result. -/
theorem loop_eq_suffix {n : ℕ} {q : ℕ × ℕ} (hn : a.format.length ≤ q.2 + n)
    (h : DateLasts a q) : value (a.loop n ⟨q.1, q.2, fields⟩) =
      strptimeLoop false (a.format.drop q.2) (a.date.drop q.1) fields := by
  induction n generalizing q fields with
  | zero => exact finish_eq_suffix hn
  | succ n ih =>
    by_cases hp : a.format.length ≤ q.2
    · exact finish_eq_suffix hp
    · rw [not_le] at hp
      obtain ⟨u, hunit⟩ := exists_unitAt hp
      have hsteps := step_reads (s := ⟨q.1, q.2, fields⟩) hunit
      by_cases hread : ∃ runs q', ReadsUnit a q.1 q.2 u runs q'
      · obtain ⟨runs, q₁, hread⟩ := hread
        have hlt := readsUnit_lt hread
        obtain ⟨hfirst, hrest⟩ := (dateLasts_step hunit hread).mp h
        rw [(loop_some hp (hsteps.some_of_reads runs q₁ hread).1).1,
          (suffixReads hunit hfirst).of_reads runs q₁ hread]
        exact ih (by omega) hrest
      · simp only [not_exists] at hread
        have hfirst := (dateLasts_stop hunit hread).mp h
        rw [(loop_none hp (hsteps.none_of_not hread)).1, (suffixReads hunit hfirst).of_not hread]

/-- Where every read is inside the arguments, the parser over the rest of its arguments
computes the same. -/
theorem dbStrptime_refines (h : Logs a.Inside (a.dbStrptime fields)) :
    value (a.dbStrptime fields) = CoreDateParser.dbStrptime a.date a.format fields :=
  loop_eq_suffix (q := (0, 0)) (Nat.le_add_left _ _)
    ((loop_inside (q := (0, 0)) (Nat.le_add_left _ _)).mp h)

/-! ### What is stored -/

theorem scanNumber_mem {i : ℤ} (hi : InInt32 i) (digits : Text) :
    InInt32 (CoreDateParser.scanNumber i digits).1 := by
  induction digits generalizing i with
  | nil => exact hi
  | cons c digits ih =>
    rw [CoreDateParser.scanNumber]
    split_ifs
    · exact ih (castInt32_mem _)
    · exact hi

/-- A number is stored as it was written unless an `Int` is too small for it. -/
theorem numberOf_eq_iff {s : Specifier} {digits : Text} (hdigits : ∀ c ∈ digits, isdigit c = true)
    (hrange : s.inRange digits = true) :
    numberOf s digits = written s digits ↔ Nat.ofDigitChars 10 digits 0 < 2147483648 := by
  by_cases hs : s = .fraction
  · subst hs
    have hlen : digits.length ≤ 6 := by simpa [Specifier.inRange] using hrange
    obtain ⟨-, hvalue, hle⟩ := padFraction_number hdigits hlen
    have hpos : 0 < 10 ^ (6 - digits.length) := by positivity
    have hsmall := Nat.le_mul_of_pos_right (Nat.ofDigitChars 10 digits 0) hpos
    rw [hvalue, written]
    exact ⟨fun _ => by omega, fun _ => rfl⟩
  · have hnumber : numberOf s digits = (CoreDateParser.scanNumber 0 digits).1 := by
      cases s with
      | fraction => exact absurd rfl hs
      | _ => rfl
    have hwritten : written s digits = (Nat.ofDigitChars 10 digits 0 : ℕ) := by
      cases s with
      | fraction => exact absurd rfl hs
      | _ => rfl
    rw [hnumber, hwritten]
    constructor
    · intro heq
      have hmem := (scanNumber_mem (i := 0) (by decide) digits).2
      omega
    · intro hlt
      have hvalue := CoreDateParser.scanNumber_value hdigits hlt
      rw [Nat.cast_zero] at hvalue
      rw [hvalue]

theorem inRange_written {s : Specifier} {digits : Text} (hdigits : ∀ c ∈ digits, isdigit c = true)
    (hrange : s.inRange digits = true) (hvalue : numberOf s digits = written s digits) :
    InRange s (numberOf s digits) := by
  have hpos : 0 ≤ numberOf s digits := by
    rw [hvalue]
    cases s <;> exact Int.natCast_nonneg _
  cases s with
  | fraction =>
    have hlen : digits.length ≤ 6 := by simpa [Specifier.inRange] using hrange
    obtain ⟨-, hfraction, hle⟩ := padFraction_number hdigits hlen
    refine ⟨hpos, ?_⟩
    rw [hfraction]
    exact_mod_cast hle
  | year => exact hpos
  | month => simpa [Specifier.inRange, numberOf, InRange] using hrange
  | day => exact ⟨hpos, by simpa [Specifier.inRange, numberOf, InRange] using hrange⟩
  | hour => exact ⟨hpos, by simpa [Specifier.inRange, numberOf, InRange] using hrange⟩
  | minute => exact ⟨hpos, by simpa [Specifier.inRange, numberOf, InRange] using hrange⟩
  | second => exact ⟨hpos, by simpa [Specifier.inRange, numberOf, InRange] using hrange⟩

/-- Every number that was stored is the one that was written, and is in its range. -/
def StoresWritten (a : Arguments) (fields : DateFields) : Prop :=
  (value (a.dbStrptime fields)).1 = true →
    ∀ s digits i, .store s digits i ∈ log (a.dbStrptime fields) →
      i = written s digits ∧ InRange s i

theorem mem_stores {l : List Event} {s : Specifier} {digits : Text} {i : ℤ} :
    .store s digits i ∈ l ↔ (s, digits, i) ∈ l.filterMap Event.stored := by
  rw [List.mem_filterMap]
  constructor
  · intro h
    exact ⟨_, h, rfl⟩
  · intro h
    obtain ⟨e, he, hstored⟩ := h
    cases e with
    | date b => cases hstored
    | format p => cases hstored
    | store s' digits' i' =>
      cases hstored
      exact he

/-- The variables are left as the assignments leave them. -/
theorem outputs_eq_stores (h : (value (a.dbStrptime fields)).1 = true) :
    (value (a.dbStrptime fields)).2 = ((log (a.dbStrptime fields)).filterMap Event.stored).foldl
      (fun fields store => put fields store.2.2 store.1) fields := by
  obtain ⟨runs, haccepts⟩ := dbStrptime_iff.mp h
  obtain ⟨hvalue, hstores⟩ := dbStrptime_of_accepts haccepts fields
  rw [hvalue, hstores, List.foldl_map, setAll]
  simp only [storeOf, put_numberOf]

theorem stores_written_iff (a : Arguments) (fields : DateFields) : StoresWritten a fields ↔
    ∀ runs, Accepts a runs → ∀ run ∈ runs, Nat.ofDigitChars 10 run.2 0 < 2147483648 := by
  constructor
  · intro h runs haccepts run hrun
    obtain ⟨hvalue, hstores⟩ := dbStrptime_of_accepts haccepts fields
    obtain ⟨q, hreads, -⟩ := haccepts
    obtain ⟨hdigits, hrange⟩ := reads_digits hreads run hrun
    refine (numberOf_eq_iff hdigits hrange).mp (h (by rw [hvalue]) _ _ _ ?_).1
    rw [mem_stores, hstores]
    exact List.mem_map_of_mem (f := storeOf) hrun
  · intro h htrue s digits i hmem
    obtain ⟨runs, haccepts⟩ := dbStrptime_iff.mp htrue
    obtain ⟨-, hstores⟩ := dbStrptime_of_accepts haccepts fields
    rw [mem_stores, hstores, List.mem_map] at hmem
    obtain ⟨run, hrun, hstore⟩ := hmem
    have hlt := h runs haccepts run hrun
    obtain ⟨q, hreads, -⟩ := haccepts
    obtain ⟨hdigits, hrange⟩ := reads_digits hreads run hrun
    have hvalue := (numberOf_eq_iff hdigits hrange).mpr hlt
    cases hstore
    exact ⟨hvalue, inRange_written hdigits hrange hvalue⟩

/-- Three thousand million hours are stored as a negative number of hours. -/
theorem hours_wrapped : ¬ StoresWritten
    ⟨"3000000000".toList, "%H".toList, fun _ => ' ', fun _ => ' '⟩ .zero := by
  intro h
  have hhours := (h (by decide +kernel) .hour "3000000000".toList (-1294967296)
    (by decide +kernel)).2.1
  exact absurd hhours (by decide)

/-! ### Reads inside the arguments -/

theorem reads_inside_iff (a : Arguments) (fields : DateFields) :
    Logs a.Inside (a.dbStrptime fields) ↔ DateLasts a (0, 0) :=
  loop_inside (q := (0, 0)) (Nat.le_add_left _ _)

/-- The year alone, where a whole date is asked for. -/
theorem literal_read_behind : ¬ Logs (Arguments.Inside
      ⟨"2024".toList, "%Y-%m-%d".toList, fun _ => ' ', fun _ => ' '⟩)
    (Arguments.dbStrptime ⟨"2024".toList, "%Y-%m-%d".toList, fun _ => ' ', fun _ => ' '⟩ .zero) := by
  intro h
  have hread : Event.date 4 ∈ log (Arguments.dbStrptime
      ⟨"2024".toList, "%Y-%m-%d".toList, fun _ => ' ', fun _ => ' '⟩ .zero) := by
    decide +kernel
  exact absurd (h _ hread) (lt_irrefl 4)

/-! ### Malformed formats -/

/-- What makes a format malformed. -/
def Bad (u : FormatUnit) : Prop := u = .unknown ∨ u = .lone

def width : FormatUnit → ℕ
  | .literal _ => 1
  | .space => 1
  | .lone => 1
  | .percent => 2
  | .field _ => 2
  | .unknown => 2

/-- The first malformed unit of a format begins `p` characters after its start. -/
def FirstMalformed (format : Text) (p : ℕ) : Prop :=
  ∃ before u behind, units format = before ++ u :: behind ∧ (∀ v ∈ before, ¬ Bad v) ∧ Bad u ∧
    (before.map width).sum = p

/-- The ways past a malformed unit at `p`: its specifier has no case and takes nothing, or it
is in the rest of a word that is left out after a field before it. -/
inductive PassesOver (a : Arguments) (p : ℕ) (q : ℕ × ℕ) : Prop
  | noCase {b : ℕ} {runs : List (Specifier × Text)} (hreads : Reads a (0, 0) runs (b, p))
    (hunit : unitAt a p = some .unknown) (hq : q = (b, afterWord a b (p + 2)))
  | leftOut {b p' : ℕ} {s : Specifier} {runs runs' : List (Specifier × Text)}
    (hreads : Reads a (0, 0) runs (b, p')) (hbefore : p' < p)
    (hunit : unitAt a p' = some (.field s)) (hread : ReadsUnit a b p' (.field s) runs' q)
    (hbehind : p < q.2)

/-- What follows in the format fits what follows in the date. -/
def FitsFrom (a : Arguments) (q : ℕ × ℕ) : Prop :=
  ∃ runs q', Reads a q runs q' ∧ Finished a q'

theorem malformed_iff (format : Text) : Malformed format ↔ ∃ u ∈ units format, Bad u := by
  constructor
  · rintro (h | h)
    · exact ⟨_, h, .inl rfl⟩
    · exact ⟨_, h, .inr rfl⟩
  · rintro ⟨u, hu, rfl | rfl⟩
    · exact .inl hu
    · exact .inr hu

theorem exists_firstMalformed {format : Text} (h : Malformed format) :
    ∃ p, FirstMalformed format p := by
  obtain ⟨u, hu, hbad⟩ := (malformed_iff format).mp h
  have hsplit (l : List FormatUnit) (hmem : u ∈ l) : ∃ before v behind,
      l = before ++ v :: behind ∧ (∀ w ∈ before, ¬ Bad w) ∧ Bad v := by
    induction l with
    | nil => cases hmem
    | cons v l ih =>
      by_cases hv : Bad v
      · exact ⟨[], v, l, rfl, by simp, hv⟩
      · have hne : u ≠ v := fun heq => hv (heq ▸ hbad)
        obtain ⟨before, w, behind, rfl, hbefore, hw⟩ :=
          ih ((List.mem_cons.mp hmem).resolve_left hne)
        exact ⟨v :: before, w, behind, rfl, List.forall_mem_cons.mpr ⟨hv, hbefore⟩, hw⟩
  obtain ⟨before, v, behind, hunits, hbefore, hv⟩ := hsplit _ hu
  exact ⟨_, before, v, behind, hunits, hbefore, hv, rfl⟩

theorem FirstMalformed.malformed {format : Text} {p : ℕ} (h : FirstMalformed format p) :
    Malformed format := by
  obtain ⟨before, u, behind, hunits, -, hbad, -⟩ := h
  exact (malformed_iff format).mpr ⟨u, by simp [hunits], hbad⟩

theorem reads_trans {q q' q'' : ℕ × ℕ} {runs runs' : List (Specifier × Text)}
    (h : Reads a q runs q') (h' : Reads a q' runs' q'') : Reads a q (runs ++ runs') q'' := by
  induction h with
  | refl q => exact h'
  | step hfirst hrest ih =>
    rw [List.append_assoc]
    exact .step hfirst (ih h')

theorem reads_one {q q' : ℕ × ℕ} {runs : List (Specifier × Text)} (h : Reading a q runs q') :
    Reads a q runs q' := by
  have hstep := Reads.step h (.refl q')
  rwa [List.append_nil] at hstep

/-- The units of a format from a character on. -/
theorem units_plain {c : Char} (hc : c ≠ '%') (format : Text) :
    units (c :: format) = plainUnit c :: units format := by
  cases format with
  | nil => simp [units, hc]
  | cons s format => rw [units, if_neg hc]

theorem not_isspace_of_specifier {s : Char} (h : ¬ Bad (specifierUnit s)) :
    isspace s = false := by
  rw [specifierUnit] at h
  split_ifs at h
  all_goals first | (subst s; decide) | exact absurd (.inl rfl) h

/-- Whitespace stands in no known specifier, so that a word left out ends at the start of a
unit, or behind the malformed one. -/
theorem units_skip {u : FormatUnit} {behind : List FormatUnit} (mid : List FormatUnit)
    {format : Text} (hunits : units format = mid ++ u :: behind) (hmid : ∀ v ∈ mid, ¬ Bad v)
    (hle : (format.takeWhile (!isspace ·)).length ≤ (mid.map width).sum) :
    ∃ mid', units (format.dropWhile (!isspace ·)) = mid' ++ u :: behind ∧
      (∀ v ∈ mid', ¬ Bad v) ∧
      (format.takeWhile (!isspace ·)).length + (mid'.map width).sum = (mid.map width).sum := by
  induction mid generalizing format with
  | nil =>
    have hnil : format.takeWhile (!isspace ·) = [] := List.length_eq_zero_iff.mp (by simpa using hle)
    have hsame : format.dropWhile (!isspace ·) = format := by
      conv_rhs => rw [← List.takeWhile_append_dropWhile (p := (!isspace ·)) (l := format), hnil]
      rfl
    exact ⟨[], by rw [hsame, hunits], hmid, by simp [hnil]⟩
  | cons m mid ih =>
    obtain ⟨hm, hrest⟩ := List.forall_mem_cons.mp hmid
    cases format with
    | nil => cases hunits
    | cons c format =>
      by_cases hc : c = '%'
      · cases format with
        | nil =>
          rw [units, if_pos hc, List.cons_append, List.cons.injEq] at hunits
          exact absurd (.inr hunits.1.symm) hm
        | cons s format =>
          rw [units, if_pos hc, List.cons_append, List.cons.injEq] at hunits
          obtain ⟨rfl, hunits⟩ := hunits
          have hs := not_isspace_of_specifier hm
          have hpercent : isspace c = false := hc ▸ by decide
          have hwidth : width (specifierUnit s) = 2 := by
            rw [specifierUnit]
            split_ifs <;> rfl
          rw [List.takeWhile_cons_of_pos (by simp [hpercent]),
            List.takeWhile_cons_of_pos (by simp [hs])] at hle ⊢
          rw [List.dropWhile_cons_of_pos (by simp [hpercent]),
            List.dropWhile_cons_of_pos (by simp [hs])]
          simp only [List.length_cons, List.map_cons, List.sum_cons, hwidth] at hle ⊢
          obtain ⟨mid', hunits', hmid', hsum⟩ := ih hunits hrest (by omega)
          exact ⟨mid', hunits', hmid', by omega⟩
      · rw [units_plain hc, List.cons_append, List.cons.injEq] at hunits
        obtain ⟨rfl, hunits⟩ := hunits
        by_cases hspace : isspace c = true
        · rw [List.takeWhile_cons_of_neg (by simp [hspace]),
            List.dropWhile_cons_of_neg (by simp [hspace])]
          exact ⟨plainUnit c :: mid, by rw [units_plain hc, hunits, List.cons_append], hmid,
            by simp⟩
        · have hwidth : width (plainUnit c) = 1 := by
            rw [plainUnit, if_neg hspace]
            rfl
          rw [List.takeWhile_cons_of_pos (by simp [hspace])] at hle ⊢
          rw [List.dropWhile_cons_of_pos (by simp [hspace])]
          simp only [List.length_cons, List.map_cons, List.sum_cons, hwidth] at hle ⊢
          obtain ⟨mid', hunits', hmid', hsum⟩ := ih hunits hrest (by omega)
          exact ⟨mid', hunits', hmid', by omega⟩

/-- The first malformed unit, seen from a place of the format before it. -/
def BadAhead (a : Arguments) (p' p : ℕ) : Prop :=
  ∃ k, FirstMalformed (a.format.drop p') k ∧ p' + k = p

theorem units_rest {format : Text} {m : FormatUnit} {l : List FormatUnit}
    (h : units format = m :: l) (hm : ¬ Bad m) : units (format.drop (width m)) = l := by
  cases format with
  | nil => cases h
  | cons c format =>
    by_cases hc : c = '%'
    · cases format with
      | nil =>
        rw [units, if_pos hc, List.cons.injEq] at h
        exact absurd (.inr h.1.symm) hm
      | cons s format =>
        rw [units, if_pos hc, List.cons.injEq] at h
        obtain ⟨rfl, hrest⟩ := h
        have hwidth : width (specifierUnit s) = 2 := by
          rw [specifierUnit]
          split_ifs <;> rfl
        rwa [hwidth]
    · rw [units_plain hc, List.cons.injEq] at h
      obtain ⟨rfl, hrest⟩ := h
      have hwidth : width (plainUnit c) = 1 := by
        rw [plainUnit]
        split_ifs <;> rfl
      rwa [hwidth]

theorem BadAhead.afterWord {p' p : ℕ} (h : BadAhead a p' p) (b : ℕ) :
    p < afterWord a b p' ∨ BadAhead a (afterWord a b p') p := by
  rw [CoreDateReading.afterWord]
  split_ifs
  · obtain ⟨k, ⟨before, u, behind, hunits, hbefore, hbad, rfl⟩, rfl⟩ := h
    refine (Nat.lt_or_ge _ _).imp_right fun hle => ?_
    obtain ⟨mid, hrest, hmid, hsum⟩ := units_skip before hunits hbefore (by omega)
    refine ⟨_, ⟨mid, u, behind, ?_, hmid, hbad, rfl⟩, by omega⟩
    rw [drop_takeWhile, hrest]
  · exact .inr h

/-- A unit read before the malformed one ends before it, or the malformed one is passed
over. -/
theorem BadAhead.step {b p' p : ℕ} (h : BadAhead a p' p) {runs : List (Specifier × Text)}
    (hreads : Reads a (0, 0) runs (b, p')) {runs' : List (Specifier × Text)} {q : ℕ × ℕ}
    (hreading : Reading a (b, p') runs' q) : PassesOver a p q ∨ BadAhead a q.2 p := by
  obtain ⟨k, ⟨before, u, behind, hunits, hbefore, hbad, rfl⟩, rfl⟩ := h
  obtain ⟨v, hunit, hread⟩ := hreading
  have hhead := hunit
  rw [unitAt, hunits] at hhead
  cases before with
  | nil =>
    obtain rfl : u = v := Option.some.inj hhead
    obtain rfl | rfl := hbad
    · exact .inl (.noCase hreads hunit hread.2)
    · exact hread.elim
  | cons m mid =>
    obtain rfl : m = v := Option.some.inj hhead
    obtain ⟨hm, hmid⟩ := List.forall_mem_cons.mp hbefore
    have hrest := units_rest hunits hm
    rw [List.drop_drop] at hrest
    have hahead : BadAhead a (p' + width m) (p' + ((m :: mid).map width).sum) :=
      ⟨_, ⟨mid, u, behind, hrest, hmid, hbad, rfl⟩, by simp [Nat.add_assoc]⟩
    cases m with
    | unknown => exact absurd (.inl rfl) hm
    | lone => exact absurd (.inr rfl) hm
    | literal c =>
      obtain ⟨-, -, rfl⟩ := hread
      exact .inr hahead
    | space =>
      obtain ⟨-, rfl⟩ := hread
      exact .inr hahead
    | percent =>
      obtain ⟨-, -, -, rfl⟩ := hread
      exact .inr hahead
    | field s =>
      have hword (b' : ℕ) (hq : q.2 = CoreDateReading.afterWord a b' (p' + 2)) :
          PassesOver a (p' + ((FormatUnit.field s :: mid).map width).sum) q ∨
            BadAhead a q.2 (p' + ((FormatUnit.field s :: mid).map width).sum) := by
        rcases hahead.afterWord b' with hbehind | hahead'
        · refine .inl (.leftOut hreads ?_ hunit hread (hq ▸ hbehind))
          simp [width]
        · exact .inr (hq ▸ hahead')
      have hends := hread
      obtain ⟨-, -, rfl⟩ | ⟨-, -, -, rfl⟩ := hends
      · by_cases hyear : s = .year
        · exact hword b (by rw [if_pos hyear])
        · rw [if_neg hyear]
          exact .inr hahead
      · exact hword _ rfl

/-- A run that uses up the format passes over its first malformed unit. -/
theorem passesOver_of_reads {p : ℕ} {q q' : ℕ × ℕ} {runs₀ runs : List (Specifier × Text)}
    (hstart : Reads a (0, 0) runs₀ q) (hahead : BadAhead a q.2 p) (h : Reads a q runs q')
    (hfinished : Finished a q') : ∃ q₁, PassesOver a p q₁ ∧ FitsFrom a q₁ := by
  induction h generalizing runs₀ with
  | refl q =>
    obtain ⟨k, ⟨before, u, behind, hunits, -⟩, -⟩ := hahead
    rw [List.drop_eq_nil_of_le hfinished.1, units] at hunits
    simp at hunits
  | @step q q₁ q' runs runs' hfirst hrest ih =>
    rcases hahead.step hstart hfirst with hpasses | hahead'
    · exact ⟨q₁, hpasses, runs', q', hrest, hfinished⟩
    · exact ih (reads_trans hstart (reads_one hfirst)) hahead' hfinished

theorem PassesOver.reads {p : ℕ} {q : ℕ × ℕ} (h : PassesOver a p q) :
    ∃ runs, Reads a (0, 0) runs q := by
  cases h with
  | noCase hreads hunit hq =>
    exact ⟨_, reads_trans hreads (reads_one ⟨_, hunit, rfl, hq⟩)⟩
  | leftOut hreads hbefore hunit hread hbehind =>
    exact ⟨_, reads_trans hreads (reads_one ⟨_, hunit, hread⟩)⟩

/-- A malformed format is rejected exactly where its first malformed unit is not passed over,
or what follows does not fit the rest of the date. -/
theorem malformed_rejected_iff (a : Arguments) (fields : DateFields) :
    (Malformed a.format → (value (a.dbStrptime fields)).1 = false) ↔
      ∀ p q, FirstMalformed a.format p → PassesOver a p q → ¬ FitsFrom a q := by
  constructor
  · rintro h p q hfirst hpasses ⟨runs', q', hrest, hfinished⟩
    obtain ⟨runs, hreads⟩ := hpasses.reads
    have htrue : (value (a.dbStrptime fields)).1 = true :=
      dbStrptime_iff.mpr ⟨_, q', reads_trans hreads hrest, hfinished⟩
    exact Bool.false_ne_true ((h hfirst.malformed).symm.trans htrue)
  · intro h hmalformed
    by_contra hfalse
    rw [Bool.not_eq_false] at hfalse
    obtain ⟨runs, q, hreads, hfinished⟩ := dbStrptime_iff.mp hfalse
    obtain ⟨p, hfirst⟩ := exists_firstMalformed hmalformed
    have hahead : BadAhead a 0 p := ⟨p, by rwa [List.drop_zero], Nat.zero_add p⟩
    obtain ⟨q₁, hpasses, hfits⟩ := passesOver_of_reads (.refl (0, 0)) hahead hreads hfinished
    exact h p q₁ hfirst hpasses hfits

/-- An unknown specifier is passed over. -/
theorem unknown_accepted : ¬ (Malformed "%q".toList →
    (value (Arguments.dbStrptime ⟨[], "%q".toList, fun _ => ' ', fun _ => ' '⟩ .zero)).1 =
      false) := by
  intro h
  exact absurd (h (by decide +kernel)) (by decide +kernel)

end DatabaseMod.CoreDateOutcomes
