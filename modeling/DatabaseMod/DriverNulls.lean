import DatabaseMod.MariaDriver
import DatabaseMod.OdbcDriver

/-!
# Nulls among the bound values

What the binding loops of the MariaDB and ODBC drivers mark as null. A value is null if it is
no object, or an object that says so.
-/

namespace DatabaseMod.DriverNulls
open CoreValues CoreResultSet CoreQuery

def isNullAt (values : List (Option TDBType)) (i : ℕ) : Bool :=
  values[i]?.any fun v => v.all (·.isNull)

@[simp] theorem isNullAt_zero (v : Option TDBType) (values : List (Option TDBType)) :
    isNullAt (v :: values) 0 = v.all (·.isNull) := rfl

@[simp] theorem isNullAt_succ (v : Option TDBType) (values : List (Option TDBType)) (i : ℕ) :
    isNullAt (v :: values) (i + 1) = isNullAt values i := rfl

/-! ### MariaDB -/

section
open MariaDriver

/-- The loop reaches its end, and exactly the null values are marked. -/
def NullsMarked (values : List (Option TDBType)) (bindings : List (Option Param)) : Prop :=
  (bindParameters values bindings).1 = true ∧
    ∀ i, (bindParameters values bindings).2[i]? = some (some .null) ↔ isNullAt values i = true

/-- The value of a slot is an object, and its kind has a case unless the binding that is left
there is as null as the value. -/
def Markable (slot : Option TDBType × Option Param) : Prop :=
  ∃ v, slot.1 = some v ∧ (paramOf v ≠ none ∨ (slot.2 = some .null ↔ v.isNull = true))

theorem paramOf_null {v : TDBType} {p : Param} (h : paramOf v = some p) :
    p = .null ↔ v.isNull = true := by
  obtain ⟨content, isNull⟩ := v
  unfold paramOf at h
  dsimp only at h ⊢
  split at h
  case h_8 => cases h
  all_goals
    obtain rfl := Option.some.inj h
    cases isNull <;> simp

theorem marks_iff (v : TDBType) (binding : Option Param) :
    ((paramOf v).or binding = some .null ↔ v.isNull = true) ↔ Markable (some v, binding) := by
  cases h : paramOf v with
  | none => simp [Markable, h]
  | some p =>
    have hp := paramOf_null h
    simp [Markable, h, hp]

theorem nullsMarked_iff {values : List (Option TDBType)} {bindings : List (Option Param)}
    (h : values.length = bindings.length) :
    NullsMarked values bindings ↔ ∀ slot ∈ values.zip bindings, Markable slot := by
  induction values generalizing bindings with
  | nil =>
    obtain rfl : bindings = [] := List.eq_nil_of_length_eq_zero h.symm
    simp [NullsMarked, bindParameters, isNullAt]
  | cons value values ih =>
    cases bindings with
    | nil => cases h
    | cons binding bindings =>
      rw [List.zip_cons_cons, List.forall_mem_cons, ← ih (Nat.succ.inj h)]
      cases value with
      | none =>
        refine iff_of_false (fun h => Bool.false_ne_true h.1) ?_
        rintro ⟨⟨v, ⟨⟩, -⟩, -⟩
      | some v =>
        have hcons : bindParameters (some v :: values) (binding :: bindings) =
          ((bindParameters values bindings).1,
            (paramOf v).or binding :: (bindParameters values bindings).2) := rfl
        rw [← marks_iff v binding]
        unfold NullsMarked
        rw [hcons, ← Nat.and_forall_add_one]
        simp only [List.getElem?_cons_zero, List.getElem?_cons_succ, Option.some.injEq,
          isNullAt_zero, isNullAt_succ, Option.all_some]
        exact and_left_comm

end

/-! ### ODBC -/

section
open OdbcDriver

/-- The native calls of a loop that reaches its end. -/
def bindCalls : ℕ → List (Option TDBType) → List Call
  | _, [] => []
  | i, v :: values =>
    ((v.bind paramOf).map fun p => Call.bindParameter (i + 1) p.1 p.2).toList ++
      bindCalls (i + 1) values

/-- The driver manager takes the parameter for a null: its indicator is in a variable of a helper,
and the null mark is in the memory which that variable has left. -/
def Marked (memory : ℕ → ℤ) (calls : List Call) (position : ℕ) : Prop :=
  ∃ value, .bindParameter position value .returned ∈ calls ∧ memory position = SQL_NULL_DATA

/-- The loop meets no Null, and one that reaches its end has marked exactly the null values,
whatever is in memory. -/
def NullsBound (values : List (Option TDBType)) : Prop :=
  ∀ (odbc : Odbc) (log : List Call), let r := bindParameters odbc 0 log values
    r.1 ≠ .raised ∧ (r.1 = .bound → ∃ calls, r.2.1 = log ++ calls ∧
      ∀ memory i, Marked memory calls (i + 1) ↔ isNullAt values i = true)

/-- The kinds that are bound as texts. -/
def isText : Content → Bool
  | .string _ | .temporal _ _ _ => true
  | _ => false

/-- The values with an indicator in a helper: the texts, and the numbers that are null. -/
theorem paramOf_returned (v : TDBType) : (∃ value, paramOf v = some (value, .returned)) ↔
    isText v.content = true ∨ paramOf v ≠ none ∧ v.isNull = true := by
  obtain ⟨content, isNull⟩ := v
  cases content with
  | integer kind value => cases kind <;> cases isNull <;> simp [paramOf, isText]
  | string | float | double | decimal | blob | temporal =>
    cases isNull <;> simp [paramOf, isText]

theorem bindParameters_bound (odbc : Odbc) {i : ℕ} {log : List Call}
    {values : List (Option TDBType)} (h : (bindParameters odbc i log values).1 = .bound) :
    (bindParameters odbc i log values).2.1 = log ++ bindCalls i values := by
  induction values generalizing i log with
  | nil => exact (List.append_nil log).symm
  | cons value values ih => cases value with
    | none => cases h
    | some v =>
      unfold bindParameters at h ⊢
      unfold bindCalls
      cases hparam : paramOf v with
      | none =>
        rw [hparam] at h
        simpa [hparam] using ih h
      | some p =>
        rw [hparam] at h
        dsimp only at h ⊢
        split_ifs at h ⊢
        rw [ih h]
        simp [hparam]

theorem bindParameters_not_raised (odbc : Odbc) {i : ℕ} {log : List Call}
    {values : List (Option TDBType)} (h : none ∉ values) :
    (bindParameters odbc i log values).1 ≠ .raised := by
  induction values generalizing i log with
  | nil => exact nofun
  | cons value values ih =>
    obtain ⟨hvalue, hvalues⟩ := not_or.mp (mt List.mem_cons.mpr h)
    cases value with
    | none => exact absurd rfl hvalue
    | some v =>
      unfold bindParameters
      cases paramOf v with
      | none => exact ih hvalues
      | some p =>
        dsimp only
        split_ifs
        · exact nofun
        · exact ih hvalues

/-- A manager that answers every call with success. -/
def succeeding : Odbc :=
  ⟨fun _ => SQL_SUCCESS, fun _ => [], fun _ => ([], 0), fun _ _ => none, fun _ _ => none,
    fun _ _ => none, fun _ _ => none, fun _ _ => none⟩

theorem bindParameters_succeeding (i : ℕ) (log : List Call) (values : List (Option TDBType)) :
    (bindParameters succeeding i log values).1 = if none ∈ values then .raised else .bound := by
  induction values generalizing i log with
  | nil => rfl
  | cons value values ih => cases value with
    | none => simp [bindParameters]
    | some v =>
      have hmem : none ∈ some v :: values ↔ none ∈ values := by simp
      unfold bindParameters
      rw [if_congr hmem rfl rfl]
      cases paramOf v with
      | none => exact ih (i + 1) log
      | some p => exact ih (i + 1) _

theorem mem_bindCalls {k i : ℕ} {value : Param} {indicator : Indicator} {values : List (Option TDBType)} :
    .bindParameter k value indicator ∈ bindCalls i values ↔
      ∃ j v, k = i + j + 1 ∧ values[j]? = some (some v) ∧ paramOf v = some (value, indicator) := by
  induction values generalizing i with
  | nil => simp [bindCalls]
  | cons first values ih =>
    have hfirst : .bindParameter k value indicator ∈
        ((first.bind paramOf).map fun p => Call.bindParameter (i + 1) p.1 p.2).toList ↔
          ∃ v, k = i + 0 + 1 ∧ first = some v ∧ paramOf v = some (value, indicator) := by
      cases first with
      | none => simp
      | some v => cases h : paramOf v <;> simp [h, Prod.ext_iff]; tauto
    unfold bindCalls
    rw [List.mem_append, ih, hfirst]
    refine Iff.trans ?_ Nat.or_exists_add_one
    have hindex (j : ℕ) : i + 1 + j + 1 = i + (j + 1) + 1 := by omega
    simp only [List.getElem?_cons_zero, List.getElem?_cons_succ, Option.some.injEq, hindex]

/-- A position is marked by the native calls if its value is a text or a null number, and the mark
is in memory. -/
theorem marked_iff (memory : ℕ → ℤ) (values : List (Option TDBType)) (i : ℕ) :
    Marked memory (bindCalls 0 values) (i + 1) ↔ memory (i + 1) = SQL_NULL_DATA ∧
      ∃ v, values[i]? = some (some v) ∧
        (isText v.content = true ∨ paramOf v ≠ none ∧ v.isNull = true) := by
  constructor
  · rintro ⟨value, hcall, hmemory⟩
    obtain ⟨j, v, hj, hv, hparam⟩ := mem_bindCalls.mp hcall
    obtain rfl : i = j := by omega
    exact ⟨hmemory, v, hv, (paramOf_returned v).mp ⟨value, hparam⟩⟩
  · rintro ⟨hmemory, v, hv, hreturned⟩
    obtain ⟨value, hparam⟩ := (paramOf_returned v).mpr hreturned
    exact ⟨value, mem_bindCalls.mpr ⟨i, v, by omega, hv, hparam⟩, hmemory⟩

theorem nullsBound_iff (values : List (Option TDBType)) :
    NullsBound values ↔ ∀ value ∈ values, ∃ v, value = some v ∧
      v.isNull = false ∧ isText v.content = false := by
  constructor
  · intro h value hvalue
    -- a manager with which the loop comes to its end shows what is marked
    obtain ⟨hraised, hbound⟩ := h succeeding []
    have hnone : none ∉ values := by
      intro hnone
      rw [bindParameters_succeeding, if_pos hnone] at hraised
      exact hraised rfl
    have houtcome : (bindParameters succeeding 0 [] values).1 = .bound := by
      rw [bindParameters_succeeding, if_neg hnone]
    obtain ⟨calls, hcalls, hmarks⟩ := hbound houtcome
    rw [bindParameters_bound succeeding houtcome] at hcalls
    obtain rfl := List.append_cancel_left hcalls
    cases value with
    | none => exact absurd hvalue hnone
    | some v =>
      obtain ⟨i, hi⟩ := List.mem_iff_getElem?.mp hvalue
      have hnullAt : isNullAt values i = v.isNull := by simp [isNullAt, hi]
      -- a null is not marked where memory is zero, a text is where the mark is left in it
      have hnull : v.isNull = false := by
        by_contra hnull
        have hmarked := (hmarks (fun _ => 0) i).mpr (by simpa [hnullAt] using hnull)
        exact absurd ((marked_iff _ values i).mp hmarked).1 (by decide)
      refine ⟨v, rfl, hnull, ?_⟩
      by_contra htext
      have hmarked := (marked_iff (fun _ => SQL_NULL_DATA) values i).mpr
        ⟨rfl, v, hi, .inl (by simpa using htext)⟩
      have hisNull := (hmarks (fun _ => SQL_NULL_DATA) i).mp hmarked
      rw [hnullAt, hnull] at hisNull
      cases hisNull
  · intro h odbc log
    have hnone : none ∉ values := by
      intro hnone
      obtain ⟨v, ⟨⟩, -⟩ := h none hnone
    refine ⟨bindParameters_not_raised odbc hnone, fun hbound => ?_⟩
    refine ⟨_, bindParameters_bound odbc hbound, fun memory i => ?_⟩
    rw [marked_iff]
    refine iff_of_false ?_ ?_
    · rintro ⟨-, v, hv, hreturned⟩
      obtain ⟨w, hw, hnull, htext⟩ := h (some v) (List.mem_of_getElem? hv)
      obtain rfl := Option.some.inj hw
      simp [hnull, htext] at hreturned
    · intro hnullAt
      obtain ⟨value, hi, hnull⟩ := (Option.any_eq_true _ _).mp hnullAt
      obtain ⟨v, rfl, hpresent, -⟩ := h value (List.mem_of_getElem? hi)
      simp [hpresent] at hnull

end

/-! ### The drivers together -/

section
open MariaDriver

end

end DatabaseMod.DriverNulls
