import DatabaseMod.SqlTokens

/-!
# An SQL engine behind prepared statements

The native interface of an embedded engine: a statement is prepared, reset, bound and
stepped. What the engine answers may depend on everything called before, so each answer is
a function of the log of calls. A step of a rewound statement starts a run of it; a run
yields its rows one at a time and then ends or fails. A statement keeps the columns it was
prepared with: that a step prepares it anew after a change of the schema is left out.
-/

namespace DatabaseMod.SqlEngine
open SqlTokens (Text)

inductive SqlValue
  | null
  | integer (value : ℤ)
  | real (bits : UInt64)
  | text (value : Text)
  | blob (value : List UInt8)
deriving DecidableEq, Repr

abbrev Row := List SqlValue

/-- A cell outside of the row reads as null. -/
def cell (row : Row) (i : ℕ) : SqlValue := row.getD i .null

def OK : ℤ := 0
def MISUSE : ℤ := 21
def ROW : ℤ := 100
def DONE : ℤ := 101

/-- A result code that reports a failure. -/
structure ErrorCode where
  code : ℤ
  failed : code ≠ OK ∧ code ≠ ROW ∧ code ≠ DONE
deriving DecidableEq, Repr

def ErrorCode.misuse : ErrorCode := ⟨MISUSE, by decide⟩

structure Run where
  rows : List Row
  failure : Option ErrorCode
deriving DecidableEq, Repr

theorem Run.eq_mk {r : Run} {rows : List Row} {failure : Option ErrorCode} (h : r.rows = rows)
    (hf : r.failure = failure) : r = ⟨rows, failure⟩ := by
  cases r
  cases h
  cases hf
  rfl

inductive Action
  | prepare (sql : Text)
  | reset
  | bind (index : ℕ) (value : SqlValue)
  /-- `started` is the run that this step began, if it did. -/
  | step (started : Option Run)
  | finalize
deriving DecidableEq, Repr

structure Call where
  handle : Option ℕ
  action : Action
  result : Option ErrorCode
deriving DecidableEq, Repr

structure Column where
  name : Text
  declType : Option Text
deriving DecidableEq, Repr

structure Description where
  parameterCount : ℕ
  columns : List Column
deriving DecidableEq, Repr

/-- A prepared statement; `running` is what is left of its run, none when it is rewound. -/
structure Statement where
  handle : ℕ
  description : Description
  running : Option Run
deriving DecidableEq, Repr

structure Engine where
  /-- A text without a statement prepares to none. -/
  prepare : List Call → Text → Except ErrorCode (Option Description)
  reset : List Call → ℕ → Option ErrorCode
  bind : List Call → ℕ → ℕ → SqlValue → Option ErrorCode
  run : List Call → ℕ → Run
  /-- Of the last failure; a trigger may raise one with an empty text. -/
  message : List Call → Text

/-- The message of an engine that has no failure to tell. -/
def noError : Text := "not an error".toList

theorem noError_ne_nil : noError ≠ [] := by decide

/-! ### Calls -/

variable (e : Engine) (log : List Call)

def prepareStatement (sql : Text) : List Call × Except ErrorCode (Option Statement) :=
  match e.prepare log sql with
  | .error code => (log ++ [⟨none, .prepare sql, some code⟩], .error code)
  | .ok none => (log ++ [⟨none, .prepare sql, none⟩], .ok none)
  | .ok (some d) =>
    (log ++ [⟨some log.length, .prepare sql, none⟩], .ok (some ⟨log.length, d, none⟩))

def Statement.rewind (s : Statement) : Statement := { s with running := none }

/-- Resetting no statement does nothing. -/
def resetStatement : Option Statement → List Call × Option Statement × Option ErrorCode
  | none => (log, none, none)
  | some s =>
    (log ++ [⟨some s.handle, .reset, e.reset log s.handle⟩], some s.rewind, e.reset log s.handle)

def bindStatement (index : ℕ) (value : SqlValue) :
    Option Statement → List Call × Option ErrorCode
  | none => (log ++ [⟨none, .bind index value, some .misuse⟩], some .misuse)
  | some s =>
    (log ++ [⟨some s.handle, .bind index value, e.bind log s.handle index value⟩],
      e.bind log s.handle index value)

inductive Stepped
  | row (row : Row)
  | done
  | failed (code : ErrorCode)
deriving DecidableEq, Repr

/-- The run that a step of the statement continues or starts. -/
def Statement.run (s : Statement) : Run := s.running.getD (e.run log s.handle)

def Statement.started (s : Statement) : Option Run :=
  if s.running.isNone then some (s.run e log) else none

def stepStatement : Option Statement → List Call × Option Statement × Stepped
  | none => (log ++ [⟨none, .step none, some .misuse⟩], none, .failed .misuse)
  | some s =>
    let run := s.run e log
    match run.rows, run.failure with
    | row :: rest, failure =>
      (log ++ [⟨some s.handle, .step (s.started e log), none⟩],
        some { s with running := some ⟨rest, failure⟩ }, .row row)
    | [], none =>
      (log ++ [⟨some s.handle, .step (s.started e log), none⟩],
        some s.rewind, .done)
    | [], some code =>
      (log ++ [⟨some s.handle, .step (s.started e log), some code⟩], some s.rewind, .failed code)

def finalize : Option Statement → List Call
  | none => log
  | some s => log ++ [⟨some s.handle, .finalize, none⟩]

def parameterCount : Option Statement → ℕ
  | none => 0
  | some s => s.description.parameterCount

def columns : Option Statement → List Column
  | none => []
  | some s => s.description.columns

section

variable {e log} {s : Statement}

theorem stepStatement_row {row : Row} {rest : List Row} (h : (s.run e log).rows = row :: rest) :
    stepStatement e log (some s) = (log ++ [⟨some s.handle, .step (s.started e log), none⟩],
      some { s with running := some ⟨rest, (s.run e log).failure⟩ }, .row row) := by
  simp only [stepStatement, h]

theorem stepStatement_done (h : (s.run e log).rows = []) (hf : (s.run e log).failure = none) :
    stepStatement e log (some s) = (log ++ [⟨some s.handle, .step (s.started e log), none⟩],
      some s.rewind, .done) := by
  simp only [stepStatement, h, hf]

theorem stepStatement_failed {code : ErrorCode} (h : (s.run e log).rows = [])
    (hf : (s.run e log).failure = some code) :
    stepStatement e log (some s) = (log ++ [⟨some s.handle, .step (s.started e log), some code⟩],
      some s.rewind, .failed code) := by
  simp only [stepStatement, h, hf]

end

/-! ### What a log says -/

def Call.started (c : Call) : Option Run :=
  match c.action with
  | .step started => started
  | _ => none

/-- The runs started by these calls, in order. -/
def startedRuns (calls : List Call) : List Run := calls.filterMap Call.started

def Call.isStep (c : Call) : Bool :=
  match c.action with
  | .step _ => true
  | _ => false

/-- A call that prepares, binds or steps and was answered with a failure. -/
def Call.failed (c : Call) : Bool :=
  match c.action with
  | .prepare _ | .bind _ _ | .step _ => c.result.isSome
  | .reset | .finalize => false

/-- Every native call was answered with success, and the statement was stepped. -/
def Succeeded (calls : List Call) : Prop :=
  (∀ c ∈ calls, c.failed = false) ∧ ∃ c ∈ calls, c.isStep = true

instance (calls : List Call) : Decidable (Succeeded calls) :=
  inferInstanceAs (Decidable (_ ∧ _))

/-- A step was answered with a failure. -/
def StepFailed (calls : List Call) : Prop := ∃ c ∈ calls, c.isStep = true ∧ c.failed = true

instance (calls : List Call) : Decidable (StepFailed calls) :=
  inferInstanceAs (Decidable (∃ c ∈ calls, _))

theorem Succeeded.not_stepFailed {calls : List Call} (h : Succeeded calls) : ¬ StepFailed calls := by
  rintro ⟨c, hc, -, hfailed⟩
  rw [h.1 c hc] at hfailed
  cases hfailed

def NoStep (calls : List Call) : Prop := ∀ c ∈ calls, c.isStep = false

/-- Calls that only reset and finalize. -/
def Idle (calls : List Call) : Prop := ∀ c ∈ calls, c.isStep = false ∧ c.failed = false

theorem Idle.noStep {calls : List Call} (h : Idle calls) : NoStep calls := fun c hc => (h c hc).1

theorem NoStep.filter_isStep {calls : List Call} (h : NoStep calls) :
    calls.filter Call.isStep = [] :=
  List.filter_eq_nil_iff.mpr fun c hc => by simp [h c hc]

theorem Idle.nil : Idle [] := by simp [Idle]

theorem Idle.append {calls calls' : List Call} (h : Idle calls) (h' : Idle calls') :
    Idle (calls ++ calls') := by
  intro c hc
  rcases List.mem_append.mp hc with hc | hc
  · exact h c hc
  · exact h' c hc

theorem NoStep.append {calls calls' : List Call} (h : NoStep calls) (h' : NoStep calls') :
    NoStep (calls ++ calls') := by
  intro c hc
  rcases List.mem_append.mp hc with hc | hc
  · exact h c hc
  · exact h' c hc

theorem NoStep.not_succeeded {calls : List Call} (h : NoStep calls) : ¬ Succeeded calls := by
  rintro ⟨-, c, hc, hstep⟩
  rw [h c hc] at hstep
  cases hstep

theorem NoStep.succeeded_append {calls : List Call} (h : NoStep calls) (calls' : List Call) :
    Succeeded (calls ++ calls') ↔ (∀ c ∈ calls, c.failed = false) ∧ Succeeded calls' := by
  have hstep : (∃ c ∈ calls ++ calls', c.isStep = true) ↔ ∃ c ∈ calls', c.isStep = true := by
    constructor
    · rintro ⟨c, hc, hstep⟩
      rcases List.mem_append.mp hc with hc | hc
      · rw [h c hc] at hstep
        cases hstep
      · exact ⟨c, hc, hstep⟩
    · rintro ⟨c, hc, hstep⟩
      exact ⟨c, List.mem_append_right calls hc, hstep⟩
  rw [Succeeded, Succeeded, hstep, List.forall_mem_append, and_assoc]

theorem NoStep.stepFailed_append {calls : List Call} (h : NoStep calls) (calls' : List Call) :
    StepFailed (calls ++ calls') ↔ StepFailed calls' := by
  constructor
  · rintro ⟨c, hc, hstep, hfailed⟩
    rcases List.mem_append.mp hc with hc | hc
    · rw [h c hc] at hstep
      cases hstep
    · exact ⟨c, hc, hstep, hfailed⟩
  · rintro ⟨c, hc, hfailed⟩
    exact ⟨c, List.mem_append_right calls hc, hfailed⟩

theorem NoStep.not_stepFailed {calls : List Call} (h : NoStep calls) : ¬ StepFailed calls := by
  rintro ⟨c, hc, hstep, -⟩
  rw [h c hc] at hstep
  cases hstep

/-- A step before resets alone. -/
theorem Idle.stepFailed_cons {calls : List Call} (h : Idle calls) {c : Call}
    (hstep : c.isStep = true) : StepFailed (c :: calls) ↔ c.failed = true := by
  constructor
  · rintro ⟨d, hd, hstep', hfailed⟩
    rcases List.mem_cons.mp hd with rfl | hd
    · exact hfailed
    · rw [(h d hd).1] at hstep'
      cases hstep'
  · intro hfailed
    exact ⟨c, List.mem_cons_self, hstep, hfailed⟩

/-- The calls before the first step are determined. -/
theorem NoStep.eq_of_append {calls calls' after after' : List Call} {c c' : Call}
    (h : NoStep calls) (h' : NoStep calls') (hc : c.isStep = true) (hc' : c'.isStep = true)
    (heq : calls ++ c :: after = calls' ++ c' :: after') : calls = calls' := by
  induction calls generalizing calls' with
  | nil =>
    cases calls' with
    | nil => rfl
    | cons d calls' =>
      cases heq
      rw [h' _ List.mem_cons_self] at hc
      cases hc
  | cons d calls ih =>
    cases calls' with
    | nil =>
      cases heq
      rw [h _ List.mem_cons_self] at hc'
      cases hc'
    | cons d' calls' =>
      obtain ⟨rfl, htail⟩ := List.cons_eq_cons.mp heq
      rw [ih (fun x hx => h x (List.mem_cons_of_mem d hx))
        (fun x hx => h' x (List.mem_cons_of_mem d hx)) htail]

theorem Idle.succeeded_append {calls : List Call} (h : Idle calls) (calls' : List Call) :
    Succeeded (calls ++ calls') ↔ Succeeded calls' := by
  rw [h.noStep.succeeded_append]
  exact and_iff_right fun c hc => (h c hc).2

theorem NoStep.startedRuns_eq {calls : List Call} (h : NoStep calls) : startedRuns calls = [] := by
  refine List.filterMap_eq_nil_iff.mpr fun c hc => ?_
  have hstep := h c hc
  unfold Call.isStep at hstep
  unfold Call.started
  split at hstep
  · cases hstep
  · rfl

theorem startedRuns_cons (c : Call) (calls : List Call) :
    startedRuns (c :: calls) = c.started.toList ++ startedRuns calls := by
  cases h : c.started <;> simp [startedRuns, h]

@[simp] theorem startedRuns_append (calls calls' : List Call) :
    startedRuns (calls ++ calls') = startedRuns calls ++ startedRuns calls' :=
  List.filterMap_append ..

/-- What a successful call binds to the parameter of a statement. -/
def Call.binding (c : Call) (handle index : ℕ) : Option SqlValue :=
  match c.action, c.result with
  | .bind i value, none => if c.handle = some handle ∧ i = index then some value else none
  | _, _ => none

/-- The value of a parameter: its last binding, as resetting a statement keeps them. -/
def parameter (log : List Call) (handle index : ℕ) : Option SqlValue :=
  log.foldl (fun old c => (c.binding handle index).or old) none

theorem parameter_append (log : List Call) (c : Call) (handle index : ℕ) :
    parameter (log ++ [c]) handle index =
      (c.binding handle index).or (parameter log handle index) := by
  simp [parameter]

/-! ### How the calls extend the log -/

theorem resetStatement_parameter (s : Option Statement) (handle index : ℕ) :
    parameter (resetStatement e log s).1 handle index = parameter log handle index := by
  cases s with
  | none => rfl
  | some s =>
    unfold resetStatement
    rw [parameter_append]
    rfl

theorem finalize_parameter (s : Option Statement) (handle index : ℕ) :
    parameter (finalize log s) handle index = parameter log handle index := by
  cases s with
  | none => rfl
  | some s =>
    unfold finalize
    rw [parameter_append]
    rfl

theorem bindStatement_parameter (s : Statement) {index : ℕ} {value : SqlValue}
    (h : (bindStatement e log index value (some s)).2 = none) (index' : ℕ) :
    parameter (bindStatement e log index value (some s)).1 s.handle index' =
      if index = index' then some value else parameter log s.handle index' := by
  change e.bind log s.handle index value = none at h
  unfold bindStatement
  rw [parameter_append, h]
  by_cases hindex : index = index'
  · simp [Call.binding, hindex]
  · simp [Call.binding, hindex]

theorem resetStatement_log (s : Option Statement) :
    ∃ calls, (resetStatement e log s).1 = log ++ calls ∧ Idle calls := by
  cases s with
  | none => exact ⟨[], (List.append_nil log).symm, .nil⟩
  | some s => exact ⟨_, rfl, by simp [Idle, Call.isStep, Call.failed]⟩

theorem resetStatement_statement (s : Option Statement) :
    (resetStatement e log s).2.1 = s.map Statement.rewind := by
  cases s <;> rfl

theorem finalize_log (s : Option Statement) :
    ∃ calls, finalize log s = log ++ calls ∧ Idle calls := by
  cases s with
  | none => exact ⟨[], (List.append_nil log).symm, .nil⟩
  | some s => exact ⟨_, rfl, by simp [Idle, Call.isStep, Call.failed]⟩

theorem bindStatement_log (index : ℕ) (value : SqlValue) (s : Option Statement) :
    ∃ c, (bindStatement e log index value s).1 = log ++ [c] ∧ c.isStep = false ∧
      (c.failed = false ↔ (bindStatement e log index value s).2 = none) := by
  cases s with
  | none => exact ⟨_, rfl, rfl, by simp [Call.failed, bindStatement]⟩
  | some s => exact ⟨_, rfl, rfl, by simp [Call.failed, bindStatement]⟩

theorem prepareStatement_log (sql : Text) :
    ∃ c, (prepareStatement e log sql).1 = log ++ [c] ∧ c.isStep = false ∧
      (c.failed = false ↔ ∃ s, (prepareStatement e log sql).2 = .ok s) := by
  unfold prepareStatement
  cases e.prepare log sql with
  | error code => exact ⟨_, rfl, rfl, by simp [Call.failed]⟩
  | ok d =>
    cases d with
    | none => exact ⟨_, rfl, rfl, by simp [Call.failed]⟩
    | some d => exact ⟨_, rfl, rfl, by simp [Call.failed]⟩

theorem stepStatement_log (s : Option Statement) :
    ∃ c, (stepStatement e log s).1 = log ++ [c] ∧ c.isStep = true ∧
      (c.failed = false ↔ ∀ code, (stepStatement e log s).2.2 ≠ .failed code) := by
  cases s with
  | none => exact ⟨_, rfl, rfl, by simp [Call.failed, stepStatement]⟩
  | some s =>
    cases hrows : (s.run e log).rows with
    | cons row rest =>
      rw [stepStatement_row hrows]
      exact ⟨_, rfl, rfl, by simp [Call.failed]⟩
    | nil =>
      cases hfailure : (s.run e log).failure with
      | none =>
        rw [stepStatement_done hrows hfailure]
        exact ⟨_, rfl, rfl, by simp [Call.failed]⟩
      | some code =>
        rw [stepStatement_failed hrows hfailure]
        exact ⟨_, rfl, rfl, by simp [Call.failed]⟩

end DatabaseMod.SqlEngine
