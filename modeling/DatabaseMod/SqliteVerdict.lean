import DatabaseMod.SqliteSteps

/-!
# The verdict of an execution

Whether an execution is reported as a success, against what the engine answered to the
calls it made. The driver reads its verdict from the error stored on the connection, which
may be an older one, and which a failure without a text need not leave.
-/

namespace DatabaseMod.SqliteVerdict
open SqlTokens (Text trim)
open CoreValues CoreResultSet CoreQuery SqlEngine SqliteDriver SqliteSteps TSQLiteResultSet

variable (e : Engine) (conv : Conversions)

/-- A fetch that is not answered by the row fetched ahead steps the statement. If the step failed
its own error is stored, and otherwise the stored one stays. A run does not begin with a failure
unless it has no row. -/
theorem nextRow_step (s : Session) (hfake : s.2.fakeFirstRowFetch = false) :
    ∃ c calls, (nextRow e s).2.1.log = s.1.log ++ c :: calls ∧ c.isStep = true ∧ Idle calls ∧
      (c.failed = true → ∀ run ∈ c.started, run.rows = [] ∧ run.failure ≠ none) ∧
      ((nextRow e s).2.1.hasError = true ↔
        if c.failed then s.1.Shows (e.message (nextRow e s).2.1.log) else s.1.hasError = true) := by
  cases hstmt : s.2.stmtHandle with
  | none =>
    obtain ⟨conn, hlog, herror, heq⟩ := nextRow_null hfake hstmt
    rw [heq]
    exact ⟨_, [], hlog, rfl, .nil, fun _ run hrun => absurd hrun (Option.not_mem_none run), herror⟩
  | some stmt =>
    cases hrows : (stmt.run e s.1.log).rows with
    | cons row rest =>
      rw [nextRow_row hfake hstmt hrows]
      exact ⟨_, [], rfl, rfl, .nil, fun hfailed => absurd hfailed Bool.false_ne_true, .rfl⟩
    | nil =>
      cases hrun : (stmt.run e s.1.log).failure with
      | none =>
        obtain ⟨calls, hidle, heq⟩ := nextRow_done hfake hstmt hrows hrun
        rw [heq]
        exact ⟨_, calls, rfl, rfl, hidle, fun hfailed => absurd hfailed Bool.false_ne_true, .rfl⟩
      | some code =>
        obtain ⟨calls, conn, hidle, hlog, herror, heq⟩ := nextRow_failed hfake hstmt hrows hrun
        rw [heq]
        refine ⟨_, calls, hlog, rfl, hidle, fun _ run hstarted => ?_, herror⟩
        obtain rfl : stmt.run e s.1.log = run := by
          have hsome : stmt.started e s.1.log = some run := hstarted
          unfold Statement.started at hsome
          split_ifs at hsome
          exact Option.some.inj hsome
        exact ⟨hrows, hrun ▸ Option.some_ne_none code⟩

/-- The outcome is a success exactly if the calls made succeeded and no error was stored
before, or a step failed whose error does not show; a success leaves the result set active. No
more than one of the calls is a step. -/
def Verdict (s : Session) (r : Bool × Session) : Prop :=
  ∃ calls, r.2.1.log = s.1.log ++ calls ∧
    (r.1 = true ↔ Succeeded calls ∧ s.1.hasError = false ∨
      StepFailed calls ∧ ¬ s.1.Shows (e.message r.2.1.log)) ∧
    (r.1 = true → r.2.2.isActive = true) ∧ (calls.filter Call.isStep).length ≤ 1

variable {e} in
/-- An outcome without a step is a failure. -/
theorem Verdict.of_noStep {s : Session} {r : Bool × Session} {calls : List Call}
    (hlog : r.2.1.log = s.1.log ++ calls) (hno : NoStep calls) (hr : r.1 = false) :
    Verdict e s r := by
  have hnot := hno.not_succeeded
  have hnot' := hno.not_stepFailed
  exact ⟨calls, hlog, by simp [hr, hnot, hnot'], by simp [hr], by simp [hno.filter_isStep]⟩

variable {e} in
/-- Calls before that do not step, and with success, do not change the verdict. -/
theorem Verdict.after {s t : Session} {r : Bool × Session} {calls : List Call}
    (hlog : t.1.log = s.1.log ++ calls) (hno : NoStep calls)
    (hok : ∀ c ∈ calls, c.failed = false) (herror : t.1.lastError = s.1.lastError)
    (h : Verdict e t r) : Verdict e s r := by
  obtain ⟨calls', hlog', hr, hactive, hone⟩ := h
  have hhas : t.1.hasError = s.1.hasError := congrArg (Option.any TDatabaseError.isSet) herror
  have hshows (text : Text) : t.1.Shows text ↔ s.1.Shows text := by
    unfold TDBConnection.Shows
    rw [herror]
  refine ⟨calls ++ calls', by rw [hlog', hlog, List.append_assoc], ?_, hactive,
    by simpa [hno.filter_isStep] using hone⟩
  rw [hr, hno.succeeded_append, hno.stepFailed_append, hhas, hshows]
  exact or_congr_left (and_congr_left' (and_iff_right hok).symm)

theorem prefetch_verdict (s : Session) (hfake : s.2.fakeFirstRowFetch = false) :
    Verdict e s (prefetch e s) := by
  obtain ⟨c, calls, hlog, hstep, hidle, -, herror⟩ := nextRow_step e s hfake
  have hok : Succeeded (c :: calls) ↔ c.failed = false := by
    constructor
    · intro h
      exact h.1 c List.mem_cons_self
    · intro h
      exact ⟨List.forall_mem_cons.mpr ⟨h, fun d hd => (hidle d hd).2⟩, c, List.mem_cons_self, hstep⟩
  have hprefetch : (prefetch e s).2.1.log = (nextRow e s).2.1.log := by
    unfold prefetch
    dsimp only
    split_ifs <;> rfl
  refine ⟨c :: calls, hprefetch.trans hlog, ?_, ?_, by simp [hstep, hidle.noStep.filter_isStep]⟩
  · have htrue : (prefetch e s).1 = true ↔ (nextRow e s).2.1.hasError = false := by
      unfold prefetch
      dsimp only
      rw [TDBConnection.isSet_error]
      cases (nextRow e s).2.1.hasError <;> simp
    rw [htrue, ← Bool.not_eq_true, herror, hok, hidle.stepFailed_cons hstep, hprefetch]
    cases c.failed <;> simp
  · unfold prefetch
    dsimp only
    split_ifs <;> simp

theorem execute_verdict (s : Session) : Verdict e s (execute e conv s) := by
  rcases execute_cases e conv s with ⟨t, calls, heq, -, hlog, hno, -⟩ |
    ⟨resets, calls, hidle, -, -, hbind, heq⟩
  · obtain ⟨freed, hfreed, hfreedLog, -⟩ := free_eq t
    rw [heq]
    exact .of_noStep (by rw [hfreedLog, hlog, List.append_assoc]) (hno.append hfreed.noStep) rfl
  · obtain ⟨bound, hlog, hno, hok⟩ := bindParameters_log e conv
      (s.2.stmtHandle.map Statement.rewind) 0 (s.1.log ++ resets) (s.2.boundValues.take s.2.bindCount)
    rw [hbind] at hlog hok
    obtain rfl : calls = bound := List.append_cancel_left hlog
    rw [heq]
    refine .after (t := ({ s.1 with log := s.1.log ++ resets ++ calls }, rewound s.2))
      (List.append_assoc ..) (hidle.noStep.append hno) ?_ rfl (prefetch_verdict e _ rfl)
    exact List.forall_mem_append.mpr ⟨fun c hc => (hidle c hc).2, hok.mp rfl⟩

theorem executeQuery_verdict (statement : Text) {s : Session} (hopen : s.1.isOpen = true) :
    Verdict e s (executeQuery e conv statement s) := by
  obtain ⟨calls, c, query, hidle, hstep, hcases⟩ := prepare_cases e statement hopen
  have hno : NoStep (calls ++ [c]) := hidle.noStep.append (by simpa [NoStep] using hstep)
  unfold executeQuery
  rcases hcases with ⟨conn, stmtHandle, heq, hfailed, hlog, hconn, -⟩ | ⟨conn, heq, -, hlog, -⟩
  · rw [heq]
    refine .after hlog hno ?_ (congrArg TDBConnection.lastError hconn) (execute_verdict e conv _)
    exact List.forall_mem_append.mpr ⟨fun d hd => (hidle d hd).2, by simpa using hfailed⟩
  · rw [heq]
    exact .of_noStep hlog hno rfl

/-! ### The verdict of a query -/

/-- The native calls made between two states of a connection. -/
def callsBetween (before after : TDBSQLite) : List Call := after.log.drop before.log.length

theorem Verdict.finish {s : Session} {r : Bool × Session} (h : Verdict e s r) :
    Verdict e s ((driver e conv).finish r) := by
  obtain ⟨calls, hlog, hr, hactive, hone⟩ := h
  unfold Driver.finish
  split_ifs with hok
  · exact ⟨calls, hlog, (iff_of_true rfl hok).trans hr, fun _ => hactive hok, hone⟩
  · exact ⟨calls, hlog, hr, hactive, hone⟩

theorem raise_verdict (s : Session) (error : String) (eType : ErrorType) :
    Verdict e s ((driver e conv).raise s error eType) :=
  .of_noStep (List.append_nil _).symm Idle.nil.noStep rfl

theorem executePrepared_verdict (s : Session) :
    Verdict e s ((driver e conv).executePrepared s) := by
  unfold Driver.executePrepared
  split_ifs
  · exact (execute_verdict e conv s).finish e conv
  · exact raise_verdict e conv s _ _

theorem executeStatement_verdict (statement : Text) (s : Session) :
    Verdict e s ((driver e conv).executeStatement statement s) := by
  unfold Driver.executeStatement
  dsimp only
  split_ifs with hblank hopen
  · exact raise_verdict e conv s _ _
  · exact (executeQuery_verdict e conv statement
      (s := (driver e conv).setQuery (trim statement) s) hopen).finish e conv
  · exact raise_verdict e conv ((driver e conv).setQuery (trim statement) s) _ _

theorem opened_eq (conn : TDBSQLite) (resultSet : Option TSQLiteResultSet) :
    ((driver e conv).opened conn resultSet).1.log = conn.log ∧
      ((driver e conv).opened conn resultSet).1.toTDBConnection = conn.toTDBConnection := by
  cases resultSet with
  | none => exact ⟨addQuery_log conn conn.created, addQuery_connection conn conn.created⟩
  | some rs => exact ⟨rfl, rfl⟩

/-- What a call of `execute` reports: a success needs the calls to succeed and no older error, or
is a step that failed and whose error does not show. There is one step at most. -/
theorem query_verdict {q q' : TDatabaseQuery TDBSQLite TSQLiteResultSet} {statement : Text}
    {ok : Bool} (h : q.execute (driver e conv) statement = some (ok, q')) :
    ((ok = true ∧ q'.isActive (driver e conv) = true) ↔
      Succeeded (callsBetween q.conn q'.conn) ∧ q.conn.hasError = false ∨
      StepFailed (callsBetween q.conn q'.conn) ∧ ¬ q.conn.Shows (e.message q'.conn.log)) ∧
    ((callsBetween q.conn q'.conn).filter Call.isStep).length ≤ 1 := by
  have hfinal {s : Session} {r : Bool × Session} (hlog : s.1.log = q.conn.log)
      (herror : s.1.toTDBConnection = q.conn.toTDBConnection) (hr : Verdict e s r)
      (heq : some (r.1, (⟨r.2.1, some r.2.2⟩ : TDatabaseQuery TDBSQLite TSQLiteResultSet)) =
        some (ok, q')) :
      ((ok = true ∧ q'.isActive (driver e conv) = true) ↔
        Succeeded (callsBetween q.conn q'.conn) ∧ q.conn.hasError = false ∨
        StepFailed (callsBetween q.conn q'.conn) ∧ ¬ q.conn.Shows (e.message q'.conn.log)) ∧
      ((callsBetween q.conn q'.conn).filter Call.isStep).length ≤ 1 := by
    obtain ⟨calls, hcalls, hverdict, hactive, hone⟩ := hr
    cases heq
    have hbetween : callsBetween q.conn r.2.1 = calls := by
      rw [callsBetween, hcalls, hlog, List.drop_left]
    rw [hbetween, ← herror, ← hverdict]
    exact ⟨⟨fun h => h.1, fun h => ⟨h, hactive h⟩⟩, hone⟩
  unfold TDatabaseQuery.execute at h
  split at h
  · obtain ⟨hlog, hconn⟩ := opened_eq e conv q.conn q.resultSet
    exact hfinal hlog hconn (executeStatement_verdict e conv statement _) h
  · split at h
    · exact hfinal rfl rfl (executePrepared_verdict e conv (q.conn, _)) h
    · dsimp only at h
      split at h
      · cases h
      · cases h
        have hnone : callsBetween q.conn q.conn = [] := List.drop_length
        have hno : NoStep (callsBetween q.conn q.conn) := by
          rw [hnone]
          exact Idle.nil.noStep
        refine ⟨⟨fun h => absurd h.1 Bool.false_ne_true, fun h => ?_⟩, ?_⟩
        · exact h.elim (fun h => absurd h.1 hno.not_succeeded)
            fun h => absurd h.1 hno.not_stepFailed
        · exact (congrArg List.length hno.filter_isStep).trans_le zero_le_one

/-- The verdict of an execution is that of its own native calls exactly if no error is
stored when it begins, or one of these calls fails or none of them steps, and the error of a
step that fails shows. -/
theorem execution_verdict_iff {q q' : TDatabaseQuery TDBSQLite TSQLiteResultSet} {statement : Text}
    {ok : Bool} (h : q.execute (driver e conv) statement = some (ok, q')) :
    ((ok = true ∧ q'.isActive (driver e conv) = true) ↔
      Succeeded (callsBetween q.conn q'.conn)) ↔
    (q.conn.hasError = false ∨ ¬ Succeeded (callsBetween q.conn q'.conn)) ∧
      (StepFailed (callsBetween q.conn q'.conn) → q.conn.Shows (e.message q'.conn.log)) := by
  rw [(query_verdict e conv h).1]
  by_cases hok : Succeeded (callsBetween q.conn q'.conn)
  · simp [hok, hok.not_stepFailed]
  · simp [hok]

/-- An engine that has no statement for the text `?`; every other one has a single row. -/
def singleRow : Engine where
  prepare _ sql := if sql = ['?'] then .error ⟨1, by decide⟩ else .ok (some ⟨0, [⟨['n'], none⟩]⟩)
  reset _ _ := none
  bind _ _ _ _ := none
  run _ _ := ⟨[[.integer 1]], none⟩
  message _ := "SQL logic error".toList

def opened : TDBSQLite := ⟨⟨true, none⟩, [none, none], 0, []⟩

/-- A query is prepared, and then another one of the same connection fails. -/
def afterFailedPrepare : TDatabaseQuery TDBSQLite TSQLiteResultSet :=
  let q := ((TDatabaseQuery.create opened).prepare (driver singleRow .integers)
    "SELECT 1".toList).2
  let failed := ((TDatabaseQuery.create q.conn).prepare (driver singleRow .integers) ['?']).2
  { q with conn := failed.conn }

/-- Executing the first query then fails although the engine ran it. -/
theorem failed_prepare_fails_other_query :
    ∃ q', afterFailedPrepare.execute (driver singleRow .integers) [] = some (false, q') ∧
      Succeeded (callsBetween afterFailedPrepare.conn q'.conn) := by
  refine ⟨_, rfl, ?_⟩
  decide

theorem execution_verdict_iff_fresh :
    ∃ ok q', (TDatabaseQuery.create opened).execute (driver singleRow .integers)
        "SELECT 1".toList = some (ok, q') ∧
      ((ok = true ∧ q'.isActive (driver singleRow .integers) = true) ↔
        Succeeded (callsBetween opened q'.conn)) := by
  obtain ⟨ok, q', h⟩ : ∃ ok q', (TDatabaseQuery.create opened).execute
      (driver singleRow .integers) "SELECT 1".toList = some (ok, q') := ⟨_, _, rfl⟩
  refine ⟨ok, q', h, (execution_verdict_iff singleRow .integers h).mpr ⟨.inl rfl, fun _ => ?_⟩⟩
  exact .inr rfl

end DatabaseMod.SqliteVerdict
