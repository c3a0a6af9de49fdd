import DatabaseMod.SqliteDriver

/-!
# What the driver's operations can do

One statement for each operation of the SQLite result set: the native calls it adds to the
log and the result set it leaves.
-/

namespace DatabaseMod.SqliteSteps
open SqlTokens (Text trim)
open CoreValues CoreResultSet CoreQuery SqlEngine SqliteDriver TSQLiteResultSet

variable (e : Engine) (conv : Conversions)

/-! ### The connection -/

@[simp] theorem setError_log (conn : TDBSQLite) (error append : Text) (errorValue : ℤ) :
    (conn.setError error append errorValue).log = conn.log := rfl

@[simp] theorem setError_isOpen (conn : TDBSQLite) (error append : Text) (errorValue : ℤ) :
    (conn.setError error append errorValue).isOpen = conn.isOpen := by
  unfold TDBSQLite.setError TDBConnection.setError
  cases conn.lastError <;> rfl

@[simp] theorem removeQuery_log (conn : TDBSQLite) (id : ℕ) :
    (conn.removeQuery id).log = conn.log := by
  unfold TDBSQLite.removeQuery
  split <;> rfl

@[simp] theorem removeQuery_connection (conn : TDBSQLite) (id : ℕ) :
    (conn.removeQuery id).toTDBConnection = conn.toTDBConnection := by
  unfold TDBSQLite.removeQuery
  split <;> rfl

@[simp] theorem addQuery_log (conn : TDBSQLite) (id : ℕ) :
    (conn.addQuery id).log = conn.log := by
  unfold TDBSQLite.addQuery
  split
  · rfl
  · split <;> rfl

@[simp] theorem addQuery_connection (conn : TDBSQLite) (id : ℕ) :
    (conn.addQuery id).toTDBConnection = conn.toTDBConnection := by
  unfold TDBSQLite.addQuery
  split
  · rfl
  · split <;> rfl

/-! ### Resetting and freeing -/

theorem resetHandle_eq (s : Session) :
    ∃ calls, Idle calls ∧ (resetHandle e s).1 = ({ s.1 with log := s.1.log ++ calls },
      { s.2 with stmtHandle := s.2.stmtHandle.map Statement.rewind }) := by
  obtain ⟨calls, hlog, hidle⟩ := resetStatement_log e s.1.log s.2.stmtHandle
  refine ⟨calls, hidle, ?_⟩
  rw [resetHandle, hlog, resetStatement_statement]

theorem free_eq (s : Session) :
    ∃ calls, Idle calls ∧ (free s).1.log = s.1.log ++ calls ∧
      (free s).1.toTDBConnection = s.1.toTDBConnection ∧
      (free s).2 = { s.2 with stmtHandle := none } := by
  obtain ⟨calls, hlog, hidle⟩ := finalize_log s.1.log s.2.stmtHandle
  refine ⟨calls, hidle, ?_, removeQuery_connection s.1 s.2.id, rfl⟩
  rw [← hlog, ← removeQuery_log s.1 s.2.id]
  rfl

/-! ### Fetching -/

section Frames

variable (rs : TSQLiteResultSet) (row : Row)

@[simp] theorem beginFetch_stmtHandle : (beginFetch rs).stmtHandle = rs.stmtHandle := by
  unfold beginFetch
  split_ifs <;> rfl

@[simp] theorem beginFetch_base :
    (beginFetch rs).toTQueryResultSet = rs.toTQueryResultSet := by
  unfold beginFetch
  split_ifs <;> rfl

@[simp] theorem beginFetch_id : (beginFetch rs).id = rs.id := by
  unfold beginFetch
  split_ifs <;> rfl

@[simp] theorem ensureRecord_stmtHandle : (ensureRecord rs).stmtHandle = rs.stmtHandle := by
  unfold ensureRecord
  split_ifs <;> rfl

@[simp] theorem ensureRecord_id : (ensureRecord rs).id = rs.id := by
  unfold ensureRecord
  split_ifs <;> rfl

@[simp] theorem ensureRecord_index : (ensureRecord rs).index = rs.index := by
  unfold ensureRecord
  split_ifs <;> rfl

@[simp] theorem ensureRecord_initialFetch :
    (ensureRecord rs).initialFetch = rs.initialFetch := by
  unfold ensureRecord
  split_ifs <;> rfl

@[simp] theorem ensureRecord_fakeFirstRowFetch :
    (ensureRecord rs).fakeFirstRowFetch = rs.fakeFirstRowFetch := by
  unfold ensureRecord
  split_ifs <;> rfl

@[simp] theorem ensureRecord_isActive : (ensureRecord rs).isActive = rs.isActive := by
  unfold ensureRecord
  split_ifs <;> rfl

theorem with_stmtHandle {rs : TSQLiteResultSet} {stmtHandle : Option Statement}
    (h : rs.stmtHandle = stmtHandle) : { rs with stmtHandle := stmtHandle } = rs := by
  subst h
  rfl

theorem storeEnd_stmtHandle : (storeEnd rs).stmtHandle = rs.stmtHandle :=
  ensureRecord_stmtHandle rs

theorem storeRow_stmtHandle : (storeRow rs row).stmtHandle = rs.stmtHandle :=
  ensureRecord_stmtHandle rs

end Frames

theorem nextRow_fake {s : Session} (hfake : s.2.fakeFirstRowFetch = true) :
    nextRow e s = (true, s.1, { s.2 with fakeFirstRowFetch := false }) := by
  rw [nextRow, if_pos hfake]

/-- The log and result set after a fetch that steps the statement. -/
def stepped (s : Session) : Session :=
  let r := stepStatement e s.1.log (beginFetch s.2).stmtHandle
  ({ s.1 with log := r.1 }, { beginFetch s.2 with stmtHandle := r.2.1 })

theorem nextRow_stepped {s : Session} (hfake : s.2.fakeFirstRowFetch = false) :
    nextRow e s = match (stepStatement e s.1.log (beginFetch s.2).stmtHandle).2.2 with
      | .row row => (true, (stepped e s).1, storeRow (stepped e s).2 row)
      | .done => (false, (resetHandle e ((stepped e s).1, storeEnd (stepped e s).2)).1)
      | .failed code =>
        (false, (resetHandle e (stepped e s)).1.1.setError
          (message e (resetHandle e (stepped e s)).1.1) [] code.code,
          (resetHandle e (stepped e s)).1.2) := by
  have hneg : ¬ s.2.fakeFirstRowFetch = true := by simp [hfake]
  rw [nextRow, if_neg hneg]
  rfl

section

variable {e} {s : Session} {stmt : Statement}

theorem nextRow_row (hfake : s.2.fakeFirstRowFetch = false) (hstmt : s.2.stmtHandle = some stmt)
    {row : Row} {rest : List Row} (hrows : (stmt.run e s.1.log).rows = row :: rest) :
    nextRow e s = (true,
      { s.1 with log := s.1.log ++ [⟨some stmt.handle, .step (stmt.started e s.1.log), none⟩] },
      storeRow { beginFetch s.2 with
        stmtHandle := some { stmt with running := some ⟨rest, (stmt.run e s.1.log).failure⟩ } }
        row) := by
  rw [nextRow_stepped e hfake, beginFetch_stmtHandle, hstmt, stepStatement_row hrows]
  simp only [stepped, beginFetch_stmtHandle, hstmt, stepStatement_row hrows]

theorem nextRow_done (hfake : s.2.fakeFirstRowFetch = false) (hstmt : s.2.stmtHandle = some stmt)
    (hrows : (stmt.run e s.1.log).rows = []) (hrun : (stmt.run e s.1.log).failure = none) :
    ∃ calls, Idle calls ∧ nextRow e s = (false,
      { s.1 with log := s.1.log ++
          ⟨some stmt.handle, .step (stmt.started e s.1.log), none⟩ :: calls },
      storeEnd { beginFetch s.2 with stmtHandle := some stmt.rewind }) := by
  rw [nextRow_stepped e hfake, beginFetch_stmtHandle, hstmt, stepStatement_done hrows hrun]
  simp only [stepped, beginFetch_stmtHandle, hstmt, stepStatement_done hrows hrun]
  obtain ⟨calls, hidle, heq⟩ := resetHandle_eq e
    ({ s.1 with log := s.1.log ++ [⟨some stmt.handle, .step (stmt.started e s.1.log), none⟩] },
      storeEnd { beginFetch s.2 with stmtHandle := some stmt.rewind })
  refine ⟨calls, hidle, ?_⟩
  rw [heq, storeEnd_stmtHandle, List.append_assoc]
  congr 2
  exact with_stmtHandle (storeEnd_stmtHandle _)

theorem nextRow_failed (hfake : s.2.fakeFirstRowFetch = false) (hstmt : s.2.stmtHandle = some stmt)
    {code : ErrorCode} (hrows : (stmt.run e s.1.log).rows = [])
    (hrun : (stmt.run e s.1.log).failure = some code) :
    ∃ calls conn, Idle calls ∧ conn.log = s.1.log ++
        ⟨some stmt.handle, .step (stmt.started e s.1.log), some code⟩ :: calls ∧
      (conn.hasError = true ↔ s.1.Shows (e.message conn.log)) ∧
      nextRow e s = (false, conn, { beginFetch s.2 with stmtHandle := some stmt.rewind }) := by
  rw [nextRow_stepped e hfake, beginFetch_stmtHandle, hstmt, stepStatement_failed hrows hrun]
  simp only [stepped, beginFetch_stmtHandle, hstmt, stepStatement_failed hrows hrun]
  obtain ⟨calls, hidle, heq⟩ := resetHandle_eq e
    ({ s.1 with log := s.1.log ++
        [⟨some stmt.handle, .step (stmt.started e s.1.log), some code⟩] },
      { beginFetch s.2 with stmtHandle := some stmt.rewind })
  rw [heq]
  refine ⟨calls, _, hidle, ?_, ?_, rfl⟩
  · rw [setError_log, List.append_assoc]
    rfl
  · rw [setError_log]
    exact TDBConnection.hasError_setError_iff s.1.toTDBConnection code.failed.1

theorem nextRow_null (hfake : s.2.fakeFirstRowFetch = false) (hstmt : s.2.stmtHandle = none) :
    ∃ conn, conn.log = s.1.log ++ [⟨none, .step none, some .misuse⟩] ∧
      (conn.hasError = true ↔ s.1.Shows (e.message conn.log)) ∧
      nextRow e s = (false, conn, beginFetch s.2) := by
  rw [nextRow_stepped e hfake, beginFetch_stmtHandle, hstmt]
  simp only [stepped, beginFetch_stmtHandle, hstmt, stepStatement, resetHandle, resetStatement]
  have hrs : { beginFetch s.2 with stmtHandle := none } = beginFetch s.2 :=
    with_stmtHandle (by rw [beginFetch_stmtHandle, hstmt])
  rw [hrs]
  refine ⟨_, ?_, ?_, rfl⟩
  · rw [setError_log]
  · rw [setError_log]
    exact TDBConnection.hasError_setError_iff s.1.toTDBConnection ErrorCode.misuse.failed.1

end

/-! ### Executing -/

/-- The result set as execution starts with it. -/
def rewound (rs : TSQLiteResultSet) : TSQLiteResultSet :=
  { rs with fakeFirstRowFetch := false, stmtHandle := rs.stmtHandle.map Statement.rewind }

theorem rewound_rewind (rs : TSQLiteResultSet) :
    (rewound rs).stmtHandle.map Statement.rewind = (rewound rs).stmtHandle := by
  cases h : rs.stmtHandle <;> simp [rewound, h, Statement.rewind]

theorem bindParameters_log (stmtHandle : Option Statement) (i : ℕ) (log : List Call)
    (values : List (Option TDBType)) :
    ∃ calls, (bindParameters e conv stmtHandle i log values).1 = log ++ calls ∧ NoStep calls ∧
      ((bindParameters e conv stmtHandle i log values).2 = none ↔
        ∀ c ∈ calls, c.failed = false) := by
  induction values generalizing i log with
  | nil => exact ⟨[], (List.append_nil log).symm, Idle.nil.noStep, by simp [bindParameters]⟩
  | cons value values ih =>
    cases hparameter : parameterOf conv value with
    | none =>
      simp only [bindParameters, hparameter]
      exact ih (i + 1) log
    | some parameter =>
      obtain ⟨c, hlog, hstep, hfailed⟩ := bindStatement_log e log (i + 1) parameter stmtHandle
      simp only [bindParameters, hparameter]
      cases hres : (bindStatement e log (i + 1) parameter stmtHandle).2 with
      | none =>
        obtain ⟨calls, hcalls, hno, hok⟩ := ih (i + 1)
          (bindStatement e log (i + 1) parameter stmtHandle).1
        refine ⟨c :: calls, ?_, ?_, ?_⟩
        · rw [hcalls, hlog]
          simp
        · exact List.forall_mem_cons.mpr ⟨hstep, hno⟩
        · rw [hok, List.forall_mem_cons]
          exact (and_iff_right (hfailed.mpr hres)).symm
      | some code =>
        have hc : c.failed ≠ false := fun h => by simp [hfailed.mp h] at hres
        exact ⟨[c], hlog, by simpa [NoStep] using hstep, by simpa using hc⟩

/-- Execution ends before any step and frees the statement, or binds every parameter and
fetches ahead. -/
theorem execute_cases (s : Session) :
    (∃ t calls, execute e conv s = (false, free t) ∧ t.2 = rewound s.2 ∧
      t.1.log = s.1.log ++ calls ∧ NoStep calls ∧ t.1.isOpen = s.1.isOpen) ∨
    ∃ resets calls, Idle resets ∧
      (∀ handle index,
        parameter (s.1.log ++ resets) handle index = parameter s.1.log handle index) ∧
      parameterCount s.2.stmtHandle = s.2.bindCount ∧
      bindParameters e conv (s.2.stmtHandle.map Statement.rewind) 0 (s.1.log ++ resets)
        (s.2.boundValues.take s.2.bindCount) = (s.1.log ++ resets ++ calls, none) ∧
      execute e conv s =
        prefetch e ({ s.1 with log := s.1.log ++ resets ++ calls }, rewound s.2) := by
  obtain ⟨resets, hidle, heq⟩ := resetHandle_eq e (s.1, { s.2 with fakeFirstRowFetch := false })
  have hcount : parameterCount (s.2.stmtHandle.map Statement.rewind) =
      parameterCount s.2.stmtHandle := by
    cases s.2.stmtHandle <;> rfl
  have hparameter (handle index : ℕ) :
      parameter (s.1.log ++ resets) handle index = parameter s.1.log handle index := by
    rw [← resetStatement_parameter e s.1.log s.2.stmtHandle]
    exact congrArg (fun t : Session => parameter t.1.log handle index) heq.symm
  unfold execute
  simp only [heq]
  cases hreset : (resetHandle e (s.1, { s.2 with fakeFirstRowFetch := false })).2 with
  | some code =>
    exact .inl ⟨_, resets, rfl, rfl, setError_log .., hidle.noStep, setError_isOpen ..⟩
  | none =>
    dsimp only
    rw [hcount]
    by_cases hbind : parameterCount s.2.stmtHandle = s.2.bindCount
    · rw [if_pos hbind, hbind]
      obtain ⟨calls, hlog, hno, hok⟩ := bindParameters_log e conv
        (s.2.stmtHandle.map Statement.rewind) 0 (s.1.log ++ resets)
        (s.2.boundValues.take s.2.bindCount)
      cases hres : (bindParameters e conv (s.2.stmtHandle.map Statement.rewind) 0
          (s.1.log ++ resets) (s.2.boundValues.take s.2.bindCount)).2 with
      | none =>
        refine .inr ⟨resets, calls, hidle, hparameter, rfl, Prod.ext hlog hres, ?_⟩
        rw [hlog]
        rfl
      | some failure =>
        obtain ⟨i, code⟩ := failure
        dsimp only
        obtain ⟨resets', hidle', heq'⟩ := resetHandle_eq e
          ({ s.1 with log := (bindParameters e conv (s.2.stmtHandle.map Statement.rewind) 0
            (s.1.log ++ resets) (s.2.boundValues.take s.2.bindCount)).1 }, rewound s.2)
        refine .inl ⟨_, resets ++ calls ++ resets', rfl, ?_, ?_, ?_, ?_⟩
        · refine (congrArg Prod.snd heq').trans ?_
          exact with_stmtHandle (rewound_rewind s.2).symm
        · rw [setError_log]
          refine (congrArg (fun t => t.1.log) heq').trans ?_
          rw [hlog, List.append_assoc, List.append_assoc, List.append_assoc]
        · exact (hidle.noStep.append hno).append hidle'.noStep
        · rw [setError_isOpen]
          exact congrArg (fun t => t.1.isOpen) heq'
    · rw [if_neg hbind]
      exact .inl ⟨_, resets, rfl, rfl, setError_log .., hidle.noStep, setError_isOpen ..⟩

/-- A prefetch that succeeds is a fetch that has left no error. -/
theorem prefetch_true {t : Session} (h : (prefetch e t).1 = true) :
    (prefetch e t).2.1.log = (nextRow e t).2.1.log ∧
      (prefetch e t).2.2 = { (nextRow e t).2.2 with isActive := true } := by
  have herror : (nextRow e t).2.1.hasError = false := by
    unfold prefetch at h
    dsimp only at h
    rw [TDBConnection.isSet_error] at h
    by_contra hset
    rw [if_pos (by simpa using hset)] at h
    cases h
  unfold prefetch
  dsimp only
  rw [TDBConnection.isSet_error, herror]
  exact ⟨rfl, rfl⟩

/-- An execution that is reported as a success and whose step did not fail ran the statement to
its first row, or to the end of a run without rows. -/
theorem execute_true {s : Session} (h : (execute e conv s).1 = true)
    (hok : ∀ calls, (execute e conv s).2.1.log = s.1.log ++ calls → ¬ StepFailed calls) :
    ∃ stmt calls, s.2.stmtHandle = some stmt ∧ NoStep calls ∧
      ((∃ row rest failure, e.run (s.1.log ++ calls) stmt.handle = ⟨row :: rest, failure⟩ ∧
        (execute e conv s).2.1.log = s.1.log ++ calls ++
          [⟨some stmt.handle, .step (some ⟨row :: rest, failure⟩), none⟩] ∧
        (execute e conv s).2.2 = { storeRow { beginFetch (rewound s.2) with
            stmtHandle := some { stmt with running := some ⟨rest, failure⟩ } } row with
          isActive := true }) ∨
      ∃ idle, Idle idle ∧ e.run (s.1.log ++ calls) stmt.handle = ⟨[], none⟩ ∧
        (execute e conv s).2.1.log = s.1.log ++ calls ++
          ⟨some stmt.handle, .step (some ⟨[], none⟩), none⟩ :: idle ∧
        (execute e conv s).2.2 = { storeEnd { beginFetch (rewound s.2) with
            stmtHandle := some stmt.rewind } with isActive := true }) := by
  rcases execute_cases e conv s with ⟨t, calls, heq, -⟩ | ⟨resets, calls, hidle, -, -, hbind, heq⟩
  · rw [heq] at h
    cases h
  rw [heq] at h hok ⊢
  set t : Session := ({ s.1 with log := s.1.log ++ resets ++ calls }, rewound s.2) with ht
  have hno : NoStep (resets ++ calls) := by
    obtain ⟨bound, hlog, hno, -⟩ := bindParameters_log e conv
      (s.2.stmtHandle.map Statement.rewind) 0 (s.1.log ++ resets) (s.2.boundValues.take s.2.bindCount)
    rw [hbind] at hlog
    obtain rfl : calls = bound := List.append_cancel_left hlog
    exact hidle.noStep.append hno
  have hprefetch := prefetch_true e h
  have hlog : t.1.log = s.1.log ++ (resets ++ calls) := List.append_assoc ..
  rw [hprefetch.1] at hok
  have hunfailed {calls' : List Call} (hlog' : (nextRow e t).2.1.log = t.1.log ++ calls') :
      ¬ StepFailed calls' := by
    rw [← hno.stepFailed_append]
    exact hok _ (by rw [hlog', hlog, List.append_assoc])
  rw [hprefetch.1, hprefetch.2]
  cases hstmt : s.2.stmtHandle with
  | none =>
    obtain ⟨conn, hlog', -, hnull⟩ := nextRow_null (e := e) (s := t) rfl
      (by simp [ht, rewound, hstmt])
    exact absurd ((Idle.nil.stepFailed_cons rfl).mpr rfl) (hunfailed (by rw [hnull, hlog']))
  | some stmt =>
    have hrewound : t.2.stmtHandle = some stmt.rewind := by simp [ht, rewound, hstmt]
    have hrun : stmt.rewind.run e t.1.log = e.run (s.1.log ++ (resets ++ calls)) stmt.handle := by
      rw [← hlog]
      rfl
    have hstarted : stmt.rewind.started e t.1.log = some (stmt.rewind.run e t.1.log) := rfl
    refine ⟨stmt, resets ++ calls, rfl, hno, ?_⟩
    cases hrows : (stmt.rewind.run e t.1.log).rows with
    | cons row rest =>
      rw [nextRow_row (s := t) rfl hrewound hrows, hstarted]
      rw [hrun] at hrows ⊢
      have hmk := Run.eq_mk hrows rfl
      refine .inl ⟨row, rest, _, hmk, ?_, rfl⟩
      change t.1.log ++ [⟨some stmt.handle, .step (some (e.run _ stmt.handle)), none⟩] = _
      rw [hlog, ← hmk]
    | nil =>
      cases hfailure : (stmt.rewind.run e t.1.log).failure with
      | none =>
        obtain ⟨idle, hidle', hdone⟩ := nextRow_done (s := t) rfl hrewound hrows hfailure
        rw [hdone, hstarted]
        rw [hrun] at hrows hfailure ⊢
        have hmk := Run.eq_mk hrows hfailure
        refine .inr ⟨idle, hidle', hmk, ?_, rfl⟩
        change t.1.log ++ ⟨some stmt.handle, .step (some (e.run _ stmt.handle)), none⟩ :: idle = _
        rw [hlog, ← hmk]
      | some code =>
        obtain ⟨idle, conn, hidle', hlog', -, hfailed⟩ :=
          nextRow_failed (s := t) rfl hrewound hrows hfailure
        exact absurd ((hidle'.stepFailed_cons rfl).mpr rfl) (hunfailed (by rw [hfailed, hlog']))

/-! ### Preparing -/

/-- The result set that `cleanup` leaves. -/
def cleaned (rs : TSQLiteResultSet) : TSQLiteResultSet :=
  { rs with
    toTQueryResultSet :=
      { rs.toTQueryResultSet with index := SQL_BeforeFirstRow }.clearBindValues
    initialFetch := true
    stmtHandle := none }

theorem cleanup_eq (s : Session) :
    ∃ calls, Idle calls ∧ (cleanup s).1.log = s.1.log ++ calls ∧
      (cleanup s).1.toTDBConnection = s.1.toTDBConnection ∧ (cleanup s).2 = cleaned s.2 :=
  free_eq _

/-- Preparing closes what was open before and makes one native call, whose failure is
stored as an error. -/
theorem prepare_cases (sql : Text) {s : Session} (hopen : s.1.isOpen = true) :
    ∃ calls c query, Idle calls ∧ c.isStep = false ∧
      ((∃ conn stmtHandle, prepare e sql s =
          (true, conn, { cleaned s.2 with query := query, stmtHandle := stmtHandle }) ∧
        c.failed = false ∧ conn.log = s.1.log ++ (calls ++ [c]) ∧
        conn.toTDBConnection = s.1.toTDBConnection ∧ stmtHandle.all (·.running.isNone) = true) ∨
      ∃ conn, prepare e sql s = (false, conn, { cleaned s.2 with query := query }) ∧
        c.failed = true ∧ conn.log = s.1.log ++ (calls ++ [c]) ∧ conn.hasError = true) := by
  obtain ⟨calls, hidle, hlog, hconn, hrs⟩ := cleanup_eq s
  have hneg : ¬ ¬ s.1.isOpen = true := by simpa using hopen
  unfold prepare
  simp only [if_neg hneg, hrs]
  generalize (if (cleaned s.2).query = [] then sql else (cleaned s.2).query) = query
  obtain ⟨c, hc, hstep, hfailed⟩ := prepareStatement_log e
    ((cleanup s).1.addQuery (cleaned s.2).id).log query
  refine ⟨calls, c, query, hidle, hstep, ?_⟩
  have hlog' : (prepareStatement e ((cleanup s).1.addQuery (cleaned s.2).id).log query).1 =
      s.1.log ++ (calls ++ [c]) := by
    rw [hc, addQuery_log, hlog, List.append_assoc]
  cases hres : (prepareStatement e ((cleanup s).1.addQuery (cleaned s.2).id).log query).2 with
  | error code =>
    have hfail : c.failed = true := by
      by_contra h
      obtain ⟨stmtHandle, hok⟩ := hfailed.mp (by simpa using h)
      rw [hres] at hok
      cases hok
    refine .inr ⟨_, rfl, hfail, ?_, ?_⟩
    · exact (removeQuery_log _ _).trans hlog'
    · change TDBConnection.hasError (TDBSQLite.removeQuery _ _).toTDBConnection = true
      rw [removeQuery_connection]
      exact TDBConnection.hasError_setError _ (by decide) _ _ _
  | ok stmtHandle =>
    refine .inl ⟨_, stmtHandle, rfl, hfailed.mpr ⟨stmtHandle, hres⟩, hlog', ?_, ?_⟩
    · exact (addQuery_connection _ _).trans hconn
    · unfold prepareStatement at hres
      split at hres
      · cases hres
      · cases hres
        rfl
      · cases hres
        rfl

end DatabaseMod.SqliteSteps
