import DatabaseMod.OrmSqliteQueries
import DatabaseMod.SqlDatabase
import DatabaseMod.SqliteParameters

/-!
# Outcomes of issued statements on SQLite

An issued statement is prepared, bound and executed once. If its run starts, its parameters
are the bound values, and the report is that of the run.
-/

namespace DatabaseMod.SqliteOutcomes
open SqlTokens (Text)
open CoreValues CoreResultSet CoreQuery SqlEngine SqlDatabase SqliteDriver SqliteSteps
open SqliteInvariant SqliteCursor SqliteRounds SqliteParameters TSQLiteResultSet
open OrmModel OrmStatements OrmOperations OrmSqliteRoundTrip OrmSqliteQueries
open StoppingPrograms StoppingPrograms.Program

variable (e : Engine) (conv : Conversions)

/-! ### Executing -/

/-- One run of the statement between these logs, with parameters for the values. -/
structure Running (values : List (Option TDBType)) (handle : ℕ) (log before after log' : List Call)
    (result : Option ErrorCode) : Prop where
  quiet : Unstepped before
  idle : Unstepped after
  log_eq : log' = log ++ before ++ stepCall e (log ++ before) handle result :: after
  bound : ∀ i v p, values[i]? = some v → parameterOf conv v = some p →
    params (log ++ before) handle (i + 1) = p
  kept : params log' = params (log ++ before)

variable {e conv} in
theorem Running.append {values : List (Option TDBType)} {handle : ℕ}
    {log before after log' calls : List Call} {result : Option ErrorCode}
    (h : Running e conv values handle log before after log' result) (hcalls : Unstepped calls)
    (hparams : params (log' ++ calls) = params log') :
    Running e conv values handle log before (after ++ calls) (log' ++ calls) result where
  quiet := h.quiet
  idle := h.idle.append hcalls
  log_eq := by rw [h.log_eq, List.append_assoc, List.cons_append]
  bound := h.bound
  kept := hparams.trans h.kept

/-- Freeing leaves the parameters. -/
theorem free_log (s : Session) : ∃ calls, Unstepped calls ∧ (free s).1.log = s.1.log ++ calls ∧
    params (s.1.log ++ calls) = params s.1.log := by
  obtain ⟨calls, hlog, hidle⟩ := finalize_log s.1.log s.2.stmtHandle
  refine ⟨calls, unstepped_of_noStep hidle.noStep, ?_, ?_⟩
  · rw [← hlog, ← removeQuery_log s.1 s.2.id]
    rfl
  · funext handle index
    rw [params, params, ← hlog, finalize_parameter]

theorem parameter_step {c : Call} (hc : c.isStep = true) (log : List Call) (handle index : ℕ) :
    parameter (log ++ [c]) handle index = parameter log handle index := by
  obtain ⟨_, action, result⟩ := c
  rw [parameter_append]
  cases action with
  | step started => cases result <;> rfl
  | _ => cases hc

/-- Fetching leaves the parameters. -/
theorem nextRow_parameter (s : Session) (handle index : ℕ) :
    parameter (nextRow e s).2.1.log handle index = parameter s.1.log handle index := by
  by_cases hfake : s.2.fakeFirstRowFetch = true
  · rw [nextRow_fake e hfake]
  · have hfake : s.2.fakeFirstRowFetch = false := by simpa using hfake
    obtain ⟨c, hlog, hstep, -⟩ := stepStatement_log e s.1.log (beginFetch s.2).stmtHandle
    have hstepped : parameter (stepped e s).1.log handle index =
        parameter s.1.log handle index := by
      change parameter (stepStatement e s.1.log (beginFetch s.2).stmtHandle).1 handle index = _
      rw [hlog, parameter_step hstep]
    rw [nextRow_stepped e hfake, ← hstepped]
    split
    · rfl
    · exact resetStatement_parameter e _ _ handle index
    · rw [setError_log]
      exact resetStatement_parameter e _ _ handle index

theorem prefetch_log (s : Session) : (prefetch e s).2.1.log = (nextRow e s).2.1.log := by
  unfold prefetch
  dsimp only
  split_ifs <;> rfl

theorem prefetch_report (htold : ∀ log, e.message log ≠ []) {s : Session}
    (herror : s.1.hasError = false)
    (hfake : s.2.fakeFirstRowFetch = false) {stmt : Statement}
    (hstmt : s.2.stmtHandle = some stmt) (hrewound : stmt.running = none) :
    ∃ result after, Idle after ∧
      (prefetch e s).2.1.log = s.1.log ++ stepCall e s.1.log stmt.handle result :: after ∧
      ((prefetch e s).1 = true ↔ Begins (e.run s.1.log stmt.handle)) := by
  have hrun : stmt.run e s.1.log = e.run s.1.log stmt.handle := by
    rw [Statement.run, hrewound]
    rfl
  have hstarted : stmt.started e s.1.log = some (e.run s.1.log stmt.handle) := by
    rw [Statement.started, hrewound, hrun]
    rfl
  have hprefetch : (prefetch e s).2.1.log = (nextRow e s).2.1.log ∧
      ((prefetch e s).1 = true ↔ (nextRow e s).2.1.hasError = false) := by
    unfold prefetch
    dsimp only
    rw [TDBConnection.isSet_error]
    split_ifs with hset <;> simp [hset]
  rw [hprefetch.1, hprefetch.2, Begins, ← hrun]
  cases hrows : (stmt.run e s.1.log).rows with
  | cons row rest =>
    refine ⟨none, [], .nil, ?_, ?_⟩
    · rw [nextRow_row hfake hstmt hrows, hstarted]
      rfl
    · rw [nextRow_row hfake hstmt hrows]
      exact iff_of_true herror (.inl (List.cons_ne_nil row rest))
  | nil =>
    cases hfailure : (stmt.run e s.1.log).failure with
    | none =>
      obtain ⟨after, hidle, hdone⟩ := nextRow_done hfake hstmt hrows hfailure
      refine ⟨none, after, hidle, ?_, ?_⟩
      · rw [hdone, hstarted]
        rfl
      · rw [hdone]
        exact iff_of_true herror (.inr rfl)
    | some code =>
      obtain ⟨after, conn, hidle, hlog, hset, hfailed⟩ := nextRow_failed hfake hstmt hrows hfailure
      have hset : conn.hasError = true := hset.mpr (.inl (htold _))
      refine ⟨some code, after, hidle, ?_, ?_⟩
      · rw [hfailed]
        exact hlog.trans (by rw [hstarted]; rfl)
      · rw [hfailed]
        refine iff_of_false (by simp [hset]) ?_
        simp

/-- An execution starts no run and fails, or it runs the statement once and reports how. -/
theorem execute_outcome (htold : ∀ log, e.message log ≠ []) {s : Session}
    (herror : s.1.hasError = false) :
    (∃ calls, Unstepped calls ∧ (execute e conv s).1 = false ∧
      (execute e conv s).2.1.log = s.1.log ++ calls) ∨
    ∃ stmt before after result, s.2.stmtHandle = some stmt ∧
      Running e conv (s.2.boundValues.take s.2.bindCount) stmt.handle s.1.log before after
        (execute e conv s).2.1.log result ∧
      ((execute e conv s).1 = true ↔ Begins (e.run (s.1.log ++ before) stmt.handle)) := by
  rcases execute_cases e conv s with ⟨t, calls, heq, -, hlog, hno, -⟩ |
    ⟨resets, calls, hidle, -, -, hbind, heq⟩
  · obtain ⟨freed, hfreed, hfreedLog, -⟩ := free_eq t
    refine .inl ⟨calls ++ freed, unstepped_of_noStep (hno.append hfreed.noStep), by rw [heq], ?_⟩
    rw [heq, hfreedLog, hlog, List.append_assoc]
  obtain ⟨bound, hbound, hno, -⟩ := bindParameters_log e conv
    (s.2.stmtHandle.map Statement.rewind) 0 (s.1.log ++ resets) (s.2.boundValues.take s.2.bindCount)
  rw [hbind] at hbound
  obtain rfl : calls = bound := List.append_cancel_left hbound
  set t : Session := ({ s.1 with log := s.1.log ++ resets ++ calls }, rewound s.2) with ht
  have hquiet : Unstepped (resets ++ calls) := unstepped_of_noStep (hidle.noStep.append hno)
  have hlog : t.1.log = s.1.log ++ (resets ++ calls) := List.append_assoc ..
  cases hstmt : s.2.stmtHandle with
  | none =>
    obtain ⟨conn, hconn, hset, hnull⟩ :=
      nextRow_null (e := e) (s := t) rfl (by simp [ht, rewound, hstmt])
    have hset : conn.hasError = true := hset.mpr (.inl (htold _))
    refine .inl ⟨resets ++ calls ++ [⟨none, .step none, some .misuse⟩], ?_, ?_, ?_⟩
    · apply hquiet.append
      intro c hc _
      rw [List.mem_singleton.mp hc]
      exact ⟨rfl, rfl⟩
    · rw [heq]
      unfold prefetch
      dsimp only
      rw [TDBConnection.isSet_error, hnull, if_pos hset]
    · rw [heq]
      unfold prefetch
      dsimp only
      rw [hnull]
      split_ifs <;> exact hconn.trans (by rw [hlog, List.append_assoc])
  | some stmt =>
    have hrewound : t.2.stmtHandle = some stmt.rewind := by simp [ht, rewound, hstmt]
    obtain ⟨result, after, hafter, hprefetch, hreport⟩ :=
      prefetch_report e htold (s := t) herror rfl hrewound rfl
    refine .inr ⟨stmt, resets ++ calls, after, result, rfl, ⟨hquiet, unstepped_of_noStep hafter.noStep,
      ?_, ?_, ?_⟩, ?_⟩
    · rw [heq, hprefetch, hlog]
      rfl
    · intro i v p hv hp
      obtain ⟨hi, rfl⟩ := List.getElem?_eq_some_iff.mp hv
      have hbind : bindParameters e conv (some stmt.rewind) 0 (s.1.log ++ resets)
          (s.2.boundValues.take s.2.bindCount) = (s.1.log ++ resets ++ calls, none) := by
        rw [hstmt] at hbind
        exact hbind
      have hat := bindParameters_at e conv hbind hi
      rw [hp, Nat.zero_add] at hat
      rw [params, ← List.append_assoc]
      exact congrArg (fun q => Option.getD q SqlValue.null) hat
    · funext handle index
      rw [params, params, heq, prefetch_log, nextRow_parameter, hlog]
    · rw [heq, hreport, hlog]
      rfl

/-! ### Preparing -/

/-- The statement that a query has was prepared from its text. -/
theorem prepare_statement {sql : Text} {s : Session} (h : (prepare e sql s).1 = true)
    (stmt : Statement) (hstmt : (prepare e sql s).2.2.stmtHandle = some stmt) :
    ∃ log, Prepared (prepare e sql s).2.1.log stmt.handle
        (if s.2.query = [] then sql else s.2.query) ∧
      e.prepare log (if s.2.query = [] then sql else s.2.query) = .ok (some stmt.description) := by
  have hopen : s.1.isOpen = true := by
    by_contra hclosed
    rw [prepare, if_pos hclosed] at h
    cases h
  have hquery : (cleanup s).2.query = s.2.query := by
    obtain ⟨-, -, -, -, hcleaned⟩ := cleanup_eq s
    rw [hcleaned]
    rfl
  unfold prepare at h hstmt ⊢
  rw [if_neg (not_not.mpr hopen)] at h hstmt ⊢
  dsimp only at h hstmt ⊢
  rw [hquery] at h hstmt ⊢
  generalize (if s.2.query = [] then sql else s.2.query) = q at h hstmt ⊢
  generalize ((cleanup s).1.addQuery (cleanup s).2.id).log = log at h hstmt ⊢
  unfold prepareStatement at h hstmt ⊢
  cases hprepare : e.prepare log q with
  | error code =>
    rw [hprepare] at h
    cases h
  | ok d =>
    rw [hprepare] at h hstmt
    cases d with
    | none => cases hstmt
    | some d =>
      cases hstmt
      refine ⟨log, ?_, hprepare⟩
      simp [Prepared]

/-! ### The first row -/

/-- The first fetch finds the first row of the run; without one the statement is run again. -/
structure Readable (stmt : Statement) (run : Run) (s : Session) : Prop where
  row : ∀ row ∈ run.rows.head?, ((driver e conv).fetch s).1 = true ∧
    (∀ i < (columns (some stmt)).length,
      ReadsAs (((driver e conv).fetch s).2.2.value i) (cell row i)) ∧
    ((driver e conv).fetch s).2.1 = s.1
  ended : run.rows = [] → (e.run s.1.log stmt.handle).rows = [] →
    ((driver e conv).fetch s).1 = false ∧ ∃ result after, Unstepped after ∧
      ((driver e conv).fetch s).2.1.log =
        s.1.log ++ stepCall e s.1.log stmt.handle result :: after

theorem nextRow_ended {s : Session} {stmt : Statement} (hfake : s.2.fakeFirstRowFetch = false)
    (hstmt : s.2.stmtHandle = some stmt.rewind) (hrows : (e.run s.1.log stmt.handle).rows = []) :
    ∃ result after, Unstepped after ∧ (nextRow e s).1 = false ∧
      (nextRow e s).2.1.log = s.1.log ++ stepCall e s.1.log stmt.handle result :: after := by
  have hrun : stmt.rewind.run e s.1.log = e.run s.1.log stmt.handle := rfl
  cases hfailure : (e.run s.1.log stmt.handle).failure with
  | none =>
    obtain ⟨after, hidle, hdone⟩ := nextRow_done hfake hstmt (hrun ▸ hrows) (hrun ▸ hfailure)
    exact ⟨none, after, unstepped_of_noStep hidle.noStep, by rw [hdone], by rw [hdone]; rfl⟩
  | some code =>
    obtain ⟨after, conn, hidle, hlog, -, hfailed⟩ :=
      nextRow_failed hfake hstmt (hrun ▸ hrows) (hrun ▸ hfailure)
    refine ⟨some code, after, unstepped_of_noStep hidle.noStep, by rw [hfailed], ?_⟩
    rw [hfailed]
    exact hlog

theorem fetch_ended {s : Session} (h : Open s.2) {stmt : Statement}
    (hfake : s.2.fakeFirstRowFetch = false) (hstmt : s.2.stmtHandle = some stmt.rewind)
    (hrows : (e.run s.1.log stmt.handle).rows = []) :
    ((driver e conv).fetch s).1 = false ∧ ∃ result after, Unstepped after ∧
      ((driver e conv).fetch s).2.1.log =
        s.1.log ++ stepCall e s.1.log stmt.handle result :: after := by
  obtain ⟨result, after, hafter, hnext, hlog⟩ := nextRow_ended e hfake hstmt hrows
  rw [fetch_eq e conv h.toReady h.isActive_eq]
  split_ifs with hfirst
  · exact ⟨hnext, result, after, hafter, hlog⟩
  · obtain ⟨calls, hidle, hreset⟩ := reset_eq e (nextRow e s).2
    refine ⟨rfl, result, after ++ calls, ?_, ?_⟩
    · exact hafter.append (unstepped_of_noStep hidle.noStep)
    · rw [hreset]
      change (nextRow e s).2.1.log ++ calls = _
      rw [hlog, List.append_assoc, List.cons_append]

/-- After a first execution. -/
theorem executed_readable {t s : Session} (h : Executed e conv t s) (hready : Ready t.2)
    (hfresh : Fresh t.2) {stmt : Statement} (hstmt : t.2.stmtHandle = some stmt) {run : Run}
    (hruns : startedRuns (SqliteVerdict.callsBetween t.1 s.1) = [run])
    (hpos : 0 < (columns (some stmt)).length) : Readable e conv stmt run s := by
  obtain ⟨hopen, -⟩ := h.opens e conv hready
  obtain ⟨calls, stmt', run', hlog, hstmt', hstarted, hcases⟩ := executed_run e conv h
  obtain rfl : stmt = stmt' := Option.some.inj (hstmt.symm.trans hstmt')
  obtain rfl : run' = run := by
    rw [callsBetween_eq hlog, hstarted] at hruns
    exact List.singleton_inj.mp hruns
  obtain ⟨conn, rs⟩ := s
  rcases hcases with ⟨hrows, hfake, hrewound⟩ | ⟨row, rest, hrows, heq⟩
  · constructor
    · intro row hrow
      rw [hrows] at hrow
      cases hrow
    · intro _ hagain
      exact fetch_ended e conv hopen hfake hrewound hagain
  · have hrs : rs = _ := heq
    subst hrs
    rw [← hstmt] at hpos
    obtain ⟨hcovers, hnone⟩ := ensureRecord_fresh hfresh hpos
    obtain ⟨hstream, hvalues, hrecord, hfake⟩ := streaming_stored hstmt hready hcovers hopen
    have hslots := slotsAfter_nil (columns t.2.stmtHandle).length
    rw [← hnone] at hslots
    have hfetch := fetch_eq e conv (s := (conn, _)) hopen.toReady rfl
    rw [nextRow_fake e (hfake.trans hfresh.initialFetch_eq), if_pos (Or.inr rfl)] at hfetch
    have hcolumns : columns (some stmt) =
        columns (storeRow (beforeStore t.2 stmt ⟨rest, run'.failure⟩) row).stmtHandle :=
      (congrArg columns (storeRow_stmtHandle (beforeStore t.2 stmt ⟨rest, run'.failure⟩) row)).symm
    constructor
    · intro row' hrow'
      obtain rfl : row = row' := by
        rw [hrows] at hrow'
        exact Option.some.inj hrow'
      rw [hfetch]
      refine ⟨rfl, fun i hi => ?_, rfl⟩
      have hlength := hready.ensureRecord.values_length hcovers.recorded
      obtain ⟨hold, hread⟩ := value_of_values hstream.isActive_eq hstream.toCovers
        (hlength.trans (congrArg TQueryRecord.count hrecord.symm)) hvalues (hcolumns ▸ hi)
      have hshown := (hslots i hold).readsAs row
      rw [shownCell_nil] at hshown
      exact hread ▸ hshown
    · intro hnil
      rw [hrows] at hnil
      cases hnil

/-! ### Issuing -/

theorem bound_added {base : TQueryResultSet} {vs : List (Option TDBType)} (h : base.Bound vs)
    (ws : List (Option TDBType)) :
    (ws.foldl TQueryResultSet.addBindValue base).Bound (vs ++ ws) := by
  induction ws generalizing base vs with
  | nil => rwa [List.append_nil]
  | cons w ws ih =>
    rw [List.append_cons]
    exact ih (h.addBindValue w)

section

variable {Slot : Type} (o : TOrm TDBSQLite TSQLiteResultSet Slot)

/-- Binding adds values with a property to the query, or it stops. -/
def BindsValues (P : List (Option TDBType) → Prop)
    (bind : TSQLiteResultSet → Operation TDBSQLite TSQLiteResultSet) : Prop :=
  ∀ query s, (bind query s).2 = s ∧ ∀ query', (bind query s).1 = .ok query' →
    ∃ ws, P ws ∧ query' = { query with
      toTQueryResultSet := ws.foldl TQueryResultSet.addBindValue query.toTQueryResultSet }

/-- A query that was prepared and not bound yet. -/
structure Awaits (sql : Text) (s : World TDBSQLite) (query : TSQLiteResultSet) : Prop where
  bound : query.Bound []
  ready : Ready query
  fresh : Fresh query
  noError : s.db.hasError = false
  prepared : ∀ stmt ∈ query.stmtHandle, Prepared s.db.log stmt.handle sql ∧
    ∃ log, e.prepare log sql = .ok (some stmt.description)

variable {e conv} in
theorem prepareStatement_true {sql : Text} {t : Session}
    (h : ((driver e conv).prepareStatement sql t).1 = true) :
    let r := prepare e sql ((driver e conv).setQuery (SqlTokens.trim sql) t)
    t.1.isOpen = true ∧ r.1 = true ∧ (driver e conv).prepareStatement sql t =
      (true, { r.2.1 with toTDBConnection := r.2.1.toTDBConnection.resetError }, r.2.2) := by
  unfold Driver.prepareStatement at h ⊢
  dsimp only at h ⊢
  split_ifs at h ⊢ with hblank hopen
  · cases h
  · unfold Driver.finish at h ⊢
    split_ifs at h ⊢ with hok
    · exact ⟨hopen, hok, rfl⟩
    · exact absurd h hok
  · cases h

variable {e} in
theorem prepare_bound {sql : Text} {s : Session} (hopen : s.1.isOpen = true) (h : s.2.Bound []) :
    (prepare e sql s).2.2.Bound [] := by
  have hcleaned : (cleaned s.2).Bound [] := by
    refine ⟨?_, ?_⟩
    · change s.2.boundValues.map _ = []
      rw [h.boundValues_eq, List.map_nil]
    · change (if s.2.boundValues = [] then s.2.bindCount else 0) = 0
      rw [if_pos h.boundValues_eq]
      exact h.bindCount_eq
  obtain ⟨calls, c, query, -, -, ⟨conn, stmtHandle, heq, -⟩ | ⟨conn, heq, -⟩⟩ :=
    prepare_cases e sql hopen
  · rw [heq]
    exact ⟨hcleaned.boundValues_eq, hcleaned.bindCount_eq⟩
  · rw [heq]
    exact ⟨hcleaned.boundValues_eq, hcleaned.bindCount_eq⟩

theorem prepareStatement_quiet (sql : Text) (t : Session) :
    ∃ calls, Unstepped calls ∧
      ((driver e conv).prepareStatement sql t).2.1.log = t.1.log ++ calls := by
  unfold Driver.prepareStatement
  dsimp only
  split_ifs with hblank hopen
  · exact ⟨[], .nil, (List.append_nil _).symm⟩
  · rw [Driver.finish_connection (f := TDBSQLite.log) _ (fun _ _ => rfl)]
    obtain ⟨calls, c, query, hidle, hstep, hcases⟩ := prepare_cases e sql
      (s := (driver e conv).setQuery (SqlTokens.trim sql) t) hopen
    refine ⟨calls ++ [c], ?_, ?_⟩
    · exact unstepped_of_noStep (hidle.noStep.append (by simpa [NoStep] using hstep))
    · obtain ⟨conn, stmtHandle, heq, -, hlog, -⟩ | ⟨conn, heq, -, hlog, -⟩ := hcases
      · exact (congrArg (fun r => r.2.1.log) heq).trans hlog
      · exact (congrArg (fun r => r.2.1.log) heq).trans hlog
  · exact ⟨[], .nil, (List.append_nil _).symm⟩

theorem prepareQuery_quiet (sql : Text) (s : World TDBSQLite) :
    ∃ calls, Unstepped calls ∧
      ((onSqlite o e).prepareQuery sql s).2.db.log = s.db.log ++ calls := by
  have hopened := SqliteVerdict.opened_eq e o.conv s.db none
  set t := (driver e o.conv).opened s.db none with ht
  obtain ⟨calls, hruns, hlog⟩ := prepareStatement_quiet e o.conv sql t
  rw [hopened.1] at hlog
  unfold TOrm.prepareQuery
  dsimp only [onSqlite]
  split_ifs
  · exact ⟨calls, hruns, hlog⟩
  · obtain ⟨freed, hfreed, hlog', -⟩ := free_log
      (((onSqlite o e).queryError ((driver e o.conv).prepareStatement sql t).2.1 sql none).2,
        ((driver e o.conv).prepareStatement sql t).2.2)
    refine ⟨calls ++ freed, hruns.append hfreed, ?_⟩
    rw [← List.append_assoc, ← hlog]
    exact hlog'

theorem prepareQuery_awaits {sql : Text} (htrim : SqlTokens.trim sql = sql)
    {s : World TDBSQLite} {query : TSQLiteResultSet}
    (hquery : ((onSqlite o e).prepareQuery sql s).1 = .ok query) :
    Awaits e sql ((onSqlite o e).prepareQuery sql s).2 query := by
  set t := (driver e o.conv).opened s.db none with ht
  obtain ⟨hready, hfresh, -⟩ := prepareQuery_fresh o e (Prod.ext hquery rfl)
  unfold TOrm.prepareQuery at hquery ⊢
  dsimp only [onSqlite] at hquery ⊢
  split_ifs at hquery ⊢ with hok
  cases hquery
  have hok : ((driver e o.conv).prepareStatement sql t).1 = true := hok
  obtain ⟨hopen, hprepared, heq⟩ := prepareStatement_true hok
  have hbound : (prepare e sql ((driver e o.conv).setQuery (SqlTokens.trim sql) t)).2.2.Bound [] :=
    prepare_bound hopen ⟨rfl, rfl⟩
  have hstatement := prepare_statement e hprepared
  have hsql : (if ((driver e o.conv).setQuery (SqlTokens.trim sql) t).2.query = [] then sql
      else ((driver e o.conv).setQuery (SqlTokens.trim sql) t).2.query) = sql := by
    change (if SqlTokens.trim sql = [] then sql else SqlTokens.trim sql) = sql
    rw [htrim]
    exact ite_self sql
  change Awaits e sql ⟨((driver e o.conv).prepareStatement sql t).2.1, _⟩
    ((driver e o.conv).prepareStatement sql t).2.2
  refine ⟨?_, hready, hfresh, ?_, fun stmt hstmt => ?_⟩
  · rw [heq]
    exact hbound
  · rw [heq]
    exact TDBConnection.hasError_resetError _
  · rw [heq] at hstmt ⊢
    obtain ⟨log, hlogged, hdescribed⟩ := hstatement stmt hstmt
    rw [hsql] at hlogged hdescribed
    exact ⟨hlogged, log, hdescribed⟩

theorem executeQuery_report (query : TSQLiteResultSet) (sql : Text) (msg : Option Text)
    (s : World TDBSQLite) :
    (∃ calls, Unstepped calls ∧ ((onSqlite o e).executeQuery query sql msg s).2.db.log =
        ((driver e o.conv).executePrepared (s.db, query)).2.1.log ++ calls ∧
      params (((driver e o.conv).executePrepared (s.db, query)).2.1.log ++ calls) =
        params ((driver e o.conv).executePrepared (s.db, query)).2.1.log) ∧
    ((∃ q, ((onSqlite o e).executeQuery query sql msg s).1 = .ok q) ↔
      ((driver e o.conv).executePrepared (s.db, query)).1 = true) ∧
    ∀ q, ((onSqlite o e).executeQuery query sql msg s).1 = .ok q →
      (((onSqlite o e).executeQuery query sql msg s).2.db, q) =
        ((driver e o.conv).executePrepared (s.db, query)).2 := by
  unfold TOrm.executeQuery
  dsimp only [onSqlite]
  split_ifs with hok
  · refine ⟨⟨[], .nil, ?_⟩, iff_of_true ⟨_, rfl⟩ hok, fun q hq => ?_⟩
    · rw [List.append_nil]
      exact ⟨rfl, rfl⟩
    · cases hq
      rfl
  · refine ⟨?_, iff_of_false (fun ⟨q, hq⟩ => by cases hq) hok, fun q hq => ?_⟩
    · exact free_log (((onSqlite o e).queryError
        ((driver e o.conv).executePrepared (s.db, query)).2.1 sql msg).2,
          ((driver e o.conv).executePrepared (s.db, query)).2.2)
    · cases hq

theorem executed_isActive {t s : Session} (h : Executed e conv t s) (hready : Ready t.2) :
    s.2.isActive = true := by
  obtain ⟨hopen, -⟩ := h.opens e conv hready
  exact hopen.isActive_eq

theorem executeQuery_outcome (htold : ∀ log, e.message log ≠ []) {query : TSQLiteResultSet}
    {s : World TDBSQLite} {ws : List (Option TDBType)} (hbound : query.Bound ws) (hready : Ready query)
    (hfresh : Fresh query) (herror : s.db.hasError = false) (sql : Text) (msg : Option Text) :
    (∃ exit calls, ((onSqlite o e).executeQuery query sql msg s).1 = .error exit ∧
      Unstepped calls ∧
      ((onSqlite o e).executeQuery query sql msg s).2.db.log = s.db.log ++ calls) ∨
    ∃ stmt before after result, query.stmtHandle = some stmt ∧
      Running e o.conv ws stmt.handle s.db.log before after
        ((onSqlite o e).executeQuery query sql msg s).2.db.log result ∧
      ((∃ q, ((onSqlite o e).executeQuery query sql msg s).1 = .ok q) ↔
        Begins (e.run (s.db.log ++ before) stmt.handle)) ∧
      ∀ q, ((onSqlite o e).executeQuery query sql msg s).1 = .ok q →
        q.isActive = true ∧ (0 < (columns (some stmt)).length →
          Readable e o.conv stmt (e.run (s.db.log ++ before) stmt.handle)
            (((onSqlite o e).executeQuery query sql msg s).2.db, q)) := by
  obtain ⟨⟨freed, hfreed, hlog, hparams⟩, hok, hstate⟩ := executeQuery_report e o query sql msg s
  have hthrows (h : ((driver e o.conv).executePrepared (s.db, query)).1 = false) :
      ∃ exit, ((onSqlite o e).executeQuery query sql msg s).1 = .error exit := by
    cases hr : ((onSqlite o e).executeQuery query sql msg s).1 with
    | error exit => exact ⟨exit, rfl⟩
    | ok q => exact absurd (h.symm.trans (hok.mp ⟨q, hr⟩)) Bool.false_ne_true
  rw [hlog]
  by_cases hopen : ((driver e o.conv).connection s.db).isOpen = true
  · have hexecute : (driver e o.conv).executePrepared (s.db, query) =
        (driver e o.conv).finish (execute e o.conv (s.db, query)) := if_pos hopen
    have hfinish : ((driver e o.conv).finish (execute e o.conv (s.db, query))).2.1.log =
        (execute e o.conv (s.db, query)).2.1.log :=
      Driver.finish_connection (f := TDBSQLite.log) _ (fun _ _ => rfl) _
    have hvalues : query.boundValues.take query.bindCount = ws := by
      rw [hbound.boundValues_eq, hbound.bindCount_eq, List.take_length]
    rw [hexecute, Driver.finish_ok] at hok hthrows
    rw [hexecute, hfinish] at hparams ⊢
    obtain ⟨calls, hruns, hfails, hcalls⟩ | ⟨stmt, before, after, result, hstmt, hrun, hreport⟩ :=
      execute_outcome e o.conv htold (s := (s.db, query)) herror
    · obtain ⟨exit, hexit⟩ := hthrows hfails
      refine .inl ⟨exit, calls ++ freed, hexit, hruns.append hfreed, ?_⟩
      rw [hcalls, List.append_assoc]
    · rw [hvalues] at hrun
      refine .inr ⟨stmt, before, after ++ freed, result, hstmt, hrun.append hfreed hparams,
        hok.trans hreport, fun q hq => ?_⟩
      have hpair := hstate q hq
      have hdone := hok.mp ⟨q, hq⟩
      have hbegins := hreport.mp hdone
      rw [← Driver.finish_ok, ← hexecute] at hdone
      have hwhole : ((onSqlite o e).executeQuery query sql msg s).2.db.log =
          s.db.log ++ (before ++ stepCall e (s.db.log ++ before) stmt.handle result :: after) := by
        rw [congrArg (fun t : Session => t.1.log) hpair, hexecute, hfinish, hrun.log_eq,
          List.append_assoc]
      have hruns : startedRuns (SqliteVerdict.callsBetween s.db
          ((onSqlite o e).executeQuery query sql msg s).2.db) =
            [e.run (s.db.log ++ before) stmt.handle] := by
        rw [callsBetween_eq hwhole, startedRuns_append, hrun.quiet.startedRuns_eq, startedRuns_cons,
          hrun.idle.startedRuns_eq]
        rfl
      have hexecuted := executePrepared_true e o.conv hdone
        (executePrepared_unfailed e o.conv hdone (hpair ▸ hruns) hbegins)
      rw [← hpair] at hexecuted
      refine ⟨executed_isActive e o.conv hexecuted hready, fun hpos => ?_⟩
      exact executed_readable e o.conv hexecuted hready hfresh hstmt hruns hpos
  · have hraise : (driver e o.conv).executePrepared (s.db, query) =
        (driver e o.conv).raise (s.db, query) "The connection is not open" .connection :=
      if_neg hopen
    rw [hraise] at hthrows ⊢
    obtain ⟨exit, hexit⟩ := hthrows rfl
    exact .inl ⟨exit, freed, hexit, hfreed, rfl⟩

/-- An issued statement starts no run and throws, or it is run once, and throws if its run does
not begin. -/
theorem issue_outcome (htold : ∀ log, e.message log ≠ []) {sql : Text}
    (htrim : SqlTokens.trim sql = sql) {P : List (Option TDBType) → Prop}
    {bind : TSQLiteResultSet → Operation TDBSQLite TSQLiteResultSet} (hbind : BindsValues P bind)
    (msg : Option Text) (s : World TDBSQLite) :
    (∃ exit calls, ((onSqlite o e).issue sql bind msg s).1 = .error exit ∧
      Unstepped calls ∧
      ((onSqlite o e).issue sql bind msg s).2.db.log = s.db.log ++ calls) ∨
    ∃ ws stmt before after result, P ws ∧
      Running e o.conv ws stmt.handle s.db.log before after
        ((onSqlite o e).issue sql bind msg s).2.db.log result ∧
      Prepared (s.db.log ++ before) stmt.handle sql ∧
      (∃ log, e.prepare log sql = .ok (some stmt.description)) ∧
      ((∃ query, ((onSqlite o e).issue sql bind msg s).1 = .ok query) ↔
        Begins (e.run (s.db.log ++ before) stmt.handle)) ∧
      ∀ query, ((onSqlite o e).issue sql bind msg s).1 = .ok query →
        query.isActive = true ∧ (0 < (columns (some stmt)).length →
          Readable e o.conv stmt (e.run (s.db.log ++ before) stmt.handle)
            (((onSqlite o e).issue sql bind msg s).2.db, query)) := by
  obtain ⟨calls, hruns, hlog⟩ := prepareQuery_quiet e o sql s
  have hawaits := @prepareQuery_awaits e Slot o sql htrim s
  cases hprepare : (onSqlite o e).prepareQuery sql s with
  | mk r s₁ =>
    rw [hprepare] at hlog hawaits
    cases r with
    | error exit =>
      have hissue : (onSqlite o e).issue sql bind msg s = (.error exit, s₁) := bind_error hprepare _
      refine .inl ⟨exit, calls, ?_⟩
      rw [hissue]
      exact ⟨rfl, hruns, hlog⟩
    | ok query =>
      have hawait := hawaits rfl
      obtain ⟨hsame, hadds⟩ := hbind query s₁
      cases hbound : bind query s₁ with
      | mk r₂ s₂ =>
        rw [hbound] at hsame hadds
        have hsame : s₂ = s₁ := hsame
        subst hsame
        cases r₂ with
        | error exit =>
          have hissue : (onSqlite o e).issue sql bind msg s = (.error exit, s₂) := by
            rw [TOrm.issue, bind_ok hprepare, bind_error hbound]
          refine .inl ⟨exit, calls, ?_⟩
          rw [hissue]
          exact ⟨rfl, hruns, hlog⟩
        | ok bound =>
          obtain ⟨ws, hws, hadded⟩ := hadds bound rfl
          have hissue : (onSqlite o e).issue sql bind msg s =
              (onSqlite o e).executeQuery bound sql msg s₂ := by
            rw [TOrm.issue, bind_ok hprepare, bind_ok hbound]
          have hquery : bound.Bound ws := by
            rw [hadded]
            exact bound_added hawait.bound ws
          obtain ⟨hready, hfresh⟩ := added_ready hawait.ready hawait.fresh ws
          rw [← hadded] at hready hfresh
          have hhandle : bound.stmtHandle = query.stmtHandle := by rw [hadded]
          rw [hissue]
          obtain ⟨exit, calls', hexit, hruns', hlog'⟩ |
            ⟨stmt, before, after, result, hstmt, hrun, hreport, hread⟩ :=
            executeQuery_outcome e o htold hquery hready hfresh hawait.noError sql msg
          · refine .inl ⟨exit, calls ++ calls', hexit, ?_, ?_⟩
            · exact hruns.append hruns'
            · rw [hlog', hlog, List.append_assoc]
          · obtain ⟨hprepared, hdescribed⟩ := hawait.prepared stmt (hhandle ▸ hstmt)
            have hwhole : s₂.db.log ++ before = s.db.log ++ (calls ++ before) := by
              rw [hlog, List.append_assoc]
            have hbefore := hprepared.append before
            rw [hwhole] at hreport hread hbefore
            refine .inr ⟨ws, stmt, calls ++ before, after, result, hws, ⟨?_, hrun.idle, ?_, ?_, ?_⟩,
              hbefore, hdescribed, hreport, hread⟩
            · exact hruns.append hrun.quiet
            · rw [hrun.log_eq, hwhole]
            · rw [← hwhole]
              exact hrun.bound
            · rw [← hwhole]
              exact hrun.kept

end

end DatabaseMod.SqliteOutcomes
