import DatabaseMod.MariaDriver
import DatabaseMod.SqliteReporting

/-!
# The number of bound values

What `execute` does where the values that are bound are not as many as the statement has
parameters. The SQLite driver compares the numbers before it runs the statement. The MariaDB
driver compares them to decide whether it binds, and runs the statement anyway.
-/

namespace DatabaseMod.ParameterCounts
open CoreValues CoreResultSet CoreQuery CoreReporting

/-! ### SQLite -/

section
open SqlEngine SqliteDriver SqliteDriver.TSQLiteResultSet SqliteSteps SqliteReporting

variable (e : Engine) (conv : Conversions)

/-- The call returns `False` with an error, and no step is made. -/
def SqliteRejects (q : TDatabaseQuery TDBSQLite TSQLiteResultSet) : Prop :=
  ∃ q' calls, q.execute (driver e conv) [] = some (false, q') ∧ q'.conn.hasError = true ∧
    q'.conn.log = q.conn.log ++ calls ∧ NoStep calls

/-- No step is made, and the call fails. -/
theorem execute_mismatch {s : Session} (h : parameterCount s.2.stmtHandle ≠ s.2.bindCount) :
    (execute e conv s).1 = false ∧
      ∃ calls, (execute e conv s).2.1.log = s.1.log ++ calls ∧ NoStep calls := by
  rcases execute_cases e conv s with ⟨t, calls, heq, -, hlog, hno, -⟩ | ⟨-, -, -, -, hcount, -⟩
  · obtain ⟨freed, hfreed, hfreedLog, -⟩ := free_eq t
    rw [heq]
    exact ⟨rfl, calls ++ freed, by rw [hfreedLog, hlog, List.append_assoc],
      hno.append hfreed.noStep⟩
  · exact absurd hcount h

theorem executePrepared_mismatch {s : Session}
    (h : parameterCount s.2.stmtHandle ≠ s.2.bindCount) :
    ((driver e conv).executePrepared s).1 = false ∧
      ((driver e conv).executePrepared s).2.1.hasError = true ∧
        ∃ calls, ((driver e conv).executePrepared s).2.1.log = s.1.log ++ calls ∧ NoStep calls := by
  obtain ⟨hok, calls, hlog, hno⟩ := execute_mismatch e conv h
  unfold Driver.executePrepared
  split_ifs
  · rw [show (driver e conv).finish ((driver e conv).execute s) = execute e conv s from
      finish_failed hok]
    exact ⟨hok, execute_stored e conv s hok, calls, hlog, hno⟩
  · exact ⟨rfl, View.hasError_raise (V := sqliteView e conv) s (by decide) _, [],
      (List.append_nil _).symm, Idle.nil.noStep⟩

theorem sqlite_rejects {q : TDatabaseQuery TDBSQLite TSQLiteResultSet} {rs : TSQLiteResultSet}
    (hrs : q.resultSet = some rs) (h : parameterCount rs.stmtHandle ≠ rs.bindCount) :
    SqliteRejects e conv q := by
  obtain ⟨conn, resultSet⟩ := q
  obtain rfl : resultSet = some rs := hrs
  obtain ⟨hok, herror, calls, hlog, hno⟩ := executePrepared_mismatch e conv (s := (conn, rs)) h
  exact ⟨_, calls, (execute_call_some conn rs (by simp)).trans (by rw [hok]), herror, hlog, hno⟩

end

/-! ### MariaDB -/

section
open MariaDriver MariaDriver.TMySQLResultSet

variable (lib : Libmariadb) (rt : Runtime)

/-- The call returns `False` with an error, and the statement is not executed. -/
def MariaRejects (q : TDatabaseQuery TDBMariaDB TMySQLResultSet) : Prop :=
  ∃ q' calls, q.execute (driver lib rt) [] = some (false, q') ∧ q'.conn.hasError = true ∧
    q'.conn.log = q.conn.log ++ calls ∧ .stmtExecute ∉ calls

/-- The calls of the end of `execute` begin with that of the statement. -/
theorem run_log (s : Session) :
    ∃ calls, (run lib s).2.1.log = s.1.log ++ .stmtExecute :: calls := by
  unfold run
  dsimp only
  split_ifs
  · exact ⟨[], rfl⟩
  · exact ⟨[], rfl⟩
  · exact ⟨[.stmtBindResult], by simp [TDBMariaDB.call, TDBMariaDB.fail]⟩
  · exact ⟨[.stmtBindResult, .stmtStoreResult], by simp [TDBMariaDB.call, TDBMariaDB.fail]⟩
  · exact ⟨[.stmtBindResult, .stmtStoreResult], by simp [TDBMariaDB.call]⟩

theorem execute_prepared {s : Session} {stmt : Statement} (hprepared : s.2.preparedQuery = true)
    (hstmt : s.2.stmtHandle = some stmt) :
    execute lib s = if lib.code (s.1.log ++ [.ping, .stmtReset]) ≠ 0 then
      (false, TDBMariaDB.fail lib ((s.1.call .ping).call .stmtReset) "Error resetting statement",
        { s.2 with index := SQL_BeforeFirstRow })
      else bindAndRun lib stmt ((s.1.call .ping).call .stmtReset,
        { s.2 with index := SQL_BeforeFirstRow }) := by
  have hlog : ((s.1.call .ping).call .stmtReset).log = s.1.log ++ [.ping, .stmtReset] :=
    List.append_assoc ..
  unfold execute
  dsimp only
  rw [if_neg (by simp [hprepared]), ← hlog]
  cases hs : s.2.stmtHandle with
  | none =>
    rw [hs] at hstmt
    cases hstmt
  | some stmt' =>
    obtain rfl := Option.some.inj (hs.symm.trans hstmt)
    rfl

/-- A statement that could be reset is executed, with other values or without any. -/
theorem execute_runs {s : Session} {stmt : Statement} (hprepared : s.2.preparedQuery = true)
    (hstmt : s.2.stmtHandle = some stmt) (h : stmt.paramCount ≠ s.2.bindCount)
    (hreset : lib.code (s.1.log ++ [.ping, .stmtReset]) = 0) :
    ∃ calls, (execute lib s).2.1.log = s.1.log ++ ([.ping, .stmtReset] ++ .stmtExecute :: calls) := by
  rw [execute_prepared lib hprepared hstmt, if_neg (not_not.mpr hreset)]
  unfold bindAndRun
  rw [if_neg h]
  obtain ⟨calls, hcalls⟩ := run_log lib ((s.1.call .ping).call .stmtReset,
    { s.2 with index := SQL_BeforeFirstRow })
  exact ⟨calls, by rw [hcalls]; simp [TDBMariaDB.call]⟩

theorem maria_rejects_iff {q : TDatabaseQuery TDBMariaDB TMySQLResultSet} {rs : TMySQLResultSet}
    {stmt : Statement} (hrs : q.resultSet = some rs) (hprepared : rs.preparedQuery = true)
    (hstmt : rs.stmtHandle = some stmt) (h : stmt.paramCount ≠ rs.bindCount) :
    MariaRejects lib rt q ↔ (q.conn.checked lib).isOpen = false ∨
      lib.code (q.conn.log ++ [.ping, .stmtReset]) ≠ 0 := by
  obtain ⟨conn, resultSet⟩ := q
  obtain rfl : resultSet = some rs := hrs
  dsimp only
  have hempty : ¬ (([] : List Char) ≠ []) := not_not_intro rfl
  have hcall := execute_call_some (D := driver lib rt) conn rs hempty
  constructor
  · rintro ⟨q', calls, hq', -, hlog, hnot⟩
    by_contra hrun
    obtain ⟨hopen, hreset⟩ := not_or.mp hrun
    obtain ⟨ran, hran⟩ := execute_runs lib (s := (conn, rs)) hprepared hstmt h (not_not.mp hreset)
    have hfinal : q'.conn.log = conn.log ++ ([.ping, .stmtReset] ++ .stmtExecute :: ran) := by
      have hlog : ((driver lib rt).finish (execute lib (conn, rs))).2.1.log =
          (execute lib (conn, rs)).2.1.log := Driver.finish_connection _ (fun _ _ => rfl) _
      rw [← hran, ← hlog]
      obtain ⟨-, rfl⟩ := Prod.mk.inj (Option.some.inj (hcall.symm.trans hq'))
      unfold Driver.executePrepared
      rw [if_pos (by simpa [driver] using hopen)]
      rfl
    rw [hfinal] at hlog
    rw [← List.append_cancel_left hlog] at hnot
    simp at hnot
  · intro hclosed
    unfold Driver.executePrepared at hcall
    by_cases hopen : ((driver lib rt).connection (conn, rs).1).isOpen = true
    · have hreset := hclosed.resolve_left fun hc => Bool.false_ne_true (hc.symm.trans hopen)
      have hexecute := execute_prepared lib (s := (conn, rs)) hprepared hstmt
      rw [if_pos hreset] at hexecute
      rw [if_pos hopen, show (driver lib rt).execute (conn, rs) = _ from hexecute] at hcall
      refine ⟨_, [.ping, .stmtReset], hcall, ?_, ?_, by simp⟩
      · exact TDBConnection.hasError_setError _ (by decide) _ _ _
      · exact List.append_assoc ..
    · rw [if_neg hopen] at hcall
      refine ⟨_, [], hcall, ?_, (List.append_nil _).symm, List.not_mem_nil⟩
      exact TDBConnection.hasError_setError _ (by decide) _ _ _

end

/-! ### The drivers together -/

/-- With another number of values than parameters, an execution is rejected by the SQLite
driver. The MariaDB driver rejects it if and only if the connection turns out to be closed or
the statement cannot be reset; else it runs the statement. -/
theorem mismatch_rejected_iff (e : SqlEngine.Engine) (conv : Conversions)
    (lib : MariaDriver.Libmariadb) (rt : MariaDriver.Runtime) :
    (∀ (q : TDatabaseQuery SqliteDriver.TDBSQLite SqliteDriver.TSQLiteResultSet)
      (rs : SqliteDriver.TSQLiteResultSet), q.resultSet = some rs →
        SqlEngine.parameterCount rs.stmtHandle ≠ rs.bindCount → SqliteRejects e conv q) ∧
    ∀ (q : TDatabaseQuery MariaDriver.TDBMariaDB MariaDriver.TMySQLResultSet)
      (rs : MariaDriver.TMySQLResultSet) (stmt : MariaDriver.Statement),
      q.resultSet = some rs → rs.preparedQuery = true → rs.stmtHandle = some stmt →
        stmt.paramCount ≠ rs.bindCount →
          (MariaRejects lib rt q ↔ (q.conn.checked lib).isOpen = false ∨
            lib.code (q.conn.log ++ [.ping, .stmtReset]) ≠ 0) :=
  ⟨fun _ _ hrs h => sqlite_rejects e conv hrs h,
    fun _ _ _ hrs hprepared hstmt h => maria_rejects_iff lib rt hrs hprepared hstmt h⟩

/-- Result sets with a statement of one parameter, to which nothing is bound. -/
def sqliteUnbound : SqliteDriver.TSQLiteResultSet :=
  { TQueryResultSet.create with
    id := 0, stmtHandle := some ⟨0, ⟨1, []⟩, none⟩, initialFetch := true, fakeFirstRowFetch := false }

def mariaUnbound : MariaDriver.TMySQLResultSet :=
  { (MariaDriver.TMySQLResultSet.createResultSet MariaDriver.opened).2 with
    stmtHandle := some ⟨1, none⟩, preparedQuery := true, parameterBindings := [none] }

theorem mismatch_rejected_iff_unbound :
    SqliteRejects SqliteVerdict.singleRow .integers ⟨SqliteVerdict.opened, some sqliteUnbound⟩ ∧
    (MariaRejects MariaDriver.oneParam MariaDriver.plain ⟨MariaDriver.opened, some mariaUnbound⟩ ↔
      (MariaDriver.opened.checked MariaDriver.oneParam).isOpen = false ∨
        MariaDriver.oneParam.code (MariaDriver.opened.log ++ [.ping, .stmtReset]) ≠ 0) := by
  have h := mismatch_rejected_iff SqliteVerdict.singleRow .integers MariaDriver.oneParam
    MariaDriver.plain
  exact ⟨h.1 _ sqliteUnbound rfl (by decide), h.2 _ mariaUnbound ⟨1, none⟩ rfl rfl rfl (by decide)⟩

section
open MariaDriver

/-- The statement is executed with the value 7. Then the values are cleared, and another
execution runs it again. -/
theorem cleared_values_executed :
    (do
      let r ← (TDatabaseQuery.create opened).calls (driver oneParam plain)
        [.prepare "UPDATE t SET n = ?".toList, .bind (.addBindValue (some (.setInt 7))),
          .execute [], .bind .clearBindValues]
      let again ← r.2.execute (driver oneParam plain) []
      some (r.2.conn.log.count .stmtExecute, again.1, again.2.conn.log.count .stmtExecute)) =
    some (1, true, 2) := by
  decide +kernel

end

end DatabaseMod.ParameterCounts
