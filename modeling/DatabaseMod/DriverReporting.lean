import DatabaseMod.MariaDriver
import DatabaseMod.OdbcDriver
import DatabaseMod.SqliteReporting

/-!
# Which failures the drivers report

The operations of the other drivers, and the failures of each driver that a query does not
report. A failure is unreported where the driver returns `False` and stores no error.
-/

namespace DatabaseMod.DriverReporting
open SqlTokens (Text)
open CoreQuery CoreReporting SqliteReporting

section Odbc
open OdbcDriver OdbcDriver.TODBCResultSet

variable (odbc : Odbc) (rt : OdbcDriver.Runtime)

def odbcView : View (OdbcDriver.driver odbc rt) where
  core conn := conn.toTDBConnection
  raised conn := conn.raised
  core_set _ _ := rfl
  raised_set _ _ := rfl
  set_set _ _ _ := rfl
  isOpen_set _ _ h := h
  create_core _ := rfl
  create_raised _ := rfl
  create_set _ _ := rfl
  clear_core _ := rfl
  clear_raised _ := rfl
  clear_set _ _ := rfl

theorem odbc_call (c : Call) {msg : String} (hmsg : msg.toList ≠ [])
    {f : Session → Bool × Session} (hf : (odbcView odbc rt).Reports f fun _ => False) :
    (odbcView odbc rt).Reports (fun s => if isSQLError (odbc.result (s.1.call c).log)
      then (false, (s.1.call c).processError odbc msg, s.2) else f (s.1.call c, s.2))
      fun _ => False := by
  refine ⟨?_, fun _ _ _ => Iff.rfl, fun _ h => h.elim, fun s _ hok hsame => ?_⟩
  · rintro s t ⟨base, hopen, rfl⟩
    dsimp only [OdbcDriver.driver, TDBODBC.call]
    by_cases hc : isSQLError (odbc.result (s.1.log ++ [c])) = true
    · simp only [hc, if_true, true_and]
      exact ⟨_, by simp [TDBODBC.processError, hopen, odbcView], rfl⟩
    · simp only [hc]
      exact hf.blind _ _ ⟨base, hopen, rfl⟩
  · split_ifs at hok hsame ⊢
    · exact TDBConnection.hasError_setError _ hmsg _ _ _
    · exact hf.reported _ not_false hok hsame

theorem allocate_raised (s : Session) : (allocate odbc s).2.1.raised = s.1.raised := by
  unfold allocate
  dsimp only
  split_ifs <;> rfl

theorem odbc_allocate : (odbcView odbc rt).Reports (allocate odbc) fun _ => False := by
  refine ⟨?_, fun _ _ _ => Iff.rfl, fun _ h => h.elim, fun s _ h _ => ?_⟩
  · rintro s t ⟨base, hopen, rfl⟩
    unfold allocate
    dsimp only [OdbcDriver.driver, TDBODBC.call]
    split_ifs <;> exact ⟨rfl, _, by simp [TDBODBC.processError, hopen, odbcView], rfl⟩
  · unfold allocate at h ⊢
    dsimp only at h ⊢
    split_ifs at h ⊢ <;> exact TDBConnection.hasError_setError _ (by decide) _ _ _

theorem odbc_describe : (odbcView odbc rt).Reports (describe odbc) fun _ => False := by
  refine ⟨?_, fun _ _ _ => Iff.rfl, fun _ h => h.elim, fun s _ h _ => ?_⟩
  · rintro s t ⟨base, hopen, rfl⟩
    unfold describe
    dsimp only [OdbcDriver.driver]
    split_ifs <;> exact ⟨rfl, _, by simp [TDBODBC.processError, hopen, odbcView], rfl⟩
  · unfold describe at h ⊢
    dsimp only at h ⊢
    split_ifs at h ⊢
    exact TDBConnection.hasError_setError _ (by decide) _ _ _

theorem odbc_prepare (statement : Text) :
    (odbcView odbc rt).Reports (prepare odbc statement) fun _ => False :=
  View.reports_then (odbc_allocate odbc rt) (allocate_raised odbc)
    (odbc_call odbc rt (.prepare statement) (by decide) (View.reports_true fun _ _ h => h))

theorem odbc_executeQuery (statement : Text) :
    (odbcView odbc rt).Reports (executeQuery odbc statement) fun _ => False :=
  View.reports_then (odbc_allocate odbc rt) (allocate_raised odbc)
    (odbc_call odbc rt (.execute statement) (by decide) (odbc_describe odbc rt))

/-- An execution without a statement handle fails without a word. -/
theorem odbc_execute : (odbcView odbc rt).Reports (execute odbc) fun s => s.2.stmtHandle = false := by
  have hrun : (odbcView odbc rt).Reports (run odbc) fun _ => False :=
    odbc_call odbc rt .executePrepared (by decide) (odbc_describe odbc rt)
  refine ⟨?_, ?_, fun s hs => ?_, fun s hs hok hsame => ?_⟩
  · rintro s t ⟨base, hopen, rfl⟩
    unfold execute
    dsimp only [OdbcDriver.driver]
    split_ifs
    · cases (bindParameters odbc 0 s.1.log (s.2.boundValues.take s.2.bindCount)).1 with
      | raised => exact ⟨rfl, base, hopen, rfl⟩
      | failed => exact ⟨rfl, _, by simp [TDBODBC.processError, hopen, odbcView], rfl⟩
      | bound => exact hrun.blind _ _ ⟨base, hopen, rfl⟩
    · exact ⟨rfl, base, hopen, rfl⟩
  · rintro s t ⟨base, hopen, rfl⟩
    rfl
  · unfold execute
    dsimp only
    rw [if_pos (by simp [hs])]
    exact ⟨rfl, rfl, rfl⟩
  · unfold execute at hok hsame ⊢
    dsimp only at hok hsame ⊢
    rw [if_neg (by simpa using hs)] at hok hsame ⊢
    cases hb : (bindParameters odbc 0 s.1.log (s.2.boundValues.take s.2.bindCount)).1 with
    | raised =>
      rw [hb] at hsame
      exact absurd hsame (Nat.succ_ne_self s.1.raised)
    | failed => exact TDBConnection.hasError_setError _ (by decide) _ _ _
    | bound =>
      rw [hb] at hok hsame
      exact hrun.reported _ not_false hok hsame

end Odbc
section Maria
open MariaDriver MariaDriver.TMySQLResultSet

variable (lib : Libmariadb) (rt : MariaDriver.Runtime)

def mariaView : View (MariaDriver.driver lib rt) where
  core conn := conn.toTDBConnection
  raised conn := conn.raised
  core_set _ _ := rfl
  raised_set _ _ := rfl
  set_set _ _ _ := rfl
  isOpen_set conn base h := by
    dsimp only [MariaDriver.driver, TDBMariaDB.checked, TDBMariaDB.pinged] at h ⊢
    rw [h]
    split_ifs <;> first | rfl | exact h
  create_core _ := rfl
  create_raised _ := rfl
  create_set _ _ := rfl
  clear_core _ := rfl
  clear_raised _ := rfl
  clear_set _ _ := rfl

theorem isOpen_of_checked {conn : TDBMariaDB} (h : (conn.checked lib).isOpen = true) :
    conn.isOpen = true := by
  unfold TDBMariaDB.checked TDBMariaDB.pinged at h
  split_ifs at h
  exact h

theorem maria_call (c : Call) {msg : String} (hmsg : msg.toList ≠ [])
    {f : Session → Bool × Session} (hf : (mariaView lib rt).Reports f fun _ => False) :
    (mariaView lib rt).Reports (fun s => if lib.code (s.1.call c).log ≠ 0
      then (false, (s.1.call c).fail lib msg, s.2) else f (s.1.call c, s.2)) fun _ => False := by
  refine ⟨?_, fun _ _ _ => Iff.rfl, fun _ h => h.elim, fun s _ hok hsame => ?_⟩
  · rintro s t ⟨base, hopen, rfl⟩
    dsimp only [MariaDriver.driver, TDBMariaDB.call]
    by_cases hc : lib.code (s.1.log ++ [c]) ≠ 0
    · simp only [hc, ne_eq, not_false_eq_true, if_true, true_and]
      exact ⟨_, by simp [TDBMariaDB.fail, hopen, mariaView], rfl⟩
    · simp only [hc, if_false]
      exact hf.blind _ _ ⟨base, hopen, rfl⟩
  · split_ifs at hok hsame ⊢
    · exact TDBConnection.hasError_setError _ hmsg _ _ _
    · exact hf.reported _ not_false hok hsame

theorem maria_run : (mariaView lib rt).Reports (run lib) fun _ => False := by
  have hactive : (mariaView lib rt).Reports (fun s => (true, s.1, { s.2 with isActive := true }))
      fun _ => False := by
    refine View.reports_true ?_
    rintro s t ⟨base, hopen, rfl⟩
    exact ⟨base, hopen, rfl⟩
  have hstore : (mariaView lib rt).Reports (fun s => if lib.code (s.1.call .stmtStoreResult).log ≠ 0
      then (false, (s.1.call .stmtStoreResult).fail lib "Error storing result", s.2)
      else (true, s.1.call .stmtStoreResult, { s.2 with isActive := true })) fun _ => False :=
    maria_call lib rt .stmtStoreResult (by decide) hactive
  have hbind : (mariaView lib rt).Reports (fun s => if lib.code (s.1.call .stmtBindResult).log ≠ 0
      then (false, (s.1.call .stmtBindResult).fail lib "Error binding result", s.2)
      else if lib.code ((s.1.call .stmtBindResult).call .stmtStoreResult).log ≠ 0
      then (false, ((s.1.call .stmtBindResult).call .stmtStoreResult).fail lib
        "Error storing result", s.2)
      else (true, (s.1.call .stmtBindResult).call .stmtStoreResult,
        { s.2 with isActive := true })) fun _ => False :=
    maria_call lib rt .stmtBindResult (by decide) hstore
  have hresult := View.reports_ite (p := fun s : Session => s.2.metaHandle.isNone = true)
    (fun s t h => by obtain ⟨base, -, rfl⟩ := h; rfl) hactive hbind
  exact maria_call lib rt .stmtExecute (by decide)
    (View.reports_congr hresult fun s => by simp)

theorem maria_bindAndRun (stmt : Statement) :
    (mariaView lib rt).Reports (bindAndRun lib stmt) fun _ => False := by
  have hrun := maria_run lib rt
  refine ⟨?_, fun _ _ _ => Iff.rfl, fun _ h => h.elim, fun s _ hok hsame => ?_⟩
  · rintro s t ⟨base, hopen, rfl⟩
    unfold bindAndRun
    dsimp only [MariaDriver.driver, TDBMariaDB.call]
    split_ifs
    · exact ⟨rfl, _, by simp [TDBMariaDB.fail, hopen, mariaView], rfl⟩
    · exact hrun.blind _ _ ⟨base, hopen, rfl⟩
    · exact ⟨rfl, base, hopen, rfl⟩
    · exact hrun.blind _ _ ⟨base, hopen, rfl⟩
  · unfold bindAndRun at hok hsame ⊢
    dsimp only at hok hsame ⊢
    split_ifs at hok hsame ⊢
    · exact TDBConnection.hasError_setError _ (by decide) _ _ _
    · exact hrun.reported _ not_false hok hsame
    · exact absurd hsame (Nat.succ_ne_self s.1.raised)
    · exact hrun.reported _ not_false hok hsame

/-- An execution fails without a word where there is no statement to execute. -/
theorem maria_execute : (mariaView lib rt).Reports (execute lib) fun s =>
    s.2.preparedQuery = false ∨ s.2.stmtHandle = none := by
  have hbind := maria_bindAndRun lib rt
  refine ⟨?_, ?_, fun s hs => ?_, fun s hs hok hsame => ?_⟩
  · rintro s t ⟨base, hopen, rfl⟩
    unfold execute
    dsimp only [MariaDriver.driver, TDBMariaDB.call]
    cases s.2.stmtHandle with
    | none =>
      dsimp only
      split_ifs <;> exact ⟨rfl, base, hopen, rfl⟩
    | some stmt =>
      dsimp only
      split_ifs
      · exact ⟨rfl, _, by simp [TDBMariaDB.fail, hopen, mariaView], rfl⟩
      · exact (hbind stmt).blind _ _ ⟨base, hopen, rfl⟩
      · exact ⟨rfl, base, hopen, rfl⟩
  · rintro s t ⟨base, hopen, rfl⟩
    rfl
  · unfold execute
    dsimp only
    rcases hs with hs | hs
    · rw [if_pos (by simp [hs])]
      exact ⟨rfl, rfl, rfl⟩
    · rw [hs]
      split_ifs <;> exact ⟨rfl, rfl, rfl⟩
  · obtain ⟨hprepared, hstmt⟩ := not_or.mp hs
    obtain ⟨stmt, hstmt⟩ := Option.ne_none_iff_exists'.mp hstmt
    unfold execute at hok hsame ⊢
    dsimp only at hok hsame ⊢
    rw [if_neg (by simpa using hprepared), hstmt] at hok hsame ⊢
    dsimp only at hok hsame ⊢
    split_ifs at hok hsame ⊢
    · exact TDBConnection.hasError_setError _ (by decide) _ _ _
    · exact (hbind stmt).reported _ not_false hok hsame

theorem pinged_isOpen (conn : TDBMariaDB) {base : TDBConnection} (h : base.isOpen = conn.isOpen)
    (log : List Call) :
    (TDBMariaDB.pinged lib { conn with toTDBConnection := base } log).isOpen =
      (conn.pinged lib log).isOpen := by
  unfold TDBMariaDB.pinged
  dsimp only
  rw [h]
  split_ifs
  · rfl
  · exact h

/-- A connection that is found closed has the failed ping for an error. -/
theorem hasError_pinged {conn : TDBMariaDB} (hopen : conn.isOpen = true) {log : List Call}
    (h : (conn.pinged lib log).isOpen = false) : (conn.pinged lib log).hasError = true := by
  unfold TDBMariaDB.pinged at h ⊢
  split_ifs at h ⊢
  · exact TDBConnection.hasError_setError _ (by decide) _ _ _
  · rw [hopen] at h
    cases h

theorem maria_executeQuery (statement : Text) :
    (mariaView lib rt).ReportsOpen (executeQuery lib statement) fun _ => False := by
  refine ⟨fun s => s.1.isOpen = false, ⟨?_, ?_, fun s hs => ?_, fun s hs hok _ => ?_⟩,
    fun s hs => ?_⟩
  · rintro s t ⟨base, hopen, rfl⟩
    have hpinged := pinged_isOpen lib ((s.1.call .ping).call .ping) hopen
      ((s.1.call .ping).call .ping).log
    unfold executeQuery
    dsimp only [MariaDriver.driver, TDBMariaDB.call] at hpinged ⊢
    rw [hpinged]
    generalize lib.stored _ = stored
    cases stored with
    | _ =>
      dsimp only
      split_ifs <;> exact ⟨rfl, _, by simpa [TDBMariaDB.fail, mariaView] using hpinged, rfl⟩
  · rintro s t ⟨base, hopen, rfl⟩
    change base.isOpen = false ↔ _
    rw [hopen]
    rfl
  · have hpinged : (((s.1.call .ping).call .ping).pinged lib ((s.1.call .ping).call .ping).log) =
        s.1.toTDBConnection := if_neg (by simp [TDBMariaDB.call, hs])
    unfold executeQuery
    dsimp only
    rw [hpinged, if_pos (by simp [hs])]
    exact ⟨rfl, rfl, rfl⟩
  · have hopen : s.1.isOpen = true := by simpa using hs
    unfold executeQuery at hok ⊢
    dsimp only [TDBMariaDB.call] at hok ⊢
    split_ifs at hok ⊢ with hpinged
    · exact TDBConnection.hasError_setError _ (by decide) _ _ _
    · generalize lib.stored _ = stored at hok ⊢
      cases stored with
      | failed => exact TDBConnection.hasError_setError _ (by decide) _ _ _
      | noRows => cases hok
      | rows result => cases hok
    · have hopen' : ((s.1.call .ping).call .ping).isOpen = true := hopen
      exact hasError_pinged lib hopen' (Bool.eq_false_iff.mpr hpinged)
  · simp [isOpen_of_checked lib hs]

theorem maria_prepare {statement : Text} (h : statement.length ≠ 0) :
    (mariaView lib rt).ReportsOpen (prepare lib statement) fun _ => False := by
  apply View.Reports.open
  refine ⟨?_, fun _ _ _ => Iff.rfl, fun _ h => h.elim, fun s _ hok _ => ?_⟩
  · rintro s t ⟨base, hopen, rfl⟩
    unfold prepare
    rw [if_neg h, if_neg h]
    dsimp only [MariaDriver.driver, TDBMariaDB.call, cleanup]
    split_ifs <;> exact ⟨rfl, _, by simp [TDBMariaDB.fail, hopen, mariaView], rfl⟩
  · unfold prepare at hok ⊢
    rw [if_neg h] at hok ⊢
    dsimp only at hok ⊢
    split_ifs at hok ⊢ <;> exact TDBConnection.hasError_setError _ (by decide) _ _ _

end Maria

section Postgres
open PostgresDriver PostgresDriver.TPostgreSQLResultSet

variable (pq : Libpq) (rt : PostgresDriver.Runtime)

def postgresView : View (PostgresDriver.driver pq rt) where
  core conn := conn.toTDBConnection
  raised _ := 0
  core_set _ _ := rfl
  raised_set _ _ := rfl
  set_set _ _ _ := rfl
  isOpen_set conn base h := by
    dsimp only [PostgresDriver.driver, TDBPostgreSQL.checked] at h ⊢
    rw [h]
  create_core _ := rfl
  create_raised _ := rfl
  create_set _ _ := rfl
  clear_core _ := rfl
  clear_raised _ := rfl
  clear_set _ _ := rfl

theorem checked_isOpen (conn : TDBPostgreSQL) {base : TDBConnection}
    (h : base.isOpen = conn.isOpen) :
    (TDBPostgreSQL.checked pq { conn with toTDBConnection := base }).isOpen =
      (conn.checked pq).isOpen := by
  unfold TDBPostgreSQL.checked
  rw [h]

/-- libpq gave no result object for the statement. -/
def querySilent (statement : Text) (s : Session) : Prop :=
  pq.answer (s.1.log ++ [.exec statement]) = none

theorem postgres_executeQuery (statement : Text) :
    (postgresView pq rt).Reports (executeQuery pq statement) fun s =>
      (s.1.checked pq).isOpen = false ∨ querySilent pq statement s := by
  refine ⟨?_, ?_, fun s hs => ?_, fun s hs hok _ => ?_⟩
  · rintro s t ⟨base, hopen, rfl⟩
    have hchecked := checked_isOpen pq s.1 hopen
    unfold executeQuery
    dsimp only [PostgresDriver.driver, TDBPostgreSQL.call] at hchecked ⊢
    rw [hchecked]
    split_ifs
    · cases pq.answer (s.1.log ++ [.exec statement]) with
      | none => exact ⟨rfl, _, hchecked, rfl⟩
      | some result => cases result with
        | failed =>
          exact ⟨rfl, _, by simpa [TDBPostgreSQL.setError, postgresView] using hchecked, rfl⟩
        | commandOk | tuplesOk tuples => exact ⟨rfl, _, hchecked, rfl⟩
    · exact ⟨rfl, _, hchecked, rfl⟩
  · rintro s t ⟨base, hopen, rfl⟩
    exact or_congr (by rw [← checked_isOpen pq s.1 hopen]; rfl) Iff.rfl
  · unfold executeQuery
    dsimp only
    rcases hs with hs | hs
    · rw [if_pos (by simp [hs])]
      exact ⟨rfl, rfl, rfl⟩
    · split_ifs
      · unfold querySilent at hs
        dsimp only [TDBPostgreSQL.call]
        rw [hs]
        exact ⟨rfl, rfl, rfl⟩
      · exact ⟨rfl, rfl, rfl⟩
  · obtain ⟨hopen, hanswer⟩ := not_or.mp hs
    obtain ⟨result, hanswer⟩ := Option.ne_none_iff_exists'.mp hanswer
    unfold executeQuery at hok ⊢
    dsimp only [TDBPostgreSQL.call] at hok ⊢
    rw [if_neg (by simpa using hopen), hanswer] at hok ⊢
    cases result with
    | failed => exact TDBConnection.hasError_setError _ (by decide) _ _ _
    | commandOk | tuplesOk tuples => cases hok

theorem postgres_execute : (postgresView pq rt).Reports (execute pq rt) fun _ => False := by
  refine ⟨?_, fun _ _ _ => Iff.rfl, fun _ h => h.elim, fun s _ hok _ => ?_⟩
  · rintro s t ⟨base, hopen, rfl⟩
    unfold execute
    dsimp only [PostgresDriver.driver, TDBPostgreSQL.call]
    cases pq.answer _ with
    | none => exact ⟨rfl, _, by simpa [TDBPostgreSQL.setError, postgresView] using hopen, rfl⟩
    | some result => cases result with
      | failed => exact ⟨rfl, _, by simpa [TDBPostgreSQL.setError, postgresView] using hopen, rfl⟩
      | commandOk | tuplesOk tuples => exact ⟨rfl, _, hopen, rfl⟩
  · unfold execute at hok ⊢
    dsimp only [TDBPostgreSQL.call] at hok ⊢
    split at hok
    · exact TDBConnection.hasError_setError _ (by decide) _ _ _
    · exact TDBConnection.hasError_setError _ (by decide) _ _ _
    · cases hok
    · cases hok

/-- The answer to releasing the name of an earlier statement is an error. -/
def releaseFailed (s : Session) : Prop :=
  s.2.preparedStatementName ≠ [] ∧ pq.answer (s.1.log ++
    [.exec ("DEALLOCATE ".toList ++ '"' :: s.2.preparedStatementName ++ ['"'])]) = some .failed

/-- libpq gave no result object for the new statement, and none that says why before. -/
def prepareSilent (statement : Text) (s : Session) : Prop :=
  let released := releaseName pq (s.1, s.2.cleanup)
  pq.answer (released.1.log ++ [.prepare released.2.preparedStatementName statement]) = none ∧
    ¬ releaseFailed pq s

theorem releaseName_alike {s t : Session} (h : (postgresView pq rt).Alike s t) :
    (postgresView pq rt).Alike (releaseName pq s) (releaseName pq t) := by
  have hquery (statement : Text) := ((postgres_executeQuery pq rt statement).blind s t h).2
  obtain ⟨base, hopen, rfl⟩ := h
  unfold releaseName
  dsimp only [PostgresDriver.driver] at hquery ⊢
  split_ifs
  · exact ⟨base, hopen, rfl⟩
  · obtain ⟨base', hopen', heq⟩ := hquery
      ("DEALLOCATE ".toList ++ '"' :: s.2.preparedStatementName ++ ['"'])
    rw [heq]
    exact ⟨base', hopen', rfl⟩

/-- Releasing a name stores an error exactly if its answer is one. -/
theorem releaseName_hasError (s : Session) : (releaseName pq s).1.hasError = true ↔
    (s.1.checked pq).isOpen = true ∧ releaseFailed pq s ∨ s.1.hasError = true := by
  unfold releaseName releaseFailed
  by_cases hname : s.2.preparedStatementName = []
  · simp [hname]
  · rw [if_neg hname]
    generalize "DEALLOCATE ".toList ++ '"' :: s.2.preparedStatementName ++ ['"'] = statement
    unfold executeQuery
    dsimp only [TDBPostgreSQL.call]
    by_cases hopen : (s.1.checked pq).isOpen = true
    · rw [if_neg (by simp [hopen])]
      cases pq.answer (s.1.log ++ [.exec statement]) with
      | none => simp [TDBPostgreSQL.checked, TDBConnection.hasError]
      | some result => cases result with
        | failed =>
          refine iff_of_true ?_ (.inl ⟨hopen, hname, rfl⟩)
          exact TDBConnection.hasError_setError _ (by decide) _ _ _
        | commandOk | tuplesOk tuples => simp [TDBPostgreSQL.checked, TDBConnection.hasError]
    · rw [if_pos hopen]
      exact (or_iff_right fun h => hopen h.1).symm

theorem postgres_prepare {statement : Text} (h : statement.length ≠ 0) :
    (postgresView pq rt).ReportsOpen (prepare pq statement) (prepareSilent pq statement) := by
  have halike (s t : Session) (hst : (postgresView pq rt).Alike s t) : (postgresView pq rt).Alike
      (releaseName pq (s.1, s.2.cleanup)) (releaseName pq (t.1, t.2.cleanup)) := by
    apply releaseName_alike
    obtain ⟨base, hopen, rfl⟩ := hst
    exact ⟨base, hopen, rfl⟩
  refine ⟨fun s => let released := releaseName pq (s.1, s.2.cleanup)
    pq.answer (released.1.log ++ [.prepare released.2.preparedStatementName statement]) = none ∧
      ¬ ((s.1.checked pq).isOpen = true ∧ releaseFailed pq s),
    ⟨fun s t hst => ?_, fun s t hst => ?_, fun s hs => ?_, fun s hs hok _ => ?_⟩, fun s hs => ?_⟩
  · obtain ⟨base, hopen, heq⟩ := halike s t hst
    unfold prepare
    simp only [if_neg h, heq]
    dsimp only [PostgresDriver.driver, TDBPostgreSQL.call]
    cases pq.answer _ with
    | none => exact ⟨rfl, base, hopen, rfl⟩
    | some result => cases result with
      | commandOk => exact ⟨rfl, base, hopen, rfl⟩
      | failed | tuplesOk tuples =>
        exact ⟨rfl, _, by simpa [TDBPostgreSQL.setError, postgresView] using hopen, rfl⟩
  · obtain ⟨base, hopen, heq⟩ := halike s t hst
    obtain ⟨base₀, hopen₀, rfl⟩ := hst
    refine and_congr ?_ (not_congr (and_congr ?_ Iff.rfl))
    · rw [heq]
      rfl
    · rw [← checked_isOpen pq s.1 hopen₀]
      rfl
  · unfold prepare
    rw [if_neg h]
    dsimp only [TDBPostgreSQL.call]
    rw [hs.1]
    refine ⟨rfl, rfl, Bool.eq_iff_iff.mpr ((releaseName_hasError pq _).trans ?_)⟩
    exact or_iff_right hs.2
  · unfold prepare at hok ⊢
    rw [if_neg h] at hok ⊢
    dsimp only [TDBPostgreSQL.call] at hok ⊢
    cases hanswer : pq.answer _ with
    | none =>
      have hfailed := not_not.mp fun hn => hs ⟨hanswer, hn⟩
      exact (releaseName_hasError pq _).mpr (.inl hfailed)
    | some result => cases result with
      | commandOk =>
        rw [hanswer] at hok
        cases hok
      | failed | tuplesOk tuples => exact TDBConnection.hasError_setError _ (by decide) _ _ _
  · exact and_congr Iff.rfl (not_congr (and_iff_right hs))

end Postgres

/-! ### The drivers together -/

/-- A query reports the failure of each call, and clears the error after each success, if and
only if: with SQLite no execution that the engine carries out begins with a stored error; with
PostgreSQL libpq does not keep its result object back; and with MariaDB and ODBC a statement
handle is there to be executed. -/
theorem failures_reported_iff (c : StatementCall) :
    (∀ (e : SqlEngine.Engine) (conv : CoreValues.Conversions)
      (q : TDatabaseQuery SqliteDriver.TDBSQLite SqliteDriver.TSQLiteResultSet),
      Reported (sqliteView e conv) q c ↔ ¬ Misled e conv q c) ∧
    (∀ (pq : PostgresDriver.Libpq) (rt : PostgresDriver.Runtime)
      (q : TDatabaseQuery PostgresDriver.TDBPostgreSQL PostgresDriver.TPostgreSQLResultSet),
      Reported (postgresView pq rt) q c ↔
        ¬ Silent (D := PostgresDriver.driver pq rt) (prepareSilent pq) (querySilent pq)
          (fun _ => False) q c) ∧
    (∀ (lib : MariaDriver.Libmariadb) (rt : MariaDriver.Runtime)
      (q : TDatabaseQuery MariaDriver.TDBMariaDB MariaDriver.TMySQLResultSet),
      Reported (mariaView lib rt) q c ↔
        ¬ Silent (D := MariaDriver.driver lib rt) (fun _ _ => False) (fun _ _ => False)
          (fun s => s.2.preparedQuery = false ∨ s.2.stmtHandle = none) q c) ∧
    (∀ (odbc : OdbcDriver.Odbc) (rt : OdbcDriver.Runtime)
      (q : TDatabaseQuery OdbcDriver.TDBODBC OdbcDriver.TODBCResultSet),
      Reported (odbcView odbc rt) q c ↔
        ¬ Silent (D := OdbcDriver.driver odbc rt) (fun _ _ => False) (fun _ _ => False)
          (fun s => s.2.stmtHandle = false) q c) := by
  refine ⟨fun e conv q => sqlite_reported_iff e conv q c, fun pq rt q => ?_, fun lib rt q => ?_,
    fun odbc rt q => ?_⟩
  · refine reported_iff (fun statement h => postgres_prepare pq rt h)
      (fun statement => ?_) (postgres_execute pq rt).open q c
    exact ⟨_, postgres_executeQuery pq rt statement,
      fun s (hs : (s.1.checked pq).isOpen = true) => or_iff_right (by simp [hs])⟩
  · exact reported_iff (fun statement h => maria_prepare lib rt h)
      (maria_executeQuery lib rt) (maria_execute lib rt).open q c
  · exact reported_iff (fun statement _ => (odbc_prepare odbc rt statement).open)
      (fun statement => (odbc_executeQuery odbc rt statement).open) (odbc_execute odbc rt).open q c

/-! ### A statement that is gone -/

section
open MariaDriver

/-- The rows of a prepared statement are read to their end, and it is executed once more: the
call returns `False`, and there is no error. -/
theorem executing_again_unreported :
    (do
      let q := TDatabaseQuery.create opened
      let r ← q.calls (driver oneRow plain)
        [.prepare "SELECT n FROM t".toList, .execute [], .nextRow, .nextRow]
      let again ← r.2.execute (driver oneRow plain) []
      some (r.1.map (·.2), again.1, again.2.conn.hasError)) =
    some ([true, true, true, false], false, false) := by
  decide +kernel

end

end DatabaseMod.DriverReporting
