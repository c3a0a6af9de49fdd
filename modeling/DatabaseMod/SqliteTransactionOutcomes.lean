import DatabaseMod.OrmTransaction
import DatabaseMod.SqliteOutcomes
import DatabaseMod.SqliteReporting

/-!
# Outcomes of transaction calls on SQLite

Starting or ending a transaction resets what is being read and then runs one text, which is a
command on the database. The report is that of the run.
-/

namespace DatabaseMod.SqliteTransactionOutcomes
open SqlTokens (Text)
open CoreValues hiding Content
open CoreResultSet CoreQuery SqlReading SqlEngine SqlCommands SqlDatabase
open CoreReporting SqliteDriver SqliteSteps SqliteCursor SqliteInvariant SqliteConnection SqliteReporting SqliteOutcomes
open TSQLiteResultSet

variable (e : Engine) (conv : Conversions)

theorem unstepped_of_idle {calls : List SqlEngine.Call} (h : Idle calls) : Unstepped calls :=
  unstepped_of_noStep h.noStep

theorem on_reset_log (s : Store) (id : ℕ) : ∃ calls, Unstepped calls ∧
    (s.on id (TSQLiteResultSet.reset e)).conn.log = s.conn.log ++ calls := by
  unfold Store.on
  cases s.sets[id]? with
  | none => exact ⟨[], .nil, (List.append_nil _).symm⟩
  | some rs =>
    obtain ⟨calls, hidle, heq⟩ := reset_eq e (s.conn, rs)
    refine ⟨calls, unstepped_of_idle hidle, ?_⟩
    dsimp only
    rw [heq]

theorem resetQueries_log (s : Store) : ∃ calls, Unstepped calls ∧
    (s.resetQueries e).conn.log = s.conn.log ++ calls := by
  unfold Store.resetQueries
  generalize s.conn.queries = queries
  induction queries generalizing s with
  | nil => exact ⟨[], .nil, (List.append_nil _).symm⟩
  | cons q queries ih =>
    rw [List.foldl_cons]
    cases q with
    | none => exact ih s
    | some id =>
      obtain ⟨calls, hcalls, hlog⟩ := on_reset_log e s id
      obtain ⟨calls', hcalls', hlog'⟩ := ih (s.on id (TSQLiteResultSet.reset e))
      refine ⟨calls ++ calls', hcalls.append hcalls', ?_⟩
      rw [Option.elim_some, hlog', hlog, List.append_assoc]

theorem on_free_log (s : Store) (id : ℕ) : ∃ calls, Unstepped calls ∧
    (s.on id TSQLiteResultSet.free).conn.log = s.conn.log ++ calls := by
  unfold Store.on
  cases s.sets[id]? with
  | none => exact ⟨[], .nil, (List.append_nil _).symm⟩
  | some rs =>
    obtain ⟨calls, hidle, hlog, -⟩ := free_eq (s.conn, rs)
    exact ⟨calls, unstepped_of_idle hidle, hlog⟩

/-- A text is executed once on a new result set, and the report is that of its run. -/
theorem executeStatement_outcome (htold : ∀ log, e.message log ≠ []) {sql : Text}
    (htrim : SqlTokens.trim sql = sql) {s : Session} (herror : s.1.hasError = false) :
    let r := (driver e conv).executeStatement sql s
    (∃ calls, Unstepped calls ∧ r.2.1.hasError = true ∧ r.2.1.log = s.1.log ++ calls) ∨
    ∃ before stmt result after, Unstepped before ∧ Unstepped after ∧
      r.2.1.log = s.1.log ++ before ++ stepCall e (s.1.log ++ before) stmt result :: after ∧
      Prepared (s.1.log ++ before) stmt sql ∧
      (r.2.1.hasError = false ↔ Begins (e.run (s.1.log ++ before) stmt)) := by
  intro r
  have hr : r = (driver e conv).executeStatement sql s := rfl
  unfold Driver.executeStatement at hr
  rw [htrim] at hr
  dsimp only at hr
  set t := (driver e conv).setQuery sql s with ht
  split_ifs at hr with hblank hopen
  · refine .inl ⟨[], .nil, ?_, ?_⟩
    · rw [hr]
      exact View.hasError_raise (V := sqliteView e conv) s (by decide) _
    · rw [hr, List.append_nil]
      rfl
  · have hlog : r.2.1.log = (executeQuery e conv sql t).2.1.log :=
      (congrArg (fun q => q.2.1.log) hr).trans (finish_log e conv _)
    have hfinished : r.1 = (executeQuery e conv sql t).1 := by
      rw [hr]
      exact Driver.finish_ok _ _
    have hreport : r.2.1.hasError = false ↔ (executeQuery e conv sql t).1 = true := by
      rw [← hfinished]
      constructor
      · intro hclear
        by_contra hfalse
        have hstored := finish_stored e conv (executeQuery_stored e conv sql hopen)
          ((congrArg Prod.fst hr.symm).trans (by simpa using hfalse))
        cases hclear.symm.trans ((congrArg (fun q => q.2.1.hasError) hr).trans hstored)
      · exact View.cleared_executeStatement (V := sqliteView e conv) sql s
    obtain ⟨calls, c, query, hidle, hstep, hcases⟩ := prepare_cases e sql (s := t) hopen
    have hquiet : Unstepped (calls ++ [c]) :=
      unstepped_of_noStep (hidle.noStep.append (by simpa [NoStep] using hstep))
    have hexecute : executeQuery e conv sql t = if (prepare e sql t).1 then
        execute e conv (prepare e sql t).2 else (false, (prepare e sql t).2) := rfl
    have hsql : (if t.2.query = [] then sql else t.2.query) = sql := ite_self sql
    obtain ⟨conn, stmtHandle, heq, -, hprepared, hconn, -⟩ | ⟨conn, heq, -, hprepared, -⟩ := hcases
    · have hok : (prepare e sql t).1 = true := by rw [heq]
      have hlogged : (prepare e sql t).2.1.log = s.1.log ++ (calls ++ [c]) := by
        rw [heq]
        exact hprepared
      have hclear : (prepare e sql t).2.1.hasError = false := by
        rw [heq]
        exact (congrArg TDBConnection.hasError hconn).trans herror
      have hstatement := prepare_statement e hok
      rw [hsql] at hstatement
      rw [if_pos hok] at hexecute
      rw [hexecute] at hlog hreport
      generalize (prepare e sql t).2 = p at *
      obtain ⟨calls', hcalls', hfalse, hlog'⟩ | ⟨stmt, before, after, result, hstmt, hrun, hbegins⟩ :=
        execute_outcome e conv htold hclear
      · refine .inl ⟨calls ++ [c] ++ calls', hquiet.append hcalls', ?_, ?_⟩
        · rw [hfalse] at hreport
          simpa using hreport
        · rw [hlog, hlog', hlogged, List.append_assoc]
      · have hwhole : p.1.log ++ before = s.1.log ++ (calls ++ [c] ++ before) := by
          rw [hlogged, List.append_assoc]
        obtain ⟨log, hlater, -⟩ := hstatement stmt hstmt
        have hbefore := hlater.append before
        rw [hwhole] at hbefore hbegins
        refine .inr ⟨calls ++ [c] ++ before, stmt.handle, result, after, hquiet.append hrun.quiet,
          hrun.idle, ?_, hbefore, hreport.trans hbegins⟩
        rw [hlog, hrun.log_eq, hwhole]
    · have hfails : ¬ (prepare e sql t).1 = true := by
        rw [heq]
        exact Bool.false_ne_true
      rw [if_neg hfails] at hexecute
      rw [hexecute] at hlog hreport
      refine .inl ⟨calls ++ [c], hquiet, by simpa using hreport, ?_⟩
      rw [hlog, heq]
      exact hprepared
  · refine .inl ⟨[], .nil, ?_, ?_⟩
    · rw [hr]
      exact View.hasError_raise (V := sqliteView e conv) _ (by decide) _
    · rw [hr, List.append_nil]
      rfl

/-- The new result set starts without an error. -/
theorem executeQuery_conn (s : Store) (sql : Text) : ∃ t : Session, t.1.log = s.conn.log ∧
    t.1.hasError = false ∧
    (s.executeQuery e conv sql).conn = ((driver e conv).executeStatement sql t).2.1 := by
  set s₁ := s.setConnection s.conn.toTDBConnection.resetError with hs₁
  refine ⟨createResultSet s₁.conn, addQuery_log s₁.conn _, ?_, ?_⟩
  · refine (congrArg TDBConnection.hasError (addQuery_connection s₁.conn _)).trans ?_
    exact TDBConnection.hasError_resetError _
  · have hset : s₁.createResultSet.sets[s.sets.length]? = some (createResultSet s₁.conn).2 := by
      simp [Store.createResultSet, hs₁, Store.setConnection]
    unfold Store.executeQuery
    dsimp only
    rw [Store.on, hset]
    rfl

/-- A transaction text that is a command is abandoned, or it does what the command says. -/
theorem transaction_command {e : Engine} {store : Text → SqlValue → SqlValue} {catalog : Catalog}
    (db : Database e store catalog) {sql : Text} (cmd : Command)
    (htrim : SqlTokens.trim sql = sql) (hread : read sql = cmd.items)
    (husual : ∀ param, Usual store catalog param cmd) (error : Text) (s : Store) :
    let r := s.transaction e conv sql error
    (r.1 = false ∧ Abandons (db.content s.conn.log) (db.content r.2.conn.log)) ∨
    r.1 = true ∧ ∃ param, Changes store catalog param cmd (db.content s.conn.log)
      (db.content r.2.conn.log) := by
  intro r
  have hr : r = s.transaction e conv sql error := rfl
  unfold Store.transaction at hr
  dsimp only at hr
  set s₁ := s.executeQuery e conv sql with hs₁
  have hcontent : db.content r.2.conn.log = db.content s₁.conn.log := by
    rw [hr]
    split_ifs
    · rfl
    · obtain ⟨calls, hcalls, hlog⟩ := on_free_log s₁ s.sets.length
      rw [hlog, db.content_calls hcalls]
  have hreport : r.1 = true ↔ s₁.conn.hasError = false := by
    rw [hr]
    split_ifs with hset
    · simp [hset]
    · simp [hset]
  obtain ⟨t, hlog, hclear, hconn⟩ := executeQuery_conn e conv s sql
  rw [hcontent, hconn]
  rw [hconn] at hreport
  obtain ⟨calls, hcalls, hset, hlog'⟩ |
    ⟨before, stmt, result, after, hbefore, hafter, hlog', hprepared, hbegins⟩ :=
    executeStatement_outcome e conv db.told htrim hclear
  · refine .inl ⟨?_, .inl ?_⟩
    · rw [← Bool.not_eq_true, hreport, hset]
      exact Bool.false_ne_true.symm
    · rw [hlog', db.content_calls hcalls, hlog]
  · have hcmd : command (read sql) = some cmd := by rw [hread, command_items]
    rw [hlog] at hlog' hprepared hbegins
    rw [hlog', List.append_cons, db.content_calls hafter, ← db.content_calls hbefore]
    by_cases hrun : Begins (e.run (s.conn.log ++ before) stmt)
    · refine .inr ⟨hreport.mpr (hbegins.mpr hrun), params (s.conn.log ++ before) stmt, ?_⟩
      exact db.ran _ stmt sql cmd result hprepared hcmd (husual _) hrun
    · refine .inl ⟨?_, db.abandoned _ stmt sql cmd result hprepared hcmd hrun⟩
      rw [← Bool.not_eq_true, hreport, hbegins]
      exact hrun

/-! ### The three calls -/

/-- The command that a call sends. -/
def commandOf : OrmTransaction.Call → Command
  | .start => .start
  | .commit => .commit
  | .rollback => .rollback

theorem read_transaction {w : Text} (hne : w ≠ []) (hw : w.all isWordChar = true) :
    read (w ++ " TRANSACTION".toList) = [.word w, .word "TRANSACTION".toList] := by
  have hword : Reads "TRANSACTION".toList [.word "TRANSACTION".toList] :=
    reads_word (by decide) (by decide)
  have hspaced : Reads (" ".toList ++ "TRANSACTION".toList) ([] ++ [.word "TRANSACTION".toList]) :=
    Reads.literal (by decide) (by decide) hword
  exact ((reads_word hne hw).append hspaced (boundary_cons (by decide) _)).read_eq

/-- A call that reports a failure leaves the content or loses the transaction, and one that
reports success did what it says. -/
theorem call_outcome {e : Engine} {store : Text → SqlValue → SqlValue} {catalog : Catalog}
    (db : Database e store catalog) (call : OrmTransaction.Call) (s : Store) :
    let r := (OrmTransaction.TDBSQLite e conv).answer call s
    (r.1 = false ∧ Abandons (db.content s.conn.log) (db.content r.2.conn.log)) ∨
    r.1 = true ∧ ∃ param, Changes store catalog param (commandOf call) (db.content s.conn.log)
      (db.content r.2.conn.log) := by
  have hclosed (hopen : ¬ s.conn.isOpen = true) :
      (OrmTransaction.TDBSQLite e conv).answer call s = (false, s) := by
    cases call <;> exact if_pos hopen
  have hreset : db.content (s.resetQueries e).conn.log = db.content s.conn.log := by
    obtain ⟨calls, hcalls, hlog⟩ := resetQueries_log e s
    rw [hlog, db.content_calls hcalls]
  by_cases hopen : s.conn.isOpen = true
  · cases call with
    | start =>
      have hstart : (OrmTransaction.TDBSQLite e conv).answer .start s = _ :=
        if_neg (not_not.mpr hopen)
      rw [hstart]
      exact transaction_command conv db .start (by decide)
        (read_transaction (w := "BEGIN".toList) (by decide) (by decide)) (fun _ => trivial) _ s
    | commit =>
      have hcommit : (OrmTransaction.TDBSQLite e conv).answer .commit s = _ :=
        if_neg (not_not.mpr hopen)
      rw [hcommit, ← hreset]
      exact transaction_command conv db .commit (by decide)
        (read_transaction (w := "COMMIT".toList) (by decide) (by decide)) (fun _ => trivial) _ _
    | rollback =>
      have hrollback : (OrmTransaction.TDBSQLite e conv).answer .rollback s = _ :=
        if_neg (not_not.mpr hopen)
      rw [hrollback, ← hreset]
      exact transaction_command conv db .rollback (by decide)
        (read_transaction (w := "ROLLBACK".toList) (by decide) (by decide)) (fun _ => trivial) _ _
  · rw [hclosed hopen]
    exact .inl ⟨rfl, .inl rfl⟩

end DatabaseMod.SqliteTransactionOutcomes
