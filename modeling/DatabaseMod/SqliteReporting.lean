import DatabaseMod.CoreReporting
import DatabaseMod.SqliteVerdict

/-!
# Reported failures of the SQLite driver

A failed execution always leaves an error on the connection. It may be an older one, though,
that made the driver take an execution for failed which the engine carried out.
-/

namespace DatabaseMod.SqliteReporting
open SqlTokens (Text trim)
open CoreValues CoreResultSet CoreQuery CoreReporting SqlEngine SqliteDriver SqliteSteps
open SqliteVerdict TSQLiteResultSet

variable (e : Engine) (conv : Conversions)

theorem addQuery_set (conn : TDBSQLite) (base : TDBConnection) (id : ℕ) :
    TDBSQLite.addQuery { conn with toTDBConnection := base } id =
      { conn.addQuery id with toTDBConnection := base } := by
  unfold TDBSQLite.addQuery
  dsimp only
  split_ifs
  · rfl
  · cases conn.queries.findIdx? Option.isNone <;> rfl

theorem removeQuery_set (conn : TDBSQLite) (base : TDBConnection) (id : ℕ) :
    TDBSQLite.removeQuery { conn with toTDBConnection := base } id =
      { conn.removeQuery id with toTDBConnection := base } := by
  unfold TDBSQLite.removeQuery
  dsimp only
  cases conn.queries.findIdx? (· = some id) <;> rfl

def sqliteView : View (driver e conv) where
  core conn := conn.toTDBConnection
  raised _ := 0
  core_set _ _ := rfl
  raised_set _ _ := rfl
  set_set _ _ _ := rfl
  isOpen_set _ _ h := h
  create_core conn := addQuery_connection conn conn.created
  create_raised _ := rfl
  create_set conn base := by
    dsimp only [driver, createResultSet]
    rw [addQuery_set]
  clear_core _ := rfl
  clear_raised _ := rfl
  clear_set _ _ := rfl

theorem sqlite_free (s t : Session) (h : (sqliteView e conv).Alike s t) :
    (sqliteView e conv).Alike (free s) (free t) := by
  obtain ⟨base, hopen, rfl⟩ := h
  refine ⟨base, ?_, ?_⟩
  · exact hopen.trans (congrArg _ (removeQuery_connection s.1 s.2.id).symm)
  · unfold free
    dsimp only [driver]
    rw [removeQuery_set]

theorem sqlite_prepare (statement : Text) :
    (sqliteView e conv).ReportsOpen (prepare e statement) fun _ => False := by
  refine ⟨fun s => s.1.isOpen = false, ⟨?_, ?_, fun s hs => ?_, fun s hs hok _ => ?_⟩,
    fun s (hs : s.1.isOpen = true) => by simp [hs]⟩
  · intro s t hst
    have hcleanup : (sqliteView e conv).Alike (cleanup s) (cleanup t) := by
      apply sqlite_free
      obtain ⟨base, hopen, rfl⟩ := hst
      exact ⟨base, hopen, rfl⟩
    have hisOpen : t.1.isOpen = s.1.isOpen := hst.isOpen
    obtain ⟨base, hopen, heq⟩ := hcleanup
    have hquery : t.2 = s.2 := by
      obtain ⟨-, -, rfl⟩ := hst
      rfl
    unfold prepare
    rw [hisOpen, heq]
    split_ifs
    · dsimp only [driver]
      rw [addQuery_set]
      cases (prepareStatement e ((cleanup s).1.addQuery (cleanup s).2.id).log
          (if (cleanup s).2.query = [] then statement else (cleanup s).2.query)).2 with
      | error code =>
        refine ⟨rfl, sqlite_free e conv _ _ ⟨_, ?_, rfl⟩⟩
        simpa [TDBSQLite.setError, sqliteView] using hopen
      | ok stmtHandle => exact ⟨rfl, base, by simpa [sqliteView] using hopen, rfl⟩
    · exact ⟨rfl, hst⟩
  · rintro s t ⟨base, hopen, rfl⟩
    change base.isOpen = false ↔ _
    rw [hopen]
    rfl
  · unfold prepare
    rw [if_pos (by simp [hs])]
    exact ⟨rfl, rfl, rfl⟩
  · have hopen : s.1.isOpen = true := by simpa using hs
    obtain ⟨calls, c, query, -, -, hcases⟩ := prepare_cases e statement hopen
    rcases hcases with ⟨conn, stmtHandle, heq, -⟩ | ⟨conn, heq, -, -, herror⟩
    · rw [heq] at hok
      cases hok
    · rw [heq]
      exact herror

theorem free_log (s : Session) : (free s).1.log = SqlEngine.finalize s.1.log s.2.stmtHandle := by
  unfold free
  dsimp only
  rw [removeQuery_log]

theorem hasError_free {s : Session} (h : s.1.hasError = true) : (free s).1.hasError = true := by
  obtain ⟨-, -, -, hconn, -⟩ := free_eq s
  rw [hconn]
  exact h

theorem prefetch_stored (s : Session) (h : (prefetch e s).1 = false) :
    (prefetch e s).2.1.hasError = true := by
  unfold prefetch at h ⊢
  dsimp only at h ⊢
  split_ifs at h ⊢ with hset
  exact (TDBConnection.hasError_error _).trans ((TDBConnection.isSet_error _).symm.trans hset)

/-- A failed execution leaves an error, though it need not be its own. -/
theorem execute_stored (s : Session) (h : (execute e conv s).1 = false) :
    (execute e conv s).2.1.hasError = true := by
  revert h
  unfold execute
  dsimp only
  obtain ⟨t, result⟩ := resetHandle e (s.1, { s.2 with fakeFirstRowFetch := false })
  intro h
  cases result with
  | some code => exact hasError_free (TDBConnection.hasError_setError _ (by decide) _ _ _)
  | none =>
    dsimp only at h ⊢
    split_ifs at h ⊢
    · cases hb : (bindParameters e conv t.2.stmtHandle 0 t.1.log
          (t.2.boundValues.take (parameterCount t.2.stmtHandle))).2 with
      | none =>
        rw [hb] at h
        exact prefetch_stored e _ h
      | some failure =>
        exact hasError_free (TDBConnection.hasError_setError _ (List.cons_ne_nil _ _) _ _ _)
    · exact hasError_free (TDBConnection.hasError_setError _ (by decide) _ _ _)

theorem nextRow_calls {s t : Session} (h : (sqliteView e conv).Alike s t) :
    (nextRow e t).2.1.log = (nextRow e s).2.1.log := by
  obtain ⟨base, hopen, rfl⟩ := h
  unfold nextRow
  dsimp only [driver]
  split_ifs
  · rfl
  · cases (stepStatement e s.1.log (beginFetch s.2).stmtHandle).2.2 <;> rfl

theorem prefetch_calls (s : Session) : (prefetch e s).2.1.log = (nextRow e s).2.1.log := by
  unfold prefetch
  dsimp only
  split_ifs <;> rfl

theorem execute_calls {s t : Session} (h : (sqliteView e conv).Alike s t) :
    (execute e conv t).2.1.log = (execute e conv s).2.1.log := by
  obtain ⟨base, hopen, rfl⟩ := h
  unfold execute
  dsimp only [driver, resetHandle]
  cases (resetStatement e s.1.log s.2.stmtHandle).2.2 with
  | some code =>
    dsimp only
    rw [free_log, free_log]
    rfl
  | none =>
    dsimp only
    split_ifs
    · cases (bindParameters e conv (resetStatement e s.1.log s.2.stmtHandle).2.1 0
          (resetStatement e s.1.log s.2.stmtHandle).1 _).2 with
      | none =>
        dsimp only
        rw [prefetch_calls, prefetch_calls]
        exact nextRow_calls e conv ⟨base, hopen, rfl⟩
      | some failure =>
        dsimp only
        rw [free_log, free_log]
        rfl
    · rw [free_log, free_log]
      rfl

theorem executeQuery_stored (statement : Text) {s : Session} (hopen : s.1.isOpen = true)
    (h : (executeQuery e conv statement s).1 = false) :
    (executeQuery e conv statement s).2.1.hasError = true := by
  obtain ⟨calls, c, query, -, -, hcases⟩ := prepare_cases e statement hopen
  unfold executeQuery at h ⊢
  rcases hcases with ⟨conn, stmtHandle, heq, -⟩ | ⟨conn, heq, -, -, herror⟩
  · rw [heq] at h ⊢
    exact execute_stored e conv _ h
  · rw [heq]
    exact herror

theorem executeQuery_calls (statement : Text) {s t : Session}
    (h : (sqliteView e conv).Alike s t) :
    (executeQuery e conv statement t).2.1.log = (executeQuery e conv statement s).2.1.log := by
  obtain ⟨silent, hprepare, -⟩ := sqlite_prepare e conv statement
  obtain ⟨hok, halike⟩ := hprepare.blind s t h
  unfold executeQuery
  dsimp only
  rw [hok]
  split_ifs
  · exact execute_calls e conv halike
  · obtain ⟨base, -, heq⟩ := halike
    rw [heq]
    rfl

/-- An execution that the engine carried out is taken for failed because of an earlier error. -/
def Misled (q : TDatabaseQuery TDBSQLite TSQLiteResultSet) : StatementCall → Prop
  | .prepare _ => False
  | .execute statement => q.conn.hasError = true ∧ ∃ ok q',
    q.execute (driver e conv) statement = some (ok, q') ∧
      Succeeded (callsBetween q.conn q'.conn)

/-- An operation that ends with the verdict of its own calls is told unless it is misled. -/
theorem told_iff_not_misled {f : Session → Bool × Session} (hverdict : ∀ s, Verdict e s (f s))
    (hcleared : ∀ s, (f s).1 = true → (f s).2.1.hasError = false)
    (hstored : ∀ s, (f s).1 = false → (f s).2.1.hasError = true)
    (hcalls : ∀ s t, (sqliteView e conv).Alike s t → (f t).2.1.log = (f s).2.1.log) (s : Session) :
    (sqliteView e conv).Told f s ↔
      ¬ (s.1.hasError = true ∧ Succeeded (callsBetween s.1 (f s).2.1)) := by
  have halike := View.alike_clean (V := sqliteView e conv) s
  obtain ⟨calls, hlog, hok, -⟩ := hverdict s
  obtain ⟨calls₀, hlog₀, hok₀, -⟩ := hverdict ((sqliteView e conv).clean s)
  -- both runs make the same native calls
  have hcleanLog : ((sqliteView e conv).clean s).1.log = s.1.log := rfl
  have hsame : calls₀ = calls := by
    rw [hcalls s _ halike, hcleanLog, hlog] at hlog₀
    exact (List.append_cancel_left hlog₀).symm
  have hclean := View.hasError_clean (V := sqliteView e conv) s
  have hbetween : callsBetween s.1 (f s).2.1 = calls := by
    rw [callsBetween, hlog, List.drop_left]
  have hshows (text : Text) : ((sqliteView e conv).clean s).1.Shows text ↔ s.1.Shows text :=
    or_congr_right (Option.map_eq_none_iff ..)
  rw [hsame, hcalls s _ halike, hshows] at hok₀
  rw [hbetween]
  constructor
  · rintro ⟨-, hfail⟩ ⟨herror, hsucceeded⟩
    have hfalse : (f s).1 = false := by
      rw [← Bool.not_eq_true, hok, herror]
      simp [hsucceeded.not_stepFailed]
    have htrue := hok₀.mpr (.inl ⟨hsucceeded, hclean⟩)
    rw [(hfail hfalse).2.1] at htrue
    cases htrue
  · intro hmisled
    -- without an earlier error the call fails all the same
    have hfails (hfalse : (f s).1 = false) :
        (f ((sqliteView e conv).clean s)).1 = false := by
      rw [← Bool.not_eq_true, hok₀]
      rintro (⟨hsucceeded, -⟩ | hhidden)
      · have herror : s.1.hasError = false := by simpa [hsucceeded] using hmisled
        rw [hok.mpr (.inl ⟨hsucceeded, herror⟩)] at hfalse
        cases hfalse
      · rw [hok.mpr (.inr hhidden)] at hfalse
        cases hfalse
    exact ⟨hcleared s, fun hfalse => ⟨hstored s hfalse, hfails hfalse, hstored _ (hfails hfalse)⟩⟩

/-- A result that the core passes on, or its own complaint. -/
theorem finish_stored {r : Bool × Session} (hr : r.1 = false → r.2.1.hasError = true)
    (h : ((driver e conv).finish r).1 = false) :
    ((driver e conv).finish r).2.1.hasError = true := by
  unfold Driver.finish at h ⊢
  split_ifs at h ⊢
  exact hr h

theorem finish_log (r : Bool × Session) :
    ((driver e conv).finish r).2.1.log = r.2.1.log :=
  Driver.finish_connection _ (fun _ _ => rfl) r

theorem executePrepared_told (s : Session) :
    (sqliteView e conv).Told (driver e conv).executePrepared s ↔
      ¬ (s.1.hasError = true ∧
        Succeeded (callsBetween s.1 ((driver e conv).executePrepared s).2.1)) := by
  refine told_iff_not_misled e conv (executePrepared_verdict e conv)
    (View.cleared_executePrepared (V := sqliteView e conv)) (fun s h => ?_) (fun s t hst => ?_) s
  · unfold Driver.executePrepared at h ⊢
    split_ifs at h ⊢
    · exact finish_stored e conv (execute_stored e conv s) h
    · exact View.hasError_raise (V := sqliteView e conv) s (by decide) _
  · unfold Driver.executePrepared
    rw [hst.isOpen]
    split_ifs
    · rw [finish_log, finish_log]
      exact execute_calls e conv hst
    · obtain ⟨base, -, rfl⟩ := hst
      rfl

theorem executeStatement_told (statement : Text) (s : Session) :
    (sqliteView e conv).Told ((driver e conv).executeStatement statement) s ↔
      ¬ (s.1.hasError = true ∧ Succeeded (callsBetween s.1
        ((driver e conv).executeStatement statement s).2.1)) := by
  refine told_iff_not_misled e conv (executeStatement_verdict e conv statement)
    (View.cleared_executeStatement (V := sqliteView e conv) statement) (fun s h => ?_) (fun s t hst => ?_) s
  · unfold Driver.executeStatement at h ⊢
    dsimp only at h ⊢
    split_ifs at h ⊢ with _ hopen
    · exact View.hasError_raise (V := sqliteView e conv) s (by decide) _
    · exact finish_stored e conv (executeQuery_stored e conv statement hopen) h
    · exact View.hasError_raise (V := sqliteView e conv) _ (by decide) _
  · have hquery : (sqliteView e conv).Alike
        ((driver e conv).setQuery (trim statement) s)
        ((driver e conv).setQuery (trim statement) t) := by
      obtain ⟨base, hopen, rfl⟩ := hst
      exact ⟨base, hopen, rfl⟩
    unfold Driver.executeStatement
    dsimp only
    rw [hquery.isOpen]
    split_ifs
    · obtain ⟨base, -, rfl⟩ := hst
      rfl
    · rw [finish_log, finish_log]
      exact executeQuery_calls e conv statement hquery
    · obtain ⟨base, -, rfl⟩ := hst
      rfl

theorem sqlite_reported_iff (q : TDatabaseQuery TDBSQLite TSQLiteResultSet) (c : StatementCall) :
    Reported (sqliteView e conv) q c ↔ ¬ Misled e conv q c := by
  cases c with
  | prepare statement =>
    rw [prepare_reported_iff fun _ => sqlite_prepare e conv statement]
    simp [Misled]
  | execute statement =>
    -- the native calls and the stored error before them are those of the connection
    have hmisled {s : Session} {r : Bool × Session} (hlog : s.1.log = q.conn.log)
        (hconn : s.1.toTDBConnection = q.conn.toTDBConnection)
        (hcall : q.execute (driver e conv) statement =
          some (r.1, ⟨r.2.1, some r.2.2⟩)) :
        s.1.hasError = true ∧ Succeeded (callsBetween s.1 r.2.1) ↔
          Misled e conv q (.execute statement) := by
      unfold Misled callsBetween
      dsimp only
      rw [hcall, hlog, hconn]
      refine and_congr_right' ⟨fun h => ⟨_, _, rfl, h⟩, ?_⟩
      rintro ⟨ok, q', heq, h⟩
      cases heq
      exact h
    by_cases hstatement : statement ≠ []
    · have hcall := execute_call_statement (D := driver e conv) q hstatement
      obtain ⟨hlog, hconn⟩ := opened_eq e conv q.conn q.resultSet
      refine (reported_iff_told (View.opened_raised q.conn q.resultSet) hcall ?_).trans
        ((forall_prop_of_true rfl).trans ((executeStatement_told e conv statement _).trans
          (not_congr (hmisled hlog hconn hcall))))
      rw [← View.opened_clean]
      exact execute_call_statement _ hstatement
    · obtain ⟨conn, resultSet⟩ := q
      cases resultSet with
      | some rs =>
        have hcall := execute_call_some (D := driver e conv) conn rs hstatement
        exact (reported_iff_told (s := (conn, rs)) rfl hcall
          (execute_call_some _ rs hstatement)).trans ((forall_prop_of_true rfl).trans
            ((executePrepared_told e conv (conn, rs)).trans (not_congr (hmisled rfl rfl hcall))))
      | none =>
        refine iff_of_true (reported_noResultSet conn hstatement) ?_
        rintro ⟨-, ok, q', hcall, hsucceeded⟩
        unfold TDatabaseQuery.execute at hcall
        rw [if_neg hstatement] at hcall
        dsimp only at hcall
        split_ifs at hcall
        cases hcall
        have hnone : callsBetween conn conn = [] := List.drop_length
        change Succeeded (callsBetween conn conn) at hsucceeded
        rw [hnone] at hsucceeded
        exact Idle.nil.noStep.not_succeeded hsucceeded

end DatabaseMod.SqliteReporting
