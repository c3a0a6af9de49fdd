import DatabaseMod.SqliteTransactionOutcomes
import DatabaseMod.TableColumns

/-!
# Reading statements

A loop over the rows of a statement steps that statement and no other one. Where the statement does
not fail, this is all that the log says, however long the loop runs.
-/

namespace DatabaseMod.SqliteReads
open SqlTokens (Text)
open CoreValues CoreResultSet CoreQuery SqlEngine SqlDatabase SqliteDriver SqliteSteps SqliteCursor
open TableInspection TSQLiteResultSet

/-- No other statements than those of these texts are stepped, and none fails. -/
inductive OnlyReads (P : Text → Prop) (log : List Call) : List Call → Prop
  | refl : OnlyReads P log log
  | quiet {log' calls : List Call} (h : OnlyReads P log log') (hcalls : Unstepped calls) :
    OnlyReads P log (log' ++ calls)
  | step {log' : List Call} {handle : ℕ} {sql : Text} (h : OnlyReads P log log')
    (hprepared : Prepared log' handle sql) (hsql : P sql) (started : Option Run) :
    OnlyReads P log (log' ++ [⟨some handle, .step started, none⟩])

namespace OnlyReads

variable {P : Text → Prop} {log log' log'' : List Call}

theorem trans (h : OnlyReads P log log') (h' : OnlyReads P log' log'') : OnlyReads P log log'' := by
  induction h' with
  | refl => exact h
  | quiet _ hcalls ih => exact ih.quiet hcalls
  | step _ hprepared hsql started ih => exact ih.step hprepared hsql started

theorem quietly {calls : List Call} (hcalls : Unstepped calls) : OnlyReads P log (log ++ calls) :=
  .quiet .refl hcalls

theorem mono {Q : Text → Prop} (h : OnlyReads P log log') (hPQ : ∀ sql, P sql → Q sql) :
    OnlyReads Q log log' := by
  induction h with
  | refl => exact .refl
  | quiet _ hcalls ih => exact ih.quiet hcalls
  | step _ hprepared hsql started ih => exact ih.step hprepared (hPQ _ hsql) started

/-- What no quiet call and no such step changes stays. -/
theorem keeps {α : Type*} {content : List Call → α}
    (hquiet : ∀ log calls, Unstepped calls → content (log ++ calls) = content log)
    (hstep : ∀ log handle sql started, Prepared log handle sql → P sql →
      content (log ++ [⟨some handle, .step started, none⟩]) = content log)
    (h : OnlyReads P log log') : content log' = content log := by
  induction h with
  | refl => rfl
  | quiet _ hcalls ih => rw [hquiet _ _ hcalls, ih]
  | step _ hprepared hsql started ih => rw [hstep _ _ _ started hprepared hsql, ih]

end OnlyReads

/-! ### Fetching -/

section

variable {e : Engine} {sql : Text}

/-- The statement does not fail whenever it is run. -/
def NeverFails (e : Engine) (sql : Text) : Prop :=
  ∀ log handle, Prepared log handle sql → (e.run log handle).failure = none

/-- The result set has the statement of this text, and what is left of its run does not fail. -/
structure Steady (sql : Text) (s : Session) : Prop where
  isOpen : s.1.isOpen = true
  statement : ∃ stmt, s.2.stmtHandle = some stmt ∧ Prepared s.1.log stmt.handle sql ∧
    ∀ run ∈ stmt.running, run.failure = none

/-- A step that has read and can read on. -/
structure Reading (sql : Text) (s s' : Session) : Prop where
  steady : Steady sql s'
  reads : OnlyReads (· = sql) s.1.log s'.1.log

theorem Reading.trans {s s' s'' : Session} (h : Reading sql s s') (h' : Reading sql s' s'') :
    Reading sql s s'' := ⟨h'.steady, h.reads.trans h'.reads⟩

variable (hsafe : NeverFails e sql)
include hsafe

theorem Steady.nextRow {s : Session} (h : Steady sql s) :
    Reading sql s (TSQLiteResultSet.nextRow e s).2 := by
  obtain ⟨stmt, hstmt, hprepared, hrunning⟩ := h.statement
  by_cases hfake : s.2.fakeFirstRowFetch = true
  · rw [nextRow_fake e hfake]
    exact ⟨⟨h.isOpen, stmt, hstmt, hprepared, hrunning⟩, .refl⟩
  · have hfake : s.2.fakeFirstRowFetch = false := by simpa using hfake
    have hfailure : (stmt.run e s.1.log).failure = none := by
      unfold Statement.run
      cases hrun : stmt.running with
      | none => exact hsafe _ _ hprepared
      | some run => exact hrunning run hrun
    have hstep := OnlyReads.step (P := (· = sql)) .refl hprepared rfl (stmt.started e s.1.log)
    cases hrows : (stmt.run e s.1.log).rows with
    | cons row rest =>
      rw [nextRow_row hfake hstmt hrows]
      refine ⟨⟨h.isOpen, _, storeRow_stmtHandle _ row, hprepared.append _, ?_⟩, hstep⟩
      rintro run ⟨⟩
      exact hfailure
    | nil =>
      obtain ⟨calls, hidle, hdone⟩ := nextRow_done hfake hstmt hrows hfailure
      rw [hdone]
      refine ⟨⟨h.isOpen, stmt.rewind, storeEnd_stmtHandle _, hprepared.append _, nofun⟩, ?_⟩
      change OnlyReads _ _ (s.1.log ++ _ :: calls)
      rw [List.append_cons]
      exact hstep.quiet (unstepped_of_noStep hidle.noStep)

theorem Steady.fetch (conv : Conversions) {s : Session} (h : Steady sql s) :
    Reading sql s ((driver e conv).fetch s).2 := by
  have hnext := h.nextRow hsafe
  unfold Driver.fetch
  dsimp only
  split_ifs
  · change Reading sql s (firstRow e s).2
    unfold firstRow
    split_ifs
    · exact hnext
    · exact ⟨h, .refl⟩
  · exact ⟨h, .refl⟩
  · exact hnext
  · obtain ⟨⟨hopen, stmt, hstmt, hprepared, -⟩, hreads⟩ := hnext
    set ended : Session := ((TSQLiteResultSet.nextRow e s).2.1,
      { (TSQLiteResultSet.nextRow e s).2.2 with index := SQL_AfterLastRow }) with hended
    obtain ⟨calls, hidle, hreset⟩ := reset_eq e ended
    change Reading sql s (reset e ended)
    rw [hreset]
    exact ⟨⟨hopen, stmt.rewind, congrArg (Option.map Statement.rewind) hstmt,
      hprepared.append calls, nofun⟩, hreads.quiet (unstepped_of_noStep hidle.noStep)⟩
  · exact ⟨h, .refl⟩

theorem Steady.hasNext (conv : Conversions) {s : Session} (h : Steady sql s) (record : Record) :
    Reading sql s (TableInspection.hasNext (driver e conv) s record).2.1 := by
  have hfetch := h.fetch hsafe conv
  unfold TableInspection.hasNext
  dsimp only
  split_ifs <;> exact hfetch

/-- However many rows there are. -/
theorem Steady.eachRow (conv : Conversions) {α : Type*} {body : Record → α} {fuel : ℕ}
    {s s' : Session} {record record' : Record} {results : List α} (h : Steady sql s)
    (hrun : TableInspection.eachRow (driver e conv) body s record fuel =
      some (results, s', record')) : Reading sql s s' := by
  induction fuel generalizing s record results with
  | zero => cases hrun
  | succ fuel ih =>
    have hnext := h.hasNext hsafe conv record
    unfold TableInspection.eachRow at hrun
    dsimp only at hrun
    split_ifs at hrun
    · obtain ⟨⟨rest, last⟩, hrest, heq⟩ := Option.map_eq_some_iff.mp hrun
      cases heq
      exact hnext.trans (ih hnext.steady hrest)
    · obtain ⟨-, hlast⟩ := Prod.mk.inj (Option.some.inj hrun)
      rw [hlast] at hnext
      exact hnext

/-! ### Executing -/

theorem prefetch_reads {s : Session} (h : Steady sql s) : Reading sql s (prefetch e s).2 := by
  obtain ⟨⟨hopen, stmt, hstmt, hprepared, hrunning⟩, hreads⟩ := h.nextRow hsafe
  have hkept : (TDBConnection.error (nextRow e s).2.1.toTDBConnection).2.isOpen = true :=
    (TDBConnection.error_isOpen _).trans hopen
  unfold prefetch
  dsimp only
  split_ifs
  · exact ⟨⟨hkept, stmt, hstmt, hprepared, hrunning⟩, hreads⟩
  · exact ⟨⟨hkept, stmt, hstmt, hprepared, hrunning⟩, hreads⟩

theorem execute_reads (conv : Conversions) {s : Session} {stmt : Statement}
    (hopen : s.1.isOpen = true) (hstmt : s.2.stmtHandle = some stmt)
    (hprepared : Prepared s.1.log stmt.handle sql) (hok : (execute e conv s).1 = true) :
    Reading sql s (execute e conv s).2 := by
  rcases execute_cases e conv s with ⟨t, calls, heq, -⟩ | ⟨resets, calls, hidle, -, -, hbind, heq⟩
  · rw [heq] at hok
    cases hok
  · obtain ⟨bound, hbound, hno, -⟩ := bindParameters_log e conv
      (s.2.stmtHandle.map Statement.rewind) 0 (s.1.log ++ resets)
      (s.2.boundValues.take s.2.bindCount)
    rw [hbind] at hbound
    obtain rfl : calls = bound := List.append_cancel_left hbound
    have hquiet : Unstepped (resets ++ calls) := unstepped_of_noStep (hidle.noStep.append hno)
    have hlog : s.1.log ++ resets ++ calls = s.1.log ++ (resets ++ calls) := List.append_assoc ..
    have hsteady : Steady sql ({ s.1 with log := s.1.log ++ resets ++ calls }, rewound s.2) := by
      refine ⟨hopen, stmt.rewind, congrArg (Option.map Statement.rewind) hstmt, ?_, nofun⟩
      change Prepared (s.1.log ++ resets ++ calls) stmt.handle sql
      rw [hlog]
      exact hprepared.append _
    obtain ⟨hsteady', hreads⟩ := prefetch_reads hsafe hsteady
    rw [heq]
    refine ⟨hsteady', ?_⟩
    have hbefore : OnlyReads (· = sql) s.1.log (s.1.log ++ resets ++ calls) := by
      rw [hlog]
      exact .quietly hquiet
    exact hbefore.trans hreads

omit hsafe in
/-- The last lines of an execution leave the log. -/
theorem finish_reads (conv : Conversions) {s : Session} {r : Bool × Session}
    (h : Reading sql s r.2) : Reading sql s ((driver e conv).finish r).2 := by
  unfold Driver.finish
  split_ifs
  · exact ⟨⟨h.steady.isOpen, h.steady.statement⟩, h.reads⟩
  · exact h

omit hsafe in
/-- A text that the engine has a statement for is prepared as one. -/
theorem prepare_described (hdescribed : ∀ log, ∃ d, e.prepare log sql = .ok (some d)) {s : Session}
    (hquery : s.2.query = sql) (h : (prepare e sql s).1 = true) :
    ∃ stmt, (prepare e sql s).2.2.stmtHandle = some stmt := by
  have hopen : s.1.isOpen = true := by
    by_contra hclosed
    rw [prepare, if_pos hclosed] at h
    cases h
  have hcleaned : (if (cleanup s).2.query = [] then sql else (cleanup s).2.query) = sql := by
    obtain ⟨-, -, -, -, hcleanup⟩ := cleanup_eq s
    rw [hcleanup]
    exact (ite_congr rfl (fun _ => rfl) fun _ => hquery).trans (ite_self sql)
  obtain ⟨d, hd⟩ := hdescribed ((cleanup s).1.addQuery (cleanup s).2.id).log
  unfold prepare
  rw [if_neg (not_not.mpr hopen)]
  dsimp only
  rw [hcleaned, prepareStatement, hd]
  exact ⟨_, rfl⟩

theorem executeStatement_reads (conv : Conversions) {s : Session}
    (hdescribed : ∀ log, ∃ d, e.prepare log sql = .ok (some d)) (htrim : SqlTokens.trim sql = sql)
    (hok : ((driver e conv).executeStatement sql s).1 = true) :
    Reading sql s ((driver e conv).executeStatement sql s).2 := by
  unfold Driver.executeStatement at hok ⊢
  rw [htrim] at hok ⊢
  dsimp only at hok ⊢
  set t := (driver e conv).setQuery sql s with ht
  split_ifs at hok ⊢ with hblank hopen
  · cases hok
  · refine finish_reads conv ?_
    have hexecute : (driver e conv).executeQuery sql t = if (prepare e sql t).1 then
        execute e conv (prepare e sql t).2 else (false, (prepare e sql t).2) := rfl
    rw [Driver.finish_ok, hexecute] at hok
    rw [hexecute]
    split_ifs at hok ⊢ with hprepare
    obtain ⟨stmt, hstmt⟩ := prepare_described hdescribed rfl hprepare
    obtain ⟨-, hprepared, -⟩ := SqliteOutcomes.prepare_statement e hprepare stmt hstmt
    rw [show (if t.2.query = [] then sql else t.2.query) = sql from ite_self sql] at hprepared
    obtain ⟨calls, c, query, hidle, hstep, hcases⟩ := prepare_cases e sql (s := t) hopen
    have hquiet : Unstepped (calls ++ [c]) :=
      unstepped_of_noStep (hidle.noStep.append (by simpa [NoStep] using hstep))
    obtain ⟨conn, stmtHandle, heq, -, hlog, hconn, -⟩ | ⟨conn, heq, -⟩ := hcases
    · have hisOpen : (prepare e sql t).2.1.isOpen = true := by
        rw [heq]
        exact (congrArg TDBConnection.isOpen hconn).trans hopen
      obtain ⟨hsteady, hreads⟩ := execute_reads hsafe conv hisOpen hstmt hprepared hok
      refine ⟨hsteady, OnlyReads.trans ?_ hreads⟩
      rw [heq]
      change OnlyReads _ s.1.log conn.log
      rw [hlog]
      exact .quietly hquiet
    · rw [heq] at hprepare
      cases hprepare
  · cases hok

end

end DatabaseMod.SqliteReads
