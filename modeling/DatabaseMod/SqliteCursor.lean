import DatabaseMod.SqliteInvariant
import DatabaseMod.SqliteVerdict

/-!
# The SQLite cursor

Rows are delivered through two flags and an index: execution fetches the first row ahead,
and `nextRow` hands it out. What a sequence of calls delivers is compared with the run that
the engine started for the execution.
-/

namespace DatabaseMod.SqliteCursor
open SqlTokens (Text trim)
open CoreValues CoreResultSet CoreQuery CoreInvariant SqlEngine SqliteDriver SqliteSteps
open SqliteInvariant
open SqliteVerdict (callsBetween singleRow opened execute_verdict nextRow_step)
open TSQLiteResultSet

variable (e : Engine) (conv : Conversions)

abbrev Query := TDatabaseQuery TDBSQLite TSQLiteResultSet

theorem callsBetween_eq {before after : TDBSQLite} {calls : List Call}
    (h : after.log = before.log ++ calls) : callsBetween before after = calls := by
  rw [callsBetween, h, List.drop_left]

/-! ### Successful executions -/

/-- `t` executes with success and leaves the log and the result set of `r`. That it is reported
as a success is not enough: a step that fails need not leave an error that shows. -/
structure Executed (t : Session) (r : Session) : Prop where
  succeeds : (execute e conv t).1 = true
  log_eq : r.1.log = (execute e conv t).2.1.log
  resultSet_eq : r.2 = (execute e conv t).2.2
  unfailed : ¬ StepFailed (callsBetween t.1 r.1)

/-- The run of a successful execution up to its first row, or to its end. -/
theorem Executed.cases {t r : Session} (h : Executed e conv t r) :
    ∃ stmt calls, t.2.stmtHandle = some stmt ∧ NoStep calls ∧
      ((∃ row rest failure, e.run (t.1.log ++ calls) stmt.handle = ⟨row :: rest, failure⟩ ∧
        r.1.log = t.1.log ++ calls ++
          [⟨some stmt.handle, .step (some ⟨row :: rest, failure⟩), none⟩] ∧
        r.2 = { storeRow { beginFetch (rewound t.2) with
            stmtHandle := some { stmt with running := some ⟨rest, failure⟩ } } row with
          isActive := true }) ∨
      ∃ idle, Idle idle ∧ e.run (t.1.log ++ calls) stmt.handle = ⟨[], none⟩ ∧
        r.1.log = t.1.log ++ calls ++
          ⟨some stmt.handle, .step (some ⟨[], none⟩), none⟩ :: idle ∧
        r.2 = { storeEnd { beginFetch (rewound t.2) with
            stmtHandle := some stmt.rewind } with isActive := true }) := by
  rw [h.resultSet_eq, h.log_eq]
  refine execute_true e conv h.succeeds fun calls hlog => ?_
  rw [← h.log_eq] at hlog
  rw [← callsBetween_eq hlog]
  exact h.unfailed

theorem executed_finish {t : Session}
    (h : ((driver e conv).finish (execute e conv t)).1 = true)
    (hok : ¬ StepFailed (callsBetween t.1 ((driver e conv).finish (execute e conv t)).2.1)) :
    Executed e conv t ((driver e conv).finish (execute e conv t)).2 := by
  unfold Driver.finish at h hok ⊢
  split_ifs at h hok ⊢ with hsucceeds
  · exact ⟨hsucceeds, rfl, rfl, hok⟩
  · exact absurd h hsucceeds

theorem executePrepared_true {s : Session} (h : ((driver e conv).executePrepared s).1 = true)
    (hok : ¬ StepFailed (callsBetween s.1 ((driver e conv).executePrepared s).2.1)) :
    Executed e conv s ((driver e conv).executePrepared s).2 := by
  unfold Driver.executePrepared at h hok ⊢
  split_ifs at h hok ⊢ with hopen
  · exact executed_finish e conv h hok
  · cases h

/-- The step of an execution does not fail if its run begins with a row or has no failure. -/
theorem execute_unfailed {s : Session} (h : (execute e conv s).1 = true) {calls : List Call}
    (hlog : (execute e conv s).2.1.log = s.1.log ++ calls) {run : Run}
    (hruns : startedRuns calls = [run]) (hbegins : run.rows ≠ [] ∨ run.failure = none) :
    ¬ StepFailed calls := by
  rcases execute_cases e conv s with ⟨t, _, heq, -⟩ | ⟨resets, bound, hidle, -, -, hbind, heq⟩
  · rw [heq] at h
    cases h
  obtain ⟨bound', hlog', hno, -⟩ := bindParameters_log e conv (s.2.stmtHandle.map Statement.rewind) 0
    (s.1.log ++ resets) (s.2.boundValues.take s.2.bindCount)
  rw [hbind] at hlog'
  obtain rfl : bound = bound' := List.append_cancel_left hlog'
  set t : Session := ({ s.1 with log := s.1.log ++ resets ++ bound }, rewound s.2) with ht
  obtain ⟨c, idle, hstepped, hstep, hidle', hfails, -⟩ := nextRow_step e t rfl
  have hprefetch : (prefetch e t).2.1.log = (nextRow e t).2.1.log := by
    unfold prefetch
    dsimp only
    split_ifs <;> rfl
  obtain rfl : calls = (resets ++ bound) ++ c :: idle := by
    refine List.append_cancel_left (hlog.symm.trans ?_)
    rw [heq, hprefetch, hstepped, ht]
    simp only [List.append_assoc]
  have hno' : NoStep (resets ++ bound) := hidle.noStep.append hno
  rw [startedRuns_append, hno'.startedRuns_eq, startedRuns_cons, hidle'.noStep.startedRuns_eq,
    List.append_nil, List.nil_append] at hruns
  rw [hno'.stepFailed_append, hidle'.stepFailed_cons hstep]
  intro hfailed
  have hstarted : c.started = some run := by simpa using hruns
  obtain ⟨hrows, hfailure⟩ := hfails hfailed run hstarted
  exact hbegins.elim (fun hne => hne hrows) hfailure

/-- Calls before that do not step leave the same calls to judge. -/
theorem stepFailed_after {before mid after : TDBSQLite} {calls calls' : List Call}
    (hmid : mid.log = before.log ++ calls) (hno : NoStep calls)
    (hafter : after.log = mid.log ++ calls') :
    StepFailed (callsBetween before after) ↔ StepFailed (callsBetween mid after) := by
  have hlog : after.log = before.log ++ (calls ++ calls') := by
    rw [hafter, hmid, List.append_assoc]
  rw [callsBetween_eq hlog, callsBetween_eq hafter, hno.stepFailed_append]

/-- Executing a text prepares it first; the statement is then executed as a prepared one. -/
theorem executeStatement_true {statement : Text} {s : Session}
    (h : ((driver e conv).executeStatement statement s).1 = true)
    (hok : ¬ StepFailed (callsBetween s.1 ((driver e conv).executeStatement statement s).2.1)) :
    ∃ t calls query stmtHandle, Executed e conv t ((driver e conv).executeStatement statement s).2 ∧
      NoStep calls ∧ t.1.log = s.1.log ++ calls ∧
      t.2 = { cleaned { s.2 with query := trim statement } with
        query := query, stmtHandle := stmtHandle } := by
  unfold Driver.executeStatement at h hok ⊢
  dsimp only at h hok ⊢
  split_ifs at h hok ⊢ with hblank hopen
  · cases h
  · obtain ⟨calls, c, query, hidle, hstep, hcases⟩ := prepare_cases e statement
      (s := (driver e conv).setQuery (trim statement) s) hopen
    change ((driver e conv).finish (executeQuery e conv statement _)).1 = true at h
    change ¬ StepFailed (callsBetween s.1
      ((driver e conv).finish (executeQuery e conv statement _)).2.1) at hok
    change ∃ t calls query stmtHandle, Executed e conv t
      ((driver e conv).finish (executeQuery e conv statement _)).2 ∧ _
    unfold executeQuery at h hok ⊢
    rcases hcases with ⟨conn, stmtHandle, heq, -, hlog, -⟩ | ⟨conn, heq, -⟩
    · rw [heq] at h hok ⊢
      have hno : NoStep (calls ++ [c]) := hidle.noStep.append (by simpa [NoStep] using hstep)
      obtain ⟨executed, hexecuted, -⟩ := (execute_verdict e conv (conn,
        { cleaned { s.2 with query := trim statement } with
          query := query, stmtHandle := stmtHandle })).finish e conv
      exact ⟨_, _, query, stmtHandle,
        executed_finish e conv h ((stepFailed_after hlog hno hexecuted).not.mp hok), hno, hlog, rfl⟩
    · rw [heq] at h
      cases h
  · cases h

/-- The record of a query; without a result set it is the one a new result set has. -/
def record (q : Query) : TQueryRecord := q.resultSet.elim .create (·.record)

/-- The values of a query, which a new result set does not have. -/
def slots (q : Query) : List (Option TDBType) := q.resultSet.elim [] (·.values)

def clearSlots (values : List (Option TDBType)) : List (Option TDBType) :=
  values.map (Option.map .clear)

theorem opened_record (q : Query) :
    ((driver e conv).opened q.conn q.resultSet).2.record = record q := by
  unfold record
  cases q.resultSet <;> rfl

theorem opened_values (q : Query) :
    ((driver e conv).opened q.conn q.resultSet).2.values = clearSlots (slots q) := by
  unfold slots
  cases q.resultSet <;> rfl

/-- A successful execution of a query is one of its result set, after calls that do not
step anything. -/
theorem execute_some_true {q q' : Query} {statement : Text}
    (hready : ∀ rs ∈ q.resultSet, Ready rs)
    (h : q.execute (driver e conv) statement = some (true, q'))
    (hok : ¬ StepFailed (callsBetween q.conn q'.conn)) :
    ∃ t rs calls, q'.resultSet = some rs ∧ Executed e conv t (q'.conn, rs) ∧ Ready t.2 ∧
      NoStep calls ∧ t.1.log = q.conn.log ++ calls ∧ t.2.record = record q ∧
      ∃ n, t.2.values = clearSlots^[n] (slots q) := by
  unfold TDatabaseQuery.execute at h
  split at h
  next hne =>
    simp only [Option.some.injEq, Prod.mk.injEq] at h
    obtain ⟨hsucceeds, rfl⟩ := h
    have hlog := (SqliteVerdict.opened_eq e conv q.conn q.resultSet).1
    have hbetween (after : TDBSQLite) :
        callsBetween q.conn after = callsBetween ((driver e conv).opened q.conn q.resultSet).1 after :=
      congrArg (fun log : List Call => after.log.drop log.length) hlog.symm
    rw [hbetween] at hok
    obtain ⟨t, calls, query, stmtHandle, ht, hno, hlog, hrs⟩ :=
      executeStatement_true e conv hsucceeds hok
    have hopened := opened_preserves (ready_preserved e conv) hready q.conn
    refine ⟨t, _, calls, rfl, ht, ?_, hno, ?_, ?_, 2, ?_⟩
    · rw [hrs]
      exact ((hopened.with_query _).cleaned.with_query query).with_stmtHandle stmtHandle
    · rw [hlog, (SqliteVerdict.opened_eq e conv q.conn q.resultSet).1]
    · rw [hrs]
      exact opened_record e conv q
    · rw [hrs]
      exact congrArg clearSlots (opened_values e conv q)
  next =>
    split at h
    next rs hrs =>
      simp only [Option.some.injEq, Prod.mk.injEq] at h
      obtain ⟨hsucceeds, rfl⟩ := h
      exact ⟨(q.conn, rs), _, [], rfl, executePrepared_true e conv hsucceeds hok, hready rs hrs,
        Idle.nil.noStep, (List.append_nil _).symm, by simp [record, hrs], 0, by simp [slots, hrs]⟩
    next =>
      dsimp only at h
      split at h <;> cases h

/-! ### One run for each execution -/

/-- A fetch in this state steps a rewound statement and so runs it again. -/
def restarts (rs : TSQLiteResultSet) : Bool :=
  rs.isActive && !rs.fakeFirstRowFetch && rs.stmtHandle.any (·.running.isNone)

/-- A result set between an execution and the next one. -/
structure Open (rs : TSQLiteResultSet) : Prop extends Ready rs where
  isActive_eq : rs.isActive = true
  stmtHandle_isSome : rs.stmtHandle.isSome = true
  begun : rs.initialFetch = true → rs.stmtHandle.all (·.running.isNone) = true

theorem reset_eq (s : Session) :
    ∃ calls, Idle calls ∧ reset e s = ({ s.1 with log := s.1.log ++ calls },
      { s.2 with
        initialFetch := true
        index := SQL_BeforeFirstRow
        stmtHandle := s.2.stmtHandle.map Statement.rewind }) :=
  resetHandle_eq e (s.1, { s.2 with initialFetch := true, index := SQL_BeforeFirstRow })

/-- The end of the rows resets the cursor, unless it stands before the first row. -/
theorem fetch_eq {s : Session} (h : Ready s.2) (hactive : s.2.isActive = true) :
    (driver e conv).fetch s =
      if s.2.index = SQL_BeforeFirstRow ∨ (nextRow e s).1 = true then nextRow e s
      else (false, reset e (nextRow e s).2) := by
  have hactive : ¬ ¬ ((driver e conv).base s.2).isActive = true := not_not.mpr hactive
  have hlast : ¬ ((driver e conv).base s.2).index = SQL_AfterLastRow := by
    intro hindex
    have hge := h.index_ge
    rw [show s.2.index = SQL_AfterLastRow from hindex] at hge
    exact absurd hge (by decide)
  unfold Driver.fetch
  dsimp only
  rw [if_neg hactive, if_neg hlast]
  by_cases hfirst : s.2.index = SQL_BeforeFirstRow
  · have heq : (driver e conv).firstRow s = nextRow e s := if_pos hfirst
    rw [if_pos (show ((driver e conv).base s.2).index = SQL_BeforeFirstRow from hfirst), heq,
      if_pos (Or.inl hfirst)]
  · rw [if_neg (show ¬ ((driver e conv).base s.2).index = SQL_BeforeFirstRow from hfirst)]
    change (if (nextRow e s).1 = true then (true, (nextRow e s).2)
      else (false, reset e (nextRow e s).2)) = _
    by_cases hnext : (nextRow e s).1 = true
    · rw [if_pos hnext, if_pos (.inr hnext), ← hnext]
    · rw [if_neg hnext, if_neg (not_or.mpr ⟨hfirst, hnext⟩)]

theorem nextRow_open {s : Session} (h : Open s.2) :
    ∃ calls, (nextRow e s).2.1.log = s.1.log ++ calls ∧
      (startedRuns calls).length = (if restarts s.2 then 1 else 0) ∧ Open (nextRow e s).2.2 ∧
      (restarts s.2 = false → (nextRow e s).1 = false → restarts (nextRow e s).2.2 = true) := by
  have hready := h.toReady.nextRow e
  by_cases hfake : s.2.fakeFirstRowFetch = true
  · rw [nextRow_fake e hfake] at hready ⊢
    refine ⟨[], (List.append_nil _).symm, by simp [restarts, hfake, startedRuns], ?_, ?_⟩
    · exact ⟨hready, h.isActive_eq, h.stmtHandle_isSome, h.begun⟩
    · intro _ hfalse
      cases hfalse
  have hfake : s.2.fakeFirstRowFetch = false := by simpa using hfake
  obtain ⟨stmt, hstmt⟩ := Option.isSome_iff_exists.mp h.stmtHandle_isSome
  have hrestarts : restarts s.2 = stmt.running.isNone := by
    simp [restarts, h.isActive_eq, hfake, hstmt]
  have hstarted (result : Option ErrorCode) (calls : List Call) (hidle : Idle calls) :
      (startedRuns (⟨some stmt.handle, .step (stmt.started e s.1.log), result⟩ :: calls)).length =
        if restarts s.2 then 1 else 0 := by
    rw [startedRuns_cons, hidle.noStep.startedRuns_eq, List.append_nil, hrestarts]
    cases hrunning : stmt.running <;> simp [Call.started, Statement.started, hrunning]
  have hactive : (beginFetch s.2).isActive = true := by
    rw [beginFetch_base]
    exact h.isActive_eq
  have hbegun : restarts s.2 = false → s.2.initialFetch = false := by
    intro hno
    by_contra hinitial
    have hnone := h.begun (by simpa using hinitial)
    rw [hstmt, Option.all_some, ← hrestarts, hno] at hnone
    cases hnone
  cases hrows : (stmt.run e s.1.log).rows with
  | cons row rest =>
    rw [nextRow_row hfake hstmt hrows] at hready ⊢
    refine ⟨_, rfl, hstarted none [] .nil, ?_, fun _ hfalse => by cases hfalse⟩
    refine ⟨hready, ?_, ?_, ?_⟩
    · exact (ensureRecord_isActive _).trans hactive
    · rw [storeRow_stmtHandle]
      rfl
    · intro hinitial
      change (ensureRecord _).initialFetch = true at hinitial
      rw [ensureRecord_initialFetch] at hinitial
      exact absurd hinitial (by simp [beginFetch_initialFetch])
  | nil =>
    cases hrun : (stmt.run e s.1.log).failure with
    | none =>
      obtain ⟨calls, hidle, heq⟩ := nextRow_done hfake hstmt hrows hrun
      rw [heq] at hready ⊢
      have hactive : (storeEnd { beginFetch s.2 with stmtHandle := some stmt.rewind }).isActive =
          true := (ensureRecord_isActive _).trans hactive
      refine ⟨_, rfl, hstarted none calls hidle, ⟨hready, hactive, ?_, ?_⟩, fun _ _ => ?_⟩
      · rw [storeEnd_stmtHandle]
        rfl
      · intro _
        rw [storeEnd_stmtHandle]
        rfl
      · unfold restarts
        rw [hactive, storeEnd_stmtHandle]
        rfl
    | some code =>
      obtain ⟨calls, conn, hidle, hlog, -, heq⟩ := nextRow_failed hfake hstmt hrows hrun
      rw [heq] at hready ⊢
      refine ⟨_, hlog, hstarted (some code) calls hidle, ⟨hready, hactive, rfl, fun _ => rfl⟩, ?_⟩
      intro hno _
      have hfake' : (beginFetch s.2).fakeFirstRowFetch = false := by
        unfold beginFetch
        rw [if_neg (by simp [hbegun hno])]
        exact hfake
      have hactive' : s.2.isActive = true := h.isActive_eq
      simp [restarts, hactive', hfake', Statement.rewind]

theorem fetch_open {s : Session} (h : Open s.2) :
    ∃ calls, ((driver e conv).fetch s).2.1.log = s.1.log ++ calls ∧
      (startedRuns calls).length = (if restarts s.2 then 1 else 0) ∧
      Open ((driver e conv).fetch s).2.2 ∧
      (restarts s.2 = false → ((driver e conv).fetch s).1 = false →
        restarts ((driver e conv).fetch s).2.2 = true) := by
  obtain ⟨calls, hlog, hstarted, hopen, hrestarts⟩ := nextRow_open e h
  rw [fetch_eq e conv h.toReady h.isActive_eq]
  by_cases hkeep : s.2.index = SQL_BeforeFirstRow ∨ (nextRow e s).1 = true
  · rw [if_pos hkeep]
    exact ⟨calls, hlog, hstarted, hopen, hrestarts⟩
  · obtain ⟨hfirst, hnext⟩ := not_or.mp hkeep
    obtain ⟨idle, hidle, heq⟩ := reset_eq e (nextRow e s).2
    have hsome : ((nextRow e s).2.2.stmtHandle.map Statement.rewind).isSome = true := by
      rw [Option.isSome_map]
      exact hopen.stmtHandle_isSome
    have hrewound : ((nextRow e s).2.2.stmtHandle.map Statement.rewind).all
        (·.running.isNone) = true := by
      cases (nextRow e s).2.2.stmtHandle <;> rfl
    rw [if_neg hkeep, heq]
    refine ⟨calls ++ idle, ?_, ?_, ⟨⟨?_, le_rfl, fun _ => rfl⟩, hopen.isActive_eq, hsome,
      fun _ => hrewound⟩, ?_⟩
    · rw [hlog, List.append_assoc]
    · rw [startedRuns_append, hidle.noStep.startedRuns_eq, List.append_nil, hstarted]
    · exact ⟨hopen.values_length, hopen.bindCount_le⟩
    · intro hno _
      have hagain := hrestarts hno (by simpa using hnext)
      obtain ⟨hpending, -⟩ := Bool.and_eq_true_iff.mp hagain
      refine Bool.and_eq_true_iff.mpr ⟨hpending, ?_⟩
      obtain ⟨stmt, hstmt⟩ := Option.isSome_iff_exists.mp hopen.stmtHandle_isSome
      rw [hstmt]
      rfl

/-- A successful execution runs the statement once and opens the result set. -/
theorem Executed.opens {t r : Session} (h : Executed e conv t r) (hready : Ready t.2) :
    Open r.2 ∧ ∃ calls, r.1.log = t.1.log ++ calls ∧ (startedRuns calls).length = 1 := by
  have hr := hready.execute e conv
  rw [← h.resultSet_eq] at hr
  obtain ⟨stmt, calls, -, hno, hcases⟩ := h.cases e conv
  rcases hcases with ⟨row, rest, failure, -, hlog, hrs⟩ | ⟨idle, hidle, -, hlog, hrs⟩
  · rw [hrs] at hr ⊢
    refine ⟨⟨hr, rfl, ?_, fun hinitial => ?_⟩, _, hlog.trans (List.append_assoc ..), ?_⟩
    · exact congrArg Option.isSome (storeRow_stmtHandle _ row)
    · change (ensureRecord _).initialFetch = true at hinitial
      rw [ensureRecord_initialFetch] at hinitial
      exact absurd hinitial (by simp [beginFetch_initialFetch])
    · rw [startedRuns_append, hno.startedRuns_eq]
      rfl
  · rw [hrs] at hr ⊢
    refine ⟨⟨hr, rfl, ?_, fun _ => ?_⟩, _, hlog.trans (List.append_assoc ..), ?_⟩
    · exact congrArg Option.isSome (storeEnd_stmtHandle _)
    · exact congrArg (Option.all (·.running.isNone)) (storeEnd_stmtHandle _)
    · rw [startedRuns_append, hno.startedRuns_eq, startedRuns_cons, hidle.noStep.startedRuns_eq]
      rfl

/-! ### Sequences of calls on an executed query -/

/-- The calls that may stand between an execution and the next one. -/
def isCursorCall : QueryCall → Bool
  | .nextRow | .bind _ => true
  | .prepare _ | .execute _ => false

/-- No row is asked for while the statement stands rewound and no row is pending. -/
def NeverRestarts (q : Query) : List QueryCall → Prop
  | [] => True
  | c :: cs => (c = .nextRow → q.resultSet.any restarts = false) ∧
      ∀ b q', q.call (driver e conv) c = some (b, q') → NeverRestarts q' cs

/-- After a fetch that returned False every later one does. -/
def StaysFalse (results : List (QueryCall × Bool)) : Prop :=
  results.Pairwise fun earlier later =>
    earlier = (.nextRow, false) → later.1 = .nextRow → later.2 = false

instance (results : List (QueryCall × Bool)) : Decidable (StaysFalse results) :=
  inferInstanceAs (Decidable (List.Pairwise _ _))

theorem call_open {q q' : Query} {rs : TSQLiteResultSet} {c : QueryCall} {b : Bool}
    (hc : isCursorCall c = true) (hrs : q.resultSet = some rs) (h : Open rs)
    (hcall : q.call (driver e conv) c = some (b, q')) :
    ∃ rs' calls, q'.resultSet = some rs' ∧ Open rs' ∧ q'.conn.log = q.conn.log ++ calls ∧
      (startedRuns calls).length = (if c = .nextRow ∧ restarts rs then 1 else 0) ∧
      (restarts rs = false → c = .nextRow → b = false → restarts rs' = true) ∧
      (c ≠ .nextRow → restarts rs' = restarts rs) := by
  cases c with
  | prepare statement => cases hc
  | execute statement => cases hc
  | nextRow =>
    obtain ⟨calls, hlog, hstarted, hopen, hrestarts⟩ := fetch_open e conv (s := (q.conn, rs)) h
    have hnext : q.nextRow (driver e conv) = (((driver e conv).fetch (q.conn, rs)).1,
        ⟨((driver e conv).fetch (q.conn, rs)).2.1, some ((driver e conv).fetch (q.conn, rs)).2.2⟩) := by
      rw [TDatabaseQuery.nextRow, hrs]
    have heq := hnext.symm.trans (Option.some.inj hcall)
    cases heq
    exact ⟨_, calls, rfl, hopen, hlog, by simpa using hstarted, fun hno _ => hrestarts hno,
      fun hne => absurd rfl hne⟩
  | bind call =>
    have hready := call_preserves (ready_preserved e conv) (fun rs' hrs' => by
      rw [hrs] at hrs'
      cases hrs'
      exact h.toReady) hcall
    cases hcall
    have hactive : (call.apply rs.toTQueryResultSet).isActive = rs.isActive := by
      cases call <;> rfl
    have hbound : (q.bind (driver e conv) call).resultSet =
        some { rs with toTQueryResultSet := call.apply rs.toTQueryResultSet } := by
      change q.resultSet.map _ = _
      rw [hrs]
      rfl
    refine ⟨_, [], hbound, ⟨hready _ hbound, hactive.trans h.isActive_eq, h.stmtHandle_isSome,
      h.begun⟩, (List.append_nil _).symm, by simp [startedRuns], ?_, ?_⟩
    · intro _ hnext
      cases hnext
    · intro _
      unfold restarts
      rw [hactive]

/-- The runs started by cursor calls are counted by the fetches that restart, and a query
that stands rewound allows no further fetch. -/
theorem calls_open {q q' : Query} {rs : TSQLiteResultSet} {cs : List QueryCall}
    {results : List (QueryCall × Bool)} (hcs : ∀ c ∈ cs, isCursorCall c = true)
    (hrs : q.resultSet = some rs) (h : Open rs)
    (hcalls : q.calls (driver e conv) cs = some (results, q')) :
    ∃ calls, q'.conn.log = q.conn.log ++ calls ∧
      (startedRuns calls = [] ↔ NeverRestarts e conv q cs) ∧
      (NeverRestarts e conv q cs → StaysFalse results ∧
        (restarts rs = true → ∀ r ∈ results, r.1 ≠ .nextRow)) := by
  induction cs generalizing q rs results with
  | nil =>
    cases hcalls
    exact ⟨[], (List.append_nil _).symm, by simp [startedRuns, NeverRestarts],
      fun _ => ⟨.nil, by simp⟩⟩
  | cons c cs ih =>
    obtain ⟨b, q₁, rest, hcall, hrest, rfl⟩ := TDatabaseQuery.calls_cons _ hcalls
    obtain ⟨hc, hcs⟩ := List.forall_mem_cons.mp hcs
    obtain ⟨rs₁, calls, hrs₁, hopen, hlog, hstarted, hfalse, hsame⟩ :=
      call_open e conv hc hrs h hcall
    obtain ⟨calls', hlog', hiff, hnever⟩ := ih hcs hrs₁ hopen hrest
    have hstep : NeverRestarts e conv q (c :: cs) ↔
        (c = .nextRow → restarts rs = false) ∧ NeverRestarts e conv q₁ cs := by
      simp only [NeverRestarts, hrs, Option.any_some, hcall, Option.some.injEq, Prod.mk.injEq,
        and_imp]
      exact and_congr_right fun _ => ⟨fun h => h b q₁ rfl rfl, fun h _ _ _ hq => hq ▸ h⟩
    refine ⟨calls ++ calls', by rw [hlog', hlog, List.append_assoc], ?_, ?_⟩
    · rw [startedRuns_append, List.append_eq_nil_iff, hiff, hstep, ← List.length_eq_zero_iff,
        hstarted]
      refine and_congr_left' ?_
      by_cases hnext : c = .nextRow
      · cases restarts rs <;> simp [hnext]
      · simp [hnext]
    · intro hno
      obtain ⟨hfresh, hno⟩ := hstep.mp hno
      obtain ⟨hstays, hnone⟩ := hnever hno
      refine ⟨.cons (fun r hr hlast hnext => ?_) hstays, fun hagain => ?_⟩
      · cases hlast
        exact absurd hnext (hnone (hfalse (hfresh rfl) rfl rfl) r hr)
      · have hne : c ≠ .nextRow := fun hnext => by simp [hfresh hnext] at hagain
        exact List.forall_mem_cons.mpr ⟨hne, hnone ((hsame hne).trans hagain)⟩

/-- Between a successful execution, no step of which failed, and the next one the statement is
started exactly once, and the rows end once and for all, exactly if no row is asked for after the
end. -/
theorem single_run_iff {q q₁ q₂ : Query} {statement : Text} {cs : List QueryCall}
    {results : List (QueryCall × Bool)} (hreached : q.Reached (driver e conv))
    (hexecute : q.execute (driver e conv) statement = some (true, q₁))
    (hok : ¬ StepFailed (callsBetween q.conn q₁.conn))
    (hcs : ∀ c ∈ cs, isCursorCall c = true)
    (hcalls : q₁.calls (driver e conv) cs = some (results, q₂)) :
    ((startedRuns (callsBetween q.conn q₂.conn)).length = 1 ∧ StaysFalse results) ↔
      NeverRestarts e conv q₁ cs := by
  obtain ⟨t, rs, before, hrs, hexecuted, hready, hno, hlog, -⟩ :=
    execute_some_true e conv (ready_reached e conv hreached) hexecute hok
  obtain ⟨hopen, started, hstarted, hone⟩ := hexecuted.opens e conv hready
  obtain ⟨after, hafter, hiff, hnever⟩ := calls_open e conv hcs hrs hopen hcalls
  have hbetween : callsBetween q.conn q₂.conn = before ++ started ++ after := by
    refine callsBetween_eq ?_
    rw [hafter, hstarted, hlog]
    simp only [List.append_assoc]
  rw [hbetween, startedRuns_append, startedRuns_append, hno.startedRuns_eq, List.nil_append,
    List.length_append, hone, ← hiff]
  constructor
  · rintro ⟨hlength, -⟩
    exact List.length_eq_zero_iff.mp (by omega)
  · intro hnil
    exact ⟨by rw [hnil]; rfl, (hnever (hiff.mp hnil)).1⟩

/-- A query of one row, read past its end. -/
theorem fetch_after_end_restarts :
    ∃ q₁ results q₂, (TDatabaseQuery.create opened).execute (driver singleRow .integers)
        "SELECT 1".toList = some (true, q₁) ∧
      q₁.calls (driver singleRow .integers) [.nextRow, .nextRow, .nextRow] = some (results, q₂) ∧
      (startedRuns (callsBetween opened q₂.conn)).length = 2 ∧ ¬ StaysFalse results := by
  refine ⟨_, _, _, rfl, rfl, ?_⟩
  decide

theorem single_run_iff_one_row :
    ∃ q₁ results q₂, (TDatabaseQuery.create opened).execute (driver singleRow .integers)
        "SELECT 1".toList = some (true, q₁) ∧
      q₁.calls (driver singleRow .integers) [.nextRow, .nextRow] = some (results, q₂) ∧
      (((startedRuns (callsBetween opened q₂.conn)).length = 1 ∧ StaysFalse results) ↔
        NeverRestarts singleRow .integers q₁ [.nextRow, .nextRow]) := by
  obtain ⟨q₁, results, q₂, hexecute, hok, hcalls⟩ :
      ∃ q₁ results q₂, (TDatabaseQuery.create opened).execute (driver singleRow .integers)
          "SELECT 1".toList = some (true, q₁) ∧ ¬ StepFailed (callsBetween opened q₁.conn) ∧
        q₁.calls (driver singleRow .integers) [.nextRow, .nextRow] = some (results, q₂) :=
    ⟨_, _, _, rfl, by decide, rfl⟩
  exact ⟨q₁, results, q₂, hexecute, hcalls, single_run_iff singleRow .integers (.create opened)
    hexecute hok (by decide) hcalls⟩

end DatabaseMod.SqliteCursor
