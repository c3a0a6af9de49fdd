import DatabaseMod.SqliteRegistry

/-!
# Transactions while rows are read

Ending a transaction resets every statement of the connection. What a query delivers under
any such interruptions is compared with the rows of its run.
-/

namespace DatabaseMod.SqliteTransactions
open SqlTokens (Text)
open CoreValues CoreResultSet CoreQuery SqlEngine SqliteDriver SqliteSteps SqliteInvariant
open SqliteCursor SqliteConnection TSQLiteResultSet
open SqliteRounds (beginFetch_of_begun)
open SqliteVerdict (callsBetween opened)

variable (e : Engine) (conv : Conversions)

inductive Step
  | nextRow
  | commit
  | rollback
  | startTransaction
deriving DecidableEq, Repr

/-- One step of a client that reads from the result set `id`. -/
def Step.apply (id : ℕ) (s : Store) : Step → Store
  | .nextRow => (s.nextRow e conv id).2
  | .commit => (s.commit e conv).2
  | .rollback => (s.rollback e conv).2
  | .startTransaction => (s.startTransaction e conv).2

/-! ### What is delivered -/

def steppedRow (t : Session) : Option Row :=
  match (stepStatement e t.1.log t.2.stmtHandle).2.2 with
  | .row row => some row
  | _ => none

/-- The row that a successful fetch hands out: the last one stored, if it is pending, or the
one that the fetch steps to. -/
def handedOut (t : Session) (last : Option Row) : Option Row :=
  if t.2.fakeFirstRowFetch then last else steppedRow e t

/-- What each successful fetch of these steps delivers; `last` is the row stored last. -/
def deliveries (id : ℕ) (s : Store) (last : Option Row) : List Step → List (Option Row)
  | [] => []
  | .nextRow :: steps =>
    let row := s.sets[id]?.bind fun rs => handedOut e (s.conn, rs) last
    if (s.nextRow e conv id).1 then
      row :: deliveries id (Step.nextRow.apply e conv id s) row steps
    else deliveries id (Step.nextRow.apply e conv id s) last steps
  | step :: steps => deliveries id (step.apply e conv id s) last steps

/-- No row is asked for while the statement stands rewound and no row is pending. -/
def Undisturbed (id : ℕ) (s : Store) : List Step → Prop
  | [] => True
  | step :: steps => (step = .nextRow → s.sets[id]?.any restarts = false) ∧
      Undisturbed id (step.apply e conv id s) steps

/-! ### What may still be delivered -/

/-- The rows that the result set can deliver before its statement is run again. -/
def budget (rs : TSQLiteResultSet) (last : Option Row) : List (Option Row) :=
  (if rs.fakeFirstRowFetch then [last] else []) ++
    (rs.stmtHandle.bind (·.running)).elim [] fun run => run.rows.map some

theorem open_reset {rs : TSQLiteResultSet} (h : Open rs) :
    Open { rs with
      initialFetch := true
      index := SQL_BeforeFirstRow
      stmtHandle := rs.stmtHandle.map Statement.rewind } := by
  refine ⟨⟨⟨h.values_length, h.bindCount_le⟩, le_rfl, fun _ => rfl⟩, h.isActive_eq, ?_, fun _ => ?_⟩
  · rw [Option.isSome_map]
    exact h.stmtHandle_isSome
  · cases rs.stmtHandle <;> rfl

theorem budget_reset (rs : TSQLiteResultSet) (last : Option Row) :
    (budget { rs with
      initialFetch := true
      index := SQL_BeforeFirstRow
      stmtHandle := rs.stmtHandle.map Statement.rewind } last).Sublist (budget rs last) := by
  refine List.Sublist.append_left ?_ _
  have hrewound : (rs.stmtHandle.map Statement.rewind).bind (·.running) = none := by
    cases rs.stmtHandle <;> rfl
  change (((rs.stmtHandle.map Statement.rewind).bind (·.running)).elim [] fun run =>
    run.rows.map some).Sublist _
  rw [hrewound]
  exact List.nil_sublist _

/-- A fetch that does not start the statement again spends what it delivers. -/
theorem nextRow_budget {t : Session} (h : Open t.2) (hno : restarts t.2 = false)
    (last : Option Row) :
    ((nextRow e t).1 = true → (handedOut e t last ::
        budget (nextRow e t).2.2 (handedOut e t last)).Sublist (budget t.2 last)) ∧
      ((nextRow e t).1 = false → (budget (nextRow e t).2.2 last).Sublist (budget t.2 last)) := by
  by_cases hfake : t.2.fakeFirstRowFetch = true
  · rw [nextRow_fake e hfake]
    refine ⟨fun _ => ?_, fun hfalse => by cases hfalse⟩
    simp [handedOut, budget, hfake]
  have hfake : t.2.fakeFirstRowFetch = false := by simpa using hfake
  obtain ⟨stmt, hstmt⟩ := Option.isSome_iff_exists.mp h.stmtHandle_isSome
  have hrestarts : restarts t.2 = stmt.running.isNone := by
    simp [restarts, h.isActive_eq, hfake, hstmt]
  obtain ⟨run, hrunning⟩ : ∃ run, stmt.running = some run := by
    rw [hrestarts] at hno
    exact Option.isSome_iff_exists.mp (by simpa using hno)
  have hinitial : t.2.initialFetch = false := by
    by_contra hinitial
    have hnone := h.begun (by simpa using hinitial)
    rw [hstmt, Option.all_some, hrunning] at hnone
    cases hnone
  have hrun : stmt.run e t.1.log = run := by simp [Statement.run, hrunning]
  have hbudget : budget t.2 last = run.rows.map some := by simp [budget, hfake, hstmt, hrunning]
  have hempty (rs : TSQLiteResultSet) (hrs : rs.fakeFirstRowFetch = false)
      (hrewound : rs.stmtHandle = some stmt.rewind) : budget rs last = [] := by
    simp [budget, hrs, hrewound, Statement.rewind]
  rw [hbudget]
  cases hrows : run.rows with
  | cons row rest =>
    have hhanded : handedOut e t last = some row := by
      simp [handedOut, hfake, steppedRow, hstmt, stepStatement_row (hrun ▸ hrows)]
    rw [nextRow_row hfake hstmt (hrun ▸ hrows), hhanded]
    refine ⟨fun _ => ?_, fun hfalse => by cases hfalse⟩
    simp only [beginFetch_of_begun hinitial]
    refine List.Sublist.cons_cons (some row) ?_
    unfold budget
    rw [storeRow_stmtHandle]
    change ((if (ensureRecord _).fakeFirstRowFetch = true then _ else _) ++ rest.map some).Sublist
      (rest.map some)
    rw [ensureRecord_fakeFirstRowFetch, if_neg (by simp [hfake]), List.nil_append]
  | nil =>
    cases hfailure : run.failure with
    | none =>
      obtain ⟨calls, -, heq⟩ := nextRow_done hfake hstmt (hrun ▸ hrows) (hrun ▸ hfailure)
      rw [heq]
      refine ⟨fun htrue => absurd htrue Bool.false_ne_true, fun _ => ?_⟩
      rw [hempty _ rfl (storeEnd_stmtHandle _)]
      exact List.nil_sublist _
    | some code =>
      obtain ⟨calls, conn, -, -, -, heq⟩ := nextRow_failed hfake hstmt (hrun ▸ hrows) (hrun ▸ hfailure)
      rw [heq]
      refine ⟨fun htrue => absurd htrue Bool.false_ne_true, fun _ => ?_⟩
      rw [beginFetch_of_begun hinitial]
      exact (hempty { t.2 with stmtHandle := some stmt.rewind } hfake rfl).symm ▸
        List.nil_sublist _

/-- The same for `nextRow` of the query, which resets the cursor at the end of the rows. -/
theorem fetch_budget {t : Session} (h : Open t.2) (hno : restarts t.2 = false)
    (last : Option Row) :
    ((((driver e conv).fetch t).1 = true → (handedOut e t last ::
        budget ((driver e conv).fetch t).2.2 (handedOut e t last)).Sublist (budget t.2 last)) ∧
      (((driver e conv).fetch t).1 = false →
        (budget ((driver e conv).fetch t).2.2 last).Sublist (budget t.2 last))) := by
  obtain ⟨htrue, hfalse⟩ := nextRow_budget e h hno last
  rw [fetch_eq e conv h.toReady h.isActive_eq]
  by_cases hkeep : t.2.index = SQL_BeforeFirstRow ∨ (nextRow e t).1 = true
  · rw [if_pos hkeep]
    exact ⟨htrue, hfalse⟩
  · obtain ⟨-, hnext⟩ := not_or.mp hkeep
    rw [if_neg hkeep]
    refine ⟨fun htrue => absurd htrue Bool.false_ne_true, fun _ => ?_⟩
    obtain ⟨calls, -, heq⟩ := reset_eq e (nextRow e t).2
    rw [heq]
    exact (budget_reset _ last).trans (hfalse (by simpa using hnext))

/-! ### Steps of the client -/

/-- The result set of the query after a step, against the one before. -/
structure Shrinks (rs rs' : TSQLiteResultSet) : Prop where
  stays_open : Open rs → Open rs'
  budget_le : ∀ last, (budget rs' last).Sublist (budget rs last)

theorem Shrinks.refl (rs : TSQLiteResultSet) : Shrinks rs rs := ⟨fun h => h, fun _ => .refl _⟩

theorem Shrinks.trans {rs₁ rs₂ rs₃ : TSQLiteResultSet} (h : Shrinks rs₁ rs₂)
    (h' : Shrinks rs₂ rs₃) : Shrinks rs₁ rs₃ :=
  ⟨fun hopen => h'.stays_open (h.stays_open hopen),
    fun last => (h'.budget_le last).trans (h.budget_le last)⟩

theorem shrinks_reset (t : Session) : Shrinks t.2 (TSQLiteResultSet.reset e t).2 := by
  obtain ⟨calls, -, heq⟩ := reset_eq e t
  rw [heq]
  exact ⟨open_reset, budget_reset t.2⟩

section

variable {s : Store} {id : ℕ} {rs : TSQLiteResultSet} (hrs : s.sets[id]? = some rs)
include hrs

theorem on_other {id' : ℕ} (hne : id' ≠ id) (f : Session → Session) :
    (s.on id' f).sets[id]? = some rs := by
  unfold Store.on
  cases s.sets[id']? with
  | none => exact hrs
  | some rs' => exact (List.getElem?_set_ne hne).trans hrs

theorem on_self (f : Session → Session) :
    (s.on id f).sets[id]? = some (f (s.conn, rs)).2 := by
  unfold Store.on
  rw [hrs]
  obtain ⟨hi, -⟩ := List.getElem?_eq_some_iff.mp hrs
  simp [hi]

theorem resetQueries_shrinks :
    ∃ rs', (s.resetQueries e).sets[id]? = some rs' ∧ Shrinks rs rs' := by
  unfold Store.resetQueries
  generalize s.conn.queries = queries
  induction queries generalizing s rs with
  | nil => exact ⟨rs, hrs, .refl rs⟩
  | cons q queries ih =>
    rw [List.foldl_cons]
    cases q with
    | none => exact ih hrs
    | some id' =>
      rcases eq_or_ne id' id with rfl | hne
      · obtain ⟨rs', hrs', hshrinks⟩ := ih (on_self hrs (TSQLiteResultSet.reset e))
        exact ⟨rs', hrs', (shrinks_reset e (s.conn, rs)).trans hshrinks⟩
      · exact ih (on_other hrs hne _)

theorem transaction_keeps (sql error : Text) :
    (s.transaction e conv sql error).2.sets[id]? = some rs := by
  obtain ⟨hi, -⟩ := List.getElem?_eq_some_iff.mp hrs
  have hcreated : ((s.setConnection s.conn.toTDBConnection.resetError).createResultSet).sets[id]? =
      some rs := (List.getElem?_append_left hi).trans hrs
  have hexecuted : (s.executeQuery e conv sql).sets[id]? = some rs :=
    on_other hcreated hi.ne' _
  unfold Store.transaction
  dsimp only
  split_ifs
  · exact hexecuted
  · exact on_other hexecuted hi.ne' _

theorem ended_shrinks (sql error : Text) :
    ∃ rs', ((s.resetQueries e).transaction e conv sql error).2.sets[id]? = some rs' ∧
      Shrinks rs rs' := by
  obtain ⟨rs', hrs', hshrinks⟩ := resetQueries_shrinks e hrs
  exact ⟨rs', transaction_keeps e conv hrs' sql error, hshrinks⟩

/-- Ending or starting a transaction takes nothing from a query but what it resets. -/
theorem step_shrinks {step : Step} (hstep : step ≠ .nextRow) :
    ∃ rs', (step.apply e conv id s).sets[id]? = some rs' ∧ Shrinks rs rs' := by
  cases step with
  | nextRow => exact absurd rfl hstep
  | commit =>
    change ∃ rs', (s.commit e conv).2.sets[id]? = some rs' ∧ Shrinks rs rs'
    unfold Store.commit
    split_ifs
    · exact ended_shrinks e conv hrs _ _
    · exact ⟨rs, hrs, .refl rs⟩
  | rollback =>
    change ∃ rs', (s.rollback e conv).2.sets[id]? = some rs' ∧ Shrinks rs rs'
    unfold Store.rollback
    split_ifs
    · exact ended_shrinks e conv hrs _ _
    · exact ⟨rs, hrs, .refl rs⟩
  | startTransaction =>
    change ∃ rs', (s.startTransaction e conv).2.sets[id]? = some rs' ∧ Shrinks rs rs'
    unfold Store.startTransaction
    split_ifs
    · exact ⟨rs, transaction_keeps e conv hrs _ _, .refl rs⟩
    · exact ⟨rs, hrs, .refl rs⟩

end

theorem store_nextRow {s : Store} {id : ℕ} {rs : TSQLiteResultSet} (hrs : s.sets[id]? = some rs) :
    (s.nextRow e conv id).1 = ((driver e conv).fetch (s.conn, rs)).1 ∧
      (Step.nextRow.apply e conv id s).sets[id]? =
        some ((driver e conv).fetch (s.conn, rs)).2.2 := by
  obtain ⟨hi, -⟩ := List.getElem?_eq_some_iff.mp hrs
  unfold Step.apply Store.nextRow
  rw [hrs]
  exact ⟨rfl, by simp [hi]⟩

/-! ### Whole readings -/

/-- Everything delivered comes out of the budget, each row at most once and in order. -/
theorem deliveries_sublist {s : Store} {id : ℕ} {rs : TSQLiteResultSet}
    (hrs : s.sets[id]? = some rs) (hopen : Open rs) (last : Option Row) {steps : List Step}
    (h : Undisturbed e conv id s steps) :
    (deliveries e conv id s last steps).Sublist (budget rs last) := by
  induction steps generalizing s rs last with
  | nil => exact List.nil_sublist _
  | cons step steps ih =>
    obtain ⟨hno, hrest⟩ := h
    by_cases hstep : step = .nextRow
    · subst hstep
      have hno := hno rfl
      rw [hrs, Option.any_some] at hno
      obtain ⟨htrue, hfalse⟩ := fetch_budget e conv (t := (s.conn, rs)) hopen hno last
      obtain ⟨calls, -, -, hopen', -⟩ := fetch_open e conv (s := (s.conn, rs)) hopen
      obtain ⟨hfound, hset⟩ := store_nextRow e conv hrs
      unfold deliveries
      rw [hfound, hrs]
      dsimp only [Option.bind_some]
      split_ifs with hcase
      · exact ((ih hset hopen' _ hrest).cons_cons _).trans (htrue hcase)
      · exact (ih hset hopen' last hrest).trans (hfalse (by simpa using hcase))
    · obtain ⟨rs', hrs', hshrinks⟩ := step_shrinks e conv hrs hstep
      have hdeliveries : deliveries e conv id s last (step :: steps) =
          deliveries e conv id (step.apply e conv id s) last steps := by
        cases step with
        | nextRow => exact absurd rfl hstep
        | _ => rfl
      rw [hdeliveries]
      exact (ih hrs' (hshrinks.stays_open hopen) last hrest).trans (hshrinks.budget_le last)

/-- What a successful execution leaves to deliver are rows of its run. -/
theorem executed_budget {t r : Session} (h : Executed e conv t r) :
    ∃ calls run, r.1.log = t.1.log ++ calls ∧ startedRuns calls = [run] ∧
      (budget r.2 run.rows.head?).Sublist (run.rows.map some) := by
  obtain ⟨stmt, calls, -, hno, hcases⟩ := h.cases
  rcases hcases with ⟨row, rest, failure, -, hlog, hrs⟩ | ⟨idle, hidle, -, hlog, hrs⟩
  · refine ⟨_, ⟨row :: rest, failure⟩, hlog.trans (List.append_assoc ..), ?_, ?_⟩
    · rw [startedRuns_append, hno.startedRuns_eq]
      rfl
    · rw [hrs]
      have hstored (rs : TSQLiteResultSet) (hstmt : rs.stmtHandle =
          some { stmt with running := some ⟨rest, failure⟩ }) :
          (budget rs (some row)).Sublist ((row :: rest).map some) := by
        unfold budget
        rw [hstmt]
        split_ifs
        · exact .refl _
        · exact List.sublist_cons_self _ _
      exact hstored _ (storeRow_stmtHandle _ row)
  · refine ⟨_, ⟨[], none⟩, hlog.trans (List.append_assoc ..), ?_, ?_⟩
    · rw [startedRuns_append, hno.startedRuns_eq, startedRuns_cons, hidle.noStep.startedRuns_eq]
      rfl
    · rw [hrs]
      have hstored (rs : TSQLiteResultSet) (hfake : rs.fakeFirstRowFetch = false)
          (hstmt : rs.stmtHandle = some stmt.rewind) : (budget rs none).Sublist [] := by
        simp [budget, hfake, hstmt, Statement.rewind]
      exact hstored _ rfl (storeEnd_stmtHandle _)

/-- No row of an execution, whose first step did not fail, is delivered twice, and there are no
more successful fetches than rows, as long as no fetch is made after an interruption or the end
has rewound the statement. -/
theorem deliveries_subperm {q q₁ : Query} {statement : Text} {run : Run} {s : Store} {id : ℕ}
    {steps : List Step} (hreached : q.Reached (driver e conv))
    (hexecute : q.execute (driver e conv) statement = some (true, q₁))
    (hok : ¬ StepFailed (callsBetween q.conn q₁.conn))
    (hrun : startedRuns (callsBetween q.conn q₁.conn) = [run])
    (hset : s.sets[id]? = q₁.resultSet) (h : Undisturbed e conv id s steps) :
    (deliveries e conv id s run.rows.head? steps).Subperm (run.rows.map some) ∧
      (deliveries e conv id s run.rows.head? steps).length ≤ run.rows.length := by
  obtain ⟨t, rs, before, hrs, hexecuted, hready, hno, hlog, -⟩ :=
    execute_some_true e conv (ready_reached e conv hreached) hexecute hok
  obtain ⟨hopen, -⟩ := hexecuted.opens e conv hready
  obtain ⟨calls, run', hcalls, hruns, hbudget⟩ := executed_budget e conv hexecuted
  have hbetween : callsBetween q.conn q₁.conn = before ++ calls := by
    refine callsBetween_eq ?_
    rw [hcalls, hlog, List.append_assoc]
  obtain rfl : run' = run := by
    rw [hbetween, startedRuns_append, hno.startedRuns_eq, hruns] at hrun
    simpa using hrun
  have hsub := (deliveries_sublist e conv (hset.trans hrs) hopen run'.rows.head? h).trans hbudget
  refine ⟨hsub.subperm, ?_⟩
  simpa using hsub.length_le

/-- An engine with a table of two rows; only a SELECT has rows. -/
def table : Engine where
  prepare _ sql := .ok (some ⟨0, if "SELECT".toList <+: sql then [⟨['n'], none⟩] else []⟩)
  reset _ _ := none
  bind _ _ _ _ := none
  run log handle := match (log[handle]?).map Call.action with
    | some (.prepare sql) =>
      if "SELECT".toList <+: sql then ⟨[[.integer 1], [.integer 2]], none⟩ else ⟨[], none⟩
    | _ => ⟨[], none⟩
  message _ := noError

def selected : Query :=
  ((TDatabaseQuery.create opened).execute (driver table .integers) "SELECT n FROM t".toList).elim
    (.create opened) (·.2)

/-- The store of the connection with this one query. -/
def reading : Store := ⟨selected.conn, selected.resultSet.toList, []⟩

/-- After a commit the reading begins again at the first row. -/
theorem commit_replays_row :
    ∃ q₁, (TDatabaseQuery.create opened).execute (driver table .integers)
        "SELECT n FROM t".toList = some (true, q₁) ∧
      ¬ StepFailed (callsBetween opened q₁.conn) ∧
      startedRuns (callsBetween opened q₁.conn) = [⟨[[.integer 1], [.integer 2]], none⟩] ∧
      reading.sets[0]? = q₁.resultSet ∧
      ((Step.nextRow.apply table .integers 0 reading).commit table .integers).1 = true ∧
      ¬ (deliveries table .integers 0 reading (some [.integer 1])
        [.nextRow, .commit, .nextRow]).Subperm [some [.integer 1], some [.integer 2]] := by
  have htwice : deliveries table .integers 0 reading (some [.integer 1])
      [.nextRow, .commit, .nextRow] = [some [.integer 1], some [.integer 1]] := by
    decide +kernel
  refine ⟨_, rfl, by decide +kernel, by decide +kernel, by decide +kernel, by decide +kernel,
    fun h => ?_⟩
  rw [htwice] at h
  exact absurd (h.count_le (some [.integer 1])) (by decide)

theorem deliveries_subperm_undisturbed :
    (deliveries table .integers 0 reading (some [.integer 1]) [.nextRow, .nextRow, .commit]).Subperm
        [some [.integer 1], some [.integer 2]] ∧
      (deliveries table .integers 0 reading (some [.integer 1])
        [.nextRow, .nextRow, .commit]).length ≤ 2 := by
  have hundisturbed : Undisturbed table .integers 0 reading [.nextRow, .nextRow, .commit] :=
    ⟨fun _ => by decide +kernel, fun _ => by decide +kernel, nofun, trivial⟩
  obtain ⟨q₁, hexecute, hok, hrun, hset⟩ : ∃ q₁, (TDatabaseQuery.create opened).execute
      (driver table .integers) "SELECT n FROM t".toList = some (true, q₁) ∧
      ¬ StepFailed (callsBetween opened q₁.conn) ∧
      startedRuns (callsBetween opened q₁.conn) = [⟨[[.integer 1], [.integer 2]], none⟩] ∧
      reading.sets[0]? = q₁.resultSet :=
    ⟨_, rfl, by decide +kernel, by decide +kernel, by decide +kernel⟩
  exact deliveries_subperm table .integers (.create opened) hexecute hok hrun hset hundisturbed

end DatabaseMod.SqliteTransactions
