import DatabaseMod.SqliteCursor

/-!
# Rounds of one statement

A round binds values, executes the prepared statement and fetches some of its rows. What
the fetches of a round deliver is compared with the rows of the run that its execution
started.
-/

namespace DatabaseMod.SqliteRounds
open CoreValues CoreResultSet CoreQuery SqlEngine SqliteDriver SqliteSteps SqliteInvariant
open SqliteCursor TSQLiteResultSet
open SqliteVerdict (callsBetween opened)

variable (e : Engine) (conv : Conversions)

/-! ### Values of a row -/

/-- The cell that a value was read from. The driver makes values of four classes. -/
def cellOf : Option TDBType → Option SqlValue
  | none => some .null
  | some v =>
    if v.isNull then some .null
    else match v.content with
      | .integer .long value => some (.integer value)
      | .double bits => some (.real bits)
      | .string value => some (.text value)
      | .blob value => some (.blob value)
      | _ => none

/-- A null cell can be read back from a slot whose old value clears to null. -/
def Clears (old : Option TDBType) : Prop := old.all (fun v => v.clear.isNull) = true

instance (old : Option TDBType) : Decidable (Clears old) := inferInstanceAs (Decidable (_ = _))

theorem cellOf_columnValue {old : Option TDBType} {c : SqlValue} (h : c = .null → Clears old) :
    cellOf (columnValue old c) = some c := by
  cases c with
  | null =>
    cases old with
    | none => rfl
    | some v => exact if_pos (h rfl)
  | integer value => rfl
  | real bits => rfl
  | text value => rfl
  | blob value => rfl

/-- The values after a row was stored over old ones. -/
def storeCells (values : List (Option TDBType)) (row : Row) : List (Option TDBType) :=
  values.mapIdx fun i old => columnValue old (cell row i)

/-- No null cell of these rows is stored over a blob without data, which `clear` leaves. -/
def NullsClear (values : List (Option TDBType)) : List Row → Prop
  | [] => True
  | row :: rows => (∀ (i : ℕ) (hi : i < values.length), cell row i = .null → Clears values[i]) ∧
      NullsClear (storeCells values row) rows

instance decidableNullsClear (values : List (Option TDBType)) :
    (rows : List Row) → Decidable (NullsClear values rows)
  | [] => inferInstanceAs (Decidable True)
  | row :: rows =>
    have := decidableNullsClear (storeCells values row) rows
    inferInstanceAs (Decidable (_ ∧ _))

theorem fillValues_eq {rs : TSQLiteResultSet} (h : rs.values.length = rs.record.count) (row : Row) :
    fillValues rs row = storeCells rs.values row := by
  refine List.ext_getElem (by simp [fillValues, storeCells]) fun i hi _ => ?_
  have hcount : i < rs.record.count := by
    rw [← h]
    simpa [fillValues] using hi
  simp [fillValues, storeCells, hcount]

/-! ### Reading a row through the result set -/

/-- The record describes at least the columns of the statement. -/
structure Covers (rs : TSQLiteResultSet) : Prop where
  recorded : rs.record.isEmpty = false
  count_ge : (columns rs.stmtHandle).length ≤ rs.record.count

/-- The values of the result set are those of the row. -/
def Holds (rs : TSQLiteResultSet) (row : Row) : Prop :=
  ∀ i < (columns rs.stmtHandle).length, cellOf (rs.value i) = some (cell row i)

theorem ensureRecord_of_recorded {rs : TSQLiteResultSet} (h : rs.record.isEmpty = false) :
    ensureRecord rs = rs := if_neg (by simp [h])

section

variable {rs : TSQLiteResultSet} {old : List (Option TDBType)} {row : Row}
  (hactive : rs.isActive = true) (hcovers : Covers rs) (hlength : old.length = rs.record.count)
  (hvalues : rs.values = storeCells old row)
include hactive hcovers hlength hvalues

theorem value_of_values {i : ℕ} (hi : i < (columns rs.stmtHandle).length) :
    ∃ hold : i < old.length, rs.value i = columnValue old[i] (cell row i) := by
  have hcount : i < rs.record.count := hi.trans_le hcovers.count_ge
  have hold : i < old.length := hlength ▸ hcount
  refine ⟨hold, ?_⟩
  rw [TQueryResultSet.value_eq_slot hactive hcovers.recorded hcount, hvalues]
  simp [storeCells, hold]

theorem holds_of_values
    (hnulls : ∀ (i : ℕ) (hi : i < old.length), cell row i = .null → Clears old[i]) :
    Holds rs row := by
  intro i hi
  obtain ⟨hold, hread⟩ := value_of_values hactive hcovers hlength hvalues hi
  rw [hread, cellOf_columnValue (hnulls i hold)]

end

/-! ### Fetching the rest of a run -/

/-- Between two fetches, with these rows of the run still to be fetched. -/
structure Streaming (rs : TSQLiteResultSet) (rest : List Row) : Prop extends Open rs, Covers rs where
  stepped : rs.fakeFirstRowFetch = false
  running : ∃ stmt failure, rs.stmtHandle = some stmt ∧ stmt.running = some ⟨rest, failure⟩

theorem beginFetch_of_begun {rs : TSQLiteResultSet} (h : rs.initialFetch = false) :
    beginFetch rs = rs := if_neg (by simp [h])

theorem storeRow_of_recorded {rs : TSQLiteResultSet} (h : rs.record.isEmpty = false) (row : Row) :
    storeRow rs row = { rs with values := fillValues rs row, index := rs.index + 1 } := by
  unfold storeRow
  rw [ensureRecord_of_recorded h]

section

variable {rs : TSQLiteResultSet} {row : Row} {rest : List Row}

theorem Streaming.initialFetch_eq (h : Streaming rs rest) : rs.initialFetch = false := by
  obtain ⟨stmt, failure, hstmt, hrunning⟩ := h.running
  by_contra hinitial
  have hnone := h.begun (by simpa using hinitial)
  rw [hstmt, Option.all_some, hrunning] at hnone
  cases hnone

theorem Streaming.fetch_cons (h : Streaming rs (row :: rest)) (conn : TDBSQLite) :
    ∃ conn' rs', (driver e conv).fetch (conn, rs) = (true, conn', rs') ∧ Streaming rs' rest ∧
      columns rs'.stmtHandle = columns rs.stmtHandle ∧
      rs'.values = storeCells rs.values row ∧ rs'.record = rs.record := by
  obtain ⟨stmt, failure, hstmt, hrunning⟩ := h.running
  have hrun : stmt.run e conn.log = ⟨row :: rest, failure⟩ := by simp [Statement.run, hrunning]
  have hrows : (stmt.run e conn.log).rows = row :: rest := congrArg Run.rows hrun
  have hnext := nextRow_row (s := (conn, rs)) h.stepped hstmt hrows
  obtain ⟨calls, -, -, hopen, -⟩ := nextRow_open e (s := (conn, rs)) h.toOpen
  rw [fetch_eq e conv h.toReady h.isActive_eq, hnext, if_pos (Or.inr rfl)]
  rw [hnext] at hopen
  simp only [beginFetch_of_begun h.initialFetch_eq] at hopen ⊢
  rw [@storeRow_of_recorded { rs with
    stmtHandle := some { stmt with running := some ⟨rest, (stmt.run e conn.log).failure⟩ } }
    h.recorded row] at hopen ⊢
  have hcolumns : columns (some { stmt with running := some ⟨rest, (stmt.run e conn.log).failure⟩ }) =
      columns rs.stmtHandle := by
    rw [hstmt]
    rfl
  refine ⟨_, _, rfl, ⟨hopen, ⟨h.recorded, ?_⟩, h.stepped, _, failure, rfl, ?_⟩, hcolumns, ?_, rfl⟩
  · exact (congrArg List.length hcolumns).trans_le h.count_ge
  · rw [hrun]
  · exact fillValues_eq (h.values_length h.recorded) row

theorem nextRow_false {t : Session} {stmt : Statement} (hfake : t.2.fakeFirstRowFetch = false)
    (hstmt : t.2.stmtHandle = some stmt) (hrows : (stmt.run e t.1.log).rows = []) :
    (nextRow e t).1 = false := by
  cases hfailure : (stmt.run e t.1.log).failure with
  | none =>
    obtain ⟨calls, -, hnext⟩ := nextRow_done hfake hstmt hrows hfailure
    rw [hnext]
  | some code =>
    obtain ⟨calls, conn', -, -, -, hnext⟩ := nextRow_failed hfake hstmt hrows hfailure
    rw [hnext]

theorem fetch_false {t : Session} (h : Open t.2) (hnext : (nextRow e t).1 = false) :
    ((driver e conv).fetch t).1 = false := by
  rw [fetch_eq e conv h.toReady h.isActive_eq]
  split_ifs
  · exact hnext
  · rfl

theorem Streaming.fetch_nil (h : Streaming rs []) (conn : TDBSQLite) :
    ((driver e conv).fetch (conn, rs)).1 = false := by
  obtain ⟨stmt, failure, hstmt, hrunning⟩ := h.running
  refine fetch_false e conv h.toOpen (nextRow_false e h.stepped hstmt ?_)
  simp [Statement.run, hrunning]

end

/-! ### Rounds -/

/-- The query after a number of fetches. -/
def fetches (q : Query) : ℕ → Query
  | 0 => q
  | count + 1 => fetches (q.nextRow (driver e conv)).2 count

/-- Whether the fetch after `j` others finds a row. -/
def fetched (q : Query) (j : ℕ) : Bool := ((fetches e conv q j).nextRow (driver e conv)).1

theorem nextRow_eq {q : Query} {rs : TSQLiteResultSet} (h : q.resultSet = some rs) :
    q.nextRow (driver e conv) = (((driver e conv).fetch (q.conn, rs)).1,
      ⟨((driver e conv).fetch (q.conn, rs)).2.1, some ((driver e conv).fetch (q.conn, rs)).2.2⟩) := by
  rw [TDatabaseQuery.nextRow, h]

/-- The columns of the statement of a query. -/
def queryColumns (q : Query) : List Column := columns (q.resultSet.bind (·.stmtHandle))

theorem queryColumns_eq {q : Query} {rs : TSQLiteResultSet} (h : q.resultSet = some rs) :
    queryColumns q = columns rs.stmtHandle := by
  rw [queryColumns, h]
  rfl

/-- The first `count` fetches deliver these rows in order, and then one returns False. -/
def Delivers (q : Query) (rows : List Row) (count : ℕ) : Prop :=
  ∀ j < count, j ≤ rows.length → fetched e conv q j = decide (j < rows.length) ∧
    ∀ row, rows[j]? = some row → ∃ rs, (fetches e conv q (j + 1)).resultSet = some rs ∧
      columns rs.stmtHandle = queryColumns q ∧ Holds rs row

/-- What one fetch delivers, and then what the others do. -/
theorem Delivers.cons {q : Query} {row : Row} {rest : List Row} {count : ℕ}
    {rs : TSQLiteResultSet} (hfound : (q.nextRow (driver e conv)).1 = true)
    (hrs : (q.nextRow (driver e conv)).2.resultSet = some rs)
    (hcolumns : columns rs.stmtHandle = queryColumns q) (hholds : Holds rs row)
    (h : Delivers e conv (q.nextRow (driver e conv)).2 rest count) :
    Delivers e conv q (row :: rest) (count + 1) := by
  intro j hj hle
  cases j with
  | zero =>
    refine ⟨hfound.trans (by simp), fun row' hrow => ⟨rs, hrs, hcolumns, ?_⟩⟩
    obtain rfl : row = row' := by simpa using hrow
    exact hholds
  | succ j =>
    obtain ⟨hfetched, hread⟩ := h j (by omega) (by simpa using hle)
    rw [queryColumns_eq hrs, hcolumns] at hread
    exact ⟨hfetched.trans (by simp), fun row' hrow => hread row' (by simpa using hrow)⟩

theorem Streaming.delivers {q : Query} {rs : TSQLiteResultSet} {rows : List Row}
    (h : Streaming rs rows) (hrs : q.resultSet = some rs) {count : ℕ}
    (hnulls : NullsClear rs.values (rows.take count)) : Delivers e conv q rows count := by
  induction rows generalizing q rs count with
  | nil =>
    intro j hj hle
    obtain rfl : j = 0 := by simpa using hle
    refine ⟨?_, by simp⟩
    rw [fetched, fetches, nextRow_eq e conv hrs, h.fetch_nil]
    rfl
  | cons row rest ih =>
    cases count with
    | zero =>
      intro j hj
      cases hj
    | succ count =>
      obtain ⟨conn', rs', hfetch, hrest, hcolumns, hvalues, hrecord⟩ :=
        h.fetch_cons e conv q.conn
      obtain ⟨hclear, hnulls⟩ := hnulls
      have hnext := nextRow_eq e conv hrs
      rw [hfetch] at hnext
      have hholds : Holds rs' row :=
        holds_of_values hrest.isActive_eq hrest.toCovers
          ((h.values_length h.recorded).trans (congrArg TQueryRecord.count hrecord.symm)) hvalues
          hclear
      refine .cons e conv (congrArg Prod.fst hnext) (congrArg (fun r => r.2.resultSet) hnext)
        (hcolumns.trans (queryColumns_eq hrs).symm) hholds ?_
      exact ih hrest (congrArg (fun r => r.2.resultSet) hnext) (hvalues ▸ hnulls)

/-- Fetches that lost the first row still deliver the same rows when these repeat. -/
theorem Delivers.of_repeated {q : Query} {row : Row} {rest : List Row} {count : ℕ}
    (h : Delivers e conv q rest count)
    (hrepeat : ∀ j < count, (row :: rest)[j + 1]? = (row :: rest)[j]?) :
    Delivers e conv q (row :: rest) count := by
  intro j hj hle
  have hlast : count ≤ rest.length := by
    by_contra hcount
    have hend := hrepeat rest.length (by omega)
    simp at hend
  obtain ⟨hfetched, hread⟩ := h j hj (by omega)
  refine ⟨hfetched.trans ?_, fun row' hrow => hread row' ?_⟩
  · have hlt : j < rest.length := by omega
    simp [hlt, Nat.lt_succ_of_lt hlt]
  · rw [← hrow, ← hrepeat j hj]
    rfl

/-- The state before an execution from which no row is lost: the row fetched ahead will be
delivered, or nobody can tell. -/
structure KeepsRows (rs : TSQLiteResultSet) (rows : List Row) (count : ℕ) : Prop where
  fresh : rs.initialFetch = true ∨ ∀ j < count, rows[j + 1]? = rows[j]?
  covers : Covers (ensureRecord rs)
  nullsClear : NullsClear (ensureRecord rs).values
    (rows.take (if rs.initialFetch then count else count + 1))

theorem execute_prepared {q q₁ : Query} (h : q.execute (driver e conv) [] = some (true, q₁))
    (hok : ¬ StepFailed (callsBetween q.conn q₁.conn)) :
    ∃ rs rs₁, q.resultSet = some rs ∧ q₁.resultSet = some rs₁ ∧
      Executed e conv (q.conn, rs) (q₁.conn, rs₁) := by
  unfold TDatabaseQuery.execute at h
  rw [if_neg (not_not.mpr rfl)] at h
  split at h
  next rs hrs =>
    simp only [Option.some.injEq, Prod.mk.injEq] at h
    obtain ⟨hsucceeds, rfl⟩ := h
    exact ⟨rs, _, hrs, rfl, executePrepared_true e conv hsucceeds hok⟩
  next =>
    dsimp only at h
    split at h <;> cases h

theorem executePrepared_unfailed {s : Session} (h : ((driver e conv).executePrepared s).1 = true)
    {run : Run} (hruns : startedRuns (callsBetween s.1 ((driver e conv).executePrepared s).2.1) = [run])
    (hbegins : run.rows ≠ [] ∨ run.failure = none) :
    ¬ StepFailed (callsBetween s.1 ((driver e conv).executePrepared s).2.1) := by
  unfold Driver.executePrepared at h hruns ⊢
  split_ifs at h hruns ⊢ with hopen
  · have hlog : ((driver e conv).finish (execute e conv s)).2.1.log = (execute e conv s).2.1.log :=
      Driver.finish_connection _ (fun _ _ => rfl) _
    obtain ⟨calls, hcalls, -⟩ := SqliteVerdict.execute_verdict e conv s
    have hsuccess : (execute e conv s).1 = true := by
      unfold Driver.finish at h
      split_ifs at h with hok
      · exact hok
      · exact h
    change startedRuns (callsBetween s.1 ((driver e conv).finish (execute e conv s)).2.1) = [run] at hruns
    change ¬ StepFailed (callsBetween s.1 ((driver e conv).finish (execute e conv s)).2.1)
    rw [callsBetween_eq (hlog.trans hcalls)] at hruns ⊢
    exact execute_unfailed e conv hsuccess hcalls hruns hbegins
  · cases h

theorem prepared_unfailed {q q₁ : Query} (h : q.execute (driver e conv) [] = some (true, q₁))
    {run : Run} (hruns : startedRuns (callsBetween q.conn q₁.conn) = [run])
    (hbegins : run.rows ≠ [] ∨ run.failure = none) :
    ¬ StepFailed (callsBetween q.conn q₁.conn) := by
  unfold TDatabaseQuery.execute at h
  rw [if_neg (not_not.mpr rfl)] at h
  split at h
  next rs hrs =>
    simp only [Option.some.injEq, Prod.mk.injEq] at h
    obtain ⟨hsucceeds, rfl⟩ := h
    exact executePrepared_unfailed e conv (s := (q.conn, rs)) hsucceeds hruns hbegins
  next =>
    dsimp only at h
    split at h <;> cases h

/-- The result set as the row fetched ahead is stored into it. -/
def beforeStore (rs : TSQLiteResultSet) (stmt : Statement) (rest : Run) : TSQLiteResultSet :=
  { beginFetch (rewound rs) with stmtHandle := some { stmt with running := some rest } }

/-- A successful execution: its run has no row and leaves the statement rewound, or the
first row is stored. -/
theorem executed_run {t r : Session} (h : Executed e conv t r) :
    ∃ calls stmt run, r.1.log = t.1.log ++ calls ∧ t.2.stmtHandle = some stmt ∧
      startedRuns calls = [run] ∧
      ((run.rows = [] ∧ r.2.fakeFirstRowFetch = false ∧ r.2.stmtHandle = some stmt.rewind) ∨
        ∃ row rest, run.rows = row :: rest ∧ r.2 =
          { storeRow (beforeStore t.2 stmt ⟨rest, run.failure⟩) row with isActive := true }) := by
  obtain ⟨stmt, calls, hstmt, hno, hcases⟩ := h.cases e conv
  rcases hcases with ⟨row, rest, failure, -, hlog, hrs⟩ | ⟨idle, hidle, -, hlog, hrs⟩
  · refine ⟨_, stmt, ⟨row :: rest, failure⟩, hlog.trans (List.append_assoc ..), hstmt, ?_,
      .inr ⟨row, rest, rfl, hrs⟩⟩
    rw [startedRuns_append, hno.startedRuns_eq]
    rfl
  · refine ⟨_, stmt, ⟨[], none⟩, hlog.trans (List.append_assoc ..), hstmt, ?_, .inl ⟨rfl, ?_, ?_⟩⟩
    · rw [startedRuns_append, hno.startedRuns_eq, startedRuns_cons, hidle.noStep.startedRuns_eq]
      rfl
    · rw [hrs]
      rfl
    · rw [hrs]
      exact storeEnd_stmtHandle _

theorem ensureRecord_congr {rs rs' : TSQLiteResultSet}
    (hbase : rs.toTQueryResultSet = rs'.toTQueryResultSet)
    (hcolumns : columns rs.stmtHandle = columns rs'.stmtHandle) :
    (ensureRecord rs).toTQueryResultSet = (ensureRecord rs').toTQueryResultSet := by
  unfold ensureRecord
  rw [hbase, hcolumns]
  split_ifs
  · rfl
  · exact hbase

/-- What the row fetched ahead leaves for the fetches to come. -/
theorem streaming_stored {rs : TSQLiteResultSet} {stmt : Statement} {row : Row} {rest : Run}
    (hstmt : rs.stmtHandle = some stmt) (hready : Ready rs) (hcovers : Covers (ensureRecord rs))
    (hopen : Open { storeRow (beforeStore rs stmt rest) row with isActive := true }) :
    Streaming { storeRow (beforeStore rs stmt rest) row with
        isActive := true, fakeFirstRowFetch := false } rest.rows ∧
      (storeRow (beforeStore rs stmt rest) row).values = storeCells (ensureRecord rs).values row ∧
      (storeRow (beforeStore rs stmt rest) row).record = (ensureRecord rs).record ∧
      (storeRow (beforeStore rs stmt rest) row).fakeFirstRowFetch = rs.initialFetch := by
  have hcolumns : columns (beforeStore rs stmt rest).stmtHandle = columns rs.stmtHandle := by
    rw [hstmt]
    rfl
  have hbase : (beforeStore rs stmt rest).toTQueryResultSet = rs.toTQueryResultSet :=
    beginFetch_base (rewound rs)
  have hensure := ensureRecord_congr hbase hcolumns
  have hrecord : (storeRow (beforeStore rs stmt rest) row).record = (ensureRecord rs).record := by
    change (ensureRecord (beforeStore rs stmt rest)).record = _
    rw [hensure]
  have hstored : (storeRow (beforeStore rs stmt rest) row).stmtHandle =
      some { stmt with running := some rest } := storeRow_stmtHandle _ row
  have hlength := hready.ensureRecord.values_length hcovers.recorded
  refine ⟨⟨?_, ⟨?_, ?_⟩, rfl, _, rest.failure, hstored, rfl⟩, ?_, hrecord, ?_⟩
  · exact ⟨hopen.toReady.with_fakeFirstRowFetch false, rfl, hopen.stmtHandle_isSome, hopen.begun⟩
  · exact (congrArg TQueryRecord.isEmpty hrecord).trans hcovers.recorded
  · have hge := hcovers.count_ge
    rw [ensureRecord_stmtHandle, hstmt] at hge
    change (columns (storeRow (beforeStore rs stmt rest) row).stmtHandle).length ≤
      (storeRow (beforeStore rs stmt rest) row).record.count
    rw [hstored, hrecord]
    exact hge
  · change fillValues (ensureRecord (beforeStore rs stmt rest)) row = _
    rw [fillValues_eq, hensure]
    rw [hensure]
    exact hlength
  · change (ensureRecord (beforeStore rs stmt rest)).fakeFirstRowFetch = _
    rw [ensureRecord_fakeFirstRowFetch]
    unfold beforeStore beginFetch
    split_ifs with hinitial
    · exact hinitial.symm
    · simpa [rewound] using hinitial

/-- Where the statement has no row now, the next fetch finds none. -/
def EndsAgain (q : Query) : Prop :=
  ∀ rs stmt, q.resultSet = some rs → rs.stmtHandle = some stmt →
    (stmt.run e q.conn.log).rows = []

theorem delivers_nil {q : Query} {rs : TSQLiteResultSet} {stmt : Statement}
    (hrs : q.resultSet = some rs) (h : Open rs) (hfake : rs.fakeFirstRowFetch = false)
    (hstmt : rs.stmtHandle = some stmt) (hends : EndsAgain e q) (count : ℕ) :
    Delivers e conv q [] count := by
  intro j hj hle
  obtain rfl : j = 0 := by simpa using hle
  refine ⟨?_, by simp⟩
  rw [fetched, fetches, nextRow_eq e conv hrs]
  exact fetch_false e conv h (nextRow_false e (t := (q.conn, rs)) hfake hstmt (hends rs stmt hrs hstmt))

/-- What a round needs of the states before and after its execution. -/
def Keeps (q q₁ : Query) (count : ℕ) : Prop :=
  0 < count → ∀ rs run, q.resultSet = some rs →
    startedRuns (callsBetween q.conn q₁.conn) = [run] →
    KeepsRows rs run.rows count ∧ (run.rows = [] → EndsAgain e q₁)

/-- The fetches of a round deliver the rows of the run that its execution started. -/
def DeliversRun (q q₁ : Query) (count : ℕ) : Prop :=
  ∃ run, startedRuns (callsBetween q.conn q₁.conn) = [run] ∧ queryColumns q₁ = queryColumns q ∧
    Delivers e conv q₁ run.rows count

theorem round_delivers {q q₁ : Query} (hready : ∀ rs ∈ q.resultSet, Ready rs)
    (h : q.execute (driver e conv) [] = some (true, q₁))
    (hok : ¬ StepFailed (callsBetween q.conn q₁.conn)) {count : ℕ} (hkeeps : Keeps e q q₁ count) :
    DeliversRun e conv q q₁ count := by
  obtain ⟨rs, rs₁, hrs, hrs₁, hexecuted⟩ := execute_prepared e conv h hok
  have hr := hready rs hrs
  obtain ⟨hopen, -⟩ := hexecuted.opens e conv hr
  obtain ⟨calls, stmt, run, hlog, hstmt, hruns, hcases⟩ := executed_run e conv hexecuted
  have hbetween : callsBetween q.conn q₁.conn = calls := callsBetween_eq hlog
  have hcolumns : queryColumns q₁ = queryColumns q := by
    rw [queryColumns_eq hrs₁, queryColumns_eq hrs, hstmt]
    rcases hcases with ⟨-, -, hrewound⟩ | ⟨row, rest, -, heq⟩
    · rw [hrewound]
      rfl
    · rw [show rs₁ = _ from heq]
      exact (congrArg columns (storeRow_stmtHandle _ row)).trans rfl
  refine ⟨run, hbetween ▸ hruns, hcolumns, ?_⟩
  rcases Nat.eq_zero_or_pos count with rfl | hcount
  · intro j hj
    cases hj
  obtain ⟨hkeep, hends⟩ := hkeeps hcount rs run hrs (hbetween ▸ hruns)
  rcases hcases with ⟨hrows, hfake, hrewound⟩ | ⟨row, rest, hrows, heq⟩
  · rw [hrows]
    exact delivers_nil e conv hrs₁ hopen hfake hrewound (hends hrows) count
  rw [hrows] at hkeep ⊢
  obtain rfl : rs₁ = _ := heq
  obtain ⟨hstream, hvalues, hrecord, hfake⟩ := streaming_stored hstmt hr hkeep.covers hopen
  have hnulls := hkeep.nullsClear
  by_cases hinitial : rs.initialFetch = true
  · -- the row fetched ahead is delivered by the first fetch
    obtain ⟨count, rfl⟩ := Nat.exists_eq_succ_of_ne_zero hcount.ne'
    rw [if_pos hinitial, List.take_succ_cons] at hnulls
    have hfetch := fetch_eq e conv (s := (q₁.conn, _)) hopen.toReady rfl
    rw [nextRow_fake e (hfake.trans hinitial), if_pos (Or.inr rfl)] at hfetch
    have hnext := nextRow_eq e conv hrs₁
    rw [hfetch] at hnext
    have hrest := congrArg (fun r => r.2.resultSet) hnext
    have hlength := hr.ensureRecord.values_length hkeep.covers.recorded
    have hholds := holds_of_values rfl hstream.toCovers
      (hlength.trans (congrArg TQueryRecord.count hrecord.symm)) hvalues hnulls.1
    refine .cons e conv (congrArg Prod.fst hnext) hrest (queryColumns_eq hrs₁).symm hholds ?_
    exact hstream.delivers e conv hrest (hvalues ▸ hnulls.2)
  · -- the row fetched ahead is lost
    have hfalse : rs.initialFetch = false := by simpa using hinitial
    rw [if_neg hinitial, List.take_succ_cons] at hnulls
    have hsame := congrArg (fun fake : Bool =>
      ({ storeRow (beforeStore rs stmt ⟨rest, run.failure⟩) row with
        isActive := true, fakeFirstRowFetch := fake } : TSQLiteResultSet)) (hfake.trans hfalse)
    have hrest : Streaming { storeRow (beforeStore rs stmt ⟨rest, run.failure⟩) row with
        isActive := true } rest := hsame ▸ hstream
    have hfirst := hkeep.fresh.resolve_left hinitial
    exact (hrest.delivers e conv hrs₁ (hvalues ▸ hnulls.2)).of_repeated e conv hfirst

/-! ### Sequences of rounds -/

structure Round where
  binds : List BindCall
  count : ℕ

def bindAll (q : Query) (binds : List BindCall) : Query :=
  binds.foldl (fun q b => q.bind (driver e conv) b) q

/-- What holds of each round of a sequence whose executions all return True, without a step that
failed. -/
def EachRound (P : Query → Query → ℕ → Prop) (q : Query) : List Round → Prop
  | [] => True
  | r :: rounds => ∀ q₁, (bindAll e conv q r.binds).execute (driver e conv) [] = some (true, q₁) →
      ¬ StepFailed (callsBetween (bindAll e conv q r.binds).conn q₁.conn) →
      P (bindAll e conv q r.binds) q₁ r.count ∧ EachRound P (fetches e conv q₁ r.count) rounds

theorem reached_bindAll {q : Query} (h : q.Reached (driver e conv)) (binds : List BindCall) :
    (bindAll e conv q binds).Reached (driver e conv) := by
  induction binds generalizing q with
  | nil => exact h
  | cons b binds ih => exact ih (.call (c := .bind b) h rfl)

theorem reached_fetches {q : Query} (h : q.Reached (driver e conv)) (count : ℕ) :
    (fetches e conv q count).Reached (driver e conv) := by
  induction count generalizing q with
  | zero => exact h
  | succ count ih => exact ih (.call (c := .nextRow) h rfl)

/-- Every round delivers the rows of its own run, each once and in order, if each one
starts from a state that keeps them. -/
theorem rounds_deliver {q : Query} (hreached : q.Reached (driver e conv)) {rounds : List Round}
    (h : EachRound e conv (Keeps e) q rounds) : EachRound e conv (DeliversRun e conv) q rounds := by
  induction rounds generalizing q with
  | nil => trivial
  | cons r rounds ih =>
    intro q₁ hexecute hok
    obtain ⟨hkeeps, hrest⟩ := h q₁ hexecute hok
    have hbound := reached_bindAll e conv hreached r.binds
    have hexecuted : q₁.Reached (driver e conv) := .call (c := .execute []) hbound hexecute
    exact ⟨round_delivers e conv (ready_reached e conv hbound) hexecute hok hkeeps,
      ih (reached_fetches e conv hexecuted r.count) hrest⟩

/-- An engine whose every statement has the rows 1 and 2. -/
def twoRows : Engine where
  prepare _ _ := .ok (some ⟨0, [⟨['n'], none⟩]⟩)
  reset _ _ := none
  bind _ _ _ _ := none
  run _ _ := ⟨[[.integer 1], [.integer 2]], none⟩
  message _ := noError

def prepared : Query :=
  ((TDatabaseQuery.create opened).prepare (driver twoRows .integers) "SELECT n FROM t".toList).2

/-- After a round that stopped at its first row the next one begins with the second row. -/
theorem stopped_round_loses_row :
    ¬ EachRound twoRows .integers (DeliversRun twoRows .integers) prepared [⟨[], 1⟩, ⟨[], 1⟩] := by
  intro h
  obtain ⟨-, h⟩ := h _ rfl (by decide)
  obtain ⟨⟨run, hruns, -, hdelivers⟩, -⟩ := h _ rfl (by decide)
  have hrun : [(⟨[[.integer 1], [.integer 2]], none⟩ : Run)] = [run] := hruns
  cases hrun
  obtain ⟨-, hread⟩ := hdelivers 0 (by decide) (by decide)
  obtain ⟨rs, hrs, -, hholds⟩ := hread [.integer 1] rfl
  cases hrs
  exact absurd (hholds 0 (by decide)) (by decide)

theorem rounds_deliver_read_to_end :
    EachRound twoRows .integers (DeliversRun twoRows .integers) prepared [⟨[], 3⟩, ⟨[], 1⟩] := by
  refine rounds_deliver twoRows .integers
    (.call (c := .prepare "SELECT n FROM t".toList) (.create opened) rfl) ?_
  intro q₁ hq₁ _
  obtain rfl := congrArg Prod.snd (Option.some.inj hq₁)
  refine ⟨fun _ rs run hrs hruns => ?_, fun q₂ hq₂ _ => ?_⟩
  · have hrun : [(⟨[[.integer 1], [.integer 2]], none⟩ : Run)] = [run] := hruns
    cases hrun
    cases hrs
    exact ⟨⟨.inl rfl, ⟨rfl, by decide⟩, by decide⟩, fun hnil => by cases hnil⟩
  · obtain rfl := congrArg Prod.snd (Option.some.inj hq₂)
    refine ⟨fun _ rs run hrs hruns => ?_, trivial⟩
    have hrun : [(⟨[[.integer 1], [.integer 2]], none⟩ : Run)] = [run] := hruns
    cases hrun
    cases hrs
    exact ⟨⟨.inl rfl, ⟨rfl, by decide⟩, by decide⟩, fun hnil => by cases hnil⟩

end DatabaseMod.SqliteRounds
