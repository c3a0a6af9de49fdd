import DatabaseMod.PostgresParameters

/-!
# The cursor of a PostgreSQL result

An execution receives a whole result, and the fetches after it read its rows from the first one on.
The result is released with its last row; the position before the first row is kept by the driver
and the one after the last row by the core. A `bytea` cell is read with a `size_t` stored at a local
that is an `Int`, so what is written behind the locals belongs to a fetch.
-/

namespace DatabaseMod.PostgresCursor
open SqlTokens (Text trim)
open CoreValues CoreResultSet CoreQuery PostgresDriver TPostgreSQLResultSet
open PostgresParameters (Query plain opened)

/-- The rows of an answer; a statement that returns none has no rows. -/
def resultRows : PGresult → List (List (Option Text))
  | .tuplesOk tuples => tuples.rows
  | _ => []

/-- A row without a `bytea` cell, or with null ones only. -/
def NoBytea (result : PGresult) (row : ℕ) : Prop :=
  ∀ (i : ℕ) (column : Column), result.columns[i]? = some column → column.ftype = BYTEAOID →
    result.cell row i = none

theorem isNull_clearValue (v : TDBType) : (clearValue v).isNull = true := by
  obtain ⟨content, isNull⟩ := v
  cases content with
  | temporal kind parts text => cases kind <;> rfl
  | _ => rfl

section

variable (pq : Libpq) (rt : Runtime)

/-! ### The locals of a fetch -/

/-- What the reads of a row write behind the locals. -/
def rowOverrun (result : PGresult) (row : ℕ) : List UInt8 :=
  result.columns.zipIdx.flatMap fun (column, i) =>
    match result.cell row i with
    | none => []
    | some text => cellOverrun pq (dbTypeFromNative column.ftype) text

theorem rowOverrun_eq_nil_iff (result : PGresult) (row : ℕ) :
    rowOverrun pq result row = [] ↔ pq.sizeT ≤ 4 ∨ NoBytea result row := by
  have hcell (column : Column) (i : ℕ) :
      (match result.cell row i with
        | none => []
        | some text => cellOverrun pq (dbTypeFromNative column.ftype) text) = [] ↔
      pq.sizeT ≤ 4 ∨ (column.ftype = BYTEAOID → result.cell row i = none) := by
    cases result.cell row i with
    | none => simp
    | some text =>
      rw [cellOverrun_eq_nil_iff]
      tauto
  rw [rowOverrun, List.flatMap_eq_nil_iff]
  constructor
  · intro h
    by_cases hsize : pq.sizeT ≤ 4
    · exact .inl hsize
    · refine .inr fun i column hcolumn => ?_
      have hmem : (column, i) ∈ result.columns.zipIdx :=
        List.mk_mem_zipIdx_iff_getElem?.mpr hcolumn
      exact ((hcell column i).mp (h _ hmem)).resolve_left hsize
  · rintro h ⟨column, i⟩ hmem
    exact (hcell column i).mpr (h.imp_right fun hno =>
      hno i column (List.mk_mem_zipIdx_iff_getElem?.mp hmem))

theorem rowOverrun_end {result : PGresult} {row : ℕ} (hge : (resultRows result).length ≤ row) :
    rowOverrun pq result row = [] := by
  rw [rowOverrun_eq_nil_iff]
  refine .inr fun i column hcolumn _ => ?_
  cases result with
  | tuplesOk tuples =>
    have hrow : tuples.rows[row]? = none := List.getElem?_eq_none hge
    rw [PGresult.cell, hrow]
    rfl
  | commandOk => rfl
  | failed => rfl

/-! ### The driver -/

/-- Before the row `next` of a result is fetched. -/
structure Streaming (rs : TPostgreSQLResultSet) (tuples : Tuples) (next : ℕ) : Prop where
  isActive : rs.isActive = true
  index_eq : rs.index = (next : ℤ) - 1
  queryRows_eq : rs.queryRows = tuples.rows.length
  fields_eq : rs.record.fields =
    tuples.columns.map fun column => ⟨column.name, dbTypeFromNative column.ftype⟩
  isEmpty_eq : tuples.columns ≠ [] → rs.record.isEmpty = false
  dtypes_eq : rs.dtypes = tuples.columns.map (·.ftype)
  values_length : rs.values.length = tuples.columns.length
  pgResult_eq : next < tuples.rows.length → rs.pgResult = some (.tuplesOk tuples)

/-- The values that can be read are those of a row of the result. -/
def Holds (rs : TPostgreSQLResultSet) (result : PGresult) (row : ℕ) : Prop :=
  ∀ (i : ℕ) (column : Column), result.columns[i]? = some column →
    match result.cell row i with
    | some text => rs.value i = columnValue pq rt (dbTypeFromNative column.ftype) column.ftype text
    | none => (rs.value i).all (·.isNull) = true

variable {rs : TPostgreSQLResultSet} {tuples : Tuples}

theorem streaming_received (rs : TPostgreSQLResultSet) (tuples : Tuples) :
    Streaming { rs.cleanup.received tuples with isActive := true } tuples 0 := by
  refine ⟨rfl, rfl, rfl, ?_, fun hne => ?_, rfl, List.length_replicate .., fun _ => rfl⟩
  · change (if tuples.columns.length = 0 then rs.cleanup.record.clear else _).fields = _
    split_ifs with hempty
    · rw [List.length_eq_zero_iff.mp hempty]
      rfl
    · rfl
  · change (if tuples.columns.length = 0 then rs.cleanup.record.clear else _).isEmpty = _
    rw [if_neg (mt List.length_eq_zero_iff.mp hne)]

/-- The columns of the result are the columns of the record. -/
theorem Streaming.recorded {next i : ℕ} {column : Column} (h : Streaming rs tuples next)
    (hcolumn : tuples.columns[i]? = some column) :
    i < rs.record.count ∧
      rs.record.fields[i]? = some ⟨column.name, dbTypeFromNative column.ftype⟩ := by
  rw [TQueryRecord.count, h.fields_eq, List.length_map, List.getElem?_map, hcolumn]
  exact ⟨(List.getElem?_eq_some_iff.mp hcolumn).1, rfl⟩

theorem Streaming.dtype_eq {next i : ℕ} {column : Column} (h : Streaming rs tuples next)
    (hcolumn : tuples.columns[i]? = some column) : rs.dtypes.getD i 0 = column.ftype := by
  rw [h.dtypes_eq, List.getD_eq_getElem?_getD, List.getElem?_map, hcolumn]
  rfl

variable {pq rt}

theorem Streaming.overrun_eq {next : ℕ} (h : Streaming rs tuples next)
    (hlt : next < tuples.rows.length) :
    rs.overrun pq next = rowOverrun pq (.tuplesOk tuples) next := by
  rw [overrun, rowOverrun, h.fields_eq, h.pgResult_eq hlt, List.zipIdx_map, List.flatMap_map]
  rfl

theorem Streaming.nextRow_lt {next : ℕ} (h : Streaming rs tuples next)
    (hlt : next < tuples.rows.length) (conn : TDBPostgreSQL) :
    ∃ rs', nextRow pq rt (conn, rs) = (true, conn, rs') ∧ Streaming rs' tuples (next + 1) ∧
      rs'.values = rs.fillValues pq rt next ∧ rs'.record = rs.record ∧
      rs'.overwritten = rs.overwritten ++ rowOverrun pq (.tuplesOk tuples) next := by
  have hnext : (rs.index + 1).toNat = next := by
    rw [h.index_eq]
    omega
  have hfetch : nextRow pq rt (conn, rs) = (true, conn,
      if rs.index + 1 ≥ rs.queryRows - 1 then
        { rs with values := rs.fillValues pq rt next, index := rs.index + 1, pgResult := none,
                  overwritten := rs.overwritten ++ rs.overrun pq next }
      else { rs with values := rs.fillValues pq rt next, index := rs.index + 1,
                     overwritten := rs.overwritten ++ rs.overrun pq next }) := by
    unfold nextRow
    dsimp only
    rw [if_neg (not_not_intro h.isActive), if_neg (by rw [h.index_eq, h.queryRows_eq]; omega), hnext]
    rfl
  have hlength : (rs.fillValues pq rt next).length = tuples.columns.length := by
    rw [fillValues, List.length_mapIdx, h.values_length]
  refine ⟨_, hfetch, ?_, ?_, ?_, ?_⟩
  · split_ifs with hlast
    · refine ⟨h.isActive, ?_, h.queryRows_eq, h.fields_eq, h.isEmpty_eq, h.dtypes_eq, hlength, ?_⟩
      · dsimp only
        rw [h.index_eq]
        omega
      · intro hmore
        rw [h.index_eq, h.queryRows_eq] at hlast
        omega
    · refine ⟨h.isActive, ?_, h.queryRows_eq, h.fields_eq, h.isEmpty_eq, h.dtypes_eq, hlength, ?_⟩
      · dsimp only
        rw [h.index_eq]
        omega
      · exact fun _ => h.pgResult_eq hlt
  · split_ifs
    · rfl
    · rfl
  · split_ifs
    · rfl
    · rfl
  · rw [← h.overrun_eq hlt]
    split_ifs
    · rfl
    · rfl

theorem Streaming.nextRow_end (h : Streaming rs tuples tuples.rows.length) (conn : TDBPostgreSQL) :
    nextRow pq rt (conn, rs) = (false, conn, rs.cleanup) := by
  unfold nextRow
  dsimp only
  rw [if_neg (not_not_intro h.isActive), if_pos (by rw [h.index_eq, h.queryRows_eq])]

theorem Streaming.holds {next : ℕ} (h : Streaming rs tuples next) (hlt : next < tuples.rows.length)
    {rs' : TPostgreSQLResultSet} (hs : Streaming rs' tuples (next + 1))
    (hvalues : rs'.values = rs.fillValues pq rt next) : Holds pq rt rs' (.tuplesOk tuples) next := by
  intro i column hcolumn
  obtain ⟨hi, -⟩ := List.getElem?_eq_some_iff.mp hcolumn
  have hcolumn' : tuples.columns[i]? = some column := hcolumn
  have hi' : i < tuples.columns.length := hi
  have hrecorded : rs'.record.isEmpty = false :=
    hs.isEmpty_eq (List.ne_nil_of_length_pos (Nat.zero_lt_of_lt hi'))
  have hread := TQueryResultSet.value_eq_slot hs.isActive hrecorded (hs.recorded hcolumn').1
  have hold : i < rs.values.length := h.values_length ▸ hi'
  obtain ⟨hoccurs, hfield⟩ := h.recorded hcolumn'
  have hdtype := h.dtype_eq hcolumn'
  rw [hread, hvalues, fillValues, List.getElem?_mapIdx, List.getElem?_eq_getElem hold,
    Option.map_some, Option.join_some, if_pos hoccurs, h.pgResult_eq hlt, Option.bind_some, hfield,
    hdtype]
  cases PGresult.cell (.tuplesOk tuples) next i with
  | some text => rfl
  | none =>
    cases rs.values[i] with
    | none => rfl
    | some v => exact isNull_clearValue v

/-! ### The query -/

variable (pq rt)

theorem Streaming.fetch_lt {next : ℕ} (h : Streaming rs tuples next)
    (hlt : next < tuples.rows.length) (conn : TDBPostgreSQL) :
    ∃ rs', (driver pq rt).fetch (conn, rs) = (true, conn, rs') ∧ Streaming rs' tuples (next + 1) ∧
      Holds pq rt rs' (.tuplesOk tuples) next ∧
      rs'.overwritten = rs.overwritten ++ rowOverrun pq (.tuplesOk tuples) next := by
  obtain ⟨rs', hnext, hs, hvalues, -, hwritten⟩ :=
    @Streaming.nextRow_lt pq rt rs tuples next h hlt conn
  refine ⟨rs', ?_, hs, h.holds hlt hs hvalues, hwritten⟩
  have hactive : ((driver pq rt).base rs).isActive = true := h.isActive
  have hindex : ((driver pq rt).base rs).index = (next : ℤ) - 1 := h.index_eq
  have hdriver : (driver pq rt).nextRow (conn, rs) = (true, conn, rs') := hnext
  unfold Driver.fetch
  dsimp only
  rw [if_neg (not_not_intro hactive)]
  split_ifs with hfirst hlast hok
  · have hbefore : rs.index = SQL_BeforeFirstRow := hfirst
    change firstRow pq rt (conn, rs) = _
    rw [firstRow, if_pos hbefore]
    exact hnext
  · rw [hindex] at hlast
    exact absurd hlast (by unfold SQL_AfterLastRow; omega)
  · rw [hdriver]
  · rw [hdriver] at hok
    exact absurd rfl hok

theorem Streaming.fetch_end (h : Streaming rs tuples tuples.rows.length) (conn : TDBPostgreSQL) :
    ∃ rs', (driver pq rt).fetch (conn, rs) = (false, conn, rs') ∧ rs'.isActive = false ∧
      rs'.overwritten = rs.overwritten := by
  have hnext := @Streaming.nextRow_end pq rt rs tuples h conn
  have hactive : ((driver pq rt).base rs).isActive = true := h.isActive
  have hindex : ((driver pq rt).base rs).index = (tuples.rows.length : ℤ) - 1 := h.index_eq
  have hdriver : (driver pq rt).nextRow (conn, rs) = (false, conn, rs.cleanup) := hnext
  unfold Driver.fetch
  dsimp only
  rw [if_neg (not_not_intro hactive)]
  split_ifs with hfirst hlast hok
  · have hbefore : rs.index = SQL_BeforeFirstRow := hfirst
    refine ⟨rs.cleanup, ?_, rfl, rfl⟩
    change firstRow pq rt (conn, rs) = _
    rw [firstRow, if_pos hbefore]
    exact hnext
  · rw [hindex] at hlast
    exact absurd hlast (by unfold SQL_AfterLastRow; omega)
  · rw [hdriver] at hok
    cases hok
  · rw [hdriver]
    exact ⟨_, rfl, rfl, rfl⟩

theorem fetch_inactive (h : rs.isActive = false) (conn : TDBPostgreSQL) :
    (driver pq rt).fetch (conn, rs) = (false, conn, rs) := by
  have hinactive : ((driver pq rt).base rs).isActive = false := h
  unfold Driver.fetch
  dsimp only
  rw [hinactive]
  rfl

/-- The query after fetches, before each of which the connection may have changed. -/
def fetches (conns : ℕ → TDBPostgreSQL) (q : Query) : ℕ → Query
  | 0 => q
  | count + 1 =>
    (({ fetches conns q count with conn := conns count } : Query).nextRow (driver pq rt)).2

def fetched (conns : ℕ → TDBPostgreSQL) (q : Query) (j : ℕ) : Bool :=
  (({ fetches pq rt conns q j with conn := conns j } : Query).nextRow (driver pq rt)).1

theorem nextRow_fetched {q : Query} {rs rs' : TPostgreSQLResultSet} {conn : TDBPostgreSQL}
    {ok : Bool} (hq : q.resultSet = some rs)
    (hfetch : (driver pq rt).fetch (conn, rs) = (ok, conn, rs')) :
    ({ q with conn := conn } : Query).nextRow (driver pq rt) = (ok, ⟨conn, some rs'⟩) := by
  rw [TDatabaseQuery.nextRow]
  dsimp only
  rw [hq]
  dsimp only
  rw [hfetch]

/-- What is left to fetch: the rows from `next` on, or nothing. -/
inductive Position (rs : TPostgreSQLResultSet) (result : PGresult) (next : ℕ) : Prop
  | streaming {tuples : Tuples} (hresult : result = .tuplesOk tuples)
    (h : Streaming rs tuples next) (hle : next ≤ tuples.rows.length)
  | finished (h : rs.isActive = false) (hge : (resultRows result).length ≤ next)

variable {result : PGresult}

theorem Position.fetch {next : ℕ} (h : Position rs result next) (conn : TDBPostgreSQL) :
    ∃ rs', (driver pq rt).fetch (conn, rs) = (decide (next < (resultRows result).length), conn, rs') ∧
      Position rs' result (next + 1) ∧
      (next < (resultRows result).length → Holds pq rt rs' result next) ∧
      rs'.overwritten = rs.overwritten ++ rowOverrun pq result next := by
  cases h with
  | finished hinactive hge =>
    refine ⟨rs, ?_, .finished hinactive (hge.trans (Nat.le_succ next)), fun hlt => ?_, ?_⟩
    · rw [fetch_inactive pq rt hinactive, decide_eq_false (not_lt.mpr hge)]
    · exact absurd hlt (not_lt.mpr hge)
    · rw [rowOverrun_end pq hge, List.append_nil]
  | streaming hresult hs hle =>
    subst hresult
    rename_i tuples
    change ∃ rs', (driver pq rt).fetch (conn, rs) = (decide (next < tuples.rows.length), conn, rs') ∧
      _ ∧ (next < tuples.rows.length → _) ∧ _
    by_cases hlt : next < tuples.rows.length
    · obtain ⟨rs', hfetch, hs', hholds, hwritten⟩ := hs.fetch_lt pq rt hlt conn
      exact ⟨rs', by rw [hfetch, decide_eq_true hlt], .streaming rfl hs' hlt, fun _ => hholds,
        hwritten⟩
    · have hend : rowOverrun pq (.tuplesOk tuples) next = [] := rowOverrun_end pq (not_lt.mp hlt)
      obtain rfl : next = tuples.rows.length := le_antisymm hle (not_lt.mp hlt)
      obtain ⟨rs', hfetch, hinactive, hwritten⟩ := hs.fetch_end pq rt conn
      exact ⟨rs', by rw [hfetch, decide_eq_false hlt], .finished hinactive (Nat.le_succ _),
        fun h => absurd h hlt, by rw [hend, hwritten, List.append_nil]⟩

/-- What the fetches on a result set have written behind their locals. -/
def overwritten (q : Query) : List UInt8 := q.resultSet.elim [] (·.overwritten)

/-- Exactly the rows of the result are delivered, in order, and nothing but the values and the
locals of the fetches is written. -/
structure Delivers (conns : ℕ → TDBPostgreSQL) (q : Query) (result : PGresult) : Prop where
  fetched_eq : ∀ j, fetched pq rt conns q j = decide (j < (resultRows result).length)
  holds : ∀ j < (resultRows result).length,
    ∃ rs, (fetches pq rt conns q (j + 1)).resultSet = some rs ∧ Holds pq rt rs result j
  within : ∀ j, overwritten (fetches pq rt conns q j) = overwritten q

/-- After `j` fetches the position is that of row `j`, and every row fetched has left its bytes. -/
theorem Position.fetches (h : Position rs result 0) (conns : ℕ → TDBPostgreSQL) {q : Query}
    (hq : q.resultSet = some rs) (j : ℕ) :
    ∃ rs', (fetches pq rt conns q j).resultSet = some rs' ∧ Position rs' result j ∧
      rs'.overwritten = rs.overwritten ++ (List.range j).flatMap (rowOverrun pq result) := by
  induction j with
  | zero => exact ⟨rs, hq, h, (List.append_nil _).symm⟩
  | succ j ih =>
    obtain ⟨rs', hrs', hj, hwritten⟩ := ih
    obtain ⟨rs'', hfetch, hnext, -, hrow⟩ := hj.fetch pq rt (conns j)
    refine ⟨rs'', ?_, hnext, ?_⟩
    · rw [PostgresCursor.fetches, nextRow_fetched pq rt hrs' hfetch]
    · rw [hrow, hwritten, List.range_succ, List.flatMap_append, List.append_assoc,
        List.flatMap_singleton]

/-- The rows of a result are delivered exactly where none of them has a `bytea` cell that is not
null, unless a `size_t` fits the local. -/
theorem Position.delivers_iff (h : Position rs result 0) (conns : ℕ → TDBPostgreSQL) {q : Query}
    (hq : q.resultSet = some rs) : Delivers pq rt conns q result ↔
      pq.sizeT ≤ 4 ∨ ∀ row < (resultRows result).length, NoBytea result row := by
  have hstart : overwritten q = rs.overwritten := by
    rw [overwritten, hq]
    rfl
  have hoverwritten (j : ℕ) : overwritten (PostgresCursor.fetches pq rt conns q j) =
      overwritten q ++ (List.range j).flatMap (rowOverrun pq result) := by
    obtain ⟨rs', hrs', -, hwritten⟩ := h.fetches pq rt conns hq j
    rw [hstart, ← hwritten, overwritten, hrs']
    rfl
  constructor
  · rintro ⟨-, -, hwithin⟩
    by_cases hsize : pq.sizeT ≤ 4
    · exact .inl hsize
    · refine .inr fun row _ => ((rowOverrun_eq_nil_iff pq result row).mp ?_).resolve_left hsize
      have hnil := hwithin (row + 1)
      rw [hoverwritten, List.append_right_eq_self, List.flatMap_eq_nil_iff] at hnil
      exact hnil row (List.mem_range.mpr (Nat.lt_succ_self row))
  · intro hrows
    have hnil (row : ℕ) : rowOverrun pq result row = [] := by
      rcases Nat.lt_or_ge row (resultRows result).length with hlt | hge
      · exact (rowOverrun_eq_nil_iff pq result row).mpr (hrows.imp_right fun h => h row hlt)
      · exact rowOverrun_end pq hge
    refine ⟨fun j => ?_, fun j hj => ?_, fun j => ?_⟩
    · obtain ⟨rs', hrs', hj, -⟩ := h.fetches pq rt conns hq j
      obtain ⟨rs'', hfetch, -⟩ := hj.fetch pq rt (conns j)
      rw [fetched, nextRow_fetched pq rt hrs' hfetch]
    · obtain ⟨rs', hrs', hj', -⟩ := h.fetches pq rt conns hq j
      obtain ⟨rs'', hfetch, -, hholds, -⟩ := hj'.fetch pq rt (conns j)
      refine ⟨rs'', ?_, hholds hj⟩
      rw [PostgresCursor.fetches, nextRow_fetched pq rt hrs' hfetch]
    · rw [hoverwritten, List.flatMap_eq_nil_iff.mpr fun row _ => hnil row, List.append_nil]

/-! ### Executions -/

theorem executeQuery_received {statement : Text} {s : Session}
    (h : (executeQuery pq statement s).1 = true) :
    ∃ result, (executeQuery pq statement s).2.1.log = s.1.log ++ [.exec statement] ∧
      pq.answer (s.1.log ++ [.exec statement]) = some result ∧
      Position (executeQuery pq statement s).2.2 result 0 := by
  unfold executeQuery at h ⊢
  dsimp only [TDBPostgreSQL.call] at h ⊢
  split_ifs at h ⊢ with hclosed
  split at h
  · cases h
  · cases h
  next hanswer =>
    rw [hanswer]
    exact ⟨.commandOk, rfl, rfl, .finished rfl (Nat.le_refl _)⟩
  next tuples hanswer =>
    rw [hanswer]
    exact ⟨.tuplesOk tuples, rfl, rfl,
      .streaming rfl (streaming_received s.2 tuples) (Nat.zero_le _)⟩

/-- The call that executes the prepared statement. -/
def preparedCall (rs : TPostgreSQLResultSet) : Call :=
  .execPrepared rs.preparedStatementName (rs.boundValues.map (paramOf rt)).length
    (rs.boundValues.map (paramOf rt))

theorem execute_received {s : Session} (h : (execute pq rt s).1 = true) :
    ∃ result, (execute pq rt s).2.1.log = s.1.log ++ [preparedCall rt s.2] ∧
      pq.answer (s.1.log ++ [preparedCall rt s.2]) = some result ∧
      Position (execute pq rt s).2.2 result 0 := by
  have hcall : Call.execPrepared s.2.cleanup.preparedStatementName
      (s.2.cleanup.boundValues.map (paramOf rt)).length
      (s.2.cleanup.boundValues.map (paramOf rt)) = preparedCall rt s.2 := rfl
  simp only [execute, TDBPostgreSQL.call, hcall] at h ⊢
  cases hanswer : pq.answer (s.1.log ++ [preparedCall rt s.2]) with
  | none =>
    rw [hanswer] at h
    cases h
  | some result =>
    rw [hanswer] at h
    cases result with
    | failed => cases h
    | commandOk => exact ⟨.commandOk, rfl, rfl, .finished rfl (Nat.le_refl _)⟩
    | tuplesOk tuples =>
      refine ⟨.tuplesOk tuples, rfl, rfl, ?_⟩
      dsimp only
      split_ifs with hnone
      · have hrows : ((tuples.rows.length : ℕ) : ℤ) < 1 := hnone
        refine .finished rfl (le_of_eq ?_)
        change tuples.rows.length = 0
        omega
      · exact .streaming rfl (streaming_received s.2 tuples) (Nat.zero_le _)

/-- The call of an execution: the statement itself, or the prepared one. -/
def IsExecution (statement : Text) (c : Call) : Prop :=
  if statement = [] then ∃ rs, c = preparedCall rt rs else c = .exec statement

theorem opened_log (conn : TDBPostgreSQL) (resultSet : Option TPostgreSQLResultSet) :
    ((driver pq rt).opened conn resultSet).1.log = conn.log := by
  cases resultSet with
  | none => rfl
  | some rs => rfl

theorem finish_log (r : Bool × Session) : ((driver pq rt).finish r).2.1.log = r.2.1.log :=
  Driver.finish_connection (f := TDBPostgreSQL.log) _ (fun _ _ => rfl) r

/-- A direct execution that succeeds made its call and holds what was answered. -/
theorem executeStatement_received {statement : Text} {conn : TDBPostgreSQL}
    {resultSet : Option TPostgreSQLResultSet}
    (hok : ((driver pq rt).executeStatement statement
      ((driver pq rt).opened conn resultSet)).1 = true) :
    ∃ result, ((driver pq rt).executeStatement statement
        ((driver pq rt).opened conn resultSet)).2.1.log = conn.log ++ [.exec statement] ∧
      pq.answer (conn.log ++ [.exec statement]) = some result ∧
      Position ((driver pq rt).executeStatement statement
        ((driver pq rt).opened conn resultSet)).2.2 result 0 := by
  unfold Driver.executeStatement at hok ⊢
  dsimp only at hok ⊢
  split_ifs at hok ⊢ with hblank hopen
  · cases hok
  · rw [Driver.finish_ok] at hok
    rw [finish_log, Driver.finish_resultSet, ← opened_log pq rt conn resultSet]
    exact executeQuery_received pq hok
  · cases hok

theorem executePrepared_received {conn : TDBPostgreSQL} {rs : TPostgreSQLResultSet}
    (hok : ((driver pq rt).executePrepared (conn, rs)).1 = true) :
    ∃ result, ((driver pq rt).executePrepared (conn, rs)).2.1.log =
        conn.log ++ [preparedCall rt rs] ∧
      pq.answer (conn.log ++ [preparedCall rt rs]) = some result ∧
      Position ((driver pq rt).executePrepared (conn, rs)).2.2 result 0 := by
  unfold Driver.executePrepared at hok ⊢
  split_ifs at hok ⊢ with hopen
  · rw [Driver.finish_ok] at hok
    rw [finish_log, Driver.finish_resultSet]
    exact execute_received pq rt hok
  · cases hok

/-- Every execution that succeeds, whatever was read before, delivers each row of its own result
once and in order, and nothing after the last one, exactly if no `bytea` of the result is stored
with a length that is wider than the local. -/
theorem rows_delivered_once {q q₁ : Query} {statement : Text}
    (h : q.execute (driver pq rt) statement = some (true, q₁)) :
    ∃ call result, IsExecution rt statement call ∧ q₁.conn.log = q.conn.log ++ [call] ∧
      pq.answer q₁.conn.log = some result ∧ ∀ conns, Delivers pq rt conns q₁ result ↔
        pq.sizeT ≤ 4 ∨ ∀ row < (resultRows result).length, NoBytea result row := by
  unfold TDatabaseQuery.execute at h
  split_ifs at h with hstatement
  · obtain ⟨hok, rfl⟩ := Prod.mk.inj (Option.some.inj h)
    obtain ⟨result, hlog, hanswer, hposition⟩ := executeStatement_received pq rt hok
    exact ⟨.exec statement, result, (if_neg hstatement).mpr rfl, hlog, hlog ▸ hanswer,
      fun conns => hposition.delivers_iff pq rt conns rfl⟩
  · split at h
    next rs hrs =>
      obtain ⟨hok, rfl⟩ := Prod.mk.inj (Option.some.inj h)
      obtain ⟨result, hlog, hanswer, hposition⟩ := executePrepared_received pq rt hok
      exact ⟨preparedCall rt rs, result, (if_pos (not_not.mp hstatement)).mpr ⟨rs, rfl⟩, hlog,
        hlog ▸ hanswer, fun conns => hposition.delivers_iff pq rt conns rfl⟩
    next =>
      dsimp only at h
      split at h <;> cases h

end

def twoIds : PGresult := .tuplesOk ⟨[⟨"id".toList, INT4OID⟩], [[some ['1']], [some ['2']]]⟩

/-- A server that answers every call with two rows. -/
def twoRows : Libpq := ⟨fun _ => some twoIds, fun _ => true, fun _ => [], fun _ => [], 8⟩

/-- The first of the two rows has been read. -/
def readOnce : Query :=
  (((TDatabaseQuery.create opened).execute (driver twoRows plain)
    "SELECT id".toList).elim (.create opened) (·.2)).nextRow (driver twoRows plain) |>.2

theorem rows_delivered_once_again :
    ∃ q₁, readOnce.execute (driver twoRows plain) "SELECT id".toList = some (true, q₁) ∧
      (resultRows twoIds).length = 2 ∧ ∀ conns, Delivers twoRows plain conns q₁ twoIds := by
  refine ⟨_, rfl, rfl, fun conns => ?_⟩
  obtain ⟨-, result, -, -, hanswer, hdelivers⟩ := @rows_delivered_once twoRows plain
    readOnce _ "SELECT id".toList rfl
  obtain rfl : twoIds = result := Option.some.inj hanswer
  refine (hdelivers conns).mpr (.inr fun row _ i column hcolumn hbytea => ?_)
  obtain rfl : column = ⟨"id".toList, INT4OID⟩ :=
    List.mem_singleton.mp (List.mem_of_getElem? hcolumn)
  exact absurd hbytea (by decide)

def oneData : PGresult := .tuplesOk ⟨[⟨"data".toList, BYTEAOID⟩], [[some "\\x01".toList]]⟩

/-- A server that answers every call with one `bytea` of one byte. -/
def oneBytea : Libpq := ⟨fun _ => some oneData, fun _ => true, fun _ => [], fun _ => [1], 8⟩

/-- The fetch of a `bytea` writes four bytes behind its local. -/
theorem bytea_overwrites :
    ∃ q₁, (TDatabaseQuery.create opened).execute (driver oneBytea plain) "SELECT data".toList =
        some (true, q₁) ∧ overwritten q₁ = [] ∧
      overwritten (q₁.nextRow (driver oneBytea plain)).2 = [0, 0, 0, 0] ∧
      ¬ Delivers oneBytea plain (fun _ => opened) q₁ oneData := by
  refine ⟨_, rfl, rfl, by decide, fun hdelivers => ?_⟩
  exact absurd (hdelivers.within 1) (by decide)

end DatabaseMod.PostgresCursor
