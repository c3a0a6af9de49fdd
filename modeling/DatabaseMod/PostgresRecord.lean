import DatabaseMod.CoreInvariant
import DatabaseMod.PostgresDriver

/-!
# The record of a PostgreSQL result

While a result set is active, its record describes the columns of the result that it
fetches rows from, which is one that the server answered.
-/

namespace DatabaseMod.PostgresRecord
open SqlTokens (Text)
open CoreValues CoreResultSet CoreQuery CoreInvariant PostgresDriver TPostgreSQLResultSet

abbrev Query := TDatabaseQuery TDBPostgreSQL TPostgreSQLResultSet

/-- The result is there until its last row was fetched. -/
structure Describes (pq : Libpq) (rs : TPostgreSQLResultSet) (tuples : Tuples) : Prop where
  answered : ∃ log, pq.answer log = some (.tuplesOk tuples)
  queryRows_eq : rs.queryRows = tuples.rows.length
  fields_eq : rs.record.fields =
    tuples.columns.map fun column => ⟨column.name, dbTypeFromNative column.ftype⟩
  dtypes_eq : rs.dtypes = tuples.columns.map (·.ftype)
  values_length : rs.values.length = tuples.columns.length
  index_ge : -1 ≤ rs.index
  pgResult_eq : rs.index < rs.queryRows - 1 → rs.pgResult = some (.tuplesOk tuples)

def Described (pq : Libpq) (rs : TPostgreSQLResultSet) : Prop :=
  rs.isActive = true → ∃ tuples, Describes pq rs tuples

section

variable (pq : Libpq) (rt : Runtime)

theorem described_inactive {rs : TPostgreSQLResultSet} (h : rs.isActive = false) :
    Described pq rs := by
  intro hactive
  rw [h] at hactive
  cases hactive

theorem describes_received (rs : TPostgreSQLResultSet) {tuples : Tuples} {log : List Call}
    (h : pq.answer log = some (.tuplesOk tuples)) (hindex : rs.index = SQL_BeforeFirstRow) :
    Describes pq { rs.received tuples with isActive := true } tuples := by
  refine ⟨⟨log, h⟩, rfl, ?_, rfl, List.length_replicate .., ?_, fun _ => rfl⟩
  · change (if tuples.columns.length = 0 then rs.record.clear else _).fields = _
    split_ifs with hempty
    · rw [List.length_eq_zero_iff.mp hempty]
      rfl
    · rfl
  · change -1 ≤ rs.index
    rw [hindex]
    decide

theorem described_executeQuery (statement : Text) {s : Session} (h : Described pq s.2) :
    Described pq (executeQuery pq statement s).2.2 := by
  unfold executeQuery
  dsimp only
  split_ifs
  · split
    · exact described_inactive pq rfl
    · exact described_inactive pq rfl
    · exact described_inactive pq rfl
    next tuples hanswer =>
      exact fun _ => ⟨tuples, describes_received pq s.2.cleanup hanswer rfl⟩
  · exact h

theorem described_prepare (statement : Text) (s : Session) :
    Described pq (prepare pq statement s).2.2 := by
  have hreleased : (releaseName pq (s.1, s.2.cleanup)).2.isActive = false := by
    unfold releaseName
    split_ifs <;> rfl
  apply described_inactive
  unfold prepare
  dsimp only
  split_ifs
  · rfl
  · split
    · exact hreleased
    · exact hreleased
    · rfl

theorem described_execute (s : Session) : Described pq (execute pq rt s).2.2 := by
  unfold execute
  dsimp only
  split
  · exact described_inactive pq rfl
  · exact described_inactive pq rfl
  · exact described_inactive pq rfl
  next tuples hanswer =>
    split_ifs
    · exact described_inactive pq rfl
    · exact fun _ => ⟨tuples, describes_received pq s.2.cleanup hanswer rfl⟩

theorem nextRow_true {s : Session} (h : Described pq s.2) (hnext : (nextRow pq rt s).1 = true) :
    ∃ tuples, Describes pq s.2 tuples ∧ Describes pq (nextRow pq rt s).2.2 tuples ∧
      s.2.index < s.2.queryRows - 1 ∧ (nextRow pq rt s).2.2.isActive = true ∧
      (nextRow pq rt s).2.2.index = s.2.index + 1 ∧
      (nextRow pq rt s).2.2.record = s.2.record ∧
      (nextRow pq rt s).2.2.values = s.2.fillValues pq rt (s.2.index + 1).toNat := by
  set filled : TPostgreSQLResultSet := { s.2 with
    values := s.2.fillValues pq rt (s.2.index + 1).toNat, index := s.2.index + 1,
    overwritten := s.2.overwritten ++ s.2.overrun pq (s.2.index + 1).toNat }
  have heq : nextRow pq rt s = (true, s.1,
      if s.2.index + 1 ≥ s.2.queryRows - 1 then filled.clearResultSet else filled) ∧
      s.2.isActive = true ∧ s.2.index < s.2.queryRows - 1 := by
    unfold nextRow at hnext ⊢
    dsimp only at hnext ⊢
    split_ifs at hnext ⊢ with hactive hend hlast
    · exact ⟨rfl, hactive, not_le.mp hend⟩
    · exact ⟨rfl, hactive, not_le.mp hend⟩
  obtain ⟨heq, hactive, hindex⟩ := heq
  obtain ⟨tuples, hdescribes⟩ := h hactive
  have hlength : (s.2.fillValues pq rt (s.2.index + 1).toNat).length = tuples.columns.length := by
    rw [fillValues, List.length_mapIdx]
    exact hdescribes.values_length
  have hge : -1 ≤ s.2.index + 1 := by
    have hbefore := hdescribes.index_ge
    omega
  refine ⟨tuples, hdescribes, ?_⟩
  rw [heq]
  dsimp only
  split_ifs with hlast
  · refine ⟨?_, hindex, hactive, rfl, rfl, rfl⟩
    obtain ⟨answered, queryRows_eq, fields_eq, dtypes_eq, -, -, -⟩ := hdescribes
    exact ⟨answered, queryRows_eq, fields_eq, dtypes_eq, hlength, hge,
      fun hlt => absurd hlt (not_lt.mpr hlast)⟩
  · refine ⟨?_, hindex, hactive, rfl, rfl, rfl⟩
    obtain ⟨answered, queryRows_eq, fields_eq, dtypes_eq, -, -, hresult⟩ := hdescribes
    exact ⟨answered, queryRows_eq, fields_eq, dtypes_eq, hlength, hge,
      fun _ => hresult hindex⟩

theorem nextRow_false {s : Session} (hnext : (nextRow pq rt s).1 = false) :
    (nextRow pq rt s).2.2.isActive = false := by
  unfold nextRow at hnext ⊢
  dsimp only at hnext ⊢
  split_ifs at hnext ⊢ <;> rfl

theorem described_nextRow {s : Session} (h : Described pq s.2) :
    Described pq (nextRow pq rt s).2.2 := by
  cases hnext : (nextRow pq rt s).1 with
  | false => exact described_inactive pq (nextRow_false pq rt hnext)
  | true =>
    obtain ⟨tuples, -, hdescribes, -⟩ := nextRow_true pq rt h hnext
    exact fun _ => ⟨tuples, hdescribes⟩

theorem described_bind {rs : TPostgreSQLResultSet} (h : Described pq rs) (c : BindCall) :
    Described pq { rs with toTQueryResultSet := c.apply rs.toTQueryResultSet } := by
  cases c with
  | clearBindValues =>
    intro hactive
    obtain ⟨tuples, answered, queryRows_eq, fields_eq, dtypes_eq, hlength, index_ge, hresult⟩ :=
      h hactive
    refine ⟨tuples, answered, queryRows_eq, fields_eq, dtypes_eq, ?_, index_ge, hresult⟩
    change (rs.values.map (Option.map TDBType.clear)).length = _
    rw [List.length_map]
    exact hlength
  | _ =>
    intro hactive
    obtain ⟨tuples, answered, queryRows_eq, fields_eq, dtypes_eq, hlength, index_ge, hresult⟩ :=
      h hactive
    exact ⟨tuples, answered, queryRows_eq, fields_eq, dtypes_eq, hlength, index_ge, hresult⟩

theorem described_preserved : Driver.Preserves (driver pq rt) (Described pq) where
  createResultSet _ := described_inactive pq rfl
  clear s h := described_bind pq h .clearBindValues
  inactive _ _ := described_inactive pq rfl
  query rs query h hactive := by
    obtain ⟨tuples, hanswered, hrows, hfields, hdtypes, hlength, hindex, hresult⟩ := h hactive
    exact ⟨tuples, hanswered, hrows, hfields, hdtypes, hlength, hindex, hresult⟩
  bind rs c h := described_bind pq h c
  prepare statement s _ := described_prepare pq statement s
  executeQuery statement s h := described_executeQuery pq statement h
  execute s _ := described_execute pq rt s
  firstRow s h := by
    change Described pq (firstRow pq rt s).2.2
    unfold firstRow
    split_ifs
    · exact described_nextRow pq rt h
    · exact h
  nextRow s h := described_nextRow pq rt h
  finished s _ hnext := described_inactive pq (nextRow_false pq rt hnext)

/-- Over any run, the record describes the result that rows are fetched from. -/
theorem described_reached {q : Query} (h : q.Reached (driver pq rt)) :
    ∀ rs ∈ q.resultSet, Described pq rs :=
  reached_preserves (described_preserved pq rt) h

end

end DatabaseMod.PostgresRecord
