import DatabaseMod.CoreInvariant
import DatabaseMod.SqliteSteps

/-!
# An invariant of the SQLite result set

What holds of a result set after any calls on its query: the cursor never rests behind the
last row, a result set that waits for its first fetch stands before the first row, and the
arrays have the lengths that the loops over them need.
-/

namespace DatabaseMod.SqliteInvariant
open SqlTokens (Text trim)
open CoreValues CoreResultSet CoreQuery CoreInvariant SqlEngine SqliteDriver SqliteSteps
open TSQLiteResultSet

/-- The part of the invariant that the core's methods preserve. -/
structure Sized (base : TQueryResultSet) : Prop where
  values_length : base.record.isEmpty = false → base.values.length = base.record.count
  bindCount_le : base.bindCount ≤ base.boundValues.length

structure Ready (rs : TSQLiteResultSet) : Prop extends Sized rs.toTQueryResultSet where
  index_ge : SQL_BeforeFirstRow ≤ rs.index
  beforeFirst : rs.initialFetch = true → rs.index = SQL_BeforeFirstRow

/-! ### Methods of the core -/

section

variable {base : TQueryResultSet} (h : Sized base)
include h

theorem Sized.clearBindValues : Sized base.clearBindValues := by
  refine ⟨fun hrecord => ?_, ?_⟩
  · simpa [TQueryResultSet.clearBindValues] using h.values_length hrecord
  · unfold TQueryResultSet.clearBindValues
    split_ifs with hempty
    · simpa using h.bindCount_le
    · exact Nat.zero_le _

theorem Sized.bindValue (index : ℕ) (value : Option TDBType) :
    Sized (base.bindValue index value) := by
  refine ⟨h.values_length, ?_⟩
  have hle := h.bindCount_le
  simp only [TQueryResultSet.bindValue, List.length_set, List.length_append, List.length_replicate]
  split_ifs <;> omega

end

/-! ### Operations of the driver -/

variable (e : Engine) (conv : Conversions)

theorem ready_create (conn : TDBSQLite) : Ready (createResultSet conn).2 where
  values_length h := by cases h
  bindCount_le := le_rfl
  index_ge := le_rfl
  beforeFirst _ := rfl

section

variable {rs : TSQLiteResultSet} (h : Ready rs)
include h

theorem Ready.cleaned : Ready (cleaned rs) where
  toSized := Sized.clearBindValues ⟨h.values_length, h.bindCount_le⟩
  index_ge := le_rfl
  beforeFirst _ := rfl

theorem Ready.ensureRecord : Ready (ensureRecord rs) := by
  unfold TSQLiteResultSet.ensureRecord
  split_ifs with hempty
  · exact ⟨⟨fun _ => by simp [TQueryResultSet.resetValues], h.bindCount_le⟩, h.index_ge,
      h.beforeFirst⟩
  · exact h

theorem Ready.with_stmtHandle (stmtHandle : Option Statement) :
    Ready { rs with stmtHandle := stmtHandle } :=
  ⟨⟨h.values_length, h.bindCount_le⟩, h.index_ge, h.beforeFirst⟩

theorem Ready.with_isActive (isActive : Bool) : Ready { rs with isActive := isActive } :=
  ⟨⟨h.values_length, h.bindCount_le⟩, h.index_ge, h.beforeFirst⟩

theorem Ready.with_fakeFirstRowFetch (fake : Bool) :
    Ready { rs with fakeFirstRowFetch := fake } :=
  ⟨⟨h.values_length, h.bindCount_le⟩, h.index_ge, h.beforeFirst⟩

theorem Ready.with_query (query : Text) : Ready { rs with query := query } :=
  ⟨⟨h.values_length, h.bindCount_le⟩, h.index_ge, h.beforeFirst⟩

theorem Ready.rewound : Ready (rewound rs) :=
  (h.with_fakeFirstRowFetch false).with_stmtHandle _

theorem Ready.beginFetch : Ready (beginFetch rs) := by
  unfold TSQLiteResultSet.beginFetch
  split_ifs
  · exact ⟨⟨h.values_length, h.bindCount_le⟩, h.index_ge, fun hinitial => by cases hinitial⟩
  · exact h

theorem Ready.storeRow (hinitial : rs.initialFetch = false) (row : Row) :
    Ready (storeRow rs row) := by
  have hr := h.ensureRecord
  refine ⟨⟨fun hrecord => ?_, hr.bindCount_le⟩, ?_, ?_⟩
  · simpa [TSQLiteResultSet.storeRow, fillValues] using hr.values_length hrecord
  · have hindex := hr.index_ge
    change SQL_BeforeFirstRow ≤ (TSQLiteResultSet.ensureRecord rs).index + 1
    omega
  · intro htrue
    change (TSQLiteResultSet.ensureRecord rs).initialFetch = true at htrue
    rw [ensureRecord_initialFetch, hinitial] at htrue
    cases htrue

theorem Ready.storeEnd : Ready (storeEnd rs) :=
  have hr := h.ensureRecord
  ⟨⟨hr.values_length, hr.bindCount_le⟩, hr.index_ge, hr.beforeFirst⟩

end

theorem beginFetch_initialFetch (rs : TSQLiteResultSet) :
    (beginFetch rs).initialFetch = false := by
  unfold beginFetch
  split_ifs with h
  · rfl
  · simpa using h

theorem Ready.nextRow {s : Session} (h : Ready s.2) : Ready (nextRow e s).2.2 := by
  by_cases hfake : s.2.fakeFirstRowFetch = true
  · rw [nextRow_fake e hfake]
    exact h.with_fakeFirstRowFetch false
  · have hfake : s.2.fakeFirstRowFetch = false := by simpa using hfake
    cases hstmt : s.2.stmtHandle with
    | none =>
      obtain ⟨conn, -, -, heq⟩ := nextRow_null hfake hstmt
      rw [heq]
      exact h.beginFetch
    | some stmt =>
      cases hrows : (stmt.run e s.1.log).rows with
      | cons row rest =>
        rw [nextRow_row hfake hstmt hrows]
        exact Ready.storeRow
          (h.beginFetch.with_stmtHandle (some { stmt with running := some ⟨rest, _⟩ }))
          (beginFetch_initialFetch s.2) row
      | nil =>
        cases hrun : (stmt.run e s.1.log).failure with
        | none =>
          obtain ⟨calls, -, heq⟩ := nextRow_done hfake hstmt hrows hrun
          rw [heq]
          exact (h.beginFetch.with_stmtHandle _).storeEnd
        | some code =>
          obtain ⟨calls, conn, -, -, -, heq⟩ := nextRow_failed hfake hstmt hrows hrun
          rw [heq]
          exact h.beginFetch.with_stmtHandle _

theorem Ready.prefetch {s : Session} (h : Ready s.2) : Ready (prefetch e s).2.2 := by
  unfold TSQLiteResultSet.prefetch
  dsimp only
  split_ifs
  · exact (h.nextRow e).with_isActive false
  · exact (h.nextRow e).with_isActive true

theorem Ready.execute {s : Session} (h : Ready s.2) : Ready (execute e conv s).2.2 := by
  rcases execute_cases e conv s with ⟨t, calls, heq, ht, -⟩ | ⟨resets, calls, -, -, -, -, heq⟩
  · obtain ⟨freed, -, -, -, hfree⟩ := free_eq t
    rw [heq, hfree, ht]
    exact h.rewound.with_stmtHandle none
  · rw [heq]
    exact Ready.prefetch e h.rewound

theorem Ready.prepare (sql : Text) {s : Session} (h : Ready s.2) :
    Ready (prepare e sql s).2.2 := by
  by_cases hopen : s.1.isOpen = true
  · obtain ⟨calls, c, query, -, -, hcases⟩ := prepare_cases e sql hopen
    rcases hcases with ⟨conn, stmtHandle, heq, -⟩ | ⟨conn, heq, -⟩
    · rw [heq]
      exact (h.cleaned.with_query query).with_stmtHandle stmtHandle
    · rw [heq]
      exact h.cleaned.with_query query
  · rw [TSQLiteResultSet.prepare, if_pos hopen]
    exact h

theorem Ready.executeQuery (statement : Text) {s : Session} (h : Ready s.2) :
    Ready (executeQuery e conv statement s).2.2 := by
  unfold TSQLiteResultSet.executeQuery
  dsimp only
  split_ifs
  · exact (h.prepare e statement).execute e conv
  · exact h.prepare e statement

/-- A reset makes the cursor stand before the first row wherever it was. -/
theorem ready_reset {s : Session} (h : Sized s.2.toTQueryResultSet) : Ready (reset e s).2 := by
  obtain ⟨calls, -, heq⟩ := resetHandle_eq e
    (s.1, { s.2 with initialFetch := true, index := SQL_BeforeFirstRow })
  unfold TSQLiteResultSet.reset
  rw [heq]
  exact ⟨⟨h.values_length, h.bindCount_le⟩, le_rfl, fun _ => rfl⟩

/-! ### Calls on a query -/

theorem Ready.with_base {rs : TSQLiteResultSet} (h : Ready rs) {base : TQueryResultSet}
    (hbase : Sized base) (hindex : base.index = rs.index) :
    Ready { rs with toTQueryResultSet := base } :=
  ⟨⟨hbase.values_length, hbase.bindCount_le⟩, hindex ▸ h.index_ge,
    fun hinitial => hindex.trans (h.beforeFirst hinitial)⟩

theorem ready_preserved : Driver.Preserves (driver e conv) Ready where
  createResultSet := ready_create
  clear _ h := h.with_base h.toSized.clearBindValues rfl
  inactive _ h := h.with_isActive false
  query _ query h := h.with_query query
  bind rs c h := by
    refine h.with_base ?_ ?_
    · cases c with
      | bindValue position value => exact h.toSized.bindValue position value
      | addBindValue value => exact h.toSized.bindValue rs.bindCount value
      | clearBindValues => exact h.toSized.clearBindValues
    · cases c <;> rfl
  prepare statement _ h := h.prepare e statement
  executeQuery statement _ h := h.executeQuery e conv statement
  execute _ h := h.execute e conv
  firstRow s h := by
    change Ready (firstRow e s).2.2
    unfold TSQLiteResultSet.firstRow
    split_ifs
    · exact h.nextRow e
    · exact h
  nextRow _ h := h.nextRow e
  finished _ h _ := ready_reset e ⟨(h.nextRow e).values_length, (h.nextRow e).bindCount_le⟩

theorem ready_reached {q : TDatabaseQuery TDBSQLite TSQLiteResultSet}
    (h : q.Reached (driver e conv)) : ∀ rs ∈ q.resultSet, Ready rs :=
  reached_preserves (ready_preserved e conv) h

end DatabaseMod.SqliteInvariant
