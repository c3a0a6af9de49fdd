import DatabaseMod.CoreInvariant
import DatabaseMod.MariaDriver

/-!
# The record of a MariaDB result

The record and the values of a result set follow the columns of the statement that was
prepared, or of the result that was stored; each column of a prepared statement has a buffer.
-/

namespace DatabaseMod.MariaRecord
open SqlTokens (Text)
open CoreValues CoreResultSet CoreQuery CoreInvariant MariaDriver TMySQLResultSet

abbrev Query := TDatabaseQuery TDBMariaDB TMySQLResultSet

structure Describes (rs : TMySQLResultSet) (columns : List Field) : Prop where
  fields_eq : rs.record.fields = columns.map fun f => ⟨f.name, dbTypeFromNative f.type f.flags⟩
  values_length : rs.values.length = columns.length

/-- A stored result is freed before a statement is prepared. -/
structure Described (rs : TMySQLResultSet) : Prop where
  prepared : rs.preparedQuery = true → rs.resultHandle = none ∧
    ∀ columns ∈ rs.metaHandle, Describes rs columns ∧ rs.mySQLFields.length = columns.length
  stored : ∀ result ∈ rs.resultHandle, Describes rs result.columns

section

variable {rs rs' : TMySQLResultSet}

/-- The parts of a result set that its description depends on. -/
structure SameParts (rs rs' : TMySQLResultSet) : Prop where
  record : rs'.record = rs.record
  values : rs'.values.length = rs.values.length
  preparedQuery : rs'.preparedQuery = rs.preparedQuery
  columns : rs'.resultHandle.map (·.columns) = rs.resultHandle.map (·.columns)
  metaHandle : rs'.metaHandle = rs.metaHandle
  mySQLFields : rs'.mySQLFields.length = rs.mySQLFields.length

theorem SameParts.trans {rs'' : TMySQLResultSet} (h : SameParts rs rs') (h' : SameParts rs' rs'') :
    SameParts rs rs'' :=
  ⟨h'.record.trans h.record, h'.values.trans h.values, h'.preparedQuery.trans h.preparedQuery,
    h'.columns.trans h.columns, h'.metaHandle.trans h.metaHandle,
    h'.mySQLFields.trans h.mySQLFields⟩

theorem Describes.same {columns : List Field} (h : Describes rs columns) (hsame : SameParts rs rs') :
    Describes rs' columns :=
  ⟨hsame.record ▸ h.fields_eq, hsame.values.trans h.values_length⟩

theorem Described.same (h : Described rs) (hsame : SameParts rs rs') : Described rs' := by
  have hcolumns := hsame.columns
  refine ⟨fun hprepared => ?_, fun result hresult => ?_⟩
  · obtain ⟨hnone, hmeta⟩ := h.prepared (hsame.preparedQuery ▸ hprepared)
    refine ⟨?_, fun columns hmem => ?_⟩
    · rw [hnone] at hcolumns
      exact Option.map_eq_none_iff.mp hcolumns
    · rw [hsame.metaHandle] at hmem
      obtain ⟨hdescribes, hlength⟩ := hmeta columns hmem
      exact ⟨hdescribes.same hsame, hsame.mySQLFields.trans hlength⟩
  · rw [hresult] at hcolumns
    obtain ⟨old, hold, heq⟩ := Option.map_eq_some_iff.mp hcolumns.symm
    have hdescribes := (h.stored old hold).same hsame
    rw [heq] at hdescribes
    exact hdescribes

theorem described_cleaned (rs : TMySQLResultSet) : Described rs.cleaned :=
  ⟨fun _ => ⟨rfl, fun _ hmem => absurd hmem (Option.not_mem_none _)⟩,
    fun _ hmem => absurd hmem (Option.not_mem_none _)⟩

theorem describes_initRecord (rs : TMySQLResultSet) (columns : List Field) :
    Describes (rs.initRecord columns) columns := by
  refine ⟨?_, List.length_replicate⟩
  change (if columns.length = 0 then rs.record.clear else _).fields = _
  split_ifs with hempty
  · rw [List.length_eq_zero_iff.mp hempty]
    rfl
  · rfl

theorem describes_active {columns : List Field} (h : Describes rs columns)
    (result : Option StoredResult) :
    Describes { rs with resultHandle := result, isActive := true } columns :=
  ⟨h.fields_eq, h.values_length⟩

variable (lib : Libmariadb) (rt : Runtime)

/-! ### Calls of the core -/

theorem described_executeQuery (statement : Text) {s : Session} (h : Described s.2) :
    Described (executeQuery lib statement s).2.2 := by
  have hdirect : Described { s.2 with preparedQuery := false } :=
    ⟨nofun, fun result hresult =>
      ⟨(h.stored result hresult).fields_eq, (h.stored result hresult).values_length⟩⟩
  unfold executeQuery
  dsimp only
  split_ifs
  · exact hdirect
  · split
    · exact ⟨nofun, fun _ hmem => absurd hmem (Option.not_mem_none _)⟩
    · exact ⟨nofun, fun _ hmem => absurd hmem (Option.not_mem_none _)⟩
    next result =>
      refine ⟨nofun, fun result' hmem => ?_⟩
      obtain rfl := Option.mem_some_iff.mp hmem
      exact describes_active (describes_initRecord _ _) _
  · exact h

theorem described_bound (rs : TMySQLResultSet) (stmt : Statement) (fresh : ℕ → Memory) :
    Described (rs.cleaned.bound stmt fresh) := by
  obtain ⟨paramCount, columns⟩ := stmt
  cases columns with
  | none =>
    exact ⟨fun _ => ⟨rfl, fun _ hmem => absurd hmem (Option.not_mem_none _)⟩,
      fun _ hmem => absurd hmem (Option.not_mem_none _)⟩
  | some columns =>
    refine ⟨fun _ => ⟨rfl, fun columns' hmem => ?_⟩, fun _ hmem => absurd hmem (Option.not_mem_none _)⟩
    obtain rfl := Option.mem_some_iff.mp hmem
    have hinit := describes_initRecord rs.cleaned columns
    exact ⟨⟨hinit.fields_eq, hinit.values_length⟩, List.length_mapIdx⟩

theorem described_prepare (statement : Text) (s : Session) :
    Described (prepare lib statement s).2.2 := by
  unfold prepare
  dsimp only
  split_ifs
  · exact described_cleaned s.2
  · exact described_cleaned s.2
  · exact described_bound s.2 _ _
  · exact described_cleaned s.2

theorem run_same (s : Session) : SameParts s.2 (run lib s).2.2 := by
  unfold run
  dsimp only
  split_ifs <;> exact ⟨rfl, rfl, rfl, rfl, rfl, rfl⟩

theorem bindAndRun_same (stmt : Statement) (s : Session) :
    SameParts s.2 (bindAndRun lib stmt s).2.2 := by
  unfold bindAndRun
  dsimp only
  split_ifs
  · exact ⟨rfl, rfl, rfl, rfl, rfl, rfl⟩
  · refine SameParts.trans ?_ (run_same lib _)
    exact ⟨rfl, rfl, rfl, rfl, rfl, rfl⟩
  · exact ⟨rfl, rfl, rfl, rfl, rfl, rfl⟩
  · exact run_same lib s

theorem execute_same (s : Session) : SameParts s.2 (execute lib s).2.2 := by
  unfold execute
  cases s.2.stmtHandle with
  | none =>
    dsimp only
    split_ifs <;> exact ⟨rfl, rfl, rfl, rfl, rfl, rfl⟩
  | some stmt =>
    dsimp only
    split_ifs
    · exact ⟨rfl, rfl, rfl, rfl, rfl, rfl⟩
    · refine SameParts.trans ?_ (bindAndRun_same lib stmt _)
      exact ⟨rfl, rfl, rfl, rfl, rfl, rfl⟩
    · exact ⟨rfl, rfl, rfl, rfl, rfl, rfl⟩

theorem nextRow_same (s : Session) : SameParts s.2 (nextRow lib rt s).2.2 := by
  unfold nextRow
  split_ifs with hprepared hhandle
  · exact ⟨rfl, rfl, rfl, rfl, rfl, rfl⟩
  · dsimp only
    split_ifs
    · exact ⟨rfl, rfl, rfl, rfl, rfl, rfl⟩
    · exact ⟨rfl, List.length_mapIdx, rfl, rfl, rfl, List.length_mapIdx⟩
  · split
    · exact ⟨rfl, rfl, rfl, rfl, rfl, rfl⟩
    next result hresult =>
      split
      · exact ⟨rfl, rfl, rfl, rfl, rfl, rfl⟩
      · refine ⟨rfl, List.length_mapIdx, rfl, ?_, rfl, rfl⟩
        rw [hresult]
        rfl

theorem bind_same (rs : TMySQLResultSet) (c : BindCall) :
    SameParts rs { rs with toTQueryResultSet := c.apply rs.toTQueryResultSet } := by
  cases c with
  | clearBindValues => exact ⟨rfl, List.length_map _, rfl, rfl, rfl, rfl⟩
  | _ => exact ⟨rfl, rfl, rfl, rfl, rfl, rfl⟩

theorem described_clear (s : Session) : Described (clear s).2 :=
  (described_cleaned s.2).same (bind_same _ .clearBindValues)

theorem described_preserved : Driver.Preserves (driver lib rt) Described where
  createResultSet _ := ⟨nofun, fun _ hmem => absurd hmem (Option.not_mem_none _)⟩
  clear s _ := described_clear s
  inactive _ h := h.same ⟨rfl, rfl, rfl, rfl, rfl, rfl⟩
  query _ _ h := h.same ⟨rfl, rfl, rfl, rfl, rfl, rfl⟩
  bind rs c h := h.same (bind_same rs c)
  prepare statement s _ := described_prepare lib statement s
  executeQuery statement _ h := described_executeQuery lib statement h
  execute s h := h.same (execute_same lib s)
  firstRow s h := by
    change Described (firstRow lib rt s).2.2
    unfold firstRow
    split_ifs
    · exact h.same (nextRow_same lib rt s)
    · exact h
  nextRow s h := h.same (nextRow_same lib rt s)
  finished _ _ _ := described_clear _

/-- Over any run, the record follows the columns. -/
theorem described_reached {q : Query} (h : q.Reached (driver lib rt)) :
    ∀ rs ∈ q.resultSet, Described rs :=
  reached_preserves (described_preserved lib rt) h

/-! ### A row -/

theorem firstRow_true {s : Session} (h : (firstRow lib rt s).1 = true) :
    firstRow lib rt s = nextRow lib rt s := by
  unfold firstRow at h ⊢
  split_ifs at h ⊢
  rfl

theorem nextRow_true {q q' : Query} (h : q.nextRow (driver lib rt) = (true, q')) :
    ∃ rs, q.resultSet = some rs ∧ (nextRow lib rt (q.conn, rs)).1 = true ∧
      q'.resultSet = some (nextRow lib rt (q.conn, rs)).2.2 :=
  TDatabaseQuery.nextRow_true (fun _ => firstRow_true lib rt) h

theorem fillValues_column {columns : List Field} {column : Field} {i : ℕ}
    (h : Describes rs columns) (hcolumn : columns[i]? = some column)
    (value : ℕ → ℕ → Option (Option TDBType)) {v : Option TDBType}
    (hvalue : value i (dbTypeFromNative column.type column.flags) = some v) :
    (rs.fillValues value)[i]? = some v := by
  have hi : i < columns.length := (List.getElem?_eq_some_iff.mp hcolumn).1
  have hcount : i < rs.record.count := by
    rw [TQueryRecord.count, h.fields_eq, List.length_map]
    exact hi
  have hvalues : i < rs.values.length := h.values_length ▸ hi
  have hfield : (rs.record.fields[i]?).elim 0 (·.fType) =
      dbTypeFromNative column.type column.flags := by
    rw [h.fields_eq, List.getElem?_map, hcolumn]
    rfl
  rw [fillValues, List.getElem?_mapIdx, List.getElem?_eq_getElem hvalues, Option.map_some,
    if_pos hcount, hfield, hvalue]
  rfl

end

end DatabaseMod.MariaRecord
