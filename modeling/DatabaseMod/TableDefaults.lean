import DatabaseMod.ResultObjects
import DatabaseMod.TableDrivers

/-!
# The default values of the columns of a table

`getTableInfo` keeps, as the default of a column, the object that its query has for the cell. The
query goes on with the row of the next column, and clears that object.
-/

namespace DatabaseMod.TableDefaults
open SqlTokens (Text)
open CoreValues CoreValueObjects CoreTemporal CoreFormat SqlEngine TableColumns
open CoreDateTypes (TDBDateTime)
open ResultObjects ResultObjects.TQueryResultSet

/-! ### SQLite -/

namespace TDBSQLite

/-- The object that `nextRow` makes for a cell, if it makes one. -/
def newObject : SqlValue → Option DBObject
  | .null => none
  | .integer value => some (.integer .long false value)
  | .real bits => some (.double false bits)
  | .text value => some (.string false value)
  | .blob data => setBlobValue (if data = [] then none else some data) data.length true false

def cells (columns : ℕ) (row : Row) : List (Option DBObject) :=
  (List.range columns).map fun i => newObject (cell row i)

/-- The defaults of the columns and the objects there are when the table is returned. The query is
prepared again for the statements of the table, with the record that it has; freeing it clears
nothing. -/
def tableDefaults (columns : ℕ) (rows : List Row) (withDDL : Bool) (ddlRows : List Row) :
    List (Option Ref) × List DBObject :=
  let r := (created columns).eachValue 4 (rows.map (cells columns))
  if withDDL then
    let rs := r.2.clearBindValues.clearBindValues
    (r.1, (rs.eachValue 0 (ddlRows.map (cells columns))).2.store)
  else (r.1, r.2.store)

end TDBSQLite

/-! ### PostgreSQL -/

namespace TDBPostgreSQL
open PostgresDriver

variable (pq : Libpq) (rt : Runtime)

def newObject (fType dtype : ℕ) (text : Text) : Option DBObject :=
  if fType = DBTYPE_INT then
    if dtype = BOOLOID then some (.integer .int false (if text = ['t'] then 1 else 0))
    else some (.integer .int false (rt.conv.toInt text))
  else if fType = DBTYPE_LONG then some (.integer .long false (rt.conv.toLong text))
  else if fType = DBTYPE_UINT then some (.integer .uint false (rt.conv.toUInt text))
  else if fType = DBTYPE_ULONG then some (.integer .ulong false (rt.conv.toULong text))
  else if fType = DBTYPE_FLOAT then some (.float false (rt.conv.toFloat text))
  else if fType = DBTYPE_DOUBLE then some (.double false (rt.conv.toDouble text))
  else if fType = DBTYPE_DATE then (TDBDate.setFromString text).map .date
  else if fType = DBTYPE_DATETIME then (TDBDateTime.setFromString text).map .dateTime
  else if fType = DBTYPE_TIME then (TDBTime.setFromString text).map .time
  else if fType = DBTYPE_DECIMAL then some (.decimal false (some (rt.conv.decimalOfText text)))
  else if fType = DBTYPE_BLOB then
    setBlobValue (some (pq.unescapeBytea text)) (pq.unescapeBytea text).length true false
  else some (.string false (rt.fromUTF8 text))

def cells (columns : List PostgresDriver.Column) (row : List (Option Text)) :
    List (Option DBObject) :=
  columns.mapIdx fun i column =>
    (row[i]?).join.bind (newObject pq rt (dbTypeFromNative column.ftype) column.ftype)

/-- Freeing the query clears the values that it has. -/
def tableDefaults (tuples : Tuples) : List (Option Ref) × List DBObject :=
  let rows := tuples.rows.map (cells pq rt tuples.columns)
  let r := (created tuples.columns.length).eachValue 3 rows
  (r.1, r.2.clearBindValues.store)

end TDBPostgreSQL

/-! ### The values of the drivers -/

/-- The values that the result set has. -/
def read (c : Strftime) (rs : TQueryResultSet) : List (Option TDBType) :=
  (List.range rs.values.length).map fun i => (rs.object i).map (DBObject.toValue c)

variable (c : Strftime) {rs : TQueryResultSet}

theorem length_read (rs : TQueryResultSet) : (read c rs).length = rs.values.length := by
  simp [read]

theorem newObject_value (value : SqlValue) :
    (TDBSQLite.newObject value).map (DBObject.toValue c) = SqliteDriver.columnValue none value := by
  cases value with
  | blob data =>
    cases data with
    | nil => rfl
    | cons b data =>
      have hcopied : TDBSQLite.newObject (.blob (b :: data)) =
          some (.blob false (some (b :: data)) (b :: data).length true) := by
        simp [TDBSQLite.newObject, setBlobValue]
      rw [hcopied]
      rfl
  | _ => rfl

/-- What storing a row makes of the values that are read. -/
theorem read_fillRow (h : Owned rs) {cells : List (Option DBObject)}
    (hlength : cells.length = rs.values.length) :
    read c (rs.fillRow cells) = List.zipWith (fun cell o =>
      (cell.or (o.map DBObject.clear)).map (DBObject.toValue c)) cells
        ((List.range rs.values.length).map rs.object) := by
  have hsame : (rs.fillRow cells).values.length = rs.values.length := length_fillCells 0 cells
  refine List.ext_getElem (by simp [length_read, hsame, hlength]) fun i hi hi' => ?_
  rw [length_read, hsame] at hi
  have hfilled : Filled rs (rs.fillRow cells) i cells[i] :=
    h.filled (by rw [hlength, Nat.zero_add]) (Nat.zero_le i)
      (by rw [Nat.sub_zero, List.getElem?_eq_getElem (hlength ▸ hi)])
  simp only [read, List.getElem_map, List.getElem_range, List.getElem_zipWith, hfilled.object_eq]

/-- SQLite: storing a row in the objects stores it in the values. -/
theorem sqlite_fillRow (h : Owned rs) (hblobs : ∀ i, ∀ o ∈ rs.object i, getBlob o ≠ some [])
    (row : Row) :
    read c (rs.fillRow (TDBSQLite.cells rs.values.length row)) =
      SqliteRounds.storeCells (read c rs) row := by
  have hlength : (TDBSQLite.cells rs.values.length row).length = rs.values.length := by
    simp [TDBSQLite.cells]
  rw [read_fillRow c h hlength, SqliteRounds.storeCells]
  refine List.ext_getElem (by simp [length_read, hlength]) fun i hi hi' => ?_
  simp only [TDBSQLite.cells, read, List.getElem_zipWith, List.getElem_map, List.getElem_range,
    List.getElem_mapIdx]
  have hold : ((rs.object i).map DBObject.clear).map (DBObject.toValue c) =
      ((rs.object i).map (DBObject.toValue c)).map TDBType.clear := by
    rw [Option.map_map, Option.map_map]
    exact Option.map_congr fun o ho => clear_toValue c (hblobs i o ho)
  by_cases hnull : cell row i = .null
  · rw [hnull]
    exact hold
  · have hnew := newObject_value c (cell row i)
    rw [columnValue_text _ hnull]
    cases hobject : TDBSQLite.newObject (cell row i) with
    | some o =>
      rw [hobject] at hnew
      exact hnew
    | none =>
      rw [hobject] at hnew
      cases hcell : cell row i with
      | null => exact absurd hcell hnull
      | _ =>
        rw [hcell] at hnew
        cases hnew

section

open PostgresDriver

/-- The types whose objects hold the value alone. -/
def IsPlain (fType : ℕ) : Prop := fType ∉ [DBTYPE_DATE, DBTYPE_DATETIME, DBTYPE_TIME, DBTYPE_BLOB]

theorem newObject_plain (pq : Libpq) (rt : Runtime) {fType : ℕ} (h : IsPlain fType) (dtype : ℕ)
    (text : Text) : ∃ o, TDBPostgreSQL.newObject pq rt fType dtype text = some o ∧
      columnValue pq rt fType dtype text = some (o.toValue c) := by
  simp only [IsPlain, List.mem_cons, List.not_mem_nil, or_false, not_or] at h
  obtain ⟨hdate, hdateTime, htime, hblob⟩ := h
  unfold TDBPostgreSQL.newObject columnValue
  split_ifs <;> exact ⟨_, rfl, rfl⟩

theorem clear_plain {o : DBObject} (h : o.valueClass ≠ .blob) :
    o.clear.toValue c = clearValue (o.toValue c) := by
  have hblob : getBlob o ≠ some [] := by
    cases o with
    | blob isNull value size owner => exact absurd rfl h
    | _ => exact (Option.some_ne_none _).symm
  rw [clear_toValue c hblob]
  cases o with
  | blob isNull value size owner => exact absurd rfl h
  | _ => rfl

/-- PostgreSQL: storing a row in the objects stores it in the values. -/
theorem postgresql_fillRow (pq : Libpq) (rt : Runtime) {prs : TPostgreSQLResultSet}
    {tuples : Tuples} {next : ℕ} {row : List (Option Text)} (h : Owned rs)
    (hblobs : ∀ i, ∀ o ∈ rs.object i, o.valueClass ≠ .blob)
    (hs : PostgresCursor.Streaming prs tuples next) (hrow : tuples.rows[next]? = some row)
    (hplain : ∀ column ∈ tuples.columns, IsPlain (dbTypeFromNative column.ftype))
    (hvalues : prs.values = read c rs) :
    prs.fillValues pq rt next =
      read c (rs.fillRow (TDBPostgreSQL.cells pq rt tuples.columns row)) := by
  have hcount : tuples.columns.length = rs.values.length := by
    rw [← hs.values_length, hvalues, length_read]
  have hlength : (TDBPostgreSQL.cells pq rt tuples.columns row).length = rs.values.length := by
    rw [TDBPostgreSQL.cells, List.length_mapIdx, hcount]
  rw [read_fillRow c h hlength, TPostgreSQLResultSet.fillValues, hvalues]
  refine List.ext_getElem (by simp [length_read, hlength]) fun i hi hi' => ?_
  rw [List.length_mapIdx, length_read, ← hcount] at hi
  obtain ⟨hrecorded, hfield⟩ := hs.recorded (List.getElem?_eq_getElem hi)
  have hdtype := hs.dtype_eq (List.getElem?_eq_getElem hi)
  have hcell : prs.pgResult.bind (·.cell next i) = (row[i]?).join := by
    obtain ⟨hlt, -⟩ := List.getElem?_eq_some_iff.mp hrow
    rw [hs.pgResult_eq hlt, Option.bind_some, PGresult.cell, hrow]
    rfl
  simp only [List.getElem_mapIdx, if_pos hrecorded, hcell, hfield, hdtype, Option.elim_some,
    TDBPostgreSQL.cells, List.getElem_zipWith, List.getElem_map, List.getElem_range, read]
  have hold : ((rs.object i).map DBObject.clear).map (DBObject.toValue c) =
      ((rs.object i).map (DBObject.toValue c)).map clearValue := by
    rw [Option.map_map, Option.map_map]
    exact Option.map_congr fun o ho => clear_plain c (hblobs i o ho)
  cases (row[i]?).join with
  | none => exact hold.symm
  | some text =>
    obtain ⟨o, hnew, hvalue⟩ := newObject_plain c pq rt (hplain _ (List.getElem_mem hi))
      tuples.columns[i].ftype text
    rw [Option.bind_some, hnew]
    exact hvalue

end

/-! ### What survives -/

/-- A run of `getTableInfo` over the rows that describe a table. -/
inductive Scan
  | sqlite (columns : ℕ) (rows : List Row) (withDDL : Bool) (ddlRows : List Row)
  | postgresql (pq : PostgresDriver.Libpq) (rt : PostgresDriver.Runtime)
    (tuples : PostgresDriver.Tuples)

namespace Scan

def tableDefaults : Scan → List (Option Ref) × List DBObject
  | sqlite columns rows withDDL ddlRows => TDBSQLite.tableDefaults columns rows withDDL ddlRows
  | postgresql pq rt tuples => TDBPostgreSQL.tableDefaults pq rt tuples

/-- The rows are those of a table with these columns. -/
inductive Describes (infos : List ColumnInfo) : Scan → Prop
  | sqlite {columns : ℕ} {rows : List Row} {withDDL : Bool} {ddlRows : List Row}
    (hwide : 5 ≤ columns) (hrows : List.Forall₂ IsPragmaRow infos rows) :
    Describes infos (sqlite columns rows withDDL ddlRows)
  | postgresql {pq : PostgresDriver.Libpq} {rt : PostgresDriver.Runtime}
    {tuples : PostgresDriver.Tuples} {qualifiedName : Text}
    (hcolumns : PostgresTables.TDBPostgreSQL.CatalogColumns tuples.columns)
    (hrows : List.Forall₂ (PostgresTables.TDBPostgreSQL.IsDescribedRow rt qualifiedName) infos
      tuples.rows) :
    Describes infos (postgresql pq rt tuples)

/-- Each column of the returned table has the default that its row had. -/
def Survive (scan : Scan) (infos : List ColumnInfo) : Prop :=
  scan.tableDefaults.1.map (denotes scan.tableDefaults.2) = infos.map (·.default)

/-- The columns whose object is cleared before the table is returned. -/
def cleared (infos : List ColumnInfo) : Scan → List ColumnInfo
  | sqlite _ _ false _ => infos.dropLast
  | _ => infos

variable {infos : List ColumnInfo}

theorem isRow_sqlite {columns : ℕ} {rows : List Row} (hwide : 5 ≤ columns)
    (hrows : List.Forall₂ IsPragmaRow infos rows) :
    List.Forall₂ (IsRow columns 4) (infos.map (·.default))
      (rows.map (TDBSQLite.cells columns)) := by
  refine List.forall₂_map_left_iff.mpr (List.forall₂_map_right_iff.mpr (hrows.imp ?_))
  intro info row hrow
  refine ⟨by simp [TDBSQLite.cells], ?_⟩
  rw [TDBSQLite.cells, List.getElem?_map, List.getElem?_range (by omega), Option.map_some,
    hrow.default]
  cases info.default with
  | none => rfl
  | some text => rfl

theorem isRow_postgresql {pq : PostgresDriver.Libpq} {rt : PostgresDriver.Runtime}
    {tuples : PostgresDriver.Tuples} {qualifiedName : Text}
    (hcolumns : PostgresTables.TDBPostgreSQL.CatalogColumns tuples.columns)
    (hrows : List.Forall₂ (PostgresTables.TDBPostgreSQL.IsDescribedRow rt qualifiedName) infos
      tuples.rows) :
    List.Forall₂ (IsRow tuples.columns.length 3) (infos.map (·.default))
      (tuples.rows.map (TDBPostgreSQL.cells pq rt tuples.columns)) := by
  obtain ⟨column, hcolumn, htype⟩ := hcolumns.text 3 (by simp)
  refine List.forall₂_map_left_iff.mpr (List.forall₂_map_right_iff.mpr (hrows.imp ?_))
  intro info row hrow
  refine ⟨by simp [TDBPostgreSQL.cells], ?_⟩
  obtain ⟨text, hfound, hdecoded⟩ := hrow.default
  rw [TDBPostgreSQL.cells, List.getElem?_mapIdx, hcolumn, Option.map_some, hfound,
    Option.join_some, htype, ← hdecoded]
  cases text with
  | none => rfl
  | some text => rfl

/-- The defaults survive if and only if no column that is cleared has one. -/
theorem survive_iff {scan : Scan} (h : scan.Describes infos) :
    scan.Survive infos ↔ ∀ info ∈ scan.cleared infos, info.default = none := by
  have hnone : (infos.map (·.default)).map (fun _ => none) = infos.map (·.default) ↔
      ∀ info ∈ infos, info.default = none := by
    rw [List.map_map, List.map_inj_left]
    exact forall₂_congr fun info _ => eq_comm
  cases h with
  | @sqlite columns rows withDDL ddlRows hwide hrows =>
    have hcells := isRow_sqlite hwide hrows
    cases withDDL with
    | false =>
      have hleft := eachValue_denotes hwide hcells
      change List.map (denotes _) _ = _ ↔ ∀ info ∈ infos.dropLast, info.default = none
      refine (Eq.congr_left hleft).trans ((onlyLast_eq_iff _).trans ?_)
      rw [← List.map_dropLast, List.forall_mem_map]
    | true =>
      have hleft := eachValue_cleared hwide hcells
        ((clearBindValues_keeps _).trans
          (eachValue_keeps _ 0 (ddlRows.map (TDBSQLite.cells columns))))
      exact (Eq.congr_left hleft).trans hnone
  | @postgresql pq rt tuples qualifiedName hcolumns hrows =>
    obtain ⟨column, hcolumn, -⟩ := hcolumns.text 3 (by simp)
    obtain ⟨hwide, -⟩ := List.getElem?_eq_some_iff.mp hcolumn
    have hleft := eachValue_cleared hwide (@isRow_postgresql infos pq rt tuples qualifiedName
      hcolumns hrows) (KeepsNulls.refl _)
    exact (Eq.congr_left hleft).trans hnone

end Scan

/-! ### A table of people -/

/-- A person has a name and an age, and the name has a default. -/
def personInfos : List ColumnInfo :=
  [⟨"name".toList, "TEXT".toList, true, some "''".toList⟩,
    ⟨"age".toList, "INTEGER".toList, true, none⟩]

def pragmaRow (cid : ℤ) (info : ColumnInfo) : Row :=
  [.integer cid, .text info.name, .text info.type, .integer (if info.admitsNull then 0 else 1),
    info.default.elim .null .text, .integer 0]

def personScan : Scan := .sqlite 6 (personInfos.mapIdx fun cid info => pragmaRow cid info) false []

theorem isPragmaRow_pragmaRow (cid : ℤ) (info : ColumnInfo) :
    IsPragmaRow info (pragmaRow cid info) := ⟨rfl, rfl, rfl, rfl⟩

theorem personScan_describes : personScan.Describes personInfos :=
  .sqlite (by decide) (.cons (isPragmaRow_pragmaRow _ _) (.cons (isPragmaRow_pragmaRow _ _) .nil))

/-- The columns of a person with the default in the last of them. -/
def cityLast : List ColumnInfo :=
  [⟨"name".toList, "TEXT".toList, true, none⟩, ⟨"age".toList, "INTEGER".toList, true, none⟩,
    ⟨"city".toList, "TEXT".toList, true, some "'Oslo'".toList⟩]

/-- No row is read behind the last one, so that its default is not cleared. -/
theorem only_default_survives :
    (Scan.sqlite 6 (cityLast.mapIdx fun cid info => pragmaRow cid info) false []).Survive
      cityLast := by
  refine (Scan.survive_iff (.sqlite (by decide) (.cons (isPragmaRow_pragmaRow _ _)
    (.cons (isPragmaRow_pragmaRow _ _) (.cons (isPragmaRow_pragmaRow _ _) .nil))))).mpr ?_
  decide +kernel

/-- The default of the name is gone when the row of the age was read. -/
theorem name_default_lost : personScan.Describes personInfos ∧
    personScan.tableDefaults.1.map (denotes personScan.tableDefaults.2) = [none, none] ∧
    ¬ personScan.Survive personInfos := by
  have hlost : personScan.tableDefaults.1.map (denotes personScan.tableDefaults.2) =
      [none, none] := by decide +kernel
  refine ⟨personScan_describes, hlost, ?_⟩
  rw [Scan.Survive, hlost]
  decide +kernel

end DatabaseMod.TableDefaults
