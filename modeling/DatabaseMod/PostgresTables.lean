import DatabaseMod.PostgresColumns
import DatabaseMod.PostgresCursor
import DatabaseMod.TableColumns

/-!
# Tables as PostgreSQL describes them

`getTableInfo` of the PostgreSQL connection asks its catalog with two prepared statements. The
statement that would create the table is written from the rows of the second.
-/

namespace DatabaseMod.PostgresTables
open SqlTokens (Text trim)
open CoreValues CoreResultSet CoreQuery PostgresDriver TPostgreSQLResultSet PostgresCursor
open TableInspection TableColumns

namespace TDBPostgreSQL

def tableExistsSql : Text :=
  ["SELECT 1 ",
    "FROM pg_catalog.pg_class c ",
    "JOIN pg_catalog.pg_namespace n ON n.oid = c.relnamespace ",
    "WHERE c.relkind IN ('r', 'p') ",
    "AND c.relname = $1 ",
    "AND pg_catalog.pg_table_is_visible(c.oid) ",
    "LIMIT 1"].flatMap String.toList

def tableInfoSql : Text :=
  ["SELECT ",
    "a.attname, ",
    "a.atttypid, ",
    "CASE WHEN a.attnotnull THEN 0 ELSE 1 END AS nullable, ",
    "pg_catalog.pg_get_expr(ad.adbin, ad.adrelid) AS default_value, ",
    "pg_catalog.format_type(a.atttypid, a.atttypmod) AS formatted_type, ",
    "pg_catalog.quote_ident(n.nspname) || '.' || ",
    "pg_catalog.quote_ident(c.relname) AS qualified_name ",
    "FROM pg_catalog.pg_class c ",
    "JOIN pg_catalog.pg_namespace n ON n.oid = c.relnamespace ",
    "JOIN pg_catalog.pg_attribute a ON a.attrelid = c.oid ",
    "LEFT JOIN pg_catalog.pg_attrdef ad ON ad.adrelid = c.oid AND ad.adnum = a.attnum ",
    "WHERE c.relkind IN ('r', 'p') ",
    "AND c.relname = $1 ",
    "AND pg_catalog.pg_table_is_visible(c.oid) ",
    "AND a.attnum > 0 ",
    "AND NOT a.attisdropped ",
    "ORDER BY a.attnum"].flatMap String.toList

def quoteIdent (value : Text) : Text :=
  '"' :: value.flatMap (fun c => if c = '"' then ['"', '"'] else [c]) ++ ['"']

theorem tableExistsSql_ne : tableExistsSql ≠ [] := List.cons_ne_nil _ _

theorem tableInfoSql_ne : tableInfoSql ≠ [] := List.cons_ne_nil _ _

variable (pq : Libpq) (rt : Runtime)

/-- The name of the table is bound whether the statement was prepared or not. -/
def prepareForTable (sql tableName : Text) (conn : PostgresDriver.TDBPostgreSQL) : Session :=
  let s := ((driver pq rt).prepareStatement sql ((driver pq rt).opened conn none)).2
  (s.1, { s.2 with toTQueryResultSet := s.2.toTQueryResultSet.addString tableName })

/-- Freeing a query says nothing to the server. -/
def tableExists (tableName : Text) (conn : PostgresDriver.TDBPostgreSQL) :
    Bool × PostgresDriver.TDBPostgreSQL :=
  if ¬ conn.isOpen then (false, conn)
  else
    let r := (driver pq rt).executePrepared (prepareForTable pq rt tableExistsSql tableName conn)
    if r.1 then
      let res := (driver pq rt).fetch r.2
      (res.1, res.2.1)
    else (false, r.2.1)

def column (row : Record) : TDBColumn where
  name := row.getString 0
  dbType := dbTypeFromNative (row.getInt rt.conv 1).toNat
  nullable := row.getInt rt.conv 2
  defaultValue := row 3

def defaultClause : Option TDBType → Text
  | some v => if v.isNull then [] else " DEFAULT ".toList ++ v.getString
  | none => []

def line (row : Record) : Text :=
  "    ".toList ++ quoteIdent (row.getString 0) ++ " ".toList ++ row.getString 4 ++
    (if row.getInt rt.conv 2 = 0 then " NOT NULL".toList else []) ++ defaultClause (row 3)

def ddl (qualifiedName : Text) (lines : List Text) : Text :=
  if lines = [] then []
  else "CREATE TABLE ".toList ++ qualifiedName ++ " (\n".toList ++
    ",\n".toList.intercalate lines ++ "\n);\n\n".toList

/-- The table, its statement with the qualified name that the last row has. -/
def tableOf (tableName : Text) (withDDL : Bool) (rows : List (TDBColumn × Text × Text)) :
    TDBTable where
  name := tableName
  columns := rows.map fun row => row.1
  ddl :=
    if withDDL then
      ddl (rows.getLast?.elim [] fun row => row.2.2) (rows.map fun row => row.2.1)
    else []

def getTableInfo (tableName : Text) (withDDL : Bool) (fuel : ℕ)
    (conn : PostgresDriver.TDBPostgreSQL) :
    Option (Option TDBTable × PostgresDriver.TDBPostgreSQL) :=
  if ¬ conn.isOpen then some (none, conn)
  else
    let found := tableExists pq rt tableName conn
    if ¬ found.1 then some (none, found.2)
    else
      let r := (driver pq rt).executePrepared (prepareForTable pq rt tableInfoSql tableName found.2)
      if r.1 then
        (eachRow (driver pq rt) (fun row => (column rt row, line rt row, row.getString 5)) r.2
          .create fuel).map fun rows => (some (tableOf tableName withDDL rows.1), rows.2.1.1)
      else some (none, r.2.1)

/-! ### The calls to the server -/

/-- The name that the driver gives to the statement of a new query. -/
def statementName (id : ℕ) : Text := "prep".toList ++ Nat.toDigits 10 id

def preparing (id : ℕ) (sql : Text) : Call := .prepare (statementName id) sql

def asking (id : ℕ) (tableName : Text) : Call :=
  .execPrepared (statementName id) 1 [.text (cString tableName)]

variable {pq rt}

theorem prepareForTable_new {sql tableName : Text} {conn : PostgresDriver.TDBPostgreSQL}
    (hopen : conn.isOpen = true) (hsql : sql ≠ [])
    (hconnected : pq.connected conn.log = true)
    (hconnected' : pq.connected (conn.log ++ [preparing conn.created sql]) = true)
    (hanswer : pq.answer (conn.log ++ [preparing conn.created sql]) = some .commandOk) :
    ∃ conn' rs, prepareForTable pq rt sql tableName conn = (conn', rs) ∧ conn'.isOpen = true ∧
      conn'.log = conn.log ++ [preparing conn.created sql] ∧ conn'.created = conn.created + 1 ∧
      preparedCall rt rs = asking conn.created tableName := by
  set rs₀ : TPostgreSQLResultSet := { (createResultSet conn).2 with query := trim sql } with hrs₀
  set conn₀ := (createResultSet conn).1 with hconn₀
  have hprepare : prepare pq sql (conn₀, rs₀) = (true, conn₀.call (preparing conn.created sql),
      { rs₀.cleanup with
        preparedStatementName := statementName conn.created, pgResult := some .commandOk }) := by
    unfold prepare releaseName
    rw [if_neg (by simpa using hsql)]
    dsimp only
    rw [if_pos (by rfl)]
    split
    next hnone => cases hanswer.symm.trans hnone
    next => rfl
    next result hother hresult => exact absurd (hresult.symm.trans hanswer) (by simpa using hother)
  have hprepared : (driver pq rt).prepareStatement sql ((driver pq rt).opened conn none) =
      (driver pq rt).finish (prepare pq sql (conn₀, rs₀)) := by
    unfold Driver.prepareStatement
    rw [if_neg (by simpa using hsql)]
    refine if_pos ?_
    change (conn.isOpen && pq.connected conn.log) = true
    rw [hopen, hconnected]
    rfl
  unfold prepareForTable
  rw [hprepared, hprepare]
  refine ⟨_, _, rfl, ?_, rfl, rfl, rfl⟩
  change (conn.isOpen && pq.connected (conn.log ++ [preparing conn.created sql])) = true
  rw [hopen, hconnected']
  rfl

theorem executePrepared_tuples {conn : PostgresDriver.TDBPostgreSQL} {rs : TPostgreSQLResultSet}
    {call : Call} {tuples : Tuples} (hopen : conn.isOpen = true)
    (hcall : preparedCall rt rs = call) (hconnected : pq.connected conn.log = true)
    (hconnected' : pq.connected (conn.log ++ [call]) = true)
    (hanswer : pq.answer (conn.log ++ [call]) = some (.tuplesOk tuples)) :
    ∃ conn' rs', (driver pq rt).executePrepared (conn, rs) = (true, conn', rs') ∧
      conn'.isOpen = true ∧ conn'.log = conn.log ++ [call] ∧ conn'.created = conn.created ∧
      Position rs' (.tuplesOk tuples) 0 ∧ (∀ i : ℕ, (rs'.values[i]?).join = none) ∧
      (tuples.columns ≠ [] → rs'.record.isEmptySet = false) := by
  have hexecute : execute pq rt (conn, rs) = (true, conn.call call,
      if (tuples.rows.length : ℤ) < 1 then (rs.cleanup.received tuples).cleanup
      else { rs.cleanup.received tuples with isActive := true }) := by
    unfold execute
    dsimp only
    split
    next hnone => cases (hcall ▸ hanswer).symm.trans hnone
    next hfailed => cases (hcall ▸ hanswer).symm.trans hfailed
    next hdone => cases (hcall ▸ hanswer).symm.trans hdone
    next found hfound =>
      obtain rfl : tuples = found := by
        injection (hcall ▸ hanswer).symm.trans hfound with hfound
        injection hfound
      rw [← hcall]
      rfl
  have hisOpen : ((driver pq rt).connection conn).isOpen = true := by
    change (conn.isOpen && pq.connected conn.log) = true
    rw [hopen, hconnected]
    rfl
  have hrun : (driver pq rt).executePrepared (conn, rs) =
      (driver pq rt).finish (execute pq rt (conn, rs)) := if_pos hisOpen
  have hok : ((driver pq rt).executePrepared (conn, rs)).1 = true := by
    rw [hrun, Driver.finish_ok]
    exact congrArg Prod.fst hexecute
  obtain ⟨result, hlog, hresult, hposition⟩ := executePrepared_received pq rt hok
  rw [hcall] at hlog hresult
  obtain rfl : result = .tuplesOk tuples := Option.some.inj (hresult.symm.trans hanswer)
  have hresultSet : ((driver pq rt).executePrepared (conn, rs)).2.2.values =
        List.replicate tuples.columns.length none ∧
      ((driver pq rt).executePrepared (conn, rs)).2.2.record =
        (rs.cleanup.received tuples).record := by
    rw [hrun, Driver.finish_resultSet, hexecute]
    dsimp only
    split_ifs
    · exact ⟨rfl, rfl⟩
    · exact ⟨rfl, rfl⟩
  refine ⟨_, _, Prod.ext hok rfl, ?_, hlog, ?_, hposition, ?_, ?_⟩
  · rw [hrun, hexecute]
    change (conn.isOpen && pq.connected (conn.log ++ [call])) = true
    rw [hopen, hconnected']
    rfl
  · rw [hrun, hexecute]
    rfl
  · intro i
    rw [hresultSet.1, List.getElem?_replicate]
    split_ifs
    · rfl
    · rfl
  · intro hcolumns
    have hlength : tuples.columns.length ≠ 0 := mt List.length_eq_zero_iff.mp hcolumns
    rw [hresultSet.2]
    change (if tuples.columns.length = 0 then rs.cleanup.record.clear else _).isEmptySet = false
    rw [if_neg hlength]

/-- The calls of `getTableInfo`, where each of them succeeds. -/
def tableCalls (created : ℕ) (tableName : Text) : List Call :=
  [preparing created tableExistsSql, asking created tableName,
    preparing (created + 1) tableInfoSql, asking (created + 1) tableName]

/-- A row of the catalog. -/
structure IsDescribedRow (rt : Runtime) (qualifiedName : Text) (info : ColumnInfo)
    (row : List (Option Text)) : Prop where
  name : ∃ text, row[0]? = some (some text) ∧ rt.fromUTF8 text = info.name
  nullable : row[2]? = some (some (if info.admitsNull then ['1'] else ['0']))
  default : ∃ text, row[3]? = some text ∧ text.map rt.fromUTF8 = info.default
  type : ∃ text, row[4]? = some (some text) ∧ rt.fromUTF8 text = info.type
  qualifiedName : ∃ text, row[5]? = some (some text) ∧ rt.fromUTF8 text = qualifiedName

/-- The types that the columns of the answer have. -/
structure CatalogColumns (columns : List PostgresDriver.Column) : Prop where
  text : ∀ i ∈ [0, 3, 4, 5], ∃ column, columns[i]? = some column ∧
    dbTypeFromNative column.ftype = DBTYPE_STRING
  nullable : ∃ column, columns[2]? = some column ∧ column.ftype = INT4OID

/-- What the server answers after these calls. -/
structure Answers (pq : Libpq) (rt : Runtime) (log : List Call) (created : ℕ)
    (tableName qualifiedName : Text) (infos : List ColumnInfo) : Prop where
  connected : ∀ k, pq.connected (log ++ (tableCalls created tableName).take k) = true
  lookup : pq.answer (log ++ (tableCalls created tableName).take 1) = some .commandOk
  found : ∃ tuples, tuples.rows ≠ [] ∧
    pq.answer (log ++ (tableCalls created tableName).take 2) = some (.tuplesOk tuples)
  read : pq.answer (log ++ (tableCalls created tableName).take 3) = some .commandOk
  described : ∃ tuples, CatalogColumns tuples.columns ∧
    List.Forall₂ (IsDescribedRow rt qualifiedName) infos tuples.rows ∧
      pq.answer (log ++ tableCalls created tableName) = some (.tuplesOk tuples)
  zero : rt.conv.toInt ['0'] = 0
  one : rt.conv.toInt ['1'] = 1

theorem tableExists_true {conn : PostgresDriver.TDBPostgreSQL} {tableName qualifiedName : Text}
    {infos : List ColumnInfo} (hopen : conn.isOpen = true)
    (h : Answers pq rt conn.log conn.created tableName qualifiedName infos) :
    ∃ conn', tableExists pq rt tableName conn = (true, conn') ∧ conn'.isOpen = true ∧
      conn'.log = conn.log ++ (tableCalls conn.created tableName).take 2 ∧
      conn'.created = conn.created + 1 := by
  obtain ⟨tuples, hrows, hfound⟩ := h.found
  have hconnected := h.connected 0
  rw [List.take_zero, List.append_nil] at hconnected
  obtain ⟨conn₁, rs₁, hprepare, hopen₁, hlog₁, hcreated₁, hcall⟩ :=
    @prepareForTable_new pq rt tableExistsSql tableName conn hopen tableExistsSql_ne hconnected
      (h.connected 1) h.lookup
  have hlog : conn₁.log ++ [asking conn.created tableName] =
      conn.log ++ (tableCalls conn.created tableName).take 2 := by
    rw [hlog₁, List.append_assoc]
    rfl
  obtain ⟨conn₂, rs₂, hexecute, hopen₂, hlog₂, hcreated₂, hposition, -⟩ :=
    executePrepared_tuples hopen₁ hcall (hlog₁ ▸ h.connected 1) (hlog ▸ h.connected 2)
      (hlog ▸ hfound)
  obtain ⟨rs₃, hfetch, -⟩ := hposition.fetch pq rt conn₂
  refine ⟨conn₂, ?_, hopen₂, hlog₂.trans hlog, hcreated₂.trans hcreated₁⟩
  have hrow : decide (0 < (resultRows (.tuplesOk tuples)).length) = true :=
    decide_eq_true (List.length_pos_iff.mpr hrows)
  rw [tableExists, if_neg (by simpa using hopen), hprepare, hexecute]
  dsimp only
  rw [if_pos rfl, hfetch, hrow]

/-! ### The rows of the catalog -/

/-- Between two rows: a default that the record still shows is of a value that is there. -/
structure Scans (tuples : Tuples) (next : ℕ) (rs : TPostgreSQLResultSet) (record : Record) :
    Prop where
  position : Position rs (.tuplesOk tuples) next
  marked : rs.record.isEmptySet = false
  unread : (rs.values[3]?).join = none → record 3 = none

variable {tuples : Tuples} {next : ℕ} {rs : TPostgreSQLResultSet} {record : Record}

/-- The record shows a null as what was there before. -/
theorem rowRecord_column (hs : Streaming rs tuples (next + 1)) {i : ℕ}
    {column : PostgresDriver.Column} (hcolumn : tuples.columns[i]? = some column)
    (record : Record) : rowRecord rs.toTQueryResultSet record i = (rs.value i).or (record i) := by
  have hindex : 0 ≤ rs.index := by
    rw [hs.index_eq]
    omega
  exact rowRecord_value hs.isActive hindex (hs.recorded hcolumn).1 record

/-- A text column without a value after a row had none before it. -/
theorem old_of_unread (hs : Streaming rs tuples next) {i : ℕ} {column : PostgresDriver.Column}
    (hcolumn : tuples.columns[i]? = some column)
    (htext : dbTypeFromNative column.ftype = DBTYPE_STRING)
    (hnone : ((rs.fillValues pq rt next)[i]?).join = none) : (rs.values[i]?).join = none := by
  have hlength : i < rs.values.length :=
    hs.values_length ▸ (List.getElem?_eq_some_iff.mp hcolumn).1
  obtain ⟨-, hfield⟩ := hs.recorded hcolumn
  rw [fillValues, List.getElem?_mapIdx, List.getElem?_eq_getElem hlength, Option.map_some,
    Option.join_some, hfield, Option.elim_some, htext] at hnone
  rw [List.getElem?_eq_getElem hlength, Option.join_some]
  split_ifs at hnone with hcount
  · split at hnone
    · exact Option.map_eq_none_iff.mp hnone
    · cases hnone
  · exact hnone

theorem Scans.hasNext (h : Scans tuples next rs record) (hcolumns : CatalogColumns tuples.columns)
    (hlt : next < tuples.rows.length) (conn : PostgresDriver.TDBPostgreSQL) :
    ∃ rs', hasNext (driver pq rt) (conn, rs) record =
        (true, (conn, rs'), rowRecord rs'.toTQueryResultSet record) ∧
      Scans tuples (next + 1) rs' (rowRecord rs'.toTQueryResultSet record) ∧
      Streaming rs' tuples (next + 1) ∧ Holds pq rt rs' (.tuplesOk tuples) next ∧
      (rs'.value 3 = none → record 3 = none) := by
  obtain ⟨column, hcolumn, htext⟩ := hcolumns.text 3 (by simp)
  obtain ⟨hwide, -⟩ := List.getElem?_eq_some_iff.mp hcolumn
  cases h.position with
  | finished hinactive hge => exact absurd hlt (not_lt.mpr hge)
  | streaming hresult hs hle =>
    cases hresult
    obtain ⟨rs', hfetch, hs', hholds, -⟩ := hs.fetch_lt pq rt hlt conn
    obtain ⟨rs'', hnext, -, hvalues, hrecord, -⟩ :=
      @Streaming.nextRow_lt pq rt rs tuples next hs hlt conn
    have hsame : rs' = rs'' := by
      obtain ⟨-, hpair⟩ := Driver.fetch_true (D := driver pq rt)
        (fun _ => PostgresColumns.firstRow_true pq rt) (congrArg Prod.fst hfetch)
      have hdriver : (driver pq rt).nextRow (conn, rs) = (true, conn, rs'') := hnext
      rw [hfetch, hdriver] at hpair
      exact congrArg Prod.snd hpair
    subst hsame
    have hmark : ((driver pq rt).base rs').record.isEmptySet = false :=
      (congrArg TQueryRecord.isEmptySet hrecord).trans h.marked
    have hread : rs'.value 3 = (rs'.values[3]?).join :=
      TQueryResultSet.value_eq_slot hs'.isActive
        (hs'.isEmpty_eq (List.ne_nil_of_length_pos (Nat.zero_lt_of_lt hwide)))
        (hs'.recorded hcolumn).1
    have hshown : rowRecord rs'.toTQueryResultSet record 3 = (rs'.value 3).or (record 3) :=
      rowRecord_column hs' hcolumn record
    have hold (hnone : (rs'.values[3]?).join = none) : (rs.values[3]?).join = none :=
      old_of_unread hs hcolumn htext (hvalues ▸ hnone)
    refine ⟨rs', ?_, ⟨.streaming rfl hs' hlt, hmark, fun hnone => ?_⟩, hs', hholds, fun hnone => ?_⟩
    · unfold TableInspection.hasNext
      dsimp only
      rw [hfetch, if_pos rfl, hmark, Bool.and_false]
      rfl
    · rw [hshown, hread, hnone, h.unread (hold hnone)]
      rfl
    · exact h.unread (hold (hread ▸ hnone))

/-- How the statement that creates the table declares a column. -/
def declaration (info : ColumnInfo) : Text :=
  "    ".toList ++ quoteIdent info.name ++ " ".toList ++ info.type ++
    (if info.admitsNull then [] else " NOT NULL".toList) ++
      info.default.elim [] fun text => " DEFAULT ".toList ++ text

/-- What the loop makes of a row. -/
structure Declares (qualifiedName : Text) (info : ColumnInfo) (made : TDBColumn × Text × Text) :
    Prop where
  name : made.1.name = info.name
  nullable : made.1.nullable ≠ 0 ↔ info.admitsNull = true
  line : made.2.1 = declaration info
  qualifiedName : made.2.2 = qualifiedName

section Row

variable {row : List (Option Text)} (hcolumns : CatalogColumns tuples.columns)
  (hnext : tuples.rows[next]? = some row) (hs : Streaming rs tuples (next + 1))
  (hholds : Holds pq rt rs (.tuplesOk tuples) next)
include hnext hs hholds

/-- The record shows what a cell of the row converts to. -/
theorem rowRecord_cell {i : ℕ} {column : PostgresDriver.Column} {text : Text} {v : TDBType}
    (hcolumn : tuples.columns[i]? = some column) (hfound : row[i]? = some (some text))
    (hvalue : columnValue pq rt (dbTypeFromNative column.ftype) column.ftype text = some v)
    (record : Record) : rowRecord rs.toTQueryResultSet record i = some v := by
  have hheld := hholds i column hcolumn
  have hcell : PGresult.cell (.tuplesOk tuples) next i = some text := by
    rw [PGresult.cell, hnext, Option.bind_some, hfound, Option.join_some]
  rw [hcell] at hheld
  rw [rowRecord_column hs hcolumn, hheld, hvalue]
  rfl

theorem rowRecord_null {i : ℕ} {column : PostgresDriver.Column}
    (hcolumn : tuples.columns[i]? = some column) (hfound : row[i]? = some none)
    (hunread : rs.value i = none → record i = none) :
    (rowRecord rs.toTQueryResultSet record i).all (·.isNull) = true := by
  have hheld := hholds i column hcolumn
  have hcell : PGresult.cell (.tuplesOk tuples) next i = none := by
    rw [PGresult.cell, hnext, Option.bind_some, hfound, Option.join_some]
  rw [hcell] at hheld
  rw [rowRecord_column hs hcolumn]
  cases hold : rs.value i with
  | none =>
    rw [hunread hold]
    rfl
  | some v =>
    rw [hold] at hheld
    exact hheld

include hcolumns

theorem rowRecord_text {i : ℕ} (hi : i ∈ [0, 3, 4, 5]) {text : Text}
    (hfound : row[i]? = some (some text)) (record : Record) :
    rowRecord rs.toTQueryResultSet record i = some (.setString (rt.fromUTF8 text)) := by
  obtain ⟨column, hcolumn, htype⟩ := hcolumns.text i hi
  refine rowRecord_cell hnext hs hholds hcolumn hfound ?_ record
  rw [htype]
  rfl

theorem rowRecord_getString {i : ℕ} (hi : i ∈ [0, 3, 4, 5]) {value : Text}
    (h : ∃ text, row[i]? = some (some text) ∧ rt.fromUTF8 text = value) (record : Record) :
    (rowRecord rs.toTQueryResultSet record).getString i = value := by
  obtain ⟨text, hfound, hdecoded⟩ := h
  rw [Record.getString, rowRecord_text hcolumns hnext hs hholds hi hfound, ← hdecoded]
  rfl

theorem rowRecord_nullable {info : ColumnInfo} (hzero : rt.conv.toInt ['0'] = 0)
    (hone : rt.conv.toInt ['1'] = 1)
    (hfound : row[2]? = some (some (if info.admitsNull then ['1'] else ['0'])))
    (record : Record) :
    (rowRecord rs.toTQueryResultSet record).getInt rt.conv 2 =
      if info.admitsNull then 1 else 0 := by
  obtain ⟨column, hcolumn, htype⟩ := hcolumns.nullable
  have hvalue : columnValue pq rt (dbTypeFromNative column.ftype) column.ftype
      (if info.admitsNull then ['1'] else ['0']) =
        some (.setInt (if info.admitsNull then 1 else 0)) := by
    rw [htype]
    cases info.admitsNull with
    | true => exact congrArg (fun value => some (TDBType.setInt value)) hone
    | false => exact congrArg (fun value => some (TDBType.setInt value)) hzero
  rw [Record.getInt, rowRecord_cell hnext hs hholds hcolumn hfound hvalue]
  cases info.admitsNull with
  | true => rfl
  | false => rfl

theorem defaultClause_rowRecord {info : ColumnInfo}
    (hfound : ∃ text, row[3]? = some text ∧ text.map rt.fromUTF8 = info.default)
    (hunread : rs.value 3 = none → record 3 = none) :
    defaultClause (rowRecord rs.toTQueryResultSet record 3) =
      info.default.elim [] fun text => " DEFAULT ".toList ++ text := by
  obtain ⟨text, hfound, hdecoded⟩ := hfound
  rw [← hdecoded]
  cases text with
  | some text =>
    rw [rowRecord_text hcolumns hnext hs hholds (by simp) hfound]
    rfl
  | none =>
    obtain ⟨column, hcolumn, -⟩ := hcolumns.text 3 (by simp)
    have hnull := rowRecord_null hnext hs hholds hcolumn hfound hunread
    cases hread : rowRecord rs.toTQueryResultSet record 3 with
    | none => rfl
    | some v =>
      rw [hread] at hnull
      exact if_pos hnull

theorem declares_row {qualifiedName : Text} {info : ColumnInfo}
    (hzero : rt.conv.toInt ['0'] = 0) (hone : rt.conv.toInt ['1'] = 1)
    (hrow : IsDescribedRow rt qualifiedName info row)
    (hunread : rs.value 3 = none → record 3 = none) :
    Declares qualifiedName info (column rt (rowRecord rs.toTQueryResultSet record),
      line rt (rowRecord rs.toTQueryResultSet record),
      (rowRecord rs.toTQueryResultSet record).getString 5) := by
  have hname := rowRecord_getString hcolumns hnext hs hholds (by simp) hrow.name record
  have htype := rowRecord_getString hcolumns hnext hs hholds (by simp) hrow.type record
  have hnullable :=
    rowRecord_nullable hcolumns hnext hs hholds hzero hone hrow.nullable record
  refine ⟨hname, ?_, ?_,
    rowRecord_getString hcolumns hnext hs hholds (by simp) hrow.qualifiedName record⟩
  · rw [column, hnullable]
    cases info.admitsNull with
    | true => exact iff_of_true (one_ne_zero (α := ℤ)) rfl
    | false => exact iff_of_false (not_not_intro rfl) Bool.false_ne_true
  · have hkind : (if (if info.admitsNull then (1 : ℤ) else 0) = 0 then " NOT NULL".toList else []) =
        if info.admitsNull then [] else " NOT NULL".toList := by
      cases info.admitsNull with
      | true => rfl
      | false => rfl
    -- `rw [line]` would take long to find the equation of `line`
    change _ ++ quoteIdent (Record.getString _ 0) ++ _ ++ Record.getString _ 4 ++
      (if Record.getInt _ rt.conv 2 = 0 then _ else _) ++ defaultClause _ = _
    rw [hname, htype, hnullable, hkind,
      defaultClause_rowRecord hcolumns hnext hs hholds hrow.default hunread]
    rfl

end Row

theorem scans_deliver {qualifiedName : Text} {infos : List ColumnInfo} {s : Session}
    (hcolumns : CatalogColumns tuples.columns) (hzero : rt.conv.toInt ['0'] = 0)
    (hone : rt.conv.toInt ['1'] = 1)
    (hrows : List.Forall₂ (IsDescribedRow rt qualifiedName) infos (tuples.rows.drop next))
    (h : Scans tuples next s.2 record) :
    ∃ made last, eachRow (driver pq rt)
        (fun row => (column rt row, line rt row, row.getString 5)) s record (infos.length + 1) =
          some (made, last) ∧ List.Forall₂ (Declares qualifiedName) infos made := by
  refine eachRow_delivers (P := fun infos s record => ∃ next,
    List.Forall₂ (IsDescribedRow rt qualifiedName) infos (tuples.rows.drop next) ∧
      Scans tuples next s.2 record) ?_ ?_ ⟨next, hrows, h⟩
  · rintro info infos ⟨conn, rs⟩ record ⟨next, hrows, hscans⟩
    cases hdrop : tuples.rows.drop next with
    | nil =>
      rw [hdrop] at hrows
      cases hrows
    | cons row rest =>
      rw [hdrop] at hrows
      obtain ⟨hrow, hrest⟩ := List.forall₂_cons.mp hrows
      have hnext : tuples.rows[next]? = some row := by
        rw [← List.head?_drop, hdrop]
        rfl
      have hdrop' : tuples.rows.drop (next + 1) = rest := by
        rw [← List.tail_drop, hdrop]
        rfl
      obtain ⟨hlt, -⟩ := List.getElem?_eq_some_iff.mp hnext
      obtain ⟨rs', hmore, hscans', hs, hholds, hunread⟩ := hscans.hasNext hcolumns hlt conn
      rw [hmore]
      exact ⟨rfl, declares_row hcolumns hnext hs hholds hzero hone hrow hunread, next + 1,
        hdrop'.symm ▸ hrest, hscans'⟩
  · rintro ⟨conn, rs⟩ record ⟨next, hrows, hscans⟩
    have hend : tuples.rows.length ≤ next := by
      rw [← List.drop_eq_nil_iff]
      exact List.forall₂_nil_left_iff.mp hrows
    obtain ⟨rs', hfetch, -⟩ := hscans.position.fetch pq rt conn
    have hnone : decide (next < (resultRows (.tuplesOk tuples)).length) = false :=
      decide_eq_false (not_lt.mpr hend)
    rw [hnone] at hfetch
    unfold TableInspection.hasNext
    dsimp only
    rw [hfetch, if_neg Bool.false_ne_true]

/-- The statement that creates a table with these columns. -/
def createStatement (qualifiedName : Text) (infos : List ColumnInfo) : Text :=
  if infos = [] then []
  else "CREATE TABLE ".toList ++ qualifiedName ++ " (\n".toList ++
    ",\n".toList.intercalate (infos.map declaration) ++ "\n);\n\n".toList

theorem declares_lines {qualifiedName : Text} {infos : List ColumnInfo}
    {made : List (TDBColumn × Text × Text)} (h : List.Forall₂ (Declares qualifiedName) infos made) :
    made.map (fun row => row.2.1) = infos.map declaration ∧
      ∀ row ∈ made, row.2.2 = qualifiedName := by
  induction h with
  | nil => exact ⟨rfl, fun row hrow => absurd hrow List.not_mem_nil⟩
  | cons hrow _ ih =>
    rw [List.map_cons, List.map_cons, hrow.line, ih.1]
    exact ⟨rfl, List.forall_mem_cons.mpr ⟨hrow.qualifiedName, ih.2⟩⟩

theorem tableOf_declares (tableName : Text) {qualifiedName : Text} (withDDL : Bool)
    {infos : List ColumnInfo} {made : List (TDBColumn × Text × Text)}
    (h : List.Forall₂ (Declares qualifiedName) infos made) :
    Means infos (tableOf tableName withDDL made).columns ∧
      (withDDL = true →
        (tableOf tableName withDDL made).ddl = createStatement qualifiedName infos) := by
  obtain ⟨hlines, hqualified⟩ := declares_lines h
  refine ⟨?_, fun hddl => ?_⟩
  · exact List.forall₂_map_right_iff.mpr (h.imp fun info row hrow => ⟨hrow.name, hrow.nullable⟩)
  · simp only [tableOf, if_pos hddl, hlines, ddl, createStatement, List.map_eq_nil_iff]
    cases hlast : made.getLast? with
    | none =>
      obtain rfl := List.getLast?_eq_none_iff.mp hlast
      cases h
      rfl
    | some row =>
      rw [Option.elim_some, hqualified row (List.mem_of_getLast? hlast)]

theorem postgres_means {conn : PostgresDriver.TDBPostgreSQL} {tableName qualifiedName : Text}
    {infos : List ColumnInfo} (hopen : conn.isOpen = true)
    (h : Answers pq rt conn.log conn.created tableName qualifiedName infos) (withDDL : Bool) :
    ∃ fuel, ∀ fuel' ≥ fuel, ∃ table conn',
      getTableInfo pq rt tableName withDDL fuel' conn = some (some table, conn') ∧
        Means infos table.columns ∧
        (withDDL = true → table.ddl = createStatement qualifiedName infos) := by
  obtain ⟨tuples, hcolumns, hrows, hdescribed⟩ := h.described
  obtain ⟨conn₁, hexists, hopen₁, hlog₁, hcreated₁⟩ := tableExists_true hopen h
  have hprepared : conn₁.log ++ [preparing conn₁.created tableInfoSql] =
      conn.log ++ (tableCalls conn.created tableName).take 3 := by
    rw [hlog₁, hcreated₁, List.append_assoc]
    rfl
  obtain ⟨conn₂, rs₂, hprepare, hopen₂, hlog₂, -, hcall⟩ :=
    @prepareForTable_new pq rt tableInfoSql tableName conn₁ hopen₁ tableInfoSql_ne
      (hlog₁ ▸ h.connected 2) (hprepared ▸ h.connected 3) (hprepared ▸ h.read)
  have hasked : conn₂.log ++ [asking conn₁.created tableName] =
      conn.log ++ tableCalls conn.created tableName := by
    rw [hlog₂, hprepared, hcreated₁, List.append_assoc]
    rfl
  obtain ⟨conn₃, rs₃, hexecute, -, -, -, hposition, hvalues, hmark⟩ :=
    executePrepared_tuples hopen₂ hcall ((hlog₂.trans hprepared) ▸ h.connected 3)
      (hasked ▸ h.connected 4) (hasked ▸ hdescribed)
  obtain ⟨column, hcolumn, -⟩ := hcolumns.nullable
  have hscans : Scans tuples 0 rs₃ .create :=
    ⟨hposition, hmark (List.ne_nil_of_mem (List.mem_of_getElem? hcolumn)), fun _ => rfl⟩
  obtain ⟨made, last, hrun, hmade⟩ := @scans_deliver pq rt tuples 0 .create
    qualifiedName infos (conn₃, rs₃) hcolumns h.zero
    h.one (by rwa [List.drop_zero]) hscans
  refine ⟨infos.length + 1, fun fuel hle => ⟨tableOf tableName withDDL made, last.1.1, ?_,
    tableOf_declares tableName withDDL hmade⟩⟩
  rw [getTableInfo, if_neg (by simpa using hopen), hexists]
  dsimp only
  rw [if_neg (not_not_intro rfl), hprepare, hexecute]
  dsimp only
  rw [if_pos rfl, eachRow_mono hle hrun]
  rfl

end TDBPostgreSQL

end DatabaseMod.PostgresTables
