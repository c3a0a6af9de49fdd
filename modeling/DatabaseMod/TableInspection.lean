import DatabaseMod.MariaDriver
import DatabaseMod.SqlNames
import DatabaseMod.SqliteInvariant

/-!
# Tables as a connection describes them

`getTableInfo` of the SQLite and of the MariaDB connection. The columns of a table are the rows of
a statement, over which a loop runs whose end is not bounded by the code: it is given the number of
rows it may ask for. A default value is what it was when its row was read.
-/

namespace DatabaseMod.TableInspection
open SqlTokens (Text)
open CoreValues CoreResultSet CoreQuery SqlEngine

structure TDBColumn where
  name : Text
  dbType : ℕ
  nullable : ℤ
  defaultValue : Option TDBType
deriving DecidableEq, Repr

structure TDBTable where
  name : Text
  columns : List TDBColumn
  ddl : Text
deriving DecidableEq, Repr

/-! ### The rows of a query -/

/-- The values that the fields of a record have. -/
abbrev Record := ℕ → Option TDBType

namespace Record

def create : Record := fun _ => none

variable (record : Record)

def getString (index : ℕ) : Text := (record index).elim [] (·.getString)

def getInt (conv : Conversions) (index : ℕ) : ℤ := (record index).elim 0 (·.getInt conv)

end Record

/-- The record of a query that is active is always the same one; a field of it keeps its value
when the query has none. -/
def rowRecord (rs : TQueryResultSet) (record : Record) : Record :=
  if ¬ rs.isActive then .create
  else if rs.index ≠ SQL_BeforeFirstRow ∧ rs.index ≠ SQL_AfterLastRow then
    fun index => if index < rs.record.count then (rs.value index).or (record index) else none
  else record

section

variable {C RS : Type} (D : Driver C RS)

def hasNext (s : C × RS) (record : Record) : Bool × (C × RS) × Record :=
  let r := D.fetch s
  if r.1 then
    let rs := D.base r.2.2
    (!(rs.isActive && rs.record.isEmptySet), r.2, rowRecord rs record)
  else (false, r.2, record)

/-- The loop over the rows, with what its body makes of each. -/
def eachRow {α : Type*} (body : Record → α) (s : C × RS) (record : Record) :
    ℕ → Option (List α × (C × RS) × Record)
  | 0 => none
  | fuel + 1 =>
    let r := hasNext D s record
    if r.1 then (eachRow body r.2.1 r.2.2 fuel).map fun rest => (body r.2.2 :: rest.1, rest.2)
    else some ([], r.2)

/-- The statements that created a table, which are in one column of the rows. -/
def appendDdl (column : ℕ) (table : TDBTable) (s : C × RS) (record : Record) (fuel : ℕ) :
    Option (TDBTable × C × RS) :=
  (eachRow D (fun row => row.getString column ++ ";\n\n".toList) s record fuel).map fun r =>
    ({ table with ddl := table.ddl ++ r.1.flatten }, r.2.1)

end

/-! ### SQLite -/

namespace TDBSQLite
open SqliteDriver

def tableExistsSql : Text :=
  "SELECT 1 FROM sqlite_master WHERE type='table' AND name=? COLLATE NOCASE".toList

def tableInfoSql (tableName : Text) : Text := "PRAGMA table_info(".toList ++ tableName ++ ")".toList

def tableDdlSql : Text :=
  "SELECT sql FROM sqlite_master WHERE type = 'table' and name = ? COLLATE NOCASE".toList

variable (e : Engine) (conv : Conversions)

/-- The table name is the one parameter of the statement. -/
def prepareForTable (sql tableName : Text) (conn : TDBSQLite) (rs : Option TSQLiteResultSet) :
    Session :=
  let s := ((driver e conv).prepareStatement sql ((driver e conv).opened conn rs)).2
  (s.1, { s.2 with toTQueryResultSet := s.2.toTQueryResultSet.addString tableName })

/-- A query that fails is left to the collector. -/
def tableExists (tableName : Text) (conn : TDBSQLite) : Bool × TDBSQLite :=
  if ¬ conn.isOpen then (false, conn)
  else
    let r := (driver e conv).executePrepared
      (prepareForTable e conv tableExistsSql tableName conn none)
    if r.1 then
      let res := (driver e conv).fetch r.2
      (res.1, (TSQLiteResultSet.free res.2).1)
    else (false, r.2.1)

def column (row : Record) : TDBColumn where
  name := row.getString 1
  dbType := dbTypeFromNative (row.getString 2)
  nullable := row.getInt conv 3
  defaultValue := row 4

/-- What is done with the rows of the statement that describes the table. -/
def readTable (tableName : Text) (withDDL : Bool) (fuel : ℕ) (s : Session) :
    Option (TDBTable × Session) := do
  let (columns, s, record) ← eachRow (driver e conv) (column conv) s .create fuel
  let table : TDBTable := ⟨tableName, columns, []⟩
  if withDDL then
    let r := (driver e conv).executePrepared
      (prepareForTable e conv tableDdlSql tableName s.1 (some s.2))
    if r.1 then appendDdl (driver e conv) 0 table r.2 record fuel else some (table, r.2)
  else some (table, s)

/-- None is a loop over rows that has not ended. -/
def getTableInfo (tableName : Text) (withDDL : Bool) (fuel : ℕ) (conn : TDBSQLite) :
    Option (Option TDBTable × TDBSQLite) :=
  if ¬ conn.isOpen then some (none, conn)
  else
    let found := tableExists e conv tableName conn
    if ¬ found.1 then some (none, found.2)
    else
      let r := (driver e conv).executeStatement (tableInfoSql tableName)
        ((driver e conv).opened found.2 none)
      if r.1 then
        (readTable e conv tableName withDDL fuel r.2).map fun table =>
          (some table.1, (TSQLiteResultSet.free table.2).1)
      else some (none, (TSQLiteResultSet.free r.2).1)

end TDBSQLite

/-! ### MariaDB -/

namespace TDBMariaDB
open MariaDriver

def showColumnsSql (tableName : Text) : Text := "SHOW COLUMNS FROM ".toList ++ tableName

def showCreateTableSql (tableName : Text) : Text := "SHOW CREATE TABLE ".toList ++ tableName

/-- The type is the text before its length. -/
def dbTypeOf (type : Text) : ℕ :=
  let type := type.takeWhile (· ≠ '(')
  if type ∈ ["boolean".toList, "bool".toList] then DBTYPE_BOOL
  else if type ∈ ["tinyint".toList, "smallint".toList, "mediumint".toList, "int".toList,
      "integer".toList] then DBTYPE_INT
  else if type ∈ ["bigint".toList] then DBTYPE_LONG
  else if type ∈ ["real".toList, "double".toList, "decimal".toList] then DBTYPE_DOUBLE
  else if type ∈ ["float".toList] then DBTYPE_FLOAT
  else if type ∈ ["date".toList] then DBTYPE_DATE
  else if type ∈ ["timestamp".toList, "datetime".toList] then DBTYPE_DATETIME
  else if type ∈ ["time".toList] then DBTYPE_TIME
  else if type ∈ ["tinyblob".toList, "blob".toList, "mediumblob".toList, "longblob".toList] then
    DBTYPE_BLOB
  else DBTYPE_STRING

def column (row : Record) : TDBColumn where
  name := row.getString 0
  dbType := dbTypeOf (row.getString 1)
  nullable := if row.getString 2 = "YES".toList then 1 else 0
  defaultValue := row 4

variable (lib : Libmariadb) (rt : Runtime)

/-- Its query is left to the collector. The result set of the second statement starts with a new
record. -/
def getTableInfo (tableName : Text) (withDDL : Bool) (fuel : ℕ) (conn : TDBMariaDB) :
    Option (Option TDBTable × TDBMariaDB) :=
  if ¬ conn.isOpen then some (none, conn)
  else
    let r := (driver lib rt).executeStatement (showColumnsSql tableName)
      ((driver lib rt).opened conn none)
    if r.1 then do
      let (columns, s, _) ← eachRow (driver lib rt) column r.2 .create fuel
      let table : TDBTable := ⟨tableName, columns, []⟩
      if withDDL then
        let r := (driver lib rt).executeStatement (showCreateTableSql tableName)
          ((driver lib rt).opened s.1 (some s.2))
        if r.1 then
          (appendDdl (driver lib rt) 1 table r.2 .create fuel).map fun t => (some t.1, t.2.1)
        else some (some table, r.2.1)
      else some (some table, s.1)
    else some (none, r.2.1)

end TDBMariaDB

/-! ### The loop over the rows of an SQLite statement ends -/

section

open SqlTokens (trim)
open SqliteDriver SqliteSteps TSQLiteResultSet

variable (e : Engine) (conv : Conversions)

theorem nextRow_true {s : Session} (h : (nextRow e s).1 = true) :
    (s.2.fakeFirstRowFetch = true ∧ (nextRow e s).2 = (s.1, { s.2 with fakeFirstRowFetch := false })) ∨
    ∃ stmt row rest, s.2.stmtHandle = some stmt ∧ (stmt.run e s.1.log).rows = row :: rest ∧
      (nextRow e s).2.2.stmtHandle =
        some { stmt with running := some ⟨rest, (stmt.run e s.1.log).failure⟩ } ∧
      (nextRow e s).2.2.initialFetch = false ∧
      (nextRow e s).2.2.fakeFirstRowFetch = s.2.initialFetch := by
  cases hfake : s.2.fakeFirstRowFetch with
  | true => exact .inl ⟨rfl, congrArg Prod.snd (nextRow_fake e hfake)⟩
  | false =>
    cases hstmt : s.2.stmtHandle with
    | none =>
      obtain ⟨conn, -, -, heq⟩ := nextRow_null (e := e) hfake hstmt
      rw [heq] at h
      cases h
    | some stmt =>
      cases hrows : (stmt.run e s.1.log).rows with
      | cons row rest =>
        refine .inr ⟨stmt, row, rest, rfl, hrows, ?_⟩
        rw [nextRow_row hfake hstmt hrows]
        refine ⟨storeRow_stmtHandle _ row, ?_, ?_⟩
        · simp [storeRow, SqliteInvariant.beginFetch_initialFetch]
        · cases hinitial : s.2.initialFetch <;> simp [storeRow, beginFetch, hinitial, hfake]
      | nil =>
        cases hfailure : (stmt.run e s.1.log).failure with
        | none =>
          obtain ⟨calls, -, heq⟩ := nextRow_done hfake hstmt hrows hfailure
          rw [heq] at h
          cases h
        | some code =>
          obtain ⟨calls, conn, -, -, -, heq⟩ := nextRow_failed hfake hstmt hrows hfailure
          rw [heq] at h
          cases h

/-- Only so many fetches find a row. -/
inductive Drains {C RS : Type} (D : Driver C RS) : C × RS → Prop
  | fetch {s : C × RS} (h : (D.fetch s).1 = true → Drains D (D.fetch s).2) : Drains D s

theorem Drains.ends {C RS : Type} {D : Driver C RS} {s : C × RS} (h : Drains D s) {α : Type*}
    (body : Record → α) : ∀ record, ∃ fuel, (eachRow D body s record fuel).isSome = true := by
  induction h with
  | @fetch s h ih =>
    intro record
    by_cases hmore : (hasNext D s record).1 = true
    · have hfetch : (D.fetch s).1 = true := by
        by_contra hnone
        simp [hasNext, hnone] at hmore
      obtain ⟨fuel, hfuel⟩ := ih hfetch (hasNext D s record).2.2
      have hnext : (hasNext D s record).2.1 = (D.fetch s).2 := by
        rw [hasNext, if_pos hfetch]
      refine ⟨fuel + 1, ?_⟩
      rw [eachRow, if_pos hmore, Option.isSome_map, hnext]
      exact hfuel
    · refine ⟨1, ?_⟩
      rw [eachRow, if_neg hmore]
      rfl

variable {e conv}

theorem firstRow_true {s : Session} (h : (firstRow e s).1 = true) : firstRow e s = nextRow e s := by
  unfold firstRow at h ⊢
  split_ifs at h ⊢
  rfl

theorem drains_of_next {s : Session}
    (h : (nextRow e s).1 = true → Drains (driver e conv) (nextRow e s).2) :
    Drains (driver e conv) s := by
  refine .fetch fun hfetch => ?_
  obtain ⟨hrow, hsame⟩ :=
    Driver.fetch_true (D := driver e conv) (fun s hs => firstRow_true hs) hfetch
  rw [hsame]
  exact h hrow

/-- A statement that is running has only so many rows left. -/
theorem drains_running {s : Session} {stmt : Statement} {run : Run}
    (hstmt : s.2.stmtHandle = some stmt) (hrunning : stmt.running = some run)
    (hinitial : s.2.initialFetch = false) (hfake : s.2.fakeFirstRowFetch = false) :
    Drains (driver e conv) s := by
  obtain ⟨rows, failure⟩ := run
  induction rows generalizing s stmt with
  | nil =>
    refine drains_of_next fun h => ?_
    obtain ⟨hahead, -⟩ | ⟨stmt', row, rest, hstmt', hrows, -⟩ := nextRow_true e h
    · rw [hfake] at hahead
      cases hahead
    · obtain rfl := Option.some.inj (hstmt.symm.trans hstmt')
      rw [Statement.run, hrunning] at hrows
      cases hrows
  | cons row rows ih =>
    refine drains_of_next fun h => ?_
    obtain ⟨hahead, -⟩ | ⟨stmt', row', rest, hstmt', hrows, hnext, hbegun, hahead⟩ := nextRow_true e h
    · rw [hfake] at hahead
      cases hahead
    · obtain rfl := Option.some.inj (hstmt.symm.trans hstmt')
      have hrun : stmt.run e s.1.log = ⟨row :: rows, failure⟩ := by rw [Statement.run, hrunning]; rfl
      rw [hrun] at hrows hnext
      obtain ⟨rfl, rfl⟩ := List.cons.inj hrows
      exact ih hnext hbegun (hahead.trans hinitial) rfl

theorem drains_unread {s : Session} (hinitial : s.2.initialFetch = false)
    (hfake : s.2.fakeFirstRowFetch = false) : Drains (driver e conv) s := by
  refine drains_of_next fun h => ?_
  obtain ⟨hahead, -⟩ | ⟨stmt, row, rest, -, -, hnext, hbegun, hahead⟩ := nextRow_true e h
  · rw [hfake] at hahead
    cases hahead
  · exact drains_running hnext rfl hbegun (hahead.trans hinitial)

theorem drains_begun {s : Session} (hinitial : s.2.initialFetch = false) :
    Drains (driver e conv) s := by
  refine drains_of_next fun h => ?_
  obtain ⟨-, heq⟩ | ⟨stmt, row, rest, -, -, hnext, hbegun, hahead⟩ := nextRow_true e h
  · rw [heq]
    exact drains_unread hinitial rfl
  · exact drains_running hnext rfl hbegun (hahead.trans hinitial)

/-- Whatever the engine answers, fetching comes to an end. -/
theorem drains (s : Session) : Drains (driver e conv) s := by
  refine drains_of_next fun h => ?_
  obtain ⟨-, heq⟩ | ⟨stmt, row, rest, -, -, -, hbegun, -⟩ := nextRow_true e h
  · rw [heq]
    refine drains_of_next fun h => ?_
    obtain ⟨hahead, -⟩ | ⟨stmt, row, rest, -, -, -, hbegun, -⟩ := nextRow_true e h
    · cases hahead
    · exact drains_begun hbegun
  · exact drains_begun hbegun

variable (e conv) {α : Type*} (body : Record → α)

/-- The loop ends from here. -/
def Ends (s : Session) : Prop :=
  ∀ record, ∃ fuel, (eachRow (driver e conv) body s record fuel).isSome = true

variable {e conv body}

theorem ends (s : Session) : Ends e conv body s :=
  (drains s).ends body

/-! ### A new statement on SQLite -/

/-- The log after a call that succeeded. -/
def answered (log : List Call) (handle : ℕ) (action : Action) : List Call :=
  log ++ [⟨some handle, action, none⟩]

/-- A result set for a statement that was just prepared. -/
def newResultSet (id : ℕ) (sql : Text) (stmt : Statement) : TSQLiteResultSet :=
  { TQueryResultSet.create with
    query := sql, id := id, stmtHandle := some stmt, initialFetch := true,
    fakeFirstRowFetch := false }

variable (conv) in
theorem prepare_new {conn : TDBSQLite} {sql : Text} {d : Description} (hopen : conn.isOpen = true)
    (hsql : trim sql = sql) (hne : sql ≠ []) (h : e.prepare conn.log sql = .ok (some d)) :
    ∃ conn', prepare e sql ((driver e conv).setQuery (trim sql) ((driver e conv).opened conn none)) =
        (true, conn', newResultSet conn.created sql ⟨conn.log.length, d, none⟩) ∧
      conn'.log = answered conn.log conn.log.length (.prepare sql) ∧
      conn'.toTDBConnection = conn.toTDBConnection := by
  rw [hsql]
  set s : Session := (driver e conv).setQuery sql ((driver e conv).opened conn none)
  have hrs : (cleanup s).2 = { newResultSet conn.created sql ⟨conn.log.length, d, none⟩ with
    stmtHandle := none } := rfl
  have hfreed : (cleanup s).1 = TDBSQLite.removeQuery (createResultSet conn).1 conn.created := rfl
  have hlog : ((cleanup s).1.addQuery (cleanup s).2.id).log = conn.log := by
    rw [addQuery_log, hfreed, removeQuery_log]
    exact addQuery_log conn conn.created
  have hconn : ((cleanup s).1.addQuery (cleanup s).2.id).toTDBConnection = conn.toTDBConnection := by
    rw [addQuery_connection, hfreed, removeQuery_connection]
    exact addQuery_connection conn conn.created
  have hquery : (if (cleanup s).2.query = [] then sql else (cleanup s).2.query) = sql := by
    rw [hrs]
    exact if_neg hne
  have hisOpen : ¬ ¬ s.1.isOpen = true := by
    rw [not_not, ← hopen]
    exact congrArg TDBConnection.isOpen (addQuery_connection conn conn.created)
  unfold prepare
  rw [if_neg hisOpen]
  simp only [prepareStatement, hquery, hlog, h]
  refine ⟨{ (cleanup s).1.addQuery (cleanup s).2.id with
    log := answered conn.log conn.log.length (.prepare sql) }, ?_, rfl, hconn⟩
  rw [hrs]
  rfl

variable (conv) in
theorem execute_eq_prefetch {s : Session} {stmt : Statement} {log : List Call}
    (hstmt : s.2.stmtHandle = some stmt) (hreset : e.reset s.1.log stmt.handle = none)
    (hcount : stmt.description.parameterCount = s.2.bindCount)
    (hbound : bindParameters e conv (some stmt.rewind) 0 (answered s.1.log stmt.handle .reset)
      (s.2.boundValues.take s.2.bindCount) = (log, none)) :
    execute e conv s = prefetch e ({ s.1 with log := log }, rewound s.2) := by
  have hparameters : parameterCount (some stmt.rewind) = s.2.bindCount := hcount
  unfold execute resetHandle resetStatement
  unfold answered at hbound
  simp only [hstmt, hreset, hparameters, if_true, hbound]
  rw [rewound, hstmt]
  rfl

theorem prefetch_eq {s : Session} (h : (nextRow e s).2.1.hasError = false) :
    prefetch e s = (true,
      { (nextRow e s).2.1 with toTDBConnection := (nextRow e s).2.1.error.2 },
      { (nextRow e s).2.2 with isActive := true }) := by
  unfold prefetch
  dsimp only
  rw [TDBConnection.isSet_error, h]
  rfl

variable (conv) in
/-- A new statement that runs without failure is executed; a first row is fetched ahead. -/
theorem execute_ok {s : Session} {stmt : Statement} {log : List Call}
    (hstmt : s.2.stmtHandle = some stmt) (hreset : e.reset s.1.log stmt.handle = none)
    (hcount : stmt.description.parameterCount = s.2.bindCount)
    (hbound : bindParameters e conv (some stmt.rewind) 0 (answered s.1.log stmt.handle .reset)
      (s.2.boundValues.take s.2.bindCount) = (log, none))
    (herror : s.1.hasError = false) (hfailure : (e.run log stmt.handle).rows = [] →
      (e.run log stmt.handle).failure = none) :
    ∃ s', execute e conv s = (true, s') ∧ s'.1.isOpen = s.1.isOpen ∧
      ((e.run log stmt.handle).rows ≠ [] → s.2.initialFetch = true →
        s'.2.isActive = true ∧ s'.2.index = s.2.index + 1 ∧ s'.2.fakeFirstRowFetch = true) := by
  rw [execute_eq_prefetch conv hstmt hreset hcount hbound]
  set t : Session := ({ s.1 with log := log }, rewound s.2) with ht
  have hrewound : t.2.stmtHandle = some stmt.rewind := by simp [ht, rewound, hstmt]
  cases hrows : (e.run log stmt.handle).rows with
  | cons row rest =>
    have hnext := nextRow_row (e := e) (s := t) rfl hrewound hrows
    rw [prefetch_eq (by rw [hnext]; exact herror), hnext]
    refine ⟨_, rfl, TDBConnection.error_isOpen s.1.toTDBConnection, fun _ hinitial => ⟨rfl, ?_, ?_⟩⟩
    · simp [storeRow, ht, rewound]
    · simp [storeRow, beginFetch, ht, rewound, hinitial]
  | nil =>
    obtain ⟨calls, -, hnext⟩ := nextRow_done (e := e) (s := t) rfl hrewound hrows (hfailure hrows)
    rw [prefetch_eq (by rw [hnext]; exact herror), hnext]
    exact ⟨_, rfl, TDBConnection.error_isOpen s.1.toTDBConnection, fun hne => absurd rfl hne⟩

variable (e conv) in
theorem opened_isOpen {conn : TDBSQLite} (hopen : conn.isOpen = true) (sql : Text) :
    ((driver e conv).connection ((driver e conv).setQuery sql
      ((driver e conv).opened conn none)).1).isOpen = true :=
  (congrArg TDBConnection.isOpen (addQuery_connection conn conn.created)).trans hopen

variable (conv) in
theorem prepareStatement_new {conn : TDBSQLite} {sql : Text} {d : Description}
    (hopen : conn.isOpen = true) (hsql : trim sql = sql) (hne : sql ≠ [])
    (h : e.prepare conn.log sql = .ok (some d)) :
    ∃ conn', (driver e conv).prepareStatement sql ((driver e conv).opened conn none) =
        (true, conn', newResultSet conn.created sql ⟨conn.log.length, d, none⟩) ∧
      conn'.log = answered conn.log conn.log.length (.prepare sql) ∧ conn'.isOpen = true ∧
      conn'.hasError = false := by
  obtain ⟨conn', hprepare, hlog, hconn⟩ := prepare_new conv hopen hsql hne h
  have hisOpen := opened_isOpen e conv hopen (trim sql)
  refine ⟨{ conn' with toTDBConnection := conn'.toTDBConnection.resetError }, ?_, hlog, ?_, ?_⟩
  · unfold Driver.prepareStatement
    rw [if_neg (by simpa using hne)]
    dsimp only
    rw [if_pos hisOpen]
    exact congrArg (driver e conv).finish hprepare
  · exact (congrArg TDBConnection.isOpen hconn).trans hopen
  · exact TDBConnection.hasError_resetError _

variable (conv) in
theorem executeStatement_new {conn : TDBSQLite} {sql : Text} {d : Description}
    (hopen : conn.isOpen = true) (herror : conn.hasError = false) (hsql : trim sql = sql)
    (hne : sql ≠ []) (h : e.prepare conn.log sql = .ok (some d)) (hcount : d.parameterCount = 0)
    (hreset : e.reset (answered conn.log conn.log.length (.prepare sql)) conn.log.length = none)
    (hrun : (e.run (answered (answered conn.log conn.log.length (.prepare sql)) conn.log.length
      .reset) conn.log.length).failure = none) :
    ((driver e conv).executeStatement sql ((driver e conv).opened conn none)).1 = true := by
  obtain ⟨conn', hprepare, hlog, hconn⟩ := prepare_new conv hopen hsql hne h
  have hisOpen := opened_isOpen e conv hopen (trim sql)
  obtain ⟨s', hexecute, -⟩ := execute_ok (e := e) conv
    (s := (conn', newResultSet conn.created sql ⟨conn.log.length, d, none⟩)) rfl
    (by rw [hlog]; exact hreset) hcount rfl
    ((congrArg TDBConnection.hasError hconn).trans herror) (fun _ => by rw [hlog]; exact hrun)
  unfold Driver.executeStatement
  rw [if_neg (by simpa [hsql] using hne)]
  dsimp only
  rw [if_pos hisOpen, Driver.finish_ok]
  change (executeQuery e conv sql _).1 = true
  unfold executeQuery
  rw [hprepare]
  exact congrArg Prod.fst hexecute

variable (conv) in
theorem fetch_ahead {s : Session} (hactive : s.2.isActive = true) (hindex : s.2.index = 0)
    (hfake : s.2.fakeFirstRowFetch = true) :
    (driver e conv).fetch s = (true, s.1, { s.2 with fakeFirstRowFetch := false }) := by
  have hnext : (driver e conv).nextRow s = _ := nextRow_fake e hfake
  have hbase : (driver e conv).base s.2 = s.2.toTQueryResultSet := rfl
  unfold Driver.fetch
  rw [hnext]
  simp [hbase, hactive, hindex, SQL_BeforeFirstRow, SQL_AfterLastRow]

end

/-! ### Tables that SQLite has -/

namespace TDBSQLite
open SqlTokens (trim)
open SqlNames SqliteDriver SqliteSteps TSQLiteResultSet

/-- The name that the statement which describes a table has. -/
def tableRead (w : Words) (tableName : Text) : Option Text :=
  nameBetween w "PRAGMA table_info(".toList ")".toList (tableInfoSql tableName)

/-- What an engine answers that has these tables. A PRAGMA is carried out whether there is a table
of the name or not. -/
structure Catalog (w : Words) (sameName : Text → Text → Bool) (tables : List Call → List Text)
    (e : Engine) : Prop where
  reset_prepared : ∀ log sql,
    e.reset (answered log log.length (.prepare sql)) log.length = none
  prepare_lookup : ∀ log, ∃ columns, e.prepare log tableExistsSql = .ok (some ⟨1, columns⟩)
  bind_lookup : ∀ log name, e.bind (answered (answered log log.length (.prepare tableExistsSql))
    log.length .reset) log.length 1 (.text name) = none
  run_lookup : ∀ log name, (∃ table ∈ tables log, sameName table name = true) →
    (e.run (answered (answered (answered log log.length (.prepare tableExistsSql)) log.length
      .reset) log.length (.bind 1 (.text name))) log.length).rows ≠ []
  prepare_read : ∀ log tableName, (tableRead w tableName).isSome = true →
    ∃ columns, e.prepare log (tableInfoSql tableName) = .ok (some ⟨0, columns⟩)
  run_read : ∀ log tableName, (tableRead w tableName).isSome = true →
    (e.run (answered (answered log log.length (.prepare (tableInfoSql tableName))) log.length
      .reset) log.length).failure = none

theorem trim_tableInfoSql (tableName : Text) :
    trim (tableInfoSql tableName) = tableInfoSql tableName :=
  SqlTokens.trim_eq_self ("RAGMA table_info(".toList ++ tableName) (by decide) (by decide)

theorem bindParameters_name {e : Engine} (conv : Conversions) {log : List Call} {handle : ℕ}
    {description : Description} {name : Text}
    (h : e.bind log handle 1 (.text (cString name)) = none) :
    bindParameters e conv (some ⟨handle, description, none⟩) 0 log [some (.setString name)] =
      (answered log handle (.bind 1 (.text (cString name))), none) := by
  simp [bindParameters, parameterOf, TDBType.setString, bindStatement, bmx_sqlite3_bind_text64, h,
    answered, TDBType.getString]

variable {w : Words} {sameName : Text → Text → Bool} {tables : List Call → List Text} {e : Engine}
  (h : Catalog w sameName tables e) (conv : Conversions)

include h

theorem tableExists_true {conn : TDBSQLite} {tableName : Text} (hopen : conn.isOpen = true)
    (hfound : ∃ table ∈ tables conn.log, sameName table (cString tableName) = true) :
    (tableExists e conv tableName conn).1 = true ∧
      (tableExists e conv tableName conn).2.isOpen = true ∧
      (tableExists e conv tableName conn).2.hasError = false := by
  obtain ⟨columns, hlookup⟩ := h.prepare_lookup conn.log
  obtain ⟨conn', hprepare, hlog, hopen', herror⟩ := prepareStatement_new conv hopen
    (by decide) (by decide) hlookup
  have hreset := h.reset_prepared conn.log tableExistsSql
  rw [← hlog] at hreset
  have hbind := h.bind_lookup conn.log (cString tableName)
  rw [← hlog] at hbind
  have hrows := h.run_lookup conn.log (cString tableName) hfound
  rw [← hlog] at hrows
  set rs : TSQLiteResultSet := newResultSet conn.created tableExistsSql
    ⟨conn.log.length, ⟨1, columns⟩, none⟩ with hrs
  obtain ⟨s', hexecute, hopen'', hahead⟩ := execute_ok (e := e) conv
    (s := (conn', { rs with toTQueryResultSet := rs.toTQueryResultSet.addString tableName }))
    rfl hreset rfl
    (bindParameters_name conv hbind) herror (fun hnil => absurd hnil hrows)
  obtain ⟨hactive, hindex, hfake⟩ := hahead hrows rfl
  have hprepared : prepareForTable e conv tableExistsSql tableName conn none =
      (conn', { rs with toTQueryResultSet := rs.toTQueryResultSet.addString tableName }) := by
    unfold prepareForTable
    rw [hprepare]
  have hexecuted : (driver e conv).executePrepared
      (prepareForTable e conv tableExistsSql tableName conn none) =
        (true, { s'.1 with toTDBConnection := s'.1.toTDBConnection.resetError }, s'.2) := by
    rw [hprepared]
    exact (if_pos hopen').trans (congrArg (driver e conv).finish hexecute)
  unfold tableExists
  rw [if_neg (by simpa using hopen), hexecuted]
  dsimp only
  have hfetch := fetch_ahead (e := e) conv
    (s := ({ s'.1 with toTDBConnection := s'.1.toTDBConnection.resetError }, s'.2))
    hactive hindex hfake
  rw [if_pos rfl, hfetch]
  refine ⟨rfl, ?_, ?_⟩
  · refine (congrArg TDBConnection.isOpen (removeQuery_connection _ _)).trans ?_
    exact hopen''.trans hopen'
  · refine (congrArg TDBConnection.hasError (removeQuery_connection _ _)).trans ?_
    exact TDBConnection.hasError_resetError _

theorem getTableInfo_some {conn : TDBSQLite} {tableName : Text} (hopen : conn.isOpen = true)
    (hfound : ∃ table ∈ tables conn.log, sameName table (cString tableName) = true)
    (hread : (tableRead w tableName).isSome = true) :
    ∃ fuel table conn', getTableInfo e conv tableName false fuel conn = some (some table, conn') := by
  obtain ⟨hexists, hopen', herror⟩ := tableExists_true h conv hopen hfound
  set found := tableExists e conv tableName conn with hfound
  obtain ⟨columns, hprepare⟩ := h.prepare_read found.2.log tableName hread
  have hexecuted := executeStatement_new conv hopen' herror (trim_tableInfoSql tableName)
    (List.cons_ne_nil _ _) hprepare rfl (h.reset_prepared _ _) (h.run_read _ _ hread)
  obtain ⟨fuel, hfuel⟩ := @ends e conv TDBColumn (column conv)
    ((driver e conv).executeStatement (tableInfoSql tableName)
      ((driver e conv).opened found.2 none)).2 .create
  obtain ⟨rows, hrows⟩ := Option.isSome_iff_exists.mp hfuel
  refine ⟨fuel, ⟨tableName, rows.1, []⟩, (free rows.2.1).1, ?_⟩
  unfold getTableInfo
  rw [if_neg (by simpa using hopen), ← hfound, if_neg (by simpa using hexists), if_pos hexecuted]
  unfold readTable
  rw [hrows]
  rfl

end TDBSQLite

end DatabaseMod.TableInspection
