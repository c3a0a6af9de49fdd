import DatabaseMod.CoreQuery
import DatabaseMod.SqlEngine

/-!
# The SQLite driver

The result set of the SQLite driver over an engine. The connection keeps the log of native
calls and the registry of its result sets, which are named by number.
-/

namespace DatabaseMod.SqliteDriver
open SqlTokens (Text)
open CoreValues CoreResultSet CoreQuery SqlEngine

structure TDBSQLite extends TDBConnection where
  queries : List (Option ℕ)
  /-- The number of result sets created so far. -/
  created : ℕ
  log : List Call
deriving DecidableEq, Repr

structure TSQLiteResultSet extends TQueryResultSet where
  id : ℕ
  stmtHandle : Option Statement
  initialFetch : Bool
  fakeFirstRowFetch : Bool
deriving DecidableEq, Repr

/-- A connection and one of its result sets. -/
abbrev Session := TDBSQLite × TSQLiteResultSet

namespace TDBSQLite

def removeQuery (conn : TDBSQLite) (id : ℕ) : TDBSQLite :=
  match conn.queries.findIdx? (· = some id) with
  | some i => { conn with queries := conn.queries.set i none }
  | none => conn

/-- The first free slot is taken, unless the result set stands in one already. -/
def addQuery (conn : TDBSQLite) (id : ℕ) : TDBSQLite :=
  if some id ∈ conn.queries then conn
  else match conn.queries.findIdx? Option.isNone with
    | some i => { conn with queries := conn.queries.set i (some id) }
    | none => { conn with queries := conn.queries ++ [some id] }

def setError (conn : TDBSQLite) (error append : Text) (errorValue : ℤ) : TDBSQLite :=
  { conn with toTDBConnection := conn.toTDBConnection.setError error append .statement errorValue }

end TDBSQLite

/-! ### The engine's side of values -/

/-- An exponent of ones and a mantissa that is not zero. -/
def sqlite3IsNaN (bits : UInt64) : Bool :=
  bits &&& 0x7ff0000000000000 = 0x7ff0000000000000 && bits &&& 0xfffffffffffff ≠ 0

def sqlite3_bind_double (bits : UInt64) : SqlValue :=
  if sqlite3IsNaN bits then .null else .real bits

/-- The text is passed without its length. -/
def bmx_sqlite3_bind_text64 (value : Text) : SqlValue := .text (cString value)

/-- A blob without data has no address. -/
def bmx_sqlite3_bind_blob64 : List UInt8 → SqlValue
  | [] => .null
  | value => .blob value

/-- The native parameter for a bound value. A kind without a case binds nothing. -/
def parameterOf (conv : Conversions) : Option TDBType → Option SqlValue
  | none => some .null
  | some v =>
    if v.isNull then some .null
    else match v.content with
      | .integer .byte _ | .integer .short _ | .integer .int _ => some (.integer (v.getInt conv))
      | .integer .uint _ | .integer .long _ => some (.integer (v.getLong conv))
      | .integer .ulong _ =>
        some (bmx_sqlite3_bind_text64 (Nat.toDigits 10 (v.getULong conv).toNat))
      | .integer .bool _ => none
      | .float _ => some (sqlite3_bind_double (v.getFloat conv))
      | .double _ => some (sqlite3_bind_double (v.getDouble conv))
      | .string _ | .temporal _ _ _ => some (bmx_sqlite3_bind_text64 v.getString)
      | .decimal _ => some (bmx_sqlite3_bind_text64 ((v.getDecimal conv).getD []))
      | .blob _ => some (bmx_sqlite3_bind_blob64 v.getBlob)

/-- The value kept for a cell; a null cell leaves the cleared old one. -/
def columnValue (old : Option TDBType) : SqlValue → Option TDBType
  | .null => old.map .clear
  | .integer value => some (.setLong value)
  | .real bits => some (.setDouble bits)
  | .text value => some (.setString value)
  | .blob value => some (.setBlob value)

def dbTypeFromNative (name : Text) : ℕ :=
  let name := name.map Char.toLower
  if "numeric".toList <+: name then DBTYPE_DECIMAL
  else if name = "integer".toList ∨ name = "int".toList then DBTYPE_LONG
  else if name = "double".toList ∨ name = "float".toList then DBTYPE_DOUBLE
  else if name = "blob".toList then DBTYPE_BLOB
  else DBTYPE_STRING

/-- The name after its last dot. -/
def shortName (name : Text) : Text := name.rtakeWhile (· ≠ '.')

def initRecord (columns : List Column) : TQueryRecord :=
  if columns.length = 0 then TQueryRecord.clear .create
  else ⟨columns.map fun column =>
    ⟨shortName column.name, dbTypeFromNative (column.declType.getD [])⟩, false, false⟩

namespace TSQLiteResultSet

def createResultSet (conn : TDBSQLite) : Session :=
  let rs : TSQLiteResultSet :=
    { TQueryResultSet.create with
      id := conn.created, stmtHandle := none, initialFetch := true, fakeFirstRowFetch := false }
  ({ conn.addQuery conn.created with created := conn.created + 1 }, rs)

def clear (s : Session) : Session :=
  (s.1, { s.2 with toTQueryResultSet := s.2.toTQueryResultSet.clearBindValues })

def free (s : Session) : Session :=
  let conn := s.1.removeQuery s.2.id
  ({ conn with log := finalize conn.log s.2.stmtHandle }, { s.2 with stmtHandle := none })

variable (e : Engine) (conv : Conversions)

def resetHandle (s : Session) : Session × Option ErrorCode :=
  let r := resetStatement e s.1.log s.2.stmtHandle
  (({ s.1 with log := r.1 }, { s.2 with stmtHandle := r.2.1 }), r.2.2)

def reset (s : Session) : Session :=
  (resetHandle e (s.1, { s.2 with initialFetch := true, index := SQL_BeforeFirstRow })).1

def cleanup (s : Session) : Session :=
  free (clear (s.1, { s.2 with index := SQL_BeforeFirstRow, initialFetch := true }))

def message (conn : TDBSQLite) : Text := e.message conn.log

def prepare (stmt : Text) (s : Session) : Bool × Session :=
  if ¬ s.1.isOpen then (false, s)
  else
    let s := cleanup s
    let conn := s.1.addQuery s.2.id
    let query := if s.2.query = [] then stmt else s.2.query
    let r := prepareStatement e conn.log query
    let conn := { conn with log := r.1 }
    match r.2 with
    | .error code =>
      let conn := conn.setError "Error preparing statement".toList (message e conn) code.code
      (false, free (conn, { s.2 with query := query, stmtHandle := none }))
    | .ok stmtHandle => (true, conn, { s.2 with query := query, stmtHandle := stmtHandle })

/-- The binding loop from position `i` on; it stops at the first failure. -/
def bindParameters (stmtHandle : Option Statement) (i : ℕ) (log : List Call) :
    List (Option TDBType) → List Call × Option (ℕ × ErrorCode)
  | [] => (log, none)
  | value :: values =>
    match parameterOf conv value with
    | none => bindParameters stmtHandle (i + 1) log values
    | some parameter =>
      let r := bindStatement e log (i + 1) parameter stmtHandle
      match r.2 with
      | none => bindParameters stmtHandle (i + 1) r.1 values
      | some code => (r.1, some (i, code))

/-- The values of a fetched row; the loop runs over the columns of the record. -/
def fillValues (rs : TSQLiteResultSet) (row : Row) : List (Option TDBType) :=
  rs.values.mapIdx fun i old =>
    if i < rs.record.count then columnValue old (cell row i) else old

/-- The record is made from the columns of the statement when it is still empty. -/
def ensureRecord (rs : TSQLiteResultSet) : TSQLiteResultSet :=
  if rs.record.isEmpty then
    let rs := { rs with record := initRecord (columns rs.stmtHandle) }
    { rs with toTQueryResultSet := rs.toTQueryResultSet.resetValues rs.record.count }
  else rs

/-- The first fetch after a reset asks for its row to be delivered once more. -/
def beginFetch (rs : TSQLiteResultSet) : TSQLiteResultSet :=
  if rs.initialFetch then { rs with fakeFirstRowFetch := true, initialFetch := false } else rs

def storeRow (rs : TSQLiteResultSet) (row : Row) : TSQLiteResultSet :=
  let rs := ensureRecord rs
  { rs with values := fillValues rs row, index := rs.index + 1 }

/-- At the end of the rows a record made here is marked as one of an empty set. -/
def storeEnd (rs : TSQLiteResultSet) : TSQLiteResultSet :=
  let isEmptySet := rs.record.isEmpty || rs.record.isEmptySet
  let rs := ensureRecord rs
  { rs with record := { rs.record with isEmptySet := isEmptySet }, fakeFirstRowFetch := false }

def nextRow (s : Session) : Bool × Session :=
  if s.2.fakeFirstRowFetch then (true, s.1, { s.2 with fakeFirstRowFetch := false })
  else
    let rs := beginFetch s.2
    let r := stepStatement e s.1.log rs.stmtHandle
    let s : Session := ({ s.1 with log := r.1 }, { rs with stmtHandle := r.2.1 })
    match r.2.2 with
    | .row row => (true, s.1, storeRow s.2 row)
    | .done => (false, (resetHandle e (s.1, storeEnd s.2)).1)
    | .failed code =>
      let s := (resetHandle e s).1
      (false, s.1.setError (message e s.1) [] code.code, s.2)

def firstRow (s : Session) : Bool × Session :=
  if s.2.index = SQL_BeforeFirstRow then nextRow e s else (false, s)

/-- The end of `execute`: the first row is fetched ahead, and the stored error decides. -/
def prefetch (s : Session) : Bool × Session :=
  let s := (nextRow e s).2
  let error := s.1.error
  let conn := { s.1 with toTDBConnection := error.2 }
  if error.1.isSet then (false, conn, { s.2 with isActive := false })
  else (true, conn, { s.2 with isActive := true })

def execute (s : Session) : Bool × Session :=
  let r := resetHandle e (s.1, { s.2 with fakeFirstRowFetch := false })
  let s := r.1
  match r.2 with
  | some code =>
    (false, free (s.1.setError "Error resetting statement".toList (message e s.1) code.code, s.2))
  | none =>
    let paramCount := parameterCount s.2.stmtHandle
    if paramCount = s.2.bindCount then
      let b := bindParameters e conv s.2.stmtHandle 0 s.1.log (s.2.boundValues.take paramCount)
      let s := ({ s.1 with log := b.1 }, s.2)
      match b.2 with
      | none => prefetch e s
      | some (i, code) =>
        let s := (resetHandle e s).1
        let text := "Failed to bind parameter (".toList ++ Nat.toDigits 10 i ++ ")".toList
        (false, free (s.1.setError text (message e s.1) code.code, s.2))
    else (false, free (s.1.setError "Parameter count mismatch".toList [] 0, s.2))

def executeQuery (statement : Text) (s : Session) : Bool × Session :=
  let r := prepare e statement s
  if r.1 then execute e conv r.2 else (false, r.2)

end TSQLiteResultSet

open TSQLiteResultSet

/-- The driver as the core uses it. -/
def driver (e : Engine) (conv : Conversions) : Driver TDBSQLite TSQLiteResultSet where
  connection conn := conn.toTDBConnection
  setConnection conn base := { conn with toTDBConnection := base }
  base rs := rs.toTQueryResultSet
  setBase rs base := { rs with toTQueryResultSet := base }
  createResultSet := createResultSet
  clear := clear
  free := free
  prepare := prepare e
  executeQuery := executeQuery e conv
  execute := execute e conv
  firstRow := firstRow e
  nextRow := nextRow e
  reset := reset e

end DatabaseMod.SqliteDriver
