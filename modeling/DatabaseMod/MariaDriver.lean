import DatabaseMod.LittleEndian
import DatabaseMod.PostgresDriver

/-!
# The MariaDB driver

The result set of the MariaDB driver over libmariadb, which is a parameter: its answers may
depend on all native calls before. A method that is called on Null raises an exception,
which leaves the driver and the core; the connection counts the exceptions.
-/

namespace DatabaseMod.MariaDriver
open MachineInteger LittleEndian
open SqlTokens (Text)
open CoreValues CoreResultSet CoreQuery CoreTemporal CoreFormat
open CoreDateParser (DateFields)
open CoreDateTypes (TDBDateTime)
open PostgresDriver (dateValue dateTimeValue timeValue)

/-! ### libmariadb -/

structure Field where
  name : Text
  type : ℕ
  flags : ℕ
  length : ℕ
deriving DecidableEq, Repr

/-- A prepared statement; one that returns no rows has no columns. -/
structure Statement where
  paramCount : ℕ
  columns : Option (List Field)
deriving DecidableEq, Repr

/-- A stored result with the rows that are still to be fetched. -/
structure StoredResult where
  columns : List Field
  rows : List (List (Option (List UInt8)))
deriving DecidableEq, Repr

/-- What `mysql_store_result` returns; without a result the field count tells why. -/
inductive Stored
  | rows (result : StoredResult)
  | noRows
  | failed
deriving DecidableEq, Repr

/-- The value of a bound parameter. -/
inductive Param
  | null
  | int (value : ℤ)
  | float (bits : UInt64)
  | double (bits : UInt64)
  | long (value : ℤ)
  | string (value : Text)
  | blob (data : List UInt8)
  | temporal (kind : TemporalKind) (parts : DateFields)
deriving DecidableEq, Repr

inductive Call
  | ping
  | realQuery (statement : Text)
  | storeResult
  | freeResult
  | stmtInit
  | stmtPrepare (statement : Text)
  | stmtReset
  | stmtBindParam (bindings : List (Option Param))
  | stmtExecute
  | stmtBindResult
  | stmtStoreResult
  | stmtFetch
  | stmtClose
deriving DecidableEq, Repr

/-- Bytes of memory from an address on. -/
abbrev Memory := ℕ → UInt8

/-- The answers to the last of the calls so far. Allocated memory holds any bytes, and so
does the place where a function looks for an argument that it was not given; both differ
from column to column. -/
structure Libmariadb where
  code : List Call → ℤ
  stmtInit : List Call → Bool
  prepared : List Call → Statement
  stored : List Call → Stored
  fetched : List Call → List (Option (List UInt8))
  errno : List Call → ℤ
  error : List Call → Text
  fresh : List Call → ℕ → Memory
  stray : List Call → ℕ → ℤ

/-- The runtime's conversions. -/
structure Runtime where
  conv : Conversions
  strftime : Strftime
  fromUTF8 : Text → Text
  floatBits : List UInt8 → UInt64
  doubleBits : List UInt8 → UInt64

/-! ### Types -/

def MYSQL_TYPE_DECIMAL : ℕ := 0
def MYSQL_TYPE_TINY : ℕ := 1
def MYSQL_TYPE_SHORT : ℕ := 2
def MYSQL_TYPE_LONG : ℕ := 3
def MYSQL_TYPE_FLOAT : ℕ := 4
def MYSQL_TYPE_DOUBLE : ℕ := 5
def MYSQL_TYPE_TIMESTAMP : ℕ := 7
def MYSQL_TYPE_LONGLONG : ℕ := 8
def MYSQL_TYPE_INT24 : ℕ := 9
def MYSQL_TYPE_DATE : ℕ := 10
def MYSQL_TYPE_TIME : ℕ := 11
def MYSQL_TYPE_DATETIME : ℕ := 12
def MYSQL_TYPE_YEAR : ℕ := 13
def MYSQL_TYPE_TINY_BLOB : ℕ := 249
def MYSQL_TYPE_MEDIUM_BLOB : ℕ := 250
def MYSQL_TYPE_LONG_BLOB : ℕ := 251
def MYSQL_TYPE_BLOB : ℕ := 252

def dbTypeFromNative (type flags : ℕ) : ℕ :=
  if type ∈ [MYSQL_TYPE_TINY, MYSQL_TYPE_SHORT, MYSQL_TYPE_LONG, MYSQL_TYPE_INT24] then DBTYPE_INT
  else if type = MYSQL_TYPE_YEAR then DBTYPE_INT
  else if type = MYSQL_TYPE_LONGLONG then DBTYPE_LONG
  else if type = MYSQL_TYPE_FLOAT then DBTYPE_FLOAT
  else if type ∈ [MYSQL_TYPE_DOUBLE, MYSQL_TYPE_DECIMAL] then DBTYPE_DOUBLE
  else if type = MYSQL_TYPE_DATE then DBTYPE_DATE
  else if type = MYSQL_TYPE_TIME then DBTYPE_TIME
  else if type ∈ [MYSQL_TYPE_DATETIME, MYSQL_TYPE_TIMESTAMP] then DBTYPE_DATETIME
  else if type ∈ [MYSQL_TYPE_BLOB, MYSQL_TYPE_TINY_BLOB, MYSQL_TYPE_MEDIUM_BLOB,
      MYSQL_TYPE_LONG_BLOB] then
    if flags &&& 128 ≠ 0 then DBTYPE_BLOB else DBTYPE_STRING
  else DBTYPE_STRING

/-! ### Values of a row -/

def Memory.write (data : Memory) (bytes : List UInt8) : Memory :=
  fun i => (bytes[i]?).getD (data i)

def Memory.read (data : Memory) (offset size : ℕ) : List UInt8 :=
  (List.range size).map fun i => data (offset + i)

def charToInt (data : Memory) : ℤ := castInt32 (littleEndian (data.read 0 4))
def charToLong (data : Memory) : ℤ := castInt64 (littleEndian (data.read 0 8))

/-- The members of a `MYSQL_TIME`, from the year on. -/
def timeMember (data : Memory) (i : ℕ) : ℤ := castInt32 (littleEndian (data.read (4 * i) 4))

def fromBytes (bytes : List UInt8) : Text := bytes.map fun b => Char.ofNat b.toNat

structure TMySQLField where
  dataValue : Memory
  dataLength : ℕ
  isNull : Bool

/-- A fetch writes the bytes of the cell into its bound buffer. -/
def TMySQLField.fetch (f : TMySQLField) : Option (List UInt8) → TMySQLField
  | none => { f with isNull := true }
  | some bytes => ⟨f.dataValue.write bytes, bytes.length, false⟩

section

variable (rt : Runtime)

/-- The value of a bound buffer. The constructors of the core take the microseconds too. -/
def bufferValue (stray : ℤ) (fType : ℕ) (f : TMySQLField) : Option TDBType :=
  let data := f.dataValue
  if fType = DBTYPE_INT then some (.setInt (charToInt data))
  else if fType = DBTYPE_LONG then some (.setLong (charToLong data))
  else if fType = DBTYPE_FLOAT then some (.setFloat (rt.floatBits (data.read 0 4)))
  else if fType = DBTYPE_DOUBLE then some (.setDouble (rt.doubleBits (data.read 0 8)))
  else if fType = DBTYPE_DATE then
    (TDBDate.set (timeMember data 0) (timeMember data 1) (timeMember data 2)).bind
      (dateValue rt.strftime)
  else if fType = DBTYPE_DATETIME then
    (TDBDateTime.set (timeMember data 0) (timeMember data 1) (timeMember data 2)
      (timeMember data 3) (timeMember data 4) (timeMember data 5) stray).bind
        (dateTimeValue rt.strftime)
  else if fType = DBTYPE_TIME then
    (TDBTime.set (timeMember data 3) (timeMember data 4) (timeMember data 5) stray).bind
      (timeValue rt.strftime)
  else if fType = DBTYPE_BLOB then some (.setBlob (data.read 0 f.dataLength))
  else some (.setString (rt.fromUTF8 (fromBytes (data.read 0 f.dataLength))))

/-- The value of a cell of a text row. -/
def textValue (fType : ℕ) (bytes : List UInt8) : Option TDBType :=
  let text := fromBytes bytes
  if fType = DBTYPE_INT then some (.setInt (rt.conv.toInt text))
  else if fType = DBTYPE_LONG then some (.setLong (rt.conv.toLong text))
  else if fType = DBTYPE_FLOAT then some (.setFloat (rt.conv.toFloat text))
  else if fType = DBTYPE_DOUBLE then some (.setDouble (rt.conv.toDouble text))
  else if fType = DBTYPE_DATE then
    (TDBDate.setFromString (rt.fromUTF8 text)).bind (dateValue rt.strftime)
  else if fType = DBTYPE_DATETIME then
    (TDBDateTime.setFromString (rt.fromUTF8 text)).bind (dateTimeValue rt.strftime)
  else if fType = DBTYPE_TIME then
    (TDBTime.setFromString (rt.fromUTF8 text)).bind (timeValue rt.strftime)
  else if fType = DBTYPE_BLOB then some (.setBlob bytes)
  else some (.setString (rt.fromUTF8 text))

end

/-! ### Parameters -/

/-- The case of the binding loop for the kind of a value. -/
def paramOf (v : TDBType) : Option Param :=
  match v.content with
  | .integer .int value => some (if v.isNull then .null else .int value)
  | .float bits => some (if v.isNull then .null else .float bits)
  | .double bits => some (if v.isNull then .null else .double bits)
  | .integer .long value => some (if v.isNull then .null else .long value)
  | .string value => some (if v.isNull then .null else .string (cString value))
  | .blob data => some (if v.isNull then .null else .blob data)
  | .temporal kind parts _ => some (if v.isNull then .null else .temporal kind parts)
  | _ => none

/-- The loop over the values and their bindings. A binding without a case stays as it was;
at a Null value the loop ends with an exception. -/
def bindParameters : List (Option TDBType) → List (Option Param) → Bool × List (Option Param)
  | some v :: values, binding :: bindings =>
    let r := bindParameters values bindings
    (r.1, (paramOf v).or binding :: r.2)
  | none :: _, bindings => (false, bindings)
  | [], bindings => (true, bindings)
  | _ :: _, [] => (true, [])

/-! ### Connections and result sets -/

structure TDBMariaDB extends TDBConnection where
  /-- The number of exceptions so far. -/
  raised : ℕ
  log : List Call
deriving DecidableEq, Repr

namespace TDBMariaDB

def call (conn : TDBMariaDB) (c : Call) : TDBMariaDB := { conn with log := conn.log ++ [c] }

variable (lib : Libmariadb)

def fail (conn : TDBMariaDB) (error : String) : TDBMariaDB :=
  let append := lib.error conn.log
  { conn with toTDBConnection :=
      conn.toTDBConnection.setError error.toList append .statement (lib.errno conn.log) }

/-- `isOpen` after a ping. -/
def pinged (conn : TDBMariaDB) (log : List Call) : TDBConnection :=
  if conn.isOpen ∧ lib.code log ≠ 0 then
    { conn.toTDBConnection.setError "Connection has closed".toList [] .connection (lib.errno log) with
      isOpen := false }
  else conn.toTDBConnection

/-- The core pings before it calls an operation of the result set. -/
def checked (conn : TDBMariaDB) : TDBConnection := conn.pinged lib (conn.log ++ [.ping])

end TDBMariaDB

structure TMySQLResultSet extends TQueryResultSet where
  resultHandle : Option StoredResult
  stmtHandle : Option Statement
  metaHandle : Option (List Field)
  preparedQuery : Bool
  parameterBindings : List (Option Param)
  /-- The buffers of the columns; their bindings are made with them. -/
  mySQLFields : List TMySQLField

/-- A connection and one of its result sets. -/
abbrev Session := TDBMariaDB × TMySQLResultSet

namespace TMySQLResultSet

def createResultSet (conn : TDBMariaDB) : Session :=
  (conn, { TQueryResultSet.create with
    resultHandle := none, stmtHandle := none, metaHandle := none, preparedQuery := false,
    parameterBindings := [], mySQLFields := [] })

def initRecord (rs : TMySQLResultSet) (columns : List Field) : TMySQLResultSet :=
  let record := if columns.length = 0 then rs.record.clear
    else ⟨columns.map fun f => ⟨f.name, dbTypeFromNative f.type f.flags⟩, false, false⟩
  { rs with toTQueryResultSet := { rs.toTQueryResultSet.resetValues columns.length with
    record := record } }

/-- The handles that `cleanup` frees. -/
def freed (rs : TMySQLResultSet) : List Call :=
  (if rs.resultHandle.isSome then [.freeResult] else []) ++
    (if rs.metaHandle.isSome then [.freeResult] else []) ++
      (if rs.stmtHandle.isSome then [.stmtClose] else [])

def cleaned (rs : TMySQLResultSet) : TMySQLResultSet :=
  { rs with
    index := SQL_BeforeFirstRow, record := rs.record.clear, isActive := false,
    resultHandle := none, stmtHandle := none, metaHandle := none, preparedQuery := true,
    parameterBindings := [], mySQLFields := [] }

def cleanup (s : Session) : Session :=
  ({ s.1 with log := s.1.log ++ s.2.freed }, s.2.cleaned)

def clear (s : Session) : Session :=
  let s := cleanup s
  (s.1, { s.2 with toTQueryResultSet := s.2.toTQueryResultSet.clearBindValues })

variable (lib : Libmariadb) (rt : Runtime)

def executeQuery (statement : Text) (s : Session) : Bool × Session :=
  let conn := (s.1.call .ping).call .ping
  let conn := { conn with toTDBConnection := conn.pinged lib conn.log }
  if ¬ conn.isOpen then (false, conn, s.2)
  else
    let rs := { s.2 with preparedQuery := false }
    let conn := conn.call (.realQuery statement)
    if lib.code conn.log ≠ 0 then (false, conn.fail lib "Error executing query", rs)
    else
      let conn := conn.call .storeResult
      match lib.stored conn.log with
      | .failed =>
        (false, conn.fail lib "Error storing result set", { rs with resultHandle := none })
      | .noRows => (true, conn, { (rs.initRecord []) with resultHandle := none, isActive := true })
      | .rows result =>
        (true, conn,
          { (rs.initRecord result.columns) with resultHandle := some result, isActive := true })

/-- The bindings of a statement that was prepared. -/
def bound (rs : TMySQLResultSet) (stmt : Statement) (fresh : ℕ → Memory) : TMySQLResultSet :=
  let rs := { rs with
    stmtHandle := some stmt, parameterBindings := List.replicate stmt.paramCount none,
    metaHandle := stmt.columns }
  match stmt.columns with
  | none => rs
  | some columns =>
    { rs.initRecord columns with
      mySQLFields := columns.mapIdx fun i f => ⟨fresh i, f.length + 1, false⟩ }

def prepare (statement : Text) (s : Session) : Bool × Session :=
  let s := cleanup (s.1.call .ping, s.2)
  if statement.length = 0 then (false, s)
  else
    let conn := s.1.call .stmtInit
    if ¬ lib.stmtInit conn.log then (false, conn.fail lib "Error preparing statement", s.2)
    else
      let conn := conn.call (.stmtPrepare statement)
      if lib.code conn.log ≠ 0 then
        (false, (conn.fail lib "Error preparing statement").call .stmtClose, s.2)
      else (true, conn, s.2.bound (lib.prepared conn.log) (lib.fresh conn.log))

/-- The end of `execute`: the statement is run, and its result is bound if there is one. -/
def run (s : Session) : Bool × Session :=
  let conn := s.1.call .stmtExecute
  if lib.code conn.log ≠ 0 then (false, conn.fail lib "Error executing statement", s.2)
  else if s.2.metaHandle.isNone then (true, conn, { s.2 with isActive := true })
  else
    let conn := conn.call .stmtBindResult
    if lib.code conn.log ≠ 0 then (false, conn.fail lib "Error binding result", s.2)
    else
      let conn := conn.call .stmtStoreResult
      if lib.code conn.log ≠ 0 then (false, conn.fail lib "Error storing result", s.2)
      else (true, conn, { s.2 with isActive := true })

/-- Values are bound only if there are as many as the statement has parameters. -/
def bindAndRun (stmt : Statement) (s : Session) : Bool × Session :=
  if stmt.paramCount = s.2.bindCount then
    let b := bindParameters (s.2.boundValues.take stmt.paramCount) s.2.parameterBindings
    let rs := { s.2 with parameterBindings := b.2 }
    if ¬ b.1 then (false, { s.1 with raised := s.1.raised + 1 }, rs)
    else
      let conn := s.1.call (.stmtBindParam b.2)
      if lib.code conn.log ≠ 0 then (false, conn.fail lib "Error binding values", rs)
      else run lib (conn, rs)
  else run lib s

def execute (s : Session) : Bool × Session :=
  let conn := s.1.call .ping
  if ¬ s.2.preparedQuery then (false, conn, s.2)
  else
    match s.2.stmtHandle with
    | none => (false, conn, s.2)
    | some stmt =>
      let rs := { s.2 with index := SQL_BeforeFirstRow }
      let conn := conn.call .stmtReset
      if lib.code conn.log ≠ 0 then (false, conn.fail lib "Error resetting statement", rs)
      else bindAndRun lib stmt (conn, rs)

/-- The values of the current row; a null cell leaves the cleared old value. -/
def fillValues (rs : TMySQLResultSet) (value : ℕ → ℕ → Option (Option TDBType)) :
    List (Option TDBType) :=
  rs.values.mapIdx fun i old =>
    if i < rs.record.count then
      (value i ((rs.record.fields[i]?).elim 0 (·.fType))).getD (old.map .clear)
    else old

def nextRow (s : Session) : Bool × Session :=
  if s.2.preparedQuery then
    if s.2.stmtHandle.isNone then (false, s)
    else
      let conn := s.1.call .stmtFetch
      if lib.code conn.log ≠ 0 then (false, conn, s.2)
      else
        let fields := s.2.mySQLFields.mapIdx fun i f => f.fetch ((lib.fetched conn.log)[i]?).join
        let value i fType := (fields[i]?).bind fun f =>
          if f.isNull then none else some (bufferValue rt (lib.stray conn.log i) fType f)
        (true, conn, { s.2 with
          mySQLFields := fields, values := s.2.fillValues value, index := s.2.index + 1 })
  else
    match s.2.resultHandle with
    | none => (false, s)
    | some result =>
      match result.rows with
      | [] => (false, s)
      | row :: rows =>
        let value i fType := (row[i]?).join.map (textValue rt fType)
        (true, s.1, { s.2 with
          resultHandle := some { result with rows := rows }, values := s.2.fillValues value,
          index := s.2.index + 1 })

def firstRow (s : Session) : Bool × Session :=
  if s.2.index = SQL_BeforeFirstRow then nextRow lib rt s else (false, s)

end TMySQLResultSet

open TMySQLResultSet

/-- The driver as the core uses it; it frees the statement where the core resets. -/
def driver (lib : Libmariadb) (rt : Runtime) : Driver TDBMariaDB TMySQLResultSet where
  connection conn := conn.checked lib
  setConnection conn base := { conn with toTDBConnection := base }
  base rs := rs.toTQueryResultSet
  setBase rs base := { rs with toTQueryResultSet := base }
  createResultSet := createResultSet
  clear := clear
  free := clear
  prepare := prepare lib
  executeQuery := executeQuery lib
  execute := execute lib
  firstRow := firstRow lib rt
  nextRow := nextRow lib rt
  reset := clear

/-! ### A server -/

/-- A server whose prepared query returns one row; each second fetch finds none. -/
def oneRow : Libmariadb where
  code log := if log.getLast? = some .stmtFetch ∧ log.count .stmtFetch % 2 = 0 then 100 else 0
  stmtInit _ := true
  prepared _ := ⟨0, some [⟨['n'], MYSQL_TYPE_LONG, 0, 11⟩]⟩
  stored _ := .noRows
  fetched _ := [some [1, 0, 0, 0]]
  errno _ := 0
  error _ := []
  fresh _ _ := fun _ => 0
  stray _ _ := 0

/-- A server whose prepared statement has one parameter and returns no rows. -/
def oneParam : Libmariadb where
  code _ := 0
  stmtInit _ := true
  prepared _ := ⟨1, none⟩
  stored _ := .noRows
  fetched _ := []
  errno _ := 0
  error _ := []
  fresh _ _ := fun _ => 0
  stray _ _ := 0

def plain : Runtime :=
  ⟨.integers, unpadded, fun text => text, fun _ => 0, fun _ => 0⟩

/-- A connection that was just opened. -/
def opened : TDBMariaDB := ⟨⟨true, none⟩, 0, []⟩

end DatabaseMod.MariaDriver
