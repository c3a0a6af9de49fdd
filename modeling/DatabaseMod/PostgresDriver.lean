import DatabaseMod.CoreFormat
import DatabaseMod.CoreQuery
import DatabaseMod.LittleEndian

/-!
# The PostgreSQL driver

The result set of the PostgreSQL driver over libpq, which is a parameter: it answers each
native call by a result, or by none, that may depend on all calls before it. The bytes of
a cell are kept as characters, as `String.fromBytes` makes them.
-/

namespace DatabaseMod.PostgresDriver
open SqlTokens (Text)
open CoreValues CoreResultSet CoreQuery CoreTemporal CoreFormat
open CoreDateTypes (TDBDateTime)
open LittleEndian (bytesOf)

/-! ### libpq -/

structure Column where
  name : Text
  ftype : ℕ
deriving DecidableEq, Repr

structure Tuples where
  columns : List Column
  rows : List (List (Option Text))
deriving DecidableEq, Repr

inductive PGresult
  | commandOk
  | tuplesOk (tuples : Tuples)
  | failed
deriving DecidableEq, Repr

namespace PGresult

/-- `PQgetvalue`, or nothing where `PQgetisnull` says so. -/
def cell : PGresult → ℕ → ℕ → Option Text
  | .tuplesOk tuples, row, i => (tuples.rows[row]?.bind (·[i]?)).join
  | _, _, _ => none

def columns : PGresult → List Column
  | .tuplesOk tuples => tuples.columns
  | _ => []

end PGresult

/-- A parameter of a prepared statement. -/
inductive Param
  | null
  | text (value : Text)
  | binary (data : List UInt8)
deriving DecidableEq, Repr

inductive Call
  | exec (statement : Text)
  | prepare (name statement : Text)
  | execPrepared (name : Text) (nParams : ℕ) (params : List Param)
deriving DecidableEq, Repr

/-- The answer to the last of the calls so far, and the state of the connection after them. -/
structure Libpq where
  answer : List Call → Option PGresult
  connected : List Call → Bool
  errorMessage : List Call → Text
  /-- The data of `PQunescapeBytea`, which stores their length at the address it is given. -/
  unescapeBytea : Text → List UInt8
  /-- The bytes of a `size_t`: eight, or four where addresses have 32 bits. -/
  sizeT : ℕ

/-- The runtime's conversions, and the C library's `strftime`. -/
structure Runtime where
  conv : Conversions
  strftime : Strftime
  fromFloat : UInt64 → Text
  fromDouble : UInt64 → Text
  fromUTF8 : Text → Text

/-! ### Type identifiers -/

def BOOLOID : ℕ := 16
def INT2OID : ℕ := 21
def INT4OID : ℕ := 23
def VOIDOID : ℕ := 2278
def REGPROCOID : ℕ := 24
def XIDOID : ℕ := 28
def CIDOID : ℕ := 29
def INT8OID : ℕ := 20
def FLOAT4OID : ℕ := 700
def FLOAT8OID : ℕ := 701
def NUMERICOID : ℕ := 1700
def ABSTIMEOID : ℕ := 702
def RELTIMEOID : ℕ := 703
def DATEOID : ℕ := 1082
def TIMEOID : ℕ := 1083
def TIMETZOID : ℕ := 1266
def TIMESTAMPOID : ℕ := 1114
def TIMESTAMPTZOID : ℕ := 1184
def BYTEAOID : ℕ := 17

def dbTypeFromNative (dtype : ℕ) : ℕ :=
  if dtype = BOOLOID then DBTYPE_BOOL
  else if dtype ∈ [INT2OID, INT4OID, VOIDOID, REGPROCOID, XIDOID, CIDOID] then DBTYPE_INT
  else if dtype = INT8OID then DBTYPE_LONG
  else if dtype = FLOAT4OID then DBTYPE_FLOAT
  else if dtype = NUMERICOID then DBTYPE_DECIMAL
  else if dtype = FLOAT8OID then DBTYPE_DOUBLE
  else if dtype = DATEOID then DBTYPE_DATE
  else if dtype ∈ [TIMEOID, TIMETZOID] then DBTYPE_TIME
  else if dtype ∈ [TIMESTAMPOID, TIMESTAMPTZOID, ABSTIMEOID, RELTIMEOID] then DBTYPE_DATETIME
  else if dtype = BYTEAOID then DBTYPE_BLOB
  else DBTYPE_STRING

theorem dbTypeFromNative_eq_blob_iff (dtype : ℕ) :
    dbTypeFromNative dtype = DBTYPE_BLOB ↔ dtype = BYTEAOID := by
  constructor
  · contrapose
    intro hne
    unfold dbTypeFromNative
    split_ifs <;> decide
  · rintro rfl
    rfl

/-! ### Values -/

/-- The objects of the core with the texts that they format to. -/
def dateValue (c : Strftime) (t : TDBDate) : Option TDBType :=
  (TDBDate.format c t).map fun text =>
    ⟨.temporal .date ⟨t.year, t.month, t.day, 0, 0, 0, 0⟩ text, t.isNull⟩

def dateTimeValue (c : Strftime) (t : TDBDateTime) : Option TDBType :=
  (TDBDateTime.format c t).map fun text =>
    ⟨.temporal .dateTime ⟨t.year, t.month, t.day, t.hour, t.minute, t.second, t.microsecond⟩ text,
      t.isNull⟩

def timeValue (c : Strftime) (t : TDBTime) : Option TDBType :=
  (TDBTime.format c t).map fun text =>
    ⟨.temporal .time ⟨1900, 1, 1, t.hour, t.minute, t.second, t.microsecond⟩ text, t.isNull⟩

theorem dateValue_eq (c : Strftime) {t : TDBDate} (hyear : 1 ≤ t.year ∧ t.year ≤ 2147483648) :
    ∃ text, dateValue c t =
      some ⟨.temporal .date ⟨t.year, t.month, t.day, 0, 0, 0, 0⟩ text, t.isNull⟩ := by
  obtain ⟨text, htext⟩ := @formatDate_isSome t.year c dateFormat ⟨by omega, by omega⟩
    t.month t.day 0 0 0 0
  exact ⟨text, Option.map_eq_some_iff.mpr ⟨text, htext, rfl⟩⟩

theorem dateTimeValue_eq (c : Strftime) {t : TDBDateTime}
    (hyear : 1 ≤ t.year ∧ t.year ≤ 2147483648) :
    ∃ text, dateTimeValue c t = some ⟨.temporal .dateTime
      ⟨t.year, t.month, t.day, t.hour, t.minute, t.second, t.microsecond⟩ text, t.isNull⟩ := by
  obtain ⟨text, htext⟩ := @formatDate_isSome t.year c dateTimeFormat ⟨by omega, by omega⟩
    t.month t.day t.hour t.minute t.second t.microsecond
  exact ⟨text, Option.map_eq_some_iff.mpr ⟨text, htext, rfl⟩⟩

theorem timeValue_eq (c : Strftime) (t : TDBTime) : ∃ text, timeValue c t =
    some ⟨.temporal .time ⟨1900, 1, 1, t.hour, t.minute, t.second, t.microsecond⟩ text,
      t.isNull⟩ := by
  obtain ⟨text, htext⟩ := @formatDate_isSome 1900 c timeFormat (by decide) 1 1
    t.hour t.minute t.second t.microsecond
  exact ⟨text, Option.map_eq_some_iff.mpr ⟨text, htext, rfl⟩⟩

/-- The value that `nextRow` makes from a cell. -/
def columnValue (pq : Libpq) (rt : Runtime) (fType dtype : ℕ) (text : Text) : Option TDBType :=
  if fType = DBTYPE_INT then
    if dtype = BOOLOID then some (.setInt (if text = ['t'] then 1 else 0))
    else some (.setInt (rt.conv.toInt text))
  else if fType = DBTYPE_LONG then some (.setLong (rt.conv.toLong text))
  else if fType = DBTYPE_UINT then some ⟨.integer .uint (rt.conv.toUInt text), false⟩
  else if fType = DBTYPE_ULONG then some ⟨.integer .ulong (rt.conv.toULong text), false⟩
  else if fType = DBTYPE_FLOAT then some (.setFloat (rt.conv.toFloat text))
  else if fType = DBTYPE_DOUBLE then some (.setDouble (rt.conv.toDouble text))
  else if fType = DBTYPE_DATE then (TDBDate.setFromString text).bind (dateValue rt.strftime)
  else if fType = DBTYPE_DATETIME then
    (TDBDateTime.setFromString text).bind (dateTimeValue rt.strftime)
  else if fType = DBTYPE_TIME then (TDBTime.setFromString text).bind (timeValue rt.strftime)
  else if fType = DBTYPE_DECIMAL then some ⟨.decimal (some (rt.conv.decimalOfText text)), false⟩
  else if fType = DBTYPE_BLOB then some (.setBlob (pq.unescapeBytea text))
  else some (.setString (rt.fromUTF8 text))

/-- The bytes that the read of a cell leaves behind the local `fieldLength`. It is an `Int` of four
bytes, and the length of a `bytea` is stored there as a `size_t`. -/
def cellOverrun (pq : Libpq) (fType : ℕ) (text : Text) : List UInt8 :=
  if fType = DBTYPE_BLOB then (bytesOf pq.sizeT (pq.unescapeBytea text).length).drop 4 else []

theorem cellOverrun_eq_nil_iff (pq : Libpq) (dtype : ℕ) (text : Text) :
    cellOverrun pq (dbTypeFromNative dtype) text = [] ↔ (dtype = BYTEAOID → pq.sizeT ≤ 4) := by
  rw [cellOverrun, ← dbTypeFromNative_eq_blob_iff]
  split_ifs with hblob
  · simp [hblob]
  · simp [hblob]

/-- `clear` of a value that `nextRow` made. Its blobs have a block of memory, the empty ones too. -/
def clearValue (v : TDBType) : TDBType :=
  match v.content with
  | .blob _ => ⟨.blob [], true⟩
  | _ => v.clear

/-- The entry of the binding loop for a value. An empty blob has no block of memory. -/
def paramOf (rt : Runtime) : Option TDBType → Param
  | none => .null
  | some v =>
    if v.isNull then .null
    else match v.content with
      | .integer .bool value => .text (if value ≠ 0 then ['t'] else ['f'])
      | .integer _ value => .text (cString (printInteger value))
      | .float bits => .text (cString (rt.fromFloat bits))
      | .double bits => .text (cString (rt.fromDouble bits))
      | .blob [] => .null
      | .blob (b :: data) => .binary (b :: data)
      | .temporal _ _ text => .text (cString text)
      | .string _ | .decimal _ => .text (cString v.getString)

/-! ### Connections and result sets -/

structure TDBPostgreSQL extends TDBConnection where
  /-- The number of result sets created so far. -/
  created : ℕ
  log : List Call
deriving DecidableEq, Repr

namespace TDBPostgreSQL

def call (conn : TDBPostgreSQL) (c : Call) : TDBPostgreSQL := { conn with log := conn.log ++ [c] }

def setError (conn : TDBPostgreSQL) (error : String) (append : Text) : TDBPostgreSQL :=
  { conn with toTDBConnection := conn.toTDBConnection.setError error.toList append .statement 0 }

/-- `isOpen` also looks at the status of the connection, and keeps a bad one. -/
def checked (pq : Libpq) (conn : TDBPostgreSQL) : TDBConnection :=
  { conn.toTDBConnection with isOpen := conn.isOpen && pq.connected conn.log }

end TDBPostgreSQL

structure TPostgreSQLResultSet extends TQueryResultSet where
  id : ℕ
  pgResult : Option PGresult
  queryRows : ℤ
  /-- An absent name is an empty one. -/
  preparedStatementName : Text
  /-- The `dtype` of each field of the record. -/
  dtypes : List ℕ
  /-- What was written behind the locals of `nextRow`. The values are as if nothing read it. -/
  overwritten : List UInt8
deriving DecidableEq, Repr

/-- A connection and one of its result sets. -/
abbrev Session := TDBPostgreSQL × TPostgreSQLResultSet

namespace TPostgreSQLResultSet

def createResultSet (conn : TDBPostgreSQL) : Session :=
  let rs : TPostgreSQLResultSet :=
    { TQueryResultSet.create with
      id := conn.created, pgResult := none, queryRows := 0, preparedStatementName := [],
      dtypes := [], overwritten := [] }
  ({ conn with created := conn.created + 1 }, rs)

section

variable (rs : TPostgreSQLResultSet)

def clearResultSet : TPostgreSQLResultSet := { rs with pgResult := none }

def cleanup : TPostgreSQLResultSet :=
  { rs.clearResultSet with index := SQL_BeforeFirstRow, isActive := false, queryRows := -1 }

/-- The record is made anew for every result that is not an error. -/
def describe (columns : List Column) : TPostgreSQLResultSet :=
  let record := if columns.length = 0 then rs.record.clear
    else ⟨columns.map fun column => ⟨column.name, dbTypeFromNative column.ftype⟩, false, false⟩
  let rs := { rs with toTQueryResultSet := rs.toTQueryResultSet.resetValues columns.length }
  { rs with record := record, dtypes := columns.map (·.ftype) }

/-- The result of a statement that returns rows. -/
def received (tuples : Tuples) : TPostgreSQLResultSet :=
  let rs := { rs with pgResult := some (.tuplesOk tuples), queryRows := (tuples.rows.length : ℤ) }
  rs.describe tuples.columns

/-- The result of a statement without rows is not kept. -/
def completed : TPostgreSQLResultSet :=
  ({ rs with pgResult := some .commandOk }.describe []).cleanup

/-- The current row; a null cell leaves the cleared old value. -/
def fillValues (pq : Libpq) (rt : Runtime) (row : ℕ) : List (Option TDBType) :=
  rs.values.mapIdx fun i old =>
    if i < rs.record.count then
      match rs.pgResult.bind (·.cell row i) with
      | none => old.map clearValue
      | some text =>
        columnValue pq rt ((rs.record.fields[i]?).elim 0 (·.fType)) (rs.dtypes.getD i 0) text
    else old

def overrun (pq : Libpq) (row : ℕ) : List UInt8 :=
  rs.record.fields.zipIdx.flatMap fun (field, i) =>
    match rs.pgResult.bind (·.cell row i) with
    | none => []
    | some text => cellOverrun pq field.fType text

end

variable (pq : Libpq) (rt : Runtime)

def executeQuery (statement : Text) (s : Session) : Bool × Session :=
  let conn : TDBPostgreSQL := { s.1 with toTDBConnection := s.1.checked pq }
  if ¬ conn.isOpen then (false, conn, s.2)
  else
    let rs := s.2.cleanup
    let conn := conn.call (.exec statement)
    match pq.answer conn.log with
    | none => (false, conn, rs.cleanup)
    | some .failed =>
      (false, conn.setError "Error executing statement" (pq.errorMessage conn.log), rs.cleanup)
    | some .commandOk => (true, conn, rs.completed)
    | some (.tuplesOk tuples) => (true, conn, { rs.received tuples with isActive := true })

/-- The name of the prepared statement is made once and released before it is used again. -/
def releaseName (s : Session) : Session :=
  if s.2.preparedStatementName = [] then
    (s.1, { s.2 with preparedStatementName := "prep".toList ++ Nat.toDigits 10 s.2.id })
  else
    let statement := "DEALLOCATE ".toList ++ '"' :: s.2.preparedStatementName ++ ['"']
    let r := executeQuery pq statement s
    (r.2.1, r.2.2.cleanup)

def prepare (statement : Text) (s : Session) : Bool × Session :=
  let rs := s.2.cleanup
  if statement.length = 0 then (false, s.1, rs)
  else
    let s := releaseName pq (s.1, rs)
    let conn := s.1.call (.prepare s.2.preparedStatementName statement)
    match pq.answer conn.log with
    | none => (false, conn, { s.2 with pgResult := none })
    | some .commandOk => (true, conn, { s.2 with pgResult := some .commandOk })
    | some _ =>
      (false, conn.setError "Error preparing statement" (pq.errorMessage conn.log), s.2.cleanup)

/-- Every value of the array is sent, however many of them are current. -/
def execute (s : Session) : Bool × Session :=
  let rs := s.2.cleanup
  let params := rs.boundValues.map (paramOf rt)
  let conn := s.1.call (.execPrepared rs.preparedStatementName params.length params)
  match pq.answer conn.log with
  | none => (false, conn.setError "Error executing prepared statement" [], rs.cleanup)
  | some .failed =>
    (false, conn.setError "Error executing prepared statement" (pq.errorMessage conn.log),
      rs.cleanup)
  | some .commandOk => (true, conn, rs.completed)
  | some (.tuplesOk tuples) =>
    let rs := rs.received tuples
    (true, conn, if rs.queryRows < 1 then rs.cleanup else { rs with isActive := true })

def nextRow (s : Session) : Bool × Session :=
  let rs := s.2
  if ¬ rs.isActive then (false, s.1, rs.cleanup)
  else if rs.index ≥ rs.queryRows - 1 then (false, s.1, rs.cleanup)
  else
    let row := (rs.index + 1).toNat
    let rs := { rs with
      values := rs.fillValues pq rt row, index := rs.index + 1,
      overwritten := rs.overwritten ++ rs.overrun pq row }
    (true, s.1, if rs.index ≥ rs.queryRows - 1 then rs.clearResultSet else rs)

def firstRow (s : Session) : Bool × Session :=
  if s.2.index = SQL_BeforeFirstRow then nextRow pq rt s else (false, s)

end TPostgreSQLResultSet

open TPostgreSQLResultSet

/-- The driver as the core uses it; the core's `reset` does nothing. -/
def driver (pq : Libpq) (rt : Runtime) : Driver TDBPostgreSQL TPostgreSQLResultSet where
  connection conn := conn.checked pq
  setConnection conn base := { conn with toTDBConnection := base }
  base rs := rs.toTQueryResultSet
  setBase rs base := { rs with toTQueryResultSet := base }
  createResultSet := createResultSet
  clear s := (s.1, { s.2 with toTQueryResultSet := s.2.toTQueryResultSet.clearBindValues })
  free s := (s.1, { s.2 with toTQueryResultSet := s.2.toTQueryResultSet.clearBindValues })
  prepare := prepare pq
  executeQuery := executeQuery pq
  execute := execute pq rt
  firstRow := firstRow pq rt
  nextRow := nextRow pq rt
  reset s := s

end DatabaseMod.PostgresDriver
