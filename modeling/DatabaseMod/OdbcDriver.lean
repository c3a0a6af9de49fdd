import DatabaseMod.PostgresDriver

/-!
# The ODBC driver

The result set of the ODBC driver over a driver manager, which is a parameter: its answers
may depend on all native calls before. A column of text is read in blocks. A method that is
called on Null raises an exception; the connection counts the exceptions.
-/

namespace DatabaseMod.OdbcDriver
open MachineInteger
open SqlTokens (Text)
open CoreValues CoreResultSet CoreQuery CoreTemporal CoreFormat
open CoreDateParser (DateFields)
open CoreDateTypes (TDBDateTime)
open PostgresDriver (dateValue dateTimeValue timeValue)

/-! ### The driver manager -/

def SQL_SUCCESS : ℤ := 0
def SQL_SUCCESS_WITH_INFO : ℤ := 1
def SQL_NO_DATA : ℤ := 100
def SQL_NULL_DATA : ℤ := -1
def SQL_NO_TOTAL : ℤ := -4

def isSQLError (result : ℤ) : Bool :=
  !(result = SQL_SUCCESS ∨ result = SQL_SUCCESS_WITH_INFO)

structure Column where
  name : Text
  dataType : ℤ
  columnSize : ℤ
deriving DecidableEq, Repr

inductive Param
  | int (value : ℤ)
  | double (bits : UInt64)
  | long (value : ℤ)
  | string (value : Text)
deriving DecidableEq, Repr

/-- Where the driver manager finds the indicator of a parameter: nowhere, or in a variable of the
binding helper, which it did not set and which is gone once it has returned. -/
inductive Indicator
  | absent
  | returned
deriving DecidableEq, Repr

inductive Call
  | freeStmt
  | allocStmt
  | setForwardCursor
  | execute (statement : Text)
  | prepare (statement : Text)
  | bindParameter (position : ℕ) (value : Param) (indicator : Indicator)
  | executePrepared
  | describeCol (position : ℕ)
  | fetchScroll
deriving DecidableEq, Repr

/-- The answers to the last of the calls so far. A column of the current row has no value
where it is null or cannot be had. -/
structure Odbc where
  result : List Call → ℤ
  columns : List Call → List Column
  diagnostic : List Call → Text × ℤ
  int : List Call → ℕ → Option ℤ
  long : List Call → ℕ → Option ℤ
  double : List Call → ℕ → Option UInt64
  parts : List Call → ℕ → Option DateFields
  chars : List Call → ℕ → Option (List UInt8)

/-- The decoder of the runtime's string builder reads what UTF-8 encodes. -/
structure Decoder where
  decode : List UInt8 → Text
  decode_encode : ∀ text : Text, decode (text.flatMap String.utf8EncodeChar) = text

structure Runtime where
  strftime : Strftime
  decoder : Decoder

/-! ### Types -/

def SQL_NUMERIC : ℤ := 2
def SQL_DECIMAL : ℤ := 3
def SQL_INTEGER : ℤ := 4
def SQL_SMALLINT : ℤ := 5
def SQL_FLOAT : ℤ := 6
def SQL_REAL : ℤ := 7
def SQL_DOUBLE : ℤ := 8
def SQL_DATE : ℤ := 9
def SQL_TIME : ℤ := 10
def SQL_TIMESTAMP : ℤ := 11
def SQL_TYPE_DATE : ℤ := 91
def SQL_TYPE_TIME : ℤ := 92
def SQL_TYPE_TIMESTAMP : ℤ := 93
def SQL_BINARY : ℤ := -2
def SQL_VARBINARY : ℤ := -3
def SQL_LONGVARBINARY : ℤ := -4
def SQL_BIGINT : ℤ := -5
def SQL_TINYINT : ℤ := -6
def SQL_BIT : ℤ := -7

def dbTypeFromNative (type : ℤ) : ℕ :=
  if type ∈ [SQL_SMALLINT, SQL_INTEGER, SQL_BIT, SQL_TINYINT] then DBTYPE_INT
  else if type = SQL_BIGINT ∨ type = 65531 then DBTYPE_LONG
  else if type ∈ [SQL_DECIMAL, SQL_NUMERIC, SQL_REAL, SQL_FLOAT, SQL_DOUBLE] then DBTYPE_DOUBLE
  else if type ∈ [SQL_DATE, SQL_TYPE_DATE] then DBTYPE_DATE
  else if type ∈ [SQL_TIME, SQL_TYPE_TIME] then DBTYPE_TIME
  else if type ∈ [SQL_TIMESTAMP, SQL_TYPE_TIMESTAMP] then DBTYPE_DATETIME
  else if type ∈ [SQL_BINARY, SQL_VARBINARY, SQL_LONGVARBINARY] then DBTYPE_BLOB
  else DBTYPE_STRING

/-! ### Texts in blocks -/

/-- What `SQLGetData` answers for characters: its result, the indicator and the buffer. -/
structure Block where
  result : ℤ
  indicator : ℤ
  buffer : List UInt8

/-- The next block of a column with these bytes left, and what is left behind it. -/
def getDataString (bufferSize : ℕ) (left : List UInt8) : Block × List UInt8 :=
  if bufferSize ≤ left.length then
    (⟨SQL_SUCCESS_WITH_INFO, castInt32 left.length, left.take (bufferSize - 1) ++ [0]⟩,
      left.drop (bufferSize - 1))
  else (⟨SQL_SUCCESS, castInt32 left.length, left ++ [0]⟩, [])

/-- The size of the buffer for a declared length, which is `-1` where none is declared. -/
def bufferSize (length : ℤ) : ℕ :=
  if length ≤ 0 then 256 else if length > 65536 then 65536 else length.toNat + 1

theorem two_le_bufferSize (length : ℤ) : 2 ≤ bufferSize length := by
  unfold bufferSize
  split_ifs <;> omega

theorem bufferSize_le (length : ℤ) : bufferSize length ≤ 65537 := by
  unfold bufferSize
  split_ifs <;> omega

/-- The indicator of a block that is not the last one, or does not fit an `Int`. -/
theorem length_of_indicator {length : ℤ} {left : List UInt8}
    (h : ¬ castInt32 left.length < bufferSize length) : bufferSize length ≤ left.length := by
  by_contra hlt
  have hsize := bufferSize_le length
  have hcast : castInt32 left.length = left.length := castInt32_of_mem ⟨by omega, by omega⟩
  omega

/-- The loop of `getStringData` with the text read so far. -/
def readBlocks (decode : List UInt8 → Text) (length : ℤ) (sb : Text) (left : List UInt8) : Text :=
  let indicator := castInt32 left.length
  let r := getDataString (bufferSize length) left
  if indicator = SQL_NULL_DATA ∨ indicator = SQL_NO_TOTAL then sb
  else
    let actualSize := if r.1.result = SQL_SUCCESS_WITH_INFO then bufferSize length
      else indicator.toNat
    let sb := sb ++ decode (r.1.buffer.take actualSize)
    if _h : indicator < bufferSize length then sb else readBlocks decode length sb r.2
termination_by left.length
decreasing_by
  have hsize := two_le_bufferSize length
  have hlong := length_of_indicator _h
  simp only [getDataString, if_pos hlong, List.length_drop]
  omega

def getStringData (decode : List UInt8 → Text) (length : ℤ) (content : List UInt8) : Text :=
  readBlocks decode length [] content

/-! ### Parameters -/

/-- A float is replaced by a double in the array of the bound values. -/
def asDouble : Option TDBType → Option TDBType
  | some v => match v.content with
    | .float bits => some (.setDouble bits)
    | _ => some v
  | none => none

/-- The case of the binding loop for the kind of a value. The helpers of the numbers pass an
indicator for a null only, that of the texts always does. -/
def paramOf (v : TDBType) : Option (Param × Indicator) :=
  let isNull := if v.isNull then .returned else .absent
  match v.content with
  | .integer .int value => some (.int value, isNull)
  | .float bits | .double bits => some (.double bits, isNull)
  | .integer .long value => some (.long value, isNull)
  | .string _ | .temporal _ _ _ => some (.string (cString v.getString), .returned)
  | _ => none

inductive Outcome
  | bound | raised | failed
deriving DecidableEq, Repr

/-- The binding loop from a position on, with the values that it leaves in the array. -/
def bindParameters (odbc : Odbc) (i : ℕ) (log : List Call) :
    List (Option TDBType) → Outcome × List Call × List (Option TDBType)
  | [] => (.bound, log, [])
  | none :: values => (.raised, log, none :: values)
  | some v :: values =>
    match paramOf v with
    | none =>
      let r := bindParameters odbc (i + 1) log values
      (r.1, r.2.1, some v :: r.2.2)
    | some (value, indicator) =>
      let log := log ++ [.bindParameter (i + 1) value indicator]
      if isSQLError (odbc.result log) then (.failed, log, asDouble (some v) :: values)
      else
        let r := bindParameters odbc (i + 1) log values
        (r.1, r.2.1, asDouble (some v) :: r.2.2)

/-! ### Connections and result sets -/

structure TDBODBC extends TDBConnection where
  /-- The number of exceptions so far. -/
  raised : ℕ
  log : List Call
deriving DecidableEq, Repr

namespace TDBODBC

def call (conn : TDBODBC) (c : Call) : TDBODBC := { conn with log := conn.log ++ [c] }

def processError (odbc : Odbc) (conn : TDBODBC) (msg : String) : TDBODBC :=
  let err := odbc.diagnostic conn.log
  { conn with toTDBConnection := conn.toTDBConnection.setError msg.toList err.1 .statement err.2 }

end TDBODBC

structure TODBCResultSet extends TQueryResultSet where
  /-- Whether there is a statement handle. -/
  stmtHandle : Bool
  /-- The declared length of each field of the record. -/
  lengths : List ℤ
deriving DecidableEq, Repr

/-- A connection and one of its result sets. -/
abbrev Session := TDBODBC × TODBCResultSet

namespace TODBCResultSet

def createResultSet (conn : TDBODBC) : Session :=
  (conn, { TQueryResultSet.create with stmtHandle := false, lengths := [] })

variable (odbc : Odbc) (rt : Runtime)

/-- The first lines of `executeQuery` and `prepare`: a new handle in place of the old one. -/
def allocate (s : Session) : Bool × Session :=
  let rs := { s.2 with
    isActive := false, index := SQL_BeforeFirstRow, record := s.2.record.clear, stmtHandle := false }
  let freed := s.1.call .freeStmt
  if s.2.stmtHandle ∧ isSQLError (odbc.result freed.log) then
    (false, freed.processError odbc "Error freeing statement handle", rs)
  else
    let conn := (if s.2.stmtHandle then freed else s.1).call .allocStmt
    if isSQLError (odbc.result conn.log) then
      (false, conn.processError odbc "Error allocating statement handle", rs)
    else
      let rs := { rs with stmtHandle := true }
      let conn := conn.call .setForwardCursor
      if isSQLError (odbc.result conn.log) then
        (false, conn.processError odbc "Error setting cursor type", rs)
      else (true, conn, rs)

/-- The loop over the columns of a result: the fields that were described, and whether all
of them were. -/
def describeColumns (i : ℕ) (log : List Call) : List Column → Bool × List Call × List TQueryField
  | [] => (true, log, [])
  | column :: columns =>
    let log := log ++ [.describeCol (i + 1)]
    if isSQLError (odbc.result log) then (false, log, [])
    else
      let r := describeColumns (i + 1) log columns
      (r.1, r.2.1, ⟨column.name, dbTypeFromNative column.dataType⟩ :: r.2.2)

/-- The last lines of `executeQuery` and `execute`. Fields that could not be described are
not set in the record. -/
def describe (s : Session) : Bool × Session :=
  let columns := odbc.columns s.1.log
  let rs := { s.2 with toTQueryResultSet := s.2.toTQueryResultSet.resetValues columns.length }
  if columns.length = 0 then
    (true, s.1, { rs with record := rs.record.clear, lengths := [], isActive := true })
  else
    let r := describeColumns odbc 0 s.1.log columns
    let conn := { s.1 with log := r.2.1 }
    let fields := r.2.2 ++ List.replicate (columns.length - r.2.2.length) ⟨[], 0⟩
    let rs := { rs with
      record := ⟨fields, false, false⟩,
      lengths := columns.map fun column => if column.columnSize = 0 then -1 else column.columnSize }
    if r.1 then (true, conn, { rs with isActive := true })
    else (false, conn.processError odbc "Error getting column description", rs)

def executeQuery (statement : Text) (s : Session) : Bool × Session :=
  let r := allocate odbc s
  if ¬ r.1 then r
  else
    let conn := r.2.1.call (.execute statement)
    if isSQLError (odbc.result conn.log) then
      (false, conn.processError odbc "Error executing statement", r.2.2)
    else describe odbc (conn, r.2.2)

def prepare (statement : Text) (s : Session) : Bool × Session :=
  let r := allocate odbc s
  if ¬ r.1 then r
  else
    let conn := r.2.1.call (.prepare statement)
    if isSQLError (odbc.result conn.log) then
      (false, conn.processError odbc "Error preparing statement", r.2.2)
    else (true, conn, r.2.2)

/-- The end of `execute`, after the parameters are bound. -/
def run (s : Session) : Bool × Session :=
  let conn := s.1.call .executePrepared
  if isSQLError (odbc.result conn.log) then
    (false, conn.processError odbc "Error executing statement", s.2)
  else describe odbc (conn, s.2)

def execute (s : Session) : Bool × Session :=
  let rs := { s.2 with isActive := false, index := SQL_BeforeFirstRow }
  if ¬ rs.stmtHandle then (false, s.1, rs)
  else
    let r := bindParameters odbc 0 s.1.log (rs.boundValues.take rs.bindCount)
    let conn := { s.1 with log := r.2.1 }
    let rs := { rs with boundValues := r.2.2 ++ rs.boundValues.drop rs.bindCount }
    match r.1 with
    | .raised => (false, { conn with raised := conn.raised + 1 }, rs)
    | .failed => (false, conn.processError odbc "Error binding parameters", rs)
    | .bound => run odbc (conn, rs)

/-- The value of a column of the current row. An empty text is kept as no value. -/
def columnValue (log : List Call) (i fType : ℕ) (length : ℤ) : Option TDBType :=
  if fType = DBTYPE_INT then (odbc.int log i).map .setInt
  else if fType = DBTYPE_LONG then (odbc.long log i).map .setLong
  else if fType = DBTYPE_DOUBLE then (odbc.double log i).map .setDouble
  else if fType = DBTYPE_DATE then
    (odbc.parts log i).bind fun p => (TDBDate.set p.y p.m p.d).bind (dateValue rt.strftime)
  else if fType = DBTYPE_DATETIME then
    (odbc.parts log i).bind fun p =>
      (TDBDateTime.set p.y p.m p.d p.hh p.mm p.ss 0).bind (dateTimeValue rt.strftime)
  else if fType = DBTYPE_TIME then
    (odbc.parts log i).bind fun p => (TDBTime.set p.hh p.mm p.ss 0).bind (timeValue rt.strftime)
  else if fType = DBTYPE_BLOB then none
  else
    (odbc.chars log i).bind fun content =>
      let s := getStringData rt.decoder.decode length content
      if s = [] then none else some (.setString s)

/-- The values of the current row; a column without a value leaves the cleared old one. -/
def fillValues (rs : TODBCResultSet) (log : List Call) : List (Option TDBType) :=
  rs.values.mapIdx fun i old =>
    if i < rs.record.count then
      (columnValue odbc rt log i ((rs.record.fields[i]?).elim 0 (·.fType))
        (rs.lengths.getD i (-1))).or (old.map .clear)
    else old

def nextRow (s : Session) : Bool × Session :=
  if ¬ s.2.stmtHandle then (false, s)
  else
    let conn := s.1.call .fetchScroll
    let result := odbc.result conn.log
    if isSQLError result then
      (false, if result = SQL_NO_DATA then conn else conn.processError odbc "Error fetching row", s.2)
    else
      (true, conn, { s.2 with values := s.2.fillValues odbc rt conn.log, index := s.2.index + 1 })

def firstRow (s : Session) : Bool × Session :=
  if s.2.index = SQL_BeforeFirstRow then nextRow odbc rt s else (false, s)

end TODBCResultSet

open TODBCResultSet

/-- The driver as the core uses it; the core's `reset` does nothing. -/
def driver (odbc : Odbc) (rt : Runtime) : Driver TDBODBC TODBCResultSet where
  connection conn := conn.toTDBConnection
  setConnection conn base := { conn with toTDBConnection := base }
  base rs := rs.toTQueryResultSet
  setBase rs base := { rs with toTQueryResultSet := base }
  createResultSet := createResultSet
  clear s := (s.1, { s.2 with toTQueryResultSet := s.2.toTQueryResultSet.clearBindValues })
  free s := (s.1, { s.2 with toTQueryResultSet := s.2.toTQueryResultSet.clearBindValues })
  prepare := prepare odbc
  executeQuery := executeQuery odbc
  execute := execute odbc
  firstRow := firstRow odbc rt
  nextRow := nextRow odbc rt
  reset s := s

end DatabaseMod.OdbcDriver
