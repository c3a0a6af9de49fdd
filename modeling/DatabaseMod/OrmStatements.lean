import DatabaseMod.OrmModel
import DatabaseMod.OrmPostgresPlaceholders

/-!
# Dialects and the statements they generate

The SQLite and PostgreSQL dialects and the string builders of the mapper. The builders
append to one text in the order of the source; their list loops share one shape, a
separator before every element but the first.
-/

namespace DatabaseMod.OrmStatements
open SqlTokens (Text quoted separated trim)
open OrmModel

/-! ### Dialects -/

inductive TOrmDialect
  | sqlite
  | postgres
deriving DecidableEq, Repr

namespace TOrmDialect

/-- Both dialects double the double quotes of the name. -/
def quoteIdentifier (_ : TOrmDialect) (name : Text) : Text := quoted name

def sqliteTypeForField (fld : TOrmField) : Text :=
  if fld.isJson then "TEXT".toList
  else if fld.isBool then "INTEGER".toList
  else if fld.isEnum ∧ fld.isEnumString then "TEXT".toList
  else
    -- other enums are looked up by their own type, which is none of the base types
    match fld.typeField.typeId with
    | .byteTypeId | .shortTypeId | .intTypeId | .longTypeId | .uintTypeId | .sizeTTypeId
    | .longIntTypeId => "INTEGER".toList
    | .floatTypeId | .doubleTypeId => "REAL".toList
    | _ => "TEXT".toList

def postgresTypeForField (fld : TOrmField) : Text :=
  if fld.isJson then "JSONB".toList
  else if fld.isBool then "BOOLEAN".toList
  else if fld.isEnum ∧ fld.isEnumString then "TEXT".toList
  else
    match fld.typeField.typeId with
    | .byteTypeId => "SMALLINT".toList
    | .shortTypeId | .intTypeId => "INTEGER".toList
    | .longTypeId | .longIntTypeId | .uintTypeId => "BIGINT".toList
    | .sizeTTypeId | .ulongTypeId | .ulongIntTypeId => "DECIMAL(20,0)".toList
    | .floatTypeId => "REAL".toList
    | .doubleTypeId => "DOUBLE PRECISION".toList
    | _ => "TEXT".toList

def sqlTypeForField : TOrmDialect → TOrmField → Text
  | .sqlite => sqliteTypeForField
  | .postgres => postgresTypeForField

def autoGeneratedPrimaryKeyType : TOrmDialect → TOrmField → Text
  | .sqlite, _ => "INTEGER PRIMARY KEY AUTOINCREMENT".toList
  | .postgres, _ => "BIGINT GENERATED BY DEFAULT AS IDENTITY PRIMARY KEY".toList

def placeholder : TOrmDialect → ℕ → Text
  | .sqlite, _ => ['?']
  | .postgres, index => '$' :: Nat.toDigits 10 index

def rewritePlaceholders : TOrmDialect → Text → Text
  | .sqlite, sql => sql
  | .postgres, sql => OrmPostgresPlaceholders.rewritePlaceholders sql

def insertReturningClause : TOrmDialect → TOrmModel → Text
  | .sqlite, _ => []
  | .postgres, m =>
    match m.primaryKey with
    | some primaryKey =>
      if primaryKey.isAuto then
        " RETURNING ".toList ++ quoteIdentifier .postgres primaryKey.name
      else []
    | none => []

end TOrmDialect

/-! ### Statement builders -/

/-- A builder loop: skipped elements leave the text alone, others are separated by
commas and see the number of elements appended before them. -/
def appendLoop {α : Type*} (skip : α → Bool) (element : ℕ → α → Text) (sql : Text) (count : ℕ) :
    List α → Text × ℕ
  | [] => (sql, count)
  | x :: l =>
    if skip x then appendLoop skip element sql count l
    else appendLoop skip element
      ((if count > 0 then sql ++ ", ".toList else sql) ++ element count x) (count + 1) l

theorem appendLoop_succ {α : Type*} (skip : α → Bool) (element : ℕ → α → Text) (sql : Text)
    (count : ℕ) (l : List α) :
    appendLoop skip element sql (count + 1) l =
      (sql ++ ((l.filter (!skip ·)).mapIdx fun i x => element (count + 1 + i) x).flatMap
          (", ".toList ++ ·),
        count + 1 + (l.filter (!skip ·)).length) := by
  induction l generalizing sql count with
  | nil => simp [appendLoop]
  | cons x l ih =>
    rw [appendLoop]
    by_cases hx : skip x = true
    · simp [ih, hx]
    · have hidx (i : ℕ) : count + 1 + 1 + i = count + 1 + (i + 1) := by omega
      rw [if_neg hx, if_pos (Nat.succ_pos count), ih, List.filter_cons_of_pos (by simpa using hx)]
      simp [List.mapIdx_cons, hidx]

/-- The loop appends the kept elements, separated, and counts them. -/
theorem appendLoop_eq {α : Type*} (skip : α → Bool) (element : ℕ → α → Text) (sql : Text)
    (l : List α) :
    appendLoop skip element sql 0 l =
      (sql ++ separated ", ".toList ((l.filter (!skip ·)).mapIdx element),
        (l.filter (!skip ·)).length) := by
  induction l with
  | nil => simp [appendLoop, separated]
  | cons x l ih =>
    rw [appendLoop]
    by_cases hx : skip x = true
    · simp [ih, hx]
    · rw [if_neg hx, if_neg (lt_irrefl 0), appendLoop_succ,
        List.filter_cons_of_pos (by simpa using hx)]
      simp [List.mapIdx_cons, separated, Nat.add_comm 1]

variable (d : TOrmDialect) (m : TOrmModel)

def columnDefinition (fld : TOrmField) : Text :=
  let sql := d.quoteIdentifier fld.columnName ++ " ".toList
  if fld.isPrimaryKey ∧ fld.isAuto then sql ++ d.autoGeneratedPrimaryKeyType fld
  else
    let sql := sql ++ d.sqlTypeForField fld
    let sql := if fld.isPrimaryKey then sql ++ " PRIMARY KEY".toList else sql
    let sql := if ¬ fld.nullable ∧ ¬ fld.isPrimaryKey then sql ++ " NOT NULL".toList else sql
    if fld.isUnique then sql ++ " UNIQUE".toList else sql

def buildCreateTableSql : Text :=
  let sql := "CREATE TABLE IF NOT EXISTS ".toList ++ d.quoteIdentifier m.tableName ++ " (".toList
  (appendLoop (fun _ => false) (fun _ => columnDefinition d) sql 0 m.fields).1 ++ ")".toList

def buildCreateIndexSql (index : TOrmIndex) : Text :=
  let sql := "CREATE ".toList
  let sql := if index.isUnique then sql ++ "UNIQUE ".toList else sql
  let sql := sql ++ "INDEX IF NOT EXISTS ".toList ++ d.quoteIdentifier index.name ++
    " ON ".toList ++ d.quoteIdentifier m.tableName ++ " (".toList
  (appendLoop (fun _ => false) (fun _ fld => d.quoteIdentifier fld.columnName) sql 0
    index.fields).1 ++ ")".toList

def shouldSkipInsertField (fld : TOrmField) : Bool := fld.isPrimaryKey && fld.isAuto

def shouldSkipUpdateField (fld : TOrmField) : Bool := fld.isPrimaryKey

def buildInsertSql : Text :=
  let sql := "INSERT INTO ".toList ++ d.quoteIdentifier m.tableName ++ " (".toList
  let columns := appendLoop shouldSkipInsertField (fun _ fld => d.quoteIdentifier fld.columnName)
    sql 0 m.fields
  let sql := columns.1 ++ ") VALUES (".toList
  let values := appendLoop (fun _ => false) (fun i _ => d.placeholder (i + 1)) sql 0
    (List.range columns.2)
  values.1 ++ ")".toList ++ d.insertReturningClause m

/-- `primaryKey` is the key of the model, whose presence `UpdateObject` checks first. -/
def buildUpdateSql (primaryKey : TOrmField) : Text :=
  let sql := "UPDATE ".toList ++ d.quoteIdentifier m.tableName ++ " SET ".toList
  let columns := appendLoop shouldSkipUpdateField
    (fun count fld =>
      d.quoteIdentifier fld.columnName ++ " = ".toList ++ d.placeholder (count + 1))
    sql 0 m.fields
  columns.1 ++ " WHERE ".toList ++ d.quoteIdentifier primaryKey.columnName ++ " = ".toList ++
    d.placeholder (columns.2 + 1)

/-- As for `buildUpdateSql`, the presence of the key is checked by `RemoveObject`. -/
def buildDeleteSql (primaryKey : TOrmField) : Text :=
  "DELETE FROM ".toList ++ d.quoteIdentifier m.tableName ++ " WHERE ".toList ++
    d.quoteIdentifier primaryKey.columnName ++ " = ".toList ++ d.placeholder 1

def buildSelectColumnList : Text :=
  (appendLoop (fun _ => false) (fun _ fld => d.quoteIdentifier fld.columnName) [] 0 m.fields).1

def buildFindByIdSql : Except TOrmException Text :=
  match m.primaryKey with
  | none => .error ⟨"Cannot find model without primary key: ".toList ++ m.typeId.name⟩
  | some primaryKey => .ok <|
    "SELECT ".toList ++ buildSelectColumnList d m ++ " FROM ".toList ++
      d.quoteIdentifier m.tableName ++ " WHERE ".toList ++
      d.quoteIdentifier primaryKey.columnName ++ " = ".toList ++ d.placeholder 1

structure TOrmOrderItem where
  fieldName : Text
  ascending : Bool

def orderItemSql (sameName : Text → Text → Bool) (item : TOrmOrderItem) :
    Except TOrmException Text :=
  match m.fieldByName sameName item.fieldName with
  | none => .error ⟨"Unknown order field: ".toList ++ item.fieldName⟩
  | some fld => .ok <|
    d.quoteIdentifier fld.columnName ++ if item.ascending then " ASC".toList else " DESC".toList

/-- A missing order is one without items. -/
def buildOrderBySql (sameName : Text → Text → Bool) (order : List TOrmOrderItem) :
    Except TOrmException Text :=
  if order.length = 0 then .ok []
  else do
    let items ← order.mapM (orderItemSql d m sameName)
    .ok (appendLoop (fun _ => false) (fun _ item => item) " ORDER BY ".toList 0 items).1

def whereClause (whereSql : Text) : Text :=
  if whereSql ≠ [] ∧ trim whereSql ≠ [] then " WHERE ".toList ++ whereSql else []

def orderClause (sameName : Text → Text → Bool) (orderBy : List TOrmOrderItem) :
    Except TOrmException Text :=
  if orderBy.length > 0 then buildOrderBySql d m sameName orderBy else .ok []

def limitClause (limit offset : ℤ) : Text :=
  if limit > 0 then
    " LIMIT ".toList ++ Nat.toDigits 10 limit.toNat ++
      if offset > 0 then " OFFSET ".toList ++ Nat.toDigits 10 offset.toNat else []
  else []

def buildFindWhereSql (sameName : Text → Text → Bool) (whereSql : Text)
    (orderBy : List TOrmOrderItem) (limit offset : ℤ) : Except TOrmException Text := do
  let order ← orderClause d m sameName orderBy
  .ok ("SELECT ".toList ++ buildSelectColumnList d m ++ " FROM ".toList ++
    d.quoteIdentifier m.tableName ++ whereClause whereSql ++ order ++ limitClause limit offset)

def buildCountWhereSql (whereSql : Text) : Text :=
  "SELECT COUNT(*) FROM ".toList ++ d.quoteIdentifier m.tableName ++ whereClause whereSql

def buildExistsWhereSql (whereSql : Text) : Text :=
  "SELECT 1 FROM ".toList ++ d.quoteIdentifier m.tableName ++ whereClause whereSql

def buildRemoveWhereSql (whereSql : Text) : Text :=
  "DELETE FROM ".toList ++ d.quoteIdentifier m.tableName ++ whereClause whereSql

end DatabaseMod.OrmStatements
