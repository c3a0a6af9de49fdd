import DatabaseMod.OrmParams
import DatabaseMod.StoppingPrograms

/-!
# The operations of the ORM

The operations of `TOrm` and of its data access objects over a driver, which is a parameter.
A query of an operation is its result set on the connection of the ORM. Every attempt to
prepare or to execute a statement is logged with its success.
-/

namespace DatabaseMod.OrmOperations
open SqlTokens (Text)
open CoreValues CoreResultSet CoreQuery OrmModel OrmStatements OrmParams OrmBinding
open StoppingPrograms StoppingPrograms.Program

/-! ### Exceptions -/

structure TOrmDatabaseException extends TOrmException where
  sql : Text
  dbError : TDatabaseError
deriving DecidableEq, Repr

/-- How an operation ends without returning: by an exception, which may also be that of a
method of Null, or in a loop over the rows that has not ended yet. -/
inductive Exit
  | exception (e : TOrmException)
  | databaseException (e : TOrmDatabaseException)
  | nullException
  | looping
deriving DecidableEq, Repr

/-- The exceptions that are a `TOrmException` or derived from it. -/
def Exit.ofOrm : Exit → Bool
  | .exception _ | .databaseException _ => true
  | .nullException | .looping => false

def typeNotFoundException (typeName : Text) : TOrmException :=
  ⟨"Type not found: ".toList ++ typeName⟩

/-! ### Attempts -/

/-- A statement that the core was asked to prepare or to execute, and what it returned. -/
inductive Attempt
  | prepare (sql : Text) (ok : Bool)
  | execute (sql : Text) (ok : Bool)
deriving DecidableEq, Repr

def Attempt.ok : Attempt → Bool
  | .prepare _ ok | .execute _ ok => ok

structure World (C : Type) where
  db : C
  attempts : List Attempt

abbrev Operation (C α : Type) : Type := Program (World C) Exit α

/-- The ORM with what it uses: the driver, of which the core hands two numbers on, the
runtime and the registry of the models. -/
structure TOrm (C RS Slot : Type) where
  driver : Driver C RS
  lastInsertedId : C × RS → ℤ
  rowsAffected : C × RS → ℤ
  nativeErrorMessage : ℤ → Text
  dialect : TOrmDialect
  reflection : Reflection Slot
  conv : Conversions
  objects : Objects
  sameName : Text → Text → Bool
  getModelForName : Text → Option TOrmModel

section

variable {C RS Slot : Type} (o : TOrm C RS Slot)

namespace TOrm

def errorText (e : TDatabaseError) : Text :=
  '(' :: printInteger (errorTypeValue e.errorType) ++ ") ".toList ++ e.error ++ " : ".toList ++
    o.nativeErrorMessage e.errorValue

def createDatabaseException (sql : Text) (dbError : TDatabaseError) (msg : Option Text) :
    TOrmDatabaseException :=
  let msg := msg.getD "Database error".toList
  let msg := if dbError.isSet then msg ++ ": ".toList ++ o.errorText dbError else msg
  let msg := if sql ≠ [] then msg ++ "\nSQL: ".toList ++ sql else msg
  ⟨⟨msg⟩, sql, dbError⟩

/-- The exception with the error of the connection, for which an error object may be made. -/
def queryError (db : C) (sql : Text) (message : Option Text) : TOrmDatabaseException × C :=
  let e := (o.driver.connection db).error
  (o.createDatabaseException sql e.1 message, o.driver.setConnection db e.2)

/-! ### Queries -/

def free (rs : RS) : Operation C Unit := fun s =>
  (.ok (), { s with db := (o.driver.free (s.db, rs)).1 })

def prepareQuery (sql : Text) : Operation C RS := fun s =>
  let rewrittenSql := o.dialect.rewritePlaceholders sql
  let r := o.driver.prepareStatement rewrittenSql (o.driver.opened s.db none)
  let attempts := s.attempts ++ [.prepare rewrittenSql r.1]
  if r.1 then (.ok r.2.2, ⟨r.2.1, attempts⟩)
  else
    let err := o.queryError r.2.1 rewrittenSql none
    (.error (.databaseException err.1), ⟨(o.driver.free (err.2, r.2.2)).1, attempts⟩)

/-- The statement is the one that was prepared. -/
def executeQuery (query : RS) (sql : Text) (msg : Option Text) : Operation C RS := fun s =>
  let r := o.driver.executePrepared (s.db, query)
  let attempts := s.attempts ++ [.execute (o.dialect.rewritePlaceholders sql) r.1]
  if r.1 then (.ok r.2.2, ⟨r.2.1, attempts⟩)
  else
    let err := o.queryError r.2.1 sql msg
    (.error (.databaseException err.1), ⟨(o.driver.free (err.2, r.2.2)).1, attempts⟩)

def nextRow (query : RS) : Operation C (Bool × RS) := fun s =>
  let r := o.driver.fetch (s.db, query)
  (.ok (r.1, r.2.2), { s with db := r.2.1 })

def value (query : RS) (index : ℤ) : Option TDBType := (o.driver.base query).value index

end TOrm

/-- A step without the database, which may throw. -/
def throwing {α : Type} : Except TOrmException α → Operation C α
  | .ok a => pure a
  | .error e => stop (.exception e)

theorem throwing_ok {α : Type} {x : Except TOrmException α} {a : α} (h : x = .ok a) (s : World C) :
    (throwing x : Operation C α) s = (.ok a, s) := by
  rw [h]
  rfl

namespace TOrm

def bound (query : RS) : Except TOrmException TQueryResultSet → Operation C RS
  | .ok base => pure (o.driver.setBase query base)
  | .error e => stop (.exception e)

/-- `BindTo` with the parameters of a call, if it has any. -/
def bindParams (params : Option TOrmParams) (query : RS) : Operation C RS :=
  match params with
  | none => pure query
  | some params =>
    match bindTo o.objects o.conv o.dialect params (some (o.driver.base query)) with
    | none => stop .nullException
    | some base => pure (o.driver.setBase query (base.getD (o.driver.base query)))

/-- What the operations of a model have in common: a statement is prepared, values are bound
to it, and it is executed. -/
def issue (sql : Text) (bind : RS → Operation C RS) (msg : Option Text) : Operation C RS := do
  let query ← o.prepareQuery sql
  let query ← bind query
  o.executeQuery query sql msg

end TOrm

/-! ### Tables -/

namespace TOrm

/-- `ExecuteQuery` of the connection, which returns its query whether that was executed or not. -/
def connectionExecuteQuery (sql : Text) : Operation C Unit := fun s =>
  let db := o.driver.setConnection s.db (o.driver.connection s.db).resetError
  if sql.length > 0 then
    let r := o.driver.executeStatement sql (o.driver.opened db none)
    let attempts := s.attempts ++ [.execute sql r.1]
    if r.1 then
      (.ok (), ⟨o.driver.setConnection r.2.1 (o.driver.connection r.2.1).resetError, attempts⟩)
    else (.ok (), ⟨r.2.1, attempts⟩)
  else (.ok (), { s with db := db })

def createIndexes (m : TOrmModel) : Operation C Unit :=
  m.indexes.forM fun index => o.connectionExecuteQuery (buildCreateIndexSql o.dialect m index)

def createTable (m : TOrmModel) : Operation C Unit := do
  o.connectionExecuteQuery (buildCreateTableSql o.dialect m)
  o.createIndexes m

def createTableForName (typeName : Text) : Operation C Unit :=
  match o.getModelForName typeName with
  | some m => o.createTable m
  | none => stop (.exception (typeNotFoundException typeName))

end TOrm

/-! ### Data access objects -/

namespace TOrm

variable (m : TOrmModel)

/-- The key of the model, without which an operation throws. -/
def keyed (message : String) : Except TOrmException TOrmField :=
  match m.primaryKey with
  | none => .error ⟨message.toList ++ m.typeId.name⟩
  | some primaryKey => .ok primaryKey

/-- A Null object is refused. -/
def given (message : String) (obj : Option (Object Slot)) : Except TOrmException (Object Slot) :=
  match obj with
  | none => .error ⟨message.toList⟩
  | some obj => .ok obj

def readGeneratedId (query : RS) : Operation C (ℤ × RS) :=
  match o.dialect with
  | .sqlite => fun s => (.ok (o.lastInsertedId (s.db, query), query), s)
  | .postgres => do
    let (more, query) ← o.nextRow query
    if more then
      match o.value query 0 with
      | none => stop .nullException
      | some v => pure (v.getLong o.conv, query)
    else stop (.exception ⟨"Insert did not return generated id".toList⟩)

def saveObject (obj : Option (Object Slot)) : Operation C (Object Slot) := do
  let obj ← throwing (given "Cannot save Null object" obj)
  let query ← o.issue (buildInsertSql o.dialect m) (fun query => o.bound query
    (bindInsertValues o.reflection o.dialect m (o.driver.base query) obj))
    (some "Failed to execute insert".toList)
  match m.primaryKey with
  | none =>
    o.free query
    pure obj
  | some primaryKey =>
    if primaryKey.isAuto then
      let (id, query) ← o.readGeneratedId query
      o.free query
      pure (store obj primaryKey (o.reflection.setLong primaryKey.typeField.typeId id))
    else
      o.free query
      pure obj

def updateObject (obj : Option (Object Slot)) : Operation C Unit := do
  let obj ← throwing (given "Cannot update Null object" obj)
  let primaryKey ← throwing (keyed m "Cannot update model without primary key: ")
  let query ← o.issue (buildUpdateSql o.dialect m primaryKey) (fun query => o.bound query do
    let base ← bindUpdateValues o.reflection o.dialect m (o.driver.base query) obj
    bindFieldValue o.reflection o.dialect base obj primaryKey)
    (some "Failed to execute update".toList)
  o.free query

def removeObject (obj : Option (Object Slot)) : Operation C Unit := do
  let obj ← throwing (given "Cannot remove Null object" obj)
  let primaryKey ← throwing (keyed m "Cannot remove model without primary key: ")
  let query ← o.issue (buildDeleteSql o.dialect m primaryKey) (fun query => o.bound query
    (bindFieldValue o.reflection o.dialect (o.driver.base query) obj primaryKey))
    (some "Failed to execute delete".toList)
  o.free query

def objectFromRow (query : RS) : Operation C (Object Slot) :=
  throwing (objectFromCurrentRow o.reflection o.dialect m o.conv fun i => o.value query i)

/-- The object of the first row, if there is one. -/
def firstObject (query : RS) : Operation C (Option (Object Slot)) := do
  let (more, query) ← o.nextRow query
  if more then
    let obj ← o.objectFromRow m query
    o.free query
    pure (some obj)
  else
    o.free query
    pure none

/-- The key that `FindById` is called with. -/
inductive Id
  | int (id : ℤ)
  | long (id : ℤ)
  | string (id : Text)

def Id.add (query : TQueryResultSet) : Id → TQueryResultSet
  | .int id => query.addInt id
  | .long id => query.addLong id
  | .string id => query.addString id

def findByIdObject (id : Id) : Operation C (Option (Object Slot)) := do
  let sql ← throwing (buildFindByIdSql o.dialect m)
  let query ← o.issue sql (fun query => o.bound query (.ok (id.add (o.driver.base query)))) none
  o.firstObject m query

/-- The loop over the rows, up to a number of them. -/
def collect (query : RS) (results : List (Object Slot)) : ℕ → Operation C (List (Object Slot))
  | 0 => stop .looping
  | fuel + 1 => do
    let (more, query) ← o.nextRow query
    if more then
      let obj ← o.objectFromRow m query
      collect query (results ++ [obj]) fuel
    else
      o.free query
      pure results

def populateFindWhere (whereSql : Text) (params : Option TOrmParams)
    (orderBy : List TOrmOrderItem) (limit offset : ℤ) (msg : String) (fuel : ℕ) :
    Operation C (List (Object Slot)) := do
  let sql ← throwing (buildFindWhereSql o.dialect m o.sameName whereSql orderBy limit offset)
  let query ← o.issue sql (o.bindParams params) (some msg.toList)
  o.collect m query [] fuel

def findAll (orderBy : List TOrmOrderItem) (limit offset : ℤ) (fuel : ℕ) :
    Operation C (List (Object Slot)) :=
  o.populateFindWhere m [] none orderBy limit offset "Failed to execute find all" fuel

def findWhere (whereSql : Text) (params : Option TOrmParams) (orderBy : List TOrmOrderItem)
    (limit offset : ℤ) (fuel : ℕ) : Operation C (List (Object Slot)) :=
  o.populateFindWhere m whereSql params orderBy limit offset "Failed to execute find where" fuel

def findOneWhereObject (whereSql : Text) (params : Option TOrmParams) :
    Operation C (Option (Object Slot)) := do
  let sql ← throwing (buildFindWhereSql o.dialect m o.sameName whereSql [] 1 0)
  let query ← o.issue sql (o.bindParams params) (some "Failed to execute find one where".toList)
  o.firstObject m query

def countWhere (whereSql : Text) (params : Option TOrmParams) : Operation C ℤ := do
  let query ← o.issue (buildCountWhereSql o.dialect m whereSql) (o.bindParams params)
    (some "Failed to execute count query".toList)
  let (more, query) ← o.nextRow query
  if more then
    match o.value query 0 with
    | none => stop .nullException
    | some v =>
      o.free query
      pure (v.getLong o.conv)
  else
    o.free query
    pure 0

def existsWhere (whereSql : Text) (params : Option TOrmParams) : Operation C Bool := do
  let query ← o.issue (buildExistsWhereSql o.dialect m whereSql) (o.bindParams params)
    (some "Failed to execute exists query".toList)
  let (more, query) ← o.nextRow query
  o.free query
  pure more

def removeWhere (whereSql : Text) (params : Option TOrmParams) : Operation C ℤ := do
  let query ← o.issue (buildRemoveWhereSql o.dialect m whereSql) (o.bindParams params) none
  let affected ← fun s => (.ok (o.rowsAffected (s.db, query)), s)
  o.free query
  pure affected

end TOrm

end

end DatabaseMod.OrmOperations
