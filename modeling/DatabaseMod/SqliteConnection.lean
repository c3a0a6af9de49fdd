import DatabaseMod.SqliteRecord

/-!
# A SQLite connection and all of its result sets

Result sets are objects that their queries and the registry of the connection share. Here
they stand in one list, in the order of their creation, and a result set is named by its
place.
-/

namespace DatabaseMod.SqliteConnection
open SqlTokens (Text)
open CoreValues CoreResultSet CoreQuery SqlEngine SqliteDriver

structure Store where
  conn : TDBSQLite
  sets : List TSQLiteResultSet
  /-- The length of the log at each closing of the database. -/
  closedAt : List ℕ
deriving DecidableEq, Repr

namespace Store

variable (e : Engine) (conv : Conversions) (s : Store)

/-- A connection object that was just made. -/
def create : Store := ⟨⟨⟨false, none⟩, [none, none], 0, []⟩, [], []⟩

/-- An operation on one result set. -/
def on (id : ℕ) (f : Session → Session) : Store :=
  match s.sets[id]? with
  | none => s
  | some rs =>
    let r := f (s.conn, rs)
    { s with conn := r.1, sets := s.sets.set id r.2 }

def createResultSet : Store :=
  let r := TSQLiteResultSet.createResultSet s.conn
  { s with conn := r.1, sets := s.sets ++ [r.2] }

/-- The result set in slot `i` of the registry is freed. -/
def clearSlot (i : ℕ) : Store :=
  match s.conn.queries[i]? with
  | some (some id) => s.on id TSQLiteResultSet.free
  | _ => s

def clearQueries : Store :=
  (List.range s.conn.queries.length).foldl (fun s i => s.clearSlot i) s

def resetQueries : Store :=
  s.conn.queries.foldl (fun s q => q.elim s fun id => s.on id (TSQLiteResultSet.reset e)) s

def setConnection (base : TDBConnection) : Store :=
  { s with conn := { s.conn with toTDBConnection := base } }

/-- `failed` is whether closing the database was answered with an error. -/
def close (failed : Bool) : Store :=
  let s := s.clearQueries
  if s.conn.isOpen then
    let base := s.conn.toTDBConnection
    let base := if failed then base.setError "Error closing database".toList [] .connection 0 else base
    { s.setConnection { base with isOpen := false } with
      closedAt := s.closedAt ++ [s.conn.log.length] }
  else s

/-- The two parameters are the answers to closing an open database and to opening it. -/
def «open» (failed : Bool) (result : Option ErrorCode) : Store :=
  let s := if s.conn.isOpen then s.close failed else s
  match result with
  | none => s.setConnection { s.conn.toTDBConnection with isOpen := true }
  | some code => s.setConnection
      (s.conn.toTDBConnection.setError "Error opening database".toList [] .connection code.code)

/-! ### Transactions -/

/-- `TDatabaseQuery.nextRow` of the query with this result set. -/
def nextRow (id : ℕ) : Bool × Store :=
  match s.sets[id]? with
  | none => (false, s)
  | some rs =>
    let r := (driver e conv).fetch (s.conn, rs)
    (r.1, { s with conn := r.2.1, sets := s.sets.set id r.2.2 })

/-- The text is executed by a query of its own, whose result set is the last one then. -/
def executeQuery (sql : Text) : Store :=
  let id := s.sets.length
  let s := (s.setConnection s.conn.toTDBConnection.resetError).createResultSet
  s.on id fun t => ((driver e conv).executeStatement sql t).2

/-- The common end of `commit`, `rollback` and `startTransaction`. -/
def transaction (sql error : Text) : Bool × Store :=
  let id := s.sets.length
  let s := s.executeQuery e conv sql
  if s.conn.hasError then
    let last := s.conn.toTDBConnection.error
    (false, s.setConnection (last.2.setError error last.1.error .transaction 0))
  else (true, s.on id TSQLiteResultSet.free)

/-- The queries are reset first, so that they cannot hold the transaction open. -/
def commit : Bool × Store :=
  if ¬ s.conn.isOpen then (false, s)
  else (s.resetQueries e).transaction e conv "COMMIT TRANSACTION".toList
    "Error committing transaction".toList

def rollback : Bool × Store :=
  if ¬ s.conn.isOpen then (false, s)
  else (s.resetQueries e).transaction e conv "ROLLBACK TRANSACTION".toList
    "Error rolling back transaction".toList

def startTransaction : Bool × Store :=
  if ¬ s.conn.isOpen then (false, s)
  else s.transaction e conv "BEGIN TRANSACTION".toList "Error starting transaction".toList

end Store

/-- The operations on a connection and its result sets. -/
inductive Op
  | create
  | prepare (id : ℕ) (stmt : Text)
  | execute (id : ℕ)
  | executeQuery (id : ℕ) (statement : Text)
  | firstRow (id : ℕ)
  | nextRow (id : ℕ)
  | reset (id : ℕ)
  | free (id : ℕ)
  /-- What the core does to its own part of a result set and to the stored error. -/
  | core (id : ℕ) (base : TQueryResultSet) (lastError : Option TDatabaseError)
  | close (failed : Bool)
  | «open» (failed : Bool) (result : Option ErrorCode)
deriving DecidableEq, Repr

def Op.apply (e : Engine) (conv : Conversions) (s : Store) : Op → Store
  | .create => s.createResultSet
  | .prepare id stmt => s.on id fun t => (TSQLiteResultSet.prepare e stmt t).2
  | .execute id => s.on id fun t => (TSQLiteResultSet.execute e conv t).2
  | .executeQuery id statement => s.on id fun t =>
    (TSQLiteResultSet.executeQuery e conv statement t).2
  | .firstRow id => s.on id fun t => (TSQLiteResultSet.firstRow e t).2
  | .nextRow id => s.on id fun t => (TSQLiteResultSet.nextRow e t).2
  | .reset id => s.on id (TSQLiteResultSet.reset e)
  | .free id => s.on id TSQLiteResultSet.free
  | .core id base lastError => s.on id fun t =>
    ({ t.1 with toTDBConnection := { t.1.toTDBConnection with lastError := lastError } },
      { t.2 with toTQueryResultSet := base })
  | .close failed => s.close failed
  | .open failed result => s.open failed result

/-- The states of a connection after any operations. -/
def run (e : Engine) (conv : Conversions) (ops : List Op) : Store :=
  ops.foldl (Op.apply e conv) .create

end DatabaseMod.SqliteConnection
