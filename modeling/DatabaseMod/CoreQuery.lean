import DatabaseMod.CoreResultSet

/-!
# Connections and queries of the core

The error kept by a connection, and the query object that every driver shares. A driver
supplies the operations on its own connection and result set; the core sees its part of
both. An absent text is an empty one.
-/

namespace DatabaseMod.CoreQuery
open SqlTokens (Text trim)
open CoreValues CoreResultSet

inductive ErrorType
  | none | transaction | connection | statement | unknown
deriving DecidableEq, Repr

def errorTypeValue : ErrorType → ℤ
  | .none => 0
  | .transaction => 1
  | .connection => 2
  | .statement => 3
  | .unknown => 4

structure TDatabaseError where
  error : Text
  errorType : ErrorType
  errorValue : ℤ
deriving DecidableEq, Repr

namespace TDatabaseError

def new : TDatabaseError := ⟨[], .none, 0⟩

def create (error append : Text) (errorType : ErrorType) (errorValue : ℤ) : TDatabaseError :=
  let error := if append ≠ [] then error ++ " : ".toList ++ append else error
  let error := if errorValue ≠ 0 then
      error ++ " (".toList ++ printInteger errorValue ++ ") ".toList
    else error
  ⟨error, errorType, errorValue⟩

def reset (_ : TDatabaseError) : TDatabaseError := new

def isSet (e : TDatabaseError) : Bool := e.error.length > 0

end TDatabaseError

/-- The part of a connection that the core keeps. -/
structure TDBConnection where
  isOpen : Bool
  lastError : Option TDatabaseError
deriving DecidableEq, Repr

namespace TDBConnection

variable (conn : TDBConnection)

/-- An error object is made when there is none. -/
def error : TDatabaseError × TDBConnection :=
  match conn.lastError with
  | some e => (e, conn)
  | none => (.new, { conn with lastError := some .new })

def resetError : TDBConnection := { conn with lastError := conn.lastError.map .reset }

def hasError : Bool := conn.lastError.any (·.isSet)

/-- A new error object shows the code in its text; an old one is only overwritten. -/
def setError (error append : Text) (eType : ErrorType) (errorValue : ℤ) : TDBConnection :=
  match conn.lastError with
  | none => { conn with lastError := some (.create error append eType errorValue) }
  | some _ =>
    let text := if append ≠ [] then error ++ " : ".toList ++ append else error
    { conn with lastError := some ⟨text, eType, errorValue⟩ }

theorem hasError_resetError : conn.resetError.hasError = false := by
  cases h : conn.lastError <;> simp [resetError, hasError, h, TDatabaseError.reset,
    TDatabaseError.isSet, TDatabaseError.new]

@[simp] theorem setError_isOpen (error append : Text) (eType : ErrorType) (errorValue : ℤ) :
    (conn.setError error append eType errorValue).isOpen = conn.isOpen := by
  cases h : conn.lastError <;> simp [setError, h]

theorem isSet_error : conn.error.1.isSet = conn.hasError := by
  cases h : conn.lastError <;> simp [error, hasError, h, TDatabaseError.isSet, TDatabaseError.new]

theorem hasError_error : conn.error.2.hasError = conn.hasError := by
  cases h : conn.lastError <;> simp [error, hasError, h, TDatabaseError.isSet, TDatabaseError.new]

theorem error_isOpen : conn.error.2.isOpen = conn.isOpen := by
  cases h : conn.lastError <;> simp [error, h]

theorem hasError_setError {error : Text} (h : error ≠ []) (append : Text) (eType : ErrorType)
    (errorValue : ℤ) : (conn.setError error append eType errorValue).hasError = true := by
  have hset {text : Text} (happend : error <+: text) : 0 < text.length :=
    (List.length_pos_iff.mpr h).trans_le happend.length_le
  cases hlast : conn.lastError with
  | none =>
    simp only [setError, hlast, hasError, Option.any_some, TDatabaseError.isSet,
      TDatabaseError.create, decide_eq_true_eq]
    refine hset ?_
    split_ifs <;> simp [List.append_assoc]
  | some e =>
    simp only [setError, hlast, hasError, Option.any_some, TDatabaseError.isSet,
      decide_eq_true_eq]
    refine hset ?_
    split_ifs <;> simp [List.append_assoc]

/-- The error can be seen once it is stored; a new error object shows at least the code. -/
def Shows (error : Text) : Prop := error ≠ [] ∨ conn.lastError = none

theorem hasError_setError_iff {error : Text} {eType : ErrorType} {errorValue : ℤ}
    (hvalue : errorValue ≠ 0) :
    (conn.setError error [] eType errorValue).hasError = true ↔ conn.Shows error := by
  unfold Shows
  cases hlast : conn.lastError with
  | none => simp [setError, hlast, hasError, TDatabaseError.isSet, TDatabaseError.create, hvalue]
  | some e => simp [setError, hlast, hasError, TDatabaseError.isSet, List.length_pos_iff]

end TDBConnection

/-! ### Drivers -/

/-- What a driver supplies. Its operations take and return its connection and one of its
result sets; the tests and fetches also return whether they succeeded. -/
structure Driver (C RS : Type) where
  connection : C → TDBConnection
  setConnection : C → TDBConnection → C
  base : RS → TQueryResultSet
  setBase : RS → TQueryResultSet → RS
  createResultSet : C → C × RS
  clear : C × RS → C × RS
  /-- The result set is dropped afterwards. -/
  free : C × RS → C × RS
  prepare : Text → C × RS → Bool × C × RS
  executeQuery : Text → C × RS → Bool × C × RS
  execute : C × RS → Bool × C × RS
  firstRow : C × RS → Bool × C × RS
  nextRow : C × RS → Bool × C × RS
  reset : C × RS → C × RS

section

variable {C RS : Type} (D : Driver C RS)

namespace Driver

def raise (s : C × RS) (error : String) (eType : ErrorType) : Bool × C × RS :=
  (false, D.setConnection s.1 ((D.connection s.1).setError error.toList [] eType 0), s.2)

/-- The last lines of `prepare` and `execute`. -/
def finish (r : Bool × C × RS) : Bool × C × RS :=
  if r.1 then (true, D.setConnection r.2.1 (D.connection r.2.1).resetError, r.2.2) else r

def setQuery (query : Text) (s : C × RS) : C × RS :=
  (s.1, D.setBase s.2 { D.base s.2 with query := query })

/-- The first lines of `prepare` and `execute`. -/
def opened (conn : C) : Option RS → C × RS
  | none => D.createResultSet conn
  | some rs =>
    let s := D.clear (conn, rs)
    (s.1, D.setBase s.2 { D.base s.2 with isActive := false })

def prepareStatement (statement : Text) (s : C × RS) : Bool × C × RS :=
  if statement.length = 0 then D.raise s "Cannot prepare empty statement" .statement
  else
    let s := D.setQuery (trim statement) s
    if (D.connection s.1).isOpen then D.finish (D.prepare statement s)
    else D.raise s "The connection is not open" .connection

def executeStatement (statement : Text) (s : C × RS) : Bool × C × RS :=
  if (trim statement).length = 0 then D.raise s "Cannot execute empty statement" .statement
  else
    let s := D.setQuery (trim statement) s
    if (D.connection s.1).isOpen then D.finish (D.executeQuery statement s)
    else D.raise s "The connection is not open" .connection

def executePrepared (s : C × RS) : Bool × C × RS :=
  if (D.connection s.1).isOpen then D.finish (D.execute s)
  else D.raise s "The connection is not open" .connection

/-- `nextRow` of a query that has a result set; the end of the rows closes the cursor. -/
def fetch (s : C × RS) : Bool × C × RS :=
  let base := D.base s.2
  if ¬ base.isActive then (false, s)
  else if base.index = SQL_BeforeFirstRow then D.firstRow s
  else if base.index = SQL_AfterLastRow then (false, s)
  else
    let r := D.nextRow s
    if r.1 then (true, r.2)
    else
      let rs := D.setBase r.2.2 { D.base r.2.2 with index := SQL_AfterLastRow }
      (false, D.reset (r.2.1, rs))

end Driver

/-! ### Queries -/

structure TDatabaseQuery (C RS : Type) where
  conn : C
  resultSet : Option RS

namespace TDatabaseQuery

variable (q : TDatabaseQuery C RS)

def create (conn : C) : TDatabaseQuery C RS := ⟨conn, none⟩

def prepare (statement : Text) : Bool × TDatabaseQuery C RS :=
  let r := D.prepareStatement statement (D.opened q.conn q.resultSet)
  (r.1, ⟨r.2.1, some r.2.2⟩)

/-- Without a statement the prepared one is executed. The result set is called once the
connection is open; then it has to be there. -/
def execute (statement : Text) : Option (Bool × TDatabaseQuery C RS) :=
  if statement ≠ [] then
    let r := D.executeStatement statement (D.opened q.conn q.resultSet)
    some (r.1, ⟨r.2.1, some r.2.2⟩)
  else
    match q.resultSet with
    | some rs =>
      let r := D.executePrepared (q.conn, rs)
      some (r.1, ⟨r.2.1, some r.2.2⟩)
    | none =>
      let conn := D.connection q.conn
      if conn.isOpen then none
      else some (false, ⟨D.setConnection q.conn
        (conn.setError "The connection is not open".toList [] .connection 0), none⟩)

def nextRow : Bool × TDatabaseQuery C RS :=
  match q.resultSet with
  | none => (false, q)
  | some rs =>
    let r := D.fetch (q.conn, rs)
    (r.1, ⟨r.2.1, some r.2.2⟩)

def updateBase (f : TQueryResultSet → TQueryResultSet) : TDatabaseQuery C RS :=
  { q with resultSet := q.resultSet.map fun rs => D.setBase rs (f (D.base rs)) }

def value (index : ℤ) : Option TDBType := q.resultSet.bind fun rs => (D.base rs).value index

def isActive : Bool := q.resultSet.any fun rs => (D.base rs).isActive

end TDatabaseQuery

/-- The calls that change the values to bind; `addX` and `setX` are cases of the first two. -/
inductive BindCall
  | bindValue (position : ℕ) (value : Option TDBType)
  | addBindValue (value : Option TDBType)
  | clearBindValues
deriving DecidableEq, Repr

def BindCall.apply (base : TQueryResultSet) : BindCall → TQueryResultSet
  | .bindValue position value => base.bindValue position value
  | .addBindValue value => base.addBindValue value
  | .clearBindValues => base.clearBindValues

inductive QueryCall
  | prepare (statement : Text)
  | execute (statement : Text)
  | nextRow
  | bind (b : BindCall)
deriving DecidableEq, Repr

namespace TDatabaseQuery

/-- Binding without a result set does nothing. -/
def bind (q : TDatabaseQuery C RS) (b : BindCall) : TDatabaseQuery C RS :=
  q.updateBase D fun base => b.apply base

/-- One call on a query; binding always succeeds. -/
def call (q : TDatabaseQuery C RS) : QueryCall → Option (Bool × TDatabaseQuery C RS)
  | .prepare statement => some (q.prepare D statement)
  | .execute statement => q.execute D statement
  | .nextRow => some (q.nextRow D)
  | .bind b => some (true, q.bind D b)

/-- A sequence of calls, with the result of each. -/
def calls (q : TDatabaseQuery C RS) :
    List QueryCall → Option (List (QueryCall × Bool) × TDatabaseQuery C RS)
  | [] => some ([], q)
  | c :: cs => do
    let r ← q.call D c
    let rest ← r.2.calls cs
    some ((c, r.1) :: rest.1, rest.2)

theorem calls_cons {q q' : TDatabaseQuery C RS} {c : QueryCall} {cs : List QueryCall}
    {results : List (QueryCall × Bool)} (h : q.calls D (c :: cs) = some (results, q')) :
    ∃ b q₁ rest, q.call D c = some (b, q₁) ∧ q₁.calls D cs = some (rest, q') ∧
      results = (c, b) :: rest := by
  simp only [calls, Option.bind_eq_bind, Option.bind_eq_some_iff, Option.some.injEq,
    Prod.mk.injEq] at h
  obtain ⟨⟨b, q₁⟩, hcall, ⟨rest, q₂⟩, hrest, rfl, rfl⟩ := h
  exact ⟨b, q₁, rest, hcall, hrest, rfl⟩

/-- The states of a query after any calls on it. Between them the connection may change,
as other queries use it too. -/
inductive Reached : TDatabaseQuery C RS → Prop
  | create (conn : C) : Reached (create conn)
  | connection {q : TDatabaseQuery C RS} (h : Reached q) (conn : C) :
    Reached { q with conn := conn }
  | call {q q' : TDatabaseQuery C RS} {c : QueryCall} {b : Bool} (h : Reached q)
    (hc : q.call D c = some (b, q')) : Reached q'

end TDatabaseQuery

/-! ### What a call leaves -/

theorem Driver.finish_ok (r : Bool × C × RS) : (D.finish r).1 = r.1 := by
  unfold Driver.finish
  split_ifs with h
  · exact h.symm
  · rfl

theorem Driver.finish_resultSet (r : Bool × C × RS) : (D.finish r).2.2 = r.2.2 := by
  unfold Driver.finish
  split_ifs <;> rfl

/-- The last lines change nothing of a connection but its error. -/
theorem Driver.finish_connection {α : Type*} {f : C → α}
    (hf : ∀ conn base, f (D.setConnection conn base) = f conn) (r : Bool × C × RS) :
    f (D.finish r).2.1 = f r.2.1 := by
  unfold Driver.finish
  split_ifs
  · exact hf _ _
  · rfl

section

variable {D} (hfirst : ∀ s, (D.firstRow s).1 = true → D.firstRow s = D.nextRow s)

include hfirst

/-- A row that the core fetches is one that the result set fetches. -/
theorem Driver.fetch_true {s : C × RS} (h : (D.fetch s).1 = true) :
    (D.nextRow s).1 = true ∧ (D.fetch s).2 = (D.nextRow s).2 := by
  unfold Driver.fetch at h ⊢
  dsimp only at h ⊢
  split_ifs at h ⊢ with hactive hindex hlast hnext
  · rw [← hfirst s h]
    exact ⟨h, rfl⟩
  · exact ⟨hnext, rfl⟩

theorem TDatabaseQuery.nextRow_true {q q' : TDatabaseQuery C RS} (h : q.nextRow D = (true, q')) :
    ∃ rs, q.resultSet = some rs ∧ (D.nextRow (q.conn, rs)).1 = true ∧
      q'.resultSet = some (D.nextRow (q.conn, rs)).2.2 := by
  unfold TDatabaseQuery.nextRow at h
  cases hresult : q.resultSet with
  | none =>
    rw [hresult] at h
    cases h
  | some rs =>
    rw [hresult] at h
    obtain ⟨hok, hq'⟩ := Prod.mk.inj h
    obtain ⟨hnext, hsession⟩ := Driver.fetch_true hfirst hok
    refine ⟨rs, rfl, hnext, ?_⟩
    rw [← hq', hsession]

end

end

end DatabaseMod.CoreQuery
