import DatabaseMod.CoreErrorObjects

/-!
# What an error report shows

An error object may have its connection, which knows the native messages. `setError` makes it
with the connection, `error` without one, and both paths of `setError` end in an object that
says which of them was taken.
-/

namespace DatabaseMod.CoreErrorHistories
open SqlTokens (Text)
open CoreValues CoreQuery
open CoreErrorObjects (ErrorCall applyAll)

/-! ### Error objects -/

structure ErrorObject where
  hasConnection : Bool
  error : Text
  errorType : ℤ
  errorValue : ℤ
deriving DecidableEq, Repr

/-- The arguments of `setError`. -/
structure Report where
  error : Text
  append : Text
  eType : ℤ
  errorValue : ℤ
deriving DecidableEq, Repr

def Report.appended (r : Report) : Text :=
  if r.append ≠ [] then r.error ++ " : ".toList ++ r.append else r.error

namespace ErrorObject

def new : ErrorObject := ⟨false, [], 0, 0⟩

def create (r : Report) : ErrorObject :=
  let error := if r.errorValue ≠ 0 then
      r.appended ++ " (".toList ++ printInteger r.errorValue ++ ") ".toList
    else r.appended
  ⟨true, error, r.eType, r.errorValue⟩

def reset (e : ErrorObject) : ErrorObject := { e with error := [], errorValue := 0, errorType := 0 }

def isSet (e : ErrorObject) : Bool := e.error.length > 0

/-- `nativeErrorMessage` is that of the driver of the connection. -/
def nativeError (nativeErrorMessage : ℤ → Text) (e : ErrorObject) : Text :=
  if e.hasConnection then nativeErrorMessage e.errorValue else []

def toText (nativeErrorMessage : ℤ → Text) (e : ErrorObject) : Text :=
  "(".toList ++ printInteger e.errorType ++ ") ".toList ++ e.error ++ " : ".toList ++
    e.nativeError nativeErrorMessage

end ErrorObject

/-! ### The methods of a connection -/

/-- The object that the connection keeps. -/
abbrev LastError : Type := Option ErrorObject

namespace LastError

def error : LastError → ErrorObject × LastError
  | none => (.new, some .new)
  | some e => (e, some e)

def resetError (lastError : LastError) : LastError := lastError.map .reset

def hasError : LastError → Bool
  | none => false
  | some e => e.isSet

def setError (r : Report) : LastError → LastError
  | none => some (.create r)
  | some e => some ⟨e.hasConnection, r.appended, r.eType, r.errorValue⟩

end LastError

inductive Call
  | error
  | hasError
  | resetError
  | setError (r : Report)
deriving DecidableEq, Repr

def Call.apply (lastError : LastError) : Call → LastError
  | .error => lastError.error.2
  | .hasError => lastError
  | .resetError => lastError.resetError
  | .setError r => lastError.setError r

def run (calls : List Call) (lastError : LastError) : LastError := calls.foldl Call.apply lastError

/-- A history begins with a connection that has no error object. -/
def after (history : List Call) : LastError := run history none

/-- What can be seen of an error: the fields of the object, its text and `hasError`. -/
structure Observed where
  error : Text
  errorType : ℤ
  errorValue : ℤ
  text : Text
  hasError : Bool
deriving DecidableEq, Repr

def observe (nativeErrorMessage : ℤ → Text) (lastError : LastError) : Observed :=
  let e := lastError.error.1
  ⟨e.error, e.errorType, e.errorValue, e.toText nativeErrorMessage, lastError.hasError⟩

/-! ### Histories -/

/-- Whether a call makes an object where there is none, and whether that has the connection. -/
def Call.makes : Call → Option Bool
  | .error => some false
  | .setError _ => some true
  | .hasError | .resetError => none

/-- What the first of the calls that makes an object makes. -/
def made (history : List Call) : Option Bool := history.findSome? Call.makes

theorem apply_hasConnection (c : Call) (lastError : LastError) :
    (c.apply lastError).map (·.hasConnection) =
      (lastError.map (·.hasConnection)).or c.makes := by
  cases lastError with
  | none => cases c <;> rfl
  | some e => cases c <;> rfl

theorem run_hasConnection (calls : List Call) (lastError : LastError) :
    (run calls lastError).map (·.hasConnection) =
      (lastError.map (·.hasConnection)).or (made calls) := by
  induction calls generalizing lastError with
  | nil => exact (Option.or_none).symm
  | cons c calls ih =>
    have hmade : made (c :: calls) = c.makes.or (made calls) := by
      cases h : c.makes with
      | none => simp [made, h]
      | some b => simp [made, h]
    rw [hmade, ← Option.or_assoc, ← apply_hasConnection]
    exact ih (c.apply lastError)

theorem after_hasConnection (history : List Call) :
    (after history).map (·.hasConnection) = made history := run_hasConnection history none

section

variable (nativeErrorMessage : ℤ → Text)

/-! ### Reports -/

/-- The text of a report, of which only a new object shows the value. -/
def reportedText (r : Report) (kind : Option Bool) : Text :=
  if kind = none ∧ r.errorValue ≠ 0 then
    r.appended ++ (" (".toList ++ printInteger r.errorValue ++ ") ".toList)
  else r.appended

/-- The native message of a value, which an object without its connection does not know. -/
def nativeText (value : ℤ) (kind : Option Bool) : Text :=
  if kind = some false then [] else nativeErrorMessage value

def shown (error : Text) (errorType errorValue : ℤ) (suffix : Text) : Observed :=
  ⟨error, errorType, errorValue, "(".toList ++ printInteger errorType ++ ") ".toList ++ error ++
    " : ".toList ++ suffix, error.length > 0⟩

theorem shown_inj {error error' native native' : Text} {errorType errorValue : ℤ} :
    shown error errorType errorValue native = shown error' errorType errorValue native' ↔
      error = error' ∧ native = native' := by
  constructor
  · intro h
    obtain rfl : error = error' := congrArg Observed.error h
    exact ⟨rfl, List.append_cancel_left (congrArg Observed.text h)⟩
  · rintro ⟨rfl, rfl⟩
    rfl

theorem observe_some (e : ErrorObject) :
    observe nativeErrorMessage (some e) =
      shown e.error e.errorType e.errorValue (e.nativeError nativeErrorMessage) := rfl

theorem nativeError_eq (e : ErrorObject) : e.nativeError nativeErrorMessage =
    nativeText nativeErrorMessage e.errorValue (some e.hasConnection) := by
  cases h : e.hasConnection with
  | false => rw [ErrorObject.nativeError, h, nativeText, if_neg Bool.false_ne_true, if_pos rfl]
  | true => rw [ErrorObject.nativeError, h, nativeText, if_pos rfl, if_neg (by decide)]

/-- What is seen after a report depends on the history by the kind of the object only. -/
theorem observe_setError (lastError : LastError) (r : Report) :
    observe nativeErrorMessage (lastError.setError r) =
      shown (reportedText r (lastError.map (·.hasConnection))) r.eType r.errorValue
        (nativeText nativeErrorMessage r.errorValue (lastError.map (·.hasConnection))) := by
  cases lastError with
  | none =>
    have htext : (ErrorObject.create r).error = reportedText r none := by
      unfold ErrorObject.create reportedText
      by_cases hvalue : r.errorValue ≠ 0
      · simp only [hvalue, ne_eq, not_false_eq_true, if_true, and_self, List.append_assoc]
      · simp only [hvalue, if_false, and_false]
    rw [LastError.setError, observe_some, htext, nativeError_eq]
    rfl
  | some e =>
    rw [LastError.setError, observe_some, nativeError_eq]
    rfl

/-- After a reset only the native message of zero depends on the history. -/
theorem observe_resetError (lastError : LastError) :
    observe nativeErrorMessage lastError.resetError =
      shown [] 0 0 (nativeText nativeErrorMessage 0
        (some ((lastError.map (·.hasConnection)).getD false))) := by
  cases lastError with
  | none => rfl
  | some e =>
    rw [LastError.resetError, Option.map_some, observe_some, nativeError_eq]
    rfl

theorem reportedText_eq_iff (r : Report) (kind kind' : Option Bool) :
    reportedText r kind = reportedText r kind' ↔
      (kind = none ↔ kind' = none) ∨ r.errorValue = 0 := by
  by_cases hvalue : r.errorValue = 0
  · simp [reportedText, hvalue]
  · by_cases h : kind = none
    · by_cases h' : kind' = none
      · simp [h, h']
      · simp [reportedText, h, h', hvalue]
    · by_cases h' : kind' = none
      · simp [reportedText, h, h', hvalue]
      · simp [reportedText, h, h']

theorem nativeText_eq_iff (value : ℤ) (kind kind' : Option Bool) :
    nativeText nativeErrorMessage value kind = nativeText nativeErrorMessage value kind' ↔
      (kind = some false ↔ kind' = some false) ∨ nativeErrorMessage value = [] := by
  by_cases h : kind = some false
  · by_cases h' : kind' = some false
    · simp [h, h']
    · simp [nativeText, h, h', eq_comm]
  · by_cases h' : kind' = some false
    · simp [nativeText, h, h']
    · simp [nativeText, h, h']

/-! ### Two histories -/

variable (history history' : List Call) (r : Report)

/-- After a report, and after a reset, the same is seen after both histories. -/
structure HistoryFree : Prop where
  report : observe nativeErrorMessage (after (history ++ [.setError r])) =
    observe nativeErrorMessage (after (history' ++ [.setError r]))
  reset : observe nativeErrorMessage (after (history ++ [.resetError])) =
    observe nativeErrorMessage (after (history' ++ [.resetError]))

/-- The histories differ in nothing that is seen: in whether there is an object before the
report if it has a value, in whether the object lacks its connection if that knows the value,
and in whether it has its connection if that has a message for no error. -/
structure Indistinguishable : Prop where
  created : (made history = none ↔ made history' = none) ∨ r.errorValue = 0
  unconnected : (made history = some false ↔ made history' = some false) ∨
    nativeErrorMessage r.errorValue = []
  connected : (made history = some true ↔ made history' = some true) ∨ nativeErrorMessage 0 = []

theorem after_append (c : Call) : after (history ++ [c]) = c.apply (after history) := by
  rw [after, run, List.foldl_append]
  rfl

theorem report_iff : observe nativeErrorMessage (after (history ++ [.setError r])) =
      observe nativeErrorMessage (after (history' ++ [.setError r])) ↔
    ((made history = none ↔ made history' = none) ∨ r.errorValue = 0) ∧
      ((made history = some false ↔ made history' = some false) ∨
        nativeErrorMessage r.errorValue = []) := by
  rw [after_append, after_append, Call.apply, Call.apply, observe_setError, observe_setError,
    after_hasConnection, after_hasConnection, shown_inj, reportedText_eq_iff, nativeText_eq_iff]

theorem getD_false_iff (kind : Option Bool) : kind.getD false = false ↔ ¬ kind = some true := by
  cases kind with
  | none => simp
  | some b => cases b <;> simp

theorem reset_iff : observe nativeErrorMessage (after (history ++ [.resetError])) =
      observe nativeErrorMessage (after (history' ++ [.resetError])) ↔
    (made history = some true ↔ made history' = some true) ∨ nativeErrorMessage 0 = [] := by
  rw [after_append, after_append, Call.apply, Call.apply, observe_resetError, observe_resetError,
    after_hasConnection, after_hasConnection, shown_inj, nativeText_eq_iff, Option.some.injEq,
    Option.some.injEq, getD_false_iff, getD_false_iff, not_iff_not]
  exact and_iff_right rfl

/-- An error report depends on the history by whether and how an error object was made. -/
theorem historyFree_iff : HistoryFree nativeErrorMessage history history' r ↔
    Indistinguishable nativeErrorMessage history history' r := by
  constructor
  · intro h
    obtain ⟨hcreated, hunconnected⟩ :=
      (report_iff nativeErrorMessage history history' r).mp h.report
    exact ⟨hcreated, hunconnected, (reset_iff nativeErrorMessage history history').mp h.reset⟩
  · intro h
    exact ⟨(report_iff nativeErrorMessage history history' r).mpr ⟨h.created, h.unconnected⟩,
      (reset_iff nativeErrorMessage history history').mpr h.connected⟩

end

/-! ### Without the connection -/

def contents (e : ErrorObject) : Text × ℤ × ℤ := (e.error, e.errorType, e.errorValue)

def contentsOf (e : TDatabaseError) : Text × ℤ × ℤ := (e.error, errorTypeValue e.errorType, e.errorValue)

/-- The calls of the core, whose reports have one of the types that there are. -/
def callOf : ErrorCall → List Call
  | .error => [.error]
  | .resetError => [.resetError]
  | .setError r => [.setError ⟨r.error, r.append, errorTypeValue r.eType, r.errorValue⟩]
  | .free => []

theorem contents_apply (c : ErrorCall) (hc : c ≠ .free) {lastError : LastError}
    {conn : TDBConnection} (h : lastError.map contents = conn.lastError.map contentsOf) :
    (run (callOf c) lastError).map contents = (c.apply conn).lastError.map contentsOf := by
  obtain ⟨isOpen, last⟩ := conn
  cases lastError with
  | none =>
    cases last with
    | none =>
      cases c with
      | error => rfl
      | resetError => rfl
      | setError r => rfl
      | free => exact absurd rfl hc
    | some e => cases h
  | some o =>
    cases last with
    | none => cases h
    | some e =>
      cases c with
      | error => exact h
      | resetError => rfl
      | setError r => rfl
      | free => exact absurd rfl hc

/-- The objects have the contents that the core's connection keeps. -/
theorem contents_run (calls : List ErrorCall) (hcalls : .free ∉ calls) {lastError : LastError}
    {conn : TDBConnection} (h : lastError.map contents = conn.lastError.map contentsOf) :
    (run (calls.flatMap callOf) lastError).map contents =
      (applyAll calls conn).lastError.map contentsOf := by
  induction calls generalizing lastError conn with
  | nil => exact h
  | cons c calls ih =>
    obtain ⟨hc, hcalls⟩ := not_or.mp (mt List.mem_cons.mpr hcalls)
    rw [List.flatMap_cons, run, List.foldl_append]
    exact ih hcalls (contents_apply c (Ne.symm hc) h)

/-! ### SQLite -/

/-- The native messages of the SQLite driver. -/
def sqliteErrorMessage (err : ℤ) : Text :=
  match err with
  | 0 => "Successful result".toList
  | 1 => "SQL error Or missing database".toList
  | 2 => "An internal logic error in SQLite".toList
  | 3 => "Access permission denied".toList
  | 4 => "Callback routine requested an abort".toList
  | 5 => "The database file is locked".toList
  | 6 => "A table in the database is locked".toList
  | 7 => "A malloc() failed".toList
  | 8 => "Attempt To write a readonly database".toList
  | 9 => "Operation terminated by sqlite_interrupt()".toList
  | 10 => "Some kind of disk I/O error occurred".toList
  | 11 => "The database disk image is malformed".toList
  | 12 => "(Internal Only) Table Or record Not found".toList
  | 13 => "Insertion failed because database is full".toList
  | 14 => "Unable To open the database file".toList
  | 15 => "Database lock protocol error".toList
  | 16 => "(Internal Only) Database table is empty".toList
  | 17 => "The database schema changed".toList
  | 18 => "Too much data For one row of a table".toList
  | 19 => "Abort due To constraint violation".toList
  | 20 => "Data Type mismatch".toList
  | 21 => "Library used incorrectly".toList
  | 22 => "Uses OS features Not supported on host".toList
  | 23 => "Authorization denied".toList
  | 25 => "2nd parameter to sqlite3_bind out of range".toList
  | 26 => "File opened that is not a database file".toList
  | 27 => "Notifications from sqlite3_log()".toList
  | 28 => "Warnings from sqlite3_log()".toList
  | 100 => "sqlite_step() has another row ready".toList
  | 101 => "sqlite_step() has finished executing".toList
  | err => "Error ".toList ++ printInteger err

def missingTable : Report :=
  ⟨"Error preparing statement".toList, "no such table: note".toList, 3, 1⟩

/-- A first error shows its value and the native message, and one after a call of `error` shows
neither. -/
theorem first_error_differs :
    (observe sqliteErrorMessage (after [.setError missingTable])).text =
        "(3) Error preparing statement : no such table: note (1)  : SQL error Or missing database".toList ∧
      (observe sqliteErrorMessage (after [.error, .setError missingTable])).text =
        "(3) Error preparing statement : no such table: note : ".toList ∧
      ¬ HistoryFree sqliteErrorMessage [] [.error] missingTable := by
  have htext := fun h : HistoryFree sqliteErrorMessage [] [.error] missingTable =>
    congrArg Observed.error h.report
  exact ⟨by decide, by decide, fun h => absurd (htext h) (by decide)⟩

end DatabaseMod.CoreErrorHistories
