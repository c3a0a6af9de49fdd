import DatabaseMod.CoreQuery
import DatabaseMod.HandleLedger

/-!
# The connection to a PostgreSQL server

Opening, checking and closing the connection, and the commands that start and end a transaction.
A handle of the library is the number of the call that returned it. An absent text is an empty one.
-/

namespace DatabaseMod.PostgresConnection
open SqlTokens (Text)
open CoreValues (printInteger)
open CoreQuery HandleLedger

/-! ### The library -/

inductive Call
  | PQconnectdbParams (keywords values : List (Option Text)) (handle : Option ℕ)
  | PQstatus (handle : Option ℕ)
  | PQerrorMessage (handle : Option ℕ)
  | PQfinish (handle : ℕ)
  | PQexec (handle : ℕ) (query : Text) (result : Option ℕ)
  | PQresultStatus (result : ℕ)
  | PQclear (result : Option ℕ)
deriving DecidableEq, Repr

/-- The status and the message of Null can be asked for, and Null can be cleared. -/
def Call.events : Call → List Event
  | .PQconnectdbParams _ _ handle => handle.toList.map .obtain
  | .PQstatus handle | .PQerrorMessage handle => handle.toList.map .use
  | .PQfinish handle => [.release handle true]
  | .PQexec handle _ result => .use handle :: result.toList.map .obtain
  | .PQresultStatus result => [.use result]
  | .PQclear result => result.toList.map (.release · true)

/-- What the library answers after the calls so far. -/
structure Libpq where
  /-- Whether there is memory for a connection. -/
  connects : List Call → Bool
  /-- Whether the status is another than `CONNECTION_OK`. -/
  bad : List Call → Bool
  /-- Whether a command has a result. -/
  answers : List Call → Bool
  /-- Whether the status of the result is `PGRES_COMMAND_OK`. -/
  completed : List Call → Bool
  errorMessage : List Call → Text

structure TDBPostgreSQL extends TDBConnection where
  dbname : Text
  host : Text
  port : ℤ
  user : Text
  password : Text
  handle : Option ℕ
  log : List Call
deriving DecidableEq, Repr

namespace TDBPostgreSQL

/-- `New` and `init`. -/
def create (dbname host : Text) (port : ℤ) (user password : Text) : TDBPostgreSQL :=
  ⟨⟨false, none⟩, dbname, host, port, user, password, none, []⟩

/-! ### The arrays of the parameters -/

def given (text : Text) : Option Text := if text ≠ [] then some text else none

/-- What a connection can be told, with what it is told. -/
def parameters (conn : TDBPostgreSQL) : List (String × Option Text) :=
  [("dbname", given conn.dbname), ("host", given conn.host),
    ("port", if conn.port ≠ 0 then some (printInteger conn.port) else none),
    ("user", given conn.user), ("password", given conn.password)]

/-- Two arrays of texts, which are filled side by side. -/
structure StringArrays where
  keywords : List (Option Text)
  values : List (Option Text)
  i : ℕ

def createStringArrays (size : ℕ) : StringArrays :=
  ⟨List.replicate size none, List.replicate size none, 0⟩

def StringArrays.set (a : StringArrays) (parameter : String × Option Text) : StringArrays :=
  match parameter.2 with
  | none => a
  | some value =>
    ⟨a.keywords.set a.i (some parameter.1.toList), a.values.set a.i (some value), a.i + 1⟩

def count (parameters : List (String × Option Text)) : ℕ := parameters.countP (·.2.isSome)

def stringArrays (parameters : List (String × Option Text)) : StringArrays :=
  parameters.foldl .set (createStringArrays (count parameters + 1))

/-! ### Methods -/

variable (pq : Libpq) (conn : TDBPostgreSQL)

def call (c : Call) : TDBPostgreSQL := { conn with log := conn.log ++ [c] }

def fail (error : Text) (errorType : ErrorType) : TDBPostgreSQL :=
  let conn := conn.call (.PQerrorMessage conn.handle)
  { conn with toTDBConnection :=
      conn.toTDBConnection.setError error (pq.errorMessage conn.log) errorType 0 }

/-- The last lines of `close` and of an `open` that fails. -/
def finish : TDBPostgreSQL :=
  match conn.handle with
  | some handle => { conn.call (.PQfinish handle) with handle := none, isOpen := false }
  | none => { conn with isOpen := false }

def close : TDBPostgreSQL := if conn.isOpen then conn.finish else conn

/-- `isOpen`. The handle of a bad connection stays. -/
def checkOpen : Bool × TDBPostgreSQL :=
  if conn.isOpen then
    let checked := conn.call (.PQstatus conn.handle)
    let conn := if conn.handle.isNone || pq.bad checked.log then { checked with isOpen := false }
      else checked
    (conn.isOpen, conn)
  else (false, conn)

def connect : TDBPostgreSQL :=
  let arrays := stringArrays conn.parameters
  let handle := if pq.connects conn.log then some conn.log.length else none
  { conn.call (.PQconnectdbParams arrays.keywords arrays.values handle) with
    handle := handle, isOpen := true }

def connectError : Text := "Error connecting to database '".toList ++ conn.dbname ++ "'".toList

/-- What is made of the handle that the library returned. -/
def established : Bool × TDBPostgreSQL :=
  match conn.handle with
  | none => (false, (conn.fail pq conn.connectError .connection).finish)
  | some handle =>
    let conn := conn.call (.PQstatus (some handle))
    if pq.bad conn.log then (false, (conn.fail pq conn.connectError .connection).finish)
    else (true, conn)

/-- A user and a password that are given are kept. -/
def keepUser (user password : Text) : TDBPostgreSQL :=
  { conn with
    user := if user ≠ [] then user else conn.user
    password := if password ≠ [] then password else conn.password }

def «open» (user password : Text) : Bool × TDBPostgreSQL :=
  let conn := if conn.isOpen then conn.close else conn
  ((conn.keepUser user password).connect pq).established pq

/-- What is made of the result of a command, which is cleared. -/
def ended (error : String) (result : Option ℕ) : Bool × TDBPostgreSQL :=
  match result with
  | none => (false, (conn.fail pq error.toList .transaction).call (.PQclear none))
  | some result =>
    let conn := conn.call (.PQresultStatus result)
    if pq.completed conn.log then (true, conn.call (.PQclear (some result)))
    else (false, (conn.fail pq error.toList .transaction).call (.PQclear (some result)))

/-- The three commands of a transaction differ in their texts. -/
def command (query error : String) : Bool × TDBPostgreSQL :=
  match conn.isOpen, conn.handle with
  | true, some handle =>
    let result := if pq.answers conn.log then some conn.log.length else none
    (conn.call (.PQexec handle query.toList result)).ended pq error result
  | _, _ => (false, conn)

def commit : Bool × TDBPostgreSQL := conn.command pq "COMMIT" "Error committing transaction"

def rollback : Bool × TDBPostgreSQL := conn.command pq "ROLLBACK" "Error rolling back transaction"

def startTransaction : Bool × TDBPostgreSQL :=
  conn.command pq "BEGIN" "Error starting transaction"

end TDBPostgreSQL

open TDBPostgreSQL

/-! ### What the library is told -/

/-- The parameters that are given. -/
def told (parameters : List (String × Option Text)) : List (Text × Text) :=
  parameters.filterMap fun parameter => parameter.2.map fun value => (parameter.1.toList, value)

theorem length_told (parameters : List (String × Option Text)) :
    (told parameters).length = count parameters := by
  induction parameters with
  | nil => rfl
  | cons parameter parameters ih =>
    obtain ⟨keyword, _ | value⟩ := parameter
    · simpa [told, count] using ih
    · simpa [told, count] using ih

/-- Arrays that are filled with these parameters, with some places left. -/
def filledArrays (filled : List (Text × Text)) (left : ℕ) : StringArrays :=
  ⟨(filled.map Prod.fst).map some ++ List.replicate left none,
    (filled.map Prod.snd).map some ++ List.replicate left none, filled.length⟩

theorem set_next (filled : List Text) (value : Text) (left : ℕ) :
    (filled.map some ++ List.replicate (left + 1) none).set filled.length (some value) =
      (filled ++ [value]).map some ++ List.replicate left none := by
  rw [List.set_append_right _ _ (by simp), List.length_map, Nat.sub_self, List.replicate_succ,
    List.set_cons_zero, List.map_append, List.append_assoc]
  rfl

theorem set_filledArrays (filled : List (Text × Text)) (left : ℕ) (keyword : String)
    (value : Text) : (filledArrays filled (left + 1)).set (keyword, some value) =
      filledArrays (filled ++ [(keyword.toList, value)]) left := by
  have hkeywords := set_next (filled.map Prod.fst) keyword.toList left
  have hvalues := set_next (filled.map Prod.snd) value left
  rw [List.length_map] at hkeywords hvalues
  simp only [StringArrays.set, filledArrays, hkeywords, hvalues, List.map_append,
    List.length_append, List.map_cons, List.map_nil, List.length_singleton]

/-- The places that are left are those for the parameters that are still to come. -/
theorem foldl_set (parameters : List (String × Option Text)) (filled : List (Text × Text)) :
    parameters.foldl StringArrays.set (filledArrays filled (count parameters + 1)) =
      filledArrays (filled ++ told parameters) 1 := by
  induction parameters generalizing filled with
  | nil => rw [List.foldl_nil, told, List.filterMap_nil, List.append_nil, count, List.countP_nil]
  | cons parameter parameters ih =>
    obtain ⟨keyword, _ | value⟩ := parameter
    · have hcount : count ((keyword, none) :: parameters) = count parameters := by simp [count]
      rw [hcount, List.foldl_cons]
      exact ih filled
    · have hcount : count ((keyword, some value) :: parameters) = count parameters + 1 := by
        simp [count]
      have htold : told ((keyword, some value) :: parameters) =
          (keyword.toList, value) :: told parameters := rfl
      rw [hcount, List.foldl_cons, set_filledArrays, ih, htold, List.append_assoc]
      rfl

/-- The arrays hold the keywords and the values that are given, in the same order, and end with
Null; so each text that was made for them is one of those that are freed. -/
theorem stringArrays_eq (parameters : List (String × Option Text)) :
    stringArrays parameters =
      ⟨((told parameters).map Prod.fst).map some ++ [none],
        ((told parameters).map Prod.snd).map some ++ [none], count parameters⟩ := by
  have h := foldl_set parameters []
  rw [filledArrays, filledArrays, List.nil_append, length_told] at h
  exact h

/-! ### The account of the handles -/

section

variable (pq : Libpq) (conn : TDBPostgreSQL)

/-- What a connection holds. -/
def held : List ℕ := conn.handle.toList

theorem finish_accounts :
    Accounts Call.events conn.log (held conn) conn.finish.log (held conn.finish) := by
  cases hhandle : conn.handle with
  | none =>
    simp only [finish, held, hhandle]
    exact .refl conn.log []
  | some handle =>
    simp only [finish, held, hhandle]
    exact .release (by rfl) []

theorem close_accounts :
    Accounts Call.events conn.log (held conn) conn.close.log (held conn.close) := by
  unfold close
  split_ifs
  · exact finish_accounts conn
  · exact .refl conn.log (held conn)

/-- A call that asks about the handle, which may be Null. -/
theorem ask_accounts {c : Call} (hc : c.events = conn.handle.toList.map .use) (more : List ℕ) :
    Accounts Call.events conn.log (more ++ held conn) (conn.call c).log
      (more ++ held (conn.call c)) := by
  cases hhandle : conn.handle with
  | none =>
    simp only [call, held, hhandle]
    exact .idle (by rw [hc, hhandle]; rfl) (more ++ [])
  | some handle =>
    simp only [call, held, hhandle]
    exact .use (by rw [hc, hhandle]; rfl) (by simp)

theorem fail_accounts (error : Text) (errorType : ErrorType) (more : List ℕ) :
    Accounts Call.events conn.log (more ++ held conn) (conn.fail pq error errorType).log
      (more ++ held (conn.fail pq error errorType)) :=
  ask_accounts conn (c := .PQerrorMessage conn.handle) rfl more

theorem checkOpen_accounts :
    Accounts Call.events conn.log (held conn) (conn.checkOpen pq).2.log
      (held (conn.checkOpen pq).2) := by
  have hask := ask_accounts conn (c := .PQstatus conn.handle) rfl []
  unfold checkOpen
  dsimp only
  split_ifs
  · exact hask
  · exact hask
  · exact .refl conn.log (held conn)

theorem connect_accounts :
    Accounts Call.events conn.log (held conn) (conn.connect pq).log
      (held (conn.connect pq) ++ held conn) := by
  unfold connect
  dsimp only
  cases pq.connects conn.log with
  | true => exact .obtain (by rfl) (held conn)
  | false => exact .idle (by rfl) (held conn)

theorem ended_accounts (error : String) (result : Option ℕ) :
    Accounts Call.events conn.log (result.toList ++ held conn) (conn.ended pq error result).2.log
      (held (conn.ended pq error result).2) := by
  cases result with
  | none =>
    exact (fail_accounts pq conn error.toList .transaction []).trans (.idle (by rfl) (held conn))
  | some result =>
    have hstatus : Accounts Call.events conn.log (result :: held conn)
        (conn.call (.PQresultStatus result)).log (result :: held conn) :=
      .use (by rfl) (List.mem_cons_self ..)
    unfold ended
    dsimp only
    split_ifs
    · exact hstatus.trans (.release (by rfl) (held conn))
    · have hfail := fail_accounts pq (conn.call (.PQresultStatus result)) error.toList .transaction
        [result]
      exact (hstatus.trans hfail).trans (.release (by rfl) (held conn))

theorem command_accounts (query error : String) :
    Accounts Call.events conn.log (held conn) (conn.command pq query error).2.log
      (held (conn.command pq query error).2) := by
  unfold command
  split
  next handle _ hhandle =>
    have hheld : handle ∈ held conn := by simp [held, hhandle]
    dsimp only
    refine Accounts.trans ?_ (ended_accounts pq _ error _)
    split_ifs
    · exact .derive (by rfl) hheld
    · exact .use (by rfl) hheld
  next => exact .refl conn.log (held conn)

theorem established_accounts :
    Accounts Call.events conn.log (held conn) (conn.established pq).2.log
      (held (conn.established pq).2) := by
  have hfailed (conn : TDBPostgreSQL) : Accounts Call.events conn.log (held conn)
      (conn.fail pq conn.connectError .connection).finish.log
      (held (conn.fail pq conn.connectError .connection).finish) :=
    (fail_accounts pq conn conn.connectError .connection []).trans (finish_accounts _)
  unfold established
  split
  next => exact hfailed conn
  next handle hhandle =>
    have hstatus := ask_accounts conn (c := .PQstatus (some handle)) (by rw [hhandle]; rfl) []
    dsimp only
    split_ifs
    · exact hstatus.trans (hfailed (conn.call (.PQstatus (some handle))))
    · exact hstatus

/-- The handle of a connection that was found bad is let go of by the next opening. -/
theorem open_accounts (user password : Text) :
    Accounts Call.events conn.log (held conn) (conn.open pq user password).2.log
      (held (conn.open pq user password).2 ++ if conn.isOpen then [] else held conn) := by
  have hopened (conn : TDBPostgreSQL) : Accounts Call.events conn.log (held conn)
      (((conn.keepUser user password).connect pq).established pq).2.log
      (held (((conn.keepUser user password).connect pq).established pq).2 ++ held conn) :=
    (connect_accounts pq (conn.keepUser user password)).trans
      ((established_accounts pq _).frame (held conn))
  unfold TDBPostgreSQL.open
  by_cases hopen : conn.isOpen = true
  · have hclosed : held conn.close = [] := by
      unfold close finish
      rw [if_pos hopen]
      cases hhandle : conn.handle with
      | none => rfl
      | some handle => rfl
    have h := (close_accounts conn).trans (hopened conn.close)
    rw [hclosed] at h
    rw [if_pos hopen, if_pos hopen]
    exact h
  · rw [if_neg hopen, if_neg hopen]
    exact hopened conn

end

/-! ### Runs -/

inductive Step
  | open (user password : Text)
  | close
  | isOpen
  | startTransaction
  | commit
  | rollback

section

variable (pq : Libpq) (conn : TDBPostgreSQL)

def Step.apply : Step → TDBPostgreSQL
  | .open user password => (conn.open pq user password).2
  | .close => conn.close
  | .isOpen => (conn.checkOpen pq).2
  | .startTransaction => (conn.startTransaction pq).2
  | .commit => (conn.commit pq).2
  | .rollback => (conn.rollback pq).2

def run (steps : List Step) : TDBPostgreSQL := steps.foldl (Step.apply pq) conn

/-- What a step lets go of: the handle of a connection that is not open any more but was not
closed, when it is opened again. -/
def Step.lost : Step → List ℕ
  | .open _ _ => if conn.isOpen then [] else held conn
  | _ => []

/-- An open connection has a handle. -/
def Connected : Prop := conn.isOpen = true → conn.handle.isSome = true

variable {conn}

theorem Step.accounts (step : Step) :
    Accounts Call.events conn.log (held conn) (step.apply pq conn).log
      (held (step.apply pq conn) ++ step.lost conn) := by
  cases step with
  | «open» user password => exact open_accounts pq conn user password
  | close => exact (close_accounts conn).perm (.of_eq (List.append_nil _).symm)
  | isOpen => exact (checkOpen_accounts pq conn).perm (.of_eq (List.append_nil _).symm)
  | startTransaction => exact (command_accounts pq conn _ _).perm (.of_eq (List.append_nil _).symm)
  | commit => exact (command_accounts pq conn _ _).perm (.of_eq (List.append_nil _).symm)
  | rollback => exact (command_accounts pq conn _ _).perm (.of_eq (List.append_nil _).symm)

theorem finish_isOpen (conn : TDBPostgreSQL) : conn.finish.isOpen = false := by
  unfold finish
  split <;> rfl

theorem ended_same (conn : TDBPostgreSQL) (error : String) (result : Option ℕ) :
    (conn.ended pq error result).2.handle = conn.handle ∧
      (conn.ended pq error result).2.isOpen = conn.isOpen := by
  cases result with
  | none => exact ⟨rfl, TDBConnection.setError_isOpen ..⟩
  | some result =>
    unfold ended
    dsimp only
    split_ifs
    · exact ⟨rfl, rfl⟩
    · exact ⟨rfl, TDBConnection.setError_isOpen ..⟩

/-- A command leaves the handle and the state of the connection. -/
theorem command_same (conn : TDBPostgreSQL) (query error : String) :
    (conn.command pq query error).2.handle = conn.handle ∧
      (conn.command pq query error).2.isOpen = conn.isOpen := by
  unfold command
  split
  next => exact ended_same pq _ error _
  next => exact ⟨rfl, rfl⟩

theorem finish_connected (conn : TDBPostgreSQL) : Connected conn.finish := by
  intro hopen
  rw [finish_isOpen] at hopen
  cases hopen

theorem established_connected (conn : TDBPostgreSQL) : Connected (conn.established pq).2 := by
  unfold established
  split
  next => exact finish_connected _
  next handle hhandle =>
    dsimp only
    split_ifs
    · exact finish_connected _
    · exact fun _ => Option.isSome_of_eq_some hhandle

theorem Step.connected (step : Step) (h : Connected conn) : Connected (step.apply pq conn) := by
  have hcommand (query error : String) : Connected (conn.command pq query error).2 := by
    obtain ⟨hhandle, hopen⟩ := command_same pq conn query error
    unfold Connected
    rw [hhandle, hopen]
    exact h
  cases step with
  | «open» user password => exact established_connected pq _
  | close =>
    change Connected (if conn.isOpen then conn.finish else conn)
    split_ifs
    · exact finish_connected conn
    · exact h
  | isOpen =>
    change Connected (conn.checkOpen pq).2
    unfold checkOpen
    dsimp only
    split_ifs
    · exact Bool.noConfusion
    · exact h
    · exact h
  | startTransaction => exact hcommand _ _
  | commit => exact hcommand _ _
  | rollback => exact hcommand _ _

/-- In every run from a new connection, each handle and each result is used only while it is open
and is given back at most once. What is open in the end is the handle of the connection and those
that an opening let go of after the connection was found bad. -/
theorem connection_accounts (dbname host : Text) (port : ℤ) (user password : Text)
    (steps : List Step) :
    Connected (run pq (.create dbname host port user password) steps) ∧
    ∃ live, replay [] ((run pq (.create dbname host port user password) steps).log.flatMap
        Call.events) = some live ∧
      live.Perm ((run pq (.create dbname host port user password) steps).handle.toList ++
        lostAll (Step.apply pq) Step.lost (.create dbname host port user password) steps) := by
  obtain ⟨hconnected, haccounts⟩ := run_accounts TDBPostgreSQL.log held
    (fun _ step h => Step.connected pq step h) (fun _ step _ => Step.accounts pq step) steps
    (s := .create dbname host port user password) (by intro h; cases h)
  exact ⟨hconnected, haccounts.replays⟩

end

/-- A server whose first status is good, and that is found bad from then on. -/
def failing : Libpq where
  connects _ := true
  bad log := 2 < log.length
  answers _ := true
  completed _ := true
  errorMessage _ := []

example : lostAll (Step.apply failing) Step.lost (.create "shop".toList [] 0 [] [])
    [.open [] [], .isOpen, .open [] [], .close] = [0] := by decide +kernel

end DatabaseMod.PostgresConnection
