import DatabaseMod.HandleLedger
import DatabaseMod.OdbcDriver

/-!
# The connection to an ODBC data source

Opening and closing the connection, and the calls that start and end a transaction. There is a
handle of the environment and one of the connection in it. A handle that cannot be freed is
forgotten like one that is.
-/

namespace DatabaseMod.OdbcConnection
open SqlTokens (Text)
open CoreValues (printInteger)
open OdbcDriver (isSQLError)
open CoreQuery HandleLedger

/-! ### The driver manager -/

inductive Call
  | allocEnv (handle : Option ℕ)
  | allocConnection (envHandle : Option ℕ) (handle : Option ℕ)
  | setEnvAttr (envHandle : Option ℕ)
  | driverConnect (handle : Option ℕ) (connect : Text)
  | envError (envHandle : Option ℕ)
  | connError (handle : Option ℕ)
  | setAutocommit (handle : Option ℕ) (on : Bool) (result : ℤ)
  | endTransaction (handle : Option ℕ) (commit : Bool) (result : ℤ)
  | disconnect (handle : ℕ)
  | freeConnection (handle : ℕ) (result : ℤ)
  | freeEnv (envHandle : ℕ) (result : ℤ)
deriving DecidableEq, Repr

def needs (handle : Option ℕ) : List Event := [handle.elim .misuse .use]

/-- The diagnostics of Null can be asked for. -/
def Call.events : Call → List Event
  | .allocEnv handle => handle.toList.map .obtain
  | .allocConnection envHandle handle => needs envHandle ++ handle.toList.map .obtain
  | .setEnvAttr envHandle => needs envHandle
  | .driverConnect handle _ => needs handle
  | .envError handle | .connError handle => handle.toList.map .use
  | .setAutocommit handle .. | .endTransaction handle .. => needs handle
  | .disconnect handle => [.use handle]
  | .freeConnection handle result | .freeEnv handle result =>
    [.release handle (!isSQLError result)]

/-- What the driver manager answers. A call for a handle that fails returns Null for it. -/
structure Odbc where
  /-- The result of the call after those so far. -/
  result : List Call → ℤ
  diagnostic : List Call → Text × ℤ

structure TDBODBC extends TDBConnection where
  dbname : Text
  host : Text
  port : ℤ
  user : Text
  password : Text
  server : Text
  envHandle : Option ℕ
  handle : Option ℕ
  log : List Call
deriving DecidableEq, Repr

namespace TDBODBC

/-- `New` and `init`. -/
def create (dbname host : Text) (port : ℤ) (user password server : Text) : TDBODBC :=
  ⟨⟨false, none⟩, dbname, host, port, user, password, server, none, none, []⟩

variable (odbc : Odbc) (conn : TDBODBC)

def call (c : Call) : TDBODBC := { conn with log := conn.log ++ [c] }

/-- `processError` with the diagnostics of the environment or of the connection. -/
def processError (c : Call) (msg : String) (errType : ErrorType) : TDBODBC :=
  let conn := conn.call c
  let err := odbc.diagnostic conn.log
  { conn with toTDBConnection := conn.toTDBConnection.setError msg.toList err.1 errType err.2 }

def connectionError (msg : String) (errType : ErrorType) : TDBODBC :=
  conn.processError odbc (.connError conn.handle) msg errType

/-! ### Opening and closing -/

/-- What the first call of closing leaves; what it returns is not looked at. -/
def freeConnection : TDBODBC :=
  match conn.handle with
  | none => conn
  | some handle =>
    let conn := conn.call (.disconnect handle)
    { conn.call (.freeConnection handle (odbc.result conn.log)) with handle := none }

def freeEnv : TDBODBC :=
  match conn.envHandle with
  | none => conn
  | some envHandle =>
    { conn.call (.freeEnv envHandle (odbc.result conn.log)) with envHandle := none }

def close : TDBODBC := ({ conn with isOpen := false }.freeConnection odbc).freeEnv odbc

/-- A text that names a driver or a server is taken as it is. -/
def source : Text :=
  if "DRIVER".toList <:+: conn.server ∨ "SERVER".toList <:+: conn.server then conn.server
  else if ".dsn".toList <:+: conn.server then "FILEDSN=".toList ++ conn.server
  else "DSN=".toList ++ conn.server

def setting (key : String) (value : Text) : Text := if value ≠ [] then key.toList ++ value else []

def connectString : Text :=
  conn.source ++ setting ";DATABASE=" conn.dbname ++ setting ";USER=" conn.user ++
    setting ";PWD=" conn.password ++ setting ";HOST=" conn.host ++
    if conn.port ≠ 0 then ";PORT=".toList ++ printInteger conn.port else []

def driverConnect : Bool × TDBODBC :=
  let result := odbc.result conn.log
  let conn := conn.call (.driverConnect conn.handle conn.connectString)
  if isSQLError result then (false, conn.connectionError odbc "Error opening connection" .connection)
  else (true, { conn with isOpen := true })

/-- The handle of the connection, whatever it was before. -/
def setHandle (handle : Option ℕ) : TDBODBC :=
  { conn.call (.allocConnection conn.envHandle handle) with handle := handle }

def allocConnection : Bool × TDBODBC :=
  let conn := conn.call (.setEnvAttr conn.envHandle)
  if isSQLError (odbc.result conn.log) then
    (false, (conn.setHandle none).connectionError odbc "Error allocating connection" .connection)
  else (conn.setHandle (some conn.log.length)).driverConnect odbc

/-- The handle of the environment, whatever it was before. -/
def setEnvHandle (envHandle : Option ℕ) : TDBODBC :=
  { conn.call (.allocEnv envHandle) with envHandle := envHandle }

def allocEnv : Bool × TDBODBC :=
  if isSQLError (odbc.result conn.log) then
    (false, (conn.setEnvHandle none).processError odbc (.envError none)
      "Error allocating environment" .connection)
  else (conn.setEnvHandle (some conn.log.length)).allocConnection odbc

def keepUser (user password : Text) : TDBODBC :=
  { conn with
    user := if user ≠ [] then user else conn.user
    password := if password ≠ [] then password else conn.password }

/-- None is the assertion that fails without a server. -/
def «open» (user password : Text) : Option Bool × TDBODBC :=
  let conn := if conn.isOpen then conn.close odbc else conn
  if conn.server = [] then (none, conn)
  else
    let r := (conn.keepUser user password).allocEnv odbc
    (some r.1, r.2)

/-! ### Transactions -/

/-- A transaction is what happens while there is no autocommit. -/
def toggleTransaction (on : Bool) (error : String) : Bool × TDBODBC :=
  let result := odbc.result conn.log
  let conn := conn.call (.setAutocommit conn.handle on result)
  if isSQLError result then (false, conn.connectionError odbc error .transaction) else (true, conn)

def startTransaction : Bool × TDBODBC :=
  if conn.isOpen then conn.toggleTransaction odbc false "Error starting transaction"
  else (false, conn)

/-- The two ends of a transaction differ in what they ask for, and in a text. -/
def endTransaction (commit : Bool) (error : String) : Bool × TDBODBC :=
  if conn.isOpen then
    let result := odbc.result conn.log
    let conn := conn.call (.endTransaction conn.handle commit result)
    if isSQLError result then (false, conn.connectionError odbc error .transaction)
    else conn.toggleTransaction odbc true "Error ending transaction"
  else (false, conn)

def commit : Bool × TDBODBC := conn.endTransaction odbc true "Error committing transaction"

def rollback : Bool × TDBODBC := conn.endTransaction odbc false "Error rolling back transaction"

end TDBODBC

open TDBODBC

/-! ### The account of the handles -/

/-- What a connection holds. -/
def held (conn : TDBODBC) : List ℕ := conn.handle.toList ++ conn.envHandle.toList

section

variable (odbc : Odbc) (conn : TDBODBC)

/-- The handle of the connection, if it is not freed. -/
def refusedConnection : List ℕ :=
  conn.handle.toList.filter fun handle =>
    isSQLError (odbc.result (conn.call (.disconnect handle)).log)

/-- The handle of the environment, if it is not freed. -/
def refusedEnv : List ℕ :=
  conn.envHandle.toList.filter fun _ => isSQLError (odbc.result conn.log)

/-- The handles that closing does not free. -/
def refused : List ℕ :=
  refusedConnection odbc { conn with isOpen := false } ++
    refusedEnv odbc ({ conn with isOpen := false }.freeConnection odbc)

/-- The handles that an opening writes over. -/
def overwritten : List ℕ :=
  conn.envHandle.toList ++ if isSQLError (odbc.result conn.log) then [] else conn.handle.toList

theorem free_accounts {log : List Call} {c : Call} {handle : ℕ} {result : ℤ}
    (hc : c.events = [.release handle (!isSQLError result)]) (more : List ℕ) :
    Accounts Call.events log (handle :: more) (log ++ [c])
      (more ++ [handle].filter fun _ => isSQLError result) := by
  cases hresult : isSQLError result with
  | true =>
    rw [hresult] at hc
    refine (Accounts.refused (by rw [hc]; rfl) (List.mem_cons_self ..)).perm ?_
    exact @List.perm_append_comm _ [handle] _
  | false =>
    rw [hresult] at hc
    exact (Accounts.release (by rw [hc]; rfl) more).perm (.of_eq (List.append_nil more).symm)

theorem freeConnection_accounts :
    Accounts Call.events conn.log (held conn) (conn.freeConnection odbc).log
      (held (conn.freeConnection odbc) ++ refusedConnection odbc conn) := by
  unfold freeConnection refusedConnection
  cases hhandle : conn.handle with
  | none => exact (Accounts.refl conn.log (held conn)).perm (.of_eq (List.append_nil _).symm)
  | some handle =>
    have hheld : held conn = handle :: conn.envHandle.toList := by rw [held, hhandle]; rfl
    have hdisconnect : Accounts Call.events conn.log (held conn)
        (conn.call (.disconnect handle)).log (handle :: conn.envHandle.toList) := by
      rw [hheld]
      exact .use (by rfl) (List.mem_cons_self ..)
    exact hdisconnect.trans (free_accounts (by rfl) conn.envHandle.toList)

theorem freeEnv_accounts (hhandle : conn.handle = none) :
    Accounts Call.events conn.log (held conn) (conn.freeEnv odbc).log
      (held (conn.freeEnv odbc) ++ refusedEnv odbc conn) := by
  unfold freeEnv refusedEnv
  cases henv : conn.envHandle with
  | none => exact (Accounts.refl conn.log (held conn)).perm (.of_eq (List.append_nil _).symm)
  | some envHandle =>
    have hheld : held conn = [envHandle] := by rw [held, hhandle, henv]; rfl
    rw [hheld]
    refine (free_accounts (by rfl) []).perm (.of_eq ?_)
    simp [held, hhandle, call]

theorem freeConnection_handle : (conn.freeConnection odbc).handle = none := by
  unfold freeConnection
  split
  next h => exact h
  next => rfl

theorem close_accounts : Accounts Call.events conn.log (held conn) (conn.close odbc).log
    (held (conn.close odbc) ++ refused odbc conn) := by
  have hconnection := freeConnection_accounts odbc { conn with isOpen := false }
  have henv := freeEnv_accounts odbc ({ conn with isOpen := false }.freeConnection odbc)
    (freeConnection_handle odbc _)
  refine (hconnection.trans (henv.frame _)).perm ?_
  rw [List.append_assoc]
  exact List.perm_append_comm.append_left _

theorem close_held : held (conn.close odbc) = [] := by
  have hhandle := freeConnection_handle odbc { conn with isOpen := false }
  unfold close freeEnv
  split
  next h => rw [held, hhandle, h]; rfl
  next => rw [held]; exact congrArg (Option.toList · ++ []) hhandle

theorem connectionError_accounts (msg : String) (errType : ErrorType) :
    Accounts Call.events conn.log (held conn) (conn.connectionError odbc msg errType).log
      (held (conn.connectionError odbc msg errType)) := by
  change Accounts Call.events conn.log (held conn) (conn.log ++ [.connError conn.handle]) (held conn)
  cases hhandle : conn.handle with
  | none => exact .idle (by rfl) (held conn)
  | some handle => exact .use (by rfl) (by rw [held, hhandle]; simp)

/-- A call with the handle of the connection, if there is one. -/
theorem call_accounts (hhandle : conn.handle.isSome = true) {c : Call}
    (hc : c.events = needs conn.handle) :
    Accounts Call.events conn.log (held conn) (conn.call c).log (held (conn.call c)) := by
  obtain ⟨handle, hsome⟩ := Option.isSome_iff_exists.mp hhandle
  have hneeds : c.events = [.use handle] := by
    rw [hc, hsome]
    rfl
  exact .use hneeds (by simp [held, hsome])

theorem driverConnect_accounts (hhandle : conn.handle.isSome = true) :
    Accounts Call.events conn.log (held conn) (conn.driverConnect odbc).2.log
      (held (conn.driverConnect odbc).2) := by
  have hcall := call_accounts conn hhandle (c := .driverConnect conn.handle conn.connectString) rfl
  unfold driverConnect
  dsimp only
  split_ifs
  · exact hcall.trans (connectionError_accounts odbc _ _ _)
  · exact hcall

/-- The handle that the connection had is written over. -/
theorem setHandle_accounts (henv : conn.envHandle.isSome = true) (handle : Option ℕ)
    (hnew : ∀ h ∈ handle, h = conn.log.length) :
    Accounts Call.events conn.log (held conn) (conn.setHandle handle).log
      (held (conn.setHandle handle) ++ conn.handle.toList) := by
  obtain ⟨envHandle, hsome⟩ := Option.isSome_iff_exists.mp henv
  have hheld : envHandle ∈ held conn := by rw [held, hsome]; simp
  cases handle with
  | none =>
    have hcall : (Call.allocConnection conn.envHandle none).events = [.use envHandle] := by
      rw [hsome]
      rfl
    exact (Accounts.use hcall hheld).perm List.perm_append_comm
  | some handle =>
    obtain rfl := hnew handle rfl
    have hcall : (Call.allocConnection conn.envHandle (some conn.log.length)).events =
        [.use envHandle, .obtain conn.log.length] := by
      rw [hsome]
      rfl
    exact (Accounts.derive hcall hheld).perm (List.perm_append_comm.cons _)

theorem allocConnection_accounts (henv : conn.envHandle.isSome = true) :
    Accounts Call.events conn.log (held conn) (conn.allocConnection odbc).2.log
      (held (conn.allocConnection odbc).2 ++ conn.handle.toList) := by
  obtain ⟨envHandle, hsome⟩ := Option.isSome_iff_exists.mp henv
  have hcall : (Call.setEnvAttr conn.envHandle).events = [.use envHandle] := by
    rw [hsome]
    rfl
  have hattr : Accounts Call.events conn.log (held conn)
      (conn.call (.setEnvAttr conn.envHandle)).log (held conn) :=
    .use hcall (by rw [held, hsome]; simp)
  have hset := setHandle_accounts (conn.call (.setEnvAttr conn.envHandle)) henv
  refine hattr.trans ?_
  unfold allocConnection
  dsimp only
  split_ifs
  · exact (hset none nofun).trans
      ((connectionError_accounts odbc _ _ _).frame conn.handle.toList)
  · exact (hset (some _) fun h hh => (Option.some.inj hh).symm).trans
      ((driverConnect_accounts odbc _ rfl).frame conn.handle.toList)

theorem allocEnv_accounts :
    Accounts Call.events conn.log (held conn) (conn.allocEnv odbc).2.log
      (held (conn.allocEnv odbc).2 ++ overwritten odbc conn) := by
  unfold allocEnv overwritten
  split_ifs
  · have hsame : held ((conn.setEnvHandle none).processError odbc (.envError none)
        "Error allocating environment" .connection) = conn.handle.toList := by
      simp [held, processError, setEnvHandle, call]
    have halloc : Accounts Call.events conn.log (held conn) (conn.setEnvHandle none).log
        (held conn) := .idle (by rfl) (held conn)
    rw [hsame, List.append_nil]
    exact halloc.trans (.idle (by rfl) (held conn))
  · have halloc : Accounts Call.events conn.log (held conn)
        (conn.setEnvHandle (some conn.log.length)).log (conn.log.length :: held conn) :=
      .obtain (by rfl) (held conn)
    have hconnection := allocConnection_accounts odbc
      (conn.setEnvHandle (some conn.log.length)) rfl
    have hmoved : (conn.log.length :: held conn).Perm
        ((conn.handle.toList ++ [conn.log.length]) ++ conn.envHandle.toList) := by
      rw [held, List.append_assoc, List.singleton_append]
      exact List.perm_middle.symm
    refine ((halloc.perm hmoved).trans (hconnection.frame conn.envHandle.toList)).perm ?_
    rw [List.append_assoc]
    exact List.perm_append_comm.append_left _

end

/-! ### Runs -/

inductive Step
  | open (user password : Text)
  | close
  | startTransaction
  | commit
  | rollback

section

variable (odbc : Odbc) (conn : TDBODBC)

def Step.apply : Step → TDBODBC
  | .open user password => (conn.open odbc user password).2
  | .close => conn.close odbc
  | .startTransaction => (conn.startTransaction odbc).2
  | .commit => (conn.commit odbc).2
  | .rollback => (conn.rollback odbc).2

def run (steps : List Step) : TDBODBC := steps.foldl (Step.apply odbc) conn

/-- What a step lets go of: handles that closing does not free, and those that an opening writes
over because an opening before has failed. -/
def Step.lost : Step → List ℕ
  | .open _ _ =>
    if conn.isOpen then refused odbc conn
    else if conn.server = [] then [] else overwritten odbc conn
  | .close => refused odbc conn
  | .startTransaction | .commit | .rollback => []

/-- An open connection has its handle. -/
def Connected : Prop := conn.isOpen = true → conn.handle.isSome = true

theorem open_accounts (user password : Text) :
    Accounts Call.events conn.log (held conn) (conn.open odbc user password).2.log
      (held (conn.open odbc user password).2 ++ (Step.open user password).lost odbc conn) := by
  have hopened (conn : TDBODBC) : Accounts Call.events conn.log (held conn)
      ((conn.keepUser user password).allocEnv odbc).2.log
      (held ((conn.keepUser user password).allocEnv odbc).2 ++ overwritten odbc conn) :=
    allocEnv_accounts odbc (conn.keepUser user password)
  unfold TDBODBC.open Step.lost
  by_cases hopen : conn.isOpen = true
  · have hover : overwritten odbc (conn.close odbc) = [] := by
      have hclosed := close_held odbc conn
      rw [held, List.append_eq_nil_iff] at hclosed
      rw [overwritten, hclosed.1, hclosed.2, ite_self, List.append_nil]
    have h := (close_accounts odbc conn).trans ((hopened (conn.close odbc)).frame (refused odbc conn))
    rw [hover, List.append_nil] at h
    rw [if_pos hopen, if_pos hopen]
    dsimp only
    split_ifs
    · exact close_accounts odbc conn
    · exact h
  · rw [if_neg hopen, if_neg hopen]
    dsimp only
    split_ifs
    · exact (Accounts.refl conn.log (held conn)).perm (.of_eq (List.append_nil _).symm)
    · exact hopened conn

theorem toggleTransaction_accounts (hhandle : conn.handle.isSome = true) (on : Bool)
    (error : String) : Accounts Call.events conn.log (held conn)
      (conn.toggleTransaction odbc on error).2.log
      (held (conn.toggleTransaction odbc on error).2) := by
  have hcall := call_accounts conn hhandle
    (c := .setAutocommit conn.handle on (odbc.result conn.log)) rfl
  unfold toggleTransaction
  dsimp only
  split_ifs
  · exact hcall.trans (connectionError_accounts odbc _ _ _)
  · exact hcall

theorem startTransaction_accounts (h : Connected conn) :
    Accounts Call.events conn.log (held conn) (conn.startTransaction odbc).2.log
      (held (conn.startTransaction odbc).2) := by
  unfold startTransaction
  split_ifs with hopen
  · exact toggleTransaction_accounts odbc conn (h hopen) false _
  · exact .refl conn.log (held conn)

theorem endTransaction_accounts (h : Connected conn) (commit : Bool) (error : String) :
    Accounts Call.events conn.log (held conn) (conn.endTransaction odbc commit error).2.log
      (held (conn.endTransaction odbc commit error).2) := by
  unfold endTransaction
  split_ifs with hopen
  · have hcall := call_accounts conn (h hopen)
      (c := .endTransaction conn.handle commit (odbc.result conn.log)) rfl
    dsimp only
    split_ifs
    · exact hcall.trans (connectionError_accounts odbc _ _ _)
    · exact hcall.trans (toggleTransaction_accounts odbc
        (conn.call (.endTransaction conn.handle commit (odbc.result conn.log)))
        (h hopen) true _)
  · exact .refl conn.log (held conn)

variable {conn}

theorem Step.accounts (step : Step) (h : Connected conn) :
    Accounts Call.events conn.log (held conn) (step.apply odbc conn).log
      (held (step.apply odbc conn) ++ step.lost odbc conn) := by
  have hend (commit : Bool) (error : String) := (endTransaction_accounts odbc conn h commit error).perm
    (.of_eq (List.append_nil _).symm)
  cases step with
  | «open» user password => exact open_accounts odbc conn user password
  | close => exact close_accounts odbc conn
  | startTransaction =>
    exact (startTransaction_accounts odbc conn h).perm (.of_eq (List.append_nil _).symm)
  | commit => exact hend true _
  | rollback => exact hend false _

theorem connected_of_not_open {conn : TDBODBC} (hopen : conn.isOpen = false) : Connected conn := by
  intro h
  rw [hopen] at h
  cases h

theorem close_isOpen (conn : TDBODBC) : (conn.close odbc).isOpen = false := by
  unfold close freeEnv freeConnection
  split <;> split <;> rfl

/-- An opening that succeeds ends with the handle that it connected. -/
theorem allocEnv_connected (conn : TDBODBC) (hopen : conn.isOpen = false) :
    Connected (conn.allocEnv odbc).2 := by
  unfold allocEnv allocConnection driverConnect
  dsimp only
  split_ifs
  · exact connected_of_not_open ((TDBConnection.setError_isOpen ..).trans hopen)
  · exact connected_of_not_open ((TDBConnection.setError_isOpen ..).trans hopen)
  · exact connected_of_not_open ((TDBConnection.setError_isOpen ..).trans hopen)
  · exact fun _ => rfl

/-- The calls of a transaction leave the handle and the state of the connection. -/
theorem toggleTransaction_same (conn : TDBODBC) (on : Bool) (error : String) :
    (conn.toggleTransaction odbc on error).2.handle = conn.handle ∧
      (conn.toggleTransaction odbc on error).2.isOpen = conn.isOpen := by
  unfold toggleTransaction
  dsimp only
  split_ifs
  · exact ⟨rfl, TDBConnection.setError_isOpen ..⟩
  · exact ⟨rfl, rfl⟩

theorem endTransaction_same (conn : TDBODBC) (commit : Bool) (error : String) :
    (conn.endTransaction odbc commit error).2.handle = conn.handle ∧
      (conn.endTransaction odbc commit error).2.isOpen = conn.isOpen := by
  unfold endTransaction
  dsimp only
  split_ifs
  · exact ⟨rfl, TDBConnection.setError_isOpen ..⟩
  · exact toggleTransaction_same odbc _ true _
  · exact ⟨rfl, rfl⟩

theorem Connected.of_same {conn conn' : TDBODBC} (h : Connected conn)
    (hsame : conn'.handle = conn.handle ∧ conn'.isOpen = conn.isOpen) : Connected conn' := by
  unfold Connected
  rw [hsame.1, hsame.2]
  exact h

theorem Step.connected (step : Step) (h : Connected conn) : Connected (step.apply odbc conn) := by
  cases step with
  | «open» user password =>
    change Connected (conn.open odbc user password).2
    have hclosed : (if conn.isOpen then conn.close odbc else conn).isOpen = false := by
      split_ifs with hopen
      · exact close_isOpen odbc conn
      · exact Bool.eq_false_of_not_eq_true hopen
    unfold TDBODBC.open
    dsimp only
    generalize (if conn.isOpen then conn.close odbc else conn) = closed at hclosed ⊢
    split_ifs
    · exact connected_of_not_open hclosed
    · exact allocEnv_connected odbc (closed.keepUser user password) hclosed
  | close => exact connected_of_not_open (close_isOpen odbc conn)
  | startTransaction =>
    change Connected (conn.startTransaction odbc).2
    unfold TDBODBC.startTransaction
    split_ifs
    · exact h.of_same (toggleTransaction_same odbc conn false _)
    · exact h
  | commit => exact h.of_same (endTransaction_same odbc conn true _)
  | rollback => exact h.of_same (endTransaction_same odbc conn false _)

/-- In every run from a new connection, a handle is there whenever a call needs it, and it is not
used or freed again after it was freed. What is open in the end are the handles of the connection,
those that closing did not free, and those that an opening wrote over. -/
theorem connection_keeps (dbname host : Text) (port : ℤ) (user password server : Text)
    (steps : List Step) :
    Connected (run odbc (.create dbname host port user password server) steps) ∧
    ∃ live, replay [] ((run odbc (.create dbname host port user password server)
        steps).log.flatMap Call.events) = some live ∧
      live.Perm (held (run odbc (.create dbname host port user password server) steps) ++
        lostAll (Step.apply odbc) (Step.lost odbc)
          (.create dbname host port user password server) steps) := by
  obtain ⟨hconnected, haccounts⟩ := run_accounts TDBODBC.log held
    (fun _ step h => Step.connected odbc step h) (fun _ step h => Step.accounts odbc step h) steps
    (s := .create dbname host port user password server) (connected_of_not_open rfl)
  exact ⟨hconnected, haccounts.replays⟩

end

/-- A driver manager whose calls succeed, up to the one that connects. -/
def unreachable : Odbc where
  result log := if log.length % 4 = 3 then -1 else 0
  diagnostic _ := ([], 0)

example : lostAll (Step.apply unreachable) (Step.lost unreachable)
    (.create [] [] 0 [] [] "shop".toList) [.open [] [], .open [] []] = [0, 2] := by decide +kernel

end DatabaseMod.OdbcConnection
