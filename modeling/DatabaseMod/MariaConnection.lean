import DatabaseMod.CoreQuery
import DatabaseMod.HandleLedger

/-!
# The connection to a MariaDB server

Opening, checking and closing the connection, and the commands that start and end a transaction.
The handle of an opening that failed, or of a connection that does not answer any more, is kept by
the object, but closing does not give it back.
-/

namespace DatabaseMod.MariaConnection
open SqlTokens (Text)
open CoreQuery HandleLedger

/-! ### The library -/

inductive Call
  | mysql_init (handle : Option ℕ)
  | mysql_real_connect (handle : Option ℕ) (host user password : Option Text) (dbname : Text)
      (port flags : ℤ)
  | mysql_select_db (handle : Option ℕ) (dbname : Text)
  | mysql_set_character_set (handle : Option ℕ) (name : Text)
  | mysql_get_server_version (handle : Option ℕ)
  | mysql_ping (handle : Option ℕ)
  | mysql_query (handle : Option ℕ) (query : Text)
  | mysql_error (handle : Option ℕ)
  | mysql_errno (handle : Option ℕ)
  | mysql_close (handle : Option ℕ)
deriving DecidableEq, Repr

def needs (handle : Option ℕ) : List Event := [handle.elim .misuse .use]

/-- Only closing may be given Null. -/
def Call.events : Call → List Event
  | .mysql_init handle => handle.toList.map .obtain
  | .mysql_real_connect handle .. => needs handle
  | .mysql_select_db handle _ => needs handle
  | .mysql_set_character_set handle _ => needs handle
  | .mysql_get_server_version handle => needs handle
  | .mysql_ping handle => needs handle
  | .mysql_query handle _ => needs handle
  | .mysql_error handle => needs handle
  | .mysql_errno handle => needs handle
  | .mysql_close handle => handle.toList.map (.release · true)

/-- What the library answers after the calls so far. -/
structure Libmysql where
  /-- Whether there is memory for a handle. -/
  inits : List Call → Bool
  /-- Whether the server is connected to. -/
  connects : List Call → Bool
  /-- Whether the code of a call that returns one is not zero. -/
  fails : List Call → Bool
  error : List Call → Text
  errno : List Call → ℤ
  clientVersion : ℤ
  serverVersion : List Call → ℤ

structure TDBMariaDB extends TDBConnection where
  dbname : Text
  host : Text
  port : ℤ
  user : Text
  password : Text
  /-- The options as a number. -/
  options : ℤ
  clientVersion : ℤ
  serverVersion : ℤ
  handle : Option ℕ
  log : List Call
deriving DecidableEq, Repr

namespace TDBMariaDB

variable (lib : Libmysql)

/-- `New` and `init`. -/
def create (dbname host : Text) (port : ℤ) (user password : Text) (options : ℤ) : TDBMariaDB :=
  ⟨⟨false, none⟩, dbname, host, port, user, password, options, lib.clientVersion, 0, none, []⟩

variable (conn : TDBMariaDB)

def call (c : Call) : TDBMariaDB := { conn with log := conn.log ++ [c] }

/-- An error with the number of the library. -/
def fail (error append : Text) (errorType : ErrorType) : TDBMariaDB :=
  let conn := conn.call (.mysql_errno conn.handle)
  { conn with toTDBConnection :=
      conn.toTDBConnection.setError error append errorType (lib.errno conn.log) }

/-- An error with the text of the library. -/
def failOpen (error : Text) : TDBMariaDB :=
  let conn := conn.call (.mysql_error conn.handle)
  conn.fail lib error (lib.error conn.log) .connection

def close : TDBMariaDB :=
  if conn.isOpen then
    -- the core lets go of the error
    { conn.call (.mysql_close conn.handle) with lastError := none, handle := none, isOpen := false }
  else conn

/-- `isOpen`. -/
def checkOpen : Bool × TDBMariaDB :=
  if conn.isOpen then
    let conn := conn.call (.mysql_ping conn.handle)
    if lib.fails conn.log then
      (false, { conn.fail lib "Connection has closed".toList [] .connection with isOpen := false })
    else (true, conn)
  else (false, conn)

def given (text : Text) : Option Text := if text ≠ [] then some text else none

/-- A password is sent with a user only. -/
def realConnect : Call :=
  .mysql_real_connect conn.handle (given conn.host) (given conn.user)
    (if conn.user ≠ [] then given conn.password else none) conn.dbname conn.port conn.options

def openError : Text := "Error opening database '".toList ++ conn.dbname ++ "'".toList

/-- What is asked of a server that is connected to. -/
def setUp : TDBMariaDB :=
  let conn := if 50007 ≤ conn.clientVersion then
      conn.call (.mysql_set_character_set conn.handle "utf8".toList)
    else conn
  let conn := conn.call (.mysql_get_server_version conn.handle)
  { conn with serverVersion := lib.serverVersion conn.log, isOpen := true }

def connect : Bool × TDBMariaDB :=
  let conn := conn.call conn.realConnect
  if lib.connects conn.log then
    let conn := conn.call (.mysql_select_db conn.handle conn.dbname)
    if lib.fails conn.log then (false, conn.failOpen lib conn.openError)
    else (true, conn.setUp lib)
  else (false, conn.failOpen lib "Error connecting to database".toList)

def keepUser (user password : Text) : TDBMariaDB :=
  { conn with
    user := if user ≠ [] then user else conn.user
    password := if password ≠ [] then password else conn.password }

/-- The handle of an opening, whatever the connection had before. -/
def init (handle : Option ℕ) : TDBMariaDB :=
  { conn.call (.mysql_init handle) with handle := handle }

def initAndConnect : Bool × TDBMariaDB :=
  if lib.inits conn.log then (conn.init (some conn.log.length)).connect lib
  else
    let conn := conn.init none
    (false, { conn with toTDBConnection :=
      conn.toTDBConnection.setError "Error initializing database".toList [] .connection 0 })

def «open» (user password : Text) : Bool × TDBMariaDB :=
  let conn := if conn.isOpen then conn.close else conn
  (conn.keepUser user password).initAndConnect lib

/-- The three commands of a transaction differ in their texts. -/
def command (query error : String) : Bool × TDBMariaDB :=
  if conn.isOpen then
    let conn := conn.call (.mysql_query conn.handle query.toList)
    if lib.fails conn.log then (false, conn.fail lib error.toList [] .transaction)
    else (true, conn)
  else (false, conn)

def commit : Bool × TDBMariaDB := conn.command lib "COMMIT" "Error committing transaction"

def rollback : Bool × TDBMariaDB := conn.command lib "ROLLBACK" "Error rolling back transaction"

def startTransaction : Bool × TDBMariaDB :=
  conn.command lib "BEGIN WORK" "Error starting transaction"

end TDBMariaDB

open TDBMariaDB

/-! ### The account of the handles -/

/-- What a connection holds. -/
def held (conn : TDBMariaDB) : List ℕ := conn.handle.toList

section

variable (lib : Libmysql) (conn : TDBMariaDB)

/-- A call with the handle of the connection, if there is one. -/
theorem call_accounts (hhandle : conn.handle.isSome = true) {c : Call}
    (hc : c.events = needs conn.handle) :
    Accounts Call.events conn.log (held conn) (conn.call c).log (held conn) := by
  obtain ⟨handle, hsome⟩ := Option.isSome_iff_exists.mp hhandle
  have hneeds : c.events = [.use handle] := by
    rw [hc, hsome]
    rfl
  exact .use hneeds (by simp [held, hsome])

theorem fail_accounts (hhandle : conn.handle.isSome = true) (error append : Text)
    (errorType : ErrorType) : Accounts Call.events conn.log (held conn)
      (conn.fail lib error append errorType).log (held conn) :=
  call_accounts conn hhandle rfl

theorem failOpen_accounts (hhandle : conn.handle.isSome = true) (error : Text) :
    Accounts Call.events conn.log (held conn) (conn.failOpen lib error).log (held conn) :=
  (call_accounts conn hhandle (c := .mysql_error conn.handle) rfl).trans
    (fail_accounts lib (conn.call (.mysql_error conn.handle)) hhandle _ _ _)

theorem setUp_accounts (hhandle : conn.handle.isSome = true) :
    Accounts Call.events conn.log (held conn) (conn.setUp lib).log (held conn) := by
  unfold setUp
  dsimp only
  split_ifs
  · exact (call_accounts conn hhandle (c := .mysql_set_character_set conn.handle _) rfl).trans
      (call_accounts (conn.call (.mysql_set_character_set conn.handle _)) hhandle rfl)
  · exact call_accounts conn hhandle rfl

theorem setUp_handle : (conn.setUp lib).handle = conn.handle := by
  unfold setUp
  dsimp only
  split_ifs <;> rfl

/-- Whether the connection is made or not, the handle stays. -/
theorem connect_accounts (hhandle : conn.handle.isSome = true) :
    (conn.connect lib).2.handle = conn.handle ∧
      Accounts Call.events conn.log (held conn) (conn.connect lib).2.log (held conn) := by
  have hreal := call_accounts conn hhandle (c := conn.realConnect) rfl
  have hselect := hreal.trans (call_accounts (conn.call conn.realConnect)
    (c := .mysql_select_db conn.handle conn.dbname) hhandle rfl)
  unfold connect
  dsimp only
  split_ifs
  · exact ⟨rfl, hselect.trans (failOpen_accounts lib
      ((conn.call conn.realConnect).call (.mysql_select_db conn.handle conn.dbname))
      hhandle _)⟩
  · exact ⟨setUp_handle lib _, hselect.trans (setUp_accounts lib
      ((conn.call conn.realConnect).call (.mysql_select_db conn.handle conn.dbname))
      hhandle)⟩
  · exact ⟨rfl, hreal.trans (failOpen_accounts lib (conn.call conn.realConnect) hhandle _)⟩

theorem close_accounts :
    Accounts Call.events conn.log (held conn) conn.close.log (held conn.close) := by
  unfold close
  split_ifs
  · cases hhandle : conn.handle with
    | none =>
      simp only [held, hhandle]
      exact .idle (by rfl) []
    | some handle =>
      simp only [held, hhandle]
      exact .release (by rfl) []
  · exact .refl conn.log (held conn)

theorem initAndConnect_accounts :
    Accounts Call.events conn.log (held conn) (conn.initAndConnect lib).2.log
      (held (conn.initAndConnect lib).2 ++ held conn) := by
  unfold initAndConnect
  split_ifs
  · have hinit : Accounts Call.events conn.log (held conn)
        (conn.init (some conn.log.length)).log (conn.log.length :: held conn) :=
      .obtain (by rfl) (held conn)
    obtain ⟨hhandle, hconnect⟩ := connect_accounts lib (conn.init (some conn.log.length)) rfl
    have hheld : held ((conn.init (some conn.log.length)).connect lib).2 = [conn.log.length] :=
      congrArg Option.toList hhandle
    rw [hheld]
    exact hinit.trans (hconnect.frame (held conn))
  · exact .idle (by rfl) (held conn)

/-- An opening forgets the handle that a connection still has that is not open. -/
theorem open_accounts (user password : Text) :
    Accounts Call.events conn.log (held conn) (conn.open lib user password).2.log
      (held (conn.open lib user password).2 ++ if conn.isOpen then [] else held conn) := by
  unfold TDBMariaDB.open
  by_cases hopen : conn.isOpen = true
  · have hclosed : held conn.close = [] := by
      unfold close
      rw [if_pos hopen]
      rfl
    have h := (close_accounts conn).trans
      (initAndConnect_accounts lib (conn.close.keepUser user password))
    have hkept : held (conn.close.keepUser user password) = [] := hclosed
    rw [hkept] at h
    rw [if_pos hopen, if_pos hopen]
    exact h
  · rw [if_neg hopen, if_neg hopen]
    exact initAndConnect_accounts lib (conn.keepUser user password)

/-- An open connection has a handle. -/
def Connected : Prop := conn.isOpen = true → conn.handle.isSome = true

variable {conn}

theorem checkOpen_accounts (h : Connected conn) :
    Accounts Call.events conn.log (held conn) (conn.checkOpen lib).2.log
      (held (conn.checkOpen lib).2) := by
  unfold checkOpen
  split_ifs with hopen
  · have hping := call_accounts conn (h hopen) (c := .mysql_ping conn.handle) rfl
    dsimp only
    split_ifs
    · exact hping.trans (fail_accounts lib (conn.call (.mysql_ping conn.handle))
        (h hopen) "Connection has closed".toList [] .connection)
    · exact hping
  · exact .refl conn.log (held conn)

theorem command_accounts (h : Connected conn) (query error : String) :
    Accounts Call.events conn.log (held conn) (conn.command lib query error).2.log
      (held (conn.command lib query error).2) := by
  unfold command
  split_ifs with hopen
  · have hquery := call_accounts conn (h hopen) (c := .mysql_query conn.handle query.toList) rfl
    dsimp only
    split_ifs
    · exact hquery.trans (fail_accounts lib
        (conn.call (.mysql_query conn.handle query.toList)) (h hopen) error.toList []
        .transaction)
    · exact hquery
  · exact .refl conn.log (held conn)

/-- A command leaves the handle and the state of the connection. -/
theorem command_same (conn : TDBMariaDB) (query error : String) :
    (conn.command lib query error).2.handle = conn.handle ∧
      (conn.command lib query error).2.isOpen = conn.isOpen := by
  unfold command
  dsimp only
  split_ifs
  · exact ⟨rfl, TDBConnection.setError_isOpen ..⟩
  · exact ⟨rfl, rfl⟩
  · exact ⟨rfl, rfl⟩

end

/-! ### Runs -/

inductive Step
  | open (user password : Text)
  | close
  | isOpen
  | startTransaction
  | commit
  | rollback

section

variable (lib : Libmysql) (conn : TDBMariaDB)

def Step.apply : Step → TDBMariaDB
  | .open user password => (conn.open lib user password).2
  | .close => conn.close
  | .isOpen => (conn.checkOpen lib).2
  | .startTransaction => (conn.startTransaction lib).2
  | .commit => (conn.commit lib).2
  | .rollback => (conn.rollback lib).2

def run (steps : List Step) : TDBMariaDB := steps.foldl (Step.apply lib) conn

/-- What a step lets go of: the handle that a connection has that is not open, when it is opened
again. -/
def Step.lost : Step → List ℕ
  | .open _ _ => if conn.isOpen then [] else held conn
  | _ => []

variable {conn}

theorem Step.accounts (step : Step) (h : Connected conn) :
    Accounts Call.events conn.log (held conn) (step.apply lib conn).log
      (held (step.apply lib conn) ++ step.lost conn) := by
  have hcommand (query error : String) := (command_accounts lib h query error).perm
    (.of_eq (List.append_nil _).symm)
  cases step with
  | «open» user password => exact open_accounts lib conn user password
  | close => exact (close_accounts conn).perm (.of_eq (List.append_nil _).symm)
  | isOpen => exact (checkOpen_accounts lib h).perm (.of_eq (List.append_nil _).symm)
  | startTransaction => exact hcommand _ _
  | commit => exact hcommand _ _
  | rollback => exact hcommand _ _

theorem connected_of_not_open {conn : TDBMariaDB} (hopen : conn.isOpen = false) :
    Connected conn := by
  intro h
  rw [hopen] at h
  cases h

theorem close_isOpen (conn : TDBMariaDB) : conn.close.isOpen = false := by
  unfold close
  split_ifs with hopen
  · rfl
  · exact Bool.eq_false_of_not_eq_true hopen

theorem initAndConnect_connected {conn : TDBMariaDB} (hclosed : conn.isOpen = false) :
    Connected (conn.initAndConnect lib).2 := by
  unfold initAndConnect
  split_ifs
  · intro _
    rw [(connect_accounts lib (conn.init (some conn.log.length)) rfl).1]
    rfl
  · exact connected_of_not_open ((TDBConnection.setError_isOpen ..).trans hclosed)

theorem Step.connected (step : Step) (h : Connected conn) : Connected (step.apply lib conn) := by
  have hcommand (query error : String) : Connected (conn.command lib query error).2 := by
    obtain ⟨hhandle, hopen⟩ := command_same lib conn query error
    unfold Connected
    rw [hhandle, hopen]
    exact h
  cases step with
  | «open» user password =>
    change Connected (((if conn.isOpen then conn.close else conn).keepUser user
      password).initAndConnect lib).2
    refine initAndConnect_connected lib ?_
    split_ifs with hopen
    · exact close_isOpen conn
    · exact Bool.eq_false_of_not_eq_true hopen
  | close => exact connected_of_not_open (close_isOpen conn)
  | isOpen =>
    change Connected (conn.checkOpen lib).2
    unfold checkOpen
    dsimp only
    split_ifs
    · exact connected_of_not_open rfl
    · exact h
    · exact h
  | startTransaction => exact hcommand _ _
  | commit => exact hcommand _ _
  | rollback => exact hcommand _ _

/-- In every run from a new connection, the handle of the library is there whenever a call needs
it, and it is given back at most once. What is open in the end is the handle of the connection and
those that an opening let go of: of an opening that failed before, or of a connection that did not
answer. -/
theorem connection_handles (dbname host : Text) (port : ℤ) (user password : Text) (options : ℤ)
    (steps : List Step) :
    Connected (run lib (.create lib dbname host port user password options) steps) ∧
    ∃ live, replay [] ((run lib (.create lib dbname host port user password options)
        steps).log.flatMap Call.events) = some live ∧
      live.Perm ((run lib (.create lib dbname host port user password options)
          steps).handle.toList ++
        lostAll (Step.apply lib) Step.lost (.create lib dbname host port user password options)
          steps) := by
  obtain ⟨hconnected, haccounts⟩ := run_accounts TDBMariaDB.log held
    (fun _ step h => Step.connected lib step h) (fun _ step h => Step.accounts lib step h) steps
    (s := .create lib dbname host port user password options) (connected_of_not_open rfl)
  exact ⟨hconnected, haccounts.replays⟩

end

/-- A library that makes handles but reaches no server. -/
def unreachable : Libmysql where
  inits _ := true
  connects _ := false
  fails _ := false
  error _ := []
  errno _ := 2003
  clientVersion := 100000
  serverVersion _ := 0

example : lostAll (Step.apply unreachable) Step.lost
    (.create unreachable "shop".toList [] 0 [] [] 0) [.open [] [], .close, .open [] []] = [0] := by
  decide +kernel

end DatabaseMod.MariaConnection
