import DatabaseMod.MariaDriver

/-!
# Rounds of a prepared statement

A statement that was prepared stays with its query over any rounds of binding, executing and
fetching, as long as no fetch runs past the last row: the driver frees it there.
-/

namespace DatabaseMod.MariaRounds
open SqlTokens (Text trim)
open CoreValues CoreResultSet CoreQuery MariaDriver TMySQLResultSet

/-- A call of a round. -/
inductive RoundCall
  | bind (b : BindCall)
  | execute
  | nextRow
deriving DecidableEq, Repr

def RoundCall.call : RoundCall → QueryCall
  | .bind b => .bind b
  | .execute => .execute []
  | .nextRow => .nextRow

variable (lib : Libmariadb) (rt : Runtime)

/-- Every native call succeeds; a fetch may find that there are no more rows. -/
structure Succeeds : Prop where
  code : ∀ log c, c ≠ .stmtFetch → lib.code (log ++ [c]) = 0
  stmtInit : ∀ log, lib.stmtInit log = true

/-- The handle of the statement, the bindings of its parameters and those of its result. -/
structure Prepared (stmt : Statement) (rs : TMySQLResultSet) : Prop where
  preparedQuery : rs.preparedQuery = true
  stmtHandle : rs.stmtHandle = some stmt
  metaHandle : rs.metaHandle = stmt.columns
  parameterBindings : rs.parameterBindings.length = stmt.paramCount
  fields : rs.mySQLFields.length = (stmt.columns.getD []).length
  index : SQL_AfterLastRow ≤ rs.index

/-- The statement is prepared on the result set of a query with an open connection. -/
structure Holds (stmt : Statement) (q : TDatabaseQuery TDBMariaDB TMySQLResultSet) : Prop where
  isOpen : q.conn.isOpen = true
  prepared : ∃ rs, q.resultSet = some rs ∧ Prepared stmt rs

/-- What a call needs. A Null is not bound, and behind the last row of a result that had one
nothing is fetched. -/
def Heeded (q : TDatabaseQuery TDBMariaDB TMySQLResultSet) : RoundCall → Prop
  | .bind _ => True
  | .execute => ∀ rs ∈ q.resultSet, ∀ stmt ∈ rs.stmtHandle, stmt.paramCount = rs.bindCount →
    none ∉ rs.boundValues.take stmt.paramCount
  | .nextRow => ∀ rs ∈ q.resultSet, rs.isActive = true → 0 ≤ rs.index →
    lib.code (q.conn.log ++ [.stmtFetch]) = 0

instance (q : TDatabaseQuery TDBMariaDB TMySQLResultSet) : DecidablePred (Heeded lib q)
  | .bind _ => inferInstanceAs (Decidable True)
  | .execute => inferInstanceAs (Decidable (∀ rs ∈ q.resultSet, ∀ stmt ∈ rs.stmtHandle,
    stmt.paramCount = rs.bindCount → none ∉ rs.boundValues.take stmt.paramCount))
  | .nextRow => inferInstanceAs (Decidable (∀ rs ∈ q.resultSet, rs.isActive = true →
    0 ≤ rs.index → lib.code (q.conn.log ++ [.stmtFetch]) = 0))

/-- Every call of a run is heeded where it is made. -/
def RunHeeded : TDatabaseQuery TDBMariaDB TMySQLResultSet → List RoundCall → Prop
  | _, [] => True
  | q, c :: cs => Heeded lib q c ∧
    (q.call (driver lib rt) c.call).elim True fun r => RunHeeded r.2 cs

/-- A run up to the first call that is not heeded. -/
def runHeeded : TDatabaseQuery TDBMariaDB TMySQLResultSet → List RoundCall → Bool
  | _, [] => true
  | q, c :: cs => decide (Heeded lib q c) &&
    (q.call (driver lib rt) c.call).elim true fun r => runHeeded r.2 cs

theorem runHeeded_iff (q : TDatabaseQuery TDBMariaDB TMySQLResultSet) (cs : List RoundCall) :
    runHeeded lib rt q cs = true ↔ RunHeeded lib rt q cs := by
  induction cs generalizing q with
  | nil => exact iff_of_true rfl trivial
  | cons c cs ih =>
    unfold runHeeded RunHeeded
    rw [Bool.and_eq_true, decide_eq_true_eq]
    refine and_congr_right' ?_
    cases q.call (driver lib rt) c.call with
    | none => exact iff_of_true rfl trivial
    | some r => exact ih r.2

/-! ### Preparing -/

theorem bound_prepared (rs : TMySQLResultSet) (stmt : Statement) (fresh : ℕ → Memory)
    (hprepared : rs.preparedQuery = true) (hfields : rs.mySQLFields = [])
    (hindex : SQL_AfterLastRow ≤ rs.index) : Prepared stmt (rs.bound stmt fresh) := by
  obtain ⟨paramCount, columns⟩ := stmt
  cases columns with
  | none =>
    exact ⟨hprepared, rfl, rfl, List.length_replicate, congrArg List.length hfields, hindex⟩
  | some columns => exact ⟨hprepared, rfl, rfl, List.length_replicate, List.length_mapIdx, hindex⟩

theorem prepare_prepared {statement : Text} {s : Session} (h : (prepare lib statement s).1 = true) :
    ∃ stmt, Prepared stmt (prepare lib statement s).2.2 ∧
      (prepare lib statement s).2.1.isOpen = s.1.isOpen := by
  unfold prepare at h ⊢
  dsimp only at h ⊢
  split_ifs at h ⊢
  refine ⟨_, bound_prepared _ _ _ rfl rfl ?_, rfl⟩
  show SQL_AfterLastRow ≤ SQL_BeforeFirstRow
  decide

/-- A connection is as open as it was if the ping succeeds. -/
theorem checked_eq (hlib : Succeeds lib) (conn : TDBMariaDB) :
    conn.checked lib = conn.toTDBConnection := by
  unfold TDBMariaDB.checked TDBMariaDB.pinged
  rw [if_neg]
  rintro ⟨-, hcode⟩
  exact hcode (hlib.code _ _ nofun)

theorem finish_holds (hlib : Succeeds lib) {stmt : Statement} {r : Bool × Session}
    (hopen : r.2.1.isOpen = true) (h : Prepared stmt r.2.2) :
    ((driver lib rt).finish r).2.1.isOpen = true ∧ Prepared stmt ((driver lib rt).finish r).2.2 := by
  unfold Driver.finish
  split_ifs
  · refine ⟨?_, h⟩
    show (r.2.1.checked lib).isOpen = true
    rw [checked_eq lib hlib]
    exact hopen
  · exact ⟨hopen, h⟩

theorem prepare_holds (hlib : Succeeds lib) {q q₀ : TDatabaseQuery TDBMariaDB TMySQLResultSet}
    {statement : Text} (h : q.prepare (driver lib rt) statement = (true, q₀)) :
    ∃ stmt, Holds stmt q₀ := by
  unfold TDatabaseQuery.prepare at h
  generalize (driver lib rt).opened q.conn q.resultSet = s at h
  obtain ⟨hok, rfl⟩ := Prod.mk.injEq .. ▸ h
  unfold Driver.prepareStatement at hok ⊢
  dsimp only at hok ⊢
  split_ifs at hok ⊢ with hempty hopen
  · cases hok
  · rw [Driver.finish_ok] at hok
    obtain ⟨stmt, hprepared, hsame⟩ := prepare_prepared lib hok
    refine ⟨stmt, ?_⟩
    have hisOpen : s.1.isOpen = true := by
      change (s.1.checked lib).isOpen = true at hopen
      rwa [checked_eq lib hlib] at hopen
    obtain ⟨hconn, hrs⟩ := finish_holds lib rt hlib (hsame.trans hisOpen) hprepared
    exact ⟨hconn, _, rfl, hrs⟩
  · cases hok

/-! ### One call -/

/-- Without a Null among the values the loop reaches its end. -/
theorem bindParameters_ends {values : List (Option TDBType)} {bindings : List (Option Param)}
    (h : none ∉ values) : (bindParameters values bindings).1 = true := by
  induction values generalizing bindings with
  | nil => rfl
  | cons value values ih =>
    obtain ⟨hvalue, hvalues⟩ := not_or.mp (mt List.mem_cons.mpr h)
    cases value with
    | none => exact absurd rfl hvalue
    | some v => cases bindings with
      | nil => rfl
      | cons binding bindings => exact ih hvalues

theorem bindParameters_length (values : List (Option TDBType)) (bindings : List (Option Param)) :
    (bindParameters values bindings).2.length = bindings.length := by
  induction values generalizing bindings with
  | nil => rfl
  | cons value values ih => cases value with
    | none => rfl
    | some v => cases bindings with
      | nil => rfl
      | cons binding bindings => exact congrArg (· + 1) (ih bindings)

theorem code_call {lib : Libmariadb} (hlib : Succeeds lib) (conn : TDBMariaDB) {c : Call}
    (hc : c ≠ .stmtFetch) : ¬ lib.code (conn.call c).log ≠ 0 :=
  not_not.mpr (hlib.code conn.log c hc)

theorem run_holds (hlib : Succeeds lib) {stmt : Statement} {s : Session}
    (h : Prepared stmt s.2) :
    (run lib s).1 = true ∧ (run lib s).2.1.isOpen = s.1.isOpen ∧ Prepared stmt (run lib s).2.2 := by
  have hactive : Prepared stmt { s.2 with isActive := true } :=
    ⟨h.preparedQuery, h.stmtHandle, h.metaHandle, h.parameterBindings, h.fields, h.index⟩
  unfold run
  dsimp only
  rw [if_neg (code_call hlib s.1 (c := .stmtExecute) nofun)]
  split_ifs with hmeta hresult hstore
  · exact ⟨rfl, rfl, hactive⟩
  · exact absurd hresult (code_call hlib _ nofun)
  · exact absurd hstore (code_call hlib _ nofun)
  · exact ⟨rfl, rfl, hactive⟩

theorem execute_holds (hlib : Succeeds lib) {stmt : Statement} {s : Session}
    (h : Prepared stmt s.2)
    (hvalues : stmt.paramCount = s.2.bindCount → none ∉ s.2.boundValues.take stmt.paramCount) :
    (execute lib s).1 = true ∧ (execute lib s).2.1.isOpen = s.1.isOpen ∧
      Prepared stmt (execute lib s).2.2 := by
  have hreset : Prepared stmt { s.2 with index := SQL_BeforeFirstRow } :=
    ⟨h.preparedQuery, h.stmtHandle, h.metaHandle, h.parameterBindings, h.fields,
      show SQL_AfterLastRow ≤ SQL_BeforeFirstRow by decide⟩
  unfold execute
  dsimp only
  rw [if_neg (by simp [h.preparedQuery]), h.stmtHandle]
  dsimp only
  rw [if_neg (code_call hlib _ (c := .stmtReset) nofun)]
  unfold bindAndRun
  dsimp only
  split_ifs with hcount hends hbound
  · exact absurd hbound (code_call hlib _ nofun)
  · refine run_holds lib hlib ⟨h.preparedQuery, rfl, h.metaHandle, ?_, h.fields, hreset.index⟩
    exact (bindParameters_length _ _).trans h.parameterBindings
  · exact absurd (bindParameters_ends (hvalues hcount)) hends
  · exact run_holds lib hlib ⟨h.preparedQuery, rfl, h.metaHandle, h.parameterBindings, h.fields,
      hreset.index⟩

theorem nextRow_holds {stmt : Statement} {s : Session} (h : Prepared stmt s.2) :
    ((nextRow lib rt s).1 = true ↔ lib.code (s.1.log ++ [.stmtFetch]) = 0) ∧
      (nextRow lib rt s).2.1.isOpen = s.1.isOpen ∧ Prepared stmt (nextRow lib rt s).2.2 := by
  have hindex := h.index
  unfold nextRow
  rw [if_pos h.preparedQuery, if_neg (by simp [h.stmtHandle])]
  dsimp only [TDBMariaDB.call]
  split_ifs with hcode
  · exact ⟨iff_of_false nofun hcode, rfl, h⟩
  · refine ⟨iff_of_true rfl (not_not.mp hcode), rfl, h.preparedQuery, h.stmtHandle, h.metaHandle,
      h.parameterBindings, List.length_mapIdx.trans h.fields, ?_⟩
    dsimp only
    omega

/-- No call of a round but a fetch behind the last row lets the statement go. -/
theorem fetch_holds {stmt : Statement} {s : Session} (h : Prepared stmt s.2)
    (hfetch : s.2.isActive = true → 0 ≤ s.2.index → lib.code (s.1.log ++ [.stmtFetch]) = 0) :
    ((driver lib rt).fetch s).2.1.isOpen = s.1.isOpen ∧
      Prepared stmt ((driver lib rt).fetch s).2.2 := by
  obtain ⟨hok, hopen, hprepared⟩ := nextRow_holds lib rt h
  have hindex := h.index
  unfold Driver.fetch
  dsimp only [driver]
  split_ifs with hactive hfirst hlast hnext
  · unfold firstRow
    rw [if_pos hfirst]
    exact ⟨hopen, hprepared⟩
  · exact ⟨rfl, h⟩
  · exact ⟨hopen, hprepared⟩
  · refine absurd (hok.mpr (hfetch hactive ?_)) hnext
    simp only [SQL_AfterLastRow, SQL_BeforeFirstRow] at hindex hfirst hlast
    omega
  · exact ⟨rfl, h⟩

theorem bind_apply_prepared {stmt : Statement} {rs : TMySQLResultSet} (h : Prepared stmt rs)
    (b : BindCall) : Prepared stmt { rs with toTQueryResultSet := b.apply rs.toTQueryResultSet } := by
  have hindex : (b.apply rs.toTQueryResultSet).index = rs.index := by
    cases b <;> rfl
  exact ⟨h.preparedQuery, h.stmtHandle, h.metaHandle, h.parameterBindings, h.fields,
    hindex ▸ h.index⟩

theorem executePrepared_holds (hlib : Succeeds lib) {stmt : Statement} {s : Session}
    (hopen : s.1.isOpen = true) (h : Prepared stmt s.2)
    (hvalues : stmt.paramCount = s.2.bindCount → none ∉ s.2.boundValues.take stmt.paramCount) :
    ((driver lib rt).executePrepared s).1 = true ∧
      ((driver lib rt).executePrepared s).2.1.isOpen = true ∧
        Prepared stmt ((driver lib rt).executePrepared s).2.2 := by
  obtain ⟨hok, hsame, hprepared⟩ := execute_holds lib hlib h hvalues
  have hchecked : ((driver lib rt).connection s.1).isOpen = true := by
    show (s.1.checked lib).isOpen = true
    rw [checked_eq lib hlib]
    exact hopen
  unfold Driver.executePrepared
  rw [if_pos hchecked, Driver.finish_ok]
  exact ⟨hok, finish_holds lib rt hlib (hsame.trans hopen) hprepared⟩

/-- A heeded call can be made; it keeps the statement, and an execution succeeds. -/
theorem call_holds (hlib : Succeeds lib) {stmt : Statement}
    {q : TDatabaseQuery TDBMariaDB TMySQLResultSet} (h : Holds stmt q) {c : RoundCall}
    (hc : Heeded lib q c) :
    ∃ ok q', q.call (driver lib rt) c.call = some (ok, q') ∧ Holds stmt q' ∧
      (c = .execute → ok = true) := by
  obtain ⟨conn, resultSet⟩ := q
  obtain ⟨hopen, rs, hresult, hprepared⟩ := h
  obtain rfl : resultSet = some rs := hresult
  cases c with
  | bind b => exact ⟨true, _, rfl, ⟨hopen, _, rfl, bind_apply_prepared hprepared b⟩, nofun⟩
  | execute =>
    obtain ⟨hok, hopen', hprepared'⟩ := executePrepared_holds lib rt hlib (s := (conn, rs)) hopen
      hprepared (hc rs rfl stmt hprepared.stmtHandle)
    exact ⟨_, _, rfl, ⟨hopen', _, rfl, hprepared'⟩, fun _ => hok⟩
  | nextRow =>
    obtain ⟨hsame, hprepared'⟩ := fetch_holds lib rt (s := (conn, rs)) hprepared (hc rs rfl)
    exact ⟨_, _, rfl, ⟨hsame.trans hopen, _, rfl, hprepared'⟩, nofun⟩

/-! ### Runs -/

/-- After a statement was prepared, and with native calls that succeed, every run of rounds in
which each call is heeded can be made. All of its executions return `True`, and the statement,
its parameter bindings and its result bindings are there at the end. -/
theorem executes_every_round (hlib : Succeeds lib)
    {q q₀ : TDatabaseQuery TDBMariaDB TMySQLResultSet} {statement : Text}
    (hprepare : q.prepare (driver lib rt) statement = (true, q₀)) :
    ∃ stmt, Holds stmt q₀ ∧ ∀ cs : List RoundCall, RunHeeded lib rt q₀ cs →
      ∃ results q', q₀.calls (driver lib rt) (cs.map RoundCall.call) = some (results, q') ∧
        (∀ r ∈ results, r.1 = .execute [] → r.2 = true) ∧ Holds stmt q' := by
  obtain ⟨stmt, hholds⟩ := prepare_holds lib rt hlib hprepare
  refine ⟨stmt, hholds, fun cs hcs => ?_⟩
  clear hprepare
  induction cs generalizing q₀ with
  | nil => exact ⟨[], q₀, rfl, fun r hr => absurd hr List.not_mem_nil, hholds⟩
  | cons c cs ih =>
    obtain ⟨hc, hrest⟩ := hcs
    obtain ⟨ok, q₁, hcall, hholds₁, hok⟩ := call_holds lib rt hlib hholds hc
    rw [hcall] at hrest
    obtain ⟨results, q', hcalls, hresults, hholds'⟩ := ih hholds₁ hrest
    refine ⟨(c.call, ok) :: results, q', ?_, ?_, hholds'⟩
    · simp only [List.map_cons, TDatabaseQuery.calls, hcall, hcalls, Option.bind_eq_bind,
        Option.bind_some]
    · intro r hr hexecute
      rcases List.mem_cons.mp hr with rfl | hr
      · cases c with
        | execute => exact hok rfl
        | bind b => cases hexecute
        | nextRow => cases hexecute
      · exact hresults r hr hexecute

theorem oneRow_succeeds : Succeeds oneRow where
  code log c hc := by
    refine if_neg ?_
    rw [List.getLast?_concat]
    rintro ⟨hlast, -⟩
    exact hc (Option.some.inj hlast)
  stmtInit _ := rfl

/-- A query on an open connection, after its statement was prepared. -/
def preparedQuery : TDatabaseQuery TDBMariaDB TMySQLResultSet :=
  ((TDatabaseQuery.create opened).prepare (driver oneRow plain)
    "SELECT n FROM t".toList).2

theorem preparedQuery_eq : (TDatabaseQuery.create opened).prepare
    (driver oneRow plain) "SELECT n FROM t".toList = (true, preparedQuery) :=
  Prod.ext (by decide +kernel) rfl

def partlyRead : List RoundCall := [.execute, .nextRow, .execute]

theorem partlyRead_heeded : RunHeeded oneRow plain preparedQuery partlyRead :=
  (runHeeded_iff oneRow plain preparedQuery partlyRead).mp (by decide +kernel)

/-- The row is read, and the statement executed again before a fetch finds none. -/
theorem executes_every_round_partly_read :
    ∃ stmt, Holds stmt preparedQuery ∧ ∃ results q', preparedQuery.calls (driver oneRow plain)
      (partlyRead.map RoundCall.call) = some (results, q') ∧
        (∀ r ∈ results, r.1 = .execute [] → r.2 = true) ∧ Holds stmt q' := by
  obtain ⟨stmt, hholds, hruns⟩ := executes_every_round oneRow plain oneRow_succeeds preparedQuery_eq
  exact ⟨stmt, hholds, hruns partlyRead partlyRead_heeded⟩

/-- All rows are read, and the second execution fails although every native call succeeds. -/
theorem second_round_fails : Succeeds oneRow ∧
    (TDatabaseQuery.create opened).prepare (driver oneRow plain)
      "SELECT n FROM t".toList = (true, preparedQuery) ∧
    (preparedQuery.calls (driver oneRow plain)
      [.execute [], .nextRow, .nextRow, .execute []]).map (fun r => r.1.map (·.2)) =
        some [true, true, false, false] :=
  ⟨oneRow_succeeds, preparedQuery_eq, by decide +kernel⟩

end DatabaseMod.MariaRounds
