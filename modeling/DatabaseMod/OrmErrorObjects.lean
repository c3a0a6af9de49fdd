import DatabaseMod.CoreErrorObjects
import DatabaseMod.OrmFailures
import DatabaseMod.SqliteReporting

/-!
# The error object of an exception

A database exception of the ORM holds the error object of the connection. How long the object
goes on to describe the failure depends on what later operations on the connection write into it.
-/

namespace DatabaseMod.OrmErrorObjects
open SqlTokens (Text trim)
open CoreValues CoreResultSet CoreQuery CoreErrorObjects OrmModel OrmOperations

/-- The exception with the address of its error object. -/
structure TOrmDatabaseException extends TOrmException where
  sql : Text
  dbError : ℕ
deriving DecidableEq, Repr

/-- What `Prepare` or `Execute` of a query returned, and what they did about the error. -/
structure Attempt where
  ok : Bool
  calls : List ErrorCall
deriving DecidableEq, Repr

section

variable {C RS Slot : Type} (o : TOrm C RS Slot)

def queryError (sql : Text) (message : Option Text) (σ : Errors) :
    TOrmDatabaseException × Errors :=
  let r := σ.error
  let err := o.createDatabaseException sql ((r.2.read r.1).getD .new) message
  (⟨err.toTOrmException, err.sql, r.1⟩, r.2)

def prepareQuery (sql : Text) (attempt : Attempt) (σ : Errors) :
    Option TOrmDatabaseException × Errors :=
  let σ := σ.run attempt.calls
  if attempt.ok then (none, σ)
  else
    let err := queryError o (o.dialect.rewritePlaceholders sql) none σ
    (some err.1, err.2)

def executeQuery (sql : Text) (msg : Option Text) (attempt : Attempt) (σ : Errors) :
    Option TOrmDatabaseException × Errors :=
  let σ := σ.run attempt.calls
  if attempt.ok then (none, σ)
  else
    let err := queryError o sql msg σ
    (some err.1, err.2)

end

/-! ### An object and the operations after it -/

/-- The last write of each operation, while the connection keeps the object, is this error. -/
def Spares (e : TDatabaseError) : List (List ErrorCall) → Prop
  | [] => True
  | op :: ops => (∀ e' ∈ finalWrite (live op), e' = e) ∧ (.free ∈ op ∨ Spares e ops)

theorem reads_iff_spares {σ : Errors} {a : ℕ} {e : TDatabaseError} (h : σ.lastError = some a)
    (hread : σ.read a = some e) (ops : List (List ErrorCall)) :
    (∀ before, before <+: ops → (σ.run before.flatten).read a = some e) ↔ Spares e ops := by
  induction ops generalizing σ with
  | nil =>
    refine iff_of_true (fun before hbefore => ?_) trivial
    rw [List.prefix_nil.mp hbefore]
    exact hread
  | cons op ops ih =>
    obtain ⟨hafter, hlast, hlt⟩ := Errors.run_kept h op
    have hop : (σ.run op).read a = some e ↔ ∀ e' ∈ finalWrite (live op), e' = e := by
      rw [hafter, hread]
      cases finalWrite (live op) <;> simp
    have hsplit : (∀ before, before <+: op :: ops → (σ.run before.flatten).read a = some e) ↔
        ∀ before, before <+: ops → ((σ.run op).run before.flatten).read a = some e := by
      constructor
      · intro hall before hbefore
        have hcons := hall (op :: before) (List.cons_prefix_cons.mpr ⟨rfl, hbefore⟩)
        rw [List.flatten_cons, Errors.run_append] at hcons
        exact hcons
      · intro hall before hbefore
        rcases List.prefix_cons_iff.mp hbefore with rfl | ⟨rest, rfl, hrest⟩
        · exact hread
        · rw [List.flatten_cons, Errors.run_append]
          exact hall rest hrest
    rw [hsplit, Spares, ← hop]
    constructor
    · intro hall
      have hnow := hall [] List.nil_prefix
      refine ⟨hnow, ?_⟩
      by_cases hfree : .free ∈ op
      · exact .inl hfree
      · exact .inr ((ih (hlast.mpr hfree) hnow).mp hall)
    · rintro ⟨hnow, hrest⟩ before hbefore
      by_cases hfree : .free ∈ op
      · obtain ⟨-, hsame, -⟩ := Errors.run_dropped (fun heq => (hlast.mp heq) hfree) hlt before.flatten
        rw [hsame, hnow]
      · exact (ih (hlast.mpr hfree) hnow).mpr (hrest.resolve_left hfree) before hbefore

/-! ### Exceptions -/

section

variable {C RS Slot : Type} (o : TOrm C RS Slot)

/-- The exception shows the error that it was made with. -/
def Describes (x : TOrmDatabaseException) (e : TDatabaseError) (σ : Errors) : Prop :=
  σ.read x.dbError = some e ∧ e.isSet = true

theorem queryError_keeps (sql : Text) (message : Option Text) (σ : Errors) :
    (queryError o sql message σ).2.lastError = some (queryError o sql message σ).1.dbError := by
  unfold queryError Errors.error
  dsimp only
  split
  next a h => exact h
  next => rfl

theorem thrown_keeps {sql : Text} {msg : Option Text} {attempt : Attempt} {σ σ' : Errors}
    {x : TOrmDatabaseException} (h : prepareQuery o sql attempt σ = (some x, σ') ∨
      executeQuery o sql msg attempt σ = (some x, σ')) : σ'.lastError = some x.dbError := by
  rcases h with h | h
  · unfold prepareQuery at h
    dsimp only at h
    split_ifs at h
    · cases h
    · obtain ⟨hx, rfl⟩ := Prod.mk.inj h
      obtain rfl := Option.some.inj hx
      exact queryError_keeps o _ _ _
  · unfold executeQuery at h
    dsimp only at h
    split_ifs at h
    · cases h
    · obtain ⟨hx, rfl⟩ := Prod.mk.inj h
      obtain rfl := Option.some.inj hx
      exact queryError_keeps o _ _ _

/-- After each of any later operations the exception shows the error that it was made with,
exactly if that was set and each operation leaves it or writes the same error last. -/
theorem describes_iff {sql : Text} {msg : Option Text} {attempt : Attempt} {σ σ' : Errors}
    {x : TOrmDatabaseException} (h : prepareQuery o sql attempt σ = (some x, σ') ∨
      executeQuery o sql msg attempt σ = (some x, σ')) (ops : List (List ErrorCall)) :
    ∃ e, σ'.read x.dbError = some e ∧
      ((∀ before, before <+: ops → Describes x e (σ'.run before.flatten)) ↔
        e.isSet = true ∧ Spares e ops) := by
  have hkeeps := thrown_keeps o h
  obtain ⟨e, hread, -⟩ := Errors.view_some true hkeeps
  refine ⟨e, hread, ?_⟩
  rw [← reads_iff_spares hkeeps hread ops]
  constructor
  · intro hall
    exact ⟨(hall [] List.nil_prefix).2, fun before hbefore => (hall before hbefore).1⟩
  · rintro ⟨hset, hall⟩ before hbefore
    exact ⟨hall before hbefore, hset⟩

end

/-! ### The calls that drivers make -/

/-- The contents of the error after these calls; whether the connection is open has no part in it. -/
def errorAfter (calls : List ErrorCall) (e : Option TDatabaseError) : Option TDatabaseError :=
  (applyAll calls ⟨true, e⟩).lastError

theorem apply_lastError (c : ErrorCall) {conn conn' : TDBConnection}
    (h : conn.lastError = conn'.lastError) : (c.apply conn).lastError = (c.apply conn').lastError := by
  obtain ⟨isOpen, e⟩ := conn
  obtain ⟨isOpen', e'⟩ := conn'
  obtain rfl : e = e' := h
  cases c <;> cases e <;> rfl

theorem applyAll_lastError (calls : List ErrorCall) {conn conn' : TDBConnection}
    (h : conn.lastError = conn'.lastError) :
    (applyAll calls conn).lastError = (applyAll calls conn').lastError := by
  induction calls generalizing conn conn' with
  | nil => exact h
  | cons c calls ih => exact ih (apply_lastError c h)

theorem errorAfter_append (calls calls' : List ErrorCall) (e : Option TDatabaseError) :
    errorAfter (calls ++ calls') e = errorAfter calls' (errorAfter calls e) := by
  rw [errorAfter, applyAll, List.foldl_append]
  exact applyAll_lastError calls' rfl

/-- Calls that keep the object lead from one error to the other. -/
def Leads (before after : Option TDatabaseError) : Prop :=
  ∃ calls, .free ∉ calls ∧ errorAfter calls before = after

theorem Leads.refl (e : Option TDatabaseError) : Leads e e := ⟨[], by simp, rfl⟩

theorem Leads.trans {e₁ e₂ e₃ : Option TDatabaseError} (h : Leads e₁ e₂) (h' : Leads e₂ e₃) :
    Leads e₁ e₃ := by
  obtain ⟨calls, hfree, rfl⟩ := h
  obtain ⟨calls', hfree', rfl⟩ := h'
  exact ⟨calls ++ calls', by simp [hfree, hfree'], errorAfter_append calls calls' e₁⟩

theorem Leads.of_eq {e e' : Option TDatabaseError} (h : e' = e) : Leads e e' := h ▸ .refl e

theorem leads_call {c : ErrorCall} (hc : c ≠ .free) (conn : TDBConnection) :
    Leads conn.lastError (c.apply conn).lastError :=
  ⟨[c], by simpa using hc.symm, apply_lastError c rfl⟩

theorem leads_setError (conn : TDBConnection) (error append : Text) (eType : ErrorType)
    (errorValue : ℤ) : Leads conn.lastError (conn.setError error append eType errorValue).lastError :=
  leads_call (c := .setError ⟨error, append, eType, errorValue⟩) (by simp) conn

section

variable {C RS : Type} (D : Driver C RS)

def lastErrorOf (conn : C) : Option TDatabaseError := (D.connection conn).lastError

/-- The operation does nothing about the error but through the methods of the connection. -/
def Through (f : C × RS → C × RS) : Prop := ∀ s, Leads (lastErrorOf D s.1) (lastErrorOf D (f s).1)

/-- A driver that only uses the methods of the connection on its error. -/
structure ThroughMethods : Prop where
  set : ∀ conn base, lastErrorOf D (D.setConnection conn base) = base.lastError
  createResultSet : ∀ conn, lastErrorOf D (D.createResultSet conn).1 = lastErrorOf D conn
  clear : ∀ s, lastErrorOf D (D.clear s).1 = lastErrorOf D s.1
  free : ∀ s, lastErrorOf D (D.free s).1 = lastErrorOf D s.1
  prepare : ∀ statement, Through D fun s => (D.prepare statement s).2
  executeQuery : ∀ statement, Through D fun s => (D.executeQuery statement s).2
  execute : Through D fun s => (D.execute s).2
  firstRow : Through D fun s => (D.firstRow s).2
  nextRow : Through D fun s => (D.nextRow s).2
  reset : Through D D.reset

variable {D} (hD : ThroughMethods D)

include hD

theorem opened_error (conn : C) (resultSet : Option RS) :
    lastErrorOf D (D.opened conn resultSet).1 = lastErrorOf D conn := by
  cases resultSet with
  | none => exact hD.createResultSet conn
  | some rs => exact hD.clear (conn, rs)

theorem raise_leads (s : C × RS) (error : String) (eType : ErrorType) :
    Leads (lastErrorOf D s.1) (lastErrorOf D (D.raise s error eType).2.1) := by
  unfold Driver.raise
  rw [hD.set]
  exact leads_setError (D.connection s.1) _ _ _ _

/-- A success resets the error last. -/
structure Ends (ok : Bool) (before after : Option TDatabaseError) : Prop where
  leads : Leads before after
  resets : ok = true → ∃ calls, .free ∉ calls ∧ errorAfter (calls ++ [.resetError]) before = after

omit hD in
theorem Ends.of_failed {before after : Option TDatabaseError} (h : Leads before after) :
    Ends false before after := ⟨h, by simp⟩

theorem finish_ends {e : Option TDatabaseError} {r : Bool × C × RS}
    (h : Leads e (lastErrorOf D r.2.1)) : Ends r.1 e (lastErrorOf D (D.finish r).2.1) := by
  unfold Driver.finish
  split_ifs with hok
  · obtain ⟨calls, hfree, hcalls⟩ := h
    have hreset : errorAfter (calls ++ [.resetError]) e =
        lastErrorOf D (D.setConnection r.2.1 (D.connection r.2.1).resetError) := by
      rw [errorAfter_append, hcalls, hD.set]
      exact apply_lastError .resetError rfl
    exact ⟨⟨calls ++ [.resetError], by simp [hfree], hreset⟩, fun _ => ⟨calls, hfree, hreset⟩⟩
  · exact ⟨h, fun hr => absurd hr hok⟩

theorem prepareStatement_ends (statement : Text) (s : C × RS) :
    Ends (D.prepareStatement statement s).1 (lastErrorOf D s.1)
      (lastErrorOf D (D.prepareStatement statement s).2.1) := by
  unfold Driver.prepareStatement
  dsimp only
  split_ifs
  · exact .of_failed (raise_leads hD s _ _)
  · rw [Driver.finish_ok]
    exact finish_ends hD (hD.prepare statement (D.setQuery (trim statement) s))
  · exact .of_failed (raise_leads hD (D.setQuery (trim statement) s) _ _)

theorem executeStatement_ends (statement : Text) (s : C × RS) :
    Ends (D.executeStatement statement s).1 (lastErrorOf D s.1)
      (lastErrorOf D (D.executeStatement statement s).2.1) := by
  unfold Driver.executeStatement
  dsimp only
  split_ifs
  · exact .of_failed (raise_leads hD s _ _)
  · rw [Driver.finish_ok]
    exact finish_ends hD (hD.executeQuery statement (D.setQuery (trim statement) s))
  · exact .of_failed (raise_leads hD (D.setQuery (trim statement) s) _ _)

theorem executePrepared_ends (s : C × RS) :
    Ends (D.executePrepared s).1 (lastErrorOf D s.1) (lastErrorOf D (D.executePrepared s).2.1) := by
  unfold Driver.executePrepared
  split_ifs
  · rw [Driver.finish_ok]
    exact finish_ends hD (hD.execute s)
  · exact .of_failed (raise_leads hD s _ _)

theorem fetch_leads (s : C × RS) :
    Leads (lastErrorOf D s.1) (lastErrorOf D (D.fetch s).2.1) := by
  have hnext : Leads (lastErrorOf D s.1) (lastErrorOf D (D.nextRow s).2.1) := hD.nextRow s
  unfold Driver.fetch
  dsimp only
  split_ifs
  · exact hD.firstRow s
  · exact .refl _
  · exact hnext
  · exact hnext.trans (hD.reset ((D.nextRow s).2.1, D.setBase (D.nextRow s).2.2 _))
  · exact .refl _

/-- Whatever is called on a query, the connection's error is changed by calls of its methods, and
a statement that is prepared or executed with success resets it last. -/
theorem call_ends {q q' : TDatabaseQuery C RS} {c : QueryCall} {b : Bool}
    (h : q.call D c = some (b, q')) :
    Leads (lastErrorOf D q.conn) (lastErrorOf D q'.conn) ∧
      (∀ statement, c = .prepare statement ∨ c = .execute statement →
        Ends b (lastErrorOf D q.conn) (lastErrorOf D q'.conn)) := by
  cases c with
  | prepare statement =>
    cases h
    have hends := prepareStatement_ends hD statement (D.opened q.conn q.resultSet)
    rw [opened_error hD] at hends
    exact ⟨hends.leads, fun _ _ => hends⟩
  | execute statement =>
    change q.execute D statement = some (b, q') at h
    unfold TDatabaseQuery.execute at h
    split at h
    · cases h
      have hends := executeStatement_ends hD statement (D.opened q.conn q.resultSet)
      rw [opened_error hD] at hends
      exact ⟨hends.leads, fun _ _ => hends⟩
    · split at h
      next rs hrs =>
        cases h
        have hends := executePrepared_ends hD (q.conn, rs)
        exact ⟨hends.leads, fun _ _ => hends⟩
      next hnone =>
        dsimp only at h
        split at h
        · cases h
        · cases h
          have hleads : Leads (lastErrorOf D q.conn) (lastErrorOf D (D.setConnection q.conn
              ((D.connection q.conn).setError "The connection is not open".toList [] .connection
                0))) := by
            rw [hD.set]
            exact leads_setError _ _ _ _ _
          exact ⟨hleads, fun _ _ => .of_failed hleads⟩
  | nextRow =>
    have hq : (q.nextRow D).2 = q' := congrArg Prod.snd (Option.some.inj h)
    rw [← hq, TDatabaseQuery.nextRow]
    refine ⟨?_, by simp⟩
    split
    next => exact .refl _
    next rs hrs => exact fetch_leads hD (q.conn, rs)
  | bind bound =>
    cases h
    exact ⟨.refl _, by simp⟩

end

/-! ### The drivers of the ORM -/

section

open SqlEngine SqliteDriver SqliteSteps SqliteDriver.TSQLiteResultSet

variable (e : Engine) (conv : Conversions)

theorem free_lastError (s : Session) : (free s).1.lastError = s.1.lastError :=
  congrArg TDBConnection.lastError (removeQuery_connection s.1 s.2.id)

theorem sqlite_nextRow (s : Session) : Leads s.1.lastError (nextRow e s).2.1.lastError := by
  unfold nextRow
  dsimp only
  split_ifs
  · exact .refl _
  · split
    next => exact .refl _
    next => exact .refl _
    next code _ => exact leads_setError s.1.toTDBConnection _ [] .statement code.code

theorem sqlite_prefetch {s : Session} {error : Option TDatabaseError} (h : s.1.lastError = error) :
    Leads error (prefetch e s).2.1.lastError := by
  subst h
  have herror := (sqlite_nextRow e s).trans
    (leads_call (c := .error) (by simp) (nextRow e s).2.1.toTDBConnection)
  unfold prefetch
  dsimp only
  split_ifs
  · exact herror
  · exact herror

theorem sqlite_execute (s : Session) : Leads s.1.lastError (execute e conv s).2.1.lastError := by
  unfold execute
  dsimp only
  split
  next code _ =>
    rw [free_lastError]
    exact leads_setError s.1.toTDBConnection _ _ _ _
  next =>
    split_ifs
    · split
      next => exact sqlite_prefetch e rfl
      next i code _ =>
        rw [free_lastError]
        exact leads_setError s.1.toTDBConnection _ _ _ _
    · rw [free_lastError]
      exact leads_setError s.1.toTDBConnection _ _ _ _

theorem sqlite_prepare (statement : Text) (s : Session) :
    Leads s.1.lastError (prepare e statement s).2.1.lastError := by
  have hcleaned : ((cleanup s).1.addQuery (cleanup s).2.id).lastError = s.1.lastError := by
    rw [addQuery_connection]
    exact free_lastError _
  unfold prepare
  dsimp only
  generalize (if (cleanup s).2.query = [] then statement else (cleanup s).2.query) = query
  by_cases hopen : ¬ s.1.isOpen = true
  · rw [if_pos hopen]
    exact .refl _
  · rw [if_neg hopen]
    split
    next code _ =>
      rw [free_lastError, ← hcleaned]
      exact leads_setError ((cleanup s).1.addQuery (cleanup s).2.id).toTDBConnection _ _ _ _
    next => exact .of_eq hcleaned

theorem sqlite_executeQuery (statement : Text) (s : Session) :
    Leads s.1.lastError
      (SqliteDriver.TSQLiteResultSet.executeQuery e conv statement s).2.1.lastError := by
  unfold SqliteDriver.TSQLiteResultSet.executeQuery
  dsimp only
  split_ifs
  · exact (sqlite_prepare e statement s).trans (sqlite_execute e conv _)
  · exact sqlite_prepare e statement s

theorem sqlite_throughMethods : ThroughMethods (SqliteDriver.driver e conv) where
  set _ _ := rfl
  createResultSet conn := congrArg TDBConnection.lastError (addQuery_connection conn conn.created)
  clear _ := rfl
  free := free_lastError
  prepare := sqlite_prepare e
  executeQuery := sqlite_executeQuery e conv
  execute := sqlite_execute e conv
  firstRow s := by
    change Leads s.1.lastError (firstRow e s).2.1.lastError
    unfold firstRow
    split_ifs
    · exact sqlite_nextRow e s
    · exact .refl _
  nextRow := sqlite_nextRow e
  reset _ := .refl _

end

section

open PostgresDriver PostgresDriver.TPostgreSQLResultSet

variable (pq : Libpq) (rt : Runtime)

theorem postgres_executeQuery (statement : Text) (s : Session) :
    Leads s.1.lastError
      (PostgresDriver.TPostgreSQLResultSet.executeQuery pq statement s).2.1.lastError := by
  unfold PostgresDriver.TPostgreSQLResultSet.executeQuery
  dsimp only
  split_ifs
  · split
    next => exact .refl _
    next => exact leads_setError (s.1.checked pq) _ _ _ _
    next => exact .refl _
    next => exact .refl _
  · exact .refl _

theorem postgres_prepare (statement : Text) (s : Session) :
    Leads s.1.lastError (prepare pq statement s).2.1.lastError := by
  have hreleased : Leads s.1.lastError (releaseName pq (s.1, s.2.cleanup)).1.lastError := by
    unfold releaseName
    dsimp only
    split_ifs
    · exact .refl _
    · exact postgres_executeQuery pq _ (s.1, s.2.cleanup)
  unfold prepare
  dsimp only
  split_ifs
  · exact .refl _
  · split
    next => exact hreleased
    next => exact hreleased
    next =>
      exact hreleased.trans
        (leads_setError (releaseName pq (s.1, s.2.cleanup)).1.toTDBConnection _ _ _ _)

theorem postgres_execute (s : Session) :
    Leads s.1.lastError (execute pq rt s).2.1.lastError := by
  unfold execute
  dsimp only
  split
  next => exact leads_setError s.1.toTDBConnection _ _ _ _
  next => exact leads_setError s.1.toTDBConnection _ _ _ _
  next => exact .refl _
  next => exact .refl _

theorem postgres_nextRow (s : Session) : (nextRow pq rt s).2.1 = s.1 := by
  unfold nextRow
  dsimp only
  split_ifs <;> rfl

theorem postgres_throughMethods : ThroughMethods (PostgresDriver.driver pq rt) where
  set _ _ := rfl
  createResultSet _ := rfl
  clear _ := rfl
  free _ := rfl
  prepare := postgres_prepare pq
  executeQuery := postgres_executeQuery pq
  execute := postgres_execute pq rt
  firstRow s := by
    change Leads s.1.lastError (firstRow pq rt s).2.1.lastError
    unfold firstRow
    split_ifs
    · rw [postgres_nextRow]
      exact .refl _
    · exact .refl _
  nextRow s := .of_eq (congrArg (fun conn => conn.lastError) (postgres_nextRow pq rt s))
  reset _ := .refl _

end

/-! ### Objects and contents -/

section

variable {C RS Slot : Type} (o : TOrm C RS Slot)

def content (σ : Errors) : Option TDatabaseError := σ.lastError.bind σ.read

theorem content_run (calls : List ErrorCall) (σ : Errors) :
    content (σ.run calls) = errorAfter calls (content σ) :=
  congrArg TDBConnection.lastError (Errors.view_run σ true calls)

theorem content_error (σ : Errors) :
    content σ.error.2 = some ((content σ).getD .new) ∧
      σ.error.2.read σ.error.1 = some ((content σ).getD .new) := by
  cases h : σ.lastError with
  | none =>
    rw [Errors.error, h, content, content, h]
    simp [Errors.push, Errors.read]
  | some a =>
    obtain ⟨e, hread, -⟩ := Errors.view_some true h
    rw [Errors.error, h, content, h, Option.bind_some, hread]
    exact ⟨rfl, rfl⟩

/-- The exception with the contents that its error object has now. -/
def TOrmDatabaseException.now (x : TOrmDatabaseException) (σ : Errors) :
    OrmOperations.TOrmDatabaseException :=
  ⟨x.toTOrmException, x.sql, (σ.read x.dbError).getD .new⟩

theorem queryError_refines (hD : ThroughMethods o.driver) (sql : Text) (message : Option Text)
    {db : C} {σ : Errors} (h : content σ = lastErrorOf o.driver db) :
    (queryError o sql message σ).1.now (queryError o sql message σ).2 =
        (o.queryError db sql message).1 ∧
      content (queryError o sql message σ).2 = lastErrorOf o.driver (o.queryError db sql message).2 := by
  obtain ⟨hcontent, hread⟩ := content_error σ
  have herror : (o.driver.connection db).error.1 = (content σ).getD .new ∧
      (o.driver.connection db).error.2.lastError = some ((content σ).getD .new) := by
    rw [h, lastErrorOf, TDBConnection.error]
    cases hlast : (o.driver.connection db).lastError with
    | none => exact ⟨rfl, rfl⟩
    | some e => exact ⟨rfl, hlast⟩
  unfold queryError TOrm.queryError TOrmDatabaseException.now
  dsimp only
  rw [hread, Option.getD_some, herror.1, hcontent, hD.set, herror.2]
  exact ⟨rfl, rfl⟩

def databaseExceptionOf {α : Type} : Except Exit α → Option OrmOperations.TOrmDatabaseException
  | .error (.databaseException e) => some e
  | _ => none

/-- On the store a query is prepared as by the ORM: the contents agree, and so does what is thrown. -/
theorem prepareQuery_refines (hD : ThroughMethods o.driver) (sql : Text) (s : World C) {σ : Errors}
    (h : content σ = lastErrorOf o.driver s.db) :
    ∃ attempt, .free ∉ attempt.calls ∧
      content (prepareQuery o sql attempt σ).2 = lastErrorOf o.driver (o.prepareQuery sql s).2.db ∧
      (prepareQuery o sql attempt σ).1.map (·.now (prepareQuery o sql attempt σ).2) =
        databaseExceptionOf (o.prepareQuery sql s).1 := by
  set r := o.driver.prepareStatement (o.dialect.rewritePlaceholders sql)
    (o.driver.opened s.db none) with hr
  have hends := prepareStatement_ends hD (o.dialect.rewritePlaceholders sql)
    (o.driver.opened s.db none)
  rw [opened_error hD, ← hr] at hends
  obtain ⟨calls, hfree, hcalls⟩ := hends.leads
  have hrun : content (σ.run calls) = lastErrorOf o.driver r.2.1 := by
    rw [content_run, h, hcalls]
  refine ⟨⟨r.1, calls⟩, hfree, ?_⟩
  unfold prepareQuery TOrm.prepareQuery
  dsimp only
  rw [← hr]
  cases hok : r.1 with
  | true => exact ⟨hrun, rfl⟩
  | false =>
    obtain ⟨hnow, herror⟩ := queryError_refines o hD (o.dialect.rewritePlaceholders sql) none hrun
    exact ⟨herror.trans (hD.free ((o.queryError r.2.1 _ none).2, r.2.2)).symm, congrArg some hnow⟩

theorem executeQuery_refines (hD : ThroughMethods o.driver) (query : RS) (sql : Text)
    (msg : Option Text) (s : World C) {σ : Errors} (h : content σ = lastErrorOf o.driver s.db) :
    ∃ attempt, .free ∉ attempt.calls ∧
      content (executeQuery o sql msg attempt σ).2 =
        lastErrorOf o.driver (o.executeQuery query sql msg s).2.db ∧
      (executeQuery o sql msg attempt σ).1.map (·.now (executeQuery o sql msg attempt σ).2) =
        databaseExceptionOf (o.executeQuery query sql msg s).1 := by
  set r := o.driver.executePrepared (s.db, query) with hr
  have hends := executePrepared_ends hD (s.db, query)
  rw [← hr] at hends
  obtain ⟨calls, hfree, hcalls⟩ := hends.leads
  have hrun : content (σ.run calls) = lastErrorOf o.driver r.2.1 := by
    rw [content_run, h]
    exact hcalls
  refine ⟨⟨r.1, calls⟩, hfree, ?_⟩
  unfold executeQuery TOrm.executeQuery
  dsimp only
  rw [← hr]
  cases hok : r.1 with
  | true => exact ⟨hrun, rfl⟩
  | false =>
    obtain ⟨hnow, herror⟩ := queryError_refines o hD sql msg hrun
    exact ⟨herror.trans (hD.free ((o.queryError r.2.1 sql msg).2, r.2.2)).symm, congrArg some hnow⟩

end

/-! ### A statement that succeeds after one that was refused -/

def noErrors : Errors := ⟨[], none, by simp⟩

/-- The server refused the statement. -/
def refusedAttempt : Attempt :=
  ⟨false, [.setError ⟨"Error preparing statement".toList, "permission denied".toList, .statement, 0⟩]⟩

/-- The next statement is prepared with success, and the error of the exception is gone. -/
theorem later_success_clears_error :
    ∃ x σ e, prepareQuery OrmFailures.refused "SELECT 1".toList refusedAttempt noErrors =
        (some x, σ) ∧ σ.read x.dbError = some e ∧ e.isSet = true ∧
      (σ.run [.resetError]).read x.dbError = some .new ∧
      ¬ Describes x e (σ.run [.resetError]) := by
  refine ⟨_, _, _, rfl, rfl, rfl, rfl, fun h => ?_⟩
  have hsame := Option.some.inj h.1
  have hset := h.2
  rw [← hsame] at hset
  cases hset

theorem describes_iff_refused :
    ∃ x σ, prepareQuery OrmFailures.refused "SELECT 1".toList refusedAttempt noErrors =
        (some x, σ) ∧
      ∃ e, σ.read x.dbError = some e ∧
        ((∀ before, before <+: [[.resetError]] → Describes x e (σ.run before.flatten)) ↔
          e.isSet = true ∧ Spares e [[.resetError]]) := by
  obtain ⟨x, σ, h⟩ : ∃ x σ, prepareQuery OrmFailures.refused "SELECT 1".toList refusedAttempt
      noErrors = (some x, σ) := ⟨_, _, rfl⟩
  have hthrown : prepareQuery OrmFailures.refused "SELECT 1".toList refusedAttempt noErrors =
      (some x, σ) ∨ executeQuery OrmFailures.refused "SELECT 1".toList none refusedAttempt noErrors =
      (some x, σ) := .inl h
  exact ⟨x, σ, h, describes_iff OrmFailures.refused hthrown [[.resetError]]⟩

end DatabaseMod.OrmErrorObjects
