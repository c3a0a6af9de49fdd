import DatabaseMod.OrmFailures
import DatabaseMod.OrmSqliteQueries

/-!
# The life of the queries of an operation

Every query that an operation creates, and every call of `Free` on it, is recorded. What an
operation calls while its query is open may throw: the binding of a value, the conversion of
a column, the making of an object.
-/

namespace DatabaseMod.OrmFrees
open SqlTokens (Text)
open CoreValues CoreResultSet CoreQuery OrmModel OrmModelBuilder OrmStatements OrmParams
open OrmBinding
open OrmOperations hiding Exit Operation throwing throwing_ok
open OrmFailures (Result)
open StoppingPrograms StoppingPrograms.Program

inductive Event
  | created (query : ℕ)
  | freed (query : ℕ)
deriving DecidableEq, Repr

/-- An exception of the ORM, or another one, of the runtime or of a conversion. -/
inductive Thrown (X : Type)
  | exception (e : TOrmException)
  | databaseException (e : TOrmDatabaseException)
  | other (x : X)
deriving DecidableEq, Repr

inductive Exit (X : Type)
  | thrown (e : Thrown X)
  | looping
deriving DecidableEq, Repr

/-- The world with the events so far, which also number the queries. -/
structure Life (C : Type) where
  world : World C
  events : List Event

abbrev Operation (C X α : Type) : Type := Program (Life C) (Exit X) α

structure Query (RS : Type) where
  number : ℕ
  resultSet : RS

/-- A data access object, with what may throw while one of its queries is open. -/
structure TOrmDaoBase (C RS Slot X : Type) where
  orm : TOrm C RS Slot
  model : TOrmModel
  bindFieldValue : TQueryResultSet → Object Slot → TOrmField → Except (Thrown X) TQueryResultSet
  bindTo : TOrmParams → RS → Except (Thrown X) RS
  objectFromCurrentRow : (ℤ → Option TDBType) → Except (Thrown X) (Object Slot)
  getLong : Option TDBType → Except (Thrown X) ℤ
  setLong : Object Slot → TOrmField → ℤ → Except (Thrown X) (Object Slot)

section

variable {C RS Slot X α β : Type}

def throwing : Except (Thrown X) α → Operation C X α
  | .ok a => pure a
  | .error e => stop (.thrown e)

/-- What is checked before there is a query. -/
def checked (x : Except TOrmException α) : Operation C X α := throwing (x.mapError .exception)

variable (d : TOrmDaoBase C RS Slot X)

namespace TOrmDaoBase

/-! ### Queries -/

def create : Operation C X ℕ := fun s =>
  (.ok s.events.length, { s with events := s.events ++ [.created s.events.length] })

def free (query : Query RS) : Operation C X Unit := fun s =>
  (.ok (), ⟨{ s.world with db := (d.orm.driver.free (s.world.db, query.resultSet)).1 },
    s.events ++ [.freed query.number]⟩)

def prepare (statement : Text) : Operation C X (Bool × RS) := fun s =>
  let r := d.orm.driver.prepareStatement statement (d.orm.driver.opened s.world.db none)
  (.ok (r.1, r.2.2), ⟨⟨r.2.1, s.world.attempts ++ [.prepare statement r.1]⟩, s.events⟩)

def execute (resultSet : RS) (statement : Text) : Operation C X (Bool × RS) := fun s =>
  let r := d.orm.driver.executePrepared (s.world.db, resultSet)
  (.ok (r.1, r.2.2), ⟨⟨r.2.1, s.world.attempts ++ [.execute statement r.1]⟩, s.events⟩)

def queryError (sql : Text) (message : Option Text) : Operation C X TOrmDatabaseException := fun s =>
  let r := d.orm.queryError s.world.db sql message
  (.ok r.1, { s with world := { s.world with db := r.2 } })

def prepareQuery (sql : Text) : Operation C X (Query RS) := do
  let rewrittenSql := d.orm.dialect.rewritePlaceholders sql
  let number ← create
  let (ok, resultSet) ← d.prepare rewrittenSql
  if ok then pure ⟨number, resultSet⟩
  else
    let err ← d.queryError rewrittenSql none
    d.free ⟨number, resultSet⟩
    stop (.thrown (.databaseException err))

def executeQuery (query : Query RS) (sql : Text) (msg : Option Text) :
    Operation C X (Query RS) := do
  let (ok, resultSet) ← d.execute query.resultSet (d.orm.dialect.rewritePlaceholders sql)
  if ok then pure ⟨query.number, resultSet⟩
  else
    let err ← d.queryError sql msg
    d.free ⟨query.number, resultSet⟩
    stop (.thrown (.databaseException err))

def nextRow (query : Query RS) : Operation C X (Bool × Query RS) := fun s =>
  let r := d.orm.driver.fetch (s.world.db, query.resultSet)
  (.ok (r.1, ⟨query.number, r.2.2⟩), { s with world := { s.world with db := r.2.1 } })

/-! ### Binding -/

def bound (bind : TQueryResultSet → Except (Thrown X) TQueryResultSet) (resultSet : RS) :
    Except (Thrown X) RS :=
  (bind (d.orm.driver.base resultSet)).map (d.orm.driver.setBase resultSet)

def bindValues (skip : TOrmField → Bool) (obj : Object Slot) (query : TQueryResultSet) :
    Except (Thrown X) TQueryResultSet :=
  d.model.fields.foldlM (fun query fld =>
    if skip fld then .ok query else d.bindFieldValue query obj fld) query

def bindParams (params : Option TOrmParams) (resultSet : RS) : Except (Thrown X) RS :=
  match params with
  | none => .ok resultSet
  | some params => d.bindTo params resultSet

def issue (sql : Text) (bind : RS → Except (Thrown X) RS) (msg : Option Text) :
    Operation C X (Query RS) := do
  let query ← d.prepareQuery sql
  let resultSet ← throwing (bind query.resultSet)
  d.executeQuery ⟨query.number, resultSet⟩ sql msg

/-! ### Operations -/

def readGeneratedId (query : Query RS) : Operation C X (ℤ × Query RS) :=
  match d.orm.dialect with
  | .sqlite => fun s => (.ok (d.orm.lastInsertedId (s.world.db, query.resultSet), query), s)
  | .postgres => do
    let (more, query) ← d.nextRow query
    if more then
      let id ← throwing (d.getLong (d.orm.value query.resultSet 0))
      pure (id, query)
    else stop (.thrown (.exception ⟨"Insert did not return generated id".toList⟩))

/-- The last part of `SaveObject`. -/
def keepGeneratedId (obj : Object Slot) (query : Query RS) : Operation C X (Object Slot) :=
  match d.model.primaryKey with
  | none => do
    d.free query
    pure obj
  | some primaryKey =>
    if primaryKey.isAuto then do
      let (id, query) ← d.readGeneratedId query
      let obj ← throwing (d.setLong obj primaryKey id)
      d.free query
      pure obj
    else do
      d.free query
      pure obj

def saveObject (obj : Option (Object Slot)) : Operation C X (Object Slot) := do
  let obj ← checked (TOrm.given "Cannot save Null object" obj)
  let query ← d.issue (buildInsertSql d.orm.dialect d.model)
    (d.bound (d.bindValues shouldSkipInsertField obj)) (some "Failed to execute insert".toList)
  d.keepGeneratedId obj query

def updateObject (obj : Option (Object Slot)) : Operation C X Unit := do
  let obj ← checked (TOrm.given "Cannot update Null object" obj)
  let primaryKey ← checked (TOrm.keyed d.model "Cannot update model without primary key: ")
  let query ← d.issue (buildUpdateSql d.orm.dialect d.model primaryKey) (d.bound fun query => do
    let query ← d.bindValues shouldSkipUpdateField obj query
    d.bindFieldValue query obj primaryKey) (some "Failed to execute update".toList)
  d.free query

def removeObject (obj : Option (Object Slot)) : Operation C X Unit := do
  let obj ← checked (TOrm.given "Cannot remove Null object" obj)
  let primaryKey ← checked (TOrm.keyed d.model "Cannot remove model without primary key: ")
  let query ← d.issue (buildDeleteSql d.orm.dialect d.model primaryKey)
    (d.bound fun query => d.bindFieldValue query obj primaryKey)
    (some "Failed to execute delete".toList)
  d.free query

/-- What is read from the first row, if there is one. -/
def firstRow (read : (ℤ → Option TDBType) → Except (Thrown X) α) (query : Query RS) :
    Operation C X (Option α) := do
  let (more, query) ← d.nextRow query
  if more then
    let a ← throwing (read (d.orm.value query.resultSet))
    d.free query
    pure (some a)
  else
    d.free query
    pure none

def findByIdObject (id : TOrm.Id) : Operation C X (Option (Object Slot)) := do
  let sql ← checked (buildFindByIdSql d.orm.dialect d.model)
  let query ← d.issue sql (d.bound fun query => .ok (id.add query)) none
  d.firstRow d.objectFromCurrentRow query

/-- The loop over the rows, up to a number of them. -/
def collect (query : Query RS) (results : List (Object Slot)) :
    ℕ → Operation C X (List (Object Slot))
  | 0 => stop .looping
  | fuel + 1 => do
    let (more, query) ← d.nextRow query
    if more then
      let obj ← throwing (d.objectFromCurrentRow (d.orm.value query.resultSet))
      collect query (results ++ [obj]) fuel
    else
      d.free query
      pure results

def populateFindWhere (whereSql : Text) (params : Option TOrmParams)
    (orderBy : List TOrmOrderItem) (limit offset : ℤ) (msg : String) (fuel : ℕ) :
    Operation C X (List (Object Slot)) := do
  let sql ← checked (buildFindWhereSql d.orm.dialect d.model d.orm.sameName whereSql orderBy
    limit offset)
  let query ← d.issue sql (d.bindParams params) (some msg.toList)
  d.collect query [] fuel

def findOneWhereObject (whereSql : Text) (params : Option TOrmParams) :
    Operation C X (Option (Object Slot)) := do
  let sql ← checked (buildFindWhereSql d.orm.dialect d.model d.orm.sameName whereSql [] 1 0)
  let query ← d.issue sql (d.bindParams params) (some "Failed to execute find one where".toList)
  d.firstRow d.objectFromCurrentRow query

def countWhere (whereSql : Text) (params : Option TOrmParams) : Operation C X ℤ := do
  let query ← d.issue (buildCountWhereSql d.orm.dialect d.model whereSql) (d.bindParams params)
    (some "Failed to execute count query".toList)
  let count ← d.firstRow (fun value => d.getLong (value 0)) query
  pure (count.getD 0)

def existsWhere (whereSql : Text) (params : Option TOrmParams) : Operation C X Bool := do
  let query ← d.issue (buildExistsWhereSql d.orm.dialect d.model whereSql) (d.bindParams params)
    (some "Failed to execute exists query".toList)
  let (more, query) ← d.nextRow query
  d.free query
  pure more

def removeWhere (whereSql : Text) (params : Option TOrmParams) : Operation C X ℤ := do
  let query ← d.issue (buildRemoveWhereSql d.orm.dialect d.model whereSql) (d.bindParams params)
    none
  let affected ← fun s => (.ok (d.orm.rowsAffected (s.world.db, query.resultSet)), s)
  d.free query
  pure affected

end TOrmDaoBase

inductive Call (Slot : Type)
  | save (obj : Option (Object Slot))
  | update (obj : Option (Object Slot))
  | remove (obj : Option (Object Slot))
  | findById (id : TOrm.Id)
  | findAll (orderBy : List TOrmOrderItem) (limit offset : ℤ)
  | findWhere (whereSql : Text) (params : Option TOrmParams) (orderBy : List TOrmOrderItem)
    (limit offset : ℤ)
  | findOneWhere (whereSql : Text) (params : Option TOrmParams)
  | countWhere (whereSql : Text) (params : Option TOrmParams)
  | existsWhere (whereSql : Text) (params : Option TOrmParams)
  | removeWhere (whereSql : Text) (params : Option TOrmParams)

/-- A call; a loop over rows is followed up to a number of them. -/
def Call.run (fuel : ℕ) : Call Slot → Operation C X (Result Slot)
  | .save obj => do
    let obj ← d.saveObject obj
    pure (.object (some obj))
  | .update obj => do
    d.updateObject obj
    pure .done
  | .remove obj => do
    d.removeObject obj
    pure .done
  | .findById id => do
    let obj ← d.findByIdObject id
    pure (.object obj)
  | .findAll orderBy limit offset => do
    let objs ← d.populateFindWhere [] none orderBy limit offset "Failed to execute find all" fuel
    pure (.objects objs)
  | .findWhere whereSql params orderBy limit offset => do
    let objs ← d.populateFindWhere whereSql params orderBy limit offset
      "Failed to execute find where" fuel
    pure (.objects objs)
  | .findOneWhere whereSql params => do
    let obj ← d.findOneWhereObject whereSql params
    pure (.object obj)
  | .countWhere whereSql params => do
    let n ← d.countWhere whereSql params
    pure (.number n)
  | .existsWhere whereSql params => do
    let found ← d.existsWhere whereSql params
    pure (.found found)
  | .removeWhere whereSql params => do
    let n ← d.removeWhere whereSql params
    pure (.number n)

/-! ### Releases -/

/-- Unless the operation is still in its loop, every query that was created has been freed
exactly once. -/
def Released (r : Except (Exit X) α) (new : List Event) : Prop :=
  r ≠ .error .looping → ∀ n, .created n ∈ new → new.count (.freed n) = 1

theorem released_nil (r : Except (Exit X) α) : Released r [] :=
  fun _ _ hn => absurd hn List.not_mem_nil

theorem released_freed (r : Except (Exit X) α) (n : ℕ) : Released r [.created n, .freed n] := by
  intro _ k hk
  obtain rfl : k = n := by simpa using hk
  simp

theorem not_released_created {r : Except (Exit X) α} (hr : r ≠ .error .looping) (n : ℕ) :
    ¬ Released r [.created n] := by
  intro h
  exact absurd (h hr n List.mem_cons_self) (by simp)

/-- The operation releases what it creates exactly if the condition holds. -/
def Frees (P : Prop) (s : Life C) (r : Except (Exit X) α × Life C) : Prop :=
  ∃ new, r.2.events = s.events ++ new ∧ (Released r.1 new ↔ P)

/-- The query is freed exactly if the condition holds; else an exception leaves it open. -/
inductive Ends (n : ℕ) (P : Prop) (old : List Event) : Except (Exit X) α × Life C → Prop
  | freed (r : Except (Exit X) α) (w : World C) (h : P) : Ends n P old (r, ⟨w, old ++ [.freed n]⟩)
  | looping (w : World C) (h : P) : Ends n P old (.error .looping, ⟨w, old⟩)
  | kept (e : Thrown X) (w : World C) (h : ¬ P) : Ends n P old (.error (.thrown e), ⟨w, old⟩)

theorem Ends.frees {n : ℕ} {P : Prop} {s : Life C} {r : Except (Exit X) α × Life C}
    (h : Ends n P (s.events ++ [.created n]) r) : Frees P s r := by
  cases h with
  | freed r w h =>
    exact ⟨[.created n, .freed n], List.append_assoc _ _ _, iff_of_true (released_freed r n) h⟩
  | looping w h => exact ⟨_, rfl, iff_of_true (fun hr => absurd rfl hr) h⟩
  | kept e w h =>
    have hthrown : (.error (.thrown e) : Except (Exit X) α) ≠ .error .looping := by simp
    exact ⟨[.created n], rfl, iff_of_false (not_released_created hthrown n) h⟩

theorem Ends.congr {n : ℕ} {P Q : Prop} {old : List Event} {r : Except (Exit X) α × Life C}
    (h : Ends n P old r) (hPQ : P ↔ Q) : Ends n Q old r := propext hPQ ▸ h

/-! ### The rules of the steps -/

theorem throwing_frees {x : Except TOrmException β} {f : β → Operation C X α} {P : β → Prop}
    {s : Life C} (hf : ∀ b, x = .ok b → Frees (P b) s (f b s)) :
    Frees (∀ b, x = .ok b → P b) s ((checked x >>= f) s) := by
  cases x with
  | ok b =>
    obtain ⟨new, hnew, hiff⟩ := hf b rfl
    exact ⟨new, hnew, hiff.trans ⟨fun h c hc => Except.ok.inj hc ▸ h, fun h => h b rfl⟩⟩
  | error e =>
    exact ⟨[], (List.append_nil _).symm, iff_of_true (released_nil _) nofun⟩

theorem throwing_ends {n : ℕ} {x : Except (Thrown X) β} {f : β → Operation C X α} {P : β → Prop}
    {s : Life C} (hf : ∀ b, Ends n (P b) s.events (f b s)) :
    Ends n (∃ b, x = .ok b ∧ P b) s.events ((throwing x >>= f) s) := by
  cases x with
  | ok b => exact (hf b).congr ⟨fun h => ⟨b, rfl, h⟩, fun ⟨c, hc, h⟩ => Except.ok.inj hc ▸ h⟩
  | error e => exact .kept e s.world fun ⟨b, hb, _⟩ => nomatch hb

namespace TOrmDaoBase

theorem free_ends (query : Query RS) (a : α) (s : Life C) :
    Ends query.number True s.events ((d.free query >>= fun _ => pure a) s) :=
  .freed (.ok a) _ trivial

/-! ### The statement -/

/-- If the statement is prepared, its values are bound; if it is then executed, the rest of
the operation keeps to a condition. -/
def Issued (sql : Text) (bind : RS → Except (Thrown X) RS) (P : C × RS → Prop) (db : C) : Prop :=
  let prepared := d.orm.driver.prepareStatement (d.orm.dialect.rewritePlaceholders sql)
    (d.orm.driver.opened db none)
  prepared.1 = true → ∃ resultSet, bind prepared.2.2 = .ok resultSet ∧
    let executed := d.orm.driver.executePrepared (prepared.2.1, resultSet)
    executed.1 = true → P executed.2

theorem prepareQuery_run (sql : Text) (s : Life C) :
    d.prepareQuery sql s =
      let rewrittenSql := d.orm.dialect.rewritePlaceholders sql
      let r := d.orm.driver.prepareStatement rewrittenSql (d.orm.driver.opened s.world.db none)
      let attempts := s.world.attempts ++ [.prepare rewrittenSql r.1]
      let number := s.events.length
      if r.1 then
        (.ok ⟨number, r.2.2⟩, ⟨⟨r.2.1, attempts⟩, s.events ++ [.created number]⟩)
      else
        let err := d.orm.queryError r.2.1 rewrittenSql none
        (.error (.thrown (.databaseException err.1)),
          ⟨⟨(d.orm.driver.free (err.2, r.2.2)).1, attempts⟩,
            s.events ++ [.created number] ++ [.freed number]⟩) := by
  have hcreate : (create : Operation C X ℕ) s =
      (.ok s.events.length, ⟨s.world, s.events ++ [.created s.events.length]⟩) := rfl
  unfold prepareQuery
  dsimp only
  rw [bind_ok hcreate, bind_ok (show d.prepare _ _ = _ from rfl)]
  dsimp only
  split
  · rfl
  · rfl

theorem executeQuery_run (query : Query RS) (sql : Text) (msg : Option Text) (s : Life C) :
    d.executeQuery query sql msg s =
      let r := d.orm.driver.executePrepared (s.world.db, query.resultSet)
      let attempts := s.world.attempts ++ [.execute (d.orm.dialect.rewritePlaceholders sql) r.1]
      if r.1 then (.ok ⟨query.number, r.2.2⟩, ⟨⟨r.2.1, attempts⟩, s.events⟩)
      else
        let err := d.orm.queryError r.2.1 sql msg
        (.error (.thrown (.databaseException err.1)),
          ⟨⟨(d.orm.driver.free (err.2, r.2.2)).1, attempts⟩,
            s.events ++ [.freed query.number]⟩) := by
  unfold executeQuery
  rw [bind_ok (show d.execute _ _ _ = _ from rfl)]
  dsimp only
  split
  · rfl
  · rfl

/-- From any executed query the rest of an operation frees it exactly if the condition holds. -/
def Finishes (P : C × RS → Prop) (finish : Query RS → Operation C X α) : Prop :=
  ∀ n x attempts events, Ends n (P x) events (finish ⟨n, x.2⟩ ⟨⟨x.1, attempts⟩, events⟩)

theorem executeQuery_ends {P : C × RS → Prop} {finish : Query RS → Operation C X α}
    (hfinish : Finishes P finish) (n : ℕ) (rs : RS) (sql : Text) (msg : Option Text)
    (s : Life C) :
    Ends n ((d.orm.driver.executePrepared (s.world.db, rs)).1 = true →
        P (d.orm.driver.executePrepared (s.world.db, rs)).2) s.events
      ((d.executeQuery ⟨n, rs⟩ sql msg >>= finish) s) := by
  have hrun := d.executeQuery_run ⟨n, rs⟩ sql msg s
  dsimp only at hrun
  split at hrun
  next hok =>
    rw [bind_ok hrun]
    exact (hfinish n (d.orm.driver.executePrepared (s.world.db, rs)).2 _ s.events).congr
      ⟨fun h _ => h, fun h => h hok⟩
  next hok =>
    rw [bind_error hrun]
    exact .freed _ _ fun h => absurd h hok

theorem bound_ends {P : C × RS → Prop} {finish : Query RS → Operation C X α}
    (hfinish : Finishes P finish) (x : Except (Thrown X) RS) (n : ℕ) (sql : Text)
    (msg : Option Text) (s : Life C) :
    Ends n (∃ rs, x = .ok rs ∧ ((d.orm.driver.executePrepared (s.world.db, rs)).1 = true →
        P (d.orm.driver.executePrepared (s.world.db, rs)).2)) s.events
      ((throwing x >>= fun rs => d.executeQuery ⟨n, rs⟩ sql msg >>= finish) s) :=
  throwing_ends fun rs => d.executeQuery_ends hfinish n rs sql msg s

theorem issue_frees {sql : Text} {bind : RS → Except (Thrown X) RS} {msg : Option Text}
    {P : C × RS → Prop} {finish : Query RS → Operation C X α} (hfinish : Finishes P finish)
    (s : Life C) :
    Frees (d.Issued sql bind P s.world.db) s ((d.issue sql bind msg >>= finish) s) := by
  let rewrittenSql := d.orm.dialect.rewritePlaceholders sql
  let r := d.orm.driver.prepareStatement rewrittenSql (d.orm.driver.opened s.world.db none)
  have hrun := d.prepareQuery_run sql s
  dsimp only at hrun
  have hissue : d.issue sql bind msg >>= finish = d.prepareQuery sql >>= fun query =>
      throwing (bind query.resultSet) >>= fun resultSet =>
        d.executeQuery ⟨query.number, resultSet⟩ sql msg >>= finish := by
    simp only [issue, bind_bind]
  rw [hissue]
  split at hrun
  next hok =>
    rw [bind_ok hrun]
    have hends := d.bound_ends hfinish (bind r.2.2) s.events.length sql msg
      ⟨⟨r.2.1, s.world.attempts ++ [.prepare rewrittenSql r.1]⟩,
        s.events ++ [.created s.events.length]⟩
    exact (hends.congr ⟨fun h _ => h, fun h => h hok⟩).frees
  next hok =>
    rw [bind_error hrun]
    exact ⟨_, List.append_assoc _ _ _, iff_of_true (released_freed _ _) fun h => absurd h hok⟩

/-! ### The rest of an operation -/

theorem free_finishes (a : α) :
    Finishes (fun _ => True) fun query => d.free query >>= fun _ => pure a :=
  fun n x attempts events => d.free_ends ⟨n, x.2⟩ a ⟨⟨x.1, attempts⟩, events⟩

theorem stop_finishes (e : Thrown X) :
    Finishes (fun _ : C × RS => False) fun _ => (stop (.thrown e) : Operation C X α) :=
  fun _ _ _ _ => .kept e _ not_false

theorem throwing_finishes {read : RS → Except (Thrown X) β} {P : β → C × RS → Prop}
    {finish : β → Query RS → Operation C X α} (hfinish : ∀ b, Finishes (P b) (finish b)) :
    Finishes (fun x => ∃ b, read x.2 = .ok b ∧ P b x) fun query =>
      throwing (read query.resultSet) >>= fun b => finish b query :=
  fun n x attempts events => throwing_ends (P := fun b => P b x) (s := ⟨⟨x.1, attempts⟩, events⟩)
    fun b => hfinish b n x attempts events

/-- There is another row and the first condition holds, or there is none and the second one. -/
def AfterRow (P Q : C × RS → Prop) (x : C × RS) : Prop :=
  if (d.orm.driver.fetch x).1 then P (d.orm.driver.fetch x).2 else Q (d.orm.driver.fetch x).2

theorem nextRow_finishes {P Q : C × RS → Prop} {found ended : Query RS → Operation C X α}
    (hfound : Finishes P found) (hended : Finishes Q ended) :
    Finishes (d.AfterRow P Q) fun query => d.nextRow query >>= fun r =>
      if r.1 then found r.2 else ended r.2 := by
  intro n x attempts events
  have hrun : d.nextRow ⟨n, x.2⟩ ⟨⟨x.1, attempts⟩, events⟩ =
      (.ok ((d.orm.driver.fetch x).1, ⟨n, (d.orm.driver.fetch x).2.2⟩),
        ⟨⟨(d.orm.driver.fetch x).2.1, attempts⟩, events⟩) := rfl
  dsimp only
  rw [bind_ok hrun, AfterRow]
  dsimp only
  split
  · exact hfound n _ attempts events
  · exact hended n _ attempts events

/-- The first row, if there is one, is read without an exception. -/
def RowReads (read : (ℤ → Option TDBType) → Except (Thrown X) α) : C × RS → Prop :=
  d.AfterRow (fun x => ∃ a, read (d.orm.value x.2) = .ok a) fun _ => True

theorem firstRow_finishes (read : (ℤ → Option TDBType) → Except (Thrown X) α) :
    Finishes (d.RowReads read) (d.firstRow read) := by
  have hfound := @throwing_finishes C RS X _ _ (fun rs => read (d.orm.value rs)) _ _ fun a =>
    d.free_finishes (some a)
  simp only [and_true] at hfound
  exact d.nextRow_finishes hfound (d.free_finishes none)

/-- Up to a number of them, the rows are read without an exception. -/
def RowsRead : ℕ → C × RS → Prop
  | 0 => fun _ => True
  | fuel + 1 => d.AfterRow (fun x => ∃ obj, d.objectFromCurrentRow (d.orm.value x.2) = .ok obj ∧
      RowsRead fuel x) fun _ => True

theorem collect_finishes (results : List (Object Slot)) (fuel : ℕ) :
    Finishes (d.RowsRead fuel) fun query => d.collect query results fuel := by
  induction fuel generalizing results with
  | zero => exact fun n x attempts events => .looping _ trivial
  | succ fuel ih =>
    have hfound := @throwing_finishes C RS X _ _
      (fun rs => d.objectFromCurrentRow (d.orm.value rs)) _ _ fun obj => ih (results ++ [obj])
    exact d.nextRow_finishes hfound (d.free_finishes results)

/-- The generated id is there and can be read. -/
def ReadsId (P : ℤ → Prop) : C × RS → Prop :=
  match d.orm.dialect with
  | .sqlite => fun x => P (d.orm.lastInsertedId x)
  | .postgres => d.AfterRow (fun x => ∃ id, d.getLong (d.orm.value x.2 0) = .ok id ∧ P id)
      fun _ => False

theorem readGeneratedId_finishes {P : ℤ → Prop} {finish : ℤ → Query RS → Operation C X α}
    (hfinish : ∀ id, Finishes (fun _ => P id) (finish id)) :
    Finishes (d.ReadsId P) fun query => d.readGeneratedId query >>= fun r =>
      finish r.1 r.2 := by
  unfold readGeneratedId ReadsId
  cases d.orm.dialect with
  | sqlite => exact fun n x attempts events => hfinish _ n x attempts events
  | postgres =>
    have hfound := @throwing_finishes C RS X _ _ (fun rs => d.getLong (d.orm.value rs 0)) _ _ hfinish
    have hrow := d.nextRow_finishes hfound
      (stop_finishes (.exception ⟨"Insert did not return generated id".toList⟩))
    refine Eq.mp (congrArg (Finishes _) (funext fun query => ?_)) hrow
    rw [bind_bind]
    refine congrArg (d.nextRow query >>= ·) (funext fun r => ?_)
    dsimp only
    split
    · rw [bind_bind]
      rfl
    · rfl

/-- A generated key can be read and stored. -/
def KeepsId (obj : Object Slot) : C × RS → Prop :=
  match d.model.primaryKey with
  | none => fun _ => True
  | some primaryKey =>
    if primaryKey.isAuto then
      d.ReadsId fun id => ∃ stored, d.setLong obj primaryKey id = .ok stored
    else fun _ => True

theorem keepGeneratedId_finishes (obj : Object Slot) :
    Finishes (d.KeepsId obj) (d.keepGeneratedId obj) := by
  unfold KeepsId keepGeneratedId
  cases d.model.primaryKey with
  | none => exact d.free_finishes obj
  | some primaryKey =>
    dsimp only
    split
    next hauto =>
      have hstore (id : ℤ) : Finishes (fun _ => ∃ stored, d.setLong obj primaryKey id = .ok stored)
          fun query => throwing (d.setLong obj primaryKey id) >>= fun stored =>
            d.free query >>= fun _ => pure stored := by
        have hfree := @throwing_finishes C RS X _ _ (fun _ => d.setLong obj primaryKey id) _ _
          d.free_finishes
        simpa only [and_true] using hfree
      exact d.readGeneratedId_finishes hstore
    next hauto => exact d.free_finishes obj

end TOrmDaoBase

/-! ### Calls -/

theorem Frees.map {P : Prop} {s : Life C} {m : Operation C X α} (h : Frees P s (m s))
    (f : α → β) : Frees P s ((m >>= fun a => pure (f a)) s) := by
  obtain ⟨new, hnew, hiff⟩ := h
  cases hrun : m s with
  | mk r t =>
    rw [hrun] at hnew hiff
    cases r with
    | ok a =>
      rw [bind_ok hrun]
      have hreleased : Released (.ok (f a) : Except (Exit X) β) new ↔
          Released (.ok a : Except (Exit X) α) new :=
        ⟨fun h _ => h (by simp), fun h _ => h (by simp)⟩
      exact ⟨new, hnew, hreleased.trans hiff⟩
    | error e =>
      rw [bind_error hrun]
      have hreleased : Released (.error e : Except (Exit X) β) new ↔
          Released (.error e : Except (Exit X) α) new := by
        simp only [Released, ne_eq, Except.error.injEq]
      exact ⟨new, hnew, hreleased.trans hiff⟩

/-- Between the preparation of its query and the release of it a call meets no exception but
that of a failed execution. -/
def Call.Undisturbed (fuel : ℕ) : Call Slot → C → Prop
  | .save obj => fun db => ∀ given, TOrm.given "Cannot save Null object" obj = .ok given →
    d.Issued (buildInsertSql d.orm.dialect d.model)
      (d.bound (d.bindValues shouldSkipInsertField given)) (d.KeepsId given) db
  | .update obj => fun db => ∀ given, TOrm.given "Cannot update Null object" obj = .ok given →
    ∀ primaryKey,
      TOrm.keyed d.model "Cannot update model without primary key: " = .ok primaryKey →
      d.Issued (buildUpdateSql d.orm.dialect d.model primaryKey) (d.bound fun query => do
        let query ← d.bindValues shouldSkipUpdateField given query
        d.bindFieldValue query given primaryKey) (fun _ => True) db
  | .remove obj => fun db => ∀ given, TOrm.given "Cannot remove Null object" obj = .ok given →
    ∀ primaryKey,
      TOrm.keyed d.model "Cannot remove model without primary key: " = .ok primaryKey →
      d.Issued (buildDeleteSql d.orm.dialect d.model primaryKey)
        (d.bound fun query => d.bindFieldValue query given primaryKey) (fun _ => True) db
  | .findById id => fun db => ∀ sql, buildFindByIdSql d.orm.dialect d.model = .ok sql →
    d.Issued sql (d.bound fun query => .ok (id.add query)) (d.RowReads d.objectFromCurrentRow) db
  | .findAll orderBy limit offset => fun db => ∀ sql,
    buildFindWhereSql d.orm.dialect d.model d.orm.sameName [] orderBy limit offset = .ok sql →
    d.Issued sql (d.bindParams none) (d.RowsRead fuel) db
  | .findWhere whereSql params orderBy limit offset => fun db => ∀ sql,
    buildFindWhereSql d.orm.dialect d.model d.orm.sameName whereSql orderBy limit offset = .ok sql →
    d.Issued sql (d.bindParams params) (d.RowsRead fuel) db
  | .findOneWhere whereSql params => fun db => ∀ sql,
    buildFindWhereSql d.orm.dialect d.model d.orm.sameName whereSql [] 1 0 = .ok sql →
    d.Issued sql (d.bindParams params) (d.RowReads d.objectFromCurrentRow) db
  | .countWhere whereSql params => d.Issued (buildCountWhereSql d.orm.dialect d.model whereSql)
    (d.bindParams params) (d.RowReads fun value => d.getLong (value 0))
  | .existsWhere whereSql params => d.Issued (buildExistsWhereSql d.orm.dialect d.model whereSql)
    (d.bindParams params) fun _ => True
  | .removeWhere whereSql params => d.Issued (buildRemoveWhereSql d.orm.dialect d.model whereSql)
    (d.bindParams params) fun _ => True

namespace TOrmDaoBase

theorem saveObject_frees (obj : Option (Object Slot)) (fuel : ℕ) (s : Life C) :
    Frees ((Call.save obj).Undisturbed d fuel s.world.db) s (d.saveObject obj s) :=
  throwing_frees fun given _ => d.issue_frees (d.keepGeneratedId_finishes given) s

theorem updateObject_frees (obj : Option (Object Slot)) (fuel : ℕ) (s : Life C) :
    Frees ((Call.update obj).Undisturbed d fuel s.world.db) s (d.updateObject obj s) :=
  throwing_frees fun _ _ => throwing_frees fun _ _ => d.issue_frees (d.free_finishes ()) s

theorem removeObject_frees (obj : Option (Object Slot)) (fuel : ℕ) (s : Life C) :
    Frees ((Call.remove obj).Undisturbed d fuel s.world.db) s (d.removeObject obj s) :=
  throwing_frees fun _ _ => throwing_frees fun _ _ => d.issue_frees (d.free_finishes ()) s

theorem findByIdObject_frees (id : TOrm.Id) (fuel : ℕ) (s : Life C) :
    Frees ((Call.findById id).Undisturbed d fuel s.world.db) s (d.findByIdObject id s) :=
  throwing_frees fun _ _ => d.issue_frees (d.firstRow_finishes _) s

theorem populateFindWhere_frees (whereSql : Text) (params : Option TOrmParams)
    (orderBy : List TOrmOrderItem) (limit offset : ℤ) (msg : String) (fuel : ℕ) (s : Life C) :
    Frees ((Call.findWhere whereSql params orderBy limit offset).Undisturbed d fuel s.world.db) s
      (d.populateFindWhere whereSql params orderBy limit offset msg fuel s) :=
  throwing_frees fun _ _ => d.issue_frees (d.collect_finishes [] fuel) s

theorem findOneWhereObject_frees (whereSql : Text) (params : Option TOrmParams) (fuel : ℕ)
    (s : Life C) :
    Frees ((Call.findOneWhere whereSql params).Undisturbed d fuel s.world.db) s
      (d.findOneWhereObject whereSql params s) :=
  throwing_frees fun _ _ => d.issue_frees (d.firstRow_finishes _) s

theorem countWhere_frees (whereSql : Text) (params : Option TOrmParams) (fuel : ℕ) (s : Life C) :
    Frees ((Call.countWhere whereSql params).Undisturbed d fuel s.world.db) s
      (d.countWhere whereSql params s) := by
  unfold countWhere
  rw [← bind_bind]
  exact Frees.map (d.issue_frees (d.firstRow_finishes _) s) fun count => count.getD 0

theorem existsWhere_frees (whereSql : Text) (params : Option TOrmParams) (fuel : ℕ) (s : Life C) :
    Frees ((Call.existsWhere whereSql params).Undisturbed d fuel s.world.db) s
      (d.existsWhere whereSql params s) := by
  have hfinish : Finishes (fun _ => True) fun query => d.nextRow query >>= fun r =>
      d.free r.2 >>= fun _ => pure r.1 := fun n x attempts events =>
    d.free_ends ⟨n, (d.orm.driver.fetch x).2.2⟩ _ ⟨⟨(d.orm.driver.fetch x).2.1, attempts⟩, events⟩
  exact d.issue_frees hfinish s

theorem removeWhere_frees (whereSql : Text) (params : Option TOrmParams) (fuel : ℕ) (s : Life C) :
    Frees ((Call.removeWhere whereSql params).Undisturbed d fuel s.world.db) s
      (d.removeWhere whereSql params s) := by
  have hfinish : Finishes (fun _ => True) fun query =>
      (fun s => (.ok (d.orm.rowsAffected (s.world.db, query.resultSet)), s) : Operation C X ℤ) >>=
        fun affected => d.free query >>= fun _ => pure affected := fun n x attempts events =>
    d.free_ends ⟨n, x.2⟩ _ ⟨⟨x.1, attempts⟩, events⟩
  exact d.issue_frees hfinish s

end TOrmDaoBase

/-- A call frees each query that it creates exactly once, unless an exception comes between the
preparation of the query and its release. -/
theorem released_iff (call : Call Slot) (fuel : ℕ) (s : Life C) :
    ∃ new, (call.run d fuel s).2.events = s.events ++ new ∧
      (Released (call.run d fuel s).1 new ↔ call.Undisturbed d fuel s.world.db) := by
  change Frees _ s (call.run d fuel s)
  cases call with
  | save obj => exact (d.saveObject_frees obj fuel s).map _
  | update obj => exact (d.updateObject_frees obj fuel s).map fun _ => Result.done
  | remove obj => exact (d.removeObject_frees obj fuel s).map fun _ => Result.done
  | findById id => exact (d.findByIdObject_frees id fuel s).map _
  | findAll orderBy limit offset =>
    exact (d.populateFindWhere_frees [] none orderBy limit offset _ fuel s).map _
  | findWhere whereSql params orderBy limit offset =>
    exact (d.populateFindWhere_frees whereSql params orderBy limit offset _ fuel s).map _
  | findOneWhere whereSql params => exact (d.findOneWhereObject_frees whereSql params fuel s).map _
  | countWhere whereSql params => exact (d.countWhere_frees whereSql params fuel s).map _
  | existsWhere whereSql params => exact (d.existsWhere_frees whereSql params fuel s).map _
  | removeWhere whereSql params => exact (d.removeWhere_frees whereSql params fuel s).map _

end

/-! ### Without the events -/

section

variable {C RS Slot : Type} (o : TOrm C RS Slot) (m : TOrmModel)

/-- The data access object of a model, of whose conversions none throws. -/
def ofOrm : TOrmDaoBase C RS Slot Unit where
  orm := o
  model := m
  bindFieldValue query obj fld :=
    (OrmBinding.bindFieldValue o.reflection o.dialect query obj fld).mapError .exception
  bindTo params rs :=
    match bindTo o.objects o.conv o.dialect params (some (o.driver.base rs)) with
    | none => .error (.other ())
    | some base => .ok (o.driver.setBase rs (base.getD (o.driver.base rs)))
  objectFromCurrentRow value :=
    (OrmBinding.objectFromCurrentRow o.reflection o.dialect m o.conv fun i => value i).mapError
      .exception
  getLong
    | none => .error (.other ())
    | some v => .ok (v.getLong o.conv)
  setLong obj primaryKey id :=
    .ok (store obj primaryKey (o.reflection.setLong primaryKey.typeField.typeId id))

def Exit.erase : Exit Unit → OrmOperations.Exit
  | .thrown (.exception e) => .exception e
  | .thrown (.databaseException e) => .databaseException e
  | .thrown (.other ()) => .nullException
  | .looping => .looping

def Call.erase : Call Slot → OrmFailures.Call Slot
  | .save obj => .save m obj
  | .update obj => .update m obj
  | .remove obj => .remove m obj
  | .findById id => .findById m id
  | .findAll orderBy limit offset => .findAll m orderBy limit offset
  | .findWhere whereSql params orderBy limit offset =>
    .findWhere m whereSql params orderBy limit offset
  | .findOneWhere whereSql params => .findOneWhere m whereSql params
  | .countWhere whereSql params => .countWhere m whereSql params
  | .existsWhere whereSql params => .existsWhere m whereSql params
  | .removeWhere whereSql params => .removeWhere m whereSql params

/-- The second operation is the first one without the events. -/
abbrev Erases {α γ : Type} (g : α → γ) (p : Operation C Unit α)
    (q : OrmOperations.Operation C γ) : Prop :=
  Projects Life.world Exit.erase g p q

theorem mapError_bind {ε ε' α β : Type} (f : ε → ε') (x : Except ε α) (g : α → Except ε β) :
    (x >>= g).mapError f = x.mapError f >>= fun a => (g a).mapError f := by
  cases x with
  | ok a => rfl
  | error e => rfl

theorem mapError_foldlM {ε ε' α β : Type} (f : ε → ε') (g : β → α → Except ε β) (l : List α)
    (b : β) : (l.foldlM g b).mapError f = l.foldlM (fun b a => (g b a).mapError f) b := by
  induction l generalizing b with
  | nil => rfl
  | cons a l ih =>
    rw [List.foldlM_cons, List.foldlM_cons, mapError_bind]
    exact congrArg _ (funext ih)

theorem erases_throwing {α : Type} (x : Except TOrmException α) :
    Erases id (throwing (x.mapError .exception))
      (OrmOperations.throwing x : OrmOperations.Operation C α) := by
  cases x with
  | ok a => exact projects_pure a
  | error e => exact projects_stop _

theorem erases_free (query : Query RS) :
    Erases id ((ofOrm o m).free query) (o.free query.resultSet) := fun _ => rfl

theorem erases_free_pure {α : Type} (query : Query RS) (a : α) :
    Erases id ((ofOrm o m).free query >>= fun _ => pure a)
      (o.free query.resultSet >>= fun _ => pure a) :=
  (erases_free o m query).bind fun _ => projects_pure a

theorem erases_nextRow (query : Query RS) :
    Erases (fun r => (r.1, r.2.resultSet)) ((ofOrm o m).nextRow query)
      (o.nextRow query.resultSet) := fun _ => rfl

theorem erases_prepareQuery (sql : Text) :
    Erases Query.resultSet ((ofOrm o m).prepareQuery sql) (o.prepareQuery sql) := by
  intro s
  rw [TOrmDaoBase.prepareQuery_run, TOrm.prepareQuery]
  dsimp only [ofOrm]
  split
  · rfl
  · rfl

theorem erases_executeQuery (query : Query RS) (sql : Text) (msg : Option Text) :
    Erases Query.resultSet ((ofOrm o m).executeQuery query sql msg)
      (o.executeQuery query.resultSet sql msg) := by
  intro s
  rw [TOrmDaoBase.executeQuery_run, TOrm.executeQuery]
  dsimp only [ofOrm]
  split
  · rfl
  · rfl

theorem erases_bound {bind : TQueryResultSet → Except (Thrown Unit) TQueryResultSet} {rs : RS}
    {x : Except TOrmException TQueryResultSet}
    (h : bind (o.driver.base rs) = x.mapError .exception) :
    Erases id (throwing ((ofOrm o m).bound bind rs)) (o.bound rs x) := by
  have hbound : (ofOrm o m).bound bind rs = (bind (o.driver.base rs)).map (o.driver.setBase rs) :=
    rfl
  rw [hbound, h]
  cases x with
  | ok base => exact projects_pure _
  | error e => exact projects_stop _

theorem erases_bindParams (params : Option TOrmParams) (rs : RS) :
    Erases id (throwing ((ofOrm o m).bindParams params rs)) (o.bindParams params rs) := by
  cases params with
  | none => exact projects_pure rs
  | some params =>
    unfold TOrmDaoBase.bindParams TOrm.bindParams
    dsimp only [ofOrm]
    cases OrmParams.bindTo o.objects o.conv o.dialect params (some (o.driver.base rs)) with
    | none => exact projects_stop _
    | some base => exact projects_pure _

theorem erases_issue (sql : Text) {bind : RS → Except (Thrown Unit) RS}
    {bind' : RS → OrmOperations.Operation C RS}
    (hbind : ∀ rs, Erases id (throwing (bind rs)) (bind' rs)) (msg : Option Text) :
    Erases Query.resultSet ((ofOrm o m).issue sql bind msg) (o.issue sql bind' msg) :=
  (erases_prepareQuery o m sql).bind fun query =>
    (hbind query.resultSet).bind fun rs => erases_executeQuery o m ⟨query.number, rs⟩ sql msg

theorem erases_bindValues (skip : TOrmField → Bool) (obj : Object Slot) (query : TQueryResultSet) :
    (ofOrm o m).bindValues skip obj query =
      (OrmBinding.bindValues o.reflection o.dialect m skip query obj).mapError .exception := by
  unfold TOrmDaoBase.bindValues OrmBinding.bindValues
  rw [mapError_foldlM]
  refine congrArg (fun step => m.fields.foldlM step query) (funext fun query => funext fun fld => ?_)
  split
  · rfl
  · rfl

theorem erases_readGeneratedId (query : Query RS) :
    Erases (fun r => (r.1, r.2.resultSet)) ((ofOrm o m).readGeneratedId query)
      (o.readGeneratedId query.resultSet) := by
  unfold TOrmDaoBase.readGeneratedId TOrm.readGeneratedId
  dsimp only [ofOrm]
  cases o.dialect with
  | sqlite => exact fun s => rfl
  | postgres =>
    refine (erases_nextRow o m query).bind fun r => ?_
    dsimp only
    split
    · cases o.value r.2.resultSet 0 with
      | none => exact projects_stop _
      | some v => exact projects_pure _
    · exact projects_stop _

theorem erases_keepGeneratedId (obj : Object Slot) (query : Query RS) :
    Erases id ((ofOrm o m).keepGeneratedId obj query) (match m.primaryKey with
      | none => do
        o.free query.resultSet
        pure obj
      | some primaryKey =>
        if primaryKey.isAuto then do
          let (id, query) ← o.readGeneratedId query.resultSet
          o.free query
          pure (store obj primaryKey (o.reflection.setLong primaryKey.typeField.typeId id))
        else do
          o.free query.resultSet
          pure obj) := by
  unfold TOrmDaoBase.keepGeneratedId
  dsimp only [ofOrm]
  cases m.primaryKey with
  | none => exact erases_free_pure o m query obj
  | some primaryKey =>
    dsimp only
    split
    · exact (erases_readGeneratedId o m query).bind fun r => erases_free_pure o m r.2 _
    · exact erases_free_pure o m query obj

theorem erases_firstObject (query : Query RS) :
    Erases id ((ofOrm o m).firstRow (ofOrm o m).objectFromCurrentRow query)
      (o.firstObject m query.resultSet) := by
  refine (erases_nextRow o m query).bind fun r => ?_
  dsimp only
  split
  · exact (erases_throwing _).bind fun obj => erases_free_pure o m r.2 _
  · exact erases_free_pure o m r.2 _

theorem erases_collect (query : Query RS) (results : List (Object Slot)) (fuel : ℕ) :
    Erases id ((ofOrm o m).collect query results fuel)
      (o.collect m query.resultSet results fuel) := by
  induction fuel generalizing query results with
  | zero => exact projects_stop _
  | succ fuel ih =>
    refine (erases_nextRow o m query).bind fun r => ?_
    dsimp only
    split
    · exact (erases_throwing _).bind fun obj => ih r.2 _
    · exact erases_free_pure o m r.2 _

theorem erases_saveObject (obj : Option (Object Slot)) :
    Erases id ((ofOrm o m).saveObject obj) (o.saveObject m obj) := by
  refine (erases_throwing _).bind fun obj => ?_
  exact (erases_issue o m _ (fun rs => erases_bound o m (erases_bindValues o m _ obj _)) _).bind
    fun query => erases_keepGeneratedId o m obj query

theorem erases_updateObject (obj : Option (Object Slot)) :
    Erases id ((ofOrm o m).updateObject obj) (o.updateObject m obj) := by
  refine (erases_throwing _).bind fun obj => (erases_throwing _).bind fun primaryKey => ?_
  refine (erases_issue o m _ (fun rs => erases_bound o m ?_) _).bind fun query =>
    erases_free o m query
  rw [mapError_bind]
  exact congrArg (· >>= _) (erases_bindValues o m _ obj _)

theorem erases_removeObject (obj : Option (Object Slot)) :
    Erases id ((ofOrm o m).removeObject obj) (o.removeObject m obj) := by
  refine (erases_throwing _).bind fun obj => (erases_throwing _).bind fun primaryKey => ?_
  exact (erases_issue o m _ (fun rs => erases_bound o m rfl) _).bind fun query =>
    erases_free o m query

theorem erases_findByIdObject (id : TOrm.Id) :
    Erases (fun obj => obj) ((ofOrm o m).findByIdObject id) (o.findByIdObject m id) := by
  refine (erases_throwing _).bind fun sql => ?_
  exact (erases_issue o m sql (fun rs => erases_bound o m rfl) _).bind fun query =>
    erases_firstObject o m query

theorem erases_populateFindWhere (whereSql : Text) (params : Option TOrmParams)
    (orderBy : List TOrmOrderItem) (limit offset : ℤ) (msg : String) (fuel : ℕ) :
    Erases id ((ofOrm o m).populateFindWhere whereSql params orderBy limit offset msg fuel)
      (o.populateFindWhere m whereSql params orderBy limit offset msg fuel) := by
  refine (erases_throwing _).bind fun sql => ?_
  exact (erases_issue o m sql (erases_bindParams o m params) _).bind fun query =>
    erases_collect o m query [] fuel

theorem erases_findOneWhereObject (whereSql : Text) (params : Option TOrmParams) :
    Erases id ((ofOrm o m).findOneWhereObject whereSql params)
      (o.findOneWhereObject m whereSql params) := by
  refine (erases_throwing _).bind fun sql => ?_
  exact (erases_issue o m sql (erases_bindParams o m params) _).bind fun query =>
    erases_firstObject o m query

theorem erases_countWhere (whereSql : Text) (params : Option TOrmParams) :
    Erases id ((ofOrm o m).countWhere whereSql params) (o.countWhere m whereSql params) := by
  refine (erases_issue o m _ (erases_bindParams o m params) _).bind fun query => ?_
  unfold TOrmDaoBase.firstRow
  rw [bind_bind]
  refine (erases_nextRow o m query).bind fun r => ?_
  dsimp only
  split
  · dsimp only [ofOrm]
    cases o.value r.2.resultSet 0 with
    | none => exact projects_stop _
    | some v => exact erases_free_pure o m r.2 _
  · exact erases_free_pure o m r.2 _

theorem erases_existsWhere (whereSql : Text) (params : Option TOrmParams) :
    Erases id ((ofOrm o m).existsWhere whereSql params) (o.existsWhere m whereSql params) :=
  (erases_issue o m _ (erases_bindParams o m params) _).bind fun query =>
    (erases_nextRow o m query).bind fun r => erases_free_pure o m r.2 r.1

theorem erases_removeWhere (whereSql : Text) (params : Option TOrmParams) :
    Erases id ((ofOrm o m).removeWhere whereSql params) (o.removeWhere m whereSql params) := by
  refine (erases_issue o m _ (erases_bindParams o m params) _).bind fun query => ?_
  exact fun s => rfl

/-- Where no conversion throws, the calls are those of the ORM. -/
theorem erases_run (call : Call Slot) (fuel : ℕ) :
    Erases id (call.run (ofOrm o m) fuel) ((call.erase m).run o fuel) := by
  cases call with
  | save obj => exact (erases_saveObject o m obj).bind fun obj => projects_pure _
  | update obj => exact (erases_updateObject o m obj).bind fun _ => projects_pure _
  | remove obj => exact (erases_removeObject o m obj).bind fun _ => projects_pure _
  | findById id => exact (erases_findByIdObject o m id).bind fun obj => projects_pure _
  | findAll orderBy limit offset =>
    exact (erases_populateFindWhere o m [] none orderBy limit offset _ fuel).bind fun objs =>
      projects_pure _
  | findWhere whereSql params orderBy limit offset =>
    exact (erases_populateFindWhere o m whereSql params orderBy limit offset _ fuel).bind
      fun objs => projects_pure _
  | findOneWhere whereSql params =>
    exact (erases_findOneWhereObject o m whereSql params).bind fun obj => projects_pure _
  | countWhere whereSql params =>
    exact (erases_countWhere o m whereSql params).bind fun n => projects_pure _
  | existsWhere whereSql params =>
    exact (erases_existsWhere o m whereSql params).bind fun found => projects_pure _
  | removeWhere whereSql params =>
    exact (erases_removeWhere o m whereSql params).bind fun n => projects_pure _

end

/-! ### A row that cannot be read -/

def sizeField : TField := ⟨"size".toList, .longIntTypeId, []⟩

def fileType : TClassId := ⟨"File".toList, [], [sizeField]⟩

def fileModel : TOrmModel :=
  ⟨fileType, "file".toList, [buildField .lowerCase sizeField], [], none⟩

/-- A database in which every query has one row. -/
def files : TOrmDaoBase SqliteDriver.TDBSQLite SqliteDriver.TSQLiteResultSet Cell Unit :=
  ofOrm (OrmSqliteQueries.onSqlite OrmSqliteQueries.notes (OrmSqliteQueries.oneColumn [[.integer 5]]))
    fileModel

/-- The type of the field is bound when a file is saved, but it cannot be read back: the query
that finds a file is left open. -/
theorem find_left_open :
    buildModel (none : Option (TOrmRegistry fun _ => 0)) .lowerCase fileType =
        .ok (fileModel, none) ∧
      ∃ r s', (Call.findOneWhere [] none).run files 0 ⟨OrmSqliteQueries.database, []⟩ = (r, s') ∧
        s'.events = [.created 0] ∧ ¬ Released r s'.events := by
  have hthrown : ∃ e s', (Call.findOneWhere [] none).run files 0 ⟨OrmSqliteQueries.database, []⟩ =
      (.error (.thrown e), s') ∧ s'.events = [.created 0] := ⟨_, _, rfl, rfl⟩
  obtain ⟨e, s', hrun, hevents⟩ := hthrown
  refine ⟨rfl, _, s', hrun, hevents, hevents ▸ not_released_created ?_ 0⟩
  simp

end DatabaseMod.OrmFrees
