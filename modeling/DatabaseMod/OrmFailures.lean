import DatabaseMod.OrmOperations
import DatabaseMod.PostgresColumns

/-!
# Failures of the ORM

What an operation attempts on the database, and how it ends when an attempt fails. The
operations on objects prepare and execute one statement and throw when one of these fails;
the creation of a table hands its statements to the connection and always returns.
-/

namespace DatabaseMod.OrmFailures
open SqlTokens (Text)
open CoreValues CoreQuery OrmModel OrmStatements OrmParams OrmBinding OrmOperations
open StoppingPrograms StoppingPrograms.Program
open PostgresDriver (Libpq TDBPostgreSQL TPostgreSQLResultSet)

/-! ### Calls -/

inductive Result (Slot : Type)
  | done
  | object (obj : Option (Object Slot))
  | objects (objs : List (Object Slot))
  | number (n : ℤ)
  | found (any : Bool)

/-- A call of the ORM, or of the data access object of a model. -/
inductive Call (Slot : Type)
  | createTable (m : TOrmModel)
  | createTableForName (typeName : Text)
  | save (m : TOrmModel) (obj : Option (Object Slot))
  | update (m : TOrmModel) (obj : Option (Object Slot))
  | remove (m : TOrmModel) (obj : Option (Object Slot))
  | findById (m : TOrmModel) (id : TOrm.Id)
  | findAll (m : TOrmModel) (orderBy : List TOrmOrderItem) (limit offset : ℤ)
  | findWhere (m : TOrmModel) (whereSql : Text) (params : Option TOrmParams)
    (orderBy : List TOrmOrderItem) (limit offset : ℤ)
  | findOneWhere (m : TOrmModel) (whereSql : Text) (params : Option TOrmParams)
  | countWhere (m : TOrmModel) (whereSql : Text) (params : Option TOrmParams)
  | existsWhere (m : TOrmModel) (whereSql : Text) (params : Option TOrmParams)
  | removeWhere (m : TOrmModel) (whereSql : Text) (params : Option TOrmParams)

section

variable {C RS Slot α β : Type} (o : TOrm C RS Slot)

/-- A call; a loop over rows is followed up to a number of them. -/
def Call.run (fuel : ℕ) : Call Slot → Operation C (Result Slot)
  | .createTable m => do
    o.createTable m
    pure .done
  | .createTableForName typeName => do
    o.createTableForName typeName
    pure .done
  | .save m obj => do
    let obj ← o.saveObject m obj
    pure (.object (some obj))
  | .update m obj => do
    o.updateObject m obj
    pure .done
  | .remove m obj => do
    o.removeObject m obj
    pure .done
  | .findById m id => do
    let obj ← o.findByIdObject m id
    pure (.object obj)
  | .findAll m orderBy limit offset => do
    let objs ← o.findAll m orderBy limit offset fuel
    pure (.objects objs)
  | .findWhere m whereSql params orderBy limit offset => do
    let objs ← o.findWhere m whereSql params orderBy limit offset fuel
    pure (.objects objs)
  | .findOneWhere m whereSql params => do
    let obj ← o.findOneWhereObject m whereSql params
    pure (.object obj)
  | .countWhere m whereSql params => do
    let n ← o.countWhere m whereSql params
    pure (.number n)
  | .existsWhere m whereSql params => do
    let found ← o.existsWhere m whereSql params
    pure (.found found)
  | .removeWhere m whereSql params => do
    let n ← o.removeWhere m whereSql params
    pure (.number n)

/-! ### Steps without a statement -/

theorem silent_free (rs : RS) : Silent World.attempts (o.free rs) := fun _ => rfl

theorem silent_nextRow (rs : RS) : Silent World.attempts (o.nextRow rs) := fun _ => rfl

theorem silent_throwing (x : Except TOrmException α) :
    Silent World.attempts (throwing x : Operation C α) := by
  cases x with
  | ok a => exact silent_pure a
  | error e => exact silent_stop _

theorem silent_bound (rs : RS) (x : Except TOrmException CoreResultSet.TQueryResultSet) :
    Silent World.attempts (o.bound rs x) := by
  cases x with
  | ok base => exact silent_pure _
  | error e => exact silent_stop _

theorem silent_bindParams (params : Option TOrmParams) (rs : RS) :
    Silent World.attempts (o.bindParams params rs) := by
  unfold TOrm.bindParams
  split
  · exact silent_pure rs
  · split
    · exact silent_stop _
    · exact silent_pure _

theorem silent_free_pure (rs : RS) (a : α) :
    Silent World.attempts (o.free rs >>= fun _ => pure a) :=
  (silent_free o rs).bind fun _ => silent_pure a

theorem silent_firstObject (m : TOrmModel) (rs : RS) :
    Silent World.attempts (o.firstObject m rs) := by
  refine (silent_nextRow o rs).bind fun r => ?_
  dsimp only
  split
  · exact (silent_throwing _).bind fun obj => silent_free_pure o _ _
  · exact silent_free_pure o _ _

theorem silent_readGeneratedId (rs : RS) : Silent World.attempts (o.readGeneratedId rs) := by
  unfold TOrm.readGeneratedId
  cases o.dialect with
  | sqlite => exact fun _ => rfl
  | postgres =>
    refine (silent_nextRow o rs).bind fun r => ?_
    dsimp only
    split
    · split
      · exact silent_stop _
      · exact silent_pure _
    · exact silent_stop _

theorem silent_collect (m : TOrmModel) (rs : RS) (results : List (Object Slot)) (fuel : ℕ) :
    Silent World.attempts (o.collect m rs results fuel) := by
  induction fuel generalizing rs results with
  | zero => exact silent_stop _
  | succ fuel ih =>
    refine (silent_nextRow o rs).bind fun r => ?_
    dsimp only
    split
    · exact (silent_throwing _).bind fun obj => ih _ _
    · exact silent_free_pure o _ _

/-! ### One statement -/

/-- The ways in which an operation on objects can end, with what it attempted. -/
inductive Course : Except Exit α → List Attempt → Prop
  | unissued (e : Exit) : Course (.error e) []
  | unprepared (e : TOrmDatabaseException) (sql : Text) :
    Course (.error (.databaseException e)) [.prepare sql false]
  | unbound (e : Exit) (sql : Text) : Course (.error e) [.prepare sql true]
  | unexecuted (e : TOrmDatabaseException) (sql : Text) :
    Course (.error (.databaseException e)) [.prepare sql true, .execute sql false]
  | executed (r : Except Exit α) (sql : Text) :
    Course r [.prepare sql true, .execute sql true]

theorem Course.error {e : Exit} {new : List Attempt} (h : Course (.error e : Except Exit α) new) :
    Course (.error e : Except Exit β) new := by
  cases h with
  | unissued => exact .unissued e
  | unprepared e sql => exact .unprepared e sql
  | unbound _ sql => exact .unbound e sql
  | unexecuted e sql => exact .unexecuted e sql
  | executed _ sql => exact .executed _ sql

theorem Course.ok {a : α} {new : List Attempt} (h : Course (.ok a : Except Exit α) new) :
    ∃ sql, new = [.prepare sql true, .execute sql true] := by
  cases h with
  | executed _ sql => exact ⟨sql, rfl⟩

theorem prepareQuery_logs (sql : Text) : Logs World.attempts (fun r new =>
    (∃ rs, r = .ok rs ∧ new = [.prepare (o.dialect.rewritePlaceholders sql) true]) ∨
    ∃ e, r = .error (.databaseException e) ∧
      new = [.prepare (o.dialect.rewritePlaceholders sql) false]) (o.prepareQuery sql) := by
  intro s
  unfold TOrm.prepareQuery
  dsimp only
  cases hok : (o.driver.prepareStatement (o.dialect.rewritePlaceholders sql)
      (o.driver.opened s.db none)).1 with
  | true => exact ⟨_, rfl, .inl ⟨_, rfl, rfl⟩⟩
  | false => exact ⟨_, rfl, .inr ⟨_, rfl, rfl⟩⟩

theorem executeQuery_logs (rs : RS) (sql : Text) (msg : Option Text) :
    Logs World.attempts (fun r new =>
      (∃ rs, r = .ok rs ∧ new = [.execute (o.dialect.rewritePlaceholders sql) true]) ∨
      ∃ e, r = .error (.databaseException e) ∧
        new = [.execute (o.dialect.rewritePlaceholders sql) false])
      (o.executeQuery rs sql msg) := by
  intro s
  unfold TOrm.executeQuery
  dsimp only
  cases hok : (o.driver.executePrepared (s.db, rs)).1 with
  | true => exact ⟨_, rfl, .inl ⟨_, rfl, rfl⟩⟩
  | false => exact ⟨_, rfl, .inr ⟨_, rfl, rfl⟩⟩

theorem issue_course (sql : Text) {bind : RS → Operation C RS}
    (hbind : ∀ rs, Silent World.attempts (bind rs)) (msg : Option Text) :
    Logs World.attempts Course (o.issue sql bind msg) := by
  refine (prepareQuery_logs o sql).bind ?_ ?_
  · rintro e new (⟨rs, hr, -⟩ | ⟨e', he, rfl⟩)
    · cases hr
    · obtain rfl := Except.error.inj he
      exact .unprepared e' _
  · rintro rs new (⟨rs', -, rfl⟩ | ⟨e, he, -⟩)
    · refine (hbind rs).logs.bind ?_ ?_
      · rintro e new rfl
        exact .unbound e _
      · rintro rs' new rfl
        refine (executeQuery_logs o rs' sql msg).imp ?_
        rintro r new (⟨rs'', rfl, rfl⟩ | ⟨e, rfl, rfl⟩)
        · exact .executed _ _
        · exact .unexecuted e _
    · cases he

/-- After its statement an operation attempts nothing more. -/
theorem Course.bind {m : Operation C α} (hm : Logs World.attempts Course m)
    {f : α → Operation C β} (hf : ∀ a, Silent World.attempts (f a)) :
    Logs World.attempts Course (m >>= f) := by
  refine Logs.bind hm (fun e new h => h.error) fun a new h => ?_
  obtain ⟨sql, rfl⟩ := h.ok
  refine (hf a).logs.imp ?_
  rintro r new rfl
  exact .executed r sql

/-- Before its statement an operation may only throw. -/
theorem course_throwing (x : Except TOrmException α) {f : α → Operation C β}
    (hf : ∀ a, Logs World.attempts Course (f a)) :
    Logs World.attempts Course (throwing x >>= f) := by
  refine (silent_throwing x).logs.bind ?_ ?_
  · rintro e new rfl
    exact .unissued e
  · rintro a new rfl
    exact hf a

/-! ### The operations on objects -/

section

variable (m : TOrmModel)

theorem saveObject_course (obj : Option (Object Slot)) :
    Logs World.attempts Course (o.saveObject m obj) := by
  refine course_throwing _ fun obj => ?_
  refine Course.bind (issue_course o _ (fun rs => silent_bound o rs _) _) fun rs => ?_
  dsimp only
  split
  · exact silent_free_pure o rs _
  · split
    · exact (silent_readGeneratedId o rs).bind fun r => silent_free_pure o _ _
    · exact silent_free_pure o rs _

theorem updateObject_course (obj : Option (Object Slot)) :
    Logs World.attempts Course (o.updateObject m obj) := by
  refine course_throwing _ fun obj => course_throwing _ fun primaryKey => ?_
  exact Course.bind (issue_course o _ (fun rs => silent_bound o rs _) _) fun rs => silent_free o rs

theorem removeObject_course (obj : Option (Object Slot)) :
    Logs World.attempts Course (o.removeObject m obj) := by
  refine course_throwing _ fun obj => course_throwing _ fun primaryKey => ?_
  exact Course.bind (issue_course o _ (fun rs => silent_bound o rs _) _) fun rs => silent_free o rs

theorem findByIdObject_course (id : TOrm.Id) :
    Logs World.attempts Course (o.findByIdObject m id) := by
  refine course_throwing _ fun sql => ?_
  exact Course.bind (issue_course o _ (fun rs => silent_bound o rs _) _) fun rs =>
    silent_firstObject o m rs

theorem populateFindWhere_course (whereSql : Text) (params : Option TOrmParams)
    (orderBy : List TOrmOrderItem) (limit offset : ℤ) (msg : String) (fuel : ℕ) :
    Logs World.attempts Course
      (o.populateFindWhere m whereSql params orderBy limit offset msg fuel) := by
  refine course_throwing _ fun sql => ?_
  exact Course.bind (issue_course o _ (silent_bindParams o params) _) fun rs =>
    silent_collect o m rs [] fuel

theorem findOneWhereObject_course (whereSql : Text) (params : Option TOrmParams) :
    Logs World.attempts Course (o.findOneWhereObject m whereSql params) := by
  refine course_throwing _ fun sql => ?_
  exact Course.bind (issue_course o _ (silent_bindParams o params) _) fun rs =>
    silent_firstObject o m rs

theorem countWhere_course (whereSql : Text) (params : Option TOrmParams) :
    Logs World.attempts Course (o.countWhere m whereSql params) := by
  refine Course.bind (issue_course o _ (silent_bindParams o params) _) fun rs => ?_
  refine (silent_nextRow o rs).bind fun r => ?_
  dsimp only
  split
  · split
    · exact silent_stop _
    · exact silent_free_pure o _ _
  · exact silent_free_pure o _ _

theorem existsWhere_course (whereSql : Text) (params : Option TOrmParams) :
    Logs World.attempts Course (o.existsWhere m whereSql params) :=
  Course.bind (issue_course o _ (silent_bindParams o params) _) fun rs =>
    (silent_nextRow o rs).bind fun _ => silent_free_pure o _ _

theorem removeWhere_course (whereSql : Text) (params : Option TOrmParams) :
    Logs World.attempts Course (o.removeWhere m whereSql params) := by
  refine Course.bind (issue_course o _ (silent_bindParams o params) _) fun rs => ?_
  exact Silent.bind (fun _ => rfl) fun affected => silent_free_pure o rs affected

end

/-! ### Tables -/

/-- The statements of a table and of its indexes. -/
def tableStatements (m : TOrmModel) : List Text :=
  buildCreateTableSql o.dialect m :: m.indexes.map (buildCreateIndexSql o.dialect m)

/-- Whether the driver executes a statement that the connection is handed, and the connection
behind it. -/
def handed (db : C) (sql : Text) : Bool × C :=
  let r := o.driver.executeStatement sql (o.driver.opened
    (o.driver.setConnection db (o.driver.connection db).resetError) none)
  (r.1, if r.1 then o.driver.setConnection r.2.1 (o.driver.connection r.2.1).resetError else r.2.1)

/-- The driver executes all of the statements, one after the other. -/
def Executes : C → List Text → Prop
  | _, [] => True
  | db, sql :: rest => (handed o db sql).1 = true ∧ Executes (handed o db sql).2 rest

theorem connectionExecuteQuery_eq {sql : Text} (h : sql ≠ []) (s : World C) :
    o.connectionExecuteQuery sql s = (.ok (), ⟨(handed o s.db sql).2,
      s.attempts ++ [.execute sql (handed o s.db sql).1]⟩) := by
  unfold TOrm.connectionExecuteQuery handed
  dsimp only
  rw [if_pos (List.length_pos_iff.mpr h)]
  split_ifs with hok
  · simp only [hok]
  · simp only [hok]

/-- Whatever fails, the statements are handed over one after the other. -/
theorem handed_logs (sqls : List Text) (hne : ∀ sql ∈ sqls, sql ≠ []) (s : World C) :
    ∃ s' new, sqls.forM o.connectionExecuteQuery s = (.ok (), s') ∧
      s'.attempts = s.attempts ++ new ∧ (∀ x ∈ new, ∃ sql ok, x = .execute sql ok) ∧
      ((∀ x ∈ new, x.ok = true) ↔ Executes o s.db sqls) := by
  induction sqls generalizing s with
  | nil =>
    exact ⟨s, [], rfl, (List.append_nil _).symm, fun _ hx => absurd hx List.not_mem_nil,
      iff_of_true (fun _ hx => absurd hx List.not_mem_nil) trivial⟩
  | cons sql rest ih =>
    obtain ⟨hsql, hrest⟩ := List.forall_mem_cons.mp hne
    have hfirst := connectionExecuteQuery_eq o hsql s
    obtain ⟨s', new, hrun, hlog, hexecute, hok⟩ := ih hrest
      ⟨(handed o s.db sql).2, s.attempts ++ [.execute sql (handed o s.db sql).1]⟩
    refine ⟨s', .execute sql (handed o s.db sql).1 :: new, ?_, ?_, ?_, ?_⟩
    · exact (bind_ok hfirst _).trans hrun
    · rw [hlog, List.append_assoc]
      rfl
    · exact List.forall_mem_cons.mpr ⟨⟨sql, _, rfl⟩, hexecute⟩
    · rw [List.forall_mem_cons, hok]
      rfl

theorem tableStatements_ne_nil (m : TOrmModel) : ∀ sql ∈ tableStatements o m, sql ≠ [] := by
  refine List.forall_mem_cons.mpr ⟨?_, fun sql hsql => ?_⟩
  · exact List.append_ne_nil_of_right_ne_nil _ (List.cons_ne_nil _ _)
  · obtain ⟨index, -, rfl⟩ := List.mem_map.mp hsql
    exact List.append_ne_nil_of_right_ne_nil _ (List.cons_ne_nil _ _)

theorem forM_map_eq (f : TOrmIndex → Text) (g : Text → Operation C Unit) (l : List TOrmIndex) :
    (l.map f).forM g = l.forM fun index => g (f index) := by
  induction l with
  | nil => rfl
  | cons index l ih => exact congrArg (fun rest => g (f index) >>= fun _ => rest) ih

theorem createTable_eq (m : TOrmModel) :
    o.createTable m = (tableStatements o m).forM o.connectionExecuteQuery :=
  congrArg (fun rest => o.connectionExecuteQuery (buildCreateTableSql o.dialect m) >>= fun _ => rest)
    (forM_map_eq _ _ m.indexes).symm

/-! ### Reports -/

/-- What the failures of attempts should do to an operation: it returns only if it executed
all that it prepared and nothing failed, and else it throws an exception of the ORM. -/
structure Reports (r : Except Exit α) (new : List Attempt) : Prop where
  returned : ∀ a, r = .ok a → (∀ x ∈ new, x.ok = true) ∧
    ∀ sql, .prepare sql true ∈ new → .execute sql true ∈ new
  failed : (∃ x ∈ new, x.ok = false) → ∃ e, r = .error e ∧ e.ofOrm = true

theorem Course.reports {r : Except Exit α} {new : List Attempt} (h : Course r new) :
    Reports r new := by
  cases h with
  | unissued e => exact ⟨nofun, fun ⟨x, hx, _⟩ => absurd hx List.not_mem_nil⟩
  | unprepared e sql => exact ⟨nofun, fun _ => ⟨_, rfl, rfl⟩⟩
  | unbound e sql =>
    refine ⟨nofun, fun ⟨x, hx, hfail⟩ => ?_⟩
    obtain rfl := List.mem_singleton.mp hx
    cases hfail
  | unexecuted e sql => exact ⟨nofun, fun _ => ⟨_, rfl, rfl⟩⟩
  | executed _ sql =>
    have hok : ∀ x ∈ [Attempt.prepare sql true, .execute sql true], x.ok = true := by simp [Attempt.ok]
    refine ⟨fun a _ => ⟨hok, fun sql' hmem => ?_⟩, fun ⟨x, hx, hfail⟩ => ?_⟩
    · obtain rfl : sql' = sql := by simpa using hmem
      exact List.mem_cons_of_mem _ List.mem_cons_self
    · exact absurd ((hok x hx).symm.trans hfail) (by decide)

/-- An operation that always returns reports its attempts only if all of them succeed. -/
theorem reports_ok_iff {a : α} {new : List Attempt}
    (hexecute : ∀ x ∈ new, ∃ sql ok, x = .execute sql ok) :
    Reports (.ok a : Except Exit α) new ↔ ∀ x ∈ new, x.ok = true := by
  constructor
  · exact fun h => (h.returned a rfl).1
  · intro hok
    refine ⟨fun _ _ => ⟨hok, fun sql hmem => ?_⟩, fun ⟨x, hx, hfail⟩ => ?_⟩
    · obtain ⟨sql', ok, hx⟩ := hexecute _ hmem
      cases hx
    · exact absurd ((hok x hx).symm.trans hfail) (by decide)

/-- The statements that a call hands to the connection. -/
def Call.direct : Call Slot → List Text
  | .createTable m => tableStatements o m
  | .createTableForName typeName => (o.getModelForName typeName).elim [] (tableStatements o)
  | _ => []

theorem createTable_reports_iff (m : TOrmModel) (s : World C) :
    ∃ new, ((o.createTable m >>= fun _ => pure (Result.done : Result Slot)) s).2.attempts =
        s.attempts ++ new ∧
      (Reports ((o.createTable m >>= fun _ => pure (Result.done : Result Slot)) s).1 new ↔
        Executes o s.db (tableStatements o m)) := by
  obtain ⟨s', new, hrun, hlog, hexecute, hok⟩ :=
    handed_logs o (tableStatements o m) (tableStatements_ne_nil o m) s
  rw [← createTable_eq] at hrun
  have hdone := bind_ok hrun fun _ => (pure (Result.done : Result Slot) : Operation C _)
  refine ⟨new, ?_, ?_⟩
  · rw [hdone]
    exact hlog
  · rw [hdone, ← hok]
    exact reports_ok_iff hexecute

theorem course_reports {m : Operation C α} (hm : Logs World.attempts Course m)
    (f : α → Result Slot) (s : World C) :
    ∃ new, ((m >>= fun a => pure (f a)) s).2.attempts = s.attempts ++ new ∧
      (Reports ((m >>= fun a => pure (f a)) s).1 new ↔ True) := by
  obtain ⟨new, hnew, hcourse⟩ := Course.bind hm (fun a => silent_pure (f a)) s
  exact ⟨new, hnew, iff_true_intro hcourse.reports⟩

/-- Every call reports the failures of its attempts exactly where the connection executes the
statements that the call hands to it. -/
theorem failures_thrown_iff (call : Call Slot) (fuel : ℕ) (s : World C) :
    ∃ new, (call.run o fuel s).2.attempts = s.attempts ++ new ∧
      (Reports (call.run o fuel s).1 new ↔ Executes o s.db (call.direct o)) := by
  cases call with
  | createTable m => exact createTable_reports_iff o m s
  | createTableForName typeName =>
    change ∃ new, ((o.createTableForName typeName >>= fun _ => pure Result.done) s).2.attempts = _ ∧
      (Reports ((o.createTableForName typeName >>= fun _ => pure Result.done) s).1 new ↔
        Executes o s.db ((o.getModelForName typeName).elim [] (tableStatements o)))
    unfold TOrm.createTableForName
    cases o.getModelForName typeName with
    | none =>
      refine ⟨[], (List.append_nil _).symm, iff_of_true (Course.reports ?_) trivial⟩
      exact .unissued (.exception (typeNotFoundException typeName))
    | some m => exact createTable_reports_iff o m s
  | save m obj => exact course_reports (saveObject_course o m obj) _ s
  | update m obj => exact course_reports (updateObject_course o m obj) _ s
  | remove m obj => exact course_reports (removeObject_course o m obj) _ s
  | findById m id => exact course_reports (findByIdObject_course o m id) _ s
  | findAll m orderBy limit offset =>
    exact course_reports (populateFindWhere_course o m [] none orderBy limit offset _ fuel) _ s
  | findWhere m whereSql params orderBy limit offset =>
    exact course_reports
      (populateFindWhere_course o m whereSql params orderBy limit offset _ fuel) _ s
  | findOneWhere m whereSql params =>
    exact course_reports (findOneWhereObject_course o m whereSql params) _ s
  | countWhere m whereSql params => exact course_reports (countWhere_course o m whereSql params) _ s
  | existsWhere m whereSql params =>
    exact course_reports (existsWhere_course o m whereSql params) _ s
  | removeWhere m whereSql params =>
    exact course_reports (removeWhere_course o m whereSql params) _ s

end

/-! ### A server that refuses every statement -/

def refusing : Libpq where
  answer _ := some .failed
  connected _ := true
  errorMessage _ := "permission denied".toList
  unescapeBytea _ := []
  sizeT := 8

def refused : TOrm TDBPostgreSQL TPostgreSQLResultSet Cell where
  driver := PostgresDriver.driver refusing PostgresColumns.words
  lastInsertedId _ := -1
  rowsAffected _ := -1
  nativeErrorMessage _ := []
  dialect := .postgres
  reflection := Cell.reflection
  conv := .integers
  objects := addresses false
  sameName a b := a = b
  getModelForName _ := none

/-- A table with one column and an index on it. -/
def indexed : TOrmModel :=
  ⟨⟨"Account".toList, [], []⟩, "account".toList, [plainField .intTypeId],
    [⟨"account_size".toList, [plainField .intTypeId], false⟩], none⟩

/-- The table and its index are refused, and `CreateTable` returns. -/
theorem refused_table_returns :
    ∃ s', (Call.createTable indexed).run refused 0 ⟨PostgresColumns.opened, []⟩ = (.ok .done, s') ∧
      s'.attempts = [.execute (buildCreateTableSql .postgres indexed) false,
        .execute ("CREATE INDEX IF NOT EXISTS \"account_size\" ON \"account\" (\"size\")".toList) false] ∧
      ¬ Reports (.ok .done : Except Exit (Result Cell)) s'.attempts := by
  have hattempts : ((Call.createTable indexed).run refused 0 ⟨PostgresColumns.opened, []⟩).2.attempts =
      [.execute (buildCreateTableSql .postgres indexed) false,
        .execute ("CREATE INDEX IF NOT EXISTS \"account_size\" ON \"account\" (\"size\")".toList) false] := by
    decide +kernel
  refine ⟨_, rfl, hattempts, fun h => ?_⟩
  have hok := (h.returned _ rfl).1 _ (hattempts ▸ List.mem_cons_self)
  cases hok

end DatabaseMod.OrmFailures
