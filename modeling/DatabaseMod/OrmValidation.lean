import DatabaseMod.OrmCommands
import DatabaseMod.SqliteSchemas

/-!
# The validation of all models

The report of a validation is compared with the schema of the database: it says what is missing
there, and nothing is missing for models whose tables were created.
-/

namespace DatabaseMod.OrmValidation
open SqlTokens (Text)
open SqlNames (Bare)
open CoreValues CoreQuery CoreReporting SqlEngine SqlDatabase SqliteDriver SqliteReporting
open SqliteReads SqliteSchemas
open TableInspection TableInspection.TDBSQLite
open OrmInspection OrmModel OrmStatements OrmStatementReading OrmOperations OrmFailures
open OrmSqliteQueries
open StoppingPrograms StoppingPrograms.Program

/-! ### Reports -/

def isValid (report : TOrmSchemaValidationReport) : Bool := report.length = 0

def toString (report : TOrmSchemaValidationReport) : Text :=
  report.flatMap fun issue =>
    issue.model.typeId.name ++ ": ".toList ++ issue.message ++ "\n".toList

def schemaValidationException (report : TOrmSchemaValidationReport) : TOrmException :=
  ⟨"Schema validation failed:\n".toList ++ toString report⟩

section

variable {C : Type} (sameName : Text → Text → Bool)
  (getTableInfo : Text → C → Option (Option TDBTable × C))

/-- The models are the values of the registry, in the order of its map. -/
def validateAllModels (models : List TOrmModel) (conn : C) :
    Option (TOrmSchemaValidationReport × C) :=
  models.foldlM (fun r m => validateModel sameName getTableInfo m r.1 r.2) ([], conn)

def validateOnStartup (models : List TOrmModel) (conn : C) :
    Option (TOrmSchemaValidationReport × C) := validateAllModels sameName getTableInfo models conn

def validateOnStartupOrThrow (models : List TOrmModel) (conn : C) :
    Option (Except TOrmException Unit × C) :=
  (validateOnStartup sameName getTableInfo models conn).map fun r =>
    (if ¬ isValid r.1 then .error (schemaValidationException r.1) else .ok (), r.2)

end

/-! ### What is missing -/

section

variable (sameName : Text → Text → Bool)

/-- The fields of a model for which a table has no column. -/
def lacking (columns : List Text) (m : TOrmModel) : List TOrmField :=
  m.fields.filter fun fld => !columns.any (sameName · fld.columnName)

def missing (schema : Schema) (m : TOrmModel) : TOrmSchemaValidationReport :=
  match schema.find m.tableName with
  | none => [⟨m, tableMissing m⟩]
  | some table => (lacking sameName table.2 m).map fun fld => ⟨m, columnMissing m fld⟩

variable {sameName}

theorem addFields_eq (table : TDBTable) (m : TOrmModel) (flds : List TOrmField)
    (report : TOrmSchemaValidationReport) :
    flds.foldl (fun report fld => if tableHasColumn sameName table fld.columnName then report
        else report.addIssue m (columnMissing m fld)) report =
      report ++ (flds.filter fun fld =>
        !(table.columns.map TDBColumn.name).any (sameName · fld.columnName)).map
          fun fld => ⟨m, columnMissing m fld⟩ := by
  induction flds generalizing report with
  | nil => rw [List.foldl_nil, List.filter_nil, List.map_nil, List.append_nil]
  | cons fld flds ih =>
    have hhas : (table.columns.map TDBColumn.name).any (sameName · fld.columnName) =
        tableHasColumn sameName table fld.columnName := List.any_map
    rw [List.foldl_cons, ih, List.filter_cons, hhas]
    cases tableHasColumn sameName table fld.columnName with
    | true => rfl
    | false =>
      rw [if_neg Bool.false_ne_true, TOrmSchemaValidationReport.addIssue, List.append_assoc]
      rfl

/-- Where the connection describes the table as the schema has it, what is missing is added. -/
theorem validateModel_missing {C : Type} (getTableInfo : Text → C → Option (Option TDBTable × C))
    {m : TOrmModel} {conn conn' : C} {found : Option TDBTable} {schema : Schema}
    (hinfo : getTableInfo m.tableName conn = some (found, conn'))
    (hnames : found.map (·.columns.map TDBColumn.name) = (schema.find m.tableName).map Prod.snd)
    (report : TOrmSchemaValidationReport) :
    validateModel sameName getTableInfo m report conn =
      some (report ++ missing sameName schema m, conn') := by
  rw [validateModel, hinfo, Option.map_some, missing]
  cases hfind : schema.find m.tableName with
  | none =>
    rw [hfind] at hnames
    obtain rfl := Option.map_eq_none_iff.mp hnames
    rfl
  | some table =>
    rw [hfind] at hnames
    obtain ⟨described, rfl, hcolumns⟩ := Option.map_eq_some_iff.mp hnames
    dsimp only
    rw [addFields_eq, hcolumns, lacking]

variable {e : Engine} (S : Schemas e) (conv : Conversions)

theorem validate_reads {models : List TOrmModel}
    (hbare : ∀ m ∈ models, Bare sqliteWords m.tableName) {conn : TDBSQLite}
    (hopen : conn.isOpen = true) (report : TOrmSchemaValidationReport) :
    ∃ fuel conn', (∀ fuel' ≥ fuel, models.foldlM (fun r m => validateModel sameName
        (fun tableName => getTableInfo e conv tableName false fuel') m r.1 r.2) (report, conn) =
      some (report ++ models.flatMap (missing sameName (S.schema conn.log)), conn')) ∧
      conn'.isOpen = true ∧ OnlyReads AsksTables conn.log conn'.log := by
  induction models generalizing conn report with
  | nil =>
    refine ⟨0, conn, fun fuel' _ => ?_, hopen, .refl⟩
    rw [List.flatMap_nil, List.append_nil]
    rfl
  | cons m models ih =>
    obtain ⟨hm, hmodels⟩ := List.forall_mem_cons.mp hbare
    obtain ⟨fuel, found, conn', hinfo, hopen', hreads, hnames⟩ :=
      getTableInfo_names S conv hopen ((tableRead_iff m.tableName).mpr hm) hm.nul_notMem
    obtain ⟨fuel', conn'', hrest, hopen'', hreads'⟩ :=
      ih hmodels hopen' (report ++ missing sameName (S.schema conn.log) m)
    refine ⟨max fuel fuel', conn'', fun most hle => ?_, hopen'', hreads.trans hreads'⟩
    have hfirst := @validateModel_missing sameName _
      (fun tableName => getTableInfo e conv tableName false most) m _ _ _ _
      (hinfo most (le_of_max_le_left hle)) hnames report
    have hlast := hrest most (le_of_max_le_right hle)
    rw [S.schema_reads hreads, List.append_assoc] at hlast
    rw [List.foldlM_cons, hfirst, List.flatMap_cons]
    exact hlast

/-- A validation throws if its report is not empty. -/
theorem orThrow_eq {C : Type} {getTableInfo : Text → C → Option (Option TDBTable × C)}
    {models : List TOrmModel} {conn conn' : C} {report : TOrmSchemaValidationReport}
    (h : validateAllModels sameName getTableInfo models conn = some (report, conn')) :
    validateOnStartupOrThrow sameName getTableInfo models conn =
      some (if report = [] then .ok () else .error (schemaValidationException report), conn') := by
  rw [validateOnStartupOrThrow, validateOnStartup, h, Option.map_some]
  cases report with
  | nil => rfl
  | cons issue report => rfl

end

theorem personModel_bare : ∀ m ∈ [personModel], Bare sqliteWords m.tableName := by
  intro m hm
  rw [List.mem_singleton.mp hm]
  exact bare_word (List.cons_ne_nil _ _) (by decide +kernel) (by decide +kernel)

section

variable {e : Engine} (S : Schemas e) {Slot : Type}
  (o : TOrm TDBSQLite TSQLiteResultSet Slot)

theorem nextRow_isOpen (s : Session) :
    (TSQLiteResultSet.nextRow e s).2.1.isOpen = s.1.isOpen := by
  unfold TSQLiteResultSet.nextRow
  split_ifs
  · rfl
  · dsimp only
    split
    · rfl
    · rfl
    · exact SqliteSteps.setError_isOpen ..

theorem execute_isOpen {conv : Conversions} {s : Session}
    (hok : (TSQLiteResultSet.execute e conv s).1 = true) :
    (TSQLiteResultSet.execute e conv s).2.1.isOpen = s.1.isOpen := by
  rcases SqliteSteps.execute_cases e conv s with
    ⟨t, calls, heq, -⟩ | ⟨resets, calls, -, -, -, -, heq⟩
  · rw [heq] at hok
    cases hok
  · rw [heq]
    unfold TSQLiteResultSet.prefetch
    dsimp only
    split_ifs
    · exact (TDBConnection.error_isOpen _).trans (nextRow_isOpen _)
    · exact (TDBConnection.error_isOpen _).trans (nextRow_isOpen _)

theorem executeStatement_isOpen {conv : Conversions} {sql : Text} {s : Session}
    (hok : ((driver e conv).executeStatement sql s).1 = true) :
    ((driver e conv).executeStatement sql s).2.1.isOpen = true := by
  unfold Driver.executeStatement at hok ⊢
  dsimp only at hok ⊢
  set t := (driver e conv).setQuery (SqlTokens.trim sql) s with ht
  split_ifs at hok ⊢ with hblank hopen
  · cases hok
  · have hexecute : (driver e conv).executeQuery sql t = if (TSQLiteResultSet.prepare e sql t).1
        then TSQLiteResultSet.execute e conv (TSQLiteResultSet.prepare e sql t).2
        else (false, (TSQLiteResultSet.prepare e sql t).2) := rfl
    rw [Driver.finish_ok] at hok
    rw [Driver.finish, if_pos hok]
    change ((driver e conv).executeQuery sql t).2.1.isOpen = true
    rw [hexecute] at hok ⊢
    split_ifs at hok ⊢ with hprepare
    rw [execute_isOpen hok]
    obtain ⟨calls, c, query, -, -, hcases⟩ := SqliteSteps.prepare_cases e sql (s := t) hopen
    obtain ⟨conn, stmtHandle, heq, -, -, hconn, -⟩ | ⟨conn, heq, -⟩ := hcases
    · rw [heq]
      exact (congrArg TDBConnection.isOpen hconn).trans hopen
    · rw [heq] at hprepare
      cases hprepare
  · cases hok

/-- What a statement makes of the schema, as it is sent. -/
structure Makes (sql : Text) (f : Schema → Schema) : Prop where
  trim_eq : SqlTokens.trim sql = sql
  schema_eq : ∀ log handle result, Prepared log handle sql → Begins (e.run log handle) →
    S.schema (log ++ [stepCall e log handle result]) = f (S.schema log)

variable {S}

/-- What is executed is in the schema. -/
theorem handed_schema {db : TDBSQLite} {sql : Text} {f : Schema → Schema} (hsql : Makes S sql f)
    (hok : (handed (onSqlite o e) db sql).1 = true) :
    (handed (onSqlite o e) db sql).2.isOpen = true ∧
      S.schema (handed (onSqlite o e) db sql).2.log = f (S.schema db.log) := by
  set db' : TDBSQLite := { db with toTDBConnection := db.toTDBConnection.resetError } with hdb
  set s := (driver e o.conv).opened db' none with hs
  set r := (driver e o.conv).executeStatement sql s with hr
  have hok : r.1 = true := hok
  have hhanded : (handed (onSqlite o e) db sql).2 =
      { r.2.1 with toTDBConnection := r.2.1.toTDBConnection.resetError } := if_pos hok
  have hopened := SqliteVerdict.opened_eq e o.conv db' none
  rw [← hs] at hopened
  have herror : s.1.hasError = false := by
    refine (congrArg TDBConnection.hasError hopened.2).trans ?_
    exact TDBConnection.hasError_resetError db.toTDBConnection
  have hclear : r.2.1.hasError = false :=
    View.cleared_executeStatement (V := sqliteView e o.conv) sql s hok
  rw [hhanded]
  refine ⟨executeStatement_isOpen hok, ?_⟩
  change S.schema r.2.1.log = _
  obtain ⟨calls, -, hset, -⟩ |
    ⟨before, stmt, result, after, hbefore, hafter, hlog, hprepared, hbegins⟩ :=
    SqliteTransactionOutcomes.executeStatement_outcome e o.conv S.told hsql.trim_eq herror
  · cases hclear.symm.trans hset
  · have hrun := hbegins.mp hclear
    have hsame : s.1.log = db.log := hopened.1
    have hwhole : r.2.1.log = db.log ++ before ++ [stepCall e (db.log ++ before) stmt result] ++
        after := by
      rw [hr, hlog, hsame, List.append_assoc (db.log ++ before)]
      rfl
    rw [hsame] at hprepared hrun
    rw [hwhole, S.quiet _ _ hafter, hsql.schema_eq _ stmt result hprepared hrun,
      S.quiet _ _ hbefore]

/-- The connection after these statements were handed to it. -/
def handedAll (db : TDBSQLite) (sqls : List Text) : TDBSQLite :=
  sqls.foldl (fun db sql => (handed (onSqlite o e) db sql).2) db

theorem handedAll_schema {sqls : List Text} {fs : List (Schema → Schema)}
    (hsqls : List.Forall₂ (Makes S) sqls fs) {db : TDBSQLite} (hopen : db.isOpen = true)
    (h : Executes (onSqlite o e) db sqls) :
    (handedAll (e := e) o db sqls).isOpen = true ∧
      S.schema (handedAll (e := e) o db sqls).log =
        fs.foldl (fun schema f => f schema) (S.schema db.log) := by
  induction hsqls generalizing db with
  | nil => exact ⟨hopen, rfl⟩
  | cons hsql _ ih =>
    obtain ⟨hok, hexecutes⟩ := h
    obtain ⟨hopen', hschema⟩ := handed_schema o hsql hok
    rw [List.foldl_cons, ← hschema]
    exact ih hopen' hexecutes

/-- Whatever fails, the statements are handed to the connection. -/
theorem forM_handed {sqls : List Text} (hne : ∀ sql ∈ sqls, sql ≠ []) (s : World TDBSQLite) :
    ∃ attempts, sqls.forM (onSqlite o e).connectionExecuteQuery s =
      (.ok (), ⟨handedAll (e := e) o s.db sqls, attempts⟩) := by
  induction sqls generalizing s with
  | nil => exact ⟨s.attempts, rfl⟩
  | cons sql sqls ih =>
    obtain ⟨hsql, hrest⟩ := List.forall_mem_cons.mp hne
    have hfirst := connectionExecuteQuery_eq (onSqlite o e) hsql s
    obtain ⟨attempts, hlast⟩ := ih hrest ⟨(handed (onSqlite o e) s.db sql).2,
      s.attempts ++ [.execute sql (handed (onSqlite o e) s.db sql).1]⟩
    exact ⟨attempts, (bind_ok hfirst _).trans hlast⟩

theorem createTables_handed (models : List TOrmModel) (s : World TDBSQLite) :
    ∃ attempts, models.forM (onSqlite o e).createTable s = (.ok (), ⟨handedAll (e := e) o s.db
      (models.flatMap (tableStatements (onSqlite o e))), attempts⟩) := by
  induction models generalizing s with
  | nil => exact ⟨s.attempts, rfl⟩
  | cons m models ih =>
    obtain ⟨attempts, hfirst⟩ := forM_handed (e := e) o (tableStatements_ne_nil (onSqlite o e) m) s
    rw [← createTable_eq] at hfirst
    obtain ⟨attempts', hlast⟩ := ih ⟨handedAll (e := e) o s.db (tableStatements (onSqlite o e) m),
      attempts⟩
    refine ⟨attempts', ?_⟩
    rw [List.flatMap_cons, handedAll, List.foldl_append]
    exact (bind_ok hfirst _).trans hlast

/-- The statements of a model create its table, and no other. -/
def effects (m : TOrmModel) : List (Schema → Schema) :=
  (·.create (tableOf m)) :: m.indexes.map fun _ => id

variable (S) in
theorem tableStatements_make (m : TOrmModel) :
    List.Forall₂ (Makes S) (tableStatements (onSqlite o e) m) (effects m) := by
  refine .cons ⟨?_, fun log handle result => S.created log handle m result⟩ ?_
  · apply OrmCommands.trim_eq 'C' ')'
    · exact (congrArg List.head? (buildCreateTableSql_eq .sqlite m)).trans rfl
    · exact List.getLast?_concat
    · decide
    · decide
  · change List.Forall₂ (Makes S) (m.indexes.map (buildCreateIndexSql .sqlite m)) _
    rw [List.forall₂_map_left_iff, List.forall₂_map_right_iff]
    refine List.forall₂_same.mpr fun index _ => ⟨?_, fun log handle result =>
      S.indexed log handle m index result⟩
    apply OrmCommands.trim_eq 'C' ')'
    · rw [buildCreateIndexSql_eq]
      split_ifs <;> rfl
    · exact List.getLast?_concat
    · decide
    · decide

variable (S) in
theorem statements_make (models : List TOrmModel) :
    List.Forall₂ (Makes S) (models.flatMap (tableStatements (onSqlite o e)))
      (models.flatMap effects) := by
  induction models with
  | nil => exact .nil
  | cons m models ih => exact List.rel_append (tableStatements_make S o m) ih

theorem effects_models (schema : Schema) (models : List TOrmModel) :
    (models.flatMap effects).foldl (fun schema f => f schema) schema =
      models.foldl (fun schema m => schema.create (tableOf m)) schema := by
  induction models generalizing schema with
  | nil => rfl
  | cons m models ih =>
    have hindexes (indexes : List TOrmIndex) (schema : Schema) :
        (indexes.map fun _ => (id : Schema → Schema)).foldl (fun schema f => f schema) schema =
          schema := by
      induction indexes with
      | nil => rfl
      | cons index indexes ih => exact ih
    rw [List.flatMap_cons, List.foldl_append, ih, effects, List.foldl_cons, hindexes]
    rfl

/-- A table that was there stays, and else it is that of the first model with its name. -/
theorem find_created (models : List TOrmModel) (schema : Schema) (name : Text) :
    (models.foldl (fun schema m => schema.create (tableOf m)) schema).find name =
      (schema.find name).or ((models.find? (nocase ·.tableName name)).map tableOf) := by
  induction models generalizing schema with
  | nil => exact Option.or_none.symm
  | cons m models ih =>
    rw [List.foldl_cons, ih, find_create, Option.or_assoc, List.find?_cons]
    cases hsame : nocase m.tableName name with
    | true => rw [if_pos (show nocase (tableOf m).1 name = true from hsame), Option.some_or]; rfl
    | false => rw [if_neg (by simpa [tableOf] using hsame), Option.none_or]

theorem nocase_self (name : Text) : nocase name name = true := nocase_iff.mpr rfl

/-- Where the names of the tables differ, the table of a model is its own. -/
theorem find_own {models : List TOrmModel}
    (hdistinct : models.Pairwise fun m m' => nocase m.tableName m'.tableName = false)
    {m : TOrmModel} (hm : m ∈ models) : models.find? (nocase ·.tableName m.tableName) = some m := by
  induction models with
  | nil => cases hm
  | cons first models ih =>
    obtain ⟨hfirst, hrest⟩ := List.pairwise_cons.mp hdistinct
    rw [List.find?_cons]
    rcases List.mem_cons.mp hm with rfl | hm
    · rw [nocase_self]
    · rw [hfirst m hm]
      exact ih hrest hm

variable (S) {sameName : Text → Text → Bool} (hname : ∀ c, sameName c c = true)
include hname

theorem lacking_own (m : TOrmModel) : lacking sameName (tableOf m).2 m = [] := by
  refine List.filter_eq_nil_iff.mpr fun fld hfld => ?_
  have hany : (tableOf m).2.any (sameName · fld.columnName) = true :=
    List.any_eq_true.mpr ⟨fld.columnName, List.mem_map_of_mem hfld, hname _⟩
  simp [hany]

/-- Nothing is missing of a created model but columns of a table that was there before. -/
theorem missing_created {models : List TOrmModel} (schema : Schema)
    (hdistinct : models.Pairwise fun m m' => nocase m.tableName m'.tableName = false)
    {m : TOrmModel} (hm : m ∈ models) :
    missing sameName (models.foldl (fun schema m => schema.create (tableOf m)) schema) m = [] ↔
      ∀ table, schema.find m.tableName = some table → lacking sameName table.2 m = [] := by
  rw [missing, find_created, find_own hdistinct hm]
  cases hfind : schema.find m.tableName with
  | none =>
    refine iff_of_true ?_ nofun
    change (lacking sameName (tableOf m).2 m).map _ = []
    rw [lacking_own hname, List.map_nil]
  | some table =>
    change (lacking sameName table.2 m).map _ = [] ↔ _
    rw [List.map_eq_nil_iff]
    exact ⟨fun h _ heq => Option.some.inj heq ▸ h, fun h => h table rfl⟩

end

end DatabaseMod.OrmValidation
