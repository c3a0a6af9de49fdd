import DatabaseMod.OrmColumns
import DatabaseMod.OrmInspection
import DatabaseMod.SqliteReads

/-!
# The schema behind a connection

What is relied on of an engine that keeps tables: a table is there from the statement that creates
it, and the statements about tables answer with what there is. So the connection reports the
columns of every table as they are.
-/

namespace DatabaseMod.SqliteSchemas
open SqlTokens (Text)
open SqlNames (nameAfter)
open CoreValues CoreResultSet CoreQuery SqlEngine SqlDatabase SqliteDriver SqliteSteps SqliteCursor
open SqliteReads TableInspection TableInspection.TDBSQLite TableColumns TSQLiteResultSet
open OrmInspection (nocase sqliteWords)
open OrmModel OrmStatements

/-! ### Schemas -/

/-- The tables with the names of their columns. -/
abbrev Schema := List (Text × List Text)

namespace Schema

variable (schema : Schema)

def find (name : Text) : Option (Text × List Text) := schema.find? (nocase ·.1 name)

/-- A table whose name is taken is not created again. -/
def create (table : Text × List Text) : Schema :=
  if (schema.find table.1).isSome then schema else schema ++ [table]

end Schema

theorem nocase_iff {a b : Text} : nocase a b = true ↔ a.map Char.toLower = b.map Char.toLower := by
  simp [nocase]

theorem find_congr (schema : Schema) {name name' : Text} (h : nocase name name' = true) :
    schema.find name = schema.find name' := by
  unfold Schema.find nocase
  rw [nocase_iff.mp h]

/-- A name that was found stays found, and else it is that of the new table. -/
theorem find_create (schema : Schema) (table : Text × List Text) (name : Text) :
    (schema.create table).find name =
      (schema.find name).or (if nocase table.1 name then some table else none) := by
  unfold Schema.create
  split_ifs with htaken hsame hsame
  · rw [← find_congr schema hsame]
    obtain ⟨found, hfound⟩ := Option.isSome_iff_exists.mp htaken
    rw [hfound]
    rfl
  · rw [Option.or_none]
  · simp [Schema.find, List.find?_append, hsame]
  · simp [Schema.find, List.find?_append, hsame]

/-! ### Statements about tables -/

/-- The table that a statement of `buildCreateTableSql` creates. -/
def createdTable (sql : Text) : Option (Text × List Text) :=
  (nameAfter sqliteWords "CREATE TABLE IF NOT EXISTS ".toList sql).map fun name =>
    (name, OrmColumns.columnsOf sql)

/-- The statements of `getTableInfo`. -/
def AsksTables (sql : Text) : Prop :=
  sql = tableExistsSql ∨ ∃ tableName, sql = tableInfoSql tableName

def tableOf (m : TOrmModel) : Text × List Text := (m.tableName, m.fields.map (·.columnName))

theorem createdTable_model (m : TOrmModel) :
    createdTable (buildCreateTableSql .sqlite m) = some (tableOf m) := by
  rw [createdTable, OrmInspection.createTable_named rfl, Option.map_some,
    OrmColumns.columnsOf_createTable]
  rfl

/-- One database with tables only: no views, no temporary tables and no other database attached.
Looking for tables does not fail, and an error has a text. -/
structure Schemas (e : Engine) where
  schema : List Call → Schema
  quiet : ∀ log calls, Unstepped calls → schema (log ++ calls) = schema log
  created : ∀ log handle m result, Prepared log handle (buildCreateTableSql .sqlite m) →
    Begins (e.run log handle) →
    schema (log ++ [stepCall e log handle result]) = (schema log).create (tableOf m)
  indexed : ∀ log handle m index result, Prepared log handle (buildCreateIndexSql .sqlite m index) →
    Begins (e.run log handle) → schema (log ++ [stepCall e log handle result]) = schema log
  told : ∀ log, e.message log ≠ []
  asked : ∀ log handle sql started, Prepared log handle sql → AsksTables sql →
    schema (log ++ [⟨some handle, .step started, none⟩]) = schema log
  reset_prepared : ∀ log sql,
    e.reset (answered log log.length (.prepare sql)) log.length = none
  prepare_lookup : ∀ log, ∃ columns, e.prepare log tableExistsSql = .ok (some ⟨1, columns⟩)
  bind_lookup : ∀ log name, e.bind (answered (answered log log.length (.prepare tableExistsSql))
    log.length .reset) log.length 1 (.text name) = none
  lookup_safe : NeverFails e tableExistsSql
  lookup : ∀ log handle name, Prepared log handle tableExistsSql →
    params log handle 1 = .text name →
    ((e.run log handle).rows = [] ↔ (schema log).find name = none)
  prepare_info : ∀ log tableName, (tableRead sqliteWords tableName).isSome = true →
    ∃ columns, 5 ≤ columns.length ∧ e.prepare log (tableInfoSql tableName) = .ok (some ⟨0, columns⟩)
  info_safe : ∀ tableName, (tableRead sqliteWords tableName).isSome = true →
    NeverFails e (tableInfoSql tableName)
  info : ∀ log handle tableName name table, tableRead sqliteWords tableName = some name →
    Prepared log handle (tableInfoSql tableName) → (schema log).find name = some table →
    ∃ infos, infos.map ColumnInfo.name = table.2 ∧
      List.Forall₂ IsPragmaRow infos (e.run log handle).rows

section

variable {e : Engine} (S : Schemas e) (conv : Conversions)

theorem Schemas.schema_reads {log log' : List Call} (h : OnlyReads AsksTables log log') :
    S.schema log' = S.schema log := h.keeps S.quiet S.asked

theorem prepared_new (log : List Call) (sql : Text) :
    Prepared (answered log log.length (.prepare sql)) log.length sql := by
  simp [Prepared, answered]

theorem unstepped_single {c : Call} (h : c.isStep = false) : Unstepped [c] :=
  unstepped_of_noStep fun d hd => by rwa [List.mem_singleton.mp hd]

theorem answered_reads {P : Text → Prop} {log log' : List Call} (h : OnlyReads P log log')
    (handle : ℕ) (action : Action)
    (haction : (⟨some handle, action, none⟩ : Call).isStep = false) :
    OnlyReads P log (answered log' handle action) := h.quiet (unstepped_single haction)

theorem free_reads {P : Text → Prop} {log : List Call} {s : Session}
    (h : OnlyReads P log s.1.log) : OnlyReads P log (TSQLiteResultSet.free s).1.log := by
  obtain ⟨calls, hidle, hlog, -⟩ := free_eq s
  rw [hlog]
  exact h.quiet (unstepped_of_noStep hidle.noStep)

theorem free_isOpen {s : Session} (h : s.1.isOpen = true) :
    (TSQLiteResultSet.free s).1.isOpen = true := by
  obtain ⟨-, -, -, hconn, -⟩ := free_eq s
  exact (congrArg TDBConnection.isOpen hconn).trans h

/-! ### Lookups -/

/-- The lookup for a name, with the name bound. -/
def lookupLog (log : List Call) (name : Text) : List Call :=
  answered (answered (answered log log.length (.prepare tableExistsSql)) log.length .reset)
    log.length (.bind 1 (.text name))

theorem lookupLog_param (log : List Call) (name : Text) :
    params (lookupLog log name) log.length 1 = .text name := by
  rw [params, lookupLog, answered, parameter_append]
  simp [Call.binding]

theorem lookupLog_reads {P : Text → Prop} (log : List Call) (name : Text) :
    OnlyReads P log (lookupLog log name) :=
  answered_reads (answered_reads (answered_reads .refl _ _ rfl) _ _ rfl) _ _ rfl

/-- The name of the lookup is still bound when its statement is run again. -/
theorem execute_params {s : Session} {stmt : Statement} {log : List Call}
    (hstmt : s.2.stmtHandle = some stmt) (hreset : e.reset s.1.log stmt.handle = none)
    (hcount : stmt.description.parameterCount = s.2.bindCount)
    (hbound : bindParameters e conv (some stmt.rewind) 0 (answered s.1.log stmt.handle .reset)
      (s.2.boundValues.take s.2.bindCount) = (log, none)) :
    params (execute e conv s).2.1.log = params log := by
  funext handle index
  rw [params, params, execute_eq_prefetch conv hstmt hreset hcount hbound,
    SqliteOutcomes.prefetch_log, SqliteOutcomes.nextRow_parameter]

/-- The statement of a lookup finds a row if there is a table of the name. -/
theorem lookup_run {log log' : List Call} {handle : ℕ} {name : Text}
    (hreads : OnlyReads AsksTables log log') (hprepared : Prepared log' handle tableExistsSql)
    (hparam : params log' handle 1 = .text name) :
    ((e.run log' handle).rows = [] ↔ (S.schema log).find name = none) := by
  rw [← S.schema_reads hreads]
  exact S.lookup log' handle name hprepared hparam

/-- The first row that is stored will be fetched again. -/
theorem afterRun_ahead {rs : TSQLiteResultSet} {stmt : Statement}
    (hindex : rs.index = SQL_BeforeFirstRow) (hinitial : rs.initialFetch = true) (row : Row)
    (rest : List Row) : (TableColumns.afterRun rs stmt (row :: rest)).index = 0 ∧
      (TableColumns.afterRun rs stmt (row :: rest)).fakeFirstRowFetch = true := by
  constructor
  · simp [TableColumns.afterRun, storeRow, SqliteRounds.beforeStore, rewound, hindex,
      SQL_BeforeFirstRow]
  · simp [TableColumns.afterRun, storeRow, SqliteRounds.beforeStore, rewound, beginFetch, hinitial]

/-- The lookup is executed: it has read nothing but its rows, and its first fetch tells whether
there is a table of the name. -/
theorem lookup_executed {conn : TDBSQLite} (hopen : conn.isOpen = true) (tableName : Text) :
    ∃ s, (driver e conv).executePrepared
        (prepareForTable e conv tableExistsSql tableName conn none) = (true, s) ∧
      s.1.hasError = false ∧ Steady tableExistsSql s ∧ OnlyReads AsksTables conn.log s.1.log ∧
      ((driver e conv).fetch s).1 = ((S.schema conn.log).find (cString tableName)).isSome ∧
      (((driver e conv).fetch s).1 = true → ((driver e conv).fetch s).2.1 = s.1) := by
  obtain ⟨columns, hlookup⟩ := S.prepare_lookup conn.log
  obtain ⟨conn', hprepare, hlog, hopen', herror⟩ := prepareStatement_new conv hopen
    (by decide) (by decide) hlookup
  set stmt : Statement := ⟨conn.log.length, ⟨1, columns⟩, none⟩ with hstmt
  set rs : TSQLiteResultSet := newResultSet conn.created tableExistsSql stmt with hrs
  set s : Session := (conn', { rs with
    toTQueryResultSet := rs.toTQueryResultSet.addString tableName }) with hs
  have hprepared : Prepared conn'.log conn.log.length tableExistsSql :=
    hlog ▸ prepared_new conn.log tableExistsSql
  have hreset := S.reset_prepared conn.log tableExistsSql
  have hbind := S.bind_lookup conn.log (cString tableName)
  rw [← hlog] at hreset hbind
  have hbound : bindParameters e conv (some stmt.rewind) 0
      (answered conn'.log conn.log.length .reset) [some (.setString tableName)] =
        (answered (answered conn'.log conn.log.length .reset) conn.log.length
          (.bind 1 (.text (cString tableName))), none) := bindParameters_name conv hbind
  have hwhole : answered (answered conn'.log conn.log.length .reset) conn.log.length
      (.bind 1 (.text (cString tableName))) = lookupLog conn.log (cString tableName) := by
    rw [hlog]
    rfl
  rw [hwhole] at hbound
  have hparam := lookupLog_param conn.log (cString tableName)
  have hlater : Prepared (lookupLog conn.log (cString tableName)) conn.log.length tableExistsSql := by
    rw [← hwhole]
    exact (hprepared.append _).append _
  have hrun := lookup_run S (lookupLog_reads conn.log (cString tableName)) hlater hparam
  have hsafe := S.lookup_safe _ _ hlater
  obtain ⟨hok, hafter, hunfailed⟩ := execute_new (e := e) (s := s) conv rfl hreset rfl hbound herror
    (Run.eq_mk rfl hsafe)
  obtain ⟨hsteady, hreads⟩ := execute_reads S.lookup_safe conv (s := s) hopen' rfl hprepared hok
  have hall : OnlyReads AsksTables conn.log (execute e conv s).2.1.log := by
    refine OnlyReads.trans ?_ (hreads.mono fun sql hsql => .inl hsql)
    change OnlyReads AsksTables conn.log conn'.log
    rw [hlog]
    exact answered_reads .refl _ _ rfl
  have hexecuted : (driver e conv).executePrepared
      (prepareForTable e conv tableExistsSql tableName conn none) =
        (driver e conv).finish (execute e conv s) := by
    rw [prepareForTable, hprepare]
    exact if_pos hopen'
  have hfinish : (driver e conv).finish (execute e conv s) = (true,
      { (execute e conv s).2.1 with
        toTDBConnection := (execute e conv s).2.1.toTDBConnection.resetError },
      (execute e conv s).2.2) := if_pos hok
  rw [hexecuted, hfinish]
  refine ⟨_, rfl, TDBConnection.hasError_resetError _, ⟨hsteady.isOpen, hsteady.statement⟩, hall,
    ?_⟩
  cases hrows : (e.run (lookupLog conn.log (cString tableName)) conn.log.length).rows with
  | nil =>
    have hnone := hrun.mp hrows
    rw [hrows] at hafter
    have hhandle : (execute e conv s).2.2.stmtHandle = some stmt.rewind := by
      rw [hafter]
      exact storeEnd_stmtHandle _
    obtain ⟨stmt', hstmt', hprepared', -⟩ := hsteady.statement
    obtain rfl : stmt' = stmt.rewind := Option.some.inj (hstmt'.symm.trans hhandle)
    have hparam' : params (execute e conv s).2.1.log conn.log.length 1 = .text (cString tableName) := by
      rw [execute_params conv (s := s) rfl hreset rfl hbound]
      exact hparam
    have hagain := (lookup_run S hall hprepared' hparam').mpr hnone
    have hready := OrmSqliteQueries.added_ready (ready_new conn tableExistsSql stmt) ⟨rfl, rfl⟩
      [some (.setString tableName)]
    have hexecuted' : Executed e conv s ({ (execute e conv s).2.1 with
        toTDBConnection := (execute e conv s).2.1.toTDBConnection.resetError },
        (execute e conv s).2.2) := ⟨hok, rfl, rfl, hunfailed⟩
    obtain ⟨hopened, -⟩ := hexecuted'.opens e conv hready.1
    obtain ⟨hno, -⟩ := SqliteOutcomes.fetch_ended e conv hopened (by rw [hafter]; rfl) hhandle
      hagain
    rw [hno, hnone]
    exact ⟨rfl, nofun⟩
  | cons row rest =>
    have hfound : ((S.schema conn.log).find (cString tableName)).isSome = true := by
      rw [Option.isSome_iff_ne_none]
      intro hnone
      rw [hrun.mpr hnone] at hrows
      cases hrows
    rw [hrows] at hafter
    rw [hafter]
    obtain ⟨hindex, hfake⟩ := @afterRun_ahead s.2 stmt rfl rfl row rest
    have hahead := fetch_ahead (e := e) conv (s := ({ (execute e conv s).2.1 with
        toTDBConnection := (execute e conv s).2.1.toTDBConnection.resetError },
        TableColumns.afterRun s.2 stmt (row :: rest))) rfl hindex hfake
    rw [hahead, hfound]
    exact ⟨rfl, fun _ => rfl⟩

/-- A table is found if it is in the schema, and looking for it has changed nothing. -/
theorem tableExists_found {conn : TDBSQLite} (hopen : conn.isOpen = true) (tableName : Text) :
    (tableExists e conv tableName conn).1 =
        ((S.schema conn.log).find (cString tableName)).isSome ∧
      (tableExists e conv tableName conn).2.isOpen = true ∧
      ((tableExists e conv tableName conn).1 = true →
        (tableExists e conv tableName conn).2.hasError = false) ∧
      OnlyReads AsksTables conn.log (tableExists e conv tableName conn).2.log := by
  obtain ⟨s, hexecuted, herror, hsteady, hreads, hfetch, hkept⟩ :=
    lookup_executed S conv hopen tableName
  obtain ⟨hsteady', hreads'⟩ := hsteady.fetch S.lookup_safe conv
  have heq : tableExists e conv tableName conn = (((driver e conv).fetch s).1,
      (TSQLiteResultSet.free ((driver e conv).fetch s).2).1) := by
    unfold tableExists
    rw [if_neg (by simpa using hopen), hexecuted]
    rfl
  rw [heq]
  refine ⟨hfetch, free_isOpen hsteady'.isOpen, fun hok => ?_, ?_⟩
  · refine (congrArg TDBConnection.hasError (removeQuery_connection _ _)).trans ?_
    exact (congrArg (fun conn : TDBSQLite => conn.hasError) (hkept hok)).trans herror
  · exact free_reads (hreads.trans (hreads'.mono fun sql hsql => .inl hsql))

/-! ### Tables -/

theorem readTable_reads {sql : Text} (hsafe : NeverFails e sql) {s last : Session}
    {tableName : Text} {table : TDBTable} {fuel : ℕ} (h : Steady sql s)
    (hread : readTable e conv tableName false fuel s = some (table, last)) :
    Reading sql s last := by
  unfold readTable at hread
  obtain ⟨⟨columns, s', record⟩, hrun, hread⟩ := Option.bind_eq_some_iff.mp hread
  dsimp only at hread
  rw [if_neg Bool.false_ne_true] at hread
  cases hread
  exact h.eachRow hsafe conv hrun

theorem readTable_mono {s : Session} {tableName : Text} {t : TDBTable × Session} {fuel fuel' : ℕ}
    (hle : fuel ≤ fuel') (hread : readTable e conv tableName false fuel s = some t) :
    readTable e conv tableName false fuel' s = some t := by
  unfold readTable at hread ⊢
  obtain ⟨rows, hrun, hread⟩ := Option.bind_eq_some_iff.mp hread
  rw [eachRow_mono hle hrun]
  exact hread

theorem reported_names {infos : List ColumnInfo} {reported : List TDBColumn}
    (h : List.Forall₂ Reports infos reported) :
    reported.map TDBColumn.name = infos.map ColumnInfo.name := by
  induction h with
  | nil => rfl
  | cons hreports _ ih => rw [List.map_cons, List.map_cons, hreports.name, ih]

/-- The connection describes a table by the names of its columns in the schema, and a table that is
not there as none. -/
theorem getTableInfo_names {conn : TDBSQLite} (hopen : conn.isOpen = true) {tableName : Text}
    (hread : tableRead sqliteWords tableName = some tableName) (hnul : NUL ∉ tableName) :
    ∃ fuel found conn',
      (∀ fuel' ≥ fuel, getTableInfo e conv tableName false fuel' conn = some (found, conn')) ∧
        conn'.isOpen = true ∧ OnlyReads AsksTables conn.log conn'.log ∧
        found.map (·.columns.map TDBColumn.name) =
          ((S.schema conn.log).find tableName).map Prod.snd := by
  obtain ⟨hexists, hopen', herror, hreads⟩ := tableExists_found S conv hopen tableName
  rw [cString_eq_iff.mpr hnul] at hexists
  set found := tableExists e conv tableName conn with hfound
  have hinfo (fuel : ℕ) : getTableInfo e conv tableName false fuel conn = if ¬ found.1 then
      some (none, found.2) else
        let r := (driver e conv).executeStatement (tableInfoSql tableName)
          ((driver e conv).opened found.2 none)
        if r.1 then (readTable e conv tableName false fuel r.2).map fun table =>
            (some table.1, (TSQLiteResultSet.free table.2).1)
        else some (none, (TSQLiteResultSet.free r.2).1) := by
    rw [getTableInfo, if_neg (by simpa using hopen)]
  cases htable : (S.schema conn.log).find tableName with
  | none =>
    rw [htable] at hexists
    refine ⟨0, none, found.2, fun fuel _ => ?_, hopen', hreads, rfl⟩
    rw [hinfo, if_pos (by simp [hexists])]
  | some table =>
    have hexists : found.1 = true := hexists.trans (by rw [htable]; rfl)
    have hsome : (tableRead sqliteWords tableName).isSome = true := by rw [hread]; rfl
    obtain ⟨columns, hwide, hprepare⟩ := S.prepare_info found.2.log tableName hsome
    have hprepared := (prepared_new found.2.log (tableInfoSql tableName)).append
      [⟨some found.2.log.length, .reset, none⟩]
    have hschema := S.schema_reads (answered_reads (answered_reads hreads found.2.log.length
      (.prepare (tableInfoSql tableName)) rfl) found.2.log.length .reset rfl)
    obtain ⟨infos, hnames, hrows⟩ := S.info _ _ tableName tableName table hread hprepared
      ((congrArg (Schema.find · tableName) hschema).trans htable)
    obtain ⟨t, r, hexecute, hexecuted, ht, hr⟩ := executeStatement_rows conv hopen'
      (herror hexists) (trim_tableInfoSql tableName) (List.cons_ne_nil _ _) hprepare rfl
      (S.reset_prepared _ _) (Run.eq_mk rfl (S.info_safe tableName hsome _ _ hprepared))
    obtain ⟨fuel, hends⟩ := readTable_ends tableName false
      (afterRun_delivers hexecuted ht hr hwide hrows)
    have hdescribed (log : List Call) : ∃ d, e.prepare log (tableInfoSql tableName) = .ok (some d) := by
      obtain ⟨columns, -, hprepare⟩ := S.prepare_info log tableName hsome
      exact ⟨_, hprepare⟩
    have hreading := executeStatement_reads (S.info_safe tableName hsome) conv
      (s := (driver e conv).opened found.2 none) hdescribed (trim_tableInfoSql tableName)
      (by rw [hexecute])
    rw [hexecute] at hreading
    have hopened : OnlyReads AsksTables conn.log ((driver e conv).opened found.2 none).1.log := by
      rw [(SqliteVerdict.opened_eq e conv found.2 none).1]
      exact hreads
    obtain ⟨⟨described, last⟩, hdescribed, hall⟩ := hends fuel le_rfl
    have hlast := readTable_reads conv (S.info_safe tableName hsome) hreading.steady hdescribed
    refine ⟨fuel, some described, (TSQLiteResultSet.free last).1, fun fuel' hle => ?_,
      free_isOpen hlast.steady.isOpen, free_reads (hopened.trans ?_), ?_⟩
    · rw [hinfo, if_neg (by simp [hexists]), hexecute]
      dsimp only
      rw [if_pos rfl, readTable_mono conv hle hdescribed]
      rfl
    · exact (hreading.reads.trans hlast.reads).mono fun sql hsql => .inr ⟨tableName, hsql⟩
    · rw [Option.map_some, Option.map_some, ← hnames, reported_names hall]

end

/-! ### An engine that keeps a schema -/

theorem createdTable_none {sql : Text} (h : ¬ "CREATE TABLE IF NOT EXISTS ".toList <+: sql) :
    createdTable sql = none := by
  rw [createdTable, nameAfter, if_neg h]
  rfl

theorem createdTable_asks {sql : Text} (h : AsksTables sql) : createdTable sql = none := by
  obtain rfl | ⟨tableName, rfl⟩ := h
  · exact createdTable_none (by decide)
  · refine createdTable_none fun hprefix => ?_
    obtain ⟨rest, hrest⟩ := hprefix
    exact absurd (List.cons.inj hrest).1 (by decide)

theorem createdTable_index (m : TOrmModel) (index : TOrmIndex) :
    createdTable (buildCreateIndexSql .sqlite m index) = none := by
  refine createdTable_none fun ⟨rest, hrest⟩ => ?_
  rw [OrmStatementReading.buildCreateIndexSql_eq] at hrest
  split_ifs at hrest
  · exact absurd (congrArg (fun l => l[7]?) hrest) (by simp)
  · exact absurd (congrArg (fun l => l[7]?) hrest) (by simp)

def preparedText (log : List Call) (handle : ℕ) : Option Text :=
  match log[handle]? with
  | some ⟨some handle', .prepare sql, none⟩ => if handle' = handle then some sql else none
  | _ => none

theorem preparedText_eq {log : List Call} {handle : ℕ} {sql : Text} (h : Prepared log handle sql) :
    preparedText log handle = some sql := by
  rw [preparedText, h]
  exact if_pos rfl

/-- What the statement that a call starts makes of the schema. -/
def nextSchema (log : List Call) (schema : Schema) (c : Call) : Schema :=
  match c.started, c.handle.bind (preparedText log) with
  | some _, some sql => (createdTable sql).elim schema schema.create
  | _, _ => schema

def replay (log : List Call) : List Call × Schema :=
  log.foldl (fun s c => (s.1 ++ [c], nextSchema s.1 s.2 c)) ([], [])

theorem replay_append (log : List Call) (c : Call) : replay (log ++ [c]) =
    ((replay log).1 ++ [c], nextSchema (replay log).1 (replay log).2 c) := by
  rw [replay, List.foldl_append]
  rfl

theorem replay_fst (log : List Call) : (replay log).1 = log := by
  induction log using List.reverseRecOn with
  | nil => rfl
  | append_singleton log c ih => rw [replay_append, ih]

def schemaOf (log : List Call) : Schema := (replay log).2

theorem schemaOf_append (log : List Call) (c : Call) :
    schemaOf (log ++ [c]) = nextSchema log (schemaOf log) c := by
  rw [schemaOf, replay_append, replay_fst]
  rfl

def columnRow (column : Text) : Row :=
  [.integer 0, .text column, .text [], .integer 0, .null, .integer 0]

def columnRows (table : Option (Text × List Text)) : List Row :=
  (table.map Prod.snd).getD [] |>.map columnRow

/-- The name that the statement asks for. -/
def infoName (sql : Text) : Option Text :=
  SqlNames.nameBetween sqliteWords "PRAGMA table_info(".toList ")".toList sql

def rowsOf (log : List Call) (handle : ℕ) (sql : Text) : List Row :=
  if sql = tableExistsSql then
    match params log handle 1 with
    | .text name => if ((schemaOf log).find name).isSome then [[.integer 1]] else []
    | _ => []
  else (infoName sql).elim [] fun name => columnRows ((schemaOf log).find name)

/-- An engine without another data than the schema that its log says. -/
def keeping : Engine where
  prepare _ sql := .ok (some (if sql = tableExistsSql then ⟨1, [⟨['1'], none⟩]⟩
    else if (infoName sql).isSome then ⟨0, OrmInspection.infoColumns⟩ else ⟨0, []⟩))
  reset _ _ := none
  bind _ _ _ _ := none
  run log handle := ⟨(preparedText log handle).elim [] (rowsOf log handle), none⟩
  message _ := noError

theorem run_keeping {log : List Call} {handle : ℕ} {sql : Text} (h : Prepared log handle sql) :
    (keeping.run log handle).rows = rowsOf log handle sql := by
  change (preparedText log handle).elim [] (rowsOf log handle) = _
  rw [preparedText_eq h]
  rfl

theorem nextSchema_quiet (log : List Call) (schema : Schema) {c : Call} (h : Unstepped [c]) :
    nextSchema log schema c = schema := by
  have hstarted : c.started = none := by
    by_cases hstep : c.isStep = true
    · exact (h c List.mem_cons_self hstep).2
    · obtain ⟨handle, action, result⟩ := c
      cases action with
      | step started => exact absurd rfl hstep
      | _ => rfl
  rw [nextSchema, hstarted]

theorem nextSchema_step {log : List Call} {handle : ℕ} {sql : Text} (h : Prepared log handle sql)
    (schema : Schema) (started : Option Run) (result : Option ErrorCode) :
    nextSchema log schema ⟨some handle, .step started, result⟩ =
      if started.isSome then (createdTable sql).elim schema schema.create else schema := by
  cases started with
  | none => rfl
  | some run =>
    unfold nextSchema
    simp [Call.started, preparedText_eq h]

theorem isPragmaRow_columnRow (column : Text) :
    IsPragmaRow ⟨column, [], true, none⟩ (columnRow column) :=
  ⟨rfl, rfl, rfl, rfl⟩

theorem schemaOf_quiet (log calls : List Call) (h : Unstepped calls) :
    schemaOf (log ++ calls) = schemaOf log := by
  induction calls using List.reverseRecOn with
  | nil => rw [List.append_nil]
  | append_singleton calls c ih =>
    rw [← List.append_assoc, schemaOf_append, nextSchema_quiet, ih]
    · exact fun d hd => h d (List.mem_append_left _ hd)
    · exact fun d hd => h d (List.mem_append_right _ hd)

theorem lookup_keeping {log : List Call} {handle : ℕ} {name : Text}
    (hprepared : Prepared log handle tableExistsSql) (hparam : params log handle 1 = .text name) :
    (keeping.run log handle).rows = [] ↔ (schemaOf log).find name = none := by
  rw [run_keeping hprepared, rowsOf, if_pos rfl, hparam]
  cases hfind : (schemaOf log).find name with
  | none => simp [hfind]
  | some table => simp [hfind]

theorem info_keeping {log : List Call} {handle : ℕ} {tableName name : Text}
    {table : Text × List Text} (hread : tableRead sqliteWords tableName = some name)
    (hprepared : Prepared log handle (tableInfoSql tableName))
    (hfind : (schemaOf log).find name = some table) :
    ∃ infos, infos.map ColumnInfo.name = table.2 ∧
      List.Forall₂ IsPragmaRow infos (keeping.run log handle).rows := by
  have hrows : rowsOf log handle (tableInfoSql tableName) = table.2.map columnRow := by
    rw [rowsOf, if_neg (OrmInspection.tableInfoSql_ne tableName)]
    change (tableRead sqliteWords tableName).elim _ _ = _
    rw [hread, Option.elim_some, hfind]
    rfl
  refine ⟨table.2.map fun column => ⟨column, [], true, none⟩, by simp [Function.comp_def], ?_⟩
  rw [run_keeping hprepared, hrows, List.forall₂_map_left_iff, List.forall₂_map_right_iff]
  exact List.forall₂_same.mpr fun column _ => isPragmaRow_columnRow column

theorem created_keeping {log : List Call} {handle : ℕ} {m : TOrmModel}
    (hprepared : Prepared log handle (buildCreateTableSql .sqlite m)) (result : Option ErrorCode) :
    schemaOf (log ++ [stepCall keeping log handle result]) = (schemaOf log).create (tableOf m) := by
  rw [schemaOf_append, stepCall, nextSchema_step hprepared, createdTable_model]
  rfl

theorem indexed_keeping {log : List Call} {handle : ℕ} {m : TOrmModel} {index : TOrmIndex}
    (hprepared : Prepared log handle (buildCreateIndexSql .sqlite m index))
    (result : Option ErrorCode) :
    schemaOf (log ++ [stepCall keeping log handle result]) = schemaOf log := by
  rw [schemaOf_append, stepCall, nextSchema_step hprepared, createdTable_index]
  rfl

theorem asked_keeping {log : List Call} {handle : ℕ} {sql : Text} (started : Option Run)
    (hprepared : Prepared log handle sql) (hasks : AsksTables sql) :
    schemaOf (log ++ [⟨some handle, .step started, none⟩]) = schemaOf log := by
  rw [schemaOf_append, nextSchema_step hprepared, createdTable_asks hasks]
  exact ite_self _

theorem prepare_info_keeping (log : List Call) {tableName : Text}
    (hread : (tableRead sqliteWords tableName).isSome = true) :
    ∃ columns, 5 ≤ columns.length ∧
      keeping.prepare log (tableInfoSql tableName) = .ok (some ⟨0, columns⟩) := by
  refine ⟨OrmInspection.infoColumns, by decide, congrArg (fun d => Except.ok (some d)) ?_⟩
  rw [if_neg (OrmInspection.tableInfoSql_ne tableName)]
  exact if_pos hread

/-- The schema is that of the statements which were run. -/
def kept : Schemas keeping where
  schema := schemaOf
  quiet := schemaOf_quiet
  created _ _ _ result hprepared _ := created_keeping hprepared result
  indexed _ _ _ _ result hprepared _ := indexed_keeping hprepared result
  told _ := noError_ne_nil
  asked _ _ _ started := asked_keeping started
  reset_prepared _ _ := rfl
  prepare_lookup _ := ⟨_, congrArg (fun d => Except.ok (some d)) (if_pos rfl)⟩
  bind_lookup _ _ := rfl
  lookup_safe _ _ _ := rfl
  lookup _ _ _ := lookup_keeping
  prepare_info log _ := prepare_info_keeping log
  info_safe _ _ _ _ _ := rfl
  info _ _ _ _ _ := info_keeping

end DatabaseMod.SqliteSchemas
