import DatabaseMod.OrmColumns
import DatabaseMod.OrmFailures
import DatabaseMod.OrmRewriting
import DatabaseMod.SqliteVerdict
import DatabaseMod.TableInspection

/-!
# What the ORM asks about tables

The existence of a record by its key, and the validation of a model against the tables of the
connection. Names are quoted where tables are created; here they are not.
-/

namespace DatabaseMod.OrmInspection
open SqlTokens (Text quoted)
open SqlNames
open CoreValues CoreQuery SqlEngine SqliteDriver TableInspection TableInspection.TDBSQLite
open OrmModel OrmStatements OrmParams OrmOperations OrmFailures
open OrmColumns (whereById keyRead existsByIdSql_eq)
open StoppingPrograms StoppingPrograms.Program

/-! ### Records by key -/

/-- A model without a key has a Null one. -/
def existsById {C RS Slot : Type} (o : TOrm C RS Slot) (m : TOrmModel) (id : Int64) :
    Operation C Bool :=
  match m.primaryKey with
  | none => stop .nullException
  | some primaryKey =>
    o.existsWhere m (whereById primaryKey) (some (TOrmParams.new.add (some (.setLong id.toInt))))

section

variable {C RS Slot : Type} (o : TOrm C RS Slot)

/-- The first statement that is attempted has this text. -/
def Prepares {α : Type} (sql : Text) (m : Operation C α) : Prop :=
  Logs World.attempts (fun _ new =>
    ∃ ok rest, new = .prepare (o.dialect.rewritePlaceholders sql) ok :: rest) m

theorem issue_prepares (sql : Text) {bind : RS → Operation C RS}
    (hbind : ∀ rs, Silent World.attempts (bind rs)) (msg : Option Text) :
    Prepares o sql (o.issue sql bind msg) := by
  refine (prepareQuery_logs o sql).bind ?_ ?_
  · rintro e new (⟨rs, hr, -⟩ | ⟨e', -, rfl⟩)
    · cases hr
    · exact ⟨false, [], rfl⟩
  · rintro rs new (⟨rs', -, rfl⟩ | ⟨e, he, -⟩)
    · refine (hbind rs).logs.bind ?_ ?_
      · rintro e new rfl
        exact ⟨true, [], rfl⟩
      · rintro rs' new rfl
        exact (executeQuery_logs o rs' sql msg).imp fun _ new _ => ⟨true, new, rfl⟩
    · cases he

theorem existsById_prepares {m : TOrmModel} {primaryKey : TOrmField}
    (hkey : m.primaryKey = some primaryKey) (id : Int64) :
    Prepares o (buildExistsWhereSql o.dialect m (whereById primaryKey)) (existsById o m id) := by
  unfold existsById
  rw [hkey]
  refine (issue_prepares o _ (silent_bindParams o _) _).bind (fun e new h => h) fun rs new h => ?_
  obtain ⟨ok, rest, rfl⟩ := h
  refine Silent.logs ((silent_nextRow o rs).bind fun _ => silent_free_pure o _ _) |>.imp ?_
  rintro r new rfl
  exact ⟨ok, rest ++ [], rfl⟩

end

/-! ### Validation -/

structure TOrmSchemaValidationIssue where
  model : TOrmModel
  message : Text
deriving DecidableEq, Repr

/-- The issues of a report. -/
abbrev TOrmSchemaValidationReport := List TOrmSchemaValidationIssue

def TOrmSchemaValidationReport.addIssue (report : TOrmSchemaValidationReport) (m : TOrmModel)
    (message : Text) : TOrmSchemaValidationReport := report ++ [⟨m, message⟩]

def tableMissing (m : TOrmModel) : Text :=
  "Table '".toList ++ m.tableName ++ "' does not exist".toList

def columnMissing (m : TOrmModel) (fld : TOrmField) : Text :=
  "Column '".toList ++ fld.columnName ++ "' does not exist in table '".toList ++ m.tableName ++
    "'".toList

def tableHasColumn (sameName : Text → Text → Bool) (table : TDBTable) (columnName : Text) : Bool :=
  table.columns.any fun column => sameName column.name columnName

/-- `getTableInfo` is that of the connection. -/
def validateModel {C : Type} (sameName : Text → Text → Bool)
    (getTableInfo : Text → C → Option (Option TDBTable × C)) (m : TOrmModel)
    (report : TOrmSchemaValidationReport) (conn : C) : Option (TOrmSchemaValidationReport × C) :=
  (getTableInfo m.tableName conn).map fun r =>
    match r.1 with
    | none => (report.addIssue m (tableMissing m), r.2)
    | some table =>
      (m.fields.foldl (fun report fld =>
        if tableHasColumn sameName table fld.columnName then report
        else report.addIssue m (columnMissing m fld)) report, r.2)

theorem tableMissing_ne (m : TOrmModel) (fld : TOrmField) :
    tableMissing m ≠ columnMissing m fld := by
  intro h
  exact absurd (List.cons.inj h).1 (by decide)

section

variable {sameName : Text → Text → Bool} {table : TDBTable} {m : TOrmModel}

theorem fields_not_missing (flds : List TOrmField) {report : TOrmSchemaValidationReport}
    (h : ⟨m, tableMissing m⟩ ∉ report) :
    ⟨m, tableMissing m⟩ ∉ flds.foldl (fun report fld =>
      if tableHasColumn sameName table fld.columnName then report
      else report.addIssue m (columnMissing m fld)) report := by
  induction flds generalizing report with
  | nil => exact h
  | cons fld flds ih =>
    rw [List.foldl_cons]
    refine ih ?_
    split_ifs
    · exact h
    · unfold TOrmSchemaValidationReport.addIssue
      rw [List.mem_append, List.mem_singleton, not_or]
      exact ⟨h, fun heq => tableMissing_ne m fld (congrArg TOrmSchemaValidationIssue.message heq)⟩

/-- A table that the connection describes is not reported as missing. -/
theorem validateModel_described {C : Type} (getTableInfo : Text → C → Option (Option TDBTable × C))
    {conn conn' : C} (h : getTableInfo m.tableName conn = some (some table, conn')) :
    ∃ report, validateModel sameName getTableInfo m [] conn = some (report, conn') ∧
      ⟨m, tableMissing m⟩ ∉ report := by
  rw [validateModel, h]
  exact ⟨_, rfl, fields_not_missing m.fields List.not_mem_nil⟩

end

/-! ### The names in the statements -/

def columnsRead (w : Words) (tableName : Text) : Option Text :=
  nameBetween w "SHOW COLUMNS FROM ".toList [] (TDBMariaDB.showColumnsSql tableName)

def createRead (w : Words) (tableName : Text) : Option Text :=
  nameBetween w "SHOW CREATE TABLE ".toList [] (TDBMariaDB.showCreateTableSql tableName)

section

variable {w : Words}

theorem tableRead_iff (tableName : Text) :
    tableRead w tableName = some tableName ↔ Bare w tableName := by
  obtain ⟨hshows, hends⟩ := mark_head (w := w) (c := ')') (by simp)
    (rfl : ")".toList.head? = some ')')
  have hiff := nameBetween_iff "PRAGMA table_info(".toList tableName [] _ nofun hshows hends
  rw [List.nil_append, ← List.append_assoc] at hiff
  exact hiff

theorem columnsRead_iff (tableName : Text) :
    columnsRead w tableName = some tableName ↔ Bare w tableName :=
  nameBetween_end_iff "SHOW COLUMNS FROM ".toList tableName

theorem createRead_iff (tableName : Text) :
    createRead w tableName = some tableName ↔ Bare w tableName :=
  nameBetween_end_iff "SHOW CREATE TABLE ".toList tableName

theorem keyRead_iff (d : TOrmDialect) (m : TOrmModel) (primaryKey : TOrmField) :
    keyRead w d m primaryKey = some primaryKey.columnName ↔ Bare w primaryKey.columnName := by
  obtain ⟨hshows, -⟩ := mark_head (w := w) (c := '=') (by simp)
    (by simp : "= ?".toList.head? = some '=')
  have hspace := w.isBlank_space
  rw [keyRead, existsByIdSql_eq]
  exact nameBetween_iff _ _ _ _ (by simpa using hspace) hshows
    (by simpa using w.blank_ends ' ' hspace)

/-- The name in the statement that creates a table is the name of the model. -/
theorem createTable_named (hquote : w.closing '"' = some '"') (m : TOrmModel) :
    nameAfter w "CREATE TABLE IF NOT EXISTS ".toList (buildCreateTableSql .sqlite m) =
      some m.tableName := by
  unfold buildCreateTableSql
  dsimp only
  rw [appendLoop_eq]
  simp only [TOrmDialect.quoteIdentifier, List.append_assoc]
  exact nameAfter_quoted hquote (by simp)

end

/-! ### Names that reach the database -/

section

variable (create table : Words) (column : TOrmDialect → Words) (sameName : Text → Text → Bool)
  (nocase : Text → Text → Bool) (tables : List Call → List Text) (e : Engine) (conv : Conversions)
  (m : TOrmModel)

/-- `createTable` has succeeded: the table that its statement names is there. -/
def Created (conn : TDBSQLite) : Prop :=
  ∃ name, nameAfter create "CREATE TABLE IF NOT EXISTS ".toList (buildCreateTableSql .sqlite m) =
    some name ∧ ∃ t ∈ tables conn.log, nocase t name = true

/-- The validation ends, and the table is not reported as missing. -/
def Validated (conn : TDBSQLite) : Prop :=
  ∃ fuel report conn', validateModel sameName
      (fun tableName => getTableInfo e conv tableName false fuel) m [] conn = some (report, conn') ∧
    ⟨m, tableMissing m⟩ ∉ report

/-- The column of the key is named by the statement that asks for a record. -/
def KeyNamed (d : TOrmDialect) : Prop :=
  ∀ primaryKey ∈ m.primaryKey, keyRead (column d) d m primaryKey = some primaryKey.columnName

/-- On SQLite, the names of a model mean what they mean where its table is created. -/
structure Reached : Prop where
  tableRead_eq : tableRead table m.tableName = some m.tableName
  keyNamed : KeyNamed column m .sqlite
  validated : ∀ conn, conn.isOpen = true → Created create nocase tables m conn →
    Validated sameName e conv m conn

variable {create table column sameName nocase tables e conv m}

theorem keyNamed_iff {d : TOrmDialect} : KeyNamed column m d ↔
    ∀ primaryKey ∈ m.primaryKey, Bare (column d) primaryKey.columnName :=
  forall₂_congr fun primaryKey _ => keyRead_iff d m primaryKey

/-- A created table is found if its name is read as some name; the names are compared with the
name that was bound. -/
theorem validated_of_read (hquote : create.closing '"' = some '"')
    (hcatalog : Catalog table nocase tables e) {conn : TDBSQLite} (hopen : conn.isOpen = true)
    (hread : (tableRead table m.tableName).isSome = true) (hnul : NUL ∉ m.tableName)
    (hcreated : Created create nocase tables m conn) : Validated sameName e conv m conn := by
  obtain ⟨name, hname, hfound⟩ := hcreated
  rw [createTable_named hquote] at hname
  cases hname
  rw [← cString_eq_iff.mpr hnul] at hfound
  obtain ⟨fuel, t, conn', hinfo⟩ := getTableInfo_some hcatalog conv hopen hfound hread
  obtain ⟨report, hvalidate, hnot⟩ := validateModel_described
    (fun tableName => getTableInfo e conv tableName false fuel) hinfo
  exact ⟨fuel, report, conn', hvalidate, hnot⟩

/-- The names reach the database exactly if they are bare. -/
theorem names_reach_iff (showColumns showCreate : Words) (hquote : create.closing '"' = some '"')
    (hcatalog : Catalog table nocase tables e) (m : TOrmModel) :
    (Reached create table column sameName nocase tables e conv m ↔
      Bare table m.tableName ∧
        ∀ primaryKey ∈ m.primaryKey, Bare (column .sqlite) primaryKey.columnName) ∧
    (KeyNamed column m .postgres ↔
      ∀ primaryKey ∈ m.primaryKey, Bare (column .postgres) primaryKey.columnName) ∧
    ∀ tableName, (columnsRead showColumns tableName = some tableName ∧
        createRead showCreate tableName = some tableName ↔
      Bare showColumns tableName ∧ Bare showCreate tableName) := by
  refine ⟨⟨fun h => ?_, fun ⟨htable, hkey⟩ => ?_⟩, keyNamed_iff, fun tableName => ?_⟩
  · exact ⟨(tableRead_iff _).mp h.tableRead_eq, keyNamed_iff.mp h.keyNamed⟩
  · have hread := (tableRead_iff _).mpr htable
    refine ⟨hread, keyNamed_iff.mpr hkey, fun conn hopen => ?_⟩
    exact validated_of_read hquote hcatalog hopen (by rw [hread]; rfl) htable.nul_notMem
  · exact and_congr (columnsRead_iff tableName) (createRead_iff tableName)

end

/-! ### A table with the name of a keyword -/

/-- The words that SQLite does not take for a name, also where it may take a number for one. -/
def keywords : List String :=
  ["add", "all", "alter", "and", "as", "autoincrement", "between", "case", "check", "collate",
    "commit", "constraint", "create", "deferrable", "distinct", "drop", "else", "escape", "except",
    "exists", "foreign", "from", "group", "having", "in", "index", "insert", "intersect", "into",
    "is", "isnull", "join", "limit", "not", "nothing", "notnull", "null", "or", "order", "primary",
    "references", "returning", "select", "set", "table", "then", "to", "transaction", "union",
    "unique", "update", "using", "values", "when", "where"]

def nocase (a b : Text) : Bool := a.map Char.toLower = b.map Char.toLower

def isBlank (c : Char) : Bool := c ∈ [' ', '\t', '\n', '\r', Char.ofNat 12]

def isIdChar (c : Char) : Bool := c.isAlphanum || c = '_' || c = '$' || 128 ≤ c.toNat

/-- A word that begins with a digit is a number or no word. -/
def isReserved (word : Text) : Bool :=
  keywords.any (fun keyword => nocase word keyword.toList) || word.head? = some '$' ||
    (word.head?.any Char.isDigit && !word.all Char.isDigit)

def closing : Char → Option Char
  | '"' => some '"'
  | '\'' => some '\''
  | '`' => some '`'
  | '[' => some ']'
  | _ => none

theorem blank_ends (c : Char) (h : isBlank c = true) : isIdChar c = false := by
  simp only [isBlank, List.mem_cons, List.not_mem_nil, or_false, decide_eq_true_eq] at h
  rcases h with rfl | rfl | rfl | rfl | rfl <;> decide

theorem opening_ends (c : Char) (h : (closing c).isSome = true) :
    isBlank c = false ∧ isIdChar c = false := by
  unfold closing at h
  split at h
  · decide
  · decide
  · decide
  · decide
  · cases h

theorem closing_shows (c : Char) : ∀ q ∈ closing c, isBlank q = false := by
  intro q hq
  unfold closing at hq
  split at hq <;> cases hq <;> decide

theorem marks_end : ∀ c ∈ ['(', ')', '=', ','], isBlank c = false ∧ isIdChar c = false := by
  intro c hc
  simp only [List.mem_cons, List.not_mem_nil, or_false] at hc
  rcases hc with rfl | rfl | rfl | rfl <;> decide

/-- What SQLite reads as the name of a table. -/
def sqliteWords : Words where
  isBlank := isBlank
  isWordChar := isIdChar
  reserved := isReserved
  fold := id
  closing := closing
  isBlank_space := rfl
  nul_ends := rfl
  blank_ends := blank_ends
  mark_ends := marks_end
  opening_ends := opening_ends
  closing_shows := closing_shows

/-- The text that a statement was prepared from. -/
def preparedSql (log : List Call) (handle : ℕ) : Option Text :=
  (log.filterMap fun c => match c.action with
    | .prepare sql => if c.handle = some handle then some sql else none
    | _ => none).getLast?

theorem error_failed : (1 : ℤ) ≠ OK ∧ (1 : ℤ) ≠ ROW ∧ (1 : ℤ) ≠ DONE := by decide

def infoColumns : List Column :=
  ["cid", "name", "type", "notnull", "dflt_value", "pk"].map fun name => ⟨name.toList, none⟩

/-- An engine with these tables; the rows of a table describe its columns. -/
def describing (tables : List (Text × List Row)) : Engine where
  prepare _ sql :=
    if sql = tableExistsSql then .ok (some ⟨1, [⟨['1'], none⟩]⟩)
    else if (nameBetween sqliteWords "PRAGMA table_info(".toList ")".toList sql).isSome then
      .ok (some ⟨0, infoColumns⟩)
    else .error ⟨1, error_failed⟩
  reset _ _ := none
  bind _ _ _ _ := none
  run log handle :=
    if preparedSql log handle = some tableExistsSql then
      match parameter log handle 1 with
      | some (.text name) =>
        ⟨if tables.any (fun table => nocase table.1 name) then [[.integer 1]] else [], none⟩
      | _ => ⟨[], none⟩
    else
      let name := (preparedSql log handle).bind
        (nameBetween sqliteWords "PRAGMA table_info(".toList ")".toList)
      ⟨((name.bind fun name => tables.find? fun table => nocase table.1 name).map
        Prod.snd).getD [], none⟩
  message _ := noError

theorem preparedSql_prepare (log : List Call) (handle : ℕ) (sql : Text) :
    preparedSql (answered log handle (.prepare sql)) handle = some sql := by
  simp [preparedSql, answered]

theorem preparedSql_reset (log : List Call) (handle handle' : ℕ) :
    preparedSql (answered log handle .reset) handle' = preparedSql log handle' := by
  simp [preparedSql, answered]

theorem preparedSql_bind (log : List Call) (handle handle' index : ℕ) (value : SqlValue) :
    preparedSql (answered log handle (.bind index value)) handle' = preparedSql log handle' := by
  simp [preparedSql, answered]

theorem tableInfoSql_ne (tableName : Text) : tableInfoSql tableName ≠ tableExistsSql := by
  intro h
  exact absurd (List.cons.inj h).1 (by decide)

theorem describing_catalog (tables : List (Text × List Row)) :
    Catalog sqliteWords nocase (fun _ => tables.map Prod.fst) (describing tables) where
  reset_prepared _ _ := rfl
  prepare_lookup _ := by
    simp only [describing, if_true]
    exact ⟨_, rfl⟩
  bind_lookup _ _ := rfl
  run_lookup log name h := by
    obtain ⟨table, htable, hname⟩ := h
    obtain ⟨entry, hentry, rfl⟩ := List.mem_map.mp htable
    have hany : tables.any (fun table => nocase table.1 name) = true :=
      List.any_eq_true.mpr ⟨entry, hentry, hname⟩
    have hsql : preparedSql (answered (answered (answered log log.length (.prepare tableExistsSql))
        log.length .reset) log.length (.bind 1 (.text name))) log.length = some tableExistsSql := by
      rw [preparedSql_bind, preparedSql_reset, preparedSql_prepare]
    have hparameter : parameter (answered (answered (answered log log.length
        (.prepare tableExistsSql)) log.length .reset) log.length (.bind 1 (.text name)))
        log.length 1 = some (.text name) := by
      rw [answered, parameter_append]
      simp [Call.binding]
    unfold describing
    dsimp only
    rw [if_pos hsql, hparameter]
    dsimp only
    rw [if_pos hany]
    exact List.cons_ne_nil _ _
  prepare_read log tableName h := by
    simp only [describing, if_neg (tableInfoSql_ne tableName)]
    exact ⟨_, if_pos h⟩
  run_read log tableName h := by
    have hsql : preparedSql (answered (answered log log.length (.prepare (tableInfoSql tableName)))
        log.length .reset) log.length = some (tableInfoSql tableName) := by
      rw [preparedSql_reset, preparedSql_prepare]
    have hother : preparedSql (answered (answered log log.length (.prepare (tableInfoSql tableName)))
        log.length .reset) log.length ≠ some tableExistsSql := by
      rw [hsql]
      exact fun heq => tableInfoSql_ne tableName (Option.some.inj heq)
    unfold describing
    dsimp only
    rw [if_neg hother]

def idField : TField := ⟨"id".toList, .longTypeId, [("pk", ['1']), ("auto", ['1'])]⟩

def orderType : TClassId := ⟨"Order".toList, [], [idField]⟩

def personType : TClassId := ⟨"Person".toList, [], [idField]⟩

/-- The model of a class whose only field is its key. -/
def keyModel (typeId : TClassId) (tableName : Text) : TOrmModel where
  typeId := typeId
  tableName := tableName
  fields := [buildField .lowerCase idField]
  indexes := []
  primaryKey := some (buildField .lowerCase idField)

def orderModel : TOrmModel := keyModel orderType "order".toList

def personModel : TOrmModel := keyModel personType "person".toList

theorem orderModel_built :
    buildModel (none : Option (TOrmRegistry fun _ => 0)) .lowerCase orderType =
      .ok (orderModel, none) := rfl

def idRow : Row :=
  [.integer 0, .text "id".toList, .text "INTEGER".toList, .integer 0, .null, .integer 1]

def orders : Engine := describing [("order".toList, [idRow])]

/-- The table of the model is there, but its name is a keyword of the statement that asks for its
columns: the table is reported as missing. -/
theorem keyword_reported_missing :
    Created sqliteWords nocase (fun _ => ["order".toList]) orderModel SqliteVerdict.opened ∧
      tableRead sqliteWords orderModel.tableName ≠ some orderModel.tableName ∧
      ∃ conn', ∀ fuel, validateModel nocase
        (fun tableName => getTableInfo orders .integers tableName false fuel) orderModel []
        SqliteVerdict.opened = some ([⟨orderModel, tableMissing orderModel⟩], conn') := by
  refine ⟨⟨"order".toList, createTable_named rfl orderModel, _, List.mem_singleton_self _, rfl⟩,
    by decide +kernel, _, fun fuel => rfl⟩

theorem bare_word {word : Text} (hne : word ≠ []) (hchars : word.all isIdChar = true)
    (hfree : isReserved word = false) : Bare sqliteWords word :=
  ⟨⟨hne, List.all_eq_true.mp hchars, hfree⟩, List.map_id word⟩

theorem names_reach_iff_person :
    Reached sqliteWords sqliteWords (fun _ => sqliteWords) nocase nocase
      (fun _ => ["person".toList]) (describing [("person".toList, [idRow])]) .integers
      personModel := by
  have hkey : ∀ primaryKey ∈ personModel.primaryKey, Bare sqliteWords primaryKey.columnName := by
    intro primaryKey hmem
    cases hmem
    exact bare_word (by decide +kernel) (by decide +kernel) (by decide +kernel)
  exact (names_reach_iff sqliteWords sqliteWords rfl
    (describing_catalog [("person".toList, [idRow])]) personModel).1.mpr
      ⟨bare_word (List.cons_ne_nil _ _) (by decide +kernel) (by decide +kernel), hkey⟩

end DatabaseMod.OrmInspection
