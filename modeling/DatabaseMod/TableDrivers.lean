import DatabaseMod.OrmInspection
import DatabaseMod.PostgresTables

/-!
# The same table through every driver

What `getTableInfo` answers on the three connections that have it. The catalogs say the same in
three ways; SQLite has a flag for the columns that are NOT NULL, which is reported as it is.
-/

namespace DatabaseMod.TableDrivers
open SqlTokens (Text)
open CoreValues SqlEngine TableInspection TableColumns
open PostgresTables.TDBPostgreSQL (Answers createStatement)

inductive Connection
  | sqlite (e : Engine) (conv : Conversions) (conn : SqliteDriver.TDBSQLite)
  | postgresql (pq : PostgresDriver.Libpq) (rt : PostgresDriver.Runtime)
    (conn : PostgresDriver.TDBPostgreSQL)
  | mariadb (lib : MariaDriver.Libmariadb) (rt : MariaDriver.Runtime)
    (conn : MariaDriver.TDBMariaDB)

namespace Connection

def getTableInfo (tableName : Text) (withDDL : Bool) (fuel : ℕ) :
    Connection → Option (Option TDBTable)
  | sqlite e conv conn => (TDBSQLite.getTableInfo e conv tableName withDDL fuel conn).map Prod.fst
  | postgresql pq rt conn =>
    (PostgresTables.TDBPostgreSQL.getTableInfo pq rt tableName withDDL fuel conn).map Prod.fst
  | mariadb lib rt conn =>
    (TDBMariaDB.getTableInfo lib rt tableName withDDL fuel conn).map Prod.fst

/-- The connection is open and the catalog behind it has a table with these columns. -/
inductive Has (tableName qualifiedName : Text) (infos : List ColumnInfo) : Connection → Prop
  | sqlite {w : SqlNames.Words} {sameName : Text → Text → Bool} {tables : List Call → List Text}
    {e : Engine} {conv : Conversions} {conn : SqliteDriver.TDBSQLite} (hopen : conn.isOpen = true)
    (hcatalog : TDBSQLite.Catalog w sameName tables e)
    (hfound : ∃ table ∈ tables conn.log, sameName table (cString tableName) = true)
    (hpragma : PragmaReports e tableName infos) :
    Has tableName qualifiedName infos (sqlite e conv conn)
  | postgresql {pq : PostgresDriver.Libpq} {rt : PostgresDriver.Runtime}
    {conn : PostgresDriver.TDBPostgreSQL} (hopen : conn.isOpen = true)
    (hanswers : Answers pq rt conn.log conn.created tableName qualifiedName infos) :
    Has tableName qualifiedName infos (postgresql pq rt conn)
  | mariadb {lib : MariaDriver.Libmariadb} {rt : MariaDriver.Runtime}
    {conn : MariaDriver.TDBMariaDB} (hopen : conn.isOpen = true)
    (hshown : ColumnsShown lib rt conn.log tableName infos) :
    Has tableName qualifiedName infos (mariadb lib rt conn)

def isSQLite : Connection → Prop
  | sqlite .. => True
  | _ => False

def isPostgreSQL : Connection → Prop
  | postgresql .. => True
  | _ => False

/-- The table is returned with its columns as they are, by PostgreSQL with the statement too. -/
def Reported (c : Connection) (tableName qualifiedName : Text) (withDDL : Bool)
    (infos : List ColumnInfo) : Prop :=
  ∃ fuel, ∀ fuel' ≥ fuel, ∃ table, c.getTableInfo tableName withDDL fuel' = some (some table) ∧
    Means infos table.columns ∧
      (c.isPostgreSQL → withDDL = true → table.ddl = createStatement qualifiedName infos)

variable {c : Connection} {tableName qualifiedName : Text} {infos : List ColumnInfo}

theorem not_means_of_reports {reported : List TDBColumn} (h : List.Forall₂ Reports infos reported)
    (hmeans : Means infos reported) : infos = [] := by
  cases h with
  | nil => rfl
  | @cons info column infos reported hreports hrest =>
    obtain ⟨⟨-, hnullable⟩, -⟩ := List.forall₂_cons.mp hmeans
    rw [hreports.nullable] at hnullable
    cases hadmits : info.admitsNull with
    | true =>
      rw [hadmits] at hnullable
      exact absurd rfl (hnullable.mpr rfl)
    | false =>
      rw [hadmits] at hnullable
      exact absurd (hnullable.mp one_ne_zero) Bool.false_ne_true

theorem sqlite_reported_empty {e : Engine} {conv : Conversions} {conn : SqliteDriver.TDBSQLite}
    (h : (sqlite e conv conn).Has tableName qualifiedName infos) {withDDL : Bool}
    (hreported : (sqlite e conv conn).Reported tableName qualifiedName withDDL infos) :
    infos = [] := by
  cases h with
  | @sqlite w sameName tables _ _ _ hopen hcatalog hfound hpragma =>
    obtain ⟨fuel, hends⟩ := @sqlite_reports e conv w sameName tables hcatalog conn tableName infos
      hopen hfound hpragma withDDL
    obtain ⟨fuel', hreports⟩ := hreported
    obtain ⟨table, conn', htable, hall⟩ := hends (max fuel fuel') (le_max_left ..)
    obtain ⟨table', htable', hmeans, -⟩ := hreports (max fuel fuel') (le_max_right ..)
    rw [getTableInfo, htable] at htable'
    obtain rfl : table = table' := Option.some.inj (Option.some.inj htable')
    exact not_means_of_reports hall hmeans

/-- A table is reported as it is, save by SQLite, which reports the columns the other way round. -/
theorem columns_reported_iff (h : c.Has tableName qualifiedName infos) (withDDL : Bool) :
    c.Reported tableName qualifiedName withDDL infos ↔ (c.isSQLite → infos = []) := by
  cases h with
  | @sqlite w sameName tables e conv conn hopen hcatalog hfound hpragma =>
    refine ⟨fun hreported _ =>
      sqlite_reported_empty (.sqlite hopen hcatalog hfound hpragma) hreported, fun hempty => ?_⟩
    obtain rfl := hempty trivial
    obtain ⟨fuel, hends⟩ := @sqlite_reports e conv w sameName tables hcatalog conn tableName []
      hopen hfound hpragma withDDL
    refine ⟨fuel, fun fuel' hle => ?_⟩
    obtain ⟨table, conn', htable, hall⟩ := hends fuel' hle
    refine ⟨table, congrArg (Option.map Prod.fst) htable, ?_, False.elim⟩
    rw [List.forall₂_nil_left_iff.mp hall]
    exact .nil
  | postgresql hopen hanswers =>
    refine iff_of_true ?_ False.elim
    obtain ⟨fuel, hends⟩ := PostgresTables.TDBPostgreSQL.postgres_means hopen hanswers withDDL
    refine ⟨fuel, fun fuel' hle => ?_⟩
    obtain ⟨table, conn', htable, hmeans, hddl⟩ := hends fuel' hle
    exact ⟨table, congrArg (Option.map Prod.fst) htable, hmeans, fun _ => hddl⟩
  | mariadb hopen hshown =>
    refine iff_of_true ?_ False.elim
    obtain ⟨fuel, hends⟩ := maria_means hopen hshown withDDL
    refine ⟨fuel, fun fuel' hle => ?_⟩
    obtain ⟨table, conn', htable, hmeans⟩ := hends fuel' hle
    exact ⟨table, congrArg (Option.map Prod.fst) htable, hmeans, False.elim⟩

end Connection

/-! ### A table of people -/

/-- The key of a person, which may be null. -/
def personId : ColumnInfo := ⟨"id".toList, "INTEGER".toList, true, none⟩

def people : Engine := OrmInspection.describing [("person".toList, [OrmInspection.idRow])]

theorem people_describes : PragmaReports people "person".toList [personId] where
  prepare log := by
    refine ⟨OrmInspection.infoColumns, by decide, ?_⟩
    unfold people OrmInspection.describing
    dsimp only
    rw [if_neg (OrmInspection.tableInfoSql_ne _), if_pos (by decide +kernel)]
  run log := by
    refine ⟨[OrmInspection.idRow], .cons ⟨rfl, rfl, rfl, rfl⟩ .nil, ?_⟩
    unfold people OrmInspection.describing
    dsimp only
    rw [OrmInspection.preparedSql_reset, OrmInspection.preparedSql_prepare]
    rw [if_neg fun hsame => OrmInspection.tableInfoSql_ne _ (Option.some.inj hsame)]
    decide +kernel

theorem people_have : (Connection.sqlite people .integers SqliteVerdict.opened).Has "person".toList
    "person".toList [personId] :=
  .sqlite rfl (OrmInspection.describing_catalog _)
    ⟨"person".toList, List.mem_singleton_self _, rfl⟩ people_describes

/-- The key is reported as NOT NULL. -/
theorem people_misreported :
    (Connection.sqlite people .integers SqliteVerdict.opened).Has "person".toList "person".toList
      [personId] ∧
    ¬ (Connection.sqlite people .integers SqliteVerdict.opened).Reported "person".toList
      "person".toList false [personId] :=
  ⟨people_have, fun hreported =>
    List.cons_ne_nil _ _ (Connection.sqlite_reported_empty people_have hreported)⟩

/-! ### A server -/

/-- The columns that the catalog of PostgreSQL answers with. -/
def catalogColumns : List PostgresDriver.Column :=
  [⟨"attname".toList, 19⟩, ⟨"atttypid".toList, 26⟩, ⟨"nullable".toList, PostgresDriver.INT4OID⟩,
    ⟨"default_value".toList, 25⟩, ⟨"formatted_type".toList, 25⟩, ⟨"qualified_name".toList, 25⟩]

/-- The rows of a table with a key and a name. -/
def personRows : List (List (Option Text)) :=
  [[some "id".toList, some "23".toList, some ['0'], none, some "integer".toList,
      some "public.person".toList],
    [some "name".toList, some "25".toList, some ['1'], some "''::text".toList, some "text".toList,
      some "public.person".toList]]

def answerTo : PostgresDriver.Call → Option PostgresDriver.PGresult
  | .execPrepared name _ _ => some (.tuplesOk
      (if name = "prep0".toList then ⟨[⟨"one".toList, PostgresDriver.INT4OID⟩], [[some ['1']]]⟩
      else ⟨catalogColumns, personRows⟩))
  | _ => some .commandOk

def personServer : PostgresDriver.Libpq :=
  ⟨fun log => log.getLast?.bind answerTo, fun _ => true, fun _ => [], fun _ => [], 8⟩

def personColumns : List ColumnInfo :=
  [⟨"id".toList, "integer".toList, false, none⟩,
    ⟨"name".toList, "text".toList, true, some "''::text".toList⟩]

theorem personServer_answers : Answers personServer PostgresParameters.plain [] 0 "person".toList
    "public.person".toList personColumns where
  connected _ := rfl
  lookup := rfl
  found := ⟨_, List.cons_ne_nil _ _, rfl⟩
  read := rfl
  described := by
    refine ⟨⟨catalogColumns, personRows⟩, ⟨?_, _, rfl, rfl⟩, ?_, rfl⟩
    · intro i hi
      simp only [List.mem_cons, List.not_mem_nil, or_false] at hi
      rcases hi with rfl | rfl | rfl | rfl
      · exact ⟨_, rfl, rfl⟩
      · exact ⟨_, rfl, rfl⟩
      · exact ⟨_, rfl, rfl⟩
      · exact ⟨_, rfl, rfl⟩
    · exact .cons ⟨⟨_, rfl, rfl⟩, rfl, ⟨_, rfl, rfl⟩, ⟨_, rfl, rfl⟩, _, rfl, rfl⟩
        (.cons ⟨⟨_, rfl, rfl⟩, rfl, ⟨_, rfl, rfl⟩, ⟨_, rfl, rfl⟩, _, rfl, rfl⟩ .nil)
  zero := by decide
  one := by decide

theorem person_reported :
    (Connection.postgresql personServer PostgresParameters.plain
      PostgresParameters.opened).Reported "person".toList "public.person".toList true
        personColumns :=
  (Connection.columns_reported_iff (.postgresql rfl personServer_answers) true).mpr False.elim

end DatabaseMod.TableDrivers
