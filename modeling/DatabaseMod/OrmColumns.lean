import DatabaseMod.OrmModelBuilder
import DatabaseMod.OrmStatementReading
import DatabaseMod.SqlNames

/-!
# Columns named by generated statements

Every column a generated statement names is compared with the columns that
`BuildCreateTableSql` declares. The text of a condition comes from the caller; here its
quotes are closed and the columns it quotes are columns of the model. The condition of
`ExistsById` comes from the ORM, and its column is not quoted.
-/

namespace DatabaseMod.OrmColumns
open SqlTokens SqlReading OrmModel OrmModelBuilder OrmStatements OrmStatementReading
open SqlNames (Words nameBetween nameOf nameBetween_eq_nameOf)

/-- The condition of `ExistsById`. -/
def whereById (primaryKey : TOrmField) : Text := primaryKey.columnName ++ " = ?".toList

variable (w : Words) (d : TOrmDialect) (m : TOrmModel)

/-- The quoted columns of a statement. -/
def columnsOf (sql : Text) : List Text := columnNames none (read sql)

/-- The column that the statement of `ExistsById` compares. -/
def keyRead (primaryKey : TOrmField) : Option Text :=
  nameBetween w ("SELECT 1 FROM ".toList ++ d.quoteIdentifier m.tableName ++ " WHERE ".toList)
    "= ?".toList (buildExistsWhereSql d m (whereById primaryKey))

structure Condition (whereSql : Text) : Prop where
  reads : Reads whereSql (read whereSql)
  declared : ∀ c ∈ columnNames (some "WHERE".toList) (read whereSql),
    c ∈ m.fields.map (·.columnName)

/-- The quoted columns of a statement, each of which is a name. -/
def quotedColumns (sql : Text) : List (Option Text) := (columnsOf sql).map some

/-- The statements generated for a model, each with the columns that the database reads in it,
by its rules for names that are not quoted. Nothing stands for a column that is not read as a
name; `sameName` compares an order's names. -/
inductive Generated (sameName : Text → Text → Bool) : Text → List (Option Text) → Prop
  | createIndex {index : TOrmIndex} (h : index ∈ m.indexes) :
    Generated sameName (buildCreateIndexSql d m index)
      (quotedColumns (buildCreateIndexSql d m index))
  | insert : Generated sameName (buildInsertSql d m) (quotedColumns (buildInsertSql d m))
  | update {primaryKey : TOrmField} (h : m.primaryKey = some primaryKey) :
    Generated sameName (buildUpdateSql d m primaryKey)
      (quotedColumns (buildUpdateSql d m primaryKey))
  | delete {primaryKey : TOrmField} (h : m.primaryKey = some primaryKey) :
    Generated sameName (buildDeleteSql d m primaryKey)
      (quotedColumns (buildDeleteSql d m primaryKey))
  | findById {sql : Text} (h : buildFindByIdSql d m = .ok sql) :
    Generated sameName sql (quotedColumns sql)
  | existsById {primaryKey : TOrmField} (h : m.primaryKey = some primaryKey) :
    Generated sameName (buildExistsWhereSql d m (whereById primaryKey)) [keyRead w d m primaryKey]
  | findWhere {whereSql sql : Text} {orderBy : List TOrmOrderItem} {limit offset : ℤ}
    (hw : Condition m whereSql)
    (h : buildFindWhereSql d m sameName whereSql orderBy limit offset = .ok sql) :
    Generated sameName sql (quotedColumns sql)
  | countWhere {whereSql : Text} (hw : Condition m whereSql) :
    Generated sameName (buildCountWhereSql d m whereSql)
      (quotedColumns (buildCountWhereSql d m whereSql))
  | existsWhere {whereSql : Text} (hw : Condition m whereSql) :
    Generated sameName (buildExistsWhereSql d m whereSql)
      (quotedColumns (buildExistsWhereSql d m whereSql))
  | removeWhere {whereSql : Text} (hw : Condition m whereSql) :
    Generated sameName (buildRemoveWhereSql d m whereSql)
      (quotedColumns (buildRemoveWhereSql d m whereSql))

/-- Every column of the statements is that of a field. -/
def ColumnsDeclared (sameName : Text → Text → Bool) : Prop :=
  ∀ sql columns, Generated w d m sameName sql columns →
    ∀ c ∈ columns, ∃ fld ∈ m.fields, c = some fld.columnName

theorem quotedColumns_declared {sql : Text}
    (h : ∀ c ∈ columnsOf sql, c ∈ m.fields.map (·.columnName)) :
    ∀ c ∈ quotedColumns sql, ∃ fld ∈ m.fields, c = some fld.columnName := by
  intro c hc
  obtain ⟨name, hname, rfl⟩ := List.mem_map.mp hc
  obtain ⟨fld, hfld, rfl⟩ := List.mem_map.mp (h name hname)
  exact ⟨fld, hfld, rfl⟩

theorem whereClause_byId (primaryKey : TOrmField) : whereClause (whereById primaryKey) =
    " WHERE ".toList ++ (primaryKey.columnName ++ ([' '] ++ "= ?".toList)) := by
  have hmem : '=' ∈ whereById primaryKey := List.mem_append_right _ (by simp)
  have hshown : whereById primaryKey ≠ [] ∧ SqlTokens.trim (whereById primaryKey) ≠ [] := by
    refine ⟨List.ne_nil_of_mem hmem, fun hblank => ?_⟩
    exact absurd (SqlTokens.trim_eq_nil.mp hblank '=' hmem) (by decide)
  exact if_pos hshown

theorem existsByIdSql_eq (d : TOrmDialect) (m : TOrmModel) (primaryKey : TOrmField) :
    buildExistsWhereSql d m (whereById primaryKey) =
      "SELECT 1 FROM ".toList ++ d.quoteIdentifier m.tableName ++ " WHERE ".toList ++
        (primaryKey.columnName ++ ([' '] ++ "= ?".toList)) := by
  unfold buildExistsWhereSql
  rw [whereClause_byId, List.append_assoc _ " WHERE ".toList]

/-- The key's column is read as it would be by itself. -/
theorem keyRead_eq (primaryKey : TOrmField) :
    keyRead w d m primaryKey = nameOf w primaryKey.columnName := by
  have hspace := w.isBlank_space
  have hmark := (w.mark_ends '=' (by simp)).1
  rw [keyRead, existsByIdSql_eq]
  exact nameBetween_eq_nameOf _ _ _ (by simp) (by simpa using hspace) (by simpa using hmark)

theorem columnNames_symbol (c : Char) (l : List Item) (prev : Option Text) :
    columnNames prev ([.symbol c] ++ l) = columnNames none l := rfl

theorem columnNames_keyword (w : String) (l : List Item) (prev : Option Text) :
    columnNames prev ([keyword w] ++ l) = columnNames (some w.toList) l := rfl

theorem columnNames_keywords (w : String) (ws l : List Item) (prev : Option Text) :
    columnNames prev ((keyword w :: ws) ++ l) = columnNames (some w.toList) (ws ++ l) := rfl

theorem columnNames_relation {w : String} (hw : w.toList ∈ relationWords) (n : Text)
    (l : List Item) (prev : Option Text) :
    columnNames prev ([keyword w] ++ ([.name n] ++ l)) = columnNames none l := by
  simp [keyword, columnNames, hw]

theorem columnNames_name {w : String} (hw : w.toList ∉ relationWords) (n : Text)
    (l : List Item) (prev : Option Text) :
    columnNames prev ([keyword w] ++ ([.name n] ++ l)) = n :: columnNames none l := by
  simp [keyword, columnNames, hw]

theorem columnNames_fieldNames (flds : List TOrmField) {prev : Option Text}
    (hprev : prev.any (· ∈ relationWords) = false) :
    columnNames prev (fieldNames flds) = flds.map (·.columnName) :=
  columnNames_elements flds (·.columnName) prev hprev (by simp)

theorem placeholderItem_ne_name (index : ℕ) (n : Text) : placeholderItem d index ≠ .name n := by
  cases d <;> simp [placeholderItem]

theorem not_mem_commas {parts : List (List Item)} {n : Text} (h : ∀ p ∈ parts, .name n ∉ p) :
    .name n ∉ commas parts := by
  cases parts with
  | nil => simp [commas, separated]
  | cons p parts =>
    simp only [List.mem_cons, forall_eq_or_imp] at h
    simpa [commas, separated, h.1] using h.2

theorem definitionTail_no_name (fld : TOrmField) (n : Text) : .name n ∉ definitionTail d fld := by
  have htypes : ∀ t ∈ typeNames ++ ["INTEGER PRIMARY KEY AUTOINCREMENT".toList,
      "BIGINT GENERATED BY DEFAULT AS IDENTITY PRIMARY KEY".toList],
      (read t).all (fun i => i matches .word _ | .symbol _) = true := by
    decide +kernel
  have hread {t : Text} (ht : t ∈ typeNames ++ ["INTEGER PRIMARY KEY AUTOINCREMENT".toList,
      "BIGINT GENERATED BY DEFAULT AS IDENTITY PRIMARY KEY".toList]) : .name n ∉ read t :=
    fun hn => by simpa using List.all_eq_true.mp (htypes t ht) _ hn
  unfold definitionTail
  split_ifs
  · cases d with
    | sqlite => exact hread (t := "INTEGER PRIMARY KEY AUTOINCREMENT".toList) (by decide)
    | postgres =>
      exact hread (t := "BIGINT GENERATED BY DEFAULT AS IDENTITY PRIMARY KEY".toList) (by decide)
  all_goals
    have htype := hread (List.mem_append_left _ (sqlTypeForField_mem d fld))
    simp [keyword, htype]

theorem columnsOf_createTable :
    columnsOf (buildCreateTableSql d m) = m.fields.map (·.columnName) := by
  have helements := columnNames_elements m.fields (·.columnName) none rfl
    fun _ fld n => definitionTail_no_name d fld n
  rw [columnsOf, (reads_createTable d m).read_eq, createTableItems, columnNames_keywords,
    columnNames_keywords, columnNames_keywords, columnNames_keywords,
    columnNames_relation (by decide), columnNames_symbol, columnNames_append (by simp), commas,
    helements]
  simp [columnNames]

/-- The columns named by the `RETURNING` clause of an insert. -/
def returningColumns : List Text :=
  match d, m.primaryKey with
  | .postgres, some primaryKey => if primaryKey.isAuto then [primaryKey.name] else []
  | _, _ => []

theorem columnNames_returningItems (prev : Option Text) :
    columnNames prev ([.symbol ')'] ++ returningItems d m) = returningColumns d m := by
  cases d with
  | sqlite => rfl
  | postgres =>
    cases hpk : m.primaryKey with
    | none => simp [returningItems, returningColumns, hpk, columnNames]
    | some primaryKey =>
      simp only [returningItems, returningColumns, hpk]
      split_ifs
      · exact columnNames_name (w := "RETURNING") (by decide) primaryKey.name [] none
      · rfl

theorem columnsOf_insert : columnsOf (buildInsertSql d m) =
    (insertFields m).map (·.columnName) ++ returningColumns d m := by
  have hvalues (k : ℕ) (n : Text) :
      .name n ∉ commas ((List.range k).mapIdx fun i _ => [placeholderItem d (i + 1)]) := by
    refine not_mem_commas fun p hp => ?_
    obtain ⟨i, hi, rfl⟩ := List.mem_mapIdx.mp hp
    simpa using (placeholderItem_ne_name d (i + 1) n).symm
  rw [columnsOf, (reads_insert d m).read_eq, insertItems, columnNames_keywords,
    columnNames_relation (by decide), columnNames_symbol, columnNames_append (by simp),
    columnNames_fieldNames _ rfl]
  congr 1
  change columnNames none (_ ++ ([.symbol ')'] ++ returningItems d m)) = _
  rw [columnNames_append (by simp), columnNames_no_name (hvalues _),
    columnNames_returningItems, List.nil_append]

theorem columnNames_key (index : ℕ) (fld : TOrmField) :
    columnNames (some "WHERE".toList)
      [.name fld.columnName, .symbol '=', placeholderItem d index] = [fld.columnName] := by
  rw [columnNames, if_neg (by decide)]
  cases d <;> rfl

theorem columnsOf_update (primaryKey : TOrmField) :
    columnsOf (buildUpdateSql d m primaryKey) =
      (updateFields m).map (·.columnName) ++ [primaryKey.columnName] := by
  have htail (i : ℕ) (fld : TOrmField) (n : Text) :
      Item.name n ∉ [.symbol '=', placeholderItem d (i + 1)] := by
    simpa using (placeholderItem_ne_name d (i + 1) n).symm
  have helements := columnNames_elements (updateFields m) (·.columnName) (some "SET".toList)
    (by decide) htail
  rw [columnsOf, (reads_update d m primaryKey).read_eq, updateItems,
    columnNames_relation (by decide), columnNames_keyword, columnNames_append (by simp [keyword]),
    commas, helements, columnNames_keyword]
  exact congrArg _ (columnNames_key d _ primaryKey)

theorem columnsOf_delete (primaryKey : TOrmField) :
    columnsOf (buildDeleteSql d m primaryKey) = [primaryKey.columnName] := by
  rw [columnsOf, (reads_delete d m primaryKey).read_eq, deleteItems, columnNames_keywords,
    columnNames_relation (by decide), columnNames_keyword, columnNames_key]

theorem columnNames_selectItems (l : List Item) :
    columnNames none (selectItems m ++ l) =
      m.fields.map (·.columnName) ++ columnNames none l := by
  rw [selectItems, List.append_assoc, List.append_assoc, columnNames_keyword,
    columnNames_append (by simp [keyword]), columnNames_fieldNames _ (by decide)]
  rw [List.append_assoc, columnNames_relation (by decide)]

theorem columnsOf_findById {sql : Text} (h : buildFindByIdSql d m = .ok sql) :
    ∃ primaryKey, m.primaryKey = some primaryKey ∧
      columnsOf sql = m.fields.map (·.columnName) ++ [primaryKey.columnName] := by
  cases hpk : m.primaryKey with
  | none => simp [buildFindByIdSql, hpk] at h
  | some primaryKey =>
    obtain ⟨sql', hsql, hreads⟩ := reads_findById d m hpk
    obtain rfl : sql' = sql := by simpa using hsql.symm.trans h
    refine ⟨primaryKey, rfl, ?_⟩
    rw [columnsOf, hreads.read_eq, findByIdItems, columnNames_selectItems,
      columnNames_keyword, columnNames_key]

theorem columnNames_whereItems {whereSql : Text} (hw : Condition m whereSql) :
    ∀ c ∈ columnNames none (whereItems whereSql), c ∈ m.fields.map (·.columnName) := by
  unfold whereItems
  split_ifs
  · exact hw.declared
  · simp [columnNames]

theorem columnNames_orderByItems (items : List (TOrmField × Bool)) :
    columnNames none (orderByItems items) = items.map (·.1.columnName) := by
  cases items with
  | nil => rfl
  | cons item items =>
    have htail (i : ℕ) (item : TOrmField × Bool) (n : Text) :
        Item.name n ∉ [if item.2 then keyword "ASC" else keyword "DESC"] := by
      cases item.2 <;> simp [keyword]
    have h := columnNames_elements (item :: items) (·.1.columnName) (some "BY".toList)
      (by decide) htail
    rw [mapIdx_eq_map fun item : TOrmField × Bool => .name item.1.columnName ::
      [if item.2 then keyword "ASC" else keyword "DESC"]] at h
    exact h

theorem head_orderByItems (items : List (TOrmField × Bool)) (limit offset : ℤ) (n : Text) :
    (orderByItems items ++ limitItems limit offset).head? ≠ some (.name n) := by
  cases items with
  | nil => unfold limitItems; split_ifs <;> simp [orderByItems, keyword]
  | cons item items => simp [orderByItems, keyword]

theorem columnNames_limitItems (limit offset : ℤ) : columnNames none (limitItems limit offset) = [] :=
  columnNames_no_name (fun n => by unfold limitItems; split_ifs <;> simp [keyword]) none

theorem head_limitItems (limit offset : ℤ) (n : Text) :
    (limitItems limit offset).head? ≠ some (.name n) := by
  unfold limitItems
  split_ifs <;> simp [keyword]

theorem columnsOf_findWhere {sameName : Text → Text → Bool} {whereSql sql : Text}
    {order : List TOrmOrderItem} {limit offset : ℤ} (hw : Condition m whereSql)
    (h : buildFindWhereSql d m sameName whereSql order limit offset = .ok sql) :
    ∀ c ∈ columnsOf sql, c ∈ m.fields.map (·.columnName) := by
  obtain ⟨items, hmem, hreads⟩ := reads_findWhere d m hw.reads h
  have hitems : ∀ c ∈ items.map (·.1.columnName), c ∈ m.fields.map (·.columnName) := by
    simp only [List.mem_map, forall_exists_index, and_imp]
    rintro c item hitem rfl
    exact ⟨item.1, hmem item hitem, rfl⟩
  rw [columnsOf, hreads.read_eq, columnNames_selectItems,
    columnNames_append (head_orderByItems items limit offset),
    columnNames_append (head_limitItems limit offset), columnNames_orderByItems,
    columnNames_limitItems, List.append_nil]
  intro c hc
  rcases List.mem_append.mp hc with hc | hc
  · exact hc
  rcases List.mem_append.mp hc with hc | hc
  · exact columnNames_whereItems m hw c hc
  · exact hitems c hc

theorem columnsOf_onTable {p whereSql : Text} {l : List Item} (hp : p.all isPlain = true)
    (hl : plainItems [] p = (l ++ [keyword "FROM"], [])) (hno : ∀ n, .name n ∉ l)
    (hw : Condition m whereSql) :
    ∀ c ∈ columnsOf (p ++ d.quoteIdentifier m.tableName ++ whereClause whereSql),
      c ∈ m.fields.map (·.columnName) := by
  obtain ⟨hreads, hbound⟩ := reads_whereClause hw.reads
  rw [columnsOf, (reads_onTable d m hp hl hreads hbound).read_eq, List.append_assoc,
    columnNames_append (by simp [keyword]), columnNames_no_name hno,
    columnNames_relation (by decide)]
  exact columnNames_whereItems m hw

theorem columnsOf_createIndex (index : TOrmIndex) :
    columnsOf (buildCreateIndexSql d m index) = index.fields.map (·.columnName) := by
  have hstart (prev : Option Text) : columnNames prev
      ([keyword "INDEX", keyword "IF", keyword "NOT", keyword "EXISTS"] ++ ([.name index.name] ++
        ([keyword "ON"] ++ ([.name m.tableName] ++ ([.symbol '('] ++
          (fieldNames index.fields ++ [.symbol ')'])))))) = index.fields.map (·.columnName) := by
    rw [columnNames_keywords, columnNames_keywords, columnNames_keywords,
      columnNames_relation (by decide), columnNames_relation (by decide), columnNames_symbol,
      columnNames_append (by simp), columnNames_fieldNames _ rfl]
    simp [columnNames]
  rw [columnsOf, (reads_createIndex d m index).read_eq, indexItems]
  split_ifs
  · rw [columnNames_keywords, columnNames_keyword, hstart]
  · rw [columnNames_keyword, hstart]

theorem mem_returningColumns {c : Text} : c ∈ returningColumns d m ↔ d = .postgres ∧
    ∃ primaryKey, m.primaryKey = some primaryKey ∧ primaryKey.isAuto = true ∧
      primaryKey.name = c := by
  cases d with
  | sqlite => simp [returningColumns]
  | postgres =>
    cases hpk : m.primaryKey with
    | none => simp [returningColumns, hpk]
    | some primaryKey =>
      cases hauto : primaryKey.isAuto with
      | false => simp [returningColumns, hpk, hauto]
      | true =>
        simp only [returningColumns, hpk, hauto, if_true, List.mem_singleton, Option.some.injEq,
          true_and, exists_eq_left']
        exact eq_comm

section Models

variable {hashCode : Text → UInt32} {registry : Option (TOrmRegistry hashCode)}
  {namingStyle : EOrmNamingStyle} {typeId : TClassId}
  {out : TOrmModel × Option (TOrmRegistry hashCode)}

theorem key_of_declared {sameName : Text → Text → Bool} {primaryKey : TOrmField}
    (hall : ColumnsDeclared w d m sameName) (hpk : m.primaryKey = some primaryKey) :
    (d = .postgres → primaryKey.isAuto = true → primaryKey.name ∈ m.fields.map (·.columnName)) ∧
      ∃ fld ∈ m.fields, nameOf w primaryKey.columnName = some fld.columnName := by
  refine ⟨?_, ?_⟩
  · rintro rfl hauto
    have hreturned : primaryKey.name ∈ columnsOf (buildInsertSql .postgres m) := by
      rw [columnsOf_insert]
      exact List.mem_append_right _
        ((mem_returningColumns .postgres m).mpr ⟨rfl, primaryKey, hpk, hauto, rfl⟩)
    obtain ⟨fld, hfld, heq⟩ := hall _ _ .insert _ (List.mem_map_of_mem hreturned)
    rw [Option.some.inj heq]
    exact List.mem_map_of_mem hfld
  · obtain ⟨fld, hfld, heq⟩ := hall _ _ (.existsById hpk) _ List.mem_cons_self
    exact ⟨fld, hfld, by rw [← keyRead_eq, heq]⟩

/-- Besides the key that PostgreSQL returns and the one of `ExistsById`, every statement names the
columns of fields. -/
theorem declared_of_keys {flds : List TField} (hm : Built namingStyle typeId flds m)
    {sameName : Text → Text → Bool} (hkeys : ∀ primaryKey, m.primaryKey = some primaryKey →
      (d = .postgres → primaryKey.isAuto = true → primaryKey.name ∈ m.fields.map (·.columnName)) ∧
      ∃ fld ∈ m.fields, nameOf w primaryKey.columnName = some fld.columnName) :
    ColumnsDeclared w d m sameName := by
  intro sql columns hsql
  have hkey {primaryKey : TOrmField} (hpk : m.primaryKey = some primaryKey) :
      primaryKey.columnName ∈ m.fields.map (·.columnName) :=
    List.mem_map_of_mem (hm.mem_of_primaryKey hpk).1
  have hkept (keep : TOrmField → Bool) : ∀ c ∈ (m.fields.filter keep).map (·.columnName),
      c ∈ m.fields.map (·.columnName) :=
    fun c hc => List.map_subset _ (List.filter_subset_self _) hc
  cases hsql with
  | createIndex hindex =>
    refine quotedColumns_declared m ?_
    rw [columnsOf_createIndex]
    exact List.map_subset _ (hm.indexed.fields_mem _ hindex)
  | insert =>
    refine quotedColumns_declared m ?_
    rw [columnsOf_insert]
    intro c hc
    rcases List.mem_append.mp hc with hc | hc
    · exact hkept _ c hc
    · obtain ⟨hd, primaryKey, hpk, hauto, rfl⟩ := (mem_returningColumns d _).mp hc
      exact (hkeys primaryKey hpk).1 hd hauto
  | update hpk =>
    refine quotedColumns_declared m ?_
    rw [columnsOf_update]
    intro c hc
    rcases List.mem_append.mp hc with hc | hc
    · exact hkept _ c hc
    · rw [List.mem_singleton.mp hc]
      exact hkey hpk
  | delete hpk =>
    refine quotedColumns_declared m ?_
    rw [columnsOf_delete]
    simpa using hkey hpk
  | findById hsql =>
    refine quotedColumns_declared m ?_
    obtain ⟨primaryKey, hpk, hcols⟩ := columnsOf_findById d m hsql
    rw [hcols]
    intro c hc
    rcases List.mem_append.mp hc with hc | hc
    · exact hc
    · rw [List.mem_singleton.mp hc]
      exact hkey hpk
  | existsById hpk =>
    intro c hc
    rw [List.mem_singleton.mp hc, keyRead_eq]
    exact (hkeys _ hpk).2
  | findWhere hw hsql =>
    exact quotedColumns_declared m (columnsOf_findWhere d m hw hsql)
  | countWhere hw =>
    exact quotedColumns_declared m (columnsOf_onTable d m
      (l := [keyword "SELECT", keyword "COUNT", .symbol '(', .symbol '*', .symbol ')'])
      (by decide) (by decide) (by simp [keyword]) hw)
  | existsWhere hw =>
    exact quotedColumns_declared m (columnsOf_onTable d m
      (l := [keyword "SELECT", keyword "1"]) (by decide) (by decide) (by simp [keyword]) hw)
  | removeWhere hw =>
    exact quotedColumns_declared m (columnsOf_onTable d m
      (l := [keyword "DELETE"]) (by decide) (by decide) (by simp [keyword]) hw)

/-- The `CREATE TABLE` of a built model declares the columns of its fields, and its other
statements name only these exactly if a PostgreSQL insert that returns a generated key returns
a name that is also a column name, and the column of the key is read as a declared one also
where it is not quoted. -/
theorem generated_columns_declared_iff (h : buildModel registry namingStyle typeId = .ok out)
    (sameName : Text → Text → Bool) :
    columnsOf (buildCreateTableSql d out.1) = out.1.fields.map (·.columnName) ∧
    (ColumnsDeclared w d out.1 sameName ↔ ∀ primaryKey, out.1.primaryKey = some primaryKey →
      (d = .postgres → primaryKey.isAuto = true →
        primaryKey.name ∈ out.1.fields.map (·.columnName)) ∧
      ∃ fld ∈ out.1.fields, nameOf w primaryKey.columnName = some fld.columnName) := by
  obtain ⟨style, hbuilt⟩ := buildModel_built h
  have hm := buildNewModel_built hbuilt
  exact ⟨columnsOf_createTable d out.1,
    fun hall primaryKey hpk => key_of_declared w d out.1 hall hpk, declared_of_keys w d out.1 hm⟩

/-- A class with a renamed generated key. -/
def userType : TClassId where
  name := "User".toList
  metadata := []
  enumFields := [⟨"userId".toList, .longTypeId, [("pk", ['1']), ("auto", ['1'])]⟩,
    ⟨"email".toList, .stringTypeId, []⟩]

/-- The insert for that class returns `userId`; the table declares `user_id` and `email`. -/
theorem insert_returns_undeclared_column :
    ∃ out, buildModel (none : Option (TOrmRegistry fun _ => 0)) .lowerCaseUnderscore userType =
        .ok out ∧
      ∀ w, ∃ sql columns, Generated w .postgres out.1 (fun a b => a = b) sql columns ∧
        ∃ c, some c ∈ columns ∧ c ∉ out.1.fields.map (·.columnName) ∧
          c ∉ columnsOf (buildCreateTableSql .postgres out.1) := by
  refine ⟨_, rfl, fun w => ⟨_, _, .insert, "userId".toList, List.mem_map_of_mem ?_, ?_, ?_⟩⟩ <;>
    decide +kernel

/-- On SQLite they are declared, where `user_id` is a name without quotes. -/
theorem generated_columns_declared_iff_user :
    ∃ out, buildModel (none : Option (TOrmRegistry fun _ => 0)) .lowerCaseUnderscore userType =
        .ok out ∧
      ∀ w, nameOf w "user_id".toList = some "user_id".toList →
        ColumnsDeclared w .sqlite out.1 fun a b => a = b := by
  obtain ⟨out, h, hkey⟩ : ∃ out, buildModel (none : Option (TOrmRegistry fun _ => 0))
      .lowerCaseUnderscore userType = .ok out ∧
        out.1.primaryKey.map (·.columnName) = some "user_id".toList := ⟨_, rfl, by decide +kernel⟩
  have hm := buildNewModel_built (buildModel_built h).choose_spec
  refine ⟨out, h, fun w hword =>
    (generated_columns_declared_iff w .sqlite h fun a b => a = b).2.mpr fun primaryKey hpk => ?_⟩
  rw [hpk] at hkey
  have hcolumn : primaryKey.columnName = "user_id".toList := Option.some.inj hkey
  exact ⟨nofun, primaryKey, (hm.mem_of_primaryKey hpk).1, by rw [hcolumn, hword]⟩

end Models

end DatabaseMod.OrmColumns
