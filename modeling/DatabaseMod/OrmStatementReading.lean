import DatabaseMod.OrmStatements
import DatabaseMod.SqlReading

/-!
# What the generated statements say

Each builder's text is read back into items, for every model and both dialects. Names
come back as the model has them, whatever characters they hold.
-/

namespace DatabaseMod.OrmStatementReading
open SqlTokens SqlReading LoopRules OrmModel OrmStatements

variable (d : TOrmDialect) (m : TOrmModel)

def keyword (w : String) : Item := .word w.toList

/-- The item of the `index`-th placeholder. -/
def placeholderItem : TOrmDialect → ℕ → Item
  | .sqlite, _ => .mark
  | .postgres, index => .word ('$' :: Nat.toDigits 10 index)

def commas : List (List Item) → List Item := separated [.symbol ',']

def fieldNames (flds : List TOrmField) : List Item :=
  commas (flds.mapIdx fun _ fld => [.name fld.columnName])

def insertFields : List TOrmField := m.fields.filter (!shouldSkipInsertField ·)

def updateFields : List TOrmField := m.fields.filter (!shouldSkipUpdateField ·)

theorem digits_word (n : ℕ) : (Nat.toDigits 10 n).all isWordChar = true := by
  rw [List.all_eq_true]
  intro c hc
  have hdigit := Nat.isDigit_of_mem_toDigits (by decide) (by decide) hc
  simp [isWordChar, Char.isAlphanum, hdigit]

theorem reads_digits (n : ℕ) : Reads (Nat.toDigits 10 n) [.word (Nat.toDigits 10 n)] :=
  reads_word (by simp) (digits_word n)

theorem reads_placeholder (index : ℕ) :
    Reads (d.placeholder index) [placeholderItem d index] := by
  cases d with
  | sqlite => exact reads_mark
  | postgres =>
    have hall : ('$' :: Nat.toDigits 10 index).all isWordChar = true := by
      rw [List.all_cons, digits_word]
      rfl
    exact reads_word (List.cons_ne_nil _ _) hall

theorem reads_elements {α : Type*} {l : List α} {text : ℕ → α → Text} {item : ℕ → α → List Item}
    (h : ∀ i x, Reads (text i x) (item i x)) :
    Reads (separated ", ".toList (l.mapIdx text)) (commas (l.mapIdx item)) := by
  refine reads_separated ?_
  rw [List.forall₂_iff_get]
  simp [h]

theorem reads_fieldNames (flds : List TOrmField) :
    Reads (separated ", ".toList
      (flds.mapIdx fun _ fld => d.quoteIdentifier fld.columnName)) (fieldNames flds) :=
  reads_elements fun _ fld => reads_quoted fld.columnName

theorem filter_keep_all {α : Type*} (l : List α) :
    l.filter (fun x => !(fun _ => false) x) = l := by simp

theorem mapIdx_eq_map {α β : Type*} (f : α → β) (l : List α) :
    l.mapIdx (fun _ x => f x) = l.map f := by simp [List.mapIdx_eq_iff]

def returningItems : List Item :=
  match d, m.primaryKey with
  | .postgres, some primaryKey =>
    if primaryKey.isAuto then [keyword "RETURNING", .name primaryKey.name] else []
  | _, _ => []

theorem reads_insertReturningClause :
    Reads (d.insertReturningClause m) (returningItems d m) ∧
      Boundary (d.insertReturningClause m) := by
  cases d with
  | sqlite => exact ⟨reads_nil, boundary_nil⟩
  | postgres =>
    cases hpk : m.primaryKey with
    | none =>
      simp only [TOrmDialect.insertReturningClause, returningItems, hpk]
      exact ⟨reads_nil, boundary_nil⟩
    | some primaryKey =>
      simp only [TOrmDialect.insertReturningClause, returningItems, hpk]
      split_ifs
      · exact ⟨Reads.literal (l := [keyword "RETURNING"]) (by decide) (by decide)
          (reads_quoted primaryKey.name),
          boundary_cons (by decide) _⟩
      · exact ⟨reads_nil, boundary_nil⟩

def insertItems : List Item :=
  [keyword "INSERT", keyword "INTO"] ++ ([.name m.tableName] ++ ([.symbol '('] ++
    (fieldNames (insertFields m) ++ ([.symbol ')', keyword "VALUES", .symbol '('] ++
      (commas ((List.range (insertFields m).length).mapIdx fun i _ => [placeholderItem d (i + 1)]) ++
        ([.symbol ')'] ++ returningItems d m))))))

theorem buildInsertSql_eq :
    buildInsertSql d m = "INSERT INTO ".toList ++ (quoted m.tableName ++
      (" (".toList ++ (separated ", ".toList ((insertFields m).mapIdx fun _ fld =>
        d.quoteIdentifier fld.columnName) ++ (") VALUES (".toList ++
        (separated ", ".toList ((List.range (insertFields m).length).mapIdx fun i _ =>
          d.placeholder (i + 1)) ++ (")".toList ++ d.insertReturningClause m)))))) := by
  simp only [buildInsertSql, appendLoop_eq, insertFields, TOrmDialect.quoteIdentifier,
    List.append_assoc, filter_keep_all]

theorem reads_insert : Reads (buildInsertSql d m) (insertItems d m) := by
  obtain ⟨hret, hbound⟩ := reads_insertReturningClause d m
  rw [buildInsertSql_eq]
  refine Reads.literal (by decide) (by decide) ((reads_quoted _).append ?_
    (boundary_cons (by decide) _))
  refine Reads.literal (by decide) (by decide) ((reads_fieldNames d _).append ?_
    (boundary_cons (by decide) _))
  refine Reads.literal (by decide) (by decide)
    ((reads_elements fun i _ => reads_placeholder d (i + 1)).append ?_ (boundary_cons (by decide) _))
  exact Reads.literal (by decide) (by decide) hret

def updateItems (primaryKey : TOrmField) : List Item :=
  [keyword "UPDATE"] ++ ([.name m.tableName] ++ ([keyword "SET"] ++
    (commas ((updateFields m).mapIdx fun i fld =>
        [.name fld.columnName, .symbol '=', placeholderItem d (i + 1)]) ++
      ([keyword "WHERE"] ++ ([.name primaryKey.columnName] ++ ([.symbol '='] ++
        [placeholderItem d ((updateFields m).length + 1)]))))))

theorem reads_assignment (index : ℕ) (fld : TOrmField) :
    Reads (quoted fld.columnName ++ (" = ".toList ++ d.placeholder index))
      [.name fld.columnName, .symbol '=', placeholderItem d index] :=
  (reads_quoted _).append
    (Reads.literal (l := [.symbol '=']) (by decide) (by decide) (reads_placeholder d index))
    (boundary_cons (by decide) _)

theorem buildUpdateSql_eq (primaryKey : TOrmField) :
    buildUpdateSql d m primaryKey = "UPDATE ".toList ++ (quoted m.tableName ++
      (" SET ".toList ++ (separated ", ".toList ((updateFields m).mapIdx fun i fld =>
        quoted fld.columnName ++ (" = ".toList ++ d.placeholder (i + 1))) ++
        (" WHERE ".toList ++ (quoted primaryKey.columnName ++ (" = ".toList ++
          d.placeholder ((updateFields m).length + 1))))))) := by
  simp only [buildUpdateSql, appendLoop_eq, updateFields, TOrmDialect.quoteIdentifier,
    List.append_assoc]

theorem reads_update (primaryKey : TOrmField) :
    Reads (buildUpdateSql d m primaryKey) (updateItems d m primaryKey) := by
  rw [buildUpdateSql_eq]
  refine Reads.literal (by decide) (by decide) ((reads_quoted _).append ?_
    (boundary_cons (by decide) _))
  refine Reads.literal (by decide) (by decide)
    ((reads_elements fun i fld => reads_assignment d (i + 1) fld).append ?_
      (boundary_cons (by decide) _))
  exact Reads.literal (by decide) (by decide) (reads_assignment d _ primaryKey)

def deleteItems (primaryKey : TOrmField) : List Item :=
  [keyword "DELETE", keyword "FROM"] ++ ([.name m.tableName] ++ ([keyword "WHERE"] ++
    [.name primaryKey.columnName, .symbol '=', placeholderItem d 1]))

theorem reads_delete (primaryKey : TOrmField) :
    Reads (buildDeleteSql d m primaryKey) (deleteItems d m primaryKey) := by
  unfold buildDeleteSql TOrmDialect.quoteIdentifier
  simp only [List.append_assoc]
  refine Reads.literal (by decide) (by decide) ((reads_quoted _).append ?_
    (boundary_cons (by decide) _))
  exact Reads.literal (by decide) (by decide) (reads_assignment d 1 primaryKey)

def selectItems : List Item :=
  [keyword "SELECT"] ++ (fieldNames m.fields ++ ([keyword "FROM"] ++ [.name m.tableName]))

theorem buildSelectColumnList_eq :
    buildSelectColumnList d m = separated ", ".toList
      (m.fields.mapIdx fun _ fld => d.quoteIdentifier fld.columnName) := by
  simp only [buildSelectColumnList, appendLoop_eq, filter_keep_all, List.nil_append]

/-- The shared beginning of the statements that read whole rows. -/
theorem reads_select {t : Text} {l : List Item} (ht : Reads t l) (hb : Boundary t) :
    Reads ("SELECT ".toList ++ buildSelectColumnList d m ++ " FROM ".toList ++
      d.quoteIdentifier m.tableName ++ t) (selectItems m ++ l) := by
  simp only [buildSelectColumnList_eq, selectItems, List.append_assoc]
  refine Reads.literal (by decide) (by decide) ((reads_fieldNames d _).append ?_
    (boundary_cons (by decide) _))
  exact Reads.literal (by decide) (by decide) ((reads_quoted _).append ht hb)

def findByIdItems (primaryKey : TOrmField) : List Item :=
  selectItems m ++ ([keyword "WHERE"] ++
    [.name primaryKey.columnName, .symbol '=', placeholderItem d 1])

theorem reads_findById {primaryKey : TOrmField} (hpk : m.primaryKey = some primaryKey) :
    ∃ sql, buildFindByIdSql d m = .ok sql ∧ Reads sql (findByIdItems d m primaryKey) := by
  refine ⟨_, by rw [buildFindByIdSql, hpk], ?_⟩
  have h := reads_select d m (Reads.literal (p := " WHERE ".toList) (l := [keyword "WHERE"])
    (by decide) (by decide) (reads_assignment d 1 primaryKey)) (boundary_cons (by decide) _)
  simpa only [findByIdItems, TOrmDialect.quoteIdentifier, List.append_assoc] using h

/-! ### Order, limit and where -/

/-- A column of an order and its direction. -/
def orderItem (item : TOrmField × Bool) : List Item :=
  [.name item.1.columnName, if item.2 then keyword "ASC" else keyword "DESC"]

theorem orderItemSql_ok {sameName : Text → Text → Bool} {item : TOrmOrderItem} {sql : Text}
    (h : orderItemSql d m sameName item = .ok sql) :
    ∃ fld ∈ m.fields, Reads sql (orderItem (fld, item.ascending)) := by
  unfold orderItemSql TOrmModel.fieldByName at h
  cases hfind : m.fields.find? fun fld =>
      sameName fld.name item.fieldName || sameName fld.columnName item.fieldName with
  | none => simp [hfind] at h
  | some fld =>
    simp only [hfind, Except.ok.injEq] at h
    subst h
    refine ⟨fld, List.mem_of_find?_eq_some hfind, (reads_quoted _).append ?_ ?_⟩
    · dsimp only
      split_ifs
      · exact reads_plain (by decide) (by decide +kernel)
      · exact reads_plain (by decide) (by decide +kernel)
    · split_ifs <;> exact boundary_cons (by decide) _

theorem orderItems_ok {sameName : Text → Text → Bool} {order : List TOrmOrderItem}
    {sqls : List Text}
    (h : List.Forall₂ (fun item sql => orderItemSql d m sameName item = .ok sql) order sqls) :
    ∃ items : List (TOrmField × Bool), (∀ item ∈ items, item.1 ∈ m.fields) ∧
      List.Forall₂ Reads sqls (items.map orderItem) := by
  induction h with
  | nil => exact ⟨[], by simp, .nil⟩
  | @cons item sql order sqls hitem _ ih =>
    obtain ⟨fld, hfld, hreads⟩ := orderItemSql_ok d m hitem
    obtain ⟨items, hmem, hitems⟩ := ih
    exact ⟨(fld, item.ascending) :: items, by simpa [hfld] using hmem, .cons hreads hitems⟩

def orderByItems : List (TOrmField × Bool) → List Item
  | [] => []
  | items => [keyword "ORDER"] ++ ([keyword "BY"] ++ commas (items.map orderItem))

/-- An order clause names fields of the model; without an order it is empty. -/
theorem reads_orderBy {sameName : Text → Text → Bool} {order : List TOrmOrderItem} {sql : Text}
    (h : buildOrderBySql d m sameName order = .ok sql) :
    Boundary sql ∧ ∃ items : List (TOrmField × Bool), (∀ item ∈ items, item.1 ∈ m.fields) ∧
      Reads sql (orderByItems items) := by
  unfold buildOrderBySql at h
  cases order with
  | nil =>
    cases h
    exact ⟨boundary_nil, [], by simp, reads_nil⟩
  | cons item order =>
    rw [if_neg (by simp)] at h
    obtain ⟨sqls, hsqls, h⟩ := bind_eq_ok.mp h
    obtain ⟨items, hmem, hreads⟩ := orderItems_ok d m (mapM_forall₂ hsqls)
    simp only [appendLoop_eq, filter_keep_all, Except.ok.injEq] at h
    rw [mapIdx_eq_map, List.map_id'] at h
    subst h
    refine ⟨boundary_cons (by decide) _, items, hmem, ?_⟩
    cases mapM_forall₂ hsqls with
    | cons _ _ =>
      cases items with
      | nil => cases hreads
      | cons first items =>
        exact Reads.literal (l := [keyword "ORDER", keyword "BY"]) (by decide) (by decide)
          (reads_separated hreads)

def limitItems (limit offset : ℤ) : List Item :=
  if limit > 0 then
    [keyword "LIMIT"] ++ ([.word (Nat.toDigits 10 limit.toNat)] ++
      if offset > 0 then [keyword "OFFSET"] ++ [.word (Nat.toDigits 10 offset.toNat)] else [])
  else []

theorem reads_limitClause (limit offset : ℤ) :
    Reads (limitClause limit offset) (limitItems limit offset) ∧
      Boundary (limitClause limit offset) := by
  unfold limitClause limitItems
  split_ifs with hlimit hoffset
  · rw [List.append_assoc]
    refine ⟨Reads.literal (by decide) (by decide) ((reads_digits _).append ?_
      (boundary_cons (by decide) _)), boundary_cons (by decide) _⟩
    exact Reads.literal (by decide) (by decide) (reads_digits _)
  · rw [List.append_nil, List.append_nil]
    exact ⟨Reads.literal (by decide) (by decide) (reads_digits _), boundary_cons (by decide) _⟩
  · exact ⟨reads_nil, boundary_nil⟩

def whereItems (whereSql : Text) : List Item :=
  if whereSql ≠ [] ∧ trim whereSql ≠ [] then [keyword "WHERE"] ++ read whereSql else []

/-- A condition is the caller's text; here it reads by itself, its quotes are closed. -/
theorem reads_whereClause {whereSql : Text} (hw : Reads whereSql (read whereSql)) :
    Reads (whereClause whereSql) (whereItems whereSql) ∧ Boundary (whereClause whereSql) :=
  ⟨reads_if (Reads.literal (by decide) (by decide) hw),
    boundary_if (boundary_cons (by decide) _)⟩

theorem buildOrderBySql_of_orderClause {sameName : Text → Text → Bool}
    {order : List TOrmOrderItem} {sql : Text} (h : orderClause d m sameName order = .ok sql) :
    buildOrderBySql d m sameName order = .ok sql := by
  unfold orderClause at h
  split_ifs at h with hlen
  · exact h
  · rwa [buildOrderBySql, if_pos (by omega)]

theorem reads_findWhere {sameName : Text → Text → Bool} {whereSql : Text}
    {order : List TOrmOrderItem} {limit offset : ℤ} {sql : Text}
    (hw : Reads whereSql (read whereSql))
    (h : buildFindWhereSql d m sameName whereSql order limit offset = .ok sql) :
    ∃ items : List (TOrmField × Bool), (∀ item ∈ items, item.1 ∈ m.fields) ∧
      Reads sql (selectItems m ++
        (whereItems whereSql ++ (orderByItems items ++ limitItems limit offset))) := by
  obtain ⟨orderSql, horder, h⟩ := bind_eq_ok.mp h
  obtain ⟨horderBound, items, hmem, hreads⟩ :=
    reads_orderBy d m (buildOrderBySql_of_orderClause d m horder)
  obtain ⟨hlimit, hlimitBound⟩ := reads_limitClause limit offset
  obtain ⟨hwhere, hwhereBound⟩ := reads_whereClause hw
  refine ⟨items, hmem, ?_⟩
  have hselect := reads_select d m
    (hwhere.append (hreads.append hlimit hlimitBound) (horderBound.append hlimitBound))
    (hwhereBound.append (horderBound.append hlimitBound))
  rw [Except.ok.injEq] at h
  subst h
  simpa only [List.append_assoc] using hselect

/-- The statements that take a condition and return no row of fields. -/
theorem reads_onTable {p t : Text} {l l' : List Item} (hp : p.all isPlain = true)
    (hl : plainItems [] p = (l, [])) (ht : Reads t l') (hb : Boundary t) :
    Reads (p ++ d.quoteIdentifier m.tableName ++ t) (l ++ ([.name m.tableName] ++ l')) := by
  rw [List.append_assoc]
  exact Reads.literal hp hl ((reads_quoted _).append ht hb)

/-! ### Table and index definitions -/

def indexItems (index : TOrmIndex) : List Item :=
  (if index.isUnique then [keyword "CREATE", keyword "UNIQUE"] else [keyword "CREATE"]) ++
    ([keyword "INDEX", keyword "IF", keyword "NOT", keyword "EXISTS"] ++ ([.name index.name] ++
      ([keyword "ON"] ++ ([.name m.tableName] ++ ([.symbol '('] ++
        (fieldNames index.fields ++ [.symbol ')']))))))

theorem buildCreateIndexSql_eq (index : TOrmIndex) :
    buildCreateIndexSql d m index =
      (if index.isUnique then "CREATE ".toList ++ "UNIQUE ".toList else "CREATE ".toList) ++
        ("INDEX IF NOT EXISTS ".toList ++ (quoted index.name ++ (" ON ".toList ++
          (quoted m.tableName ++ (" (".toList ++ (separated ", ".toList
            (index.fields.mapIdx fun _ fld => d.quoteIdentifier fld.columnName) ++
              ")".toList)))))) := by
  simp only [buildCreateIndexSql, appendLoop_eq, filter_keep_all, TOrmDialect.quoteIdentifier,
    List.append_assoc]

theorem reads_createIndex (index : TOrmIndex) :
    Reads (buildCreateIndexSql d m index) (indexItems m index) := by
  have hrest : Reads ("INDEX IF NOT EXISTS ".toList ++ (quoted index.name ++ (" ON ".toList ++
      (quoted m.tableName ++ (" (".toList ++ (separated ", ".toList
        (index.fields.mapIdx fun _ fld => d.quoteIdentifier fld.columnName) ++ ")".toList))))))
      ([keyword "INDEX", keyword "IF", keyword "NOT", keyword "EXISTS"] ++ ([.name index.name] ++
        ([keyword "ON"] ++ ([.name m.tableName] ++ ([.symbol '('] ++
          (fieldNames index.fields ++ [.symbol ')'])))))) := by
    refine Reads.literal (by decide) (by decide) ((reads_quoted _).append ?_
      (boundary_cons (by decide) _))
    refine Reads.literal (by decide) (by decide) ((reads_quoted _).append ?_
      (boundary_cons (by decide) _))
    refine Reads.literal (by decide) (by decide) ((reads_fieldNames d _).append ?_
      (boundary_cons (by decide) _))
    exact reads_plain (by decide) (by decide +kernel)
  rw [buildCreateIndexSql_eq, indexItems]
  split_ifs
  · exact Reads.literal (by decide) (by decide) hrest
  · exact Reads.literal (by decide) (by decide) hrest

/-- The column types of the dialects. -/
def typeNames : List Text :=
  ["TEXT", "INTEGER", "REAL", "JSONB", "BOOLEAN", "SMALLINT", "BIGINT", "DECIMAL(20,0)",
    "DOUBLE PRECISION"].map String.toList

theorem sqlTypeForField_mem (fld : TOrmField) : d.sqlTypeForField fld ∈ typeNames := by
  cases d with
  | sqlite =>
    change TOrmDialect.sqliteTypeForField fld ∈ typeNames
    unfold TOrmDialect.sqliteTypeForField
    split_ifs
    · decide
    · decide
    · decide
    · split <;> decide
  | postgres =>
    change TOrmDialect.postgresTypeForField fld ∈ typeNames
    unfold TOrmDialect.postgresTypeForField
    split_ifs
    · decide
    · decide
    · decide
    · split <;> decide

/-- A column definition behind its name. -/
def columnTail (fld : TOrmField) : Text :=
  if fld.isPrimaryKey ∧ fld.isAuto then d.autoGeneratedPrimaryKeyType fld
  else d.sqlTypeForField fld ++ ((if fld.isPrimaryKey then " PRIMARY KEY".toList else []) ++
    ((if ¬ fld.nullable ∧ ¬ fld.isPrimaryKey then " NOT NULL".toList else []) ++
      (if fld.isUnique then " UNIQUE".toList else [])))

theorem columnDefinition_eq (fld : TOrmField) :
    columnDefinition d fld = quoted fld.columnName ++ (" ".toList ++ columnTail d fld) := by
  unfold columnDefinition columnTail TOrmDialect.quoteIdentifier
  split_ifs <;> simp only [List.append_assoc, List.append_nil, List.nil_append]

/-- The items of a column definition behind its name. -/
def definitionTail (fld : TOrmField) : List Item :=
  if fld.isPrimaryKey ∧ fld.isAuto then read (d.autoGeneratedPrimaryKeyType fld)
  else read (d.sqlTypeForField fld) ++
    ((if fld.isPrimaryKey then [keyword "PRIMARY", keyword "KEY"] else []) ++
      ((if ¬ fld.nullable ∧ ¬ fld.isPrimaryKey then [keyword "NOT", keyword "NULL"] else []) ++
        (if fld.isUnique then [keyword "UNIQUE"] else [])))

theorem reads_columnDefinition (fld : TOrmField) :
    Reads (columnDefinition d fld) (.name fld.columnName :: definitionTail d fld) := by
  have hauto : Reads (d.autoGeneratedPrimaryKeyType fld)
      (read (d.autoGeneratedPrimaryKeyType fld)) := by
    cases d with
    | sqlite => exact reads_plain (p := "INTEGER PRIMARY KEY AUTOINCREMENT".toList) (by decide) rfl
    | postgres =>
      exact reads_plain (p := "BIGINT GENERATED BY DEFAULT AS IDENTITY PRIMARY KEY".toList)
        (by decide) rfl
  have htype : Reads (d.sqlTypeForField fld) (read (d.sqlTypeForField fld)) := by
    have hplain : ∀ t ∈ typeNames, t.all isPlain = true := by decide
    exact reads_plain (hplain _ (sqlTypeForField_mem d fld)) rfl
  have hkey : Reads " PRIMARY KEY".toList [keyword "PRIMARY", keyword "KEY"] :=
    reads_plain (by decide) (by decide +kernel)
  have hnotNull : Reads " NOT NULL".toList [keyword "NOT", keyword "NULL"] :=
    reads_plain (by decide) (by decide +kernel)
  have hunique : Reads " UNIQUE".toList [keyword "UNIQUE"] :=
    reads_plain (by decide) (by decide +kernel)
  have htail : Reads (columnTail d fld) (definitionTail d fld) := by
    unfold columnTail definitionTail
    by_cases hpk : fld.isPrimaryKey ∧ fld.isAuto
    · rwa [if_pos hpk, if_pos hpk]
    · rw [if_neg hpk, if_neg hpk]
      have huniqueBound : Boundary (if fld.isUnique then " UNIQUE".toList else []) :=
        boundary_if (boundary_cons (by decide) _)
      have hflagsBound : Boundary
          ((if ¬ fld.nullable ∧ ¬ fld.isPrimaryKey then " NOT NULL".toList else []) ++
            (if fld.isUnique then " UNIQUE".toList else [])) :=
        (boundary_if (boundary_cons (by decide) _)).append huniqueBound
      refine htype.append ((reads_if hkey).append
        ((reads_if hnotNull).append (reads_if hunique) huniqueBound) hflagsBound) ?_
      exact (boundary_if (boundary_cons (by decide) _)).append hflagsBound
  rw [columnDefinition_eq]
  exact (reads_quoted _).append (Reads.literal (l := []) (by decide) (by decide) htail)
    (boundary_cons (by decide) _)

def createTableItems : List Item :=
  [keyword "CREATE", keyword "TABLE", keyword "IF", keyword "NOT", keyword "EXISTS"] ++
    ([.name m.tableName] ++ ([.symbol '('] ++
      (commas (m.fields.mapIdx fun _ fld => .name fld.columnName :: definitionTail d fld) ++
        [.symbol ')'])))

theorem buildCreateTableSql_eq :
    buildCreateTableSql d m = "CREATE TABLE IF NOT EXISTS ".toList ++
      (quoted m.tableName ++ (" (".toList ++ (separated ", ".toList
        (m.fields.mapIdx fun _ fld => columnDefinition d fld) ++ ")".toList))) := by
  simp only [buildCreateTableSql, appendLoop_eq, filter_keep_all, TOrmDialect.quoteIdentifier,
    List.append_assoc]

theorem reads_createTable : Reads (buildCreateTableSql d m) (createTableItems d m) := by
  rw [buildCreateTableSql_eq]
  refine Reads.literal (by decide) (by decide) ((reads_quoted _).append ?_
    (boundary_cons (by decide) _))
  refine Reads.literal (by decide) (by decide)
    ((reads_elements fun _ fld => reads_columnDefinition d fld).append ?_
      (boundary_cons (by decide) _))
  exact reads_plain (by decide) (by decide +kernel)

end DatabaseMod.OrmStatementReading
