import DatabaseMod.OrmStatementReading
import DatabaseMod.SqlPieces

/-!
# Names in the generated statements

Each builder's text is the text of its pieces, for every model and both dialects. The names
of a model are the decoded identifiers of its statements, and what is outside of them is the
same for all names.
-/

namespace DatabaseMod.OrmQuoting
open SqlTokens SqlReading SqlPieces LoopRules OrmModel OrmStatements OrmStatementReading

variable (d : TOrmDialect) (m : TOrmModel)

/-! ### The pieces of each statement -/

def placeholderPiece : TOrmDialect → ℕ → Piece
  | .sqlite, _ => .mark
  | .postgres, index => .plain ('$' :: Nat.toDigits 10 index)

def commaPieces : List (List Piece) → List Piece := separated [.plain ", ".toList]

def columnPieces (flds : List TOrmField) : List Piece :=
  commaPieces (flds.mapIdx fun _ fld => [.name fld.columnName])

def assignmentPieces (index : ℕ) (fld : TOrmField) : List Piece :=
  [.name fld.columnName, .plain " = ".toList, placeholderPiece d index]

def createTablePieces : List Piece :=
  .plain "CREATE TABLE IF NOT EXISTS ".toList :: ([.name m.tableName] ++
    (.plain " (".toList :: (commaPieces (m.fields.mapIdx fun _ fld =>
      [.name fld.columnName, .plain " ".toList, .plain (columnTail d fld)]) ++
        [.plain ")".toList])))

def createPieces (isUnique : Bool) : List Piece :=
  .plain "CREATE ".toList :: if isUnique then [.plain "UNIQUE ".toList] else []

def createIndexPieces (index : TOrmIndex) : List Piece :=
  createPieces index.isUnique ++ (.plain "INDEX IF NOT EXISTS ".toList :: ([.name index.name] ++
    (.plain " ON ".toList :: ([.name m.tableName] ++ (.plain " (".toList ::
      (columnPieces index.fields ++ [.plain ")".toList]))))))

def returningPieces : List Piece :=
  match d, m.primaryKey with
  | .postgres, some primaryKey =>
    if primaryKey.isAuto then [.plain " RETURNING ".toList, .name primaryKey.name] else []
  | _, _ => []

def insertPieces : List Piece :=
  .plain "INSERT INTO ".toList :: ([.name m.tableName] ++ (.plain " (".toList ::
    (columnPieces (insertFields m) ++ (.plain ") VALUES (".toList ::
      (commaPieces ((List.range (insertFields m).length).mapIdx fun i _ =>
        [placeholderPiece d (i + 1)]) ++ (.plain ")".toList :: returningPieces d m))))))

def updatePieces (primaryKey : TOrmField) : List Piece :=
  .plain "UPDATE ".toList :: ([.name m.tableName] ++ (.plain " SET ".toList ::
    (commaPieces ((updateFields m).mapIdx fun i fld => assignmentPieces d (i + 1) fld) ++
      (.plain " WHERE ".toList :: assignmentPieces d ((updateFields m).length + 1) primaryKey))))

def deletePieces (primaryKey : TOrmField) : List Piece :=
  .plain "DELETE FROM ".toList :: ([.name m.tableName] ++
    (.plain " WHERE ".toList :: assignmentPieces d 1 primaryKey))

def findByIdPieces (primaryKey : TOrmField) : List Piece :=
  .plain "SELECT ".toList :: (columnPieces m.fields ++ (.plain " FROM ".toList ::
    ([.name m.tableName] ++ (.plain " WHERE ".toList :: assignmentPieces d 1 primaryKey))))

def orderItemPieces (item : Text × Bool) : List Piece :=
  [.name item.1, .plain (if item.2 then " ASC".toList else " DESC".toList)]

def returningNames : List Text :=
  match d, m.primaryKey with
  | .postgres, some primaryKey => if primaryKey.isAuto then [primaryKey.name] else []
  | _, _ => []

/-- An order of columns with their directions. -/
def orderPieces : List (Text × Bool) → List Piece
  | [] => []
  | items => .plain " ORDER BY ".toList :: commaPieces (items.map orderItemPieces)

/-! ### The texts stand for their pieces -/

theorem lexes_placeholder (index : ℕ) :
    Lexes (d.placeholder index) [placeholderPiece d index] := by
  cases d with
  | sqlite => exact lexes_mark
  | postgres =>
    refine lexes_plain (List.all_eq_true.mpr fun c hc => isPlain_of_isWordChar ?_)
    rcases List.mem_cons.mp hc with rfl | hc
    · rfl
    · exact List.all_eq_true.mp (digits_word index) c hc

theorem lexes_elements {α : Type*} {l : List α} {text : ℕ → α → Text}
    {pieces : ℕ → α → List Piece} (h : ∀ i x, Lexes (text i x) (pieces i x)) :
    Lexes (separated ", ".toList (l.mapIdx text)) (commaPieces (l.mapIdx pieces)) := by
  refine lexes_separated (by decide) (fun s => boundary_cons (by decide) _) ?_
  rw [List.forall₂_iff_get]
  simp [h]

theorem lexes_columns (flds : List TOrmField) :
    Lexes (separated ", ".toList
      (flds.mapIdx fun _ fld => d.quoteIdentifier fld.columnName)) (columnPieces flds) :=
  lexes_elements fun _ fld => lexes_name fld.columnName

theorem lexes_assignment (index : ℕ) (fld : TOrmField) :
    Lexes (quoted fld.columnName ++ (" = ".toList ++ d.placeholder index))
      (assignmentPieces d index fld) :=
  (lexes_name _).append (Lexes.behind (by decide) (lexes_placeholder d index))
    (boundary_cons (by decide) _)

theorem columnTail_plain (fld : TOrmField) : (columnTail d fld).all isPlain = true := by
  have htypes : ∀ t ∈ typeNames, t.all isPlain = true := by decide
  have hauto : (d.autoGeneratedPrimaryKeyType fld).all isPlain = true := by
    cases d with
    | sqlite => exact (by decide : "INTEGER PRIMARY KEY AUTOINCREMENT".toList.all isPlain = true)
    | postgres =>
      exact (by decide :
        "BIGINT GENERATED BY DEFAULT AS IDENTITY PRIMARY KEY".toList.all isPlain = true)
  unfold columnTail
  split_ifs
  · exact hauto
  all_goals
    simp only [List.all_append, Bool.and_eq_true]
    exact ⟨htypes _ (sqlTypeForField_mem d fld), by decide, by decide, by decide⟩

theorem lexes_columnDefinition (fld : TOrmField) :
    Lexes (columnDefinition d fld)
      [.name fld.columnName, .plain " ".toList, .plain (columnTail d fld)] := by
  rw [columnDefinition_eq]
  exact (lexes_name _).append (Lexes.behind (by decide) (lexes_plain (columnTail_plain d fld)))
    (boundary_cons (by decide) _)

theorem lexes_createTable : Lexes (buildCreateTableSql d m) (createTablePieces d m) := by
  rw [buildCreateTableSql_eq]
  refine Lexes.behind (by decide) ((lexes_name _).append ?_ (boundary_cons (by decide) _))
  refine Lexes.behind (by decide)
    ((lexes_elements fun _ fld => lexes_columnDefinition d fld).append ?_
      (boundary_cons (by decide) _))
  exact lexes_plain (by decide)

theorem lexes_createIndex (index : TOrmIndex) :
    Lexes (buildCreateIndexSql d m index) (createIndexPieces m index) := by
  rw [buildCreateIndexSql_eq, createIndexPieces]
  have hrest : Lexes ("INDEX IF NOT EXISTS ".toList ++ (quoted index.name ++ (" ON ".toList ++
      (quoted m.tableName ++ (" (".toList ++ (separated ", ".toList
        (index.fields.mapIdx fun _ fld => d.quoteIdentifier fld.columnName) ++ ")".toList))))))
      (.plain "INDEX IF NOT EXISTS ".toList :: ([.name index.name] ++
        (.plain " ON ".toList :: ([.name m.tableName] ++ (.plain " (".toList ::
          (columnPieces index.fields ++ [.plain ")".toList])))))) := by
    refine Lexes.behind (by decide) ((lexes_name _).append ?_ (boundary_cons (by decide) _))
    refine Lexes.behind (by decide) ((lexes_name _).append ?_ (boundary_cons (by decide) _))
    refine Lexes.behind (by decide) ((lexes_columns d _).append ?_ (boundary_cons (by decide) _))
    exact lexes_plain (by decide)
  cases index.isUnique with
  | false => exact Lexes.behind (by decide) hrest
  | true =>
    rw [if_pos rfl, List.append_assoc]
    exact Lexes.behind (by decide) (Lexes.behind (by decide) hrest)

theorem lexes_insertReturningClause :
    Lexes (d.insertReturningClause m) (returningPieces d m) ∧
      Boundary (d.insertReturningClause m) := by
  refine ⟨?_, (reads_insertReturningClause d m).2⟩
  cases d with
  | sqlite => exact lexes_nil
  | postgres =>
    cases hpk : m.primaryKey with
    | none =>
      simp only [TOrmDialect.insertReturningClause, returningPieces, hpk]
      exact lexes_nil
    | some primaryKey =>
      simp only [TOrmDialect.insertReturningClause, returningPieces, hpk]
      split_ifs
      · exact Lexes.behind (by decide) (lexes_name primaryKey.name)
      · exact lexes_nil

theorem lexes_insert : Lexes (buildInsertSql d m) (insertPieces d m) := by
  obtain ⟨hret, hbound⟩ := lexes_insertReturningClause d m
  rw [buildInsertSql_eq]
  refine Lexes.behind (by decide) ((lexes_name _).append ?_ (boundary_cons (by decide) _))
  refine Lexes.behind (by decide) ((lexes_columns d _).append ?_ (boundary_cons (by decide) _))
  refine Lexes.behind (by decide)
    ((lexes_elements fun i _ => lexes_placeholder d (i + 1)).append ?_ (boundary_cons (by decide) _))
  exact Lexes.behind (by decide) hret

theorem lexes_update (primaryKey : TOrmField) :
    Lexes (buildUpdateSql d m primaryKey) (updatePieces d m primaryKey) := by
  rw [buildUpdateSql_eq]
  refine Lexes.behind (by decide) ((lexes_name _).append ?_ (boundary_cons (by decide) _))
  refine Lexes.behind (by decide)
    ((lexes_elements fun i fld => lexes_assignment d (i + 1) fld).append ?_
      (boundary_cons (by decide) _))
  exact Lexes.behind (by decide) (lexes_assignment d _ primaryKey)

theorem lexes_delete (primaryKey : TOrmField) :
    Lexes (buildDeleteSql d m primaryKey) (deletePieces d m primaryKey) := by
  unfold buildDeleteSql TOrmDialect.quoteIdentifier
  simp only [List.append_assoc]
  refine Lexes.behind (by decide) ((lexes_name _).append ?_ (boundary_cons (by decide) _))
  exact Lexes.behind (by decide) (lexes_assignment d 1 primaryKey)

theorem lexes_findById {primaryKey : TOrmField} (hpk : m.primaryKey = some primaryKey) {sql : Text}
    (h : buildFindByIdSql d m = .ok sql) : Lexes sql (findByIdPieces d m primaryKey) := by
  rw [buildFindByIdSql, hpk] at h
  simp only [buildSelectColumnList_eq, TOrmDialect.quoteIdentifier, List.append_assoc,
    Except.ok.injEq] at h
  rw [← h]
  refine Lexes.behind (by decide) ((lexes_columns d _).append ?_ (boundary_cons (by decide) _))
  refine Lexes.behind (by decide) ((lexes_name _).append ?_ (boundary_cons (by decide) _))
  exact Lexes.behind (by decide) (lexes_assignment d 1 primaryKey)

/-- The columns an order names, with their directions; unknown fields have none. -/
def orderColumns (sameName : Text → Text → Bool) (order : List TOrmOrderItem) :
    List (Text × Bool) :=
  order.filterMap fun item =>
    (m.fieldByName sameName item.fieldName).map fun fld => (fld.columnName, item.ascending)

theorem orderColumns_ok {sameName : Text → Text → Bool} {order : List TOrmOrderItem}
    {sqls : List Text}
    (h : List.Forall₂ (fun item sql => orderItemSql d m sameName item = .ok sql) order sqls) :
    List.Forall₂ Lexes sqls ((orderColumns m sameName order).map orderItemPieces) ∧
      (orderColumns m sameName order).map Prod.snd = order.map TOrmOrderItem.ascending := by
  induction h with
  | nil => exact ⟨.nil, rfl⟩
  | @cons item sql order sqls hitem _ ih =>
    unfold orderItemSql at hitem
    cases hfind : m.fieldByName sameName item.fieldName with
    | none => simp [hfind] at hitem
    | some fld =>
      have hcolumns : orderColumns m sameName (item :: order) =
          (fld.columnName, item.ascending) :: orderColumns m sameName order := by
        rw [orderColumns, List.filterMap_cons, hfind]
        rfl
      simp only [hfind, Except.ok.injEq] at hitem
      subst hitem
      rw [hcolumns, List.map_cons, List.map_cons, List.map_cons, ih.2]
      refine ⟨.cons ((lexes_name _).append ?_ ?_) ih.1, rfl⟩
      · dsimp only
        split_ifs
        · exact lexes_plain (by decide)
        · exact lexes_plain (by decide)
      · split_ifs <;> exact boundary_cons (by decide) _

theorem lexes_orderBy {sameName : Text → Text → Bool} {order : List TOrmOrderItem} {sql : Text}
    (h : buildOrderBySql d m sameName order = .ok sql) :
    Lexes sql (orderPieces (orderColumns m sameName order)) ∧
      (orderColumns m sameName order).map Prod.snd = order.map TOrmOrderItem.ascending := by
  unfold buildOrderBySql at h
  cases order with
  | nil =>
    cases h
    exact ⟨lexes_nil, rfl⟩
  | cons item order =>
    rw [if_neg (by simp)] at h
    obtain ⟨sqls, hsqls, h⟩ := bind_eq_ok.mp h
    obtain ⟨hlexes, hdirections⟩ := orderColumns_ok d m (mapM_forall₂ hsqls)
    refine ⟨?_, hdirections⟩
    simp only [appendLoop_eq, filter_keep_all, Except.ok.injEq] at h
    rw [mapIdx_eq_map, List.map_id'] at h
    subst h
    cases hcolumns : orderColumns m sameName (item :: order) with
    | nil =>
      rw [hcolumns] at hdirections
      exact absurd hdirections (List.cons_ne_nil _ _).symm
    | cons column columns =>
      rw [hcolumns] at hlexes
      exact Lexes.behind (by decide)
        (lexes_separated (by decide) (fun _ => boundary_cons (by decide) _) hlexes)

/-! ### The builders together -/

inductive Builder
  | createTable
  | createIndex (index : TOrmIndex)
  | insert
  | update
  | delete
  | findById
  | orderBy (order : List TOrmOrderItem)

namespace Builder

/-- The text of a builder; there is none where the source throws, or checks the key before
it builds. -/
def text (sameName : Text → Text → Bool) : Builder → Option Text
  | .createTable => some (buildCreateTableSql d m)
  | .createIndex index => some (buildCreateIndexSql d m index)
  | .insert => some (buildInsertSql d m)
  | .update => m.primaryKey.map (buildUpdateSql d m)
  | .delete => m.primaryKey.map (buildDeleteSql d m)
  | .findById => (buildFindByIdSql d m).toOption
  | .orderBy order => (buildOrderBySql d m sameName order).toOption

def pieces (sameName : Text → Text → Bool) : Builder → List Piece
  | .createTable => createTablePieces d m
  | .createIndex index => createIndexPieces m index
  | .insert => insertPieces d m
  | .update => m.primaryKey.elim [] (updatePieces d m)
  | .delete => m.primaryKey.elim [] (deletePieces d m)
  | .findById => m.primaryKey.elim [] (findByIdPieces d m)
  | .orderBy order => orderPieces (orderColumns m sameName order)

/-- The names of the model that a builder writes, in order. -/
def names (sameName : Text → Text → Bool) : Builder → List Text
  | .createTable => m.tableName :: m.fields.map TOrmField.columnName
  | .createIndex index => index.name :: m.tableName :: index.fields.map TOrmField.columnName
  | .insert => m.tableName :: (insertFields m).map TOrmField.columnName ++ returningNames d m
  | .update => m.tableName :: (updateFields m).map TOrmField.columnName ++
      m.primaryKey.elim [] fun primaryKey => [primaryKey.columnName]
  | .delete => m.tableName :: m.primaryKey.elim [] fun primaryKey => [primaryKey.columnName]
  | .findById => m.fields.map TOrmField.columnName ++
      m.tableName :: m.primaryKey.elim [] fun primaryKey => [primaryKey.columnName]
  | .orderBy order => (orderColumns m sameName order).map Prod.fst

end Builder

theorem toOption_eq_some {ε α : Type*} {x : Except ε α} {a : α} (h : x.toOption = some a) :
    x = .ok a := by
  cases x with
  | error e => cases h
  | ok b =>
    cases h
    rfl

theorem lexes_text {sameName : Text → Text → Bool} {b : Builder} {sql : Text}
    (h : b.text d m sameName = some sql) : Lexes sql (b.pieces d m sameName) := by
  cases b with
  | createTable =>
    cases h
    exact lexes_createTable d m
  | createIndex index =>
    cases h
    exact lexes_createIndex d m index
  | insert =>
    cases h
    exact lexes_insert d m
  | update =>
    obtain ⟨primaryKey, hpk, rfl⟩ := Option.map_eq_some_iff.mp h
    rw [Builder.pieces, hpk]
    exact lexes_update d m primaryKey
  | delete =>
    obtain ⟨primaryKey, hpk, rfl⟩ := Option.map_eq_some_iff.mp h
    rw [Builder.pieces, hpk]
    exact lexes_delete d m primaryKey
  | findById =>
    have hok := toOption_eq_some h
    cases hpk : m.primaryKey with
    | none => simp [buildFindByIdSql, hpk] at hok
    | some primaryKey =>
      rw [Builder.pieces, hpk]
      exact lexes_findById d m hpk hok
  | orderBy order => exact (lexes_orderBy d m (toOption_eq_some h)).1

/-! ### The names of a statement -/

theorem nameOf_placeholder (index : ℕ) : (placeholderPiece d index).nameOf = none := by
  cases d <;> rfl

theorem nameOf_plain (p : Text) : Piece.nameOf (.plain p) = none := rfl

theorem nameOf_name (n : Text) : Piece.nameOf (.name n) = some n := rfl

theorem names_elements {α : Type*} {l : List α} {pieces : ℕ → α → List Piece}
    {names : α → List Text} (h : ∀ i x, (pieces i x).filterMap Piece.nameOf = names x) :
    (commaPieces (l.mapIdx pieces)).filterMap Piece.nameOf = l.flatMap names := by
  rw [commaPieces, filterMap_separated _ rfl]
  induction l generalizing pieces with
  | nil => rfl
  | cons x l ih =>
    rw [List.mapIdx_cons, List.flatMap_cons, h, ih fun i => h (i + 1), List.flatMap_cons]

theorem names_each {α : Type*} {l : List α} {pieces : ℕ → α → List Piece} {name : α → Text}
    (h : ∀ i x, (pieces i x).filterMap Piece.nameOf = [name x]) :
    (commaPieces (l.mapIdx pieces)).filterMap Piece.nameOf = l.map name := by
  rw [names_elements h, List.map_eq_flatMap]

theorem names_columns (flds : List TOrmField) :
    (columnPieces flds).filterMap Piece.nameOf = flds.map TOrmField.columnName :=
  names_each fun _ _ => rfl

theorem names_assignment (index : ℕ) (fld : TOrmField) :
    (assignmentPieces d index fld).filterMap Piece.nameOf = [fld.columnName] := by
  cases d <;> rfl

theorem names_createTable :
    (createTablePieces d m).filterMap Piece.nameOf =
      m.tableName :: m.fields.map TOrmField.columnName := by
  have hcolumns : (commaPieces (m.fields.mapIdx fun _ fld =>
      [.name fld.columnName, .plain " ".toList, .plain (columnTail d fld)])).filterMap
        Piece.nameOf = m.fields.map TOrmField.columnName := names_each fun _ _ => rfl
  simp only [createTablePieces, List.filterMap_cons, List.filterMap_append, List.filterMap_nil,
    nameOf_plain, nameOf_name, hcolumns, List.append_nil, List.singleton_append]

theorem names_createIndex (index : TOrmIndex) :
    (createIndexPieces m index).filterMap Piece.nameOf =
      index.name :: m.tableName :: index.fields.map TOrmField.columnName := by
  have hcreate : (createPieces index.isUnique).filterMap Piece.nameOf = [] := by
    cases index.isUnique <;> rfl
  simp only [createIndexPieces, List.filterMap_cons, List.filterMap_append, List.filterMap_nil,
    nameOf_plain, nameOf_name, hcreate, names_columns, List.append_nil, List.singleton_append,
    List.nil_append]

theorem names_insert :
    (insertPieces d m).filterMap Piece.nameOf =
      m.tableName :: (insertFields m).map TOrmField.columnName ++ returningNames d m := by
  have hvalues : (commaPieces ((List.range (insertFields m).length).mapIdx fun i _ =>
      [placeholderPiece d (i + 1)])).filterMap Piece.nameOf = [] := by
    have hnone (i : ℕ) (_ : ℕ) : [placeholderPiece d (i + 1)].filterMap Piece.nameOf = [] := by
      rw [List.filterMap_cons, nameOf_placeholder, List.filterMap_nil]
    exact (names_elements hnone).trans (by simp)
  have hreturning : (returningPieces d m).filterMap Piece.nameOf = returningNames d m := by
    unfold returningPieces returningNames
    cases d with
    | sqlite => rfl
    | postgres =>
      cases m.primaryKey with
      | none => rfl
      | some primaryKey =>
        dsimp only
        split_ifs <;> rfl
  simp only [insertPieces, List.filterMap_cons, List.filterMap_append, nameOf_plain, nameOf_name,
    names_columns, hvalues, hreturning, List.nil_append, List.cons_append]

theorem names_update (primaryKey : TOrmField) :
    (updatePieces d m primaryKey).filterMap Piece.nameOf =
      m.tableName :: (updateFields m).map TOrmField.columnName ++ [primaryKey.columnName] := by
  have hcolumns : (commaPieces ((updateFields m).mapIdx fun i fld =>
      assignmentPieces d (i + 1) fld)).filterMap Piece.nameOf =
        (updateFields m).map TOrmField.columnName :=
    names_each fun i fld => names_assignment d (i + 1) fld
  simp only [updatePieces, List.filterMap_cons, List.filterMap_append, nameOf_plain, nameOf_name,
    hcolumns, names_assignment, List.nil_append, List.cons_append]

theorem names_orderBy (items : List (Text × Bool)) :
    (orderPieces items).filterMap Piece.nameOf = items.map Prod.fst := by
  cases items with
  | nil => rfl
  | cons item items =>
    change (commaPieces ((item :: items).map orderItemPieces)).filterMap Piece.nameOf = _
    rw [← mapIdx_eq_map orderItemPieces]
    exact names_each fun _ _ => rfl

/-- The names a builder's pieces hold are those of the model that it writes. -/
theorem names_pieces (sameName : Text → Text → Bool) {b : Builder} {sql : Text}
    (h : b.text d m sameName = some sql) :
    (b.pieces d m sameName).filterMap Piece.nameOf = b.names d m sameName := by
  cases b with
  | createTable => exact names_createTable d m
  | createIndex index => exact names_createIndex m index
  | insert => exact names_insert d m
  | update =>
    obtain ⟨primaryKey, hpk, -⟩ := Option.map_eq_some_iff.mp h
    rw [Builder.pieces, Builder.names, hpk]
    exact names_update d m primaryKey
  | delete =>
    obtain ⟨primaryKey, hpk, -⟩ := Option.map_eq_some_iff.mp h
    rw [Builder.pieces, Builder.names, hpk]
    simp only [Option.elim, deletePieces, List.filterMap_cons, nameOf_plain, nameOf_name,
      names_assignment, List.singleton_append]
  | findById =>
    cases hpk : m.primaryKey with
    | none => simp [Builder.text, buildFindByIdSql, hpk, Except.toOption] at h
    | some primaryKey =>
      rw [Builder.pieces, Builder.names, hpk]
      simp only [Option.elim, findByIdPieces, List.filterMap_cons, List.filterMap_append,
        nameOf_plain, nameOf_name, names_columns, names_assignment, List.singleton_append]
  | orderBy order => exact names_orderBy _

/-! ### What is outside of the names -/

/-- What is left of a field without its names. -/
def anonymousField (fld : TOrmField) : TOrmField :=
  { fld with typeField := ⟨[], fld.typeField.typeId, []⟩, name := [], columnName := [] }

def anonymousIndex (index : TOrmIndex) : TOrmIndex :=
  { index with name := [], fields := index.fields.map anonymousField }

def anonymousModel : TOrmModel where
  typeId := ⟨[], [], []⟩
  tableName := []
  fields := m.fields.map anonymousField
  indexes := m.indexes.map anonymousIndex
  primaryKey := m.primaryKey.map anonymousField

def anonymousOrder (order : List TOrmOrderItem) : List TOrmOrderItem :=
  order.map fun item => ⟨[], item.ascending⟩

def Builder.anonymous : Builder → Builder
  | .createIndex index => .createIndex (anonymousIndex index)
  | .orderBy order => .orderBy (anonymousOrder order)
  | b => b

/-- The pieces of a builder with its names blanked out. -/
def Builder.blankPieces : Builder → List Piece
  | .orderBy order => orderPieces (order.map fun item => ([], item.ascending))
  | b => b.pieces d m fun _ _ => false

theorem blank_elements {α β : Type*} {l : List α} {pieces : ℕ → α → List Piece}
    {pieces' : ℕ → β → List Piece} {f : α → β}
    (h : ∀ i x, (pieces i x).map Piece.blank = pieces' i (f x)) :
    (commaPieces (l.mapIdx pieces)).map Piece.blank = commaPieces ((l.map f).mapIdx pieces') := by
  have hparts : (l.mapIdx pieces).map (List.map Piece.blank) = (l.map f).mapIdx pieces' := by
    induction l generalizing pieces pieces' with
    | nil => rfl
    | cons x l ih =>
      rw [List.mapIdx_cons, List.map_cons, List.map_cons, List.mapIdx_cons, h,
        ih fun i => h (i + 1)]
  rw [commaPieces, map_separated, hparts]
  rfl

theorem blank_columns (flds : List TOrmField) :
    (columnPieces flds).map Piece.blank = columnPieces (flds.map anonymousField) :=
  blank_elements fun _ _ => rfl

theorem blank_assignment (index : ℕ) (fld : TOrmField) :
    (assignmentPieces d index fld).map Piece.blank =
      assignmentPieces d index (anonymousField fld) := by
  cases d <;> rfl

theorem insertFields_anonymous :
    insertFields (anonymousModel m) = (insertFields m).map anonymousField :=
  List.filter_map

theorem updateFields_anonymous :
    updateFields (anonymousModel m) = (updateFields m).map anonymousField :=
  List.filter_map

theorem columnTail_anonymous (fld : TOrmField) :
    columnTail d (anonymousField fld) = columnTail d fld := by
  cases d <;> rfl

theorem blank_createTable :
    (createTablePieces d m).map Piece.blank = createTablePieces d (anonymousModel m) := by
  have hcolumns : (commaPieces (m.fields.mapIdx fun _ fld =>
      [.name fld.columnName, .plain " ".toList, .plain (columnTail d fld)])).map Piece.blank =
        commaPieces ((m.fields.map anonymousField).mapIdx fun _ fld =>
          [.name fld.columnName, .plain " ".toList, .plain (columnTail d fld)]) :=
    blank_elements fun _ fld => by rw [columnTail_anonymous]; rfl
  simp only [createTablePieces, List.map_cons, List.map_append, List.map_nil, hcolumns]
  rfl

theorem blank_createIndex (index : TOrmIndex) :
    (createIndexPieces m index).map Piece.blank =
      createIndexPieces (anonymousModel m) (anonymousIndex index) := by
  have hcreate : (createPieces index.isUnique).map Piece.blank = createPieces index.isUnique := by
    cases index.isUnique <;> rfl
  simp only [createIndexPieces, List.map_cons, List.map_append, List.map_nil, hcreate,
    blank_columns]
  rfl

theorem blank_insert : (insertPieces d m).map Piece.blank = insertPieces d (anonymousModel m) := by
  have hvalues : (commaPieces ((List.range (insertFields m).length).mapIdx fun i _ =>
      [placeholderPiece d (i + 1)])).map Piece.blank =
        commaPieces ((List.range (insertFields m).length).mapIdx fun i _ =>
          [placeholderPiece d (i + 1)]) := by
    refine (blank_elements (f := id) fun i x => ?_).trans (by rw [List.map_id])
    cases d <;> rfl
  have hreturning : (returningPieces d m).map Piece.blank =
      returningPieces d (anonymousModel m) := by
    unfold returningPieces anonymousModel
    cases d with
    | sqlite => rfl
    | postgres =>
      cases m.primaryKey with
      | none => rfl
      | some primaryKey =>
        dsimp only [Option.map, anonymousField]
        split_ifs <;> rfl
  simp only [insertPieces, List.map_cons, List.map_append, blank_columns, hvalues, hreturning,
    insertFields_anonymous, List.length_map]
  rfl

theorem blank_update (primaryKey : TOrmField) :
    (updatePieces d m primaryKey).map Piece.blank =
      updatePieces d (anonymousModel m) (anonymousField primaryKey) := by
  have hcolumns : (commaPieces ((updateFields m).mapIdx fun i fld =>
      assignmentPieces d (i + 1) fld)).map Piece.blank =
        commaPieces (((updateFields m).map anonymousField).mapIdx fun i fld =>
          assignmentPieces d (i + 1) fld) :=
    blank_elements fun i fld => blank_assignment d (i + 1) fld
  simp only [updatePieces, List.map_cons, List.map_append, hcolumns, blank_assignment,
    updateFields_anonymous, List.length_map]
  rfl

theorem blank_orderBy (items : List (Text × Bool)) :
    (orderPieces items).map Piece.blank =
      orderPieces ((items.map Prod.snd).map fun ascending => ([], ascending)) := by
  cases items with
  | nil => rfl
  | cons item items =>
    have hparts : (commaPieces ((item :: items).map orderItemPieces)).map Piece.blank =
        commaPieces (((item :: items).map fun item => ([], item.2)).map orderItemPieces) := by
      rw [← mapIdx_eq_map orderItemPieces, ← mapIdx_eq_map orderItemPieces]
      exact blank_elements fun _ _ => rfl
    rw [List.map_map]
    exact congrArg (Piece.plain " ORDER BY ".toList :: ·) hparts

/-- Blanking out the names of a statement leaves what the nameless model has. -/
theorem blank_pieces {sameName : Text → Text → Bool} {b : Builder} {sql : Text}
    (h : b.text d m sameName = some sql) :
    (b.pieces d m sameName).map Piece.blank =
      b.anonymous.blankPieces d (anonymousModel m) := by
  cases b with
  | createTable => exact blank_createTable d m
  | createIndex index => exact blank_createIndex m index
  | insert => exact blank_insert d m
  | update =>
    obtain ⟨primaryKey, hpk, -⟩ := Option.map_eq_some_iff.mp h
    rw [Builder.pieces, hpk]
    refine (blank_update d m primaryKey).trans ?_
    simp only [Builder.anonymous, Builder.blankPieces, Builder.pieces, anonymousModel, hpk,
      Option.map_some, Option.elim]
  | delete =>
    obtain ⟨primaryKey, hpk, -⟩ := Option.map_eq_some_iff.mp h
    simp only [Builder.anonymous, Builder.blankPieces, Builder.pieces, anonymousModel, hpk,
      Option.map_some, Option.elim, deletePieces, List.map_cons, List.map_append,
      blank_assignment, List.map_nil]
    rfl
  | findById =>
    cases hpk : m.primaryKey with
    | none => simp [Builder.text, buildFindByIdSql, hpk, Except.toOption] at h
    | some primaryKey =>
      simp only [Builder.anonymous, Builder.blankPieces, Builder.pieces, anonymousModel, hpk,
        Option.map_some, Option.elim, findByIdPieces, List.map_cons, List.map_append,
        blank_columns, blank_assignment, List.map_nil]
      rfl
  | orderBy order =>
    rw [Builder.pieces, blank_orderBy, (lexes_orderBy d m (toOption_eq_some h)).2]
    simp only [Builder.anonymous, Builder.blankPieces, anonymousOrder, List.map_map]
    rfl

/-- The tokens of a generated statement are its builder's pieces: its identifiers decode to
the names of the model, and no name reaches what is outside of them. -/
theorem names_stay_in_tokens {sameName : Text → Text → Bool} {b : Builder} {sql : Text}
    (h : b.text d m sameName = some sql) :
    tokens sql = (b.pieces d m sameName).flatMap Piece.tokens ∧
      namesOf sql = b.names d m sameName ∧
      ∀ (m' : TOrmModel) (sameName' : Text → Text → Bool) (b' : Builder) (sql' : Text),
        anonymousModel m' = anonymousModel m → b'.anonymous = b.anonymous →
          b'.text d m' sameName' = some sql' → outsideOf sql' = outsideOf sql := by
  have hlexes := lexes_text d m h
  refine ⟨hlexes.tokens_eq, ?_, fun m' sameName' b' sql' hm hb h' => ?_⟩
  · rw [hlexes.namesOf_eq, names_pieces d m sameName h]
  · refine (lexes_text d m' h').outsideOf_eq hlexes ?_
    rw [blank_pieces d m' h', blank_pieces d m h, hm, hb]

/-- A model whose names hold quotes, placeholders and keywords. -/
def hostileModel : TOrmModel :=
  let key : TOrmField :=
    ⟨⟨"id".toList, .intTypeId, []⟩, "id".toList, "\"; DROP TABLE t; --".toList, true, true, false,
      false, false, false, false, false, false⟩
  let fld : TOrmField :=
    ⟨⟨"n".toList, .stringTypeId, []⟩, "n".toList, "it's ? \"\"".toList, false, false, false, false,
      false, true, false, false, false⟩
  ⟨⟨"T".toList, [], []⟩, "a\" (b) VALUES (?) --".toList, [key, fld], [], some key⟩

theorem names_stay_in_tokens_hostile :
    namesOf (buildUpdateSql .sqlite hostileModel (hostileModel.primaryKey.get rfl)) =
        ["a\" (b) VALUES (?) --".toList, "it's ? \"\"".toList, "\"; DROP TABLE t; --".toList] ∧
      outsideOf (buildUpdateSql .sqlite (anonymousModel hostileModel)
          (anonymousField (hostileModel.primaryKey.get rfl))) =
        outsideOf (buildUpdateSql .sqlite hostileModel (hostileModel.primaryKey.get rfl)) := by
  let sameName : Text → Text → Bool := fun s t => s == t
  have htext : Builder.text .sqlite hostileModel sameName .update = some (buildUpdateSql .sqlite
      hostileModel (hostileModel.primaryKey.get rfl)) := rfl
  have h := names_stay_in_tokens .sqlite hostileModel htext
  exact ⟨h.2.1, h.2.2 (anonymousModel hostileModel) sameName .update _ rfl rfl rfl⟩

end DatabaseMod.OrmQuoting
