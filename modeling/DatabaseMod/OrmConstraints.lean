import DatabaseMod.OrmColumns

/-!
# Uniqueness constraints of the created tables

The constraints are read from the texts: a column definition carries `UNIQUE` or not, and
a unique index names its columns. They are compared with the metadata of the type.
-/

namespace DatabaseMod.OrmConstraints
open SqlTokens SqlReading OrmModel OrmModelBuilder OrmStatements OrmStatementReading OrmColumns

def isNotName : Item → Bool
  | .name _ => false
  | _ => true

/-- The column definitions of a list, each with the presence of the word `UNIQUE`. -/
def columnFlags : List Item → List (Text × Bool)
  | [] => []
  | .name n :: l => (n, keyword "UNIQUE" ∈ l.takeWhile isNotName) :: columnFlags l
  | .word _ :: l | .literal _ :: l | .mark :: l | .symbol _ :: l => columnFlags l

def tableConstraints (sql : Text) : List (Text × Bool) :=
  columnFlags ((read sql).dropWhile (· ≠ .symbol '('))

def uniqueIndexWords : List Item :=
  [keyword "CREATE", keyword "UNIQUE", keyword "INDEX", keyword "IF", keyword "NOT",
    keyword "EXISTS"]

/-- The name and the columns of a unique index. -/
def indexConstraint (sql : Text) : Option (Text × List Text) :=
  if (read sql).take 6 = uniqueIndexWords then
    match (read sql).drop 6 with
    | .name n :: l => some (n, columnNames none l)
    | _ => none
  else none

theorem columnFlags_skip {p : List Item} (hp : ∀ n, .name n ∉ p) (l : List Item) :
    columnFlags (p ++ l) = columnFlags l := by
  induction p with
  | nil => rfl
  | cons i p ih =>
    have hp' : ∀ n, Item.name n ∉ p := fun n hn => hp n (List.mem_cons_of_mem i hn)
    cases i with
    | name n => exact absurd List.mem_cons_self (hp n)
    | word w => exact ih hp'
    | literal t => exact ih hp'
    | mark => exact ih hp'
    | symbol c => exact ih hp'

theorem takeWhile_isNotName {p : List Item} (hp : ∀ n, .name n ∉ p) (l : List Item) :
    (p ++ l).takeWhile isNotName = p ++ l.takeWhile isNotName := by
  refine List.takeWhile_append_of_pos fun i hi => ?_
  cases i with
  | name n => exact absurd hi (hp n)
  | word w => rfl
  | literal t => rfl
  | mark => rfl
  | symbol c => rfl

theorem columnFlags_definition (n : Text) {tail : List Item} (htail : ∀ n, .name n ∉ tail)
    (c : Char) {l : List Item} (hl : l.takeWhile isNotName = []) :
    columnFlags (.name n :: tail ++ .symbol c :: l) =
      (n, decide (keyword "UNIQUE" ∈ tail)) :: columnFlags l := by
  have hnext : (tail ++ .symbol c :: l).takeWhile isNotName = tail ++ [.symbol c] := by
    rw [takeWhile_isNotName htail, List.takeWhile_cons_of_pos rfl, hl]
  have hmem : keyword "UNIQUE" ∈ tail ++ [.symbol c] ↔ keyword "UNIQUE" ∈ tail := by
    simp [keyword]
  rw [List.cons_append, columnFlags, columnFlags_skip htail, hnext]
  simp only [hmem]
  rfl

theorem columnFlags_elements {α : Type*} (l : List α) (name : α → Text) (tail : α → List Item)
    (htail : ∀ x n, .name n ∉ tail x) :
    columnFlags (commas (l.map fun x => .name (name x) :: tail x) ++ [.symbol ')']) =
      l.map fun x => (name x, decide (keyword "UNIQUE" ∈ tail x)) := by
  have hrest (x : α) (l : List α) : columnFlags (.name (name x) :: tail x ++
      ((l.map fun x => .name (name x) :: tail x).flatMap ([Item.symbol ','] ++ ·) ++
        [.symbol ')'])) = (x :: l).map fun x => (name x, decide (keyword "UNIQUE" ∈ tail x)) := by
    induction l generalizing x with
    | nil => exact columnFlags_definition (name x) (htail x) ')' rfl
    | cons y l ih =>
      have hsplit : ((y :: l).map fun x => .name (name x) :: tail x).flatMap
          ([Item.symbol ','] ++ ·) ++ [.symbol ')'] =
          .symbol ',' :: (.name (name y) :: tail y ++
            ((l.map fun x => .name (name x) :: tail x).flatMap ([Item.symbol ','] ++ ·) ++
              [.symbol ')'])) := by
        simp
      rw [hsplit, columnFlags_definition (name x) (htail x) ',' rfl, ih y]
      rfl
  cases l with
  | nil => rfl
  | cons x l =>
    rw [← hrest x l, List.map_cons, commas, separated, List.append_assoc]

variable (d : TOrmDialect) (m : TOrmModel)

theorem unique_mem_definitionTail (fld : TOrmField) : keyword "UNIQUE" ∈ definitionTail d fld ↔
    fld.isUnique = true ∧ ¬ (fld.isPrimaryKey = true ∧ fld.isAuto = true) := by
  have htypes : ∀ t ∈ typeNames, keyword "UNIQUE" ∉ read t := by decide +kernel
  have htype := htypes _ (sqlTypeForField_mem d fld)
  have hauto : keyword "UNIQUE" ∉ read (d.autoGeneratedPrimaryKeyType fld) := by
    cases d with
    | sqlite =>
      have h : keyword "UNIQUE" ∉ read "INTEGER PRIMARY KEY AUTOINCREMENT".toList := by
        decide +kernel
      exact h
    | postgres =>
      have h : keyword "UNIQUE" ∉
          read "BIGINT GENERATED BY DEFAULT AS IDENTITY PRIMARY KEY".toList := by
        decide +kernel
      exact h
  unfold definitionTail
  by_cases hpk : fld.isPrimaryKey ∧ fld.isAuto
  · simp [hauto, hpk]
  · rw [if_neg hpk]
    split_ifs <;> simp_all [keyword]

theorem tableConstraints_createTable : tableConstraints (buildCreateTableSql d m) =
    m.fields.map fun fld => (fld.columnName,
      fld.isUnique && !(fld.isPrimaryKey && fld.isAuto)) := by
  have hflag (fld : TOrmField) : decide (keyword "UNIQUE" ∈ definitionTail d fld) =
      (fld.isUnique && !(fld.isPrimaryKey && fld.isAuto)) := by
    rw [Bool.eq_iff_iff, decide_eq_true_iff, unique_mem_definitionTail]
    simp [imp_iff_not_or]
  have helements := columnFlags_elements m.fields (·.columnName) (definitionTail d)
    (definitionTail_no_name d)
  rw [tableConstraints, (reads_createTable d m).read_eq, createTableItems, mapIdx_eq_map]
  simp only [hflag] at helements
  rw [← helements]
  rfl

theorem indexConstraint_createIndex (index : TOrmIndex) :
    indexConstraint (buildCreateIndexSql d m index) =
      if index.isUnique then some (index.name, index.fields.map (·.columnName)) else none := by
  have hcolumns : columnNames none ([keyword "ON"] ++ ([.name m.tableName] ++ ([.symbol '('] ++
      (fieldNames index.fields ++ [.symbol ')'])))) = index.fields.map (·.columnName) := by
    rw [columnNames_relation (by decide), columnNames_symbol, columnNames_append (by simp),
      columnNames_fieldNames _ rfl]
    simp [columnNames]
  rw [indexConstraint, (reads_createIndex d m index).read_eq, indexItems]
  cases index.isUnique with
  | true => exact congrArg (fun cols => some (index.name, cols)) hcolumns
  | false =>
    refine if_neg fun h => ?_
    have hword : keyword "INDEX" = keyword "UNIQUE" :=
      Option.some.inj (congrArg (fun l : List Item => l[1]?) h)
    exact absurd hword (by decide)

/-! ### Declared and created constraints -/

def indexConstraints : List (Text × List Text) :=
  m.indexes.filterMap fun index => indexConstraint (buildCreateIndexSql d m index)

/-- The constraints the metadata asks for, read from the texts that create the table and
its indexes: each column definition is `UNIQUE` for plain unique metadata and only then,
and there is one unique index for each name, over its whole group. -/
structure ConstraintsDeclared : Prop where
  columns : tableConstraints (buildCreateTableSql d m) =
    m.fields.map fun fld => (fld.columnName, plainUnique fld.typeField)
  names_nodup : ((indexConstraints d m).map (·.1)).Nodup
  groups : ∀ name cols, (name, cols) ∈ indexConstraints d m ↔
    (∃ fld ∈ m.fields, namedUnique fld.typeField = some name) ∧
      cols = (m.fields.filter fun fld => namedUnique fld.typeField = some name).map (·.columnName)

theorem indexConstraints_eq : indexConstraints d m =
    (m.indexes.filter (·.isUnique)).map fun index =>
      (index.name, index.fields.map (·.columnName)) := by
  simp only [indexConstraints, indexConstraint_createIndex]
  induction m.indexes with
  | nil => rfl
  | cons index l ih => cases hu : index.isUnique <;> simp [hu, ih]

section Built

variable {m} {namingStyle : EOrmNamingStyle} {typeId : TClassId} {flds : List TField}

theorem groupOf_eq (hm : Built namingStyle typeId flds m) (name : Text) :
    groupOf namingStyle flds name =
      m.fields.filter fun fld => namedUnique fld.typeField = some name := by
  rw [groupOf, hm.fields_eq, List.filter_map]
  rfl

theorem mem_indexConstraints (hm : Built namingStyle typeId flds m) (name : Text)
    (cols : List Text) :
    (name, cols) ∈ indexConstraints d m ↔
      (∃ fld ∈ m.fields, namedUnique fld.typeField = some name) ∧
        cols = (m.fields.filter fun fld => namedUnique fld.typeField = some name).map
          (·.columnName) := by
  have hused : (∃ fld ∈ m.fields, namedUnique fld.typeField = some name) ↔
      ∃ fld ∈ flds, namedUnique fld = some name := by
    simp [hm.fields_eq, buildField]
  rw [indexConstraints_eq, hused, ← groupOf_eq hm]
  constructor
  · intro h
    obtain ⟨⟨name', group, isUnique⟩, hi, heq⟩ := List.mem_map.mp h
    obtain ⟨hi, rfl : isUnique = true⟩ := List.mem_filter.mp hi
    obtain ⟨rfl, rfl⟩ := Prod.mk.inj heq
    obtain ⟨hname, rfl⟩ := (hm.mem_uniqueIndexes name' group).mp hi
    exact ⟨hname, rfl⟩
  · rintro ⟨hname, rfl⟩
    have hi := (hm.mem_uniqueIndexes name _).mpr ⟨hname, rfl⟩
    exact List.mem_map.mpr ⟨_, List.mem_filter.mpr ⟨hi, rfl⟩, rfl⟩

theorem indexConstraints_nodup (hm : Built namingStyle typeId flds m) :
    ((indexConstraints d m).map (·.1)).Nodup := by
  rw [indexConstraints_eq, List.map_map]
  exact hm.indexed.names_nodup.sublist (List.filter_sublist.map _)

end Built

/-- A generated primary key, by its metadata. -/
def generatedKey (fld : TField) : Bool :=
  hasMetadata fld.metadata "pk" && hasMetadata fld.metadata "auto"

theorem unique_iff_plain (fld : TField) :
    (hasMetadata fld.metadata "unique" && !generatedKey fld) = plainUnique fld ↔
      (namedUnique fld ≠ none → generatedKey fld = true) ∧
        (plainUnique fld = true → generatedKey fld = false) := by
  have hplain : plainUnique fld = true → hasMetadata fld.metadata "unique" = true := fun h => by
    simp only [plainUnique, Bool.and_eq_true] at h
    exact h.1
  unfold namedUnique
  cases hu : hasMetadata fld.metadata "unique" <;> cases hp : plainUnique fld <;>
    cases hg : generatedKey fld <;> simp_all

section Models

variable {hashCode : Text → UInt32} {registry : Option (TOrmRegistry hashCode)}
  {namingStyle : EOrmNamingStyle} {typeId : TClassId}
  {out : TOrmModel × Option (TOrmRegistry hashCode)}

/-- The created constraints of a built model are the declared ones exactly if only
generated primary keys use a named `unique` and none of them uses a plain one. -/
theorem constraints_declared_iff (h : buildModel registry namingStyle typeId = .ok out) :
    out.1.fields.map (·.typeField) = typeId.enumFields.filter (!shouldIgnoreField ·) ∧
    (ConstraintsDeclared d out.1 ↔
      ∀ fld ∈ typeId.enumFields, shouldIgnoreField fld = false →
        (namedUnique fld ≠ none → generatedKey fld = true) ∧
          (plainUnique fld = true → generatedKey fld = false)) := by
  obtain ⟨style, hbuilt⟩ := buildModel_built h
  have hm := buildNewModel_built hbuilt
  have hfields : out.1.fields.map (·.typeField) =
      typeId.enumFields.filter (!shouldIgnoreField ·) := by
    simp [hm.fields_eq, buildField, Function.comp_def]
  refine ⟨hfields, ?_⟩
  have hcond : (∀ fld ∈ typeId.enumFields, shouldIgnoreField fld = false →
        (namedUnique fld ≠ none → generatedKey fld = true) ∧
          (plainUnique fld = true → generatedKey fld = false)) ↔
      ∀ fld ∈ out.1.fields, (fld.isUnique && !(fld.isPrimaryKey && fld.isAuto)) =
        plainUnique fld.typeField := by
    simp only [hm.fields_eq, List.mem_map, List.mem_filter, Bool.not_eq_true',
      forall_exists_index, and_imp, ← unique_iff_plain]
    constructor
    · rintro hall _ fld hfld hkept rfl
      exact hall fld hfld hkept
    · exact fun hall fld hfld hkept => hall _ fld hfld hkept rfl
  have hcolumns : tableConstraints (buildCreateTableSql d out.1) =
      out.1.fields.map (fun fld => (fld.columnName, plainUnique fld.typeField)) ↔
      ∀ fld ∈ out.1.fields, (fld.isUnique && !(fld.isPrimaryKey && fld.isAuto)) =
        plainUnique fld.typeField := by
    rw [tableConstraints_createTable, List.map_inj_left]
    simp
  rw [hcond, ← hcolumns]
  exact ⟨fun hd => hd.columns, fun hc =>
    ⟨hc, indexConstraints_nodup d hm, mem_indexConstraints d hm⟩⟩

/-- Two fields that form one named group. -/
def indexedUserType : TClassId where
  name := "IndexedUser".toList
  metadata := []
  enumFields := [⟨"id".toList, .longTypeId, [("pk", ['1']), ("auto", ['1'])]⟩,
    ⟨"tenantId".toList, .longTypeId, [("unique", "uq_tenant_email".toList)]⟩,
    ⟨"email".toList, .stringTypeId, [("unique", "uq_tenant_email".toList)]⟩]

theorem named_group_makes_columns_unique :
    ∃ out, buildModel (none : Option (TOrmRegistry fun _ => 0)) .lowerCaseUnderscore
        indexedUserType = .ok out ∧
      tableConstraints (buildCreateTableSql .sqlite out.1) =
        [("id".toList, false), ("tenant_id".toList, true), ("email".toList, true)] ∧
      ¬ ConstraintsDeclared .sqlite out.1 := by
  refine ⟨_, rfl, by decide +kernel, fun h => ?_⟩
  have hcolumns := h.columns
  revert hcolumns
  decide +kernel

theorem constraints_declared_iff_indexed_user :
    ∃ out, buildModel (none : Option (TOrmRegistry fun _ => 0)) .lowerCaseUnderscore
        indexedUserType = .ok out ∧
      out.1.fields.map (·.typeField) = indexedUserType.enumFields.filter (!shouldIgnoreField ·) := by
  obtain ⟨out, h⟩ : ∃ out, buildModel (none : Option (TOrmRegistry fun _ => 0))
      .lowerCaseUnderscore indexedUserType = .ok out := ⟨_, rfl⟩
  exact ⟨out, h, (constraints_declared_iff .sqlite h).1⟩

end Models

end DatabaseMod.OrmConstraints
