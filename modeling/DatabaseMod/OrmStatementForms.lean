import DatabaseMod.OrmAlignment

/-!
# The forms of an insert and of an update

A statement is data: it has a column to insert or to set. The generated texts are read, and
compared with the statements that there are.
-/

namespace DatabaseMod.OrmStatementForms
open SqlTokens SqlReading OrmModel OrmModelBuilder OrmStatements OrmStatementReading OrmAlignment

/-! ### Statements -/

structure Insert where
  table : Text
  columns : List Text
  columns_ne_nil : columns ≠ []
  returning : Option Text

structure Update where
  table : Text
  columns : List Text
  columns_ne_nil : columns ≠ []
  key : Text

section

variable (d : TOrmDialect)

/-- What the statement is read as: every column has its placeholder, in order. -/
def Insert.items (s : Insert) : List Item :=
  [keyword "INSERT", keyword "INTO", .name s.table, .symbol '('] ++
    (commas (s.columns.map fun c => [.name c]) ++
      ([.symbol ')', keyword "VALUES", .symbol '('] ++
        (commas ((List.range s.columns.length).map fun i => [placeholderItem d (i + 1)]) ++
          ([.symbol ')'] ++ s.returning.elim [] fun c => [keyword "RETURNING", .name c]))))

/-- The last placeholder is that of the key. -/
def Update.items (s : Update) : List Item :=
  [keyword "UPDATE", .name s.table, keyword "SET"] ++
    (commas (s.columns.mapIdx fun i c => [.name c, .symbol '=', placeholderItem d (i + 1)]) ++
      [keyword "WHERE", .name s.key, .symbol '=', placeholderItem d (s.columns.length + 1)])

/-- A column stands after the opening bracket. -/
theorem Insert.getElem_items (s : Insert) : ∃ c, (s.items d)[4]? = some (.name c) := by
  obtain ⟨c, cs, hcs⟩ := List.exists_cons_of_ne_nil s.columns_ne_nil
  refine ⟨c, ?_⟩
  rw [Insert.items, hcs]
  rfl

theorem Update.getElem_items (s : Update) : ∃ c, (s.items d)[3]? = some (.name c) := by
  obtain ⟨c, cs, hcs⟩ := List.exists_cons_of_ne_nil s.columns_ne_nil
  refine ⟨c, ?_⟩
  rw [Update.items, hcs, List.mapIdx_cons]
  rfl

/-! ### The generated statements -/

variable (m : TOrmModel)

/-- The text that is sent inserts into columns of the table of the model. -/
def InsertFormed : Prop :=
  ∃ s : Insert, s.table = m.tableName ∧
    (∀ c ∈ s.columns, ∃ fld ∈ m.fields, fld.columnName = c) ∧
    read (d.rewritePlaceholders (buildInsertSql d m)) = s.items d

/-- The text that is sent sets columns of the table of the model where its key has a value. -/
def UpdateFormed (primaryKey : TOrmField) : Prop :=
  ∃ s : Update, s.table = m.tableName ∧ s.key = primaryKey.columnName ∧
    (∀ c ∈ s.columns, ∃ fld ∈ m.fields, fld.columnName = c) ∧
    read (d.rewritePlaceholders (buildUpdateSql d m primaryKey)) = s.items d

/-- Both statements of the model are formed, the update if it has a key. -/
structure Formed : Prop where
  insert : InsertFormed d m
  update : ∀ primaryKey, m.primaryKey = some primaryKey → UpdateFormed d m primaryKey

variable {m}

theorem read_insert : read (d.rewritePlaceholders (buildInsertSql d m)) = insertItems d m := by
  rw [rewrite_insert]
  exact (reads_insert d m).read_eq

theorem read_update (primaryKey : TOrmField) :
    read (d.rewritePlaceholders (buildUpdateSql d m primaryKey)) = updateItems d m primaryKey := by
  rw [rewrite_update]
  exact (reads_update d m primaryKey).read_eq

theorem returningItems_eq : ∃ returning : Option Text,
    returningItems d m = returning.elim [] fun c => [keyword "RETURNING", .name c] := by
  unfold returningItems
  split
  next primaryKey _ =>
    split
    · exact ⟨some primaryKey.name, rfl⟩
    · exact ⟨none, rfl⟩
  next => exact ⟨none, rfl⟩

theorem mem_columns {flds : List TOrmField} (hsub : ∀ fld ∈ flds, fld ∈ m.fields) :
    ∀ c ∈ flds.map (·.columnName), ∃ fld ∈ m.fields, fld.columnName = c := by
  intro c hc
  obtain ⟨fld, hfld, rfl⟩ := List.mem_map.mp hc
  exact ⟨fld, hsub fld hfld, rfl⟩

theorem insertFormed_iff : InsertFormed d m ↔ insertFields m ≠ [] := by
  constructor
  · rintro ⟨s, -, -, hread⟩ hnil
    obtain ⟨c, hc⟩ := s.getElem_items d
    rw [← hread, read_insert, insertItems, hnil] at hc
    cases hc
  · intro hne
    obtain ⟨returning, hreturning⟩ := returningItems_eq d (m := m)
    refine ⟨⟨m.tableName, (insertFields m).map (·.columnName), by simpa using hne, returning⟩, rfl,
      mem_columns fun fld hfld => List.mem_of_mem_filter hfld, ?_⟩
    rw [read_insert, insertItems, Insert.items, hreturning, fieldNames]
    have hvalues : (List.range (insertFields m).length).mapIdx (fun i _ =>
        [placeholderItem d (i + 1)]) = (List.range (insertFields m).length).map fun i =>
          [placeholderItem d (i + 1)] := List.ext_getElem (by simp) (by simp)
    rw [hvalues, mapIdx_eq_map, List.map_map, List.length_map]
    simp only [List.cons_append, List.nil_append]
    rfl

theorem updateFormed_iff (primaryKey : TOrmField) :
    UpdateFormed d m primaryKey ↔ updateFields m ≠ [] := by
  constructor
  · rintro ⟨s, -, -, -, hread⟩ hnil
    obtain ⟨c, hc⟩ := s.getElem_items d
    rw [← hread, read_update, updateItems, hnil] at hc
    cases hc
  · intro hne
    refine ⟨⟨m.tableName, (updateFields m).map (·.columnName), by simpa using hne,
      primaryKey.columnName⟩, rfl, rfl, mem_columns fun fld hfld => List.mem_of_mem_filter hfld, ?_⟩
    rw [read_update, updateItems, Update.items]
    have hset : ((updateFields m).map (·.columnName)).mapIdx (fun i c =>
        [.name c, .symbol '=', placeholderItem d (i + 1)]) = (updateFields m).mapIdx fun i fld =>
          [.name fld.columnName, .symbol '=', placeholderItem d (i + 1)] :=
      List.ext_getElem (by simp) (by simp)
    rw [hset, List.length_map]
    rfl

/-! ### Models -/

theorem insertFields_ne_nil_iff :
    insertFields m ≠ [] ↔ ∃ fld ∈ m.fields, shouldSkipInsertField fld = false := by
  simp [insertFields, List.filter_eq_nil_iff]

theorem updateFields_ne_nil_iff :
    updateFields m ≠ [] ↔ ∃ fld ∈ m.fields, fld.isPrimaryKey = false := by
  simp [updateFields, List.filter_eq_nil_iff, shouldSkipUpdateField]

theorem shouldSkipInsertField_of_plain {fld : TOrmField} (h : fld.isPrimaryKey = false) :
    shouldSkipInsertField fld = false := by
  rw [shouldSkipInsertField, h, Bool.false_and]

/-- A built model without a key has no field that is one. -/
theorem plain_of_built {namingStyle : EOrmNamingStyle} {typeId : TClassId} {flds : List TField}
    (hm : Built namingStyle typeId flds m) (hkey : m.primaryKey = none) :
    ∀ fld ∈ m.fields, fld.isPrimaryKey = false := by
  intro fld hfld
  have hkeys := hm.primaryKey_eq
  rw [hkey] at hkeys
  simpa using List.filter_eq_nil_iff.mp hkeys fld hfld

/-- The statements of a model with fields are formed unless its key is its only field. -/
theorem formed_iff {hashCode : Text → UInt32} {registry : Option (TOrmRegistry hashCode)}
    {namingStyle : EOrmNamingStyle} {typeId : TClassId}
    {out : TOrmModel × Option (TOrmRegistry hashCode)}
    (hbuild : buildModel registry namingStyle typeId = .ok out) (hfields : out.1.fields ≠ []) :
    Formed d out.1 ↔ out.1.primaryKey = none ∨ ∃ fld ∈ out.1.fields, fld.isPrimaryKey = false := by
  obtain ⟨style, hnew⟩ := buildModel_built hbuild
  have hbuilt := buildNewModel_built hnew
  constructor
  · intro hformed
    cases hkey : out.1.primaryKey with
    | none => exact .inl rfl
    | some primaryKey =>
      have hupdate := hformed.update primaryKey hkey
      exact .inr (updateFields_ne_nil_iff.mp ((updateFormed_iff d primaryKey).mp hupdate))
  · intro h
    have hplain : ∃ fld ∈ out.1.fields, fld.isPrimaryKey = false := by
      rcases h with hkey | hplain
      · obtain ⟨fld, hfld⟩ := List.exists_mem_of_ne_nil _ hfields
        exact ⟨fld, hfld, plain_of_built hbuilt hkey fld hfld⟩
      · exact hplain
    constructor
    · obtain ⟨fld, hfld, hkey⟩ := hplain
      exact (insertFormed_iff d).mpr (insertFields_ne_nil_iff.mpr
        ⟨fld, hfld, shouldSkipInsertField_of_plain hkey⟩)
    · intro primaryKey _
      exact (updateFormed_iff d primaryKey).mpr (updateFields_ne_nil_iff.mpr hplain)

end

/-- A class with nothing but a generated key. -/
def ticketType : TClassId :=
  ⟨"Ticket".toList, [], [⟨"id".toList, .longTypeId, [("pk", ['1']), ("auto", ['1'])]⟩]⟩

/-- Its table is created, and its insert and its update have no column. -/
theorem ticket_not_formed :
    ∃ out, buildModel (none : Option (TOrmRegistry fun _ => 0)) .lowerCase ticketType = .ok out ∧
      out.1.fields ≠ [] ∧
      buildInsertSql .sqlite out.1 = "INSERT INTO \"ticket\" () VALUES ()".toList ∧
      ¬ Formed .sqlite out.1 := by
  refine ⟨_, rfl, List.cons_ne_nil _ _, by decide, fun h => ?_⟩
  exact (insertFormed_iff .sqlite).mp h.insert rfl

def userType : TClassId :=
  ⟨"User".toList, [], [⟨"id".toList, .longTypeId, [("pk", ['1']), ("auto", ['1'])]⟩,
    ⟨"name".toList, .stringTypeId, []⟩]⟩

theorem user_formed :
    ∃ out, buildModel (none : Option (TOrmRegistry fun _ => 0)) .lowerCase userType = .ok out ∧
      Formed .postgres out.1 := by
  obtain ⟨out, hbuild⟩ : ∃ out,
      buildModel (none : Option (TOrmRegistry fun _ => 0)) .lowerCase userType = .ok out := ⟨_, rfl⟩
  have hplain : ∃ fld ∈ out.1.fields, fld.isPrimaryKey = false := by
    cases hbuild
    exact ⟨_, List.mem_cons_of_mem _ List.mem_cons_self, rfl⟩
  have hfields : out.1.fields ≠ [] := by
    obtain ⟨fld, hfld, -⟩ := hplain
    exact List.ne_nil_of_mem hfld
  exact ⟨out, hbuild, (formed_iff .postgres hbuild hfields).mpr (.inr hplain)⟩

end DatabaseMod.OrmStatementForms
