import DatabaseMod.OrmRegistry

/-!
# Automatic index names

The name of an index joins the names of the table and of the column with an underscore, which both
may contain, and ends in a hash of the joined text. Where two fields get the same name the index of
the second is skipped.
-/

namespace DatabaseMod.OrmIndexNames
open SqlTokens (Text)
open OrmModel OrmModelBuilder OrmRegistry

/-! ### Names -/

/-- The second table name goes on where the first one ends, with the beginning of its column. -/
def Overlap (first second : Text × Text) : Prop :=
  ∃ shared, second.1 = first.1 ++ '_' :: shared ∧ first.2 = shared ++ '_' :: second.2

theorem Overlap.table_ne {first second : Text × Text} (h : Overlap first second) :
    first.1 ≠ second.1 := by
  obtain ⟨shared, htable, -⟩ := h
  intro hsame
  have hlength := congrArg List.length (hsame.trans htable)
  simp at hlength

theorem joined_eq_iff (first second : Text × Text) :
    first.1 ++ '_' :: first.2 = second.1 ++ '_' :: second.2 ↔
      first = second ∨ Overlap first second ∨ Overlap second first := by
  obtain ⟨table, column⟩ := first
  obtain ⟨table', column'⟩ := second
  constructor
  · intro h
    obtain ⟨middle, htable, hcolumn⟩ | ⟨middle, htable, hcolumn⟩ := List.append_eq_append_iff.mp h
    · cases middle with
      | nil =>
        refine .inl (Prod.ext ?_ (List.cons.inj hcolumn).2)
        simpa using htable.symm
      | cons c shared =>
        obtain ⟨rfl, hshared⟩ := List.cons.inj hcolumn
        exact .inr (.inl ⟨shared, htable, hshared⟩)
    · cases middle with
      | nil =>
        refine .inl (Prod.ext ?_ (List.cons.inj hcolumn).2.symm)
        simpa using htable
      | cons c shared =>
        obtain ⟨rfl, hshared⟩ := List.cons.inj hcolumn
        exact .inr (.inr ⟨shared, htable, hshared⟩)
  · rintro (hsame | ⟨shared, htable, hcolumn⟩ | ⟨shared, htable, hcolumn⟩)
    · rw [hsame]
    · dsimp only at htable hcolumn ⊢
      rw [htable, hcolumn, List.append_assoc]
      rfl
    · dsimp only at htable hcolumn ⊢
      rw [htable, hcolumn, List.append_assoc]
      rfl

/-- The hash is of the joined text and tells nothing more. -/
theorem autoIndexName_eq_iff (hashCode : Text → UInt32) (first second : Text × Text) :
    autoIndexName hashCode first.1 first.2 false = autoIndexName hashCode second.1 second.2 false ↔
      first = second ∨ Overlap first second ∨ Overlap second first := by
  rw [← joined_eq_iff]
  have hname (p : Text × Text) : autoIndexName hashCode p.1 p.2 false =
      "idx_".toList ++ (p.1 ++ '_' :: p.2) ++
        ("_orm".toList ++ (hashHex (hashCode ("idx_".toList ++ (p.1 ++ '_' :: p.2)))).take 4) := by
    simp [autoIndexName]
  have hsuffix (hash : UInt32) : ("_orm".toList ++ (hashHex hash).take 4).length = 8 := by
    simp [hashHex]
  rw [hname, hname]
  constructor
  · intro h
    obtain ⟨hbase, -⟩ := List.append_inj' h (by rw [hsuffix, hsuffix])
    exact List.append_cancel_left hbase
  · intro h
    rw [h]

/-! ### The indexes of a database -/

structure TableIndex where
  name : Text
  tableName : Text
  columns : List Text
  isUnique : Bool
deriving DecidableEq

/-- The index that a statement of `CreateIndexes` asks for. -/
def indexOf (m : TOrmModel) (index : TOrmIndex) : TableIndex :=
  ⟨index.name, m.tableName, index.fields.map (·.columnName), index.isUnique⟩

/-- What `CREATE INDEX IF NOT EXISTS` does with the indexes that are asked for, in a database that
has their tables: nothing where there is an index of the same name. Which names are the same
depends on the database, as it may ignore case or cut long names. -/
structure IndexRules {Db : Type} (sameName : Text → Text → Prop) (asked : List TableIndex)
    (indexes : Db → List TableIndex) (createIndex : Db → TableIndex → Db) : Prop where
  sameName_equivalence : Equivalence sameName
  skips : ∀ db, ∀ index ∈ asked, ∀ i ∈ indexes db, sameName i.name index.name →
    indexes (createIndex db index) = indexes db
  creates : ∀ db, ∀ index ∈ asked, (∀ i ∈ indexes db, ¬ sameName i.name index.name) →
    indexes (createIndex db index) = indexes db ++ [index]

/-- A class and the model that `BuildModel` makes for it. -/
structure Entry (hashCode : Text → UInt32) where
  namingStyle : EOrmNamingStyle
  typeId : TClassId
  model : TOrmModel
  built : buildNewModel hashCode namingStyle typeId = .ok model

section

variable {Db : Type} {sameName : Text → Text → Prop} {asked : List TableIndex}
variable {indexes : Db → List TableIndex} {createIndex : Db → TableIndex → Db} {db : Db}

/-- What creating a list of indexes does: each name is in the database once, and every index of it
is one that was asked for. -/
structure Creates (sameName : Text → Text → Prop) (asked l : List TableIndex) : Prop where
  names_differ : l.Pairwise fun i j => ¬ sameName i.name j.name
  asked_for : l ⊆ asked
  named : ∀ index ∈ asked, ∃ i ∈ l, sameName i.name index.name

theorem Creates.eq_of_sameName {l : List TableIndex} (h : Creates sameName asked l)
    (hsame : Equivalence sameName) {i j : TableIndex} (hi : i ∈ l) (hj : j ∈ l)
    (hname : sameName i.name j.name) : i = j := by
  by_contra hne
  have hsymm : Std.Symm fun i j : TableIndex => ¬ sameName i.name j.name :=
    ⟨fun _ _ hnot hback => hnot (hsame.symm hback)⟩
  exact h.names_differ.forall hi hj hne hname

theorem Creates.step {done : List TableIndex} (h : Creates sameName done (indexes db))
    (hrules : IndexRules sameName asked indexes createIndex) {index : TableIndex}
    (hindex : index ∈ asked) :
    Creates sameName (done ++ [index]) (indexes (createIndex db index)) := by
  have hsame := hrules.sameName_equivalence
  by_cases hexists : ∃ i ∈ indexes db, sameName i.name index.name
  · obtain ⟨i, hi, hname⟩ := hexists
    rw [hrules.skips db index hindex i hi hname]
    refine ⟨h.names_differ, fun j hj => List.mem_append_left _ (h.asked_for hj), ?_⟩
    intro other hother
    rcases List.mem_append.mp hother with hother | hother
    · exact h.named other hother
    · rw [List.mem_singleton.mp hother]
      exact ⟨i, hi, hname⟩
  · have hfree (i : TableIndex) (hi : i ∈ indexes db) : ¬ sameName i.name index.name :=
      fun hname => hexists ⟨i, hi, hname⟩
    rw [hrules.creates db index hindex hfree]
    refine ⟨List.pairwise_append.mpr ⟨h.names_differ, List.pairwise_singleton _ _, ?_⟩, ?_, ?_⟩
    · intro i hi j hj
      rw [List.mem_singleton.mp hj]
      exact hfree i hi
    · intro i hi
      rcases List.mem_append.mp hi with hi | hi
      · exact List.mem_append_left _ (h.asked_for hi)
      · exact List.mem_append_right _ hi
    · intro other hother
      rcases List.mem_append.mp hother with hother | hother
      · obtain ⟨i, hi, hname⟩ := h.named other hother
        exact ⟨i, List.mem_append_left _ hi, hname⟩
      · rw [List.mem_singleton.mp hother]
        exact ⟨index, by simp, hsame.refl _⟩

theorem Creates.foldl {done : List TableIndex} (h : Creates sameName done (indexes db))
    (hrules : IndexRules sameName asked indexes createIndex) {todo : List TableIndex}
    (htodo : todo ⊆ asked) :
    Creates sameName (done ++ todo) (indexes (todo.foldl createIndex db)) := by
  induction todo generalizing done db with
  | nil => simpa using h
  | cons index todo ih =>
    obtain ⟨hindex, hrest⟩ := List.cons_subset.mp htodo
    simpa using ih (h.step hrules hindex) hrest

end

variable {hashCode : Text → UInt32}

/-- The statements of all models, in order. -/
def allIndexes (entries : List (Entry hashCode)) : List TableIndex :=
  entries.flatMap fun entry => entry.model.indexes.map (indexOf entry.model)

section

variable {Db : Type} (createIndex : Db → TableIndex → Db)

def createIndexes (db : Db) (m : TOrmModel) : Db := (m.indexes.map (indexOf m)).foldl createIndex db

/-- The indexes of these models are created one after the other. -/
def createAll (entries : List (Entry hashCode)) (db : Db) : Db :=
  entries.foldl (fun db entry => createIndexes createIndex db entry.model) db

variable {createIndex} {sameName : Text → Text → Prop} {indexes : Db → List TableIndex} {new : Db}

theorem creates_createAll {entries : List (Entry hashCode)}
    (hrules : IndexRules sameName (allIndexes entries) indexes createIndex)
    (hnew : indexes new = []) :
    Creates sameName (allIndexes entries) (indexes (createAll createIndex entries new)) := by
  have hstart : Creates sameName [] (indexes new) := by
    rw [hnew]
    exact ⟨List.Pairwise.nil, List.Subset.refl [], fun index h => absurd h List.not_mem_nil⟩
  have hall := hstart.foldl hrules (List.Subset.refl (allIndexes entries))
  rw [List.nil_append] at hall
  rw [allIndexes, List.foldl_flatMap] at hall
  exact hall

end

/-! ### Plain `{ index }` fields -/

/-- `{ index }` without a name. -/
def isPlainIndex (fld : TField) : Bool :=
  hasMetadata fld.metadata "index" &&
    (metadataValue fld.metadata "index" = [] || metadataValue fld.metadata "index" = ['1'])

theorem plainIndex_eq (hashCode : Text → UInt32) (tableName : Text)
    (namingStyle : EOrmNamingStyle) (fld : TField) :
    plainIndex hashCode tableName namingStyle fld =
      if isPlainIndex fld then
        some (autoIndexName hashCode tableName (determineColumnName namingStyle fld) false)
      else if hasMetadata fld.metadata "index" then some (metadataValue fld.metadata "index")
      else none := by
  unfold plainIndex isPlainIndex
  cases hasMetadata fld.metadata "index" with
  | false => rfl
  | true => simp

namespace Entry

variable (entry : Entry hashCode)

def fields : List TField := entry.typeId.enumFields.filter (!shouldIgnoreField ·)

/-- The table and the column of each plain field. -/
def plainColumns : List (Text × Text) :=
  (entry.fields.filter isPlainIndex).map fun fld =>
    (entry.model.tableName, determineColumnName entry.namingStyle fld)

/-- The name of an index that the metadata gives. -/
def NamedByHand (name : Text) : Prop :=
  ∃ fld ∈ entry.fields, namedUnique fld = some name ∨
    isPlainIndex fld = false ∧ hasMetadata fld.metadata "index" = true ∧
      metadataValue fld.metadata "index" = name

theorem tableName_eq : entry.model.tableName = determineTableName entry.namingStyle entry.typeId :=
  (buildNewModel_built entry.built).tableName_eq

theorem modelOf : ModelOf hashCode entry.namingStyle entry.typeId entry.fields entry.model :=
  buildNewModel_modelOf entry.built

theorem mem_plainColumns {p : Text × Text} : p ∈ entry.plainColumns ↔
    ∃ fld ∈ entry.fields, isPlainIndex fld = true ∧
      (entry.model.tableName, determineColumnName entry.namingStyle fld) = p := by
  simp [plainColumns, and_assoc]

/-- The index of a plain field is one of its model, over its column. -/
theorem index_plain {p : Text × Text} (h : p ∈ entry.plainColumns) :
    ∃ index ∈ entry.model.indexes, index.name = autoIndexName hashCode p.1 p.2 false ∧
      p.2 ∈ index.fields.map (·.columnName) := by
  obtain ⟨fld, hfld, hplain, rfl⟩ := entry.mem_plainColumns.mp h
  have hnames : namesIndex hashCode (determineTableName entry.namingStyle entry.typeId)
      entry.namingStyle (autoIndexName hashCode entry.model.tableName
        (determineColumnName entry.namingStyle fld) false) fld = true := by
    rw [namesIndex, plainIndex_eq, if_pos hplain, entry.tableName_eq]
    simp
  obtain ⟨index, hindex, hname⟩ := entry.modelOf.indexed fld hfld _ hnames
  refine ⟨index, hindex, hname, ?_⟩
  rw [entry.modelOf.index_fields index hindex, List.map_map]
  refine List.mem_map.mpr ⟨fld, List.mem_filter.mpr ⟨hfld, ?_⟩, rfl⟩
  rw [hname]
  exact hnames

/-- An index of a model has a name that was given, or the name of a plain field that it is over. -/
theorem index_cases {index : TOrmIndex} (h : index ∈ entry.model.indexes) :
    entry.NamedByHand index.name ∨ ∃ p ∈ entry.plainColumns,
      index.name = autoIndexName hashCode p.1 p.2 false ∧
        p.2 ∈ index.fields.map (·.columnName) := by
  have hfields := entry.modelOf.index_fields index h
  obtain ⟨f, hf⟩ := List.exists_mem_of_ne_nil _ (entry.modelOf.nonempty index h)
  rw [hfields] at hf
  obtain ⟨fld, hfld, rfl⟩ := List.mem_map.mp hf
  obtain ⟨hmem, hnames⟩ := List.mem_filter.mp hfld
  have hcolumn : determineColumnName entry.namingStyle fld ∈ index.fields.map (·.columnName) := by
    rw [hfields, List.map_map]
    exact List.mem_map.mpr ⟨fld, hfld, rfl⟩
  rw [namesIndex, Bool.or_eq_true, decide_eq_true_eq, decide_eq_true_eq, plainIndex_eq] at hnames
  split_ifs at hnames with hplain hindex
  · rcases hnames with hname | hname
    · refine .inr ⟨_, entry.mem_plainColumns.mpr ⟨fld, hmem, hplain, rfl⟩, ?_, hcolumn⟩
      rw [entry.tableName_eq]
      exact (Option.some.inj hname).symm
    · exact .inl ⟨fld, hmem, .inl hname⟩
  · rcases hnames with hname | hname
    · exact .inl ⟨fld, hmem, .inr ⟨by simpa using hplain, hindex, Option.some.inj hname⟩⟩
    · exact .inl ⟨fld, hmem, .inl hname⟩
  · exact .inl ⟨fld, hmem, .inl (hnames.resolve_left (by simp))⟩

end Entry

/-- The index of the plain field is there, under its name and over its column. -/
def Created (hashCode : Text → UInt32) (l : List TableIndex) (p : Text × Text) : Prop :=
  ∃ index ∈ l, index.name = autoIndexName hashCode p.1 p.2 false ∧ index.tableName = p.1 ∧
    p.2 ∈ index.columns

/-- The plain fields of all models. -/
def allPlain (entries : List (Entry hashCode)) : List (Text × Text) :=
  entries.flatMap Entry.plainColumns

/-- No name that is given is that of an automatic one. -/
def NamesApart (sameName : Text → Text → Prop) (entries : List (Entry hashCode)) : Prop :=
  ∀ entry ∈ entries, ∀ name, entry.NamedByHand name → ∀ p ∈ allPlain entries,
    ¬ sameName name (autoIndexName hashCode p.1 p.2 false)

/-- No two plain fields overlap, and the database tells apart the names that differ. -/
structure Separated (sameName : Text → Text → Prop) (entries : List (Entry hashCode)) : Prop where
  not_overlap : ∀ p ∈ allPlain entries, ∀ q ∈ allPlain entries, ¬ Overlap p q
  told_apart : ∀ p ∈ allPlain entries, ∀ q ∈ allPlain entries,
    sameName (autoIndexName hashCode p.1 p.2 false) (autoIndexName hashCode q.1 q.2 false) →
      autoIndexName hashCode p.1 p.2 false = autoIndexName hashCode q.1 q.2 false

section

variable {Db : Type} {sameName : Text → Text → Prop} {entries : List (Entry hashCode)}
variable {l : List TableIndex}

theorem created_of_separated (h : Creates sameName (allIndexes entries) l)
    (hnames : NamesApart sameName entries)
    (hseparated : Separated sameName entries) {p : Text × Text} (hp : p ∈ allPlain entries) :
    Created hashCode l p := by
  obtain ⟨entry, hentry, hplain⟩ := List.mem_flatMap.mp hp
  obtain ⟨index, hindex, hname, -⟩ := entry.index_plain hplain
  obtain ⟨i, hi, hasked⟩ := h.named (indexOf entry.model index)
    (List.mem_flatMap.mpr ⟨entry, hentry, List.mem_map_of_mem hindex⟩)
  have hiname : sameName i.name (autoIndexName hashCode p.1 p.2 false) := hname ▸ hasked
  obtain ⟨entry', hentry', hfound⟩ := List.mem_flatMap.mp (h.asked_for hi)
  obtain ⟨index', hindex', rfl⟩ := List.mem_map.mp hfound
  rcases entry'.index_cases hindex' with hhand | ⟨q, hq, hqname, hcolumn⟩
  · exact absurd hiname (hnames entry' hentry' _ hhand p hp)
  · have hqall : q ∈ allPlain entries := List.mem_flatMap.mpr ⟨entry', hentry', hq⟩
    have heq := hseparated.told_apart q hqall p hp (hqname ▸ hiname)
    rcases (autoIndexName_eq_iff hashCode q p).mp heq with rfl | hoverlap | hoverlap
    · obtain ⟨fld, -, -, rfl⟩ := entry'.mem_plainColumns.mp hq
      exact ⟨_, hi, hqname, rfl, hcolumn⟩
    · exact absurd hoverlap (hseparated.not_overlap q hqall p hp)
    · exact absurd hoverlap (hseparated.not_overlap p hp q hqall)

theorem separated_of_created (h : Creates sameName (allIndexes entries) l)
    (hsame : Equivalence sameName) (hall : ∀ p ∈ allPlain entries, Created hashCode l p) :
    Separated sameName entries := by
  have hindex {p q : Text × Text} (hp : p ∈ allPlain entries) (hq : q ∈ allPlain entries)
      (hname : sameName (autoIndexName hashCode p.1 p.2 false)
        (autoIndexName hashCode q.1 q.2 false)) :
      autoIndexName hashCode p.1 p.2 false = autoIndexName hashCode q.1 q.2 false ∧ p.1 = q.1 := by
    obtain ⟨i, hi, hiname, hitable, -⟩ := hall p hp
    obtain ⟨j, hj, hjname, hjtable, -⟩ := hall q hq
    rw [← hiname, ← hjname] at hname
    obtain rfl := h.eq_of_sameName hsame hi hj hname
    exact ⟨hiname.symm.trans hjname, hitable.symm.trans hjtable⟩
  refine ⟨fun p hp q hq hoverlap => ?_, fun p hp q hq hname => (hindex hp hq hname).1⟩
  have hname := (autoIndexName_eq_iff hashCode p q).mpr (.inr (.inl hoverlap))
  exact hoverlap.table_ne (hindex hp hq (hname ▸ hsame.refl _)).2

end

/-! ### Users and their roles -/

def noHash : Text → UInt32 := fun _ => 0

def indexedClass (name fieldName : String) : TClassId :=
  ⟨name.toList, [], [⟨fieldName.toList, .longTypeId, [("index", ['1'])]⟩]⟩

/-- The model of a class with one field, which has an index. -/
def indexedModel (name fieldName : String) : TOrmModel :=
  let style := EOrmNamingStyle.lowerCaseUnderscore
  let fld : TField := ⟨fieldName.toList, .longTypeId, [("index", ['1'])]⟩
  let tableName := applyNamingStyle style name.toList
  let indexName := autoIndexName noHash tableName (applyNamingStyle style fieldName.toList) false
  ⟨indexedClass name fieldName, tableName, [buildField style fld],
    [⟨indexName, [buildField style fld], false⟩], none⟩

def indexedEntry (name fieldName : String) : Entry noHash where
  namingStyle := .lowerCaseUnderscore
  typeId := indexedClass name fieldName
  model := indexedModel name fieldName
  built := rfl

def users : List (Entry noHash) := [indexedEntry "User" "name", indexedEntry "Role" "name"]

/-- Names that differ in case only are the same in SQLite. -/
def nocase (a b : Text) : Prop := a.map Char.toLower = b.map Char.toLower

instance (a b : Text) : Decidable (nocase a b) := inferInstanceAs (Decidable (_ = _))

def createNocase (db : List TableIndex) (index : TableIndex) : List TableIndex :=
  if ∃ i ∈ db, nocase i.name index.name then db else db ++ [index]

theorem indexRules (asked : List TableIndex) : IndexRules nocase asked id createNocase where
  sameName_equivalence := ⟨fun _ => rfl, Eq.symm, Eq.trans⟩
  skips _ _ _ i hi hname := if_pos ⟨i, hi, hname⟩
  creates _ _ _ hfree := if_neg fun ⟨i, hi, hname⟩ => hfree i hi hname

theorem users_apart : NamesApart nocase users := by
  rintro entry hentry name ⟨fld, hfld, hnamed⟩
  simp only [users, List.mem_cons, List.not_mem_nil, or_false] at hentry
  rcases hentry with rfl | rfl
  · obtain rfl := List.mem_singleton.mp (show fld ∈ [_] from hfld)
    rcases hnamed with hnone | ⟨hplain, -⟩
    · cases hnone
    · cases hplain
  · obtain rfl := List.mem_singleton.mp (show fld ∈ [_] from hfld)
    rcases hnamed with hnone | ⟨hplain, -⟩
    · cases hnone
    · cases hplain

end DatabaseMod.OrmIndexNames
