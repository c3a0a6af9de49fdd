import DatabaseMod.OrmModelBuilder

/-!
# Models and their registry

Two kinds of metadata put fields into indexes. The field loop of `BuildModel` is followed once more,
with the list of all uses of an index name. Models are objects: a registry refers to them, and a
call either throws or answers a reference.
-/

namespace DatabaseMod.OrmRegistry
open SqlTokens (Text)
open LoopRules OrmModel OrmModelBuilder

/-! ### The uses of index names -/

section

variable (hashCode : Text → UInt32) (tableName : Text) (namingStyle : EOrmNamingStyle)

/-- The index that `{ index }` or `{ index = "..." }` names. -/
def plainIndex (fld : TField) : Option Text :=
  if hasMetadata fld.metadata "index" then
    let indexName := metadataValue fld.metadata "index"
    if indexName = [] ∨ indexName = ['1'] then
      some (autoIndexName hashCode tableName (determineColumnName namingStyle fld) false)
    else some indexName
  else none

/-- A field in the index of a name. -/
structure IndexUse where
  name : Text
  fld : TOrmField
  isUnique : Bool

def usesOf (fld : TField) : List IndexUse :=
  (plainIndex hashCode tableName namingStyle fld).toList.map
      (⟨·, buildField namingStyle fld, false⟩) ++
    (namedUnique fld).toList.map (⟨·, buildField namingStyle fld, true⟩)

/-- The metadata of the field names the index. -/
def namesIndex (name : Text) (fld : TField) : Bool :=
  plainIndex hashCode tableName namingStyle fld = some name || namedUnique fld = some name

end

/-- The indexes hold these uses, each index the uses of its name. -/
structure Grouped (uses : List IndexUse) (indexes : List TOrmIndex) : Prop where
  names_nodup : (indexes.map (·.name)).Nodup
  fields_eq : ∀ index ∈ indexes, index.fields =
    (uses.filter (·.name = index.name)).map (·.fld)
  isUnique_eq : ∀ index ∈ indexes, ∀ use ∈ uses, use.name = index.name →
    use.isUnique = index.isUnique
  used : ∀ index ∈ indexes, ∃ use ∈ uses, use.name = index.name
  present : ∀ use ∈ uses, ∃ index ∈ indexes, index.name = use.name

theorem grouped_nil : Grouped [] [] := by
  constructor <;> simp

theorem appendToIndex_eq {l : List TOrmIndex} (hl : (l.map (·.name)).Nodup) (name : Text)
    (fld : TOrmField) : appendToIndex name fld l = l.map fun index =>
      if index.name = name then { index with fields := index.fields ++ [fld] } else index := by
  induction l with
  | nil => rfl
  | cons first l ih =>
    rw [List.map_cons, List.nodup_cons] at hl
    rw [appendToIndex, List.map_cons]
    split_ifs with hname
    · have hrest : l.map (fun index => if index.name = name then
          { index with fields := index.fields ++ [fld] } else index) = l := by
        refine (List.map_congr_left fun index hi => if_neg fun h => hl.1 ?_).trans (List.map_id l)
        rw [hname, ← h]
        exact List.mem_map_of_mem hi
      rw [hrest]
    · rw [ih hl.2]

theorem fieldsOf_append (uses : List IndexUse) (use : IndexUse) (name : Text) :
    ((uses ++ [use]).filter (·.name = name)).map (·.fld) =
      (uses.filter (·.name = name)).map (·.fld) ++ if use.name = name then [use.fld] else [] := by
  rw [List.filter_append, List.map_append, List.filter_singleton]
  by_cases h : use.name = name
  · simp [h]
  · simp [h]

theorem Grouped.append_new {uses : List IndexUse} {indexes : List TOrmIndex}
    (h : Grouped uses indexes) (use : IndexUse) (hnew : ∀ index ∈ indexes, index.name ≠ use.name) :
    Grouped (uses ++ [use]) (indexes ++ [⟨use.name, [use.fld], use.isUnique⟩]) := by
  have hunused : ∀ other ∈ uses, other.name ≠ use.name := by
    intro other hother hname
    obtain ⟨index, hi, heq⟩ := h.present other hother
    exact hnew index hi (heq.trans hname)
  constructor
  · rw [List.map_append, List.map_singleton, List.nodup_append]
    refine ⟨h.names_nodup, List.nodup_singleton _, ?_⟩
    intro a ha b hb
    obtain ⟨index, hi, rfl⟩ := List.mem_map.mp ha
    rw [List.mem_singleton.mp hb]
    exact hnew index hi
  · intro index hi
    rw [fieldsOf_append]
    rcases List.mem_append.mp hi with hi | hi
    · rw [if_neg (hnew index hi).symm, List.append_nil]
      exact h.fields_eq index hi
    · obtain rfl := List.mem_singleton.mp hi
      have hnone : uses.filter (·.name = use.name) = [] := by
        rw [List.filter_eq_nil_iff]
        exact fun other hother hname => hunused other hother (of_decide_eq_true hname)
      rw [hnone, if_pos rfl]
      rfl
  · intro index hi other hother hname
    rcases List.mem_append.mp hi with hold | hi'
    · rcases List.mem_append.mp hother with ho | ho
      · exact h.isUnique_eq index hold other ho hname
      · rw [List.mem_singleton.mp ho] at hname
        exact absurd hname.symm (hnew index hold)
    · rw [List.mem_singleton.mp hi'] at hname ⊢
      rcases List.mem_append.mp hother with ho | ho
      · exact absurd hname (hunused other ho)
      · rw [List.mem_singleton.mp ho]
  · intro index hi
    rcases List.mem_append.mp hi with hi | hi
    · obtain ⟨other, hother, hname⟩ := h.used index hi
      exact ⟨other, List.mem_append_left _ hother, hname⟩
    · obtain rfl := List.mem_singleton.mp hi
      exact ⟨use, by simp, rfl⟩
  · intro other hother
    rcases List.mem_append.mp hother with ho | ho
    · obtain ⟨index, hi, hname⟩ := h.present other ho
      exact ⟨index, List.mem_append_left _ hi, hname⟩
    · obtain rfl := List.mem_singleton.mp ho
      exact ⟨_, List.mem_append_right _ (List.mem_singleton_self _), rfl⟩

theorem Grouped.append_old {uses : List IndexUse} {indexes : List TOrmIndex}
    (h : Grouped uses indexes) (use : IndexUse) {index : TOrmIndex} (hindex : index ∈ indexes)
    (hname : index.name = use.name) (hunique : index.isUnique = use.isUnique) :
    Grouped (uses ++ [use]) (appendToIndex use.name use.fld indexes) := by
  have hmem : ∀ i ∈ appendToIndex use.name use.fld indexes, ∃ old ∈ indexes,
      i = if old.name = use.name then { old with fields := old.fields ++ [use.fld] } else old := by
    rw [appendToIndex_eq h.names_nodup]
    intro i hi
    obtain ⟨old, hold, heq⟩ := List.mem_map.mp hi
    exact ⟨old, hold, heq.symm⟩
  have hsame (old : TOrmIndex) : (if old.name = use.name then
      { old with fields := old.fields ++ [use.fld] } else old).name = old.name ∧
      (if old.name = use.name then { old with fields := old.fields ++ [use.fld] }
        else old).isUnique = old.isUnique := by
    split_ifs
    · exact ⟨rfl, rfl⟩
    · exact ⟨rfl, rfl⟩
  have hone {old : TOrmIndex} (hold : old ∈ indexes) (heq : old.name = use.name) : old = index :=
    List.inj_on_of_nodup_map h.names_nodup hold hindex (heq.trans hname.symm)
  constructor
  · rw [appendToIndex_names]
    exact h.names_nodup
  · intro i hi
    obtain ⟨old, hold, rfl⟩ := hmem i hi
    rw [(hsame old).1, fieldsOf_append, ← h.fields_eq old hold]
    by_cases heq : old.name = use.name
    · rw [if_pos heq, if_pos heq.symm]
    · rw [if_neg heq, if_neg (Ne.symm heq), List.append_nil]
  · intro i hi other hother hothername
    obtain ⟨old, hold, rfl⟩ := hmem i hi
    rw [(hsame old).1] at hothername
    rw [(hsame old).2]
    rcases List.mem_append.mp hother with ho | ho
    · exact h.isUnique_eq old hold other ho hothername
    · obtain rfl := List.mem_singleton.mp ho
      rw [hone hold hothername.symm, hunique]
  · intro i hi
    obtain ⟨old, hold, rfl⟩ := hmem i hi
    obtain ⟨other, hother, heq⟩ := h.used old hold
    exact ⟨other, List.mem_append_left _ hother, heq.trans (hsame old).1.symm⟩
  · intro other hother
    have hnames : other.name ∈ (appendToIndex use.name use.fld indexes).map (·.name) := by
      rw [appendToIndex_names, List.mem_map]
      rcases List.mem_append.mp hother with ho | ho
      · exact h.present other ho
      · obtain rfl := List.mem_singleton.mp ho
        exact ⟨index, hindex, hname⟩
    exact List.mem_map.mp hnames

theorem Grouped.addIndexField {uses : List IndexUse} {m m' : TOrmModel} {name : Text}
    {fld : TOrmField} {isUnique : Bool} (hm : Grouped uses m.indexes)
    (h : addIndexField m name fld isUnique = .ok m') :
    Grouped (uses ++ [⟨name, fld, isUnique⟩]) m'.indexes := by
  unfold OrmModel.addIndexField findIndex at h
  cases hfind : m.indexes.find? fun index => index.name = name with
  | none =>
    rw [hfind] at h
    obtain rfl := Except.ok.inj h
    exact hm.append_new ⟨name, fld, isUnique⟩ (by simpa using hfind)
  | some index =>
    rw [hfind] at h
    dsimp only at h
    split_ifs at h with hunique
    obtain rfl := Except.ok.inj h
    exact hm.append_old ⟨name, fld, isUnique⟩ (List.mem_of_find?_eq_some hfind)
      (by simpa using List.find?_some hfind) (not_not.mp hunique)

/-! ### The indexes of a model -/

section

variable {hashCode : Text → UInt32} {namingStyle : EOrmNamingStyle}

theorem Grouped.collectIndexes {uses : List IndexUse} {m m' : TOrmModel} {fld : TField}
    (hm : Grouped uses m.indexes)
    (h : collectIndexes hashCode m (buildField namingStyle fld) fld = .ok m') :
    Grouped (uses ++ usesOf hashCode m.tableName namingStyle fld) m'.indexes := by
  rw [OrmModel.collectIndexes, bind_eq_ok] at h
  obtain ⟨m₁, hindex, hunique⟩ := h
  have hplain : Grouped (uses ++ (plainIndex hashCode m.tableName namingStyle fld).toList.map
      (⟨·, buildField namingStyle fld, false⟩)) m₁.indexes := by
    unfold collectIndexMetadata at hindex
    unfold plainIndex
    dsimp only at hindex ⊢
    split_ifs at hindex ⊢ with hmeta hname
    · exact hm.addIndexField hindex
    · exact hm.addIndexField hindex
    · rw [← Except.ok.inj hindex, Option.toList_none, List.map_nil, List.append_nil]
      exact hm
  rw [usesOf, ← List.append_assoc]
  unfold collectUniqueMetadata at hunique
  dsimp only at hunique
  split_ifs at hunique with hmeta hname
  · have hnamed : namedUnique fld = some (metadataValue fld.metadata "unique") := by
      simp [namedUnique, plainUnique, hmeta, hname]
    rw [hnamed]
    exact hplain.addIndexField hunique
  · have hnamed : namedUnique fld = none := by
      rw [not_and_or, not_not, not_not] at hname
      simpa [namedUnique, plainUnique, hmeta, or_iff_not_imp_left] using hname
    rw [hnamed, ← Except.ok.inj hunique, Option.toList_none, List.map_nil, List.append_nil]
    exact hplain
  · have hnamed : namedUnique fld = none := by simp [namedUnique, hmeta]
    rw [hnamed, ← Except.ok.inj hunique, Option.toList_none, List.map_nil, List.append_nil]
    exact hplain

/-- The uses of all fields of a type. -/
def allUses (hashCode : Text → UInt32) (tableName : Text) (namingStyle : EOrmNamingStyle)
    (flds : List TField) : List IndexUse := flds.flatMap (usesOf hashCode tableName namingStyle)

theorem addField_grouped {uses : List IndexUse} {m m' : TOrmModel} {fld : TField}
    (hm : Grouped uses m.indexes) (hkeep : shouldIgnoreField fld = false)
    (h : addField hashCode namingStyle m fld = .ok m') :
    Grouped (uses ++ usesOf hashCode m.tableName namingStyle fld) m'.indexes := by
  simp only [addField, hkeep, Bool.false_eq_true, if_false, bind_eq_ok] at h
  obtain ⟨m₁, hcollect, hkey⟩ := h
  have hfields : Grouped uses
    { m with fields := m.fields ++ [buildField namingStyle fld] }.indexes := hm
  have hgrouped := hfields.collectIndexes hcollect
  split_ifs at hkey
  · rw [← Except.ok.inj hkey]
    exact hgrouped
  · rw [← Except.ok.inj hkey]
    exact hgrouped

theorem buildNewModel_grouped {typeId : TClassId} {m : TOrmModel}
    (h : buildNewModel hashCode namingStyle typeId = .ok m) :
    Grouped (allUses hashCode (determineTableName namingStyle typeId) namingStyle
      (typeId.enumFields.filter (!shouldIgnoreField ·))) m.indexes := by
  have hrun := foldlM_invariant
    (fun done s => Built namingStyle typeId (done.filter (!shouldIgnoreField ·)) s ∧
      Grouped (allUses hashCode (determineTableName namingStyle typeId) namingStyle
        (done.filter (!shouldIgnoreField ·))) s.indexes)
    ?_ typeId.enumFields ?_ h
  · exact hrun.2
  · rintro done fld s t ⟨hbuilt, hgrouped⟩ hstep
    rw [List.filter_append]
    cases hkeep : shouldIgnoreField fld with
    | true =>
      rw [addField, if_pos hkeep] at hstep
      rw [← Except.ok.inj hstep]
      simpa [hkeep] using ⟨hbuilt, hgrouped⟩
    | false =>
      have hadded := addField_grouped hgrouped hkeep hstep
      rw [hbuilt.tableName_eq] at hadded
      refine ⟨by simpa [hkeep] using addField_built hbuilt hkeep hstep, ?_⟩
      simpa [hkeep, allUses] using hadded
  · exact ⟨⟨rfl, rfl, rfl, rfl, by constructor <;> simp, fun n => rfl⟩, grouped_nil⟩

/-- The model of a type: its fields, its key and its indexes are what the metadata says. -/
structure ModelOf (hashCode : Text → UInt32) (namingStyle : EOrmNamingStyle) (typeId : TClassId)
    (flds : List TField) (m : TOrmModel) : Prop where
  fields_eq : m.fields = flds.map (buildField namingStyle)
  primaryKey_eq : m.fields.filter (·.isPrimaryKey) = m.primaryKey.toList
  names_nodup : (m.indexes.map (·.name)).Nodup
  nonempty : ∀ index ∈ m.indexes, index.fields ≠ []
  index_fields : ∀ index ∈ m.indexes, index.fields =
    (flds.filter (namesIndex hashCode (determineTableName namingStyle typeId) namingStyle
      index.name)).map (buildField namingStyle)
  index_plain : ∀ index ∈ m.indexes, ∀ fld ∈ flds,
    plainIndex hashCode (determineTableName namingStyle typeId) namingStyle fld = some index.name →
      index.isUnique = false
  index_unique : ∀ index ∈ m.indexes, ∀ fld ∈ flds, namedUnique fld = some index.name →
    index.isUnique = true
  indexed : ∀ fld ∈ flds, ∀ name, namesIndex hashCode (determineTableName namingStyle typeId)
    namingStyle name fld = true → ∃ index ∈ m.indexes, index.name = name

variable {tableName : Text}

theorem mem_usesOf_iff {fld : TField} {use : IndexUse} :
    use ∈ usesOf hashCode tableName namingStyle fld ↔ use.fld = buildField namingStyle fld ∧
      (use.isUnique = false ∧ plainIndex hashCode tableName namingStyle fld = some use.name ∨
        use.isUnique = true ∧ namedUnique fld = some use.name) := by
  obtain ⟨name, f, isUnique⟩ := use
  rw [usesOf, List.mem_append, List.mem_map, List.mem_map]
  simp only [Option.mem_toList, IndexUse.mk.injEq]
  constructor
  · rintro (⟨n, hn, rfl, rfl, rfl⟩ | ⟨n, hn, rfl, rfl, rfl⟩)
    · exact ⟨rfl, .inl ⟨rfl, hn⟩⟩
    · exact ⟨rfl, .inr ⟨rfl, hn⟩⟩
  · rintro ⟨rfl, ⟨rfl, hn⟩ | ⟨rfl, hn⟩⟩
    · exact .inl ⟨name, hn, rfl, rfl, rfl⟩
    · exact .inr ⟨name, hn, rfl, rfl, rfl⟩

/-- A field that does not use a name in both ways uses it once. -/
theorem fieldsOf_usesOf {fld : TField} {name : Text}
    (h : ¬ (plainIndex hashCode tableName namingStyle fld = some name ∧
      namedUnique fld = some name)) :
    ((usesOf hashCode tableName namingStyle fld).filter (·.name = name)).map (·.fld) =
      if namesIndex hashCode tableName namingStyle name fld then [buildField namingStyle fld]
      else [] := by
  unfold usesOf namesIndex
  cases hplain : plainIndex hashCode tableName namingStyle fld with
  | none =>
    cases hnamed : namedUnique fld with
    | none => rfl
    | some n =>
      by_cases hn : n = name
      · simp [hn]
      · simp [hn]
  | some p =>
    rw [hplain] at h
    cases hnamed : namedUnique fld with
    | none =>
      by_cases hp : p = name
      · simp [hp]
      · simp [hp]
    | some n =>
      rw [hnamed] at h
      by_cases hp : p = name
      · have hn : ¬ n = name := fun hn => h ⟨congrArg some hp, congrArg some hn⟩
        simp [hp, hn]
      · by_cases hn : n = name
        · simp [hp, hn]
        · simp [hp, hn]

theorem fieldsOf_allUses {flds : List TField} {name : Text}
    (h : ∀ fld ∈ flds, ¬ (plainIndex hashCode tableName namingStyle fld = some name ∧
      namedUnique fld = some name)) :
    ((allUses hashCode tableName namingStyle flds).filter (·.name = name)).map (·.fld) =
      (flds.filter (namesIndex hashCode tableName namingStyle name)).map
        (buildField namingStyle) := by
  induction flds with
  | nil => rfl
  | cons fld flds ih =>
    rw [allUses, List.flatMap_cons, List.filter_append, List.map_append,
      fieldsOf_usesOf (h fld List.mem_cons_self), List.filter_cons]
    have hrest := ih fun other hother => h other (List.mem_cons_of_mem _ hother)
    rw [allUses] at hrest
    rw [hrest]
    split_ifs
    · rfl
    · rfl

theorem buildNewModel_modelOf {typeId : TClassId} {m : TOrmModel}
    (h : buildNewModel hashCode namingStyle typeId = .ok m) :
    ModelOf hashCode namingStyle typeId (typeId.enumFields.filter (!shouldIgnoreField ·)) m := by
  have hbuilt := buildNewModel_built h
  have hgrouped := buildNewModel_grouped h
  set flds := typeId.enumFields.filter (!shouldIgnoreField ·)
  set tableName := determineTableName namingStyle typeId
  have hplain : ∀ index ∈ m.indexes, ∀ fld ∈ flds,
      plainIndex hashCode tableName namingStyle fld = some index.name → index.isUnique = false := by
    intro index hi fld hfld hname
    have hmem : (⟨index.name, buildField namingStyle fld, false⟩ : IndexUse) ∈
        allUses hashCode tableName namingStyle flds :=
      List.mem_flatMap.mpr ⟨fld, hfld, mem_usesOf_iff.mpr ⟨rfl, .inl ⟨rfl, hname⟩⟩⟩
    exact (hgrouped.isUnique_eq index hi _ hmem rfl).symm
  have hunique : ∀ index ∈ m.indexes, ∀ fld ∈ flds, namedUnique fld = some index.name →
      index.isUnique = true := by
    intro index hi fld hfld hname
    have hmem : (⟨index.name, buildField namingStyle fld, true⟩ : IndexUse) ∈
        allUses hashCode tableName namingStyle flds :=
      List.mem_flatMap.mpr ⟨fld, hfld, mem_usesOf_iff.mpr ⟨rfl, .inr ⟨rfl, hname⟩⟩⟩
    exact (hgrouped.isUnique_eq index hi _ hmem rfl).symm
  refine ⟨hbuilt.fields_eq, hbuilt.primaryKey_eq, hgrouped.names_nodup, hbuilt.indexed.nonempty, ?_,
    hplain, hunique, ?_⟩
  · intro index hi
    rw [hgrouped.fields_eq index hi]
    refine fieldsOf_allUses fun fld hfld hboth => ?_
    exact Bool.false_ne_true
      ((hplain index hi fld hfld hboth.1).symm.trans (hunique index hi fld hfld hboth.2))
  · intro fld hfld name hname
    rw [namesIndex, Bool.or_eq_true, decide_eq_true_eq, decide_eq_true_eq] at hname
    obtain hname | hname := hname
    · exact hgrouped.present ⟨name, buildField namingStyle fld, false⟩
        (List.mem_flatMap.mpr ⟨fld, hfld, mem_usesOf_iff.mpr ⟨rfl, .inl ⟨rfl, hname⟩⟩⟩)
    · exact hgrouped.present ⟨name, buildField namingStyle fld, true⟩
        (List.mem_flatMap.mpr ⟨fld, hfld, mem_usesOf_iff.mpr ⟨rfl, .inr ⟨rfl, hname⟩⟩⟩)

end

/-! ### Model objects -/

/-- The model objects that were made, and the ones that the registry refers to. -/
structure Models where
  registry : List (TClassId × ℕ)
  objects : List TOrmModel
deriving DecidableEq, Repr

def typeNotFound (typeName : Text) : TOrmException := ⟨"Type not found: ".toList ++ typeName⟩

section

variable (hashCode : Text → UInt32) (namingStyle : EOrmNamingStyle)

/-- The object of a model whose building throws is dropped. -/
def buildModelObject (typeId : TClassId) (s : Models) : Except TOrmException ℕ × Models :=
  match s.registry.lookup typeId with
  | some ref => (.ok ref, s)
  | none =>
    match buildNewModel hashCode namingStyle typeId with
    | .error e => (.error e, s)
    | .ok m => (.ok s.objects.length,
        ⟨(typeId, s.objects.length) :: s.registry, s.objects ++ [m]⟩)

def getOrBuildModelForType (typeId : TClassId) (s : Models) : Except TOrmException ℕ × Models :=
  match s.registry.lookup typeId with
  | some ref => (.ok ref, s)
  | none => buildModelObject hashCode namingStyle typeId s

/-- `forName` is the reflection's look-up of a type. -/
def getOrBuildModelForName (forName : Text → Option TClassId) (typeName : Text) (s : Models) :
    Except TOrmException ℕ × Models :=
  match forName typeName with
  | none => (.error (typeNotFound typeName), s)
  | some typeId => getOrBuildModelForType hashCode namingStyle typeId s

end

/-- A call, by a builder with a naming style. -/
inductive Call
  | buildModel (namingStyle : EOrmNamingStyle) (typeId : TClassId)
  | buildModelForName (namingStyle : EOrmNamingStyle) (typeName : Text)
  | getOrBuildModelForType (namingStyle : EOrmNamingStyle) (typeId : TClassId)
  | getOrBuildModelForName (namingStyle : EOrmNamingStyle) (typeName : Text)
deriving DecidableEq, Repr

section

variable (hashCode : Text → UInt32) (forName : Text → Option TClassId)

def Call.perform (s : Models) : Call → Except TOrmException ℕ × Models
  | .buildModel namingStyle typeId => buildModelObject hashCode namingStyle typeId s
  | .buildModelForName namingStyle typeName =>
    match forName typeName with
    | none => (.error (typeNotFound typeName), s)
    | some typeId => buildModelObject hashCode namingStyle typeId s
  | .getOrBuildModelForType namingStyle typeId =>
    OrmRegistry.getOrBuildModelForType hashCode namingStyle typeId s
  | .getOrBuildModelForName namingStyle typeName =>
    OrmRegistry.getOrBuildModelForName hashCode namingStyle forName typeName s

def Call.namingStyle : Call → EOrmNamingStyle
  | .buildModel namingStyle _ | .buildModelForName namingStyle _
  | .getOrBuildModelForType namingStyle _ | .getOrBuildModelForName namingStyle _ => namingStyle

/-- The type that the call is about, if there is one. -/
def Call.typeId : Call → Option TClassId
  | .buildModel _ typeId | .getOrBuildModelForType _ typeId => some typeId
  | .buildModelForName _ typeName | .getOrBuildModelForName _ typeName => forName typeName

/-- The state after the calls, of which some may have thrown. -/
def run (calls : List Call) (s : Models) : Models :=
  calls.foldl (fun s call => (call.perform hashCode forName s).2) s

variable {hashCode forName} {s : Models}

theorem getOrBuildModelForType_eq (namingStyle : EOrmNamingStyle) (typeId : TClassId) :
    getOrBuildModelForType hashCode namingStyle typeId s =
      buildModelObject hashCode namingStyle typeId s := by
  unfold getOrBuildModelForType
  cases h : s.registry.lookup typeId with
  | none => rfl
  | some ref => rw [buildModelObject, h]

/-- Every call is a `BuildModel` of its type. -/
theorem Call.perform_of_type (call : Call) {typeId : TClassId}
    (h : call.typeId forName = some typeId) :
    call.perform hashCode forName s = buildModelObject hashCode call.namingStyle typeId s := by
  cases call with
  | buildModel namingStyle other =>
    obtain rfl := Option.some.inj h
    rfl
  | buildModelForName namingStyle typeName =>
    have hname : forName typeName = some typeId := h
    rw [Call.perform, hname]
    rfl
  | getOrBuildModelForType namingStyle other =>
    obtain rfl := Option.some.inj h
    exact getOrBuildModelForType_eq namingStyle other
  | getOrBuildModelForName namingStyle typeName =>
    have hname : forName typeName = some typeId := h
    rw [Call.perform, OrmRegistry.getOrBuildModelForName, hname]
    exact getOrBuildModelForType_eq namingStyle typeId

theorem Call.perform_of_none (call : Call) (h : call.typeId forName = none) :
    ∃ e, call.perform hashCode forName s = (.error e, s) := by
  cases call with
  | buildModel namingStyle typeId => cases h
  | buildModelForName namingStyle typeName =>
    have hname : forName typeName = none := h
    exact ⟨typeNotFound typeName, by rw [Call.perform, hname]⟩
  | getOrBuildModelForType namingStyle typeId => cases h
  | getOrBuildModelForName namingStyle typeName =>
    have hname : forName typeName = none := h
    exact ⟨typeNotFound typeName, by rw [Call.perform, OrmRegistry.getOrBuildModelForName, hname]⟩

/-- A call throws, or it answers the model of a registered type, or it registers a new one. -/
theorem Call.perform_cases (call : Call) :
    (∃ e, call.perform hashCode forName s = (.error e, s)) ∨
      (∃ typeId ref, call.typeId forName = some typeId ∧ s.registry.lookup typeId = some ref ∧
        call.perform hashCode forName s = (.ok ref, s)) ∨
      ∃ typeId m, call.typeId forName = some typeId ∧ s.registry.lookup typeId = none ∧
        buildNewModel hashCode call.namingStyle typeId = .ok m ∧
        call.perform hashCode forName s = (.ok s.objects.length,
          ⟨(typeId, s.objects.length) :: s.registry, s.objects ++ [m]⟩) := by
  cases htype : call.typeId forName with
  | none => exact .inl (call.perform_of_none htype)
  | some typeId =>
    rw [call.perform_of_type htype]
    unfold buildModelObject
    cases hlookup : s.registry.lookup typeId with
    | some ref => exact .inr (.inl ⟨typeId, ref, rfl, hlookup, rfl⟩)
    | none =>
      cases hbuild : buildNewModel hashCode call.namingStyle typeId with
      | error e => exact .inl ⟨e, rfl⟩
      | ok m => exact .inr (.inr ⟨typeId, m, rfl, hlookup, hbuild, rfl⟩)

/-! ### Runs -/

/-- The registry of objects stands for the registry of values, whose models a builder made. -/
def Views (s : Models) (r : TOrmRegistry hashCode) : Prop :=
  List.Forall₂ (fun entry e => entry.1 = e.1 ∧ s.objects[entry.2]? = some e.2) s.registry r.models

variable {r : TOrmRegistry hashCode}

theorem Views.lookup (h : Views s r) (typeId : TClassId) :
    (s.registry.lookup typeId = none ∧ r.models.lookup typeId = none) ∨
      ∃ ref m, s.registry.lookup typeId = some ref ∧ r.models.lookup typeId = some m ∧
        s.objects[ref]? = some m := by
  unfold Views at h
  generalize s.registry = registry at h ⊢
  generalize r.models = models at h ⊢
  induction h with
  | nil => exact .inl ⟨rfl, rfl⟩
  | @cons entry e registry models hentry hrest ih =>
    obtain ⟨hsame, hobject⟩ := hentry
    by_cases hfirst : typeId = entry.1
    · refine .inr ⟨entry.2, e.2, ?_, ?_, hobject⟩
      · rw [List.lookup_cons, hfirst, beq_self_eq_true]
      · rw [List.lookup_cons, hfirst, hsame, beq_self_eq_true]
    · have hskip : (typeId == entry.1) = false := beq_eq_false_iff_ne.mpr hfirst
      have hskip' : (typeId == e.1) = false := hsame ▸ hskip
      rw [List.lookup_cons, hskip, List.lookup_cons, hskip']
      exact ih

theorem getElem?_append_some {objects : List TOrmModel} {ref : ℕ} {m : TOrmModel}
    (h : objects[ref]? = some m) (new : List TOrmModel) : (objects ++ new)[ref]? = some m := by
  obtain ⟨hlt, -⟩ := List.getElem?_eq_some_iff.mp h
  rw [List.getElem?_append_left hlt, h]

/-- On objects `BuildModel` does what it does on values. -/
theorem buildModelObject_refines (h : Views s r) (namingStyle : EOrmNamingStyle)
    (typeId : TClassId) :
    (∃ e, buildModel (some r) namingStyle typeId = .error e ∧
      buildModelObject hashCode namingStyle typeId s = (.error e, s)) ∨
    ∃ m r' ref s', buildModel (some r) namingStyle typeId = .ok (m, some r') ∧
      buildModelObject hashCode namingStyle typeId s = (.ok ref, s') ∧
      s'.objects[ref]? = some m ∧ Views s' r' := by
  unfold buildModel buildModelObject
  obtain ⟨hnone, hnone'⟩ | ⟨ref, m, hsome, hsome', hobject⟩ := h.lookup typeId
  · rw [hnone]
    simp only [hnone']
    split
    next e hbuild => exact .inl ⟨e, rfl, by rw [hbuild]⟩
    next m hbuild =>
      refine .inr ⟨m, _, s.objects.length, _, rfl, by rw [hbuild], by simp, ?_⟩
      refine .cons ⟨rfl, by simp⟩ (h.imp fun entry e hentry => ?_)
      exact ⟨hentry.1, getElem?_append_some hentry.2 [m]⟩
  · rw [hsome]
    simp only [hsome']
    exact .inr ⟨m, r, ref, s, rfl, rfl, hobject, h⟩

theorem Views.perform (h : Views s r) (call : Call) :
    ∃ r' : TOrmRegistry hashCode, Views (call.perform hashCode forName s).2 r' := by
  cases htype : call.typeId forName with
  | none =>
    have hnone : ∃ e, call.perform hashCode forName s = (.error e, s) := call.perform_of_none htype
    obtain ⟨e, he⟩ := hnone
    exact ⟨r, he ▸ h⟩
  | some typeId =>
    rw [call.perform_of_type htype]
    obtain ⟨e, -, he⟩ | ⟨m, r', ref, s', -, hs', -, hviews⟩ :=
      buildModelObject_refines h call.namingStyle typeId
    · exact ⟨r, he ▸ h⟩
    · exact ⟨r', hs' ▸ hviews⟩

theorem run_views (calls : List Call) :
    ∃ r : TOrmRegistry hashCode, Views (run hashCode forName calls ⟨[], []⟩) r := by
  refine List.foldlRecOn (motive := fun s => ∃ r : TOrmRegistry hashCode, Views s r) calls _
    ⟨⟨[], nofun⟩, .nil⟩ ?_
  rintro s ⟨r, h⟩ call -
  exact h.perform call

theorem Views.modelOf (h : Views s r) {typeId : TClassId} {ref : ℕ}
    (hlookup : s.registry.lookup typeId = some ref) : ∃ m namingStyle, s.objects[ref]? = some m ∧
      ModelOf hashCode namingStyle typeId (typeId.enumFields.filter (!shouldIgnoreField ·)) m := by
  obtain ⟨hnone, -⟩ | ⟨ref', m, hsome, hmodel, hobject⟩ := h.lookup typeId
  · cases hlookup.symm.trans hnone
  · obtain rfl := Option.some.inj (hsome.symm.trans hlookup)
    obtain ⟨l₁, l₂, hl, -⟩ := List.lookup_eq_some_iff.mp hmodel
    obtain ⟨namingStyle, hbuild⟩ := r.built (typeId, m) (by simp [hl])
    exact ⟨m, namingStyle, hobject, buildNewModel_modelOf hbuild⟩

/-- A registered type keeps its object, and the object stays as it is. -/
theorem Call.perform_keeps (call : Call) {typeId : TClassId} {ref : ℕ} {m : TOrmModel}
    (hlookup : s.registry.lookup typeId = some ref) (hobject : s.objects[ref]? = some m) :
    (call.perform hashCode forName s).2.registry.lookup typeId = some ref ∧
      (call.perform hashCode forName s).2.objects[ref]? = some m := by
  obtain ⟨e, he⟩ | ⟨_, _, -, -, hs⟩ | ⟨other, new, -, hnone, -, hs⟩ :=
    @Call.perform_cases hashCode forName s call
  · rw [he]
    exact ⟨hlookup, hobject⟩
  · rw [hs]
    exact ⟨hlookup, hobject⟩
  · rw [hs]
    have hne : (typeId == other) = false := by
      rw [beq_eq_false_iff_ne]
      rintro rfl
      cases hlookup.symm.trans hnone
    exact ⟨by rw [List.lookup_cons, hne]; exact hlookup, getElem?_append_some hobject [new]⟩

theorem run_keeps (calls : List Call) {typeId : TClassId} {ref : ℕ} {m : TOrmModel}
    (hlookup : s.registry.lookup typeId = some ref) (hobject : s.objects[ref]? = some m) :
    (run hashCode forName calls s).registry.lookup typeId = some ref ∧
      (run hashCode forName calls s).objects[ref]? = some m :=
  List.foldlRecOn (motive := fun s : Models => s.registry.lookup typeId = some ref ∧
    s.objects[ref]? = some m) calls _ ⟨hlookup, hobject⟩ fun _ h call _ =>
      call.perform_keeps h.1 h.2

end

/-- After any calls, of which some may have thrown: a registered model is what the metadata of its
type says, a call that throws changes nothing, and later calls for a registered type answer the same
object, which stays as it is. -/
theorem registry_sound (hashCode : Text → UInt32) (forName : Text → Option TClassId)
    (calls : List Call) :
    let s := run hashCode forName calls ⟨[], []⟩
    (∀ typeId ref, s.registry.lookup typeId = some ref →
      ∃ m namingStyle, s.objects[ref]? = some m ∧
        ModelOf hashCode namingStyle typeId (typeId.enumFields.filter (!shouldIgnoreField ·)) m) ∧
    (∀ call e, (Call.perform hashCode forName s call).1 = .error e →
      (Call.perform hashCode forName s call).2 = s) ∧
    ∀ typeId ref, s.registry.lookup typeId = some ref → ∀ more call,
      Call.typeId forName call = some typeId →
      (Call.perform hashCode forName (run hashCode forName (calls ++ more) ⟨[], []⟩) call).1 =
          .ok ref ∧
        (run hashCode forName (calls ++ more) ⟨[], []⟩).objects[ref]? = s.objects[ref]? := by
  intro s
  obtain ⟨r, hviews⟩ := @run_views hashCode forName calls
  refine ⟨fun typeId ref => hviews.modelOf, fun call e herror => ?_,
    fun typeId ref hlookup more call htype => ?_⟩
  · obtain ⟨e', he⟩ | ⟨_, _, -, -, hs⟩ | ⟨_, _, -, -, -, hs⟩ :=
      @Call.perform_cases hashCode forName s call
    · rw [he]
    · rw [hs]
    · rw [hs] at herror
      cases herror
  · obtain ⟨m, -, hobject, -⟩ := hviews.modelOf hlookup
    have hkept : (run hashCode forName more s).registry.lookup typeId = some ref ∧
      (run hashCode forName more s).objects[ref]? = some m := run_keeps more hlookup hobject
    have hrun : run hashCode forName (calls ++ more) ⟨[], []⟩ = run hashCode forName more s :=
      List.foldl_append
    rw [hrun, call.perform_of_type htype, buildModelObject, hkept.1]
    exact ⟨rfl, hkept.2.trans hobject.symm⟩

end DatabaseMod.OrmRegistry
