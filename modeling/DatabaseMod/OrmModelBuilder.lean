import DatabaseMod.OrmModel

/-!
# What the model builder returns

The field loop of `BuildModel` is followed with an invariant: the fields and the primary
key are those of the types seen so far, index names are distinct, and each unique index
holds the group of fields that use its name.
-/

namespace DatabaseMod.OrmModelBuilder
open SqlTokens (Text)
open LoopRules OrmModel

/-- The fields of the unique index of a name. -/
def uniqueGroup (name : Text) (indexes : List TOrmIndex) : List TOrmField :=
  (indexes.filter fun index => index.isUnique && index.name = name).flatMap (·.fields)

structure Indexed (m : TOrmModel) : Prop where
  names_nodup : (m.indexes.map (·.name)).Nodup
  nonempty : ∀ index ∈ m.indexes, index.fields ≠ []
  fields_mem : ∀ index ∈ m.indexes, ∀ fld ∈ index.fields, fld ∈ m.fields

theorem appendToIndex_names (name : Text) (fld : TOrmField) (l : List TOrmIndex) :
    (appendToIndex name fld l).map (·.name) = l.map (·.name) := by
  induction l with
  | nil => rfl
  | cons index l ih =>
    simp only [appendToIndex]
    split_ifs
    · rfl
    · simp [ih]

theorem mem_appendToIndex {name : Text} {fld : TOrmField} {l : List TOrmIndex}
    {index : TOrmIndex} (h : index ∈ appendToIndex name fld l) :
    index ∈ l ∨ ∃ old ∈ l, index = { old with fields := old.fields ++ [fld] } := by
  induction l with
  | nil => simp [appendToIndex] at h
  | cons first l ih =>
    simp only [appendToIndex] at h
    split_ifs at h
    · rcases List.mem_cons.mp h with rfl | h
      · exact Or.inr ⟨first, by simp, rfl⟩
      · exact Or.inl (List.mem_cons_of_mem _ h)
    · rcases List.mem_cons.mp h with rfl | h
      · exact Or.inl (by simp)
      · rcases ih h with h | ⟨old, hold, rfl⟩
        · exact Or.inl (List.mem_cons_of_mem _ h)
        · exact Or.inr ⟨old, List.mem_cons_of_mem _ hold, rfl⟩

theorem uniqueGroup_cons (name : Text) (index : TOrmIndex) (l : List TOrmIndex) :
    uniqueGroup name (index :: l) =
      (if index.isUnique ∧ index.name = name then index.fields else []) ++ uniqueGroup name l := by
  by_cases h : index.isUnique ∧ index.name = name
  · simp [uniqueGroup, h]
  · rw [if_neg h]
    simp only [uniqueGroup, List.filter_cons]
    rw [if_neg (by simpa using h)]
    rfl

theorem uniqueGroup_append (name : Text) (l l' : List TOrmIndex) :
    uniqueGroup name (l ++ l') = uniqueGroup name l ++ uniqueGroup name l' := by
  simp [uniqueGroup]

theorem uniqueGroup_eq_nil {name : Text} {l : List TOrmIndex} (h : name ∉ l.map (·.name)) :
    uniqueGroup name l = [] := by
  induction l with
  | nil => rfl
  | cons index l ih =>
    simp only [List.map_cons, List.mem_cons, not_or] at h
    rw [uniqueGroup_cons, if_neg (fun hi => h.1 hi.2.symm), ih h.2]
    rfl

theorem uniqueGroup_of_mem {l : List TOrmIndex} (hl : (l.map (·.name)).Nodup)
    {index : TOrmIndex} (hi : index ∈ l) (hu : index.isUnique = true) :
    uniqueGroup index.name l = index.fields := by
  induction l with
  | nil => simp at hi
  | cons first l ih =>
    simp only [List.map_cons, List.nodup_cons] at hl
    rw [uniqueGroup_cons]
    rcases List.mem_cons.mp hi with rfl | hi
    · rw [if_pos ⟨hu, rfl⟩, uniqueGroup_eq_nil hl.1, List.append_nil]
    · have hne : first.name ≠ index.name := fun he => hl.1 (he ▸ List.mem_map_of_mem hi)
      rw [if_neg (fun h => hne h.2), ih hl.2 hi]
      rfl

theorem uniqueGroup_appendToIndex {l : List TOrmIndex} (hl : (l.map (·.name)).Nodup)
    {index : TOrmIndex} (hi : index ∈ l) (fld : TOrmField) (name : Text) :
    uniqueGroup name (appendToIndex index.name fld l) =
      uniqueGroup name l ++ if index.isUnique ∧ index.name = name then [fld] else [] := by
  induction l with
  | nil => simp at hi
  | cons first l ih =>
    simp only [List.map_cons, List.nodup_cons] at hl
    rw [appendToIndex, uniqueGroup_cons]
    rcases List.mem_cons.mp hi with rfl | hi
    · rw [if_pos rfl, uniqueGroup_cons]
      split_ifs with hu
      · rw [uniqueGroup_eq_nil (hu.2 ▸ hl.1)]
        simp
      · simp
    · have hne : first.name ≠ index.name := fun he => hl.1 (he ▸ List.mem_map_of_mem hi)
      rw [if_neg hne, uniqueGroup_cons, ih hl.2 hi, List.append_assoc]

/-- `AddIndexField` changes the indexes only: it adds the field to the one index of the
name and to no unique group of another name. -/
theorem addIndexField_spec {m m' : TOrmModel} {name : Text} {fld : TOrmField}
    {isUnique : Bool} (h : addIndexField m name fld isUnique = .ok m') :
    m' = { m with indexes := m'.indexes } ∧
    (Indexed m → fld ∈ m.fields → Indexed m' ∧ ∀ n, uniqueGroup n m'.indexes =
      uniqueGroup n m.indexes ++ if isUnique ∧ name = n then [fld] else []) := by
  unfold addIndexField findIndex at h
  cases hfind : m.indexes.find? fun index => index.name = name with
  | none =>
    simp only [hfind, Except.ok.injEq] at h
    subst h
    refine ⟨rfl, fun hm hfld => ⟨⟨?_, ?_, ?_⟩, fun n => ?_⟩⟩
    · have hnew : name ∉ m.indexes.map (·.name) := by
        simpa using hfind
      simpa [List.nodup_append] using ⟨hm.names_nodup, fun index hi he =>
        hnew (he ▸ List.mem_map_of_mem hi)⟩
    · intro index hi
      rcases List.mem_append.mp hi with hi | hi
      · exact hm.nonempty index hi
      · simp_all
    · intro index hi
      rcases List.mem_append.mp hi with hi | hi
      · exact hm.fields_mem index hi
      · simp_all
    · rw [uniqueGroup_append, uniqueGroup_cons]
      simp [uniqueGroup]
  | some index =>
    obtain ⟨hname, hmem⟩ : index.name = name ∧ index ∈ m.indexes :=
      ⟨by simpa using List.find?_some hfind, List.mem_of_find?_eq_some hfind⟩
    simp only [hfind] at h
    split_ifs at h with hu
    simp only [Except.ok.injEq] at h
    subst h hname
    have hu : index.isUnique = isUnique := not_not.mp hu
    subst hu
    refine ⟨rfl, fun hm hfld => ⟨⟨?_, ?_, ?_⟩, fun n => ?_⟩⟩
    · simpa only [appendToIndex_names] using hm.names_nodup
    · intro other hi
      rcases mem_appendToIndex hi with hi | ⟨old, hold, rfl⟩
      · exact hm.nonempty other hi
      · simp
    · intro other hi
      rcases mem_appendToIndex hi with hi | ⟨old, hold, rfl⟩
      · exact hm.fields_mem other hi
      · intro f hf
        rcases List.mem_append.mp hf with hf | hf
        · exact hm.fields_mem old hold f hf
        · simp_all
    · exact uniqueGroup_appendToIndex hm.names_nodup hmem fld n

/-! ### Plain and named unique metadata -/

/-- `{ unique }` without a name, that is, with the value `1` or none. -/
def plainUnique (fld : TField) : Bool :=
  hasMetadata fld.metadata "unique" &&
    (metadataValue fld.metadata "unique" = [] || metadataValue fld.metadata "unique" = ['1'])

/-- The name of `{ unique = "..." }`. -/
def namedUnique (fld : TField) : Option Text :=
  if hasMetadata fld.metadata "unique" && !plainUnique fld
  then some (metadataValue fld.metadata "unique") else none

theorem collectIndexes_spec {hashCode : Text → UInt32} {m m' : TOrmModel} {f : TOrmField}
    {fld : TField} (h : collectIndexes hashCode m f fld = .ok m') :
    m' = { m with indexes := m'.indexes } ∧
    (Indexed m → f ∈ m.fields → Indexed m' ∧ ∀ n, uniqueGroup n m'.indexes =
      uniqueGroup n m.indexes ++ if namedUnique fld = some n then [f] else []) := by
  rw [collectIndexes, bind_eq_ok] at h
  obtain ⟨m₁, hindex, hunique⟩ := h
  have hplain : m₁ = { m with indexes := m₁.indexes } ∧
      (Indexed m → f ∈ m.fields →
        Indexed m₁ ∧ ∀ n, uniqueGroup n m₁.indexes = uniqueGroup n m.indexes) := by
    simp only [collectIndexMetadata] at hindex
    split_ifs at hindex
    · simpa using addIndexField_spec hindex
    · simpa using addIndexField_spec hindex
    · cases hindex
      exact ⟨rfl, fun hm _ => ⟨hm, fun _ => rfl⟩⟩
  have hnamed : m' = { m₁ with indexes := m'.indexes } ∧
      (Indexed m₁ → f ∈ m₁.fields → Indexed m' ∧ ∀ n, uniqueGroup n m'.indexes =
        uniqueGroup n m₁.indexes ++ if namedUnique fld = some n then [f] else []) := by
    simp only [collectUniqueMetadata] at hunique
    split_ifs at hunique with hmeta hname
    · have hn : namedUnique fld = some (metadataValue fld.metadata "unique") := by
        simp [namedUnique, plainUnique, hmeta, hname]
      simpa [hn] using addIndexField_spec hunique
    · have hn : namedUnique fld = none := by
        simp only [namedUnique, plainUnique, hmeta]
        simp
        tauto
      cases hunique
      exact ⟨rfl, fun hm _ => ⟨hm, by simp [hn]⟩⟩
    · have hn : namedUnique fld = none := by simp [namedUnique, hmeta]
      cases hunique
      exact ⟨rfl, fun hm _ => ⟨hm, by simp [hn]⟩⟩
  refine ⟨by rw [hnamed.1, hplain.1], fun hm hf => ?_⟩
  obtain ⟨hm₁, hg₁⟩ := hplain.2 hm hf
  have hf₁ : f ∈ m₁.fields := by
    rw [hplain.1]
    exact hf
  obtain ⟨hm', hg'⟩ := hnamed.2 hm₁ hf₁
  exact ⟨hm', fun n => by rw [hg', hg₁]⟩

/-! ### The field loop -/

/-- The fields of a model that use `{ unique = name }`, in order. -/
def groupOf (namingStyle : EOrmNamingStyle) (flds : List TField) (name : Text) :
    List TOrmField :=
  (flds.filter fun fld => namedUnique fld = some name).map (buildField namingStyle)

/-- The model after the fields `flds`, none of them transient. -/
structure Built (namingStyle : EOrmNamingStyle) (typeId : TClassId) (flds : List TField)
    (m : TOrmModel) : Prop where
  typeId_eq : m.typeId = typeId
  tableName_eq : m.tableName = determineTableName namingStyle typeId
  fields_eq : m.fields = flds.map (buildField namingStyle)
  primaryKey_eq : m.fields.filter (·.isPrimaryKey) = m.primaryKey.toList
  indexed : Indexed m
  groups_eq : ∀ n, uniqueGroup n m.indexes = groupOf namingStyle flds n

theorem addField_built {hashCode : Text → UInt32} {namingStyle : EOrmNamingStyle}
    {typeId : TClassId} {flds : List TField} {m m' : TOrmModel} {fld : TField}
    (hm : Built namingStyle typeId flds m) (hkeep : shouldIgnoreField fld = false)
    (h : addField hashCode namingStyle m fld = .ok m') :
    Built namingStyle typeId (flds ++ [fld]) m' := by
  simp only [addField, hkeep, Bool.false_eq_true, if_false, bind_eq_ok] at h
  obtain ⟨m₁, hcollect, hkey⟩ := h
  obtain ⟨hm₁, hspec⟩ := collectIndexes_spec hcollect
  obtain ⟨hindexed, hgroups⟩ := hspec
    ⟨hm.indexed.names_nodup, hm.indexed.nonempty, fun index hi f hf =>
      List.mem_append_left _ (hm.indexed.fields_mem index hi f hf)⟩ (by simp)
  have hgroup (n : Text) : uniqueGroup n m₁.indexes = groupOf namingStyle (flds ++ [fld]) n := by
    rw [hgroups, hm.groups_eq, groupOf, groupOf, List.filter_append, List.map_append]
    by_cases hn : namedUnique fld = some n <;> simp [hn]
  have hkeys : m₁.fields.filter (·.isPrimaryKey) = m.primaryKey.toList ++
      if (buildField namingStyle fld).isPrimaryKey then [buildField namingStyle fld] else [] := by
    rw [hm₁, ← hm.primaryKey_eq, List.filter_append, List.filter_singleton, Bool.cond_eq_ite]
  have hbuilt (pk : Option TOrmField) (hpk : m₁.fields.filter (·.isPrimaryKey) = pk.toList) :
      Built namingStyle typeId (flds ++ [fld]) { m₁ with primaryKey := pk } := by
    refine ⟨?_, ?_, ?_, hpk, ⟨hindexed.names_nodup, hindexed.nonempty, hindexed.fields_mem⟩,
      hgroup⟩
    · rw [hm₁]
      exact hm.typeId_eq
    · rw [hm₁]
      exact hm.tableName_eq
    · rw [hm₁]
      simp [hm.fields_eq]
  have hpk₁ : m₁.primaryKey = m.primaryKey := by rw [hm₁]
  split_ifs at hkey with hisKey hdup
  · cases hkey
    rw [hpk₁, Option.not_isSome_iff_eq_none] at hdup
    exact hbuilt _ (by simp [hkeys, hdup, hisKey])
  · cases hkey
    exact hbuilt _ (by simp [hkeys, hpk₁, hisKey])

theorem buildNewModel_built {hashCode : Text → UInt32} {namingStyle : EOrmNamingStyle}
    {typeId : TClassId} {m : TOrmModel}
    (h : buildNewModel hashCode namingStyle typeId = .ok m) :
    Built namingStyle typeId (typeId.enumFields.filter (!shouldIgnoreField ·)) m := by
  refine foldlM_invariant
    (fun done s => Built namingStyle typeId (done.filter (!shouldIgnoreField ·)) s)
    ?_ typeId.enumFields ?_ h
  · intro done fld s t hs hstep
    rw [List.filter_append]
    cases hkeep : shouldIgnoreField fld with
    | true =>
      simp only [addField, hkeep, if_true, Except.ok.injEq] at hstep
      simpa [hkeep, ← hstep] using hs
    | false =>
      simpa [hkeep] using addField_built hs hkeep hstep
  · exact ⟨rfl, rfl, rfl, rfl, ⟨List.nodup_nil, by simp, by simp⟩, fun n => rfl⟩

namespace Built

variable {namingStyle : EOrmNamingStyle} {typeId : TClassId} {flds : List TField}
  {m : TOrmModel}

theorem mem_of_primaryKey (hm : Built namingStyle typeId flds m) {pk : TOrmField}
    (hpk : m.primaryKey = some pk) : pk ∈ m.fields ∧ pk.isPrimaryKey = true := by
  have h : pk ∈ m.fields.filter (·.isPrimaryKey) := by
    rw [hm.primaryKey_eq, hpk]
    simp
  simpa using h

/-- The unique indexes are one for each name in use, over the whole group of its fields. -/
theorem mem_uniqueIndexes (hm : Built namingStyle typeId flds m) (name : Text)
    (group : List TOrmField) :
    ⟨name, group, true⟩ ∈ m.indexes ↔
      (∃ fld ∈ flds, namedUnique fld = some name) ∧ group = groupOf namingStyle flds name := by
  have hne : groupOf namingStyle flds name ≠ [] ↔ ∃ fld ∈ flds, namedUnique fld = some name := by
    simp [groupOf, List.filter_eq_nil_iff]
  rw [← hne, ← hm.groups_eq]
  constructor
  · intro hi
    have hgroup := uniqueGroup_of_mem hm.indexed.names_nodup hi rfl
    simp only at hgroup
    rw [hgroup]
    exact ⟨hm.indexed.nonempty _ hi, rfl⟩
  · rintro ⟨hnonempty, rfl⟩
    obtain ⟨index, hi⟩ : ∃ index ∈ m.indexes, index.isUnique = true ∧ index.name = name := by
      by_contra hnone
      push Not at hnone
      refine hnonempty ?_
      simp only [uniqueGroup, List.flatMap_eq_nil_iff, List.mem_filter, Bool.and_eq_true,
        decide_eq_true_eq]
      exact fun index hi => absurd hi.2.2 (hnone index hi.1 hi.2.1)
    obtain ⟨hi, hu, rfl⟩ := hi
    rw [uniqueGroup_of_mem hm.indexed.names_nodup hi hu, ← hu]
    exact hi

end Built

end DatabaseMod.OrmModelBuilder
