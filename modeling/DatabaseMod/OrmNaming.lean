import DatabaseMod.OrmModelBuilder

/-!
# Column names

A naming style splits a name into words and joins them again, so that different names can become
one. Up to case the column of a field is its key, and the model builder does not look whether the
keys of a type differ.
-/

namespace DatabaseMod.OrmNaming
open SqlTokens (Text)
open LoopRules OrmModel OrmModelBuilder

/-! ### Texts without case -/

theorem toLower_append (s t : Text) : toLower (s ++ t) = toLower s ++ toLower t := List.map_append

@[simp] theorem toLower_toLower (s : Text) : toLower (toLower s) = toLower s := by
  simp [toLower]

@[simp] theorem toLower_toUpper (s : Text) : toLower (toUpper s) = toLower s := by
  simp [toLower, toUpper]

theorem toLower_eq_nil_iff (s : Text) : toLower s = [] ↔ s = [] := List.map_eq_nil_iff

theorem toLower_flatten (words : List Text) :
    toLower words.flatten = (words.map toLower).flatten := List.map_flatten

theorem underscore_not_mem_toLower {s : Text} (h : '_' ∉ s) : '_' ∉ toLower s := by
  intro hmem
  obtain ⟨c, hc, hlower⟩ := List.mem_map.mp hmem
  by_cases hupper : c.isUpper
  · have halpha : c.toLower.isLower = true := by simp [Char.isAlpha, hupper]
    rw [hlower] at halpha
    exact absurd halpha (by decide)
  · rw [Char.toLower_eq_of_not_isUpper hupper] at hlower
    exact h (hlower ▸ hc)

/-! ### Words -/

/-- What the parts of a name are. -/
structure IsWord (word : Text) : Prop where
  nonempty : word ≠ []
  lower : toLower word = word
  unbroken : '_' ∉ word

theorem mem_flushWord {words : List Text} {current word : Text} (hcurrent : '_' ∉ current)
    (h : word ∈ flushWord words current) : word ∈ words ∨ IsWord word := by
  unfold flushWord at h
  split_ifs at h with hempty
  · exact .inl h
  · obtain h | h := List.mem_append.mp h
    · exact .inl h
    · rw [List.mem_singleton.mp h]
      exact .inr ⟨mt (toLower_eq_nil_iff current).mp hempty, toLower_toLower current,
        underscore_not_mem_toLower hcurrent⟩

theorem flushWord_flatten (words : List Text) (current : Text) :
    (flushWord words current).flatten = words.flatten ++ toLower current := by
  unfold flushWord
  split_ifs with h
  · rw [h]
    exact (List.append_nil _).symm
  · rw [List.flatten_append, List.flatten_singleton]

theorem splitLoop_isWord {words : List Text} {current : Text} {prev : Char} (s : Text)
    (hwords : ∀ word ∈ words, IsWord word) (hcurrent : '_' ∉ current) :
    ∀ word ∈ splitLoop words current prev s, IsWord word := by
  induction s generalizing words current prev with
  | nil => exact fun word h => (mem_flushWord hcurrent h).elim (hwords word) id
  | cons ch rest ih =>
    have hflush : ∀ word ∈ flushWord words current, IsWord word := fun word h =>
      (mem_flushWord hcurrent h).elim (hwords word) id
    rw [splitLoop]
    dsimp only
    split_ifs with hch
    · exact ih hflush List.not_mem_nil
    · exact ih hflush fun h => hch (List.mem_singleton.mp h).symm
    · refine ih hwords fun h => ?_
      obtain h | h := List.mem_append.mp h
      · exact hcurrent h
      · exact hch (List.mem_singleton.mp h).symm

theorem splitLoop_flatten (words : List Text) (current : Text) (prev : Char) (s : Text) :
    (splitLoop words current prev s).flatten =
      words.flatten ++ toLower (current ++ s.filter (· ≠ '_')) := by
  induction s generalizing words current prev with
  | nil => rw [splitLoop, flushWord_flatten, List.filter_nil, List.append_nil]
  | cons ch rest ih =>
    rw [splitLoop]
    dsimp only
    split_ifs with hch hsplit
    · rw [ih, flushWord_flatten, List.filter_cons_of_neg (by simp [hch]), List.nil_append,
        toLower_append, List.append_assoc]
    · rw [ih, flushWord_flatten, List.filter_cons_of_pos (by simp [hch]), toLower_append,
        toLower_append, List.append_assoc]
      rfl
    · rw [ih, List.filter_cons_of_pos (by simp [hch]), List.append_assoc, List.singleton_append]

theorem splitIdentifierWords_isWord (name : Text) : ∀ word ∈ splitIdentifierWords name, IsWord word :=
  splitLoop_isWord name nofun List.not_mem_nil

theorem splitIdentifierWords_flatten (name : Text) :
    (splitIdentifierWords name).flatten = toLower (name.filter (· ≠ '_')) :=
  splitLoop_flatten [] [] (Char.ofNat 0) name

/-! ### Keys -/

/-- What a naming style keeps of a name, up to case. -/
def nameKey (namingStyle : EOrmNamingStyle) (name : Text) : Text :=
  match namingStyle with
  | .lowerCaseUnderscore | .upperCaseUnderscore => joinWords (splitIdentifierWords name) ['_']
  | _ => toLower (name.filter (· ≠ '_'))

def columnKey (namingStyle : EOrmNamingStyle) (fld : TField) : Text :=
  if hasMetadata fld.metadata "column" then toLower (metadataValue fld.metadata "column")
  else nameKey namingStyle fld.name

theorem toLower_words {words : List Text} (h : ∀ word ∈ words, IsWord word) :
    words.map toLower = words :=
  (List.map_congr_left fun word hword => (h word hword).lower).trans (List.map_id words)

theorem map_joinWords (f : Char → Char) (words : List Text) (separator : Text) :
    (joinWords words separator).map f =
      joinWords (words.map fun word => word.map f) (separator.map f) := by
  induction words with
  | nil => rfl
  | cons word words ih =>
    cases words with
    | nil => simp [joinWords]
    | cons next words =>
      unfold joinWords at ih ⊢
      rw [List.intercalate_cons_cons, List.map_append, List.map_append, ih]
      exact List.intercalate_cons_cons.symm

theorem toLower_joinWords (words : List Text) (separator : Text) :
    toLower (joinWords words separator) = joinWords (words.map toLower) (toLower separator) :=
  map_joinWords Char.toLower words separator

theorem joinWords_nil (words : List Text) : joinWords words [] = words.flatten := by
  induction words with
  | nil => rfl
  | cons word words ih =>
    cases words with
    | nil => simp [joinWords]
    | cons next words =>
      unfold joinWords at ih ⊢
      rw [List.intercalate_cons_cons, ih, List.append_nil]
      rfl

theorem toLower_capitaliseWord (word : Text) : toLower (capitaliseWord word) = toLower word := by
  unfold capitaliseWord
  split_ifs with hnil hone
  · rw [List.length_eq_zero_iff.mp hnil]
  · exact toLower_toUpper word
  · rw [toLower_append, toLower_toUpper, toLower_toLower, ← toLower_append, List.take_append_drop]

theorem toLower_toPascalCase (words : List Text) :
    toLower (toPascalCase words) = (words.map toLower).flatten := by
  rw [toPascalCase, List.flatMap_def, toLower_flatten, List.map_map]
  exact congrArg List.flatten (List.map_congr_left fun word _ => toLower_capitaliseWord word)

theorem toLower_toCamelCase (words : List Text) :
    toLower (toCamelCase words) = (words.map toLower).flatten := by
  cases words with
  | nil => rfl
  | cons word words =>
    rw [toCamelCase, toLower_append, toLower_toLower, List.map_cons, List.flatten_cons]
    exact congrArg _ (toLower_toPascalCase words)

theorem toLower_applyNamingStyle (namingStyle : EOrmNamingStyle) (name : Text) :
    toLower (applyNamingStyle namingStyle name) = nameKey namingStyle name := by
  have hwords := toLower_words (splitIdentifierWords_isWord name)
  have hflat := splitIdentifierWords_flatten name
  unfold applyNamingStyle
  dsimp only
  split_ifs with hnil
  · have hnone := List.length_eq_zero_iff.mp hnil
    rw [hnone] at hflat
    cases namingStyle
    case lowerCaseUnderscore | upperCaseUnderscore =>
      rw [nameKey, hnone]
      rfl
    all_goals exact hflat
  · cases namingStyle
    case lowerCase =>
      rw [toLower_toLower, joinWords_nil, toLower_flatten, hwords, hflat]
      rfl
    case upperCase =>
      rw [toLower_toUpper, joinWords_nil, toLower_flatten, hwords, hflat]
      rfl
    case camelCase =>
      rw [toLower_toCamelCase, hwords, hflat]
      rfl
    case pascalCase =>
      rw [toLower_toPascalCase, hwords, hflat]
      rfl
    case lowerCaseUnderscore =>
      rw [toLower_toLower, toLower_joinWords, hwords]
      rfl
    case upperCaseUnderscore =>
      rw [toLower_toUpper, toLower_joinWords, hwords]
      rfl

theorem toLower_determineColumnName (namingStyle : EOrmNamingStyle) (fld : TField) :
    toLower (determineColumnName namingStyle fld) = columnKey namingStyle fld := by
  unfold determineColumnName columnKey
  split_ifs
  · rfl
  · exact toLower_applyNamingStyle namingStyle fld.name

/-! ### Equal keys -/

theorem joinWords_eq_nil_iff {words : List Text} (h : ∀ word ∈ words, IsWord word)
    (separator : Text) : joinWords words separator = [] ↔ words = [] := by
  refine ⟨fun hjoin => ?_, fun hnil => by rw [hnil]; rfl⟩
  cases words with
  | nil => rfl
  | cons word words =>
    have hword := (h word List.mem_cons_self).nonempty
    cases words with
    | nil => exact absurd (by simpa [joinWords] using hjoin) hword
    | cons next words =>
      rw [joinWords, List.intercalate_cons_cons, List.append_assoc] at hjoin
      exact absurd (List.append_eq_nil_iff.mp hjoin).1 hword

theorem joinWords_injective {words words' : List Text} (h : ∀ word ∈ words, IsWord word)
    (h' : ∀ word ∈ words', IsWord word) (heq : joinWords words ['_'] = joinWords words' ['_']) :
    words = words' := by
  by_cases hnil : words = []
  · rw [(joinWords_eq_nil_iff h _).mpr hnil] at heq
    rw [hnil, (joinWords_eq_nil_iff h' _).mp heq.symm]
  · have hnil' : words' ≠ [] := by
      intro hnone
      rw [(joinWords_eq_nil_iff h' _).mpr hnone] at heq
      exact hnil ((joinWords_eq_nil_iff h _).mp heq)
    have hsplit := List.splitOn_intercalate '_' (fun word hw => (h word hw).unbroken) hnil
    have hsplit' := List.splitOn_intercalate '_' (fun word hw => (h' word hw).unbroken) hnil'
    rw [← hsplit, ← hsplit']
    exact congrArg (List.splitOn '_') heq

/-- With underscores names share a column if they have the same words, otherwise if they are the
same without case and underscores. -/
theorem nameKey_eq_iff (namingStyle : EOrmNamingStyle) (a b : Text) :
    nameKey namingStyle a = nameKey namingStyle b ↔
      if namingStyle = .lowerCaseUnderscore ∨ namingStyle = .upperCaseUnderscore then
        splitIdentifierWords a = splitIdentifierWords b
      else toLower (a.filter (· ≠ '_')) = toLower (b.filter (· ≠ '_')) := by
  have hwords : joinWords (splitIdentifierWords a) ['_'] = joinWords (splitIdentifierWords b) ['_'] ↔
      splitIdentifierWords a = splitIdentifierWords b :=
    ⟨joinWords_injective (splitIdentifierWords_isWord a) (splitIdentifierWords_isWord b),
      congrArg (joinWords · ['_'])⟩
  cases namingStyle
  case lowerCaseUnderscore => exact hwords
  case upperCaseUnderscore => exact hwords
  all_goals exact Iff.rfl

theorem nameKey_eq_nil_iff (namingStyle : EOrmNamingStyle) (name : Text) :
    nameKey namingStyle name = [] ↔ ∀ c ∈ name, c = '_' := by
  have hfilter : toLower (name.filter (· ≠ '_')) = [] ↔ ∀ c ∈ name, c = '_' := by
    rw [toLower_eq_nil_iff, List.filter_eq_nil_iff]
    simp
  have hwords : joinWords (splitIdentifierWords name) ['_'] = [] ↔ ∀ c ∈ name, c = '_' := by
    rw [joinWords_eq_nil_iff (splitIdentifierWords_isWord name), ← hfilter,
      ← splitIdentifierWords_flatten, List.flatten_eq_nil_iff]
    constructor
    · intro hnil word hword
      rw [hnil] at hword
      cases hword
    · intro hall
      rw [List.eq_nil_iff_forall_not_mem]
      exact fun word hword => (splitIdentifierWords_isWord name word hword).nonempty
        (hall word hword)
  cases namingStyle
  case lowerCaseUnderscore => exact hwords
  case upperCaseUnderscore => exact hwords
  all_goals exact hfilter

/-! ### The model builder -/

/-- The exceptions of the model builder. -/
def Refusal (typeId : TClassId) (e : TOrmException) : Prop :=
  e = .multiplePrimaryKeys typeId.name ∨ ∃ indexName : Text,
    e = ⟨"Index '".toList ++ indexName ++ "' cannot be both unique and non-unique".toList⟩

theorem addIndexField_error {m : TOrmModel} {name : Text} {fld : TOrmField} {isUnique : Bool}
    {e : TOrmException} (h : addIndexField m name fld isUnique = .error e) (typeId : TClassId) :
    Refusal typeId e := by
  unfold addIndexField at h
  split at h
  · cases h
  · split_ifs at h
    exact .inr ⟨name, (Except.error.inj h).symm⟩

theorem collectIndexes_error {hashCode : Text → UInt32} {m : TOrmModel} {ormField : TOrmField}
    {fld : TField} {e : TOrmException} (h : collectIndexes hashCode m ormField fld = .error e)
    (typeId : TClassId) : Refusal typeId e := by
  unfold collectIndexes at h
  cases hindex : collectIndexMetadata hashCode m ormField fld with
  | error e' =>
    rw [hindex] at h
    obtain rfl := Except.error.inj h
    unfold collectIndexMetadata at hindex
    dsimp only at hindex
    split_ifs at hindex
    · exact addIndexField_error hindex typeId
    · exact addIndexField_error hindex typeId
  | ok m₁ =>
    rw [hindex] at h
    have hunique : collectUniqueMetadata m₁ ormField fld = .error e := h
    unfold collectUniqueMetadata at hunique
    dsimp only at hunique
    split_ifs at hunique
    exact addIndexField_error hunique typeId

theorem buildNewModel_error {hashCode : Text → UInt32} {namingStyle : EOrmNamingStyle}
    {typeId : TClassId} {e : TOrmException}
    (h : buildNewModel hashCode namingStyle typeId = .error e) : Refusal typeId e := by
  refine foldlM_error (fun m : TOrmModel => m.typeId = typeId) (Refusal typeId) ?_ ?_ rfl h
  · intro m fld m' hm hstep
    unfold addField at hstep
    split_ifs at hstep with hignore
    · rw [← Except.ok.inj hstep]
      exact hm
    · obtain ⟨m₁, hcollect, hkey⟩ := bind_eq_ok.mp hstep
      have hm₁ : m₁.typeId = typeId := by
        rw [(collectIndexes_spec hcollect).1]
        exact hm
      split_ifs at hkey
      · rw [← Except.ok.inj hkey]
        exact hm₁
      · rw [← Except.ok.inj hkey]
        exact hm₁
  · intro m fld e hm hstep
    unfold addField at hstep
    split_ifs at hstep with hignore
    dsimp only at hstep
    cases hcollect : collectIndexes hashCode
        { m with fields := m.fields ++ [buildField namingStyle fld] }
        (buildField namingStyle fld) fld with
    | error e' =>
      rw [hcollect] at hstep
      obtain rfl := Except.error.inj hstep
      exact collectIndexes_error hcollect typeId
    | ok m₁ =>
      have hm₁ : m₁.typeId = typeId := by
        rw [(collectIndexes_spec hcollect).1]
        exact hm
      rw [hcollect] at hstep
      have hkey : (if (buildField namingStyle fld).isPrimaryKey = true then
        if m₁.primaryKey.isSome = true then
          Except.error (TOrmException.multiplePrimaryKeys m₁.typeId.name)
        else .ok { m₁ with primaryKey := some (buildField namingStyle fld) } else .ok m₁) =
          .error e := hstep
      split_ifs at hkey
      exact .inl (hm₁ ▸ (Except.error.inj hkey).symm)

/-- The column names of a model are distinct without case, and not empty, if and only if the keys of
its fields are; the model builder refuses no type for its column names. -/
theorem column_names_distinct_iff {hashCode : Text → UInt32}
    (registry : Option (TOrmRegistry hashCode)) (namingStyle : EOrmNamingStyle)
    (typeId : TClassId) :
    (∀ out, buildModel registry namingStyle typeId = .ok out →
      ∃ style, buildNewModel hashCode style typeId = .ok out.1 ∧
        ((out.1.fields.map fun fld => toLower fld.columnName).Nodup ∧
            (∀ fld ∈ out.1.fields, fld.columnName ≠ []) ↔
          ((typeId.enumFields.filter (!shouldIgnoreField ·)).map (columnKey style)).Nodup ∧
            ∀ fld ∈ typeId.enumFields.filter (!shouldIgnoreField ·), columnKey style fld ≠ [])) ∧
    ∀ e, buildModel registry namingStyle typeId = .error e → Refusal typeId e := by
  constructor
  · intro out h
    obtain ⟨style, hbuild⟩ := buildModel_built h
    refine ⟨style, hbuild, ?_⟩
    rw [(buildNewModel_built hbuild).fields_eq, List.map_map]
    have hkeys : (fun fld : TOrmField => toLower fld.columnName) ∘ buildField style =
        columnKey style := funext fun fld => toLower_determineColumnName style fld
    have hempty (fld : TField) : (buildField style fld).columnName = [] ↔ columnKey style fld = [] := by
      rw [← toLower_determineColumnName, toLower_eq_nil_iff]
      rfl
    rw [hkeys, List.forall_mem_map]
    simp only [ne_eq, hempty]
  · intro e h
    cases registry with
    | none =>
      cases hbuild : buildNewModel hashCode namingStyle typeId with
      | ok m => simp [buildModel, hbuild, Except.map] at h
      | error e' =>
        obtain rfl : e' = e := by simpa [buildModel, hbuild, Except.map] using h
        exact buildNewModel_error hbuild
    | some r =>
      simp only [buildModel] at h
      split at h
      · cases h
      · split at h
        next e' hbuild =>
          obtain rfl := Except.error.inj h
          exact buildNewModel_error hbuild
        next => cases h

/-- Two fields whose names split into the same words. -/
def colliding : TClassId :=
  ⟨"TUser".toList, [], [⟨"userName".toList, .stringTypeId, []⟩,
    ⟨"user_name".toList, .stringTypeId, []⟩]⟩

theorem colliding_names_built :
    (@buildModel (fun _ => 0) none .lowerCaseUnderscore colliding).map
        (fun out => out.1.fields.map (·.columnName)) =
      .ok ["user_name".toList, "user_name".toList] := by
  decide +kernel

end DatabaseMod.OrmNaming
