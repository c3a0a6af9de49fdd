import DatabaseMod.LoopRules
import DatabaseMod.SqlTokens

/-!
# Models of the object-relational mapper

A model is built from the reflected fields of a class and their metadata. Names are
texts, metadata is looked up by key, and a metadata entry without a value has the
value `1`. The string hash used in index names belongs to the runtime and is a
parameter.
-/

namespace DatabaseMod.OrmModel
open SqlTokens (Text)
open LoopRules

inductive TTypeId
  | byteTypeId | shortTypeId | intTypeId | uintTypeId | longTypeId | ulongTypeId
  | longIntTypeId | ulongIntTypeId | sizeTTypeId
  | floatTypeId | doubleTypeId | stringTypeId
  | enumTypeId (name : Text) (underlyingType : TTypeId) (isFlagsEnum : Bool)
  | objectTypeId (name : Text)
deriving DecidableEq, Repr

def TTypeId.name : TTypeId → Text
  | .byteTypeId => "Byte".toList
  | .shortTypeId => "Short".toList
  | .intTypeId => "Int".toList
  | .uintTypeId => "UInt".toList
  | .longTypeId => "Long".toList
  | .ulongTypeId => "ULong".toList
  | .longIntTypeId => "LongInt".toList
  | .ulongIntTypeId => "ULongInt".toList
  | .sizeTTypeId => "Size_T".toList
  | .floatTypeId => "Float".toList
  | .doubleTypeId => "Double".toList
  | .stringTypeId => "String".toList
  | .enumTypeId name _ _ => name
  | .objectTypeId name => name

def TTypeId.isEnum : TTypeId → Bool
  | .enumTypeId _ _ isFlagsEnum => !isFlagsEnum
  | _ => false

def TTypeId.isFlagsEnum : TTypeId → Bool
  | .enumTypeId _ _ isFlagsEnum => isFlagsEnum
  | _ => false

/-- Asked of enums only. -/
def TTypeId.underlyingType : TTypeId → TTypeId
  | .enumTypeId _ ty _ => ty
  | ty => ty

def hasMetadata (metadata : List (String × Text)) (key : String) : Bool :=
  (metadata.lookup key).isSome

def metadataValue (metadata : List (String × Text)) (key : String) : Text :=
  (metadata.lookup key).getD []

/-- A reflected field. -/
structure TField where
  name : Text
  typeId : TTypeId
  metadata : List (String × Text)
deriving DecidableEq, Repr

/-- A reflected class. -/
structure TClassId where
  name : Text
  metadata : List (String × Text)
  enumFields : List TField
deriving DecidableEq, Repr

structure TOrmException where
  message : Text
deriving DecidableEq, Repr

def TOrmException.multiplePrimaryKeys (typeName : Text) : TOrmException :=
  ⟨"Multiple primary keys defined in type: ".toList ++ typeName⟩

structure TOrmField where
  typeField : TField
  name : Text
  columnName : Text
  isPrimaryKey : Bool
  isAuto : Bool
  isJson : Bool
  isBool : Bool
  isUnique : Bool
  nullable : Bool
  isDecimal : Bool
  isEnum : Bool
  isEnumString : Bool
deriving DecidableEq, Repr

structure TOrmIndex where
  name : Text
  fields : List TOrmField
  isUnique : Bool
deriving DecidableEq, Repr

structure TOrmModel where
  typeId : TClassId
  tableName : Text
  fields : List TOrmField
  indexes : List TOrmIndex
  primaryKey : Option TOrmField
deriving DecidableEq, Repr

/-- `sameName` is the runtime's string comparison. -/
def TOrmModel.fieldByName (sameName : Text → Text → Bool) (m : TOrmModel) (name : Text) :
    Option TOrmField :=
  m.fields.find? fun fld => sameName fld.name name || sameName fld.columnName name

/-! ### Naming styles -/

inductive EOrmNamingStyle
  | lowerCase | upperCase | camelCase | pascalCase | lowerCaseUnderscore | upperCaseUnderscore
deriving DecidableEq, Repr

def toLower (s : Text) : Text := s.map Char.toLower
def toUpper (s : Text) : Text := s.map Char.toUpper

def isUpper (ch : Char) : Bool := 'A' ≤ ch && ch ≤ 'Z'
def isLower (ch : Char) : Bool := 'a' ≤ ch && ch ≤ 'z'
def isDigit (ch : Char) : Bool := '0' ≤ ch && ch ≤ '9'

def flushWord (words : List Text) (current : Text) : List Text :=
  if current = [] then words else words ++ [toLower current]

/-- The loop of `SplitIdentifierWords` after the character `prev`; a missing neighbour
is the zero character. -/
def splitLoop (words : List Text) (current : Text) (prev : Char) : Text → List Text
  | [] => flushWord words current
  | ch :: rest =>
    if ch = '_' then splitLoop (flushWord words current) [] ch rest
    else
      let nextCh := rest.headD (Char.ofNat 0)
      let shouldSplit := current ≠ [] &&
        ((isLower prev && isUpper ch) || (isDigit prev != isDigit ch) ||
          (isUpper prev && isUpper ch && isLower nextCh))
      if shouldSplit then splitLoop (flushWord words current) [ch] ch rest
      else splitLoop words (current ++ [ch]) ch rest

def splitIdentifierWords (name : Text) : List Text := splitLoop [] [] (Char.ofNat 0) name

def joinWords (words : List Text) (separator : Text) : Text := separator.intercalate words

def capitaliseWord (word : Text) : Text :=
  if word.length = 0 then []
  else if word.length = 1 then toUpper word
  else toUpper (word.take 1) ++ toLower (word.drop 1)

def toCamelCase : List Text → Text
  | [] => []
  | word :: words => toLower word ++ words.flatMap capitaliseWord

def toPascalCase (words : List Text) : Text := words.flatMap capitaliseWord

def applyNamingStyle (namingStyle : EOrmNamingStyle) (name : Text) : Text :=
  let words := splitIdentifierWords name
  if words.length = 0 then []
  else match namingStyle with
    | .lowerCase => toLower (joinWords words [])
    | .upperCase => toUpper (joinWords words [])
    | .camelCase => toCamelCase words
    | .pascalCase => toPascalCase words
    | .lowerCaseUnderscore => toLower (joinWords words ['_'])
    | .upperCaseUnderscore => toUpper (joinWords words ['_'])

/-! ### The model builder -/

def shouldIgnoreField (fld : TField) : Bool := hasMetadata fld.metadata "transient"

def determineTableName (namingStyle : EOrmNamingStyle) (typeId : TClassId) : Text :=
  if hasMetadata typeId.metadata "table" then metadataValue typeId.metadata "table"
  else applyNamingStyle namingStyle typeId.name

def determineColumnName (namingStyle : EOrmNamingStyle) (fld : TField) : Text :=
  if hasMetadata fld.metadata "column" then metadataValue fld.metadata "column"
  else applyNamingStyle namingStyle fld.name

def buildField (namingStyle : EOrmNamingStyle) (fld : TField) : TOrmField where
  typeField := fld
  name := fld.name
  columnName := determineColumnName namingStyle fld
  isPrimaryKey := hasMetadata fld.metadata "pk"
  isAuto := hasMetadata fld.metadata "auto"
  nullable := hasMetadata fld.metadata "nullable"
  isUnique := hasMetadata fld.metadata "unique"
  isJson := hasMetadata fld.metadata "json"
  isBool := hasMetadata fld.metadata "bool"
  isDecimal := fld.typeId.name = "TDecimal".toList
  isEnum := fld.typeId.isEnum || fld.typeId.isFlagsEnum
  isEnumString := (fld.typeId.isEnum || fld.typeId.isFlagsEnum) &&
    hasMetadata fld.metadata "enum_string"

/-- Lower-case hexadecimal digits of the bytes of a hash, lowest byte first. -/
def hashHex (hash : UInt32) : Text :=
  (List.range 4).flatMap fun i =>
    [Nat.digitChar (hash.toNat / 256 ^ i % 256 / 16), Nat.digitChar (hash.toNat / 256 ^ i % 16)]

def autoIndexName (hashCode : Text → UInt32) (tableName columnName : Text) (isUnique : Bool) :
    Text :=
  let pre := if isUnique then "uq_".toList else "idx_".toList
  let base := pre ++ tableName ++ ['_'] ++ columnName
  base ++ "_orm".toList ++ (hashHex (hashCode base)).take 4

def findIndex (m : TOrmModel) (indexName : Text) : Option TOrmIndex :=
  m.indexes.find? fun index => index.name = indexName

/-- The field is added to the object `FindIndex` returned, the first of that name. -/
def appendToIndex (indexName : Text) (fld : TOrmField) : List TOrmIndex → List TOrmIndex
  | [] => []
  | index :: rest =>
    if index.name = indexName then { index with fields := index.fields ++ [fld] } :: rest
    else index :: appendToIndex indexName fld rest

def addIndexField (m : TOrmModel) (indexName : Text) (fld : TOrmField) (isUnique : Bool) :
    Except TOrmException TOrmModel :=
  match findIndex m indexName with
  | none => .ok { m with indexes := m.indexes ++ [⟨indexName, [fld], isUnique⟩] }
  | some index =>
    if index.isUnique ≠ isUnique then
      .error ⟨"Index '".toList ++ indexName ++ "' cannot be both unique and non-unique".toList⟩
    else .ok { m with indexes := appendToIndex indexName fld m.indexes }

/-- The first half of `CollectIndexes`. -/
def collectIndexMetadata (hashCode : Text → UInt32) (m : TOrmModel) (ormField : TOrmField)
    (fld : TField) : Except TOrmException TOrmModel :=
  if hasMetadata fld.metadata "index" then
    let indexName := metadataValue fld.metadata "index"
    if indexName = [] ∨ indexName = ['1'] then
      addIndexField m (autoIndexName hashCode m.tableName ormField.columnName false) ormField false
    else addIndexField m indexName ormField false
  else .ok m

/-- The second half of `CollectIndexes`. -/
def collectUniqueMetadata (m : TOrmModel) (ormField : TOrmField) (fld : TField) :
    Except TOrmException TOrmModel :=
  if hasMetadata fld.metadata "unique" then
    let uniqueName := metadataValue fld.metadata "unique"
    if uniqueName ≠ [] ∧ uniqueName ≠ ['1'] then addIndexField m uniqueName ormField true
    else .ok m
  else .ok m

def collectIndexes (hashCode : Text → UInt32) (m : TOrmModel) (ormField : TOrmField)
    (fld : TField) : Except TOrmException TOrmModel := do
  let m ← collectIndexMetadata hashCode m ormField fld
  collectUniqueMetadata m ormField fld

/-- The body of the field loop of `BuildModel`. -/
def addField (hashCode : Text → UInt32) (namingStyle : EOrmNamingStyle) (m : TOrmModel)
    (fld : TField) : Except TOrmException TOrmModel :=
  if shouldIgnoreField fld then .ok m
  else do
    let ormField := buildField namingStyle fld
    let m ← collectIndexes hashCode { m with fields := m.fields ++ [ormField] } ormField fld
    if ormField.isPrimaryKey then
      if m.primaryKey.isSome then .error (.multiplePrimaryKeys m.typeId.name)
      else .ok { m with primaryKey := some ormField }
    else .ok m

/-- `BuildModel` for a type that is not registered. -/
def buildNewModel (hashCode : Text → UInt32) (namingStyle : EOrmNamingStyle)
    (typeId : TClassId) : Except TOrmException TOrmModel :=
  typeId.enumFields.foldlM (addField hashCode namingStyle)
    ⟨typeId, determineTableName namingStyle typeId, [], [], none⟩

/-- A registry holds models that a builder made for their types. -/
structure TOrmRegistry (hashCode : Text → UInt32) where
  models : List (TClassId × TOrmModel)
  built : ∀ entry ∈ models,
    ∃ namingStyle, buildNewModel hashCode namingStyle entry.1 = .ok entry.2

def buildModel {hashCode : Text → UInt32} (registry : Option (TOrmRegistry hashCode))
    (namingStyle : EOrmNamingStyle) (typeId : TClassId) :
    Except TOrmException (TOrmModel × Option (TOrmRegistry hashCode)) :=
  match registry with
  | none => (buildNewModel hashCode namingStyle typeId).map fun m => (m, none)
  | some r =>
    match r.models.lookup typeId with
    | some m => .ok (m, some r)
    | none =>
      match h : buildNewModel hashCode namingStyle typeId with
      | .error e => .error e
      | .ok m => .ok (m, some ⟨(typeId, m) :: r.models, by
          intro entry hentry
          rcases List.mem_cons.mp hentry with rfl | hold
          · exact ⟨namingStyle, h⟩
          · exact r.built entry hold⟩)

theorem buildModel_built {hashCode : Text → UInt32} {registry : Option (TOrmRegistry hashCode)}
    {namingStyle : EOrmNamingStyle} {typeId : TClassId}
    {out : TOrmModel × Option (TOrmRegistry hashCode)}
    (h : buildModel registry namingStyle typeId = .ok out) :
    ∃ style, buildNewModel hashCode style typeId = .ok out.1 := by
  cases registry with
  | none =>
    cases hb : buildNewModel hashCode namingStyle typeId with
    | error e => simp [buildModel, hb, Except.map] at h
    | ok m =>
      simp only [buildModel, hb, Except.map, Except.ok.injEq] at h
      exact ⟨namingStyle, by rw [hb, ← h]⟩
  | some r =>
    simp only [buildModel] at h
    split at h
    next m hm =>
      obtain ⟨l₁, l₂, hl, -⟩ := List.lookup_eq_some_iff.mp hm
      obtain ⟨style, hs⟩ := r.built (typeId, m) (by simp [hl])
      cases h
      exact ⟨style, hs⟩
    next =>
      split at h
      next => cases h
      next m hb =>
        cases h
        exact ⟨namingStyle, hb⟩

end DatabaseMod.OrmModel
