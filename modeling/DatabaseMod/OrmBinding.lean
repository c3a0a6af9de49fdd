import DatabaseMod.CoreResultSet
import DatabaseMod.OrmStatements

/-!
# Binding and reading back the fields of an object

An object is the contents of its fields. Typed access to a field, and the conversion to and
from JSON, belong to the reflection and JSON modules of the runtime; they are taken as given
and only say how one field's content is read and made.
-/

namespace DatabaseMod.OrmBinding
open SqlTokens (Text trim)
open CoreValues CoreResultSet OrmModel OrmStatements
open MachineInteger (castInt64)

structure Reflection (Slot : Type) where
  newSlot : TField → Slot
  getByte : TTypeId → Slot → ℤ
  getShort : TTypeId → Slot → ℤ
  getInt : TTypeId → Slot → ℤ
  getUInt : TTypeId → Slot → ℤ
  getLong : TTypeId → Slot → ℤ
  getULong : TTypeId → Slot → ℤ
  getFloat : TTypeId → Slot → UInt64
  getDouble : TTypeId → Slot → UInt64
  getString : TTypeId → Slot → Text
  getEnumAsString : TTypeId → Slot → Text
  getDecimal : TTypeId → Slot → Option Text
  toJson : TTypeId → Slot → Option Text
  setByte : TTypeId → ℤ → Slot
  setShort : TTypeId → ℤ → Slot
  setInt : TTypeId → ℤ → Slot
  setUInt : TTypeId → ℤ → Slot
  setLong : TTypeId → ℤ → Slot
  setULong : TTypeId → ℤ → Slot
  setFloat : TTypeId → UInt64 → Slot
  setDouble : TTypeId → UInt64 → Slot
  setString : TTypeId → Text → Slot
  setEnum : TTypeId → Text → Slot
  setDecimal : TTypeId → Option Text → Slot
  fromJson : TTypeId → Text → Slot

abbrev Object (Slot : Type) := TField → Slot

/-! ### The dialects' conversions -/

namespace TOrmDialect

def addBool (d : TOrmDialect) (query : TQueryResultSet) (value : ℤ) : TQueryResultSet :=
  match d with
  | .sqlite => query.addInt value
  | .postgres => if value ≠ 0 then query.addInt 1 else query.addInt 0

def addByte (_ : TOrmDialect) (query : TQueryResultSet) (value : ℤ) : TQueryResultSet :=
  query.addInt value

def addShort (_ : TOrmDialect) (query : TQueryResultSet) (value : ℤ) : TQueryResultSet :=
  query.addInt value

def addUInt (_ : TOrmDialect) (query : TQueryResultSet) (value : ℤ) : TQueryResultSet :=
  query.addLong (castInt64 value)

def addULong (_ : TOrmDialect) (query : TQueryResultSet) (value : ℤ) : TQueryResultSet :=
  query.addString (Nat.toDigits 10 value.toNat)

def addDecimal (_ : TOrmDialect) (query : TQueryResultSet) (value : Option Text) :
    TQueryResultSet :=
  match value with
  | some text => query.addString text
  | none => query.addNull

def boolFromDatabase (conv : Conversions) (d : TOrmDialect) (value : Option TDBType) : ℤ :=
  match value with
  | none => 0
  | some v =>
    if v.isNull then 0
    else match d with
      | .sqlite => if v.getInt conv ≠ 0 then 1 else 0
      | .postgres => v.getInt conv

end TOrmDialect

open TOrmDialect

section

variable {Slot : Type} (r : Reflection Slot) (d : TOrmDialect) (m : TOrmModel)

/-! ### Binding -/

/-- The type a field is handled by: an enum without `enum_string` by its underlying type. -/
def valueTypeId (fld : TOrmField) : TTypeId :=
  if fld.isEnum then fld.typeField.typeId.underlyingType else fld.typeField.typeId

def bindFieldValue (query : TQueryResultSet) (obj : Object Slot) (fld : TOrmField) :
    Except TOrmException TQueryResultSet :=
  let ty := fld.typeField.typeId
  let slot := obj fld.typeField
  if fld.isJson then
    match r.toJson ty slot with
    | none => .ok (query.addString [])
    | some json => .ok (query.addString json)
  else if fld.isBool then .ok (addBool d query (r.getInt ty slot))
  else if fld.isDecimal then .ok (addDecimal d query (r.getDecimal ty slot))
  else if fld.isEnum ∧ fld.isEnumString then .ok (query.addString (r.getEnumAsString ty slot))
  else
    match valueTypeId fld with
    | .stringTypeId => .ok (query.addString (r.getString ty slot))
    | .byteTypeId => .ok (addByte d query (r.getByte ty slot))
    | .shortTypeId => .ok (addShort d query (r.getShort ty slot))
    | .intTypeId => .ok (query.addInt (r.getInt ty slot))
    | .uintTypeId => .ok (addUInt d query (r.getUInt ty slot))
    | .longTypeId | .longIntTypeId => .ok (query.addLong (r.getLong ty slot))
    | .ulongTypeId | .ulongIntTypeId => .ok (addULong d query (r.getULong ty slot))
    | .floatTypeId => .ok (query.addFloat (r.getFloat ty slot))
    | .doubleTypeId => .ok (query.addDouble (r.getDouble ty slot))
    | _ => .error ⟨"Unsupported field type for column: ".toList ++ fld.name ++ " (".toList ++
        (valueTypeId fld).name ++ ")".toList⟩

/-- The loops of `BindInsertValues` and `BindUpdateValues`. -/
def bindValues (skip : TOrmField → Bool) (query : TQueryResultSet) (obj : Object Slot) :
    Except TOrmException TQueryResultSet :=
  m.fields.foldlM (fun query fld =>
    if skip fld then .ok query else bindFieldValue r d query obj fld) query

def bindInsertValues (query : TQueryResultSet) (obj : Object Slot) :
    Except TOrmException TQueryResultSet := bindValues r d m shouldSkipInsertField query obj

def bindUpdateValues (query : TQueryResultSet) (obj : Object Slot) :
    Except TOrmException TQueryResultSet := bindValues r d m shouldSkipUpdateField query obj

/-- A statement with its bindings, as `ExecuteQuery` receives them. -/
structure Request where
  sql : Text
  query : TQueryResultSet

/-- `SaveObject` up to the execution; `PrepareQuery` succeeds with a new result set. -/
def saveObject (obj : Option (Object Slot)) : Except TOrmException Request :=
  match obj with
  | none => .error ⟨"Cannot save Null object".toList⟩
  | some obj => do
    let query ← bindInsertValues r d m .create obj
    .ok ⟨d.rewritePlaceholders (buildInsertSql d m), query⟩

/-- `UpdateObject` up to the execution. -/
def updateObject (obj : Option (Object Slot)) : Except TOrmException Request :=
  match obj, m.primaryKey with
  | none, _ => .error ⟨"Cannot update Null object".toList⟩
  | some _, none => .error ⟨"Cannot update model without primary key: ".toList ++ m.typeId.name⟩
  | some obj, some primaryKey => do
    let query ← bindUpdateValues r d m .create obj
    let query ← bindFieldValue r d query obj primaryKey
    .ok ⟨d.rewritePlaceholders (buildUpdateSql d m primaryKey), query⟩

/-! ### Reading back -/

def store (obj : Object Slot) (fld : TOrmField) (slot : Slot) : Object Slot :=
  Function.update obj fld.typeField slot

variable (conv : Conversions)

def setFieldFromDbValue (obj : Object Slot) (fld : TOrmField) (value : Option TDBType) :
    Except TOrmException (Object Slot) :=
  match value with
  | none => .ok obj
  | some v =>
    let ty := fld.typeField.typeId
    if v.isNull then .ok obj
    else if fld.isJson then
      if v.getString = [] ∨ trim v.getString = [] then .ok obj
      else .ok (store obj fld (r.fromJson ty v.getString))
    else if fld.isBool then .ok (store obj fld (r.setInt ty (boolFromDatabase conv d (some v))))
    else if fld.isDecimal then .ok (store obj fld (r.setDecimal ty (v.getDecimal conv)))
    else if fld.isEnum ∧ fld.isEnumString then .ok (store obj fld (r.setEnum ty v.getString))
    else
      match valueTypeId fld with
      | .stringTypeId => .ok (store obj fld (r.setString ty v.getString))
      | .byteTypeId => .ok (store obj fld (r.setByte ty (v.getByte conv)))
      | .shortTypeId => .ok (store obj fld (r.setShort ty (v.getShort conv)))
      | .intTypeId => .ok (store obj fld (r.setInt ty (v.getInt conv)))
      | .uintTypeId => .ok (store obj fld (r.setUInt ty (v.getUInt conv)))
      | .longTypeId => .ok (store obj fld (r.setLong ty (v.getLong conv)))
      | .ulongTypeId => .ok (store obj fld (r.setULong ty (v.getULong conv)))
      | .floatTypeId => .ok (store obj fld (r.setFloat ty (v.getFloat conv)))
      | .doubleTypeId => .ok (store obj fld (r.setDouble ty (v.getDouble conv)))
      | _ => .error ⟨"Unsupported field type for column: ".toList ++ fld.name⟩

/-- `value i` is what the query returns for the `i`-th selected column. -/
def objectFromCurrentRow (value : ℕ → Option TDBType) : Except TOrmException (Object Slot) :=
  m.fields.zipIdx.foldlM
    (fun obj entry => setFieldFromDbValue r d conv obj entry.1 (value entry.2)) r.newSlot

end

/-! ### Fields as plain cells -/

inductive Cell
  | integer (value : ℤ)
  | bits (value : UInt64)
  | text (value : Text)
deriving DecidableEq, Repr

namespace Cell

def toInteger : Cell → ℤ
  | .integer value => value
  | _ => 0

def toBits : Cell → UInt64
  | .bits value => value
  | _ => 0

def toText : Cell → Text
  | .text value => value
  | _ => []

/-- Objects whose fields hold numbers and texts; enums are numbers with decimal names. -/
def reflection : Reflection Cell where
  newSlot fld := if fld.typeId = .stringTypeId then .text [] else .integer 0
  getByte _ := toInteger
  getShort _ := toInteger
  getInt _ := toInteger
  getUInt _ := toInteger
  getLong _ := toInteger
  getULong _ := toInteger
  getFloat _ := toBits
  getDouble _ := toBits
  getString _ := toText
  getEnumAsString _ cell := Nat.toDigits 10 cell.toInteger.toNat
  getDecimal _ cell := some cell.toText
  toJson _ cell := some cell.toText
  setByte _ := .integer
  setShort _ := .integer
  setInt _ := .integer
  setUInt _ := .integer
  setLong _ := .integer
  setULong _ := .integer
  setFloat _ := .bits
  setDouble _ := .bits
  setString _ := .text
  setEnum _ name := .integer (Nat.ofDigitChars 10 name 0)
  setDecimal _ value := .text (value.getD [])
  fromJson _ := .text

end Cell

/-! ### What is bound can be read back -/

section

variable {Slot : Type} (r : Reflection Slot) (d : TOrmDialect) (conv : Conversions)

/-- A value is stored in its field. A blank JSON text, as it is bound for no object, leaves
the field as it is. -/
def Loads (loaded : Object Slot) (fld : TOrmField) (v : TDBType) : Prop :=
  (∃ slot, setFieldFromDbValue r d conv loaded fld (some v) = .ok (store loaded fld slot)) ∨
    fld.isJson = true ∧ (v.getString = [] ∨ trim v.getString = []) ∧
      setFieldFromDbValue r d conv loaded fld (some v) = .ok loaded

/-- A field that is handled by its type, which is one that binding takes for a `Long` or a
`ULong` and that reading does not know. -/
structure IsLongInt (fld : TOrmField) : Prop where
  notJson : fld.isJson = false
  notBool : fld.isBool = false
  notDecimal : fld.isDecimal = false
  notEnumString : ¬ (fld.isEnum ∧ fld.isEnumString)
  type_eq : valueTypeId fld = .longIntTypeId ∨ valueTypeId fld = .ulongIntTypeId

variable {r d conv}

theorem loads_json {loaded : Object Slot} {fld : TOrmField} {v : TDBType} (hnull : v.isNull = false)
    (hjson : fld.isJson = true) : Loads r d conv loaded fld v := by
  by_cases hblank : v.getString = [] ∨ trim v.getString = []
  · refine .inr ⟨hjson, hblank, ?_⟩
    simp only [setFieldFromDbValue, hnull, hjson, Bool.false_eq_true, if_false, if_true]
    exact if_pos hblank
  · refine .inl ⟨r.fromJson fld.typeField.typeId v.getString, ?_⟩
    simp only [setFieldFromDbValue, hnull, hjson, Bool.false_eq_true, if_false, if_true]
    exact if_neg hblank

/-- What the two dispatches do with a field that is handled by its type. -/
theorem loads_typed_iff {query query' : TQueryResultSet} {obj loaded : Object Slot}
    {fld : TOrmField} {v : TDBType} (hnull : v.isNull = false) (hjson : fld.isJson = false)
    (hbool : fld.isBool = false) (hdecimal : fld.isDecimal = false)
    (henum : ¬ (fld.isEnum ∧ fld.isEnumString))
    (hbind : bindFieldValue r d query obj fld = .ok query') :
    Loads r d conv loaded fld v ↔
      ¬ (valueTypeId fld = .longIntTypeId ∨ valueTypeId fld = .ulongIntTypeId) := by
  simp only [bindFieldValue, hjson, hbool, hdecimal, Bool.false_eq_true, if_false, if_neg henum]
    at hbind
  simp only [Loads, setFieldFromDbValue, hnull, hjson, hbool, hdecimal, Bool.false_eq_true,
    if_false, if_neg henum, false_and, or_false]
  cases hty : valueTypeId fld with
  | longIntTypeId => exact iff_of_false (fun ⟨_, h⟩ => nomatch h) fun h => h (.inl rfl)
  | ulongIntTypeId => exact iff_of_false (fun ⟨_, h⟩ => nomatch h) fun h => h (.inr rfl)
  | sizeTTypeId | enumTypeId _ _ _ | objectTypeId _ =>
    rw [hty] at hbind
    cases hbind
  | _ => exact iff_of_true ⟨_, rfl⟩ (by simp)

/-- A value that was bound can be stored again if and only if its field does not have one
of the two types. -/
theorem saved_field_loads_iff {query query' : TQueryResultSet} {obj loaded : Object Slot}
    {fld : TOrmField} {v : TDBType} (hbind : bindFieldValue r d query obj fld = .ok query')
    (hnull : v.isNull = false) : Loads r d conv loaded fld v ↔ ¬ IsLongInt fld := by
  cases hjson : fld.isJson with
  | true => exact iff_of_true (loads_json hnull hjson) fun h => by simp [h.notJson] at hjson
  | false =>
    cases hbool : fld.isBool with
    | true =>
      refine iff_of_true (.inl ⟨r.setInt fld.typeField.typeId (boolFromDatabase conv d (some v)), ?_⟩)
        fun h => by simp [h.notBool] at hbool
      simp only [setFieldFromDbValue, hnull, hjson, hbool, Bool.false_eq_true, if_false, if_true]
    | false =>
      cases hdecimal : fld.isDecimal with
      | true =>
        refine iff_of_true (.inl ⟨r.setDecimal fld.typeField.typeId (v.getDecimal conv), ?_⟩)
          fun h => by simp [h.notDecimal] at hdecimal
        simp only [setFieldFromDbValue, hnull, hjson, hbool, hdecimal, Bool.false_eq_true,
          if_false, if_true]
      | false =>
        by_cases henum : fld.isEnum ∧ fld.isEnumString
        · refine iff_of_true (.inl ⟨r.setEnum fld.typeField.typeId v.getString, ?_⟩)
            fun h => h.notEnumString henum
          simp only [setFieldFromDbValue, hnull, hjson, hbool, hdecimal, Bool.false_eq_true,
            if_false, if_pos henum]
        · rw [loads_typed_iff hnull hjson hbool hdecimal henum hbind]
          constructor
          · exact fun htype h => htype h.type_eq
          · exact fun h htype => h ⟨hjson, hbool, hdecimal, henum, htype⟩

end

/-- A field of a type, as the model builder makes it without metadata. -/
def plainField (ty : TTypeId) : TOrmField :=
  buildField .lowerCase ⟨"size".toList, ty, []⟩

theorem saved_field_loads_iff_long :
    Loads Cell.reflection .sqlite .integers (fun _ => .integer 0) (plainField .longTypeId)
      (.setLong 7) ↔ ¬ IsLongInt (plainField .longTypeId) :=
  @saved_field_loads_iff Cell Cell.reflection .sqlite .integers .create _ (fun _ => .integer 7) _ _ _
    rfl rfl

/-- A `LongInt` is bound and cannot be read again. -/
theorem longInt_not_loaded :
    bindFieldValue Cell.reflection .sqlite .create (fun _ => .integer 7)
        (plainField .longIntTypeId) = .ok (TQueryResultSet.create.addLong 7) ∧
      setFieldFromDbValue Cell.reflection .sqlite .integers (fun _ => .integer 0)
          (plainField .longIntTypeId) (some (.setLong 7)) =
        .error ⟨"Unsupported field type for column: size".toList⟩ :=
  ⟨rfl, rfl⟩

end DatabaseMod.OrmBinding
