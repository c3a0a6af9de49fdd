import DatabaseMod.DecimalOrder
import DatabaseMod.OrmBinding

/-!
# The order of stored numbers

A field of a numeric type is bound in one representation and stored in a column of one
declared type. The column types and how they compare belong to the database: the numeric
ones compare numbers, a text column keeps the decimal text of a number and compares texts
character by character.
-/

namespace DatabaseMod.OrmOrdering
open SqlTokens (Text)
open CoreValues CoreResultSet OrmModel OrmStatements OrmBinding
open MachineInteger (castInt64 castInt64_of_mem)
open DecimalOrder (width)

/-! ### Columns -/

/-- What a column keeps of a value. -/
inductive Stored
  | number (n : ℤ)
  | text (t : Text)
deriving DecidableEq, Repr

def numericColumns : List Text :=
  ["INTEGER".toList, "SMALLINT".toList, "BIGINT".toList, "DECIMAL(20,0)".toList]

def storedNumber : Content → Option Stored
  | .integer _ n => some (.number n)
  | .string t => some (.number (readInteger t))
  | _ => none

def storedText : Content → Option Stored
  | .integer _ n => some (.text (printInteger n))
  | .string t => some (.text t)
  | _ => none

def storedIn (columnType : Text) (v : TDBType) : Option Stored :=
  if columnType ∈ numericColumns then storedNumber v.content
  else if columnType = "TEXT".toList then storedText v.content
  else none

/-- Values of one column are compared as numbers or as texts. -/
inductive Below : Option Stored → Option Stored → Prop
  | number {a b : ℤ} (h : a < b) : Below (some (.number a)) (some (.number b))
  | text {a b : Text} (h : a < b) : Below (some (.text a)) (some (.text b))

theorem below_number_iff {a b : ℤ} :
    Below (some (.number a)) (some (.number b)) ↔ a < b := by
  constructor
  · intro h
    cases h with
    | number h => exact h
  · exact .number

theorem below_text_iff {a b : Text} : Below (some (.text a)) (some (.text b)) ↔ a < b := by
  constructor
  · intro h
    cases h with
    | text h => exact h
  · exact .text

/-! ### Fields -/

section

variable {Slot : Type} (r : Reflection Slot) (d : TOrmDialect) (fld : TOrmField)

/-- What the column of a field keeps of the value that an object's field is bound as. -/
def representation (query : TQueryResultSet) (obj : Object Slot) : Option Stored :=
  match bindFieldValue r d query obj fld with
  | .ok bound =>
    (bound.boundValues[query.bindCount]?).join.bind (storedIn (d.sqlTypeForField fld))
  | .error _ => none

/-- The values of the numeric types. -/
def InRange : TTypeId → ℤ → Prop
  | .byteTypeId, n => 0 ≤ n ∧ n < 2 ^ 8
  | .shortTypeId, n => 0 ≤ n ∧ n < 2 ^ 16
  | .intTypeId, n => -2 ^ 31 ≤ n ∧ n < 2 ^ 31
  | .uintTypeId, n => 0 ≤ n ∧ n < 2 ^ 32
  | .longTypeId, n => -2 ^ 63 ≤ n ∧ n < 2 ^ 63
  | .ulongTypeId, n => 0 ≤ n ∧ n < 2 ^ 64
  | _, _ => False

/-- The number in a field of one of these types. -/
def fieldNumber (obj : Object Slot) : ℤ :=
  let ty := fld.typeField.typeId
  let slot := obj fld.typeField
  match ty with
  | .byteTypeId => r.getByte ty slot
  | .shortTypeId => r.getShort ty slot
  | .intTypeId => r.getInt ty slot
  | .uintTypeId => r.getUInt ty slot
  | .longTypeId => r.getLong ty slot
  | .ulongTypeId => r.getULong ty slot
  | _ => 0

/-- What a number of a type is bound as. -/
def boundAs : TTypeId → ℤ → TDBType
  | .uintTypeId, n | .longTypeId, n => .setLong n
  | .ulongTypeId, n => .setString (Nat.toDigits 10 n.toNat)
  | _, n => .setInt n

/-- A field with a type of its own, not declared to hold JSON or a truth value. -/
structure IsNumeric : Prop where
  notJson : fld.isJson = false
  notBool : fld.isBool = false
  notDecimal : fld.isDecimal = false
  notEnum : fld.isEnum = false

/-- The type is stored as its decimal text. -/
def StoredAsText (ty : TTypeId) : Prop := d = .sqlite ∧ ty = .ulongTypeId

variable {r d fld}

/-- Fields the model builder makes are numeric by their type and metadata. -/
theorem isNumeric_buildField (namingStyle : EOrmNamingStyle) {f : TField} {n : ℤ}
    (hjson : hasMetadata f.metadata "json" = false) (hbool : hasMetadata f.metadata "bool" = false)
    (hn : InRange f.typeId n) : IsNumeric (buildField namingStyle f) := by
  refine ⟨hjson, hbool, ?_, ?_⟩ <;> simp only [buildField] <;> revert hn <;>
    cases f.typeId <;> intro hn <;> first | rfl | exact hn.elim

theorem boundValues_addBindValue (query : TQueryResultSet) (v : TDBType) :
    ((query.addBindValue (some v)).boundValues[query.bindCount]?).join = some v := by
  simp only [TQueryResultSet.addBindValue, TQueryResultSet.bindValue]
  rw [List.getElem?_set_self (by simp; omega)]
  rfl

/-- The representation is that of the one value the field's type is bound as. -/
theorem representation_of_bind {query : TQueryResultSet} {obj : Object Slot} {v : TDBType}
    (hbind : bindFieldValue r d query obj fld = .ok (query.addBindValue (some v))) :
    representation r d fld query obj = storedIn (d.sqlTypeForField fld) v := by
  rw [representation, hbind]
  simp only [boundValues_addBindValue, Option.bind_some]

theorem storedIn_numeric {columnType : Text} (h : columnType ∈ numericColumns) (v : TDBType) :
    storedIn columnType v = storedNumber v.content := if_pos h

theorem inInt64_of_uint {n : ℤ} (h : InRange .uintTypeId n) : MachineInteger.InInt64 n := by
  obtain ⟨hl, hu⟩ := h
  unfold MachineInteger.InInt64
  omega

theorem readInteger_toDigits {n : ℤ} (h : 0 ≤ n) : readInteger (Nat.toDigits 10 n.toNat) = n := by
  rw [← printInteger_of_nonneg h, readInteger_printInteger]

theorem bindFieldValue_numeric (hfld : IsNumeric fld) (query : TQueryResultSet)
    {obj : Object Slot} (hn : InRange fld.typeField.typeId (fieldNumber r fld obj)) :
    bindFieldValue r d query obj fld = .ok (query.addBindValue
      (some (boundAs fld.typeField.typeId (fieldNumber r fld obj)))) := by
  have hvalue : valueTypeId fld = fld.typeField.typeId := by simp [valueTypeId, hfld.notEnum]
  have henum : ¬ (fld.isEnum ∧ fld.isEnumString) := by simp [hfld.notEnum]
  simp only [bindFieldValue, hfld.notJson, hfld.notBool, hfld.notDecimal, Bool.false_eq_true,
    if_false, if_neg henum, hvalue, fieldNumber] at hn ⊢
  cases hty : fld.typeField.typeId with
  | uintTypeId =>
    rw [hty] at hn
    simp only [TOrmDialect.addUInt, castInt64_of_mem (inInt64_of_uint hn)]
    rfl
  | byteTypeId | shortTypeId | intTypeId | longTypeId | ulongTypeId => rfl
  | _ =>
    rw [hty] at hn
    exact hn.elim

theorem sqlTypeForField_numeric (hfld : IsNumeric fld) {n : ℤ}
    (hn : InRange fld.typeField.typeId n) (htext : ¬ StoredAsText d fld.typeField.typeId) :
    d.sqlTypeForField fld ∈ numericColumns := by
  have henum : ¬ (fld.isEnum ∧ fld.isEnumString) := by simp [hfld.notEnum]
  cases d with
  | sqlite =>
    simp only [TOrmDialect.sqlTypeForField, TOrmDialect.sqliteTypeForField, hfld.notJson,
      hfld.notBool, Bool.false_eq_true, if_false, if_neg henum]
    cases hty : fld.typeField.typeId with
    | ulongTypeId => exact absurd ⟨rfl, hty⟩ htext
    | byteTypeId | shortTypeId | intTypeId | longTypeId | uintTypeId => decide
    | _ =>
      rw [hty] at hn
      exact hn.elim
  | postgres =>
    simp only [TOrmDialect.sqlTypeForField, TOrmDialect.postgresTypeForField, hfld.notJson,
      hfld.notBool, Bool.false_eq_true, if_false, if_neg henum]
    cases hty : fld.typeField.typeId with
    | byteTypeId | shortTypeId | intTypeId | longTypeId | uintTypeId | ulongTypeId => decide
    | _ =>
      rw [hty] at hn
      exact hn.elim

theorem representation_number (hfld : IsNumeric fld) (query : TQueryResultSet)
    {obj : Object Slot} (hn : InRange fld.typeField.typeId (fieldNumber r fld obj))
    (htext : ¬ StoredAsText d fld.typeField.typeId) :
    representation r d fld query obj = some (.number (fieldNumber r fld obj)) := by
  rw [representation_of_bind (bindFieldValue_numeric hfld query hn),
    storedIn_numeric (sqlTypeForField_numeric hfld hn htext)]
  generalize fieldNumber r fld obj = n at hn ⊢
  cases hty : fld.typeField.typeId with
  | ulongTypeId =>
    rw [hty] at hn
    simp only [boundAs, TDBType.setString, storedNumber, readInteger_toDigits hn.1]
  | _ => rfl

theorem representation_text (hfld : IsNumeric fld) (query : TQueryResultSet)
    {obj : Object Slot} (hn : InRange fld.typeField.typeId (fieldNumber r fld obj))
    (htext : StoredAsText d fld.typeField.typeId) :
    representation r d fld query obj =
      some (.text (Nat.toDigits 10 (fieldNumber r fld obj).toNat)) := by
  rw [representation_of_bind (bindFieldValue_numeric hfld query hn)]
  obtain ⟨rfl, hty⟩ := htext
  have henum : ¬ (fld.isEnum ∧ fld.isEnumString) := by simp [hfld.notEnum]
  have hcolumn : TOrmDialect.sqlTypeForField .sqlite fld = "TEXT".toList := by
    simp only [TOrmDialect.sqlTypeForField, TOrmDialect.sqliteTypeForField, hfld.notJson,
      hfld.notBool, Bool.false_eq_true, if_false, if_neg henum, hty]
  rw [hcolumn, hty]
  rfl

/-! ### Order and selection -/

/-- The condition under which two numbers stored as texts keep their order: the smaller is at
most the first digits of the other. -/
def SameTextOrder (a b : ℤ) : Prop := a.toNat ≤ b.toNat / 10 ^ (width b.toNat - width a.toNat)

theorem sameTextOrder_of_width {a b : ℤ} (h : a < b) (hwidth : width a.toNat = width b.toNat) :
    SameTextOrder a b := by
  rw [SameTextOrder, hwidth, Nat.sub_self, pow_zero, Nat.div_one]
  omega

/-- Rows ordered by one column. -/
def OrderedBy (item : TOrmOrderItem) (rows : List (Option Stored)) : Prop :=
  rows.Pairwise fun s t => if item.ascending then ¬ Below t s else ¬ Below s t

/-- The condition `column >= ?` with a bound parameter. -/
def AtLeast (parameter row : Option Stored) : Prop := ¬ Below row parameter

variable (r d fld)

/-- An object with the statement its field was bound in. -/
abbrev Save (Slot : Type) := TQueryResultSet × Object Slot

def saved (s : Save Slot) : Option Stored := representation r d fld s.1 s.2

def number (s : Save Slot) : ℤ := fieldNumber r fld s.2

variable {r d fld}

theorem below_iff_of_number (hfld : IsNumeric fld) {x y : Save Slot}
    (hx : InRange fld.typeField.typeId (number r fld x))
    (hy : InRange fld.typeField.typeId (number r fld y))
    (htext : ¬ StoredAsText d fld.typeField.typeId) :
    Below (saved r d fld x) (saved r d fld y) ↔ number r fld x < number r fld y := by
  rw [saved, saved, representation_number hfld x.1 hx htext,
    representation_number hfld y.1 hy htext, below_number_iff, number, number]

theorem below_iff_of_text (hfld : IsNumeric fld) {x y : Save Slot}
    (hx : InRange fld.typeField.typeId (number r fld x))
    (hy : InRange fld.typeField.typeId (number r fld y))
    (htext : StoredAsText d fld.typeField.typeId) (hlt : number r fld x < number r fld y) :
    Below (saved r d fld x) (saved r d fld y) ↔
      SameTextOrder (number r fld x) (number r fld y) := by
  have hnonneg : 0 ≤ number r fld x := by
    rw [htext.2] at hx
    exact hx.1
  have hnat : (number r fld x).toNat < (number r fld y).toNat := by omega
  rw [saved, saved, representation_text hfld x.1 hx htext, representation_text hfld y.1 hy htext,
    below_text_iff, SameTextOrder]
  exact DecimalOrder.toDigits_lt_iff hnat

theorem orderedBy_iff (hfld : IsNumeric fld) (htext : ¬ StoredAsText d fld.typeField.typeId)
    (item : TOrmOrderItem) {saves : List (Save Slot)}
    (hin : ∀ s ∈ saves, InRange fld.typeField.typeId (number r fld s)) :
    OrderedBy item (saves.map (saved r d fld)) ↔
      saves.Pairwise fun x y =>
        if item.ascending then number r fld x ≤ number r fld y
        else number r fld y ≤ number r fld x := by
  rw [OrderedBy, List.pairwise_map]
  refine List.Pairwise.iff_of_mem fun {x y} hx hy => ?_
  rw [below_iff_of_number hfld (hin y hy) (hin x hx) htext,
    below_iff_of_number hfld (hin x hx) (hin y hy) htext, not_lt, not_lt]

/-- Numbers keep their order in the columns of their fields, except for those that are
stored as texts, which keep it where their first digits do. Where they keep it, ordering by
the column orders by the numbers, and comparing with a parameter compares them. -/
theorem numbers_keep_order (r : Reflection Slot) (d : TOrmDialect) (hfld : IsNumeric fld) :
    (∀ x y : Save Slot, InRange fld.typeField.typeId (number r fld x) →
      InRange fld.typeField.typeId (number r fld y) → number r fld x < number r fld y →
      (Below (saved r d fld x) (saved r d fld y) ↔
        (StoredAsText d fld.typeField.typeId →
          SameTextOrder (number r fld x) (number r fld y)))) ∧
      (¬ StoredAsText d fld.typeField.typeId → ∀ saves : List (Save Slot),
        (∀ s ∈ saves, InRange fld.typeField.typeId (number r fld s)) →
        (∀ item, OrderedBy item (saves.map (saved r d fld)) ↔
          saves.Pairwise fun x y =>
            if item.ascending then number r fld x ≤ number r fld y
            else number r fld y ≤ number r fld x) ∧
        ∀ parameter, InRange fld.typeField.typeId (number r fld parameter) → ∀ s ∈ saves,
          (AtLeast (saved r d fld parameter) (saved r d fld s) ↔
            number r fld parameter ≤ number r fld s)) := by
  constructor
  · intro x y hx hy hlt
    by_cases htext : StoredAsText d fld.typeField.typeId
    · rw [below_iff_of_text hfld hx hy htext hlt]
      exact ⟨fun h _ => h, fun h => h htext⟩
    · exact iff_of_true ((below_iff_of_number hfld hx hy htext).mpr hlt) fun h => absurd h htext
  · intro htext saves hin
    constructor
    · intro item
      exact orderedBy_iff hfld htext item hin
    · intro parameter hparameter s hs
      rw [AtLeast, below_iff_of_number hfld (hin s hs) hparameter htext, not_lt]

end

/-! ### An unsigned field -/

def uintField : TOrmField := plainField .uintTypeId
def ulongField : TOrmField := plainField .ulongTypeId

def saveOf (n : ℤ) : Save Cell := (.create, fun _ => .integer n)

theorem numbers_keep_order_uint :
    IsNumeric uintField ∧
      Below (saved Cell.reflection .sqlite uintField (saveOf 9))
        (saved Cell.reflection .sqlite uintField (saveOf 10)) := by
  have hfld : IsNumeric uintField :=
    isNumeric_buildField .lowerCase (n := 0) rfl rfl (by constructor <;> decide)
  have hsqlite : ¬ StoredAsText .sqlite uintField.typeField.typeId := fun h => absurd h.2 (by decide)
  exact ⟨hfld, ((numbers_keep_order Cell.reflection .sqlite hfld).1 (saveOf 9) (saveOf 10)
    (by constructor <;> decide) (by constructor <;> decide) (by decide)).mpr
    fun h => absurd h hsqlite⟩

/-- In the text column of an unsigned long, 9 comes after 10. -/
theorem nine_after_ten :
    IsNumeric ulongField ∧ InRange ulongField.typeField.typeId 9 ∧
      InRange ulongField.typeField.typeId 10 ∧
      number Cell.reflection ulongField (saveOf 9) = 9 ∧
      number Cell.reflection ulongField (saveOf 10) = 10 ∧
      ¬ Below (saved Cell.reflection .sqlite ulongField (saveOf 9))
        (saved Cell.reflection .sqlite ulongField (saveOf 10)) := by
  have h9 : saved Cell.reflection .sqlite ulongField (saveOf 9) = some (.text ['9']) := rfl
  have h10 : saved Cell.reflection .sqlite ulongField (saveOf 10) = some (.text ['1', '0']) := rfl
  have hin9 : InRange ulongField.typeField.typeId 9 := by constructor <;> decide
  have hin10 : InRange ulongField.typeField.typeId 10 := by constructor <;> decide
  refine ⟨isNumeric_buildField .lowerCase rfl rfl hin9, hin9, hin10, rfl, rfl, ?_⟩
  rw [h9, h10, below_text_iff]
  decide

end DatabaseMod.OrmOrdering
