import DatabaseMod.OrmAlignment
import DatabaseMod.OrmModelBuilder
import DatabaseMod.SqliteRounds

/-!
# Objects saved and read back through SQLite

A value passes from its field through the dialect and the driver into a column, and from
the column through the driver and a getter back into the field. Integers travel as
integers or as their decimal texts; whatever way one of them takes, the getter of its type
finds it again.
-/

namespace DatabaseMod.OrmSqliteRoundTrip
open MachineInteger
open SqlTokens (Text)
open CoreValues CoreResultSet CoreQuery SqlEngine SqliteDriver SqliteSteps SqliteInvariant
open OrmModel OrmModelBuilder OrmStatements OrmBinding OrmAlignment SqliteCursor SqliteRounds
open SqliteVerdict (callsBetween opened)
open TSQLiteResultSet (ensureRecord)

/-! ### Field types that keep every value -/

/-- The values of the integer types. -/
def InRange : TTypeId → ℤ → Prop
  | .byteTypeId, n => 0 ≤ n ∧ n < 2 ^ 8
  | .shortTypeId, n => 0 ≤ n ∧ n < 2 ^ 16
  | .intTypeId, n => InInt32 n
  | .uintTypeId, n => 0 ≤ n ∧ n < 2 ^ 32
  | .longTypeId, n => InInt64 n
  | .ulongTypeId, n => 0 ≤ n ∧ n < 2 ^ 64
  | _, _ => False

instance (ty : TTypeId) (n : ℤ) : Decidable (InRange ty n) :=
  match ty with
  | .byteTypeId | .shortTypeId | .intTypeId | .uintTypeId | .longTypeId | .ulongTypeId =>
    inferInstanceAs (Decidable (_ ∧ _))
  | .longIntTypeId | .ulongIntTypeId | .sizeTTypeId | .floatTypeId | .doubleTypeId
  | .stringTypeId | .enumTypeId _ _ _ | .objectTypeId _ => inferInstanceAs (Decidable False)

def isInteger : TTypeId → Bool
  | .byteTypeId | .shortTypeId | .intTypeId | .uintTypeId | .longTypeId | .ulongTypeId => true
  | _ => false

def isExact (fld : TOrmField) : Bool :=
  !fld.isJson && !fld.isDecimal && !fld.isEnumString &&
    if fld.isBool then fld.typeField.typeId = .intTypeId
    else match fld.typeField.typeId with
      | .stringTypeId => true
      | .enumTypeId _ ty _ => isInteger ty
      | ty => isInteger ty

section Fields

variable {Slot : Type} (r : Reflection Slot)

/-- The getter that binding uses for a type. -/
def getInteger : TTypeId → TTypeId → Slot → ℤ
  | .byteTypeId => r.getByte
  | .shortTypeId => r.getShort
  | .intTypeId => r.getInt
  | .uintTypeId => r.getUInt
  | .longTypeId => r.getLong
  | .ulongTypeId => r.getULong
  | _ => fun _ _ => 0

/-- The setter that reading uses for a type. -/
def setInteger : TTypeId → TTypeId → ℤ → Slot
  | .byteTypeId => r.setByte
  | .shortTypeId => r.setShort
  | .intTypeId => r.setInt
  | .uintTypeId => r.setUInt
  | .longTypeId => r.setLong
  | .ulongTypeId => r.setULong
  | _ => r.setInt

/-- A field is read as it was set, by the getter and the setter of its own type; that of an enum
is the type it is made of. -/
structure Faithful : Prop where
  integer : ∀ (fieldType : TTypeId) n, InRange fieldType.underlyingType n →
    getInteger r fieldType.underlyingType fieldType
      (setInteger r fieldType.underlyingType fieldType n) = n
  string : ∀ s, r.getString .stringTypeId (r.setString .stringTypeId s) = s

/-- The content of a field is a value of its type; texts have no NUL. -/
def Contains (fld : TOrmField) (slot : Slot) : Prop :=
  match valueTypeId fld with
  | .stringTypeId => ∃ s, NUL ∉ s ∧ slot = r.setString fld.typeField.typeId s
  | ty => ∃ n, InRange ty n ∧ slot = setInteger r ty fld.typeField.typeId n

/-- The value that was saved; a `bool` field keeps whether it is zero. -/
def Restored (fld : TOrmField) (saved restored : Slot) : Prop :=
  if fld.isBool then
    r.getInt fld.typeField.typeId restored ≠ 0 ↔ r.getInt fld.typeField.typeId saved ≠ 0
  else restored = saved

end Fields

/-! ### Columns -/

/-- What a column of a declared type keeps of a value. -/
structure Storage where
  store : Text → SqlValue → SqlValue
  integer_integer : ∀ n, InInt64 n → store "INTEGER".toList (.integer n) = .integer n
  text_text : ∀ t, NUL ∉ t → store "TEXT".toList (.text t) = .text t
  text_integer : ∀ n, InInt64 n → store "TEXT".toList (.integer n) = .text (printInteger n)

/-- The runtime's conversions invert decimal printing. -/
structure ReadsDecimals (conv : Conversions) : Prop where
  toInt : ∀ n, InInt32 n → conv.toInt (printInteger n) = n
  toUInt : ∀ n, 0 ≤ n → n < 2 ^ 32 → conv.toUInt (printInteger n) = n
  toLong : ∀ n, InInt64 n → conv.toLong (printInteger n) = n
  toULong : ∀ n, 0 ≤ n → n < 2 ^ 64 → conv.toULong (printInteger n) = n

section RoundTrip

variable {Slot : Type} (r : Reflection Slot) (conv : Conversions) (σ : Storage)

/-- The cell of a field: what the column keeps of the parameter that was bound for it, or
the key that the engine generated. -/
def SavedCell (obj : Object Slot) (fld : TOrmField) (c : SqlValue) : Prop :=
  if shouldSkipInsertField fld then ∃ n, InInt64 n ∧ c = .integer n
  else ∃ v p, Binds .sqlite r obj fld v ∧ parameterOf conv v = some p ∧
    c = σ.store (TOrmDialect.sqliteTypeForField fld) p

def SavedRow (m : TOrmModel) (obj : Object Slot) (row : Row) : Prop :=
  ∀ entry ∈ m.fields.zipIdx, SavedCell r conv σ obj entry.1 (cell row entry.2)

theorem Contains.integer {r : Reflection Slot} {fld : TOrmField} {slot : Slot}
    (h : Contains r fld slot) (hint : isInteger (valueTypeId fld) = true) :
    ∃ n, InRange (valueTypeId fld) n ∧
      slot = setInteger r (valueTypeId fld) fld.typeField.typeId n := by
  unfold Contains at h
  split at h
  next hty =>
    rw [hty] at hint
    cases hint
  next => exact h

/-! ### From a field to its column -/

/-- The two forms in which a column keeps an integer. -/
def Carries (n : ℤ) (c : SqlValue) : Prop := c = .integer n ∨ c = .text (printInteger n)

variable {r conv σ}

/-- How a field of an exact type is handled. -/
inductive Handled (fld : TOrmField) : Prop
  | string (own : fld.typeField.typeId = .stringTypeId)
    (type_eq : valueTypeId fld = .stringTypeId) (notBool : fld.isBool = false)
    (column : TOrmDialect.sqliteTypeForField fld = "TEXT".toList)
  | bool (own : fld.typeField.typeId = .intTypeId)
    (type_eq : valueTypeId fld = .intTypeId) (isBool : fld.isBool = true)
    (column : TOrmDialect.sqliteTypeForField fld = "INTEGER".toList)
  | integer (own : fld.typeField.typeId.underlyingType = valueTypeId fld)
    (isInt : isInteger (valueTypeId fld) = true) (notBool : fld.isBool = false)
    (column : TOrmDialect.sqliteTypeForField fld = "TEXT".toList ∨
      TOrmDialect.sqliteTypeForField fld = "INTEGER".toList ∧ valueTypeId fld ≠ .ulongTypeId)

theorem handled_of_exact {namingStyle : EOrmNamingStyle} {f : TField}
    (hexact : isExact (buildField namingStyle f) = true) : Handled (buildField namingStyle f) := by
  simp only [isExact, Bool.and_eq_true, Bool.not_eq_true'] at hexact
  obtain ⟨⟨⟨hjson, -⟩, henum⟩, hty⟩ := hexact
  by_cases hbool : (buildField namingStyle f).isBool = true
  · rw [if_pos hbool, decide_eq_true_eq] at hty
    have htypeId : f.typeId = .intTypeId := hty
    refine .bool htypeId ?_ hbool ?_
    · simp [valueTypeId, buildField, htypeId, TTypeId.isEnum, TTypeId.isFlagsEnum]
    · rw [TOrmDialect.sqliteTypeForField, if_neg (by simp [hjson]), if_pos hbool]
  rw [if_neg hbool] at hty
  have hnotBool : (buildField namingStyle f).isBool = false := by simpa using hbool
  have hfield : (buildField namingStyle f).typeField = f := rfl
  rw [hfield] at hty
  cases hkind : f.typeId with
  | stringTypeId =>
    refine .string hkind ?_ hnotBool ?_
    · simp [valueTypeId, buildField, hkind, TTypeId.isEnum, TTypeId.isFlagsEnum]
    · simp [TOrmDialect.sqliteTypeForField, hjson, henum, hnotBool, hfield, hkind]
  | enumTypeId name ty flags =>
    rw [hkind] at hty
    refine .integer ?_ ?_ hnotBool (.inl ?_)
    · cases flags <;>
        simp [valueTypeId, buildField, hkind, TTypeId.isEnum, TTypeId.isFlagsEnum]
    · cases flags <;>
        simpa [valueTypeId, buildField, hkind, TTypeId.isEnum, TTypeId.isFlagsEnum,
          TTypeId.underlyingType] using hty
    · simp [TOrmDialect.sqliteTypeForField, hjson, henum, hnotBool, hfield, hkind]
  | _ =>
    rw [hkind] at hty
    have hvalue : valueTypeId (buildField namingStyle f) = f.typeId := by
      simp [valueTypeId, buildField, hkind, TTypeId.isEnum, TTypeId.isFlagsEnum]
    first
    | exact absurd hty Bool.false_ne_true
    | refine .integer ?_ ?_ hnotBool ?_
      · rw [hvalue, hfield, hkind]
        rfl
      · rw [hvalue, hkind]
        rfl
      · rw [hvalue, hkind]
        simp [TOrmDialect.sqliteTypeForField, hjson, henum, hnotBool, hfield, hkind]

theorem binds_unique {d : TOrmDialect} {obj : Object Slot} {fld : TOrmField}
    {v v' : Option TDBType} (h : Binds d r obj fld v)
    (h' : bindFieldValue r d .create obj fld = .ok (TQueryResultSet.create.addBindValue v')) :
    v = v' := by
  have heq := (h .create).symm.trans h'
  rw [Except.ok.injEq] at heq
  have hbound := congrArg TQueryResultSet.boundValues heq
  simpa [TQueryResultSet.addBindValue, TQueryResultSet.bindValue, TQueryResultSet.create]
    using hbound

/-- A field without a conversion of its own: neither JSON, decimal nor an enum's name. -/
structure Plain (fld : TOrmField) : Prop where
  notJson : fld.isJson = false
  notDecimal : fld.isDecimal = false
  notEnumString : fld.isEnumString = false

theorem plain_of_exact {fld : TOrmField} (h : isExact fld = true) : Plain fld := by
  simp only [isExact, Bool.and_eq_true, Bool.not_eq_true'] at h
  obtain ⟨⟨⟨hjson, hdecimal⟩, henum⟩, -⟩ := h
  exact ⟨hjson, hdecimal, henum⟩

/-- The parameter bound for an integer of a type. -/
def integerParameter : TTypeId → ℤ → SqlValue
  | .ulongTypeId, n => .text (printInteger n)
  | _, n => .integer n

theorem inInt64_of_inRange {ty : TTypeId} {n : ℤ} (h : InRange ty n) (hty : ty ≠ .ulongTypeId) :
    InInt64 n := by
  cases ty <;> simp only [InRange, InInt32, InInt64] at h ⊢ <;> first | omega | exact absurd rfl hty

theorem inInt32_of_inRange {ty : TTypeId} {n : ℤ} (h : InRange ty n)
    (hty : ty = .byteTypeId ∨ ty = .shortTypeId ∨ ty = .intTypeId) : InInt32 n := by
  rcases hty with rfl | rfl | rfl <;> simp only [InRange, InInt32] at h ⊢ <;> omega

theorem binds_integer (conv : Conversions) (hr : Faithful r) {obj : Object Slot} {fld : TOrmField}
    (hplain : Plain fld) (hown : fld.typeField.typeId.underlyingType = valueTypeId fld)
    (hbool : fld.isBool = false) (hint : isInteger (valueTypeId fld) = true) {n : ℤ}
    (hn : InRange (valueTypeId fld) n)
    (hslot : obj fld.typeField = setInteger r (valueTypeId fld) fld.typeField.typeId n) :
    ∃ v, bindFieldValue r .sqlite .create obj fld =
        .ok (TQueryResultSet.create.addBindValue v) ∧
      parameterOf conv v = some (integerParameter (valueTypeId fld) n) := by
  have hread := hr.integer fld.typeField.typeId n (hown ▸ hn)
  rw [hown, ← hslot] at hread
  unfold bindFieldValue
  simp only [hplain.notJson, hplain.notDecimal, hplain.notEnumString, hbool, Bool.false_eq_true,
    and_false, if_false]
  cases hty : valueTypeId fld with
  | byteTypeId | shortTypeId | intTypeId =>
    rw [hty] at hn hread
    have h32 := castInt32_of_mem (inInt32_of_inRange hn (by simp))
    refine ⟨some (.setInt n), ?_, congrArg (fun x => some (SqlValue.integer x)) h32⟩
    exact congrArg (fun x => Except.ok (TQueryResultSet.create.addInt x)) hread
  | uintTypeId =>
    rw [hty] at hn hread
    have h64 := castInt64_of_mem (inInt64_of_inRange hn (by simp))
    refine ⟨some (.setLong n), ?_, congrArg (fun x => some (SqlValue.integer x)) h64⟩
    have hvalue : castInt64 (r.getUInt fld.typeField.typeId (obj fld.typeField)) = n :=
      (congrArg castInt64 hread).trans h64
    exact congrArg (fun x => Except.ok (TQueryResultSet.create.addLong x)) hvalue
  | longTypeId =>
    rw [hty] at hn hread
    have h64 := castInt64_of_mem (inInt64_of_inRange hn (by simp))
    refine ⟨some (.setLong n), ?_, congrArg (fun x => some (SqlValue.integer x)) h64⟩
    exact congrArg (fun x => Except.ok (TQueryResultSet.create.addLong x)) hread
  | ulongTypeId =>
    rw [hty] at hn hread
    have hvalue : r.getULong fld.typeField.typeId (obj fld.typeField) = n := hread
    have htext : cString (printInteger n) = printInteger n := by
      rw [cString_eq_iff, printInteger_of_nonneg hn.1]
      exact nul_not_mem_toDigits _
    refine ⟨some (.setString (printInteger n)), ?_, congrArg (fun t => some (SqlValue.text t)) htext⟩
    rw [printInteger_of_nonneg hn.1, ← hvalue]
    rfl
  | _ =>
    rw [hty] at hint
    cases hint

theorem carries_integer (hr : Faithful r) {obj : Object Slot} {fld : TOrmField}
    (hplain : Plain fld) (hown : fld.typeField.typeId.underlyingType = valueTypeId fld)
    (hbool : fld.isBool = false)
    (hint : isInteger (valueTypeId fld) = true)
    (hcolumn : TOrmDialect.sqliteTypeForField fld = "TEXT".toList ∨
      TOrmDialect.sqliteTypeForField fld = "INTEGER".toList ∧ valueTypeId fld ≠ .ulongTypeId)
    {n : ℤ} (hn : InRange (valueTypeId fld) n)
    (hslot : obj fld.typeField = setInteger r (valueTypeId fld) fld.typeField.typeId n)
    {c : SqlValue} (hskip : shouldSkipInsertField fld = false)
    (hc : SavedCell r conv σ obj fld c) : Carries n c := by
  rw [SavedCell, if_neg (by simp [hskip])] at hc
  obtain ⟨v, p, hbinds, hp, rfl⟩ := hc
  obtain ⟨v', hv', hp'⟩ := binds_integer conv hr hplain hown hbool hint hn hslot
  obtain rfl := binds_unique hbinds hv'
  obtain rfl : p = integerParameter (valueTypeId fld) n := by
    rw [hp, Option.some.injEq] at hp'
    exact hp'
  by_cases hulong : valueTypeId fld = .ulongTypeId
  · have htext : TOrmDialect.sqliteTypeForField fld = "TEXT".toList := by
      rcases hcolumn with h | h
      · exact h
      · exact absurd hulong h.2
    rw [hulong] at hn
    refine .inr ?_
    rw [htext, hulong]
    refine σ.text_text _ ?_
    rw [printInteger_of_nonneg hn.1]
    exact nul_not_mem_toDigits _
  · have hparameter : integerParameter (valueTypeId fld) n = .integer n := by
      unfold integerParameter
      split
      · contradiction
      · rfl
    have h64 := inInt64_of_inRange hn hulong
    rw [hparameter]
    rcases hcolumn with h | ⟨h, -⟩
    · rw [h]
      exact .inr (σ.text_integer n h64)
    · rw [h]
      exact .inl (σ.integer_integer n h64)

theorem text_of_saved (hr : Faithful r) {obj : Object Slot} {fld : TOrmField}
    (hplain : Plain fld) (hown : fld.typeField.typeId = .stringTypeId) (hbool : fld.isBool = false)
    (hty : valueTypeId fld = .stringTypeId)
    (hcolumn : TOrmDialect.sqliteTypeForField fld = "TEXT".toList) {t : Text} (ht : NUL ∉ t)
    (hslot : obj fld.typeField = r.setString fld.typeField.typeId t) {c : SqlValue}
    (hskip : shouldSkipInsertField fld = false) (hc : SavedCell r conv σ obj fld c) :
    c = .text t := by
  rw [SavedCell, if_neg (by simp [hskip])] at hc
  obtain ⟨v, p, hbinds, hp, rfl⟩ := hc
  have hread := hr.string t
  rw [← hown, ← hslot] at hread
  have hbind : bindFieldValue r .sqlite .create obj fld =
      .ok (TQueryResultSet.create.addBindValue (some (.setString t))) := by
    unfold bindFieldValue
    simp only [hplain.notJson, hplain.notDecimal, hplain.notEnumString, hbool, hty,
      Bool.false_eq_true, and_false, if_false, hread]
    rfl
  obtain rfl := binds_unique hbinds hbind
  obtain rfl : SqlValue.text (cString t) = p := Option.some.inj hp
  rw [hcolumn, cString_eq_iff.mpr ht]
  exact σ.text_text t ht

theorem getInt_of_own (hr : Faithful r) {fld : TOrmField} (hown : fld.typeField.typeId = .intTypeId)
    {n : ℤ} (hn : InInt32 n) :
    r.getInt fld.typeField.typeId (r.setInt fld.typeField.typeId n) = n := by
  rw [hown]
  exact hr.integer .intTypeId n hn

theorem integer_of_bool (hr : Faithful r) {obj : Object Slot} {fld : TOrmField}
    (hplain : Plain fld) (hown : fld.typeField.typeId = .intTypeId) (hbool : fld.isBool = true)
    (hcolumn : TOrmDialect.sqliteTypeForField fld = "INTEGER".toList) {n : ℤ} (hn : InInt32 n)
    (hslot : obj fld.typeField = r.setInt fld.typeField.typeId n) {c : SqlValue}
    (hskip : shouldSkipInsertField fld = false) (hc : SavedCell r conv σ obj fld c) :
    c = .integer n := by
  rw [SavedCell, if_neg (by simp [hskip])] at hc
  obtain ⟨v, p, hbinds, hp, rfl⟩ := hc
  have hread : r.getInt fld.typeField.typeId (obj fld.typeField) = n := by
    rw [hslot]
    exact getInt_of_own hr hown hn
  have hbind : bindFieldValue r .sqlite .create obj fld =
      .ok (TQueryResultSet.create.addBindValue (some (.setInt n))) := by
    unfold bindFieldValue
    simp only [hplain.notJson, hbool, Bool.false_eq_true, if_false, if_true, hread]
    rfl
  obtain rfl := binds_unique hbinds hbind
  have hp' : some (SqlValue.integer (castInt32 n)) = some p := hp
  obtain rfl := Option.some.inj hp'
  rw [castInt32_of_mem hn, hcolumn]
  exact σ.integer_integer n (@inInt64_of_inRange .intTypeId n hn (by simp))

/-! ### From a column to its field -/

theorem value_of_integer {w : Option TDBType} {n : ℤ} (h : cellOf w = some (.integer n)) :
    w = some (.setLong n) := by
  cases w with
  | none => simp [cellOf] at h
  | some v =>
    obtain ⟨content, isNull⟩ := v
    unfold cellOf at h
    cases isNull with
    | true => simp at h
    | false =>
      cases content with
      | integer kind value => cases kind <;> simp_all [TDBType.setLong]
      | _ => simp at h

theorem value_of_text {w : Option TDBType} {t : Text} (h : cellOf w = some (.text t)) :
    w = some (.setString t) := by
  cases w with
  | none => simp [cellOf] at h
  | some v =>
    obtain ⟨content, isNull⟩ := v
    unfold cellOf at h
    cases isNull with
    | true => simp at h
    | false =>
      cases content with
      | string value => simp_all [TDBType.setString]
      | integer kind value => cases kind <;> simp at h
      | _ => simp at h

theorem getInteger_read {v : TDBType} {n : ℤ} {cast : ℤ → ℤ} {ofText : Text → ℤ}
    (ofDecimal : Text → ℤ) (hread : v = .setLong n ∨ v = .setString (printInteger n))
    (hcast : cast n = n) (htext : ofText (printInteger n) = n) :
    v.getInteger cast ofText ofDecimal = n := by
  rcases hread with rfl | rfl
  · exact hcast
  · exact htext

/-- The getter of its type finds an integer in both forms. -/
theorem stores_integer (hconv : ReadsDecimals conv) {fld : TOrmField} (hplain : Plain fld)
    (hbool : fld.isBool = false) (hint : isInteger (valueTypeId fld) = true) {n : ℤ}
    (hn : InRange (valueTypeId fld) n) {w : Option TDBType} {c : SqlValue}
    (hw : cellOf w = some c) (hc : Carries n c) :
    Stores .sqlite r conv fld w (some (setInteger r (valueTypeId fld) fld.typeField.typeId n)) := by
  obtain ⟨v, rfl, hnull, hread⟩ : ∃ v, w = some v ∧ v.isNull = false ∧
      (v = .setLong n ∨ v = .setString (printInteger n)) := by
    rcases hc with rfl | rfl
    · exact ⟨_, value_of_integer hw, rfl, .inl rfl⟩
    · exact ⟨_, value_of_text hw, rfl, .inr rfl⟩
  refine Stores.of_present .sqlite r conv (by simp [isMissing, hnull, hplain.notJson]) fun obj => ?_
  unfold setFieldFromDbValue
  simp only [hnull, hplain.notJson, hplain.notDecimal, hplain.notEnumString, hbool,
    Bool.false_eq_true, and_false, if_false]
  cases hty : valueTypeId fld with
  | byteTypeId =>
    rw [hty] at hn
    have hcast : castUnsigned 8 n = n := castUnsigned_of_mem hn
    have htext := hconv.toInt n (inInt32_of_inRange hn (by simp))
    have hvalue : v.getByte conv = n := getInteger_read _ hread hcast (by rw [htext, hcast])
    exact congrArg (fun x => Except.ok (store obj fld (r.setByte fld.typeField.typeId x))) hvalue
  | shortTypeId =>
    rw [hty] at hn
    have hcast : castUnsigned 16 n = n := castUnsigned_of_mem hn
    have htext := hconv.toInt n (inInt32_of_inRange hn (by simp))
    have hvalue : v.getShort conv = n := getInteger_read _ hread hcast (by rw [htext, hcast])
    exact congrArg (fun x => Except.ok (store obj fld (r.setShort fld.typeField.typeId x))) hvalue
  | intTypeId =>
    rw [hty] at hn
    have hvalue : v.getInt conv = n :=
      getInteger_read _ hread (castInt32_of_mem hn) (hconv.toInt n hn)
    exact congrArg (fun x => Except.ok (store obj fld (r.setInt fld.typeField.typeId x))) hvalue
  | uintTypeId =>
    rw [hty] at hn
    have hvalue : v.getUInt conv = n :=
      getInteger_read _ hread (castUnsigned_of_mem hn) (hconv.toUInt n hn.1 hn.2)
    exact congrArg (fun x => Except.ok (store obj fld (r.setUInt fld.typeField.typeId x))) hvalue
  | longTypeId =>
    rw [hty] at hn
    have hvalue : v.getLong conv = n :=
      getInteger_read _ hread (castInt64_of_mem hn) (hconv.toLong n hn)
    exact congrArg (fun x => Except.ok (store obj fld (r.setLong fld.typeField.typeId x))) hvalue
  | ulongTypeId =>
    rw [hty] at hn
    have hvalue : v.getULong conv = n :=
      getInteger_read _ hread (castUnsigned_of_mem hn) (hconv.toULong n hn.1 hn.2)
    exact congrArg (fun x => Except.ok (store obj fld (r.setULong fld.typeField.typeId x))) hvalue
  | _ =>
    rw [hty] at hint
    cases hint

theorem stores_text {fld : TOrmField} (hplain : Plain fld) (hbool : fld.isBool = false)
    (hty : valueTypeId fld = .stringTypeId) {w : Option TDBType} {t : Text}
    (hw : cellOf w = some (.text t)) :
    Stores .sqlite r conv fld w (some (r.setString fld.typeField.typeId t)) := by
  obtain rfl := value_of_text hw
  refine Stores.of_present .sqlite r conv (by simp [isMissing, TDBType.setString, hplain.notJson])
    fun obj => ?_
  unfold setFieldFromDbValue
  simp only [TDBType.setString, hplain.notJson, hplain.notDecimal, hplain.notEnumString, hbool, hty,
    Bool.false_eq_true, and_false, if_false]
  rfl

theorem stores_bool {fld : TOrmField} (hplain : Plain fld) (hbool : fld.isBool = true)
    {w : Option TDBType} {n : ℤ} (hn : InInt32 n) (hw : cellOf w = some (.integer n)) :
    Stores .sqlite r conv fld w
      (some (r.setInt fld.typeField.typeId (if n ≠ 0 then 1 else 0))) := by
  obtain rfl := value_of_integer hw
  refine Stores.of_present .sqlite r conv (by simp [isMissing, TDBType.setLong, hplain.notJson])
    fun obj => ?_
  have hvalue : (TDBType.setLong n).getInt conv = n := castInt32_of_mem hn
  have hnull : (TDBType.setLong n).isNull = false := rfl
  have htruth : TOrmDialect.boolFromDatabase conv .sqlite (some (.setLong n)) =
      if n ≠ 0 then 1 else 0 := by
    simp only [TOrmDialect.boolFromDatabase, hnull, Bool.false_eq_true, if_false, hvalue]
  unfold setFieldFromDbValue
  simp only [hnull, hplain.notJson, hbool, Bool.false_eq_true, if_false, if_true, htruth]

theorem stores_unique {d : TOrmDialect} {fld : TOrmField} {w : Option TDBType} {slot : Slot}
    {s : Option Slot} (h : Stores d r conv fld w (some slot)) (h' : Stores d r conv fld w s) :
    s = some slot := by
  cases s with
  | none => exact absurd (h.missing.mpr (h'.missing.mp rfl)) (Option.some_ne_none slot)
  | some slot' =>
    have heq := (h'.reads r.newSlot).symm.trans (h.reads r.newSlot)
    rw [Except.ok.injEq] at heq
    have happly := congrFun heq fld.typeField
    simpa [store] using happly

theorem field_restored (hr : Faithful r) (hconv : ReadsDecimals conv) {obj : Object Slot}
    {fld : TOrmField} (hplain : Plain fld) (hhandled : Handled fld)
    (hcontains : Contains r fld (obj fld.typeField)) {c : SqlValue}
    (hskip : shouldSkipInsertField fld = false) (hc : SavedCell r conv σ obj fld c)
    {w : Option TDBType} (hw : cellOf w = some c) :
    ∃ slot, Stores .sqlite r conv fld w (some slot) ∧
      Restored r fld (obj fld.typeField) slot := by
  cases hhandled with
  | string hown hty hbool hcolumn =>
    simp only [Contains, hty] at hcontains
    obtain ⟨t, ht, hslot⟩ := hcontains
    obtain rfl := text_of_saved hr hplain hown hbool hty hcolumn ht hslot hskip hc
    refine ⟨_, stores_text hplain hbool hty hw, ?_⟩
    rw [Restored, if_neg (by simp [hbool]), hslot]
  | bool hown hty hbool hcolumn =>
    simp only [Contains, hty] at hcontains
    obtain ⟨n, hn, hslot⟩ := hcontains
    obtain rfl := integer_of_bool hr hplain hown hbool hcolumn hn hslot hskip hc
    refine ⟨_, stores_bool hplain hbool hn hw, ?_⟩
    have hget (b : ℤ) (hb : InInt32 b) :
        r.getInt fld.typeField.typeId (r.setInt fld.typeField.typeId b) = b :=
      getInt_of_own hr hown hb
    rw [Restored, if_pos hbool, hslot]
    simp only [setInteger, hget n hn]
    by_cases hzero : n = 0
    · rw [if_neg (not_not.mpr hzero), hget 0 (by decide)]
      simp [hzero]
    · rw [if_pos hzero, hget 1 (by decide)]
      simp [hzero]
  | integer hown hint hbool hcolumn =>
    obtain ⟨n, hn, hslot⟩ := hcontains.integer hint
    have hcarries := carries_integer hr hplain hown hbool hint hcolumn hn hslot hskip hc
    refine ⟨_, stores_integer hconv hplain hbool hint hn hw hcarries, ?_⟩
    rw [Restored, if_neg (by simp [hbool]), hslot]

theorem key_stored (obj : Object Slot) {fld : TOrmField} (hplain : Plain fld)
    (hhandled : Handled fld) {w : Option TDBType} {n : ℤ} (hw : cellOf w = some (.integer n)) :
    ∃ slot, Stores .sqlite r conv fld w (some slot) := by
  have haccepts : Accepts .sqlite r obj fld ∧ isLongInteger fld = false := by
    have : Nonempty TQueryResultSet := ⟨.create⟩
    unfold Accepts bindFieldValue isLongInteger
    simp only [hplain.notJson, hplain.notDecimal, hplain.notEnumString]
    cases hhandled with
    | string _ hty hbool => simp [hty, hbool]
    | bool _ _ hbool => simp [hbool]
    | integer _ hint hbool =>
      cases hty : valueTypeId fld <;> simp [hty, hbool, isInteger] at hint ⊢
  obtain rfl := value_of_integer hw
  have hpresent : isMissing fld (some (.setLong n)) = false := by
    simp [isMissing, TDBType.setLong, hplain.notJson]
  obtain ⟨s, hs⟩ := exists_stores_present .sqlite r obj conv haccepts.1 haccepts.2 hpresent
  obtain ⟨slot, rfl⟩ : ∃ slot, s = some slot := by
    rw [← Option.ne_none_iff_exists']
    intro hnone
    rw [hs.missing.mp hnone] at hpresent
    cases hpresent
  exact ⟨slot, hs⟩

theorem SavedCell.present (hr : Faithful r) {obj : Object Slot} {fld : TOrmField}
    (hplain : Plain fld) (hhandled : Handled fld)
    (hcontains : Contains r fld (obj fld.typeField)) {c : SqlValue}
    (hc : SavedCell r conv σ obj fld c) : c ≠ .null := by
  by_cases hskip : shouldSkipInsertField fld = true
  · rw [SavedCell, if_pos hskip] at hc
    obtain ⟨n, -, rfl⟩ := hc
    simp
  have hskip : shouldSkipInsertField fld = false := by simpa using hskip
  cases hhandled with
  | string hown hty hbool hcolumn =>
    simp only [Contains, hty] at hcontains
    obtain ⟨t, ht, hslot⟩ := hcontains
    rw [text_of_saved hr hplain hown hbool hty hcolumn ht hslot hskip hc]
    simp
  | bool hown hty hbool hcolumn =>
    simp only [Contains, hty] at hcontains
    obtain ⟨n, hn, hslot⟩ := hcontains
    rw [integer_of_bool hr hplain hown hbool hcolumn hn hslot hskip hc]
    simp
  | integer hown hint hbool hcolumn =>
    obtain ⟨n, hn, hslot⟩ := hcontains.integer hint
    rcases carries_integer hr hplain hown hbool hint hcolumn hn hslot hskip hc with rfl | rfl <;> simp

/-! ### From a row to an object -/

/-- A stored field has the content of the last entry for it. -/
theorem storeAll_apply {entries : List (TOrmField × Option Slot)}
    (hall : ∀ entry ∈ entries, entry.2.isSome = true) (obj : Object Slot) {tf : TField}
    (h : ∃ entry ∈ entries, entry.1.typeField = tf) :
    ∃ fld slot, (fld, some slot) ∈ entries ∧ fld.typeField = tf ∧
      storeAll obj entries tf = slot := by
  induction entries using List.reverseRecOn with
  | nil => simp at h
  | append_singleton entries last ih =>
    obtain ⟨slot, hslot⟩ := Option.isSome_iff_exists.mp (hall last (by simp))
    have hlast : storeAll obj (entries ++ [last]) =
        store (storeAll obj entries) last.1 slot := by
      rw [storeAll, List.foldl_append, List.foldl_cons, List.foldl_nil, hslot]
      rfl
    rw [hlast, store]
    by_cases htf : last.1.typeField = tf
    · refine ⟨last.1, slot, ?_, htf, ?_⟩
      · rw [← hslot]
        simp
      · rw [← htf, Function.update_self]
    · obtain ⟨entry, hentry, hfield⟩ := h
      have hmem : entry ∈ entries := by
        rcases List.mem_append.mp hentry with hmem | hmem
        · exact hmem
        · rw [List.mem_singleton.mp hmem] at hfield
          exact absurd hfield htf
      obtain ⟨fld, s, hs, hfld, happly⟩ :=
        ih (fun e he => hall e (List.mem_append_left _ he)) ⟨entry, hmem, hfield⟩
      refine ⟨fld, s, List.mem_append_left _ hs, hfld, ?_⟩
      rw [Function.update_of_ne (Ne.symm htf), happly]

theorem exists_index_of_mem_zip {flds : List TOrmField} {slots : List (Option Slot)}
    {R : TOrmField × ℕ → Option Slot → Prop} (h : List.Forall₂ R flds.zipIdx slots)
    {entry : TOrmField × Option Slot} (hentry : entry ∈ flds.zip slots) :
    ∃ i, (entry.1, i) ∈ flds.zipIdx ∧ R (entry.1, i) entry.2 := by
  obtain ⟨i, hi, rfl⟩ := List.mem_iff_getElem.mp hentry
  simp only [List.length_zip, lt_min_iff] at hi
  have hget : flds.zipIdx.get ⟨i, by simpa using hi.1⟩ = (flds[i], i) := by simp
  refine ⟨i, ?_, ?_⟩
  · rw [List.getElem_zip, ← hget]
    exact List.getElem_mem _
  · rw [List.getElem_zip, ← hget]
    exact h.get (by simpa using hi.1) hi.2

section Built

variable {namingStyle : EOrmNamingStyle} {typeId : TClassId} {flds : List TField} {m : TOrmModel}

theorem buildField_of_mem (hbuilt : Built namingStyle typeId flds m) {fld : TOrmField}
    (h : fld ∈ m.fields) : buildField namingStyle fld.typeField = fld := by
  rw [hbuilt.fields_eq] at h
  obtain ⟨f, -, rfl⟩ := List.mem_map.mp h
  rfl

theorem handled_of_built (hbuilt : Built namingStyle typeId flds m)
    (hexact : ∀ fld ∈ m.fields, isExact fld = true) {fld : TOrmField} (h : fld ∈ m.fields) :
    Handled fld := by
  rw [← buildField_of_mem hbuilt h]
  refine handled_of_exact ?_
  rw [buildField_of_mem hbuilt h]
  exact hexact fld h

/-- The row of an object reads as an object whose persisted fields are restored. -/
theorem row_restored (hr : Faithful r) (hconv : ReadsDecimals conv)
    (hbuilt : Built namingStyle typeId flds m) (hexact : ∀ fld ∈ m.fields, isExact fld = true)
    {obj : Object Slot} (hcontains : ∀ fld ∈ m.fields, Contains r fld (obj fld.typeField))
    {row : Row} (hsaved : SavedRow r conv σ m obj row) {value : ℕ → Option TDBType}
    (hvalue : ∀ i < m.fields.length, cellOf (value i) = some (cell row i)) :
    ∃ obj', objectFromCurrentRow r .sqlite m conv value = .ok obj' ∧
      ∀ fld ∈ m.fields, shouldSkipInsertField fld = false →
        Restored r fld (obj fld.typeField) (obj' fld.typeField) := by
  have hstores (entry : TOrmField × ℕ) (h : entry ∈ m.fields.zipIdx) :
      ∃ slot, Stores .sqlite r conv entry.1 (value entry.2) (some slot) ∧
        (shouldSkipInsertField entry.1 = false →
          Restored r entry.1 (obj entry.1.typeField) slot) := by
    have hmem := List.fst_mem_of_mem_zipIdx h
    have hplain := plain_of_exact (hexact entry.1 hmem)
    have hcell := hvalue entry.2 (List.snd_lt_of_mem_zipIdx h)
    by_cases hskip : shouldSkipInsertField entry.1 = true
    · have hkey := hsaved entry h
      rw [SavedCell, if_pos hskip] at hkey
      obtain ⟨n, -, hn⟩ := hkey
      rw [hn] at hcell
      obtain ⟨slot, hslot⟩ := key_stored (r := r) obj hplain
        (handled_of_built hbuilt hexact hmem) hcell
      exact ⟨slot, hslot, fun hfalse => absurd (hskip.symm.trans hfalse) (by simp)⟩
    · obtain ⟨slot, hslot, hrestored⟩ :=
        field_restored hr hconv hplain (handled_of_built hbuilt hexact hmem)
        (hcontains entry.1 hmem) (by simpa using hskip) (hsaved entry h) hcell
      exact ⟨slot, hslot, fun _ => hrestored⟩
  obtain ⟨slots, hslots, hrun⟩ := readLoop_stores .sqlite r conv m.fields.zipIdx
    (fun entry h => by
      obtain ⟨slot, hslot, -⟩ := hstores entry h
      exact ⟨some slot, hslot⟩) r.newSlot
  rw [List.zipIdx_map_fst] at hrun
  have hentry {entry : TOrmField × Option Slot} (h : entry ∈ m.fields.zip slots) :
      ∃ slot, entry.2 = some slot ∧ (shouldSkipInsertField entry.1 = false →
        Restored r entry.1 (obj entry.1.typeField) slot) := by
    obtain ⟨i, hmem, hstored⟩ := exists_index_of_mem_zip hslots h
    obtain ⟨slot, hslot, hrestored⟩ := hstores _ hmem
    exact ⟨slot, stores_unique hslot hstored, hrestored⟩
  refine ⟨_, hrun, fun fld hfld hskip => ?_⟩
  have hlength : m.fields.length = slots.length := by
    simpa using hslots.length_eq
  have hfst : (m.fields.zip slots).map Prod.fst = m.fields := List.map_fst_zip hlength.le
  obtain ⟨entry, hzip, rfl⟩ := List.mem_map.mp (hfst ▸ hfld)
  obtain ⟨fld', slot, hmem, htf, happly⟩ := storeAll_apply
    (fun entry h => by
      obtain ⟨slot, hslot, -⟩ := hentry h
      simp [hslot]) r.newSlot ⟨entry, hzip, rfl⟩
  have hsame : fld' = entry.1 := by
    rw [← buildField_of_mem hbuilt (List.of_mem_zip hmem).1, htf, buildField_of_mem hbuilt hfld]
  obtain ⟨slot', hslot', hrestored⟩ := hentry hmem
  cases hslot'
  rw [happly, ← hsame]
  exact hrestored (hsame ▸ hskip)

theorem SavedRow.present (hr : Faithful r) (hbuilt : Built namingStyle typeId flds m)
    (hexact : ∀ fld ∈ m.fields, isExact fld = true) {obj : Object Slot}
    (hcontains : ∀ fld ∈ m.fields, Contains r fld (obj fld.typeField)) {row : Row}
    (h : SavedRow r conv σ m obj row) {i : ℕ} (hi : i < m.fields.length) :
    cell row i ≠ .null := by
  have hmem := List.getElem_mem hi
  have hentry : (m.fields[i], i) ∈ m.fields.zipIdx := by
    rw [List.mk_mem_zipIdx_iff_getElem?]
    exact List.getElem?_eq_getElem hi
  exact (h _ hentry).present hr (plain_of_exact (hexact _ hmem))
    (handled_of_built hbuilt hexact hmem) (hcontains _ hmem)

end Built

/-! ### Through the driver -/

variable {e : Engine}

/-- A result set whose statement was prepared and never executed. -/
structure Fresh (rs : TSQLiteResultSet) : Prop where
  initialFetch_eq : rs.initialFetch = true
  unrecorded : rs.record.isEmpty = true

theorem Fresh.prepare (sql : Text) {s : Session} (h : Fresh s.2) :
    Fresh (TSQLiteResultSet.prepare e sql s).2.2 := by
  by_cases hopen : s.1.isOpen = true
  · obtain ⟨calls, c, query, -, -, hcases⟩ := prepare_cases e sql hopen
    rcases hcases with ⟨conn, stmtHandle, heq, -⟩ | ⟨conn, heq, -⟩
    · rw [heq]
      exact ⟨rfl, h.unrecorded⟩
    · rw [heq]
      exact ⟨rfl, h.unrecorded⟩
  · rw [TSQLiteResultSet.prepare, if_pos hopen]
    exact h

theorem fresh_prepared {conn : TDBSQLite} {sql : Text} {q : Query} {ok : Bool}
    (h : (TDatabaseQuery.create conn).prepare (driver e conv) sql = (ok, q)) :
    ∀ rs ∈ q.resultSet, Fresh rs := by
  obtain rfl := congrArg Prod.snd h
  intro rs hrs
  obtain rfl := Option.some.inj hrs
  have hcreated : Fresh ((driver e conv).opened conn none).2 := ⟨rfl, rfl⟩
  change Fresh ((driver e conv).prepareStatement sql ((driver e conv).opened conn none)).2.2
  unfold Driver.prepareStatement
  dsimp only
  split_ifs
  · exact hcreated
  · have hset : Fresh ((driver e conv).setQuery (SqlTokens.trim sql)
        ((driver e conv).opened conn none)).2 := ⟨hcreated.initialFetch_eq, hcreated.unrecorded⟩
    change Fresh ((driver e conv).finish _).2.2
    rw [Driver.finish_resultSet]
    exact hset.prepare sql
  · exact ⟨hcreated.initialFetch_eq, hcreated.unrecorded⟩

theorem fresh_bindAll {q : Query} (h : ∀ rs ∈ q.resultSet, Fresh rs) (binds : List BindCall) :
    (∀ rs ∈ (bindAll e conv q binds).resultSet, Fresh rs) ∧
      queryColumns (bindAll e conv q binds) = queryColumns q := by
  induction binds generalizing q with
  | nil => exact ⟨h, rfl⟩
  | cons b binds ih =>
    have hbind : (∀ rs ∈ (q.bind (driver e conv) b).resultSet, Fresh rs) ∧
        queryColumns (q.bind (driver e conv) b) = queryColumns q := by
      obtain ⟨conn, resultSet⟩ := q
      cases resultSet with
      | none => exact ⟨by simp [TDatabaseQuery.bind, TDatabaseQuery.updateBase], rfl⟩
      | some rs =>
        have hrs := h rs rfl
        refine ⟨fun rs' hrs' => ?_, rfl⟩
        obtain rfl := Option.some.inj hrs'
        refine ⟨hrs.initialFetch_eq, ?_⟩
        cases b <;> exact hrs.unrecorded
    obtain ⟨hfresh, hcolumns⟩ := ih hbind.1
    exact ⟨hfresh, hcolumns.trans hbind.2⟩

theorem nullsClear_of_present {values : List (Option TDBType)} {rows : List Row}
    (h : ∀ row ∈ rows, ∀ i < values.length, cell row i ≠ .null) : NullsClear values rows := by
  induction rows generalizing values with
  | nil => trivial
  | cons row rows ih =>
    refine ⟨fun i hi hnull => absurd hnull (h row List.mem_cons_self i hi), ih ?_⟩
    intro row' hrow' i hi
    exact h row' (List.mem_cons_of_mem row hrow') i (by simpa [storeCells] using hi)

theorem ensureRecord_fresh {rs : TSQLiteResultSet} (hfresh : Fresh rs)
    (hcolumns : 0 < (columns rs.stmtHandle).length) :
    Covers (ensureRecord rs) ∧
      (ensureRecord rs).values = List.replicate (columns rs.stmtHandle).length none := by
  have hensure : ensureRecord rs = { rs with
      record := initRecord (columns rs.stmtHandle)
      values := List.replicate (initRecord (columns rs.stmtHandle)).count none } :=
    if_pos hfresh.unrecorded
  have hcount : (initRecord (columns rs.stmtHandle)).count = (columns rs.stmtHandle).length := by
    rw [initRecord, if_neg hcolumns.ne']
    simp [TQueryRecord.count]
  rw [hensure]
  refine ⟨⟨?_, hcount.ge⟩, congrArg (List.replicate · none) hcount⟩
  rw [initRecord, if_neg hcolumns.ne']

/-- A fresh statement with columns keeps its rows when none of their cells is null. -/
theorem keepsRows_of_fresh {rs : TSQLiteResultSet} (hfresh : Fresh rs)
    (hcolumns : 0 < (columns rs.stmtHandle).length) {rows : List Row}
    (h : ∀ row ∈ rows, ∀ i < (columns rs.stmtHandle).length, cell row i ≠ .null) (count : ℕ) :
    KeepsRows rs rows count := by
  obtain ⟨hcovers, hvalues⟩ := ensureRecord_fresh hfresh hcolumns
  refine ⟨.inl hfresh.initialFetch_eq, hcovers, nullsClear_of_present fun row hrow i hi => ?_⟩
  rw [hvalues, List.length_replicate] at hi
  exact h row (List.mem_of_mem_take hrow) i hi

/-- The objects that were saved are read back, each from its row of a select statement. -/
theorem saved_objects_restored (hr : Faithful r) (hconv : ReadsDecimals conv)
    {hashCode : Text → UInt32} {registry : Option (TOrmRegistry hashCode)}
    {namingStyle : EOrmNamingStyle} {typeId : TClassId}
    {out : TOrmModel × Option (TOrmRegistry hashCode)}
    (h : buildModel registry namingStyle typeId = .ok out)
    (hexact : ∀ fld ∈ out.1.fields, isExact fld = true)
    {objs : List (Object Slot)} {rows : List Row}
    (hcontains : ∀ obj ∈ objs, ∀ fld ∈ out.1.fields, Contains r fld (obj fld.typeField))
    (hsaved : List.Forall₂ (SavedRow r conv σ out.1) objs rows)
    {conn : TDBSQLite} {sql : Text} {q q₁ : Query} {binds : List BindCall}
    {failure : Option ErrorCode}
    (hprepare : (TDatabaseQuery.create conn).prepare (driver e conv) sql = (true, q))
    (hcolumns : (queryColumns q).length = out.1.fields.length)
    (hexecute : (bindAll e conv q binds).execute (driver e conv) [] = some (true, q₁))
    (hrun : startedRuns (callsBetween (bindAll e conv q binds).conn q₁.conn) = [⟨rows, failure⟩])
    {j : ℕ} {obj : Object Slot} (hobj : objs[j]? = some obj) {fld : TOrmField}
    (hfld : fld ∈ out.1.fields) (hskip : shouldSkipInsertField fld = false) :
    fetched e conv q₁ j = true ∧
      ∃ obj', objectFromCurrentRow r .sqlite out.1 conv
          (fun i => (fetches e conv q₁ (j + 1)).value (driver e conv) i) = .ok obj' ∧
        Restored r fld (obj fld.typeField) (obj' fld.typeField) := by
  obtain ⟨style, hnew⟩ := buildModel_built h
  have hbuilt := buildNewModel_built hnew
  obtain ⟨hfresh, hsame⟩ : (∀ rs ∈ (bindAll e conv q binds).resultSet, Fresh rs) ∧
      queryColumns (bindAll e conv q binds) = queryColumns q :=
    fresh_bindAll (fresh_prepared hprepare) binds
  have hreached : (bindAll e conv q binds).Reached (driver e conv) :=
    reached_bindAll e conv (.call (c := .prepare sql) (.create conn) (congrArg some hprepare)) binds
  obtain ⟨hj, rfl⟩ := List.getElem?_eq_some_iff.mp hobj
  have hrow : j < rows.length := hsaved.length_eq ▸ hj
  have hpresent : ∀ row ∈ rows, ∀ i < out.1.fields.length, cell row i ≠ .null := by
    intro row hmem i hi
    obtain ⟨k, hk, rfl⟩ := List.mem_iff_getElem.mp hmem
    have hk' : k < objs.length := hsaved.length_eq ▸ hk
    exact (hsaved.get hk' hk).present hr hbuilt hexact (hcontains _ (List.getElem_mem hk')) hi
  have hok : ¬ StepFailed (callsBetween (bindAll e conv q binds).conn q₁.conn) := by
    refine prepared_unfailed e conv hexecute hrun (.inl ?_)
    exact List.ne_nil_of_length_pos (j.zero_le.trans_lt hrow)
  have hkeeps : Keeps e (bindAll e conv q binds) q₁ (j + 1) := by
    intro _ rs run hrs hruns
    obtain rfl : ⟨rows, failure⟩ = run := by simpa [hrun] using hruns
    have hlength : (columns rs.stmtHandle).length = out.1.fields.length := by
      rw [← queryColumns_eq hrs, hsame, hcolumns]
    refine ⟨keepsRows_of_fresh (hfresh rs hrs) ?_ ?_ _, fun hnil => ?_⟩
    · rw [hlength]
      exact List.length_pos_of_mem hfld
    · rw [hlength]
      exact hpresent
    · rw [show rows = [] from hnil] at hrow
      cases hrow
  obtain ⟨run, hruns, hqueryColumns, hdelivers⟩ :=
    round_delivers e conv (ready_reached e conv hreached) hexecute hok hkeeps
  obtain rfl : ⟨rows, failure⟩ = run := by simpa [hrun] using hruns
  obtain ⟨hfetched, hread⟩ := hdelivers j (Nat.lt_succ_self j) hrow.le
  obtain ⟨rs, hrs, hrsColumns, hholds⟩ := hread rows[j] (List.getElem?_eq_getElem hrow)
  refine ⟨hfetched.trans (decide_eq_true hrow), ?_⟩
  have hvalue : ∀ i < out.1.fields.length,
      cellOf ((fetches e conv q₁ (j + 1)).value (driver e conv) i) = some (cell rows[j] i) := by
    intro i hi
    rw [TDatabaseQuery.value, hrs]
    refine hholds i ?_
    rw [hrsColumns, hqueryColumns, hsame, hcolumns]
    exact hi
  obtain ⟨obj', hobj', hrestored⟩ := row_restored hr hconv hbuilt hexact
    (hcontains _ (List.getElem_mem hj)) (hsaved.get hj hrow) hvalue
  exact ⟨obj', hobj', hrestored fld hfld hskip⟩

end RoundTrip

theorem readsDecimals_integers : ReadsDecimals .integers where
  toInt n _ := readInteger_printInteger n
  toUInt n _ _ := readInteger_printInteger n
  toLong n _ := readInteger_printInteger n
  toULong n _ _ := readInteger_printInteger n

/-- The number that a field of a type holds after it was set. -/
def fit : TTypeId → ℤ → ℤ
  | .byteTypeId => castUnsigned 8
  | .shortTypeId => castUnsigned 16
  | .intTypeId => castInt32
  | .uintTypeId => castUnsigned 32
  | .longTypeId => castInt64
  | .ulongTypeId => castUnsigned 64
  | _ => id

theorem fit_eq_self {ty : TTypeId} {n : ℤ} (h : InRange ty n) : fit ty n = n := by
  cases ty with
  | byteTypeId | shortTypeId | uintTypeId | ulongTypeId => exact castUnsigned_of_mem h
  | intTypeId => exact castInt32_of_mem h
  | longTypeId => exact castInt64_of_mem h
  | _ => exact h.elim

/-- Objects whose fields hold what their types can, and whose getters read it in theirs. -/
def typedReflection : Reflection Cell :=
  let set (fieldType : TTypeId) (n : ℤ) : Cell :=
    if fieldType = .stringTypeId then .text (printInteger n)
    else .integer (fit fieldType.underlyingType n)
  { Cell.reflection with
    getByte := fun _ cell => castUnsigned 8 cell.toInteger
    getShort := fun _ cell => castUnsigned 16 cell.toInteger
    getInt := fun _ cell => castInt32 cell.toInteger
    getUInt := fun _ cell => castUnsigned 32 cell.toInteger
    getLong := fun _ cell => castInt64 cell.toInteger
    getULong := fun _ cell => castUnsigned 64 cell.toInteger
    setByte := set
    setShort := set
    setInt := set
    setUInt := set
    setLong := set
    setULong := set
    setString := fun fieldType s =>
      if fieldType = .stringTypeId then .text s
      else .integer (fit fieldType.underlyingType (readInteger s)) }

theorem faithful_typedReflection : Faithful typedReflection where
  integer fieldType n h := by
    have hne : fieldType ≠ .stringTypeId := by
      rintro rfl
      exact h.elim
    have hfit := fit_eq_self h
    cases hty : fieldType.underlyingType <;> rw [hty] at h hfit <;>
      first
      | exact h.elim
      | simp only [getInteger, setInteger, typedReflection, if_neg hne, hty, Cell.toInteger, hfit]
        exact hfit
  string _ := rfl

/-- Columns that only turn integers into texts. -/
def texts : Storage where
  store type value :=
    match value with
    | .integer n => if type = "TEXT".toList then .text (printInteger n) else value
    | _ => value
  integer_integer _ _ := rfl
  text_text _ _ := rfl
  text_integer _ _ := rfl

def balanceField : TField := ⟨"balance".toList, .ulongTypeId, []⟩

/-- A class with a generated key, a 64-bit balance and an enum over bytes. -/
def accountType : TClassId where
  name := "Account".toList
  metadata := []
  enumFields := [⟨"id".toList, .longTypeId, [("pk", ['1']), ("auto", ['1'])]⟩, balanceField,
    ⟨"level".toList, .enumTypeId "ELevel".toList .byteTypeId false, []⟩]

def account : Object Cell := fun fld =>
  if fld = balanceField then .integer 18446744073709551615 else .integer 3

def accountRow : Row := [.integer 1, .text "18446744073709551615".toList, .text ['3']]

def accounts : Engine where
  prepare _ _ := .ok (some ⟨0, [⟨"id".toList, none⟩, ⟨"balance".toList, none⟩,
    ⟨"level".toList, none⟩]⟩)
  reset _ _ := none
  bind _ _ _ _ := none
  run _ _ := ⟨[accountRow], none⟩
  message _ := noError

def selected : Query :=
  ((TDatabaseQuery.create opened).prepare (driver accounts .integers) "SELECT *".toList).2

theorem saved_objects_restored_account :
    ∃ out q₁ obj', buildModel (none : Option (TOrmRegistry fun _ => 0)) .lowerCase accountType =
        .ok out ∧
      objectFromCurrentRow typedReflection .sqlite out.1 .integers
        (fun i => (fetches accounts .integers q₁ 1).value (driver accounts .integers) i) = .ok obj' ∧
      obj' balanceField = .integer 18446744073709551615 := by
  obtain ⟨out, hout⟩ : ∃ out, buildModel (none : Option (TOrmRegistry fun _ => 0)) .lowerCase
      accountType = .ok out := ⟨_, rfl⟩
  have hsaved : SavedRow typedReflection .integers texts out.1 account accountRow := by
    cases hout
    intro entry hentry
    fin_cases hentry
    · exact ⟨1, by decide, rfl⟩
    · exact ⟨_, _, fun query => rfl, rfl, rfl⟩
    · exact ⟨_, _, fun query => rfl, rfl, rfl⟩
  have hcontains : ∀ obj ∈ [account], ∀ fld ∈ out.1.fields,
      Contains typedReflection fld (obj fld.typeField) := by
    cases hout
    intro obj hobj fld hfld
    obtain rfl := List.mem_singleton.mp hobj
    fin_cases hfld
    · exact ⟨3, (by decide : InRange .longTypeId 3), rfl⟩
    · exact ⟨18446744073709551615, (by decide : InRange .ulongTypeId 18446744073709551615), rfl⟩
    · exact ⟨3, (by decide : InRange .byteTypeId 3), rfl⟩
  have hexact : ∀ fld ∈ out.1.fields, isExact fld = true := by
    cases hout
    decide
  have hfld : buildField .lowerCase balanceField ∈ out.1.fields := by
    cases hout
    decide
  have hcolumns : (queryColumns selected).length = out.1.fields.length := by
    cases hout
    rfl
  obtain ⟨q₁, hexecute, hrun⟩ : ∃ q₁,
      (bindAll accounts .integers selected []).execute (driver accounts .integers) [] =
        some (true, q₁) ∧
      startedRuns (callsBetween (bindAll accounts .integers selected []).conn q₁.conn) =
        [⟨[accountRow], none⟩] := ⟨_, rfl, rfl⟩
  have hprepare : (TDatabaseQuery.create opened).prepare (driver accounts .integers)
      "SELECT *".toList = (true, selected) := rfl
  have hobj : [account][0]? = some account := rfl
  obtain ⟨-, obj', hobj', hbalance⟩ := saved_objects_restored faithful_typedReflection
    readsDecimals_integers hout hexact hcontains (.cons hsaved .nil) hprepare hcolumns hexecute hrun
    hobj hfld rfl
  exact ⟨out, q₁, obj', hout, hobj', hbalance⟩

end DatabaseMod.OrmSqliteRoundTrip
