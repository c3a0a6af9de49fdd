import DatabaseMod.OrmCommands
import DatabaseMod.OrmSqliteQueries

/-!
# Objects as records

The record of an object has in each column what the column keeps of the field. An object is
read back from its record, and keys are compared as the key column keeps them.
-/

namespace DatabaseMod.OrmStoredRecords
open SqlTokens (Text)
open MachineInteger
open LoopRules CoreValues CoreResultSet SqlEngine SqliteDriver SqliteRounds SqlCommands
open OrmModel OrmModelBuilder OrmStatements OrmStatementReading OrmBinding OrmAlignment
open OrmSqliteRoundTrip OrmSqliteQueries

section

variable {Slot : Type} (r : Reflection Slot) (conv : Conversions) (σ : Storage)

/-- What the column of a field keeps of its content. -/
def cellFor (obj : Object Slot) (fld : TOrmField) : Option SqlValue :=
  match bindFieldValue r .sqlite .create obj fld with
  | .error _ => none
  | .ok query => (parameterOf conv (query.boundValues.getD 0 none)).map
      (σ.store (TOrmDialect.sqliteTypeForField fld))

def keyOf (m : TOrmModel) (obj : Object Slot) : Option SqlValue :=
  m.primaryKey.bind (cellFor r conv σ obj)

/-- The table that is created for a model with a key. -/
def schemaOf (m : TOrmModel) (primaryKey : TOrmField) : TableSchema where
  columns := m.fields.map fun fld => (fld.columnName, TOrmDialect.sqliteTypeForField fld)
  key := primaryKey.columnName
  generated := primaryKey.isAuto

/-- The models whose objects the database keeps as they are. -/
structure Suits (catalog : Catalog) (m : TOrmModel) (primaryKey : TOrmField) : Prop where
  built : ∃ namingStyle typeId flds, Built namingStyle typeId flds m
  exact : ∀ fld ∈ m.fields, isExact fld = true
  primaryKey_eq : m.primaryKey = some primaryKey
  columns_nodup : (m.fields.map (·.columnName)).Nodup
  schema_eq : catalog m.tableName = some (schemaOf m primaryKey)
  auto_long : primaryKey.isAuto = true → primaryKey.typeField.typeId = .longTypeId

structure Shelved (m : TOrmModel) (record : Record) (obj : Object Slot) : Prop where
  cells : ∀ fld ∈ m.fields, cellFor r conv σ obj fld = some (record fld.columnName)
  contains : ∀ fld ∈ m.fields, Contains r fld (obj fld.typeField)

variable {r conv σ}

/-! ### Cells -/

theorem cellFor_binds {obj : Object Slot} {fld : TOrmField} {v : Option TDBType}
    (h : Binds .sqlite r obj fld v) : cellFor r conv σ obj fld =
      (parameterOf conv v).map (σ.store (TOrmDialect.sqliteTypeForField fld)) := by
  unfold cellFor
  rw [h .create]
  rfl

theorem cellFor_eq_some {obj : Object Slot} {fld : TOrmField} {c : SqlValue} :
    cellFor r conv σ obj fld = some c ↔ ∃ v p, Binds .sqlite r obj fld v ∧
      parameterOf conv v = some p ∧ c = σ.store (TOrmDialect.sqliteTypeForField fld) p := by
  constructor
  · intro h
    cases hbind : bindFieldValue r .sqlite .create obj fld with
    | error exception =>
      unfold cellFor at h
      rw [hbind] at h
      cases h
    | ok query =>
      obtain ⟨v, hv⟩ := exists_binds .sqlite r obj ⟨.create, query, hbind⟩
      rw [cellFor_binds hv] at h
      obtain ⟨p, hp, rfl⟩ := Option.map_eq_some_iff.mp h
      exact ⟨v, p, hv, hp, rfl⟩
  · rintro ⟨v, p, hv, hp, rfl⟩
    rw [cellFor_binds hv, hp]
    rfl

/-- The field as one that the application fills in. -/
def filled (fld : TOrmField) : TOrmField := { fld with isAuto := false }

theorem shouldSkipInsertField_filled (fld : TOrmField) :
    shouldSkipInsertField (filled fld) = false := Bool.and_false _

theorem handled_filled {fld : TOrmField} (h : Handled fld) : Handled (filled fld) := by
  cases h with
  | string hown hty hbool hcolumn => exact .string hown hty hbool hcolumn
  | bool hown hty hbool hcolumn => exact .bool hown hty hbool hcolumn
  | integer hown hint hbool hcolumn => exact .integer hown hint hbool hcolumn

theorem savedCell_filled {obj : Object Slot} {fld : TOrmField} {c : SqlValue}
    (h : cellFor r conv σ obj fld = some c) : SavedCell r conv σ obj (filled fld) c := by
  obtain ⟨v, p, hv, hp, rfl⟩ := cellFor_eq_some.mp h
  rw [SavedCell, if_neg (by simp [shouldSkipInsertField_filled])]
  exact ⟨v, p, hv, hp, rfl⟩

theorem exists_parameter (hr : Faithful r) {obj : Object Slot} {fld : TOrmField}
    (hplain : Plain fld) (hhandled : Handled fld) (hcontains : Contains r fld (obj fld.typeField)) :
    ∃ v p, Binds .sqlite r obj fld v ∧ parameterOf conv v = some p := by
  suffices h : ∃ v p, bindFieldValue r .sqlite .create obj fld =
      .ok (TQueryResultSet.create.addBindValue v) ∧ parameterOf conv v = some p by
    obtain ⟨v, p, hv, hp⟩ := h
    obtain ⟨w, hw⟩ := exists_binds .sqlite r obj ⟨.create, _, hv⟩
    obtain rfl := binds_unique hw hv
    exact ⟨w, p, hw, hp⟩
  cases hhandled with
  | string hown hty hbool hcolumn =>
    refine ⟨some (.setString (r.getString fld.typeField.typeId (obj fld.typeField))), _, ?_, rfl⟩
    unfold bindFieldValue
    simp only [hplain.notJson, hplain.notDecimal, hplain.notEnumString, hbool, hty,
      Bool.false_eq_true, and_false, if_false]
    rfl
  | bool hown hty hbool hcolumn =>
    refine ⟨some (.setInt (r.getInt fld.typeField.typeId (obj fld.typeField))), _, ?_, rfl⟩
    unfold bindFieldValue
    simp only [hplain.notJson, hbool, Bool.false_eq_true, if_false, if_true]
    rfl
  | integer hown hint hbool hcolumn =>
    obtain ⟨n, hn, hslot⟩ := hcontains.integer hint
    obtain ⟨v, hv, hp⟩ := binds_integer conv hr hplain hown hbool hint hn hslot
    exact ⟨v, _, hv, hp⟩

/-- The cell of an exact field is there, and it is an integer or a text. -/
theorem exists_cell (hr : Faithful r) {obj : Object Slot} {fld : TOrmField}
    (hplain : Plain fld) (hhandled : Handled fld) (hcontains : Contains r fld (obj fld.typeField)) :
    ∃ c, cellFor r conv σ obj fld = some c ∧ Comparable c := by
  obtain ⟨v, p, hv, hp⟩ : ∃ v p, Binds .sqlite r obj fld v ∧ parameterOf conv v = some p :=
    exists_parameter hr hplain hhandled hcontains
  have hcell : cellFor r conv σ obj fld = some _ := cellFor_eq_some.mpr ⟨v, p, hv, hp, rfl⟩
  refine ⟨_, hcell, ?_⟩
  have hsaved := savedCell_filled hcell
  have hskip := shouldSkipInsertField_filled fld
  have hplain' : Plain (filled fld) := ⟨hplain.notJson, hplain.notDecimal, hplain.notEnumString⟩
  cases hhandled with
  | string hown hty hbool hcolumn =>
    simp only [Contains, hty] at hcontains
    obtain ⟨t, ht, hslot⟩ := hcontains
    rw [@text_of_saved Slot r conv σ hr obj (filled fld) hplain' hown hbool hty hcolumn t ht hslot _ hskip
      hsaved]
    trivial
  | bool hown hty hbool hcolumn =>
    simp only [Contains, hty] at hcontains
    obtain ⟨n, hn, hslot⟩ := hcontains
    rw [@integer_of_bool Slot r conv σ hr obj (filled fld) hplain' hown hbool hcolumn n hn hslot _ hskip
      hsaved]
    trivial
  | integer hown hint hbool hcolumn =>
    obtain ⟨n, hn, hslot⟩ := hcontains.integer hint
    obtain hc | hc := @carries_integer Slot r conv σ hr obj (filled fld) hplain' hown hbool hint
      hcolumn n hn hslot _ hskip hsaved
    · rw [hc]
      trivial
    · rw [hc]
      trivial

theorem cell_restored (hr : Faithful r) (hconv : ReadsDecimals conv) {obj : Object Slot}
    {fld : TOrmField} (hplain : Plain fld) (hhandled : Handled fld)
    (hcontains : Contains r fld (obj fld.typeField)) {c : SqlValue}
    (hc : cellFor r conv σ obj fld = some c) {w : Option TDBType} (hw : cellOf w = some c) :
    ∃ slot, Stores .sqlite r conv fld w (some slot) ∧
      Restored r fld (obj fld.typeField) slot := by
  have hplain' : Plain (filled fld) := ⟨hplain.notJson, hplain.notDecimal, hplain.notEnumString⟩
  obtain ⟨slot, hstores, hrestored⟩ := field_restored hr hconv hplain' (handled_filled hhandled)
    hcontains (shouldSkipInsertField_filled fld) (savedCell_filled hc) hw
  exact ⟨slot, ⟨hstores.missing, hstores.reads⟩, hrestored⟩

/-! ### Records -/

section

variable {catalog : Catalog} {m : TOrmModel} {primaryKey : TOrmField}

theorem Suits.mem (h : Suits catalog m primaryKey) :
    primaryKey ∈ m.fields ∧ primaryKey.isPrimaryKey = true := by
  obtain ⟨namingStyle, typeId, flds, hbuilt⟩ := h.built
  have hkeys := hbuilt.primaryKey_eq
  rw [h.primaryKey_eq] at hkeys
  have hmem : primaryKey ∈ m.fields.filter (·.isPrimaryKey) := by
    rw [hkeys]
    exact List.mem_singleton_self primaryKey
  exact List.mem_filter.mp hmem

theorem Suits.eq_primaryKey (h : Suits catalog m primaryKey) {fld : TOrmField}
    (hfld : fld ∈ m.fields) (hkey : fld.isPrimaryKey = true) : fld = primaryKey := by
  obtain ⟨namingStyle, typeId, flds, hbuilt⟩ := h.built
  have hkeys := hbuilt.primaryKey_eq
  rw [h.primaryKey_eq] at hkeys
  have hmem : fld ∈ m.fields.filter (·.isPrimaryKey) := List.mem_filter.mpr ⟨hfld, hkey⟩
  rw [hkeys] at hmem
  exact List.mem_singleton.mp hmem

theorem Suits.plain (h : Suits catalog m primaryKey) {fld : TOrmField} (hfld : fld ∈ m.fields) :
    Plain fld := plain_of_exact (h.exact fld hfld)

theorem Suits.handled (h : Suits catalog m primaryKey) {fld : TOrmField} (hfld : fld ∈ m.fields) :
    Handled fld := by
  obtain ⟨namingStyle, typeId, flds, hbuilt⟩ := h.built
  exact handled_of_built hbuilt h.exact hfld

theorem Suits.auto (h : Suits catalog m primaryKey) (hauto : primaryKey.isAuto = true) :
    valueTypeId primaryKey = .longTypeId ∧ primaryKey.isBool = false ∧
      TOrmDialect.sqliteTypeForField primaryKey = "INTEGER".toList := by
  obtain ⟨namingStyle, typeId, flds, hbuilt⟩ := h.built
  have hbuild := buildField_of_mem hbuilt h.mem.1
  have hlong := h.auto_long hauto
  have henum : primaryKey.isEnum = false := by
    rw [← hbuild]
    simp [buildField, hlong, TTypeId.isEnum, TTypeId.isFlagsEnum]
  have hbool : primaryKey.isBool = false := by
    by_contra hbool
    have hexact := h.exact primaryKey h.mem.1
    simp [isExact, Bool.eq_true_of_not_eq_false hbool, hlong] at hexact
  refine ⟨?_, hbool, ?_⟩
  · rw [valueTypeId, henum]
    exact hlong
  · simp [TOrmDialect.sqliteTypeForField, (h.plain h.mem.1).notJson, hbool, henum, hlong]

/-- Fields of one name or of one class field are one. -/
theorem Suits.typeFields_nodup (h : Suits catalog m primaryKey) :
    (m.fields.map (·.typeField)).Nodup := by
  obtain ⟨namingStyle, typeId, flds, hbuilt⟩ := h.built
  have hcolumns : m.fields.map (·.columnName) =
      (m.fields.map (·.typeField)).map fun f => (buildField namingStyle f).columnName := by
    rw [List.map_map]
    apply List.map_congr_left
    intro fld hfld
    exact (congrArg TOrmField.columnName (buildField_of_mem hbuilt hfld)).symm
  have hnodup := h.columns_nodup
  rw [hcolumns] at hnodup
  exact hnodup.of_map _

theorem Suits.field_inj (h : Suits catalog m primaryKey) {fld fld' : TOrmField}
    (hfld : fld ∈ m.fields) (hfld' : fld' ∈ m.fields) (heq : fld.columnName = fld'.columnName) :
    fld = fld' := List.inj_on_of_nodup_map h.columns_nodup hfld hfld' heq

theorem typeOf_schemaOf (hnodup : (m.fields.map (·.columnName)).Nodup) {fld : TOrmField}
    (hfld : fld ∈ m.fields) : (schemaOf m primaryKey).typeOf fld.columnName =
      TOrmDialect.sqliteTypeForField fld := by
  unfold TableSchema.typeOf schemaOf
  dsimp only
  generalize m.fields = flds at hnodup hfld
  induction flds with
  | nil => cases hfld
  | cons first flds ih =>
    obtain ⟨hnew, hrest⟩ := List.nodup_cons.mp hnodup
    rw [List.map_cons, List.lookup_cons]
    obtain rfl | hmem := List.mem_cons.mp hfld
    · rw [beq_self_eq_true]
      rfl
    · have hne : fld.columnName ≠ first.columnName := fun heq =>
        hnew (List.mem_map.mpr ⟨fld, hmem, heq⟩)
      rw [beq_false_of_ne hne]
      exact ih hrest hmem

/-- The parameters of a statement are those of the values bound to it. -/
def Carried (conv : Conversions) (ws : List (Option TDBType)) (param : ℕ → SqlValue) : Prop :=
  ∀ i v p, ws[i]? = some v → parameterOf conv v = some p → param (i + 1) = p

variable {obj : Object Slot} {param : ℕ → SqlValue}

/-- A parameter at the place of a field is what the column of the field keeps. -/
theorem carried_cell (hr : Faithful r) (h : Suits catalog m primaryKey) {flds : List TOrmField}
    {ws : List (Option TDBType)} (hws : List.Forall₂ (Binds .sqlite r obj) flds ws)
    (hparam : Carried conv ws param) {i : ℕ} {fld : TOrmField} (hi : flds[i]? = some fld)
    (hfld : fld ∈ m.fields) (hcontains : Contains r fld (obj fld.typeField)) :
    cellFor r conv σ obj fld =
      some (σ.store ((schemaOf m primaryKey).typeOf fld.columnName) (param (i + 1))) := by
  obtain ⟨hlt, rfl⟩ := List.getElem?_eq_some_iff.mp hi
  have hlt' : i < ws.length := hws.length_eq ▸ hlt
  have hbinds : Binds .sqlite r obj flds[i] ws[i] := hws.get hlt hlt'
  obtain ⟨v, p, hv, hp⟩ : ∃ v p, Binds .sqlite r obj flds[i] v ∧ parameterOf conv v = some p :=
    exists_parameter hr (h.plain hfld) (h.handled hfld) hcontains
  obtain rfl := binds_unique hbinds (hv .create)
  rw [hparam i _ p (List.getElem?_eq_getElem hlt') hp, typeOf_schemaOf h.columns_nodup hfld]
  exact cellFor_eq_some.mpr ⟨_, p, hv, hp, rfl⟩

theorem assign_mem {flds : List TOrmField} (hnodup : (flds.map (·.columnName)).Nodup) {i : ℕ}
    {fld : TOrmField} (hi : flds[i]? = some fld) (store : Text → SqlValue → SqlValue)
    (s : TableSchema) (record : Record) :
    assign store param s (flds.map (·.columnName)) record fld.columnName =
      store (s.typeOf fld.columnName) (param (i + 1)) := by
  obtain ⟨hlt, rfl⟩ := List.getElem?_eq_some_iff.mp hi
  have hlt' : i < (flds.map (·.columnName)).length := by simpa using hlt
  have hget : (flds.map (·.columnName))[i] = flds[i].columnName := List.getElem_map ..
  unfold assign
  rw [if_pos (List.mem_map_of_mem (List.getElem_mem hlt)), ← hget, hnodup.idxOf_getElem i hlt']

theorem assigned_cell (hr : Faithful r) (h : Suits catalog m primaryKey) {flds : List TOrmField}
    (hsub : flds.Sublist m.fields) {ws : List (Option TDBType)}
    (hws : List.Forall₂ (Binds .sqlite r obj) flds ws) (hparam : Carried conv ws param)
    (hcontains : ∀ fld ∈ flds, Contains r fld (obj fld.typeField)) {fld : TOrmField}
    (hfld : fld ∈ flds) (record : Record) :
    cellFor r conv σ obj fld = some (assign σ.store param (schemaOf m primaryKey)
      (flds.map (·.columnName)) record fld.columnName) := by
  obtain ⟨i, hi⟩ := List.getElem?_of_mem hfld
  have hnodup : (flds.map (·.columnName)).Nodup := h.columns_nodup.sublist (hsub.map _)
  rw [assign_mem hnodup hi]
  exact carried_cell hr h hws hparam hi (hsub.subset hfld) (hcontains fld hfld)

theorem assign_not_mem {columns : List Text} {c : Text} (hc : c ∉ columns)
    (store : Text → SqlValue → SqlValue) (s : TableSchema) (record : Record) :
    assign store param s columns record c = record c := if_neg hc

/-- The object of a record, read as a row, is the one that the record was made from. -/
theorem Shelved.decoded (hr : Faithful r) (hconv : ReadsDecimals conv)
    (h : Suits catalog m primaryKey) {record : Record} (hrecord : Shelved r conv σ m record obj) :
    ∃ found, decode r conv m (cell ((m.fields.map (·.columnName)).map record)) = .ok found ∧
      ∀ fld ∈ m.fields, Restored r fld (obj fld.typeField) (found fld.typeField) := by
  have hread (fld : TOrmField) (i : ℕ) (hmem : (fld, i) ∈ m.fields.zipIdx) :
      ∃ slot, Restored r fld (obj fld.typeField) slot ∧
        ∀ obj', setFieldFromDbValue r .sqlite conv obj' fld
          (columnValue none (cell ((m.fields.map (·.columnName)).map record) i)) =
            .ok (store obj' fld slot) := by
    have hget := (List.mk_mem_zipIdx_iff_getElem?).mp hmem
    have hfld : fld ∈ m.fields := List.mem_of_getElem? hget
    have hcell : cell ((m.fields.map (·.columnName)).map record) i = record fld.columnName := by
      simp [cell, List.getD_eq_getElem?_getD, hget]
    have hvalue : cellOf (columnValue none (record fld.columnName)) = some (record fld.columnName) :=
      cellOf_columnValue fun _ => rfl
    obtain ⟨slot, hstores, hrestored⟩ := cell_restored hr hconv (h.plain hfld) (h.handled hfld)
      (hrecord.contains fld hfld) (hrecord.cells fld hfld) hvalue
    rw [hcell]
    exact ⟨slot, hrestored, hstores.reads⟩
  obtain ⟨found, hfound⟩ := (decode_ok_iff r conv m _).mpr fun entry hentry => by
    obtain ⟨slot, -, hslot⟩ := hread entry.1 entry.2 hentry
    exact ⟨_, hslot r.newSlot⟩
  refine ⟨found, hfound, fun fld hfld => ?_⟩
  obtain ⟨-, happly⟩ := decode_apply r conv m h.typeFields_nodup hfound
  obtain ⟨i, hi⟩ := List.getElem?_of_mem hfld
  have hmem : (fld, i) ∈ m.fields.zipIdx := (List.mk_mem_zipIdx_iff_getElem?).mpr hi
  obtain ⟨slot, hrestored, hslot⟩ := hread fld i hmem
  obtain ⟨read, hok, hset, -⟩ := happly fld i hmem
  obtain rfl := Except.ok.inj ((hslot r.newSlot).symm.trans hok)
  rw [hset, store, Function.update_self]
  exact hrestored

end

end

end DatabaseMod.OrmStoredRecords
