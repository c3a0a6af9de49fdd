import DatabaseMod.OrmAlignment
import DatabaseMod.PostgresDriver
import DatabaseMod.SqliteDriver

/-!
# Null references

A field may hold a Null reference: no JSON object, or no decimal. What is bound for it travels through
the core's values to the parameter that the driver sends.
-/

namespace DatabaseMod.OrmNulls
open SqlTokens (Text)
open SqlReading (Item read)
open LoopRules CoreValues CoreResultSet OrmModel OrmStatements OrmStatementReading OrmBinding
open OrmAlignment

/-! ### The bound values -/

section

variable {Slot : Type} (d : TOrmDialect) (m : TOrmModel) (r : Reflection Slot) (obj : Object Slot)

/-- The values of a request are those of its fields, in order. -/
def BindsFields (flds : List TOrmField) (request : Request) : Prop :=
  List.Forall₂ (Binds d r obj) flds request.query.boundValues

variable {d m r obj}

theorem saveObject_binds {request : Request} (h : saveObject r d m (some obj) = .ok request) :
    BindsFields d r obj (insertFields m) request := by
  obtain ⟨query, hbind, h⟩ := bind_eq_ok.mp h
  obtain rfl := Except.ok.inj h
  obtain ⟨vs, hbound, hvs⟩ := bindLoop_ok d r obj TQueryResultSet.bound_create hbind
  rw [BindsFields, hbound.boundValues_eq]
  exact hvs

theorem updateObject_binds {primaryKey : TOrmField} (hpk : m.primaryKey = some primaryKey)
    {request : Request} (h : updateObject r d m (some obj) = .ok request) :
    BindsFields d r obj (updateFields m ++ [primaryKey]) request := by
  unfold updateObject at h
  rw [hpk] at h
  obtain ⟨query, hbind, h⟩ := bind_eq_ok.mp h
  obtain ⟨query', hkey, h⟩ := bind_eq_ok.mp h
  obtain rfl := Except.ok.inj h
  obtain ⟨vs, hbound, hvs⟩ := bindLoop_ok d r obj TQueryResultSet.bound_create hbind
  obtain ⟨v, hv⟩ := exists_binds d r obj ⟨query, query', hkey⟩
  obtain rfl := Except.ok.inj ((hv query).symm.trans hkey)
  rw [BindsFields, (hbound.addBindValue v).boundValues_eq]
  exact List.rel_append hvs (.cons hv .nil)

end

/-! ### Null fields -/

/-- What a column holds after a value was sent. -/
inductive Held
  | null
  | value
deriving DecidableEq, Repr

section

variable {Slot : Type} (d : TOrmDialect) (m : TOrmModel) (r : Reflection Slot) (obj : Object Slot)
variable (conv : Conversions) (rt : PostgresDriver.Runtime)

/-- The field refers to no object. -/
def IsNullReference (fld : TOrmField) : Prop :=
  fld.isJson = true ∧ r.toJson fld.typeField.typeId (obj fld.typeField) = none ∨
    fld.isJson = false ∧ fld.isDecimal = true ∧
      r.getDecimal fld.typeField.typeId (obj fld.typeField) = none

/-- The driver of the dialect sends an SQL null for the value. -/
def SendsNull (v : Option TDBType) : Prop :=
  match d with
  | .sqlite => SqliteDriver.parameterOf conv v = some .null
  | .postgres => PostgresDriver.paramOf rt v = .null

/-- What the columns that `ColumnDefinition` declares do with a null: one that is `NOT NULL`
rejects the row, and one that is not holds it, unless it is a key. `column` is given a definition
and the value that was bound. -/
structure ColumnRules (column : Text → Option TDBType → Option Held) : Prop where
  notNull : ∀ fld v, keyword "NOT" ∈ read (columnDefinition d fld) → SendsNull d conv rt v →
    column (columnDefinition d fld) v = none
  nullable : ∀ fld v, keyword "NOT" ∉ read (columnDefinition d fld) →
    keyword "PRIMARY" ∉ read (columnDefinition d fld) → SendsNull d conv rt v →
      column (columnDefinition d fld) v = some .null

/-- An object that is loaded from a row with a null for the field has a Null reference there. -/
def LoadsNull (fld : TOrmField) : Prop :=
  ∀ (value : ℕ → Option TDBType) (loaded : Object Slot),
    (∀ entry ∈ m.fields.zipIdx, entry.1.typeField = fld.typeField →
      (value entry.2).all (·.isNull) = true) →
    objectFromCurrentRow r d m conv value = .ok loaded → IsNullReference r loaded fld

/-- The value is sent as a null; a nullable column holds it, a `NOT NULL` one rejects the row, and
the field is loaded as Null. -/
structure StoredAsNull (column : Text → Option TDBType → Option Held) (fld : TOrmField)
    (v : Option TDBType) : Prop where
  sent : SendsNull d conv rt v
  nullable : fld.nullable = true → fld.isPrimaryKey = false →
    column (columnDefinition d fld) v = some .null
  rejected : fld.nullable = false → fld.isPrimaryKey = false →
    column (columnDefinition d fld) v = none
  loaded : LoadsNull d m r conv fld

variable {d m r obj conv rt}

/-! ### Columns -/

theorem read_columnDefinition (fld : TOrmField) :
    read (columnDefinition d fld) = .name fld.columnName :: definitionTail d fld :=
  (reads_columnDefinition d fld).read_eq

theorem not_mem_definition {fld : TOrmField} (hkey : fld.isPrimaryKey = false) :
    keyword "NOT" ∈ read (columnDefinition d fld) ↔ fld.nullable = false := by
  have htypes : ∀ t ∈ typeNames, .word ['N', 'O', 'T'] ∉ read t := by decide +kernel
  have htype := htypes _ (sqlTypeForField_mem d fld)
  rw [read_columnDefinition, definitionTail, if_neg (by simp [hkey])]
  cases hnullable : fld.nullable <;> cases hunique : fld.isUnique <;>
    simp [keyword, hkey, htype]

theorem primary_not_mem_definition {fld : TOrmField} (hkey : fld.isPrimaryKey = false) :
    keyword "PRIMARY" ∉ read (columnDefinition d fld) := by
  have htypes : ∀ t ∈ typeNames, .word ['P', 'R', 'I', 'M', 'A', 'R', 'Y'] ∉ read t := by decide +kernel
  have htype := htypes _ (sqlTypeForField_mem d fld)
  rw [read_columnDefinition, definitionTail, if_neg (by simp [hkey])]
  cases hnullable : fld.nullable <;> cases hunique : fld.isUnique <;>
    simp [keyword, hkey, htype]

/-! ### Loading a null -/

theorem setFieldFromDbValue_null {loaded : Object Slot} {fld : TOrmField} {value : Option TDBType}
    (hnull : value.all (·.isNull) = true) :
    setFieldFromDbValue r d conv loaded fld value = .ok loaded := by
  cases value with
  | none => rfl
  | some v =>
    have hv : v.isNull = true := hnull
    rw [setFieldFromDbValue, if_pos hv]

/-- A value is stored in its own field. -/
theorem setFieldFromDbValue_stores {loaded loaded' : Object Slot} {fld : TOrmField}
    {value : Option TDBType} (h : setFieldFromDbValue r d conv loaded fld value = .ok loaded') :
    loaded' = loaded ∨ ∃ slot, loaded' = store loaded fld slot := by
  cases value with
  | none => exact .inl (Except.ok.inj h).symm
  | some v =>
    simp only [setFieldFromDbValue] at h
    split_ifs at h
    · exact .inl (Except.ok.inj h).symm
    · exact .inl (Except.ok.inj h).symm
    · exact .inr ⟨_, (Except.ok.inj h).symm⟩
    · exact .inr ⟨_, (Except.ok.inj h).symm⟩
    · exact .inr ⟨_, (Except.ok.inj h).symm⟩
    · exact .inr ⟨_, (Except.ok.inj h).symm⟩
    · cases hty : valueTypeId fld <;> rw [hty] at h <;>
        first | exact .inr ⟨_, (Except.ok.inj h).symm⟩ | cases h

theorem setFieldFromDbValue_leaves {loaded loaded' : Object Slot} {fld : TOrmField}
    {value : Option TDBType} (h : setFieldFromDbValue r d conv loaded fld value = .ok loaded')
    {tf : TField} (hother : fld.typeField = tf → value.all (·.isNull) = true) :
    loaded' tf = loaded tf := by
  by_cases hfield : fld.typeField = tf
  · rw [setFieldFromDbValue_null (hother hfield)] at h
    rw [Except.ok.inj h]
  · obtain rfl | ⟨slot, rfl⟩ := setFieldFromDbValue_stores h
    · rfl
    · exact Function.update_of_ne (Ne.symm hfield) slot loaded

theorem objectFromCurrentRow_leaves {value : ℕ → Option TDBType} {loaded : Object Slot}
    (h : objectFromCurrentRow r d m conv value = .ok loaded) {tf : TField}
    (hnull : ∀ entry ∈ m.fields.zipIdx, entry.1.typeField = tf →
      (value entry.2).all (·.isNull) = true) : loaded tf = r.newSlot tf := by
  have hloop (entries : List (TOrmField × ℕ)) (start : Object Slot)
      (hentries : ∀ entry ∈ entries, entry.1.typeField = tf →
        (value entry.2).all (·.isNull) = true)
      (hrun : entries.foldlM (fun obj entry =>
        setFieldFromDbValue r d conv obj entry.1 (value entry.2)) start = .ok loaded) :
      loaded tf = start tf := by
    induction entries generalizing start with
    | nil =>
      obtain rfl := Except.ok.inj hrun
      rfl
    | cons entry entries ih =>
      rw [List.foldlM_cons] at hrun
      obtain ⟨next, hnext, hrun⟩ := bind_eq_ok.mp hrun
      obtain ⟨hentry, hrest⟩ := List.forall_mem_cons.mp hentries
      rw [ih next hrest hrun, setFieldFromDbValue_leaves hnext hentry]
  exact hloop _ _ hnull h

/-- A null leaves the field as it is in a new object. -/
theorem loadsNull_iff (fld : TOrmField) :
    LoadsNull d m r conv fld ↔ IsNullReference r r.newSlot fld := by
  constructor
  · intro h
    have hrow : objectFromCurrentRow r d m conv (fun _ => none) = .ok r.newSlot := by
      rw [objectFromCurrentRow]
      induction m.fields.zipIdx with
      | nil => rfl
      | cons entry entries ih => exact ih
    exact h (fun _ => none) r.newSlot (fun _ _ _ => rfl) hrow
  · intro hnew value loaded hnull h
    rw [IsNullReference, objectFromCurrentRow_leaves h hnull]
    exact hnew

theorem storedAsNull_iff {column : Text → Option TDBType → Option Held}
    (hcolumn : ColumnRules d conv rt column) (fld : TOrmField) (v : Option TDBType) :
    StoredAsNull d m r conv rt column fld v ↔
      SendsNull d conv rt v ∧ IsNullReference r r.newSlot fld := by
  refine ⟨fun h => ⟨h.sent, (loadsNull_iff fld).mp h.loaded⟩, fun ⟨hsent, hnew⟩ => ?_⟩
  refine ⟨hsent, fun hnullable hkey => ?_, fun hnullable hkey => ?_, (loadsNull_iff fld).mpr hnew⟩
  · refine hcolumn.nullable fld v ?_ (primary_not_mem_definition hkey) hsent
    rw [not_mem_definition hkey, hnullable]
    exact Bool.noConfusion
  · exact hcolumn.notNull fld v ((not_mem_definition hkey).mpr hnullable) hsent

/-! ### Null references -/

theorem sendsNull_none : SendsNull d conv rt none := by
  cases d with
  | sqlite => rfl
  | postgres => rfl

theorem not_sendsNull_string (text : Text) : ¬ SendsNull d conv rt (some (.setString text)) := by
  cases d with
  | sqlite => exact nofun
  | postgres => exact nofun

theorem not_sendsNull_int (n : ℤ) : ¬ SendsNull d conv rt (some (.setInt n)) := by
  cases d with
  | sqlite => exact nofun
  | postgres => exact nofun

theorem addBindValue_inj {query : TQueryResultSet} {vs : List (Option TDBType)}
    (hquery : query.Bound vs) {v w : Option TDBType}
    (h : query.addBindValue v = query.addBindValue w) : v = w := by
  have hbound := (hquery.addBindValue v).boundValues_eq
  rw [h, (hquery.addBindValue w).boundValues_eq] at hbound
  exact (List.append_inj_right' hbound rfl |> List.singleton_inj.mp).symm

/-- A Null reference is bound as a null unless its field is handled as a JSON text or a Bool. -/
theorem null_reference_sent_iff {fld : TOrmField} (hnull : IsNullReference r obj fld)
    {v : Option TDBType} (h : Binds d r obj fld v) :
    SendsNull d conv rt v ↔ fld.isJson = false ∧ fld.isBool = false := by
  have hcreate := h .create
  unfold bindFieldValue at hcreate
  have hbound := TQueryResultSet.bound_create
  obtain ⟨hjson, htext⟩ | ⟨hjson, hdecimal, hvalue⟩ := hnull
  · rw [if_pos hjson, htext] at hcreate
    rw [← addBindValue_inj hbound (Except.ok.inj hcreate), hjson]
    exact iff_of_false (not_sendsNull_string []) fun h => Bool.false_ne_true h.1.symm
  · rw [if_neg (by rw [hjson]; exact Bool.false_ne_true)] at hcreate
    cases hbool : fld.isBool with
    | true =>
      rw [if_pos hbool] at hcreate
      refine iff_of_false ?_ fun h => Bool.false_ne_true h.2.symm
      cases d with
      | sqlite =>
        rw [← addBindValue_inj hbound (Except.ok.inj hcreate)]
        exact not_sendsNull_int _
      | postgres =>
        unfold TOrmDialect.addBool at hcreate
        dsimp only at hcreate
        split_ifs at hcreate
        · rw [← addBindValue_inj hbound (Except.ok.inj hcreate)]
          exact not_sendsNull_int 1
        · rw [← addBindValue_inj hbound (Except.ok.inj hcreate)]
          exact not_sendsNull_int 0
    | false =>
      rw [if_neg (by rw [hbool]; exact Bool.false_ne_true), if_pos hdecimal, hvalue] at hcreate
      rw [← addBindValue_inj hbound (Except.ok.inj hcreate)]
      exact iff_of_true sendsNull_none ⟨hjson, rfl⟩

variable (d m r obj conv rt) in
/-- At the place of every Null reference the request has a value that is stored as a null exactly if
the field is handled as a decimal, and is Null in a new object. -/
def NullsStored (column : Text → Option TDBType → Option Held) (flds : List TOrmField)
    (request : Request) : Prop :=
  ∀ (i : ℕ) (fld : TOrmField), flds[i]? = some fld → IsNullReference r obj fld →
    ∃ v, request.query.boundValues[i]? = some v ∧
      (StoredAsNull d m r conv rt column fld v ↔
        fld.isJson = false ∧ fld.isBool = false ∧ IsNullReference r r.newSlot fld)

theorem BindsFields.nullsStored {column : Text → Option TDBType → Option Held}
    (hcolumn : ColumnRules d conv rt column) {flds : List TOrmField} {request : Request}
    (h : BindsFields d r obj flds request) : NullsStored d m r obj conv rt column flds request := by
  intro i fld hfld hnull
  obtain ⟨hi, rfl⟩ := List.getElem?_eq_some_iff.mp hfld
  have hi' : i < request.query.boundValues.length := h.length_eq ▸ hi
  refine ⟨request.query.boundValues[i], List.getElem?_eq_getElem hi', ?_⟩
  have hsent : SendsNull d conv rt request.query.boundValues[i] ↔
      flds[i].isJson = false ∧ flds[i].isBool = false :=
    null_reference_sent_iff hnull (h.get hi hi')
  exact (storedAsNull_iff hcolumn _ _).trans ((and_congr_left' hsent).trans and_assoc)

/-- What saving and updating an object bind for its Null references. -/
theorem null_references_stored_iff (m : TOrmModel) {column : Text → Option TDBType → Option Held}
    (hcolumn : ColumnRules d conv rt column) :
    (∀ request, saveObject r d m (some obj) = .ok request →
      NullsStored d m r obj conv rt column (insertFields m) request) ∧
    ∀ primaryKey request, m.primaryKey = some primaryKey →
      updateObject r d m (some obj) = .ok request →
        NullsStored d m r obj conv rt column (updateFields m ++ [primaryKey]) request :=
  ⟨fun _ h => (saveObject_binds h).nullsStored hcolumn,
    fun _ _ hpk h => (updateObject_binds hpk h).nullsStored hcolumn⟩

end

/-! ### Objects without references -/

/-- Objects whose references are all Null, also when they are new. -/
def nulls : Reflection Cell :=
  { Cell.reflection with
    toJson := fun _ _ => none
    getDecimal := fun _ _ => none }

/-- The columns of an SQLite table, as `NOT NULL` and the parameter decide. -/
def columns (definition : Text) (v : Option TDBType) : Option Held :=
  match SqliteDriver.parameterOf .integers v with
  | some .null => if keyword "NOT" ∈ read definition then none else some .null
  | _ => some .value

theorem columns_rules (rt : PostgresDriver.Runtime) : ColumnRules .sqlite .integers rt columns where
  notNull fld v hnot hsent := by
    rw [columns, hsent]
    exact if_pos hnot
  nullable fld v hnot _ hsent := by
    rw [columns, hsent]
    exact if_neg hnot

def priceType : TClassId :=
  ⟨"TProduct".toList, [], [⟨"price".toList, .objectTypeId "TDecimal".toList,
    [("nullable", ['1'])]⟩]⟩

def settingsType : TClassId :=
  ⟨"TUser".toList, [], [⟨"settings".toList, .objectTypeId "TUserSettings".toList,
    [("json", ['1']), ("nullable", ['1'])]⟩]⟩

/-- No settings are saved as an empty text, and not as a null. -/
theorem null_json_bound_as_text :
    ∃ out request, buildModel (none : Option (TOrmRegistry fun _ => 0)) .lowerCase settingsType =
        .ok out ∧
      saveObject nulls .sqlite out.1 (some fun _ => .integer 0) = .ok request ∧
      (∀ fld ∈ insertFields out.1, IsNullReference nulls (fun _ => .integer 0) fld) ∧
      request.query.boundValues = [some (.setString [])] ∧
      SqliteDriver.parameterOf .integers (some (.setString [])) = some (.text []) := by
  refine ⟨_, _, rfl, rfl, ?_, rfl, rfl⟩
  intro fld hfld
  fin_cases hfld
  exact .inl ⟨rfl, rfl⟩

/-- No price is stored as a null, and comes back as one. -/
theorem null_references_stored_iff_price :
    ∃ out request, buildModel (none : Option (TOrmRegistry fun _ => 0)) .lowerCase priceType =
        .ok out ∧
      saveObject nulls .sqlite out.1 (some fun _ => .integer 0) = .ok request ∧
      ∀ rt, NullsStored .sqlite out.1 nulls (fun _ => .integer 0) .integers rt columns
        (insertFields out.1) request :=
  ⟨_, _, rfl, rfl, fun rt => (null_references_stored_iff _ (columns_rules rt)).1 _ rfl⟩

end DatabaseMod.OrmNulls
