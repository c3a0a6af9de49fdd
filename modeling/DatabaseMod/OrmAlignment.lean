import DatabaseMod.OrmBinding
import DatabaseMod.OrmColumns

/-!
# Alignment of columns, placeholders and values

The columns and placeholders of a sent statement are read from its text and compared,
position by position, with the values bound for it. Reading a row goes the other way: the
value of the selected column goes to the field the column was generated from.
-/

namespace DatabaseMod.OrmAlignment
open SqlTokens SqlReading LoopRules CoreValues CoreResultSet
open OrmModel OrmStatements OrmStatementReading OrmColumns OrmBinding

/-! ### Parts of a statement -/

def before (w : String) (l : List Item) : List Item := l.takeWhile (· ≠ keyword w)

def after (w : String) (l : List Item) : List Item := l.dropWhile (· ≠ keyword w)

theorem before_append {w : String} {p : List Item} (hp : keyword w ∉ p) (l : List Item) :
    before w (p ++ ([keyword w] ++ l)) = p := by
  have hall : ∀ i ∈ p, decide (i ≠ keyword w) = true := by
    intro i hi
    rw [decide_eq_true_eq]
    rintro rfl
    exact hp hi
  rw [before, List.takeWhile_append_of_pos hall]
  simp

theorem after_append {w : String} {p : List Item} (hp : keyword w ∉ p) (l : List Item) :
    after w (p ++ ([keyword w] ++ l)) = [keyword w] ++ l := by
  have hall : ∀ i ∈ p, decide (i ≠ keyword w) = true := by
    intro i hi
    rw [decide_eq_true_eq]
    rintro rfl
    exact hp hi
  rw [after, List.dropWhile_append_of_pos hall]
  simp

def insertColumns (sql : Text) : List Text := columnNames none (before "VALUES" (read sql))

def setColumns (sql : Text) : List Text := columnNames none (before "WHERE" (read sql))

def keyColumns (sql : Text) : List Text := columnNames none (after "WHERE" (read sql))

def selectColumns (sql : Text) : List Text := columnNames none (before "FROM" (read sql))

theorem forall_mem_commas {P : Item → Prop} (hcomma : P (.symbol ',')) {parts : List (List Item)}
    (h : ∀ p ∈ parts, ∀ i ∈ p, P i) : ∀ i ∈ commas parts, P i := by
  intro i hi
  cases parts with
  | nil => simp [commas, separated] at hi
  | cons p parts =>
    rcases List.mem_append.mp hi with hi | hi
    · exact h p List.mem_cons_self i hi
    · obtain ⟨q, hq, hi⟩ := List.mem_flatMap.mp hi
      rcases List.mem_append.mp hi with hi | hi
      · rwa [List.mem_singleton.mp hi]
      · exact h q (List.mem_cons_of_mem p hq) i hi

theorem forall_mem_elements {α : Type*} {P : Item → Prop} (hcomma : P (.symbol ','))
    {l : List α} {item : ℕ → α → List Item} (h : ∀ n x, ∀ i ∈ item n x, P i) :
    ∀ i ∈ commas (l.mapIdx item), P i := by
  refine forall_mem_commas hcomma fun p hp => ?_
  obtain ⟨n, hn, rfl⟩ := List.mem_mapIdx.mp hp
  exact h n _

theorem keyword_not_mem_fieldNames (w : String) (flds : List TOrmField) :
    keyword w ∉ fieldNames flds := by
  have hne : ∀ i ∈ fieldNames flds, i ≠ keyword w :=
    forall_mem_elements (by simp [keyword]) fun _ _ => by simp [keyword]
  exact fun h => hne _ h rfl

theorem placeholders_append (l l' : List Item) :
    placeholders (l ++ l') = placeholders l ++ placeholders l' := List.filter_append ..

theorem placeholders_none {l : List Item} (h : ∀ i ∈ l, isPlaceholder i = false) :
    placeholders l = [] := by
  simpa [placeholders] using h

variable (d : TOrmDialect) (m : TOrmModel)

theorem placeholders_placeholderItem (index : ℕ) :
    placeholders [placeholderItem d index] = [placeholderItem d index] := by
  cases d <;> rfl

theorem placeholders_assignment (index : ℕ) (fld : TOrmField) :
    placeholders [.name fld.columnName, .symbol '=', placeholderItem d index] =
      [placeholderItem d index] := placeholders_placeholderItem d index

/-- A list with one placeholder in each element, numbered by position. -/
theorem placeholders_elements {α : Type*} (l : List α) {item : ℕ → α → List Item}
    (h : ∀ n x, placeholders (item n x) = [placeholderItem d (n + 1)]) :
    placeholders (commas (l.mapIdx item)) =
      (List.range l.length).map fun n => placeholderItem d (n + 1) := by
  have hsep (parts : List (List Item)) :
      placeholders (commas parts) = parts.flatMap placeholders := by
    cases parts with
    | nil => rfl
    | cons p parts =>
      rw [commas, separated, placeholders_append, List.flatMap_cons]
      congr 1
      induction parts with
      | nil => rfl
      | cons q parts ih =>
        rw [List.flatMap_cons, placeholders_append, ih, List.flatMap_cons]
        rfl
  rw [hsep]
  induction l using List.reverseRecOn with
  | nil => rfl
  | append_singleton l x ih =>
    rw [List.mapIdx_concat, List.flatMap_append, ih]
    simp [h, List.range_succ]

theorem placeholders_fieldNames (flds : List TOrmField) : placeholders (fieldNames flds) = [] :=
  placeholders_none (forall_mem_elements (P := fun i => isPlaceholder i = false) rfl
    fun _ _ => by simp [isPlaceholder])

/-! ### The text that is sent -/

theorem rewritePlaceholders_of_items {sql : Text}
    (h : d = .postgres → ∀ i ∈ read sql, isMark i = false) : d.rewritePlaceholders sql = sql := by
  cases d with
  | sqlite => rfl
  | postgres =>
    obtain ⟨hmark, hpair⟩ := marks_of_items (h rfl)
    exact OrmPostgresPlaceholders.rewritePlaceholders_unmarked hmark hpair

theorem isMark_fieldNames (flds : List TOrmField) : ∀ i ∈ fieldNames flds, isMark i = false :=
  forall_mem_elements (P := fun i => isMark i = false) rfl fun _ _ => by simp [isMark]

theorem rewrite_insert : d.rewritePlaceholders (buildInsertSql d m) = buildInsertSql d m := by
  refine rewritePlaceholders_of_items d ?_
  rintro rfl
  have hvalues : ∀ i ∈ commas ((List.range (insertFields m).length).mapIdx fun n _ =>
      [placeholderItem .postgres (n + 1)]), isMark i = false :=
    forall_mem_elements (P := fun i => isMark i = false) rfl fun n _ => by simp [placeholderItem, isMark]
  have hreturning : ∀ i ∈ returningItems .postgres m, isMark i = false := by
    cases hpk : m.primaryKey with
    | none => simp [returningItems, hpk]
    | some primaryKey =>
      simp only [returningItems, hpk]
      split_ifs <;> simp [keyword, isMark]
  rw [(reads_insert .postgres m).read_eq, insertItems]
  simp only [List.forall_mem_append]
  refine ⟨?_, ?_, ?_, isMark_fieldNames _, ?_, hvalues, ?_, hreturning⟩ <;> simp [keyword, isMark]

theorem rewrite_update (primaryKey : TOrmField) :
    d.rewritePlaceholders (buildUpdateSql d m primaryKey) = buildUpdateSql d m primaryKey := by
  refine rewritePlaceholders_of_items d ?_
  rintro rfl
  have hset : ∀ i ∈ commas ((updateFields m).mapIdx fun n fld =>
      [.name fld.columnName, .symbol '=', placeholderItem .postgres (n + 1)]), isMark i = false :=
    forall_mem_elements (P := fun i => isMark i = false) rfl fun n _ => by simp [placeholderItem, isMark]
  rw [(reads_update .postgres m primaryKey).read_eq, updateItems]
  simp only [List.forall_mem_append]
  refine ⟨?_, ?_, ?_, hset, ?_, ?_, ?_, ?_⟩ <;> simp [keyword, isMark, placeholderItem]

theorem insertColumns_insert :
    insertColumns (buildInsertSql d m) = (insertFields m).map (·.columnName) := by
  have hsplit : insertItems d m = ([keyword "INSERT", keyword "INTO"] ++ ([.name m.tableName] ++
      ([.symbol '('] ++ (fieldNames (insertFields m) ++ [.symbol ')'])))) ++
      ([keyword "VALUES"] ++ ([.symbol '('] ++ (commas ((List.range (insertFields m).length).mapIdx
        fun n _ => [placeholderItem d (n + 1)]) ++ ([.symbol ')'] ++ returningItems d m)))) := by
    simp [insertItems]
  have hno : keyword "VALUES" ∉ [keyword "INSERT", keyword "INTO"] ++ ([.name m.tableName] ++
      ([.symbol '('] ++ (fieldNames (insertFields m) ++ [.symbol ')']))) := by
    simp [keyword_not_mem_fieldNames]
    simp [keyword]
  rw [insertColumns, (reads_insert d m).read_eq, hsplit, before_append hno]
  change columnNames (some "INSERT".toList) ([keyword "INTO"] ++ ([.name m.tableName] ++ _)) = _
  rw [columnNames_relation (by decide), columnNames_symbol, columnNames_append (by simp),
    columnNames_fieldNames _ rfl]
  simp [columnNames]

theorem placeholders_insert : placeholders (read (buildInsertSql d m)) =
    (List.range (insertFields m).length).map fun n => placeholderItem d (n + 1) := by
  have hvalues := placeholders_elements d (List.range (insertFields m).length)
    fun n _ => placeholders_placeholderItem d (n + 1)
  have hreturning : placeholders (returningItems d m) = [] := by
    refine placeholders_none ?_
    unfold returningItems
    split
    · split_ifs <;> simp [keyword, isPlaceholder]
    · simp
  rw [(reads_insert d m).read_eq, insertItems]
  simp only [placeholders_append, placeholders_fieldNames, hvalues, hreturning, List.length_range]
  simp [placeholders, keyword, isPlaceholder]

/-- What an update sets, up to its condition. -/
def assignments : List Item :=
  [keyword "UPDATE"] ++ ([.name m.tableName] ++ ([keyword "SET"] ++
    commas ((updateFields m).mapIdx fun n fld =>
      [.name fld.columnName, .symbol '=', placeholderItem d (n + 1)])))

theorem keyword_not_mem_assignments : keyword "WHERE" ∉ assignments d m := by
  have hne : ∀ i ∈ commas ((updateFields m).mapIdx fun n fld =>
      [.name fld.columnName, .symbol '=', placeholderItem d (n + 1)]), i ≠ keyword "WHERE" :=
    forall_mem_elements (by simp [keyword]) fun n fld => by
      cases d <;> simp [keyword, placeholderItem]
  intro h
  simp only [assignments, List.mem_append] at h
  rcases h with h | h | h | h
  · exact absurd h (by decide)
  · simp [keyword] at h
  · exact absurd h (by decide)
  · exact hne _ h rfl

theorem updateItems_eq (primaryKey : TOrmField) :
    updateItems d m primaryKey = assignments d m ++ ([keyword "WHERE"] ++
      [.name primaryKey.columnName, .symbol '=',
        placeholderItem d ((updateFields m).length + 1)]) := by
  simp [updateItems, assignments]

theorem setColumns_update (primaryKey : TOrmField) :
    setColumns (buildUpdateSql d m primaryKey) = (updateFields m).map (·.columnName) := by
  have htail (n : ℕ) (fld : TOrmField) (name : Text) :
      Item.name name ∉ [.symbol '=', placeholderItem d (n + 1)] := by
    simpa using (placeholderItem_ne_name d (n + 1) name).symm
  rw [setColumns, (reads_update d m primaryKey).read_eq, updateItems_eq,
    before_append (keyword_not_mem_assignments d m), assignments,
    columnNames_relation (by decide), columnNames_keyword]
  exact columnNames_elements _ _ _ (by decide) htail

theorem keyColumns_update (primaryKey : TOrmField) :
    keyColumns (buildUpdateSql d m primaryKey) = [primaryKey.columnName] := by
  rw [keyColumns, (reads_update d m primaryKey).read_eq, updateItems_eq,
    after_append (keyword_not_mem_assignments d m), columnNames_keyword, columnNames_key]

theorem placeholders_update (primaryKey : TOrmField) :
    placeholders (read (buildUpdateSql d m primaryKey)) =
      (List.range ((updateFields m).length + 1)).map fun n => placeholderItem d (n + 1) := by
  have hset := placeholders_elements d (updateFields m)
    fun n fld => placeholders_assignment d (n + 1) fld
  rw [(reads_update d m primaryKey).read_eq, updateItems_eq, assignments]
  simp only [placeholders_append, hset, placeholders_assignment, List.range_succ, List.map_append]
  simp [placeholders, keyword, isPlaceholder]

theorem selectColumns_select {t : Text} (ht : Boundary t) :
    selectColumns ("SELECT ".toList ++ buildSelectColumnList d m ++ " FROM ".toList ++
      d.quoteIdentifier m.tableName ++ t) = m.fields.map (·.columnName) := by
  have hselect := reads_select d m reads_nil boundary_nil t ht
  simp only [List.append_nil] at hselect
  have hsplit : selectItems m ++ read t = ([keyword "SELECT"] ++ fieldNames m.fields) ++
      ([keyword "FROM"] ++ ([.name m.tableName] ++ read t)) := by
    simp [selectItems]
  have hno : keyword "FROM" ∉ [keyword "SELECT"] ++ fieldNames m.fields := by
    rw [List.mem_append, not_or]
    exact ⟨by decide, keyword_not_mem_fieldNames "FROM" m.fields⟩
  rw [selectColumns, hselect, hsplit, before_append hno, columnNames_keyword,
    columnNames_fieldNames _ (by decide)]

/-- The select statements of the mapper; conditions and orders are the caller's. -/
inductive SelectStatement (sameName : Text → Text → Bool) : Text → Prop
  | findById {sql : Text} (h : buildFindByIdSql d m = .ok sql) : SelectStatement sameName sql
  | findWhere {whereSql sql : Text} {orderBy : List TOrmOrderItem} {limit offset : ℤ}
    (h : buildFindWhereSql d m sameName whereSql orderBy limit offset = .ok sql) :
    SelectStatement sameName sql

theorem SelectStatement.selectColumns_eq {sameName : Text → Text → Bool} {sql : Text}
    (h : SelectStatement d m sameName sql) :
    selectColumns sql = m.fields.map (·.columnName) := by
  cases h with
  | findById h =>
    cases hpk : m.primaryKey with
    | none => simp [buildFindByIdSql, hpk] at h
    | some primaryKey =>
      simp only [buildFindByIdSql, hpk, Except.ok.injEq] at h
      rw [← h]
      have := selectColumns_select d m (t := " WHERE ".toList ++
        (d.quoteIdentifier primaryKey.columnName ++ (" = ".toList ++ d.placeholder 1)))
        (boundary_cons (by decide) _)
      simpa only [List.append_assoc] using this
  | @findWhere whereSql _ _ limit offset h =>
    obtain ⟨order, horder, h⟩ := bind_eq_ok.mp h
    obtain ⟨horderBound, -⟩ := reads_orderBy d m (buildOrderBySql_of_orderClause d m horder)
    rw [Except.ok.injEq] at h
    rw [← h]
    have := selectColumns_select d m (t := whereClause whereSql ++
      (order ++ limitClause limit offset))
      ((boundary_if (boundary_cons (by decide) _)).append
        (horderBound.append (reads_limitClause _ _).2))
    simpa only [List.append_assoc] using this

/-! ### Bound values -/

section Values

variable {Slot : Type} (r : Reflection Slot) (obj : Object Slot)

def Accepts (fld : TOrmField) : Prop :=
  ∃ query out, bindFieldValue r d query obj fld = .ok out

/-- Binding the field adds `v` and nothing else, whatever was bound before. -/
def Binds (fld : TOrmField) (v : Option TDBType) : Prop :=
  ∀ query, bindFieldValue r d query obj fld = .ok (query.addBindValue v)

theorem addBool_adds (value : ℤ) :
    ∃ v, ∀ query, TOrmDialect.addBool d query value = query.addBindValue v := by
  cases d with
  | sqlite => exact ⟨_, fun query => rfl⟩
  | postgres =>
    by_cases hvalue : value = 0
    · exact ⟨some (.setInt 0), fun query => by
        simp [TOrmDialect.addBool, hvalue, TQueryResultSet.addInt]⟩
    · exact ⟨some (.setInt 1), fun query => by
        simp [TOrmDialect.addBool, hvalue, TQueryResultSet.addInt]⟩

theorem addDecimal_adds (value : Option Text) :
    ∃ v, ∀ query, TOrmDialect.addDecimal d query value = query.addBindValue v := by
  cases value with
  | none => exact ⟨_, fun query => rfl⟩
  | some text => exact ⟨_, fun query => rfl⟩

/-- Every branch that accepts the field adds one value. -/
theorem exists_binds {fld : TOrmField} (h : Accepts d r obj fld) : ∃ v, Binds d r obj fld v := by
  obtain ⟨query, out, h⟩ := h
  unfold Binds
  unfold bindFieldValue at h ⊢
  by_cases hjson : fld.isJson = true
  · simp only [hjson, if_true]
    cases r.toJson fld.typeField.typeId (obj fld.typeField) with
    | none => exact ⟨_, fun query => rfl⟩
    | some json => exact ⟨_, fun query => rfl⟩
  by_cases hbool : fld.isBool = true
  · obtain ⟨v, hv⟩ := addBool_adds d (r.getInt fld.typeField.typeId (obj fld.typeField))
    exact ⟨v, fun query => by simp only [hjson, hbool, if_true, hv]; rfl⟩
  by_cases hdecimal : fld.isDecimal = true
  · obtain ⟨v, hv⟩ := addDecimal_adds d (r.getDecimal fld.typeField.typeId (obj fld.typeField))
    exact ⟨v, fun query => by simp only [hjson, hbool, hdecimal, if_true, hv]; rfl⟩
  by_cases henum : fld.isEnum = true ∧ fld.isEnumString = true
  · simp only [hjson, hbool, hdecimal, henum]
    exact ⟨_, fun query => rfl⟩
  simp only [hjson, hbool, hdecimal, henum] at h ⊢
  cases hty : valueTypeId fld with
  | sizeTTypeId => simp [hty] at h
  | enumTypeId name ty flags => simp [hty] at h
  | objectTypeId name => simp [hty] at h
  | _ => exact ⟨_, fun query => rfl⟩

/-- A loop that ends has bound one value for each field that it did not skip. -/
theorem bindLoop_ok {skip : TOrmField → Bool} {flds : List TOrmField} {query out : TQueryResultSet}
    {vs : List (Option TDBType)} (hquery : query.Bound vs)
    (h : flds.foldlM (fun query fld =>
      if skip fld then .ok query else bindFieldValue r d query obj fld) query = .ok out) :
    ∃ ws, out.Bound (vs ++ ws) ∧ List.Forall₂ (Binds d r obj) (flds.filter (!skip ·)) ws := by
  induction flds generalizing query vs with
  | nil =>
    obtain rfl := Except.ok.inj h
    exact ⟨[], by simpa using hquery, .nil⟩
  | cons fld flds ih =>
    rw [List.foldlM_cons, bind_eq_ok] at h
    obtain ⟨next, hstep, hrun⟩ := h
    split_ifs at hstep with hskip
    · obtain rfl := Except.ok.inj hstep
      rw [List.filter_cons_of_neg (by simpa using hskip)]
      exact ih hquery hrun
    · obtain ⟨v, hv⟩ := exists_binds d r obj ⟨query, next, hstep⟩
      obtain rfl := Except.ok.inj ((hv query).symm.trans hstep)
      obtain ⟨ws, hout, hws⟩ := ih (hquery.addBindValue v) hrun
      rw [List.filter_cons_of_pos (by simpa using hskip)]
      exact ⟨v :: ws, by simpa using hout, .cons hv hws⟩

/-- A loop over fields that are accepted does end. -/
theorem bindLoop_ends (skip : TOrmField → Bool) (flds : List TOrmField)
    (h : ∀ fld ∈ flds, Accepts d r obj fld) (query : TQueryResultSet) :
    ∃ out, flds.foldlM (fun query fld =>
      if skip fld then .ok query else bindFieldValue r d query obj fld) query = .ok out := by
  induction flds generalizing query with
  | nil => exact ⟨query, rfl⟩
  | cons fld flds ih =>
    have hflds : ∀ fld ∈ flds, Accepts d r obj fld := fun x hx => h x (List.mem_cons_of_mem fld hx)
    by_cases hskip : skip fld = true
    · obtain ⟨out, hrun⟩ := ih hflds query
      refine ⟨out, ?_⟩
      rw [List.foldlM_cons, bind_eq_ok]
      exact ⟨query, by rw [if_pos hskip], hrun⟩
    · obtain ⟨v, hv⟩ := exists_binds d r obj (h fld List.mem_cons_self)
      obtain ⟨out, hrun⟩ := ih hflds (query.addBindValue v)
      refine ⟨out, ?_⟩
      rw [List.foldlM_cons, bind_eq_ok]
      exact ⟨query.addBindValue v, by rw [if_neg hskip, hv], hrun⟩

/-- The columns, placeholders and values of a request for the fields `flds`. -/
structure Aligned (flds : List TOrmField) (columns : List Text) (request : Request) : Prop where
  columns_eq : columns = flds.map (·.columnName)
  placeholders_eq : placeholders (read request.sql) =
    (List.range flds.length).map fun n => placeholderItem d (n + 1)
  values : ∃ vs, request.query.Bound vs ∧ List.Forall₂ (Binds d r obj) flds vs

def SaveAligned : Prop :=
  ∃ request, saveObject r d m (some obj) = .ok request ∧
    Aligned d r obj (insertFields m) (insertColumns request.sql) request

/-- The key comes last, after the fields that are set. -/
def UpdateAligned (primaryKey : TOrmField) : Prop :=
  ∃ request, updateObject r d m (some obj) = .ok request ∧
    setColumns request.sql = (updateFields m).map (·.columnName) ∧
    keyColumns request.sql = [primaryKey.columnName] ∧
    Aligned d r obj (updateFields m ++ [primaryKey])
      (setColumns request.sql ++ keyColumns request.sql) request

theorem save_aligned (h : ∀ fld ∈ m.fields, Accepts d r obj fld) : SaveAligned d m r obj := by
  obtain ⟨out, hrun⟩ := bindLoop_ends d r obj shouldSkipInsertField m.fields h .create
  obtain ⟨vs, hout, hvs⟩ := bindLoop_ok d r obj TQueryResultSet.bound_create hrun
  refine ⟨⟨d.rewritePlaceholders (buildInsertSql d m), out⟩, ?_, ?_⟩
  · exact bind_eq_ok.mpr ⟨out, hrun, rfl⟩
  · rw [rewrite_insert]
    exact ⟨insertColumns_insert d m, placeholders_insert d m, vs, hout, hvs⟩

theorem update_aligned {primaryKey : TOrmField} (hpk : m.primaryKey = some primaryKey)
    (h : ∀ fld ∈ m.fields, Accepts d r obj fld) (hkey : Accepts d r obj primaryKey) :
    UpdateAligned d m r obj primaryKey := by
  obtain ⟨out, hrun⟩ := bindLoop_ends d r obj shouldSkipUpdateField m.fields h .create
  obtain ⟨vs, hout, hvs⟩ := bindLoop_ok d r obj TQueryResultSet.bound_create hrun
  obtain ⟨v, hv⟩ := exists_binds d r obj hkey
  refine ⟨⟨d.rewritePlaceholders (buildUpdateSql d m primaryKey), out.addBindValue v⟩, ?_, ?_⟩
  · simp only [updateObject, hpk]
    exact bind_eq_ok.mpr ⟨out, hrun, bind_eq_ok.mpr ⟨_, hv out, rfl⟩⟩
  · rw [rewrite_update]
    refine ⟨setColumns_update d m primaryKey, keyColumns_update d m primaryKey, ?_, ?_, ?_⟩
    · rw [setColumns_update, keyColumns_update, List.map_append]
      rfl
    · rw [List.length_append]
      exact placeholders_update d m primaryKey
    · exact ⟨vs ++ [v], hout.addBindValue v, List.rel_append hvs (.cons hv .nil)⟩

/-! ### Stored values -/

variable (conv : Conversions)

/-- A value that leaves the field as it was made: a null, or an empty JSON text. -/
def isMissing (fld : TOrmField) (value : Option TDBType) : Bool :=
  value.all fun v => v.isNull || (fld.isJson && trim v.getString = [])

/-- A field bound as a 64-bit C `long`, for which reading has no case. -/
def isLongInteger (fld : TOrmField) : Bool :=
  !fld.isJson && !fld.isBool && !fld.isDecimal && !(fld.isEnum && fld.isEnumString) &&
    (valueTypeId fld = .longIntTypeId || valueTypeId fld = .ulongIntTypeId)

/-- Reading the value sets the field to `slot` and nothing else, whatever the object. -/
structure Stores (fld : TOrmField) (value : Option TDBType) (slot : Option Slot) : Prop where
  missing : slot = none ↔ isMissing fld value = true
  reads : ∀ obj, setFieldFromDbValue r d conv obj fld value = .ok (slot.elim obj (store obj fld))

theorem Stores.of_missing {fld : TOrmField} {value : Option TDBType}
    (h : isMissing fld value = true) : Stores d r conv fld value none := by
  refine ⟨by simpa using h, fun obj => ?_⟩
  cases value with
  | none => rfl
  | some v =>
    simp only [isMissing, Option.all_some, Bool.or_eq_true, Bool.and_eq_true,
      decide_eq_true_eq] at h
    by_cases hnull : v.isNull = true
    · simp [setFieldFromDbValue, hnull]
    · obtain ⟨hjson, htrim⟩ := h.resolve_left hnull
      simp [setFieldFromDbValue, hnull, hjson, htrim]

theorem Stores.of_present {fld : TOrmField} {v : TDBType}
    (hpresent : isMissing fld (some v) = false) {slot : Slot}
    (h : ∀ obj, setFieldFromDbValue r d conv obj fld (some v) = .ok (store obj fld slot)) :
    Stores d r conv fld (some v) (some slot) := ⟨by simp [hpresent], h⟩

theorem setFieldFromDbValue_long {fld : TOrmField} {v : TDBType} (hlong : isLongInteger fld = true)
    (hnull : v.isNull = false) (obj : Object Slot) :
    setFieldFromDbValue r d conv obj fld (some v) =
      .error ⟨"Unsupported field type for column: ".toList ++ fld.name⟩ := by
  simp only [isLongInteger, Bool.and_eq_true, Bool.not_eq_true', Bool.and_eq_false_iff,
    Bool.or_eq_true, decide_eq_true_eq] at hlong
  obtain ⟨⟨⟨⟨hjson, hbool⟩, hdecimal⟩, henum⟩, hty⟩ := hlong
  have henum' : ¬ (fld.isEnum = true ∧ fld.isEnumString = true) := by
    rintro ⟨h, hs⟩
    simp [h, hs] at henum
  unfold setFieldFromDbValue
  simp only [hnull, hjson, hbool, hdecimal, if_neg henum', Bool.false_eq_true, if_false]
  rcases hty with hty | hty <;> rw [hty]

/-- A value that is there is stored by every branch that binding has as well. -/
theorem exists_stores_present {fld : TOrmField} (h : Accepts d r obj fld)
    (hlong : isLongInteger fld = false) {v : TDBType} (hpresent : isMissing fld (some v) = false) :
    ∃ slot, Stores d r conv fld (some v) slot := by
  have hnull : v.isNull = false := by
    by_contra hnull
    simp [isMissing, hnull] at hpresent
  suffices ∃ slot, ∀ obj, setFieldFromDbValue r d conv obj fld (some v) =
      .ok (store obj fld slot) by
    obtain ⟨slot, hslot⟩ := this
    exact ⟨some slot, Stores.of_present d r conv hpresent hslot⟩
  obtain ⟨query, out, h⟩ := h
  unfold bindFieldValue at h
  unfold setFieldFromDbValue
  simp only [hnull, Bool.false_eq_true, if_false]
  by_cases hjson : fld.isJson = true
  · have htext : ¬ (v.getString = [] ∨ trim v.getString = []) := by
      simp only [isMissing, hnull, hjson, Option.all_some, Bool.false_or, Bool.true_and,
        decide_eq_false_iff_not] at hpresent
      rintro (hempty | htrim)
      · exact hpresent (by rw [hempty]; rfl)
      · exact hpresent htrim
    simp only [hjson, htext, if_true, if_false]
    exact ⟨_, fun obj => rfl⟩
  by_cases hbool : fld.isBool = true
  · simp only [hjson, hbool, if_true]
    exact ⟨_, fun obj => rfl⟩
  by_cases hdecimal : fld.isDecimal = true
  · simp only [hjson, hbool, hdecimal, if_true]
    exact ⟨_, fun obj => rfl⟩
  by_cases henum : fld.isEnum = true ∧ fld.isEnumString = true
  · simp only [hjson, hbool, hdecimal, henum]
    exact ⟨_, fun obj => rfl⟩
  simp only [hjson, hbool, hdecimal, henum] at h ⊢
  have hplain : fld.isEnum = false ∨ fld.isEnumString = false := by
    simpa only [Bool.not_eq_true] using not_and_or.mp henum
  have hlong : valueTypeId fld ≠ .longIntTypeId ∧ valueTypeId fld ≠ .ulongIntTypeId := by
    simp only [isLongInteger, hjson, hbool, hdecimal] at hlong
    rcases hplain with hplain | hplain <;> simpa [hplain] using hlong
  cases hty : valueTypeId fld with
  | sizeTTypeId => simp [hty] at h
  | enumTypeId name ty flags => simp [hty] at h
  | objectTypeId name => simp [hty] at h
  | longIntTypeId => exact absurd hty hlong.1
  | ulongIntTypeId => exact absurd hty hlong.2
  | _ => exact ⟨_, fun obj => rfl⟩

/-- An accepted field takes every value but a non-null one for a C `long`. -/
theorem exists_stores_iff {fld : TOrmField} (h : Accepts d r obj fld) (value : Option TDBType) :
    (∃ slot, Stores d r conv fld value slot) ↔
      (isLongInteger fld = true → ∀ v, value = some v → v.isNull = true) := by
  refine ⟨?_, fun hnull => ?_⟩
  · rintro ⟨slot, hslot⟩ hlong v rfl
    by_contra hnull
    have hread := hslot.reads obj
    rw [setFieldFromDbValue_long d r conv hlong (by simpa using hnull)] at hread
    cases hread
  · by_cases hmissing : isMissing fld value = true
    · exact ⟨none, Stores.of_missing d r conv hmissing⟩
    · cases value with
      | none => exact absurd rfl hmissing
      | some v =>
        refine exists_stores_present d r obj conv h ?_ (by simpa using hmissing)
        by_contra hlong
        have := hnull (by simpa using hlong) v rfl
        simp [isMissing, this] at hmissing

def storeAll (obj : Object Slot) (entries : List (TOrmField × Option Slot)) : Object Slot :=
  entries.foldl (fun obj entry => entry.2.elim obj (store obj entry.1)) obj

/-- The row is read, and the value of each column goes to the field of its position. -/
def RowStored (value : ℕ → Option TDBType) : Prop :=
  ∃ slots, List.Forall₂ (fun entry slot => Stores d r conv entry.1 (value entry.2) slot)
      m.fields.zipIdx slots ∧
    objectFromCurrentRow r d m conv value = .ok (storeAll r.newSlot (m.fields.zip slots))

theorem readLoop_stores {value : ℕ → Option TDBType} (entries : List (TOrmField × ℕ))
    (h : ∀ entry ∈ entries, ∃ slot, Stores d r conv entry.1 (value entry.2) slot)
    (obj : Object Slot) :
    ∃ slots, List.Forall₂ (fun entry slot => Stores d r conv entry.1 (value entry.2) slot)
        entries slots ∧
      entries.foldlM (fun obj entry => setFieldFromDbValue r d conv obj entry.1 (value entry.2))
        obj = .ok (storeAll obj ((entries.map (·.1)).zip slots)) := by
  induction entries generalizing obj with
  | nil => exact ⟨[], .nil, rfl⟩
  | cons entry entries ih =>
    obtain ⟨slot, hslot⟩ := h entry List.mem_cons_self
    obtain ⟨slots, hslots, hrun⟩ := ih (fun x hx => h x (List.mem_cons_of_mem entry hx))
      (slot.elim obj (store obj entry.1))
    refine ⟨slot :: slots, .cons hslot hslots, ?_⟩
    rw [List.foldlM_cons, bind_eq_ok]
    exact ⟨_, hslot.reads obj, hrun⟩

theorem rowStored_iff (h : ∀ fld ∈ m.fields, Accepts d r obj fld) (value : ℕ → Option TDBType) :
    RowStored d m r conv value ↔ ∀ entry ∈ m.fields.zipIdx, isLongInteger entry.1 = true →
      ∀ v, value entry.2 = some v → v.isNull = true := by
  have haccepts : ∀ entry ∈ m.fields.zipIdx, Accepts d r obj entry.1 :=
    fun entry hentry => h _ (List.fst_mem_of_mem_zipIdx hentry)
  refine ⟨fun hrow entry hentry => ?_, fun hvalue => ?_⟩
  · obtain ⟨slots, hslots, -⟩ := hrow
    exact (exists_stores_iff d r obj conv (haccepts entry hentry) _).mp
      (exists_of_forall₂ hslots hentry)
  · obtain ⟨slots, hslots, hrun⟩ := readLoop_stores d r conv m.fields.zipIdx
      (fun entry hentry =>
        (exists_stores_iff d r obj conv (haccepts entry hentry) _).mpr (hvalue entry hentry))
      r.newSlot
    rw [List.zipIdx_map_fst] at hrun
    exact ⟨slots, hslots, hrun⟩

/-- For every object that is accepted, the statements of saving and updating name, mark
and bind its fields in one order, and selected columns are the fields in order. A row is
stored column by column exactly if no column of a C `long` field holds a value. -/
theorem columns_placeholders_values_line_up (sameName : Text → Text → Bool)
    (h : ∀ fld ∈ m.fields, Accepts d r obj fld)
    (hkey : ∀ primaryKey, m.primaryKey = some primaryKey → Accepts d r obj primaryKey) :
    SaveAligned d m r obj ∧
    (∀ primaryKey, m.primaryKey = some primaryKey → UpdateAligned d m r obj primaryKey) ∧
    (∀ sql, SelectStatement d m sameName sql → selectColumns sql = m.fields.map (·.columnName)) ∧
    ∀ value : ℕ → Option TDBType, RowStored d m r conv value ↔
      ∀ entry ∈ m.fields.zipIdx, isLongInteger entry.1 = true →
        ∀ v, value entry.2 = some v → v.isNull = true :=
  ⟨save_aligned d m r obj h, fun primaryKey hpk => update_aligned d m r obj hpk h (hkey primaryKey hpk),
    fun _ hsql => hsql.selectColumns_eq, rowStored_iff d m r obj conv h⟩

/-- A class with a counter in a C `long`. -/
def counterType : TClassId where
  name := "Counter".toList
  metadata := []
  enumFields := [⟨"id".toList, .longTypeId, [("pk", ['1'])]⟩, ⟨"hits".toList, .longIntTypeId, []⟩]

def counterRow : ℕ → Option TDBType
  | 0 => some (.setLong 1)
  | _ => some (.setLong 5)

/-- Its objects are saved, but a row that holds a count is not read back. -/
theorem long_counter_not_read :
    ∃ out, buildModel (none : Option (TOrmRegistry fun _ => 0)) .lowerCase counterType = .ok out ∧
      (∀ fld ∈ out.1.fields, Accepts .sqlite Cell.reflection (fun _ => .integer 0) fld) ∧
      ¬ RowStored .sqlite out.1 Cell.reflection .integers counterRow := by
  refine ⟨_, rfl, ?_, ?_⟩
  · intro fld hfld
    refine ⟨.create, ?_⟩
    fin_cases hfld
    · exact ⟨_, rfl⟩
    · exact ⟨_, rfl⟩
  · rintro ⟨slots, -, hread⟩
    cases hread

theorem columns_placeholders_values_line_up_counter :
    ∃ out, buildModel (none : Option (TOrmRegistry fun _ => 0)) .lowerCase counterType = .ok out ∧
      SaveAligned .sqlite out.1 Cell.reflection (fun _ => .integer 0) := by
  refine ⟨_, rfl, (columns_placeholders_values_line_up .sqlite _ Cell.reflection
    (fun _ => .integer 0) .integers (fun a b => a = b) ?_ ?_).1⟩
  · intro fld hfld
    refine ⟨.create, ?_⟩
    fin_cases hfld
    · exact ⟨_, rfl⟩
    · exact ⟨_, rfl⟩
  · intro primaryKey hpk
    cases hpk
    exact ⟨.create, _, rfl⟩

end Values

end DatabaseMod.OrmAlignment
