import DatabaseMod.OrmStoredRecords
import DatabaseMod.SqliteOutcomes

/-!
# Data access objects as a keyed store

Over a database the calls of the data access objects act on shelves: partial functions of the
keys, one for each table. A call that throws leaves them, or ends the transaction that there
is; the others put an object, take one away or show one.
-/

namespace DatabaseMod.OrmKeyedStore
open SqlTokens (Text)
open MachineInteger
open CoreValues hiding Content
open CoreResultSet CoreQuery KeyedRecords SqlReading SqlEngine SqlCommands SqlDatabase
open SqliteDriver SqliteOutcomes
open OrmModel OrmModelBuilder OrmStatements OrmStatementReading OrmBinding OrmAlignment OrmOperations
open OrmSqliteRoundTrip OrmSqliteQueries OrmCommands OrmStoredRecords
open StoppingPrograms StoppingPrograms.Program

section

variable {Slot : Type} (o : TOrm TDBSQLite TSQLiteResultSet Slot) {e : Engine} {σ : Storage}
  {catalog : Catalog} (db : Database e σ.store catalog)

/-- The content of the database that the connection is open to. -/
def contentAt (s : World TDBSQLite) : Content := db.content s.db.log

/-! ### Commands -/

/-- A command was run, with parameters for the values, and its query stands before the rows. -/
structure Ran (sql : Text) (cmd : Command) (ws : List (Option TDBType)) (stmt : Statement)
    (run : Run) (before : Content) (s : World TDBSQLite) (query : TSQLiteResultSet) : Prop where
  isActive : query.isActive = true
  carried : Carried o.conv ws (params s.db.log stmt.handle)
  prepared : Prepared s.db.log stmt.handle sql
  changes : Changes σ.store catalog (params s.db.log stmt.handle) cmd before (contentAt db s)
  begins : Begins run
  answers : Answers run (answer σ.store catalog (params s.db.log stmt.handle) before cmd)
  readable : 0 < width cmd → Readable e o.conv stmt run (s.db, query)
  width_eq : (columns (some stmt)).length = width cmd

/-- An issued command throws and is abandoned, or it changes what it says. -/
theorem issue_command {sql : Text} {cmd : Command} (htrim : SqlTokens.trim sql = sql)
    (hread : read sql = cmd.items) {P : List (Option TDBType) → Prop}
    {bind : TSQLiteResultSet → Operation TDBSQLite TSQLiteResultSet} (hbind : BindsValues P bind)
    (husual : ∀ ws param, P ws → Carried o.conv ws param → Usual σ.store catalog param cmd)
    (msg : Option Text) (s : World TDBSQLite) :
    let r := (onSqlite o e).issue sql bind msg s
    (∃ exit, r.1 = .error exit ∧ Abandons (contentAt db s) (contentAt db r.2)) ∨
    ∃ query ws stmt run, r.1 = .ok query ∧ P ws ∧
      Ran o db sql cmd ws stmt run (contentAt db s) r.2 query := by
  intro r
  obtain ⟨exit, calls, hexit, hcalls, hlog⟩ |
    ⟨ws, stmt, before, after, result, hws, hrun, hprepared, ⟨log, hdescribed⟩, hreport, hquery⟩ :=
    issue_outcome e o db.told htrim hbind msg s
  · refine .inl ⟨exit, hexit, .inl ?_⟩
    unfold contentAt
    rw [hlog, db.content_calls hcalls]
  have hcmd : command (read sql) = some cmd := by rw [hread, command_items]
  have hbefore : db.content (s.db.log ++ before) = contentAt db s := db.content_calls hrun.quiet
  have hafter : contentAt db r.2 =
      db.content (s.db.log ++ before ++ [stepCall e (s.db.log ++ before) stmt.handle result]) := by
    rw [contentAt, hrun.log_eq, List.append_cons, db.content_calls hrun.idle]
  have hcarried : Carried o.conv ws (params (s.db.log ++ before) stmt.handle) := hrun.bound
  have hkept : params r.2.db.log stmt.handle = params (s.db.log ++ before) stmt.handle :=
    congrFun hrun.kept stmt.handle
  by_cases hbegins : Begins (e.run (s.db.log ++ before) stmt.handle)
  · obtain ⟨query, hok⟩ := hreport.mpr hbegins
    obtain ⟨hactive, hreadable⟩ := hquery query hok
    have hwidth := db.described log sql cmd stmt.description hdescribed hcmd
    have hlater : Prepared r.2.db.log stmt.handle sql := by
      rw [hrun.log_eq]
      exact hprepared.append _
    have hchanges := db.ran _ stmt.handle sql cmd result hprepared hcmd (husual _ _ hws hcarried)
      hbegins
    have hanswers := db.answers _ stmt.handle sql cmd hprepared hcmd (husual _ _ hws hcarried)
    rw [hbefore, ← hafter] at hchanges
    rw [hbefore] at hanswers
    rw [← hkept] at hcarried hchanges hanswers
    exact .inr ⟨query, ws, stmt, _, hok, hws, hactive, hcarried, hlater, hchanges, hbegins, hanswers,
      fun hpos => hreadable (hwidth ▸ hpos), hwidth⟩
  · have habandons := db.abandoned _ stmt.handle sql cmd result hprepared hcmd hbegins
    rw [hbefore, ← hafter] at habandons
    cases hr : r.1 with
    | error exit => exact .inl ⟨exit, rfl, habandons⟩
    | ok query => exact absurd (hreport.mp ⟨query, hr⟩) hbegins

/-! ### What is bound -/

theorem bindLoop_adds {r : Reflection Slot} {obj : Object Slot} {skip : TOrmField → Bool}
    {flds : List TOrmField} {query out : TQueryResultSet}
    (h : flds.foldlM (fun query fld =>
      if skip fld then .ok query else bindFieldValue r .sqlite query obj fld) query = .ok out) :
    ∃ ws : List (Option TDBType), List.Forall₂ (Binds .sqlite r obj) (flds.filter (!skip ·)) ws ∧
      out = ws.foldl TQueryResultSet.addBindValue query := by
  induction flds generalizing query with
  | nil =>
    cases h
    exact ⟨[], .nil, rfl⟩
  | cons fld flds ih =>
    rw [List.foldlM_cons, LoopRules.bind_eq_ok] at h
    obtain ⟨next, hstep, hrun⟩ := h
    split_ifs at hstep with hskip
    · cases hstep
      rw [List.filter_cons_of_neg (by simpa using hskip)]
      exact ih hrun
    · obtain ⟨v, hv⟩ := exists_binds .sqlite r obj ⟨query, next, hstep⟩
      obtain rfl := Except.ok.inj ((hv query).symm.trans hstep)
      obtain ⟨ws, hws, hout⟩ := ih hrun
      rw [List.filter_cons_of_pos (by simpa using hskip)]
      exact ⟨v :: ws, .cons hv hws, hout⟩

theorem bound_binds (e : Engine) {f : TQueryResultSet → Except TOrmException TQueryResultSet}
    {P : List (Option TDBType) → Prop} (h : ∀ base out, f base = .ok out →
      ∃ ws : List (Option TDBType), P ws ∧ out = ws.foldl TQueryResultSet.addBindValue base) :
    BindsValues P fun query => (onSqlite o e).bound query (f query.toTQueryResultSet) := by
  intro query s
  unfold TOrm.bound
  dsimp only
  cases hf : f query.toTQueryResultSet with
  | error exception =>
    refine ⟨rfl, fun query' hquery' => ?_⟩
    cases hquery'
  | ok base =>
    refine ⟨rfl, fun query' hquery' => ?_⟩
    cases hquery'
    obtain ⟨ws, hws, rfl⟩ := h _ _ hf
    exact ⟨ws, hws, rfl⟩

theorem insert_binds (e : Engine) (m : TOrmModel) (obj : Object Slot) :
    BindsValues (List.Forall₂ (Binds .sqlite o.reflection obj) (insertFields m)) fun query =>
      (onSqlite o e).bound query
        (bindInsertValues o.reflection .sqlite m query.toTQueryResultSet obj) :=
  bound_binds o e (f := fun base => bindInsertValues o.reflection .sqlite m base obj)
    fun _ _ h => bindLoop_adds h

theorem key_binds {r : Reflection Slot} {obj : Object Slot} {primaryKey : TOrmField}
    {base out : TQueryResultSet} (h : bindFieldValue r .sqlite base obj primaryKey = .ok out) :
    ∃ v, Binds .sqlite r obj primaryKey v ∧ out = base.addBindValue v := by
  obtain ⟨v, hv⟩ := exists_binds .sqlite r obj ⟨base, out, h⟩
  exact ⟨v, hv, Except.ok.inj (h.symm.trans (hv base))⟩

theorem update_binds (e : Engine) (m : TOrmModel) (primaryKey : TOrmField) (obj : Object Slot) :
    BindsValues (List.Forall₂ (Binds .sqlite o.reflection obj) (updateFields m ++ [primaryKey]))
      fun query => (onSqlite o e).bound query (do
        let base ← bindUpdateValues o.reflection .sqlite m query.toTQueryResultSet obj
        bindFieldValue o.reflection .sqlite base obj primaryKey) := by
  refine bound_binds o e (f := fun base => do
    let base ← bindUpdateValues o.reflection .sqlite m base obj
    bindFieldValue o.reflection .sqlite base obj primaryKey) fun base out h => ?_
  obtain ⟨next, hnext, hkey⟩ := LoopRules.bind_eq_ok.mp h
  obtain ⟨ws, hws, rfl⟩ := bindLoop_adds hnext
  obtain ⟨v, hv, rfl⟩ := key_binds hkey
  refine ⟨ws ++ [v], List.rel_append hws (.cons hv .nil), ?_⟩
  rw [List.foldl_append]
  rfl

theorem delete_binds (e : Engine) (primaryKey : TOrmField) (obj : Object Slot) :
    BindsValues (List.Forall₂ (Binds .sqlite o.reflection obj) [primaryKey]) fun query =>
      (onSqlite o e).bound query
        (bindFieldValue o.reflection .sqlite query.toTQueryResultSet obj primaryKey) := by
  refine bound_binds o e (f := fun base => bindFieldValue o.reflection .sqlite base obj primaryKey)
    fun base out h => ?_
  obtain ⟨v, hv, rfl⟩ := key_binds h
  exact ⟨[v], .cons hv .nil, rfl⟩

def idValue : TOrm.Id → Option TDBType
  | .int id => some (.setInt id)
  | .long id => some (.setLong id)
  | .string id => some (.setString id)

theorem id_binds (e : Engine) (id : TOrm.Id) :
    BindsValues (· = [idValue id]) fun query =>
      (onSqlite o e).bound query (.ok (id.add query.toTQueryResultSet)) := by
  refine bound_binds o e (f := fun base => .ok (id.add base)) fun base out h => ?_
  cases h
  refine ⟨_, rfl, ?_⟩
  cases id <;> rfl

/-! ### Keys -/

section

variable {m : TOrmModel} {primaryKey : TOrmField} (hr : Faithful o.reflection)
  (h : Suits catalog m primaryKey) {obj : Object Slot} {ws : List (Option TDBType)}
  {param : ℕ → SqlValue} (hparam : Carried o.conv ws param)

include hr h

theorem comparable_key (hkey : Contains o.reflection primaryKey (obj primaryKey.typeField))
    {c : SqlValue} (hc : cellFor o.reflection o.conv σ obj primaryKey = some c) : Comparable c := by
  obtain ⟨c', hc', hcomparable⟩ : ∃ c', cellFor o.reflection o.conv σ obj primaryKey = some c' ∧
      Comparable c' := exists_cell hr (h.plain h.mem.1) (h.handled h.mem.1) hkey
  rw [hc, Option.some.injEq] at hc'
  rwa [hc']

include hparam

theorem sought_key {flds : List TOrmField}
    (hws : List.Forall₂ (Binds .sqlite o.reflection obj) flds ws) {i : ℕ}
    (hi : flds[i]? = some primaryKey)
    (hkey : Contains o.reflection primaryKey (obj primaryKey.typeField)) :
    cellFor o.reflection o.conv σ obj primaryKey =
        some (sought σ.store param (schemaOf m primaryKey) (i + 1)) ∧
      Comparable (sought σ.store param (schemaOf m primaryKey) (i + 1)) := by
  have hcell : cellFor o.reflection o.conv σ obj primaryKey =
      some (sought σ.store param (schemaOf m primaryKey) (i + 1)) :=
    carried_cell hr h hws hparam hi h.mem.1 hkey
  exact ⟨hcell, comparable_key o hr h hkey hcell⟩

theorem insert_usual (hws : List.Forall₂ (Binds .sqlite o.reflection obj) (insertFields m) ws)
    (hcontains : ∀ fld ∈ insertFields m, Contains o.reflection fld (obj fld.typeField)) :
    Usual σ.store catalog param
      (.insert m.tableName ((insertFields m).map (·.columnName))) := by
  have hsub : (insertFields m).Sublist m.fields := List.filter_sublist
  have hnodup : ((insertFields m).map (·.columnName)).Nodup := h.columns_nodup.sublist (hsub.map _)
  refine ⟨hnodup, fun s hs => ?_⟩
  obtain rfl : schemaOf m primaryKey = s := by
    rw [h.schema_eq] at hs
    exact Option.some.inj hs
  change if primaryKey.columnName ∈ (insertFields m).map (·.columnName) then
    Comparable (sought σ.store param (schemaOf m primaryKey)
      (((insertFields m).map (·.columnName)).idxOf primaryKey.columnName + 1))
    else primaryKey.isAuto = true
  by_cases hkey : primaryKey ∈ insertFields m
  · rw [if_pos (List.mem_map_of_mem hkey)]
    obtain ⟨i, hi⟩ := List.getElem?_of_mem hkey
    obtain ⟨hlt, hget⟩ := List.getElem?_eq_some_iff.mp hi
    have hlt' : i < ((insertFields m).map (·.columnName)).length := by simpa using hlt
    have hname : ((insertFields m).map (·.columnName))[i] = primaryKey.columnName := by
      rw [List.getElem_map, hget]
    rw [← hname, hnodup.idxOf_getElem i hlt']
    exact (sought_key o hr h hparam hws hi (hcontains primaryKey hkey)).2
  · rw [if_neg]
    · by_contra hauto
      refine hkey (List.mem_filter.mpr ⟨h.mem.1, ?_⟩)
      rw [shouldSkipInsertField, Bool.eq_false_of_not_eq_true hauto, Bool.and_false]
      rfl
    · intro hmem
      obtain ⟨fld, hfld, hname⟩ := List.mem_map.mp hmem
      exact hkey (h.field_inj (hsub.subset hfld) h.mem.1 hname ▸ hfld)

theorem keys_usual {flds : List TOrmField}
    (hws : List.Forall₂ (Binds .sqlite o.reflection obj) flds ws) {i : ℕ}
    (hi : flds[i]? = some primaryKey)
    (hkey : Contains o.reflection primaryKey (obj primaryKey.typeField)) :
    Keys σ.store catalog param m.tableName primaryKey.columnName (i + 1) := by
  intro s hs
  obtain rfl : schemaOf m primaryKey = s := by
    rw [h.schema_eq] at hs
    exact Option.some.inj hs
  exact ⟨rfl, (sought_key o hr h hparam hws hi hkey).2⟩

theorem update_usual
    (hws : List.Forall₂ (Binds .sqlite o.reflection obj) (updateFields m ++ [primaryKey]) ws)
    (hkey : Contains o.reflection primaryKey (obj primaryKey.typeField)) :
    Usual σ.store catalog param
      (.update m.tableName ((updateFields m).map (·.columnName)) primaryKey.columnName) := by
  have hsub : (updateFields m).Sublist m.fields := List.filter_sublist
  refine ⟨h.columns_nodup.sublist (hsub.map _), ?_, ?_⟩
  · intro hmem
    obtain ⟨fld, hfld, hname⟩ := List.mem_map.mp hmem
    obtain ⟨hfld, hset⟩ := List.mem_filter.mp hfld
    rw [h.field_inj hfld h.mem.1 hname, shouldSkipUpdateField, h.mem.2] at hset
    cases hset
  · rw [List.length_map]
    exact keys_usual o hr h hparam hws (by simp) hkey

end

/-! ### Calls -/

/-- The key that the database made is set in the object, and nothing else. -/
def Written (primaryKey : TOrmField) (obj obj' : Object Slot) : Prop :=
  if primaryKey.isAuto then ∃ n, obj' = store obj primaryKey
    (o.reflection.setLong primaryKey.typeField.typeId n)
  else obj' = obj

/-- `lastInsertedId` of the SQLite driver. -/
def lastInsertedId (s : Session) : ℤ :=
  if ¬ s.2.isActive then -1 else (db.content s.1.log).lastRowid

variable {db} {m : TOrmModel} {primaryKey : TOrmField}

/-- The state after the query was freed. -/
def freed (query : TSQLiteResultSet) (s : World TDBSQLite) : World TDBSQLite :=
  { s with db := (TSQLiteResultSet.free (s.db, query)).1 }

theorem contentAt_freed (query : TSQLiteResultSet) (s : World TDBSQLite) :
    contentAt db (freed query s) = contentAt db s := by
  obtain ⟨calls, hcalls, hlog, -⟩ := free_log (s.db, query)
  unfold contentAt freed
  rw [hlog, db.content_calls hcalls]

/-- The record that an insert adds is that of the object with its key. -/
theorem inserted_shelved (hr : Faithful o.reflection) (h : Suits catalog m primaryKey)
    {obj obj' : Object Slot} {rowid : ℤ} (hrowid : InInt64 rowid)
    {ws : List (Option TDBType)} {param : ℕ → SqlValue}
    (hcontains : ∀ fld ∈ insertFields m, Contains o.reflection fld (obj fld.typeField))
    (hws : List.Forall₂ (Binds .sqlite o.reflection obj) (insertFields m) ws)
    (hparam : Carried o.conv ws param)
    (hobj' : obj' = if primaryKey.isAuto then
      store obj primaryKey (o.reflection.setLong primaryKey.typeField.typeId rowid) else obj) :
    Shelved o.reflection o.conv σ m (assign σ.store param (schemaOf m primaryKey)
      ((insertFields m).map (·.columnName)) (blank (schemaOf m primaryKey) rowid)) obj' := by
  have hsub : (insertFields m).Sublist m.fields := List.filter_sublist
  have hsame (fld : TOrmField) (hfld : fld ∈ insertFields m) :
      obj' fld.typeField = obj fld.typeField := by
    rw [hobj']
    split_ifs with hauto
    · have hne : fld ≠ primaryKey := by
        rintro rfl
        have hskip := (List.mem_filter.mp hfld).2
        rw [shouldSkipInsertField, h.mem.2, hauto] at hskip
        cases hskip
      refine Function.update_of_ne (fun htf => hne ?_) _ _
      exact List.inj_on_of_nodup_map h.typeFields_nodup (hsub.subset hfld) h.mem.1 htf
    · rfl
  have hsplit (fld : TOrmField) (hfld : fld ∈ m.fields) :
      fld ∈ insertFields m ∨ fld = primaryKey ∧ primaryKey.isAuto = true := by
    by_cases hskip : shouldSkipInsertField fld = true
    · right
      obtain ⟨hkey, hauto⟩ := (Bool.and_eq_true_iff).mp hskip
      obtain rfl := h.eq_primaryKey hfld hkey
      exact ⟨rfl, hauto⟩
    · exact .inl (List.mem_filter.mpr ⟨hfld, by simpa using hskip⟩)
  have hslot (hauto : primaryKey.isAuto = true) : obj' primaryKey.typeField =
      setInteger o.reflection (valueTypeId primaryKey) primaryKey.typeField.typeId rowid := by
    rw [hobj', if_pos hauto, store, Function.update_self, (h.auto hauto).1]
    rfl
  constructor
  · intro fld hfld
    obtain hmem | ⟨rfl, hauto⟩ := hsplit fld hfld
    · have hcell : cellFor o.reflection o.conv σ obj' fld = cellFor o.reflection o.conv σ obj fld := by
        unfold cellFor bindFieldValue
        rw [hsame fld hmem]
      rw [hcell]
      exact assigned_cell hr h hsub hws hparam hcontains hmem _
    · have hplain := h.plain hfld
      obtain ⟨hlong, hbool, hcolumn⟩ := h.auto hauto
      have hown : fld.typeField.typeId.underlyingType = valueTypeId fld := by
        rw [h.auto_long hauto, hlong]
        rfl
      obtain ⟨v, hv, hp⟩ := binds_integer o.conv hr hplain hown hbool (by rw [hlong]; rfl)
        (n := rowid) (by rw [hlong]; exact hrowid) (hslot hauto)
      obtain ⟨w, hw⟩ := exists_binds .sqlite o.reflection obj' ⟨.create, _, hv⟩
      obtain rfl := binds_unique hw hv
      have hnot : fld.columnName ∉ (insertFields m).map (·.columnName) := by
        intro hmem
        obtain ⟨fld', hfld', hname⟩ := List.mem_map.mp hmem
        obtain rfl := h.field_inj (hsub.subset hfld') hfld hname
        have hskip := (List.mem_filter.mp hfld').2
        rw [shouldSkipInsertField, h.mem.2, hauto] at hskip
        cases hskip
      rw [assign_not_mem hnot, cellFor_binds hw, hp, hlong, hcolumn]
      have hblank : blank (schemaOf m fld) rowid fld.columnName = .integer rowid :=
        if_pos ⟨hauto, rfl⟩
      rw [hblank]
      exact congrArg some (σ.integer_integer rowid hrowid)
  · intro fld hfld
    obtain hmem | ⟨rfl, hauto⟩ := hsplit fld hfld
    · rw [hsame fld hmem]
      exact hcontains fld hmem
    · rw [hslot hauto]
      unfold Contains
      rw [(h.auto hauto).1]
      exact ⟨rowid, hrowid, rfl⟩

/-- The tables change in one place, and the transaction goes on. -/
structure Sets (before after : Content) (table : Text) (rows : List Record) : Prop where
  tables_eq : after.tables = Function.update before.tables table rows
  saved_eq : after.saved = before.saved

theorem save_outcome (hr : Faithful o.reflection) (h : Suits catalog m primaryKey)
    (hrowid : o.lastInsertedId = lastInsertedId db) {obj : Object Slot}
    (hcontains : ∀ fld ∈ insertFields m, Contains o.reflection fld (obj fld.typeField))
    (s : World TDBSQLite) :
    let r := (onSqlite o e).saveObject m (some obj) s
    (∃ exit, r.1 = .error exit ∧ Abandons (contentAt db s) (contentAt db r.2)) ∨
    ∃ obj' record, r.1 = .ok obj' ∧ Written o primaryKey obj obj' ∧
      Shelved o.reflection o.conv σ m record obj' ∧
      find (fun record : Record => record primaryKey.columnName)
        ((contentAt db s).tables m.tableName) (record primaryKey.columnName) = none ∧
      Sets (contentAt db s) (contentAt db r.2) m.tableName
        ((contentAt db s).tables m.tableName ++ [record]) := by
  intro r
  have hgiven : (throwing (TOrm.given "Cannot save Null object" (some obj)) :
      Operation TDBSQLite (Object Slot)) s = (.ok obj, s) := rfl
  have houtcome := issue_command o db (trim_insert m) (read_insert m) (insert_binds o e m obj)
    (fun ws param hws hparam => insert_usual o hr h hparam hws hcontains)
    (some "Failed to execute insert".toList) s
  generalize hissue : (onSqlite o e).issue (buildInsertSql .sqlite m) _ _ s = issued at houtcome
  obtain ⟨result, s₁⟩ := issued
  obtain ⟨exit, rfl, habandons⟩ | ⟨query, ws, stmt, run, rfl, hws, hran⟩ := houtcome
  · have hsave : r = (.error exit, s₁) := by
      change (onSqlite o e).saveObject m (some obj) s = _
      rw [TOrm.saveObject, bind_ok hgiven]
      exact bind_error hissue _
    rw [hsave]
    exact .inl ⟨exit, rfl, habandons⟩
  · obtain ⟨schema, rowid, hschema, hrange, hfresh, hafter⟩ := hran.changes
    have hsaved := congrArg SqlCommands.Content.saved hafter
    obtain rfl : schemaOf m primaryKey = schema := by
      rw [h.schema_eq] at hschema
      exact Option.some.inj hschema
    have hgenerated : o.lastInsertedId (s₁.db, query) = rowid := by
      rw [hrowid, lastInsertedId, if_neg (not_not.mpr hran.isActive)]
      exact congrArg SqlCommands.Content.lastRowid hafter
    set obj' := if primaryKey.isAuto then
      store obj primaryKey (o.reflection.setLong primaryKey.typeField.typeId rowid) else obj with hobj'
    have hsave : r = (.ok obj', freed query s₁) := by
      change (onSqlite o e).saveObject m (some obj) s = _
      rw [TOrm.saveObject, bind_ok hgiven]
      refine (bind_ok hissue _).trans ?_
      rw [h.primaryKey_eq, hobj', ← hgenerated]
      dsimp only
      split_ifs
      · rfl
      · rfl
    rw [hsave, contentAt_freed]
    refine .inr ⟨obj', _, rfl, ?_, inserted_shelved o hr h hrange hcontains hws hran.carried rfl,
      hfresh, ?_, ?_⟩
    · unfold Written
      rw [hobj']
      split_ifs
      · exact ⟨rowid, rfl⟩
      · rfl
    · exact congrArg SqlCommands.Content.tables hafter
    · exact hsaved

/-- A record with the key of the object becomes that of the object. -/
theorem updated_shelved (hr : Faithful o.reflection) (h : Suits catalog m primaryKey)
    {obj : Object Slot} {ws : List (Option TDBType)} {param : ℕ → SqlValue}
    (hcontains : ∀ fld ∈ m.fields, Contains o.reflection fld (obj fld.typeField))
    (hws : List.Forall₂ (Binds .sqlite o.reflection obj) (updateFields m ++ [primaryKey]) ws)
    (hparam : Carried o.conv ws param) {record : Record}
    (hkey : cellFor o.reflection o.conv σ obj primaryKey = some (record primaryKey.columnName)) :
    Shelved o.reflection o.conv σ m (assign σ.store param (schemaOf m primaryKey)
      ((updateFields m).map (·.columnName)) record) obj := by
  refine ⟨fun fld hfld => ?_, hcontains⟩
  have hsub : (updateFields m).Sublist m.fields := List.filter_sublist
  have hnodup : ((updateFields m).map (·.columnName)).Nodup := h.columns_nodup.sublist (hsub.map _)
  by_cases hset : fld ∈ updateFields m
  · obtain ⟨i, hi⟩ := List.getElem?_of_mem hset
    obtain ⟨hlt, -⟩ := List.getElem?_eq_some_iff.mp hi
    rw [assign_mem hnodup hi]
    refine carried_cell hr h hws hparam ?_ hfld (hcontains fld hfld)
    rw [List.getElem?_append_left hlt]
    exact hi
  · have hfldKey : fld.isPrimaryKey = true := by
      by_contra hplain
      exact hset (List.mem_filter.mpr ⟨hfld, by simpa [shouldSkipUpdateField] using hplain⟩)
    obtain rfl := h.eq_primaryKey hfld hfldKey
    rw [hkey, assign_not_mem]
    intro hmem
    obtain ⟨fld', hfld', hname⟩ := List.mem_map.mp hmem
    exact hset (h.field_inj (hsub.subset hfld') hfld hname ▸ hfld')

theorem update_outcome (hr : Faithful o.reflection) (h : Suits catalog m primaryKey)
    {obj : Object Slot} (hcontains : ∀ fld ∈ m.fields, Contains o.reflection fld (obj fld.typeField))
    (s : World TDBSQLite) :
    let r := (onSqlite o e).updateObject m (some obj) s
    (∃ exit, r.1 = .error exit ∧ Abandons (contentAt db s) (contentAt db r.2)) ∨
    ∃ k f, r.1 = .ok () ∧ cellFor o.reflection o.conv σ obj primaryKey = some k ∧
      (∀ record : Record, f record primaryKey.columnName = record primaryKey.columnName) ∧
      (∀ record : Record, record primaryKey.columnName = k →
        Shelved o.reflection o.conv σ m (f record) obj) ∧
      Sets (contentAt db s) (contentAt db r.2) m.tableName
        (modify (fun record : Record => record primaryKey.columnName) f
          ((contentAt db s).tables m.tableName) k) := by
  intro r
  have hgiven : (throwing (TOrm.given "Cannot update Null object" (some obj)) :
      Operation TDBSQLite (Object Slot)) s = (.ok obj, s) := rfl
  have hkeyed : (throwing (TOrm.keyed m "Cannot update model without primary key: ") :
      Operation TDBSQLite TOrmField) s = (.ok primaryKey, s) := by
    rw [TOrm.keyed, h.primaryKey_eq]
    rfl
  have hkey := hcontains primaryKey h.mem.1
  have houtcome := issue_command o db (trim_update m primaryKey) (read_update m primaryKey)
    (update_binds o e m primaryKey obj)
    (fun ws param hws hparam => update_usual o hr h hparam hws hkey)
    (some "Failed to execute update".toList) s
  generalize hissue : (onSqlite o e).issue (buildUpdateSql .sqlite m primaryKey) _ _ s = issued
    at houtcome
  obtain ⟨result, s₁⟩ := issued
  obtain ⟨exit, rfl, habandons⟩ | ⟨query, ws, stmt, run, rfl, hws, hran⟩ := houtcome
  · have hupdate : r = (.error exit, s₁) := by
      change (onSqlite o e).updateObject m (some obj) s = _
      rw [TOrm.updateObject, bind_ok hgiven, bind_ok hkeyed]
      exact bind_error hissue _
    rw [hupdate]
    exact .inl ⟨exit, rfl, habandons⟩
  · have hupdate : r = (.ok (), freed query s₁) := by
      change (onSqlite o e).updateObject m (some obj) s = _
      rw [TOrm.updateObject, bind_ok hgiven, bind_ok hkeyed]
      exact bind_ok hissue _
    obtain ⟨schema, hschema, hafter⟩ := hran.changes
    obtain rfl : schemaOf m primaryKey = schema := by
      rw [h.schema_eq] at hschema
      exact Option.some.inj hschema
    rw [List.length_map] at hafter
    obtain ⟨hcell, -⟩ := sought_key (σ := σ) o hr h hran.carried hws
      (i := (updateFields m).length) (by simp) hkey
    have hother := (update_usual (σ := σ) o hr h hran.carried hws hkey).2.1
    rw [hupdate, contentAt_freed]
    refine .inr ⟨_, assign σ.store (params s₁.db.log stmt.handle) (schemaOf m primaryKey)
      ((updateFields m).map (·.columnName)), rfl, hcell, fun record => assign_not_mem hother _ _ _,
      ?_, ?_, ?_⟩
    · intro record hrecord
      exact updated_shelved o hr h hcontains hws hran.carried (hrecord.symm ▸ hcell)
    · exact congrArg SqlCommands.Content.tables hafter
    · have hsaved := congrArg SqlCommands.Content.saved hafter
      exact hsaved

theorem remove_outcome (hr : Faithful o.reflection) (h : Suits catalog m primaryKey)
    {obj : Object Slot} (hkey : Contains o.reflection primaryKey (obj primaryKey.typeField))
    (s : World TDBSQLite) :
    let r := (onSqlite o e).removeObject m (some obj) s
    (∃ exit, r.1 = .error exit ∧ Abandons (contentAt db s) (contentAt db r.2)) ∨
    ∃ k, r.1 = .ok () ∧ cellFor o.reflection o.conv σ obj primaryKey = some k ∧
      Sets (contentAt db s) (contentAt db r.2) m.tableName
        (delete (fun record : Record => record primaryKey.columnName)
          ((contentAt db s).tables m.tableName) k) := by
  intro r
  have hgiven : (throwing (TOrm.given "Cannot remove Null object" (some obj)) :
      Operation TDBSQLite (Object Slot)) s = (.ok obj, s) := rfl
  have hkeyed : (throwing (TOrm.keyed m "Cannot remove model without primary key: ") :
      Operation TDBSQLite TOrmField) s = (.ok primaryKey, s) := by
    rw [TOrm.keyed, h.primaryKey_eq]
    rfl
  have houtcome := issue_command o db (trim_delete m primaryKey) (read_delete m primaryKey)
    (delete_binds o e primaryKey obj)
    (fun ws param hws hparam => keys_usual (i := 0) o hr h hparam hws rfl hkey)
    (some "Failed to execute delete".toList) s
  generalize hissue : (onSqlite o e).issue (buildDeleteSql .sqlite m primaryKey) _ _ s = issued
    at houtcome
  obtain ⟨result, s₁⟩ := issued
  obtain ⟨exit, rfl, habandons⟩ | ⟨query, ws, stmt, run, rfl, hws, hran⟩ := houtcome
  · have hremove : r = (.error exit, s₁) := by
      change (onSqlite o e).removeObject m (some obj) s = _
      rw [TOrm.removeObject, bind_ok hgiven, bind_ok hkeyed]
      exact bind_error hissue _
    rw [hremove]
    exact .inl ⟨exit, rfl, habandons⟩
  · have hremove : r = (.ok (), freed query s₁) := by
      change (onSqlite o e).removeObject m (some obj) s = _
      rw [TOrm.removeObject, bind_ok hgiven, bind_ok hkeyed]
      exact bind_ok hissue _
    obtain ⟨schema, hschema, hafter⟩ := hran.changes
    obtain rfl : schemaOf m primaryKey = schema := by
      rw [h.schema_eq] at hschema
      exact Option.some.inj hschema
    have hsaved := congrArg SqlCommands.Content.saved hafter
    obtain ⟨hcell, -⟩ := sought_key (σ := σ) (i := 0) o hr h hran.carried hws rfl hkey
    rw [hremove, contentAt_freed]
    refine .inr ⟨_, rfl, hcell, ?_, ?_⟩
    · exact congrArg SqlCommands.Content.tables hafter
    · exact hsaved

/-- The key that is looked for, as the key column compares it. -/
def idKey (conv : Conversions) (σ : Storage) (primaryKey : TOrmField) (id : TOrm.Id) : SqlValue :=
  σ.store (TOrmDialect.sqliteTypeForField primaryKey)
    ((parameterOf conv (idValue id)).getD .null)

theorem idValue_parameter (conv : Conversions) (id : TOrm.Id) :
    ∃ p, parameterOf conv (idValue id) = some p := by
  cases id <;> exact ⟨_, rfl⟩

theorem carried_id (h : Suits catalog m primaryKey) {id : TOrm.Id} {param : ℕ → SqlValue}
    (hparam : Carried o.conv [idValue id] param) :
    sought σ.store param (schemaOf m primaryKey) 1 = idKey o.conv σ primaryKey id := by
  obtain ⟨p, hp⟩ := idValue_parameter o.conv id
  unfold sought idKey
  rw [hparam 0 _ p rfl hp, hp]
  exact congrArg (fun ty => σ.store ty p) (typeOf_schemaOf h.columns_nodup h.mem.1)

/-- The rows of a run that begins, where there is one row at most. -/
theorem rows_of_answers {run : Run} {row : Option Row} (h : Answers run row.toList)
    (hbegins : Begins run) : run.rows = row.toList := by
  obtain ⟨all, hperm, hbegin, hdone⟩ := h
  cases row with
  | none =>
    obtain rfl := List.perm_nil.mp hperm
    exact List.prefix_nil.mp hbegin
  | some row =>
    obtain rfl := List.perm_singleton.mp hperm
    obtain hrows | hfailure := hbegins
    · exact hbegin.eq_of_length_le (List.length_pos_iff.mpr hrows)
    · exact hdone hfailure

theorem answer_select (h : Suits catalog m primaryKey) (param : ℕ → SqlValue) (columns : List Text)
    {content : SqlCommands.Content}
    (hkeyed : Keyed (fun record : Record => record primaryKey.columnName)
      (content.tables m.tableName)) :
    answer σ.store catalog param content
        (.select columns m.tableName (some primaryKey.columnName)) =
      ((find (fun record : Record => record primaryKey.columnName) (content.tables m.tableName)
        (sought σ.store param (schemaOf m primaryKey) 1)).map fun record =>
          columns.map record).toList := by
  change (catalog m.tableName).elim [] _ = _
  rw [h.schema_eq]
  change (matching (fun record : Record => record primaryKey.columnName) _ _).map _ = _
  rw [hkeyed.matching_eq]
  cases find (fun record : Record => record primaryKey.columnName) (content.tables m.tableName)
    (sought σ.store param (schemaOf m primaryKey) 1) <;> rfl

/-- The object has what the other one was saved with. -/
def Shows (m : TOrmModel) (obj found : Object Slot) : Prop :=
  ∀ fld ∈ m.fields, Restored o.reflection fld (obj fld.typeField) (found fld.typeField)

/-- Nothing is found where no record matches, and else the object of the one that does. -/
theorem find_outcome (hr : Faithful o.reflection) (hconv : ReadsDecimals o.conv)
    (h : Suits catalog m primaryKey) {id : TOrm.Id} (hid : Comparable (idKey o.conv σ primaryKey id))
    {store : SqlValue → Option (Object Slot)} (s : World TDBSQLite)
    (hrows : Represents (fun record : Record => record primaryKey.columnName)
      (Shelved o.reflection o.conv σ m) ((contentAt db s).tables m.tableName) store) :
    let r := (onSqlite o e).findByIdObject m id s
    (∃ exit, r.1 = .error exit ∧ Abandons (contentAt db s) (contentAt db r.2)) ∨
    ∃ found, r.1 = .ok found ∧
      (if found.isSome then contentAt db r.2 = contentAt db s
        else Abandons (contentAt db s) (contentAt db r.2)) ∧
      Option.Rel (Shows o m) (store (idKey o.conv σ primaryKey id)) found := by
  intro r
  obtain ⟨sql, hsql, hread⟩ := read_findById m h.primaryKey_eq
  have hthrowing : (throwing (buildFindByIdSql .sqlite m) : Operation TDBSQLite Text) s =
      (.ok sql, s) := throwing_ok hsql s
  have husual (param : ℕ → SqlValue) (hparam : Carried o.conv [idValue id] param) :
      Usual σ.store catalog param (.select (m.fields.map (·.columnName)) m.tableName
        (some primaryKey.columnName)) := by
    intro schema hs
    obtain rfl : schemaOf m primaryKey = schema := by
      rw [h.schema_eq] at hs
      exact Option.some.inj hs
    exact ⟨rfl, carried_id o h hparam ▸ hid⟩
  have houtcome := issue_command o db (trim_findById m hsql) hread (id_binds o e id)
    (fun ws param hws hparam => husual param (hws ▸ hparam)) none s
  generalize hissue : (onSqlite o e).issue sql _ _ s = issued at houtcome
  obtain ⟨result, s₁⟩ := issued
  obtain ⟨exit, rfl, habandons⟩ | ⟨query, ws, stmt, run, rfl, rfl, hran⟩ := houtcome
  · have hfind : r = (.error exit, s₁) := by
      change (onSqlite o e).findByIdObject m id s = _
      refine (bind_ok hthrowing _).trans ?_
      exact bind_error hissue _
    rw [hfind]
    exact .inl ⟨exit, rfl, habandons⟩
  have hfind : r = (onSqlite o e).firstObject m query s₁ := by
    change (onSqlite o e).findByIdObject m id s = _
    refine (bind_ok hthrowing _).trans ?_
    exact bind_ok hissue _
  have hsame : contentAt db s₁ = contentAt db s := hran.changes
  have hanswers := hran.answers
  rw [answer_select h _ _ hrows.keyed, carried_id o h hran.carried] at hanswers
  have hrun := rows_of_answers hanswers hran.begins
  have hpos : 0 < m.fields.length := List.length_pos_of_mem h.mem.1
  have hreadable := hran.readable (by simpa [width] using hpos)
  have hwidth : (columns (some stmt)).length = m.fields.length := by
    simpa [width] using hran.width_eq
  have hfound := hrows.found (idKey o.conv σ primaryKey id)
  cases hrecord : find (fun record : Record => record primaryKey.columnName)
      ((contentAt db s).tables m.tableName) (idKey o.conv σ primaryKey id) with
  | none =>
    rw [hrecord] at hrun hfound
    have hagain := db.answers s₁.db.log stmt.handle sql _ hran.prepared
      (by rw [hread, command_items]) (husual _ hran.carried)
    change Answers _ (answer σ.store catalog _ (contentAt db s₁) _) at hagain
    rw [hsame, answer_select h _ _ hrows.keyed, carried_id o h hran.carried, hrecord] at hagain
    obtain ⟨hfetch, result, after, hafter, hlog⟩ := hreadable.ended hrun (hagain.nil rfl)
    have hnone : r = (.ok none, freed ((driver e o.conv).fetch (s₁.db, query)).2.2
        { s₁ with db := ((driver e o.conv).fetch (s₁.db, query)).2.1 }) := by
      rw [hfind, TOrm.firstObject]
      refine (bind_ok (nextRow_eq o e query s₁) _).trans ?_
      dsimp only
      rw [hfetch]
      rfl
    have hcontent : contentAt db r.2 =
        db.content (s₁.db.log ++ [stepCall e s₁.db.log stmt.handle result]) := by
      rw [hnone, contentAt_freed, contentAt, hlog, ← List.singleton_append, ← List.append_assoc,
        db.content_calls hafter]
    refine .inr ⟨none, congrArg Prod.fst hnone, ?_, ?_⟩
    · rw [if_neg (by simp), hcontent, ← hsame]
      by_cases hbegins : Begins (e.run s₁.db.log stmt.handle)
      · exact .inl (db.ran s₁.db.log stmt.handle sql _ result hran.prepared
          (by rw [hread, command_items]) (husual _ hran.carried) hbegins)
      · exact db.abandoned s₁.db.log stmt.handle sql _ result hran.prepared
          (by rw [hread, command_items]) hbegins
    · rw [hrows.store_eq_none.mpr hrecord]
      exact .none
  | some record =>
    rw [hrecord] at hrun hfound
    obtain ⟨obj, hobj, hshelved⟩ : ∃ obj, store (idKey o.conv σ primaryKey id) = some obj ∧
        Shelved o.reflection o.conv σ m record obj := by
      generalize store (idKey o.conv σ primaryKey id) = there at hfound
      cases hfound with
      | some hshelved => exact ⟨_, rfl, hshelved⟩
    obtain ⟨hfetch, hreads, hconn⟩ := hreadable.row ((m.fields.map (·.columnName)).map record) (by
      rw [hrun]
      rfl)
    obtain ⟨found, hdecode, hrestored⟩ := Shelved.decoded hr hconv h hshelved
    rw [hwidth, ← shownCell_nil] at hreads
    rw [← shownCell_nil] at hdecode
    have hshown := objectFromRow_shown o e hreads hdecode s₁
    have hsome : r = (.ok (some found),
        freed ((driver e o.conv).fetch (s₁.db, query)).2.2 s₁) := by
      rw [hfind, TOrm.firstObject]
      refine (bind_ok (nextRow_eq o e query s₁) _).trans ?_
      dsimp only
      rw [hfetch, hconn]
      exact (bind_ok hshown _).trans rfl
    refine .inr ⟨some found, congrArg Prod.fst hsome, ?_, ?_⟩
    · rw [hsome]
      exact (contentAt_freed _ s₁).trans hsame
    · rw [hobj]
      exact .some hrestored

end

end DatabaseMod.OrmKeyedStore
