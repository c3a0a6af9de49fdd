import DatabaseMod.OrmKeyedStore
import DatabaseMod.SqliteTransactionOutcomes

/-!
# Sessions with data access objects

A session makes any calls of the data access objects of several models and any transaction
calls. It does what a keyed store with transactions does: each call acts on the store or is
lost, and a read shows what is there.
-/

namespace DatabaseMod.OrmSessions
open SqlTokens (Text)
open CoreValues hiding Content
open KeyedRecords SqlEngine SqlCommands SqlDatabase SqliteDriver SqliteConnection
open SqliteTransactionOutcomes
open OrmModel OrmStatements OrmStatementReading OrmAlignment OrmBinding OrmOperations OrmSqliteRoundTrip OrmSqliteQueries
open OrmParams OrmModelBuilder OrmStoredRecords OrmKeyedStore
open StoppingPrograms.Program

/-! ### The store -/

section

variable (Slot : Type)

/-- The objects of each table under their keys. -/
abbrev Shelves := Text → SqlValue → Option (Object Slot)

/-- The shelves, and as they were before the transaction if there is one. -/
structure Stock where
  shelves : Shelves Slot
  saved : Option (Shelves Slot)

inductive Request
  | save (m : TOrmModel) (obj : Option (Object Slot))
  | update (m : TOrmModel) (obj : Option (Object Slot))
  | remove (m : TOrmModel) (obj : Option (Object Slot))
  | findById (m : TOrmModel) (id : TOrm.Id)
  /-- These result sets are there, and may still be read from. -/
  | transaction (call : OrmTransaction.Call) (sets : List TSQLiteResultSet)

inductive Answer
  | saved (obj : Object Slot)
  | done
  | found (obj : Option (Object Slot))
  | threw (exit : Exit)
  | reported (ok : Bool)

end

section

variable {Slot : Type} (o : TOrm TDBSQLite TSQLiteResultSet Slot) (σ : Storage)

def Stock.put (stock : Stock Slot) (table : Text) (k : SqlValue) (obj : Option (Object Slot)) :
    Stock Slot :=
  ⟨Function.update stock.shelves table (Function.update (stock.shelves table) k obj), stock.saved⟩

/-- Nothing happens, or the transaction is lost. -/
def Loses (before after : Stock Slot) : Prop :=
  after = before ∨ ∃ shelves, before.saved = some shelves ∧ after = ⟨shelves, none⟩

/-- What a call does that is answered in this way. -/
inductive Acts : Request Slot → Answer Slot → Stock Slot → Stock Slot → Prop
  | saved {m primaryKey obj obj' k stock} (hkey : m.primaryKey = some primaryKey)
      (hwritten : Written o primaryKey obj obj')
      (hk : cellFor o.reflection o.conv σ obj' primaryKey = some k)
      (hfresh : stock.shelves m.tableName k = none) :
      Acts (.save m (some obj)) (.saved obj') stock (stock.put m.tableName k (some obj'))
  | updated {m primaryKey obj k stock} (hkey : m.primaryKey = some primaryKey)
      (hk : cellFor o.reflection o.conv σ obj primaryKey = some k) :
      Acts (.update m (some obj)) .done stock
        (stock.put m.tableName k ((stock.shelves m.tableName k).map fun _ => obj))
  | removed {m primaryKey obj k stock} (hkey : m.primaryKey = some primaryKey)
      (hk : cellFor o.reflection o.conv σ obj primaryKey = some k) :
      Acts (.remove m (some obj)) .done stock (stock.put m.tableName k none)
  | found {m primaryKey id obj found stock} (hkey : m.primaryKey = some primaryKey)
      (hobj : stock.shelves m.tableName (idKey o.conv σ primaryKey id) = some obj)
      (hshows : Shows o m obj found) :
      Acts (.findById m id) (.found (some found)) stock stock
  | missed {m primaryKey id stock stock'} (hkey : m.primaryKey = some primaryKey)
      (hnone : stock.shelves m.tableName (idKey o.conv σ primaryKey id) = none)
      (hloses : Loses stock stock') : Acts (.findById m id) (.found none) stock stock'
  | threw {request exit stock stock'} (hloses : Loses stock stock') :
      Acts request (.threw exit) stock stock'
  | started {sets stock} (hnone : stock.saved = none) :
      Acts (.transaction .start sets) (.reported true) stock ⟨stock.shelves, some stock.shelves⟩
  | committed {sets stock} (hsome : stock.saved ≠ none) :
      Acts (.transaction .commit sets) (.reported true) stock ⟨stock.shelves, none⟩
  | rolledBack {sets shelves stock} (hsome : stock.saved = some shelves) :
      Acts (.transaction .rollback sets) (.reported true) stock ⟨shelves, none⟩
  | refused {call sets stock stock'} (hloses : Loses stock stock') :
      Acts (.transaction call sets) (.reported false) stock stock'

/-- The calls with their answers take the one store to the other. -/
inductive Session : List (Request Slot × Answer Slot) → Stock Slot → Stock Slot → Prop
  | nil {stock} : Session [] stock stock
  | cons {request answer calls before stock after} (hacts : Acts o σ request answer before stock)
      (hrest : Session calls stock after) : Session ((request, answer) :: calls) before after

end

/-! ### Performing -/

section

variable {Slot : Type} (o : TOrm TDBSQLite TSQLiteResultSet Slot) (e : Engine)

def answered {α : Type} (answer : α → Answer Slot) (r : Except Exit α × World TDBSQLite) :
    Answer Slot × World TDBSQLite :=
  match r with
  | (.ok a, s) => (answer a, s)
  | (.error exit, s) => (.threw exit, s)

def perform (s : World TDBSQLite) : Request Slot → Answer Slot × World TDBSQLite
  | .save m obj => answered .saved ((onSqlite o e).saveObject m obj s)
  | .update m obj => answered (fun _ => .done) ((onSqlite o e).updateObject m obj s)
  | .remove m obj => answered (fun _ => .done) ((onSqlite o e).removeObject m obj s)
  | .findById m id => answered .found ((onSqlite o e).findByIdObject m id s)
  | .transaction call sets =>
    let r := (OrmTransaction.TDBSQLite e o.conv).answer call ⟨s.db, sets, []⟩
    (.reported r.1, { s with db := r.2.conn })

/-- The calls one after the other, an exception being caught. -/
def performAll (s : World TDBSQLite) : List (Request Slot) → List (Answer Slot) × World TDBSQLite
  | [] => ([], s)
  | request :: requests =>
    let r := perform o e s request
    let rest := performAll r.2 requests
    (r.1 :: rest.1, rest.2)

end

/-! ### The content of the database -/

section

variable {Slot : Type} (o : TOrm TDBSQLite TSQLiteResultSet Slot) (σ : Storage)
  (models : List TOrmModel)

/-- The tables of the models have the records of the objects on the shelves. -/
def Holds (tables : Tables) (shelves : Shelves Slot) : Prop :=
  ∀ m ∈ models, ∀ primaryKey, m.primaryKey = some primaryKey →
    Represents (fun record : Record => record primaryKey.columnName)
      (Shelved o.reflection o.conv σ m) (tables m.tableName) (shelves m.tableName)

structure Keeps (content : SqlCommands.Content) (stock : Stock Slot) : Prop where
  tables : Holds o σ models content.tables stock.shelves
  saved : Option.Rel (Holds o σ models) content.saved stock.saved

/-- Each model has a table of its own that suits it. -/
structure Shelving (catalog : Catalog) : Prop where
  suits : ∀ m ∈ models, ∃ primaryKey, Suits catalog m primaryKey
  apart : ∀ m ∈ models, ∀ m' ∈ models, m.tableName = m'.tableName → m = m'

/-- The objects contain what their fields are declared to, and keys can be compared. -/
def Fits : Request Slot → Prop
  | .save m given => m ∈ models ∧ ∀ obj : Object Slot, given = some obj →
      ∀ fld ∈ insertFields m, Contains o.reflection fld (obj fld.typeField)
  | .update m given => m ∈ models ∧ ∀ obj : Object Slot, given = some obj →
      ∀ fld ∈ m.fields, Contains o.reflection fld (obj fld.typeField)
  | .remove m given => m ∈ models ∧ ∀ obj : Object Slot, given = some obj →
      ∀ fld ∈ m.primaryKey, Contains o.reflection fld (obj fld.typeField)
  | .findById m id => m ∈ models ∧ ∀ fld ∈ m.primaryKey, Comparable (idKey o.conv σ fld id)
  | .transaction _ _ => True

variable {o σ models}

/-- A failure that leaves the content or loses the transaction does so with the store. -/
theorem Keeps.abandons {before after : SqlCommands.Content} {stock : Stock Slot}
    (h : Keeps o σ models before stock) (habandons : Abandons before after) :
    ∃ stock', Loses stock stock' ∧ Keeps o σ models after stock' := by
  obtain rfl | ⟨tables, htables, rfl⟩ := habandons
  · exact ⟨stock, .inl rfl, h⟩
  · have hsaved := h.saved
    rw [htables] at hsaved
    cases hstock : stock.saved with
    | none =>
      rw [hstock] at hsaved
      cases hsaved
    | some shelves =>
      rw [hstock] at hsaved
      cases hsaved with
      | some hholds => exact ⟨⟨shelves, none⟩, .inr ⟨shelves, hstock, rfl⟩, hholds, .none⟩

/-- One table and its shelf change together. -/
theorem Keeps.sets {catalog : Catalog} (hmodels : Shelving models catalog)
    {before after : SqlCommands.Content} {stock : Stock Slot} (h : Keeps o σ models before stock)
    {m : TOrmModel} (hm : m ∈ models) {primaryKey : TOrmField}
    (hkey : m.primaryKey = some primaryKey) {rows : List Record} {k : SqlValue}
    {obj : Option (Object Slot)} (hsets : Sets before after m.tableName rows)
    (hrows : Represents (fun record : Record => record primaryKey.columnName)
      (Shelved o.reflection o.conv σ m) rows
      (Function.update (stock.shelves m.tableName) k obj)) :
    Keeps o σ models after (stock.put m.tableName k obj) := by
  refine ⟨fun m' hm' primaryKey' hkey' => ?_, ?_⟩
  · rw [hsets.tables_eq]
    unfold Stock.put
    dsimp only
    by_cases hname : m'.tableName = m.tableName
    · obtain rfl := hmodels.apart m' hm' m hm hname
      rw [hkey] at hkey'
      obtain rfl := Option.some.inj hkey'
      rw [Function.update_self, Function.update_self]
      exact hrows
    · rw [Function.update_of_ne hname, Function.update_of_ne hname]
      exact h.tables m' hm' primaryKey' hkey'
  · rw [hsets.saved_eq]
    exact h.saved

end

/-! ### Refinement -/

section

variable {Slot : Type} {o : TOrm TDBSQLite TSQLiteResultSet Slot} {e : Engine} {σ : Storage}
  {catalog : Catalog} {db : Database e σ.store catalog} {models : List TOrmModel}
  {stock : Stock Slot}

/-- A call that throws is lost. -/
theorem threw_acts {request : Request Slot} {exit : Exit} {s s' : World TDBSQLite}
    (h : Keeps o σ models (contentAt db s) stock)
    (habandons : Abandons (contentAt db s) (contentAt db s')) :
    ∃ stock', Acts o σ request (.threw exit) stock stock' ∧
      Keeps o σ models (contentAt db s') stock' := by
  obtain ⟨stock', hloses, hkeeps⟩ := h.abandons habandons
  exact ⟨stock', .threw hloses, hkeeps⟩

theorem answered_ok {α : Type} {answer : α → Answer Slot} {r : Except Exit α × World TDBSQLite}
    {a : α} (h : r.1 = .ok a) : answered answer r = (answer a, r.2) := by
  obtain ⟨x, s⟩ := r
  cases h
  rfl

theorem answered_error {α : Type} {answer : α → Answer Slot} {exit : Exit}
    {r : Except Exit α × World TDBSQLite} (h : r.1 = .error exit) :
    answered answer r = (.threw exit, r.2) := by
  obtain ⟨x, s⟩ := r
  cases h
  rfl

/-- A Null object is refused before anything is done. -/
theorem null_acts {request : Request Slot} {α : Type} {answer : α → Answer Slot} {exit : Exit}
    {s : World TDBSQLite} (h : Keeps o σ models (contentAt db s) stock)
    {r : Except Exit α × World TDBSQLite} (hr : r = (.error exit, s)) :
    ∃ stock', Acts o σ request (answered answer r).1 stock stock' ∧
      Keeps o σ models (contentAt db (answered answer r).2) stock' := by
  rw [hr]
  exact threw_acts h (.inl rfl)

theorem save_acts (hr : Faithful o.reflection) (hrowid : o.lastInsertedId = lastInsertedId db)
    (hmodels : Shelving models catalog) {m : TOrmModel} {given : Option (Object Slot)}
    (hfits : Fits o σ models (.save m given)) {s : World TDBSQLite}
    (h : Keeps o σ models (contentAt db s) stock) :
    ∃ stock', Acts o σ (.save m given) (perform o e s (.save m given)).1 stock stock' ∧
      Keeps o σ models (contentAt db (perform o e s (.save m given)).2) stock' := by
  obtain ⟨hm, hcontains⟩ := hfits
  cases given with
  | none => exact null_acts h rfl
  | some obj =>
    obtain ⟨primaryKey, hsuits⟩ := hmodels.suits m hm
    obtain ⟨exit, hexit, habandons⟩ | ⟨obj', record, hok, hwritten, hshelved, hfresh, hsets⟩ :=
      save_outcome o hr hsuits hrowid (hcontains obj rfl) s
    · have hperform : perform o e s (.save m (some obj)) = (.threw exit, _) := answered_error hexit
      rw [hperform]
      exact threw_acts h habandons
    · have hperform : perform o e s (.save m (some obj)) = (.saved obj', _) := answered_ok hok
      rw [hperform]
      have hrows := h.tables m hm primaryKey hsuits.primaryKey_eq
      refine ⟨_, .saved hsuits.primaryKey_eq hwritten (hshelved.cells primaryKey hsuits.mem.1) ?_, ?_⟩
      · exact hrows.store_eq_none.mpr hfresh
      · exact h.sets hmodels hm hsuits.primaryKey_eq hsets (hrows.insert hfresh hshelved)

theorem update_acts (hr : Faithful o.reflection) (hmodels : Shelving models catalog)
    {m : TOrmModel} {given : Option (Object Slot)} (hfits : Fits o σ models (.update m given))
    {s : World TDBSQLite} (h : Keeps o σ models (contentAt db s) stock) :
    ∃ stock', Acts o σ (.update m given) (perform o e s (.update m given)).1 stock stock' ∧
      Keeps o σ models (contentAt db (perform o e s (.update m given)).2) stock' := by
  obtain ⟨hm, hcontains⟩ := hfits
  cases given with
  | none => exact null_acts h rfl
  | some obj =>
    obtain ⟨primaryKey, hsuits⟩ := hmodels.suits m hm
    obtain ⟨exit, hexit, habandons⟩ | ⟨k, f, hok, hk, hkeys, hshelved, hsets⟩ :=
      update_outcome o hr hsuits (hcontains obj rfl) s
    · have hperform : perform o e s (.update m (some obj)) = (.threw exit, _) := answered_error hexit
      rw [hperform]
      exact threw_acts h habandons
    · have hperform : perform o e s (.update m (some obj)) = (.done, _) := answered_ok hok
      rw [hperform]
      have hrows := h.tables m hm primaryKey hsuits.primaryKey_eq
      refine ⟨_, .updated hsuits.primaryKey_eq hk, ?_⟩
      exact h.sets hmodels hm hsuits.primaryKey_eq hsets
        (hrows.modify hkeys fun record _ hrecord => hshelved record hrecord)

theorem remove_acts (hr : Faithful o.reflection) (hmodels : Shelving models catalog)
    {m : TOrmModel} {given : Option (Object Slot)} (hfits : Fits o σ models (.remove m given))
    {s : World TDBSQLite} (h : Keeps o σ models (contentAt db s) stock) :
    ∃ stock', Acts o σ (.remove m given) (perform o e s (.remove m given)).1 stock stock' ∧
      Keeps o σ models (contentAt db (perform o e s (.remove m given)).2) stock' := by
  obtain ⟨hm, hcontains⟩ := hfits
  cases given with
  | none => exact null_acts h rfl
  | some obj =>
    obtain ⟨primaryKey, hsuits⟩ := hmodels.suits m hm
    obtain ⟨exit, hexit, habandons⟩ | ⟨k, hok, hk, hsets⟩ :=
      remove_outcome o hr hsuits (hcontains obj rfl primaryKey hsuits.primaryKey_eq) s
    · have hperform : perform o e s (.remove m (some obj)) = (.threw exit, _) := answered_error hexit
      rw [hperform]
      exact threw_acts h habandons
    · have hperform : perform o e s (.remove m (some obj)) = (.done, _) := answered_ok hok
      rw [hperform]
      have hrows := h.tables m hm primaryKey hsuits.primaryKey_eq
      refine ⟨_, .removed hsuits.primaryKey_eq hk, ?_⟩
      exact h.sets hmodels hm hsuits.primaryKey_eq hsets (hrows.delete k)

theorem findById_acts (hr : Faithful o.reflection) (hconv : ReadsDecimals o.conv)
    (hmodels : Shelving models catalog) {m : TOrmModel} {id : TOrm.Id}
    (hfits : Fits o σ models (.findById m id)) {s : World TDBSQLite}
    (h : Keeps o σ models (contentAt db s) stock) :
    ∃ stock', Acts o σ (.findById m id) (perform o e s (.findById m id)).1 stock stock' ∧
      Keeps o σ models (contentAt db (perform o e s (.findById m id)).2) stock' := by
  obtain ⟨hm, hcomparable⟩ := hfits
  obtain ⟨primaryKey, hsuits⟩ := hmodels.suits m hm
  have hrows := h.tables m hm primaryKey hsuits.primaryKey_eq
  obtain ⟨exit, hexit, habandons⟩ | ⟨found, hok, hsame, hshown⟩ :=
    find_outcome o hr hconv hsuits (hcomparable primaryKey hsuits.primaryKey_eq) s hrows
  · have hperform : perform o e s (.findById m id) = (.threw exit, _) := answered_error hexit
    rw [hperform]
    exact threw_acts h habandons
  · have hperform : perform o e s (.findById m id) = (.found found, _) := answered_ok hok
    rw [hperform]
    generalize hstored : stock.shelves m.tableName (idKey o.conv σ primaryKey id) = stored at hshown
    cases hshown with
    | some hshows =>
      have hsame : contentAt db ((onSqlite o e).findByIdObject m id s).2 = contentAt db s := hsame
      refine ⟨stock, .found hsuits.primaryKey_eq hstored hshows, ?_⟩
      exact hsame.symm ▸ h
    | none =>
      rw [if_neg (by simp)] at hsame
      obtain ⟨stock', hloses, hkeeps⟩ := h.abandons hsame
      exact ⟨stock', .missed hsuits.primaryKey_eq hstored hloses, hkeeps⟩

/-- A transaction call that is done is done to the store. -/
theorem Keeps.changes {call : OrmTransaction.Call} {sets : List TSQLiteResultSet}
    {before after : SqlCommands.Content} (h : Keeps o σ models before stock)
    {param : ℕ → SqlValue} (hchanges : Changes σ.store catalog param (commandOf call) before after) :
    ∃ stock', Acts o σ (.transaction call sets) (.reported true) stock stock' ∧
      Keeps o σ models after stock' := by
  obtain ⟨shelves, saved⟩ := stock
  have hsaved : Option.Rel (Holds o σ models) before.saved saved := h.saved
  cases call with
  | start =>
    obtain ⟨hnone, rfl⟩ := hchanges
    rw [hnone] at hsaved
    cases hsaved with
    | none => exact ⟨_, .started rfl, h.tables, .some h.tables⟩
  | commit =>
    obtain ⟨hsome, rfl⟩ := hchanges
    refine ⟨_, .committed ?_, h.tables, .none⟩
    rintro rfl
    cases hcontent : before.saved with
    | none => exact hsome hcontent
    | some tables =>
      rw [hcontent] at hsaved
      cases hsaved
  | rollback =>
    obtain ⟨tables, hsome, rfl⟩ := hchanges
    rw [hsome] at hsaved
    cases hsaved with
    | some hholds => exact ⟨_, .rolledBack rfl, hholds, .none⟩

theorem transaction_acts (call : OrmTransaction.Call) (sets : List TSQLiteResultSet)
    {s : World TDBSQLite} (h : Keeps o σ models (contentAt db s) stock) :
    let request : Request Slot := .transaction call sets
    ∃ stock', Acts o σ request (perform o e s request).1 stock stock' ∧
      Keeps o σ models (contentAt db (perform o e s request).2) stock' := by
  intro request
  have hperform : perform o e s request = (.reported ((OrmTransaction.TDBSQLite e o.conv).answer
    call ⟨s.db, sets, []⟩).1, _) := rfl
  rw [hperform]
  obtain ⟨hfalse, habandons⟩ | ⟨htrue, param, hchanges⟩ := call_outcome o.conv db call ⟨s.db, sets, []⟩
  · rw [hfalse]
    obtain ⟨stock', hloses, hkeeps⟩ := h.abandons habandons
    exact ⟨stock', .refused hloses, hkeeps⟩
  · rw [htrue]
    exact h.changes hchanges

theorem perform_acts (hr : Faithful o.reflection) (hconv : ReadsDecimals o.conv)
    (hrowid : o.lastInsertedId = lastInsertedId db) (hmodels : Shelving models catalog)
    {request : Request Slot} (hfits : Fits o σ models request) {s : World TDBSQLite}
    (h : Keeps o σ models (contentAt db s) stock) :
    ∃ stock', Acts o σ request (perform o e s request).1 stock stock' ∧
      Keeps o σ models (contentAt db (perform o e s request).2) stock' := by
  cases request with
  | save m given => exact save_acts hr hrowid hmodels hfits h
  | update m given => exact update_acts hr hmodels hfits h
  | remove m given => exact remove_acts hr hmodels hfits h
  | findById m id => exact findById_acts hr hconv hmodels hfits h
  | transaction call sets => exact transaction_acts call sets h

theorem performAll_session (hr : Faithful o.reflection) (hconv : ReadsDecimals o.conv)
    (hrowid : o.lastInsertedId = lastInsertedId db) (hmodels : Shelving models catalog)
    {requests : List (Request Slot)} (hfits : ∀ request ∈ requests, Fits o σ models request)
    {s : World TDBSQLite} (h : Keeps o σ models (contentAt db s) stock) :
    ∃ stock', Session o σ (requests.zip (performAll o e s requests).1) stock stock' ∧
      Keeps o σ models (contentAt db (performAll o e s requests).2) stock' := by
  induction requests generalizing s stock with
  | nil => exact ⟨stock, .nil, h⟩
  | cons request requests ih =>
    obtain ⟨hfit, hrest⟩ := List.forall_mem_cons.mp hfits
    obtain ⟨stock₁, hacts, hkeeps⟩ := perform_acts hr hconv hrowid hmodels hfit h
    obtain ⟨stock₂, hsession, hkept⟩ := ih hrest hkeeps
    exact ⟨stock₂, .cons hacts hsession, hkept⟩

/-- The table has one row for each object on the shelf, from which that object is read. -/
def Stores (o : TOrm TDBSQLite TSQLiteResultSet Slot) (m : TOrmModel) (primaryKey : TOrmField)
    (rows : List Record) (shelf : SqlValue → Option (Object Slot)) : Prop :=
  (rows.map fun record => record primaryKey.columnName).Nodup ∧
  (∀ record ∈ rows, ∃ obj found, shelf (record primaryKey.columnName) = some obj ∧
    decode o.reflection o.conv m (cell ((m.fields.map (·.columnName)).map record)) = .ok found ∧
    Shows o m obj found) ∧
  ∀ k obj, shelf k = some obj → ∃ record ∈ rows, record primaryKey.columnName = k

theorem Keeps.stores (hr : Faithful o.reflection) (hconv : ReadsDecimals o.conv)
    (hmodels : Shelving models catalog) {content : SqlCommands.Content}
    (h : Keeps o σ models content stock) {m : TOrmModel} (hm : m ∈ models) {primaryKey : TOrmField}
    (hkey : m.primaryKey = some primaryKey) :
    Stores o m primaryKey (content.tables m.tableName) (stock.shelves m.tableName) := by
  obtain ⟨primaryKey', hsuits⟩ := hmodels.suits m hm
  have hrows := h.tables m hm primaryKey hkey
  refine ⟨hrows.keyed, fun record hrecord => ?_, fun k obj hobj => ?_⟩
  · obtain ⟨obj, hobj, hshelved⟩ := hrows.of_mem hrecord
    obtain ⟨found, hfound, hshows⟩ := hshelved.decoded hr hconv hsuits
    exact ⟨obj, found, hobj, hfound, hshows⟩
  · have hfound := hrows.found k
    rw [hobj] at hfound
    cases hrow : find (fun record : Record => record primaryKey.columnName)
        (content.tables m.tableName) k with
    | none =>
      rw [hrow] at hfound
      cases hfound
    | some record =>
      have hk := key_of_find hrow
      exact ⟨record, mem_of_find hrow, hk⟩

end

/-! ### Outside of transactions -/

section

variable {Slot : Type} (o : TOrm TDBSQLite TSQLiteResultSet Slot) (σ : Storage)

/-- The shelf under the key of the object is changed, if the object has a key. -/
def putAt (shelves : Shelves Slot) (m : TOrmModel) (obj : Object Slot)
    (f : Option (Object Slot) → Option (Object Slot)) : Shelves Slot :=
  match keyOf o.reflection o.conv σ m obj with
  | none => shelves
  | some k => Function.update shelves m.tableName
    (Function.update (shelves m.tableName) k (f (shelves m.tableName k)))

/-- What an answered call puts on the shelves. -/
def effect (shelves : Shelves Slot) : Request Slot × Answer Slot → Shelves Slot
  | (.save m _, .saved obj) => putAt o σ shelves m obj fun _ => some obj
  | (.update m (some obj), .done) => putAt o σ shelves m obj (Option.map fun _ => obj)
  | (.remove m (some obj), .done) => putAt o σ shelves m obj fun _ => none
  | _ => shelves

def Request.isTransaction : Request Slot → Bool
  | .transaction _ _ => true
  | _ => false

/-- Whether a call with this answer may have lost the transaction. -/
def Answer.mayLose : Answer Slot → Bool
  | .threw _ | .found none => true
  | _ => false

variable {o σ}

theorem putAt_eq {m : TOrmModel} {primaryKey : TOrmField} (hkey : m.primaryKey = some primaryKey)
    {obj : Object Slot} {k : SqlValue}
    (hk : cellFor o.reflection o.conv σ obj primaryKey = some k) (stock : Stock Slot)
    (f : Option (Object Slot) → Option (Object Slot)) :
    stock.put m.tableName k (f (stock.shelves m.tableName k)) =
      ⟨putAt o σ stock.shelves m obj f, stock.saved⟩ := by
  have hkeyOf : keyOf o.reflection o.conv σ m obj = some k := by
    rw [keyOf, hkey]
    exact hk
  rw [putAt, hkeyOf]
  rfl

theorem effect_threw (shelves : Shelves Slot) (request : Request Slot) (exit : Exit) :
    effect o σ shelves (request, .threw exit) = shelves := by
  cases request with
  | update m given => cases given <;> rfl
  | remove m given => cases given <;> rfl
  | _ => rfl

theorem Loses.eq_of_saved {before after : Stock Slot} (h : Loses before after)
    (hnone : before.saved = none) : after = before := by
  obtain rfl | ⟨shelves, hsome, -⟩ := h
  · rfl
  · rw [hnone] at hsome
    cases hsome

/-- A call that is not lost does what its answer tells. -/
theorem Acts.effect_eq {request : Request Slot} {answer : Answer Slot} {before after : Stock Slot}
    (h : Acts o σ request answer before after) (hrequest : request.isTransaction = false)
    (hkept : before.saved = none ∨ answer.mayLose = false) :
    after = ⟨effect o σ before.shelves (request, answer), before.saved⟩ := by
  have hloses (hlose : answer.mayLose = true) (h : Loses before after) : after = before :=
    h.eq_of_saved (hkept.resolve_right (by simp [hlose]))
  cases h with
  | saved hkey hwritten hk hfresh => exact putAt_eq hkey hk before fun _ => some _
  | updated hkey hk => exact putAt_eq hkey hk before (Option.map fun _ => _)
  | removed hkey hk => exact putAt_eq hkey hk before fun _ => none
  | found => rfl
  | missed hkey hmissing hlost => exact hloses rfl hlost
  | threw hlost =>
    rw [hloses rfl hlost, effect_threw]
  | started => cases hrequest
  | committed => cases hrequest
  | rolledBack => cases hrequest
  | refused => cases hrequest

/-- A read shows what is on the shelf of its key. -/
theorem Acts.shows {m : TOrmModel} {id : TOrm.Id} {found : Option (Object Slot)}
    {before after : Stock Slot} (h : Acts o σ (.findById m id) (.found found) before after)
    {primaryKey : TOrmField} (hkey : m.primaryKey = some primaryKey) :
    Option.Rel (Shows o m) (before.shelves m.tableName (idKey o.conv σ primaryKey id)) found := by
  cases h with
  | found hkey' hobj hshows =>
    rw [hkey] at hkey'
    obtain rfl := Option.some.inj hkey'
    rw [hobj]
    exact .some hshows
  | missed hkey' hmissing hloses =>
    rw [hkey] at hkey'
    obtain rfl := Option.some.inj hkey'
    rw [hmissing]
    exact .none

theorem Session.effects {calls : List (Request Slot × Answer Slot)} {before after : Stock Slot}
    (h : Session o σ calls before after) (hcalls : ∀ call ∈ calls, call.1.isTransaction = false)
    (hnone : before.saved = none) : after = ⟨calls.foldl (effect o σ) before.shelves, none⟩ := by
  induction h with
  | nil => rw [List.foldl_nil, ← hnone]
  | cons hacts hrest ih =>
    obtain ⟨hcall, hcalls⟩ := List.forall_mem_cons.mp hcalls
    have hafter := hacts.effect_eq hcall (.inl hnone)
    rw [hnone] at hafter
    rw [ih hcalls (by rw [hafter]), hafter]
    rfl

theorem Session.split {done calls : List (Request Slot × Answer Slot)} {before after : Stock Slot}
    (h : Session o σ (done ++ calls) before after) :
    ∃ stock, Session o σ done before stock ∧ Session o σ calls stock after := by
  induction done generalizing before with
  | nil => exact ⟨before, .nil, h⟩
  | cons call done ih =>
    cases h with
    | cons hacts hrest =>
      obtain ⟨stock, hdone, hcalls⟩ := ih hrest
      exact ⟨stock, .cons hacts hdone, hcalls⟩

end

section

variable {Slot : Type} {o : TOrm TDBSQLite TSQLiteResultSet Slot} {e : Engine} {σ : Storage}
  {catalog : Catalog} {db : Database e σ.store catalog} {models : List TOrmModel}
  {stock : Stock Slot}

end

/-! ### A database with one table -/

def idField : TField := ⟨"id".toList, .longTypeId, [("pk", ['1']), ("auto", ['1'])]⟩

def accountModel : TOrmModel :=
  ⟨accountType, "account".toList, accountType.enumFields.map (buildField .lowerCase), [],
    some (buildField .lowerCase idField)⟩

theorem accountModel_built :
    buildModel (none : Option (TOrmRegistry fun _ => 0)) .lowerCase accountType =
      .ok (accountModel, none) := rfl

def accountCatalog : Catalog := fun table =>
  if table = "account".toList then some (schemaOf accountModel (buildField .lowerCase idField))
  else none

def bank : TOrm TDBSQLite TSQLiteResultSet Cell where
  driver := driver (replaying texts.store accountCatalog) .integers
  lastInsertedId := lastInsertedId (replayed texts.store accountCatalog)
  rowsAffected _ := -1
  nativeErrorMessage _ := []
  dialect := .sqlite
  reflection := typedReflection
  conv := .integers
  objects := addresses false
  sameName a b := a = b
  getModelForName _ := none

theorem account_contains : ∀ fld ∈ accountModel.fields,
    Contains typedReflection fld (account fld.typeField) := by
  intro fld hfld
  fin_cases hfld
  · exact ⟨3, (by decide : InRange .longTypeId 3), rfl⟩
  · exact ⟨18446744073709551615, (by decide : InRange .ulongTypeId 18446744073709551615), rfl⟩
  · exact ⟨3, (by decide : InRange .byteTypeId 3), rfl⟩

theorem account_suits : Suits accountCatalog accountModel (buildField .lowerCase idField) where
  built := ⟨.lowerCase, accountType, _, buildNewModel_built
    (show buildNewModel (fun _ => 0) .lowerCase accountType = .ok accountModel from rfl)⟩
  exact := by decide
  primaryKey_eq := rfl
  columns_nodup := by decide
  schema_eq := rfl
  auto_long _ := rfl

theorem account_shelving : Shelving [accountModel] accountCatalog where
  suits m hm := by
    obtain rfl := List.mem_singleton.mp hm
    exact ⟨_, account_suits⟩
  apart m hm m' hm' _ := by
    rw [List.mem_singleton.mp hm, List.mem_singleton.mp hm']

theorem empty_keeps : Keeps bank texts [accountModel]
    (contentAt (replayed texts.store accountCatalog) database) ⟨fun _ _ => none, none⟩ where
  tables _ _ _ _ := .nil
  saved := .none

/-- An account is saved in a transaction, and read after it. -/
def banking : List (Request Cell) :=
  [.transaction .start [], .save accountModel (some account), .transaction .commit [],
    .findById accountModel (.long 1)]

theorem banking_fits : ∀ request ∈ banking, Fits bank texts [accountModel] request := by
  intro request hrequest
  fin_cases hrequest
  · trivial
  · refine ⟨List.mem_singleton_self _, fun obj hobj fld hfld => ?_⟩
    obtain rfl := Option.some.inj hobj
    exact account_contains fld (List.mem_of_mem_filter hfld)
  · trivial
  · refine ⟨List.mem_singleton_self _, fun fld hfld => ?_⟩
    obtain rfl := Option.some.inj hfld
    trivial

def Answer.isFound {Slot : Type} : Answer Slot → Bool
  | .found (some _) => true
  | _ => false

def reading : List (Request Cell) :=
  [.save accountModel (some account), .findById accountModel (.long 1)]

theorem reading_fits : ∀ request ∈ reading, Fits bank texts [accountModel] request := by
  intro request hrequest
  apply banking_fits
  fin_cases hrequest
  · exact .tail _ (.head _)
  · exact .tail _ (.tail _ (.tail _ (.head _)))

end DatabaseMod.OrmSessions
