import DatabaseMod.OrmSessions

/-!
# Blocks with a transaction

A block starts a transaction, writes and commits. It is left at the first exception, and its
transaction is closed however it is left. All of its writes are done, or none is.
-/

namespace DatabaseMod.OrmTransactionBlocks
open SqlTokens (Text)
open CoreValues hiding Content
open KeyedRecords SqlEngine SqlCommands SqlDatabase SqliteDriver SqliteConnection
open SqliteTransactionOutcomes
open OrmModel OrmStatements OrmAlignment OrmBinding OrmOperations OrmSqliteRoundTrip
open OrmSqliteQueries OrmStoredRecords OrmKeyedStore OrmSessions
open OrmTransaction (TOrmTransaction inTransaction Sound)
open OrmTransaction.TOrmTransaction

section

variable {Slot : Type} (o : TOrm TDBSQLite TSQLiteResultSet Slot) (e : Engine)
  (sets : World TDBSQLite → List TSQLiteResultSet)

/-- The transaction methods of a connection on which these result sets are in each state. -/
def transactions : OrmTransaction.Driver (World TDBSQLite) where
  hasTransactionSupport := true
  startTransaction s :=
    let r := Store.startTransaction e o.conv ⟨s.db, sets s, []⟩
    (r.1, { s with db := r.2.conn })
  commit s :=
    let r := Store.commit e o.conv ⟨s.db, sets s, []⟩
    (r.1, { s with db := r.2.conn })
  rollback s :=
    let r := Store.rollback e o.conv ⟨s.db, sets s, []⟩
    (r.1, { s with db := r.2.conn })

def isWrite : Request Slot → Bool
  | .save _ _ | .update _ _ | .remove _ _ => true
  | _ => false

def isThrown : Answer Slot → Bool
  | .threw _ => true
  | _ => false

/-- The calls up to the first one that throws. -/
def performUntil (s : World TDBSQLite) : List (Request Slot) → List (Answer Slot) × World TDBSQLite
  | [] => ([], s)
  | request :: requests =>
    let r := perform o e s request
    if isThrown r.1 then ([r.1], r.2)
    else
      let rest := performUntil r.2 requests
      (r.1 :: rest.1, rest.2)

/-- How a block was left: whether without an exception, with the answers that its writes had and
the transaction that it made. -/
structure Left (Slot : Type) where
  ok : Bool
  answers : List (Answer Slot)
  transaction : Option (TOrmTransaction (World TDBSQLite))
  world : World TDBSQLite

def block (isStrict : Bool) (requests : List (Request Slot)) (s : World TDBSQLite) : Left Slot :=
  let d := transactions o e sets
  match TOrmTransaction.new d s isStrict with
  | .error _ => ⟨false, [], none, (d.startTransaction s).2⟩
  | .ok t =>
    let r := performUntil o e t.db requests
    let t := { t with db := r.2 }
    if r.1.any isThrown then
      let closed := (t.close d).2
      ⟨false, r.1, some closed, closed.db⟩
    else
      let committed := t.commit d
      let closed := committed.2.close d
      ⟨committed.1.isOk && closed.1.isOk, r.1, some closed.2, closed.2.db⟩

end

section

variable {Slot : Type} {o : TOrm TDBSQLite TSQLiteResultSet Slot} {e : Engine} {σ : Storage}
  {catalog : Catalog} {db : Database e σ.store catalog} {models : List TOrmModel}
  {sets : World TDBSQLite → List TSQLiteResultSet} {stock : Stock Slot}

/-- A rollback would return to these shelves, or it has. -/
def Pending (shelves : Shelves Slot) (stock : Stock Slot) : Prop :=
  stock.saved = some shelves ∨ stock = ⟨shelves, none⟩

theorem pending_of_loses {shelves : Shelves Slot} {before after : Stock Slot}
    (h : Loses before after) (hpending : Pending shelves before) : Pending shelves after := by
  obtain rfl | ⟨saved, hsaved, rfl⟩ := h
  · exact hpending
  · obtain hsome | rfl := hpending
    · rw [hsaved] at hsome
      obtain rfl := Option.some.inj hsome
      exact .inr rfl
    · cases hsaved

/-- Writes without an exception do what they are to do, and an exception may lose the
transaction. -/
theorem performUntil_acts (hr : Faithful o.reflection) (hconv : ReadsDecimals o.conv)
    (hrowid : o.lastInsertedId = lastInsertedId db) (hmodels : Shelving models catalog)
    {requests : List (Request Slot)} (hfits : ∀ request ∈ requests, Fits o σ models request)
    (hwrites : ∀ request ∈ requests, isWrite request = true) {shelves : Shelves Slot}
    {s : World TDBSQLite} (h : Keeps o σ models (contentAt db s) stock)
    (hsaved : stock.saved = some shelves) :
    let r := performUntil o e s requests
    if r.1.any isThrown then
      ∃ stock', Keeps o σ models (contentAt db r.2) stock' ∧ Pending shelves stock'
    else r.1.length = requests.length ∧ Keeps o σ models (contentAt db r.2)
      ⟨(requests.zip r.1).foldl (effect o σ) stock.shelves, some shelves⟩ := by
  induction requests generalizing s stock with
  | nil =>
    refine ⟨rfl, ?_⟩
    rw [← hsaved]
    exact h
  | cons request requests ih =>
    obtain ⟨hfit, hrest⟩ := List.forall_mem_cons.mp hfits
    obtain ⟨hwrite, hwrites⟩ := List.forall_mem_cons.mp hwrites
    obtain ⟨stock', hacts, hkeeps⟩ := perform_acts hr hconv hrowid hmodels hfit h
    intro r
    have hstep : r = performUntil o e s (request :: requests) := rfl
    unfold performUntil at hstep
    dsimp only at hstep
    by_cases hthrown : isThrown (perform o e s request).1 = true
    · rw [if_pos hthrown] at hstep
      rw [hstep, if_pos (by simpa using hthrown)]
      refine ⟨stock', hkeeps, ?_⟩
      generalize (perform o e s request).1 = answer at hacts hthrown
      cases hacts with
      | threw hloses => exact pending_of_loses hloses (.inl hsaved)
      | _ => cases hthrown
    · have hkept : (perform o e s request).1.mayLose = false := by
        generalize (perform o e s request).1 = answer at hacts hthrown
        cases hacts with
        | threw hloses => exact absurd rfl hthrown
        | missed hkey hmissing hloses => cases hwrite
        | _ => rfl
      have hrequest : request.isTransaction = false := by
        cases request with
        | transaction call sets => cases hwrite
        | _ => rfl
      have hafter := hacts.effect_eq hrequest (.inr hkept)
      rw [hafter, hsaved] at hkeeps
      rw [if_neg hthrown] at hstep
      have hrun := ih hrest hwrites hkeeps rfl
      rw [hstep]
      dsimp only at hrun ⊢
      rw [List.any_cons, Bool.eq_false_of_not_eq_true hthrown, Bool.false_or]
      split_ifs at hrun ⊢ with hany
      · exact hrun
      · refine ⟨by rw [List.length_cons, List.length_cons, hrun.1], hrun.2⟩

/-- A call of the transaction object is one of the connection. -/
theorem answer_eq (call : OrmTransaction.Call) (s : World TDBSQLite) :
    (.reported ((transactions o e sets).answer call s).1,
      ((transactions o e sets).answer call s).2) =
        perform o e s (.transaction call (sets s)) := by
  cases call <;> rfl

theorem answer_acts (sets : World TDBSQLite → List TSQLiteResultSet)
    (call : OrmTransaction.Call) {s : World TDBSQLite}
    (h : Keeps o σ models (contentAt db s) stock) :
    let r := (transactions o e sets).answer call s
    ∃ stock', Acts o σ (.transaction call (sets s)) (.reported r.1) stock stock' ∧
      Keeps o σ models (contentAt db r.2) stock' := by
  have hacts := transaction_acts (e := e) call (sets s) h
  dsimp only at hacts
  rw [← answer_eq] at hacts
  exact hacts

theorem new_error {d : OrmTransaction.Driver (World TDBSQLite)} {s : World TDBSQLite}
    {isStrict : Bool} {exception : TOrmException} (hd : d.hasTransactionSupport = true)
    (h : TOrmTransaction.new d s isStrict = .error exception) : (d.answer .start s).1 = false := by
  rw [TOrmTransaction.new, if_neg (not_not.mpr hd)] at h
  dsimp only at h
  split_ifs at h with hstarted
  simpa [call] using hstarted

theorem new_ok {d : OrmTransaction.Driver (World TDBSQLite)} {s : World TDBSQLite}
    {isStrict : Bool} {t : TOrmTransaction (World TDBSQLite)}
    (h : TOrmTransaction.new d s isStrict = .ok t) :
    (d.answer .start s).1 = true ∧ t.db = (d.answer .start s).2 := by
  unfold TOrmTransaction.new at h
  dsimp only at h
  split_ifs at h with hsupport hstarted
  obtain rfl := Except.ok.inj h
  exact ⟨by simpa [call] using hstarted, rfl⟩

theorem close_of_completed {d : OrmTransaction.Driver (World TDBSQLite)}
    {t : TOrmTransaction (World TDBSQLite)} (h : t.completed = true) : t.close d = (.ok (), t) :=
  if_pos h

/-- A closing returns to the shelves, or its rollback failed. -/
theorem close_pending (sets : World TDBSQLite → List TSQLiteResultSet)
    {t : TOrmTransaction (World TDBSQLite)} (hsound : Sound t)
    (hcompleted : t.completed = false) {shelves : Shelves Slot}
    (h : Keeps o σ models (contentAt db t.db) stock) (hpending : Pending shelves stock) :
    let closed := (t.close (transactions o e sets)).2
    ∃ stock', Keeps o σ models (contentAt db closed.db) stock' ∧
      (stock' = ⟨shelves, none⟩ ∨ stock'.saved = some shelves ∧ inTransaction closed.calls = true) := by
  set d := transactions o e sets with hd
  have hdb : (t.close d).2.db = (d.answer .rollback t.db).2 := by
    rw [TOrmTransaction.close, if_neg (by simp [hcompleted])]
    dsimp only
    split_ifs <;> rfl
  have hcalls : (t.close d).2.calls = t.calls ++ [(.rollback, (d.answer .rollback t.db).1)] := by
    rw [TOrmTransaction.close, if_neg (by simp [hcompleted])]
    dsimp only
    split_ifs <;> rfl
  obtain ⟨stock', hacts, hkeeps⟩ := answer_acts (o := o) (e := e) sets .rollback h
  rw [← hd] at hacts hkeeps
  intro closed
  refine ⟨stock', hdb ▸ hkeeps, ?_⟩
  generalize (d.answer .rollback t.db).1 = reported at hacts hcalls
  cases hacts with
  | rolledBack hsome =>
    left
    obtain hsaved | rfl := hpending
    · rw [hsome] at hsaved
      rw [Option.some.inj hsaved]
    · cases hsome
  | refused hloses =>
    obtain hsaved | rfl := pending_of_loses hloses hpending
    · right
      refine ⟨hsaved, ?_⟩
      rw [hcalls, OrmTransaction.inTransaction_append]
      exact hsound.opened hcompleted
    · exact .inl rfl

/-- A commit keeps all of the shelves, or a rollback still returns to those before. -/
theorem commit_pending (sets : World TDBSQLite → List TSQLiteResultSet)
    {t : TOrmTransaction (World TDBSQLite)} (hsound : Sound t)
    (hcompleted : t.completed = false) {shelves : Shelves Slot}
    (h : Keeps o σ models (contentAt db t.db) stock) (hsaved : stock.saved = some shelves) :
    let r := t.commit (transactions o e sets)
    (r.1.isOk = true ∧ Keeps o σ models (contentAt db r.2.db) ⟨stock.shelves, none⟩ ∧
      r.2.completed = true) ∨
    (r.1.isOk = false ∧ ∃ stock', Keeps o σ models (contentAt db r.2.db) stock' ∧
      Pending shelves stock' ∧ r.2.completed = false ∧ Sound r.2) := by
  set d := transactions o e sets with hd
  obtain ⟨stock', hacts, hkeeps⟩ := answer_acts (o := o) (e := e) sets .commit h
  rw [← hd] at hacts hkeeps
  have hsound' : Sound (t.commit d).2 := hsound.apply d .commit
  intro r
  have hr : r = t.commit d := rfl
  rw [TOrmTransaction.commit, if_neg (by simp [hcompleted])] at hr
  dsimp only at hr
  have hreported : (t.call d .commit).1 = (d.answer .commit t.db).1 := rfl
  rw [hreported] at hr
  cases hok : (d.answer .commit t.db).1 with
  | true =>
    rw [hok] at hr hacts
    rw [if_neg (by simp)] at hr
    rw [hr]
    refine .inl ⟨rfl, ?_, rfl⟩
    cases hacts with
    | committed hsome => exact hkeeps
  | false =>
    rw [hok] at hr hacts
    rw [if_pos (by simp)] at hr
    have hsame : Sound r.2 := hsound'
    rw [hr] at hsame ⊢
    refine .inr ⟨rfl, stock', hkeeps, ?_, hcompleted, hsame⟩
    cases hacts with
    | refused hloses => exact pending_of_loses hloses (.inl hsaved)

end

/-- The second account is Null, and the first one is not kept. -/
def interrupted : List (Request Cell) := [.save accountModel (some account), .save accountModel none]

theorem interrupted_fits : ∀ request ∈ interrupted, Fits bank texts [accountModel] request := by
  intro request hrequest
  fin_cases hrequest
  · exact banking_fits _ (.tail _ (.head _))
  · exact ⟨List.mem_singleton_self _, nofun⟩

end DatabaseMod.OrmTransactionBlocks
