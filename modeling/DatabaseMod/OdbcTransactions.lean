import DatabaseMod.OdbcConnection

/-!
# Transactions of an ODBC connection

ODBC has no call that starts a transaction: the driver turns autocommit off, and on again after the
end of the transaction. Ending a transaction is thus two calls, of which the second may fail alone.
The data source is a parameter. What it makes of a call that succeeds is documented; a call that
fails may have left the transaction open, rolled it back or committed it.
-/

namespace DatabaseMod.OdbcTransactions
open OdbcDriver (isSQLError)
open OdbcConnection OdbcConnection.TDBODBC

/-! ### Contents with a transaction -/

section

variable {σ : Type*}

/-- What is kept of a database, and what the transaction that is open has made of it. -/
structure Contents (σ : Type*) where
  durable : σ
  pending : Option σ

def Contents.current (c : Contents σ) : σ := c.pending.getD c.durable

/-- A statement belongs to the transaction that is open, or it is kept at once. -/
def Contents.update (c : Contents σ) (f : σ → σ) : Contents σ :=
  match c.pending with
  | none => ⟨f c.durable, none⟩
  | some content => ⟨c.durable, some (f content)⟩

/-- The end of a transaction; the next one begins with it. -/
def Contents.ended (c : Contents σ) (commit : Bool) : Contents σ :=
  match c.pending with
  | none => c
  | some content =>
    let durable := if commit then content else c.durable
    ⟨durable, some durable⟩

/-- What is left of a transaction that a call has failed on. -/
inductive Left : Contents σ → Contents σ → Prop
  | unchanged (c : Contents σ) : Left c c
  | rolledBack (durable content : σ) : Left ⟨durable, some content⟩ ⟨durable, some durable⟩
  | committed (durable content : σ) : Left ⟨durable, some content⟩ ⟨content, some content⟩

theorem Left.trans {c c' c'' : Contents σ} (h : Left c c') (h' : Left c' c'') : Left c c'' := by
  cases h with
  | unchanged => exact h'
  | rolledBack durable content =>
    cases h' with
    | unchanged => exact .rolledBack durable content
    | rolledBack => exact .rolledBack durable content
    | committed => exact .rolledBack durable content
  | committed durable content =>
    cases h' with
    | unchanged => exact .committed durable content
    | rolledBack => exact .committed durable content
    | committed => exact .committed durable content

theorem ended_left (c : Contents σ) (commit : Bool) : Left c (c.ended commit) := by
  obtain ⟨durable, _ | content⟩ := c
  · exact .unchanged _
  · cases commit with
    | true => exact .committed durable content
    | false => exact .rolledBack durable content

theorem ended_current (c : Contents σ) (commit : Bool) :
    (c.ended commit).current = if commit then c.current else c.durable := by
  obtain ⟨durable, _ | content⟩ := c
  · exact (ite_self durable).symm
  · rfl

inductive Step (σ : Type*)
  | startTransaction
  | commit
  | rollback
  /-- A statement that has succeeded. -/
  | execute (f : σ → σ)

/-- What a step that reports this can make of the contents. -/
inductive Moves : Step σ → Bool → Contents σ → Contents σ → Prop
  | failed (step : Step σ) {c c' : Contents σ} (left : Left c c') : Moves step false c c'
  | started (c : Contents σ) : Moves .startTransaction true c ⟨c.durable, some c.current⟩
  | committed (c : Contents σ) : Moves .commit true c ⟨c.current, none⟩
  | rolledBack (c : Contents σ) : Moves .rollback true c ⟨c.durable, none⟩
  | executed (f : σ → σ) (c : Contents σ) : Moves (.execute f) true c (c.update f)

inductive Runs : List (Step σ × Bool) → Contents σ → Contents σ → Prop
  | nil (c : Contents σ) : Runs [] c c
  | cons {step : Step σ} {reported : Bool} {steps : List (Step σ × Bool)} {c c' c'' : Contents σ}
    (move : Moves step reported c c') (rest : Runs steps c' c'') :
    Runs ((step, reported) :: steps) c c''

/-! ### The data source -/

/-- A data source as a connection sees it, with what calls and statements make of it. -/
structure DataSource (S σ : Type*) where
  contents : S → Contents σ
  after : S → Call → S
  execute : S → (σ → σ) → S

def fails : Call → Bool
  | .setAutocommit _ _ result | .endTransaction _ _ result => isSQLError result
  | _ => false

variable {S : Type*}

/-- What ODBC documents, where no other connection writes and no statement ends a transaction. -/
structure DataSource.Documented (D : DataSource S σ) : Prop where
  autocommitOff : ∀ s handle result, isSQLError result = false →
    D.contents (D.after s (.setAutocommit handle false result)) =
      ⟨(D.contents s).durable, some (D.contents s).current⟩
  /-- Turning autocommit on commits the transaction that is open. -/
  autocommitOn : ∀ s handle result, isSQLError result = false →
    D.contents (D.after s (.setAutocommit handle true result)) = ⟨(D.contents s).current, none⟩
  /-- With autocommit, `SQLEndTran` has no effect. -/
  ended : ∀ s handle commit result, isSQLError result = false →
    D.contents (D.after s (.endTransaction handle commit result)) = (D.contents s).ended commit
  /-- The transaction may be open still, rolled back (states 40001, 40002 and 25S03), or of
  unknown outcome (25S01 and 08007). -/
  failed : ∀ s c, fails c = true → Left (D.contents s) (D.contents (D.after s c))
  diagnosed : ∀ s handle, D.contents (D.after s (.connError handle)) = D.contents s
  executed : ∀ s f, D.contents (D.execute s f) = (D.contents s).update f

/-- A data source that calls leave as it is when they fail. -/
def keeping : DataSource (Contents σ) σ where
  contents c := c
  after c call :=
    if fails call then c
    else match call with
      | .setAutocommit _ true _ => ⟨c.current, none⟩
      | .setAutocommit _ false _ => ⟨c.durable, some c.current⟩
      | .endTransaction _ commit _ => c.ended commit
      | _ => c
  execute c f := c.update f

theorem keeping_documented : (keeping : DataSource (Contents σ) σ).Documented where
  autocommitOff c handle result h := by simp [keeping, fails, h]
  autocommitOn c handle result h := by simp [keeping, fails, h]
  ended c handle commit result h := by simp [keeping, fails, h]
  failed c call h := by
    change Left c (if fails call then c else _)
    rw [if_pos h]
    exact .unchanged c
  diagnosed c handle := rfl
  executed c f := rfl

/-! ### Commands -/

structure World (S : Type*) where
  conn : TDBODBC
  source : S

variable (odbc : Odbc) (D : DataSource S σ)

/-- A method of the connection, with what its calls make of the data source. -/
def World.through (w : World S) (method : TDBODBC → Bool × TDBODBC) : Bool × World S :=
  let r := method w.conn
  (r.1, ⟨r.2, (r.2.log.drop w.conn.log.length).foldl D.after w.source⟩)

def Step.perform (w : World S) : Step σ → Bool × World S
  | .startTransaction => w.through D (TDBODBC.startTransaction odbc)
  | .commit => w.through D (TDBODBC.commit odbc)
  | .rollback => w.through D (TDBODBC.rollback odbc)
  | .execute f => (true, { w with source := D.execute w.source f })

/-- The steps of a run with what they report. -/
def perform (w : World S) : List (Step σ) → List (Step σ × Bool) × World S
  | [] => ([], w)
  | step :: steps =>
    let r := step.perform odbc D w
    let rest := perform r.2 steps
    ((step, r.1) :: rest.1, rest.2)

section

variable (conn : TDBODBC)

theorem toggleTransaction_log (on : Bool) (error : String) :
    ∃ result, (conn.toggleTransaction odbc on error).1 = !isSQLError result ∧
      (conn.toggleTransaction odbc on error).2.log =
        conn.log ++ .setAutocommit conn.handle on result ::
          if isSQLError result then [.connError conn.handle] else [] := by
  refine ⟨odbc.result conn.log, ?_⟩
  unfold toggleTransaction
  dsimp only
  split_ifs with hfailed
  · exact ⟨by rw [hfailed]; rfl, List.append_assoc ..⟩
  · exact ⟨by rw [Bool.eq_false_of_not_eq_true hfailed]; rfl, rfl⟩

/-- The end of a transaction is not reported if either of its two calls fails. -/
theorem endTransaction_log (commit : Bool) (error : String) :
    ((conn.endTransaction odbc commit error).1 = false ∧
      (conn.endTransaction odbc commit error).2.log = conn.log) ∨
    ∃ result, (isSQLError result = true ∧ (conn.endTransaction odbc commit error).1 = false ∧
        (conn.endTransaction odbc commit error).2.log = conn.log ++
          [.endTransaction conn.handle commit result, .connError conn.handle]) ∨
      isSQLError result = false ∧ ∃ toggled,
        (conn.endTransaction odbc commit error).1 = !isSQLError toggled ∧
        (conn.endTransaction odbc commit error).2.log = conn.log ++
          .endTransaction conn.handle commit result ::
            .setAutocommit conn.handle true toggled ::
              if isSQLError toggled then [.connError conn.handle] else [] := by
  unfold endTransaction
  split_ifs with hopen
  · refine .inr ⟨odbc.result conn.log, ?_⟩
    dsimp only
    split_ifs with hfailed
    · exact .inl ⟨hfailed, rfl, List.append_assoc ..⟩
    · obtain ⟨toggled, hreport, hlog⟩ := toggleTransaction_log odbc
        (conn.call (.endTransaction conn.handle commit (odbc.result conn.log))) true
        "Error ending transaction"
      refine .inr ⟨Bool.eq_false_of_not_eq_true hfailed, toggled, hreport, ?_⟩
      rw [hlog]
      exact List.append_assoc ..
  · exact .inl ⟨rfl, rfl⟩

end

variable {odbc D}

theorem through_source {w : World S} {method : TDBODBC → Bool × TDBODBC} {calls : List Call}
    (h : (method w.conn).2.log = w.conn.log ++ calls) :
    (w.through D method).2.source = calls.foldl D.after w.source := by
  change ((method w.conn).2.log.drop w.conn.log.length).foldl D.after w.source = _
  rw [h, List.drop_left]

/-- What is left when a call fails, and the driver asks for the reason. -/
theorem DataSource.Documented.diagnosed_left (hD : D.Documented) {s : S} {c : Call} (hc : fails c = true)
    (handle : Option ℕ) :
    Left (D.contents s) (D.contents ([c, .connError handle].foldl D.after s)) := by
  change Left (D.contents s) (D.contents (D.after (D.after s c) (.connError handle)))
  rw [hD.diagnosed]
  exact hD.failed s c hc

theorem start_moves (hD : D.Documented) (w : World S) :
    Moves .startTransaction (Step.startTransaction.perform odbc D w).1 (D.contents w.source)
      (D.contents (Step.startTransaction.perform odbc D w).2.source) := by
  change Moves .startTransaction (w.conn.startTransaction odbc).1 (D.contents w.source)
    (D.contents (w.through D (TDBODBC.startTransaction odbc)).2.source)
  by_cases hopen : w.conn.isOpen = true
  · obtain ⟨result, hreport, hlog⟩ := toggleTransaction_log odbc w.conn false
      "Error starting transaction"
    have hstart : w.conn.startTransaction odbc =
        w.conn.toggleTransaction odbc false "Error starting transaction" := if_pos hopen
    rw [← hstart] at hreport hlog
    rw [hreport, through_source hlog]
    cases hresult : isSQLError result with
    | true => exact .failed _ (hD.diagnosed_left (c := .setAutocommit _ false result) hresult _)
    | false =>
      have hoff := hD.autocommitOff w.source w.conn.handle result hresult
      rw [if_neg Bool.false_ne_true, List.foldl_cons, List.foldl_nil, hoff]
      exact .started _
  · have hstart : w.conn.startTransaction odbc = (false, w.conn) := if_neg hopen
    have hlog : (w.conn.startTransaction odbc).2.log = w.conn.log ++ [] := by
      rw [hstart, List.append_nil]
    rw [through_source hlog, hstart]
    exact .failed _ (.unchanged _)

/-- The step that ends a transaction. -/
def endingStep (commit : Bool) : Step σ := if commit then .commit else .rollback

/-- The end is reported with autocommit on again. -/
theorem ending_moves (c : Contents σ) (commit : Bool) :
    Moves (endingStep commit) true c ⟨(c.ended commit).current, none⟩ := by
  rw [ended_current]
  cases commit with
  | true => exact .committed c
  | false => exact .rolledBack c

theorem end_moves (hD : D.Documented) (w : World S) (commit : Bool) (error : String) :
    Moves (endingStep commit) (w.through D (TDBODBC.endTransaction odbc · commit error)).1
      (D.contents w.source)
      (D.contents (w.through D (TDBODBC.endTransaction odbc · commit error)).2.source) := by
  have hreported : (w.through D (TDBODBC.endTransaction odbc · commit error)).1 =
      (w.conn.endTransaction odbc commit error).1 := rfl
  rw [hreported]
  obtain ⟨hreport, hlog⟩ | ⟨result, ⟨hresult, hreport, hlog⟩ | ⟨hresult, toggled, hreport, hlog⟩⟩ :=
    endTransaction_log odbc w.conn commit error
  · rw [through_source (hlog.trans (List.append_nil _).symm), hreport]
    exact .failed _ (.unchanged _)
  · rw [through_source hlog, hreport]
    exact .failed _ (hD.diagnosed_left (c := .endTransaction _ commit result) hresult _)
  · have hended := hD.ended w.source w.conn.handle commit result hresult
    rw [through_source hlog, hreport, List.foldl_cons]
    cases htoggled : isSQLError toggled with
    | true =>
      -- the end is made, and autocommit stays as it was
      have hleft := hD.diagnosed_left
        (s := D.after w.source (.endTransaction w.conn.handle commit result))
        (c := .setAutocommit w.conn.handle true toggled) htoggled w.conn.handle
      rw [hended] at hleft
      exact .failed _ ((ended_left _ commit).trans hleft)
    | false =>
      have hon := hD.autocommitOn (D.after w.source (.endTransaction w.conn.handle commit result))
        w.conn.handle toggled htoggled
      rw [if_neg Bool.false_ne_true, List.foldl_cons, List.foldl_nil, hon, hended]
      exact ending_moves _ commit

theorem Step.moves (hD : D.Documented) (step : Step σ) (w : World S) :
    Moves step (step.perform odbc D w).1 (D.contents w.source)
      (D.contents (step.perform odbc D w).2.source) := by
  cases step with
  | startTransaction => exact start_moves hD w
  | commit => exact end_moves hD w true "Error committing transaction"
  | rollback => exact end_moves hD w false "Error rolling back transaction"
  | execute f =>
    change Moves (.execute f) true (D.contents w.source) (D.contents (D.execute w.source f))
    rw [hD.executed]
    exact .executed f _

/-- Whatever calls fail in a run, the data source has the contents that the reports of the commands
allow. -/
theorem perform_runs (hD : D.Documented) (steps : List (Step σ)) (w : World S) :
    Runs (perform odbc D w steps).1 (D.contents w.source)
      (D.contents (perform odbc D w steps).2.source) := by
  induction steps generalizing w with
  | nil => exact .nil _
  | cons step steps ih => exact .cons (Step.moves hD step w) (ih _)

/-! ### Blocks -/

/-- What statements make of a content, one after the other. -/
def applyAll (fs : List (σ → σ)) (content : σ) : σ := fs.foldl (fun content f => f content) content

/-- A transaction with these statements, and its end. -/
def block (fs : List (σ → σ)) (commit : Bool) : List (Step σ) :=
  .startTransaction :: (fs.map .execute ++ [endingStep commit])

/-- In a transaction, statements leave what is kept. -/
theorem Runs.executes {fs : List (σ → σ)} {reports rest : List (Step σ × Bool)} {c c' : Contents σ}
    {content : σ} (hreports : reports = fs.map (fun f => (Step.execute f, true)) ++ rest)
    (hpending : c.pending = some content) (h : Runs reports c c') :
    Runs rest ⟨c.durable, some (applyAll fs content)⟩ c' := by
  induction fs generalizing c content reports with
  | nil =>
    obtain ⟨durable, pending⟩ := c
    obtain rfl : pending = some content := hpending
    rw [hreports] at h
    exact h
  | cons f fs ih =>
    subst hreports
    cases h with
    | cons move more =>
      cases move with
      | executed =>
        have hupdate : c.update f = ⟨c.durable, some (f content)⟩ := by
          rw [Contents.update, hpending]
        have hrest := ih rfl (congrArg Contents.pending hupdate) more
        rwa [hupdate] at hrest

theorem Left.durable {durable content : σ} {c : Contents σ} (h : Left ⟨durable, some content⟩ c) :
    c.pending.isSome = true ∧ (c.durable = durable ∨ c.durable = content) := by
  cases h with
  | unchanged => exact ⟨rfl, .inl rfl⟩
  | rolledBack => exact ⟨rfl, .inl rfl⟩
  | committed => exact ⟨rfl, .inr rfl⟩

/-- The end of a transaction with this content. -/
theorem Moves.ending {commit reported : Bool} {durable content : σ} {c' : Contents σ}
    (h : Moves (endingStep commit) reported ⟨durable, some content⟩ c') :
    (reported = true → c' = ⟨if commit then content else durable, none⟩) ∧
      (reported = false →
        c'.pending.isSome = true ∧ (c'.durable = durable ∨ c'.durable = content)) := by
  cases commit with
  | true =>
    cases h with
    | failed _ left => exact ⟨nofun, fun _ => left.durable⟩
    | committed => exact ⟨fun _ => rfl, nofun⟩
  | false =>
    cases h with
    | failed _ left => exact ⟨nofun, fun _ => left.durable⟩
    | rolledBack => exact ⟨fun _ => rfl, nofun⟩

theorem perform_executes (fs : List (σ → σ)) (steps : List (Step σ)) (w : World S) :
    ∃ w', (perform odbc D w (fs.map .execute ++ steps)).1 =
        fs.map (fun f => (Step.execute f, true)) ++ (perform odbc D w' steps).1 := by
  induction fs generalizing w with
  | nil => exact ⟨w, rfl⟩
  | cons f fs ih =>
    obtain ⟨w', hreports⟩ := ih { w with source := D.execute w.source f }
    exact ⟨w', congrArg ((Step.execute f, true) :: ·) hreports⟩

/-- What a transaction with these statements leaves, with what its end reports. -/
structure Ends (fs : List (σ → σ)) (commit reported : Bool) (c c' : Contents σ) : Prop where
  /-- An end that is reported has been made, and autocommit is on again. -/
  made : reported = true →
    c' = ⟨if commit then applyAll fs c.durable else c.durable, none⟩
  /-- Otherwise a transaction is still open; what is kept are all of the statements or none. -/
  left : reported = false →
    c'.pending.isSome = true ∧ (c'.durable = c.durable ∨ c'.durable = applyAll fs c.durable)

/-- A transaction that is started on a data source with autocommit keeps all of its statements or
none, whatever its end reports; an end that is reported has done what it was asked for. -/
theorem block_ends (hD : D.Documented) (fs : List (σ → σ)) (commit : Bool) {w : World S}
    (hauto : (D.contents w.source).pending = none)
    (hstarted : (Step.startTransaction.perform odbc D w).1 = true) :
    ∃ reported, (perform odbc D w (block fs commit)).1.getLast? =
        some (endingStep commit, reported) ∧
      Ends fs commit reported (D.contents w.source)
        (D.contents (perform odbc D w (block fs commit)).2.source) := by
  obtain ⟨w', hreports⟩ := @perform_executes σ S odbc D fs [endingStep commit]
    (Step.startTransaction.perform odbc D w).2
  have hruns := @perform_runs σ S odbc D hD (block fs commit) w
  have hall : (perform odbc D w (block fs commit)).1 = (Step.startTransaction, true) ::
      (fs.map (fun f => (Step.execute f, true)) ++
        [(endingStep commit, ((endingStep commit).perform odbc D w').1)]) := by
    have hfirst := congrArg
      ((Step.startTransaction, (Step.startTransaction.perform odbc D w).1) :: ·) hreports
    refine Eq.trans hfirst ?_
    rw [hstarted]
    rfl
  refine ⟨((endingStep commit).perform odbc D w').1, ?_, ?_⟩
  · rw [hall, ← List.cons_append, List.getLast?_concat]
  · rw [hall] at hruns
    have hcurrent : (D.contents w.source).current = (D.contents w.source).durable := by
      rw [Contents.current, hauto]
      rfl
    generalize D.contents w.source = c at hruns hcurrent ⊢
    cases hruns with
    | cons move more =>
      cases move with
      | started =>
        cases more.executes rfl rfl with
        | cons move more =>
          cases more with
          | nil =>
            obtain ⟨hmade, hleft⟩ := move.ending
            rw [hcurrent] at hmade hleft
            exact ⟨hmade, hleft⟩

end

/-! ### A source that stays in its transaction -/

/-- A driver manager that does not turn autocommit on after the end of a transaction. -/
def staying : Odbc where
  result log := if log.getLast?.any (fun c => match c with
    | .endTransaction .. => true
    | _ => false) then -1 else 0
  diagnostic _ := ([], 0)

/-- An open connection to an account. -/
def account : World (Contents ℕ) :=
  ⟨{ TDBODBC.create [] [] 0 [] [] "bank".toList with
      isOpen := true, envHandle := some 0, handle := some 2 }, ⟨10, none⟩⟩

/-- The deposit is kept, though the commit reports that it has failed. -/
example : ((perform staying keeping account (block [(· + 5)] true)).1.map Prod.snd,
    (perform staying keeping account (block [(· + 5)] true)).2.source.durable) =
      ([true, true, false], 15) := by decide +kernel

theorem perform_runs_account :
    Runs (perform staying keeping account [.startTransaction, .execute (· + 5), .commit]).1
      account.source
      (perform staying keeping account [.startTransaction, .execute (· + 5), .commit]).2.source :=
  perform_runs keeping_documented [.startTransaction, .execute (· + 5), .commit] account

theorem block_ends_account :
    ∃ reported, (perform staying keeping account (block [(· + 5)] true)).1.getLast? =
        some (endingStep true, reported) ∧
      Ends [(· + 5)] true reported account.source
        (perform staying keeping account (block [(· + 5)] true)).2.source :=
  block_ends keeping_documented [(· + 5)] true rfl (by decide +kernel)

end DatabaseMod.OdbcTransactions
