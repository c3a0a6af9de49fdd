import DatabaseMod.DriverNulls
import DatabaseMod.OdbcTexts
import DatabaseMod.SqliteCursor

/-!
# The end of the rows

A native fetch returns a row, a row with a warning, the end of the data or a failure, and a
driver makes one truth value of it. What the callers of `nextRow` are told is compared with
what the native fetches of the run reported.
-/

namespace DatabaseMod.FetchOutcomes
open SqlTokens (Text)
open MachineInteger (castInt32)
open CoreResultSet CoreQuery

/-- What a native fetch reports; a failure has a text and a code. -/
inductive Outcome
  | row
  | warning
  | ended
  | failed (text : Text) (value : ℤ)
deriving DecidableEq, Repr

/-- A row was fetched, with or without a warning. -/
def Outcome.isRow : Outcome → Bool
  | .row | .warning => true
  | .ended | .failed _ _ => false

/-- The connection has an error that names this failure. -/
def Reported (conn : TDBConnection) (text : Text) (value : ℤ) : Prop :=
  conn.hasError = true ∧ ∃ error ∈ conn.lastError, error.errorType = .statement ∧
    error.errorValue = value ∧ text <:+: error.error

/-- What a call was told: `latest` is the last report of a native fetch of the run. -/
structure Told (outcome latest : Option Outcome) (answer : Bool) (conn : TDBConnection) :
    Prop where
  row : ∀ o ∈ outcome, o.isRow = true → answer = true
  stopped : answer = false → outcome.or latest = some .ended ∨
    ∃ text value, outcome.or latest = some (.failed text value) ∧ Reported conn text value

theorem told_row {o : Outcome} (last : Option Outcome) (conn : TDBConnection) :
    Told (some o) last true conn := by
  refine ⟨fun _ _ _ => rfl, fun h => ?_⟩
  cases h

theorem told_ended (last : Option Outcome) (conn : TDBConnection) :
    Told (some .ended) last false conn := by
  refine ⟨fun o ho hrow => ?_, fun _ => .inl rfl⟩
  cases ho
  cases hrow

theorem told_failed {text : Text} {value : ℤ} (last : Option Outcome) {conn : TDBConnection}
    (h : Reported conn text value) : Told (some (.failed text value)) last false conn := by
  refine ⟨fun o ho hrow => ?_, fun _ => .inr ⟨text, value, rfl, h⟩⟩
  cases ho
  cases hrow

/-- A call without a native fetch goes by what the run was told before. -/
theorem told_none {last : Option Outcome} {conn : TDBConnection}
    (h : last = some .ended ∨ ∃ text value, last = some (.failed text value) ∧
      Reported conn text value) : Told none last false conn := by
  refine ⟨fun o ho => ?_, fun _ => h⟩
  cases ho

/-! ### Reported errors -/

section

variable {conn : TDBConnection} {error append : Text} {value : ℤ}

theorem infix_text : error <:+: (if append ≠ [] then error ++ " : ".toList ++ append else error) ∧
    append <:+: (if append ≠ [] then error ++ " : ".toList ++ append else error) := by
  by_cases happend : append = []
  · rw [if_neg (not_not.mpr happend), happend]
    exact ⟨List.infix_rfl, List.nil_infix⟩
  · rw [if_pos happend, List.append_assoc]
    exact ⟨(List.prefix_append ..).isInfix,
      (List.suffix_append_of_suffix (List.suffix_append ..)).isInfix⟩

theorem reported_setError (herror : error ≠ []) {text : Text}
    (htext : text = error ∨ text = append) :
    Reported (conn.setError error append .statement value) text value := by
  refine ⟨TDBConnection.hasError_setError conn herror append .statement value, ?_⟩
  generalize hbase :
    (if append ≠ [] then error ++ " : ".toList ++ append else error) = base at *
  have hinfix : text <:+: base := by
    rw [← hbase]
    rcases htext with rfl | rfl
    · exact infix_text.1
    · exact infix_text.2
  cases hlast : conn.lastError with
  | none =>
    refine ⟨.create error append .statement value, ?_, rfl, rfl, ?_⟩
    · rw [TDBConnection.setError, hlast]
      rfl
    · unfold TDatabaseError.create
      dsimp only
      rw [hbase]
      split_ifs
      · simp only [List.append_assoc]
        exact hinfix.trans (List.prefix_append ..).isInfix
      · exact hinfix
  | some e =>
    refine ⟨⟨base, .statement, value⟩, ?_, rfl, rfl, hinfix⟩
    rw [TDBConnection.setError, hlast, ← hbase]
    rfl

end

/-! ### Runs of fetches -/

/-- The native side of a driver: the connection of the core and what the native fetch of a
call to `nextRow` reports, if it makes one. -/
structure Native (C RS : Type) where
  core : C → TDBConnection
  outcome : C × RS → Option Outcome

section

variable {C RS : Type} (D : Driver C RS) (N : Native C RS)

/-- The report of the native fetch of a call. The core asks the result set only while it is
active and not behind its last row. -/
def fetched (q : TDatabaseQuery C RS) : Option Outcome :=
  q.resultSet.bind fun rs =>
    if (D.base rs).isActive ∧ (D.base rs).index ≠ SQL_AfterLastRow then N.outcome (q.conn, rs)
    else none

def latest (last : Option Outcome) (q : TDatabaseQuery C RS) : Option Outcome :=
  (fetched D N q).or last

/-- The calls of a run are told what their native fetches reported. -/
def AllTold (last : Option Outcome) (q : TDatabaseQuery C RS) : ℕ → Prop
  | 0 => True
  | n + 1 => Told (fetched D N q) last (q.nextRow D).1 (N.core (q.nextRow D).2.conn) ∧
      AllTold (latest D N last q) (q.nextRow D).2 n

/-- The native fetches of a run. -/
def EveryFetch (ok : Outcome → Bool) (q : TDatabaseQuery C RS) : ℕ → Prop
  | 0 => True
  | n + 1 => (∀ o ∈ fetched D N q, ok o = true) ∧ EveryFetch ok (q.nextRow D).2 n

variable {D N}

/-- An invariant under which a call is told exactly if its native fetch reports something
that the driver passes on. -/
structure Passes (Inv : Option Outcome → TDatabaseQuery C RS → Prop) (ok : Outcome → Bool) :
    Prop where
  told : ∀ last q, Inv last q →
    (Told (fetched D N q) last (q.nextRow D).1 (N.core (q.nextRow D).2.conn) ↔
      ∀ o ∈ fetched D N q, ok o = true)
  kept : ∀ last q, Inv last q → (∀ o ∈ fetched D N q, ok o = true) →
    Inv (latest D N last q) (q.nextRow D).2

theorem Passes.allTold_iff {Inv : Option Outcome → TDatabaseQuery C RS → Prop}
    {ok : Outcome → Bool} (h : Passes (D := D) (N := N) Inv ok) (n : ℕ) {last : Option Outcome}
    {q : TDatabaseQuery C RS} (hq : Inv last q) :
    AllTold D N last q n ↔ EveryFetch D N ok q n := by
  induction n generalizing last q with
  | zero => exact Iff.rfl
  | succ n ih =>
    rw [AllTold, EveryFetch, h.told last q hq]
    exact and_congr_right fun hok => ih (h.kept last q hq hok)

theorem everyFetch_true (q : TDatabaseQuery C RS) (n : ℕ) :
    EveryFetch D N (fun _ => true) q n := by
  induction n generalizing q with
  | zero => trivial
  | succ n ih => exact ⟨fun _ _ => rfl, ih _⟩

/-- A run that stops without an error has seen the end of the data. -/
theorem Told.ended {outcome last : Option Outcome} {answer : Bool} {conn : TDBConnection}
    (h : Told outcome last answer conn) (hanswer : answer = false)
    (herror : conn.hasError = false) : outcome.or last = some .ended := by
  rcases h.stopped hanswer with hended | ⟨text, value, -, hreported⟩
  · exact hended
  · exact absurd hreported.1 (by simp [herror])

end

/-! ### Executions -/

section

variable {C RS : Type} {D : Driver C RS}

theorem finish_resultSet (r : Bool × C × RS) :
    (D.finish r).1 = r.1 ∧ (D.finish r).2.2 = r.2.2 := by
  unfold Driver.finish
  split_ifs with h
  · exact ⟨h.symm, rfl⟩
  · exact ⟨rfl, rfl⟩

/-- A successful execution is one of the driver, and stores no error. -/
theorem execute_true {q q₁ : TDatabaseQuery C RS} {statement : Text}
    (h : q.execute D statement = some (true, q₁)) :
    ∃ r : Bool × C × RS, r.1 = true ∧ q₁.resultSet = some r.2.2 ∧
      q₁.conn = D.setConnection r.2.1 (D.connection r.2.1).resetError ∧
      ((∃ rs, q.resultSet = some rs ∧ r = D.execute (q.conn, rs)) ∨
        r = D.executeQuery statement (D.setQuery (SqlTokens.trim statement)
          (D.opened q.conn q.resultSet))) := by
  unfold TDatabaseQuery.execute at h
  split at h
  next hne =>
    simp only [Option.some.injEq, Prod.mk.injEq] at h
    obtain ⟨hok, rfl⟩ := h
    unfold Driver.executeStatement at hok ⊢
    dsimp only at hok ⊢
    split_ifs at hok ⊢ with hblank hopen
    · cases hok
    · refine ⟨_, (finish_resultSet _).1.symm.trans hok, congrArg some (finish_resultSet _).2, ?_,
        .inr rfl⟩
      have hsucceeds := (finish_resultSet _).1.symm.trans hok
      rw [Driver.finish, if_pos hsucceeds]
    · cases hok
  next =>
    split at h
    next rs hrs =>
      simp only [Option.some.injEq, Prod.mk.injEq] at h
      obtain ⟨hok, rfl⟩ := h
      unfold Driver.executePrepared at hok ⊢
      split_ifs at hok ⊢ with hopen
      · refine ⟨_, (finish_resultSet _).1.symm.trans hok, congrArg some (finish_resultSet _).2, ?_,
          .inl ⟨rs, hrs, rfl⟩⟩
        have hsucceeds := (finish_resultSet _).1.symm.trans hok
        rw [Driver.finish, if_pos hsucceeds]
      · cases hok
    next =>
      dsimp only at h
      split_ifs at h
      cases h

theorem fetch_closed {s : C × RS}
    (h : (D.base s.2).isActive = false ∨ (D.base s.2).index = SQL_AfterLastRow) :
    D.fetch s = (false, s) := by
  unfold Driver.fetch
  dsimp only
  rcases h with hactive | hlast
  · rw [if_pos (by simp [hactive])]
  · rw [if_neg (show ¬ (D.base s.2).index = SQL_BeforeFirstRow by rw [hlast]; decide), if_pos hlast,
      ite_self]

/-- The core marks the end where the driver answers that there is no row, unless the cursor
stands before the first one. -/
theorem fetch_cases {s : C × RS} (hactive : (D.base s.2).isActive = true)
    (hindex : (D.base s.2).index ≠ SQL_AfterLastRow)
    (hfirst : (D.base s.2).index = SQL_BeforeFirstRow → D.firstRow s = D.nextRow s) :
    D.fetch s = D.nextRow s ∨ (D.nextRow s).1 = false ∧ D.fetch s = (false, D.reset
      ((D.nextRow s).2.1, D.setBase (D.nextRow s).2.2
        { D.base (D.nextRow s).2.2 with index := SQL_AfterLastRow })) := by
  unfold Driver.fetch
  dsimp only
  rw [if_neg (not_not.mpr hactive), if_neg hindex]
  split_ifs with hbefore hnext
  · exact .inl (hfirst hbefore)
  · exact .inl (Prod.ext hnext.symm rfl)
  · exact .inr ⟨by simpa using hnext, rfl⟩

end

/-! ### The index -/

/-- The tests of the index come out as those of a 32-bit one. -/
def Agrees (index : ℤ) : Prop :=
  (castInt32 index = SQL_BeforeFirstRow ↔ index = SQL_BeforeFirstRow) ∧
    (castInt32 index = SQL_AfterLastRow ↔ index = SQL_AfterLastRow)

theorem agrees_of_lt {index : ℤ} (hge : SQL_AfterLastRow ≤ index) (hlt : index < 2 ^ 32 - 2) :
    Agrees index := by
  unfold Agrees castInt32 SQL_BeforeFirstRow SQL_AfterLastRow at *
  omega

section

variable {C RS : Type} (D : Driver C RS)

/-- The index before each fetch of a run. -/
def EveryIndex (ok : ℤ → Prop) (q : TDatabaseQuery C RS) : ℕ → Prop
  | 0 => True
  | n + 1 => (∀ rs ∈ q.resultSet, ok (D.base rs).index) ∧ EveryIndex ok (q.nextRow D).2 n

/-- The index does not come round within this number of fetches. -/
def Counts (n : ℕ) (q : TDatabaseQuery C RS) : Prop :=
  ∀ rs ∈ q.resultSet, (D.base rs).index + n < 2 ^ 32 - 2

variable {D}

theorem counts_of_index {n : ℕ} {q : TDatabaseQuery C RS} {rs : RS} (hrs : q.resultSet = some rs)
    (h : (D.base rs).index + n < 2 ^ 32 - 2) : Counts D n q := by
  intro rs' hrs'
  rw [hrs] at hrs'
  obtain rfl := Option.some.inj hrs'
  exact h

/-- A driver whose fetches go forward by one row at most. -/
structure Climbs (D : Driver C RS) : Prop where
  setBase : ∀ rs base, (D.base (D.setBase rs base)).index = base.index
  firstRow : ∀ s, (D.base (D.firstRow s).2.2).index = (D.base s.2).index ∨
    (D.base (D.firstRow s).2.2).index = (D.base s.2).index + 1
  nextRow : ∀ s, (D.base (D.nextRow s).2.2).index = (D.base s.2).index ∨
    (D.base (D.nextRow s).2.2).index = (D.base s.2).index + 1
  reset : ∀ s, (D.base (D.reset s).2).index = (D.base s.2).index ∨
    (D.base (D.reset s).2).index = SQL_BeforeFirstRow

theorem Climbs.fetch (hD : Climbs D) {s : C × RS} {bound : ℤ} (hbound : SQL_BeforeFirstRow ≤ bound)
    (hge : SQL_AfterLastRow ≤ (D.base s.2).index) (hle : (D.base s.2).index ≤ bound) :
    SQL_AfterLastRow ≤ (D.base (D.fetch s).2.2).index ∧
      (D.base (D.fetch s).2.2).index ≤ bound + 1 := by
  have hclosed : SQL_AfterLastRow < SQL_BeforeFirstRow := by decide
  by_cases hopen : (D.base s.2).isActive = true ∧ (D.base s.2).index ≠ SQL_AfterLastRow
  swap
  · have hshut : (D.base s.2).isActive = false ∨ (D.base s.2).index = SQL_AfterLastRow := by
      by_cases hactive : (D.base s.2).isActive = true
      · exact .inr (not_not.mp fun hindex => hopen ⟨hactive, hindex⟩)
      · exact .inl (by simpa using hactive)
    rw [fetch_closed hshut]
    exact ⟨hge, hle.trans (by omega)⟩
  unfold Driver.fetch
  dsimp only
  rw [if_neg (not_not.mpr hopen.1)]
  by_cases hfirst : (D.base s.2).index = SQL_BeforeFirstRow
  · have hstep := hD.firstRow s
    rw [if_pos hfirst]
    omega
  rw [if_neg hfirst, if_neg hopen.2]
  by_cases hrow : (D.nextRow s).1 = true
  · have hstep := hD.nextRow s
    rw [if_pos hrow]
    dsimp only
    omega
  · have hreset := hD.reset ((D.nextRow s).2.1,
      D.setBase (D.nextRow s).2.2 { D.base (D.nextRow s).2.2 with index := SQL_AfterLastRow })
    rw [hD.setBase] at hreset
    rw [if_neg hrow]
    dsimp only at hreset ⊢
    omega

/-- Within its range a 32-bit index and an unbounded one come out alike. -/
theorem Climbs.agrees (hD : Climbs D) (n : ℕ) {q : TDatabaseQuery C RS}
    (hge : ∀ rs ∈ q.resultSet, SQL_BeforeFirstRow ≤ (D.base rs).index) (hcounts : Counts D n q) :
    EveryIndex D Agrees q n := by
  -- the run may close the cursor, so the bound does not follow the index down
  suffices h : ∀ (q : TDatabaseQuery C RS) (bound : ℤ), SQL_BeforeFirstRow ≤ bound →
      bound + n < 2 ^ 32 - 2 → (∀ rs ∈ q.resultSet, SQL_AfterLastRow ≤ (D.base rs).index ∧
        (D.base rs).index ≤ bound) → EveryIndex D Agrees q n by
    obtain ⟨conn, resultSet⟩ := q
    cases resultSet with
    | none =>
      clear h hge hcounts
      induction n with
      | zero => trivial
      | succ n ih => exact ⟨fun rs hrs => absurd hrs (Option.not_mem_none rs), ih⟩
    | some rs =>
      have hfirst := hge rs rfl
      refine h _ (D.base rs).index hfirst (hcounts rs rfl) fun rs' hrs' => ?_
      obtain rfl := Option.some.inj hrs'
      exact ⟨(show SQL_AfterLastRow ≤ SQL_BeforeFirstRow by decide).trans hfirst, le_rfl⟩
  clear hge hcounts q
  induction n with
  | zero => exact fun _ _ _ _ _ => trivial
  | succ n ih =>
    intro q bound hbound hlt hq
    push_cast at hlt
    refine ⟨fun rs hrs => agrees_of_lt (hq rs hrs).1 ((hq rs hrs).2.trans_lt (by omega)),
      ih (q.nextRow D).2 (bound + 1) (by omega) (by omega) fun rs hrs => ?_⟩
    obtain ⟨conn, resultSet⟩ := q
    cases resultSet with
    | none => cases hrs
    | some rs₀ =>
      obtain rfl := Option.some.inj hrs
      exact hD.fetch hbound (hq rs₀ rfl).1 (hq rs₀ rfl).2

end

/-! ### SQLite -/

section

open SqlEngine SqliteDriver SqliteCursor TSQLiteResultSet

variable (e : Engine) (conv : CoreValues.Conversions)

/-- A row that execution fetched ahead is handed out without a native call. -/
def sqliteOutcome (s : SqliteDriver.Session) : Option Outcome :=
  if s.2.fakeFirstRowFetch then some .row
  else
    let r := stepStatement e s.1.log s.2.stmtHandle
    match r.2.2 with
    | .row _ => some .row
    | .done => some .ended
    | .failed code =>
      let after := (resetHandle e ({ s.1 with log := r.1 }, { s.2 with stmtHandle := r.2.1 })).1.1
      some (.failed (message e after) code.code)

def sqliteNative : Native TDBSQLite TSQLiteResultSet := ⟨(·.toTDBConnection), sqliteOutcome e⟩

/-- A failure whose text is empty leaves nothing to see in an error object that is there. -/
def hasText : Outcome → Bool
  | .failed [] _ => false
  | .row | .warning | .ended | .failed (_ :: _) _ => true

theorem hasText_failed {text : Text} {value : ℤ} :
    hasText (.failed text value) = true ↔ text ≠ [] := by
  cases text <;> simp [hasText]

theorem sqlite_nextRow_told {s : SqliteDriver.Session} (herror : s.1.lastError ≠ none)
    (last : Option Outcome) :
    Told (sqliteOutcome e s) last (nextRow e s).1 (nextRow e s).2.1.toTDBConnection ↔
      ∀ o ∈ sqliteOutcome e s, hasText o = true := by
  have hbegin : (beginFetch s.2).stmtHandle = s.2.stmtHandle := by
    unfold beginFetch
    split_ifs <;> rfl
  unfold sqliteOutcome nextRow
  by_cases hfake : s.2.fakeFirstRowFetch = true
  · rw [if_pos hfake, if_pos hfake]
    exact iff_of_true (told_row last _) (by simp [hasText])
  · rw [if_neg hfake, if_neg hfake]
    dsimp only
    rw [hbegin]
    cases (stepStatement e s.1.log s.2.stmtHandle).2.2 with
    | row row => exact iff_of_true (told_row last _) (by simp [hasText])
    | done => exact iff_of_true (told_ended last _) (by simp [hasText])
    | failed code =>
      simp only [Option.mem_some_iff, forall_eq', hasText_failed]
      constructor
      · intro htold
        obtain hended | ⟨text, value, heq, hset, -⟩ := htold.stopped rfl
        · cases hended
        · cases heq
          exact ((TDBConnection.hasError_setError_iff _ code.failed.1).mp hset).resolve_right herror
      · intro htext
        exact told_failed last (reported_setError htext (.inl rfl))

theorem setError_lastError (conn : TDBConnection) (error append : Text) (eType : ErrorType)
    (errorValue : ℤ) : (conn.setError error append eType errorValue).lastError ≠ none := by
  unfold TDBConnection.setError
  cases conn.lastError <;> exact Option.some_ne_none _

theorem nextRow_lastError {s : SqliteDriver.Session} (herror : s.1.lastError ≠ none) :
    (nextRow e s).2.1.lastError ≠ none := by
  unfold nextRow
  split_ifs
  · exact herror
  · dsimp only
    cases (stepStatement e s.1.log (beginFetch s.2).stmtHandle).2.2 with
    | row row => exact herror
    | done => exact herror
    | failed code => exact setError_lastError _ _ _ _ _

/-- The core hands the answer on, and resetting the cursor stores no error. -/
theorem sqlite_fetch {s : SqliteDriver.Session} (h : Open s.2) :
    ((driver e conv).fetch s).1 = (nextRow e s).1 ∧
      ((driver e conv).fetch s).2.1.toTDBConnection = (nextRow e s).2.1.toTDBConnection := by
  rw [fetch_eq e conv h.toReady h.isActive_eq]
  by_cases hkeep : s.2.index = SQL_BeforeFirstRow ∨ (nextRow e s).1 = true
  · rw [if_pos hkeep]
    exact ⟨rfl, rfl⟩
  · have hfalse : (nextRow e s).1 = false := by simpa using (not_or.mp hkeep).2
    rw [if_neg hkeep, hfalse]
    exact ⟨rfl, rfl⟩

/-- An execution has opened the result set and has made an error object. -/
def SqliteOpen (q : Query) : Prop :=
  q.conn.lastError ≠ none ∧ ∃ rs, q.resultSet = some rs ∧ Open rs

theorem sqlite_fetched {q : Query} {rs : TSQLiteResultSet} (hrs : q.resultSet = some rs)
    (h : Open rs) : fetched (driver e conv) (sqliteNative e) q = sqliteOutcome e (q.conn, rs) := by
  have hlast : rs.index ≠ SQL_AfterLastRow := by
    intro hindex
    have hge := h.index_ge
    rw [hindex] at hge
    exact absurd hge (by decide)
  rw [fetched, hrs]
  exact if_pos ⟨h.isActive_eq, hlast⟩

theorem sqlite_passes : Passes (D := driver e conv) (N := sqliteNative e)
    (fun _ => SqliteOpen) hasText where
  told last q hq := by
    obtain ⟨herror, rs, hrs, hopen⟩ := hq
    have hnext : q.nextRow (driver e conv) = (((driver e conv).fetch (q.conn, rs)).1,
        ⟨((driver e conv).fetch (q.conn, rs)).2.1,
          some ((driver e conv).fetch (q.conn, rs)).2.2⟩) := by
      rw [TDatabaseQuery.nextRow, hrs]
    have hfetch := sqlite_fetch e conv (s := (q.conn, rs)) hopen
    rw [sqlite_fetched e conv hrs hopen, hnext]
    change Told _ last ((driver e conv).fetch (q.conn, rs)).1
      ((driver e conv).fetch (q.conn, rs)).2.1.toTDBConnection ↔ _
    rw [hfetch.1, hfetch.2]
    exact sqlite_nextRow_told e (s := (q.conn, rs)) herror last
  kept last q hq _ := by
    obtain ⟨herror, rs, hrs, hopen⟩ := hq
    obtain ⟨_, _, _, hopen', _⟩ := fetch_open e conv (s := (q.conn, rs)) hopen
    have hnext : q.nextRow (driver e conv) = (((driver e conv).fetch (q.conn, rs)).1,
        ⟨((driver e conv).fetch (q.conn, rs)).2.1,
          some ((driver e conv).fetch (q.conn, rs)).2.2⟩) := by
      rw [TDatabaseQuery.nextRow, hrs]
    rw [hnext]
    refine ⟨?_, ((driver e conv).fetch (q.conn, rs)).2.2, rfl, hopen'⟩
    change ((driver e conv).fetch (q.conn, rs)).2.1.toTDBConnection.lastError ≠ none
    rw [(sqlite_fetch e conv (s := (q.conn, rs)) hopen).2]
    exact nextRow_lastError e (s := (q.conn, rs)) herror

theorem prefetch_lastError (s : SqliteDriver.Session) : (prefetch e s).2.1.lastError ≠ none := by
  have herror (conn : TDBConnection) : conn.error.2.lastError ≠ none := by
    unfold TDBConnection.error
    cases h : conn.lastError
    · exact Option.some_ne_none _
    · rw [h]
      exact Option.some_ne_none _
  unfold prefetch
  dsimp only
  split_ifs <;> exact herror _

theorem execute_lastError {s : SqliteDriver.Session} (h : (execute e conv s).1 = true) :
    (execute e conv s).2.1.lastError ≠ none := by
  rcases SqliteSteps.execute_cases e conv s with ⟨t, calls, heq, -⟩ | ⟨_, _, _, _, _, _, heq⟩
  · rw [heq] at h
    cases h
  · rw [heq]
    exact prefetch_lastError e _

theorem sqlite_nextRow_index (s : SqliteDriver.Session) :
    (nextRow e s).2.2.index = s.2.index ∨ (nextRow e s).2.2.index = s.2.index + 1 := by
  have hbegin : (beginFetch s.2).index = s.2.index := by
    rw [SqliteSteps.beginFetch_base]
  unfold nextRow
  split_ifs
  · exact .inl rfl
  · dsimp only
    cases (stepStatement e s.1.log (beginFetch s.2).stmtHandle).2.2 with
    | row row => exact .inr (congrArg (· + 1) ((SqliteSteps.ensureRecord_index _).trans hbegin))
    | done => exact .inl ((SqliteSteps.ensureRecord_index _).trans hbegin)
    | failed code => exact .inl hbegin

theorem sqlite_climbs : Climbs (driver e conv) where
  setBase _ _ := rfl
  firstRow s := by
    change (firstRow e s).2.2.index = s.2.index ∨ (firstRow e s).2.2.index = s.2.index + 1
    unfold firstRow
    split_ifs
    · exact sqlite_nextRow_index e s
    · exact .inl rfl
  nextRow := sqlite_nextRow_index e
  reset s := .inr rfl

theorem sqlite_allTold_iff {q q₁ : Query} {statement : Text} (hreached : q.Reached (driver e conv))
    (hexecute : q.execute (driver e conv) statement = some (true, q₁))
    (hok : ¬ StepFailed (SqliteVerdict.callsBetween q.conn q₁.conn)) {n : ℕ}
    (hcounts : Counts (driver e conv) n q₁) :
    EveryIndex (driver e conv) Agrees q₁ n ∧
      (AllTold (driver e conv) (sqliteNative e) none q₁ n ↔
        EveryFetch (driver e conv) (sqliteNative e) hasText q₁ n) := by
  obtain ⟨t, rs, before, hrs, hexecuted, hready, -⟩ := execute_some_true e conv
    (SqliteInvariant.ready_reached e conv hreached) hexecute hok
  obtain ⟨hopen, -⟩ := hexecuted.opens e conv hready
  refine ⟨(sqlite_climbs e conv).agrees n (fun rs' hrs' => ?_) hcounts,
    (sqlite_passes e conv).allTold_iff n ⟨?_, rs, hrs, hopen⟩⟩
  · rw [hrs] at hrs'
    obtain rfl := Option.some.inj hrs'
    exact hopen.index_ge
  obtain ⟨r, hsucceeds, -, hconn, hr⟩ := execute_true hexecute
  have herror : r.2.1.lastError ≠ none := by
    rcases hr with ⟨rs, -, rfl⟩ | rfl
    · exact execute_lastError e conv hsucceeds
    · change (executeQuery e conv statement _).1 = true at hsucceeds
      change (executeQuery e conv statement _).2.1.lastError ≠ none
      unfold executeQuery at hsucceeds ⊢
      dsimp only at hsucceeds ⊢
      split_ifs at hsucceeds ⊢ with hprepare
      exact execute_lastError e conv hsucceeds
  rw [hconn]
  exact Option.map_eq_none_iff.not.mpr herror

end

/-! ### ODBC -/

section

open OdbcDriver TODBCResultSet

variable (odbc : Odbc) (rt : OdbcDriver.Runtime)

abbrev OdbcQuery := TDatabaseQuery TDBODBC TODBCResultSet

def odbcOutcome (s : OdbcDriver.Session) : Option Outcome :=
  if ¬ s.2.stmtHandle then none
  else
    let log := s.1.log ++ [.fetchScroll]
    let result := odbc.result log
    if result = SQL_SUCCESS then some .row
    else if result = SQL_SUCCESS_WITH_INFO then some .warning
    else if result = SQL_NO_DATA then some .ended
    else some (.failed (odbc.diagnostic log).1 (odbc.diagnostic log).2)

def odbcNative : Native TDBODBC TODBCResultSet := ⟨(·.toTDBConnection), odbcOutcome odbc⟩

theorem odbc_nextRow_told {s : OdbcDriver.Session} (h : s.2.stmtHandle = true)
    (last : Option Outcome) : Told (odbcOutcome odbc s) last (nextRow odbc rt s).1
      (nextRow odbc rt s).2.1.toTDBConnection := by
  have hhandle : ¬ ¬ s.2.stmtHandle = true := not_not.mpr h
  unfold odbcOutcome nextRow
  rw [if_neg hhandle, if_neg hhandle]
  dsimp only [TDBODBC.call]
  generalize odbc.result (s.1.log ++ [.fetchScroll]) = result
  by_cases hsuccess : result = SQL_SUCCESS
  · rw [if_pos hsuccess, if_neg (by simp [isSQLError, hsuccess])]
    exact told_row last _
  · by_cases hinfo : result = SQL_SUCCESS_WITH_INFO
    · rw [if_neg hsuccess, if_pos hinfo, if_neg (by simp [isSQLError, hinfo])]
      exact told_row last _
    · have herror : isSQLError result = true := by simp [isSQLError, hsuccess, hinfo]
      rw [if_neg hsuccess, if_neg hinfo, if_pos herror]
      by_cases hend : result = SQL_NO_DATA
      · rw [if_pos hend]
        exact told_ended last _
      · rw [if_neg hend, if_neg hend]
        exact told_failed last (reported_setError (by decide) (.inr rfl))

/-- A result set between an execution and the next one. Behind its last row, the run was
told why. -/
structure OdbcOpen (last : Option Outcome) (conn : TDBODBC) (rs : TODBCResultSet) : Prop where
  isActive_eq : rs.isActive = true
  stmtHandle_eq : rs.stmtHandle = true
  index_ge : rs.index = SQL_AfterLastRow ∨ SQL_BeforeFirstRow ≤ rs.index
  behind : rs.index = SQL_AfterLastRow → last = some .ended ∨
    ∃ text value, last = some (.failed text value) ∧ Reported conn.toTDBConnection text value

theorem odbc_describe_true {s : OdbcDriver.Session} (h : (describe odbc s).1 = true) :
    (describe odbc s).2.2.isActive = true ∧
      (describe odbc s).2.2.stmtHandle = s.2.stmtHandle ∧
      (describe odbc s).2.2.index = s.2.index := by
  unfold describe at h ⊢
  dsimp only at h ⊢
  split_ifs at h ⊢ with hcolumns hall
  · exact ⟨rfl, rfl, rfl⟩
  · exact ⟨rfl, rfl, rfl⟩

theorem odbc_executeQuery_true {s : OdbcDriver.Session} {statement : Text}
    (h : (executeQuery odbc statement s).1 = true) (last : Option Outcome) (conn : TDBODBC) :
    OdbcOpen last conn (executeQuery odbc statement s).2.2 := by
  have hallocate (hok : (allocate odbc s).1 = true) : (allocate odbc s).2.2.stmtHandle = true ∧
      (allocate odbc s).2.2.index = SQL_BeforeFirstRow := by
    unfold allocate at hok ⊢
    dsimp only at hok ⊢
    split_ifs at hok ⊢ <;> exact ⟨rfl, rfl⟩
  unfold executeQuery at h ⊢
  dsimp only at h ⊢
  by_cases hok : (allocate odbc s).1 = true
  · rw [if_neg (not_not.mpr hok)] at h ⊢
    split at h
    next => cases h
    next herror =>
      rw [if_neg herror]
      obtain ⟨hactive, hhandle, hindex⟩ := odbc_describe_true odbc h
      have hfirst := hindex.trans (hallocate hok).2
      exact ⟨hactive, hhandle.trans (hallocate hok).1, .inr hfirst.ge, fun hlast =>
        absurd (hfirst.symm.trans hlast) (by decide)⟩
  · rw [if_pos hok] at h
    exact absurd h hok

theorem odbc_execute_true {s : OdbcDriver.Session} (h : (execute odbc s).1 = true)
    (last : Option Outcome) (conn : TDBODBC) : OdbcOpen last conn (execute odbc s).2.2 := by
  unfold execute at h ⊢
  dsimp only at h ⊢
  by_cases hhas : s.2.stmtHandle = true
  · rw [if_neg (not_not.mpr hhas)] at h ⊢
    cases hbound : (bindParameters odbc 0 s.1.log (s.2.boundValues.take s.2.bindCount)).1 with
    | raised =>
      rw [hbound] at h
      cases h
    | failed =>
      rw [hbound] at h
      cases h
    | bound =>
      rw [hbound] at h
      dsimp only [run] at h ⊢
      split at h
      next => cases h
      next herror =>
        rw [if_neg herror]
        obtain ⟨hactive, hhandle, hindex⟩ := odbc_describe_true odbc h
        have hfirst : _ = SQL_BeforeFirstRow := hindex
        exact ⟨hactive, hhandle.trans hhas, .inr hfirst.ge, fun hlast =>
          absurd (hfirst.symm.trans hlast) (by decide)⟩
  · rw [if_pos hhas] at h
    cases h

theorem odbc_fetched {q : OdbcQuery} {rs : TODBCResultSet} (hrs : q.resultSet = some rs)
    (hactive : rs.isActive = true) (hindex : rs.index ≠ SQL_AfterLastRow) :
    fetched (driver odbc rt) (odbcNative odbc) q = odbcOutcome odbc (q.conn, rs) := by
  rw [fetched, hrs]
  exact if_pos ⟨hactive, hindex⟩

theorem odbc_nextRow_kept (s : OdbcDriver.Session) :
    (nextRow odbc rt s).2.2.isActive = s.2.isActive ∧
      (nextRow odbc rt s).2.2.stmtHandle = s.2.stmtHandle ∧
      (nextRow odbc rt s).2.2.index =
        if (nextRow odbc rt s).1 then s.2.index + 1 else s.2.index := by
  unfold nextRow
  dsimp only
  split_ifs <;> first | exact ⟨rfl, rfl, rfl⟩ | contradiction

theorem odbc_step {last : Option Outcome} {q : OdbcQuery} {rs : TODBCResultSet}
    (hrs : q.resultSet = some rs) (h : OdbcOpen last q.conn rs) :
    Told (fetched (driver odbc rt) (odbcNative odbc) q) last (q.nextRow (driver odbc rt)).1
        (q.nextRow (driver odbc rt)).2.conn.toTDBConnection ∧
      ∃ rs', (q.nextRow (driver odbc rt)).2.resultSet = some rs' ∧
        OdbcOpen (latest (driver odbc rt) (odbcNative odbc) last q)
          (q.nextRow (driver odbc rt)).2.conn rs' := by
  have hnext : q.nextRow (driver odbc rt) = (((driver odbc rt).fetch (q.conn, rs)).1,
      ⟨((driver odbc rt).fetch (q.conn, rs)).2.1,
        some ((driver odbc rt).fetch (q.conn, rs)).2.2⟩) := by
    rw [TDatabaseQuery.nextRow, hrs]
  rw [hnext]
  by_cases hindex : rs.index = SQL_AfterLastRow
  · have hfetch : (driver odbc rt).fetch (q.conn, rs) = (false, q.conn, rs) :=
      fetch_closed (.inr hindex)
    have hnone : fetched (driver odbc rt) (odbcNative odbc) q = none := by
      rw [fetched, hrs]
      exact if_neg fun hopen => hopen.2 hindex
    rw [latest, hnone, hfetch]
    exact ⟨told_none (h.behind hindex), rs, rfl, h⟩
  · have hfetched := odbc_fetched odbc rt hrs h.isActive_eq hindex
    have htold := odbc_nextRow_told odbc rt (s := (q.conn, rs)) h.stmtHandle_eq last
    obtain ⟨hactive, hhandle, hindex'⟩ := odbc_nextRow_kept odbc rt (q.conn, rs)
    rw [latest, hfetched]
    rcases fetch_cases (D := driver odbc rt) (s := (q.conn, rs)) h.isActive_eq hindex
      (fun hfirst => if_pos hfirst) with heq | ⟨hfalse, heq⟩
    · rw [heq]
      have hge := h.index_ge.resolve_left hindex
      have hge' : SQL_BeforeFirstRow ≤ (nextRow odbc rt (q.conn, rs)).2.2.index := by
        rw [hindex']
        split_ifs
        · exact hge.trans (by simp)
        · exact hge
      refine ⟨htold, _, rfl, hactive.trans h.isActive_eq, hhandle.trans h.stmtHandle_eq,
        .inr hge', fun hlast => ?_⟩
      rw [show (nextRow odbc rt (q.conn, rs)).2.2.index = _ from hlast] at hge'
      exact absurd hge' (by decide)
    · rw [heq]
      rw [show (nextRow odbc rt (q.conn, rs)).1 = false from hfalse] at htold
      exact ⟨htold, _, rfl, hactive.trans h.isActive_eq, hhandle.trans h.stmtHandle_eq, .inl rfl,
        fun _ => htold.stopped rfl⟩

theorem odbc_passes : Passes (D := driver odbc rt) (N := odbcNative odbc)
    (fun last q => ∃ rs, q.resultSet = some rs ∧ OdbcOpen last q.conn rs) fun _ => true where
  told last q hq := by
    obtain ⟨rs, hrs, hopen⟩ := hq
    exact iff_of_true (odbc_step odbc rt hrs hopen).1 fun _ _ => rfl
  kept last q hq _ := by
    obtain ⟨rs, hrs, hopen⟩ := hq
    exact (odbc_step odbc rt hrs hopen).2

theorem odbc_climbs : Climbs (driver odbc rt) where
  setBase _ _ := rfl
  firstRow s := by
    change (firstRow odbc rt s).2.2.index = s.2.index ∨
      (firstRow odbc rt s).2.2.index = s.2.index + 1
    unfold firstRow
    split_ifs
    · rw [(odbc_nextRow_kept odbc rt s).2.2]
      split_ifs <;> simp
    · exact .inl rfl
  nextRow s := by
    change (nextRow odbc rt s).2.2.index = s.2.index ∨ (nextRow odbc rt s).2.2.index = s.2.index + 1
    rw [(odbc_nextRow_kept odbc rt s).2.2]
    split_ifs <;> simp
  reset _ := .inl rfl

theorem odbc_allTold {q q₁ : OdbcQuery} {statement : Text}
    (hexecute : q.execute (driver odbc rt) statement = some (true, q₁)) {n : ℕ}
    (hcounts : Counts (driver odbc rt) n q₁) :
    EveryIndex (driver odbc rt) Agrees q₁ n ∧
      AllTold (driver odbc rt) (odbcNative odbc) none q₁ n := by
  obtain ⟨r, hok, hrs, -, hr⟩ := execute_true hexecute
  have hopen : OdbcOpen none q₁.conn r.2.2 := by
    rcases hr with ⟨rs, -, rfl⟩ | rfl
    · exact odbc_execute_true odbc hok none _
    · exact odbc_executeQuery_true odbc hok none _
  refine ⟨(odbc_climbs odbc rt).agrees n (fun rs' hrs' => ?_) hcounts,
    ((odbc_passes odbc rt).allTold_iff n ⟨_, hrs, hopen⟩).mpr (everyFetch_true q₁ n)⟩
  rw [hrs] at hrs'
  obtain rfl := Option.some.inj hrs'
  refine hopen.index_ge.resolve_left fun hlast => ?_
  obtain hended | ⟨text, value, hfailed, -⟩ := hopen.behind hlast
  · cases hended
  · cases hfailed

end

/-! ### MariaDB -/

section

open MariaDriver TMySQLResultSet

variable (lib : Libmariadb) (rt : MariaDriver.Runtime)

abbrev MariaQuery := TDatabaseQuery TDBMariaDB TMySQLResultSet

def MYSQL_NO_DATA : ℤ := 100
def MYSQL_DATA_TRUNCATED : ℤ := 101

/-- The rows of a text result were all stored by the execution. -/
def mariaOutcome (s : MariaDriver.Session) : Option Outcome :=
  if s.2.preparedQuery then
    if s.2.stmtHandle.isNone then none
    else
      let log := s.1.log ++ [.stmtFetch]
      let code := lib.code log
      if code = 0 then some .row
      else if code = MYSQL_NO_DATA then some .ended
      else if code = MYSQL_DATA_TRUNCATED then some .warning
      else some (.failed (lib.error log) (lib.errno log))
  else if s.2.resultHandle.all (·.rows.isEmpty) then some .ended
  else some .row

def mariaNative : Native TDBMariaDB TMySQLResultSet := ⟨(·.toTDBConnection), mariaOutcome lib⟩

/-- A row without a warning, or the end of the data. -/
def isPlain : Outcome → Bool
  | .row | .ended => true
  | .warning | .failed _ _ => false

/-- The driver answers with a row only if there is one without a warning. -/
theorem maria_nextRow {s : MariaDriver.Session} {o : Outcome} (h : mariaOutcome lib s = some o) :
    (nextRow lib rt s).1 = decide (o = .row) ∧
      (nextRow lib rt s).2.1.toTDBConnection = s.1.toTDBConnection ∧
      (nextRow lib rt s).2.2.isActive = s.2.isActive ∧
      (nextRow lib rt s).2.2.preparedQuery = s.2.preparedQuery ∧
      (nextRow lib rt s).2.2.stmtHandle = s.2.stmtHandle ∧
      (nextRow lib rt s).2.2.index = if o = .row then s.2.index + 1 else s.2.index := by
  unfold mariaOutcome at h
  unfold nextRow
  by_cases hprepared : s.2.preparedQuery = true
  · rw [if_pos hprepared] at h ⊢
    by_cases hnone : s.2.stmtHandle.isNone = true
    · rw [if_pos hnone] at h
      cases h
    · rw [if_neg hnone] at h ⊢
      dsimp only [TDBMariaDB.call] at h ⊢
      by_cases hcode : lib.code (s.1.log ++ [.stmtFetch]) = 0
      · rw [if_pos hcode] at h
        cases h
        rw [if_neg (not_not.mpr hcode)]
        exact ⟨rfl, rfl, rfl, rfl, rfl, rfl⟩
      · have hne : o ≠ .row := by
          rintro rfl
          rw [if_neg hcode] at h
          split_ifs at h <;> cases h
        rw [if_pos hcode, if_neg hne]
        exact ⟨(decide_eq_false hne).symm, rfl, rfl, rfl, rfl, rfl⟩
  · rw [if_neg hprepared] at h ⊢
    cases hresult : s.2.resultHandle with
    | none =>
      rw [hresult] at h
      cases h
      exact ⟨rfl, rfl, rfl, rfl, rfl, rfl⟩
    | some result =>
      cases hrows : result.rows with
      | nil =>
        rw [hresult, Option.all_some, hrows] at h
        cases h
        dsimp only
        rw [hrows]
        exact ⟨rfl, rfl, rfl, rfl, rfl, rfl⟩
      | cons row rows =>
        rw [hresult, Option.all_some, hrows] at h
        cases h
        dsimp only
        rw [hrows]
        exact ⟨rfl, rfl, rfl, rfl, rfl, rfl⟩

/-- A result set between an execution and the next one; it is closed at the end of the
data. -/
inductive MariaOpen (last : Option Outcome) (rs : TMySQLResultSet) : Prop
  | fetching (hactive : rs.isActive = true) (hhandle : rs.preparedQuery = true → rs.stmtHandle.isSome)
      (hindex : SQL_BeforeFirstRow ≤ rs.index)
  | closed (hactive : rs.isActive = false) (hended : last = some .ended)

theorem mariaOutcome_isSome {s : MariaDriver.Session}
    (h : s.2.preparedQuery = true → s.2.stmtHandle.isSome) : (mariaOutcome lib s).isSome = true := by
  unfold mariaOutcome
  by_cases hprepared : s.2.preparedQuery = true
  · have hhandle : ¬ s.2.stmtHandle.isNone = true := by
      rw [Bool.not_eq_true, Option.isNone_eq_false_iff]
      exact h hprepared
    rw [if_pos hprepared, if_neg hhandle]
    dsimp only
    split_ifs <;> rfl
  · rw [if_neg hprepared]
    split_ifs <;> rfl

/-- Where no error is stored, exactly the plain outcomes are passed on. -/
theorem told_iff_isPlain {o : Outcome} (last : Option Outcome) {conn : TDBConnection}
    (h : conn.hasError = false) : Told (some o) last (decide (o = .row)) conn ↔ isPlain o = true := by
  have hquiet (text : Text) (value : ℤ) : ¬ Reported conn text value := fun hreported =>
    absurd hreported.1 (by simp [h])
  cases o with
  | row => exact iff_of_true (told_row last conn) rfl
  | ended => exact iff_of_true (told_ended last conn) rfl
  | warning => exact iff_of_false (fun htold => absurd (htold.row _ rfl rfl) (by decide)) (by decide)
  | failed text value =>
    refine iff_of_false (fun htold => ?_) Bool.false_ne_true
    rcases htold.stopped rfl with hended | ⟨text', value', -, hreported⟩
    · cases hended
    · exact hquiet text' value' hreported

theorem maria_fetched {q : MariaQuery} {rs : TMySQLResultSet} (hrs : q.resultSet = some rs)
    (hactive : rs.isActive = true) (hindex : SQL_BeforeFirstRow ≤ rs.index) :
    fetched (driver lib rt) (mariaNative lib) q = mariaOutcome lib (q.conn, rs) := by
  have hlast : rs.index ≠ SQL_AfterLastRow := by
    intro hlast
    rw [hlast] at hindex
    exact absurd hindex (by decide)
  rw [fetched, hrs]
  exact if_pos ⟨hactive, hlast⟩

def MariaQuiet (last : Option Outcome) (q : MariaQuery) : Prop :=
  q.conn.hasError = false ∧ ∃ rs, q.resultSet = some rs ∧ MariaOpen last rs

theorem maria_step {q : MariaQuery} {rs : TMySQLResultSet} (hrs : q.resultSet = some rs)
    (hactive : rs.isActive = true) (hhandle : rs.preparedQuery = true → rs.stmtHandle.isSome)
    (hindex : SQL_BeforeFirstRow ≤ rs.index) :
    ∃ o rs', fetched (driver lib rt) (mariaNative lib) q = some o ∧
      (q.nextRow (driver lib rt)).1 = decide (o = .row) ∧
      (q.nextRow (driver lib rt)).2.conn.toTDBConnection = q.conn.toTDBConnection ∧
      (q.nextRow (driver lib rt)).2.resultSet = some rs' ∧
      (isPlain o = true → MariaOpen (some o) rs') := by
  obtain ⟨o, ho⟩ := Option.isSome_iff_exists.mp (mariaOutcome_isSome lib (s := (q.conn, rs)) hhandle)
  obtain ⟨hanswer, hconn, hactive', hprepared, hstmt, hindex'⟩ := maria_nextRow lib rt ho
  have hlast : rs.index ≠ SQL_AfterLastRow := by
    intro hlast
    rw [hlast] at hindex
    exact absurd hindex (by decide)
  have hnext : q.nextRow (driver lib rt) = (((driver lib rt).fetch (q.conn, rs)).1,
      ⟨((driver lib rt).fetch (q.conn, rs)).2.1,
        some ((driver lib rt).fetch (q.conn, rs)).2.2⟩) := by
    rw [TDatabaseQuery.nextRow, hrs]
  rw [hnext]
  refine ⟨o, ((driver lib rt).fetch (q.conn, rs)).2.2,
    (maria_fetched lib rt hrs hactive hindex).trans ho, ?_⟩
  rcases fetch_cases (D := driver lib rt) (s := (q.conn, rs)) hactive hlast
    (fun hfirst => if_pos hfirst) with heq | ⟨hfalse, heq⟩
  · rw [heq]
    have hge : SQL_BeforeFirstRow ≤ (nextRow lib rt (q.conn, rs)).2.2.index := by
      rw [hindex']
      split_ifs
      · exact hindex.trans (by simp)
      · exact hindex
    refine ⟨hanswer, hconn, rfl, fun _ => .fetching (hactive'.trans hactive) (fun h => ?_) hge⟩
    exact (congrArg Option.isSome hstmt).trans (hhandle (hprepared.symm.trans h))
  · have hrow : o ≠ .row := of_decide_eq_false (hanswer.symm.trans hfalse)
    rw [heq]
    refine ⟨(decide_eq_false hrow).symm, hconn, rfl, fun hplain => .closed rfl ?_⟩
    cases o with
    | row => exact absurd rfl hrow
    | ended => rfl
    | warning => cases hplain
    | failed text value => cases hplain

theorem maria_closed {q : MariaQuery} {rs : TMySQLResultSet} (hrs : q.resultSet = some rs)
    (hactive : rs.isActive = false) :
    fetched (driver lib rt) (mariaNative lib) q = none ∧ q.nextRow (driver lib rt) = (false, q) := by
  constructor
  · rw [fetched, hrs]
    exact if_neg fun h => by simp [show rs.isActive = _ from h.1] at hactive
  · have hfetch : (driver lib rt).fetch (q.conn, rs) = (false, q.conn, rs) :=
      fetch_closed (.inl hactive)
    rw [TDatabaseQuery.nextRow, hrs]
    dsimp only
    rw [hfetch, ← hrs]

theorem maria_passes : Passes (D := driver lib rt) (N := mariaNative lib) MariaQuiet isPlain where
  told last q hq := by
    obtain ⟨hquiet, rs, hrs, hopen⟩ := hq
    cases hopen with
    | fetching hactive hhandle hindex =>
      obtain ⟨o, rs', hfetched, hanswer, hconn, -⟩ := maria_step lib rt hrs hactive hhandle hindex
      have hquiet' : (q.nextRow (driver lib rt)).2.conn.toTDBConnection.hasError = false := by
        rw [hconn]
        exact hquiet
      rw [hfetched, hanswer]
      exact (told_iff_isPlain last hquiet').trans (by simp)
    | closed hactive hended =>
      obtain ⟨hfetched, hnext⟩ := maria_closed lib rt hrs hactive
      rw [hfetched, hnext]
      exact iff_of_true (told_none (.inl hended)) (by simp)
  kept last q hq hok := by
    obtain ⟨hquiet, rs, hrs, hopen⟩ := hq
    cases hopen with
    | fetching hactive hhandle hindex =>
      obtain ⟨o, rs', hfetched, -, hconn, hrs', hkept⟩ :=
        maria_step lib rt hrs hactive hhandle hindex
      rw [hfetched] at hok
      refine ⟨?_, rs', hrs', ?_⟩
      · rw [hconn]
        exact hquiet
      · rw [latest, hfetched]
        exact hkept (hok o rfl)
    | closed hactive hended =>
      obtain ⟨hfetched, hnext⟩ := maria_closed lib rt hrs hactive
      rw [latest, hfetched, hnext]
      exact ⟨hquiet, rs, hrs, .closed hactive hended⟩

theorem maria_executeQuery_true {s : MariaDriver.Session} {statement : Text}
    (h : (executeQuery lib statement s).1 = true) (hindex : s.2.index = SQL_BeforeFirstRow)
    (last : Option Outcome) : MariaOpen last (executeQuery lib statement s).2.2 := by
  unfold executeQuery at h ⊢
  dsimp only at h ⊢
  split at h
  next => cases h
  next hopen =>
    rw [if_neg hopen]
    split at h
    next => cases h
    next hcode =>
      rw [if_neg hcode]
      split at h
      next => cases h
      next => exact .fetching rfl (fun hprepared => by cases hprepared) hindex.ge
      next => exact .fetching rfl (fun hprepared => by cases hprepared) hindex.ge

theorem maria_run_true {s : MariaDriver.Session} (h : (run lib s).1 = true) :
    (run lib s).2.2 = { s.2 with isActive := true } := by
  unfold run at h ⊢
  dsimp only at h ⊢
  split_ifs at h ⊢ <;> rfl

theorem maria_bindAndRun_true {stmt : Statement} {s : MariaDriver.Session}
    (h : (bindAndRun lib stmt s).1 = true) : ∃ bindings, (bindAndRun lib stmt s).2.2 =
      { s.2 with parameterBindings := bindings, isActive := true } := by
  unfold bindAndRun at h ⊢
  dsimp only at h ⊢
  by_cases hcount : stmt.paramCount = s.2.bindCount
  · rw [if_pos hcount] at h ⊢
    split at h
    next => cases h
    next hbound =>
      rw [if_neg hbound]
      split at h
      next => cases h
      next hcode =>
        rw [if_neg hcode]
        exact ⟨_, maria_run_true lib h⟩
  · rw [if_neg hcount] at h ⊢
    exact ⟨s.2.parameterBindings, maria_run_true lib h⟩

theorem maria_execute_true {s : MariaDriver.Session} (h : (execute lib s).1 = true)
    (last : Option Outcome) : MariaOpen last (execute lib s).2.2 := by
  unfold execute at h ⊢
  dsimp only at h ⊢
  split at h
  next => cases h
  next hprepared =>
    rw [if_neg hprepared]
    cases hstmt : s.2.stmtHandle with
    | none =>
      rw [hstmt] at h
      cases h
    | some stmt =>
      rw [hstmt] at h
      dsimp only at h ⊢
      split at h
      next => cases h
      next hcode =>
        rw [if_neg hcode]
        obtain ⟨bindings, heq⟩ := maria_bindAndRun_true lib h
        rw [heq]
        exact .fetching rfl (fun _ => rfl) le_rfl

theorem maria_nextRow_index (s : MariaDriver.Session) :
    (nextRow lib rt s).2.2.index = s.2.index ∨ (nextRow lib rt s).2.2.index = s.2.index + 1 := by
  unfold nextRow
  by_cases hprepared : s.2.preparedQuery = true
  · rw [if_pos hprepared]
    dsimp only
    split_ifs
    · exact .inl rfl
    · exact .inl rfl
    · exact .inr rfl
  · rw [if_neg hprepared]
    cases s.2.resultHandle with
    | none => exact .inl rfl
    | some result =>
      obtain ⟨columns, rows⟩ := result
      cases rows with
      | nil => exact .inl rfl
      | cons row rows => exact .inr rfl

theorem maria_climbs : Climbs (driver lib rt) where
  setBase _ _ := rfl
  firstRow s := by
    change (firstRow lib rt s).2.2.index = s.2.index ∨ (firstRow lib rt s).2.2.index = s.2.index + 1
    unfold firstRow
    split_ifs
    · exact maria_nextRow_index lib rt s
    · exact .inl rfl
  nextRow := maria_nextRow_index lib rt
  reset s := .inr rfl

theorem maria_allTold_iff {q q₁ : MariaQuery} {statement : Text}
    (hexecute : q.execute (driver lib rt) statement = some (true, q₁)) {n : ℕ}
    (hcounts : Counts (driver lib rt) n q₁) :
    EveryIndex (driver lib rt) Agrees q₁ n ∧
      (AllTold (driver lib rt) (mariaNative lib) none q₁ n ↔
        EveryFetch (driver lib rt) (mariaNative lib) isPlain q₁ n) := by
  obtain ⟨r, hok, hrs, hconn, hr⟩ := execute_true hexecute
  have hquiet : q₁.conn.hasError = false := by
    rw [hconn]
    exact TDBConnection.hasError_resetError _
  have hopen : MariaOpen none r.2.2 := by
    rcases hr with ⟨rs, -, rfl⟩ | rfl
    · exact maria_execute_true lib hok none
    · refine maria_executeQuery_true lib hok ?_ none
      cases q.resultSet <;> rfl
  refine ⟨(maria_climbs lib rt).agrees n (fun rs' hrs' => ?_) hcounts,
    (maria_passes lib rt).allTold_iff n ⟨hquiet, _, hrs, hopen⟩⟩
  rw [hrs] at hrs'
  obtain rfl := Option.some.inj hrs'
  cases hopen with
  | fetching hactive hhandle hindex => exact hindex
  | closed hactive hended => cases hended

end

/-! ### The three drivers -/

/-- After a successful execution the callers of `nextRow` are told every row, the end of the
data and every failure: with SQLite if and only if no step fails without a text, with MariaDB if
and only if no native fetch reports a truncation or a failure. The fetches are as many as a 32-bit
index counts. -/
theorem nextRow_told (n : ℕ) :
    (∀ (e : SqlEngine.Engine) (conv : CoreValues.Conversions) (q q₁ : SqliteCursor.Query)
      (statement : Text), q.Reached (SqliteDriver.driver e conv) →
      q.execute (SqliteDriver.driver e conv) statement = some (true, q₁) →
      ¬ SqlEngine.StepFailed (SqliteVerdict.callsBetween q.conn q₁.conn) →
      Counts (SqliteDriver.driver e conv) n q₁ →
      EveryIndex (SqliteDriver.driver e conv) Agrees q₁ n ∧
        (AllTold (SqliteDriver.driver e conv) (sqliteNative e) none q₁ n ↔
          EveryFetch (SqliteDriver.driver e conv) (sqliteNative e) hasText q₁ n)) ∧
    (∀ (odbc : OdbcDriver.Odbc) (rt : OdbcDriver.Runtime) (q q₁ : OdbcQuery) (statement : Text),
      q.execute (OdbcDriver.driver odbc rt) statement = some (true, q₁) →
      Counts (OdbcDriver.driver odbc rt) n q₁ →
      EveryIndex (OdbcDriver.driver odbc rt) Agrees q₁ n ∧
        AllTold (OdbcDriver.driver odbc rt) (odbcNative odbc) none q₁ n) ∧
    (∀ (lib : MariaDriver.Libmariadb) (rt : MariaDriver.Runtime) (q q₁ : MariaQuery)
      (statement : Text),
      q.execute (MariaDriver.driver lib rt) statement = some (true, q₁) →
      Counts (MariaDriver.driver lib rt) n q₁ →
      EveryIndex (MariaDriver.driver lib rt) Agrees q₁ n ∧
        (AllTold (MariaDriver.driver lib rt) (mariaNative lib) none q₁ n ↔
          EveryFetch (MariaDriver.driver lib rt) (mariaNative lib) isPlain q₁ n)) := by
  refine ⟨fun e conv q q₁ statement hreached hexecute hok hcounts => ?_,
    fun odbc rt q q₁ statement hexecute hcounts => ?_,
    fun lib rt q q₁ statement hexecute hcounts => ?_⟩
  · exact sqlite_allTold_iff e conv hreached hexecute hok hcounts
  · exact odbc_allTold odbc rt hexecute hcounts
  · exact maria_allTold_iff lib rt hexecute hcounts

/-! ### Runs of three fetches -/

section

open MariaDriver

/-- A query of one row; the second fetch finds none. -/
def preparedQuery (lib : Libmariadb) : MariaQuery :=
  ((TDatabaseQuery.create opened).prepare (driver lib plain) "SELECT n FROM t".toList).2

def executedQuery (lib : Libmariadb) : MariaQuery :=
  ((preparedQuery lib).execute (driver lib plain) []).elim (preparedQuery lib) (·.2)

theorem executedQuery_eq {lib : Libmariadb}
    (h : ((preparedQuery lib).execute (driver lib plain) []).map (·.1) = some true) :
    (preparedQuery lib).execute (driver lib plain) [] = some (true, executedQuery lib) := by
  obtain ⟨⟨b, q₁⟩, heq, rfl⟩ := Option.map_eq_some_iff.mp h
  rw [executedQuery, heq]
  rfl

/-- A server whose fetches return rows with a truncated column. -/
def truncating : Libmariadb :=
  { oneRow with code := fun log =>
      if log.getLast? = some .stmtFetch then MYSQL_DATA_TRUNCATED else 0 }

def odbcRuntime : OdbcDriver.Runtime := ⟨CoreFormat.unpadded, OdbcTexts.strict⟩

def odbcOpened : OdbcDriver.TDBODBC := ⟨⟨true, none⟩, 0, []⟩

theorem nextRow_told_three :
    (∃ q₁, (TDatabaseQuery.create SqliteVerdict.opened).execute
        (SqliteDriver.driver SqliteVerdict.singleRow .integers) "SELECT 1".toList = some (true, q₁) ∧
      (AllTold (SqliteDriver.driver SqliteVerdict.singleRow .integers)
          (sqliteNative SqliteVerdict.singleRow) none q₁ 3 ↔
        EveryFetch (SqliteDriver.driver SqliteVerdict.singleRow .integers)
          (sqliteNative SqliteVerdict.singleRow) hasText q₁ 3)) ∧
    (∃ q₁ : OdbcQuery, (TDatabaseQuery.create odbcOpened).execute
        (OdbcDriver.driver DriverNulls.succeeding odbcRuntime) "SELECT 1".toList =
          some (true, q₁) ∧
      AllTold (OdbcDriver.driver DriverNulls.succeeding odbcRuntime)
        (odbcNative DriverNulls.succeeding) none q₁ 3) ∧
    (preparedQuery oneRow).execute (driver oneRow plain) [] = some (true, executedQuery oneRow) ∧
      (AllTold (driver oneRow plain) (mariaNative oneRow) none (executedQuery oneRow) 3 ↔
        EveryFetch (driver oneRow plain) (mariaNative oneRow) isPlain (executedQuery oneRow) 3) := by
  obtain ⟨hsqlite, hodbc, hmaria⟩ := nextRow_told 3
  refine ⟨?_, ?_, ?_⟩
  · obtain ⟨q₁, hexecute, hok, hcounts⟩ : ∃ q₁, (TDatabaseQuery.create SqliteVerdict.opened).execute
        (SqliteDriver.driver SqliteVerdict.singleRow .integers) "SELECT 1".toList = some (true, q₁) ∧
        ¬ SqlEngine.StepFailed (SqliteVerdict.callsBetween SqliteVerdict.opened q₁.conn) ∧
        Counts (SqliteDriver.driver SqliteVerdict.singleRow .integers) 3 q₁ :=
      ⟨_, rfl, by decide, counts_of_index rfl (by decide)⟩
    exact ⟨q₁, hexecute, (hsqlite _ _ _ q₁ "SELECT 1".toList (.create SqliteVerdict.opened) hexecute
      hok hcounts).2⟩
  · obtain ⟨q₁, hexecute, hcounts⟩ : ∃ q₁ : OdbcQuery, (TDatabaseQuery.create odbcOpened).execute
        (OdbcDriver.driver DriverNulls.succeeding odbcRuntime) "SELECT 1".toList =
          some (true, q₁) ∧ Counts (OdbcDriver.driver DriverNulls.succeeding odbcRuntime) 3 q₁ :=
      ⟨_, rfl, counts_of_index rfl (by decide)⟩
    exact ⟨q₁, hexecute, (hodbc _ _ (.create odbcOpened) q₁ "SELECT 1".toList hexecute hcounts).2⟩
  · have hexecute := @executedQuery_eq oneRow (by decide +kernel)
    have hcounts : Counts (driver oneRow plain) 3 (executedQuery oneRow) :=
      counts_of_index rfl (by decide +kernel)
    exact ⟨hexecute, (hmaria _ _ _ _ _ hexecute hcounts).2⟩

/-- A row with a truncated column ends the run without an error. -/
theorem truncated_row_ends_run :
    (preparedQuery truncating).execute (driver truncating plain) [] =
        some (true, executedQuery truncating) ∧
      fetched (driver truncating plain) (mariaNative truncating) (executedQuery truncating) =
        some .warning ∧
      ((executedQuery truncating).nextRow (driver truncating plain)).1 = false ∧
      ((executedQuery truncating).nextRow (driver truncating plain)).2.conn.hasError = false ∧
      ¬ AllTold (driver truncating plain) (mariaNative truncating) none
        (executedQuery truncating) 1 := by
  have hfetched : fetched (driver truncating plain) (mariaNative truncating)
      (executedQuery truncating) = some .warning := by decide +kernel
  have hanswer : ((executedQuery truncating).nextRow (driver truncating plain)).1 = false := by
    decide +kernel
  refine ⟨executedQuery_eq (by decide +kernel), hfetched, hanswer, by decide +kernel, fun h => ?_⟩
  have htrue := h.1.row .warning hfetched rfl
  rw [hanswer] at htrue
  cases htrue

end

end DatabaseMod.FetchOutcomes
