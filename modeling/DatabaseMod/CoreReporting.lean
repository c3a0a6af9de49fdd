import DatabaseMod.CoreQuery

/-!
# Reported failures

Whether a failed call on a query leaves an error on its connection, whatever the driver. An
error counts only if the call stored it, so that it is there too when the call is made
without an earlier one.
-/

namespace DatabaseMod.CoreReporting
open SqlTokens (Text trim)
open CoreResultSet CoreQuery

variable {C RS : Type} {D : Driver C RS}

theorem finish_failed {r : Bool × C × RS} (h : r.1 = false) : D.finish r = r := by
  unfold Driver.finish
  rw [if_neg (by simp [h])]

/-- The core's part of a driver's connection, and the number of exceptions so far. The
operations that begin a call leave both as they are. -/
structure View (D : Driver C RS) where
  core : C → TDBConnection
  raised : C → ℕ
  core_set : ∀ conn base, core (D.setConnection conn base) = base
  raised_set : ∀ conn base, raised (D.setConnection conn base) = raised conn
  set_set : ∀ conn base base',
    D.setConnection (D.setConnection conn base) base' = D.setConnection conn base'
  isOpen_set : ∀ conn base, base.isOpen = (core conn).isOpen →
    (D.connection (D.setConnection conn base)).isOpen = (D.connection conn).isOpen
  create_core : ∀ conn, core (D.createResultSet conn).1 = core conn
  create_raised : ∀ conn, raised (D.createResultSet conn).1 = raised conn
  create_set : ∀ conn base, D.createResultSet (D.setConnection conn base) =
    (D.setConnection (D.createResultSet conn).1 base, (D.createResultSet conn).2)
  clear_core : ∀ s, core (D.clear s).1 = core s.1
  clear_raised : ∀ s, raised (D.clear s).1 = raised s.1
  clear_set : ∀ s base, D.clear (D.setConnection s.1 base, s.2) =
    (D.setConnection (D.clear s).1 base, (D.clear s).2)

namespace View

variable (V : View D)

/-- The session without the error of an earlier call. -/
def clean (s : C × RS) : C × RS := (D.setConnection s.1 (V.core s.1).resetError, s.2)

def hasError (conn : C) : Bool := (V.core conn).hasError

/-- Sessions that differ in the stored error only. -/
def Alike (s t : C × RS) : Prop :=
  ∃ base : TDBConnection, base.isOpen = (V.core s.1).isOpen ∧ t = (D.setConnection s.1 base, s.2)

/-- The operation does not look at the stored error. -/
def Blind (op : C × RS → Bool × C × RS) : Prop :=
  ∀ s t, V.Alike s t → (op t).1 = (op s).1 ∧ V.Alike (op s).2 (op t).2

/-- An operation whose failures are reported apart from the silent ones. -/
structure Reports (op : C × RS → Bool × C × RS) (silent : C × RS → Prop) : Prop where
  blind : V.Blind op
  silent_alike : ∀ s t, V.Alike s t → (silent t ↔ silent s)
  silent_fails : ∀ s, silent s → (op s).1 = false ∧ V.raised (op s).2.1 = V.raised s.1 ∧
    V.hasError (op s).2.1 = V.hasError s.1
  reported : ∀ s, ¬ silent s → (op s).1 = false → V.raised (op s).2.1 = V.raised s.1 →
    V.hasError (op s).2.1 = true

/-- The call that ended this way reported its failure, or cleared the error. -/
structure Told (op : C × RS → Bool × C × RS) (s : C × RS) : Prop where
  cleared : (op s).1 = true → V.hasError (op s).2.1 = false
  stored : (op s).1 = false → V.hasError (op s).2.1 = true ∧ (op (V.clean s)).1 = false ∧
    V.hasError (op (V.clean s)).2.1 = true

/-! ### The core's part of a call -/

variable {V}

theorem alike_clean (s : C × RS) : V.Alike s (V.clean s) :=
  ⟨(V.core s.1).resetError, rfl, rfl⟩

theorem Alike.raised {s t : C × RS} (h : V.Alike s t) : V.raised t.1 = V.raised s.1 := by
  obtain ⟨base, -, rfl⟩ := h
  exact V.raised_set _ _

theorem Alike.isOpen {s t : C × RS} (h : V.Alike s t) :
    (D.connection t.1).isOpen = (D.connection s.1).isOpen := by
  obtain ⟨base, hopen, rfl⟩ := h
  exact V.isOpen_set _ _ hopen

/-- Storing something else keeps sessions alike. -/
theorem Alike.set {s t : C × RS} (h : V.Alike s t) {base base' : TDBConnection}
    (hopen : base'.isOpen = base.isOpen) :
    V.Alike (D.setConnection s.1 base, s.2) (D.setConnection t.1 base', t.2) := by
  obtain ⟨base₀, -, rfl⟩ := h
  refine ⟨base', hopen.trans ?_, ?_⟩
  · rw [V.core_set]
  · rw [V.set_set, V.set_set]

theorem hasError_clean (s : C × RS) : V.hasError (V.clean s).1 = false := by
  unfold hasError clean
  rw [V.core_set]
  exact TDBConnection.hasError_resetError _

theorem hasError_raise (s : C × RS) {error : String} (herror : error.toList ≠ [])
    (eType : ErrorType) : V.hasError (D.raise s error eType).2.1 = true := by
  unfold hasError Driver.raise
  rw [V.core_set]
  exact TDBConnection.hasError_setError _ herror _ _ _

theorem reports_raise {error : String} (herror : error.toList ≠ []) (eType : ErrorType) :
    V.Reports (fun s => D.raise s error eType) fun _ => False where
  blind s t h := by
    refine ⟨rfl, h.set ?_⟩
    rw [TDBConnection.setError_isOpen, TDBConnection.setError_isOpen]
    exact h.isOpen
  silent_alike _ _ _ := Iff.rfl
  silent_fails _ h := h.elim
  reported s _ _ _ := hasError_raise s herror eType

theorem reports_finish {op : C × RS → Bool × C × RS} {silent : C × RS → Prop}
    (h : V.Reports op silent) : V.Reports (fun s => D.finish (op s)) silent := by
  refine ⟨fun s t hst => ?_, h.silent_alike, fun s hs => ?_, fun s hs hok hsame => ?_⟩
  · obtain ⟨hok, halike⟩ := h.blind s t hst
    refine ⟨by rw [Driver.finish_ok, Driver.finish_ok, hok], ?_⟩
    unfold Driver.finish
    rw [hok]
    split_ifs
    · exact halike.set halike.isOpen
    · exact halike
  · rw [finish_failed (h.silent_fails s hs).1]
    exact h.silent_fails s hs
  · rw [Driver.finish_ok] at hok
    rw [finish_failed hok] at hsame ⊢
    exact h.reported s hs hok hsame

theorem reports_ite {op op' : C × RS → Bool × C × RS} {silent silent' : C × RS → Prop}
    {p : C × RS → Prop} [DecidablePred p] (hp : ∀ s t, V.Alike s t → (p t ↔ p s))
    (h : V.Reports op silent) (h' : V.Reports op' silent') :
    V.Reports (fun s => if p s then op s else op' s)
      fun s => p s ∧ silent s ∨ ¬ p s ∧ silent' s := by
  refine ⟨fun s t hst => ?_, fun s t hst => ?_, fun s hs => ?_, fun s hs hok hsame => ?_⟩
  · simp only [hp s t hst]
    split_ifs
    · exact h.blind s t hst
    · exact h'.blind s t hst
  · rw [hp s t hst, h.silent_alike s t hst, h'.silent_alike s t hst]
  · rcases hs with ⟨hps, hs⟩ | ⟨hps, hs⟩
    · rw [if_pos hps]
      exact h.silent_fails s hs
    · rw [if_neg hps]
      exact h'.silent_fails s hs
  · by_cases hps : p s
    · rw [if_pos hps] at hok hsame ⊢
      exact h.reported s (fun hs' => hs (.inl ⟨hps, hs'⟩)) hok hsame
    · rw [if_neg hps] at hok hsame ⊢
      exact h'.reported s (fun hs' => hs (.inr ⟨hps, hs'⟩)) hok hsame

theorem reports_congr {op : C × RS → Bool × C × RS} {silent silent' : C × RS → Prop}
    (h : V.Reports op silent) (hiff : ∀ s, silent s ↔ silent' s) : V.Reports op silent' := by
  obtain rfl : silent = silent' := funext fun s => propext (hiff s)
  exact h

theorem reports_setQuery {op : C × RS → Bool × C × RS} {silent : C × RS → Prop}
    (h : V.Reports op silent) (query : Text) :
    V.Reports (fun s => op (D.setQuery query s)) fun s => silent (D.setQuery query s) := by
  have hquery (s t : C × RS) (hst : V.Alike s t) :
      V.Alike (D.setQuery query s) (D.setQuery query t) := by
    obtain ⟨base, hopen, rfl⟩ := hst
    exact ⟨base, hopen, rfl⟩
  exact ⟨fun s t hst => h.blind _ _ (hquery s t hst),
    fun s t hst => h.silent_alike _ _ (hquery s t hst), fun s => h.silent_fails _,
    fun s => h.reported _⟩

theorem reports_true {f : C × RS → C × RS} (hf : ∀ s t, V.Alike s t → V.Alike (f s) (f t)) :
    V.Reports (fun s => (true, f s)) fun _ => False where
  blind s t h := ⟨rfl, hf s t h⟩
  silent_alike _ _ _ := Iff.rfl
  silent_fails _ h := h.elim
  reported _ _ h _ := by cases h

/-- An operation that goes on only where another one has succeeded. -/
theorem reports_then {op op' : C × RS → Bool × C × RS} (h : V.Reports op fun _ => False)
    (hraised : ∀ s, V.raised (op s).2.1 = V.raised s.1) (h' : V.Reports op' fun _ => False) :
    V.Reports (fun s => if ¬ (op s).1 then op s else op' (op s).2) fun _ => False := by
  refine ⟨fun s t hst => ?_, fun _ _ _ => Iff.rfl, fun _ h => h.elim, fun s _ hok hsame => ?_⟩
  · obtain ⟨hok, halike⟩ := h.blind s t hst
    rw [hok]
    split_ifs
    · exact h'.blind _ _ halike
    · exact ⟨hok, halike⟩
  · split_ifs at hok hsame ⊢
    · exact h'.reported _ not_false hok (hsame.trans (hraised s).symm)
    · exact h.reported s not_false hok hsame

/-- An operation that is only called on an open connection, where it is silent here. -/
def ReportsOpen (V : View D) (op : C × RS → Bool × C × RS) (silent : C × RS → Prop) : Prop :=
  ∃ silent', V.Reports op silent' ∧
    ∀ s, (D.connection s.1).isOpen = true → (silent' s ↔ silent s)

theorem Reports.open {op : C × RS → Bool × C × RS} {silent : C × RS → Prop}
    (h : V.Reports op silent) : V.ReportsOpen op silent := ⟨silent, h, fun _ _ => Iff.rfl⟩

theorem reports_open {op : C × RS → Bool × C × RS} {silent : C × RS → Prop}
    (h : V.ReportsOpen op silent) :
    V.Reports (fun s => if (D.connection s.1).isOpen then D.finish (op s)
      else D.raise s "The connection is not open" .connection)
      fun s => (D.connection s.1).isOpen = true ∧ silent s := by
  obtain ⟨silent', hop, hiff⟩ := h
  apply reports_congr (reports_ite (fun s t hst => by rw [hst.isOpen]) (reports_finish hop)
    (reports_raise (by decide) _))
  intro s
  simpa using hiff s

variable {silent : C × RS → Prop}

theorem reports_prepareStatement {statement : Text} (h : statement.length ≠ 0 →
    V.ReportsOpen (D.prepare statement) silent) :
    V.Reports (D.prepareStatement statement) fun s => statement.length ≠ 0 ∧
      (D.connection s.1).isOpen = true ∧ silent (D.setQuery (trim statement) s) := by
  unfold Driver.prepareStatement
  by_cases hempty : statement.length = 0
  · simp only [if_pos hempty]
    apply reports_congr (reports_raise (by decide) .statement)
    intro s
    simp [hempty]
  · simp only [if_neg hempty]
    apply reports_congr (reports_setQuery (reports_open (h hempty)) (trim statement))
    intro s
    simp [Driver.setQuery, hempty]

theorem reports_executeStatement {statement : Text} (h : V.ReportsOpen (D.executeQuery statement)
    silent) :
    V.Reports (D.executeStatement statement) fun s => (trim statement).length ≠ 0 ∧
      (D.connection s.1).isOpen = true ∧ silent (D.setQuery (trim statement) s) := by
  apply reports_congr (reports_ite (p := fun _ => (trim statement).length = 0)
    (fun _ _ _ => Iff.rfl) (reports_raise (by decide) .statement)
    (reports_setQuery (reports_open h) (trim statement)))
  intro s
  simp [Driver.setQuery]

/-- A call on a session is told if and only if it is not silent. -/
theorem told_iff {op : C × RS → Bool × C × RS} {silent : C × RS → Prop} (h : V.Reports op silent)
    (hcleared : ∀ s, (op s).1 = true → V.hasError (op s).2.1 = false) {s : C × RS}
    (hraised : V.raised (op s).2.1 = V.raised s.1) : V.Told op s ↔ ¬ silent s := by
  have halike := alike_clean (V := V) s
  constructor
  · intro htold hs
    -- without the earlier error there is none after the call
    obtain ⟨-, -, herror⟩ := htold.stored (h.silent_fails s hs).1
    have hclean := (h.silent_fails _ ((h.silent_alike s _ halike).mpr hs)).2.2
    rw [hasError_clean] at hclean
    rw [hclean] at herror
    cases herror
  · intro hs
    obtain ⟨hverdict, hends⟩ := h.blind s _ halike
    refine ⟨hcleared s, fun hok => ?_⟩
    have hok' := hverdict.trans hok
    have hraised' : V.raised (op (V.clean s)).2.1 = V.raised (V.clean s).1 := by
      rw [hends.raised, hraised, halike.raised]
    exact ⟨h.reported s hs hok hraised, hok',
      h.reported _ (fun hs' => hs ((h.silent_alike s _ halike).mp hs')) hok' hraised'⟩

theorem cleared_finish {r : Bool × C × RS} (h : (D.finish r).1 = true) :
    V.hasError (D.finish r).2.1 = false := by
  unfold Driver.finish at h ⊢
  split_ifs at h ⊢ with hr
  · unfold hasError
    rw [V.core_set]
    exact TDBConnection.hasError_resetError _
  · exact absurd h hr

theorem cleared_prepareStatement (statement : Text) (s : C × RS)
    (h : (D.prepareStatement statement s).1 = true) :
    V.hasError (D.prepareStatement statement s).2.1 = false := by
  unfold Driver.prepareStatement at h ⊢
  dsimp only at h ⊢
  split_ifs at h ⊢
  · cases h
  · exact cleared_finish h
  · cases h

theorem cleared_executeStatement (statement : Text) (s : C × RS)
    (h : (D.executeStatement statement s).1 = true) :
    V.hasError (D.executeStatement statement s).2.1 = false := by
  unfold Driver.executeStatement at h ⊢
  dsimp only at h ⊢
  split_ifs at h ⊢
  · cases h
  · exact cleared_finish h
  · cases h

theorem cleared_executePrepared (s : C × RS) (h : (D.executePrepared s).1 = true) :
    V.hasError (D.executePrepared s).2.1 = false := by
  unfold Driver.executePrepared at h ⊢
  split_ifs at h ⊢
  · exact cleared_finish h
  · cases h

theorem opened_clean (conn : C) (resultSet : Option RS) :
    D.opened (D.setConnection conn (V.core conn).resetError) resultSet =
      V.clean (D.opened conn resultSet) := by
  cases resultSet with
  | none =>
    unfold Driver.opened clean
    rw [V.create_set, V.create_core]
  | some rs =>
    have hclear := V.clear_set (conn, rs) (V.core conn).resetError
    unfold Driver.opened clean
    dsimp only at hclear ⊢
    rw [hclear, V.clear_core]

theorem opened_raised (conn : C) (resultSet : Option RS) :
    V.raised (D.opened conn resultSet).1 = V.raised conn := by
  cases resultSet with
  | none => exact V.create_raised conn
  | some rs => exact V.clear_raised (conn, rs)

end View

/-! ### Calls on a query -/

inductive StatementCall
  | prepare (statement : Text)
  | execute (statement : Text)
deriving DecidableEq, Repr

def StatementCall.call : StatementCall → QueryCall
  | .prepare statement => .prepare statement
  | .execute statement => .execute statement

section

variable (V : View D)

/-- A call that returns `False` leaves an error that it stored itself, and one that returns
`True` leaves none. -/
def Reported (q : TDatabaseQuery C RS) (c : StatementCall) : Prop :=
  ∀ ok q', q.call D c.call = some (ok, q') → V.raised q'.conn = V.raised q.conn →
    (ok = true → V.hasError q'.conn = false) ∧
    (ok = false → V.hasError q'.conn = true ∧ ∃ q₀,
      TDatabaseQuery.call D ⟨D.setConnection q.conn (V.core q.conn).resetError, q.resultSet⟩
        c.call = some (false, q₀) ∧ V.hasError q₀.conn = true)

/-- The core gets as far as the driver, where the call fails silently. -/
def Silent (prepareSilent querySilent : Text → C × RS → Prop) (executeSilent : C × RS → Prop)
    (q : TDatabaseQuery C RS) : StatementCall → Prop
  | .prepare statement =>
    let s := D.opened q.conn q.resultSet
    statement.length ≠ 0 ∧ (D.connection s.1).isOpen = true ∧
      prepareSilent statement (D.setQuery (trim statement) s)
  | .execute statement =>
    if statement ≠ [] then
      let s := D.opened q.conn q.resultSet
      (trim statement).length ≠ 0 ∧ (D.connection s.1).isOpen = true ∧
        querySilent statement (D.setQuery (trim statement) s)
    else ∃ rs, q.resultSet = some rs ∧ (D.connection q.conn).isOpen = true ∧
      executeSilent (q.conn, rs)

variable {V} {prepareSilent querySilent : Text → C × RS → Prop} {executeSilent : C × RS → Prop}

theorem reported_iff_told {op : C × RS → Bool × C × RS} {q : TDatabaseQuery C RS}
    {c : StatementCall} {s : C × RS} (hs : V.raised s.1 = V.raised q.conn)
    (hcall : q.call D c.call = some ((op s).1, ⟨(op s).2.1, some (op s).2.2⟩))
    (hclean : TDatabaseQuery.call D
      ⟨D.setConnection q.conn (V.core q.conn).resetError, q.resultSet⟩ c.call =
        some ((op (V.clean s)).1, ⟨(op (V.clean s)).2.1, some (op (V.clean s)).2.2⟩)) :
    Reported V q c ↔ (V.raised (op s).2.1 = V.raised s.1 → V.Told op s) := by
  constructor
  · intro h hraised
    obtain ⟨hcleared, hstored⟩ := h _ _ hcall (hraised.trans hs)
    refine ⟨hcleared, fun hok => ?_⟩
    obtain ⟨herror, q₀, hq₀, herror₀⟩ := hstored hok
    rw [hclean] at hq₀
    simp only [Option.some.injEq, Prod.mk.injEq] at hq₀
    obtain ⟨hok₀, rfl⟩ := hq₀
    exact ⟨herror, hok₀, herror₀⟩
  · intro h ok q' hq' hraised
    rw [hcall] at hq'
    simp only [Option.some.injEq, Prod.mk.injEq] at hq'
    obtain ⟨rfl, rfl⟩ := hq'
    obtain ⟨hcleared, hstored⟩ := h (hraised.trans hs.symm)
    refine ⟨hcleared, fun hok => ?_⟩
    obtain ⟨herror, hok₀, herror₀⟩ := hstored hok
    exact ⟨herror, _, by rw [hclean, hok₀], herror₀⟩

theorem reported_iff_not_silent {op : C × RS → Bool × C × RS} {silent : C × RS → Prop}
    (hreports : V.Reports op silent)
    (hcleared : ∀ s, (op s).1 = true → V.hasError (op s).2.1 = false)
    {q : TDatabaseQuery C RS} {c : StatementCall} {s : C × RS}
    (hs : V.raised s.1 = V.raised q.conn)
    (hcall : q.call D c.call = some ((op s).1, ⟨(op s).2.1, some (op s).2.2⟩))
    (hclean : TDatabaseQuery.call D
      ⟨D.setConnection q.conn (V.core q.conn).resetError, q.resultSet⟩ c.call =
        some ((op (V.clean s)).1, ⟨(op (V.clean s)).2.1, some (op (V.clean s)).2.2⟩)) :
    Reported V q c ↔ ¬ silent s := by
  rw [reported_iff_told hs hcall hclean]
  constructor
  · intro h hsilent
    have hraised := (hreports.silent_fails s hsilent).2.1
    exact (View.told_iff hreports hcleared hraised).mp (h hraised) hsilent
  · intro hsilent hraised
    exact (View.told_iff hreports hcleared hraised).mpr hsilent

theorem prepare_reported_iff {silent : C × RS → Prop} {statement : Text}
    (h : statement.length ≠ 0 → V.ReportsOpen (D.prepare statement) silent)
    (q : TDatabaseQuery C RS) : Reported V q (.prepare statement) ↔
      ¬ (statement.length ≠ 0 ∧ (D.connection (D.opened q.conn q.resultSet).1).isOpen = true ∧
        silent (D.setQuery (trim statement) (D.opened q.conn q.resultSet))) := by
  refine reported_iff_not_silent (View.reports_prepareStatement h)
    (View.cleared_prepareStatement statement) (View.opened_raised q.conn q.resultSet) rfl ?_
  rw [← View.opened_clean]
  rfl

/-- Without a result set only a closed connection is reported; an open one has no call. -/
theorem reported_noResultSet (conn : C) {statement : Text} (h : ¬ statement ≠ []) :
    Reported V ⟨conn, none⟩ (.execute statement) := by
  have hcall (conn : C) : TDatabaseQuery.call D ⟨conn, none⟩ (.execute statement) =
      if (D.connection conn).isOpen then none
      else some (false, ⟨D.setConnection conn ((D.connection conn).setError
        "The connection is not open".toList [] .connection 0), none⟩) := if_neg h
  have herror (conn : C) (base : TDBConnection) : V.hasError (D.setConnection conn
      (base.setError "The connection is not open".toList [] .connection 0)) = true := by
    rw [View.hasError, V.core_set]
    exact TDBConnection.hasError_setError _ (by decide) _ _ _
  intro ok q' hq' _
  change TDatabaseQuery.call D ⟨conn, none⟩ (.execute statement) = _ at hq'
  rw [hcall] at hq'
  split_ifs at hq' with hopen
  simp only [Option.some.injEq, Prod.mk.injEq] at hq'
  obtain ⟨rfl, rfl⟩ := hq'
  refine ⟨nofun, fun _ => ⟨herror _ _, _, (hcall _).trans (if_neg ?_), herror _ _⟩⟩
  rw [V.isOpen_set conn (V.core conn).resetError rfl]
  exact hopen

theorem execute_call_some (conn : C) (rs : RS) {statement : Text} (h : ¬ statement ≠ []) :
    TDatabaseQuery.call D ⟨conn, some rs⟩ (.execute statement) =
      some ((D.executePrepared (conn, rs)).1, ⟨(D.executePrepared (conn, rs)).2.1,
        some (D.executePrepared (conn, rs)).2.2⟩) := if_neg h

theorem execute_call_statement (q : TDatabaseQuery C RS) {statement : Text} (h : statement ≠ []) :
    q.call D (.execute statement) =
      some ((D.executeStatement statement (D.opened q.conn q.resultSet)).1,
        ⟨(D.executeStatement statement (D.opened q.conn q.resultSet)).2.1,
          some (D.executeStatement statement (D.opened q.conn q.resultSet)).2.2⟩) := if_pos h

/-- The failures of a query are reported if and only if the driver does not keep silent. -/
theorem reported_iff (hprepare : ∀ statement : Text, statement.length ≠ 0 →
      V.ReportsOpen (D.prepare statement) (prepareSilent statement))
    (hquery : ∀ statement, V.ReportsOpen (D.executeQuery statement) (querySilent statement))
    (hexecute : V.ReportsOpen D.execute executeSilent) (q : TDatabaseQuery C RS)
    (c : StatementCall) :
    Reported V q c ↔ ¬ Silent (D := D) prepareSilent querySilent executeSilent q c := by
  cases c with
  | prepare statement => exact prepare_reported_iff (hprepare statement) q
  | execute statement =>
    by_cases hstatement : statement ≠ []
    · rw [Silent, if_pos hstatement]
      refine reported_iff_not_silent (View.reports_executeStatement (hquery statement))
        (View.cleared_executeStatement statement) (View.opened_raised q.conn q.resultSet)
        (execute_call_statement q hstatement) ?_
      rw [← View.opened_clean]
      exact execute_call_statement _ hstatement
    · rw [Silent, if_neg hstatement]
      obtain ⟨conn, resultSet⟩ := q
      cases resultSet with
      | some rs =>
        rw [reported_iff_not_silent (View.reports_open hexecute) View.cleared_executePrepared
          (s := (conn, rs)) rfl (execute_call_some conn rs hstatement)
          (execute_call_some _ rs hstatement)]
        simp
      | none =>
        refine iff_of_true (reported_noResultSet conn hstatement) ?_
        rintro ⟨rs, ⟨⟩, -⟩

end

end DatabaseMod.CoreReporting
