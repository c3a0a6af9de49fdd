import DatabaseMod.SqlCommands

/-!
# A database behind an engine

What is relied on of an engine that keeps tables: its content follows from the calls, only a
started run changes it, and a run of a command does what the command says. An engine that
replays its log is one.
-/

namespace DatabaseMod.SqlDatabase
open SqlTokens (Text)
open MachineInteger (InInt64)
open SqlReading SqlEngine KeyedRecords SqlCommands

/-- The handle is that of a statement that was prepared from the text. -/
def Prepared (log : List Call) (handle : ℕ) (sql : Text) : Prop :=
  log[handle]? = some ⟨some handle, .prepare sql, none⟩

theorem Prepared.append {log : List Call} {handle : ℕ} {sql : Text} (h : Prepared log handle sql)
    (calls : List Call) : Prepared (log ++ calls) handle sql := by
  obtain ⟨hlt, -⟩ := List.getElem?_eq_some_iff.mp h
  rw [Prepared, List.getElem?_append_left hlt]
  exact h

/-- A parameter without a value is null. -/
def params (log : List Call) (handle index : ℕ) : SqlValue := (parameter log handle index).getD .null

/-- The step that starts a run. -/
def stepCall (e : Engine) (log : List Call) (handle : ℕ) (result : Option ErrorCode) : Call :=
  ⟨some handle, .step (some (e.run log handle)), result⟩

/-- The run goes well up to its first row, or to the end if it has none. -/
def Begins (run : Run) : Prop := run.rows ≠ [] ∨ run.failure = none

/-- No statement is stepped. -/
def Unstepped (calls : List Call) : Prop :=
  ∀ c ∈ calls, c.isStep = true → c.handle = none ∧ c.started = none

theorem Unstepped.nil : Unstepped [] := nofun

theorem Unstepped.append {calls calls' : List Call} (h : Unstepped calls) (h' : Unstepped calls') :
    Unstepped (calls ++ calls') := by
  intro c hc
  rcases List.mem_append.mp hc with hc | hc
  · exact h c hc
  · exact h' c hc

theorem unstepped_of_noStep {calls : List Call} (h : NoStep calls) : Unstepped calls := by
  intro c hc hstep
  rw [h c hc] at hstep
  cases hstep

theorem Unstepped.startedRuns_eq {calls : List Call} (h : Unstepped calls) :
    startedRuns calls = [] := by
  apply List.filterMap_eq_nil_iff.mpr
  intro c hc
  by_cases hstep : c.isStep = true
  · exact (h c hc hstep).2
  · obtain ⟨handle, action, result⟩ := c
    cases action with
    | step started => exact absurd rfl hstep
    | _ => rfl

/-- A run has these rows in any order, or it fails after some of them. -/
def Answers (run : Run) (rows : List Row) : Prop :=
  ∃ all, all.Perm rows ∧ run.rows <+: all ∧ (run.failure = none → run.rows = all)

def width : Command → ℕ
  | .select columns _ _ => columns.length
  | _ => 0

structure Database (e : Engine) (store : Text → SqlValue → SqlValue) (catalog : Catalog) where
  content : List Call → Content
  content_unstepped : ∀ log c, Unstepped [c] → content (log ++ [c]) = content log
  ran : ∀ log handle sql cmd result, Prepared log handle sql → command (read sql) = some cmd →
    Usual store catalog (params log handle) cmd → Begins (e.run log handle) →
    Changes store catalog (params log handle) cmd (content log)
      (content (log ++ [stepCall e log handle result]))
  abandoned : ∀ log handle sql cmd result, Prepared log handle sql → command (read sql) = some cmd →
    ¬ Begins (e.run log handle) →
    Abandons (content log) (content (log ++ [stepCall e log handle result]))
  answers : ∀ log handle sql cmd, Prepared log handle sql → command (read sql) = some cmd →
    Usual store catalog (params log handle) cmd →
    Answers (e.run log handle) (answer store catalog (params log handle) (content log) cmd)
  described : ∀ log sql cmd d, e.prepare log sql = .ok (some d) → command (read sql) = some cmd →
    d.columns.length = width cmd
  /-- No trigger raises an error without a text. -/
  told : ∀ log, e.message log ≠ []

section

variable {e : Engine} {store : Text → SqlValue → SqlValue} {catalog : Catalog}
  (db : Database e store catalog)

theorem Database.content_calls {log calls : List Call} (h : Unstepped calls) :
    db.content (log ++ calls) = db.content log := by
  induction calls using List.reverseRecOn with
  | nil => rw [List.append_nil]
  | append_singleton calls c ih =>
    rw [← List.append_assoc, db.content_unstepped _ c, ih]
    · exact fun d hd => h d (List.mem_append_left _ hd)
    · intro d hd
      exact h d (List.mem_append_right _ hd)

theorem Answers.nil {run : Run} {rows : List Row} (h : Answers run rows) (hnil : rows = []) :
    run.rows = [] := by
  obtain ⟨all, hperm, hbegin, -⟩ := h
  rw [hnil, List.perm_nil] at hperm
  rwa [hperm, List.prefix_nil] at hbegin

theorem Answers.head {run : Run} {rows : List Row} {row : Row} (h : Answers run rows)
    (hrow : run.rows.head? = some row) : row ∈ rows := by
  obtain ⟨all, hperm, hbegin, -⟩ := h
  exact hperm.mem_iff.mp (hbegin.subset (List.mem_of_mem_head? hrow))

end

/-! ### An engine that replays its log -/

section

variable (store : Text → SqlValue → SqlValue) (catalog : Catalog) (param : ℕ → SqlValue)

/-- Where the rowid is needed, the next one is made. -/
def evaluate (content : Content) : Command → Option Content
  | .insert table columns => (catalog table).bind fun s =>
      let record := assign store param s columns (blank s (content.lastRowid + 1))
      if (find (· s.key) (content.tables table) (record s.key)).isSome ∨
          ¬ InInt64 (content.lastRowid + 1) then none
      else some { content.setTable table (content.tables table ++ [record]) with
        lastRowid := content.lastRowid + 1 }
  | .update table columns _ => (catalog table).map fun s =>
      content.setTable table (modify (· s.key) (assign store param s columns)
        (content.tables table) (sought store param s (columns.length + 1)))
  | .delete table _ => (catalog table).map fun s =>
      content.setTable table
        (KeyedRecords.delete (· s.key) (content.tables table) (sought store param s 1))
  | .select _ _ _ => some content
  | .start => if content.saved.isSome then none else some { content with saved := some content.tables }
  | .commit => if content.saved.isSome then some { content with saved := none } else none
  | .rollback => content.saved.map fun tables => { content with tables := tables, saved := none }

theorem evaluate_changes {content after : Content} {cmd : Command}
    (h : evaluate store catalog param content cmd = some after) :
    Changes store catalog param cmd content after := by
  cases cmd with
  | insert table columns =>
    obtain ⟨s, hs, h⟩ := Option.bind_eq_some_iff.mp h
    dsimp only at h
    split_ifs at h with hrefused
    · obtain ⟨hfound, hrange⟩ := not_or.mp hrefused
      cases h
      exact ⟨s, _, hs, not_not.mp hrange, by simpa using hfound, rfl⟩
  | update table columns key =>
    obtain ⟨s, hs, rfl⟩ := Option.map_eq_some_iff.mp h
    exact ⟨s, hs, rfl⟩
  | delete table key =>
    obtain ⟨s, hs, rfl⟩ := Option.map_eq_some_iff.mp h
    exact ⟨s, hs, rfl⟩
  | select columns table key => exact (Option.some.inj h).symm
  | start =>
    unfold evaluate at h
    split_ifs at h with hsaved
    · exact ⟨by simpa using hsaved, (Option.some.inj h).symm⟩
  | commit =>
    unfold evaluate at h
    split_ifs at h with hsaved
    · exact ⟨Option.isSome_iff_ne_none.mp hsaved, (Option.some.inj h).symm⟩
  | rollback =>
    obtain ⟨tables, htables, rfl⟩ := Option.map_eq_some_iff.mp h
    exact ⟨tables, htables, rfl⟩

def preparedCommand (log : List Call) (handle : ℕ) : Option Command :=
  match log[handle]? with
  | some ⟨some handle', .prepare sql, none⟩ => if handle' = handle then command (read sql) else none
  | _ => none

theorem preparedCommand_eq {log : List Call} {handle : ℕ} {sql : Text} (h : Prepared log handle sql) :
    preparedCommand log handle = command (read sql) := by
  rw [preparedCommand, h]
  exact if_pos rfl

def afterRun (log : List Call) (content : Content) (handle : ℕ) : Option Content :=
  (preparedCommand log handle).bind (evaluate store catalog (params log handle) content)

/-- The content after one more call. -/
def nextContent (log : List Call) (content : Content) (c : Call) : Content :=
  match c.started, c.handle with
  | some _, some handle => (afterRun store catalog log content handle).getD content
  | _, _ => content

def replay (log : List Call) : List Call × Content :=
  log.foldl (fun s c => (s.1 ++ [c], nextContent store catalog s.1 s.2 c))
    ([], ⟨fun _ => [], none, 0⟩)

theorem replay_append (log : List Call) (c : Call) :
    replay store catalog (log ++ [c]) = ((replay store catalog log).1 ++ [c],
      nextContent store catalog (replay store catalog log).1 (replay store catalog log).2 c) := by
  rw [replay, List.foldl_append]
  rfl

theorem replay_fst (log : List Call) : (replay store catalog log).1 = log := by
  induction log using List.reverseRecOn with
  | nil => rfl
  | append_singleton log c ih => rw [replay_append, ih]

def contentOf (log : List Call) : Content := (replay store catalog log).2

theorem contentOf_append (log : List Call) (c : Call) : contentOf store catalog (log ++ [c]) =
    nextContent store catalog log (contentOf store catalog log) c := by
  rw [contentOf, replay_append, replay_fst]
  rfl

/-- A command that cannot be done fails with a constraint error. -/
def replaying : Engine where
  prepare _ sql := .ok (some ⟨(read sql).count .mark,
    match command (read sql) with
    | some (.select columns _ _) => columns.map fun c => ⟨c, none⟩
    | _ => []⟩)
  reset _ _ := none
  bind _ _ _ _ := none
  run log handle :=
    if (afterRun store catalog log (contentOf store catalog log) handle).isSome then
      ⟨(preparedCommand log handle).elim []
        (answer store catalog (params log handle) (contentOf store catalog log)), none⟩
    else ⟨[], some ⟨19, by decide⟩⟩
  message _ := noError

def replayed : Database (replaying store catalog) store catalog where
  content := contentOf store catalog
  content_unstepped log c hc := by
    rw [contentOf_append]
    by_cases hstep : c.isStep = true
    · rw [nextContent, (hc c List.mem_cons_self hstep).2]
    · obtain ⟨handle, action, result⟩ := c
      cases action with
      | step started => exact absurd rfl hstep
      | _ => rfl
  ran log handle sql cmd result hprepared hcmd _ hbegins := by
    rw [contentOf_append]
    have hafter : (afterRun store catalog log (contentOf store catalog log) handle).isSome := by
      by_contra hnone
      have hrun : (replaying store catalog).run log handle = ⟨[], some ⟨19, by decide⟩⟩ :=
        if_neg hnone
      rw [hrun] at hbegins
      obtain h | h := hbegins
      · exact h rfl
      · cases h
    obtain ⟨after, hafter⟩ := Option.isSome_iff_exists.mp hafter
    change Changes store catalog (params log handle) cmd (contentOf store catalog log)
      ((afterRun store catalog log (contentOf store catalog log) handle).getD _)
    rw [hafter]
    unfold afterRun at hafter
    rw [preparedCommand_eq hprepared, hcmd] at hafter
    exact evaluate_changes store catalog (params log handle) hafter
  abandoned log handle sql cmd result hprepared hcmd hbegins := by
    rw [contentOf_append]
    by_cases hafter : (afterRun store catalog log (contentOf store catalog log) handle).isSome
    · have hrun : (replaying store catalog).run log handle = ⟨_, none⟩ := if_pos hafter
      rw [hrun] at hbegins
      exact absurd (.inr rfl) hbegins
    · left
      change (afterRun store catalog log (contentOf store catalog log) handle).getD _ = _
      rw [Option.not_isSome_iff_eq_none.mp hafter]
      rfl
  answers log handle sql cmd hprepared hcmd _ := by
    unfold replaying
    dsimp only
    split_ifs
    · rw [preparedCommand_eq hprepared, hcmd]
      exact ⟨_, .refl _, List.prefix_rfl, fun _ => rfl⟩
    · exact ⟨_, .refl _, List.nil_prefix, nofun⟩
  described log sql cmd d h hcmd := by
    cases h
    rw [hcmd]
    cases cmd with
    | select columns table key => exact List.length_map ..
    | _ => rfl
  told _ := noError_ne_nil

end

end DatabaseMod.SqlDatabase
