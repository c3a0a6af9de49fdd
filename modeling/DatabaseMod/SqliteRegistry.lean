import DatabaseMod.SqliteConnection
import DatabaseMod.SqlLedger

/-!
# The registry of open statements

Every result set with a statement stands in one slot of its connection, and a statement is
finalized once, before the database is closed. Each operation of the driver is shown to keep
the account of its own result set; the connection adds the accounts up.
-/

namespace DatabaseMod.SqliteRegistry
open SqlTokens (Text)
open CoreValues CoreResultSet CoreQuery SqlEngine SqlLedger SqliteDriver SqliteSteps
open SqliteConnection TSQLiteResultSet

/-! ### Slots -/

def slotCount (conn : TDBSQLite) (id : ℕ) : ℕ := conn.queries.count (some id)

theorem removeQuery_slotCount (conn : TDBSQLite) (id id' : ℕ) :
    slotCount (conn.removeQuery id) id' =
      if id' = id then slotCount conn id - 1 else slotCount conn id' := by
  unfold TDBSQLite.removeQuery slotCount
  cases hfind : conn.queries.findIdx? (· = some id) with
  | none =>
    have hcount : conn.queries.count (some id) = 0 :=
      List.count_eq_zero.mpr fun hmem => by
        simpa using List.findIdx?_eq_none_iff.mp hfind _ hmem
    split_ifs with hid
    · rw [hid, hcount]
    · rfl
  | some i =>
    obtain ⟨hi, heq, -⟩ := List.findIdx?_eq_some_iff_getElem.mp hfind
    have hslot : conn.queries[i] = some id := by simpa using heq
    dsimp only
    rw [List.count_set hi, hslot]
    split_ifs with hid <;> simp_all

theorem addQuery_slotCount (conn : TDBSQLite) {id : ℕ} (h : slotCount conn id ≤ 1) (id' : ℕ) :
    slotCount (conn.addQuery id) id' = if id' = id then 1 else slotCount conn id' := by
  unfold TDBSQLite.addQuery
  by_cases hmem : some id ∈ conn.queries
  · rw [if_pos hmem]
    have hpos : 0 < slotCount conn id := List.count_pos_iff.mpr hmem
    split_ifs with hid
    · rw [hid]
      omega
    · rfl
  · have hzero : conn.queries.count (some id) = 0 := List.count_eq_zero.mpr hmem
    rw [if_neg hmem]
    unfold slotCount
    cases hfind : conn.queries.findIdx? Option.isNone with
    | none =>
      dsimp only
      rw [List.count_append]
      by_cases hid : id' = id
      · simp [hid, hzero]
      · simp [hid, Ne.symm hid]
    | some i =>
      obtain ⟨hi, heq, -⟩ := List.findIdx?_eq_some_iff_getElem.mp hfind
      have hslot : conn.queries[i] = none := by simpa using heq
      dsimp only
      rw [List.count_set hi, hslot]
      by_cases hid : id' = id
      · simp [hid, hzero]
      · simp [hid, Ne.symm hid]

/-! ### What the operations of one result set keep -/

/-- A result set stands in at most one slot, and in one if it has a statement. -/
structure Registered (s : Session) : Prop where
  count_le : slotCount s.1 s.2.id ≤ 1
  registered : s.2.stmtHandle.isSome = true → slotCount s.1 s.2.id = 1

structure Kept (s s' : Session) : Prop where
  id_eq : s'.2.id = s.2.id
  created_eq : s'.1.created = s.1.created
  accounts : Accounts s.1.log s.2.stmtHandle s'.1.log s'.2.stmtHandle
  others : ∀ id ≠ s.2.id, slotCount s'.1 id = slotCount s.1 id
  own : Registered s → Registered s'

theorem Kept.refl (s : Session) : Kept s s := ⟨rfl, rfl, .refl .., fun _ _ => rfl, fun h => h⟩

theorem Kept.trans {s₁ s₂ s₃ : Session} (h : Kept s₁ s₂) (h' : Kept s₂ s₃) : Kept s₁ s₃ where
  id_eq := h'.id_eq.trans h.id_eq
  created_eq := h'.created_eq.trans h.created_eq
  accounts := h.accounts.trans h'.accounts
  others id hid := (h'.others id (h.id_eq ▸ hid)).trans (h.others id hid)
  own hs := h'.own (h.own hs)

/-- Operations that leave the slots alone and change the statement only natively. -/
theorem Kept.of_queries {s s' : Session} (hid : s'.2.id = s.2.id)
    (hcreated : s'.1.created = s.1.created) (hqueries : s'.1.queries = s.1.queries)
    (haccounts : Accounts s.1.log s.2.stmtHandle s'.1.log s'.2.stmtHandle)
    (hstmt : s'.2.stmtHandle.isSome = s.2.stmtHandle.isSome) : Kept s s' := by
  have hslots (id : ℕ) : slotCount s'.1 id = slotCount s.1 id :=
    congrArg (List.count (some id)) hqueries
  refine ⟨hid, hcreated, haccounts, fun id _ => hslots id, fun h => ⟨?_, ?_⟩⟩
  · rw [hslots, hid]
    exact h.count_le
  · rw [hslots, hid, hstmt]
    exact h.registered

section

variable (e : Engine) (conv : Conversions)

theorem setError_kept (s : Session) (error append : Text) (errorValue : ℤ) :
    Kept s (s.1.setError error append errorValue, s.2) :=
  .of_queries rfl rfl rfl (.refl ..) rfl

theorem resetHandle_kept (s : Session) : Kept s (resetHandle e s).1 := by
  refine .of_queries rfl rfl rfl (resetStatement_accounts e s.1.log s.2.stmtHandle) ?_
  change (resetStatement e s.1.log s.2.stmtHandle).2.1.isSome = _
  rw [resetStatement_statement, Option.isSome_map]

theorem removeQuery_created (conn : TDBSQLite) (id : ℕ) :
    (conn.removeQuery id).created = conn.created := by
  unfold TDBSQLite.removeQuery
  split <;> rfl

theorem addQuery_created (conn : TDBSQLite) (id : ℕ) :
    (conn.addQuery id).created = conn.created := by
  unfold TDBSQLite.addQuery
  split
  · rfl
  · split <;> rfl

theorem free_slotCount (s : Session) (id : ℕ) : slotCount (free s).1 id =
    if id = s.2.id then slotCount s.1 s.2.id - 1 else slotCount s.1 id :=
  removeQuery_slotCount s.1 s.2.id id

theorem free_kept (s : Session) : Kept s (free s) := by
  refine ⟨rfl, removeQuery_created s.1 s.2.id, ?_, fun id hid => ?_, fun h => ⟨?_, ?_⟩⟩
  · change Accounts s.1.log s.2.stmtHandle
      (finalize (s.1.removeQuery s.2.id).log s.2.stmtHandle) none
    rw [removeQuery_log]
    exact finalize_accounts s.1.log s.2.stmtHandle
  · rw [free_slotCount, if_neg hid]
  · change slotCount (free s).1 s.2.id ≤ 1
    have hle := h.count_le
    rw [free_slotCount, if_pos rfl]
    omega
  · intro hsome
    cases hsome

theorem addQuery_kept (s : Session) (h : Registered s) :
    Kept s (s.1.addQuery s.2.id, s.2) ∧ slotCount (s.1.addQuery s.2.id) s.2.id = 1 := by
  have hone : slotCount (s.1.addQuery s.2.id) s.2.id = 1 := by
    rw [addQuery_slotCount s.1 h.count_le, if_pos rfl]
  refine ⟨⟨rfl, addQuery_created s.1 s.2.id, ?_, fun id hid => ?_, fun _ => ⟨hone.le, fun _ => hone⟩⟩,
    hone⟩
  · change Accounts s.1.log s.2.stmtHandle (s.1.addQuery s.2.id).log s.2.stmtHandle
    rw [addQuery_log]
    exact .refl ..
  · exact (addQuery_slotCount s.1 h.count_le id).trans (if_neg hid)

theorem bindParameters_accounts (stmtHandle : Option Statement) (i : ℕ) (log : List Call)
    (values : List (Option TDBType)) :
    Accounts log stmtHandle (bindParameters e conv stmtHandle i log values).1 stmtHandle := by
  induction values generalizing i log with
  | nil => exact .refl log stmtHandle
  | cons value values ih =>
    unfold bindParameters
    cases parameterOf conv value with
    | none => exact ih (i + 1) log
    | some parameter =>
      dsimp only
      have hbind := bindStatement_accounts e log stmtHandle (i + 1) parameter
      cases (bindStatement e log (i + 1) parameter stmtHandle).2 with
      | none => exact hbind.trans (ih (i + 1) _)
      | some code => exact hbind

theorem stepped_kept (s : Session) : Kept s (stepped e s) := by
  have hstep := stepStatement_accounts e s.1.log s.2.stmtHandle
  have hhandle := congrArg Option.isSome (stepStatement_handle e s.1.log s.2.stmtHandle)
  rw [Option.isSome_map, Option.isSome_map] at hhandle
  rw [← beginFetch_stmtHandle s.2] at hstep hhandle
  refine .of_queries (beginFetch_id s.2) rfl rfl ?_ ?_
  · rw [← beginFetch_stmtHandle s.2]
    exact hstep
  · rw [← beginFetch_stmtHandle s.2]
    exact hhandle

theorem nextRow_kept (s : Session) : Kept s (nextRow e s).2 := by
  by_cases hfake : s.2.fakeFirstRowFetch = true
  · rw [nextRow_fake e hfake]
    exact .of_queries rfl rfl rfl (.refl ..) rfl
  rw [nextRow_stepped e (by simpa using hfake)]
  have hstepped := stepped_kept e s
  cases (stepStatement e s.1.log (beginFetch s.2).stmtHandle).2.2 with
  | row row =>
    have hstored := storeRow_stmtHandle (stepped e s).2 row
    refine hstepped.trans (.of_queries (ensureRecord_id _) rfl rfl ?_ (congrArg Option.isSome hstored))
    rw [hstored]
    exact .refl ..
  | done =>
    have hstored := storeEnd_stmtHandle (stepped e s).2
    have hstore : Kept (stepped e s) ((stepped e s).1, storeEnd (stepped e s).2) := by
      refine .of_queries (ensureRecord_id _) rfl rfl ?_ (congrArg Option.isSome hstored)
      rw [hstored]
      exact .refl ..
    exact (hstepped.trans hstore).trans (resetHandle_kept e _)
  | failed code =>
    exact (hstepped.trans (resetHandle_kept e (stepped e s))).trans (setError_kept _ _ _ _)

theorem prefetch_kept (s : Session) : Kept s (prefetch e s).2 := by
  refine (nextRow_kept e s).trans ?_
  unfold prefetch
  dsimp only
  split_ifs
  · exact .of_queries rfl rfl rfl (.refl ..) rfl
  · exact .of_queries rfl rfl rfl (.refl ..) rfl

theorem execute_kept (s : Session) : Kept s (execute e conv s).2 := by
  have hfirst : Kept s (s.1, { s.2 with fakeFirstRowFetch := false }) :=
    .of_queries rfl rfl rfl (.refl ..) rfl
  have hreset := hfirst.trans (resetHandle_kept e (s.1, { s.2 with fakeFirstRowFetch := false }))
  unfold execute
  generalize resetHandle e (s.1, { s.2 with fakeFirstRowFetch := false }) = r at hreset
  dsimp only
  cases r.2 with
  | some code => exact (hreset.trans (setError_kept _ _ _ _)).trans (free_kept _)
  | none =>
    dsimp only
    split_ifs
    · have hbind := bindParameters_accounts e conv r.1.2.stmtHandle 0 r.1.1.log
        (r.1.2.boundValues.take (parameterCount r.1.2.stmtHandle))
      generalize bindParameters e conv r.1.2.stmtHandle 0 r.1.1.log
        (r.1.2.boundValues.take (parameterCount r.1.2.stmtHandle)) = b at hbind
      have hbound : Kept s ({ r.1.1 with log := b.1 }, r.1.2) :=
        hreset.trans (.of_queries rfl rfl rfl hbind rfl)
      cases b.2 with
      | none => exact hbound.trans (prefetch_kept e _)
      | some failure =>
        obtain ⟨i, code⟩ := failure
        exact ((hbound.trans (resetHandle_kept e _)).trans (setError_kept _ _ _ _)).trans
          (free_kept _)
    · exact (hreset.trans (setError_kept _ _ _ _)).trans (free_kept _)

theorem cleanup_kept (s : Session) : Kept s (cleanup s) := by
  have hfirst : Kept s (TSQLiteResultSet.clear (s.1, { s.2 with
      index := SQL_BeforeFirstRow, initialFetch := true })) :=
    .of_queries rfl rfl rfl (.refl ..) rfl
  exact hfirst.trans (free_kept _)

/-- A statement that was just prepared belongs to a result set that stands in a slot. -/
theorem prepared_kept {s : Session} (sql : Text) (hnone : s.2.stmtHandle = none)
    (hone : slotCount s.1 s.2.id = 1) :
    Kept s ({ s.1 with log := (prepareStatement e s.1.log sql).1 }, { s.2 with
      query := sql, stmtHandle := (prepareStatement e s.1.log sql).2.toOption.join }) := by
  refine ⟨rfl, rfl, ?_, fun _ _ => rfl, fun _ => ⟨hone.le, fun _ => hone⟩⟩
  rw [hnone]
  exact prepareStatement_accounts e s.1.log sql

theorem prepare_kept (stmt : Text) {s : Session} (h : Registered s) :
    Kept s (prepare e stmt s).2 := by
  unfold prepare
  by_cases hopen : s.1.isOpen = true
  swap
  · rw [if_pos hopen]
    exact .refl s
  rw [if_neg (not_not.mpr hopen)]
  have hclean := cleanup_kept s
  have hregistered := hclean.own h
  have hnone : (cleanup s).2.stmtHandle = none := rfl
  generalize cleanup s = t at hclean hregistered hnone
  obtain ⟨hadd, hone⟩ := addQuery_kept t hregistered
  dsimp only
  have hprepared := prepared_kept e (s := (t.1.addQuery t.2.id, t.2))
    (if t.2.query = [] then stmt else t.2.query) hnone hone
  generalize (if t.2.query = [] then stmt else t.2.query) = query at hprepared ⊢
  cases hres : (prepareStatement e (t.1.addQuery t.2.id).log query).2 with
  | error code =>
    rw [hres] at hprepared
    refine Kept.trans ?_ (free_kept _)
    exact ((hclean.trans hadd).trans hprepared).trans (setError_kept _ _ _ _)
  | ok stmtHandle =>
    rw [hres] at hprepared
    exact (hclean.trans hadd).trans hprepared

theorem executeQuery_kept (statement : Text) {s : Session} (h : Registered s) :
    Kept s (executeQuery e conv statement s).2 := by
  have hprepared := prepare_kept e statement h
  unfold executeQuery
  dsimp only
  split_ifs
  · exact hprepared.trans (execute_kept e conv _)
  · exact hprepared

theorem firstRow_kept (s : Session) : Kept s (firstRow e s).2 := by
  unfold firstRow
  split_ifs
  · exact nextRow_kept e s
  · exact .refl s

theorem reset_kept (s : Session) : Kept s (reset e s) := by
  have hfirst : Kept s (s.1, { s.2 with initialFetch := true, index := SQL_BeforeFirstRow }) :=
    .of_queries rfl rfl rfl (.refl ..) rfl
  exact hfirst.trans (resetHandle_kept e _)

end

/-! ### The connection -/

/-- The statements that the result sets hold under a handle. -/
def holders (sets : List TSQLiteResultSet) (handle : ℕ) : ℕ :=
  (sets.map fun rs => held rs.stmtHandle handle).sum

structure Sound (s : Store) : Prop where
  id_eq : ∀ (i : ℕ) (hi : i < s.sets.length), s.sets[i].id = i
  created_eq : s.conn.created = s.sets.length
  slots_lt : ∀ id, 0 < slotCount s.conn id → id < s.sets.length
  registered : ∀ rs ∈ s.sets, Registered (s.conn, rs)
  numbered : Numbered s.conn.log
  balance : ∀ handle, prepareCount s.conn.log handle =
    finalizeCount s.conn.log handle + holders s.sets handle
  closed : ∀ n ∈ s.closedAt, n ≤ s.conn.log.length ∧
    ∀ handle, prepareCount (s.conn.log.take n) handle = finalizeCount (s.conn.log.take n) handle

theorem holders_set {sets : List TSQLiteResultSet} {i : ℕ} (hi : i < sets.length)
    (rs : TSQLiteResultSet) (handle : ℕ) :
    holders (sets.set i rs) handle + held sets[i].stmtHandle handle =
      holders sets handle + held rs.stmtHandle handle := by
  induction sets generalizing i with
  | nil => cases hi
  | cons head sets ih =>
    cases i with
    | zero =>
      simp only [holders, List.set_cons_zero, List.map_cons, List.sum_cons, List.getElem_cons_zero]
      omega
    | succ i =>
      have htail := ih (i := i) (by simpa using hi)
      simp only [holders, List.set_cons_succ, List.map_cons, List.sum_cons,
        List.getElem_cons_succ] at htail ⊢
      omega

theorem sound_create : Sound .create where
  id_eq i hi := by cases hi
  created_eq := rfl
  slots_lt id h := by cases h
  registered rs h := by cases h
  numbered i hi := by cases hi
  balance _ := rfl
  closed n h := by cases h

theorem take_of_grows {log log' : List Call} (h : log <+: log') {n : ℕ} (hn : n ≤ log.length) :
    log'.take n = log.take n := by
  obtain ⟨calls, rfl⟩ := h
  exact List.take_append_of_le_length hn

/-- An operation on one result set that keeps its account keeps the whole one. -/
theorem Sound.on {s : Store} (h : Sound s) {id : ℕ} {f : Session → Session}
    (hf : ∀ rs, s.sets[id]? = some rs → Registered (s.conn, rs) → Kept (s.conn, rs) (f (s.conn, rs))) :
    Sound (s.on id f) := by
  unfold Store.on
  cases hrs : s.sets[id]? with
  | none => exact h
  | some rs =>
    obtain ⟨hi, rfl⟩ := List.getElem?_eq_some_iff.mp hrs
    have hid := h.id_eq id hi
    have hkept := hf _ hrs (h.registered _ (List.getElem_mem hi))
    have hown := hkept.own (h.registered _ (List.getElem_mem hi))
    dsimp only
    generalize f (s.conn, s.sets[id]) = t at hkept hown ⊢
    have hothers (id' : ℕ) (hne : id' ≠ id) : slotCount t.1 id' = slotCount s.conn id' :=
      hkept.others id' (hid.symm ▸ hne)
    refine ⟨fun i hi' => ?_, ?_, fun id' hpos => ?_, fun rs' hrs' => ?_, ?_, fun handle => ?_,
      fun n hn => ?_⟩
    · have hlt : i < s.sets.length := by simpa using hi'
      rcases eq_or_ne id i with rfl | hne
      · simpa [hid] using hkept.id_eq
      · simpa [List.getElem_set_ne hne] using h.id_eq i hlt
    · simpa using hkept.created_eq.trans h.created_eq
    · rw [List.length_set]
      rcases eq_or_ne id' id with rfl | hne
      · exact hi
      · exact h.slots_lt id' (hothers id' hne ▸ hpos)
    · obtain ⟨i, hi', rfl⟩ := List.getElem_of_mem hrs'
      have hlt : i < s.sets.length := by simpa using hi'
      rcases eq_or_ne id i with rfl | hne
      · simpa using hown
      · rw [List.getElem_set_ne hne]
        have hreg := h.registered _ (List.getElem_mem hlt)
        have hslot := hothers s.sets[i].id (by rw [h.id_eq i hlt]; exact hne.symm)
        exact ⟨hslot ▸ hreg.count_le, fun hsome => hslot ▸ hreg.registered hsome⟩
    · exact hkept.accounts.numbered h.numbered
    · have hb := hkept.accounts.balance handle
      have hs := holders_set hi t.2 handle
      have hold := h.balance handle
      dsimp only at hb ⊢
      omega
    · obtain ⟨hle, hcounts⟩ := h.closed n hn
      refine ⟨hle.trans hkept.accounts.grows.length_le, fun handle => ?_⟩
      rw [take_of_grows hkept.accounts.grows hle]
      exact hcounts handle

theorem Sound.createResultSet {s : Store} (h : Sound s) : Sound s.createResultSet := by
  have hzero : slotCount s.conn s.conn.created = 0 := by
    by_contra hne
    have hlt := h.slots_lt _ (Nat.pos_of_ne_zero hne)
    rw [h.created_eq] at hlt
    exact lt_irrefl _ hlt
  have hslots (id : ℕ) : slotCount s.createResultSet.conn id =
      if id = s.conn.created then 1 else slotCount s.conn id :=
    addQuery_slotCount s.conn (hzero.trans_le (Nat.zero_le 1)) id
  have hsets : s.createResultSet.sets =
      s.sets ++ [(TSQLiteResultSet.createResultSet s.conn).2] := rfl
  have hlog : s.createResultSet.conn.log = s.conn.log := addQuery_log s.conn s.conn.created
  refine ⟨fun i hi => ?_, ?_, fun id hpos => ?_, fun rs hrs => ?_, hlog ▸ h.numbered,
    fun handle => ?_, hlog ▸ h.closed⟩
  · rcases Nat.lt_or_ge i s.sets.length with hlt | hge
    · simpa [hsets, List.getElem_append_left hlt] using h.id_eq i hlt
    · obtain rfl : i = s.sets.length := by
        simp only [hsets, List.length_append, List.length_singleton] at hi
        omega
      simp only [hsets, List.getElem_concat_length]
      exact h.created_eq
  · rw [hsets, List.length_append]
    exact congrArg (· + 1) h.created_eq
  · rw [hsets, List.length_append, List.length_singleton]
    rw [hslots] at hpos
    split_ifs at hpos with hid
    · rw [hid, h.created_eq]
      omega
    · have hlt := h.slots_lt id hpos
      omega
  · rcases List.mem_append.mp hrs with hold | hnew
    · obtain ⟨i, hi, rfl⟩ := List.getElem_of_mem hold
      have hreg := h.registered _ hold
      have hslot : slotCount s.createResultSet.conn s.sets[i].id = slotCount s.conn s.sets[i].id := by
        rw [hslots, if_neg]
        rw [h.id_eq i hi, h.created_eq]
        exact hi.ne
      exact ⟨hslot ▸ hreg.count_le, fun hsome => hslot ▸ hreg.registered hsome⟩
    · obtain rfl := List.mem_singleton.mp hnew
      refine ⟨((hslots _).trans (if_pos rfl)).le, fun hsome => ?_⟩
      cases hsome
  · rw [hlog, h.balance handle, hsets]
    simp [holders, TSQLiteResultSet.createResultSet, held]

/-! ### Closing -/

theorem removeQuery_getElem? (conn : TDBSQLite) (id i : ℕ) :
    (conn.removeQuery id).queries[i]? = conn.queries[i]? ∨
      (conn.removeQuery id).queries[i]? = some none := by
  unfold TDBSQLite.removeQuery
  split
  next k hk =>
    dsimp only
    rw [List.getElem?_set]
    split_ifs with hki hlt
    · exact .inr rfl
    · exact .inl (by rw [List.getElem?_eq_none (by omega)])
    · exact .inl rfl
  next => exact .inl rfl

/-- The first `k` slots are empty. -/
def Cleared (conn : TDBSQLite) (k : ℕ) : Prop :=
  ∀ i < k, ∀ id, conn.queries[i]? ≠ some (some id)

theorem Sound.clearSlot {s : Store} (h : Sound s) {k : ℕ} (hk : Cleared s.conn k) :
    Sound (s.clearSlot k) ∧ Cleared (s.clearSlot k).conn (k + 1) ∧
      (s.clearSlot k).sets.length = s.sets.length ∧
      (s.clearSlot k).conn.toTDBConnection = s.conn.toTDBConnection ∧
      (s.clearSlot k).conn.queries.length = s.conn.queries.length ∧
      (s.clearSlot k).closedAt = s.closedAt := by
  unfold Store.clearSlot
  split
  next id hslot =>
    have hmem : some id ∈ s.conn.queries := List.mem_of_getElem? hslot
    have hlt := h.slots_lt id (List.count_pos_iff.mpr hmem)
    have hsound : Sound (s.on id free) := h.on fun rs _ _ => free_kept (s.conn, rs)
    have hon : s.on id free = { s with
        conn := (free (s.conn, s.sets[id])).1
        sets := s.sets.set id (free (s.conn, s.sets[id])).2 } := by
      rw [Store.on, List.getElem?_eq_getElem hlt]
    have hqueries : (s.on id free).conn.queries = (s.conn.removeQuery id).queries := by
      have hfreed : (free (s.conn, s.sets[id])).1.queries =
          (s.conn.removeQuery s.sets[id].id).queries := rfl
      rw [hon, hfreed, h.id_eq id hlt]
    have hslots (i : ℕ) := removeQuery_getElem? s.conn id i
    rw [← hqueries] at hslots
    refine ⟨hsound, fun i hi id' heq => ?_, ?_, ?_, ?_, ?_⟩
    · rcases Nat.lt_succ_iff_lt_or_eq.mp hi with hlt' | rfl
      · rcases hslots i with hsame | hnone
        · exact hk i hlt' id' (hsame.symm.trans heq)
        · rw [hnone] at heq
          cases heq
      · -- the only slot of this result set was emptied
        have hzero : slotCount (s.on id free).conn id = 0 := by
          have hle := (h.registered _ (List.getElem_mem hlt)).count_le
          have hcount := removeQuery_slotCount s.conn id id
          rw [if_pos rfl] at hcount
          have hle' : slotCount s.conn id ≤ 1 := by simpa [h.id_eq id hlt] using hle
          rw [slotCount, hqueries]
          change slotCount (s.conn.removeQuery id) id = 0
          omega
        rcases hslots i with hsame | hnone
        · obtain rfl : id = id' := by
            rw [hsame, hslot] at heq
            simpa using heq
          exact List.count_eq_zero.mp hzero (List.mem_of_getElem? heq)
        · rw [hnone] at heq
          cases heq
    · rw [hon, List.length_set]
    · rw [hon]
      exact removeQuery_connection _ _
    · rw [hqueries]
      unfold TDBSQLite.removeQuery
      split
      · exact List.length_set
      · rfl
    · rw [hon]
  next hnone =>
    refine ⟨h, fun i hi id heq => ?_, rfl, rfl, rfl, rfl⟩
    rcases Nat.lt_succ_iff_lt_or_eq.mp hi with hlt | rfl
    · exact hk i hlt id heq
    · exact hnone id heq

/-- What clearing leaves: no result set has a statement, and every slot is empty. -/
structure Emptied (s : Store) : Prop where
  statements : ∀ rs ∈ s.sets, rs.stmtHandle = none
  slots : ∀ q ∈ s.conn.queries, q = none

theorem Sound.clearQueries {s : Store} (h : Sound s) :
    Sound s.clearQueries ∧ Emptied s.clearQueries ∧
      s.clearQueries.conn.toTDBConnection = s.conn.toTDBConnection ∧
      s.clearQueries.closedAt = s.closedAt := by
  have hloop (k : ℕ) : Sound ((List.range k).foldl (fun s i => s.clearSlot i) s) ∧
      Cleared ((List.range k).foldl (fun s i => s.clearSlot i) s).conn k ∧
      ((List.range k).foldl (fun s i => s.clearSlot i) s).conn.toTDBConnection =
        s.conn.toTDBConnection ∧
      ((List.range k).foldl (fun s i => s.clearSlot i) s).conn.queries.length =
        s.conn.queries.length ∧
      ((List.range k).foldl (fun s i => s.clearSlot i) s).closedAt = s.closedAt := by
    induction k with
    | zero => exact ⟨h, fun i hi => absurd hi (Nat.not_lt_zero i), rfl, rfl, rfl⟩
    | succ k ih =>
      obtain ⟨hsound, hcleared, hconn, hlength, hclosed⟩ := ih
      obtain ⟨hsound', hcleared', -, hconn', hlength', hclosed'⟩ := hsound.clearSlot hcleared
      rw [List.range_succ, List.foldl_append]
      exact ⟨hsound', hcleared', hconn'.trans hconn, hlength'.trans hlength, hclosed'.trans hclosed⟩
  obtain ⟨hsound, hcleared, hconn, hlength, hclosed⟩ := hloop s.conn.queries.length
  change Sound s.clearQueries at hsound
  have hslots : ∀ q ∈ s.clearQueries.conn.queries, q = none := by
    intro q hq
    obtain ⟨i, hi, rfl⟩ := List.getElem_of_mem hq
    by_contra hne
    obtain ⟨id, hid⟩ := Option.ne_none_iff_exists'.mp hne
    exact hcleared i (hlength ▸ hi) id ((List.getElem?_eq_getElem hi).trans (congrArg some hid))
  refine ⟨hsound, ⟨fun rs hrs => ?_, hslots⟩, hconn, hclosed⟩
  by_contra hne
  have hone := (hsound.registered rs hrs).registered (Option.isSome_iff_ne_none.mpr hne)
  have hmem : some rs.id ∈ s.clearQueries.conn.queries :=
    List.count_pos_iff.mp (Nat.one_pos.trans_eq hone.symm)
  exact absurd (hslots _ hmem) (by simp)

theorem Sound.setConnection {s : Store} (h : Sound s) (base : TDBConnection) :
    Sound (s.setConnection base) :=
  ⟨h.id_eq, h.created_eq, h.slots_lt,
    fun rs hrs => ⟨(h.registered rs hrs).count_le, (h.registered rs hrs).registered⟩,
    h.numbered, h.balance, h.closed⟩

/-- Where nothing is held any more the account is even, and the database may be closed. -/
theorem Sound.closing {s : Store} (h : Sound s) (hemptied : Emptied s) (base : TDBConnection) :
    Sound { s.setConnection base with closedAt := s.closedAt ++ [s.conn.log.length] } := by
  have hset := h.setConnection base
  refine ⟨hset.id_eq, hset.created_eq, hset.slots_lt, hset.registered, hset.numbered, hset.balance,
    fun n hn => ?_⟩
  rcases List.mem_append.mp hn with hold | hnew
  · exact hset.closed n hold
  · obtain rfl := List.mem_singleton.mp hnew
    refine ⟨le_rfl, fun handle => ?_⟩
    have hnone : holders s.sets handle = 0 := by
      refine List.sum_eq_zero fun x hx => ?_
      obtain ⟨rs, hrs, rfl⟩ := List.mem_map.mp hx
      rw [hemptied.statements rs hrs]
      rfl
    have hbalance := h.balance handle
    rw [hnone] at hbalance
    change prepareCount (s.conn.log.take s.conn.log.length) handle =
      finalizeCount (s.conn.log.take s.conn.log.length) handle
    rw [List.take_length]
    exact hbalance

theorem Sound.close {s : Store} (h : Sound s) (failed : Bool) :
    Sound (s.close failed) ∧ Emptied (s.close failed) := by
  obtain ⟨hsound, hemptied, -, -⟩ := h.clearQueries
  unfold Store.close
  dsimp only
  by_cases hopen : s.clearQueries.conn.isOpen = true
  · rw [if_pos hopen]
    exact ⟨hsound.closing hemptied _, hemptied.statements, hemptied.slots⟩
  · rw [if_neg hopen]
    exact ⟨hsound, hemptied⟩

theorem Sound.open {s : Store} (h : Sound s) (failed : Bool) (result : Option ErrorCode) :
    Sound (s.open failed result) := by
  unfold Store.open
  dsimp only
  have hclosed : Sound (if s.conn.isOpen then s.close failed else s) := by
    split_ifs
    · exact (h.close failed).1
    · exact h
  cases result with
  | none => exact hclosed.setConnection _
  | some code => exact hclosed.setConnection _

theorem Sound.apply (e : Engine) (conv : Conversions) {s : Store} (h : Sound s) (op : Op) :
    Sound (op.apply e conv s) := by
  cases op with
  | create => exact h.createResultSet
  | prepare id stmt =>
    exact h.on (f := fun t => (TSQLiteResultSet.prepare e stmt t).2)
      fun _ _ hrs => prepare_kept e stmt hrs
  | execute id =>
    exact h.on (f := fun t => (TSQLiteResultSet.execute e conv t).2)
      fun rs _ _ => execute_kept e conv (s.conn, rs)
  | executeQuery id statement =>
    exact h.on (f := fun t => (TSQLiteResultSet.executeQuery e conv statement t).2)
      fun _ _ hrs => executeQuery_kept e conv statement hrs
  | firstRow id =>
    exact h.on (f := fun t => (TSQLiteResultSet.firstRow e t).2)
      fun rs _ _ => firstRow_kept e (s.conn, rs)
  | nextRow id =>
    exact h.on (f := fun t => (TSQLiteResultSet.nextRow e t).2)
      fun rs _ _ => nextRow_kept e (s.conn, rs)
  | reset id => exact h.on fun rs _ _ => reset_kept e (s.conn, rs)
  | free id => exact h.on fun rs _ _ => free_kept (s.conn, rs)
  | core id base lastError =>
    refine h.on (f := fun t =>
      ({ t.1 with toTDBConnection := { t.1.toTDBConnection with lastError := lastError } },
        { t.2 with toTQueryResultSet := base })) fun _ _ _ => ?_
    exact .of_queries rfl rfl rfl (.refl ..) rfl
  | close failed => exact (h.close failed).1
  | «open» failed result => exact h.open failed result

theorem sound_run (e : Engine) (conv : Conversions) (ops : List Op) : Sound (run e conv ops) := by
  induction ops using List.reverseRecOn with
  | nil => exact sound_create
  | append_singleton ops op ih =>
    rw [run, List.foldl_append]
    exact ih.apply e conv op

/-- Result sets are told apart by their names; one with a statement stands in exactly one
slot, and none stands in two. -/
structure Consistent (s : Store) : Prop where
  named : ∀ (i : ℕ) (hi : i < s.sets.length), s.sets[i].id = i
  registered : ∀ rs ∈ s.sets, rs.stmtHandle ≠ none → s.conn.queries.count (some rs.id) = 1
  at_most_once : ∀ id, s.conn.queries.count (some id) ≤ 1

/-- No statement is finalized twice, and before each closing every one was finalized. -/
structure FinalizedOnce (s : Store) : Prop where
  at_most_once : ∀ handle, finalizeCount s.conn.log handle ≤ 1
  before_close : ∀ n ∈ s.closedAt, ∀ handle, prepareCount (s.conn.log.take n) handle ≠ 0 →
    finalizeCount (s.conn.log.take n) handle = 1

/-- The registry after any operations, and after closing the connection then. -/
theorem registry_correct (e : Engine) (conv : Conversions) (ops : List Op) (failed : Bool) :
    Consistent (run e conv ops) ∧ FinalizedOnce (run e conv ops) ∧
      Emptied ((run e conv ops).close failed) := by
  have h := sound_run e conv ops
  refine ⟨⟨h.id_eq, fun rs hrs hne => ?_, fun id => ?_⟩, ⟨fun handle => ?_, fun n hn handle hne => ?_⟩,
    (h.close failed).2⟩
  · exact (h.registered rs hrs).registered (Option.isSome_iff_ne_none.mpr hne)
  · by_contra hgt
    have hlt := h.slots_lt id (by unfold slotCount; omega)
    have hle := (h.registered _ (List.getElem_mem hlt)).count_le
    rw [h.id_eq id hlt] at hle
    exact hgt hle
  · have hle := h.numbered.prepareCount_le handle
    have hbalance := h.balance handle
    omega
  · obtain ⟨-, heq⟩ := h.closed n hn
    have hle := (List.take_prefix n (run e conv ops).conn.log).sublist.countP_le
      (p := (prepared · = some handle))
    have hone := h.numbered.prepareCount_le handle
    have heven := heq handle
    unfold prepareCount at hone hne heven
    omega

end DatabaseMod.SqliteRegistry
