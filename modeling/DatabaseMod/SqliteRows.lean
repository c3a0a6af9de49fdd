import DatabaseMod.SqliteRecord

/-!
# The rows that a query shows

A run of calls on a query is followed with the row that the engine answered last. What the query
shows after a call that delivers a row is compared with this row, cell by cell. A null cell makes
no value: its slot keeps the old one, which has been cleared.
-/

namespace DatabaseMod.SqliteRows
open CoreValues CoreResultSet CoreQuery CoreInvariant SqlEngine SqliteDriver SqliteSteps
open SqliteInvariant SqliteCursor SqliteRounds SqliteRecord TSQLiteResultSet
open SqlTokens (Text trim)
open SqliteVerdict (callsBetween opened query_verdict)

variable (e : Engine) (conv : Conversions)

/-! ### What a query shows of a row -/

/-- Each column shows its cell, and beyond the columns there is nothing of another row. -/
structure Shows (q : Query) (row : Row) : Prop where
  column : ∀ i < (queryColumns q).length,
    cellOf (q.value (driver e conv) i) = some (cell row i)
  beyond : ∀ i, (queryColumns q).length ≤ i →
    cellOf (q.value (driver e conv) i) = some .null ∨
      cellOf (q.value (driver e conv) i) = some (cell row i)

/-- The record has a field for every column whose cell is not null, and no null cell comes to a
slot that holds a blob without data. An empty record is made anew. -/
def Fits (record : TQueryRecord) (values : List (Option TDBType)) (width : ℕ) (row : Row) : Prop :=
  record.isEmpty = true ∨ (∀ i < width, record.count ≤ i → cell row i = .null) ∧
    ∀ i, cell row i = .null → values[i]?.join ≠ some (.setBlob [])

/-! ### Blobs without data -/

theorem clear_eq_iff (v : TDBType) : v.clear = .setBlob [] ↔ v = .setBlob [] := by
  obtain ⟨content, isNull⟩ := v
  cases content with
  | blob value => cases value <;> simp [TDBType.clear, TDBType.setBlob]
  | temporal kind parts text => cases kind <;> simp [TDBType.clear, TDBType.setBlob]
  | _ => simp [TDBType.clear, TDBType.setBlob]

theorem fits_clearSlots_iff {record : TQueryRecord} {values : List (Option TDBType)} {width : ℕ}
    {row : Row} (n : ℕ) :
    Fits record (clearSlots^[n] values) width row ↔ Fits record values width row := by
  induction n with
  | zero => rfl
  | succ n ih =>
    rw [Function.iterate_succ_apply', ← ih]
    have hslot (i : ℕ) : (clearSlots (clearSlots^[n] values))[i]?.join ≠ some (.setBlob []) ↔
        (clearSlots^[n] values)[i]?.join ≠ some (.setBlob []) := by
      rw [clearSlots, List.getElem?_map]
      rcases (clearSlots^[n] values)[i]? with _ | _ | v
      · rfl
      · rfl
      · simpa using not_congr (clear_eq_iff v)
    simp only [Fits, hslot]

theorem clears_iff (old : Option TDBType) : Clears old ↔ old ≠ some (.setBlob []) := by
  unfold Clears
  cases old with
  | none => simp
  | some v =>
    obtain ⟨content, isNull⟩ := v
    rw [Option.all_some, ne_eq, Option.some.injEq]
    cases content with
    | blob value =>
      cases value with
      | nil => cases isNull <;> simp [TDBType.clear, TDBType.setBlob]
      | cons byte bytes => simp [TDBType.clear, TDBType.setBlob]
    | temporal kind parts text =>
      cases kind <;> simp [TDBType.clear, TDBType.setBlob]
    | _ => simp [TDBType.clear, TDBType.setBlob]

theorem cellOf_eq_null_iff (v : Option TDBType) :
    cellOf v = some .null ↔ v.all (·.isNull) = true := by
  cases v with
  | none => simp [cellOf]
  | some v =>
    rw [cellOf, Option.all_some]
    split_ifs with hnull
    · simp [hnull]
    · refine iff_of_false ?_ hnull
      split <;> simp

theorem cellOf_columnValue_iff {old : Option TDBType} {c : SqlValue} :
    cellOf (columnValue old c) = some c ↔ (c = .null → old ≠ some (.setBlob [])) := by
  constructor
  · rintro h rfl
    rw [cellOf_eq_null_iff] at h
    rw [← clears_iff, Clears]
    cases old with
    | none => rfl
    | some v => exact h
  · intro h
    exact cellOf_columnValue fun hc => (clears_iff old).mpr (h hc)

/-! ### A stored row -/

section Stored

variable {rs : TSQLiteResultSet}

theorem ensureRecord_cases (rs : TSQLiteResultSet) :
    (rs.record.isEmpty = true ∧
      (ensureRecord rs).record.count = (columns rs.stmtHandle).length ∧
      (ensureRecord rs).values = List.replicate (columns rs.stmtHandle).length none ∧
      ((ensureRecord rs).record.isEmpty = true → (columns rs.stmtHandle).length = 0)) ∨
    rs.record.isEmpty = false ∧ ensureRecord rs = rs := by
  cases hempty : rs.record.isEmpty with
  | true =>
    refine .inl ⟨rfl, ?_⟩
    have hcount : (initRecord (columns rs.stmtHandle)).count = (columns rs.stmtHandle).length := by
      unfold initRecord
      split_ifs with hcolumns
      · exact hcolumns.symm
      · simp [TQueryRecord.count]
    rw [ensureRecord, if_pos hempty]
    refine ⟨hcount, congrArg (List.replicate · none) hcount, fun hstill => ?_⟩
    by_contra hcolumns
    change (initRecord (columns rs.stmtHandle)).isEmpty = true at hstill
    rw [(initRecord_names (Nat.pos_of_ne_zero hcolumns)).1] at hstill
    cases hstill
  | false => exact .inr ⟨rfl, ensureRecord_of_recorded hempty⟩

theorem value_stored {base : TQueryResultSet} {row : Row} (hready : Ready rs)
    (hactive : base.isActive = true) (hrecord : base.record = (ensureRecord rs).record)
    (hvalues : base.values = fillValues (ensureRecord rs) row) (i : ℕ) :
    base.value i = if i < (ensureRecord rs).record.count then
      columnValue (ensureRecord rs).values[i]?.join (cell row i) else none := by
  have hdata : base.value i = base.dataValue i :=
    if_pos ⟨hactive, (by decide : SQL_BeforeFirstRow < 0).trans_le (Int.natCast_nonneg i)⟩
  rw [hdata, TQueryResultSet.dataValue]
  cases hempty : base.record.isEmpty with
  | true =>
    have hnone : ¬ i < (ensureRecord rs).record.count := by
      rcases ensureRecord_cases rs with ⟨-, hcount, -, hcolumns⟩ | ⟨hrecorded, heq⟩
      · rw [hcount, hcolumns (hrecord ▸ hempty)]
        exact Nat.not_lt_zero i
      · rw [hrecord, heq, hrecorded] at hempty
        cases hempty
    rw [if_neg hnone, if_neg (by simp)]
  | false =>
    have hlength := hready.ensureRecord.values_length (hrecord ▸ hempty)
    rw [if_pos ⟨hactive, by simp⟩, hrecord]
    by_cases hi : i < (ensureRecord rs).record.count
    · rw [if_pos hi, if_pos ⟨Int.natCast_nonneg i, by exact_mod_cast hi⟩, hvalues]
      simp [fillValues, hlength, hi]
    · rw [if_neg hi, if_neg (by simpa using hi)]

/-- The row is shown exactly if it fits the record and the values that were there. -/
theorem stored_shows_iff {q' : Query} {rs' : TSQLiteResultSet} {row : Row} (hready : Ready rs)
    (hrs' : q'.resultSet = some rs') (hactive : rs'.isActive = true)
    (hcolumns : columns rs'.stmtHandle = columns rs.stmtHandle)
    (hrecord : rs'.record = (ensureRecord rs).record)
    (hvalues : rs'.values = fillValues (ensureRecord rs) row) :
    Shows e conv q' row ↔ Fits rs.record rs.values (columns rs.stmtHandle).length row := by
  have hread (i : ℕ) : q'.value (driver e conv) i = if i < (ensureRecord rs).record.count then
      columnValue (ensureRecord rs).values[i]?.join (cell row i) else none := by
    rw [TDatabaseQuery.value, hrs']
    exact value_stored hready hactive hrecord hvalues i
  have hwidth : (queryColumns q').length = (columns rs.stmtHandle).length := by
    rw [queryColumns_eq hrs', hcolumns]
  rcases ensureRecord_cases rs with ⟨hempty, hcount, hnew, -⟩ | ⟨hrecorded, heq⟩
  · refine iff_of_true ⟨fun i hi => ?_, fun i hi => .inl ?_⟩ (.inl hempty)
    · rw [hread, hcount, if_pos (hwidth ▸ hi), hnew]
      refine cellOf_columnValue_iff.mpr fun _ => ?_
      rw [List.getElem?_replicate]
      split_ifs <;> simp
    · rw [hread, hcount, if_neg (not_lt.mpr (hwidth ▸ hi))]
      rfl
  · rw [heq] at hread
    have hnull (i : ℕ) (hi : rs.record.count ≤ i) : rs.values[i]?.join = none := by
      rw [List.getElem?_eq_none ((hready.values_length hrecorded).trans_le hi)]
      rfl
    constructor
    · intro h
      refine .inr ⟨fun i hi hge => ?_, fun i hc => ?_⟩
      · have hshown := h.column i (hwidth ▸ hi)
        rw [hread, if_neg (not_lt.mpr hge)] at hshown
        exact (Option.some.inj hshown).symm
      · by_cases hi : i < rs.record.count
        · have hshown : cellOf (q'.value (driver e conv) i) = some (cell row i) := by
            by_cases hcolumn : i < (queryColumns q').length
            · exact h.column i hcolumn
            · rcases h.beyond i (not_lt.mp hcolumn) with hshown | hshown
              · rw [hshown, hc]
              · exact hshown
          rw [hread, if_pos hi] at hshown
          exact cellOf_columnValue_iff.mp hshown hc
        · rw [hnull i (not_lt.mp hi)]
          simp
    · rintro (hempty | ⟨hnamed, hclear⟩)
      · rw [hrecorded] at hempty
        cases hempty
      · have hshown (i : ℕ) (hi : i < rs.record.count) :
            cellOf (q'.value (driver e conv) i) = some (cell row i) := by
          rw [hread, if_pos hi]
          exact cellOf_columnValue_iff.mpr (hclear i)
        have hnone (i : ℕ) (hi : rs.record.count ≤ i) :
            cellOf (q'.value (driver e conv) i) = some .null := by
          rw [hread, if_neg (not_lt.mpr hi)]
          rfl
        refine ⟨fun i hi => ?_, fun i _ => ?_⟩
        · rcases lt_or_ge i rs.record.count with hcount | hcount
          · exact hshown i hcount
          · rw [hnone i hcount, hnamed i (hwidth ▸ hi) hcount]
        · rcases lt_or_ge i rs.record.count with hcount | hcount
          · exact .inr (hshown i hcount)
          · exact .inl (hnone i hcount)

end Stored

/-! ### The row answered last -/

def lastStep (before after : TDBSQLite) : Option Call :=
  ((callsBetween before after).filter Call.isStep).getLast?

def runningOf (q : Query) : Option Run := (q.resultSet.bind (·.stmtHandle)).bind (·.running)

/-- The row that the last step of a call was answered with, which is none where the step failed;
without a step it is the one before. -/
def rowAfter (q : Query) (held : Option Row) (q' : Query) : Option Row :=
  match lastStep q.conn q'.conn with
  | none => held
  | some c => if c.failed then none else (c.started.or (runningOf q)).bind (·.rows.head?)

theorem rowAfter_noStep {q q' : Query} {calls : List Call} (h : q'.conn.log = q.conn.log ++ calls)
    (hno : NoStep calls) (held : Option Row) : rowAfter q held q' = held := by
  rw [rowAfter, lastStep, callsBetween_eq h, hno.filter_isStep]
  rfl

theorem rowAfter_last {q q' : Query} (before after : List Call) {c : Call}
    (h : q'.conn.log = q.conn.log ++ (before ++ c :: after)) (hstep : c.isStep = true)
    (hno : NoStep after) (held : Option Row) :
    rowAfter q held q' =
      if c.failed then none else (c.started.or (runningOf q)).bind (·.rows.head?) := by
  have hlast : lastStep q.conn q'.conn = some c := by
    rw [lastStep, callsBetween_eq h, List.filter_append, List.filter_cons_of_pos hstep,
      hno.filter_isStep]
    exact List.getLast?_concat
  rw [rowAfter, hlast]

theorem rowAfter_step {q q' : Query} (before after : List Call) {c : Call}
    (h : q'.conn.log = q.conn.log ++ (before ++ c :: after)) (hstep : c.isStep = true)
    (hno : NoStep after) (hok : c.failed = false) (held : Option Row) :
    rowAfter q held q' = (c.started.or (runningOf q)).bind (·.rows.head?) := by
  rw [rowAfter_last before after h hstep hno, if_neg (by simp [hok])]

theorem rowAfter_failed {q q' : Query}
    (hone : ((callsBetween q.conn q'.conn).filter Call.isStep).length ≤ 1)
    (hfailed : StepFailed (callsBetween q.conn q'.conn)) (held : Option Row) :
    rowAfter q held q' = none := by
  obtain ⟨c, hc, hstep, hfailed⟩ := hfailed
  obtain ⟨d, hd⟩ : ∃ d, (callsBetween q.conn q'.conn).filter Call.isStep = [d] := by
    have hpos := List.length_pos_of_mem (List.mem_filter.mpr ⟨hc, hstep⟩)
    exact List.length_eq_one_iff.mp (by omega)
  obtain rfl : c = d := List.mem_singleton.mp (hd ▸ List.mem_filter.mpr ⟨hc, hstep⟩)
  rw [rowAfter, lastStep, hd]
  exact if_pos hfailed

/-! ### Runs -/

/-- A row was fetched ahead and the next fetch hands it out. -/
def fetchedAhead (rs : TSQLiteResultSet) : Bool := rs.isActive && rs.fakeFirstRowFetch

def pending (q : Query) : Bool := q.resultSet.any fetchedAhead

/-- A row that the call fetches fits what the query holds. A row fetched ahead is there to be
handed out, and is not cleared before. -/
def Meets (q : Query) (held : Option Row) (c : QueryCall) (q' : Query) : Prop :=
  match c with
  | .prepare _ => True
  | .execute _ => ∀ row ∈ rowAfter q none q',
      Fits (record q) (slots q) (queryColumns q').length row
  | .nextRow => (∀ row ∈ rowAfter q none q',
      Fits (record q) (slots q) (queryColumns q').length row) ∧
      (pending q = true → held.isSome = true)
  | .bind .clearBindValues => pending q = true → ∀ row ∈ held,
      ∀ i < (queryColumns q).length, cell row i = .null ∨ cell row i = .blob []
  | .bind _ => True

/-- The states of a query after calls that meet the condition, with the row answered last. -/
inductive ReachedWith : Query → Option Row → Prop
  | create (conn : TDBSQLite) : ReachedWith (.create conn) none
  | connection {q : Query} {held : Option Row} (h : ReachedWith q held) (conn : TDBSQLite) :
    ReachedWith { q with conn := conn } held
  | call {q q' : Query} {held : Option Row} {c : QueryCall} {b : Bool} (h : ReachedWith q held)
    (hc : q.call (driver e conv) c = some (b, q')) (hmeets : Meets q held c q') :
    ReachedWith q' (rowAfter q held q')

theorem ReachedWith.reached {q : Query} {held : Option Row} (h : ReachedWith e conv q held) :
    q.Reached (driver e conv) := by
  induction h with
  | create conn => exact .create conn
  | connection h conn ih => exact ih.connection conn
  | call h hc hmeets ih => exact ih.call hc

/-! ### Fetching a row -/

theorem execute_row {q q' : Query} {statement : Text} (hready : ∀ rs ∈ q.resultSet, Ready rs)
    (h : q.execute (driver e conv) statement = some (true, q')) (held : Option Row) :
    rowAfter q held q' = rowAfter q none q' ∧ ∀ row ∈ rowAfter q held q',
      (Shows e conv q' row ↔ Fits (record q) (slots q) (queryColumns q').length row) := by
  by_cases hfailed : StepFailed (callsBetween q.conn q'.conn)
  · have hafter := rowAfter_failed (query_verdict e conv h).2 hfailed
    refine ⟨by rw [hafter, hafter], fun row hrow => ?_⟩
    rw [hafter] at hrow
    cases hrow
  obtain ⟨t, rs, before, hrs, hexecuted, ht, hno, hlog, hrecord, n, hvalues⟩ :=
    execute_some_true e conv hready h hfailed
  obtain ⟨stmt, calls, hstmt, hcalls, hcases⟩ := hexecuted.cases
  rcases hcases with ⟨row, rest, failure, -, hstepped, hstored⟩ | ⟨idle, hidle, -, hstepped, -⟩
  · have hafter (held : Option Row) : rowAfter q held q' = some row := by
      refine rowAfter_step (before ++ calls) []
        (c := ⟨some stmt.handle, .step (some ⟨row :: rest, failure⟩), none⟩) ?_ rfl Idle.nil.noStep rfl
        held
      rw [hstepped, hlog]
      simp only [List.append_assoc]
    refine ⟨by rw [hafter, hafter], fun row' hrow' => ?_⟩
    rw [hafter] at hrow'
    cases hrow'
    have hrs' : rs = { storeRow (beforeStore t.2 stmt ⟨rest, failure⟩) row with isActive := true } :=
      hstored
    have hcolumns : columns rs.stmtHandle = columns (beforeStore t.2 stmt ⟨rest, failure⟩).stmtHandle := by
      rw [hrs']
      exact congrArg columns (storeRow_stmtHandle _ row)
    have hready' : Ready (beforeStore t.2 stmt ⟨rest, failure⟩) :=
      (ht.rewound.beginFetch).with_stmtHandle _
    have hbase : (beforeStore t.2 stmt ⟨rest, failure⟩).toTQueryResultSet = t.2.toTQueryResultSet :=
      beginFetch_base (rewound t.2)
    rw [stored_shows_iff e conv hready' hrs (by rw [hrs']) hcolumns (by rw [hrs']; rfl)
      (by rw [hrs']; rfl), queryColumns_eq hrs, hcolumns, hbase, hrecord, hvalues,
      fits_clearSlots_iff]
  · have hafter (held : Option Row) : rowAfter q held q' = none := by
      refine rowAfter_step (before ++ calls) idle
        (c := ⟨some stmt.handle, .step (some ⟨[], none⟩), none⟩) ?_ rfl hidle.noStep rfl held
      rw [hstepped, hlog]
      simp only [List.append_assoc]
    refine ⟨by rw [hafter, hafter], fun row hrow => ?_⟩
    rw [hafter] at hrow
    cases hrow

theorem shows_congr {q q' : Query} (hvalue : ∀ i : ℕ, q'.value (driver e conv) i =
    q.value (driver e conv) i) (hcolumns : queryColumns q' = queryColumns q) (row : Row) :
    Shows e conv q' row ↔ Shows e conv q row := by
  constructor
  · intro h
    refine ⟨fun i hi => ?_, fun i hi => ?_⟩
    · rw [← hvalue]
      exact h.column i (hcolumns ▸ hi)
    · rw [← hvalue]
      exact h.beyond i (hcolumns ▸ hi)
  · intro h
    refine ⟨fun i hi => ?_, fun i hi => ?_⟩
    · rw [hvalue]
      exact h.column i (hcolumns ▸ hi)
    · rw [hvalue]
      exact h.beyond i (hcolumns ▸ hi)

theorem fetch_inactive {s : Session} (h : s.2.isActive = false) :
    (driver e conv).fetch s = (false, s) := by
  have hno : ¬ ((driver e conv).base s.2).isActive = true := by
    change ¬ s.2.isActive = true
    simp [h]
  exact if_pos hno

/-- The run that a step continues or starts is known from the call and the statement before. -/
theorem started_or_running {log : List Call} {stmt : Statement} {c : Call}
    (hc : c.action = .step (stmt.started e log)) :
    c.started.or stmt.running = some (stmt.run e log) := by
  rw [Call.started, hc, Statement.started, Statement.run]
  cases stmt.running <;> rfl

/-- A fetch that delivers hands out the row fetched ahead, or stores the one it steps to. -/
theorem nextRow_row_cases {q q' : Query} (hready : ∀ rs ∈ q.resultSet, Ready rs)
    (h : q.nextRow (driver e conv) = (true, q')) (held : Option Row) :
    (pending q = true ∧ pending q' = false ∧ rowAfter q held q' = held ∧
      ∀ row, Shows e conv q' row ↔ Shows e conv q row) ∨
    pending q = false ∧ ∃ row, (∀ held, rowAfter q held q' = some row) ∧
      (Shows e conv q' row ↔ Fits (record q) (slots q) (queryColumns q').length row) := by
  obtain ⟨rs, hrs⟩ : ∃ rs, q.resultSet = some rs := by
    cases hresult : q.resultSet with
    | none =>
      rw [TDatabaseQuery.nextRow, hresult] at h
      cases h
    | some rs => exact ⟨rs, rfl⟩
  have hr := hready rs hrs
  rw [nextRow_eq e conv hrs, Prod.mk.injEq] at h
  obtain ⟨hfetch, rfl⟩ := h
  have hactive : rs.isActive = true := by
    by_contra hno
    rw [fetch_inactive e conv (s := (q.conn, rs)) (by simpa using hno)] at hfetch
    cases hfetch
  have heq : (driver e conv).fetch (q.conn, rs) = nextRow e (q.conn, rs) := by
    rw [fetch_eq e conv (s := (q.conn, rs)) hr hactive] at hfetch ⊢
    split_ifs at hfetch ⊢
    rfl
  rw [heq] at hfetch ⊢
  cases hfake : rs.fakeFirstRowFetch with
  | true =>
    rw [nextRow_fake e (s := (q.conn, rs)) hfake]
    refine .inl ⟨by simp [pending, fetchedAhead, hrs, hactive, hfake],
      by simp [pending, fetchedAhead], ?_, fun row => ?_⟩
    · exact rowAfter_noStep (List.append_nil _).symm Idle.nil.noStep held
    · refine shows_congr e conv (fun i => ?_) ?_ row
      · rw [TDatabaseQuery.value, TDatabaseQuery.value, hrs]
        rfl
      · rw [queryColumns, queryColumns, hrs]
        rfl
  | false =>
    refine .inr ⟨by simp [pending, fetchedAhead, hrs, hfake], ?_⟩
    cases hstmt : rs.stmtHandle with
    | none =>
      obtain ⟨conn, -, -, heq⟩ := nextRow_null (e := e) (s := (q.conn, rs)) hfake hstmt
      rw [heq] at hfetch
      cases hfetch
    | some stmt =>
      cases hrows : (stmt.run e q.conn.log).rows with
      | cons row rest =>
        rw [nextRow_row (s := (q.conn, rs)) hfake hstmt hrows]
        refine ⟨row, fun held => ?_, ?_⟩
        · rw [rowAfter_step [] [] rfl rfl Idle.nil.noStep rfl held,
            runningOf, hrs, Option.bind_some, hstmt, Option.bind_some, started_or_running e rfl]
          exact congrArg List.head? hrows
        · set stored : TSQLiteResultSet := { beginFetch rs with
            stmtHandle := some { stmt with running := some ⟨rest, (stmt.run e q.conn.log).failure⟩ } }
          have hready' : Ready stored := hr.beginFetch.with_stmtHandle _
          have hbase : stored.toTQueryResultSet = rs.toTQueryResultSet := beginFetch_base rs
          have hisActive : (storeRow stored row).isActive = true := by
            refine (ensureRecord_isActive stored).trans ?_
            rw [hbase]
            exact hactive
          have hcolumns := congrArg columns (storeRow_stmtHandle stored row)
          refine (stored_shows_iff e conv hready' (show _ = some (storeRow stored row) from rfl)
            hisActive hcolumns rfl rfl).trans ?_
          rw [← hcolumns, hbase, record, slots, hrs]
          rfl
      | nil =>
        rw [nextRow_false e (t := (q.conn, rs)) hfake hstmt hrows] at hfetch
        cases hfetch

/-! ### Calls that deliver nothing -/

theorem opened_inactive (conn : TDBSQLite) (resultSet : Option TSQLiteResultSet) :
    ((driver e conv).opened conn resultSet).2.isActive = false := by
  cases resultSet <;> rfl

theorem prepare_isActive (sql : Text) (s : Session) :
    (prepare e sql s).2.2.isActive = s.2.isActive := by
  by_cases hopen : s.1.isOpen = true
  · obtain ⟨calls, c, query, -, -, hcases⟩ := prepare_cases e sql hopen
    rcases hcases with ⟨conn, stmtHandle, heq, -⟩ | ⟨conn, heq, -⟩
    · rw [heq]
      rfl
    · rw [heq]
      rfl
  · rw [prepare, if_pos hopen]

theorem prepareStatement_isActive (sql : Text) (s : Session) :
    ((driver e conv).prepareStatement sql s).2.2.isActive = s.2.isActive := by
  unfold Driver.prepareStatement
  dsimp only
  split_ifs
  · rfl
  · rw [Driver.finish_resultSet]
    exact prepare_isActive e sql ((driver e conv).setQuery (trim sql) s)
  · rfl

theorem execute_false {s : Session} (h : (execute e conv s).1 = false) :
    fetchedAhead (execute e conv s).2.2 = false := by
  rcases execute_cases e conv s with ⟨t, calls, heq, ht, -⟩ | ⟨resets, calls, -, -, -, -, heq⟩
  · obtain ⟨freed, -, -, -, hfree⟩ := free_eq t
    rw [heq, hfree, ht, fetchedAhead]
    exact Bool.and_false _
  · rw [heq] at h ⊢
    unfold prefetch at h ⊢
    dsimp only at h ⊢
    split_ifs at h ⊢
    rfl

theorem executeStatement_false {statement : Text} {s : Session} (hinactive : s.2.isActive = false)
    (h : ((driver e conv).executeStatement statement s).1 = false) :
    fetchedAhead ((driver e conv).executeStatement statement s).2.2 = false := by
  unfold Driver.executeStatement at h ⊢
  dsimp only at h ⊢
  split_ifs at h ⊢
  · rw [fetchedAhead, show ((driver e conv).raise s _ _).2.2 = s.2 from rfl, hinactive]
    rfl
  · rw [Driver.finish_ok] at h
    rw [Driver.finish_resultSet]
    change (executeQuery e conv statement _).1 = false at h
    change fetchedAhead (executeQuery e conv statement _).2.2 = false
    unfold executeQuery at h ⊢
    dsimp only at h ⊢
    split_ifs at h ⊢
    · exact execute_false e conv h
    · rw [fetchedAhead, prepare_isActive]
      change (s.2.isActive && _) = false
      rw [hinactive]
      rfl
  · change (s.2.isActive && _) = false
    rw [hinactive]
    rfl

/-- An execution that fails leaves no row to hand out, or nothing was done. -/
theorem execute_none {q q' : Query} {statement : Text}
    (h : q.execute (driver e conv) statement = some (false, q')) (held : Option Row) :
    pending q' = false ∨ q'.resultSet = q.resultSet ∧ rowAfter q held q' = held := by
  unfold TDatabaseQuery.execute at h
  split at h
  next =>
    simp only [Option.some.injEq, Prod.mk.injEq] at h
    obtain ⟨hfail, rfl⟩ := h
    exact .inl (executeStatement_false e conv (opened_inactive e conv q.conn q.resultSet) hfail)
  next =>
    split at h
    next rs hrs =>
      simp only [Option.some.injEq, Prod.mk.injEq] at h
      obtain ⟨hfail, rfl⟩ := h
      unfold Driver.executePrepared at hfail ⊢
      split_ifs at hfail ⊢ with hopen
      · rw [Driver.finish_ok] at hfail
        refine .inl ?_
        rw [Driver.finish_resultSet]
        exact execute_false e conv hfail
      · exact .inr ⟨hrs.symm, rowAfter_noStep (List.append_nil _).symm Idle.nil.noStep held⟩
    next hnone =>
      dsimp only at h
      split at h
      · cases h
      · cases h
        exact .inl rfl

theorem nextRow_false_step {s : Session} (h : (nextRow e s).1 = false) :
    ∃ c calls, (nextRow e s).2.1.log = s.1.log ++ c :: calls ∧ c.isStep = true ∧ Idle calls ∧
      (c.started.or (s.2.stmtHandle.bind (·.running))).bind (·.rows.head?) = none := by
  have hfake : s.2.fakeFirstRowFetch = false := by
    by_contra hahead
    rw [nextRow_fake e (by simpa using hahead)] at h
    cases h
  cases hstmt : s.2.stmtHandle with
  | none =>
    obtain ⟨conn, hlog, -, heq⟩ := nextRow_null (e := e) hfake hstmt
    rw [heq]
    exact ⟨_, [], hlog, rfl, .nil, rfl⟩
  | some stmt =>
    rw [Option.bind_some]
    cases hrows : (stmt.run e s.1.log).rows with
    | cons row rest =>
      rw [nextRow_row hfake hstmt hrows] at h
      cases h
    | nil =>
      have hnone (c : Call) (hc : c.action = .step (stmt.started e s.1.log)) :
          (c.started.or stmt.running).bind (·.rows.head?) = none := by
        rw [started_or_running e hc]
        exact congrArg List.head? hrows
      cases hrun : (stmt.run e s.1.log).failure with
      | none =>
        obtain ⟨calls, hidle, heq⟩ := nextRow_done hfake hstmt hrows hrun
        rw [heq]
        exact ⟨_, calls, rfl, rfl, hidle, hnone _ rfl⟩
      | some code =>
        obtain ⟨calls, conn, hidle, hlog, -, heq⟩ := nextRow_failed hfake hstmt hrows hrun
        rw [heq]
        exact ⟨_, calls, hlog, rfl, hidle, hnone _ rfl⟩

/-- A fetch that delivers nothing asked the engine, unless the query is not active. -/
theorem nextRow_none {q q' : Query} (hready : ∀ rs ∈ q.resultSet, Ready rs)
    (h : q.nextRow (driver e conv) = (false, q')) (held : Option Row) :
    pending q' = false ∨ rowAfter q held q' = none := by
  cases hrs : q.resultSet with
  | none =>
    rw [TDatabaseQuery.nextRow, hrs] at h
    cases h
    exact .inl (by simp [pending, hrs])
  | some rs =>
    rw [nextRow_eq e conv hrs, Prod.mk.injEq] at h
    obtain ⟨hfetch, rfl⟩ := h
    cases hactive : rs.isActive with
    | false =>
      rw [fetch_inactive e conv (s := (q.conn, rs)) hactive]
      exact .inl (by simp [pending, fetchedAhead, hactive])
    | true =>
      right
      rw [fetch_eq e conv (s := (q.conn, rs)) (hready rs hrs) hactive] at hfetch ⊢
      have hnext : (nextRow e (q.conn, rs)).1 = false := by
        by_contra hrow
        rw [if_pos (.inr (by simpa using hrow))] at hfetch
        exact hrow hfetch
      obtain ⟨c, calls, hlog, hstep, hidle, hrow⟩ := nextRow_false_step e hnext
      have hrunning : runningOf q = rs.stmtHandle.bind (·.running) := by
        rw [runningOf, hrs, Option.bind_some]
      rw [← hrunning] at hrow
      split_ifs
      · rw [rowAfter_last [] calls hlog hstep hidle.noStep held, hrow, ite_self]
      · obtain ⟨idle, hidle', heq⟩ := reset_eq e (nextRow e (q.conn, rs)).2
        rw [rowAfter_last [] (calls ++ idle) ?_ hstep (hidle.append hidle').noStep held, hrow,
          ite_self]
        rw [heq]
        change (nextRow e (q.conn, rs)).2.1.log ++ idle = _
        rw [hlog]
        simp

/-! ### Binding -/

theorem cellOf_clear {v : Option TDBType} (h : v ≠ some (.setBlob [])) :
    cellOf (v.map .clear) = some .null := by
  have hclears := (clears_iff v).mpr h
  rw [cellOf_eq_null_iff]
  cases v with
  | none => rfl
  | some v => exact hclears

theorem cellOf_eq_blob {v : Option TDBType} {value : List UInt8}
    (h : cellOf v = some (.blob value)) : v = some (.setBlob value) := by
  cases v with
  | none => cases h
  | some v =>
    obtain ⟨content, isNull⟩ := v
    rw [cellOf] at h
    split_ifs at h with hnull
    · cases h
    · obtain rfl : isNull = false := by simpa using hnull
      cases content with
      | blob bytes =>
        cases h
        rfl
      | integer kind value => cases kind <;> cases h
      | _ => cases h

/-- A row whose cells are all without data is still shown after the values were cleared. -/
theorem shows_cleared {q q' : Query} {row : Row}
    (hvalue : ∀ i : ℕ, q'.value (driver e conv) i = (q.value (driver e conv) i).map .clear)
    (hcolumns : queryColumns q' = queryColumns q) (h : Shows e conv q row)
    (hcells : ∀ i < (queryColumns q).length, cell row i = .null ∨ cell row i = .blob []) :
    Shows e conv q' row := by
  refine ⟨fun i hi => ?_, fun i hi => ?_⟩
  · rw [hcolumns] at hi
    have hshown := h.column i hi
    rw [hvalue]
    by_cases hblob : q.value (driver e conv) i = some (.setBlob [])
    · rw [hblob] at hshown ⊢
      exact hshown
    · rw [cellOf_clear hblob]
      rcases hcells i hi with hnull | hempty
      · rw [hnull]
      · rw [hempty] at hshown
        exact absurd (cellOf_eq_blob hshown) hblob
  · rw [hvalue]
    by_cases hblob : q.value (driver e conv) i = some (.setBlob [])
    · have hshown := h.beyond i (hcolumns ▸ hi)
      rw [hblob] at hshown ⊢
      exact hshown
    · exact .inl (cellOf_clear hblob)

theorem bind_pending (q : Query) (b : BindCall) :
    pending (q.bind (driver e conv) b) = pending q := by
  obtain ⟨conn, resultSet⟩ := q
  cases resultSet with
  | none => rfl
  | some rs => cases b <;> rfl

theorem bind_columns (q : Query) (b : BindCall) :
    queryColumns (q.bind (driver e conv) b) = queryColumns q := by
  obtain ⟨conn, resultSet⟩ := q
  cases resultSet <;> rfl

theorem bind_value (q : Query) (b : BindCall) (i : ℕ) :
    (q.bind (driver e conv) b).value (driver e conv) i =
      if b = .clearBindValues then (q.value (driver e conv) i).map .clear
      else q.value (driver e conv) i := by
  obtain ⟨conn, resultSet⟩ := q
  cases resultSet with
  | none => cases b <;> rfl
  | some rs =>
    cases b with
    | bindValue position value => rfl
    | addBindValue value => rfl
    | clearBindValues =>
      rw [if_pos rfl]
      change rs.toTQueryResultSet.clearBindValues.value i = (rs.toTQueryResultSet.value i).map .clear
      have hslot : (rs.toTQueryResultSet.clearBindValues.values[i]?).join =
          (rs.values[i]?.join).map .clear := by
        change ((rs.values.map (Option.map TDBType.clear))[i]?).join = _
        rw [List.getElem?_map]
        rcases rs.values[i]? with _ | _ | v <;> rfl
      have hactive : rs.toTQueryResultSet.clearBindValues.isActive = rs.isActive := rfl
      have hrecord : rs.toTQueryResultSet.clearBindValues.record = rs.record := rfl
      simp only [TQueryResultSet.value, TQueryResultSet.dataValue, hactive, hrecord,
        Int.toNat_natCast, hslot]
      split_ifs <;> rfl

/-! ### Runs -/

/-- The row fetched ahead is the one answered last, and is shown. -/
def Ahead (q : Query) (held : Option Row) : Prop :=
  pending q = true → ∀ row ∈ held, Shows e conv q row

theorem Ahead.of_not {q : Query} {held : Option Row} (h : pending q = false) :
    Ahead e conv q held := by
  intro hpending
  rw [h] at hpending
  cases hpending

/-- What a call does to the row fetched ahead. -/
theorem call_ahead {q q' : Query} {held : Option Row} {c : QueryCall} {b : Bool}
    (hready : ∀ rs ∈ q.resultSet, Ready rs) (h : Ahead e conv q held)
    (hcall : q.call (driver e conv) c = some (b, q')) (hmeets : Meets q held c q') :
    Ahead e conv q' (rowAfter q held q') := by
  cases c with
  | prepare statement =>
    cases hcall
    refine .of_not e conv ?_
    change fetchedAhead ((driver e conv).prepareStatement statement _).2.2 = false
    rw [fetchedAhead, prepareStatement_isActive, opened_inactive]
    rfl
  | execute statement =>
    cases b with
    | true =>
      obtain ⟨hsame, hshows⟩ := execute_row e conv hready hcall held
      intro _ row hrow
      exact (hshows row hrow).mpr (hmeets row (hsame ▸ hrow))
    | false =>
      rcases execute_none e conv hcall held with hnone | ⟨hrs, hheld⟩
      · exact .of_not e conv hnone
      · rw [hheld]
        intro hpending row hrow
        rw [pending, hrs] at hpending
        refine (shows_congr e conv (fun i => ?_) ?_ row).mpr (h hpending row hrow)
        · rw [TDatabaseQuery.value, TDatabaseQuery.value, hrs]
        · rw [queryColumns, queryColumns, hrs]
  | nextRow =>
    have hnext : q.nextRow (driver e conv) = (b, q') := Option.some.inj hcall
    cases b with
    | true =>
      rcases nextRow_row_cases e conv hready hnext held with
        ⟨-, hpending, -⟩ | ⟨-, row, hrow, hshows⟩
      · exact .of_not e conv hpending
      · intro _ row' hrow'
        rw [hrow] at hrow'
        cases hrow'
        exact hshows.mpr (hmeets.1 row (hrow none))
    | false =>
      rcases nextRow_none e conv hready hnext held with hpending | hrow
      · exact .of_not e conv hpending
      · rw [hrow]
        rintro _ row ⟨⟩
  | bind bound =>
    cases hcall
    have hheld : rowAfter q held (q.bind (driver e conv) bound) = held :=
      rowAfter_noStep (List.append_nil _).symm Idle.nil.noStep held
    have hpending : pending (q.bind (driver e conv) bound) = pending q := bind_pending e conv q bound
    have hcolumns : queryColumns (q.bind (driver e conv) bound) = queryColumns q :=
      bind_columns e conv q bound
    rw [hheld, Ahead, hpending]
    intro hahead row hrow
    have hshown := h hahead row hrow
    by_cases hclear : bound = .clearBindValues
    · subst hclear
      refine shows_cleared e conv (fun i => ?_) hcolumns hshown (hmeets hahead row hrow)
      rw [bind_value, if_pos rfl]
    · refine (shows_congr e conv (fun i => ?_) hcolumns row).mpr hshown
      rw [bind_value, if_neg hclear]

theorem ReachedWith.ahead {q : Query} {held : Option Row} (h : ReachedWith e conv q held) :
    Ahead e conv q held := by
  induction h with
  | create conn => rintro ⟨⟩
  | connection h conn ih =>
    intro hpending row hrow
    have hshown := ih hpending row hrow
    exact ⟨hshown.column, hshown.beyond⟩
  | call h hc hmeets ih =>
    exact call_ahead e conv (ready_reached e conv h.reached) ih hc hmeets

/-- Whatever was called before, as long as the calls meet the condition, a call that delivers a
row shows the row that the engine answered last. -/
theorem row_shown {q q' : Query} {held : Option Row} {c : QueryCall}
    (h : ReachedWith e conv q held) (hcall : q.call (driver e conv) c = some (true, q'))
    (hmeets : Meets q held c q') (hdelivers : c = .nextRow ∨ ∃ statement, c = .execute statement) :
    (c = .nextRow → (rowAfter q held q').isSome = true) ∧
      ∀ row ∈ rowAfter q held q', Shows e conv q' row := by
  have hready := ready_reached e conv h.reached
  rcases hdelivers with rfl | ⟨statement, rfl⟩
  · have hnext : q.nextRow (driver e conv) = (true, q') := Option.some.inj hcall
    rcases nextRow_row_cases e conv hready hnext held with
      ⟨hpending, -, hheld, hshows⟩ | ⟨-, row, hrow, hshows⟩
    · rw [hheld]
      exact ⟨fun _ => hmeets.2 hpending,
        fun row hrow => (hshows row).mpr (h.ahead e conv hpending row hrow)⟩
    · rw [hrow]
      refine ⟨fun _ => rfl, fun row' hrow' => ?_⟩
      cases hrow'
      exact hshows.mpr (hmeets.1 row (hrow none))
  · obtain ⟨hsame, hshows⟩ := execute_row e conv hready hcall held
    refine ⟨fun hnext => QueryCall.noConfusion hnext, fun row hrow => ?_⟩
    exact (hshows row hrow).mpr (hmeets row (hsame ▸ hrow))

/-- An engine with a column of blobs: one without data, and then a null one. -/
def blobThenNull : Engine where
  prepare _ _ := .ok (some ⟨0, [⟨"data".toList, none⟩]⟩)
  reset _ _ := none
  bind _ _ _ _ := none
  run _ _ := ⟨[[.blob []], [.null]], none⟩
  message _ := noError

/-- The second row is null, and the query shows the blob of the first one. -/
theorem null_shows_earlier_blob :
    ∃ q₁ q₂ q₃, (TDatabaseQuery.create opened).execute (driver blobThenNull .integers)
        "SELECT data FROM files".toList = some (true, q₁) ∧
      q₁.nextRow (driver blobThenNull .integers) = (true, q₂) ∧
      q₂.nextRow (driver blobThenNull .integers) = (true, q₃) ∧
      rowAfter q₂ none q₃ = some [.null] ∧
      q₃.value (driver blobThenNull .integers) 0 = some (.setBlob []) ∧
      ¬ Shows blobThenNull .integers q₃ [.null] := by
  refine ⟨_, _, _, rfl, rfl, rfl, rfl, rfl, fun h => ?_⟩
  exact absurd (h.column 0 (by decide)) (by decide)

theorem row_shown_first :
    ∃ q₁ q₂, (TDatabaseQuery.create opened).execute (driver blobThenNull .integers)
        "SELECT data FROM files".toList = some (true, q₁) ∧
      q₁.call (driver blobThenNull .integers) .nextRow = some (true, q₂) ∧
      (QueryCall.nextRow = .nextRow →
        (rowAfter q₁ (rowAfter (.create opened) none q₁) q₂).isSome = true) ∧
      ∀ row ∈ rowAfter q₁ (rowAfter (.create opened) none q₁) q₂,
        Shows blobThenNull .integers q₂ row := by
  obtain ⟨q₁, hexecute, hrow, q₂, hnext, hsame⟩ :
      ∃ q₁, (TDatabaseQuery.create opened).execute (driver blobThenNull .integers)
          "SELECT data FROM files".toList = some (true, q₁) ∧
        rowAfter (.create opened) none q₁ = some [.blob []] ∧
        ∃ q₂, q₁.call (driver blobThenNull .integers) .nextRow = some (true, q₂) ∧
          rowAfter q₁ none q₂ = none :=
    ⟨_, rfl, rfl, _, rfl, rfl⟩
  have hreached := ReachedWith.call (e := blobThenNull) (.create opened)
    (c := .execute "SELECT data FROM files".toList) hexecute fun row _ => .inl rfl
  refine ⟨q₁, q₂, hexecute, hnext, row_shown blobThenNull .integers hreached hnext ?_ (.inl rfl)⟩
  rw [Meets, hsame, hrow]
  exact ⟨by simp, fun _ => rfl⟩

end DatabaseMod.SqliteRows
