import DatabaseMod.SqliteRows
import DatabaseMod.TableInspection

/-!
# Enumerating the rows of a query

`EachIn` over a query against a loop that calls `nextRow` and `rowRecord` itself. The enumerator
stops at a record that is marked as one of an empty set. The mark is set by an execution that found
no row, and only making the record again takes it away.
-/

namespace DatabaseMod.SqliteEnumeration
open CoreValues CoreResultSet CoreQuery CoreInvariant SqlEngine SqliteDriver SqliteSteps
open SqliteInvariant SqliteCursor SqliteRounds SqliteRecord TSQLiteResultSet
open SqlTokens (Text trim)
open SqliteVerdict (opened singleRow)
open TableInspection (Record rowRecord hasNext Drains drains)
open SqliteRows (ensureRecord_cases fetch_inactive)

/-! ### Two loops -/

/-- A row as a loop visits it: what the query shows, and what the record does. -/
structure Visit where
  values : Record
  record : Record

section

variable {C RS : Type} (D : Driver C RS)

def visit (s : C × RS) (record : Record) : Visit := ⟨fun i => (D.base s.2).value i, record⟩

/-- `EachIn` over the query. -/
def eachIn (s : C × RS) (record : Record) : ℕ → Option (List Visit)
  | 0 => none
  | fuel + 1 =>
    let r := hasNext D s record
    if r.1 then (eachIn r.2.1 r.2.2 fuel).map (visit D r.2.1 r.2.2 :: ·) else some []

/-- `While query.nextRow()`, with a call of `rowRecord` in the body. -/
def whileNextRow (s : C × RS) (record : Record) : ℕ → Option (List Visit)
  | 0 => none
  | fuel + 1 =>
    let r := D.fetch s
    if r.1 then
      let record := rowRecord (D.base r.2.2) record
      (whileNextRow r.2 record fuel).map (visit D r.2 record :: ·)
    else some []

def SameValue (a b : Option TDBType) : Prop :=
  a = b ∨ a.all (·.isNull) = true ∧ b.all (·.isNull) = true

/-- Both loops end after the same rows, and the record of each shows what the query does. -/
def Agrees (s : C × RS) (record : Record) : Prop :=
  ∃ fuel visits, eachIn D s record fuel = some visits ∧
    whileNextRow D s record fuel = some visits ∧
    ∀ v ∈ visits, ∀ i, SameValue (v.record i) (v.values i)

end

variable (e : Engine) (conv : Conversions)

/-- The states of a query after any calls, with the values that its record has. Only `rowRecord`
changes these; a record that is made again was empty before. -/
inductive ReachedWith : Query → Record → Prop
  | create (conn : TDBSQLite) : ReachedWith (.create conn) .create
  | connection {q : Query} {record : Record} (h : ReachedWith q record) (conn : TDBSQLite) :
    ReachedWith { q with conn := conn } record
  | call {q q' : Query} {record : Record} {c : QueryCall} {b : Bool} (h : ReachedWith q record)
    (hc : q.call (driver e conv) c = some (b, q')) : ReachedWith q' record
  | rowRecord {q : Query} {record : Record} {rs : TSQLiteResultSet} (h : ReachedWith q record)
    (hrs : q.resultSet = some rs) (hactive : rs.isActive = true) :
    ReachedWith q (rowRecord rs.toTQueryResultSet record)

theorem ReachedWith.reached {q : Query} {record : Record} (h : ReachedWith e conv q record) :
    q.Reached (driver e conv) := by
  induction h with
  | create conn => exact .create conn
  | connection h conn ih => exact ih.connection conn
  | call h hc ih => exact ih.call hc
  | rowRecord h hrs hactive ih => exact ih

/-- A fetch finds a row: one was fetched ahead, or the statement has one. -/
def RowWaits (s : Session) : Prop :=
  s.2.fakeFirstRowFetch = true ∨
    ∃ stmt, s.2.stmtHandle = some stmt ∧ (stmt.run e s.1.log).rows ≠ []

/-! ### Slots keep a value -/

/-- A record that was made is kept, and so is a value of every slot that has one. -/
structure Grows (rs rs' : TQueryResultSet) : Prop where
  recorded : rs.record.isEmpty = false → rs'.record.isEmpty = false
  slot : rs.record.isEmpty = false → ∀ i : ℕ, rs.values[i]?.join.isSome = true →
    rs'.values[i]?.join.isSome = true

theorem Grows.refl (rs : TQueryResultSet) : Grows rs rs := ⟨fun h => h, fun _ _ h => h⟩

theorem Grows.trans {rs₁ rs₂ rs₃ : TQueryResultSet} (h : Grows rs₁ rs₂) (h' : Grows rs₂ rs₃) :
    Grows rs₁ rs₃ :=
  ⟨fun hr => h'.recorded (h.recorded hr), fun hr i hi => h'.slot (h.recorded hr) i (h.slot hr i hi)⟩

theorem Grows.of_eq {rs rs' : TQueryResultSet} (hrecord : rs'.record.isEmpty = rs.record.isEmpty)
    (hvalues : rs'.values = rs.values) : Grows rs rs' := by
  refine ⟨fun h => hrecord.trans h, fun _ i hi => ?_⟩
  rw [hvalues]
  exact hi

theorem grows_clearBindValues (rs : TQueryResultSet) : Grows rs rs.clearBindValues := by
  refine ⟨fun h => h, fun _ i hi => ?_⟩
  change ((rs.values.map (Option.map TDBType.clear))[i]?).join.isSome = true
  rw [List.getElem?_map]
  rcases hvalue : rs.values[i]? with _ | _ | v
  · rw [hvalue] at hi
    cases hi
  · rw [hvalue] at hi
    cases hi
  · rfl

theorem grows_ensureRecord (rs : TSQLiteResultSet) :
    Grows rs.toTQueryResultSet (ensureRecord rs).toTQueryResultSet := by
  refine ⟨fun h => ?_, fun h i hi => ?_⟩
  · rw [ensureRecord_of_recorded h]
    exact h
  · rw [ensureRecord_of_recorded h]
    exact hi

theorem grows_storeRow (rs : TSQLiteResultSet) (row : Row) :
    Grows rs.toTQueryResultSet (storeRow rs row).toTQueryResultSet := by
  refine (grows_ensureRecord rs).trans ⟨fun h => h, fun _ i hi => ?_⟩
  change (fillValues (ensureRecord rs) row)[i]?.join.isSome = true
  rw [fillValues, List.getElem?_mapIdx]
  rcases hvalue : (ensureRecord rs).values[i]? with _ | _ | v
  · rw [hvalue] at hi
    cases hi
  · rw [hvalue] at hi
    cases hi
  · rw [Option.map_some, Option.join_some]
    split_ifs
    · cases cell row i <;> rfl
    · rfl

section

variable (rs : TSQLiteResultSet) (stmtHandle : Option Statement)

theorem grows_begun :
    Grows rs.toTQueryResultSet { beginFetch rs with stmtHandle := stmtHandle }.toTQueryResultSet :=
  .of_eq (congrArg (·.record.isEmpty) (beginFetch_base rs)) (congrArg (·.values) (beginFetch_base rs))

end

theorem grows_nextRow (s : Session) :
    Grows s.2.toTQueryResultSet (nextRow e s).2.2.toTQueryResultSet := by
  cases hfake : s.2.fakeFirstRowFetch with
  | true =>
    rw [nextRow_fake e hfake]
    exact .refl _
  | false =>
    cases hstmt : s.2.stmtHandle with
    | none =>
      obtain ⟨conn, -, -, heq⟩ := nextRow_null (e := e) hfake hstmt
      rw [heq]
      exact grows_begun s.2 (beginFetch s.2).stmtHandle
    | some stmt =>
      cases hrows : (stmt.run e s.1.log).rows with
      | cons row rest =>
        rw [nextRow_row hfake hstmt hrows]
        exact (grows_begun s.2 _).trans (grows_storeRow _ row)
      | nil =>
        cases hrun : (stmt.run e s.1.log).failure with
        | none =>
          obtain ⟨calls, -, heq⟩ := nextRow_done hfake hstmt hrows hrun
          rw [heq]
          exact ((grows_begun s.2 _).trans (grows_ensureRecord _)).trans (.of_eq rfl rfl)
        | some code =>
          obtain ⟨calls, conn, -, -, -, heq⟩ := nextRow_failed hfake hstmt hrows hrun
          rw [heq]
          exact grows_begun s.2 _

theorem grows_prefetch (s : Session) :
    Grows s.2.toTQueryResultSet (prefetch e s).2.2.toTQueryResultSet := by
  refine (grows_nextRow e s).trans ?_
  unfold prefetch
  dsimp only
  split_ifs
  · exact .of_eq rfl rfl
  · exact .of_eq rfl rfl

theorem grows_execute (s : Session) :
    Grows s.2.toTQueryResultSet (execute e conv s).2.2.toTQueryResultSet := by
  rcases execute_cases e conv s with ⟨t, calls, heq, ht, -⟩ | ⟨resets, calls, -, -, -, -, heq⟩
  · obtain ⟨freed, -, -, -, hfree⟩ := free_eq t
    rw [heq, hfree, ht]
    exact .refl _
  · rw [heq]
    exact grows_prefetch e ({ s.1 with log := s.1.log ++ resets ++ calls }, rewound s.2)

theorem grows_prepare (sql : Text) (s : Session) :
    Grows s.2.toTQueryResultSet (prepare e sql s).2.2.toTQueryResultSet := by
  by_cases hopen : s.1.isOpen = true
  · obtain ⟨calls, c, query, -, -, hcases⟩ := prepare_cases e sql hopen
    have hmoved : Grows s.2.toTQueryResultSet
        { s.2.toTQueryResultSet with index := SQL_BeforeFirstRow } := .of_eq rfl rfl
    have hcleaned : Grows s.2.toTQueryResultSet (cleaned s.2).toTQueryResultSet :=
      hmoved.trans (grows_clearBindValues _)
    rcases hcases with ⟨conn, stmtHandle, heq, -⟩ | ⟨conn, heq, -⟩
    · rw [heq]
      exact hcleaned.trans (.of_eq rfl rfl)
    · rw [heq]
      exact hcleaned.trans (.of_eq rfl rfl)
  · rw [prepare, if_pos hopen]
    exact .refl _

theorem grows_executeQuery (statement : Text) (s : Session) :
    Grows s.2.toTQueryResultSet (executeQuery e conv statement s).2.2.toTQueryResultSet := by
  unfold executeQuery
  dsimp only
  split_ifs
  · exact (grows_prepare e statement s).trans (grows_execute e conv _)
  · exact grows_prepare e statement s

theorem grows_bind (base : TQueryResultSet) (b : BindCall) : Grows base (b.apply base) := by
  cases b with
  | bindValue position value => exact .of_eq rfl rfl
  | addBindValue value => exact .of_eq rfl rfl
  | clearBindValues => exact grows_clearBindValues base

/-! ### Calls on a query with a result set -/

/-- The driver for a query that has a result set, which makes no other. -/
def driverFrom (rs : TSQLiteResultSet) : Driver TDBSQLite TSQLiteResultSet :=
  { driver e conv with createResultSet := fun conn => (conn, rs) }

theorem grows_preserved (rs : TSQLiteResultSet) :
    Driver.Preserves (driverFrom e conv rs)
      fun rs' => Grows rs.toTQueryResultSet rs'.toTQueryResultSet where
  createResultSet _ := .refl _
  clear s h := h.trans (grows_clearBindValues s.2.toTQueryResultSet)
  inactive _ h := h.trans (.of_eq rfl rfl)
  query _ _ h := h.trans (.of_eq rfl rfl)
  bind rs' c h := h.trans (grows_bind rs'.toTQueryResultSet c)
  prepare statement s h := h.trans (grows_prepare e statement s)
  executeQuery statement s h := h.trans (grows_executeQuery e conv statement s)
  execute s h := h.trans (grows_execute e conv s)
  firstRow s h := by
    change Grows rs.toTQueryResultSet (firstRow e s).2.2.toTQueryResultSet
    unfold firstRow
    split_ifs
    · exact h.trans (grows_nextRow e s)
    · exact h
  nextRow s h := h.trans (grows_nextRow e s)
  finished s h _ := by
    obtain ⟨calls, -, heq⟩ := reset_eq e
      ((nextRow e s).2.1, { (nextRow e s).2.2 with index := SQL_AfterLastRow })
    have hgrows : Grows rs.toTQueryResultSet (TSQLiteResultSet.reset e
        ((nextRow e s).2.1, { (nextRow e s).2.2 with index := SQL_AfterLastRow })).2.toTQueryResultSet := by
      rw [heq]
      exact (h.trans (grows_nextRow e s)).trans (.of_eq rfl rfl)
    exact hgrows

theorem call_driverFrom {q : Query} {rs : TSQLiteResultSet} (hrs : q.resultSet = some rs)
    (c : QueryCall) : q.call (driverFrom e conv rs) c = q.call (driver e conv) c := by
  obtain ⟨conn, resultSet⟩ := q
  cases hrs
  cases c <;> rfl

theorem call_resultSet {q q' : Query} {rs : TSQLiteResultSet} {c : QueryCall} {b : Bool}
    (hrs : q.resultSet = some rs) (hc : q.call (driver e conv) c = some (b, q')) :
    ∃ rs', q'.resultSet = some rs' ∧ Grows rs.toTQueryResultSet rs'.toTQueryResultSet := by
  have hgrows := call_preserves (grows_preserved e conv rs) (q := q) (fun rs' hrs' => by
    obtain rfl : rs = rs' := Option.some.inj (hrs.symm.trans hrs')
    exact .refl _) ((call_driverFrom e conv hrs c).trans hc)
  obtain ⟨rs', hrs'⟩ : ∃ rs', q'.resultSet = some rs' := by
    obtain ⟨conn, resultSet⟩ := q
    cases hrs
    cases c with
    | prepare statement =>
      cases hc
      exact ⟨_, rfl⟩
    | execute statement =>
      change TDatabaseQuery.execute _ _ _ = _ at hc
      unfold TDatabaseQuery.execute at hc
      dsimp only at hc
      split_ifs at hc
      · cases hc
        exact ⟨_, rfl⟩
      · cases hc
        exact ⟨_, rfl⟩
    | nextRow =>
      cases hc
      exact ⟨_, rfl⟩
    | bind bound =>
      cases hc
      exact ⟨_, rfl⟩
  exact ⟨rs', hrs', hgrows rs' hrs'⟩

/-! ### The values of the record -/

/-- A field of the record has a value only where a slot has one. -/
def Kept (rs : TQueryResultSet) (record : Record) : Prop :=
  ∀ i, (record i).isSome = true →
    rs.record.isEmpty = false ∧ rs.values[i]?.join.isSome = true

theorem Kept.of_create (rs : TQueryResultSet) : Kept rs .create := by
  rintro i ⟨⟩

theorem Kept.mono {rs rs' : TQueryResultSet} {record : Record} (h : Kept rs record)
    (hgrows : Grows rs rs') : Kept rs' record := by
  intro i hi
  obtain ⟨hrecorded, hslot⟩ := h i hi
  exact ⟨hgrows.recorded hrecorded, hgrows.slot hrecorded i hslot⟩

/-- At a row the record comes to show what the query does. -/
theorem rowRecord_eq {rs : TQueryResultSet} {record : Record} (hactive : rs.isActive = true)
    (hindex : 0 ≤ rs.index) (hkept : Kept rs record) (i : ℕ) :
    rowRecord rs record i = rs.value i := by
  have hvalid : rs.index ≠ SQL_BeforeFirstRow ∧ rs.index ≠ SQL_AfterLastRow := by
    unfold SQL_BeforeFirstRow SQL_AfterLastRow
    omega
  rw [rowRecord, if_neg (by simp [hactive]), if_pos hvalid]
  by_cases hi : i < rs.record.count
  · rw [if_pos hi]
    cases hvalue : rs.value i with
    | some v => rfl
    | none =>
      rw [Option.none_or]
      by_contra hsome
      obtain ⟨hrecorded, hslot⟩ := hkept i (Option.isSome_iff_ne_none.mpr hsome)
      rw [← TQueryResultSet.value_eq_slot hactive hrecorded hi, hvalue] at hslot
      cases hslot
  · have hdata : rs.dataValue i = none := by
      rw [TQueryResultSet.dataValue]
      split_ifs with hshown hin
      · exact absurd (by exact_mod_cast hin.2) hi
      · rfl
      · rfl
    rw [if_neg hi, TQueryResultSet.value, hdata, ite_self]

theorem rowRecord_kept {rs : TQueryResultSet} {record : Record} (hactive : rs.isActive = true)
    (h : Kept rs record) : Kept rs (rowRecord rs record) := by
  intro i hi
  rw [rowRecord, if_neg (by simp [hactive])] at hi
  by_cases hvalid : rs.index ≠ SQL_BeforeFirstRow ∧ rs.index ≠ SQL_AfterLastRow
  · rw [if_pos hvalid] at hi
    split_ifs at hi with hcount
    · cases hrecorded : rs.record.isEmpty with
      | false =>
        rw [TQueryResultSet.value_eq_slot hactive hrecorded hcount] at hi
        refine ⟨rfl, ?_⟩
        cases hslot : rs.values[i]?.join with
        | some v => rfl
        | none =>
          rw [hslot, Option.none_or] at hi
          rw [← hslot]
          exact (h i hi).2
      | true =>
        have hdata : rs.dataValue i = none := if_neg (by simp [hrecorded])
        rw [TQueryResultSet.value, hdata, ite_self, Option.none_or] at hi
        obtain ⟨hmade, -⟩ := h i hi
        rw [hrecorded] at hmade
        cases hmade
    · cases hi
  · rw [if_neg hvalid] at hi
    exact h i hi

/-- The record of a query that was reached shows no value that the query has lost. -/
theorem ReachedWith.kept {q : Query} {record : Record} (h : ReachedWith e conv q record) :
    (q.resultSet = none → record = .create) ∧
      ∀ rs ∈ q.resultSet, Kept rs.toTQueryResultSet record := by
  induction h with
  | create conn => exact ⟨fun _ => rfl, by rintro rs ⟨⟩⟩
  | connection h conn ih => exact ih
  | @call q q' record c b h hc ih =>
    obtain ⟨hnone, hkept⟩ := ih
    cases hrs : q.resultSet with
    | none =>
      rw [hnone hrs]
      exact ⟨fun _ => rfl, fun rs _ => .of_create _⟩
    | some rs =>
      obtain ⟨rs', hrs', hgrows⟩ := call_resultSet e conv hrs hc
      rw [hrs']
      refine ⟨by simp, fun rs'' hrs'' => ?_⟩
      obtain rfl := Option.some.inj hrs''
      exact (hkept rs hrs).mono hgrows
  | @rowRecord q record rs h hrs hactive ih =>
    obtain ⟨-, hkept⟩ := ih
    rw [hrs]
    refine ⟨by simp, fun rs' hrs' => ?_⟩
    obtain rfl := Option.some.inj hrs'
    exact rowRecord_kept hactive (hkept rs hrs)

/-! ### Between two fetches -/

/-- An executed result set and its record. A record that is empty now has the mark. -/
structure Iterating (rs : TSQLiteResultSet) (record : Record) : Prop extends Open rs where
  index_nonneg : rs.fakeFirstRowFetch = true → 0 ≤ rs.index
  marked : rs.record.isEmpty = true →
    rs.record.isEmptySet = true ∧ (columns rs.stmtHandle).length = 0
  kept : Kept rs.toTQueryResultSet record

theorem storeRow_mark {rs : TSQLiteResultSet} (row : Row)
    (h : rs.record.isEmpty = true →
      rs.record.isEmptySet = true ∧ (columns rs.stmtHandle).length = 0) :
    (storeRow rs row).record.isEmptySet = rs.record.isEmptySet ∧
      ((storeRow rs row).record.isEmpty = true → rs.record.isEmpty = true) := by
  change (ensureRecord rs).record.isEmptySet = _ ∧ ((ensureRecord rs).record.isEmpty = true → _)
  rcases hempty : rs.record.isEmpty with _ | _
  · rw [ensureRecord_of_recorded hempty]
    exact ⟨rfl, fun hr => hempty.symm.trans hr⟩
  · obtain ⟨hmark, hcolumns⟩ := h hempty
    rw [ensureRecord_empty hempty, initRecord, if_pos hcolumns, hmark]
    exact ⟨rfl, fun _ => rfl⟩

theorem fetch_true_iff {s : Session} (h : Open s.2) :
    ((driver e conv).fetch s).1 = true ↔ RowWaits e s := by
  have hnext : (nextRow e s).1 = true ↔ RowWaits e s := by
    constructor
    · intro htrue
      rcases TableInspection.nextRow_true e htrue with ⟨hfake, -⟩ | ⟨stmt, row, rest, hstmt, hrows, -⟩
      · exact .inl hfake
      · refine .inr ⟨stmt, hstmt, ?_⟩
        rw [hrows]
        exact List.cons_ne_nil row rest
    · intro hwaits
      cases hfake : s.2.fakeFirstRowFetch with
      | true => rw [nextRow_fake e hfake]
      | false =>
        rcases hwaits with hahead | ⟨stmt, hstmt, hrows⟩
        · rw [hfake] at hahead
          cases hahead
        · obtain ⟨row, rest, hcons⟩ := List.exists_cons_of_ne_nil hrows
          rw [nextRow_row hfake hstmt hcons]
  rw [fetch_eq e conv h.toReady h.isActive_eq, ← hnext]
  split_ifs with hkeep
  · rfl
  · exact iff_of_false (by simp) fun htrue => hkeep (.inr htrue)

/-- A fetch that finds a row keeps the mark, and the record comes to show the row. -/
theorem fetch_iterating {s : Session} {record : Record} (h : Iterating s.2 record)
    (hfetch : ((driver e conv).fetch s).1 = true) :
    Iterating ((driver e conv).fetch s).2.2
        (rowRecord ((driver e conv).fetch s).2.2.toTQueryResultSet record) ∧
      ((driver e conv).fetch s).2.2.record.isEmptySet = s.2.record.isEmptySet ∧
      ∀ i : ℕ, rowRecord ((driver e conv).fetch s).2.2.toTQueryResultSet record i =
        ((driver e conv).fetch s).2.2.value i := by
  obtain ⟨-, -, -, hopen, -⟩ := fetch_open e conv h.toOpen
  obtain ⟨hnext, hsame⟩ := Driver.fetch_true (D := driver e conv)
    (fun s hs => TableInspection.firstRow_true hs) hfetch
  change (nextRow e s).1 = true at hnext
  change _ = (nextRow e s).2 at hsame
  rw [hsame] at hopen ⊢
  have hkept : Kept (nextRow e s).2.2.toTQueryResultSet record :=
    h.kept.mono (grows_nextRow e s)
  obtain ⟨hindex, hmark, hmarked⟩ : 0 ≤ (nextRow e s).2.2.index ∧
      (nextRow e s).2.2.record.isEmptySet = s.2.record.isEmptySet ∧
      ((nextRow e s).2.2.record.isEmpty = true → (nextRow e s).2.2.record.isEmptySet = true ∧
        (columns (nextRow e s).2.2.stmtHandle).length = 0) := by
    cases hfake : s.2.fakeFirstRowFetch with
    | true =>
      rw [nextRow_fake e hfake]
      exact ⟨h.index_nonneg hfake, rfl, h.marked⟩
    | false =>
      rcases (fetch_true_iff e conv h.toOpen).mp hfetch with hahead | ⟨stmt, hstmt, hrows⟩
      · rw [hfake] at hahead
        cases hahead
      · obtain ⟨row, rest, hcons⟩ := List.exists_cons_of_ne_nil hrows
        rw [nextRow_row hfake hstmt hcons]
        set stored : TSQLiteResultSet := { beginFetch s.2 with
          stmtHandle := some { stmt with running := some ⟨rest, (stmt.run e s.1.log).failure⟩ } }
        have hbase : stored.toTQueryResultSet = s.2.toTQueryResultSet := beginFetch_base s.2
        have hcolumns : columns stored.stmtHandle = columns s.2.stmtHandle := by
          rw [hstmt]
          rfl
        obtain ⟨hmark, hempty⟩ := @storeRow_mark stored row (by
          rw [hbase, hcolumns]
          exact h.marked)
        rw [hbase] at hmark hempty
        refine ⟨?_, hmark, fun hstill => ?_⟩
        · have hge := h.index_ge
          change 0 ≤ (ensureRecord stored).index + 1
          rw [ensureRecord_index, hbase]
          unfold SQL_BeforeFirstRow at hge
          omega
        · obtain ⟨hset, hwidth⟩ := h.marked (hempty hstill)
          refine ⟨hmark.trans hset, ?_⟩
          rw [storeRow_stmtHandle, hcolumns]
          exact hwidth
  have heq := rowRecord_eq hopen.isActive_eq hindex hkept
  exact ⟨⟨hopen, fun _ => hindex, hmarked, rowRecord_kept hopen.isActive_eq hkept⟩, hmark, heq⟩

/-! ### The loops -/

/-- Without the mark the loops visit the same rows, and each row shows the same in both. -/
theorem agrees_unmarked {s : Session} {record : Record} (h : Iterating s.2 record)
    (hmark : s.2.record.isEmptySet = false) : Agrees (driver e conv) s record := by
  induction @drains e conv s generalizing record with
  | @fetch s hdrains ih =>
    by_cases hfetch : ((driver e conv).fetch s).1 = true
    · obtain ⟨hnext, hsame, heq⟩ := fetch_iterating e conv h hfetch
      obtain ⟨fuel, visits, heach, hwhile, hshown⟩ := ih hfetch hnext (hsame.trans hmark)
      have hmore : hasNext (driver e conv) s record = (true, ((driver e conv).fetch s).2,
          rowRecord ((driver e conv).fetch s).2.2.toTQueryResultSet record) := by
        have hnot : ((driver e conv).base ((driver e conv).fetch s).2.2).record.isEmptySet = false :=
          hsame.trans hmark
        unfold hasNext
        dsimp only
        rw [if_pos hfetch, hnot, Bool.and_false]
        rfl
      refine ⟨fuel + 1, visit (driver e conv) ((driver e conv).fetch s).2
        (rowRecord ((driver e conv).fetch s).2.2.toTQueryResultSet record) :: visits, ?_, ?_, ?_⟩
      · unfold eachIn
        dsimp only
        rw [hmore, if_pos rfl, heach]
        rfl
      · unfold whileNextRow
        dsimp only
        rw [if_pos hfetch]
        exact congrArg (Option.map _) hwhile
      · intro v hv i
        rcases List.mem_cons.mp hv with rfl | hv
        · exact .inl (heq i)
        · exact hshown v hv i
    · refine ⟨1, [], ?_, ?_, by simp⟩
      · unfold eachIn hasNext
        dsimp only
        rw [if_neg hfetch]
        rfl
      · unfold whileNextRow
        dsimp only
        rw [if_neg hfetch]

/-- The enumerator does not deliver a row while the record has the mark. -/
theorem hasNext_marked {s : Session} {record : Record} (h : Iterating s.2 record)
    (hmark : s.2.record.isEmptySet = true) :
    (hasNext (driver e conv) s record).1 = false := by
  unfold hasNext
  dsimp only
  split_ifs with hfetch
  · obtain ⟨hnext, hsame, -⟩ := fetch_iterating e conv h hfetch
    have hset : ((driver e conv).base ((driver e conv).fetch s).2.2).record.isEmptySet = true :=
      hsame.trans hmark
    have hactive : ((driver e conv).base ((driver e conv).fetch s).2.2).isActive = true :=
      hnext.isActive_eq
    rw [hset, hactive]
    rfl
  · rfl

/-- With the mark the enumerator stops at once, and the loops agree only where there is no row. -/
theorem agrees_marked_iff {s : Session} {record : Record} (h : Iterating s.2 record)
    (hmark : s.2.record.isEmptySet = true) :
    Agrees (driver e conv) s record ↔ ¬ ((driver e conv).fetch s).1 = true := by
  constructor
  · rintro ⟨fuel, visits, heach, hwhile, -⟩ hfetch
    cases fuel with
    | zero => cases heach
    | succ fuel =>
      unfold eachIn at heach
      dsimp only at heach
      rw [if_neg (by simp [hasNext_marked e conv h hmark])] at heach
      obtain rfl := Option.some.inj heach
      unfold whileNextRow at hwhile
      dsimp only at hwhile
      rw [if_pos hfetch, Option.map_eq_some_iff] at hwhile
      obtain ⟨rest, -, hcons⟩ := hwhile
      cases hcons
  · intro hfetch
    refine ⟨1, [], ?_, ?_, by simp⟩
    · unfold eachIn hasNext
      dsimp only
      rw [if_neg hfetch]
      rfl
    · unfold whileNextRow
      dsimp only
      rw [if_neg hfetch]

/-- A record that is still empty after it was made has no columns to describe, and is marked. -/
theorem ensureRecord_marked {rs : TSQLiteResultSet}
    (h : (ensureRecord rs).record.isEmpty = true) :
    rs.record.isEmpty = true ∧ (ensureRecord rs).record.isEmptySet = true ∧
      (columns rs.stmtHandle).length = 0 := by
  rcases ensureRecord_cases rs with ⟨hempty, -, -, hcolumns⟩ | ⟨hrecorded, heq⟩
  · refine ⟨hempty, ?_, hcolumns h⟩
    rw [ensureRecord_empty hempty, initRecord, if_pos (hcolumns h)]
    rfl
  · rw [heq, hrecorded] at h
    cases h

theorem executed_iterating {t r : Session} {record : Record} (hexecuted : Executed e conv t r)
    (hready : Ready t.2) (hkept : Kept r.2.toTQueryResultSet record) : Iterating r.2 record := by
  obtain ⟨hopen, -⟩ := hexecuted.opens e conv hready
  obtain ⟨stmt, calls, -, -, hcases⟩ := hexecuted.cases
  rcases hcases with ⟨row, rest, failure, -, -, hrs⟩ | ⟨idle, -, -, -, hrs⟩
  · set stored : TSQLiteResultSet := { beginFetch (rewound t.2) with
      stmtHandle := some { stmt with running := some ⟨rest, failure⟩ } }
    have hindex : 0 ≤ r.2.index := by
      have hge := (hready.rewound.beginFetch.with_stmtHandle stored.stmtHandle).index_ge
      rw [hrs]
      change 0 ≤ (ensureRecord stored).index + 1
      rw [ensureRecord_index]
      unfold SQL_BeforeFirstRow at hge
      change -1 ≤ stored.index at hge
      omega
    refine ⟨hopen, fun _ => hindex, fun hempty => ?_, hkept⟩
    rw [hrs] at hempty ⊢
    obtain ⟨-, hmark, hcolumns⟩ := ensureRecord_marked hempty
    refine ⟨hmark, ?_⟩
    change (columns (storeRow stored row).stmtHandle).length = 0
    rw [storeRow_stmtHandle]
    exact hcolumns
  · set stepped : TSQLiteResultSet := { beginFetch (rewound t.2) with stmtHandle := some stmt.rewind }
    refine ⟨hopen, fun hfake => ?_, fun hempty => ?_, hkept⟩
    · rw [hrs] at hfake
      cases hfake
    · rw [hrs] at hempty ⊢
      obtain ⟨hbefore, -, hcolumns⟩ := ensureRecord_marked hempty
      refine ⟨?_, ?_⟩
      · change (stepped.record.isEmpty || stepped.record.isEmptySet) = true
        rw [hbefore, Bool.true_or]
      · change (columns (storeEnd stepped).stmtHandle).length = 0
        rw [storeEnd_stmtHandle]
        exact hcolumns

/-- After a successful execution, whose first step did not fail, `EachIn` agrees with the loop,
exactly if the record is not marked as one of an empty set or no row waits. -/
theorem agrees_iff {q q₁ : Query} {record : Record} {statement : Text} {rs : TSQLiteResultSet}
    (h : ReachedWith e conv q record)
    (hexecute : q.execute (driver e conv) statement = some (true, q₁))
    (hok : ¬ StepFailed (SqliteVerdict.callsBetween q.conn q₁.conn))
    (hrs : q₁.resultSet = some rs) :
    Agrees (driver e conv) (q₁.conn, rs) record ↔
      rs.record.isEmptySet = false ∨ ¬ RowWaits e (q₁.conn, rs) := by
  obtain ⟨t, rs', calls, hrs', hexecuted, hready, -⟩ :=
    execute_some_true e conv (ready_reached e conv h.reached) hexecute hok
  obtain rfl : rs = rs' := Option.some.inj (hrs.symm.trans hrs')
  have hreached : ReachedWith e conv q₁ record := .call (c := .execute statement) h hexecute
  obtain ⟨-, hkept⟩ := hreached.kept e conv
  have hiterating := executed_iterating e conv hexecuted hready (hkept rs hrs)
  cases hmark : rs.record.isEmptySet with
  | false => exact iff_of_true (agrees_unmarked e conv hiterating hmark) (.inl rfl)
  | true =>
    rw [agrees_marked_iff e conv hiterating hmark, fetch_true_iff e conv hiterating.toOpen]
    exact (or_iff_right (by simp)).symm

/-- An engine with a table that is empty at first and has two rows after that. -/
def filledLater : Engine where
  prepare _ _ := .ok (some ⟨0, [⟨"id".toList, none⟩]⟩)
  reset _ _ := none
  bind _ _ _ _ := none
  run log _ := if log.any Call.isStep then ⟨[[.integer 1], [.integer 2]], none⟩ else ⟨[], none⟩
  message _ := noError

def selecting : Query :=
  ((TDatabaseQuery.create opened).prepare (driver filledLater .integers)
    "SELECT id FROM users".toList).2

/-- A statement is executed without rows and then with some, which `EachIn` does not visit. -/
theorem each_in_misses_rows :
    ∃ q₁ q₂ rs, selecting.execute (driver filledLater .integers) [] = some (true, q₁) ∧
      q₁.execute (driver filledLater .integers) [] = some (true, q₂) ∧
      ¬ StepFailed (SqliteVerdict.callsBetween q₁.conn q₂.conn) ∧ q₂.resultSet = some rs ∧
      eachIn (driver filledLater .integers) (q₂.conn, rs) .create 1 = some [] ∧
      (whileNextRow (driver filledLater .integers) (q₂.conn, rs) .create 2).map List.length =
        some 1 ∧
      ¬ Agrees (driver filledLater .integers) (q₂.conn, rs) .create := by
  refine ⟨_, _, _, rfl, rfl, by decide, rfl, rfl, rfl, ?_⟩
  rintro ⟨fuel, visits, heach, hwhile, -⟩
  cases fuel with
  | zero => cases heach
  | succ fuel =>
    obtain rfl : [] = visits := Option.some.inj heach
    change Option.map _ _ = some [] at hwhile
    obtain ⟨rest, -, hcons⟩ := Option.map_eq_some_iff.mp hwhile
    cases hcons

theorem agrees_iff_single_row :
    ∃ q₁ rs, (TDatabaseQuery.create opened).execute (driver singleRow .integers)
        "SELECT 1".toList = some (true, q₁) ∧ q₁.resultSet = some rs ∧
      (Agrees (driver singleRow .integers) (q₁.conn, rs) .create ↔
        rs.record.isEmptySet = false ∨ ¬ RowWaits singleRow (q₁.conn, rs)) := by
  obtain ⟨q₁, rs, hexecute, hok, hrs⟩ : ∃ q₁ rs,
      (TDatabaseQuery.create opened).execute (driver singleRow .integers)
        "SELECT 1".toList = some (true, q₁) ∧
      ¬ StepFailed (SqliteVerdict.callsBetween opened q₁.conn) ∧ q₁.resultSet = some rs :=
    ⟨_, _, rfl, by decide, rfl⟩
  exact ⟨q₁, rs, hexecute, hrs, agrees_iff singleRow .integers (.create opened) hexecute hok hrs⟩

end DatabaseMod.SqliteEnumeration
