import DatabaseMod.MariaRecord
import DatabaseMod.SqliteEnumeration

/-!
# The columns that a connection reports

What `getTableInfo` makes of a catalog: the loop over the rows visits each row of the catalog once
and in order. SQLite says whether a column is NOT NULL, MariaDB whether it may be null.
-/

namespace DatabaseMod.TableColumns
open SqlTokens (Text trim)
open CoreValues CoreResultSet CoreQuery SqlEngine
open TableInspection

/-- A column as the server has it. -/
structure ColumnInfo where
  name : Text
  type : Text
  admitsNull : Bool
  default : Option Text
deriving DecidableEq, Repr

/-- One column for each, in order, with its name and whether it may be null. -/
def Means (columns : List ColumnInfo) (reported : List TDBColumn) : Prop :=
  List.Forall₂ (fun info column => column.name = info.name ∧
    (column.nullable ≠ 0 ↔ info.admitsNull = true)) columns reported

/-! ### Loops over rows -/

section

variable {C RS : Type} {D : Driver C RS} {ρ α : Type*} {body : Record → α}

theorem eachRow_mono {s : C × RS} {record : Record} {fuel fuel' : ℕ} (hle : fuel ≤ fuel')
    {r : List α × (C × RS) × Record} (h : eachRow D body s record fuel = some r) :
    eachRow D body s record fuel' = some r := by
  induction fuel generalizing s record fuel' r with
  | zero => cases h
  | succ fuel ih =>
    obtain ⟨fuel', rfl⟩ := Nat.exists_eq_add_of_le hle
    rw [Nat.add_right_comm]
    unfold eachRow at h ⊢
    dsimp only at h ⊢
    split_ifs at h ⊢ with hmore
    · obtain ⟨rest, hrest, rfl⟩ := Option.map_eq_some_iff.mp h
      rw [ih (Nat.le_add_right fuel fuel') hrest]
      rfl
    · exact h

/-- `P` says which rows are left. Where each turn takes one row off and the loop stops with the last
of them, the body is run on every row once. -/
theorem eachRow_delivers {P : List ρ → C × RS → Record → Prop} {R : ρ → α → Prop}
    (more : ∀ row rest s record, P (row :: rest) s record → (hasNext D s record).1 = true ∧
      R row (body (hasNext D s record).2.2) ∧
      P rest (hasNext D s record).2.1 (hasNext D s record).2.2)
    (done : ∀ s record, P [] s record → (hasNext D s record).1 = false)
    {rows : List ρ} {s : C × RS} {record : Record} (h : P rows s record) :
    ∃ results last, eachRow D body s record (rows.length + 1) = some (results, last) ∧
      List.Forall₂ R rows results := by
  induction rows generalizing s record with
  | nil =>
    refine ⟨[], (hasNext D s record).2, ?_, .nil⟩
    rw [eachRow, if_neg (by simp [done s record h])]
  | cons row rest ih =>
    obtain ⟨hmore, hrow, hrest⟩ := more row rest s record h
    obtain ⟨results, last, hrun, hall⟩ := ih hrest
    refine ⟨body (hasNext D s record).2.2 :: results, last, ?_, .cons hrow hall⟩
    rw [List.length_cons, eachRow, if_pos hmore, hrun]
    rfl

theorem appendDdl_ends {s : C × RS} (h : Drains D s) (i : ℕ) (table : TDBTable)
    (record : Record) :
    ∃ fuel, ∀ fuel' ≥ fuel, ∃ t, appendDdl D i table s record fuel' = some t ∧
      t.1.columns = table.columns := by
  obtain ⟨fuel, hfuel⟩ := h.ends (fun row => row.getString i ++ ";\n\n".toList) record
  obtain ⟨r, hr⟩ := Option.isSome_iff_exists.mp hfuel
  refine ⟨fuel, fun fuel' hle =>
    ⟨({ table with ddl := table.ddl ++ r.1.flatten }, r.2.1), ?_, rfl⟩⟩
  rw [appendDdl, eachRow_mono hle hr]
  rfl

end

section

variable {C RS : Type} {D : Driver C RS} {s : C × RS} (hactive : (D.base s.2).isActive = true)
  (hindex : SQL_BeforeFirstRow ≤ (D.base s.2).index)
  (hfirst : (D.base s.2).index = SQL_BeforeFirstRow → D.firstRow s = D.nextRow s)
include hactive hindex hfirst

theorem fetch_row (hok : (D.nextRow s).1 = true) : D.fetch s = D.nextRow s := by
  unfold Driver.fetch
  dsimp only
  split_ifs with hbefore hafter
  · exact hfirst hbefore
  · rw [hafter] at hindex
    exact absurd hindex (by decide)
  · exact Prod.ext hok.symm rfl

omit hindex in
theorem fetch_no_row (hno : (D.nextRow s).1 = false) : (D.fetch s).1 = false := by
  unfold Driver.fetch
  dsimp only
  split_ifs with hbefore hafter hok
  · rw [hfirst hbefore, hno]
  · rfl
  · rw [hno] at hok
    cases hok
  · rfl

end

theorem rowRecord_value {rs : TQueryResultSet} (hactive : rs.isActive = true)
    (hindex : 0 ≤ rs.index) {i : ℕ} (hi : i < rs.record.count) (record : Record) :
    rowRecord rs record i = (rs.value i).or (record i) := by
  have hinside : rs.index ≠ SQL_BeforeFirstRow ∧ rs.index ≠ SQL_AfterLastRow := by
    unfold SQL_BeforeFirstRow SQL_AfterLastRow
    omega
  rw [rowRecord, if_neg (by simp [hactive]), if_pos hinside, if_pos hi]

/-- The record of a row shows the values that there are. -/
theorem rowRecord_some {rs : TQueryResultSet} (hactive : rs.isActive = true)
    (hindex : 0 ≤ rs.index) {i : ℕ} (hi : i < rs.record.count) {v : TDBType}
    (hv : rs.value i = some v) (record : Record) : rowRecord rs record i = some v := by
  rw [rowRecord_value hactive hindex hi, hv]
  rfl

/-! ### SQLite -/

section

open SqliteDriver SqliteSteps SqliteInvariant SqliteCursor SqliteRounds SqliteEnumeration
open TSQLiteResultSet

variable {e : Engine} {conv : Conversions}

/-- A row of `PRAGMA table_info`. -/
structure IsPragmaRow (info : ColumnInfo) (row : Row) : Prop where
  name : cell row 1 = .text info.name
  type : cell row 2 = .text info.type
  notNull : cell row 3 = .integer (if info.admitsNull then 0 else 1)
  default : cell row 4 = info.default.elim .null .text

/-- What the driver makes of such a row. -/
structure Reports (info : ColumnInfo) (column : TDBColumn) : Prop where
  name : column.name = info.name
  dbType : column.dbType = dbTypeFromNative info.type
  nullable : column.nullable = if info.admitsNull then 0 else 1

/-- Between two rows, with these still to fetch. -/
structure Scans (rs : TSQLiteResultSet) (record : Record) (rest : List Row) : Prop
    extends Streaming rs rest, Iterating rs record where
  columns_ge : 5 ≤ (columns rs.stmtHandle).length
  mark : rs.record.isEmptySet = false

theorem hasNext_fetched {s s' : Session} {record : Record}
    (hfetch : (driver e conv).fetch s = (true, s')) (hmark : s'.2.record.isEmptySet = false) :
    hasNext (driver e conv) s record = (true, s', rowRecord s'.2.toTQueryResultSet record) := by
  have hnot : ((driver e conv).base s'.2).record.isEmptySet = false := hmark
  unfold hasNext
  dsimp only
  rw [hfetch, if_pos rfl, hnot, Bool.and_false]
  rfl

theorem columnValue_text (old : Option TDBType) {c : SqlValue} (h : c ≠ .null) :
    columnValue old c = columnValue none c := by
  cases c with
  | null => exact absurd rfl h
  | _ => rfl

variable (conv) in
/-- A fetch takes one row off and the record shows it. -/
theorem Scans.hasNext {rs : TSQLiteResultSet} {record : Record} {row : Row} {rest : List Row}
    (h : Scans rs record (row :: rest)) (conn : TDBSQLite) :
    ∃ conn' rs', hasNext (driver e conv) (conn, rs) record =
        (true, (conn', rs'), rowRecord rs'.toTQueryResultSet record) ∧
      Scans rs' (rowRecord rs'.toTQueryResultSet record) rest ∧
      ∀ i < 5, cell row i ≠ .null →
        rowRecord rs'.toTQueryResultSet record i = columnValue none (cell row i) := by
  obtain ⟨conn', rs', hfetch, hstreaming, hcolumns, hvalues, hrecord⟩ :=
    h.toStreaming.fetch_cons e conv conn
  obtain ⟨hiterating, hmark, hshown⟩ := fetch_iterating e conv (s := (conn, rs)) h.toIterating
    (congrArg Prod.fst hfetch)
  rw [hfetch] at hiterating hmark hshown
  refine ⟨conn', rs', hasNext_fetched hfetch (hmark.trans h.mark),
    ⟨hstreaming, hiterating.index_nonneg, hiterating.marked, hiterating.kept,
      hcolumns ▸ h.columns_ge, hmark.trans h.mark⟩, fun i hi hcell => ?_⟩
  have hlength : rs.values.length = rs'.record.count := by
    rw [hrecord]
    exact h.values_length h.recorded
  obtain ⟨hold, hvalue⟩ := value_of_values hstreaming.isActive_eq hstreaming.toCovers hlength
    hvalues (i := i) (hcolumns ▸ hi.trans_le h.columns_ge)
  rw [hshown i, hvalue, columnValue_text _ hcell]

theorem reports_column {info : ColumnInfo} {row : Row} {record : Record}
    (hrow : IsPragmaRow info row)
    (h : ∀ i < 5, cell row i ≠ .null → record i = columnValue none (cell row i)) :
    Reports info (TDBSQLite.column conv record) := by
  have hname := h 1 (by omega) (by rw [hrow.name]; simp)
  have htype := h 2 (by omega) (by rw [hrow.type]; simp)
  have hnotNull := h 3 (by omega) (by rw [hrow.notNull]; simp)
  rw [hrow.name] at hname
  rw [hrow.type] at htype
  rw [hrow.notNull] at hnotNull
  refine ⟨?_, ?_, ?_⟩
  · simp only [TDBSQLite.column, Record.getString, hname]
    rfl
  · simp only [TDBSQLite.column, Record.getString, htype]
    rfl
  · simp only [TDBSQLite.column, Record.getInt, hnotNull]
    cases info.admitsNull <;> rfl

variable (conv) in
theorem scans_deliver {infos : List ColumnInfo} {rows : List Row} {s : Session} {record : Record}
    (hrows : List.Forall₂ IsPragmaRow infos rows) (h : Scans s.2 record rows) :
    ∃ reported last, eachRow (driver e conv) (TDBSQLite.column conv) s record (infos.length + 1) =
        some (reported, last) ∧ List.Forall₂ Reports infos reported := by
  refine eachRow_delivers (P := fun infos s record =>
    ∃ rows, List.Forall₂ IsPragmaRow infos rows ∧ Scans s.2 record rows) ?_ ?_ ⟨rows, hrows, h⟩
  · rintro info infos ⟨conn, rs⟩ record ⟨rows, hrows, hscans⟩
    cases hrows with
    | @cons _ row _ rows hrow hrows =>
      obtain ⟨conn', rs', hnext, hscans', hshown⟩ := hscans.hasNext (e := e) conv conn
      rw [hnext]
      exact ⟨rfl, reports_column hrow hshown, rows, hrows, hscans'⟩
  · rintro ⟨conn, rs⟩ record ⟨rows, hrows, hscans⟩
    cases hrows
    have hfetch := hscans.toStreaming.fetch_nil e conv conn
    unfold TableInspection.hasNext
    dsimp only
    rw [if_neg (by simp [hfetch])]

/-- The result set after a run of these rows began: nothing was found, or the first row is fetched
ahead. -/
def afterRun (rs : TSQLiteResultSet) (stmt : Statement) : List Row → TSQLiteResultSet
  | [] => { storeEnd { beginFetch (rewound rs) with stmtHandle := some stmt.rewind } with
      isActive := true }
  | row :: rest => { storeRow (beforeStore rs stmt ⟨rest, none⟩) row with isActive := true }

variable (conv) in
theorem execute_new {s : Session} {stmt : Statement} {log : List Call} {rows : List Row}
    (hstmt : s.2.stmtHandle = some stmt) (hreset : e.reset s.1.log stmt.handle = none)
    (hcount : stmt.description.parameterCount = s.2.bindCount)
    (hbound : bindParameters e conv (some stmt.rewind) 0 (answered s.1.log stmt.handle .reset)
      (s.2.boundValues.take s.2.bindCount) = (log, none))
    (herror : s.1.hasError = false) (hrun : e.run log stmt.handle = ⟨rows, none⟩) :
    (execute e conv s).1 = true ∧ (execute e conv s).2.2 = afterRun s.2 stmt rows ∧
      ¬ StepFailed (SqliteVerdict.callsBetween s.1 (execute e conv s).2.1) := by
  obtain ⟨bound, hlog, hno, -⟩ := bindParameters_log e conv (some stmt.rewind) 0
    (answered s.1.log stmt.handle .reset) (s.2.boundValues.take s.2.bindCount)
  rw [hbound] at hlog
  have hquiet : NoStep (⟨some stmt.handle, .reset, none⟩ :: bound) :=
    List.forall_mem_cons.mpr ⟨rfl, hno⟩
  have hlog : log = s.1.log ++ ⟨some stmt.handle, .reset, none⟩ :: bound :=
    hlog.trans (by rw [answered, ← List.append_cons])
  have hunfailed {conn : TDBSQLite} {c : Call} {idle : List Call} (hidle : Idle idle)
      (hstep : c.isStep = true) (hok : c.failed = false) (hconn : conn.log = log ++ c :: idle) :
      ¬ StepFailed (SqliteVerdict.callsBetween s.1 conn) := by
    have hcalls : conn.log = s.1.log ++ (⟨some stmt.handle, .reset, none⟩ :: bound ++ c :: idle) := by
      rw [hconn, hlog, List.append_assoc]
    rw [callsBetween_eq hcalls, hquiet.stepFailed_append, hidle.stepFailed_cons hstep, hok]
    exact Bool.false_ne_true
  rw [execute_eq_prefetch conv hstmt hreset hcount hbound]
  set t : Session := ({ s.1 with log := log }, rewound s.2) with ht
  have hrewound : t.2.stmtHandle = some stmt.rewind := by simp [ht, rewound, hstmt]
  have hrunning : stmt.rewind.run e t.1.log = ⟨rows, none⟩ := hrun
  cases rows with
  | cons row rest =>
    have hnext := nextRow_row (e := e) (s := t) rfl hrewound (congrArg Run.rows hrunning)
    rw [prefetch_eq (by rw [hnext]; exact herror), hnext, hrunning]
    exact ⟨rfl, rfl, hunfailed .nil rfl rfl rfl⟩
  | nil =>
    obtain ⟨calls, hidle, hnext⟩ := nextRow_done (e := e) (s := t) rfl hrewound
      (congrArg Run.rows hrunning) (congrArg Run.failure hrunning)
    rw [prefetch_eq (by rw [hnext]; exact herror), hnext]
    exact ⟨rfl, rfl, hunfailed hidle rfl rfl rfl⟩

/-- The statement, as it is after it was prepared on this connection. -/
def newStatement (conn : TDBSQLite) (d : Description) : Statement := ⟨conn.log.length, d, none⟩

variable (conv) in
theorem executeStatement_rows {conn : TDBSQLite} {sql : Text} {d : Description} {rows : List Row}
    (hopen : conn.isOpen = true) (herror : conn.hasError = false) (hsql : trim sql = sql)
    (hne : sql ≠ []) (h : e.prepare conn.log sql = .ok (some d)) (hcount : d.parameterCount = 0)
    (hreset : e.reset (answered conn.log conn.log.length (.prepare sql)) conn.log.length = none)
    (hrun : e.run (answered (answered conn.log conn.log.length (.prepare sql)) conn.log.length
      .reset) conn.log.length = ⟨rows, none⟩) :
    ∃ t r, (driver e conv).executeStatement sql ((driver e conv).opened conn none) = (true, r) ∧
      Executed e conv t r ∧ t.2 = newResultSet conn.created sql (newStatement conn d) ∧
      r.2 = afterRun t.2 (newStatement conn d) rows := by
  obtain ⟨conn', hprepare, hlog, hconn⟩ := prepare_new conv hopen hsql hne h
  have hisOpen := opened_isOpen e conv hopen (trim sql)
  set t : Session := (conn', newResultSet conn.created sql (newStatement conn d)) with ht
  obtain ⟨hok, hrs, hunfailed⟩ := execute_new (e := e) (s := t) conv rfl
    (by rw [ht, hlog]; exact hreset) hcount rfl
    ((congrArg TDBConnection.hasError hconn).trans herror) (by rw [ht, hlog]; exact hrun)
  have heq : (driver e conv).executeStatement sql ((driver e conv).opened conn none) =
      (driver e conv).finish (execute e conv t) := by
    unfold Driver.executeStatement
    rw [if_neg (by simpa [hsql] using hne)]
    dsimp only
    rw [if_pos hisOpen]
    change (driver e conv).finish (executeQuery e conv sql _) = _
    unfold executeQuery
    rw [hprepare]
    rfl
  have hfinish : ((driver e conv).finish (execute e conv t)).1 = true := by
    rw [Driver.finish_ok, hok]
  have hlogged : ((driver e conv).finish (execute e conv t)).2.1.log =
      (execute e conv t).2.1.log :=
    Driver.finish_connection (f := TDBSQLite.log) _ (fun _ _ => rfl) _
  have hexecuted := executed_finish e conv hfinish (by
    rw [SqliteVerdict.callsBetween, hlogged]
    exact hunfailed)
  refine ⟨t, _, heq.trans (Prod.ext hfinish rfl), hexecuted, rfl, ?_⟩
  rw [hexecuted.resultSet_eq, hrs]

theorem ready_new (conn : TDBSQLite) (sql : Text) (stmt : Statement) :
    Ready (newResultSet conn.created sql stmt) :=
  ((ready_create conn).with_query sql).with_stmtHandle (some stmt)

/-- The loop after an execution that found the rows of a catalog. -/
theorem afterRun_delivers {t r : Session} {conn : TDBSQLite} {sql : Text} {stmt : Statement}
    {infos : List ColumnInfo} {rows : List Row} (hexecuted : Executed e conv t r)
    (ht : t.2 = newResultSet conn.created sql stmt) (hr : r.2 = afterRun t.2 stmt rows)
    (hwide : 5 ≤ stmt.description.columns.length)
    (hrows : List.Forall₂ IsPragmaRow infos rows) :
    ∃ fuel reported last, eachRow (driver e conv) (TDBSQLite.column conv) r .create fuel =
        some (reported, last) ∧ List.Forall₂ Reports infos reported := by
  have hready : Ready t.2 := ht ▸ ready_new conn sql stmt
  have hstmt : t.2.stmtHandle = some stmt := congrArg TSQLiteResultSet.stmtHandle ht
  have hempty : t.2.record.isEmpty = true := congrArg (fun rs => rs.record.isEmpty) ht
  have hiterating := executed_iterating e conv hexecuted hready
    (Kept.of_create r.2.toTQueryResultSet)
  cases hrows with
  | nil =>
    have hmark : r.2.record.isEmptySet = true := by
      rw [hr, ht]
      rfl
    refine ⟨1, [], (hasNext (driver e conv) r .create).2, ?_, .nil⟩
    rw [eachRow, if_neg (by simp [hasNext_marked e conv hiterating hmark])]
  | @cons info row infos rows hrow hrows =>
    have hpos : 0 < (columns t.2.stmtHandle).length := by
      rw [hstmt]
      exact Nat.lt_of_lt_of_le (by omega) hwide
    have hrecorded := (SqliteRecord.initRecord_names hpos).1
    have hensure := SqliteRecord.ensureRecord_empty hempty
    have hcovers : Covers (ensureRecord t.2) := by
      refine ⟨by rw [hensure, hrecorded], ?_⟩
      rw [ensureRecord_stmtHandle, hensure, initRecord, if_neg hpos.ne', TQueryRecord.count,
        List.length_map]
    have hopen : Open (afterRun t.2 stmt (row :: rows)) := hr ▸ hiterating.toOpen
    obtain ⟨hstreaming, hvalues, hrecord, hfake⟩ :=
      @streaming_stored t.2 stmt row ⟨rows, none⟩ hstmt hready hcovers hopen
    have hcolumns : columns r.2.stmtHandle = stmt.description.columns := by
      rw [hr]
      exact congrArg columns (storeRow_stmtHandle (beforeStore t.2 stmt ⟨rows, none⟩) row)
    have hahead : r.2.fakeFirstRowFetch = true := by
      rw [hr]
      exact hfake.trans (congrArg TSQLiteResultSet.initialFetch ht)
    have hmark : r.2.record.isEmptySet = false := by
      rw [hr]
      refine (congrArg TQueryRecord.isEmptySet (hrecord.trans hensure)).trans ?_
      rw [initRecord, if_neg hpos.ne']
    set rs : TSQLiteResultSet := { r.2 with fakeFirstRowFetch := false } with hrs
    have hfetch : (driver e conv).fetch r = (true, r.1, rs) := by
      rw [fetch_eq e conv hiterating.toReady hiterating.isActive_eq, nextRow_fake e hahead,
        if_pos (.inr rfl)]
    obtain ⟨hnext, -, hshown⟩ := fetch_iterating e conv hiterating (congrArg Prod.fst hfetch)
    rw [hfetch] at hnext hshown
    have hstreaming' : Streaming rs rows := by
      rw [hrs, hr]
      exact hstreaming
    have hscans : Scans rs (rowRecord rs.toTQueryResultSet .create) rows :=
      ⟨hstreaming', hnext.index_nonneg, hnext.marked, hnext.kept, hcolumns ▸ hwide, hmark⟩
    have hmore := @hasNext_fetched e conv r (r.1, rs) .create hfetch hmark
    obtain ⟨reported, last, hrun, hall⟩ := scans_deliver (e := e) (s := (r.1, rs)) conv
      hrows hscans
    refine ⟨infos.length + 2,
      TDBSQLite.column conv (rowRecord rs.toTQueryResultSet .create) :: reported, last, ?_,
      .cons (reports_column hrow ?_) hall⟩
    · rw [eachRow, hmore, if_pos rfl, hrun]
      rfl
    · intro i hi hcell
      have hlength : (ensureRecord t.2).values.length = rs.record.count := by
        rw [hready.ensureRecord.values_length hcovers.recorded, ← hrecord, hrs, hr]
        rfl
      obtain ⟨hold, hvalue⟩ := value_of_values hstreaming'.isActive_eq hstreaming'.toCovers hlength
        (by rw [hrs, hr]; exact hvalues) (i := i) (hcolumns ▸ hi.trans_le hwide)
      rw [hshown i, hvalue, columnValue_text _ hcell]

/-- What the engine answers to the statement that describes the table. -/
structure PragmaReports (e : Engine) (tableName : Text) (infos : List ColumnInfo) : Prop where
  prepare : ∀ log, ∃ columns, 5 ≤ columns.length ∧
    e.prepare log (TDBSQLite.tableInfoSql tableName) = .ok (some ⟨0, columns⟩)
  run : ∀ log, ∃ rows, List.Forall₂ IsPragmaRow infos rows ∧
    e.run (answered (answered log log.length (.prepare (TDBSQLite.tableInfoSql tableName)))
      log.length .reset) log.length = ⟨rows, none⟩

/-- The loop over the rows of the table, and the one over the statements that created it. -/
theorem readTable_ends {s : Session} {infos : List ColumnInfo} (tableName : Text) (withDDL : Bool)
    (h : ∃ fuel reported last, eachRow (driver e conv) (TDBSQLite.column conv) s .create fuel =
      some (reported, last) ∧ List.Forall₂ Reports infos reported) :
    ∃ fuel, ∀ fuel' ≥ fuel, ∃ t, TDBSQLite.readTable e conv tableName withDDL fuel' s = some t ∧
      List.Forall₂ Reports infos t.1.columns := by
  obtain ⟨fuel, reported, ⟨last, record⟩, hrun, hall⟩ := h
  have hrows (fuel' : ℕ) (hle : fuel ≤ fuel') := eachRow_mono hle hrun
  cases withDDL with
  | false =>
    refine ⟨fuel, fun fuel' hle => ⟨(⟨tableName, reported, []⟩, last), ?_, hall⟩⟩
    rw [TDBSQLite.readTable, hrows fuel' hle]
    rfl
  | true =>
    set r := (driver e conv).executePrepared (TDBSQLite.prepareForTable e conv
      TDBSQLite.tableDdlSql tableName last.1 (some last.2)) with hr
    by_cases hok : r.1 = true
    · obtain ⟨ends, hends⟩ := appendDdl_ends (@drains e conv r.2) 0
        ⟨tableName, reported, []⟩ record
      refine ⟨max fuel ends, fun fuel' hle => ?_⟩
      obtain ⟨t, ht, hcolumns⟩ := hends fuel' (le_of_max_le_right hle)
      refine ⟨t, ?_, hcolumns ▸ hall⟩
      rw [TDBSQLite.readTable, hrows fuel' (le_of_max_le_left hle)]
      dsimp only [Option.bind_eq_bind, Option.bind_some]
      rw [if_pos rfl, ← hr, if_pos hok, ht]
    · refine ⟨fuel, fun fuel' hle => ⟨(⟨tableName, reported, []⟩, r.2), ?_, hall⟩⟩
      rw [TDBSQLite.readTable, hrows fuel' hle]
      dsimp only [Option.bind_eq_bind, Option.bind_some]
      rw [if_pos rfl, ← hr, if_neg hok]

theorem sqlite_reports {w : SqlNames.Words} {sameName : Text → Text → Bool}
    {tables : List Call → List Text} (hcatalog : TDBSQLite.Catalog w sameName tables e)
    {conn : TDBSQLite} {tableName : Text} {infos : List ColumnInfo} (hopen : conn.isOpen = true)
    (hfound : ∃ table ∈ tables conn.log, sameName table (cString tableName) = true)
    (hpragma : PragmaReports e tableName infos) (withDDL : Bool) :
    ∃ fuel, ∀ fuel' ≥ fuel, ∃ table conn',
      TDBSQLite.getTableInfo e conv tableName withDDL fuel' conn = some (some table, conn') ∧
        List.Forall₂ Reports infos table.columns := by
  obtain ⟨hexists, hopen', herror⟩ := TDBSQLite.tableExists_true hcatalog conv hopen hfound
  set found := TDBSQLite.tableExists e conv tableName conn with hfound
  obtain ⟨columns, hwide, hprepare⟩ := hpragma.prepare found.2.log
  obtain ⟨rows, hrows, hrun⟩ := hpragma.run found.2.log
  obtain ⟨t, r, hexecute, hexecuted, ht, hr⟩ := executeStatement_rows conv hopen' herror
    (TDBSQLite.trim_tableInfoSql tableName) (List.cons_ne_nil _ _) hprepare rfl
    (hcatalog.reset_prepared _ _) hrun
  obtain ⟨fuel, hends⟩ := readTable_ends tableName withDDL
    (afterRun_delivers hexecuted ht hr hwide hrows)
  refine ⟨fuel, fun fuel' hle => ?_⟩
  obtain ⟨table, htable, hall⟩ := hends fuel' hle
  refine ⟨table.1, (free table.2).1, ?_, hall⟩
  rw [TDBSQLite.getTableInfo, if_neg (by simpa using hopen), ← hfound]
  dsimp only
  rw [if_neg (by simpa using hexists), hexecute, if_pos rfl, htable]
  rfl

end

/-! ### MariaDB -/

section

open MariaDriver TMySQLResultSet

variable {lib : Libmariadb} {rt : Runtime}

/-- A row of `SHOW COLUMNS`, as its texts are read. -/
structure IsShownRow (rt : Runtime) (info : ColumnInfo) (row : List (Option (List UInt8))) :
    Prop where
  name : ∃ bytes, row[0]? = some (some bytes) ∧ rt.fromUTF8 (fromBytes bytes) = info.name
  null : ∃ bytes, row[2]? = some (some bytes) ∧
    (rt.fromUTF8 (fromBytes bytes) = "YES".toList ↔ info.admitsNull = true)

/-- The first columns of the answer are texts. -/
def TextFields (fields : List Field) : Prop :=
  ∀ i < 3, ∃ f, fields[i]? = some f ∧ MariaDriver.dbTypeFromNative f.type f.flags = DBTYPE_STRING

/-- What the library answers where the columns are asked for after these calls. -/
structure ColumnsShown (lib : Libmariadb) (rt : Runtime) (log : List MariaDriver.Call)
    (tableName : Text) (infos : List ColumnInfo) : Prop where
  alive : lib.code (log ++ [.ping]) = 0
  pinged : lib.code (log ++ [.ping, .ping]) = 0
  query : lib.code (log ++ [.ping, .ping, .realQuery (TDBMariaDB.showColumnsSql tableName)]) = 0
  stored : ∃ fields rows, TextFields fields ∧ List.Forall₂ (IsShownRow rt) infos rows ∧
    lib.stored (log ++ [.ping, .ping, .realQuery (TDBMariaDB.showColumnsSql tableName),
      .storeResult]) = .rows ⟨fields, rows⟩

/-- Between two rows of a text result, with these still to fetch. -/
structure ReadsText (rs : TMySQLResultSet) (fields : List Field)
    (rest : List (List (Option (List UInt8)))) : Prop where
  isActive : rs.isActive = true
  text : rs.preparedQuery = false
  resultHandle : rs.resultHandle = some ⟨fields, rest⟩
  record : rs.record = ⟨fields.map fun f => ⟨f.name, MariaDriver.dbTypeFromNative f.type f.flags⟩,
    false, false⟩
  values : rs.values.length = fields.length
  index_ge : SQL_BeforeFirstRow ≤ rs.index

section

variable {rs : TMySQLResultSet} {fields : List Field} {row : List (Option (List UInt8))}
  {rest : List (List (Option (List UInt8)))}

variable (lib rt) in
/-- A fetch takes one row off, whose texts can be read. -/
theorem ReadsText.nextRow_cons (h : ReadsText rs fields (row :: rest))
    (conn : MariaDriver.TDBMariaDB) :
    ∃ rs', nextRow lib rt (conn, rs) = (true, conn, rs') ∧ ReadsText rs' fields rest ∧
      0 ≤ rs'.index ∧ ∀ (i : ℕ) (f : Field) (bytes : List UInt8), fields[i]? = some f →
        MariaDriver.dbTypeFromNative f.type f.flags = DBTYPE_STRING →
        row[i]? = some (some bytes) →
        rs'.value i = some (.setString (rt.fromUTF8 (fromBytes bytes))) := by
  have hindex := h.index_ge
  unfold SQL_BeforeFirstRow at hindex
  unfold TMySQLResultSet.nextRow
  rw [if_neg (by simp [h.text])]
  simp only [h.resultHandle]
  refine ⟨_, rfl, ⟨h.isActive, h.text, rfl, h.record, ?_, ?_⟩, ?_, ?_⟩
  · simp [MariaDriver.TMySQLResultSet.fillValues, h.values]
  · unfold SQL_BeforeFirstRow
    dsimp only
    omega
  · dsimp only
    omega
  · intro i f bytes hfield hstring hcell
    obtain ⟨hi, -⟩ := List.getElem?_eq_some_iff.mp hfield
    have hcount : i < rs.record.count := by
      rw [h.record, TQueryRecord.count, List.length_map]
      exact hi
    have hold : i < rs.values.length := h.values ▸ hi
    have htype : (rs.record.fields[i]?).elim 0 (·.fType) = DBTYPE_STRING := by
      rw [h.record, List.getElem?_map, hfield]
      exact hstring
    refine (TQueryResultSet.value_eq_slot ?_ ?_ ?_).trans ?_
    · exact h.isActive
    · exact congrArg TQueryRecord.isEmpty h.record
    · exact hcount
    rw [MariaDriver.TMySQLResultSet.fillValues, List.getElem?_mapIdx,
      List.getElem?_eq_getElem hold, Option.map_some, Option.join_some, if_pos hcount, htype, hcell]
    rfl

variable (lib rt) in
theorem ReadsText.fetch_cons (h : ReadsText rs fields (row :: rest))
    (conn : MariaDriver.TDBMariaDB) :
    (MariaDriver.driver lib rt).fetch (conn, rs) = nextRow lib rt (conn, rs) := by
  obtain ⟨rs', hnext, -⟩ := h.nextRow_cons lib rt conn
  exact fetch_row (D := MariaDriver.driver lib rt) h.isActive h.index_ge
    (fun hbefore => if_pos hbefore) (congrArg Prod.fst hnext)

variable (lib rt) in
theorem ReadsText.fetch_nil (h : ReadsText rs fields []) (conn : MariaDriver.TDBMariaDB) :
    ((MariaDriver.driver lib rt).fetch (conn, rs)).1 = false := by
  refine fetch_no_row (D := MariaDriver.driver lib rt) h.isActive
    (fun hbefore => if_pos hbefore) ?_
  change (nextRow lib rt (conn, rs)).1 = false
  unfold TMySQLResultSet.nextRow
  rw [if_neg (by simp [h.text])]
  simp only [h.resultHandle]

variable (lib) in
theorem readsText_deliver {infos : List ColumnInfo} {rows : List (List (Option (List UInt8)))}
    {s : MariaDriver.Session} (record : Record) (hfields : TextFields fields)
    (hrows : List.Forall₂ (IsShownRow rt) infos rows) (h : ReadsText s.2 fields rows) :
    ∃ reported last, eachRow (MariaDriver.driver lib rt) TDBMariaDB.column s record
      (infos.length + 1) = some (reported, last) ∧ Means infos reported := by
  refine eachRow_delivers (P := fun infos s _ => ∃ rows, List.Forall₂ (IsShownRow rt) infos rows ∧
    ReadsText s.2 fields rows) ?_ ?_ ⟨rows, hrows, h⟩
  · rintro info infos ⟨conn, rs⟩ record ⟨rows, hrows, hreads⟩
    cases hrows with
    | @cons _ row _ rows hrow hrows =>
      obtain ⟨rs', hnext, hreads', hindex, hshown⟩ :=
        hreads.nextRow_cons lib rt conn
      have hfetch := (hreads.fetch_cons lib rt conn).trans hnext
      have hmark : ((MariaDriver.driver lib rt).base rs').record.isEmptySet = false := by
        change rs'.record.isEmptySet = false
        rw [hreads'.record]
      have hmore : hasNext (MariaDriver.driver lib rt) (conn, rs) record =
          (true, (conn, rs'), rowRecord rs'.toTQueryResultSet record) := by
        unfold hasNext
        dsimp only
        rw [hfetch, if_pos rfl, hmark, Bool.and_false]
        rfl
      rw [hmore]
      have hread (i : ℕ) (hi : i < 3) (bytes : List UInt8) (hcell : row[i]? = some (some bytes)) :
          rowRecord rs'.toTQueryResultSet record i =
            some (.setString (rt.fromUTF8 (fromBytes bytes))) := by
        obtain ⟨f, hfield, hstring⟩ := hfields i hi
        obtain ⟨hlt, -⟩ := List.getElem?_eq_some_iff.mp hfield
        refine rowRecord_some hreads'.isActive hindex ?_ (hshown i f bytes hfield hstring hcell)
          record
        rw [hreads'.record, TQueryRecord.count, List.length_map]
        exact hlt
      obtain ⟨name, hname, hdecoded⟩ := hrow.name
      obtain ⟨null, hnull, hyes⟩ := hrow.null
      refine ⟨rfl, ⟨?_, ?_⟩, rows, hrows, hreads'⟩
      · simp only [TDBMariaDB.column, Record.getString, hread 0 (by omega) name hname, ← hdecoded]
        rfl
      · simp only [TDBMariaDB.column, Record.getString, hread 2 (by omega) null hnull, ← hyes]
        change (if rt.fromUTF8 (fromBytes null) = "YES".toList then (1 : ℤ) else 0) ≠ 0 ↔ _
        split_ifs with hsame
        · exact iff_of_true (by decide) hsame
        · exact iff_of_false (by simp) hsame
  · rintro ⟨conn, rs⟩ record ⟨rows, hrows, hreads⟩
    cases hrows
    have hfetch := hreads.fetch_nil lib rt conn
    unfold hasNext
    dsimp only
    rw [if_neg (by simp [hfetch])]

end

/-- The result set of a new query after its statement was sent. -/
theorem executeStatement_shown {conn : MariaDriver.TDBMariaDB} {tableName : Text}
    {infos : List ColumnInfo} (hopen : conn.isOpen = true)
    (h : ColumnsShown lib rt conn.log tableName infos) :
    ∃ r fields rows, (MariaDriver.driver lib rt).executeStatement
        (TDBMariaDB.showColumnsSql tableName) ((MariaDriver.driver lib rt).opened conn none) =
          (true, r) ∧
      TextFields fields ∧ List.Forall₂ (IsShownRow rt) infos rows ∧ ReadsText r.2 fields rows := by
  obtain ⟨fields, rows, hfields, hrows, hstored⟩ := h.stored
  have hsql : trim (TDBMariaDB.showColumnsSql tableName) ≠ [] := fun hblank =>
    absurd (SqlTokens.trim_eq_nil.mp hblank 'S' List.mem_cons_self) (by decide)
  have hchecked : (conn.checked lib).isOpen = true := by
    unfold TDBMariaDB.checked TDBMariaDB.pinged
    rw [if_neg (by simp [h.alive])]
    exact hopen
  have hlength : fields.length ≠ 0 := by
    obtain ⟨f, hf, -⟩ := hfields 0 (by omega)
    exact (List.length_pos_of_mem (List.mem_of_getElem? hf)).ne'
  set s := (MariaDriver.driver lib rt).setQuery (trim (TDBMariaDB.showColumnsSql tableName))
    (createResultSet conn) with hs
  have hpinged : ((s.1.call .ping).call .ping).pinged lib ((s.1.call .ping).call .ping).log =
      conn.toTDBConnection := by
    refine if_neg ?_
    simp [hs, Driver.setQuery, createResultSet, TDBMariaDB.call, h.pinged]
  set rs : TMySQLResultSet :=
    { ({ s.2 with preparedQuery := false } : TMySQLResultSet).initRecord fields with
      resultHandle := some ⟨fields, rows⟩, isActive := true } with hrs
  have hrun : (executeQuery lib (TDBMariaDB.showColumnsSql tableName) s).1 = true ∧
      (executeQuery lib (TDBMariaDB.showColumnsSql tableName) s).2.2 = rs := by
    have hconn : s.1 = conn := rfl
    unfold executeQuery
    dsimp only
    rw [hpinged, if_neg (by simpa using hopen)]
    simp only [hconn, TDBMariaDB.call, List.append_assoc, List.cons_append, List.nil_append,
      h.query, hstored, ne_eq, not_true_eq_false, if_false]
    exact ⟨trivial, rfl⟩
  obtain ⟨hok, hresult⟩ := hrun
  have hexecute : (MariaDriver.driver lib rt).executeStatement
      (TDBMariaDB.showColumnsSql tableName) ((MariaDriver.driver lib rt).opened conn none) =
        (MariaDriver.driver lib rt).finish
          (executeQuery lib (TDBMariaDB.showColumnsSql tableName) s) := by
    unfold Driver.executeStatement
    rw [if_neg (by simpa using hsql)]
    exact if_pos hchecked
  have hreads : ReadsText rs fields rows := by
    refine ⟨rfl, rfl, rfl, ?_, ?_, le_refl (-1 : ℤ)⟩
    · rw [hrs, initRecord, if_neg hlength]
    · simp [hrs, initRecord, TQueryResultSet.resetValues]
  refine ⟨_, fields, rows, hexecute.trans (if_pos hok), hfields, hrows, ?_⟩
  rw [hresult]
  exact hreads

/-- The rows of a text result that are left. -/
def textRows (rs : TMySQLResultSet) : List (List (Option (List UInt8))) :=
  rs.resultHandle.elim [] (·.rows)

theorem nextRow_text {s : MariaDriver.Session} (htext : s.2.preparedQuery = false)
    (h : (nextRow lib rt s).1 = true) :
    ∃ row, textRows s.2 = row :: textRows (nextRow lib rt s).2.2 ∧
      (nextRow lib rt s).2.2.preparedQuery = false := by
  unfold TMySQLResultSet.nextRow at h ⊢
  rw [if_neg (by simp [htext])] at h ⊢
  unfold textRows
  cases hresult : s.2.resultHandle with
  | none =>
    simp only [hresult] at h
    cases h
  | some result =>
    cases hrows : result.rows with
    | nil =>
      simp only [hresult, hrows] at h
      cases h
    | cons row rest =>
      simp only [hrows]
      exact ⟨row, hrows, htext⟩

theorem drains_text {s : MariaDriver.Session} (htext : s.2.preparedQuery = false) :
    Drains (MariaDriver.driver lib rt) s := by
  obtain ⟨rows, hrows⟩ : ∃ rows, textRows s.2 = rows := ⟨_, rfl⟩
  induction rows generalizing s with
  | nil =>
    refine .fetch fun hfetch => ?_
    obtain ⟨hnext, -⟩ := Driver.fetch_true (D := MariaDriver.driver lib rt)
      (fun _ => MariaRecord.firstRow_true lib rt) hfetch
    obtain ⟨row, hrow, -⟩ := nextRow_text htext hnext
    rw [hrows] at hrow
    cases hrow
  | cons row rows ih =>
    refine .fetch fun hfetch => ?_
    obtain ⟨hnext, hsame⟩ := Driver.fetch_true (D := MariaDriver.driver lib rt)
      (fun _ => MariaRecord.firstRow_true lib rt) hfetch
    obtain ⟨row, hrow, htext'⟩ := nextRow_text htext hnext
    rw [hsame]
    exact ih htext' (List.cons.inj (hrow.symm.trans hrows)).2

theorem executeQuery_text {sql : Text} {s : MariaDriver.Session}
    (h : (executeQuery lib sql s).1 = true) :
    (executeQuery lib sql s).2.2.preparedQuery = false := by
  unfold executeQuery at h ⊢
  dsimp only at h ⊢
  split_ifs at h ⊢ with hopen hquery
  split at h
  · cases h
  · rfl
  · rfl

theorem executeStatement_text {sql : Text} {s : MariaDriver.Session}
    (h : ((MariaDriver.driver lib rt).executeStatement sql s).1 = true) :
    ((MariaDriver.driver lib rt).executeStatement sql s).2.2.preparedQuery = false := by
  unfold Driver.executeStatement at h ⊢
  dsimp only at h ⊢
  split_ifs at h ⊢ with hblank hopen
  · cases h
  · rw [Driver.finish_ok] at h
    rw [Driver.finish, if_pos h]
    exact executeQuery_text h
  · cases h

theorem maria_means {conn : MariaDriver.TDBMariaDB} {tableName : Text} {infos : List ColumnInfo}
    (hopen : conn.isOpen = true) (h : ColumnsShown lib rt conn.log tableName infos)
    (withDDL : Bool) :
    ∃ fuel, ∀ fuel' ≥ fuel, ∃ table conn',
      TDBMariaDB.getTableInfo lib rt tableName withDDL fuel' conn = some (some table, conn') ∧
        Means infos table.columns := by
  obtain ⟨r, fields, rows, hexecute, hfields, hrows, hreads⟩ :=
    executeStatement_shown hopen h
  obtain ⟨reported, ⟨last, record⟩, hrun, hmeans⟩ :=
    readsText_deliver lib .create hfields hrows hreads
  have hstart (fuel : ℕ) (hle : infos.length + 1 ≤ fuel) := eachRow_mono hle hrun
  have hnew (fuel : ℕ) (hle : infos.length + 1 ≤ fuel) :
      TDBMariaDB.getTableInfo lib rt tableName withDDL fuel conn =
        if withDDL then
          if ((MariaDriver.driver lib rt).executeStatement (TDBMariaDB.showCreateTableSql tableName)
              ((MariaDriver.driver lib rt).opened last.1 (some last.2))).1 then
            (appendDdl (MariaDriver.driver lib rt) 1 ⟨tableName, reported, []⟩
              ((MariaDriver.driver lib rt).executeStatement
                (TDBMariaDB.showCreateTableSql tableName)
                ((MariaDriver.driver lib rt).opened last.1 (some last.2))).2 .create fuel).map
              fun t => (some t.1, t.2.1)
          else some (some ⟨tableName, reported, []⟩,
            ((MariaDriver.driver lib rt).executeStatement (TDBMariaDB.showCreateTableSql tableName)
              ((MariaDriver.driver lib rt).opened last.1 (some last.2))).2.1)
        else some (some ⟨tableName, reported, []⟩, last.1) := by
    rw [TDBMariaDB.getTableInfo, if_neg (by simpa using hopen), hexecute]
    dsimp only
    rw [if_pos rfl, hstart fuel hle]
    rfl
  set r' := (MariaDriver.driver lib rt).executeStatement (TDBMariaDB.showCreateTableSql tableName)
    ((MariaDriver.driver lib rt).opened last.1 (some last.2)) with hr'
  cases withDDL with
  | false =>
    exact ⟨infos.length + 1,
      fun fuel hle => ⟨⟨tableName, reported, []⟩, last.1, hnew fuel hle, hmeans⟩⟩
  | true =>
    by_cases hok : r'.1 = true
    · obtain ⟨ends, hends⟩ := appendDdl_ends (drains_text (executeStatement_text hok)) 1
        ⟨tableName, reported, []⟩ .create
      refine ⟨max (infos.length + 1) ends, fun fuel hle => ?_⟩
      obtain ⟨t, ht, hcolumns⟩ := hends fuel (le_of_max_le_right hle)
      refine ⟨t.1, t.2.1, ?_, hcolumns ▸ hmeans⟩
      rw [hnew fuel (le_of_max_le_left hle), if_pos rfl, if_pos hok, ht]
      rfl
    · refine ⟨infos.length + 1, fun fuel hle => ⟨⟨tableName, reported, []⟩, r'.2.1, ?_, hmeans⟩⟩
      rw [hnew fuel hle, if_pos rfl, if_neg hok]

end

end DatabaseMod.TableColumns
