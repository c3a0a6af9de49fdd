import DatabaseMod.SqliteParameters

/-!
# The record of an executed statement

The record that names the columns is made by the first fetch that finds it empty, and
preparing another statement does not empty it.
-/

namespace DatabaseMod.SqliteRecord
open CoreValues CoreResultSet CoreQuery SqlEngine SqliteDriver SqliteSteps SqliteInvariant
open SqliteCursor SqliteRounds TSQLiteResultSet
open SqlTokens (Text)
open SqliteVerdict (opened callsBetween)

variable (e : Engine) (conv : Conversions)

def columnNames (stmtHandle : Option Statement) : List Text :=
  (columns stmtHandle).map fun column => shortName column.name

/-- The record and the values are those of the statement. The loop of `nextRow` over the
columns reads as many as the record counts. -/
structure Described (rs : TSQLiteResultSet) : Prop where
  count_eq : rs.record.count = (columns rs.stmtHandle).length
  values_length : rs.values.length = (columns rs.stmtHandle).length
  names_eq : rs.record.fields.map (·.name) = columnNames rs.stmtHandle

theorem ensureRecord_empty {rs : TSQLiteResultSet} (h : rs.record.isEmpty = true) :
    (ensureRecord rs).record = initRecord (columns rs.stmtHandle) := by
  rw [ensureRecord, if_pos h]
  rfl

theorem initRecord_names {cols : List Column} (h : 0 < cols.length) :
    (initRecord cols).isEmpty = false ∧
      (initRecord cols).fields.map (·.name) = cols.map fun column => shortName column.name := by
  rw [initRecord, if_neg h.ne']
  exact ⟨rfl, by simp [Function.comp_def]⟩

/-- What a successful execution leaves: the record made for the statement, or the one that
was there. -/
theorem executed_record {t r : Session} (h : Executed e conv t r) :
    columns r.2.stmtHandle = columns t.2.stmtHandle ∧
      r.2.record.fields = (ensureRecord t.2).record.fields ∧
      r.2.record.isEmpty = (ensureRecord t.2).record.isEmpty := by
  obtain ⟨stmt, calls, hstmt, -, hcases⟩ := h.cases
  have hensure (running : Option Run) :
      (ensureRecord { beginFetch (rewound t.2) with
        stmtHandle := some { stmt with running := running } }).toTQueryResultSet =
      (ensureRecord t.2).toTQueryResultSet := by
    refine ensureRecord_congr (beginFetch_base (rewound t.2)) ?_
    rw [hstmt]
    rfl
  rcases hcases with ⟨row, rest, failure, -, -, hrs⟩ | ⟨idle, -, -, -, hrs⟩
  · have hfields := congrArg (fun base => base.record.fields) (hensure (some ⟨rest, failure⟩))
    have hempty := congrArg (fun base => base.record.isEmpty) (hensure (some ⟨rest, failure⟩))
    rw [hrs, hstmt]
    exact ⟨(congrArg columns (storeRow_stmtHandle _ row)).trans rfl, hfields, hempty⟩
  · have hfields := congrArg (fun base => base.record.fields) (hensure none)
    have hempty := congrArg (fun base => base.record.isEmpty) (hensure none)
    rw [hrs, hstmt]
    exact ⟨(congrArg columns (storeEnd_stmtHandle _)).trans rfl, hfields, hempty⟩

/-- After a successful execution of a statement with columns, whose first step did not fail, the
record is that of the statement, exactly if it was empty or carried the same names before. -/
theorem described_iff {q q' : Query} {statement : Text} {rs : TSQLiteResultSet}
    (hreached : q.Reached (driver e conv))
    (h : q.execute (driver e conv) statement = some (true, q'))
    (hok : ¬ StepFailed (callsBetween q.conn q'.conn)) (hrs : q'.resultSet = some rs)
    (hcolumns : 0 < (columns rs.stmtHandle).length) :
    Described rs ↔ (record q).isEmpty = true ∨
      (record q).fields.map (·.name) = columnNames rs.stmtHandle := by
  obtain ⟨t, rs', calls, hrs', hexecuted, hready, -, -, hrecord, -⟩ :=
    execute_some_true e conv (ready_reached e conv hreached) h hok
  obtain rfl : rs = rs' := Option.some.inj (hrs.symm.trans hrs')
  obtain ⟨hcols, hfields, hempty⟩ := executed_record e conv hexecuted
  obtain ⟨hopen, -⟩ := hexecuted.opens e conv hready
  rw [← hrecord]
  -- the names decide: they fix the count, and the values follow the count
  have hof (hnames : rs.record.fields.map (·.name) = columnNames rs.stmtHandle)
      (hmade : rs.record.isEmpty = false) : Described rs := by
    have hcount : rs.record.count = (columns rs.stmtHandle).length := by
      have hlength := congrArg List.length hnames
      simpa [columnNames, TQueryRecord.count] using hlength
    exact ⟨hcount, (hopen.values_length hmade).trans hcount, hnames⟩
  cases ht : t.2.record.isEmpty with
  | true =>
    obtain ⟨hmade, hnames⟩ := initRecord_names (hcols ▸ hcolumns)
    rw [← ensureRecord_empty ht] at hmade hnames
    refine iff_of_true (hof ?_ (hempty.trans hmade)) (.inl rfl)
    rw [hfields, hnames, ← hcols]
    rfl
  | false =>
    rw [ensureRecord_of_recorded ht] at hfields hempty
    constructor
    · intro hdescribed
      exact .inr (hfields ▸ hdescribed.names_eq)
    · rintro (hfalse | hnames)
      · cases hfalse
      · exact hof (hfields ▸ hnames) (hempty.trans ht)

/-- An engine whose statements have the columns that the letters of their text name. -/
def lettered : Engine where
  prepare _ sql := .ok (some ⟨0, sql.map fun letter => ⟨[letter], none⟩⟩)
  reset _ _ := none
  bind _ _ _ _ := none
  run _ _ := ⟨[[.integer 1, .integer 2]], none⟩
  message _ := noError

def afterFirst : Query :=
  ((TDatabaseQuery.create opened).execute (driver lettered .integers) ['a']).elim
    (.create opened) (·.2)

/-- The second statement has two columns, and the record is still that of the first one. -/
theorem second_statement_keeps_record :
    ∃ q' rs, afterFirst.execute (driver lettered .integers) ['b', 'c'] = some (true, q') ∧
      ¬ StepFailed (callsBetween afterFirst.conn q'.conn) ∧
      q'.resultSet = some rs ∧ columnNames rs.stmtHandle = [['b'], ['c']] ∧
      rs.record.fields.map (·.name) = [['a']] ∧ ¬ Described rs := by
  refine ⟨_, _, rfl, by decide, rfl, rfl, rfl, fun h => ?_⟩
  exact absurd h.names_eq (by decide)

theorem described_iff_first :
    ∃ q' rs, (TDatabaseQuery.create opened).execute (driver lettered .integers) ['b', 'c'] =
        some (true, q') ∧ q'.resultSet = some rs ∧
      (Described rs ↔ (record (.create opened)).isEmpty = true ∨
        (record (.create opened)).fields.map (·.name) = columnNames rs.stmtHandle) := by
  obtain ⟨q', rs, h, hok, hrs, hcolumns⟩ : ∃ q' rs,
      (TDatabaseQuery.create opened).execute (driver lettered .integers) ['b', 'c'] =
        some (true, q') ∧ ¬ StepFailed (callsBetween opened q'.conn) ∧
        q'.resultSet = some rs ∧ 0 < (columns rs.stmtHandle).length :=
    ⟨_, _, rfl, by decide, rfl, by decide⟩
  exact ⟨q', rs, h, hrs, described_iff lettered .integers (.create opened) h hok hrs hcolumns⟩

end DatabaseMod.SqliteRecord
