import DatabaseMod.PostgresRecord
import DatabaseMod.OrmBinding

/-!
# The values of a PostgreSQL row

The table of type identifiers announces a type for each column, and a second table decodes
the cells. A boolean column is announced and has no case of its own in the second table, the
text of a date or time may be one that the core does not read, and the length of a `bytea` is
stored at a local that may be too narrow for it.
-/

namespace DatabaseMod.PostgresColumns
open MachineInteger CoreGlue CoreStrptime CoreTemporal CoreFormat
open CoreDateTypes (TDBDateTime)
open SqlTokens (Text)
open CoreValues CoreResultSet CoreQuery PostgresDriver TPostgreSQLResultSet PostgresRecord

/-! ### One cell -/

section

variable (pq : Libpq) (rt : Runtime)

/-- The types that a column can be announced with. -/
def announcedTypes : List ℕ :=
  [DBTYPE_BOOL, DBTYPE_INT, DBTYPE_LONG, DBTYPE_FLOAT, DBTYPE_DECIMAL, DBTYPE_DOUBLE, DBTYPE_DATE,
    DBTYPE_TIME, DBTYPE_DATETIME, DBTYPE_BLOB, DBTYPE_STRING]

theorem dbTypeFromNative_mem (dtype : ℕ) : dbTypeFromNative dtype ∈ announcedTypes := by
  unfold dbTypeFromNative
  split_ifs <;> decide

theorem dbTypeFromNative_eq_bool_iff (dtype : ℕ) :
    dbTypeFromNative dtype = DBTYPE_BOOL ↔ dtype = BOOLOID := by
  constructor
  · contrapose
    intro hne
    unfold dbTypeFromNative
    rw [if_neg hne]
    split_ifs <;> decide
  · rintro rfl
    rfl

theorem dateValue_kind {t : TDBDate} {v : TDBType} (h : dateValue rt.strftime t = some v) :
    v.kind = DBTYPE_DATE := by
  obtain ⟨text, -, rfl⟩ := Option.map_eq_some_iff.mp h
  rfl

theorem dateTimeValue_kind {t : TDBDateTime} {v : TDBType}
    (h : dateTimeValue rt.strftime t = some v) : v.kind = DBTYPE_DATETIME := by
  obtain ⟨text, -, rfl⟩ := Option.map_eq_some_iff.mp h
  rfl

theorem timeValue_kind {t : TDBTime} {v : TDBType} (h : timeValue rt.strftime t = some v) :
    v.kind = DBTYPE_TIME := by
  obtain ⟨text, -, rfl⟩ := Option.map_eq_some_iff.mp h
  rfl

theorem columnValue_date (dtype : ℕ) (text : Text) : columnValue pq rt DBTYPE_DATE dtype text =
    (TDBDate.setFromString text).bind (dateValue rt.strftime) := rfl

theorem columnValue_dateTime (dtype : ℕ) (text : Text) :
    columnValue pq rt DBTYPE_DATETIME dtype text =
      (TDBDateTime.setFromString text).bind (dateTimeValue rt.strftime) := rfl

theorem columnValue_time (dtype : ℕ) (text : Text) : columnValue pq rt DBTYPE_TIME dtype text =
    (TDBTime.setFromString text).bind (timeValue rt.strftime) := rfl

/-- Every other cell has a value, of the announced type unless that is the boolean one. -/
theorem columnValue_untimed {fType : ℕ} (hf : fType ∈ announcedTypes)
    (hdate : fType ≠ DBTYPE_DATE) (hdateTime : fType ≠ DBTYPE_DATETIME) (htime : fType ≠ DBTYPE_TIME)
    (dtype : ℕ) (text : Text) : ∃ v, columnValue pq rt fType dtype text = some v ∧
      v.kind = if fType = DBTYPE_BOOL then DBTYPE_STRING else fType := by
  simp only [announcedTypes, List.mem_cons, List.not_mem_nil, or_false] at hf
  rcases hf with hf | hf | hf | hf | hf | hf | hf | hf | hf | hf | hf
  case inr.inl =>
    rw [hf]
    by_cases hbool : dtype = BOOLOID
    · exact ⟨_, if_pos hbool, rfl⟩
    · exact ⟨_, if_neg hbool, rfl⟩
  all_goals first
    | exact absurd hf hdate
    | exact absurd hf hdateTime
    | exact absurd hf htime
    | rw [hf]; exact ⟨_, rfl, rfl⟩

theorem date_year {text : Text} {t : TDBDate} (h : TDBDate.setFromString text = some t) :
    1 ≤ t.year ∧ t.year ≤ 2147483648 := by
  unfold TDBDate.setFromString at h
  dsimp only at h
  split_ifs at h
  exact date_set_year h

theorem dateTime_year {text : Text} {t : TDBDateTime}
    (h : TDBDateTime.setFromString text = some t) : 1 ≤ t.year ∧ t.year ≤ 2147483648 := by
  unfold TDBDateTime.setFromString at h
  dsimp only at h
  split_ifs at h
  · exact dateTime_set_year h
  · exact dateTime_set_year h

/-- A text that the core reads as the type announced for its column, where that is the
type of a date or time. -/
def Readable (dtype : ℕ) (text : Text) : Prop :=
  (dbTypeFromNative dtype = DBTYPE_DATE → ∃ t, TDBDate.setFromString text = some t) ∧
  (dbTypeFromNative dtype = DBTYPE_DATETIME → ∃ t, TDBDateTime.setFromString text = some t) ∧
  (dbTypeFromNative dtype = DBTYPE_TIME → ∃ t, TDBTime.setFromString text = some t)

theorem bind_kind_iff {α : Type} {object : Option α} {value : α → Option TDBType} {kind : ℕ}
    (hkind : ∀ {t v}, value t = some v → v.kind = kind)
    (hvalue : ∀ t, object = some t → ∃ v, value t = some v) :
    (∃ v, object.bind value = some v ∧ v.kind = kind) ↔ ∃ t, object = some t := by
  constructor
  · rintro ⟨v, hv, -⟩
    obtain ⟨t, ht, -⟩ := Option.bind_eq_some_iff.mp hv
    exact ⟨t, ht⟩
  · rintro ⟨t, ht⟩
    obtain ⟨v, hv⟩ := hvalue t ht
    exact ⟨v, by rw [ht]; exact hv, hkind hv⟩

/-- A cell has a value of the announced type if its text is readable and its column is not
of the boolean type. -/
theorem columnValue_announced_iff (dtype : ℕ) (text : Text) :
    (∃ v, columnValue pq rt (dbTypeFromNative dtype) dtype text = some v ∧
      v.kind = dbTypeFromNative dtype) ↔ dtype ≠ BOOLOID ∧ Readable dtype text := by
  have hbool := dbTypeFromNative_eq_bool_iff dtype
  have hmem := dbTypeFromNative_mem dtype
  unfold Readable
  generalize hfType : dbTypeFromNative dtype = fType at hbool hmem ⊢
  by_cases hdate : fType = DBTYPE_DATE
  · subst hdate
    rw [columnValue_date, bind_kind_iff (dateValue_kind rt) fun t ht =>
      (dateValue_eq rt.strftime (date_year ht)).imp' _ fun _ h => h, ne_eq, ← hbool]
    simp [DBTYPE_DATE, DBTYPE_DATETIME, DBTYPE_TIME, DBTYPE_BOOL]
  · by_cases hdateTime : fType = DBTYPE_DATETIME
    · subst hdateTime
      rw [columnValue_dateTime, bind_kind_iff (dateTimeValue_kind rt) fun t ht =>
        (dateTimeValue_eq rt.strftime (dateTime_year ht)).imp' _ fun _ h => h, ne_eq, ← hbool]
      simp [DBTYPE_DATE, DBTYPE_DATETIME, DBTYPE_TIME, DBTYPE_BOOL]
    · by_cases htime : fType = DBTYPE_TIME
      · subst htime
        rw [columnValue_time, bind_kind_iff (timeValue_kind rt) fun t _ =>
          (timeValue_eq rt.strftime t).imp' _ fun _ h => h, ne_eq, ← hbool]
        simp [DBTYPE_DATE, DBTYPE_DATETIME, DBTYPE_TIME, DBTYPE_BOOL]
      · obtain ⟨v, hv, hkind⟩ := columnValue_untimed pq rt hmem hdate hdateTime htime dtype text
        rw [hv]
        simp only [hdate, hdateTime, htime, false_imp_iff, and_true, ne_eq, ← hbool]
        constructor
        · rintro ⟨v', hv', hkind'⟩ h
          obtain rfl := Option.some.inj hv'
          rw [hkind, if_pos h, h] at hkind'
          exact absurd hkind' (by decide)
        · intro hne
          exact ⟨v, rfl, hkind.trans (if_neg hne)⟩

/-! ### One row -/

theorem fillValues_cell {rs : TPostgreSQLResultSet} {tuples : Tuples}
    (hdescribes : Describes pq rs tuples) (hresult : rs.pgResult = some (.tuplesOk tuples))
    {row i : ℕ} {column : Column} (hcolumn : tuples.columns[i]? = some column) {text : Text}
    (hcell : (PGresult.tuplesOk tuples).cell row i = some text) :
    (rs.fillValues pq rt row)[i]? =
      some (columnValue pq rt (dbTypeFromNative column.ftype) column.ftype text) := by
  obtain ⟨hi, hget⟩ := List.getElem?_eq_some_iff.mp hcolumn
  have hvalues : i < rs.values.length := hdescribes.values_length ▸ hi
  have hfield : rs.record.fields[i]? = some ⟨column.name, dbTypeFromNative column.ftype⟩ := by
    rw [hdescribes.fields_eq, List.getElem?_map, hcolumn]
    rfl
  have hcount : i < rs.record.count := (List.getElem?_eq_some_iff.mp hfield).1
  have hdtype : rs.dtypes.getD i 0 = column.ftype := by
    rw [hdescribes.dtypes_eq, List.getD_eq_getElem?_getD, List.getElem?_map, hcolumn]
    rfl
  rw [fillValues, List.getElem?_mapIdx, List.getElem?_eq_getElem hvalues, Option.map_some,
    if_pos hcount, hresult, Option.bind_some, hcell, hfield, hdtype]
  rfl

/-- A row of a result that was answered: each cell that is not null has its value. -/
structure Fetched (rs : TPostgreSQLResultSet) (tuples : Tuples) : Prop where
  answered : ∃ log, pq.answer log = some (.tuplesOk tuples)
  fields_eq : rs.record.fields =
    tuples.columns.map fun column => ⟨column.name, dbTypeFromNative column.ftype⟩
  index_lt : 0 ≤ rs.index ∧ rs.index < tuples.rows.length
  value : ∀ i column text, tuples.columns[i]? = some column →
    (PGresult.tuplesOk tuples).cell rs.index.toNat i = some text →
    rs.values[i]? = some (columnValue pq rt (dbTypeFromNative column.ftype) column.ftype text)

theorem firstRow_true {s : Session} (h : (firstRow pq rt s).1 = true) :
    firstRow pq rt s = nextRow pq rt s := by
  unfold firstRow at h ⊢
  split_ifs at h ⊢
  rfl

theorem fetched_of_nextRow {q q' : Query} (hq : q.Reached (driver pq rt))
    (h : q.nextRow (driver pq rt) = (true, q')) :
    ∃ rs tuples, q'.resultSet = some rs ∧ Fetched pq rt rs tuples := by
  obtain ⟨rs, hresult, hnext, hq'⟩ := TDatabaseQuery.nextRow_true (fun _ => firstRow_true pq rt) h
  obtain ⟨tuples, hbefore, hafter, hindex, -, hindex', hrecord, hvalues⟩ :=
    nextRow_true pq rt (described_reached pq rt hq rs hresult) hnext
  refine ⟨(nextRow pq rt (q.conn, rs)).2.2, tuples, hq', hafter.answered, hafter.fields_eq, ?_, ?_⟩
  · have hge := hbefore.index_ge
    have hrows := hbefore.queryRows_eq
    rw [hindex']
    dsimp only at hge hrows hindex ⊢
    omega
  · intro i column text hcolumn hcell
    rw [hindex'] at hcell
    rw [hvalues]
    exact fillValues_cell pq rt hbefore (hbefore.pgResult_eq hindex) hcolumn hcell

/-- The value of a cell is of the type that the record announces, and is read without writing
behind the locals; a boolean column reads as true exactly where the server's text is `t`. -/
def Announced (rs : TPostgreSQLResultSet) (i : ℕ) (dtype : ℕ) (text : Text) : Prop :=
  ∃ field v, rs.record.fields[i]? = some field ∧ rs.values[i]? = some (some v) ∧
    v.kind = field.fType ∧ cellOverrun pq field.fType text = [] ∧
    (dtype = BOOLOID → (v.getInt rt.conv ≠ 0 ↔ text = ['t']) ∧
      (OrmBinding.TOrmDialect.boolFromDatabase rt.conv .postgres (some v) ≠ 0 ↔ text = ['t']))

/-- In every row of every result, the cells that are not null have the announced types, except
those of boolean columns, of `bytea` columns where a `size_t` has more than the four bytes of the
local, and texts that are not read as the announced date or time. -/
theorem announced_iff {q q' : Query} (hq : q.Reached (driver pq rt))
    (h : q.nextRow (driver pq rt) = (true, q')) :
    ∃ rs tuples, q'.resultSet = some rs ∧ Fetched pq rt rs tuples ∧
      ∀ i column text, tuples.columns[i]? = some column →
        (PGresult.tuplesOk tuples).cell rs.index.toNat i = some text →
        (Announced pq rt rs i column.ftype text ↔
          column.ftype ≠ BOOLOID ∧ (column.ftype = BYTEAOID → pq.sizeT ≤ 4) ∧
            Readable column.ftype text) := by
  obtain ⟨rs, tuples, hrs, hfetched⟩ := fetched_of_nextRow pq rt hq h
  refine ⟨rs, tuples, hrs, hfetched, fun i column text hcolumn hcell => ?_⟩
  have hvalue := hfetched.value i column text hcolumn hcell
  have hfield : rs.record.fields[i]? = some ⟨column.name, dbTypeFromNative column.ftype⟩ := by
    rw [hfetched.fields_eq, List.getElem?_map, hcolumn]
    rfl
  rw [← cellOverrun_eq_nil_iff pq column.ftype text, and_left_comm,
    ← columnValue_announced_iff pq rt]
  constructor
  · rintro ⟨field, v, hfield', hv, hkind, hwithin, -⟩
    obtain rfl := Option.some.inj (hfield.symm.trans hfield')
    exact ⟨hwithin, v, Option.some.inj (hvalue.symm.trans hv), hkind⟩
  · rintro ⟨hwithin, hannounced⟩
    have hne := ((columnValue_announced_iff pq rt column.ftype text).mp hannounced).1
    obtain ⟨v, hv, hkind⟩ := hannounced
    exact ⟨_, v, hfield, hvalue.trans (congrArg some hv), hkind, hwithin,
      fun hbool => absurd hbool hne⟩

end

/-- A server that answers every statement with one cell. -/
def oneCell (dtype : ℕ) (text : Text) : Libpq where
  answer _ := some (.tuplesOk ⟨[⟨"value".toList, dtype⟩], [[some text]]⟩)
  connected _ := true
  errorMessage _ := []
  unescapeBytea _ := []
  sizeT := 8

/-- Texts that are not numbers read as zero. -/
def words : Runtime where
  conv := { Conversions.integers with toInt := fun s => readInteger (s.takeWhile Char.isDigit) }
  strftime := unpadded
  fromFloat _ := []
  fromDouble _ := []
  fromUTF8 := id

def opened : TDBPostgreSQL := ⟨⟨true, none⟩, 0, []⟩

def executed (dtype : ℕ) (text : Text) : Query :=
  ((TDatabaseQuery.create opened).execute (driver (oneCell dtype text) words)
    "SELECT value".toList).elim (.create opened) (·.2)

theorem executed_reached (dtype : ℕ) (text : Text) :
    (executed dtype text).Reached (driver (oneCell dtype text) words) :=
  .call (c := .execute "SELECT value".toList) (.create opened) rfl

/-- A boolean that is true reads as false. -/
theorem boolean_reads_as_false :
    ∃ q' rs, (executed BOOLOID ['t']).nextRow (driver (oneCell BOOLOID ['t']) words) = (true, q') ∧
      q'.resultSet = some rs ∧ rs.record.fields = [⟨"value".toList, DBTYPE_BOOL⟩] ∧
      rs.values = [some (.setString ['t'])] ∧
      OrmBinding.TOrmDialect.boolFromDatabase words.conv .postgres (some (.setString ['t'])) = 0 ∧
      ¬ Announced (oneCell BOOLOID ['t']) words rs 0 BOOLOID ['t'] := by
  refine ⟨_, _, rfl, rfl, rfl, rfl, by decide, ?_⟩
  rintro ⟨field, v, hfield, hv, hkind, -⟩
  cases hfield
  cases hv
  exact absurd hkind (by decide)

theorem announced_iff_integer :
    ∃ q', (executed INT4OID ['7']).nextRow (driver (oneCell INT4OID ['7']) words) = (true, q') ∧
      ∃ rs tuples, q'.resultSet = some rs ∧ Fetched (oneCell INT4OID ['7']) words rs tuples ∧
        ∀ i column text, tuples.columns[i]? = some column →
          (PGresult.tuplesOk tuples).cell rs.index.toNat i = some text →
          (Announced (oneCell INT4OID ['7']) words rs i column.ftype text ↔
            column.ftype ≠ BOOLOID ∧
              (column.ftype = BYTEAOID → (oneCell INT4OID ['7']).sizeT ≤ 4) ∧
              Readable column.ftype text) :=
  ⟨_, rfl, announced_iff (oneCell INT4OID ['7']) words (executed_reached INT4OID ['7']) rfl⟩

end DatabaseMod.PostgresColumns
