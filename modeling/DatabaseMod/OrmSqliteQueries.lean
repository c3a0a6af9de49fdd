import DatabaseMod.OrmOperations
import DatabaseMod.OrmSqliteRoundTrip

/-!
# Queries of the ORM on SQLite

The loops over the rows stand on the cursor of the core, which stands on a driver that has stepped
the statement once in `execute`. A null cell leaves the cleared value of its slot, and a blob
without data is not cleared to null.
-/

namespace DatabaseMod.OrmSqliteQueries
open SqlTokens (Text)
open LoopRules CoreValues CoreResultSet CoreQuery CoreInvariant SqlEngine SqliteDriver SqliteSteps
open SqliteInvariant SqliteCursor SqliteRounds
open SqliteVerdict (callsBetween)
open OrmModel OrmModelBuilder OrmStatements OrmParams OrmBinding OrmAlignment OrmOperations
open OrmSqliteRoundTrip
open StoppingPrograms StoppingPrograms.Program

/-! ### What a column shows -/

/-- The last cell of a column that is not null. -/
def lastCell (done : List Row) (i : ℕ) : Option SqlValue :=
  ((done.map (cell · i)).filter (· ≠ .null)).getLast?

/-- A null cell behind a blob without data. -/
def Lingers (done : List Row) (row : Row) (i : ℕ) : Prop :=
  cell row i = .null ∧ lastCell done i = some (.blob [])

instance (done : List Row) (row : Row) (i : ℕ) : Decidable (Lingers done row i) :=
  inferInstanceAs (Decidable (_ ∧ _))

def shownCell (done : List Row) (row : Row) (i : ℕ) : SqlValue :=
  if Lingers done row i then .blob [] else cell row i

theorem shownCell_nil (row : Row) : shownCell [] row = cell row :=
  funext fun _ => if_neg fun h => nomatch h.2

theorem lastCell_append (done : List Row) (row : Row) (i : ℕ) :
    lastCell (done ++ [row]) i =
      if cell row i = .null then lastCell done i else some (cell row i) := by
  unfold lastCell
  rw [List.map_append, List.filter_append]
  split_ifs with hnull
  · simp [hnull]
  · simp [hnull]

/-- A slot after these rows. -/
def Slotted (done : List Row) (i : ℕ) (old : Option TDBType) : Prop :=
  if lastCell done i = some (.blob []) then old = some (.setBlob []) else Clears old

theorem slotted_nil (i : ℕ) : Slotted [] i none := rfl

theorem clears_clear {old : Option TDBType} (h : Clears old) : Clears (old.map .clear) := by
  cases old with
  | none => rfl
  | some v =>
    obtain ⟨content, isNull⟩ := v
    cases content with
    | blob data => cases data <;> exact h
    | temporal kind parts text => cases kind <;> rfl
    | _ => rfl

theorem clears_present {old : Option TDBType} {c : SqlValue} (hnull : c ≠ .null)
    (hblob : c ≠ .blob []) : Clears (columnValue old c) := by
  cases c with
  | null => exact absurd rfl hnull
  | blob data =>
    cases data with
    | nil => exact absurd rfl hblob
    | cons b data => rfl
  | _ => rfl

theorem Slotted.next {done : List Row} {i : ℕ} {old : Option TDBType} (h : Slotted done i old)
    (row : Row) : Slotted (done ++ [row]) i (columnValue old (cell row i)) := by
  unfold Slotted at h ⊢
  rw [lastCell_append]
  by_cases hnull : cell row i = .null
  · rw [if_pos hnull, hnull]
    split_ifs at h ⊢ with hlast
    · rw [h]
      rfl
    · exact clears_clear h
  · rw [if_neg hnull]
    split_ifs with hblob
    · rw [Option.some.inj hblob]
      rfl
    · exact clears_present hnull fun h => hblob (congrArg some h)

/-- A value from which a field reads the same as from a new value for the cell. -/
def ReadsAs (v : Option TDBType) (c : SqlValue) : Prop :=
  if c = .null then v.all (·.isNull) = true else v = columnValue none c

theorem Slotted.readsAs {done : List Row} {i : ℕ} {old : Option TDBType} (h : Slotted done i old)
    (row : Row) : ReadsAs (columnValue old (cell row i)) (shownCell done row i) := by
  unfold Slotted at h
  unfold ReadsAs shownCell
  by_cases hlingers : Lingers done row i
  · rw [if_pos hlingers, if_neg SqlValue.noConfusion, hlingers.1]
    rw [if_pos hlingers.2] at h
    rw [h]
    rfl
  · rw [if_neg hlingers]
    by_cases hnull : cell row i = .null
    · rw [if_neg fun hlast => hlingers ⟨hnull, hlast⟩] at h
      rw [if_pos hnull, hnull]
      cases old with
      | none => rfl
      | some v => exact h
    · rw [if_neg hnull]
      cases hcell : cell row i with
      | null => exact absurd hcell hnull
      | _ => rfl

/-! ### Reading a row -/

section

variable {Slot : Type} (r : Reflection Slot) (conv : Conversions) (m : TOrmModel)

/-- The object of a row whose cells are read by themselves. -/
def decode (cells : ℕ → SqlValue) : Except TOrmException (Object Slot) :=
  objectFromCurrentRow r .sqlite m conv fun i => columnValue none (cells i)

theorem setFieldFromDbValue_readsAs {v : Option TDBType} {c : SqlValue} (h : ReadsAs v c)
    (obj : Object Slot) (fld : TOrmField) : setFieldFromDbValue r .sqlite conv obj fld v =
      setFieldFromDbValue r .sqlite conv obj fld (columnValue none c) := by
  unfold ReadsAs at h
  split_ifs at h with hnull
  · subst hnull
    cases v with
    | none => rfl
    | some v =>
      have hv : v.isNull = true := h
      simp [setFieldFromDbValue, hv, columnValue]
  · rw [h]

theorem readLoop_congr {value value' : ℕ → Option TDBType} {entries : List (TOrmField × ℕ)}
    (h : ∀ entry ∈ entries, ∀ obj, setFieldFromDbValue r .sqlite conv obj entry.1 (value entry.2) =
      setFieldFromDbValue r .sqlite conv obj entry.1 (value' entry.2)) (obj : Object Slot) :
    entries.foldlM (fun obj entry =>
        setFieldFromDbValue r .sqlite conv obj entry.1 (value entry.2)) obj =
      entries.foldlM (fun obj entry =>
        setFieldFromDbValue r .sqlite conv obj entry.1 (value' entry.2)) obj := by
  induction entries generalizing obj with
  | nil => rfl
  | cons entry entries ih =>
    rw [List.foldlM_cons, List.foldlM_cons, h entry List.mem_cons_self obj]
    exact bind_congr fun obj' => ih (fun x hx => h x (List.mem_cons_of_mem entry hx)) obj'

theorem objectFromCurrentRow_readsAs {value : ℕ → Option TDBType} {cells : ℕ → SqlValue}
    (h : ∀ i < m.fields.length, ReadsAs (value i) (cells i)) :
    objectFromCurrentRow r .sqlite m conv value = decode r conv m cells :=
  @readLoop_congr _ r conv value (fun i => columnValue none (cells i)) m.fields.zipIdx
    (fun entry hentry obj => setFieldFromDbValue_readsAs r conv
      (h entry.2 (List.snd_lt_of_mem_zipIdx hentry)) obj entry.1) r.newSlot

/-- Whether a value is read into a field, and what it sets, does not depend on the object. -/
theorem reads_of_ok {obj obj' : Object Slot} {fld : TOrmField} {v : Option TDBType}
    (h : setFieldFromDbValue r .sqlite conv obj fld v = .ok obj') :
    ∃ slot : Option Slot, ∀ obj, setFieldFromDbValue r .sqlite conv obj fld v =
      .ok (slot.elim obj (store obj fld)) := by
  cases v with
  | none => exact ⟨none, fun _ => rfl⟩
  | some v =>
    unfold setFieldFromDbValue at h ⊢
    dsimp only at h ⊢
    split_ifs at h ⊢ with hnull hjson hblank
    · exact ⟨none, fun _ => rfl⟩
    · exact ⟨none, fun _ => rfl⟩
    · exact ⟨some _, fun _ => rfl⟩
    · exact ⟨some _, fun _ => rfl⟩
    · exact ⟨some _, fun _ => rfl⟩
    · exact ⟨some _, fun _ => rfl⟩
    · cases hty : valueTypeId fld with
      | longIntTypeId | ulongIntTypeId | sizeTTypeId | enumTypeId _ _ _ | objectTypeId _ =>
        rw [hty] at h
        cases h
      | _ => exact ⟨some _, fun _ => rfl⟩

/-- A field reads what it would read into a new object, and the others are left alone. -/
theorem readLoop_apply {value : ℕ → Option TDBType} {entries : List (TOrmField × ℕ)}
    (hnodup : (entries.map (·.1.typeField)).Nodup) {obj obj' : Object Slot}
    (h : entries.foldlM (fun obj entry =>
      setFieldFromDbValue r .sqlite conv obj entry.1 (value entry.2)) obj = .ok obj') :
    (∀ tf ∉ entries.map (·.1.typeField), obj' tf = obj tf) ∧
      ∀ entry ∈ entries, ∃ slot : Option Slot,
        (∀ obj, setFieldFromDbValue r .sqlite conv obj entry.1 (value entry.2) =
          .ok (slot.elim obj (store obj entry.1))) ∧
        obj' entry.1.typeField = slot.getD (obj entry.1.typeField) := by
  induction entries generalizing obj with
  | nil =>
    cases h
    exact ⟨fun _ _ => rfl, nofun⟩
  | cons entry entries ih =>
    obtain ⟨hnew, hnodup⟩ := List.nodup_cons.mp hnodup
    rw [List.foldlM_cons, bind_eq_ok] at h
    obtain ⟨next, hnext, h⟩ := h
    obtain ⟨hothers, hread⟩ := ih hnodup h
    obtain ⟨slot, hslot⟩ := reads_of_ok r conv hnext
    obtain rfl : slot.elim obj (store obj entry.1) = next :=
      Except.ok.inj ((hslot obj).symm.trans hnext)
    have hkept (tf : TField) (htf : tf ≠ entry.1.typeField) :
        slot.elim obj (store obj entry.1) tf = obj tf := by
      cases slot with
      | none => rfl
      | some x => exact Function.update_of_ne htf x obj
    refine ⟨fun tf htf => ?_, fun other hother => ?_⟩
    · obtain ⟨hne, hrest⟩ := not_or.mp (mt List.mem_cons.mpr htf)
      exact (hothers tf hrest).trans (hkept tf hne)
    · obtain rfl | hother := List.mem_cons.mp hother
      · refine ⟨slot, hslot, (hothers _ hnew).trans ?_⟩
        cases slot with
        | none => rfl
        | some x => exact Function.update_self ..
      · obtain ⟨slot', hslot', hset⟩ := hread other hother
        refine ⟨slot', hslot', hset.trans (congrArg slot'.getD (hkept _ fun heq => hnew ?_))⟩
        exact List.mem_map.mpr ⟨other, hother, heq⟩

/-- An object has in each of its fields what reading the cell of that field alone sets. -/
theorem decode_apply (hnodup : (m.fields.map (·.typeField)).Nodup) {cells : ℕ → SqlValue}
    {obj : Object Slot} (h : decode r conv m cells = .ok obj) :
    (∀ tf ∉ m.fields.map (·.typeField), obj tf = r.newSlot tf) ∧
      ∀ fld i, (fld, i) ∈ m.fields.zipIdx → ∃ read,
        setFieldFromDbValue r .sqlite conv r.newSlot fld (columnValue none (cells i)) = .ok read ∧
        obj fld.typeField = read fld.typeField ∧
        ∀ tf ≠ fld.typeField, read tf = r.newSlot tf := by
  have htypeFields : m.fields.zipIdx.map (·.1.typeField) = m.fields.map (·.typeField) :=
    List.map_map.symm.trans (congrArg (List.map TOrmField.typeField) (List.zipIdx_map_fst ..))
  obtain ⟨hothers, hread⟩ := @readLoop_apply _ r conv (fun i => columnValue none (cells i))
    m.fields.zipIdx (htypeFields ▸ hnodup) r.newSlot obj h
  refine ⟨fun tf htf => hothers tf (htypeFields ▸ htf), fun fld i hmem => ?_⟩
  obtain ⟨slot, hslot, hset⟩ := hread (fld, i) hmem
  refine ⟨_, hslot r.newSlot, ?_, fun tf htf => ?_⟩
  · refine hset.trans ?_
    cases slot with
    | none => rfl
    | some x => exact (Function.update_self fld.typeField x r.newSlot).symm
  · cases slot with
    | none => rfl
    | some x => exact Function.update_of_ne htf x r.newSlot

theorem readLoop_ok_iff {value : ℕ → Option TDBType} (entries : List (TOrmField × ℕ))
    (new obj : Object Slot) : (∃ obj', entries.foldlM (fun obj entry =>
        setFieldFromDbValue r .sqlite conv obj entry.1 (value entry.2)) obj = .ok obj') ↔
      ∀ entry ∈ entries, ∃ read,
        setFieldFromDbValue r .sqlite conv new entry.1 (value entry.2) = .ok read := by
  induction entries generalizing obj with
  | nil => exact iff_of_true ⟨obj, rfl⟩ nofun
  | cons entry entries ih =>
    rw [List.forall_mem_cons, List.foldlM_cons]
    constructor
    · rintro ⟨obj', h⟩
      obtain ⟨next, hnext, h⟩ := bind_eq_ok.mp h
      obtain ⟨slot, hslot⟩ := reads_of_ok r conv hnext
      exact ⟨⟨_, hslot new⟩, (ih next).mp ⟨obj', h⟩⟩
    · rintro ⟨⟨read, hread⟩, hrest⟩
      obtain ⟨slot, hslot⟩ := reads_of_ok r conv hread
      obtain ⟨obj', h⟩ := (ih (slot.elim obj (store obj entry.1))).mpr hrest
      exact ⟨obj', bind_eq_ok.mpr ⟨_, hslot obj, h⟩⟩

theorem decode_ok_iff (cells : ℕ → SqlValue) : (∃ obj, decode r conv m cells = .ok obj) ↔
    ∀ entry ∈ m.fields.zipIdx, ∃ read, setFieldFromDbValue r .sqlite conv r.newSlot entry.1
      (columnValue none (cells entry.2)) = .ok read :=
  @readLoop_ok_iff _ r conv (fun i => columnValue none (cells i)) m.fields.zipIdx r.newSlot
    r.newSlot

/-- Reading what a row shows does not throw if reading the rows by themselves does not. -/
theorem decode_shown_ok {done : List Row} {row : Row}
    (hdone : ∀ row' ∈ done, ∃ obj, decode r conv m (cell row') = .ok obj)
    (h : ∃ obj, decode r conv m (cell row) = .ok obj) :
    ∃ obj, decode r conv m (shownCell done row) = .ok obj := by
  refine (decode_ok_iff r conv m _).mpr fun entry hentry => ?_
  unfold shownCell
  split_ifs with hlingers
  · obtain ⟨hmem, -⟩ := List.mem_filter.mp (List.mem_of_getLast? hlingers.2)
    obtain ⟨row', hrow', hblob⟩ := List.mem_map.mp hmem
    have hread := (decode_ok_iff r conv m _).mp (hdone row' hrow') entry hentry
    rwa [hblob] at hread
  · exact (decode_ok_iff r conv m _).mp h entry hentry

/-- Reading a blob without data leaves a new object as it is. -/
def KeepsEmptyBlob (fld : TOrmField) : Prop :=
  setFieldFromDbValue r .sqlite conv r.newSlot fld (some (.setBlob [])) = .ok r.newSlot

/-- The blobs that linger make no difference. -/
def Unharmed (done : List Row) (row : Row) : Prop :=
  ∀ fld i, (fld, i) ∈ m.fields.zipIdx → Lingers done row i → KeepsEmptyBlob r conv fld

theorem decode_shown_iff (hnodup : (m.fields.map (·.typeField)).Nodup) {done : List Row} {row : Row}
    {obj obj' : Object Slot} (h : decode r conv m (shownCell done row) = .ok obj)
    (h' : decode r conv m (cell row) = .ok obj') : obj = obj' ↔ Unharmed r conv m done row := by
  obtain ⟨hothers, hread⟩ := decode_apply r conv m hnodup h
  obtain ⟨hothers', hread'⟩ := decode_apply r conv m hnodup h'
  constructor
  · rintro rfl fld i hmem hlingers
    obtain ⟨read, hok, hset, hkept⟩ := hread fld i hmem
    obtain ⟨read', hok', hset', -⟩ := hread' fld i hmem
    rw [shownCell, if_pos hlingers] at hok
    rw [hlingers.1] at hok'
    obtain rfl : r.newSlot = read' := Except.ok.inj hok'
    refine hok.trans (congrArg Except.ok (funext fun tf => ?_))
    by_cases htf : tf = fld.typeField
    · rw [htf, ← hset, hset']
    · exact hkept tf htf
  · intro hunharmed
    funext tf
    by_cases htf : tf ∈ m.fields.map (·.typeField)
    · obtain ⟨fld, hfld, rfl⟩ := List.mem_map.mp htf
      obtain ⟨i, hi, hat⟩ := List.getElem_of_mem hfld
      have hmem : (fld, i) ∈ m.fields.zipIdx := by
        rw [List.mk_mem_zipIdx_iff_getElem?, List.getElem?_eq_getElem hi, hat]
      obtain ⟨read, hok, hset, -⟩ := hread fld i hmem
      obtain ⟨read', hok', hset', -⟩ := hread' fld i hmem
      have hsame : read = read' := by
        by_cases hlingers : Lingers done row i
        · rw [shownCell, if_pos hlingers] at hok
          rw [hlingers.1] at hok'
          exact (Except.ok.inj (hok.symm.trans (hunharmed fld i hmem hlingers))).trans
            (Except.ok.inj hok')
        · rw [shownCell, if_neg hlingers] at hok
          exact Except.ok.inj (hok.symm.trans hok')
      rw [hset, hset', hsame]
    · rw [hothers tf htf, hothers' tf htf]

end

/-! ### What the driver supplies -/

section

variable (e : Engine) (conv : Conversions) (width : ℕ)

/-- The fetches to come find these rows and then no more; the rows `done` were found before. -/
def Supplies : List Row → List Row → Session → Prop
  | _, [], s => ((driver e conv).fetch s).1 = false
  | done, row :: rest, s => ((driver e conv).fetch s).1 = true ∧
      (∀ i < width, ReadsAs (((driver e conv).fetch s).2.2.value i) (shownCell done row i)) ∧
      Supplies (done ++ [row]) rest ((driver e conv).fetch s).2

/-- The slots after these rows. -/
def SlotsAfter (done : List Row) (values : List (Option TDBType)) : Prop :=
  ∀ (i : ℕ) (hi : i < values.length), Slotted done i values[i]

variable {width}

theorem slotsAfter_nil (n : ℕ) : SlotsAfter [] (List.replicate n none) := by
  intro i hi
  rw [List.getElem_replicate]
  exact slotted_nil i

theorem SlotsAfter.next {done : List Row} {values : List (Option TDBType)}
    (h : SlotsAfter done values) (row : Row) :
    SlotsAfter (done ++ [row]) (storeCells values row) := by
  intro i hi
  have hold : i < values.length := by simpa [storeCells] using hi
  have hnext := (h i hold).next row
  simpa [storeCells] using hnext

theorem streaming_supplies {rs : TSQLiteResultSet} {done rest : List Row} (h : Streaming rs rest)
    (hwidth : (columns rs.stmtHandle).length = width) (hslots : SlotsAfter done rs.values)
    (conn : TDBSQLite) : Supplies e conv width done rest (conn, rs) := by
  induction rest generalizing rs done conn with
  | nil => exact h.fetch_nil e conv conn
  | cons row rest ih =>
    obtain ⟨conn', rs', hfetch, hrest, hcolumns, hvalues, hrecord⟩ := h.fetch_cons e conv conn
    have hlength : rs.values.length = rs'.record.count :=
      (h.values_length h.recorded).trans (congrArg TQueryRecord.count hrecord.symm)
    have hwidth' : (columns rs'.stmtHandle).length = width := hcolumns ▸ hwidth
    rw [Supplies, hfetch]
    refine ⟨rfl, fun i hi => ?_, ih hrest hwidth' (hvalues ▸ hslots.next row) conn'⟩
    obtain ⟨hold, hread⟩ := value_of_values hrest.isActive_eq hrest.toCovers hlength hvalues
      (hwidth'.symm ▸ hi)
    rw [hread]
    exact (hslots i hold).readsAs row

/-- Run once more, the statement yields the same rows. -/
def FixedTable (rows : List Row) (s : Session) : Prop :=
  ∀ stmt ∈ s.2.stmtHandle, (e.run s.1.log stmt.handle).rows = rows

/-- The row that a first execution fetches ahead is found by the first fetch. -/
theorem executed_supplies {t s : Session} (h : Executed e conv t s) (hready : Ready t.2)
    (hfresh : Fresh t.2) {rows : List Row} {failure : Option ErrorCode}
    (hruns : startedRuns (callsBetween t.1 s.1) = [⟨rows, failure⟩])
    (hwidth : (columns s.2.stmtHandle).length = width) (hpos : 0 < width)
    (hfixed : FixedTable e rows s) : Supplies e conv width [] rows s := by
  obtain ⟨hopen, -⟩ := h.opens e conv hready
  obtain ⟨calls, stmt, run, hlog, hstmt, hstarted, hcases⟩ := executed_run e conv h
  obtain rfl : run = ⟨rows, failure⟩ := by
    rw [callsBetween_eq hlog, hstarted] at hruns
    exact List.singleton_inj.mp hruns
  obtain ⟨conn, rs⟩ := s
  rcases hcases with ⟨hrows, hfake, hrewound⟩ | ⟨row, rest, hrows, heq⟩
  · have hrows' : rows = [] := hrows
    subst hrows'
    exact fetch_false e conv hopen (nextRow_false e hfake hrewound (hfixed stmt.rewind hrewound))
  · have hrows' : rows = row :: rest := hrows
    subst hrows'
    have hrs : rs = _ := heq
    subst hrs
    have hcolumns : (columns t.2.stmtHandle).length = width := by
      rw [hstmt]
      exact (congrArg (fun handle => (columns handle).length)
        (storeRow_stmtHandle (beforeStore t.2 stmt ⟨rest, failure⟩) row)).symm.trans hwidth
    obtain ⟨hcovers, hnone⟩ := ensureRecord_fresh hfresh (hcolumns.symm ▸ hpos)
    obtain ⟨hstream, hvalues, hrecord, hfake⟩ := streaming_stored hstmt hready hcovers hopen
    have hslots := slotsAfter_nil (columns t.2.stmtHandle).length
    rw [← hnone] at hslots
    have hfetch := fetch_eq e conv (s := (conn, _)) hopen.toReady rfl
    rw [nextRow_fake e (hfake.trans hfresh.initialFetch_eq), if_pos (Or.inr rfl)] at hfetch
    rw [Supplies, hfetch]
    refine ⟨rfl, fun i hi => ?_, ?_⟩
    · have hlength := hready.ensureRecord.values_length hcovers.recorded
      obtain ⟨hold, hread⟩ := value_of_values hstream.isActive_eq hstream.toCovers
        (hlength.trans (congrArg TQueryRecord.count hrecord.symm)) hvalues (hwidth.symm ▸ hi)
      refine hread ▸ (hslots i hold).readsAs row
    · exact streaming_supplies e conv hstream hwidth (hvalues ▸ hslots.next row) conn

end

/-! ### Issued statements -/

theorem addBindValue_adds {objects : Objects} {conv : Conversions} {query query' : TQueryResultSet}
    {value : Option TDBType} (h : addBindValue objects conv .sqlite query value = some query') :
    ∃ w, query' = query.addBindValue w := by
  have hite {p : Prop} [Decidable p] {a b : TQueryResultSet} (ha : ∃ w, a = query.addBindValue w)
      (hb : ∃ w, b = query.addBindValue w) : ∃ w, (if p then a else b) = query.addBindValue w := by
    split_ifs
    · exact ha
    · exact hb
  obtain ⟨v, -, rfl⟩ := Option.map_eq_some_iff.mp h
  obtain ⟨w, hdecimal⟩ := addDecimal_adds .sqlite (v.getDecimal conv)
  repeat' refine hite ⟨_, rfl⟩ ?_
  exact hite ⟨w, hdecimal query⟩ (hite ⟨_, rfl⟩ ⟨_, rfl⟩)

theorem bindTo_adds {objects : Objects} {conv : Conversions} {values : List (Option TDBType)}
    {rs : TQueryResultSet} {query : Option TQueryResultSet}
    (h : values.foldlM (bindNext objects conv .sqlite) (some rs) = some query) :
    ∃ ws : List (Option TDBType), query = some (ws.foldl TQueryResultSet.addBindValue rs) := by
  induction values generalizing rs with
  | nil =>
    cases h
    exact ⟨[], rfl⟩
  | cons value values ih =>
    rw [List.foldlM_cons] at h
    obtain ⟨next, hnext, h⟩ := Option.bind_eq_some_iff.mp h
    unfold bindNext at hnext
    split_ifs at hnext
    · cases hnext
      exact ih h
    · obtain ⟨base, hbase, rfl⟩ := Option.map_eq_some_iff.mp hnext
      obtain ⟨w, rfl⟩ := addBindValue_adds hbase
      obtain ⟨ws, rfl⟩ := ih h
      exact ⟨w :: ws, rfl⟩

/-- What holds before values are added and after them. -/
theorem added_ready {rs : TSQLiteResultSet} (hready : Ready rs) (hfresh : Fresh rs)
    (ws : List (Option TDBType)) :
    Ready { rs with
        toTQueryResultSet := ws.foldl TQueryResultSet.addBindValue rs.toTQueryResultSet } ∧
      Fresh { rs with
        toTQueryResultSet := ws.foldl TQueryResultSet.addBindValue rs.toTQueryResultSet } := by
  induction ws generalizing rs with
  | nil => exact ⟨hready, hfresh⟩
  | cons w ws ih =>
    exact @ih { rs with toTQueryResultSet := rs.addBindValue w }
      (hready.with_base (hready.toSized.bindValue rs.bindCount w) rfl)
      ⟨hfresh.initialFetch_eq, hfresh.unrecorded⟩

section

variable {Slot : Type} (o : TOrm TDBSQLite TSQLiteResultSet Slot) (e : Engine)

/-- The ORM on an SQLite database. -/
def onSqlite : TOrm TDBSQLite TSQLiteResultSet Slot :=
  { o with driver := driver e o.conv, dialect := .sqlite }

/-- Binding adds values to the query and does nothing else. -/
def OnlyAdds (bind : TSQLiteResultSet → Operation TDBSQLite TSQLiteResultSet) : Prop :=
  ∀ query s query' s', bind query s = (.ok query', s') → s' = s ∧ ∃ ws : List (Option TDBType),
    query' = { query with
      toTQueryResultSet := ws.foldl TQueryResultSet.addBindValue query.toTQueryResultSet }

/-- The statement is prepared, bound and executed, and has these rows and so many columns, of
which there is one at least. It does not fail before its first row. -/
def Yields (sql : Text) (bind : TSQLiteResultSet → Operation TDBSQLite TSQLiteResultSet)
    (msg : Option Text) (s : World TDBSQLite) (width : ℕ) (rows : List Row) : Prop :=
  ∃ query s₁, (onSqlite o e).issue sql bind msg s = (.ok query, s₁) ∧
    (∃ failure, startedRuns (callsBetween s.db s₁.db) = [⟨rows, failure⟩] ∧
      (rows ≠ [] ∨ failure = none)) ∧
    (columns query.stmtHandle).length = width ∧ 0 < width ∧ FixedTable e rows (s₁.db, query)

theorem bindParams_onlyAdds (params : Option TOrmParams) :
    OnlyAdds ((onSqlite o e).bindParams params) := by
  intro query s query' s' h
  cases params with
  | none =>
    cases h
    exact ⟨rfl, [], rfl⟩
  | some params =>
    simp only [TOrm.bindParams] at h
    cases hbase : bindTo o.objects o.conv .sqlite params (some query.toTQueryResultSet) with
    | none =>
      erw [hbase] at h
      cases h
    | some base =>
      erw [hbase] at h
      obtain ⟨ws, rfl⟩ := bindTo_adds hbase
      cases h
      exact ⟨rfl, ws, rfl⟩

theorem addId_onlyAdds (id : TOrm.Id) : OnlyAdds fun query =>
    (onSqlite o e).bound query (.ok (id.add ((onSqlite o e).driver.base query))) := by
  intro query s query' s' h
  cases h
  cases id with
  | int id => exact ⟨rfl, [_], rfl⟩
  | long id => exact ⟨rfl, [_], rfl⟩
  | string id => exact ⟨rfl, [_], rfl⟩

theorem prepareStatement_noStep {e : Engine} {conv : Conversions} {sql : Text} {s : Session}
    (h : ((driver e conv).prepareStatement sql s).1 = true) :
    ∃ calls, NoStep calls ∧
      ((driver e conv).prepareStatement sql s).2.1.log = s.1.log ++ calls := by
  unfold Driver.prepareStatement at h ⊢
  dsimp only at h ⊢
  split_ifs at h ⊢ with hblank hopen
  · cases h
  · rw [Driver.finish_connection (f := TDBSQLite.log) _ (fun _ _ => rfl)]
    obtain ⟨calls, c, query, hidle, hstep, hcases⟩ := prepare_cases e sql
      (s := (driver e conv).setQuery (SqlTokens.trim sql) s) hopen
    refine ⟨calls ++ [c], hidle.noStep.append (by simpa [NoStep] using hstep), ?_⟩
    obtain ⟨conn, stmtHandle, heq, -, hlog, -⟩ | ⟨conn, heq, -, hlog, -⟩ := hcases
    · exact (congrArg (fun r => r.2.1.log) heq).trans hlog
    · exact (congrArg (fun r => r.2.1.log) heq).trans hlog
  · cases h

theorem prepareQuery_fresh {sql : Text} {s s₁ : World TDBSQLite} {query : TSQLiteResultSet}
    (h : (onSqlite o e).prepareQuery sql s = (.ok query, s₁)) : Ready query ∧ Fresh query ∧
      ∃ calls, NoStep calls ∧ s₁.db.log = s.db.log ++ calls := by
  unfold TOrm.prepareQuery at h
  dsimp only [onSqlite] at h
  split_ifs at h with hok
  · cases h
    obtain ⟨calls, hno, hlog⟩ := prepareStatement_noStep hok
    refine ⟨prepareStatement_preserves (ready_preserved e o.conv) _ (ready_create s.db),
      @fresh_prepared o.conv e s.db (TOrmDialect.rewritePlaceholders .sqlite sql) _ _ rfl _ rfl,
      calls, hno, hlog.trans ?_⟩
    rw [(SqliteVerdict.opened_eq e o.conv s.db none).1]
  · cases h

theorem issue_supplies {sql : Text} {bind : TSQLiteResultSet → Operation TDBSQLite TSQLiteResultSet}
    (hbind : OnlyAdds bind) {msg : Option Text} {s : World TDBSQLite} {width : ℕ} {rows : List Row}
    (h : Yields o e sql bind msg s width rows) :
    ∃ query s₁, (onSqlite o e).issue sql bind msg s = (.ok query, s₁) ∧
      Supplies e o.conv width [] rows (s₁.db, query) := by
  obtain ⟨query, s₁, hissue, ⟨failure, hruns, hbegins⟩, hwidth, hpos, hfixed⟩ := h
  refine ⟨query, s₁, hissue, ?_⟩
  obtain ⟨prepared, t, hprepare, hrest⟩ := ok_of_bind hissue
  obtain ⟨hready, hfresh, calls, hno, hlog⟩ := prepareQuery_fresh o e hprepare
  obtain ⟨bound, t', hbound, hexecute⟩ := ok_of_bind hrest
  obtain ⟨rfl, ws, rfl⟩ := hbind prepared t bound t' hbound
  obtain ⟨hready, hfresh⟩ := added_ready hready hfresh ws
  unfold TOrm.executeQuery at hexecute
  dsimp only [onSqlite] at hexecute
  split_ifs at hexecute with hok
  · cases hexecute
    obtain ⟨calls', hlog', -⟩ := SqliteVerdict.executePrepared_verdict e o.conv (t'.db, _)
    have hwhole := callsBetween_eq ((hlog'.trans (congrArg (· ++ calls') hlog)).trans
      (List.append_assoc ..))
    rw [hwhole, startedRuns_append, hno.startedRuns_eq, List.nil_append] at hruns
    have hruns' := (congrArg startedRuns (callsBetween_eq hlog')).trans hruns
    have hexecuted := executePrepared_true e o.conv hok
      (executePrepared_unfailed e o.conv hok hruns' hbegins)
    exact executed_supplies e o.conv hexecuted hready hfresh hruns' hwidth hpos hfixed
  · cases hexecute

/-! ### The loops of the ORM -/

variable (m : TOrmModel)

/-- The objects of the rows, each read from what its row shows. -/
inductive Collected : List Row → List Row → List (Object Slot) → Prop
  | nil (done : List Row) : Collected done [] []
  | cons {done rest : List Row} {row : Row} {obj : Object Slot} {objs : List (Object Slot)}
    (h : decode o.reflection o.conv m (shownCell done row) = .ok obj)
    (hrest : Collected (done ++ [row]) rest objs) : Collected done (row :: rest) (obj :: objs)

/-- Reading the row by itself does not throw. -/
def Decodes (row : Row) : Prop := ∃ obj, decode o.reflection o.conv m (cell row) = .ok obj

variable {m}

theorem nextRow_eq (query : TSQLiteResultSet) (s : World TDBSQLite) :
    (onSqlite o e).nextRow query s =
      (.ok (((driver e o.conv).fetch (s.db, query)).1, ((driver e o.conv).fetch (s.db, query)).2.2),
        { s with db := ((driver e o.conv).fetch (s.db, query)).2.1 }) := rfl

theorem objectFromRow_shown {query : TSQLiteResultSet} {done : List Row} {row : Row}
    (h : ∀ i < m.fields.length, ReadsAs (query.value i) (shownCell done row i)) {obj : Object Slot}
    (hobj : decode o.reflection o.conv m (shownCell done row) = .ok obj) (s : World TDBSQLite) :
    (onSqlite o e).objectFromRow m query s = (.ok obj, s) := by
  have hread := (objectFromCurrentRow_readsAs o.reflection o.conv m h).trans hobj
  change throwing (objectFromCurrentRow o.reflection .sqlite m o.conv fun i => query.value i) s = _
  rw [hread]
  rfl

theorem collect_supplied {done rest : List Row} {query : TSQLiteResultSet} {s : World TDBSQLite}
    (h : Supplies e o.conv m.fields.length done rest (s.db, query))
    (hdecodes : ∀ row ∈ done ++ rest, Decodes o m row) {fuel : ℕ} (hfuel : rest.length < fuel)
    (results : List (Object Slot)) :
    ∃ objs s', (onSqlite o e).collect m query results fuel s = (.ok (results ++ objs), s') ∧
      Collected o m done rest objs := by
  induction rest generalizing done query s results fuel with
  | nil =>
    obtain ⟨fuel, rfl⟩ := Nat.exists_eq_succ_of_ne_zero (Nat.ne_zero_of_lt hfuel)
    have hfetch : ((driver e o.conv).fetch (s.db, query)).1 = false := h
    refine ⟨[], _, Prod.ext ?_ rfl, .nil done⟩
    rw [TOrm.collect, bind_ok (nextRow_eq o e query s)]
    dsimp only
    rw [hfetch, List.append_nil]
    rfl
  | cons row rest ih =>
    obtain ⟨fuel, rfl⟩ := Nat.exists_eq_succ_of_ne_zero (Nat.ne_zero_of_lt hfuel)
    obtain ⟨hfetch, hshown, hrest⟩ := h
    obtain ⟨obj, hobj⟩ := decode_shown_ok o.reflection o.conv m
      (fun row' hrow' => hdecodes row' (List.mem_append_left _ hrow'))
      (hdecodes row (List.mem_append_right _ List.mem_cons_self))
    rw [List.append_cons] at hdecodes
    obtain ⟨objs, s', hcollect, hcollected⟩ := @ih (done ++ [row])
      ((driver e o.conv).fetch (s.db, query)).2.2
      { s with db := ((driver e o.conv).fetch (s.db, query)).2.1 } hrest hdecodes fuel
      (Nat.lt_of_succ_lt_succ hfuel) (results ++ [obj])
    refine ⟨obj :: objs, s', ?_, .cons hobj hcollected⟩
    rw [TOrm.collect, bind_ok (nextRow_eq o e query s)]
    dsimp only
    rw [hfetch, if_pos rfl, bind_ok (objectFromRow_shown o e hshown hobj _), hcollect,
      List.append_assoc, List.singleton_append]

/-- The object of the first row that is found, if there is one. -/
theorem firstObject_supplied {rows : List Row} {query : TSQLiteResultSet} {s : World TDBSQLite}
    (h : Supplies e o.conv m.fields.length [] rows (s.db, query))
    (hdecodes : ∀ row ∈ rows.head?, Decodes o m row) :
    ∃ found s', (onSqlite o e).firstObject m query s = (.ok found, s') ∧
      Option.Rel (fun row obj => decode o.reflection o.conv m (cell row) = .ok obj) rows.head?
        found := by
  cases rows with
  | nil =>
    have hfetch : ((driver e o.conv).fetch (s.db, query)).1 = false := h
    refine ⟨none, _, Prod.ext ?_ rfl, .none⟩
    rw [TOrm.firstObject, bind_ok (nextRow_eq o e query s)]
    dsimp only
    rw [hfetch]
    rfl
  | cons row rest =>
    obtain ⟨hfetch, hshown, -⟩ := h
    obtain ⟨obj, hobj⟩ := hdecodes row rfl
    refine ⟨some obj, _, Prod.ext ?_ rfl, .some hobj⟩
    rw [TOrm.firstObject, bind_ok (nextRow_eq o e query s)]
    dsimp only
    rw [hfetch, if_pos rfl, bind_ok (objectFromRow_shown o e hshown (shownCell_nil row ▸ hobj) _)]
    rfl

theorem Collected.length_eq {done rest : List Row} {objs : List (Object Slot)}
    (h : Collected o m done rest objs) : objs.length = rest.length := by
  induction h with
  | nil done => rfl
  | cons h hrest ih => exact congrArg (· + 1) ih

/-- Every object is that of its row if and only if no blob that lingers makes a difference. -/
theorem Collected.decoded_iff (hnodup : (m.fields.map (·.typeField)).Nodup) {done rest : List Row}
    {objs : List (Object Slot)} (h : Collected o m done rest objs)
    (hdecodes : ∀ row ∈ rest, Decodes o m row) :
    List.Forall₂ (fun row obj => decode o.reflection o.conv m (cell row) = .ok obj) rest objs ↔
      ∀ j row, rest[j]? = some row →
        Unharmed o.reflection o.conv m (done ++ rest.take j) row := by
  induction h with
  | nil done => exact iff_of_true .nil nofun
  | @cons done rest row obj objs hobj hrest ih =>
    obtain ⟨⟨obj', hobj'⟩, hrestDecodes⟩ := List.forall_mem_cons.mp hdecodes
    have hfirst : decode o.reflection o.conv m (cell row) = .ok obj ↔
        Unharmed o.reflection o.conv m done row := by
      rw [← decode_shown_iff o.reflection o.conv m hnodup hobj hobj', hobj', Except.ok.injEq]
      exact eq_comm
    rw [List.forall₂_cons, hfirst, ih hrestDecodes]
    constructor
    · rintro ⟨hrow, hrows⟩ j row' hj
      cases j with
      | zero =>
        obtain rfl : row = row' := Option.some.inj hj
        rwa [List.take_zero, List.append_nil]
      | succ j =>
        have hlater := hrows j row' hj
        rwa [List.append_assoc] at hlater
    · intro hall
      refine ⟨?_, fun j row' hj => ?_⟩
      · have hrow := hall 0 row rfl
        rwa [List.take_zero, List.append_nil] at hrow
      · rw [List.append_assoc]
        exact hall (j + 1) row' hj

/-! ### The calls -/

/-- The loop ends with an object for each row, and each of these is decoded from its row if and
only if no blob that lingers makes a difference. -/
def FindsEach (m : TOrmModel) (find : ℕ → Operation TDBSQLite (List (Object Slot)))
    (s : World TDBSQLite) (rows : List Row) : Prop :=
  ∀ fuel, rows.length < fuel → ∃ objs s', find fuel s = (.ok objs, s') ∧
    objs.length = rows.length ∧
    (List.Forall₂ (fun row obj => decode o.reflection o.conv m (cell row) = .ok obj) rows objs ↔
      ∀ j row, rows[j]? = some row → Unharmed o.reflection o.conv m (rows.take j) row)

/-- The object of the first row is returned, or Null if there is none. -/
def FindsFirst (m : TOrmModel) (find : Operation TDBSQLite (Option (Object Slot)))
    (s : World TDBSQLite) (rows : List Row) : Prop :=
  ∃ found s', find s = (.ok found, s') ∧
    Option.Rel (fun row obj => decode o.reflection o.conv m (cell row) = .ok obj) rows.head? found

variable {s : World TDBSQLite} {rows : List Row}

theorem populateFindWhere_finds (hnodup : (m.fields.map (·.typeField)).Nodup) {whereSql sql : Text}
    {params : Option TOrmParams} {orderBy : List TOrmOrderItem} {limit offset : ℤ} {msg : String}
    (hsql : buildFindWhereSql .sqlite m o.sameName whereSql orderBy limit offset = .ok sql)
    (h : Yields o e sql ((onSqlite o e).bindParams params) (some msg.toList) s m.fields.length rows)
    (hdecodes : ∀ row ∈ rows, Decodes o m row) :
    FindsEach o m
      ((onSqlite o e).populateFindWhere m whereSql params orderBy limit offset msg) s rows := by
  intro fuel hfuel
  obtain ⟨query, s₁, hissue, hsupplies⟩ := issue_supplies o e (bindParams_onlyAdds o e params) h
  obtain ⟨objs, s', hcollect, hcollected⟩ := collect_supplied o e hsupplies hdecodes hfuel []
  refine ⟨objs, s', ?_, hcollected.length_eq, hcollected.decoded_iff o hnodup hdecodes⟩
  have hthrowing : throwing (C := TDBSQLite) (buildFindWhereSql (onSqlite o e).dialect m
      (onSqlite o e).sameName whereSql orderBy limit offset) s = (.ok sql, s) := throwing_ok hsql s
  rw [TOrm.populateFindWhere, bind_ok hthrowing, bind_ok hissue]
  exact hcollect

theorem findOneWhereObject_finds {whereSql sql : Text} {params : Option TOrmParams}
    (hsql : buildFindWhereSql .sqlite m o.sameName whereSql [] 1 0 = .ok sql)
    (h : Yields o e sql ((onSqlite o e).bindParams params)
      (some "Failed to execute find one where".toList) s m.fields.length rows)
    (hdecodes : ∀ row ∈ rows.head?, Decodes o m row) :
    FindsFirst o m ((onSqlite o e).findOneWhereObject m whereSql params) s rows := by
  obtain ⟨query, s₁, hissue, hsupplies⟩ := issue_supplies o e (bindParams_onlyAdds o e params) h
  obtain ⟨found, s', hfirst, hrel⟩ := firstObject_supplied o e hsupplies hdecodes
  refine ⟨found, s', ?_, hrel⟩
  have hthrowing : throwing (C := TDBSQLite) (buildFindWhereSql (onSqlite o e).dialect m
      (onSqlite o e).sameName whereSql [] 1 0) s = (.ok sql, s) := throwing_ok hsql s
  rw [TOrm.findOneWhereObject, bind_ok hthrowing, bind_ok hissue]
  exact hfirst

theorem findByIdObject_finds {sql : Text} {id : TOrm.Id}
    (hsql : buildFindByIdSql .sqlite m = .ok sql)
    (h : Yields o e sql (fun query => (onSqlite o e).bound query
      (.ok (id.add ((onSqlite o e).driver.base query)))) none s m.fields.length rows)
    (hdecodes : ∀ row ∈ rows.head?, Decodes o m row) :
    FindsFirst o m ((onSqlite o e).findByIdObject m id) s rows := by
  obtain ⟨query, s₁, hissue, hsupplies⟩ := issue_supplies o e (addId_onlyAdds o e id) h
  obtain ⟨found, s', hfirst, hrel⟩ := firstObject_supplied o e hsupplies hdecodes
  refine ⟨found, s', ?_, hrel⟩
  have hthrowing : throwing (C := TDBSQLite) (buildFindByIdSql (onSqlite o e).dialect m) s =
      (.ok sql, s) := throwing_ok hsql s
  rw [TOrm.findByIdObject, bind_ok hthrowing, bind_ok hissue]
  exact hfirst

theorem countWhere_counts {whereSql : Text} {params : Option TOrmParams} {row : Row}
    {rest : List Row} {v : TDBType}
    (h : Yields o e (buildCountWhereSql .sqlite m whereSql) ((onSqlite o e).bindParams params)
      (some "Failed to execute count query".toList) s 1 (row :: rest))
    (hv : columnValue none (cell row 0) = some v) :
    ∃ s', (onSqlite o e).countWhere m whereSql params s = (.ok (v.getLong o.conv), s') := by
  obtain ⟨query, s₁, hissue, hfetch, hshown, -⟩ :=
    issue_supplies o e (bindParams_onlyAdds o e params) h
  have hnull : cell row 0 ≠ .null := by
    intro hnull
    rw [hnull] at hv
    cases hv
  have hvalue : (onSqlite o e).value ((driver e o.conv).fetch (s₁.db, query)).2.2 0 = some v := by
    have hreads := hshown 0 Nat.one_pos
    rwa [ReadsAs, shownCell_nil, if_neg hnull, hv] at hreads
  have hissue' : (onSqlite o e).issue (buildCountWhereSql (onSqlite o e).dialect m whereSql)
      ((onSqlite o e).bindParams params) (some "Failed to execute count query".toList) s =
      (.ok query, s₁) := hissue
  refine ⟨_, Prod.ext ?_ rfl⟩
  rw [TOrm.countWhere, bind_ok hissue', bind_ok (nextRow_eq o e query s₁)]
  dsimp only
  rw [hfetch, if_pos rfl, hvalue]
  rfl

/-- On SQLite every call that ran its statement finds the rows of it: `FindAll` and `FindWhere` each
of them once and in order, `FindOneWhere` and `FindById` the first one, and `CountWhere` its value.
The objects of the former are decoded from their rows if and only if every null cell behind a blob
without data stands in the column of a field that is not changed by such a blob. -/
theorem rows_found_once_iff {hashCode : Text → UInt32} {registry : Option (TOrmRegistry hashCode)}
    {namingStyle : EOrmNamingStyle} {typeId : TClassId}
    {out : TOrmModel × Option (TOrmRegistry hashCode)}
    (hbuild : buildModel registry namingStyle typeId = .ok out)
    (hfields : typeId.enumFields.Nodup) (s : World TDBSQLite) :
    (∀ orderBy limit offset sql rows,
      buildFindWhereSql .sqlite out.1 o.sameName [] orderBy limit offset = .ok sql →
      Yields o e sql ((onSqlite o e).bindParams none) (some "Failed to execute find all".toList) s
        out.1.fields.length rows → (∀ row ∈ rows, Decodes o out.1 row) →
      FindsEach o out.1 ((onSqlite o e).findAll out.1 orderBy limit offset) s rows) ∧
    (∀ whereSql params orderBy limit offset sql rows,
      buildFindWhereSql .sqlite out.1 o.sameName whereSql orderBy limit offset = .ok sql →
      Yields o e sql ((onSqlite o e).bindParams params)
        (some "Failed to execute find where".toList) s out.1.fields.length rows →
      (∀ row ∈ rows, Decodes o out.1 row) →
      FindsEach o out.1 ((onSqlite o e).findWhere out.1 whereSql params orderBy limit offset) s
        rows) ∧
    (∀ whereSql params sql rows,
      buildFindWhereSql .sqlite out.1 o.sameName whereSql [] 1 0 = .ok sql →
      Yields o e sql ((onSqlite o e).bindParams params)
        (some "Failed to execute find one where".toList) s out.1.fields.length rows →
      (∀ row ∈ rows.head?, Decodes o out.1 row) →
      FindsFirst o out.1 ((onSqlite o e).findOneWhereObject out.1 whereSql params) s rows) ∧
    (∀ id sql rows, buildFindByIdSql .sqlite out.1 = .ok sql →
      Yields o e sql (fun query => (onSqlite o e).bound query
        (.ok (id.add ((onSqlite o e).driver.base query)))) none s out.1.fields.length rows →
      (∀ row ∈ rows.head?, Decodes o out.1 row) →
      FindsFirst o out.1 ((onSqlite o e).findByIdObject out.1 id) s rows) ∧
    ∀ whereSql params row rest v, Yields o e (buildCountWhereSql .sqlite out.1 whereSql)
        ((onSqlite o e).bindParams params) (some "Failed to execute count query".toList) s 1
        (row :: rest) → columnValue none (cell row 0) = some v →
      ∃ s', (onSqlite o e).countWhere out.1 whereSql params s = (.ok (v.getLong o.conv), s') := by
  obtain ⟨style, hnew⟩ := buildModel_built hbuild
  have hnodup : (out.1.fields.map (·.typeField)).Nodup := by
    rw [(buildNewModel_built hnew).fields_eq, List.map_map]
    exact (List.map_id _).symm ▸ hfields.filter _
  refine ⟨?_, ?_, ?_, ?_, ?_⟩
  · intro orderBy limit offset sql rows hsql h hdecodes
    exact populateFindWhere_finds o e hnodup hsql h hdecodes
  · intro whereSql params orderBy limit offset sql rows hsql h hdecodes
    exact populateFindWhere_finds o e hnodup hsql h hdecodes
  · intro whereSql params sql rows hsql h hdecodes
    exact findOneWhereObject_finds o e hsql h hdecodes
  · intro id sql rows hsql h hdecodes
    exact findByIdObject_finds o e hsql h hdecodes
  · intro whereSql params row rest v h hv
    exact countWhere_counts o e h hv

end

/-! ### A field that is not empty at first -/

def titleField : TField := ⟨"title".toList, .stringTypeId, []⟩

def noteType : TClassId := ⟨"Note".toList, [], [titleField]⟩

/-- A new object has a title. -/
def untitled : Reflection Cell :=
  { Cell.reflection with newSlot := fun _ => .text "untitled".toList }

/-- An engine whose every statement has these rows of one column. -/
def oneColumn (rows : List Row) : Engine where
  prepare _ _ := .ok (some ⟨0, [⟨"title".toList, none⟩]⟩)
  reset _ _ := none
  bind _ _ _ _ := none
  run _ _ := ⟨rows, none⟩
  message _ := noError

def notes : TOrm TDBSQLite TSQLiteResultSet Cell where
  driver := driver (oneColumn []) .integers
  lastInsertedId _ := -1
  rowsAffected _ := -1
  nativeErrorMessage _ := []
  dialect := .sqlite
  reflection := untitled
  conv := .integers
  objects := addresses false
  sameName a b := a = b
  getModelForName _ := none

def noteModel : TOrmModel :=
  ⟨noteType, "note".toList, [buildField .lowerCase titleField], [], none⟩

theorem noteModel_built :
    buildModel (none : Option (TOrmRegistry fun _ => 0)) .lowerCase noteType =
      .ok (noteModel, none) := rfl

def database : World TDBSQLite := ⟨SqliteVerdict.opened, []⟩

def blankThenNull : List Row := [[.blob []], [.null]]

/-- The second note has no title, and the blob before it has no data: it is read as that blob. -/
theorem null_read_as_blob :
    (∃ sql, buildFindWhereSql .sqlite noteModel notes.sameName [] [] 0 0 = .ok sql ∧
      Yields notes (oneColumn blankThenNull) sql
        ((onSqlite notes (oneColumn blankThenNull)).bindParams none)
        (some "Failed to execute find all".toList) database noteModel.fields.length blankThenNull) ∧
    (∀ row ∈ blankThenNull, Decodes notes noteModel row) ∧
    ∃ objs s', (onSqlite notes (oneColumn blankThenNull)).findAll noteModel [] 0 0 3 database =
        (.ok objs, s') ∧
      ¬ List.Forall₂ (fun row obj => decode untitled .integers noteModel (cell row) = .ok obj)
        blankThenNull objs := by
  refine ⟨⟨_, rfl, _, _, rfl, ⟨none, rfl, .inr rfl⟩, rfl, Nat.one_pos, fun _ _ => rfl⟩, ?_, _, _, rfl,
    ?_⟩
  · exact List.forall_mem_cons.mpr ⟨⟨_, rfl⟩, List.forall_mem_singleton.mpr ⟨_, rfl⟩⟩
  · intro h
    obtain ⟨-, h⟩ := List.forall₂_cons.mp h
    obtain ⟨h, -⟩ := List.forall₂_cons.mp h
    have htitle := congrArg (fun x => x.toOption.map (· titleField)) h
    exact absurd htitle (by decide)

theorem rows_found_once_iff_titled :
    ∃ objs s', (onSqlite notes (oneColumn [[.text ['a']], [.null]])).findAll noteModel [] 0 0 3
        database = (.ok objs, s') ∧
      List.Forall₂ (fun row obj => decode untitled .integers noteModel (cell row) = .ok obj)
        [[.text ['a']], [.null]] objs := by
  obtain ⟨hall, -⟩ := rows_found_once_iff notes (oneColumn [[.text ['a']], [.null]]) noteModel_built
    (List.nodup_singleton titleField) database
  obtain ⟨objs, s', hfind, -, hiff⟩ := hall [] 0 0 _ [[.text ['a']], [.null]] rfl
    ⟨_, _, rfl, ⟨none, rfl, .inr rfl⟩, rfl, Nat.one_pos, fun _ _ => rfl⟩
    (List.forall_mem_cons.mpr ⟨⟨_, rfl⟩, List.forall_mem_singleton.mpr ⟨_, rfl⟩⟩) 3 (by decide)
  refine ⟨objs, s', hfind, hiff.mpr fun j row hj fld i hmem hlingers => ?_⟩
  obtain ⟨hblob, -⟩ := List.mem_filter.mp (List.mem_of_getLast? hlingers.2)
  obtain ⟨row', hrow', hcell⟩ := List.mem_map.mp hblob
  obtain rfl | hrow' := List.mem_cons.mp (List.mem_of_mem_take hrow')
  · cases i <;> cases hcell
  · rw [List.mem_singleton.mp hrow'] at hcell
    cases i <;> cases hcell

end DatabaseMod.OrmSqliteQueries
