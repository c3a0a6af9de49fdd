import DatabaseMod.CoreValueObjects

/-!
# The value objects of a result set

A result set has an object for each column of its row. The next row clears the objects of the last
one and makes new ones for the cells that are not null; the record of the query, and whoever read a
value from it, keep references to the same objects.
-/

namespace DatabaseMod.ResultObjects
open SqlTokens (Text)
open CoreValueObjects

abbrev Ref := ℕ

/-- Objects are made at the end of the store. -/
structure TQueryResultSet where
  store : List DBObject
  values : List (Option Ref)
  /-- The values of the fields of the record. -/
  fields : List (Option Ref)

def clearRef (store : List DBObject) : Option Ref → List DBObject
  | some r => store.modify r DBObject.clear
  | none => store

def textOf : DBObject → Option Text
  | .string false value => some value
  | _ => none

/-- The text that is read through a reference. -/
def denotes (store : List DBObject) (ref : Option Ref) : Option Text :=
  (ref.bind (store[·]?)).bind textOf

namespace TQueryResultSet

/-- After the record was made for so many columns. -/
def created (columns : ℕ) : TQueryResultSet :=
  ⟨[], List.replicate columns none, List.replicate columns none⟩

variable (rs : TQueryResultSet)

def slot (i : ℕ) : Option Ref := (rs.values[i]?).join

def object (i : ℕ) : Option DBObject := (rs.slot i).bind (rs.store[·]?)

def fillCell (i : ℕ) (cell : Option DBObject) : TQueryResultSet :=
  let store := clearRef rs.store (rs.slot i)
  match cell with
  | some object =>
    { rs with store := store ++ [object], values := rs.values.set i (some store.length) }
  | none => { rs with store := store }

/-- The loop of `nextRow` over the columns from `i` on. -/
def fillCells (rs : TQueryResultSet) (i : ℕ) : List (Option DBObject) → TQueryResultSet
  | [] => rs
  | cell :: cells => fillCells (rs.fillCell i cell) (i + 1) cells

def fillRow (cells : List (Option DBObject)) : TQueryResultSet := rs.fillCells 0 cells

/-- A field keeps its value where the row has none. -/
def rowRecord : TQueryResultSet :=
  { rs with fields := List.zipWith (fun value field => value.or field) rs.values rs.fields }

/-- The objects of the row are cleared and stay where they are. -/
def clearBindValues : TQueryResultSet := { rs with store := rs.values.foldl clearRef rs.store }

/-- The loop over the rows, with what the column of the record refers to at each. -/
def eachValue (rs : TQueryResultSet) (column : ℕ) :
    List (List (Option DBObject)) → List (Option Ref) × TQueryResultSet
  | [] => ([], rs)
  | row :: rows =>
    let rs := (rs.fillRow row).rowRecord
    let rest := eachValue rs column rows
    ((rs.fields[column]?).join :: rest.1, rest.2)

end TQueryResultSet

/-! ### Cleared objects -/

/-- The object was cleared, or was made without a value. -/
def IsNull (store : List DBObject) (ref : Option Ref) : Prop :=
  ∀ r ∈ ref, ∃ o, store[r]? = some o ∧ o.isNull = true

theorem isNull_clear {o : DBObject} (h : o.isNull = true) : o.clear.isNull = true := by
  cases o with
  | blob isNull value size owner =>
    cases value with
    | none => exact h
    | some bytes => rfl
  | _ => rfl

theorem IsNull.denotes {store : List DBObject} {ref : Option Ref} (h : IsNull store ref) :
    denotes store ref = none := by
  cases ref with
  | none => rfl
  | some r =>
    obtain ⟨o, ho, hnull⟩ := h r rfl
    rw [ResultObjects.denotes, Option.bind_some, ho, Option.bind_some]
    cases o with
    | string isNull value =>
      obtain rfl : isNull = true := hnull
      rfl
    | _ => rfl

/-- What was cleared stays so: an object that is there is never set again. -/
def KeepsNulls (store store' : List DBObject) : Prop :=
  ∀ (r : Ref) (o : DBObject), store[r]? = some o → o.isNull = true →
    ∃ o', store'[r]? = some o' ∧ o'.isNull = true

theorem KeepsNulls.isNull {store store' : List DBObject} (h : KeepsNulls store store')
    {ref : Option Ref} (hnull : IsNull store ref) : IsNull store' ref := by
  intro r hr
  obtain ⟨o, ho, hnull⟩ := hnull r hr
  exact h r o ho hnull

theorem KeepsNulls.refl (store : List DBObject) : KeepsNulls store store :=
  fun _ o ho hnull => ⟨o, ho, hnull⟩

theorem KeepsNulls.trans {a b c : List DBObject} (h : KeepsNulls a b) (h' : KeepsNulls b c) :
    KeepsNulls a c := by
  intro r o ho hnull
  obtain ⟨o', ho', hnull'⟩ := h r o ho hnull
  exact h' r o' ho' hnull'

theorem clearRef_keeps (store : List DBObject) (ref : Option Ref) :
    KeepsNulls store (clearRef store ref) := by
  intro r o ho hnull
  cases ref with
  | none => exact ⟨o, ho, hnull⟩
  | some r' =>
    rw [clearRef, List.getElem?_modify, ho]
    by_cases hsame : r' = r
    · exact ⟨o.clear, by simp [hsame], isNull_clear hnull⟩
    · exact ⟨o, by simp [hsame], hnull⟩

theorem append_keeps (store : List DBObject) (o : DBObject) : KeepsNulls store (store ++ [o]) := by
  intro r o' ho hnull
  obtain ⟨hr, -⟩ := List.getElem?_eq_some_iff.mp ho
  exact ⟨o', by rw [List.getElem?_append_left hr, ho], hnull⟩

@[simp] theorem length_clearRef (store : List DBObject) (ref : Option Ref) :
    (clearRef store ref).length = store.length := by
  cases ref with
  | none => rfl
  | some r => exact List.length_modify ..

theorem getElem?_clearRef {store : List DBObject} {ref : Option Ref} {r : Ref} (h : r ∉ ref) :
    (clearRef store ref)[r]? = store[r]? := by
  cases ref with
  | none => rfl
  | some r' =>
    have hne : r' ≠ r := fun hsame => h (by rw [hsame]; rfl)
    rw [clearRef, List.getElem?_modify]
    simp [hne]

/-! ### The object of one column -/

namespace TQueryResultSet

/-- References are to objects that are there, and no two columns share one. -/
structure Owned (rs : TQueryResultSet) : Prop where
  exists_object : ∀ i r, rs.slot i = some r → r < rs.store.length
  injective : ∀ i j r, rs.slot i = some r → rs.slot j = some r → i = j

/-- A column whose objects are texts; its field refers to what it has. -/
structure Ready (rs : TQueryResultSet) (column : ℕ) : Prop extends Owned rs where
  column_lt : column < rs.values.length
  length_eq : rs.fields.length = rs.values.length
  field_eq : (rs.fields[column]?).join = rs.slot column
  text : ∀ o ∈ rs.object column, ∃ isNull text, o = .string isNull text

variable {rs : TQueryResultSet}

theorem slot_set (values : List (Option Ref)) (store : List DBObject) (fields : List (Option Ref))
    {i : ℕ} (hi : i < values.length) (ref : Option Ref) (j : ℕ) :
    slot ⟨store, values.set i ref, fields⟩ j =
      if j = i then ref else slot ⟨store, values, fields⟩ j := by
  unfold slot
  rw [List.getElem?_set]
  by_cases hsame : i = j
  · rw [if_pos hsame, if_pos hsame.symm, if_pos hi]
    rfl
  · rw [if_neg hsame, if_neg (Ne.symm hsame)]

theorem Owned.fillCell (h : Owned rs) {i : ℕ} (hi : i < rs.values.length)
    (cell : Option DBObject) : Owned (rs.fillCell i cell) := by
  cases cell with
  | none =>
    refine ⟨fun j r hj => ?_, h.injective⟩
    exact (length_clearRef rs.store (rs.slot i)).symm ▸ h.exists_object j r hj
  | some object =>
    have hslot (j : ℕ) : (rs.fillCell i (some object)).slot j =
        if j = i then some rs.store.length else rs.slot j := by
      refine (slot_set rs.values _ rs.fields hi _ j).trans ?_
      rw [length_clearRef]
      rfl
    have hlength : (rs.fillCell i (some object)).store.length = rs.store.length + 1 := by
      simp [TQueryResultSet.fillCell]
    refine ⟨fun j r hj => ?_, fun j k r hj hk => ?_⟩
    · rw [hlength]
      rw [hslot] at hj
      split_ifs at hj with hsame
      · cases hj
        exact Nat.lt_succ_self _
      · exact (h.exists_object j r hj).trans (Nat.lt_succ_self _)
    · rw [hslot] at hj hk
      split_ifs at hj hk with hji hki hki
      · rw [hji, hki]
      · cases hj
        exact absurd (h.exists_object k _ hk) (lt_irrefl _)
      · cases hk
        exact absurd (h.exists_object j _ hj) (lt_irrefl _)
      · exact h.injective j k r hj hk

@[simp] theorem length_fillCell (i : ℕ) (cell : Option DBObject) :
    (rs.fillCell i cell).values.length = rs.values.length := by
  cases cell with
  | none => rfl
  | some object => exact List.length_set

@[simp] theorem fields_fillCell (i : ℕ) (cell : Option DBObject) :
    (rs.fillCell i cell).fields = rs.fields := by
  cases cell with
  | none => rfl
  | some object => rfl

theorem fillCell_keeps (rs : TQueryResultSet) (i : ℕ) (cell : Option DBObject) :
    KeepsNulls rs.store (rs.fillCell i cell).store := by
  have hcleared := clearRef_keeps rs.store (rs.slot i)
  cases cell with
  | none => exact hcleared
  | some object => exact hcleared.trans (append_keeps _ object)

@[simp] theorem length_fillCells (i : ℕ) (cells : List (Option DBObject)) :
    (rs.fillCells i cells).values.length = rs.values.length := by
  induction cells generalizing rs i with
  | nil => rfl
  | cons cell cells ih => exact ih (i + 1) |>.trans (length_fillCell i cell)

@[simp] theorem fields_fillCells (i : ℕ) (cells : List (Option DBObject)) :
    (rs.fillCells i cells).fields = rs.fields := by
  induction cells generalizing rs i with
  | nil => rfl
  | cons cell cells ih => exact ih (i + 1) |>.trans (fields_fillCell i cell)

theorem fillCells_keeps (rs : TQueryResultSet) (i : ℕ) (cells : List (Option DBObject)) :
    KeepsNulls rs.store (rs.fillCells i cells).store := by
  induction cells generalizing rs i with
  | nil => exact KeepsNulls.refl rs.store
  | cons cell cells ih => exact (fillCell_keeps rs i cell).trans (ih (rs.fillCell i cell) (i + 1))

theorem eachValue_keeps (rs : TQueryResultSet) (column : ℕ)
    (rows : List (List (Option DBObject))) :
    KeepsNulls rs.store (rs.eachValue column rows).2.store := by
  induction rows generalizing rs with
  | nil => exact KeepsNulls.refl rs.store
  | cons cells rows ih =>
    exact (fillCells_keeps rs 0 cells).trans (ih (rs.fillRow cells).rowRecord)

/-- A cell of another column leaves the object as it is. -/
theorem Owned.fillCell_other (h : Owned rs) {i column : ℕ} (hne : column ≠ i)
    (hi : i < rs.values.length) (cell : Option DBObject) :
    (rs.fillCell i cell).slot column = rs.slot column ∧
      (rs.fillCell i cell).object column = rs.object column := by
  have hslot : (rs.fillCell i cell).slot column = rs.slot column := by
    cases cell with
    | none => rfl
    | some object => exact (slot_set rs.values _ rs.fields hi _ column).trans (if_neg hne)
  refine ⟨hslot, ?_⟩
  unfold object
  rw [hslot]
  cases hr : rs.slot column with
  | none => rfl
  | some r =>
    have hcleared : (clearRef rs.store (rs.slot i))[r]? = rs.store[r]? :=
      getElem?_clearRef fun hshared => hne (h.injective column i r hr hshared)
    cases cell with
    | none => exact hcleared
    | some object =>
      have hlt : r < (clearRef rs.store (rs.slot i)).length :=
        (length_clearRef rs.store (rs.slot i)).symm ▸ h.exists_object column r hr
      exact (List.getElem?_append_left hlt).trans hcleared

theorem getElem?_clearRef_self (store : List DBObject) (r : Ref) :
    (clearRef store (some r))[r]? = (store[r]?).map DBObject.clear := by
  rw [clearRef, List.getElem?_modify]
  simp

/-- The object of the column itself is cleared, or there is a new one. -/
theorem fillCell_own {column : ℕ} (hcolumn : column < rs.values.length) (cell : Option DBObject) :
    (rs.fillCell column cell).object column =
        cell.or ((rs.object column).map DBObject.clear) ∧
      ((rs.fillCell column cell).slot column = none → rs.slot column = none) := by
  cases cell with
  | none =>
    refine ⟨?_, id⟩
    change (rs.slot column).bind ((clearRef rs.store (rs.slot column))[·]?) = _
    unfold object
    cases rs.slot column with
    | none => rfl
    | some r => exact getElem?_clearRef_self rs.store r
  | some o =>
    have hslot : (rs.fillCell column (some o)).slot column = some rs.store.length := by
      refine (slot_set rs.values _ rs.fields hcolumn _ column).trans ?_
      rw [if_pos rfl, length_clearRef]
    refine ⟨?_, fun hnone => by cases hslot.symm.trans hnone⟩
    unfold object
    rw [hslot, Option.bind_some, ← length_clearRef rs.store (rs.slot column)]
    exact List.getElem?_concat_length

/-- The object that the column had is null. -/
theorem Owned.fillCell_old (h : Owned rs) {column : ℕ}
    (hclears : ∀ o ∈ rs.object column, o.clear.isNull = true) (cell : Option DBObject) :
    IsNull (rs.fillCell column cell).store (rs.slot column) := by
  have hnull : IsNull (clearRef rs.store (rs.slot column)) (rs.slot column) := by
    intro r hr
    have hslot : rs.slot column = some r := hr
    have hlt := h.exists_object column r hslot
    refine ⟨rs.store[r].clear, ?_, hclears _ ?_⟩
    · rw [hslot, getElem?_clearRef_self, List.getElem?_eq_getElem hlt]
      rfl
    · rw [object, hslot, Option.bind_some, List.getElem?_eq_getElem hlt]
      rfl
  cases cell with
  | none => exact hnull
  | some o => exact (append_keeps _ o).isNull hnull

/-- What cells of other columns keep. -/
theorem Owned.fillCells_other (h : Owned rs) {i column : ℕ} {cells : List (Option DBObject)}
    (hlength : i + cells.length ≤ rs.values.length)
    (hother : column < i ∨ i + cells.length ≤ column) :
    Owned (rs.fillCells i cells) ∧ (rs.fillCells i cells).slot column = rs.slot column ∧
      (rs.fillCells i cells).object column = rs.object column := by
  induction cells generalizing rs i with
  | nil => exact ⟨h, rfl, rfl⟩
  | cons cell cells ih =>
    rw [List.length_cons] at hlength hother
    have hi : i < rs.values.length := by omega
    have hne : column ≠ i := by omega
    obtain ⟨hslot, hobject⟩ := h.fillCell_other hne hi cell
    obtain ⟨howned, hslot', hobject'⟩ := ih (h.fillCell hi cell)
      (i := i + 1) (by rw [length_fillCell]; omega) (by omega)
    exact ⟨howned, hslot'.trans hslot, hobject'.trans hobject⟩

/-- After the cells of a row were stored. -/
structure Filled (rs rs' : TQueryResultSet) (column : ℕ) (cell : Option DBObject) : Prop where
  owned : Owned rs'
  object_eq : rs'.object column = cell.or ((rs.object column).map DBObject.clear)
  /-- An object is replaced by another one, never by none. -/
  slot_none : rs'.slot column = none → rs.slot column = none
  old_null : (∀ o ∈ rs.object column, o.clear.isNull = true) → IsNull rs'.store (rs.slot column)

theorem Owned.filled (h : Owned rs) {i column : ℕ} {cells : List (Option DBObject)}
    {cell : Option DBObject} (hlength : i + cells.length ≤ rs.values.length) (hle : i ≤ column)
    (hcell : cells[column - i]? = some cell) :
    Filled rs (rs.fillCells i cells) column cell := by
  induction cells generalizing rs i with
  | nil => cases hcell
  | cons first cells ih =>
    rw [List.length_cons] at hlength
    have hi : i < rs.values.length := by omega
    rcases hle.eq_or_lt with rfl | hlt
    · rw [Nat.sub_self, List.getElem?_cons_zero] at hcell
      obtain rfl := Option.some.inj hcell
      obtain ⟨hobject, hnone⟩ := fillCell_own hi first
      have hrest : i + 1 + cells.length ≤ (rs.fillCell i first).values.length := by
        rw [length_fillCell]
        omega
      obtain ⟨howned, hslot, hobject'⟩ :=
        (h.fillCell hi first).fillCells_other hrest (.inl (Nat.lt_succ_self i))
      exact ⟨howned, hobject'.trans hobject, fun hslot' => hnone (hslot.symm.trans hslot'),
        fun hclears => (fillCells_keeps _ (i + 1) cells).isNull (h.fillCell_old hclears first)⟩
    · obtain ⟨hslot, hobject⟩ := h.fillCell_other hlt.ne' hi first
      have hcell' : cells[column - (i + 1)]? = some cell := by
        rw [← hcell, show column - i = column - (i + 1) + 1 by omega, List.getElem?_cons_succ]
      have hfilled := ih (h.fillCell hi first) (i := i + 1) (by rw [length_fillCell]; omega) hlt
        hcell'
      exact ⟨hfilled.owned, hobject ▸ hfilled.object_eq,
        fun hnone => hslot.symm.trans (hfilled.slot_none hnone),
        fun hclears => hslot ▸ hfilled.old_null (hobject.symm ▸ hclears)⟩

/-! ### The rows -/

/-- The cells of a row, one of which is this text or null. -/
structure IsRow (count column : ℕ) (value : Option Text) (cells : List (Option DBObject)) :
    Prop where
  length_eq : cells.length = count
  cell_eq : cells[column]? = some (value.map (.string false))

theorem ready_created {count column : ℕ} (h : column < count) : Ready (created count) column := by
  have hslot (i : ℕ) : (created count).slot i = none := by
    unfold created slot
    rw [List.getElem?_replicate]
    split_ifs
    · rfl
    · rfl
  refine ⟨⟨fun i r hr => ?_, fun i j r hr => ?_⟩, ?_, ?_, ?_, fun r hr => ?_⟩
  · cases (hslot i).symm.trans hr
  · cases (hslot i).symm.trans hr
  · exact h.trans_eq (List.length_replicate ..).symm
  · rfl
  · rfl
  · rw [object, hslot column] at hr
    cases hr

/-- The next row: the object of the last one is cleared, and the record shows the new one. -/
theorem Ready.next {column : ℕ} (h : Ready rs column) {value : Option Text}
    {cells : List (Option DBObject)} (hcells : IsRow rs.values.length column value cells) :
    Ready (rs.fillRow cells).rowRecord column ∧
      (rs.fillRow cells).rowRecord.values.length = rs.values.length ∧
      IsNull (rs.fillRow cells).rowRecord.store (rs.slot column) ∧
      denotes (rs.fillRow cells).rowRecord.store ((rs.fillRow cells).rowRecord.slot column) =
        value := by
  have hfilled : Filled rs (rs.fillRow cells) column (value.map (.string false)) :=
    h.toOwned.filled (by rw [hcells.length_eq, Nat.zero_add]) (Nat.zero_le column) hcells.cell_eq
  have hlength : (rs.fillRow cells).values.length = rs.values.length := length_fillCells 0 cells
  have hfields : (rs.fillRow cells).fields = rs.fields := fields_fillCells 0 cells
  have hclears : ∀ o ∈ rs.object column, o.clear = .string true [] := by
    intro o ho
    obtain ⟨isNull, text, rfl⟩ := h.text o ho
    rfl
  have hobject : (rs.fillRow cells).rowRecord.object column =
      (value.map (.string false)).or ((rs.object column).map fun _ => .string true []) := by
    refine hfilled.object_eq.trans ?_
    rw [Option.map_congr hclears]
  have hfield : ((rs.fillRow cells).rowRecord.fields[column]?).join =
      ((rs.fillRow cells).slot column).or (rs.slot column) := by
    have hvalues : column < (rs.fillRow cells).values.length := hlength ▸ h.column_lt
    have hcolumn : column < rs.fields.length := h.length_eq ▸ h.column_lt
    rw [← h.field_eq, rowRecord, hfields, List.getElem?_zipWith, slot,
      List.getElem?_eq_getElem hvalues, List.getElem?_eq_getElem hcolumn]
    rfl
  refine ⟨⟨⟨hfilled.owned.exists_object, hfilled.owned.injective⟩,
    hlength ▸ h.column_lt, ?_, ?_, fun o ho => ?_⟩, hlength,
    hfilled.old_null fun o ho => by rw [hclears o ho]; rfl, ?_⟩
  · rw [rowRecord, List.length_zipWith, hlength, hfields, h.length_eq, Nat.min_self]
  · rw [hfield]
    cases hslot : (rs.fillRow cells).slot column with
    | none => exact (hfilled.slot_none hslot).trans hslot.symm
    | some r => exact hslot.symm
  · rw [hobject] at ho
    cases value with
    | some text => exact ⟨false, text, (Option.some.inj ho).symm⟩
    | none =>
      obtain ⟨o', -, rfl⟩ := Option.map_eq_some_iff.mp (show Option.map _ _ = some o from ho)
      exact ⟨true, [], rfl⟩
  · change ((rs.fillRow cells).rowRecord.object column).bind textOf = value
    rw [hobject]
    cases value with
    | some text => rfl
    | none =>
      cases rs.object column with
      | none => rfl
      | some o => rfl

/-- The last value, where the values before it were cleared. -/
def onlyLast : List (Option Text) → List (Option Text)
  | [] => []
  | [value] => [value]
  | _ :: value :: values => none :: onlyLast (value :: values)

theorem length_onlyLast (values : List (Option Text)) :
    (onlyLast values).length = values.length := by
  induction values using onlyLast.induct with
  | case1 => rfl
  | case2 value => rfl
  | case3 first value values ih => rw [onlyLast, List.length_cons, List.length_cons, ih]

theorem onlyLast_eq_iff (values : List (Option Text)) :
    onlyLast values = values ↔ ∀ value ∈ values.dropLast, value = none := by
  induction values using onlyLast.induct with
  | case1 => exact iff_of_true rfl fun value hvalue => absurd hvalue List.not_mem_nil
  | case2 value => exact iff_of_true rfl fun value hvalue => absurd hvalue List.not_mem_nil
  | case3 first value values ih =>
    rw [onlyLast, List.cons_eq_cons, ih, List.dropLast_cons_cons, List.forall_mem_cons]
    exact and_congr_left fun _ => eq_comm

/-- A run over the rows: what was read at each of them is cleared by the next. -/
theorem Ready.eachValue {column : ℕ} (h : Ready rs column) {values : List (Option Text)}
    {rows : List (List (Option DBObject))}
    (hrows : List.Forall₂ (IsRow rs.values.length column) values rows) :
    Ready (rs.eachValue column rows).2 column ∧
      (rows ≠ [] → IsNull (rs.eachValue column rows).2.store (rs.slot column)) ∧
      (rs.eachValue column rows).1.map (denotes (rs.eachValue column rows).2.store) =
        onlyLast values ∧
      ∀ ref ∈ (rs.eachValue column rows).1, IsNull (rs.eachValue column rows).2.store ref ∨
        ref = (rs.eachValue column rows).2.slot column := by
  induction rows generalizing rs values with
  | nil =>
    cases hrows
    exact ⟨h, absurd rfl, rfl, fun ref href => absurd href List.not_mem_nil⟩
  | cons cells rows ih =>
    cases hrows with
    | @cons value _ values _ hcells hrows =>
      obtain ⟨hready, hlength, hold, hdenotes⟩ := h.next hcells
      set rs' := (rs.fillRow cells).rowRecord with hrs'
      obtain ⟨hlast, hnull, hmap, hrefs⟩ := ih hready (hlength.symm ▸ hrows)
      have hrun : rs.eachValue column (cells :: rows) =
          (rs'.slot column :: (rs'.eachValue column rows).1, (rs'.eachValue column rows).2) := by
        rw [TQueryResultSet.eachValue, ← hready.field_eq]
      rw [hrun]
      refine ⟨hlast, fun _ => (eachValue_keeps rs' column rows).isNull hold, ?_, ?_⟩
      · rw [List.map_cons, hmap]
        cases hrows with
        | nil => rw [TQueryResultSet.eachValue, hdenotes]; rfl
        | cons hcells' hrows' =>
          rw [(hnull (List.cons_ne_nil _ _)).denotes]
          rfl
      · refine List.forall_mem_cons.mpr ⟨?_, hrefs⟩
        cases rows with
        | nil => exact .inr rfl
        | cons cells' rows => exact .inl (hnull (List.cons_ne_nil _ _))

theorem foldl_clearRef_keeps (refs : List (Option Ref)) (store : List DBObject) :
    KeepsNulls store (refs.foldl clearRef store) := by
  induction refs generalizing store with
  | nil => exact KeepsNulls.refl store
  | cons ref refs ih => exact (clearRef_keeps store ref).trans (ih (clearRef store ref))

theorem foldl_clearRef_null {refs : List (Option Ref)} {store : List DBObject} {r : Ref}
    (hr : some r ∈ refs) (h : ∃ isNull text, store[r]? = some (.string isNull text)) :
    IsNull (refs.foldl clearRef store) (some r) := by
  induction refs generalizing store with
  | nil => cases hr
  | cons ref refs ih =>
    obtain ⟨isNull, text, ho⟩ := h
    by_cases hsame : ref = some r
    · subst hsame
      refine (foldl_clearRef_keeps refs _).isNull fun r' hr' => ?_
      cases hr'
      exact ⟨.string true [], by rw [getElem?_clearRef_self, ho]; rfl, rfl⟩
    · have hrest : some r ∈ refs := (List.mem_cons.mp hr).resolve_left (Ne.symm hsame)
      exact ih hrest ⟨isNull, text, by rw [getElem?_clearRef hsame, ho]⟩

/-- Whoever clears the values of the result set after the rows leaves nothing of them. -/
theorem Ready.clearBindValues {column : ℕ} (h : Ready rs column) :
    IsNull rs.clearBindValues.store (rs.slot column) := by
  intro r hr
  have hslot : rs.slot column = some r := hr
  have hlt := h.exists_object column r hslot
  obtain ⟨isNull, text, ho⟩ := h.text rs.store[r] (by
    rw [object, hslot, Option.bind_some, List.getElem?_eq_getElem hlt]
    rfl)
  have hvalue : rs.values[column]? = some (some r) := Option.join_eq_some_iff.mp hr
  exact foldl_clearRef_null (List.mem_of_getElem? hvalue)
    ⟨isNull, text, by rw [List.getElem?_eq_getElem hlt, ho]⟩ r rfl

theorem clearBindValues_keeps (rs : TQueryResultSet) :
    KeepsNulls rs.store rs.clearBindValues.store :=
  foldl_clearRef_keeps rs.values rs.store

/-! ### Reading a column to its end -/

variable {count column : ℕ} (hcolumn : column < count) {values : List (Option Text)}
  {rows : List (List (Option DBObject))}
  (hrows : List.Forall₂ (IsRow count column) values rows)
include hcolumn hrows

omit hcolumn in
theorem created_rows :
    List.Forall₂ (IsRow (created count).values.length column) values rows := by
  rw [show (created count).values.length = count from List.length_replicate]
  exact hrows

/-- Only what the last row had is left. -/
theorem eachValue_denotes :
    ((created count).eachValue column rows).1.map
      (denotes ((created count).eachValue column rows).2.store) = onlyLast values :=
  ((ready_created hcolumn).eachValue (created_rows hrows)).2.2.1

/-- Nothing is left after the values were cleared, whatever is done with them then. -/
theorem eachValue_cleared {store : List DBObject}
    (hkeeps : KeepsNulls ((created count).eachValue column rows).2.clearBindValues.store store) :
    ((created count).eachValue column rows).1.map (denotes store) = values.map fun _ => none := by
  obtain ⟨hready, -, hmap, hrefs⟩ :=
    (ready_created hcolumn).eachValue (created_rows hrows)
  have hnull : ∀ ref ∈ ((created count).eachValue column rows).1, denotes store ref = none := by
    intro ref href
    refine (hkeeps.isNull ?_).denotes
    rcases hrefs ref href with hnull | rfl
    · exact (clearBindValues_keeps _).isNull hnull
    · exact hready.clearBindValues
  have hlength : ((created count).eachValue column rows).1.length = values.length := by
    rw [← List.length_map (f := denotes _), hmap]
    exact length_onlyLast values
  refine List.ext_getElem (by simpa using hlength) fun k hk hk' => ?_
  rw [List.getElem_map, List.getElem_map]
  exact hnull _ (List.getElem_mem _)

end TQueryResultSet

end DatabaseMod.ResultObjects
