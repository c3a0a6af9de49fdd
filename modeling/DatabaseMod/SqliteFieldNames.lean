import DatabaseMod.SqliteDriver

/-!
# Fields by name and by index

A record keeps its fields in an array and in a map from their names, filled together while
the record is made. The array is searched from its start; the map keeps the field that was
put in last. The two find one field exactly when no two columns have the name.
-/

namespace DatabaseMod.SqliteFieldNames
open CoreValues CoreResultSet SqlEngine SqliteDriver
open SqlTokens (Text)

/-! ### The record -/

/-- A field object: which one it is, with its name and type. Its value is kept apart, as it
is set for each row. -/
structure FieldObject where
  ref : ℕ
  field : TQueryField
deriving DecidableEq, Repr

/-- A record among the field objects made so far. An absent array is an empty one, and the map
is absent with it. -/
structure RecordObjects where
  made : ℕ
  values : ℕ → Option TDBType
  fields : List (Option FieldObject)
  fieldsMap : Option (Text → Option FieldObject)
  isEmpty : Bool
  isEmptySet : Bool
  mapped : fieldsMap = none ↔ fields = []

namespace RecordObjects

def create (made : ℕ) (values : ℕ → Option TDBType) : RecordObjects :=
  ⟨made, values, [], none, true, false, ⟨fun _ => rfl, fun _ => rfl⟩⟩

variable (s : RecordObjects)

/-- `TQueryField.clear` on every field there is. -/
def clearValues : ℕ → Option TDBType :=
  s.fields.foldl (fun values f => f.elim values fun f => Function.update values f.ref none)
    s.values

def clear : RecordObjects :=
  { s with
    values := s.clearValues
    fields := []
    fieldsMap := if s.fields = [] then s.fieldsMap else none
    isEmpty := true
    isEmptySet := true
    mapped := by simpa using s.mapped.mpr }

/-- The driver makes no record for a statement without columns. -/
def init (size : ℕ) (hsize : size ≠ 0) : RecordObjects :=
  { s with
    values := s.clearValues
    fields := List.replicate size none
    fieldsMap := some fun _ => none
    isEmpty := false
    isEmptySet := false
    mapped := by simp [hsize] }

/-- Nothing, where the index is outside the array. -/
def setField (index : ℕ) (theField : FieldObject) : Option RecordObjects :=
  if s.fields = [] then some s
  else if index < s.fields.length then
    some { s with
      fields := s.fields.set index (some theField)
      fieldsMap := s.fieldsMap.map fun map =>
        Function.update map theField.field.name (some theField)
      mapped := by simpa using s.mapped }
  else none

/-- A new field object, without a value. -/
def newField : RecordObjects :=
  { s with made := s.made + 1, values := Function.update s.values s.made none }

def columnField (column : Column) : TQueryField :=
  ⟨shortName column.name, dbTypeFromNative (column.declType.getD [])⟩

def addColumn (column : Column × ℕ) : Option RecordObjects :=
  s.newField.setField column.2 ⟨s.made, columnField column.1⟩

def initRecord (columns : List Column) : Option RecordObjects :=
  if h : columns.length = 0 then some s.clear
  else columns.zipIdx.foldlM addColumn (s.clear.init columns.length h)

/-! ### Access -/

def getField (index : ℤ) : Option (Option FieldObject) :=
  if 0 ≤ index then s.fields[index.toNat]? else none

/-- Nothing, where there is no map. -/
def getFieldByName (name : Text) : Option (Option FieldObject) := s.fieldsMap.map (· name)

/-- The loop of `indexOf`. It ends without a result at an empty slot. -/
def indexFrom (name : Text) : List (Option FieldObject) → ℕ → Option ℤ
  | [], _ => some (-1)
  | none :: _, _ => none
  | some f :: fields, i =>
    if name = f.field.name then some i else indexFrom name fields (i + 1)

def indexOf (name : Text) : Option ℤ := indexFrom name s.fields 0

def value (index : ℤ) : Option (Option TDBType) :=
  if 0 ≤ index ∧ index < s.fields.length then
    (s.fields[index.toNat]?.join).map fun f => s.values f.ref
  else some none

def valueByName (name : Text) : Option (Option TDBType) :=
  (s.getFieldByName name).map fun f => f.bind fun f => s.values f.ref

/-- An accessor by index: what it reads of a value, and what it returns without one. -/
def get {α : Type} (read : TDBType → α) (absent : α) (index : ℤ) : Option α :=
  (s.value index).map fun v => (v.map read).getD absent

def getByName {α : Type} (read : TDBType → α) (absent : α) (name : Text) : Option α :=
  (s.valueByName name).map fun v => (v.map read).getD absent

variable (conv : Conversions)

def getString : ℤ → Option Text := s.get (·.getString) []
def getInt : ℤ → Option ℤ := s.get (·.getInt conv) 0
def getLong : ℤ → Option ℤ := s.get (·.getLong conv) 0
def getFloat : ℤ → Option UInt64 := s.get (·.getFloat conv) 0
def getDouble : ℤ → Option UInt64 := s.get (·.getDouble conv) 0

def getStringByName : Text → Option Text := s.getByName (·.getString) []
def getIntByName : Text → Option ℤ := s.getByName (·.getInt conv) 0
def getLongByName : Text → Option ℤ := s.getByName (·.getLong conv) 0
def getFloatByName : Text → Option UInt64 := s.getByName (·.getFloat conv) 0

/-- Declared to return a string, unlike `getDouble`: the double is converted to its text. -/
def getDoubleByName (doubleText : UInt64 → Text) : Text → Option Text :=
  s.getByName (fun v => doubleText (v.getDouble conv)) []

/-! ### The filling of a record -/

/-- The field with a name that was put in last. -/
def lastNamed (l : List FieldObject) (name : Text) : Option FieldObject :=
  l.reverse.find? (·.field.name = name)

/-- Some columns are in the record, and there are slots for the others. -/
structure Filling (base : ℕ) (s : RecordObjects) (done : List FieldObject) (todo : ℕ) :
    Prop where
  made_eq : s.made = base + done.length
  fields_eq : s.fields = done.map some ++ List.replicate todo none
  fieldsMap_eq : s.fieldsMap = some (lastNamed done)
  isEmpty_eq : s.isEmpty = false

def fieldObjects (base : ℕ) (columns : List (Column × ℕ)) : List FieldObject :=
  columns.map fun column => ⟨base + column.2, columnField column.1⟩

variable {s}

theorem lastNamed_concat (l : List FieldObject) (f : FieldObject) :
    Function.update (lastNamed l) f.field.name (some f) = lastNamed (l ++ [f]) := by
  funext name
  unfold lastNamed
  rw [List.reverse_concat, List.find?_cons]
  by_cases h : f.field.name = name
  · rw [← h, Function.update_self]
    simp
  · rw [Function.update_of_ne (Ne.symm h)]
    simp [h]

theorem Filling.addColumn {base todo : ℕ} {done : List FieldObject}
    (h : Filling base s done (todo + 1)) (column : Column) :
    ∃ t, s.addColumn (column, done.length) = some t ∧
      Filling base t (done ++ [⟨base + done.length, columnField column⟩]) todo := by
  have hlen : done.length < s.newField.fields.length := by
    change _ < s.fields.length
    rw [h.fields_eq]
    simp
  have hne : s.newField.fields ≠ [] := List.ne_nil_of_length_pos (Nat.zero_lt_of_lt hlen)
  unfold RecordObjects.addColumn setField
  rw [if_neg hne, if_pos hlen]
  refine ⟨_, rfl, ?_⟩
  constructor
  · change s.made + 1 = _
    rw [h.made_eq, List.length_append]
    rfl
  · change s.fields.set _ _ = _
    rw [h.fields_eq, h.made_eq, List.replicate_succ]
    simp
  · change s.fieldsMap.map _ = _
    rw [h.fieldsMap_eq, h.made_eq, Option.map_some, lastNamed_concat]
  · exact h.isEmpty_eq

theorem Filling.addColumns {base : ℕ} (columns : List Column) {done : List FieldObject}
    (h : Filling base s done columns.length) :
    ∃ t, (columns.zipIdx done.length).foldlM RecordObjects.addColumn s = some t ∧
      Filling base t (done ++ fieldObjects base (columns.zipIdx done.length)) 0 := by
  induction columns generalizing s done with
  | nil => exact ⟨s, rfl, by simpa [fieldObjects] using h⟩
  | cons column columns ih =>
    obtain ⟨t, hstep, ht⟩ := h.addColumn column
    obtain ⟨r, hrun, hr⟩ := ih ht
    rw [List.length_append] at hrun hr
    refine ⟨r, ?_, ?_⟩
    · rw [List.zipIdx_cons, List.foldlM_cons, hstep]
      exact hrun
    · simpa [fieldObjects, List.zipIdx_cons] using hr

theorem initRecord_filling (s : RecordObjects) {columns : List Column} (h : columns ≠ []) :
    ∃ t, s.initRecord columns = some t ∧
      Filling s.made t (fieldObjects s.made columns.zipIdx) 0 := by
  have hlen : columns.length ≠ 0 := fun hlen => h (List.length_eq_zero_iff.mp hlen)
  have hstart : Filling s.made (s.clear.init columns.length hlen) [] columns.length :=
    ⟨rfl, rfl, rfl, rfl⟩
  rw [initRecord, dif_neg hlen]
  exact hstart.addColumns columns

/-- The fields are those of the record without objects. -/
theorem initRecord_fields (s : RecordObjects) (columns : List Column) :
    ∃ t, s.initRecord columns = some t ∧
      t.fields.map (Option.map (·.field)) =
        (SqliteDriver.initRecord columns).fields.map some ∧
      t.isEmpty = (SqliteDriver.initRecord columns).isEmpty := by
  by_cases h : columns = []
  · rw [h]
    exact ⟨s.clear, rfl, rfl, rfl⟩
  · obtain ⟨t, hrun, ht⟩ := initRecord_filling s h
    rw [SqliteDriver.initRecord, if_neg (fun hlen => h (List.length_eq_zero_iff.mp hlen))]
    refine ⟨t, hrun, ?_, ht.isEmpty_eq⟩
    have hfields : t.fields = (fieldObjects s.made columns.zipIdx).map some := by
      simpa using ht.fields_eq
    conv_rhs => rw [← List.zipIdx_map_fst 0 columns]
    rw [hfields, fieldObjects, List.map_map, List.map_map, List.map_map, List.map_map]
    rfl

/-! ### The fields found -/

theorem indexFrom_eq (name : Text) (l : List FieldObject) (k : ℕ) :
    indexFrom name (l.map some) k =
      some ((l.findIdx? (·.field.name = name)).elim (-1) fun i => ((i + k : ℕ) : ℤ)) := by
  induction l generalizing k with
  | nil => rfl
  | cons f l ih =>
    rw [List.map_cons, indexFrom, List.findIdx?_cons]
    by_cases h : name = f.field.name
    · simp [h]
    · rw [if_neg h, ih]
      cases hidx : l.findIdx? (·.field.name = name) with
      | none => simp [Ne.symm h]
      | some i =>
        simp [Ne.symm h]
        omega

/-- Among different objects, the first and the last one that satisfy a condition. -/
theorem find?_reverse_eq_iff {α : Type} {l : List α} (h : l.Nodup) (p : α → Bool) :
    l.reverse.find? p = l.find? p ↔ l.countP p ≤ 1 := by
  rw [← List.getLast?_filter, ← List.head?_filter, List.countP_eq_length_filter]
  have hnodup : (l.filter p).Nodup := h.filter p
  rcases hfilter : l.filter p with _ | ⟨a, _ | ⟨b, m⟩⟩
  · simp
  · simp
  · rw [hfilter] at hnodup
    have hmany : ¬ (a :: b :: m).length ≤ 1 := by simp
    rw [iff_false_right hmany, List.getLast?_cons_cons, List.head?_cons]
    intro hlast
    exact (List.nodup_cons.mp hnodup).1 (List.mem_of_getLast? hlast)

theorem eq_of_countP_le_one {α : Type} {l : List α} {p : α → Bool} (h : l.countP p ≤ 1)
    {a b : α} (ha : a ∈ l) (hpa : p a) (hb : b ∈ l) (hpb : p b) : a = b := by
  rw [List.countP_eq_length_filter] at h
  have hafilter : a ∈ l.filter p := List.mem_filter.mpr ⟨ha, hpa⟩
  have hbfilter : b ∈ l.filter p := List.mem_filter.mpr ⟨hb, hpb⟩
  rcases hfilter : l.filter p with _ | ⟨c, _ | ⟨d, m⟩⟩
  · simp [hfilter] at hafilter
  · rw [hfilter, List.mem_singleton] at hafilter hbfilter
    rw [hafilter, hbfilter]
  · rw [hfilter] at h
    simp at h

theorem fieldObjects_nodup (base : ℕ) (columns : List Column) (k : ℕ) :
    (fieldObjects base (columns.zipIdx k)).Nodup := by
  refine List.Nodup.of_map FieldObject.ref ?_
  have hrefs : (fieldObjects base (columns.zipIdx k)).map FieldObject.ref =
      (List.range' k columns.length).map (base + ·) := by
    rw [← List.zipIdx_map_snd k columns, fieldObjects, List.map_map, List.map_map]
    rfl
  rw [hrefs]
  exact List.Nodup.map (add_right_injective base) (List.nodup_range' ..)

theorem fieldObjects_count (base : ℕ) (columns : List Column) (k : ℕ) (name : Text) :
    (fieldObjects base (columns.zipIdx k)).countP (·.field.name = name) =
      (columns.map fun column => shortName column.name).count name := by
  have hnames : (fieldObjects base (columns.zipIdx k)).map (·.field.name) =
      columns.map fun column => shortName column.name := by
    conv_rhs => rw [← List.zipIdx_map_fst k columns]
    rw [fieldObjects, List.map_map, List.map_map]
    rfl
  rw [← hnames, List.count, List.countP_map]
  exact List.countP_congr fun f _ => by simp

/-! ### Names and indices -/

/-- The accessors by name return what those by index do. The string of `getDoubleByName` is
compared with the text of what `getDouble` returns, as a comparison of the two does it. -/
structure SameReads (s : RecordObjects) (conv : Conversions) (doubleText : UInt64 → Text)
    (name : Text) (index : ℤ) : Prop where
  string_eq : s.getStringByName name = s.getString index
  int_eq : s.getIntByName conv name = s.getInt conv index
  long_eq : s.getLongByName conv name = s.getLong conv index
  float_eq : s.getFloatByName conv name = s.getFloat conv index
  double_eq : s.getDoubleByName conv doubleText name =
    (s.getDouble conv index).map doubleText

/-- The record with the values of a row in its fields. -/
def withValues (s : RecordObjects) (values : ℕ → Option TDBType) : RecordObjects :=
  { s with values := values }

/-- An index is found if and only if a field is, and then it is the index of that field, and
the accessors read the same of the row. -/
def NamesAgree (s : RecordObjects) (conv : Conversions) (doubleText : UInt64 → Text)
    (name : Text) : Prop :=
  ∃ i f, s.indexOf name = some i ∧ s.getFieldByName name = some f ∧ (0 ≤ i ↔ f ≠ none) ∧
    (0 ≤ i → s.getField i = some f ∧ s.SameReads conv doubleText name i)

section

variable {conv : Conversions} {doubleText : UInt64 → Text} {name : Text}

/-- Without a value, `getDouble` returns zero and `getDoubleByName` the empty string. -/
theorem sameReads_iff (htext : doubleText 0 ≠ []) {index : ℤ} {v : Option TDBType}
    (hname : s.valueByName name = some v) (hindex : s.value index = some v) :
    s.SameReads conv doubleText name index ↔ v ≠ none := by
  have hget {α : Type} (read : TDBType → α) (absent : α) :
      s.getByName read absent name = s.get read absent index := by
    rw [getByName, get, hname, hindex]
  constructor
  · rintro ⟨-, -, -, -, hdouble⟩ rfl
    rw [getDoubleByName, getByName, getDouble, get, hname, hindex] at hdouble
    exact htext (Option.some.inj hdouble).symm
  · intro hv
    obtain ⟨w, rfl⟩ := Option.ne_none_iff_exists'.mp hv
    refine ⟨hget _ _, hget _ _, hget _ _, hget _ _, ?_⟩
    rw [getDoubleByName, getByName, getDouble, get, hname, hindex]
    rfl

end

section

variable {base : ℕ} {l : List FieldObject}

theorem Filling.indexOf_eq (h : Filling base s l 0) (name : Text) :
    s.indexOf name =
      some ((l.findIdx? (·.field.name = name)).elim (-1) fun i => (i : ℤ)) := by
  have hfields : s.fields = l.map some := by simpa using h.fields_eq
  rw [indexOf, hfields, indexFrom_eq]
  rfl

theorem Filling.getFieldByName_eq (h : Filling base s l 0) (name : Text) :
    s.getFieldByName name = some (lastNamed l name) := by
  rw [getFieldByName, h.fieldsMap_eq]
  rfl

theorem Filling.getField_eq (h : Filling base s l 0) {i : ℕ} {f : FieldObject}
    (hget : l[i]? = some f) : s.getField i = some (some f) := by
  have hfields : s.fields = l.map some := by simpa using h.fields_eq
  rw [getField, if_pos (Int.natCast_nonneg i), hfields]
  simp [hget]

theorem Filling.value_eq (h : Filling base s l 0) {i : ℕ} {f : FieldObject}
    (hget : l[i]? = some f) : s.value i = some (s.values f.ref) := by
  have hfields : s.fields = l.map some := by simpa using h.fields_eq
  have hlt : i < l.length := (List.getElem?_eq_some_iff.mp hget).1
  rw [value, hfields, List.length_map, if_pos ⟨Int.natCast_nonneg i, Int.ofNat_lt.mpr hlt⟩]
  simp [hget]

theorem Filling.withValues (h : Filling base s l 0) (values : ℕ → Option TDBType) :
    Filling base (s.withValues values) l 0 :=
  ⟨h.made_eq, h.fields_eq, h.fieldsMap_eq, h.isEmpty_eq⟩

/-- By name, the field put in last; by index, the first. A double is the same only where the
field has a value. -/
theorem Filling.namesAgree_iff (h : Filling base s l 0) (hl : l.Nodup) (conv : Conversions)
    {doubleText : UInt64 → Text} (htext : doubleText 0 ≠ []) (name : Text) :
    s.NamesAgree conv doubleText name ↔ l.countP (·.field.name = name) ≤ 1 ∧
      ∀ f ∈ l, f.field.name = name → s.values f.ref ≠ none := by
  have hfind := @List.find?_eq_bind_findIdx?_getElem? _ l fun f => f.field.name = name
  rw [← find?_reverse_eq_iff hl, hfind]
  change _ ↔ lastNamed l name = _ ∧ _
  unfold NamesAgree
  rw [h.indexOf_eq, h.getFieldByName_eq]
  cases hidx : l.findIdx? (·.field.name = name) with
  | none =>
    have hother (f : FieldObject) (hf : f ∈ l) : f.field.name ≠ name := by
      have hno := List.findIdx?_eq_none_iff.mp hidx f hf
      simpa using hno
    have habsent : lastNamed l name = none := by
      rw [lastNamed, List.find?_eq_none]
      intro f hf
      simpa using hother f (List.mem_reverse.mp hf)
    have hvalues (f : FieldObject) (hf : f ∈ l) (hname : f.field.name = name) :
        s.values f.ref ≠ none := absurd hname (hother f hf)
    simpa [habsent] using hvalues
  | some i =>
    obtain ⟨hlt, hnamed, -⟩ := List.findIdx?_eq_some_iff_getElem.mp hidx
    have hget : l[i]? = some l[i] := List.getElem?_eq_getElem hlt
    have hmem : l[i] ∈ l := List.getElem_mem hlt
    have hreads (hlast : lastNamed l name = some l[i]) :
        s.SameReads conv doubleText name i ↔ s.values l[i].ref ≠ none := by
      refine sameReads_iff htext ?_ (h.value_eq hget)
      rw [valueByName, h.getFieldByName_eq, hlast]
      rfl
    rw [Option.bind_some, hget]
    constructor
    · rintro ⟨j, f, hj, hf, -, hsame⟩
      obtain rfl : (i : ℤ) = j := Option.some.inj hj
      obtain ⟨hfield, hread⟩ := hsame (Int.natCast_nonneg i)
      rw [h.getField_eq hget] at hfield
      have hlast : lastNamed l name = some l[i] :=
        (Option.some.inj hf).trans (Option.some.inj hfield).symm
      refine ⟨hlast, fun g hg hname => ?_⟩
      -- the field found from the end is the only one of the name
      have hone := (find?_reverse_eq_iff hl fun f => f.field.name = name).mp
        (by rw [hfind, hidx, Option.bind_some, hget]; exact hlast)
      have hsingle : g = l[i] := eq_of_countP_le_one hone hg (by simpa using hname) hmem hnamed
      exact hsingle ▸ (hreads hlast).mp hread
    · rintro ⟨hlast, hvalues⟩
      have hread := (hreads hlast).mpr (hvalues _ hmem (by simpa using hnamed))
      exact ⟨i, some l[i], rfl, congrArg some hlast, by simp,
        fun _ => ⟨h.getField_eq hget, hread⟩⟩

end

/-- The fields of a name have a value in the row: the field of column `i` is the `i`-th that
was made. -/
theorem fieldObjects_values (base : ℕ) (columns : List Column) (values : ℕ → Option TDBType)
    (name : Text) :
    (∀ f ∈ fieldObjects base columns.zipIdx, f.field.name = name → values f.ref ≠ none) ↔
      ∀ i column, columns[i]? = some column → shortName column.name = name →
        values (base + i) ≠ none := by
  have hmem (f : FieldObject) : f ∈ fieldObjects base columns.zipIdx ↔
      ∃ i column, columns[i]? = some column ∧ f = ⟨base + i, columnField column⟩ := by
    unfold fieldObjects
    rw [List.mem_map]
    constructor
    · rintro ⟨⟨column, i⟩, hcolumn, rfl⟩
      exact ⟨i, column, List.mk_mem_zipIdx_iff_getElem?.mp hcolumn, rfl⟩
    · rintro ⟨i, column, hcolumn, rfl⟩
      exact ⟨(column, i), List.mk_mem_zipIdx_iff_getElem?.mpr hcolumn, rfl⟩
  constructor
  · intro h i column hcolumn hname
    exact h ⟨base + i, columnField column⟩ ((hmem _).mpr ⟨i, column, hcolumn, rfl⟩) hname
  · intro h f hf hname
    obtain ⟨i, column, hcolumn, rfl⟩ := (hmem f).mp hf
    exact h i column hcolumn hname

/-- Whatever the record was, whichever columns it is made for, and whatever the row is. -/
theorem names_agree_iff (s : RecordObjects) (conv : Conversions) (doubleText : UInt64 → Text)
    (htext : doubleText 0 ≠ []) (columns : List Column) (name : Text)
    (values : ℕ → Option TDBType) :
    (∃ t, s.initRecord columns = some t ∧
        (t.withValues values).NamesAgree conv doubleText name) ↔
      columns ≠ [] ∧ (columns.map fun column => shortName column.name).count name ≤ 1 ∧
        ∀ i column, columns[i]? = some column → shortName column.name = name →
          values (s.made + i) ≠ none := by
  by_cases hcolumns : columns = []
  · have hmap : s.clear.fieldsMap = none := s.clear.mapped.mpr rfl
    rw [hcolumns]
    simp [initRecord, NamesAgree, getFieldByName, withValues, hmap]
  · obtain ⟨t, hrun, ht⟩ := initRecord_filling s hcolumns
    have hiff := (ht.withValues values).namesAgree_iff (fieldObjects_nodup s.made columns 0)
      conv htext name
    rw [fieldObjects_count] at hiff
    have hvalues := fieldObjects_values s.made columns values name
    rw [hrun]
    simp only [Option.some.injEq, exists_eq_left', hiff, hcolumns, ne_eq, not_false_eq_true,
      true_and]
    exact and_congr_right fun _ => hvalues

/-- A row with the double zero in the one column that has the name. -/
theorem names_agree_double :
    ∃ t, (create 0 fun _ => none).initRecord [⟨"a.price".toList, none⟩] = some t ∧
      (t.withValues fun _ => some (.setDouble 0)).NamesAgree .integers
        (fun _ => "0.00000000000000000".toList) "price".toList :=
  (names_agree_iff (create 0 fun _ => none) .integers (fun _ => "0.00000000000000000".toList)
    (by decide) [⟨"a.price".toList, none⟩] "price".toList fun _ => some (.setDouble 0)).mpr
    ⟨by decide, by decide, fun _ _ _ _ => by simp⟩

/-- Two columns that have one name once the part before the dot is taken off: the index is
that of the first, and the field that of the second. -/
theorem qualified_names_differ :
    ∃ t, (create 0 fun _ => none).initRecord
        [⟨"a.id".toList, none⟩, ⟨"b.id".toList, none⟩] = some t ∧
      t.indexOf "id".toList = some 0 ∧
      (t.getField 0).map (·.map (·.ref)) = some (some 0) ∧
      (t.getFieldByName "id".toList).map (·.map (·.ref)) = some (some 1) ∧
      ∀ conv doubleText values,
        ¬ (t.withValues values).NamesAgree conv doubleText "id".toList := by
  refine ⟨_, rfl, by decide, by decide, by decide, ?_⟩
  rintro conv doubleText values ⟨i, f, hi, hf, -, hsame⟩
  obtain rfl : (0 : ℤ) = i := Option.some.inj hi
  have hfield := (hsame le_rfl).1
  rw [← hf] at hfield
  have href : some (some 0) = some (some 1) := congrArg (·.map (·.map (·.ref))) hfield
  exact absurd href (by decide)

end RecordObjects

end DatabaseMod.SqliteFieldNames
