import DatabaseMod.CoreValues
import DatabaseMod.CoreDefaultTexts
import DatabaseMod.CoreTemporalObjects

/-!
# Value objects and `clear`

The objects of the value classes with all their fields and setters. A getter that
dereferences `Null` has no result. What `clear` leaves behind is compared with a new object.
-/

namespace DatabaseMod.CoreValueObjects
open MachineInteger CoreTemporal CoreFormat CoreTemporalObjects LoopRules
open CoreDateTypes (TDBDateTime)
open CoreValues (IntegerKind TemporalKind Conversions TDBType Content)
open SqlTokens (Text)

/-! ### Objects -/

/-- A decimal may be `Null`, and so may the pointer of a blob. -/
inductive DBObject where
  | string (isNull : Bool) (value : Text)
  | integer (kind : IntegerKind) (isNull : Bool) (value : ℤ)
  | float (isNull : Bool) (bits : UInt64)
  | double (isNull : Bool) (bits : UInt64)
  | decimal (isNull : Bool) (value : Option Text)
  | blob (isNull : Bool) (value : Option (List UInt8)) (size : ℤ) (owner : Bool)
  | date (t : TDBDate)
  | dateTime (t : TDBDateTime)
  | time (t : TDBTime)
deriving DecidableEq

inductive ValueClass where
  | string
  | integer (kind : IntegerKind)
  | float
  | double
  | decimal
  | blob
  | date
  | dateTime
  | time
deriving DecidableEq

section

variable (conv : Conversions) (c : Strftime)

def ValueClass.new : ValueClass → DBObject
  | .string => .string true []
  | .integer kind => .integer kind true 0
  | .float => .float true 0
  | .double => .double true 0
  | .decimal => .decimal true (some (conv.decimalOfInt 0))
  | .blob => .blob true none 0 false
  | .date => .date {}
  | .dateTime => .dateTime {}
  | .time => .time {}

namespace DBObject

def valueClass : DBObject → ValueClass
  | string _ _ => .string
  | integer kind _ _ => .integer kind
  | float _ _ => .float
  | double _ _ => .double
  | decimal _ _ => .decimal
  | blob _ _ _ _ => .blob
  | date _ => .date
  | dateTime _ => .dateTime
  | time _ => .time

def isNull : DBObject → Bool
  | string isNull _ | integer _ isNull _ | float isNull _ | double isNull _ => isNull
  | decimal isNull _ | blob isNull _ _ _ => isNull
  | date t => t.isNull
  | dateTime t => t.isNull
  | time t => t.isNull

/-- A blob without data is left as it is, and the size always. -/
def clear : DBObject → DBObject
  | string _ _ => .string true []
  | integer kind _ _ => .integer kind true 0
  | float _ _ => .float true 0
  | double _ _ => .double true 0
  | decimal _ _ => .decimal true none
  | blob isNull value size owner =>
    if value.isSome then .blob true none size owner else .blob isNull value size owner
  | date t => .date t.clear
  | dateTime t => .dateTime t.clear
  | time t => .time t.clear

end DBObject

/-! ### Setters -/

inductive Call where
  | setString (v : Text) (isNull : Bool)
  | setByte (v : ℤ)
  | setShort (v : ℤ)
  | setInt (v : ℤ)
  | setUInt (v : ℤ)
  | setLong (v : ℤ)
  | setULong (v : ℤ)
  | setDouble (bits : UInt64)
  | setFloat (bits : UInt64)
  | setDecimal (v : Option Text)
  | setBlob (v : Option (List UInt8)) (s : ℤ) (copy : Bool)
  | date (c : DateCall)
  | dateTime (c : DateTimeCall)
  | time (c : TimeCall)
  | clear

/-- The setters of `TDBByte`, `TDBBool` and `TDBShort`, which convert to the class. -/
def narrowValue (cast : ℤ → ℤ) : Call → Option ℤ
  | .setByte v | .setShort v | .setInt v | .setUInt v | .setULong v => some (cast v)
  | .setDecimal v => v.map fun d => cast (conv.decimalToInt d)
  | _ => none

/-- What a setter of an integer class stores. -/
def integerValue : IntegerKind → Call → Option ℤ
  | .byte, call => narrowValue conv (castUnsigned 8) call
  | .bool, call => narrowValue conv castInt32 call
  | .short, call => narrowValue conv (castUnsigned 16) call
  | .int, .setInt v => some v
  | .uint, .setUInt v => some v
  | .long, .setLong v => some v
  | .ulong, .setULong v => some v
  | _, _ => none

def setDecimalValue (isNull : Bool) (value : Option Text) : Call → DBObject
  | .setDecimal (some v) => .decimal false (some v)
  | .setDecimal none => .decimal true value
  | .setString v null =>
    if v = [] ∧ null = true then .decimal true none else .decimal false (some (conv.decimalOfText v))
  | .setInt v | .setLong v => .decimal false (some (conv.decimalOfInt v))
  | _ => .decimal isNull value

/-- `none` where more is copied than `v` points to. A blob that once owned its data keeps
the mark. -/
def setBlobValue (v : Option (List UInt8)) (s : ℤ) (copy owner : Bool) : Option DBObject :=
  if copy = true ∧ 0 < s then
    v.bind fun bytes =>
      if s ≤ bytes.length then some (.blob false (some (bytes.take s.toNat)) s true) else none
  else some (.blob false v s owner)

/-- A setter of another class changes nothing. -/
def DBObject.call (o : DBObject) (call : Call) : Option DBObject :=
  match call, o with
  | .clear, o => some o.clear
  | .setString v null, .string _ _ =>
    some (if v = [] ∧ null = true then .string true [] else .string false v)
  | .setDouble bits, .double _ _ => some (.double false bits)
  | .setFloat bits, .float _ _ => some (.float false bits)
  | .setBlob v s copy, .blob _ _ _ owner => setBlobValue v s copy owner
  | .date c, .date t => (c.apply t).map .date
  | .dateTime c, .dateTime t => (c.apply t).map .dateTime
  | .time c, .time t => (c.apply t).map .time
  | call, .integer kind isNull value =>
    some (((integerValue conv kind call).map (.integer kind false)).getD (.integer kind isNull value))
  | call, .decimal isNull value => some (setDecimalValue conv isNull value call)
  | _, o => some o

def run (o : DBObject) (calls : List Call) : Option DBObject := calls.foldlM (DBObject.call conv) o

/-! ### Getters -/

/-- The shared shape of the integer getters. -/
def DBObject.number (cast : ℤ → ℤ) (ofText ofDecimal : Text → ℤ) : DBObject → Option ℤ
  | .integer _ _ value => some (cast value)
  | .string _ value => some (ofText value)
  | .decimal _ value => value.map ofDecimal
  | _ => some 0

/-- The results of all getters of an object. -/
structure Readings where
  byte : Option ℤ
  short : Option ℤ
  int : Option ℤ
  uint : Option ℤ
  long : Option ℤ
  ulong : Option ℤ
  double : UInt64
  float : UInt64
  text : Option Text
  date : ℤ
  blob : Option (List UInt8)
  decimal : Option Text
  size : ℤ
  parts : List ℤ
deriving DecidableEq

def getDouble : DBObject → UInt64
  | .double _ bits => bits
  | .float _ bits => bits
  | .string _ value => conv.toDouble value
  | _ => 0

def getFloat : DBObject → UInt64
  | .float _ bits => bits
  | .double _ bits => conv.doubleToFloat bits
  | .string _ value => conv.toFloat value
  | _ => 0

def getString : DBObject → Option Text
  | .string _ value => some value
  | .date t => TDBDate.format c t
  | .dateTime t => TDBDateTime.format c t
  | .time t => TDBTime.format c t
  | _ => some []

def getDate : DBObject → ℤ
  | .date t => t.value
  | .dateTime t => t.getDate
  | .time t => t.value
  | _ => 0

def getBlob : DBObject → Option (List UInt8)
  | .blob _ value _ _ => value
  | _ => none

def getDecimal : DBObject → Option Text
  | .decimal _ value => value
  | .string _ value => some (conv.decimalOfText value)
  | .integer _ _ value => some (conv.decimalOfInt value)
  | _ => some (conv.decimalOfInt 0)

/-- Only texts and blobs have a size. -/
def getSize : DBObject → ℤ
  | .string _ value => value.length
  | .blob _ _ size _ => size
  | _ => 0

/-- From the year to the microsecond, as far as the class has them. -/
def getParts : DBObject → List ℤ
  | .date t => [t.year, t.month, t.day]
  | .dateTime t => [t.year, t.month, t.day, t.hour, t.minute, t.second, t.microsecond]
  | .time t => [t.hour, t.minute, t.second, t.microsecond]
  | _ => []

def readings (o : DBObject) : Readings where
  byte := o.number (castUnsigned 8) (fun s => castUnsigned 8 (conv.toInt s))
    fun s => castUnsigned 8 (conv.decimalToInt s)
  short := o.number (castUnsigned 16) (fun s => castUnsigned 16 (conv.toInt s))
    fun s => castUnsigned 16 (conv.decimalToInt s)
  int := o.number castInt32 conv.toInt conv.decimalToInt
  uint := o.number (castUnsigned 32) conv.toUInt conv.decimalToUInt
  long := o.number castInt64 conv.toLong conv.decimalToLong
  ulong := o.number (castUnsigned 64) conv.toULong conv.decimalToULong
  double := getDouble conv o
  float := getFloat conv o
  text := getString c o
  date := getDate o
  blob := getBlob o
  decimal := getDecimal conv o
  size := getSize o
  parts := getParts o

/-! ### The values of the drivers -/

def DBObject.content : DBObject → Content
  | .string _ value => .string value
  | .integer kind _ value => .integer kind value
  | .float _ bits => .float bits
  | .double _ bits => .double bits
  | .decimal _ value => .decimal value
  | .blob _ value _ _ => .blob (value.getD [])
  | .date t => .temporal .date ⟨t.year, t.month, t.day, 0, 0, 0, 0⟩ ((TDBDate.format c t).getD [])
  | .dateTime t =>
    .temporal .dateTime ⟨t.year, t.month, t.day, t.hour, t.minute, t.second, t.microsecond⟩
      ((TDBDateTime.format c t).getD [])
  | .time t =>
    .temporal .time ⟨0, 0, 0, t.hour, t.minute, t.second, t.microsecond⟩
      ((TDBTime.format c t).getD [])

def DBObject.toValue (o : DBObject) : TDBType := ⟨o.content c, o.isNull⟩

theorem midnight_text : TDBTime.format c {} = some "00:00:00".toList := by
  have hsplice : CoreFormat.spliceMicros (microText 0) timeFormat =
      CoreDateParser.formatText (timeItems ++ []) := by
    rw [timeFormat_eq, List.append_nil, spliceMicros_plain _ timeItems_plain]
  have htext := @formatDate_time 0 0 0 0 c _ _ _ (constant_nil c.padding) (by decide) hsplice
  exact htext.trans (by decide)

/-- Clearing an object clears its value, except for a pointer to nothing. -/
theorem clear_toValue {o : DBObject} (h : getBlob o ≠ some []) :
    o.clear.toValue c = (o.toValue c).clear := by
  cases o with
  | blob isNull value size owner =>
    cases value with
    | none => rfl
    | some bytes =>
      cases bytes with
      | nil => exact absurd rfl h
      | cons b bytes => rfl
  | dateTime t =>
    have htext : TDBDateTime.format c t.clear = TDBDateTime.format c t :=
      CoreDefaultTexts.dateTimeString_second c t
    unfold DBObject.clear DBObject.toValue DBObject.content
    dsimp only
    rw [htext]
    rfl
  | time t =>
    have htext : TDBTime.format c t.clear = some "00:00:00".toList := midnight_text c
    unfold DBObject.clear DBObject.toValue DBObject.content
    dsimp only
    rw [htext]
    rfl
  | _ => rfl

/-! ### What `clear` forgets -/

/-- No getter dereferences `Null`. -/
structure Readings.Complete (r : Readings) : Prop where
  byte : r.byte.isSome = true
  short : r.short.isSome = true
  int : r.int.isSome = true
  uint : r.uint.isSome = true
  long : r.long.isSome = true
  ulong : r.ulong.isSome = true
  text : r.text.isSome = true

/-- Null, and nothing to be read but what a new object of the class has. -/
structure Forgets (cls : ValueClass) (o : DBObject) : Prop where
  null : o.clear.isNull = true
  complete : (readings conv c o.clear).Complete
  readings : readings conv c o.clear = readings conv c (cls.new conv)

/-- The fields that `clear` keeps are those of a new object. -/
def Unmarked : DBObject → Prop
  | .decimal _ _ => False
  | .blob isNull value size _ => size = 0 ∧ (value.isSome = true ∨ isNull = true)
  | .date t => t.year = 1900 ∧ t.month = 1 ∧ t.day = 1
  | .dateTime t => (t.year = 1900 ∧ t.month = 1 ∧ t.day = 1) ∧ t.hour = 0 ∧ t.minute = 0 ∧ t.second = 0
  | _ => True

theorem clear_valueClass (o : DBObject) : o.clear.valueClass = o.valueClass := by
  cases o with
  | blob isNull value size owner => cases value <;> rfl
  | _ => rfl

theorem setDecimalValue_valueClass (isNull : Bool) (value : Option Text) (call : Call) :
    (setDecimalValue conv isNull value call).valueClass = .decimal := by
  unfold setDecimalValue
  split
  · rfl
  · rfl
  · split_ifs <;> rfl
  · rfl
  · rfl
  · rfl

theorem setBlobValue_valueClass {v : Option (List UInt8)} {s : ℤ} {copy owner : Bool} {o : DBObject}
    (h : setBlobValue v s copy owner = some o) : o.valueClass = .blob := by
  unfold setBlobValue at h
  split_ifs at h with hcopy
  · obtain ⟨bytes, -, hbytes⟩ := Option.bind_eq_some_iff.mp h
    split_ifs at hbytes with hlength
    cases hbytes
    rfl
  · cases h
    rfl

theorem call_valueClass {o o' : DBObject} {call : Call} (h : o.call conv call = some o') :
    o'.valueClass = o.valueClass := by
  unfold DBObject.call at h
  split at h
  · cases h
    exact clear_valueClass _
  · cases h
    split_ifs <;> rfl
  · cases h
    rfl
  · cases h
    rfl
  · exact setBlobValue_valueClass h
  · obtain ⟨t, -, rfl⟩ := Option.map_eq_some_iff.mp h
    rfl
  · obtain ⟨t, -, rfl⟩ := Option.map_eq_some_iff.mp h
    rfl
  · obtain ⟨t, -, rfl⟩ := Option.map_eq_some_iff.mp h
    rfl
  · cases h
    cases integerValue conv _ _ <;> rfl
  · cases h
    exact setDecimalValue_valueClass conv _ _ _
  · cases h
    rfl

theorem run_valueClass {cls : ValueClass} {calls : List Call} {o : DBObject}
    (h : run conv (cls.new conv) calls = some o) : o.valueClass = cls := by
  have hnew : (cls.new conv).valueClass = cls := by cases cls <;> rfl
  refine foldlM_some_invariant (f := DBObject.call conv) (I := fun o => o.valueClass = cls)
    (fun o call _ o' ho hcall => ?_) hnew h
  exact (call_valueClass conv hcall).trans ho

/-! ### Objects without a mark -/

theorem new_complete (cls : ValueClass) : (readings conv c (cls.new conv)).Complete := by
  have htext : (getString c (cls.new conv)).isSome = true := by
    cases cls with
    | date =>
      obtain ⟨text, htext⟩ := formatDate_isSome c dateFormat (y := 1900) (by decide) 1 1 0 0 0 0
      exact Option.isSome_iff_exists.mpr ⟨text, htext⟩
    | dateTime =>
      obtain ⟨text, htext⟩ := formatDate_isSome c dateTimeFormat (y := 1900) (by decide) 1 1 0 0 0 0
      exact Option.isSome_iff_exists.mpr ⟨text, htext⟩
    | time =>
      obtain ⟨text, htext⟩ := formatDate_isSome c timeFormat (y := 1900) (by decide) 1 1 0 0 0 0
      exact Option.isSome_iff_exists.mpr ⟨text, htext⟩
    | _ => rfl
  have hnumber (cast : ℤ → ℤ) (ofText ofDecimal : Text → ℤ) :
      ((cls.new conv).number cast ofText ofDecimal).isSome = true := by cases cls <;> rfl
  exact ⟨hnumber _ _ _, hnumber _ _ _, hnumber _ _ _, hnumber _ _ _, hnumber _ _ _, hnumber _ _ _,
    htext⟩

/-- An object is cleared to a new one if and only if it has no mark. -/
theorem new_iff (o : DBObject) :
    (o.clear.isNull = true ∧ readings conv c o.clear = readings conv c (o.valueClass.new conv)) ↔
      Unmarked o := by
  cases o with
  | decimal isNull value =>
    refine iff_of_false (fun h => ?_) id
    have hdecimal : none = some (conv.decimalOfInt 0) := congrArg Readings.decimal h.2
    cases hdecimal
  | blob isNull value size owner =>
    cases value with
    | none =>
      constructor
      · intro h
        exact ⟨congrArg Readings.size h.2, .inr h.1⟩
      · rintro ⟨rfl, hnull | rfl⟩
        · cases hnull
        · exact ⟨rfl, rfl⟩
    | some bytes =>
      constructor
      · intro h
        exact ⟨congrArg Readings.size h.2, .inl rfl⟩
      · rintro ⟨rfl, -⟩
        exact ⟨rfl, rfl⟩
  | date t =>
    constructor
    · intro h
      have hparts : [t.year, t.month, t.day] = [1900, 1, 1] := congrArg Readings.parts h.2
      have hdefault : t.year = 1900 ∧ t.month = 1 ∧ t.day = 1 := by simpa using hparts
      exact hdefault
    · intro h
      obtain ⟨isNull, value, year, month, day⟩ := t
      obtain ⟨rfl, rfl, rfl⟩ := h
      exact ⟨rfl, rfl⟩
  | dateTime t =>
    constructor
    · intro h
      have hparts : [t.year, t.month, t.day, t.hour, t.minute, t.second, 0] =
          [1900, 1, 1, 0, 0, 0, 0] := congrArg Readings.parts h.2
      have hdefault : (t.year = 1900 ∧ t.month = 1 ∧ t.day = 1) ∧
          t.hour = 0 ∧ t.minute = 0 ∧ t.second = 0 := by simpa [and_assoc] using hparts
      exact hdefault
    · intro h
      obtain ⟨isNull, value, microsecond, year, month, day, hour, minute, second⟩ := t
      obtain ⟨⟨rfl, rfl, rfl⟩, rfl, rfl, rfl⟩ := h
      exact ⟨rfl, rfl⟩
  | _ => exact iff_of_true ⟨rfl, rfl⟩ trivial

/-- Whatever was set before, `clear` forgets it if and only if no kept field has a mark of it. -/
theorem clear_forgets_iff {cls : ValueClass} {calls : List Call} {o : DBObject}
    (h : run conv (cls.new conv) calls = some o) : Forgets conv c cls o ↔ Unmarked o := by
  have hclass := run_valueClass conv h
  have hiff := new_iff conv c o
  rw [hclass] at hiff
  constructor
  · intro hforgets
    exact hiff.mp ⟨hforgets.null, hforgets.readings⟩
  · intro hunmarked
    obtain ⟨hnull, hreadings⟩ := hiff.mpr hunmarked
    exact ⟨hnull, hreadings.symm ▸ new_complete conv c cls, hreadings⟩

end

theorem clear_forgets_iff_text :
    Forgets Conversions.integers unpadded .string (.string false ['a']) ↔
      Unmarked (.string false ['a']) :=
  @clear_forgets_iff Conversions.integers unpadded _ [.setString ['a'] false] _ rfl

/-- The date of an earlier row, read through a cleared one. -/
theorem cleared_date_kept : ∃ o,
    run Conversions.integers (ValueClass.new Conversions.integers .date)
      [.date (.setFromParts 2024 2 29)] = some o ∧
    getString unpadded o.clear = some "2024-02-29".toList ∧
    getString unpadded (ValueClass.new Conversions.integers .date) = some "1900-01-01".toList ∧
    getParts o.clear = [2024, 2, 29] := by
  refine ⟨.date ⟨false, 1709164800, 2024, 2, 29⟩, by decide +kernel, ?_, ?_, rfl⟩
  · decide +kernel
  · decide +kernel

end DatabaseMod.CoreValueObjects
