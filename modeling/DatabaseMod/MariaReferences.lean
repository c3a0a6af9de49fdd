import DatabaseMod.ParameterReferences
import DatabaseMod.PostgresValues

/-!
# References in the MariaDB driver

The binding loop of the driver with the addresses that it hands to the client library, and
what the library reads through them when it executes the statement.
-/

namespace DatabaseMod.MariaReferences
open SqlTokens (Text)
open CoreValues CoreResultSet ParameterReferences
open CoreDateParser (DateFields)
open MachineInteger (InInt32 castInt32 castInt32_of_mem castInt32_mem)

/-! ### Bindings -/

/-- The buffer types that are used; cleared memory reads as the first. -/
inductive BufferType
  | decimal | long | float | double | longlong | string | blob | date | time | datetime
deriving DecidableEq, Repr

/-- A `MYSQL_BIND`. Without an address of an indicator the value is not null. -/
structure MysqlBind where
  bufferType : BufferType
  buffer : Option Ref
  bufferLength : ℤ
  isNull : Option Ref
deriving DecidableEq, Repr

namespace MysqlBind

def zeroed : MysqlBind := ⟨.decimal, none, 0, none⟩

variable (bind : MysqlBind) (value : Ref) (size : ℤ) (isNull : Option Ref)

/-- The buffer of a null value stays as it was. -/
def bindAs (bufferType : BufferType) : MysqlBind :=
  if isNull = none then ⟨bufferType, some value, size, none⟩
  else { bind with bufferType := bufferType, isNull := isNull }

def bindInt : MysqlBind := bind.bindAs value 4 isNull .long
def bindFloat : MysqlBind := bind.bindAs value 4 isNull .float
def bindDouble : MysqlBind := bind.bindAs value 8 isNull .double
def bindLong : MysqlBind := bind.bindAs value 8 isNull .longlong
def bindString : MysqlBind := bind.bindAs value size isNull .string
def bindBlob : MysqlBind := bind.bindAs value size isNull .blob

/-- The size of a `MYSQL_TIME`. -/
def timeSize : ℤ := 40

def bindDate : MysqlBind := bind.bindAs value timeSize isNull .date
def bindTime : MysqlBind := bind.bindAs value timeSize isNull .time
def bindDatetime : MysqlBind := bind.bindAs value timeSize isNull .datetime

end MysqlBind

/-- The field of an object read as a buffer of a type. -/
def readField : BufferType → ℤ → Content → Option Datum
  | .long, _, .integer .int value => some (.integer value)
  | .float, _, .float bits => some (.real bits)
  | .double, _, .double bits => some (.real bits)
  | .longlong, _, .integer .long value => some (.integer value)
  | .blob, size, .blob data => if size = data.length then some (.bytes data) else none
  | _, _, _ => none

def utf8Length (text : Text) : ℕ := (text.flatMap String.utf8EncodeChar).length

def readScratch : BufferType → ℤ → Scratch → Option Datum
  | .string, size, .chars text => if size = utf8Length text then some (.text text) else none
  | .date, _, .time parts => some (.temporal .date parts)
  | .time, _, .time parts => some (.temporal .time parts)
  | .datetime, _, .time parts => some (.temporal .dateTime parts)
  | _, _, _ => none

/-- What libmariadb reads for a parameter, if all of it is live. -/
def readBuffer (st : Storage) (bind : MysqlBind) : Option Datum :=
  match bind.buffer with
  | some (.object position stamp) =>
    (st.object position stamp).bind fun v => readField bind.bufferType bind.bufferLength v.content
  | some (.scratch round position) =>
    (st.scratchAt round position).bind (readScratch bind.bufferType bind.bufferLength)
  | _ => none

def readParam (st : Storage) (bind : MysqlBind) : Option Datum :=
  match bind.isNull with
  | none => readBuffer st bind
  | some (.flag round position) =>
    (st.flagAt round position).bind fun isNull => if isNull then some .null else readBuffer st bind
  | some _ => none

/-- A prepared statement: the bindings of the driver, and the copy of them that the client
library made when they were bound last. -/
structure MariaStatement extends Storage where
  bindings : ℕ → MysqlBind
  params : Option (ℕ → MysqlBind)

namespace MariaStatement

variable (s : MariaStatement)

def setBinding (i : ℕ) (bind : MysqlBind) : MariaStatement :=
  { s with bindings := Function.update s.bindings i bind }

@[simp] theorem setBinding_self (i : ℕ) (bind : MysqlBind) :
    (s.setBinding i bind).bindings i = bind := Function.update_self ..

@[simp] theorem setBinding_toStorage (i : ℕ) (bind : MysqlBind) :
    (s.setBinding i bind).toStorage = s.toStorage := rfl

def setScratch (i : ℕ) (memory : Scratch) : MariaStatement :=
  { s with scratch := Function.update s.scratch i (some memory) }

/-- The members of a `MYSQL_TIME` that are set; the others are zero. -/
def timeOf : TemporalKind → DateFields → DateFields
  | .date, p => ⟨p.y, p.m, p.d, 0, 0, 0, 0⟩
  | .time, p => ⟨0, 0, 0, p.hh, p.mm, p.ss, 0⟩
  | .dateTime, p => ⟨p.y, p.m, p.d, p.hh, p.mm, p.ss, 0⟩

/-- One step of the loop of `execute`. -/
def bindOne (i : ℕ) (slot : Slot) (s : MariaStatement) : Bool × MariaStatement :=
  let isNull := slot.value.isNull
  let s := { s with flags := Function.update s.flags i isNull }
  let nullsPtr := if isNull then some (.flag s.round i) else none
  let object := .object i slot.stamp
  let scratch := .scratch s.round i
  let bind := s.bindings i
  (true, match slot.value.content with
    | .integer .int _ => s.setBinding i (bind.bindInt object nullsPtr)
    | .float _ => s.setBinding i (bind.bindFloat object nullsPtr)
    | .double _ => s.setBinding i (bind.bindDouble object nullsPtr)
    | .integer .long _ => s.setBinding i (bind.bindLong object nullsPtr)
    | .string value =>
      (s.setScratch i (.chars (cString value))).setBinding i
        (bind.bindString scratch (castInt32 (utf8Length (cString value))) nullsPtr)
    | .blob data => s.setBinding i (bind.bindBlob object data.length nullsPtr)
    | .temporal .date parts _ =>
      (s.setScratch i (.time (timeOf .date parts))).setBinding i (bind.bindDate scratch nullsPtr)
    | .temporal .dateTime parts _ =>
      (s.setScratch i (.time (timeOf .dateTime parts))).setBinding i
        (bind.bindDatetime scratch nullsPtr)
    | .temporal .time parts _ =>
      (s.setScratch i (.time (timeOf .time parts))).setBinding i (bind.bindTime scratch nullsPtr)
    | _ => s)

/-- What the native execute reads through the copied bindings. -/
def read (paramCount : ℕ) : List (Option Datum) :=
  (List.range paramCount).map fun i => s.params.bind fun params => readParam s.toStorage (params i)

/-- The answers are those of `mysql_stmt_reset` and `mysql_stmt_bind_param`. -/
def execute (paramCount : ℕ) (answers : ℕ → Bool) (s : MariaStatement) :
    MariaStatement × Option (List (Option Datum)) :=
  let s := { s with toStorage := s.toStorage.next }
  if ¬ answers 0 then (s, none)
  else if paramCount = s.bindCount then
    let r := bindLoop (·.slots) bindOne paramCount s
    if ¬ r.1 then (r.2, none)
    else if ¬ answers 1 then (r.2, none)
    else
      let s := { r.2 with params := some r.2.bindings }
      (s, some (s.read paramCount))
  else (s, some (s.read paramCount))

end MariaStatement

def mariaRounds (paramCount : ℕ) : Rounds MariaStatement where
  storage := (·.toStorage)
  bind index value s := { s with toStorage := s.toStorage.bindValue index value }
  execute := MariaStatement.execute paramCount

/-! ### Live and stale bindings -/

/-- A binding of a position points to its own storage, made in earlier rounds than `bound`. If
it points to the object that is bound there, it denotes the value. -/
structure Fits (st : Storage) (bound i : ℕ) (b : MysqlBind) : Prop where
  object : ∀ j stamp, b.buffer = some (.object j stamp) → j = i ∧ stamp < st.created
  scratch : ∀ r j, b.buffer = some (.scratch r j) → j = i ∧ r < bound
  flag : ∀ ref, b.isNull = some ref → ∃ r, ref = .flag r i ∧ r < bound
  current : ∀ slot, st.slots i = some slot → b.buffer = some (.object i slot.stamp) →
    b.isNull = none → readBuffer st b = some (meaning slot.given)

theorem fits_zeroed (st : Storage) (bound i : ℕ) : Fits st bound i .zeroed := by
  constructor <;> simp [MysqlBind.zeroed]

theorem readBuffer_congr {st st' : Storage} {bound i : ℕ} {b : MysqlBind} (h : Fits st bound i b)
    (hslots : st'.slots i = st.slots i) (hround : st'.round = st.round)
    (hscratch : st'.scratch i = st.scratch i) : readBuffer st' b = readBuffer st b := by
  unfold readBuffer
  cases hbuffer : b.buffer with
  | none => rfl
  | some ref =>
    cases ref with
    | object j stamp =>
      obtain ⟨rfl, -⟩ := h.object j stamp hbuffer
      simp only [Storage.object, hslots]
    | scratch r j =>
      obtain ⟨rfl, -⟩ := h.scratch r j hbuffer
      simp only [Storage.scratchAt, hround, hscratch]
    | flag r j => rfl
    | returned => rfl

theorem readParam_congr {st st' : Storage} {bound i : ℕ} {b : MysqlBind} (h : Fits st bound i b)
    (hslots : st'.slots i = st.slots i) (hround : st'.round = st.round)
    (hscratch : st'.scratch i = st.scratch i) (hflags : st'.flags i = st.flags i) :
    readParam st' b = readParam st b := by
  unfold readParam
  cases hnull : b.isNull with
  | none => exact readBuffer_congr h hslots hround hscratch
  | some ref =>
    obtain ⟨r, rfl, -⟩ := h.flag ref hnull
    simp only [Storage.flagAt, hround, hflags, readBuffer_congr h hslots hround hscratch]

/-- The buffer points to the bound object, and the value is not null. -/
def Current (slot : Slot) (i : ℕ) (b : MysqlBind) : Prop :=
  b.isNull = none ∧ b.buffer = some (.object i slot.stamp)

/-- Through a binding of an earlier round only an object that is still bound can be read. -/
theorem current_of_read {st : Storage} {i : ℕ} {b : MysqlBind} {slot : Slot} {d : Datum}
    (h : Fits st st.round i b) (hslot : st.slots i = some slot)
    (hread : readParam st b = some d) : Current slot i b := by
  unfold readParam at hread
  cases hnull : b.isNull with
  | some ref =>
    obtain ⟨r, rfl, hr⟩ := h.flag ref hnull
    rw [hnull] at hread
    simp [Storage.flagAt, hr.ne] at hread
  | none =>
    rw [hnull] at hread
    refine ⟨hnull, ?_⟩
    dsimp only at hread
    unfold readBuffer at hread
    cases hbuffer : b.buffer with
    | none =>
      rw [hbuffer] at hread
      cases hread
    | some ref =>
      rw [hbuffer] at hread
      cases ref with
      | object j stamp =>
        obtain ⟨rfl, -⟩ := h.object j stamp hbuffer
        by_cases hstamp : slot.stamp = stamp
        · rw [hstamp]
        · simp [Storage.object, hslot, hstamp] at hread
      | scratch r j =>
        obtain ⟨-, hr⟩ := h.scratch r j hbuffer
        simp [Storage.scratchAt, hr.ne] at hread
      | flag r j => cases hread
      | returned => cases hread

theorem read_of_current {st : Storage} {bound i : ℕ} {b : MysqlBind} {slot : Slot}
    (h : Fits st bound i b) (hslot : st.slots i = some slot) (hcurrent : Current slot i b) :
    readParam st b = some (meaning slot.given) := by
  unfold readParam
  rw [hcurrent.1]
  exact h.current slot hslot hcurrent.2 hcurrent.1

/-! ### One step of the loop -/

section

variable {st : Storage} {i : ℕ} {b : MysqlBind} {slot : Slot} (size : ℤ) (type : BufferType)

/-- The address of the indicator of a position in this round. -/
def nullsPtr (st : Storage) (i : ℕ) (isNull : Bool) : Option Ref :=
  if isNull then some (.flag st.round i) else none

theorem read_flag (hflag : st.flags i = true) (h : b.isNull = some (.flag st.round i)) :
    readParam st b = some .null := by
  simp [readParam, h, Storage.flagAt, hflag]

theorem read_object (hslot : st.slots i = some slot) (hflag : st.flags i = slot.value.isNull) :
    readParam st (b.bindAs (.object i slot.stamp) size (nullsPtr st i slot.value.isNull) type) =
      if slot.value.isNull then some .null else readField type size slot.value.content := by
  cases hnull : slot.value.isNull with
  | true => exact read_flag (hflag.trans hnull) (by simp [MysqlBind.bindAs, nullsPtr])
  | false =>
    simp [MysqlBind.bindAs, nullsPtr, readParam, readBuffer, Storage.object, hslot]

theorem read_scratch {memory : Scratch} (hscratch : st.scratch i = some memory)
    (hflag : st.flags i = slot.value.isNull) :
    readParam st (b.bindAs (.scratch st.round i) size (nullsPtr st i slot.value.isNull) type) =
      if slot.value.isNull then some .null else readScratch type size memory := by
  cases hnull : slot.value.isNull with
  | true => exact read_flag (hflag.trans hnull) (by simp [MysqlBind.bindAs, nullsPtr])
  | false =>
    simp [MysqlBind.bindAs, nullsPtr, readParam, readBuffer, Storage.scratchAt, hscratch]

/-- A new binding fits, also where it keeps the buffer of an old one. -/
theorem fits_bindAs {value : Ref} (hb : Fits st (st.round + 1) i b)
    (hvalue : value = .scratch st.round i ∨ ∃ stamp < st.created, value = .object i stamp)
    (isNull : Bool)
    (hread : isNull = false → ∀ slot, st.slots i = some slot → value = .object i slot.stamp →
      readBuffer st (b.bindAs value size none type) = some (meaning slot.given)) :
    Fits st (st.round + 1) i (b.bindAs value size (nullsPtr st i isNull) type) := by
  cases isNull with
  | true =>
    refine ⟨hb.object, fun r j h => ?_, fun ref h => ?_, fun slot _ _ h => ?_⟩
    · exact hb.scratch r j h
    · exact ⟨st.round, (Option.some.inj h).symm, Nat.lt_succ_self _⟩
    · cases h
  | false =>
    refine ⟨fun j stamp h => ?_, fun r j h => ?_, fun ref h => ?_, fun slot hslot h _ => ?_⟩
    · rcases hvalue with rfl | ⟨stamp', hstamp, rfl⟩
      · cases h
      · cases h
        exact ⟨rfl, hstamp⟩
    · rcases hvalue with rfl | ⟨stamp', hstamp, rfl⟩
      · cases h
        exact ⟨rfl, Nat.lt_succ_self _⟩
      · cases h
    · cases h
    · exact hread rfl slot hslot (Option.some.inj h)

end

/-- What a `MYSQL_BIND` can carry: a text without NUL of less than 2 GiB, and no fractions of
a second. -/
def Exact : Content → Prop
  | .string value => NUL ∉ value ∧ utf8Length value ≤ 2147483647
  | .temporal .date _ _ => True
  | .temporal _ parts _ => parts.micros = 0
  | _ => True

/-- The loop has a case for the value, and its buffer carries it. -/
def Sendable (v : TDBType) : Prop :=
  MariaDriver.paramOf v ≠ none ∧ (v.isNull = true ∨ Exact v.content)

theorem readScratch_string_iff (value : Text) :
    readScratch .string (castInt32 (utf8Length (cString value))) (.chars (cString value)) =
      some (.text value) ↔ Exact (.string value) := by
  unfold readScratch Exact
  dsimp only
  constructor
  · intro h
    split_ifs at h with hsize
    have hall : cString value = value := by simpa using h
    have hin := castInt32_mem (utf8Length (cString value))
    rw [hsize, hall] at hin
    exact ⟨cString_eq_iff.mp hall, by exact_mod_cast hin.2⟩
  · rintro ⟨hnul, hlength⟩
    have hall := cString_eq_iff.mpr hnul
    rw [hall, if_pos (castInt32_of_mem ⟨by omega, by omega⟩)]

theorem timeOf_eq_iff (kind : TemporalKind) (parts : DateFields) (text : Text) :
    Datum.temporal kind (MariaStatement.timeOf kind parts) = .temporal kind (visible kind parts) ↔
      Exact (.temporal kind parts text) := by
  obtain ⟨y, m, d, hh, mm, ss, micros⟩ := parts
  cases kind <;> simp [MariaStatement.timeOf, visible, Exact, eq_comm]

/-- What a step stores at its position. -/
inductive Stored (s : MariaStatement) (i : ℕ) (slot : Slot) : MariaStatement → Prop
  | nothing (hcase : MariaDriver.paramOf slot.value = none) (hfield : ∀ type size,
      readField type size slot.value.content = none) : Stored s i slot s
  | object (type : BufferType) (size : ℤ) (hcase : MariaDriver.paramOf slot.value ≠ none)
      (hexact : Exact slot.value.content)
      (hread : slot.value.isNull = false →
        readField type size slot.value.content = some (meaning slot.value)) :
      Stored s i slot (s.setBinding i ((s.bindings i).bindAs (.object i slot.stamp) size
        (nullsPtr s.toStorage i slot.value.isNull) type))
  | scratch (type : BufferType) (size : ℤ) (memory : Scratch)
      (hcase : MariaDriver.paramOf slot.value ≠ none)
      (hread : slot.value.isNull = false → (readScratch type size memory =
        some (meaning slot.value) ↔ Exact slot.value.content)) :
      Stored s i slot ((s.setScratch i memory).setBinding i ((s.bindings i).bindAs
        (.scratch s.round i) size (nullsPtr s.toStorage i slot.value.isNull) type))

/-- The indicator of the position is set. -/
def marked (s : MariaStatement) (i : ℕ) (slot : Slot) : MariaStatement :=
  { s with flags := Function.update s.flags i slot.value.isNull }

theorem bindOne_stored (s : MariaStatement) (i : ℕ) (slot : Slot) :
    Stored (marked s i slot) i slot (MariaStatement.bindOne i slot s).2 := by
  have hobject {type : BufferType} {size : ℤ}
      (h : readField type size slot.value.content = some (denoted slot.value.content)) :
      slot.value.isNull = false →
        readField type size slot.value.content = some (meaning slot.value) := fun hnull =>
    h.trans (congrArg some (meaning_of_not_null hnull).symm)
  have hscratch {type : BufferType} {size : ℤ} {memory : Scratch}
      (h : readScratch type size memory = some (denoted slot.value.content) ↔
        Exact slot.value.content) : slot.value.isNull = false →
      (readScratch type size memory = some (meaning slot.value) ↔ Exact slot.value.content) :=
    fun hnull => by rw [meaning_of_not_null hnull]; exact h
  obtain ⟨slotGiven, ⟨content, isNull⟩, stamp⟩ := slot
  cases content with
  | string value =>
    exact .scratch .string _ (.chars (cString value)) (by simp [MariaDriver.paramOf])
      (hscratch (readScratch_string_iff value))
  | integer kind value =>
    cases kind with
    | int => exact .object .long 4 (by simp [MariaDriver.paramOf]) trivial (hobject rfl)
    | long => exact .object .longlong 8 (by simp [MariaDriver.paramOf]) trivial (hobject rfl)
    | byte | bool | short | uint | ulong =>
      exact .nothing rfl fun type size => by cases type <;> rfl
  | float bits => exact .object .float 4 (by simp [MariaDriver.paramOf]) trivial (hobject rfl)
  | double bits => exact .object .double 8 (by simp [MariaDriver.paramOf]) trivial (hobject rfl)
  | decimal value => exact .nothing rfl fun type size => by cases type <;> rfl
  | blob data =>
    exact .object .blob data.length (by simp [MariaDriver.paramOf]) trivial (hobject (if_pos rfl))
  | temporal kind parts text =>
    have htime := timeOf_eq_iff kind parts text
    cases kind with
    | date =>
      exact .scratch .date _ (.time (MariaStatement.timeOf .date parts))
        (by simp [MariaDriver.paramOf]) (hscratch (Option.some_inj.trans htime))
    | dateTime =>
      exact .scratch .datetime _ (.time (MariaStatement.timeOf .dateTime parts))
        (by simp [MariaDriver.paramOf]) (hscratch (Option.some_inj.trans htime))
    | time =>
      exact .scratch .time _ (.time (MariaStatement.timeOf .time parts))
        (by simp [MariaDriver.paramOf]) (hscratch (Option.some_inj.trans htime))

/-! ### The loop -/

theorem fits_congr {st st' : Storage} {bound i : ℕ} {b : MysqlBind} (h : Fits st bound i b)
    (hslots : st'.slots i = st.slots i) (hcreated : st.created ≤ st'.created) :
    Fits st' bound i b := by
  refine ⟨fun j stamp hb => ?_, h.scratch, h.flag, fun slot hslot hb hnull => ?_⟩
  · obtain ⟨hj, hstamp⟩ := h.object j stamp hb
    exact ⟨hj, hstamp.trans_le hcreated⟩
  · rw [hslots] at hslot
    have hread := h.current slot hslot hb hnull
    simp only [readBuffer, hb, Storage.object, hslots] at hread ⊢
    exact hread

theorem fits_mono {st : Storage} {bound bound' i : ℕ} {b : MysqlBind} (h : Fits st bound i b)
    (hbound : bound ≤ bound') : Fits st bound' i b :=
  ⟨h.object, fun r j hb => ⟨(h.scratch r j hb).1, (h.scratch r j hb).2.trans_le hbound⟩,
    fun ref hb => (h.flag ref hb).imp fun _ hr => ⟨hr.1, hr.2.trans_le hbound⟩, h.current⟩

/-- All bindings of the driver and of the client library fit the storage. -/
structure MariaInv (s : MariaStatement) : Prop where
  stamped : s.Stamped
  unchanged : ∀ i slot, s.slots i = some slot → slot.value = slot.given
  bindings : ∀ i, Fits s.toStorage (s.round + 1) i (s.bindings i)
  params : ∀ params ∈ s.params, ∀ i, Fits s.toStorage (s.round + 1) i (params i)

/-- A step changes its own position only. -/
structure Frame (i : ℕ) (s s' : MariaStatement) : Prop where
  slots_eq : s'.slots = s.slots
  bindCount_eq : s'.bindCount = s.bindCount
  created_eq : s'.created = s.created
  round_eq : s'.round = s.round
  params_eq : s'.params = s.params
  bindings_eq : ∀ j ≠ i, s'.bindings j = s.bindings j
  scratch_eq : ∀ j ≠ i, s'.scratch j = s.scratch j
  flags_eq : ∀ j ≠ i, s'.flags j = s.flags j

theorem bindOne_frame (i : ℕ) (slot : Slot) (s : MariaStatement) :
    Frame i s (MariaStatement.bindOne i slot s).2 := by
  have h := bindOne_stored s i slot
  generalize (MariaStatement.bindOne i slot s).2 = s' at h
  cases h <;> refine ⟨rfl, rfl, rfl, rfl, rfl, fun j hj => ?_, fun j hj => ?_, fun j hj => ?_⟩ <;>
    simp [MariaStatement.setBinding, MariaStatement.setScratch, marked, Function.update_of_ne hj]

section

variable {s : MariaStatement} {i : ℕ} {slot : Slot}

theorem bindOne_fits (h : MariaInv s) (hslot : s.slots i = some slot) :
    Fits (MariaStatement.bindOne i slot s).2.toStorage (s.round + 1) i
      ((MariaStatement.bindOne i slot s).2.bindings i) := by
  have hvalue := h.unchanged i slot hslot
  have hold := h.bindings i
  have hs := bindOne_stored s i slot
  generalize (MariaStatement.bindOne i slot s).2 = s' at hs
  cases hs with
  | nothing => exact fits_congr hold rfl le_rfl
  | object type size hcase hexact hread =>
    have hfits : Fits (marked s i slot).toStorage (s.round + 1) i (s.bindings i) :=
      fits_congr hold rfl le_rfl
    rw [MariaStatement.setBinding_self, MariaStatement.setBinding_toStorage]
    refine fits_bindAs size type hfits (.inr ⟨slot.stamp, h.stamped i slot hslot, rfl⟩)
      slot.value.isNull fun hnull slot' hslot' _ => ?_
    obtain rfl : slot = slot' := Option.some.inj (hslot.symm.trans hslot')
    rw [← hvalue, ← hread hnull]
    simp [MysqlBind.bindAs, readBuffer, Storage.object, marked, hslot]
  | scratch type size memory hcase hread =>
    have hfits : Fits ((marked s i slot).setScratch i memory).toStorage (s.round + 1) i
      (s.bindings i) := fits_congr hold rfl le_rfl
    rw [MariaStatement.setBinding_self, MariaStatement.setBinding_toStorage]
    exact fits_bindAs size type hfits (.inl rfl) slot.value.isNull
      fun _ _ _ hvalue => by cases hvalue

/-- After its step a parameter reads as its value exactly if the value can be sent. -/
theorem bindOne_read (h : MariaInv s) (hold : Fits s.toStorage s.round i (s.bindings i))
    (hslot : s.slots i = some slot) :
    readParam (MariaStatement.bindOne i slot s).2.toStorage
      ((MariaStatement.bindOne i slot s).2.bindings i) = some (meaning slot.given) ↔
        Sendable slot.given := by
  rw [← h.unchanged i slot hslot]
  have hs := bindOne_stored s i slot
  generalize (MariaStatement.bindOne i slot s).2 = s' at hs
  cases hs with
  | nothing hcase hfield =>
    refine iff_of_false (fun hread => ?_) fun hsend => hsend.1 hcase
    have hold' : Fits (marked s i slot).toStorage s.round i (s.bindings i) :=
      fits_congr hold rfl le_rfl
    have hcurrent := current_of_read hold' hslot hread
    have hbuffer := hold.current slot hslot hcurrent.2 hcurrent.1
    simp [readBuffer, hcurrent.2, Storage.object, hslot, hfield] at hbuffer
  | object type size hcase hexact hread =>
    have hobject := @read_object (marked s i slot).toStorage i (s.bindings i) slot size type hslot
      (Function.update_self ..)
    rw [MariaStatement.setBinding_self, MariaStatement.setBinding_toStorage]
    refine iff_of_true (hobject.trans ?_) ⟨hcase, .inr hexact⟩
    cases hnull : slot.value.isNull with
    | true => rw [if_pos rfl, meaning_of_null hnull]
    | false => rw [if_neg Bool.false_ne_true, hread hnull]
  | scratch type size memory hcase hread =>
    have hscratch := @read_scratch ((marked s i slot).setScratch i memory).toStorage i
      (s.bindings i) slot size type memory (Function.update_self ..) (Function.update_self ..)
    rw [MariaStatement.setBinding_self, MariaStatement.setBinding_toStorage]
    refine (Eq.congr_left hscratch).trans ?_
    cases hnull : slot.value.isNull with
    | true =>
      rw [if_pos rfl, meaning_of_null hnull]
      exact iff_of_true rfl ⟨hcase, .inl hnull⟩
    | false =>
      rw [if_neg Bool.false_ne_true, hread hnull, Sendable, hnull]
      exact ⟨fun h => ⟨hcase, .inr h⟩, fun h => h.2.resolve_left Bool.false_ne_true⟩

theorem fits_frame {s' : MariaStatement} (hframe : Frame i s s') {bound j : ℕ} {b : MysqlBind}
    (h : Fits s.toStorage bound j b) : Fits s'.toStorage bound j b :=
  fits_congr h (congrFun hframe.slots_eq j) hframe.created_eq.ge

theorem bindOne_inv (h : MariaInv s) (hslot : s.slots i = some slot) :
    MariaInv (MariaStatement.bindOne i slot s).2 := by
  have hframe := bindOne_frame i slot s
  refine ⟨fun j slot' hslot' => ?_, fun j slot' hslot' => ?_, fun j => ?_, fun params hp j => ?_⟩
  · rw [hframe.created_eq]
    exact h.stamped j slot' ((congrFun hframe.slots_eq j).symm.trans hslot')
  · exact h.unchanged j slot' ((congrFun hframe.slots_eq j).symm.trans hslot')
  · rw [hframe.round_eq]
    by_cases hj : j = i
    · subst hj
      exact bindOne_fits h hslot
    · rw [hframe.bindings_eq j hj]
      exact fits_frame hframe (h.bindings j)
  · rw [hframe.round_eq]
    rw [hframe.params_eq] at hp
    exact fits_frame hframe (h.params params hp j)

/-- After the steps of the first `n` positions: the others have bindings of earlier rounds. -/
structure BoundTo (s₀ : MariaStatement) (n : ℕ) (s : MariaStatement) : Prop where
  inv : MariaInv s
  slots_eq : s.slots = s₀.slots
  done : ∀ i < n, ∃ slot, s.slots i = some slot ∧
    (readParam s.toStorage (s.bindings i) = some (meaning slot.given) ↔ Sendable slot.given)
  rest : ∀ i, n ≤ i → Fits s.toStorage s.round i (s.bindings i)

theorem bindOne_boundTo {s₀ : MariaStatement} {n : ℕ} (h : BoundTo s₀ n s)
    (hslot : s.slots n = some slot) : BoundTo s₀ (n + 1) (MariaStatement.bindOne n slot s).2 := by
  have hframe := bindOne_frame n slot s
  refine ⟨bindOne_inv h.inv hslot, hframe.slots_eq.trans h.slots_eq, fun j hj => ?_, fun j hj => ?_⟩
  · rcases Nat.lt_succ_iff_lt_or_eq.mp hj with hlt | rfl
    · obtain ⟨slot', hslot', hread⟩ := h.done j hlt
      refine ⟨slot', (congrFun hframe.slots_eq j).trans hslot', ?_⟩
      rw [hframe.bindings_eq j hlt.ne, readParam_congr (h.inv.bindings j)
        (congrFun hframe.slots_eq j) hframe.round_eq (hframe.scratch_eq j hlt.ne)
        (hframe.flags_eq j hlt.ne)]
      exact hread
    · exact ⟨slot, (congrFun hframe.slots_eq j).trans hslot,
        bindOne_read h.inv (h.rest j le_rfl) hslot⟩
  · rw [hframe.round_eq, hframe.bindings_eq j (by omega)]
    exact fits_frame hframe (h.rest j (by omega))

end

/-! ### Executions -/

section

variable {paramCount : ℕ} {s : MariaStatement}

/-- The parameters are bound: to values that can be sent, or, where the number of values is
another one and nothing is bound, by an earlier execution to the object that is still there. -/
def MariaBinds (paramCount : ℕ) (s : MariaStatement) : Prop :=
  ∀ i < paramCount, ∃ slot, s.slots i = some slot ∧
    if paramCount = s.bindCount then Sendable slot.given
    else ∃ params ∈ s.params, Current slot i (params i)

theorem next_inv (h : MariaInv s) : MariaInv { s with toStorage := s.toStorage.next } ∧
    ∀ i, Fits s.toStorage.next s.toStorage.next.round i (s.bindings i) := by
  have hfits {b : MysqlBind} {i : ℕ} (hb : Fits s.toStorage (s.round + 1) i b) :
      Fits s.toStorage.next s.toStorage.next.round i b := fits_congr hb rfl le_rfl
  refine ⟨⟨h.stamped, h.unchanged, fun i => ?_, fun params hp i => ?_⟩, fun i => ?_⟩
  · exact fits_mono (hfits (h.bindings i)) (Nat.le_succ _)
  · exact fits_mono (hfits (h.params params hp i)) (Nat.le_succ _)
  · exact hfits (h.bindings i)

/-- The state at the end of the binding loop of a round. -/
def afterLoop (paramCount : ℕ) (s : MariaStatement) : Bool × MariaStatement :=
  bindLoop (·.slots) MariaStatement.bindOne paramCount { s with toStorage := s.toStorage.next }

theorem afterLoop_kept (h : MariaInv s) :
    MariaInv (afterLoop paramCount s).2 ∧ (afterLoop paramCount s).2.slots = s.slots := by
  refine @bindLoop_kept MariaStatement (fun t => t.slots) MariaStatement.bindOne
    (fun t => MariaInv t ∧ t.slots = s.slots) paramCount
    (fun n _ slot t hslot ht => ⟨bindOne_inv ht.1 hslot, ?_⟩) _ ⟨(next_inv h).1, rfl⟩
  exact (bindOne_frame n slot t).slots_eq.trans ht.2

theorem afterLoop_done (h : MariaInv s) (hdone : (afterLoop paramCount s).1 = true) :
    BoundTo s paramCount (afterLoop paramCount s).2 := by
  refine @bindLoop_done MariaStatement (fun t => t.slots) MariaStatement.bindOne (BoundTo s)
    paramCount (fun n _ slot t ht hslot _ => bindOne_boundTo ht hslot) _
    ⟨(next_inv h).1, rfl, fun i hi => ?_, fun i _ => (next_inv h).2 i⟩ hdone
  exact absurd hi (Nat.not_lt_zero i)

/-- The ends of an execution: before the native execute, after the parameters were bound, or
without binding any. -/
inductive Executed (paramCount : ℕ) (s : MariaStatement) :
    MariaStatement × Option (List (Option Datum)) → Prop
  | stopped (t : MariaStatement) (hkept : MariaInv s → MariaInv t) (hslots : t.slots = s.slots) :
      Executed paramCount s (t, none)
  | bound (hcount : paramCount = s.bindCount) (hdone : (afterLoop paramCount s).1 = true)
      (t : MariaStatement)
      (ht : t = { (afterLoop paramCount s).2 with
        params := some (afterLoop paramCount s).2.bindings }) :
      Executed paramCount s (t, some (t.read paramCount))
  | unbound (hcount : paramCount ≠ s.bindCount) (t : MariaStatement)
      (ht : t = { s with toStorage := s.toStorage.next }) :
      Executed paramCount s (t, some (t.read paramCount))

theorem execute_executed (answers : ℕ → Bool) (hs : MariaInv s) :
    Executed paramCount s (MariaStatement.execute paramCount answers s) := by
  obtain ⟨hinv, hslots⟩ := @afterLoop_kept paramCount s hs
  unfold MariaStatement.execute
  dsimp only
  split
  next => exact .stopped _ (fun h => (next_inv h).1) rfl
  next =>
    split
    next hcount =>
      split
      next => exact .stopped (afterLoop paramCount s).2 (fun _ => hinv) hslots
      next hdone =>
        split
        next => exact .stopped (afterLoop paramCount s).2 (fun _ => hinv) hslots
        next => exact .bound hcount (not_not.mp hdone) _ rfl
    next hcount => exact .unbound hcount _ rfl

theorem maria_kept (h : MariaInv s) (answers : ℕ → Bool) :
    MariaInv (MariaStatement.execute paramCount answers s).1 ∧
      (MariaStatement.execute paramCount answers s).1.slots = s.slots := by
  obtain ⟨hinv, hslots⟩ := @afterLoop_kept paramCount s h
  have hexecuted := @execute_executed paramCount s answers h
  generalize MariaStatement.execute paramCount answers s = r at hexecuted
  cases hexecuted with
  | stopped t hkept hsame => exact ⟨hkept h, hsame⟩
  | bound hcount hdone t ht =>
    subst ht
    refine ⟨⟨hinv.stamped, hinv.unchanged, hinv.bindings, fun params hp i => ?_⟩, hslots⟩
    cases hp
    exact hinv.bindings i
  | unbound hcount t ht =>
    subst ht
    exact ⟨(next_inv h).1, rfl⟩

theorem maria_sends (h : MariaInv s) (answers : ℕ → Bool) :
    ∀ data ∈ (MariaStatement.execute paramCount answers s).2,
      (Sends (given paramCount s.toStorage) data ↔ MariaBinds paramCount s) := by
  have hexecuted := @execute_executed paramCount s answers h
  generalize MariaStatement.execute paramCount answers s = r at hexecuted
  intro data hdata
  cases hexecuted with
  | stopped t hkept hsame => cases hdata
  | bound hcount hdone t ht =>
    subst ht
    cases hdata
    have hbound := afterLoop_done h hdone
    unfold MariaStatement.read MariaBinds
    rw [sends_iff]
    refine forall₂_congr fun i hi => ?_
    obtain ⟨slot, hslot, hread⟩ := hbound.done i hi
    rw [hbound.slots_eq] at hslot
    simp only [hslot, Option.some.injEq, exists_eq_left', Option.bind_some, if_pos hcount]
    exact hread
  | unbound hcount t ht =>
    subst ht
    cases hdata
    unfold MariaStatement.read MariaBinds
    rw [sends_iff]
    refine forall₂_congr fun i hi => exists_congr fun slot => and_congr_right fun hslot => ?_
    rw [if_neg hcount]
    cases hparams : s.params with
    | none => simp
    | some params =>
      have hfits : Fits s.toStorage.next s.toStorage.next.round i (params i) :=
        fits_congr (h.params params hparams i) rfl le_rfl
      simp only [Option.bind_some, Option.mem_def, Option.some.injEq, exists_eq_left']
      exact ⟨fun hread => current_of_read hfits hslot hread,
        fun hcurrent => read_of_current hfits hslot hcurrent⟩

theorem mariaInv_bind (h : MariaInv s) (index : ℕ) (value : TDBType) :
    MariaInv { s with toStorage := s.toStorage.bindValue index value } := by
  have hfits {bound i : ℕ} {b : MysqlBind} (hb : Fits s.toStorage bound i b) :
      Fits (s.toStorage.bindValue index value) bound i b := by
    by_cases hi : i = index
    · subst hi
      refine ⟨fun j stamp hbuffer => ?_, hb.scratch, hb.flag, fun slot hslot hbuffer _ => ?_⟩
      · obtain ⟨hj, hstamp⟩ := hb.object j stamp hbuffer
        exact ⟨hj, hstamp.trans (Nat.lt_succ_self _)⟩
      · obtain rfl := Option.some.inj ((s.bindValue_self i value).symm.trans hslot)
        exact absurd (hb.object i s.created hbuffer).2 (lt_irrefl _)
    · exact fits_congr hb (s.bindValue_of_ne hi value) (Nat.le_succ _)
  exact ⟨h.stamped.bindValue index value, Storage.forall_bindValue h.unchanged rfl,
    fun i => hfits (h.bindings i), fun params hp i => hfits (h.params params hp i)⟩

theorem maria_decides (paramCount : ℕ) :
    Decides (mariaRounds paramCount) paramCount MariaInv (MariaBinds paramCount) where
  bind_kept index value _ hs := mariaInv_bind hs index value
  execute_kept answers _ hs := (maria_kept hs answers).1
  given_kept answers _ hs := given_congr (maria_kept hs answers).2
  sends answers _ hs := maria_sends hs answers

end

/-- A statement that was just prepared; the array of bound values is kept from before. -/
def MariaStatement.prepared (values : ℕ → Option TDBType) : MariaStatement where
  slots i := (values i).map fun v => ⟨v, v, 0⟩
  bindCount := 0
  created := 1
  round := 0
  scratch _ := none
  flags _ := false
  bindings _ := .zeroed
  params := none

theorem mariaInv_prepared (values : ℕ → Option TDBType) : MariaInv (.prepared values) := by
  refine ⟨fun i slot hslot => ?_, fun i slot hslot => ?_, fun i => fits_zeroed _ _ i, nofun⟩
  all_goals
    obtain ⟨v, -, rfl⟩ := Option.map_eq_some_iff.mp hslot
    first | rfl | exact Nat.zero_lt_one

end DatabaseMod.MariaReferences
