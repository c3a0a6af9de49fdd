import DatabaseMod.MariaReferences

/-!
# References in the ODBC driver

The binding loop of the driver with the addresses that it hands to the driver manager, and
what `SQLExecute` reads through them. The parameters of both drivers at the end.
-/

namespace DatabaseMod.OdbcReferences
open CoreValues CoreResultSet ParameterReferences

/-! ### Bindings -/

inductive CType
  | slong | double | sbigint | char
deriving DecidableEq, Repr

/-- What `SQLBindParameter` keeps for a parameter. Without an address of an indicator the
value is not null. -/
structure Binding where
  cType : CType
  paramValue : Ref
  indicator : Option Ref
deriving DecidableEq, Repr

/-- The helpers of the numbers; the indicator is a variable of the helper itself. -/
def sqlBindParameterNumber (cType : CType) (paramValue : Ref) (isNull : Bool) : Binding :=
  ⟨cType, paramValue, if isNull then some .returned else none⟩

def sqlBindParameterInt : Ref → Bool → Binding := sqlBindParameterNumber .slong
def sqlBindParameterDouble : Ref → Bool → Binding := sqlBindParameterNumber .double
def sqlBindParameterLong : Ref → Bool → Binding := sqlBindParameterNumber .sbigint

def sqlBindParameterString (paramValue : Ref) : Binding := ⟨.char, paramValue, some .returned⟩

/-- The field of an object read as a C type. -/
def readField : CType → Content → Option Datum
  | .slong, .integer .int value => some (.integer value)
  | .double, .double bits => some (.real bits)
  | .sbigint, .integer .long value => some (.integer value)
  | _, _ => none

def readScratch : CType → Scratch → Option Datum
  | .char, .chars text => some (.text text)
  | _, _ => none

def readValue (st : Storage) (b : Binding) : Option Datum :=
  match b.paramValue with
  | .object position stamp => (st.object position stamp).bind fun v => readField b.cType v.content
  | .scratch round position => (st.scratchAt round position).bind (readScratch b.cType)
  | _ => none

/-- What `SQLExecute` reads for a parameter, if all of it is live. -/
def readParam (st : Storage) (b : Binding) : Option Datum :=
  match b.indicator with
  | none => readValue st b
  | some (.flag round position) =>
    (st.flagAt round position).bind fun isNull => if isNull then some .null else readValue st b
  | some _ => none

structure OdbcStatement extends Storage where
  bindings : ℕ → Option Binding

namespace OdbcStatement

variable (s : OdbcStatement)

def setScratch (i : ℕ) (memory : Scratch) : OdbcStatement :=
  { s with scratch := Function.update s.scratch i (some memory) }

/-- A float is replaced by a new double of the same number. -/
def replaceFloat (i : ℕ) (slot : Slot) (bits : UInt64) : OdbcStatement :=
  { s with
    slots := Function.update s.slots i (some ⟨slot.given, .setDouble bits, s.created⟩)
    created := s.created + 1 }

/-- `SQLBindParameter` with its answer. -/
def bindParameter (answer : Bool) (i : ℕ) (b : Binding) : Bool × OdbcStatement :=
  (answer, if answer then { s with bindings := Function.update s.bindings i (some b) } else s)

/-- One step of the loop of `execute`. -/
def bindOne (answers : ℕ → Bool) (i : ℕ) (slot : Slot) (s : OdbcStatement) :
    Bool × OdbcStatement :=
  let isNull := slot.value.isNull
  let object := .object i slot.stamp
  match slot.value.content with
  | .integer .int _ => s.bindParameter (answers i) i (sqlBindParameterInt object isNull)
  | .float bits =>
    (s.replaceFloat i slot bits).bindParameter (answers i) i
      (sqlBindParameterDouble (.object i s.created) isNull)
  | .double _ => s.bindParameter (answers i) i (sqlBindParameterDouble object isNull)
  | .integer .long _ => s.bindParameter (answers i) i (sqlBindParameterLong object isNull)
  | .string _ | .temporal _ _ _ =>
    (s.setScratch i (.chars (cString slot.value.getString))).bindParameter (answers i) i
      (sqlBindParameterString (.scratch s.round i))
  | _ => (true, s)

def read (paramCount : ℕ) : List (Option Datum) :=
  (List.range paramCount).map fun i => (s.bindings i).bind (readParam s.toStorage)

/-- The answers are those of `SQLBindParameter`. -/
def execute (paramCount : ℕ) (answers : ℕ → Bool) (s : OdbcStatement) :
    OdbcStatement × Option (List (Option Datum)) :=
  let s := { s with toStorage := s.toStorage.next }
  let r := bindLoop (·.slots) (bindOne answers) s.bindCount s
  if ¬ r.1 then (r.2, none) else (r.2, some (r.2.read paramCount))

end OdbcStatement

def odbcRounds (paramCount : ℕ) : Rounds OdbcStatement where
  storage := (·.toStorage)
  bind index value s := { s with toStorage := s.toStorage.bindValue index value }
  execute := OdbcStatement.execute paramCount

/-! ### Steps of the loop -/

def IsNumber : Content → Prop
  | .integer .int _ | .integer .long _ | .float _ | .double _ => True
  | _ => False

/-- A number that is not null has no indicator. -/
def Sendable (v : TDBType) : Prop := v.isNull = false ∧ IsNumber v.content

/-- The numbers are the kinds that the driver binds as what they are. -/
theorem isNumber_iff (v : TDBType) : IsNumber v.content ↔
    ∃ value indicator, OdbcDriver.paramOf v = some (value, indicator) ∧
      ∀ text, value ≠ .string text := by
  obtain ⟨content, isNull⟩ := v
  cases content with
  | integer kind value => cases kind <;> simp [IsNumber, OdbcDriver.paramOf]
  | string | float | double | decimal | blob | temporal => simp [IsNumber, OdbcDriver.paramOf]

/-- An entry of the array holds the value that was given, or the double of a float. -/
def Holds (slot : Slot) : Prop :=
  slot.value = slot.given ∨
    ∃ bits, slot.given.content = .float bits ∧ slot.value = .setDouble bits

theorem Holds.sendable_iff {slot : Slot} (h : Holds slot) :
    Sendable slot.given ↔
      Sendable slot.value ∧ denoted slot.value.content = meaning slot.given := by
  rcases h with h | ⟨bits, hcontent, hvalue⟩
  · rw [h]
    exact ⟨fun hs => ⟨hs, (meaning_of_not_null hs.1).symm⟩, And.left⟩
  · rw [hvalue]
    cases hnull : slot.given.isNull with
    | true =>
      rw [meaning_of_null hnull]
      refine iff_of_false (fun hs => ?_) fun hs => by cases hs.2
      exact absurd (hnull.symm.trans hs.1) (by decide)
    | false =>
      rw [meaning_of_not_null hnull, hcontent]
      exact iff_of_true ⟨hnull, by rw [hcontent]; trivial⟩ ⟨⟨rfl, trivial⟩, rfl⟩

/-- A binding of a position: without an indicator it points to an object of the position. -/
def Fits (i : ℕ) (b : Binding) : Prop :=
  b.indicator = some .returned ∨ b.indicator = none ∧ ∃ stamp, b.paramValue = .object i stamp

/-- A binding that may read something reads the bound object. -/
def Reads (st : Storage) (i : ℕ) (slot : Slot) (b : Binding) : Prop :=
  (b.indicator = some .returned ∧ ¬ Sendable slot.value) ∨
    (b.indicator = none ∧ Sendable slot.value ∧ (∃ stamp, b.paramValue = .object i stamp) ∧
      readValue st b = some (denoted slot.value.content))

/-- What a step has changed before it binds: the value of its own position at most. -/
structure Changed (i : ℕ) (slot : Slot) (s t : OdbcStatement) : Prop where
  bindCount_eq : t.bindCount = s.bindCount
  bindings_eq : t.bindings = s.bindings
  slots_eq : ∀ j ≠ i, t.slots j = s.slots j
  here : ∃ slot', t.slots i = some slot' ∧ slot'.given = slot.given ∧
    (Holds slot → Holds slot')

inductive Bound (s : OdbcStatement) (i : ℕ) (slot : Slot) (answer : Bool) :
    Bool × OdbcStatement → Prop
  | nothing (hcase : OdbcDriver.paramOf slot.value = none)
      (hread : ∀ cType, readField cType slot.value.content = none) :
      Bound s i slot answer (true, s)
  | bind (t : OdbcStatement) (b : Binding) (ht : Changed i slot s t)
      (hb : Reads t.toStorage i slot b) : Bound s i slot answer (t.bindParameter answer i b)

section

variable {s : OdbcStatement} {i : ℕ} {slot : Slot}

theorem changed_refl (hslot : s.slots i = some slot) : Changed i slot s s :=
  ⟨rfl, rfl, fun _ _ => rfl, slot, hslot, rfl, id⟩

theorem reads_number {t : OdbcStatement} {slot' : Slot} {cType : CType}
    (hslot : t.slots i = some slot') (hkind : IsNumber slot.value.content)
    (hread : readField cType slot'.value.content = some (denoted slot.value.content)) :
    Reads t.toStorage i slot
      (sqlBindParameterNumber cType (.object i slot'.stamp) slot.value.isNull) := by
  unfold sqlBindParameterNumber
  cases hnull : slot.value.isNull with
  | true => exact .inl ⟨rfl, fun h => absurd (hnull.symm.trans h.1) (by decide)⟩
  | false =>
    refine .inr ⟨rfl, ⟨hnull, hkind⟩, ⟨slot'.stamp, rfl⟩, ?_⟩
    simp [readValue, Storage.object, hslot, hread]

theorem reads_string {t : OdbcStatement} (paramValue : Ref)
    (hkind : ¬ IsNumber slot.value.content) :
    Reads t.toStorage i slot (sqlBindParameterString paramValue) :=
  .inl ⟨rfl, fun h => hkind h.2⟩

theorem bindOne_bound (answers : ℕ → Bool) (hslot : s.slots i = some slot) :
    Bound s i slot (answers i) (OdbcStatement.bindOne answers i slot s) := by
  have hsame := changed_refl hslot
  unfold OdbcStatement.bindOne
  dsimp only
  split
  next value hcontent =>
    exact .bind s _ hsame (reads_number hslot (by rw [hcontent]; trivial)
      (by rw [hcontent]; rfl))
  next bits hcontent =>
    have hself : (s.replaceFloat i slot bits).slots i =
      some ⟨slot.given, .setDouble bits, s.created⟩ := Function.update_self ..
    refine .bind _ _ ⟨rfl, rfl, fun j hj => Function.update_of_ne hj .., _, hself, rfl, ?_⟩
      (reads_number hself (by rw [hcontent]; trivial) (by rw [hcontent]; rfl))
    rintro (h | ⟨bits', hgiven, hvalue⟩)
    · exact .inr ⟨bits, by rw [← h, hcontent], rfl⟩
    · rw [hvalue] at hcontent
      cases hcontent
  next bits hcontent =>
    exact .bind s _ hsame (reads_number hslot (by rw [hcontent]; trivial)
      (by rw [hcontent]; rfl))
  next value hcontent =>
    exact .bind s _ hsame (reads_number hslot (by rw [hcontent]; trivial)
      (by rw [hcontent]; rfl))
  next value hcontent =>
    exact .bind _ _ ⟨rfl, rfl, fun _ _ => rfl, slot, hslot, rfl, id⟩
      (reads_string _ (by rw [hcontent]; exact id))
  next kind parts text hcontent =>
    exact .bind _ _ ⟨rfl, rfl, fun _ _ => rfl, slot, hslot, rfl, id⟩
      (reads_string _ (by rw [hcontent]; exact id))
  next hint hfloat hdouble hlong hstring htemporal =>
    obtain ⟨slotGiven, ⟨content, isNull⟩, stamp⟩ := slot
    cases content with
    | integer kind value =>
      cases kind with
      | int => exact absurd rfl (hint value)
      | long => exact absurd rfl (hlong value)
      | byte | bool | short | uint | ulong =>
        exact .nothing rfl fun cType => by cases cType <;> rfl
    | float bits => exact absurd rfl (hfloat bits)
    | double bits => exact absurd rfl (hdouble bits)
    | string value => exact absurd rfl (hstring value)
    | temporal kind parts text => exact absurd rfl (htemporal kind parts text)
    | decimal | blob => exact .nothing rfl fun cType => by cases cType <;> rfl

end

/-! ### The loop -/

/-- The bindings fit, none is made for a position that nobody bound, and the array holds what
was given. -/
structure OdbcInv (s : OdbcStatement) : Prop where
  fits : ∀ i, ∀ b ∈ s.bindings i, Fits i b
  unbound : ∀ i, s.bindCount ≤ i → s.bindings i = none
  holds : ∀ i slot, s.slots i = some slot → Holds slot

/-- The values as they were given, and their number. -/
def SameGiven (s t : OdbcStatement) : Prop :=
  t.bindCount = s.bindCount ∧ ∀ i, (t.slots i).map (·.given) = (s.slots i).map (·.given)

theorem SameGiven.trans {s t u : OdbcStatement} (h : SameGiven s t) (h' : SameGiven t u) :
    SameGiven s u := ⟨h'.1.trans h.1, fun i => (h'.2 i).trans (h.2 i)⟩

/-- What the binding of a position reads in the storage of a statement. -/
def readAt (s : OdbcStatement) (i : ℕ) : Option Datum :=
  (s.bindings i).bind (readParam s.toStorage)

theorem Reads.fits {st : Storage} {i : ℕ} {slot : Slot} {b : Binding} (h : Reads st i slot b) :
    Fits i b := by
  rcases h with ⟨hreturned, -⟩ | ⟨hnone, -, hobject, -⟩
  · exact .inl hreturned
  · exact .inr ⟨hnone, hobject⟩

/-- Nothing is read through a binding where the bound object has no field of its C type. -/
theorem Fits.read_eq_none {st : Storage} {i : ℕ} {slot : Slot} {b : Binding} (h : Fits i b)
    (hslot : st.slots i = some slot)
    (hread : ∀ cType, readField cType slot.value.content = none) : readParam st b = none := by
  rcases h with hreturned | ⟨hnone, stamp, hobject⟩
  · rw [readParam, hreturned]
  · rw [readParam, hnone, readValue, hobject]
    by_cases hstamp : slot.stamp = stamp
    · simp [Storage.object, hslot, hstamp, hread]
    · simp [Storage.object, hslot, hstamp]

theorem Fits.read_congr {st st' : Storage} {i : ℕ} {b : Binding} (h : Fits i b)
    (hslots : st'.slots i = st.slots i) : readParam st' b = readParam st b := by
  rcases h with hreturned | ⟨hnone, stamp, hobject⟩
  · rw [readParam, readParam, hreturned]
  · simp only [readParam, hnone, readValue, hobject, Storage.object, hslots]

section

variable {s : OdbcStatement} {i : ℕ} {slot : Slot} {answer : Bool} {r : Bool × OdbcStatement}

theorem Changed.given_eq {t : OdbcStatement} (h : Changed i slot s t)
    (hslot : s.slots i = some slot) : SameGiven s t := by
  refine ⟨h.bindCount_eq, fun j => ?_⟩
  by_cases hj : j = i
  · subst hj
    obtain ⟨slot', hslot', hgiven, -⟩ := h.here
    rw [hslot, hslot']
    exact congrArg some hgiven
  · rw [h.slots_eq j hj]

theorem Changed.inv {t : OdbcStatement} (h : Changed i slot s t) (hslot : s.slots i = some slot)
    (hs : OdbcInv s) : OdbcInv t := by
  refine ⟨?_, ?_, fun j slot₁ hslot₁ => ?_⟩
  · rw [h.bindings_eq]
    exact hs.fits
  · rw [h.bindings_eq, h.bindCount_eq]
    exact hs.unbound
  · by_cases hj : j = i
    · subst hj
      obtain ⟨slot', hslot', -, hholds⟩ := h.here
      obtain rfl := Option.some.inj (hslot₁.symm.trans hslot')
      exact hholds (hs.holds j slot hslot)
    · exact hs.holds j slot₁ ((h.slots_eq j hj).symm.trans hslot₁)

theorem bindParameter_self (b : Binding) :
    (s.bindParameter true i b).2.bindings i = some b := Function.update_self ..

theorem bindParameter_of_ne (answer : Bool) {j : ℕ} (hj : j ≠ i) (b : Binding) :
    (s.bindParameter answer i b).2.bindings j = s.bindings j := by
  cases answer with
  | false => rfl
  | true => exact Function.update_of_ne hj ..

@[simp] theorem bindParameter_toStorage (answer : Bool) (b : Binding) :
    (s.bindParameter answer i b).2.toStorage = s.toStorage := by
  cases answer <;> rfl

theorem bindParameter_inv {b : Binding} (hs : OdbcInv s) (hi : i < s.bindCount) (hb : Fits i b) :
    OdbcInv (s.bindParameter answer i b).2 := by
  cases answer with
  | false => exact hs
  | true =>
    refine ⟨fun j b' hb' => ?_, fun j hj => ?_, hs.holds⟩
    · by_cases hj : j = i
      · subst hj
        rw [bindParameter_self] at hb'
        obtain rfl := Option.some.inj hb'
        exact hb
      · exact hs.fits j b' ((bindParameter_of_ne true hj b).symm.trans hb')
    · have hne : j ≠ i := by
        rintro rfl
        exact absurd hi (Nat.not_lt.mpr hj)
      exact (bindParameter_of_ne true hne b).trans (hs.unbound j hj)

theorem Bound.inv (h : Bound s i slot answer r) (hslot : s.slots i = some slot) (hs : OdbcInv s)
    (hi : i < s.bindCount) : OdbcInv r.2 := by
  cases h with
  | nothing => exact hs
  | bind t b ht hb =>
    exact bindParameter_inv (ht.inv hslot hs) (by rw [ht.bindCount_eq]; exact hi) hb.fits

theorem Bound.sameGiven (h : Bound s i slot answer r) (hslot : s.slots i = some slot) :
    SameGiven s r.2 := by
  cases h with
  | nothing => exact ⟨rfl, fun _ => rfl⟩
  | bind t b ht hb =>
    have hgiven := ht.given_eq hslot
    cases answer <;> exact hgiven

theorem Bound.read (h : Bound s i slot answer r) (hdone : r.1 = true)
    (hslot : s.slots i = some slot) (hs : OdbcInv s) :
    readAt r.2 i = some (meaning slot.given) ↔ Sendable slot.given := by
  rw [(hs.holds i slot hslot).sendable_iff]
  cases h with
  | nothing hcase hread =>
    have hnumber : ¬ Sendable slot.value := by
      rintro ⟨-, hnumber⟩
      obtain ⟨value, indicator, hvalue, -⟩ := (isNumber_iff slot.value).mp hnumber
      rw [hcase] at hvalue
      cases hvalue
    refine iff_of_false (fun hsome => ?_) fun hsend => hnumber hsend.1
    obtain ⟨b, hb, hparam⟩ := Option.bind_eq_some_iff.mp hsome
    rw [(hs.fits i b hb).read_eq_none hslot hread] at hparam
    cases hparam
  | bind t b ht hb =>
    obtain rfl : answer = true := hdone
    have hself : readAt (t.bindParameter true i b).2 i = readParam t.toStorage b := by
      rw [readAt, bindParameter_self, bindParameter_toStorage, Option.bind_some]
    rw [hself]
    rcases hb with ⟨hreturned, hnot⟩ | ⟨hnone, hsend, -, hvalue⟩
    · refine iff_of_false (fun hsome => ?_) fun hsend => hnot hsend.1
      rw [readParam, hreturned] at hsome
      cases hsome
    · rw [readParam, hnone, hvalue, Option.some_inj]
      exact ⟨fun heq => ⟨hsend, heq⟩, And.right⟩

theorem Bound.others (h : Bound s i slot answer r) (hs : OdbcInv s) {j : ℕ} (hj : j ≠ i) :
    r.2.slots j = s.slots j ∧ readAt r.2 j = readAt s j := by
  cases h with
  | nothing => exact ⟨rfl, rfl⟩
  | bind t b ht hb =>
    have hslots := ht.slots_eq j hj
    refine ⟨by simpa using hslots, ?_⟩
    rw [readAt, readAt, bindParameter_of_ne answer hj b, ht.bindings_eq, bindParameter_toStorage]
    cases hbinding : s.bindings j with
    | none => rfl
    | some old => exact (hs.fits j old hbinding).read_congr hslots

end

/-- After the steps of the first `n` positions. -/
structure BoundTo (s₀ : OdbcStatement) (n : ℕ) (s : OdbcStatement) : Prop where
  inv : OdbcInv s
  sameGiven : SameGiven s₀ s
  done : ∀ i < n, ∃ slot, s.slots i = some slot ∧
    (readAt s i = some (meaning slot.given) ↔ Sendable slot.given)

theorem bindOne_boundTo {s₀ s : OdbcStatement} {answers : ℕ → Bool} {n : ℕ} {slot : Slot}
    (h : BoundTo s₀ n s) (hn : n < s₀.bindCount) (hslot : s.slots n = some slot)
    (hdone : (OdbcStatement.bindOne answers n slot s).1 = true) :
    BoundTo s₀ (n + 1) (OdbcStatement.bindOne answers n slot s).2 := by
  have hbound := bindOne_bound answers hslot
  have hn' : n < s.bindCount := by rw [h.sameGiven.1]; exact hn
  refine ⟨hbound.inv hslot h.inv hn', h.sameGiven.trans (hbound.sameGiven hslot), fun j hj => ?_⟩
  rcases Nat.lt_succ_iff_lt_or_eq.mp hj with hlt | rfl
  · obtain ⟨slot', hslot', hread⟩ := h.done j hlt
    obtain ⟨hslots, hreads⟩ := hbound.others h.inv hlt.ne
    exact ⟨slot', hslots.trans hslot', by rw [hreads]; exact hread⟩
  · have hgiven := (hbound.sameGiven hslot).2 j
    rw [hslot] at hgiven
    obtain ⟨slot', hslot', hsame⟩ := Option.map_eq_some_iff.mp hgiven
    refine ⟨slot', hslot', ?_⟩
    rw [hsame]
    exact hbound.read hdone hslot h.inv

/-! ### Executions -/

/-- Every parameter is bound to a number that is not null. -/
def OdbcBinds (paramCount : ℕ) (s : OdbcStatement) : Prop :=
  ∀ i < paramCount, i < s.bindCount ∧ ∃ slot, s.slots i = some slot ∧ Sendable slot.given

section

variable {paramCount : ℕ} {s : OdbcStatement}

/-- The state at the end of the binding loop of a round. -/
def afterLoop (answers : ℕ → Bool) (s : OdbcStatement) : Bool × OdbcStatement :=
  bindLoop (·.slots) (OdbcStatement.bindOne answers) s.bindCount
    { s with toStorage := s.toStorage.next }

theorem next_boundTo (h : OdbcInv s) : BoundTo s 0 { s with toStorage := s.toStorage.next } :=
  ⟨⟨h.fits, h.unbound, h.holds⟩, ⟨rfl, fun _ => rfl⟩, fun i hi => absurd hi (Nat.not_lt_zero i)⟩

theorem afterLoop_kept (h : OdbcInv s) (answers : ℕ → Bool) :
    OdbcInv (afterLoop answers s).2 ∧ SameGiven s (afterLoop answers s).2 := by
  refine @bindLoop_kept OdbcStatement (fun t => t.slots) (OdbcStatement.bindOne answers)
    (fun t => OdbcInv t ∧ SameGiven s t) s.bindCount (fun n hn slot t hslot ht => ?_) _
    ⟨(next_boundTo h).inv, (next_boundTo h).sameGiven⟩
  have hbound := bindOne_bound answers hslot
  exact ⟨hbound.inv hslot ht.1 (by rw [ht.2.1]; exact hn), ht.2.trans (hbound.sameGiven hslot)⟩

theorem afterLoop_done (h : OdbcInv s) {answers : ℕ → Bool}
    (hdone : (afterLoop answers s).1 = true) : BoundTo s s.bindCount (afterLoop answers s).2 :=
  @bindLoop_done OdbcStatement (fun t => t.slots) (OdbcStatement.bindOne answers) (BoundTo s)
    s.bindCount (fun _ hn _ _ ht hslot hone => bindOne_boundTo ht hn hslot hone) _
    (next_boundTo h) hdone

theorem execute_fst (answers : ℕ → Bool) (s : OdbcStatement) :
    (OdbcStatement.execute paramCount answers s).1 = (afterLoop answers s).2 := by
  unfold OdbcStatement.execute
  dsimp only
  split <;> rfl

theorem execute_snd {answers : ℕ → Bool} {data : List (Option Datum)}
    (h : data ∈ (OdbcStatement.execute paramCount answers s).2) :
    (afterLoop answers s).1 = true ∧ data = (afterLoop answers s).2.read paramCount := by
  unfold OdbcStatement.execute at h
  dsimp only at h
  split at h
  next => cases h
  next hdone => exact ⟨not_not.mp hdone, (Option.some.inj h).symm⟩

theorem given_congr {t : OdbcStatement} (h : SameGiven s t) :
    given paramCount t.toStorage = given paramCount s.toStorage := by
  refine List.map_congr_left fun i _ => ?_
  have hgiven := congrArg (Option.map meaning) (h.2 i)
  simpa [Option.map_map, Function.comp_def] using hgiven

theorem odbc_sends (h : OdbcInv s) (answers : ℕ → Bool) :
    ∀ data ∈ (OdbcStatement.execute paramCount answers s).2,
      (Sends (given paramCount s.toStorage) data ↔ OdbcBinds paramCount s) := by
  intro data hdata
  obtain ⟨hdone, rfl⟩ := execute_snd hdata
  have hbound := afterLoop_done h hdone
  have hgiven := hbound.sameGiven
  unfold OdbcStatement.read OdbcBinds
  rw [← given_congr hgiven, sends_iff]
  refine forall₂_congr fun i _ => ?_
  by_cases hi : i < s.bindCount
  · obtain ⟨slot, hslot, hread⟩ := hbound.done i hi
    have hfirst := hgiven.2 i
    rw [hslot] at hfirst
    obtain ⟨slot₀, hslot₀, hsame⟩ := Option.map_eq_some_iff.mp hfirst.symm
    simp only [hslot, hslot₀, hsame, hi, true_and, Option.some.injEq, exists_eq_left']
    exact hread
  · have hnone := hbound.inv.unbound i (by rw [hgiven.1]; exact Nat.not_lt.mp hi)
    simp [hi, hnone]

theorem odbcInv_bind (h : OdbcInv s) (index : ℕ) (value : TDBType) :
    OdbcInv { s with toStorage := s.toStorage.bindValue index value } := by
  refine ⟨h.fits, fun i hi => h.unbound i (le_trans ?_ hi),
    Storage.forall_bindValue h.holds (.inl rfl)⟩
  simp only [Storage.bindValue]
  split_ifs <;> omega

theorem odbc_decides (paramCount : ℕ) :
    Decides (odbcRounds paramCount) paramCount OdbcInv (OdbcBinds paramCount) where
  bind_kept index value _ hs := odbcInv_bind hs index value
  execute_kept answers s hs := by
    rw [show ((odbcRounds paramCount).execute answers s).1 = _ from execute_fst answers s]
    exact (afterLoop_kept hs answers).1
  given_kept answers s hs := by
    rw [show ((odbcRounds paramCount).execute answers s).1 = _ from execute_fst answers s]
    exact given_congr (afterLoop_kept hs answers).2
  sends answers _ hs := odbc_sends hs answers

end

/-- A statement with a new handle; the array of bound values is kept from before. -/
def OdbcStatement.prepared (values : ℕ → Option TDBType) : OdbcStatement where
  slots i := (values i).map fun v => ⟨v, v, 0⟩
  bindCount := 0
  created := 1
  round := 0
  scratch _ := none
  flags _ := false
  bindings _ := none

theorem odbcInv_prepared (values : ℕ → Option TDBType) : OdbcInv (.prepared values) := by
  constructor
  · intro i b hb
    cases hb
  · intro i _
    rfl
  · intro i slot hslot
    obtain ⟨v, -, rfl⟩ := Option.map_eq_some_iff.mp hslot
    exact .inl rfl

/-! ### Both drivers -/

open MariaReferences (MariaStatement mariaRounds MariaBinds maria_decides mariaInv_prepared)

/-- Every execution of a run sends the bound parameters. -/
def SendsBound {σ : Type} (D : Rounds σ) (paramCount : ℕ) (s : σ) (events : List Event) : Prop :=
  Faithful D paramCount none s events

theorem parameters_faithful (paramCount : ℕ) (values : ℕ → Option TDBType) (events : List Event) :
    (SendsBound (mariaRounds paramCount) paramCount (.prepared values) events ↔
      EveryExecution (mariaRounds paramCount) (MariaBinds paramCount) (.prepared values) events) ∧
    (SendsBound (odbcRounds paramCount) paramCount (.prepared values) events ↔
      EveryExecution (odbcRounds paramCount) (OdbcBinds paramCount) (.prepared values) events) :=
  ⟨(maria_decides paramCount).faithful_iff events (mariaInv_prepared values) (by simp),
    (odbc_decides paramCount).faithful_iff events (odbcInv_prepared values) (by simp)⟩

/-- With MariaDB a Bool is not bound at all, and with ODBC a text has a dead indicator. -/
theorem parameter_not_sent :
    ¬ SendsBound (mariaRounds 1) 1 (.prepared fun _ => none)
      [.bind 0 ⟨.integer .bool 1, false⟩, .execute fun _ => true] ∧
    ¬ SendsBound (odbcRounds 1) 1 (.prepared fun _ => none)
      [.bind 0 (.setString ['a']), .execute fun _ => true] := by
  constructor
  · intro hrun
    exact absurd (hrun.1 _ rfl).1.2 (by decide)
  · intro hrun
    exact absurd (hrun.1 _ rfl).1.2 (by decide)

end DatabaseMod.OdbcReferences
