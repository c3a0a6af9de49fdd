import DatabaseMod.PostgresDriver

/-!
# The arrays of parameters

`execute` fills three arrays that `malloc` hands out, one slot for each bound value. What the
arrays held before is a parameter, so that two runs over different memory can be compared.
-/

namespace DatabaseMod.PostgresParameterArrays
open SqlTokens (Text)
open CoreValues PostgresDriver

/-- An entry of `params`: a string of the runtime, the block of a blob, or what was in memory. -/
inductive CharPtr
  | null
  | string (s : Text)
  | block (data : List UInt8)
  | raw (address : ℕ)
deriving DecidableEq, Repr

@[ext]
structure ParamArrays (n : ℕ) where
  params : Fin n → CharPtr
  lengths : Fin n → ℤ
  formats : Fin n → ℤ

namespace ParamArrays

variable {n : ℕ} (a : ParamArrays n) (i : Fin n)

def setNullParam : ParamArrays n := { a with params := Function.update a.params i .null }

def setParam (text : CharPtr) (length : ℤ) : ParamArrays n where
  params := Function.update a.params i text
  lengths := Function.update a.lengths i length
  formats := Function.update a.formats i 0

def setParamBinary (data : CharPtr) (length : ℤ) : ParamArrays n where
  params := Function.update a.params i data
  lengths := Function.update a.lengths i length
  formats := Function.update a.formats i 1

/-- What the three arrays have at one position. -/
def slot : CharPtr × ℤ × ℤ := (a.params i, a.lengths i, a.formats i)

end ParamArrays

variable {n : ℕ} (rt : Runtime)

/-- An empty blob has no block of memory. -/
def blobPointer : List UInt8 → CharPtr
  | [] => .null
  | b :: data => .block (b :: data)

/-- The body of the binding loop, with the local string `s`. Strings and decimals are sent with
the length of the `s` of an earlier round. -/
def bindValue (value : Option TDBType) (i : Fin n) (st : Text × ParamArrays n) :
    Text × ParamArrays n :=
  let (s, a) := st
  let sent (s : Text) : Text × ParamArrays n := (s, a.setParam i (.string s) s.length)
  match value with
  | none => (s, a.setNullParam i)
  | some v =>
    if v.isNull then (s, a.setNullParam i)
    else match v.content with
      | .integer .bool value => sent (if value ≠ 0 then ['t'] else ['f'])
      | .integer _ value => sent (printInteger value)
      | .float bits => sent (rt.fromFloat bits)
      | .double bits => sent (rt.fromDouble bits)
      | .blob data => (s, a.setParamBinary i (blobPointer data) data.length)
      | .temporal _ _ text => sent text
      | .string _ | .decimal _ => (s, a.setParam i (.string v.getString) s.length)

def bindValues (values : List (Option TDBType)) (l : List (Fin values.length))
    (st : Text × ParamArrays values.length) : Text × ParamArrays values.length :=
  l.foldl (fun st i => bindValue rt values[i] i st) st

/-- The arrays that `PQexecPrepared` is given, from the arrays as they were allocated. -/
def paramArrays (values : List (Option TDBType)) (fresh : ParamArrays values.length) :
    ParamArrays values.length :=
  (bindValues rt values (List.finRange values.length) ([], fresh)).2

/-- A parameter as the protocol reads a slot: a null pointer is NULL, a text ends at its first NUL
and a binary value is as long as it is said to be. -/
def readParam : CharPtr × ℤ × ℤ → Option Param
  | (.null, _, _) => some .null
  | (.string s, _, 0) => some (.text (cString s))
  | (.block data, length, 1) => some (.binary (data.take length.toNat))
  | _ => none

def IsNullValue (value : Option TDBType) : Prop := ∀ v ∈ value, v.isNull = true

/-- Blobs are binary, everything else is text. -/
def formatOf : Option TDBType → ℤ
  | none => 0
  | some v => if v.kind = DBTYPE_BLOB then 1 else 0

/-! ### One value -/

section

variable {rt} {value : Option TDBType} {i j : Fin n} {s : Text} {a b : ParamArrays n}

theorem slot_setNullParam_self (a : ParamArrays n) (i : Fin n) :
    (a.setNullParam i).slot i = (.null, a.lengths i, a.formats i) := by
  simp [ParamArrays.setNullParam, ParamArrays.slot]

theorem slot_setParam_self (a : ParamArrays n) (i : Fin n) (text : CharPtr) (length : ℤ) :
    (a.setParam i text length).slot i = (text, length, 0) := by
  simp [ParamArrays.setParam, ParamArrays.slot]

theorem slot_setParamBinary_self (a : ParamArrays n) (i : Fin n) (data : CharPtr) (length : ℤ) :
    (a.setParamBinary i data length).slot i = (data, length, 1) := by
  simp [ParamArrays.setParamBinary, ParamArrays.slot]

theorem slot_setters_other (h : j ≠ i) (a : ParamArrays n) (p : CharPtr) (length : ℤ) :
    (a.setNullParam i).slot j = a.slot j ∧ (a.setParam i p length).slot j = a.slot j ∧
      (a.setParamBinary i p length).slot j = a.slot j := by
  simp [ParamArrays.setNullParam, ParamArrays.setParam, ParamArrays.setParamBinary,
    ParamArrays.slot, h]

theorem bindValue_null (h : IsNullValue value) :
    bindValue rt value i (s, a) = (s, a.setNullParam i) := by
  cases value with
  | none => rfl
  | some v => simp only [bindValue, h v rfl, if_true]

/-- What a value that is not null does: one call of one of the two setters, with arguments that
do not depend on the arrays. -/
theorem bindValue_cases (rt : Runtime) (s : Text) (h : ¬ IsNullValue value) :
    ∃ s' p length, readParam (p, length, formatOf value) = some (paramOf rt value) ∧
      ((formatOf value = 0 ∧ ∀ {n : ℕ} (i : Fin n) (a : ParamArrays n),
          bindValue rt value i (s, a) = (s', a.setParam i p length)) ∨
        (formatOf value = 1 ∧ ∀ {n : ℕ} (i : Fin n) (a : ParamArrays n),
          bindValue rt value i (s, a) = (s', a.setParamBinary i p length))) := by
  obtain ⟨content, hvalue⟩ : ∃ content, value = some ⟨content, false⟩ := by
    cases value with
    | none => exact absurd (fun v hv => by cases hv) h
    | some v =>
      obtain ⟨content, isNull⟩ := v
      cases isNull with
      | false => exact ⟨content, rfl⟩
      | true => exact absurd (fun w hw => by cases hw; rfl) h
  subst hvalue
  cases content with
  | integer kind value =>
    cases kind with
    | bool =>
      refine ⟨_, _, _, ?_, .inl ⟨rfl, fun i a => rfl⟩⟩
      by_cases hvalue : value = 0
      · subst hvalue
        rfl
      · simp [readParam, formatOf, TDBType.kind, paramOf, hvalue, cString, DBTYPE_BOOL,
          DBTYPE_BLOB, NUL]
    | _ => exact ⟨_, _, _, rfl, .inl ⟨rfl, fun i a => rfl⟩⟩
  | blob data =>
    refine ⟨s, blobPointer data, data.length, ?_, .inr ⟨rfl, fun i a => rfl⟩⟩
    cases data with
    | nil => rfl
    | cons b data => simp [readParam, blobPointer, formatOf, TDBType.kind, paramOf]
  | temporal kind parts text =>
    cases kind <;> exact ⟨_, _, _, rfl, .inl ⟨rfl, fun i a => rfl⟩⟩
  | _ => exact ⟨_, _, _, rfl, .inl ⟨rfl, fun i a => rfl⟩⟩

theorem bindValue_other (h : j ≠ i) : (bindValue rt value i (s, a)).2.slot j = a.slot j := by
  by_cases hnull : IsNullValue value
  · rw [bindValue_null hnull]
    exact (slot_setters_other h a .null 0).1
  · obtain ⟨s', p, length, -, ⟨-, hbind⟩ | ⟨-, hbind⟩⟩ := bindValue_cases rt s hnull
    · rw [hbind]
      exact (slot_setters_other h a p length).2.1
    · rw [hbind]
      exact (slot_setters_other h a p length).2.2

/-- The local string does not depend on the arrays. -/
theorem bindValue_string (rt : Runtime) (value : Option TDBType) (s : Text) :
    ∃ s', ∀ {n : ℕ} (i : Fin n) (a : ParamArrays n), (bindValue rt value i (s, a)).1 = s' := by
  by_cases hnull : IsNullValue value
  · exact ⟨s, fun i a => by rw [bindValue_null hnull]⟩
  · obtain ⟨s', p, length, -, ⟨-, hbind⟩ | ⟨-, hbind⟩⟩ := bindValue_cases rt s hnull
    · exact ⟨s', fun i a => by rw [hbind]⟩
    · exact ⟨s', fun i a => by rw [hbind]⟩

end

/-! ### The loop -/

section

variable {rt} {values : List (Option TDBType)}

theorem bindValues_other {l : List (Fin values.length)} {i : Fin values.length} (hi : i ∉ l)
    (st : Text × ParamArrays values.length) : (bindValues rt values l st).2.slot i = st.2.slot i := by
  induction l generalizing st with
  | nil => rfl
  | cons k l ih =>
    obtain ⟨hik, hil⟩ : i ≠ k ∧ i ∉ l := by simpa using hi
    rw [bindValues, List.foldl_cons]
    exact (ih hil _).trans (bindValue_other hik)

/-- One round writes each slot, from what it was when the loop began. -/
theorem bindValues_slot {l : List (Fin values.length)} (hl : l.Nodup) (s : Text)
    {i : Fin values.length} (hi : i ∈ l) : ∃ s', ∀ a, ∃ b : ParamArrays values.length,
      b.slot i = a.slot i ∧
        (bindValues rt values l (s, a)).2.slot i = (bindValue rt values[i] i (s', b)).2.slot i := by
  induction l generalizing s with
  | nil => cases hi
  | cons k l ih =>
    obtain ⟨hk, hl⟩ := List.nodup_cons.mp hl
    obtain ⟨t, ht⟩ := bindValue_string rt values[k] s
    have hrest (a : ParamArrays values.length) : bindValues rt values (k :: l) (s, a) =
        bindValues rt values l (t, (bindValue rt values[k] k (s, a)).2) := by
      rw [← ht k a]
      rfl
    by_cases hik : i = k
    · subst hik
      refine ⟨s, fun a => ⟨a, rfl, ?_⟩⟩
      rw [hrest, bindValues_other hk]
    · obtain ⟨s', hs'⟩ := ih hl t ((List.mem_cons.mp hi).resolve_left hik)
      refine ⟨s', fun a => ?_⟩
      obtain ⟨b, hb, hslot⟩ := hs' (bindValue rt values[k] k (s, a)).2
      refine ⟨b, hb.trans (bindValue_other hik), ?_⟩
      rw [hrest]
      exact hslot

theorem paramArrays_slot (rt : Runtime) (i : Fin values.length) :
    ∃ s, ∀ fresh, ∃ b : ParamArrays values.length, b.slot i = fresh.slot i ∧
      (paramArrays rt values fresh).slot i = (bindValue rt values[i] i (s, b)).2.slot i :=
  bindValues_slot (List.nodup_finRange _) [] (List.mem_finRange i)

theorem paramArrays_null (rt : Runtime) {i : Fin values.length} (h : IsNullValue values[i])
    (fresh : ParamArrays values.length) :
    (paramArrays rt values fresh).slot i = (.null, fresh.lengths i, fresh.formats i) := by
  obtain ⟨s, hs⟩ := paramArrays_slot rt i
  obtain ⟨b, hb, hslot⟩ := hs fresh
  have hkept : b.lengths i = fresh.lengths i ∧ b.formats i = fresh.formats i := by
    simpa [ParamArrays.slot] using (Prod.ext_iff.mp hb).2
  rw [hslot, bindValue_null h, slot_setNullParam_self, hkept.1, hkept.2]

theorem paramArrays_value (rt : Runtime) {i : Fin values.length} (h : ¬ IsNullValue values[i]) :
    ∃ p length, readParam (p, length, formatOf values[i]) = some (paramOf rt values[i]) ∧
      ∀ fresh, (paramArrays rt values fresh).slot i = (p, length, formatOf values[i]) := by
  obtain ⟨s, hs⟩ := paramArrays_slot rt i
  obtain ⟨s', p, length, hread, hsetter⟩ := bindValue_cases rt s h
  refine ⟨p, length, hread, fun fresh => ?_⟩
  obtain ⟨b, -, hslot⟩ := hs fresh
  rw [hslot]
  cases hsetter with
  | inl hsetter => rw [hsetter.2, slot_setParam_self, hsetter.1]
  | inr hsetter => rw [hsetter.2, slot_setParamBinary_self, hsetter.1]

end

/-- Whatever was in memory, a reader that ignores the length and format of a null pointer finds
the parameters of `execute`. -/
theorem readParam_paramArrays (values : List (Option TDBType))
    (fresh : ParamArrays values.length) :
    (List.finRange values.length).map (fun i => readParam ((paramArrays rt values fresh).slot i)) =
      (values.map (paramOf rt)).map some := by
  have hread (i : Fin values.length) :
      readParam ((paramArrays rt values fresh).slot i) = some (paramOf rt values[i]) := by
    by_cases h : IsNullValue values[i]
    · rw [paramArrays_null rt h]
      cases hv : values[i] with
      | none => rfl
      | some v => simp only [readParam, paramOf, h v hv, if_true]
    · obtain ⟨p, length, hread, hslot⟩ := paramArrays_value rt h
      rw [hslot, hread]
  rw [List.map_congr_left fun i _ => hread i, List.map_map]
  exact List.ext_getElem (by simp) fun i hi hi' => by simp

/-- Two runs give the same arrays, and every format is text or, for blobs only, binary. -/
structure Initialised (values : List (Option TDBType)) : Prop where
  twoRun : ∀ fresh fresh', paramArrays rt values fresh = paramArrays rt values fresh'
  text : ∀ fresh i, (paramArrays rt values fresh).formats i = 0 ∨
    (paramArrays rt values fresh).formats i = 1
  binary : ∀ fresh i, (paramArrays rt values fresh).formats i = 1 →
    ∃ v ∈ values[i], v.kind = DBTYPE_BLOB

theorem arrays_initialised_iff (values : List (Option TDBType)) :
    Initialised rt values ↔ ∀ value ∈ values, ¬ IsNullValue value := by
  constructor
  · intro h value hvalue hnull
    obtain ⟨k, hk, rfl⟩ := List.getElem_of_mem hvalue
    let filled (x : ℤ) : ParamArrays values.length := ⟨fun _ => .null, fun _ => x, fun _ => x⟩
    have hslot (x : ℤ) := paramArrays_null rt (i := ⟨k, hk⟩) hnull (filled x)
    have heq := (hslot 0).symm.trans ((congrArg (·.slot ⟨k, hk⟩) (h.twoRun _ _)).trans (hslot 1))
    simp [filled] at heq
  · intro h
    have hvalue (i : Fin values.length) : ¬ IsNullValue values[i] := h _ (List.getElem_mem i.isLt)
    have hformat (fresh) (i : Fin values.length) :
        (paramArrays rt values fresh).formats i = formatOf values[i] := by
      obtain ⟨p, length, -, hslot⟩ := paramArrays_value rt (hvalue i)
      exact congrArg (fun slot => slot.2.2) (hslot fresh)
    refine ⟨fun fresh fresh' => ?_, fun fresh i => ?_, fun fresh i hone => ?_⟩
    · have hsame (i : Fin values.length) :
          (paramArrays rt values fresh).slot i = (paramArrays rt values fresh').slot i := by
        obtain ⟨p, length, -, hslot⟩ := paramArrays_value rt (hvalue i)
        rw [hslot, hslot]
      have hparams := funext fun i => congrArg (fun slot => slot.1) (hsame i)
      have hlengths := funext fun i => congrArg (fun slot => slot.2.1) (hsame i)
      have hformats := funext fun i => congrArg (fun slot => slot.2.2) (hsame i)
      exact ParamArrays.ext hparams hlengths hformats
    · rw [hformat, formatOf.eq_def]
      split
      · exact .inl rfl
      · split_ifs
        · exact .inr rfl
        · exact .inl rfl
    · rw [hformat] at hone
      cases hv : values[i] with
      | none =>
        rw [hv] at hone
        cases hone
      | some v =>
        refine ⟨v, rfl, ?_⟩
        by_contra hkind
        rw [hv, formatOf, if_neg hkind] at hone
        cases hone

/-- One null parameter over memory that holds a five: it is sent as a format. -/
theorem null_format_left :
    ¬ Initialised ⟨.integers, CoreFormat.unpadded, fun _ => [], fun _ => [], id⟩ [none] := by
  intro h
  have htext := h.text ⟨fun _ => .raw 5, fun _ => 5, fun _ => 5⟩ 0
  have hfive : (paramArrays ⟨.integers, CoreFormat.unpadded, fun _ => [], fun _ => [], id⟩ [none]
      ⟨fun _ => .raw 5, fun _ => 5, fun _ => 5⟩).formats 0 = 5 := rfl
  rw [hfive] at htext
  omega

end DatabaseMod.PostgresParameterArrays
