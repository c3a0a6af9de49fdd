import DatabaseMod.DriverNulls

/-!
# References of bound parameters

A client library keeps the addresses of buffers and null indicators and reads them when the
statement is executed. An address is named by the storage it belongs to: the field of a bound
object, memory or an entry of an array that a round of binding and execution made, or the
local variable of a function that has returned. Bound objects are fresh ones that change no
more; each has the number of objects made before it as its stamp.
-/

namespace DatabaseMod.ParameterReferences
open SqlTokens (Text)
open CoreValues CoreResultSet
open CoreDateParser (DateFields)
open MachineInteger (castInt32 castInt32_of_mem castInt32_mem)

/-! ### What a parameter denotes -/

inductive Datum
  | null
  | integer (value : ℤ)
  | real (bits : UInt64)
  | text (value : Text)
  | bytes (data : List UInt8)
  | temporal (kind : TemporalKind) (parts : DateFields)
deriving DecidableEq, Repr

/-- The parts that a value of a kind has. -/
def visible : TemporalKind → DateFields → DateFields
  | .date, p => ⟨p.y, p.m, p.d, 0, 0, 0, 0⟩
  | .time, p => ⟨0, 0, 0, p.hh, p.mm, p.ss, p.micros⟩
  | .dateTime, p => p

def denoted : Content → Datum
  | .integer _ value => .integer value
  | .float bits | .double bits => .real bits
  | .string value => .text value
  | .decimal value => .text (value.getD [])
  | .blob data => .bytes data
  | .temporal kind parts _ => .temporal kind (visible kind parts)

def meaning (v : TDBType) : Datum := if v.isNull then .null else denoted v.content

theorem meaning_of_null {v : TDBType} (h : v.isNull = true) : meaning v = .null := if_pos h

theorem meaning_of_not_null {v : TDBType} (h : v.isNull = false) :
    meaning v = denoted v.content := if_neg (by simp [h])

/-! ### Storage -/

inductive Ref
  | object (position stamp : ℕ)
  | scratch (round position : ℕ)
  | flag (round position : ℕ)
  | returned
deriving DecidableEq, Repr

/-- A bound value, as it was given and as the array holds it now. -/
structure Slot where
  given : TDBType
  value : TDBType
  stamp : ℕ

/-- Memory that a round makes for a parameter and frees at its end. -/
inductive Scratch
  | chars (text : Text)
  | time (parts : DateFields)

/-- The array of bound values and what the current round made. -/
structure Storage where
  slots : ℕ → Option Slot
  bindCount : ℕ
  created : ℕ
  round : ℕ
  scratch : ℕ → Option Scratch
  flags : ℕ → Bool

namespace Storage

variable (st : Storage)

/-- The object that was at a position is gone once another one stands there. -/
def object (position stamp : ℕ) : Option TDBType :=
  (st.slots position).bind fun slot => if slot.stamp = stamp then some slot.value else none

def scratchAt (round position : ℕ) : Option Scratch :=
  if round = st.round then st.scratch position else none

def flagAt (round position : ℕ) : Option Bool :=
  if round = st.round then some (st.flags position) else none

def bindValue (index : ℕ) (value : TDBType) : Storage :=
  let bindCount := if index > st.bindCount then index else st.bindCount
  { st with
    slots := Function.update st.slots index (some ⟨value, value, st.created⟩)
    bindCount := if index = bindCount then bindCount + 1 else bindCount
    created := st.created + 1 }

/-- A new round; the memory and the arrays of the one before are gone. -/
def next : Storage :=
  { st with round := st.round + 1, scratch := fun _ => none, flags := fun _ => false }

/-- The array of a result set, with the values as they were given. -/
structure Represents (rs : TQueryResultSet) : Prop where
  bindCount_eq : st.bindCount = rs.bindCount
  slots_eq : ∀ i, (st.slots i).map (·.given) = (rs.boundValues[i]?).join

theorem Represents.bindValue {st : Storage} {rs : TQueryResultSet} (h : st.Represents rs)
    (index : ℕ) (value : TDBType) :
    (st.bindValue index value).Represents (rs.bindValue index (some value)) := by
  refine ⟨by simp only [Storage.bindValue, TQueryResultSet.bindValue, h.bindCount_eq], fun i => ?_⟩
  simp only [Storage.bindValue, TQueryResultSet.bindValue]
  by_cases hi : i = index
  · subst hi
    rw [Function.update_self, List.getElem?_set_self (by simp; omega)]
    rfl
  · rw [Function.update_of_ne hi, List.getElem?_set_ne (Ne.symm hi), h.slots_eq i,
      List.getElem?_append]
    split_ifs with hlt
    · rfl
    · rw [List.getElem?_eq_none (by omega), List.getElem?_replicate]
      split_ifs <;> rfl

@[simp] theorem bindValue_self (index : ℕ) (value : TDBType) :
    (st.bindValue index value).slots index = some ⟨value, value, st.created⟩ :=
  Function.update_self ..

theorem bindValue_of_ne {index i : ℕ} (h : i ≠ index) (value : TDBType) :
    (st.bindValue index value).slots i = st.slots i := Function.update_of_ne h ..

/-- Stamps are numbers of objects made so far. -/
def Stamped : Prop := ∀ i slot, st.slots i = some slot → slot.stamp < st.created

variable {st}

/-- What holds of the bound objects and of a new one holds after a binding. -/
theorem forall_bindValue {P : ℕ → Slot → Prop} (h : ∀ i slot, st.slots i = some slot → P i slot)
    {index : ℕ} {value : TDBType} (hnew : P index ⟨value, value, st.created⟩) (i : ℕ) (slot : Slot)
    (hslot : (st.bindValue index value).slots i = some slot) : P i slot := by
  by_cases hi : i = index
  · subst hi
    obtain rfl := Option.some.inj ((st.bindValue_self i value).symm.trans hslot)
    exact hnew
  · exact h i slot ((st.bindValue_of_ne hi value).symm.trans hslot)

theorem Stamped.bindValue (h : st.Stamped) (index : ℕ) (value : TDBType) :
    (st.bindValue index value).Stamped :=
  forall_bindValue (fun i slot hslot => (h i slot hslot).trans (Nat.lt_succ_self _))
    (Nat.lt_succ_self _)

end Storage

/-! ### Rounds -/

inductive Event
  | bind (index : ℕ) (value : TDBType)
  | execute (answers : ℕ → Bool)

/-- A prepared statement of a driver. An execution takes the answers of the native calls that
bind, and returns what the native execute reads for each parameter, if it runs. -/
structure Rounds (σ : Type) where
  storage : σ → Storage
  bind : ℕ → TDBType → σ → σ
  execute : (ℕ → Bool) → σ → σ × Option (List (Option Datum))

/-- The parameters as they were bound. -/
def given (paramCount : ℕ) (st : Storage) : List (Option Datum) :=
  (List.range paramCount).map fun i => (st.slots i).map fun slot => meaning slot.given

/-- Everything that is read is in live storage and denotes the bound values. -/
def Sends (given data : List (Option Datum)) : Prop := data = given ∧ none ∉ data

section

variable {paramCount : ℕ}

theorem sends_iff {st : Storage} {data : ℕ → Option Datum} :
    Sends (given paramCount st) ((List.range paramCount).map data) ↔
      ∀ i < paramCount, ∃ slot, st.slots i = some slot ∧ data i = some (meaning slot.given) := by
  unfold Sends given
  rw [List.map_inj_left]
  simp only [List.mem_range, List.mem_map, not_exists, not_and]
  constructor
  · rintro ⟨hall, hnone⟩ i hi
    cases hslot : st.slots i with
    | none => exact absurd ((hall i hi).trans (by rw [hslot]; rfl)) (hnone i hi)
    | some slot => exact ⟨slot, rfl, (hall i hi).trans (by rw [hslot]; rfl)⟩
  · intro h
    constructor
    · intro i hi
      obtain ⟨slot, hslot, hdata⟩ := h i hi
      rw [hdata, hslot]
      rfl
    · intro i hi hnone
      obtain ⟨slot, -, hdata⟩ := h i hi
      rw [hdata] at hnone
      cases hnone

theorem given_congr {st st' : Storage} (h : st'.slots = st.slots) :
    given paramCount st' = given paramCount st := by
  rw [given, given, h]

end

section

variable {σ : Type} (D : Rounds σ) (paramCount : ℕ)

/-- Every execution of a run sends the bound values; `last` is what was sent since the last
binding. -/
def Faithful : Option (List (Option Datum)) → σ → List Event → Prop
  | _, _, [] => True
  | _, s, .bind index value :: events => Faithful none (D.bind index value s) events
  | last, s, .execute answers :: events =>
    (∀ data ∈ (D.execute answers s).2,
      Sends (given paramCount (D.storage s)) data ∧ ∀ d ∈ last, data = d) ∧
    Faithful ((D.execute answers s).2.or last) (D.execute answers s).1 events

/-- A condition on the state before every execution in which the native execute runs. -/
def EveryExecution (ok : σ → Prop) : σ → List Event → Prop
  | _, [] => True
  | s, .bind index value :: events => EveryExecution ok (D.bind index value s) events
  | s, .execute answers :: events =>
    ((D.execute answers s).2.isSome = true → ok s) ∧
      EveryExecution ok (D.execute answers s).1 events

/-- An invariant under which exactly the executions that meet a condition send the bound
values. -/
structure Decides (Inv : σ → Prop) (ok : σ → Prop) : Prop where
  bind_kept : ∀ index value s, Inv s → Inv (D.bind index value s)
  execute_kept : ∀ answers s, Inv s → Inv (D.execute answers s).1
  given_kept : ∀ answers s, Inv s →
    given paramCount (D.storage (D.execute answers s).1) = given paramCount (D.storage s)
  sends : ∀ answers s, Inv s → ∀ data ∈ (D.execute answers s).2,
    (Sends (given paramCount (D.storage s)) data ↔ ok s)

variable {D paramCount}

theorem Decides.faithful_iff {Inv ok : σ → Prop} (h : Decides D paramCount Inv ok)
    {last : Option (List (Option Datum))} {s : σ} (events : List Event) (hs : Inv s)
    (hlast : ∀ d ∈ last, d = given paramCount (D.storage s)) :
    Faithful D paramCount last s events ↔ EveryExecution D ok s events := by
  induction events generalizing last s with
  | nil => exact Iff.rfl
  | cons event events ih =>
    cases event with
    | bind index value => exact ih (h.bind_kept index value s hs) (by simp)
    | execute answers =>
      rw [Faithful, EveryExecution]
      have hgiven := h.given_kept answers s hs
      cases hdata : (D.execute answers s).2 with
      | none =>
        rw [Option.none_or, ih (h.execute_kept answers s hs) (by rw [hgiven]; exact hlast)]
        simp
      | some data =>
        have hsends := h.sends answers s hs data hdata
        have hfirst : (∀ data' ∈ some data, Sends (given paramCount (D.storage s)) data' ∧
            ∀ d ∈ last, data' = d) ↔ ok s := by
          constructor
          · intro hall
            exact hsends.mp (hall data rfl).1
          · intro hok data' hdata'
            cases hdata'
            have hsent := hsends.mpr hok
            exact ⟨hsent, fun d hd => hsent.1.trans (hlast d hd).symm⟩
        rw [hfirst, Option.some_or]
        have hkept (hok : ok s) : ∀ d ∈ some data,
            d = given paramCount (D.storage (D.execute answers s).1) := by
          intro d hd
          cases hd
          rw [hgiven]
          exact (hsends.mpr hok).1
        constructor
        · rintro ⟨hok, hrest⟩
          exact ⟨fun _ => hok, (ih (h.execute_kept answers s hs) (hkept hok)).mp hrest⟩
        · rintro ⟨hok, hrest⟩
          exact ⟨hok rfl, (ih (h.execute_kept answers s hs) (hkept (hok rfl))).mpr hrest⟩

end

/-! ### The binding loop -/

section

variable {σ : Type} (slots : σ → ℕ → Option Slot) (one : ℕ → Slot → σ → Bool × σ)

/-- The loop over the first positions; a Null reference or a failure ends it. -/
def bindLoop : ℕ → σ → Bool × σ
  | 0, s => (true, s)
  | n + 1, s =>
    let r := bindLoop n s
    if ¬ r.1 then r
    else match slots r.2 n with
      | none => (false, r.2)
      | some slot => one n slot r.2

variable {slots one}

theorem bindLoop_kept {P : σ → Prop} {n : ℕ}
    (hone : ∀ m < n, ∀ slot s, slots s m = some slot → P s → P (one m slot s).2) {s : σ}
    (h : P s) : P (bindLoop slots one n s).2 := by
  induction n with
  | zero => exact h
  | succ n ih =>
    have hbefore := ih fun m hm => hone m (hm.trans (Nat.lt_succ_self n))
    rw [bindLoop]
    split
    next => exact hbefore
    next =>
      split
      next => exact hbefore
      next slot hslot => exact hone n (Nat.lt_succ_self n) slot _ hslot hbefore

/-- A loop that reaches its end has done what each of its steps does. -/
theorem bindLoop_done {P : ℕ → σ → Prop} {n : ℕ}
    (hone : ∀ m < n, ∀ slot s, P m s → slots s m = some slot → (one m slot s).1 = true →
      P (m + 1) (one m slot s).2) {s : σ} (h : P 0 s)
    (hdone : (bindLoop slots one n s).1 = true) : P n (bindLoop slots one n s).2 := by
  induction n with
  | zero => exact h
  | succ n ih =>
    have hbefore := ih fun m hm => hone m (hm.trans (Nat.lt_succ_self n))
    rw [bindLoop] at hdone ⊢
    split at hdone
    next hstopped => exact absurd hdone hstopped
    next hnot =>
      rw [if_neg hnot]
      split at hdone
      next => cases hdone
      next slot hslot =>
        exact hone n (Nat.lt_succ_self n) slot _ (hbefore (not_not.mp hnot)) hslot hdone

end

end DatabaseMod.ParameterReferences
