import DatabaseMod.CoreBindings
import DatabaseMod.CoreValueObjects

/-!
# Bound objects

The slots of a result set refer to value objects, which binding and clearing change in
place. Distinct objects are kept apart; an object in two slots, or one that is bound where
it stands already, is cleared with the slot that is bound anew.
-/

namespace DatabaseMod.CoreBindObjects
open CoreValues CoreResultSet CoreValueObjects
open CoreBindings (getD_grown)

/-! ### Slots and objects -/

abbrev Ref := ℕ

structure BoundObjects where
  store : Ref → DBObject
  boundValues : List (Option Ref)
  bindCount : ℕ

def clearObject (store : Ref → DBObject) : Option Ref → Ref → DBObject
  | none => store
  | some r => Function.update store r (store r).clear

inductive ObjectCall where
  | bindValue (index : ℕ) (value : Option Ref)
  | addBindValue (value : Option Ref)
  | addNull
  | clearBindValues

/-- The objects that a call binds. -/
def ObjectCall.objects : ObjectCall → List Ref
  | .bindValue _ value | .addBindValue value => value.toList
  | .addNull | .clearBindValues => []

namespace BoundObjects

variable (s : BoundObjects)

/-- A result set as it is created, among the objects of a store. -/
def create (store : Ref → DBObject) : BoundObjects := ⟨store, [], 0⟩

def slot (i : ℕ) : Option Ref := s.boundValues.getD i none

/-- What is read through a slot. -/
def content (i : ℕ) : Option DBObject := (s.slot i).map s.store

/-- The object in the slot is cleared before the new one takes its place. -/
def bindValue (index : ℕ) (value : Option Ref) : BoundObjects :=
  let grown := s.boundValues ++ List.replicate (index + 1 - s.boundValues.length) none
  let bindCount := if index > s.bindCount then index else s.bindCount
  let bindCount := if index = bindCount then bindCount + 1 else bindCount
  ⟨clearObject s.store (grown.getD index none), grown.set index value, bindCount⟩

/-- An absent array is an empty one; `bindCount` is kept with it. -/
def clearBindValues : BoundObjects :=
  { s with
    store := s.boundValues.foldl clearObject s.store
    bindCount := if s.boundValues = [] then s.bindCount else 0 }

def call : ObjectCall → BoundObjects
  | .bindValue index value => s.bindValue index value
  | .addBindValue value => s.bindValue s.bindCount value
  | .addNull => s.bindValue s.bindCount none
  | .clearBindValues => s.clearBindValues

def run (calls : List ObjectCall) : BoundObjects := calls.foldl call s

end BoundObjects

open BoundObjects

/-! ### What is bound since the last clearing -/

/-- The positions and values bound since then, the latest first. -/
abbrev History := List (ℕ × Option Ref)

/-- One more than the largest position. -/
def History.next (h : History) : ℕ := h.foldr (fun b n => max (b.1 + 1) n) 0

def History.last (h : History) (i : ℕ) : Option (Option Ref) :=
  (h.find? fun b => b.1 = i).map Prod.snd

def History.call (h : History) : ObjectCall → History
  | .bindValue index value => (index, value) :: h
  | .addBindValue value => (h.next, value) :: h
  | .addNull => (h.next, none) :: h
  | .clearBindValues => []

def history (calls : List ObjectCall) : History := calls.foldl History.call []

/-! ### One object -/

theorem clear_clear (o : DBObject) : o.clear.clear = o.clear := by
  cases o with
  | blob isNull value size owner => cases value <;> rfl
  | _ => rfl

theorem isNull_clear {o : DBObject} (h : o.valueClass ≠ .blob) : o.clear.isNull = true := by
  cases o with
  | blob isNull value size owner => exact absurd rfl h
  | _ => rfl

theorem clearObject_self (store : Ref → DBObject) (r : Ref) :
    clearObject store (some r) r = (store r).clear := Function.update_self ..

theorem clearObject_of_ne {store : Ref → DBObject} {slot : Option Ref} {r : Ref}
    (h : slot ≠ some r) : clearObject store slot r = store r := by
  cases slot with
  | none => rfl
  | some r' => exact Function.update_of_ne (fun heq => h (congrArg some heq.symm)) _ _

theorem clearObject_kept {store : Ref → DBObject} {slot : Option Ref} {r : Ref}
    (h : slot = some r → (store r).clear = store r) : clearObject store slot r = store r := by
  by_cases hslot : slot = some r
  · rw [hslot, clearObject_self, h hslot]
  · exact clearObject_of_ne hslot

theorem clearObject_valueClass (store : Ref → DBObject) (slot : Option Ref) (r : Ref) :
    (clearObject store slot r).valueClass = (store r).valueClass := by
  by_cases h : slot = some r
  · rw [h, clearObject_self, clear_valueClass]
  · rw [clearObject_of_ne h]

/-- All slots, and an object in several of them no differently. -/
theorem clearAll (slots : List (Option Ref)) (store : Ref → DBObject) (r : Ref) :
    slots.foldl clearObject store r = if some r ∈ slots then (store r).clear else store r := by
  induction slots generalizing store with
  | nil => rfl
  | cons slot slots ih =>
    rw [List.foldl_cons, ih]
    by_cases hslot : slot = some r
    · rw [hslot, clearObject_self, clear_clear, if_pos List.mem_cons_self]
      split_ifs <;> rfl
    · rw [clearObject_of_ne hslot]
      simp [Ne.symm hslot]

section

variable (s : BoundObjects)

theorem getD_growth (values : List (Option Ref)) (n i : ℕ) :
    (values ++ List.replicate n none).getD i none = values.getD i none := by
  simp only [List.getD_eq_getElem?_getD, List.getElem?_append, List.getElem?_replicate]
  split_ifs with hlt <;> simp_all

theorem slot_bindValue (index : ℕ) (value : Option Ref) (j : ℕ) :
    (s.bindValue index value).slot j = if j = index then value else s.slot j :=
  getD_grown s.boundValues index j value

theorem store_bindValue (index : ℕ) (value : Option Ref) :
    (s.bindValue index value).store = clearObject s.store (s.slot index) := by
  unfold bindValue slot
  dsimp only
  rw [getD_growth]

theorem mem_of_slot {i : ℕ} {r : Ref} (h : s.slot i = some r) : some r ∈ s.boundValues := by
  unfold slot at h
  rw [List.getD_eq_getElem?_getD] at h
  cases hget : s.boundValues[i]? with
  | none =>
    rw [hget] at h
    cases h
  | some value =>
    rw [hget, Option.getD_some] at h
    exact h ▸ List.mem_of_getElem? hget

theorem slot_of_mem {r : Ref} (h : some r ∈ s.boundValues) : ∃ i, s.slot i = some r := by
  obtain ⟨i, hi⟩ := List.mem_iff_getElem?.mp h
  exact ⟨i, by rw [slot, List.getD_eq_getElem?_getD, hi, Option.getD_some]⟩

/-! ### Binding any object -/

/-- The old object of the slot is not the new one nor in another slot, or is not changed by
clearing it. -/
def Untouched (i : ℕ) (v : Ref) : Prop :=
  ∀ r, s.slot i = some r → (s.store r).clear = s.store r ∨ r ≠ v ∧ ∀ j ≠ i, s.slot j ≠ some r

/-- A slot takes the content of an object, and every other keeps its own, if and only if
clearing the old object touches neither. -/
theorem rebinding_kept_iff (i : ℕ) (v : Ref) :
    ((s.bindValue i (some v)).content i = some (s.store v) ∧
      ∀ j ≠ i, (s.bindValue i (some v)).content j = s.content j) ↔ Untouched s i v := by
  have hself : (s.bindValue i (some v)).content i = some (clearObject s.store (s.slot i) v) := by
    rw [content, slot_bindValue, if_pos rfl, store_bindValue]
    rfl
  have hother (j : ℕ) (hj : j ≠ i) : (s.bindValue i (some v)).content j =
      (s.slot j).map (clearObject s.store (s.slot i)) := by
    rw [content, slot_bindValue, if_neg hj, store_bindValue]
  rw [hself]
  constructor
  · intro h r hr
    by_contra hnot
    rw [not_or, not_and_or, not_not] at hnot
    obtain ⟨hchanged, hsame | hshared⟩ := hnot
    · have hkept := Option.some.inj h.1
      rw [hr, hsame, clearObject_self] at hkept
      exact hchanged (hsame ▸ hkept)
    · push Not at hshared
      obtain ⟨j, hj, hslot⟩ := hshared
      have hkept := h.2 j hj
      rw [hother j hj, content, hslot, hr, Option.map_some, Option.map_some,
        clearObject_self] at hkept
      exact hchanged (Option.some.inj hkept)
  · intro h
    refine ⟨congrArg some (clearObject_kept fun hv => ?_), fun j hj => ?_⟩
    · exact (h v hv).resolve_right fun hne => hne.1 rfl
    · rw [hother j hj, content]
      cases hslot : s.slot j with
      | none => rfl
      | some r =>
        refine congrArg some (clearObject_kept fun hr => ?_)
        exact (h r hr).resolve_right fun hne => hne.2 j hj hslot

end

/-! ### Objects and values -/

section

variable (c : CoreFormat.Strftime)

/-- The result set with the values of the objects. -/
def toResultSet (s : BoundObjects) : TQueryResultSet :=
  { TQueryResultSet.create with
    boundValues := s.boundValues.map (Option.map fun r => (s.store r).toValue c)
    bindCount := s.bindCount }

/-- Where clearing the old object touches nothing else, values are bound as if they were
copied. -/
theorem toResultSet_bindValue {s : BoundObjects} {i : ℕ} {v : Ref} (h : Untouched s i v) :
    toResultSet c (s.bindValue i (some v)) =
      (toResultSet c s).bindValue i (some ((s.store v).toValue c)) := by
  have hkept {r : Ref} (hr : r = v ∨ ∃ j ≠ i, s.slot j = some r) :
      (s.bindValue i (some v)).store r = s.store r := by
    rw [store_bindValue]
    refine clearObject_kept fun hi => (h r hi).resolve_right fun hne => ?_
    obtain hv | ⟨j, hj, hslot⟩ := hr
    · exact hne.1 hv
    · exact hne.2 j hj hslot
  have hvalues : (toResultSet c (s.bindValue i (some v))).boundValues =
      ((toResultSet c s).bindValue i (some ((s.store v).toValue c))).boundValues := by
    refine List.ext_getElem? fun j => ?_
    simp only [toResultSet, BoundObjects.bindValue, TQueryResultSet.bindValue, List.getElem?_map,
      List.getElem?_set, List.length_append, List.length_map, List.length_replicate]
    by_cases hj : i = j
    · simp only [if_pos hj]
      split_ifs
      · exact congrArg (fun o : DBObject => some (some (o.toValue c))) (hkept (.inl rfl))
      · rfl
    · simp only [if_neg hj, List.getElem?_append, List.getElem?_replicate, List.length_map,
        List.getElem?_map]
      split_ifs
      · cases hget : s.boundValues[j]? with
        | none => rfl
        | some slot =>
          cases slot with
          | none => rfl
          | some r =>
            have hslot : s.slot j = some r := by
              rw [slot, List.getD_eq_getElem?_getD, hget, Option.getD_some]
            exact congrArg (fun o : DBObject => some (some (o.toValue c)))
              (hkept (.inr ⟨j, Ne.symm hj, hslot⟩))
      · rfl
      · rfl
  exact congrArg (fun values =>
    { toResultSet c (s.bindValue i (some v)) with boundValues := values }) hvalues

end

/-- A value that is bound where it stands already becomes a NULL. -/
theorem rebound_object_cleared : ∃ s : BoundObjects,
    s.content 0 = some (.string false ['a']) ∧
      (s.bindValue 0 (some 5)).content 0 = some (.string true []) ∧ s.store 5 = .string false ['a'] :=
  ⟨⟨fun _ => .string false ['a'], [some 5], 1⟩, by decide, by decide, rfl⟩

/-! ### Histories -/

theorem History.last_cons (i : ℕ) (value : Option Ref) (h : History) (j : ℕ) :
    History.last ((i, value) :: h) j = if j = i then some value else h.last j := by
  unfold History.last
  rw [List.find?_cons]
  by_cases hij : i = j
  · simp [hij]
  · simp [hij, Ne.symm hij]

theorem History.next_cons (i : ℕ) (value : Option Ref) (h : History) :
    History.next ((i, value) :: h) = max (i + 1) h.next := rfl

/-! ### Distinct objects -/

/-- The slots and the objects after the bindings of a history. `used` are the objects bound
so far. -/
structure Keeps (store : Ref → DBObject) (used : List Ref) (s : BoundObjects) (h : History) : Prop where
  count : s.bindCount = h.next
  length : h.next ≤ s.boundValues.length
  bound : ∀ i value, h.last i = some value → s.slot i = value
  live : ∀ i r, h.last i = some (some r) → s.store r = store r
  old : ∀ i, h.last i = none → ∀ r, s.slot i = some r → (s.store r).isNull = true
  injective : ∀ i j r, s.slot i = some r → s.slot j = some r → i = j
  mem_used : ∀ i r, s.slot i = some r → r ∈ used
  unused : ∀ r, r ∉ used → s.store r = store r
  valueClass : ∀ r, (s.store r).valueClass = (store r).valueClass

section

variable {store : Ref → DBObject} {used : List Ref} {s : BoundObjects} {h : History}

theorem keeps_create (store : Ref → DBObject) : Keeps store [] (create store) [] where
  count := rfl
  length := le_rfl
  bound i value hlast := by cases hlast
  live i r hlast := by cases hlast
  old i _ r hslot := by cases hslot
  injective i j r hslot := by cases hslot
  mem_used i r hslot := by cases hslot
  unused r _ := rfl
  valueClass r := rfl

theorem Keeps.bind (hkeeps : Keeps store used s h) (i : ℕ) {value : Option Ref}
    (hfresh : ∀ r ∈ value.toList, r ∉ used) :
    Keeps store (used ++ value.toList) (s.bindValue i value) ((i, value) :: h) := by
  have hother {j : ℕ} {r : Ref} (hj : j ≠ i) (hslot : s.slot j = some r) :
      (s.bindValue i value).store r = s.store r := by
    rw [store_bindValue]
    exact clearObject_of_ne fun hi => hj (hkeeps.injective j i r hslot hi)
  have hnew {r : Ref} (hr : r ∉ used) : (s.bindValue i value).store r = store r := by
    rw [store_bindValue, clearObject_of_ne fun hi => hr (hkeeps.mem_used i r hi),
      hkeeps.unused r hr]
  refine ⟨?_, ?_, ?_, ?_, ?_, ?_, ?_, ?_, ?_⟩
  · have hcount := hkeeps.count
    simp only [bindValue, History.next_cons, hcount]
    split_ifs <;> omega
  · have hlength := hkeeps.length
    rw [History.next_cons]
    simp only [bindValue, List.length_set, List.length_append, List.length_replicate]
    omega
  · intro j v hlast
    rw [History.last_cons] at hlast
    rw [slot_bindValue]
    split_ifs at hlast ⊢
    · exact Option.some.inj hlast
    · exact hkeeps.bound j v hlast
  · intro j r hlast
    rw [History.last_cons] at hlast
    split_ifs at hlast with hj
    · have hvalue : r ∈ value.toList := by rw [Option.some.inj hlast]; simp
      exact hnew (hfresh r hvalue)
    · rw [hother hj (hkeeps.bound j _ hlast)]
      exact hkeeps.live j r hlast
  · intro j hlast r hslot
    rw [History.last_cons] at hlast
    rw [slot_bindValue] at hslot
    split_ifs at hlast hslot with hj
    rw [hother hj hslot]
    exact hkeeps.old j hlast r hslot
  · intro j k r hj hk
    rw [slot_bindValue] at hj hk
    split_ifs at hj hk with hji hki hki
    · exact hji.trans hki.symm
    · exact absurd (hkeeps.mem_used k r hk) (hfresh r (by rw [hj]; simp))
    · exact absurd (hkeeps.mem_used j r hj) (hfresh r (by rw [hk]; simp))
    · exact hkeeps.injective j k r hj hk
  · intro j r hslot
    rw [slot_bindValue] at hslot
    rw [List.mem_append]
    split_ifs at hslot
    · exact .inr (by rw [hslot]; simp)
    · exact .inl (hkeeps.mem_used j r hslot)
  · intro r hr
    exact hnew fun hmem => hr (List.mem_append_left _ hmem)
  · intro r
    rw [store_bindValue, clearObject_valueClass]
    exact hkeeps.valueClass r

theorem Keeps.clear (hkeeps : Keeps store used s h)
    (hblob : ∀ r ∈ used, (store r).valueClass ≠ .blob) :
    Keeps store used s.clearBindValues [] := by
  have hstore (r : Ref) : s.clearBindValues.store r =
      if some r ∈ s.boundValues then (s.store r).clear else s.store r :=
    clearAll s.boundValues s.store r
  refine ⟨?_, Nat.zero_le _, ?_, ?_, ?_, hkeeps.injective, hkeeps.mem_used, ?_, ?_⟩
  · change (if s.boundValues = [] then s.bindCount else 0) = 0
    split_ifs with hempty
    · have hcount := hkeeps.count
      have hlength := hkeeps.length
      rw [hempty, List.length_nil] at hlength
      omega
    · rfl
  · intro i value hlast
    cases hlast
  · intro i r hlast
    cases hlast
  · intro i _ r hslot
    rw [hstore, if_pos (mem_of_slot s hslot)]
    refine isNull_clear ?_
    rw [hkeeps.valueClass]
    exact hblob r (hkeeps.mem_used i r hslot)
  · intro r hr
    have hnotMem : some r ∉ s.boundValues := fun hmem => by
      obtain ⟨i, hslot⟩ := slot_of_mem s hmem
      exact hr (hkeeps.mem_used i r hslot)
    rw [hstore, if_neg hnotMem]
    exact hkeeps.unused r hr
  · intro r
    rw [hstore]
    split_ifs
    · rw [clear_valueClass]
      exact hkeeps.valueClass r
    · exact hkeeps.valueClass r

theorem Keeps.call (hkeeps : Keeps store used s h) (c : ObjectCall)
    (hfresh : ∀ r ∈ c.objects, r ∉ used) (hblob : ∀ r ∈ used, (store r).valueClass ≠ .blob) :
    Keeps store (used ++ c.objects) (s.call c) (h.call c) := by
  cases c with
  | bindValue index value => exact hkeeps.bind index hfresh
  | addBindValue value =>
    change Keeps store (used ++ value.toList) (s.bindValue s.bindCount value) ((h.next, value) :: h)
    rw [hkeeps.count]
    exact hkeeps.bind h.next hfresh
  | addNull =>
    change Keeps store (used ++ []) (s.bindValue s.bindCount none) ((h.next, none) :: h)
    rw [hkeeps.count]
    exact @Keeps.bind store used s h hkeeps h.next none hfresh
  | clearBindValues =>
    change Keeps store (used ++ []) s.clearBindValues []
    rw [List.append_nil]
    exact hkeeps.clear hblob

/-- By induction on the calls. -/
theorem Keeps.run {calls : List ObjectCall} (hkeeps : Keeps store used s h)
    (hdistinct : (calls.flatMap ObjectCall.objects).Nodup)
    (hfresh : ∀ r ∈ calls.flatMap ObjectCall.objects, r ∉ used)
    (hblob : ∀ r ∈ used ++ calls.flatMap ObjectCall.objects, (store r).valueClass ≠ .blob) :
    Keeps store (used ++ calls.flatMap ObjectCall.objects) (s.run calls)
      (calls.foldl History.call h) := by
  induction calls generalizing used s h with
  | nil =>
    rw [List.flatMap_nil, List.append_nil]
    exact hkeeps
  | cons c calls ih =>
    rw [List.flatMap_cons] at hdistinct hfresh hblob ⊢
    obtain ⟨-, hrest, hdisjoint⟩ := List.nodup_append'.mp hdistinct
    have hstep := hkeeps.call c (fun r hr => hfresh r (List.mem_append_left _ hr))
      fun r hr => hblob r (List.mem_append_left _ hr)
    rw [← List.append_assoc] at hblob ⊢
    refine ih hstep hrest (fun r hr hused => ?_) hblob
    rcases List.mem_append.mp hused with hused | hused
    · exact hfresh r (List.mem_append_right _ hr) hused
    · exact hdisjoint hused hr

end

/-! ### The bookkeeping of a result set -/

/-- Nothing, or a cleared object. -/
def ReadsNull (s : BoundObjects) (i : ℕ) : Prop :=
  ∀ o, s.content i = some o → o.isNull = true

/-- Whatever was bound and cleared, the count is one more than the largest position since
the last clearing and the array is as long; its slots have the last values bound, unchanged,
and nothing else. A value is added behind all of them. -/
theorem bindings_kept (store : Ref → DBObject) {calls : List ObjectCall}
    (hdistinct : (calls.flatMap ObjectCall.objects).Nodup)
    (hblob : ∀ r ∈ calls.flatMap ObjectCall.objects, (store r).valueClass ≠ .blob) :
    ((create store).run calls).bindCount = (history calls).next ∧
    ((create store).run calls).bindCount ≤ ((create store).run calls).boundValues.length ∧
    (∀ value, (((create store).run calls).call (.addBindValue value)).slot (history calls).next =
      value) ∧
    (∀ i value, (history calls).last i = some value →
      ((create store).run calls).slot i = value ∧
        ((create store).run calls).content i = value.map store) ∧
    ∀ i, (history calls).last i = none → ReadsNull ((create store).run calls) i := by
  have hkeeps := (keeps_create store).run hdistinct (by simp) (by simpa using hblob)
  change Keeps store _ _ (history calls) at hkeeps
  refine ⟨hkeeps.count, hkeeps.count ▸ hkeeps.length, fun value => ?_, fun i value hlast => ?_,
    fun i hlast o hcontent => ?_⟩
  · change (((create store).run calls).bindValue ((create store).run calls).bindCount
      value).slot _ = _
    rw [hkeeps.count, slot_bindValue, if_pos rfl]
  · have hslot := hkeeps.bound i value hlast
    refine ⟨hslot, ?_⟩
    rw [content, hslot]
    cases value with
    | none => rfl
    | some r => exact congrArg some (hkeeps.live i r hlast)
  · obtain ⟨r, hslot, rfl⟩ := Option.map_eq_some_iff.mp hcontent
    exact hkeeps.old i hlast r hslot

theorem bindings_kept_gap :
    ((create fun _ => .string false ['a']).run
      [.bindValue 2 (some 0), .addNull, .clearBindValues, .addBindValue (some 1)]).bindCount =
      (history [.bindValue 2 (some 0), .addNull, .clearBindValues, .addBindValue (some 1)]).next :=
  (bindings_kept (fun _ => .string false ['a']) (by decide) (by decide)).1

end DatabaseMod.CoreBindObjects
