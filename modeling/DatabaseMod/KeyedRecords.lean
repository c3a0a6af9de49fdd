import Mathlib.Data.List.Nodup
import Mathlib.Data.Option.Basic
import Mathlib.Logic.Function.Basic

/-!
# Records with a key

A table is a list of records with distinct keys. It stands for a store, a partial function of
the keys, when each record is that of the value under its key.
-/

namespace DatabaseMod.KeyedRecords

variable {R K V : Type*} [DecidableEq K] (key : R → K)

def find (rows : List R) (k : K) : Option R := rows.find? (key · = k)

def matching (rows : List R) (k : K) : List R := rows.filter (key · = k)

def delete (rows : List R) (k : K) : List R := rows.filter (key · ≠ k)

def modify (f : R → R) (rows : List R) (k : K) : List R :=
  rows.map fun r => if key r = k then f r else r

def Keyed (rows : List R) : Prop := (rows.map key).Nodup

section

variable {key} {rows : List R} {k : K} {r : R}

theorem key_of_find (h : find key rows k = some r) : key r = k := by
  simpa using List.find?_some h

theorem mem_of_find (h : find key rows k = some r) : r ∈ rows := List.mem_of_find?_eq_some h

theorem find_eq_none : find key rows k = none ↔ k ∉ rows.map key := by
  simp [find]

theorem find_append (rows rows' : List R) (k : K) :
    find key (rows ++ rows') k = (find key rows k).or (find key rows' k) :=
  List.find?_append

theorem find_singleton (r : R) (k : K) : find key [r] k = if key r = k then some r else none := by
  simp [find, List.find?_cons]
  split_ifs <;> simp_all

theorem find_insert (hfresh : find key rows (key r) = none) :
    find key (rows ++ [r]) = Function.update (find key rows) (key r) (some r) := by
  funext k
  rw [find_append, find_singleton]
  by_cases hk : k = key r
  · rw [hk, hfresh, if_pos rfl, Function.update_self]
    rfl
  · rw [if_neg (Ne.symm hk), Function.update_of_ne hk, Option.or_none]

theorem find_delete (rows : List R) (k : K) :
    find key (delete key rows k) = Function.update (find key rows) k none := by
  funext k'
  by_cases hk : k' = k
  · subst hk
    rw [Function.update_self, find_eq_none]
    simp [delete]
  · rw [Function.update_of_ne hk]
    induction rows with
    | nil => rfl
    | cons r rows ih =>
      unfold delete find at ih ⊢
      by_cases hr : key r = k
      · rw [List.filter_cons_of_neg (by simpa using hr), ih,
          List.find?_cons_of_neg (by simpa [hr] using Ne.symm hk)]
      · rw [List.filter_cons_of_pos (by simpa using hr), List.find?_cons, List.find?_cons, ih]

/-- A change that keeps the keys changes what is found under one of them. -/
theorem find_modify {f : R → R} (hf : ∀ r, key (f r) = key r) (rows : List R) (k : K) :
    find key (modify key f rows k) =
      Function.update (find key rows) k ((find key rows k).map f) := by
  have hkey (r : R) : key (if key r = k then f r else r) = key r := by
    split_ifs
    · exact hf r
    · rfl
  have hcons (r : R) (rest : List R) (k' : K) : find key (r :: rest) k' =
      if key r = k' then some r else find key rest k' := by
    by_cases hr : key r = k'
    · simp [find, hr]
    · simp [find, hr]
  funext k'
  induction rows with
  | nil => by_cases hk : k' = k <;> simp [modify, find, Function.update, hk]
  | cons r rows ih =>
    change find key ((if key r = k then f r else r) :: modify key f rows k) k' = _
    rw [hcons, hkey, ih]
    by_cases hk : k' = k
    · subst hk
      rw [Function.update_self, Function.update_self, hcons]
      by_cases hr : key r = k'
      · simp [hr]
      · simp [hr]
    · rw [Function.update_of_ne hk, Function.update_of_ne hk, hcons]
      by_cases hr : key r = k'
      · rw [if_pos hr, if_pos hr, if_neg fun h => hk (hr.symm.trans h)]
      · rw [if_neg hr, if_neg hr]

theorem keyed_insert (h : Keyed key rows) (hfresh : find key rows (key r) = none) :
    Keyed key (rows ++ [r]) := by
  unfold Keyed
  rw [List.map_append, List.map_singleton, ← List.concat_eq_append]
  exact h.concat (find_eq_none.mp hfresh)

theorem keyed_delete (h : Keyed key rows) (k : K) : Keyed key (delete key rows k) :=
  h.sublist (List.filter_sublist.map key)

theorem keyed_modify {f : R → R} (hf : ∀ r, key (f r) = key r) (h : Keyed key rows) (k : K) :
    Keyed key (modify key f rows k) := by
  have hkeys : (modify key f rows k).map key = rows.map key := by
    rw [modify, List.map_map]
    apply List.map_congr_left
    intro r _
    change key (if key r = k then f r else r) = key r
    split_ifs
    · exact hf r
    · rfl
  rw [Keyed, hkeys]
  exact h

/-- One record matches at most, the one that is found. -/
theorem Keyed.matching_eq (h : Keyed key rows) (k : K) :
    matching key rows k = (find key rows k).toList := by
  induction rows with
  | nil => rfl
  | cons r rows ih =>
    obtain ⟨hnew, hrest⟩ := List.nodup_cons.mp h
    unfold matching find at ih ⊢
    by_cases hr : key r = k
    · have hnone : find key rows k = none := find_eq_none.mpr (hr ▸ hnew)
      unfold find at hnone
      rw [List.filter_cons_of_pos (by simpa using hr), List.find?_cons_of_pos (by simpa using hr),
        ih hrest, hnone]
      rfl
    · rw [List.filter_cons_of_neg (by simpa using hr), List.find?_cons_of_neg (by simpa using hr)]
      exact ih hrest

theorem Keyed.find_of_mem (h : Keyed key rows) (hr : r ∈ rows) : find key rows (key r) = some r := by
  have hmem : r ∈ matching key rows (key r) := List.mem_filter.mpr ⟨hr, by simp⟩
  rw [h.matching_eq] at hmem
  simpa using hmem

end

/-! ### Stores -/

/-- The records are those of the values of the store. -/
structure Represents (rel : R → V → Prop) (rows : List R) (store : K → Option V) : Prop where
  keyed : Keyed key rows
  found : ∀ k, Option.Rel rel (find key rows k) (store k)

namespace Represents

variable {key} {rel : R → V → Prop} {rows : List R} {store : K → Option V}

theorem nil : Represents key rel [] fun _ => none where
  keyed := List.nodup_nil
  found _ := .none

theorem store_eq_none (h : Represents key rel rows store) {k : K} :
    store k = none ↔ find key rows k = none := by
  have hk := h.found k
  generalize find key rows k = a at hk
  generalize store k = b at hk
  cases hk with
  | some => simp
  | none => simp

theorem insert (h : Represents key rel rows store) {r : R} {v : V}
    (hfresh : find key rows (key r) = none) (hr : rel r v) :
    Represents key rel (rows ++ [r]) (Function.update store (key r) (some v)) where
  keyed := keyed_insert h.keyed hfresh
  found k := by
    rw [find_insert hfresh]
    by_cases hk : k = key r
    · rw [hk, Function.update_self, Function.update_self]
      exact .some hr
    · rw [Function.update_of_ne hk, Function.update_of_ne hk]
      exact h.found k

theorem delete (h : Represents key rel rows store) (k : K) :
    Represents key rel (KeyedRecords.delete key rows k) (Function.update store k none) where
  keyed := keyed_delete h.keyed k
  found k' := by
    rw [find_delete]
    by_cases hk : k' = k
    · rw [hk, Function.update_self, Function.update_self]
      exact .none
    · rw [Function.update_of_ne hk, Function.update_of_ne hk]
      exact h.found k'

/-- A record under the key becomes that of another value; without one nothing changes. -/
theorem modify (h : Represents key rel rows store) {f : R → R} (hf : ∀ r, key (f r) = key r)
    {k : K} {v : V} (hv : ∀ r ∈ rows, key r = k → rel (f r) v) :
    Represents key rel (KeyedRecords.modify key f rows k)
      (Function.update store k ((store k).map fun _ => v)) where
  keyed := keyed_modify hf h.keyed k
  found k' := by
    rw [find_modify hf]
    by_cases hk : k' = k
    · subst hk
      rw [Function.update_self, Function.update_self]
      have hfound := h.found k'
      cases hrow : find key rows k' with
      | none =>
        rw [h.store_eq_none.mpr hrow]
        exact .none
      | some r =>
        rw [hrow] at hfound
        obtain ⟨v', hv'⟩ : ∃ v', store k' = some v' := by
          cases hstore : store k' with
          | none =>
            rw [hstore] at hfound
            cases hfound
          | some v' => exact ⟨v', rfl⟩
        rw [hv']
        exact .some (hv r (mem_of_find hrow) (key_of_find hrow))
    · rw [Function.update_of_ne hk, Function.update_of_ne hk]
      exact h.found k'

theorem matching (h : Represents key rel rows store) (k : K) :
    Option.Rel rel (KeyedRecords.matching key rows k).head? (store k) := by
  rw [h.keyed.matching_eq, Option.head?_toList]
  exact h.found k

/-- Every record is that of the value under its key. -/
theorem of_mem (h : Represents key rel rows store) {r : R} (hr : r ∈ rows) :
    ∃ v, store (key r) = some v ∧ rel r v := by
  have hfound := h.found (key r)
  rw [h.keyed.find_of_mem hr] at hfound
  cases hstore : store (key r) with
  | none =>
    rw [hstore] at hfound
    cases hfound
  | some v =>
    rw [hstore] at hfound
    cases hfound with
    | some hrel => exact ⟨v, rfl, hrel⟩

end Represents

end DatabaseMod.KeyedRecords
