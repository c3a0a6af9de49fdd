import DatabaseMod.SqlTokens

/-!
# The list of database loaders

Loaders are linked at the head of a list through a field of their own. A field without a
successor stands for a loader that was never added and for the last one of the list.
-/

namespace DatabaseMod.CoreLoaders
open SqlTokens (Text)

universe u

/-! ### Chains -/

section Chains

variable {α : Type u}

/-- The elements from a start along their successors to the end. -/
inductive Path (succ : α → Option α) : Option α → List α → Prop
  | nil : Path succ none []
  | cons {l : α} {ls : List α} (h : Path succ (succ l) ls) : Path succ (some l) (l :: ls)

/-- Elements that all have a successor among them. -/
structure Endless (succ : α → Option α) (ls : List α) : Prop where
  next : ∀ l ∈ ls, ∃ l' ∈ ls, succ l = some l'

variable {succ : α → Option α} {start : Option α} {ls : List α}

theorem Path.start_eq (h : Path succ start ls) : start = ls.head? := by
  cases h <;> rfl

theorem Path.succ_eq_none (h : Path succ start ls) {l : α} (hl : l ∈ ls) (hnone : succ l = none) :
    ls.getLast? = some l := by
  induction h with
  | nil => cases hl
  | @cons a ls h ih =>
    rcases List.mem_cons.mp hl with rfl | hl
    · rw [hnone] at h
      cases h
      rfl
    · obtain ⟨b, rest, rfl⟩ := List.exists_cons_of_ne_nil (List.ne_nil_of_mem hl)
      rw [List.getLast?_cons_cons]
      exact ih hl

theorem Path.last (h : Path succ start ls) {l : α} (hlast : ls.getLast? = some l) :
    succ l = none := by
  induction h with
  | nil => cases hlast
  | @cons a ls h ih =>
    cases ls with
    | nil =>
      have ha : a = l := Option.some.inj hlast
      rw [← ha]
      cases hsucc : succ a with
      | none => rfl
      | some b =>
        rw [hsucc] at h
        cases h
    | cons b rest =>
      rw [List.getLast?_cons_cons] at hlast
      exact ih hlast

theorem Path.next_mem (h : Path succ start ls) {l l' : α} (hl : l ∈ ls) (hsucc : succ l = some l') :
    l' ∈ ls := by
  induction h with
  | nil => cases hl
  | @cons a ls h ih =>
    rcases List.mem_cons.mp hl with rfl | hl
    · rw [hsucc] at h
      cases h
      exact List.mem_cons_of_mem _ List.mem_cons_self
    · exact List.mem_cons_of_mem a (ih hl)

/-- Links elsewhere do not matter. -/
theorem Path.congr {succ' : α → Option α} (h : Path succ start ls)
    (hsame : ∀ l ∈ ls, succ' l = succ l) : Path succ' start ls := by
  induction h with
  | nil => exact .nil
  | @cons a ls h ih =>
    refine .cons ?_
    rw [hsame a List.mem_cons_self]
    exact ih fun l hl => hsame l (List.mem_cons_of_mem a hl)

theorem Endless.no_path {all : List α} (hendless : Endless succ all) {l : α} (hl : l ∈ all) :
    ¬ Path succ (some l) ls := by
  induction ls generalizing l with
  | nil =>
    intro h
    cases h
  | cons a ls ih =>
    intro h
    cases h with
    | cons h =>
      obtain ⟨l', hl', hsucc⟩ := hendless.next a hl
      rw [hsucc] at h
      exact ih hl' h

end Chains

/-! ### `LoadDatabase` -/

/-- The loop of `LoadDatabase`; `none` without a result. -/
def loadLoop {α C : Type} (typeOf : α → Text) (connect : α → Option C) (succ : α → Option α)
    (dbType : Text) : ℕ → Option α → Option (Option C)
  | _, none => some none
  | 0, some _ => none
  | fuel + 1, some loader =>
    if typeOf loader = dbType then
      match connect loader with
      | some db => some (some db)
      | none => loadLoop typeOf connect succ dbType fuel (succ loader)
    else loadLoop typeOf connect succ dbType fuel (succ loader)

section

variable {α C : Type} {typeOf : α → Text} {connect : α → Option C} {succ : α → Option α}
  {dbType : Text} {ls : List α}

theorem loadLoop_path {start : Option α} (h : Path succ start ls) :
    ∃ fuel result, loadLoop typeOf connect succ dbType fuel start = some result := by
  induction h with
  | nil => exact ⟨0, none, rfl⟩
  | @cons l ls h ih =>
    obtain ⟨fuel, result, hloop⟩ := ih
    by_cases htype : typeOf l = dbType
    · cases hconnect : connect l with
      | none =>
        refine ⟨fuel + 1, result, ?_⟩
        rw [loadLoop, if_pos htype, hconnect]
        exact hloop
      | some db =>
        refine ⟨1, some db, ?_⟩
        rw [loadLoop, if_pos htype, hconnect]
    · refine ⟨fuel + 1, result, ?_⟩
      rw [loadLoop, if_neg htype]
      exact hloop

/-- Without a loader for the type the loop goes on and on. -/
theorem loadLoop_endless {all : List α} (hendless : Endless succ all)
    (htype : ∀ l ∈ all, typeOf l ≠ dbType) (fuel : ℕ) {l : α} (hl : l ∈ all) :
    loadLoop typeOf connect succ dbType fuel (some l) = none := by
  induction fuel generalizing l with
  | zero => rfl
  | succ fuel ih =>
    obtain ⟨l', hl', hsucc⟩ := hendless.next l hl
    rw [loadLoop, if_neg (htype l hl), hsucc]
    exact ih hl'

end

/-! ### Adding a loader -/

/-- The field `_succ` of every loader and the global `_loaders`. -/
structure Loaders (α : Type u) where
  succ : α → Option α
  loaders : Option α

section

variable {α C : Type}

/-- Loaders that were created and none added. -/
def Loaders.start : Loaders α := ⟨fun _ => none, none⟩

/-- The loader that was added first is not added again. -/
def FirstOnce (calls : List α) : Prop := ∀ first rest, calls = first :: rest → first ∉ rest

theorem firstOnce_append {calls : List α} {l : α} :
    FirstOnce (calls ++ [l]) ↔ FirstOnce calls ∧ calls.head? ≠ some l := by
  cases calls with
  | nil => simp [FirstOnce]
  | cons first rest =>
    have hiff : FirstOnce (first :: rest) ↔ first ∉ rest := by
      constructor
      · exact fun h => h first rest rfl
      · rintro h a as ⟨rfl, rfl⟩
        exact h
    have hiff' : FirstOnce (first :: (rest ++ [l])) ↔ first ∉ rest ++ [l] := by
      constructor
      · exact fun h => h first _ rfl
      · rintro h a as ⟨rfl, rfl⟩
        exact h
    rw [List.cons_append, hiff, hiff']
    simp [eq_comm]

variable [DecidableEq α]

def addDatabaseLoader (s : Loaders α) (loader : α) : Loaders α :=
  if (s.succ loader).isSome then s
  else ⟨Function.update s.succ loader s.loaders, some loader⟩

def addAll (calls : List α) : Loaders α := calls.foldl addDatabaseLoader .start

def Terminates (typeOf : α → Text) (s : Loaders α) : Prop :=
  ∀ (connect : α → Option C) (dbType : Text),
    ∃ fuel result, loadLoop typeOf connect s.succ dbType fuel s.loaders = some result

/-- A path through every added loader, once. -/
def Listed (s : Loaders α) (calls : List α) : Prop :=
  ∃ ls, Path s.succ s.loaders ls ∧ ls.Nodup ∧ ∀ l, l ∈ ls ↔ l ∈ calls

/-! ### The list and its end -/

/-- The list as long as the first loader was added once. -/
structure Ordered (s : Loaders α) (calls ls : List α) : Prop where
  path : Path s.succ s.loaders ls
  nodup : ls.Nodup
  mem_iff : ∀ l, l ∈ ls ↔ l ∈ calls
  unlinked : ∀ l, l ∉ ls → s.succ l = none
  last : ls.getLast? = calls.head?

/-- The list after that. -/
structure Cyclic (s : Loaders α) (calls : List α) : Prop where
  endless : Endless s.succ calls
  unlinked : ∀ l, l ∉ calls → s.succ l = none
  loaders : ∃ l ∈ calls, s.loaders = some l

variable {s : Loaders α} {calls ls : List α}

theorem added_self {l : α} (h : s.succ l = none) : (addDatabaseLoader s l).succ l = s.loaders := by
  rw [addDatabaseLoader, if_neg (by simp [h])]
  exact Function.update_self ..

theorem added_other {l x : α} (hx : x ≠ l) : (addDatabaseLoader s l).succ x = s.succ x := by
  rw [addDatabaseLoader]
  split_ifs
  · rfl
  · exact Function.update_of_ne hx _ _

theorem added_loaders {l : α} (h : s.succ l = none) : (addDatabaseLoader s l).loaders = some l := by
  rw [addDatabaseLoader, if_neg (by simp [h])]

theorem ordered_start : Ordered (addAll (α := α) []) [] [] :=
  ⟨.nil, .nil, fun _ => Iff.rfl, fun _ _ => rfl, rfl⟩

/-- A loader that is not the first one of all may be added again. -/
theorem Ordered.add (h : Ordered s calls ls) {l : α} (hfirst : calls.head? ≠ some l) :
    ∃ ls', Ordered (addDatabaseLoader s l) (calls ++ [l]) ls' := by
  by_cases hl : l ∈ ls
  · have hlinked : (s.succ l).isSome = true := by
      rw [Option.isSome_iff_ne_none]
      intro hnone
      exact hfirst (h.last ▸ h.path.succ_eq_none hl hnone)
    have hmem : l ∈ calls := (h.mem_iff l).mp hl
    have hhead : (calls ++ [l]).head? = calls.head? :=
      List.head?_append_of_ne_nil _ (List.ne_nil_of_mem hmem)
    refine ⟨ls, ?_⟩
    rw [addDatabaseLoader, if_pos hlinked]
    refine ⟨h.path, h.nodup, fun x => ?_, h.unlinked, hhead ▸ h.last⟩
    rw [h.mem_iff, List.mem_append, List.mem_singleton]
    exact ⟨.inl, fun hx => hx.elim id fun hx => hx ▸ hmem⟩
  · have hunlinked := h.unlinked l hl
    refine ⟨l :: ls, ?_, List.nodup_cons.mpr ⟨hl, h.nodup⟩, fun x => ?_, fun x hx => ?_, ?_⟩
    · rw [added_loaders hunlinked]
      refine .cons ?_
      rw [added_self hunlinked]
      exact h.path.congr fun x hx => added_other fun heq => hl (heq ▸ hx)
    · rw [List.mem_cons, h.mem_iff, List.mem_append, List.mem_singleton, or_comm]
    · rw [List.mem_cons, not_or] at hx
      exact (added_other hx.1).trans (h.unlinked x hx.2)
    · have hlast := h.last
      cases calls with
      | nil =>
        rw [List.getLast?_eq_none_iff.mp hlast]
        rfl
      | cons first rest =>
        cases ls with
        | nil => cases hlast
        | cons a ls =>
          rw [List.getLast?_cons_cons]
          exact hlast

theorem Ordered.repeat_first (h : Ordered s calls ls) {l : α} (hfirst : calls.head? = some l) :
    Cyclic (addDatabaseLoader s l) (calls ++ [l]) := by
  have hlast : ls.getLast? = some l := h.last.trans hfirst
  have hl : l ∈ ls := List.mem_of_getLast? hlast
  have hnone := h.path.last hlast
  have hmem (x : α) : x ∈ calls ++ [l] ↔ x ∈ ls := by
    rw [List.mem_append, ← h.mem_iff, List.mem_singleton]
    exact ⟨fun hx => hx.elim id fun hx => hx ▸ hl, .inl⟩
  refine ⟨⟨fun x hx => ?_⟩, fun x hx => ?_, ⟨l, (hmem l).mpr hl, added_loaders hnone⟩⟩
  · rw [hmem] at hx
    by_cases heq : x = l
    · obtain ⟨a, rest, rfl⟩ := List.exists_cons_of_ne_nil (List.ne_nil_of_mem hl)
      refine ⟨a, (hmem a).mpr List.mem_cons_self, ?_⟩
      rw [heq, added_self hnone]
      exact h.path.start_eq
    · rw [added_other heq]
      cases hsucc : s.succ x with
      | none =>
        have hlast' := h.path.succ_eq_none hx hsucc
        rw [hlast] at hlast'
        exact absurd (Option.some.inj hlast').symm heq
      | some x' => exact ⟨x', (hmem x').mpr (h.path.next_mem hx hsucc), rfl⟩
  · rw [hmem] at hx
    have heq : x ≠ l := fun heq => hx (heq ▸ hl)
    exact (added_other heq).trans (h.unlinked x hx)

theorem Cyclic.add (h : Cyclic s calls) (l : α) :
    Cyclic (addDatabaseLoader s l) (calls ++ [l]) := by
  obtain ⟨hendless, hunlinked, first, hfirst, hloaders⟩ := h
  by_cases hl : l ∈ calls
  · obtain ⟨l', hl', hsucc⟩ := hendless.next l hl
    have hmem (x : α) : x ∈ calls ++ [l] ↔ x ∈ calls := by
      rw [List.mem_append, List.mem_singleton]
      exact ⟨fun hx => hx.elim id fun hx => hx ▸ hl, .inl⟩
    rw [addDatabaseLoader, if_pos (by simp [hsucc])]
    refine ⟨⟨fun x hx => ?_⟩, fun x hx => hunlinked x fun hx' => hx ((hmem x).mpr hx'),
      ⟨first, (hmem first).mpr hfirst, hloaders⟩⟩
    obtain ⟨x', hx', hsucc'⟩ := hendless.next x ((hmem x).mp hx)
    exact ⟨x', (hmem x').mpr hx', hsucc'⟩
  · have hnone := hunlinked l hl
    refine ⟨⟨fun x hx => ?_⟩, fun x hx => ?_, ⟨l, by simp, added_loaders hnone⟩⟩
    · by_cases heq : x = l
      · refine ⟨first, List.mem_append_left _ hfirst, ?_⟩
        rw [heq, added_self hnone, hloaders]
      · rw [List.mem_append, List.mem_singleton] at hx
        obtain ⟨x', hx', hsucc⟩ := hendless.next x (hx.resolve_right heq)
        exact ⟨x', List.mem_append_left _ hx', (added_other heq).trans hsucc⟩
    · rw [List.mem_append, List.mem_singleton, not_or] at hx
      exact (added_other hx.2).trans (hunlinked x hx.1)

/-! ### Any sequence of calls -/

/-- By induction on the calls, the last one first. -/
theorem ordered_or_cyclic (calls : List α) :
    (FirstOnce calls ∧ ∃ ls, Ordered (addAll calls) calls ls) ∨
      ¬ FirstOnce calls ∧ Cyclic (addAll calls) calls := by
  induction calls using List.reverseRecOn with
  | nil => exact .inl ⟨by simp [FirstOnce], [], ordered_start⟩
  | append_singleton calls l ih =>
    have hadd : addAll (calls ++ [l]) = addDatabaseLoader (addAll calls) l := by
      simp [addAll]
    rw [hadd, firstOnce_append]
    rcases ih with ⟨honce, ls, hordered⟩ | ⟨honce, hcyclic⟩
    · by_cases hfirst : calls.head? = some l
      · exact .inr ⟨fun h => h.2 hfirst, hordered.repeat_first hfirst⟩
      · exact .inl ⟨⟨honce, hfirst⟩, hordered.add hfirst⟩
    · exact .inr ⟨fun h => honce h.1, hcyclic.add l⟩

/-- The list is a path through the loaders that were added, and every database is looked for
in finite time, if and only if the first loader was added once. -/
theorem loaders_listed_iff (typeOf : α → Text) (calls : List α) :
    (Listed (addAll calls) calls ↔ FirstOnce calls) ∧
      (Terminates (C := C) typeOf (addAll calls) ↔ FirstOnce calls) := by
  rcases ordered_or_cyclic calls with ⟨honce, ls, hordered⟩ | ⟨honce, hcyclic⟩
  · refine ⟨iff_of_true ⟨ls, hordered.path, hordered.nodup, hordered.mem_iff⟩ honce,
      iff_of_true (fun connect dbType => loadLoop_path hordered.path) honce⟩
  · obtain ⟨hendless, -, first, hfirst, hloaders⟩ := hcyclic
    refine ⟨iff_of_false (fun hlisted => ?_) honce, iff_of_false (fun hterminates => ?_) honce⟩
    · obtain ⟨ls, hpath, -⟩ := hlisted
      rw [hloaders] at hpath
      exact hendless.no_path hfirst hpath
    · obtain ⟨dbType, hdbType⟩ := Infinite.exists_notMem_finset (calls.map typeOf).toFinset
      obtain ⟨fuel, result, hloop⟩ := hterminates (fun _ => none) dbType
      have htype : ∀ l ∈ calls, typeOf l ≠ dbType := fun l hl heq => by
        refine hdbType (List.mem_toFinset.mpr (List.mem_map.mpr ⟨l, hl, heq⟩))
      rw [hloaders, loadLoop_endless hendless htype fuel hfirst] at hloop
      cases hloop

end

/-- The only loader of a list, added again. -/
theorem loader_added_twice : (addAll [(), ()]).succ () = some () ∧
    ¬ Listed (addAll [(), ()]) [(), ()] := by
  refine ⟨rfl, fun h => ?_⟩
  obtain ⟨ls, hpath, -⟩ := h
  have hendless : Endless (addAll [(), ()]).succ [()] := ⟨fun _ _ => ⟨(), by simp, rfl⟩⟩
  exact hendless.no_path (List.mem_singleton.mpr rfl) hpath

end DatabaseMod.CoreLoaders
