import Mathlib

/-!
# Rules for loops that may fail

A loop over a list that may stop with an error is a monadic fold. An invariant of the
elements done so far and the state is proved for one step and holds after the run.
-/

namespace DatabaseMod.LoopRules

universe u

variable {ε α σ : Type*}

theorem bind_eq_ok {α β : Type u} {x : Except ε α} {f : α → Except ε β} {b : β} :
    (x >>= f) = .ok b ↔ ∃ a, x = .ok a ∧ f a = .ok b := by
  cases x with
  | error e => simp [bind, Except.bind]
  | ok a => simp [bind, Except.bind]

theorem foldlM_invariant_from {f : σ → α → Except ε σ} (I : List α → σ → Prop)
    (step : ∀ done a s t, I done s → f s a = .ok t → I (done ++ [a]) t)
    (done l : List α) {s t : σ} (hs : I done s) (h : l.foldlM f s = .ok t) :
    I (done ++ l) t := by
  induction l generalizing done s with
  | nil =>
    obtain rfl : s = t := by simpa [pure, Except.pure] using h
    simpa using hs
  | cons a l ih =>
    rw [List.foldlM_cons, bind_eq_ok] at h
    obtain ⟨s', hstep, hrun⟩ := h
    simpa using ih (done ++ [a]) (step done a s s' hs hstep) hrun

/-- What one step preserves, with the elements done so far, a whole run establishes. -/
theorem foldlM_invariant {f : σ → α → Except ε σ} (I : List α → σ → Prop)
    (step : ∀ done a s t, I done s → f s a = .ok t → I (done ++ [a]) t)
    (l : List α) {s t : σ} (hs : I [] s) (h : l.foldlM f s = .ok t) : I l t :=
  foldlM_invariant_from I step [] l hs h

/-- What every failing step from a state with the invariant says, a failing run says. -/
theorem foldlM_error {f : σ → α → Except ε σ} (I : σ → Prop) (P : ε → Prop)
    (step : ∀ s a t, I s → f s a = .ok t → I t) (fails : ∀ s a e, I s → f s a = .error e → P e)
    {l : List α} {s : σ} {e : ε} (hs : I s) (h : l.foldlM f s = .error e) : P e := by
  induction l generalizing s with
  | nil => cases h
  | cons a l ih =>
    rw [List.foldlM_cons] at h
    cases hstep : f s a with
    | error e' =>
      rw [hstep] at h
      obtain rfl := Except.error.inj h
      exact fails s a e' hs hstep
    | ok t =>
      rw [hstep] at h
      exact ih (step s a t hs hstep) h

/-- The states of a run keep an invariant if and only if each of its steps lets them. -/
theorem foldlM_take_iff {f : σ → α → Option σ} {I : σ → Prop} {ok : α → Prop} {l : List α}
    (step : ∀ s, ∀ a ∈ l, I s → ∃ t, f s a = some t ∧ (I t ↔ ok a)) {s : σ} (hs : I s) :
    (∀ n, ∃ t, (l.take n).foldlM f s = some t ∧ I t) ↔ ∀ a ∈ l, ok a := by
  induction l generalizing s with
  | nil => exact iff_of_true (fun n => ⟨s, by rw [List.take_nil]; rfl, hs⟩) (by simp)
  | cons a l ih =>
    obtain ⟨t, hstep, hiff⟩ := step s a List.mem_cons_self hs
    have hrest : ∀ s, ∀ b ∈ l, I s → ∃ t, f s b = some t ∧ (I t ↔ ok b) :=
      fun s b hb => step s b (List.mem_cons_of_mem a hb)
    have hrun (n : ℕ) : ((a :: l).take (n + 1)).foldlM f s = (l.take n).foldlM f t := by
      rw [List.take_succ_cons, List.foldlM_cons, hstep]
      rfl
    constructor
    · intro h
      have ht : I t := by
        obtain ⟨t', hrun', ht'⟩ := h 1
        rw [hrun, List.take_zero] at hrun'
        rwa [Option.some.inj hrun']
      have htail := (ih hrest ht).mp fun n => hrun n ▸ h (n + 1)
      exact List.forall_mem_cons.mpr ⟨hiff.mp ht, htail⟩
    · intro h n
      cases n with
      | zero => exact ⟨s, rfl, hs⟩
      | succ n =>
        obtain ⟨ha, hl⟩ := List.forall_mem_cons.mp h
        rw [hrun]
        exact (ih hrest (hiff.mpr ha)).mpr hl n

/-- What the steps of a run preserve holds in its last state. -/
theorem foldlM_some_invariant {f : σ → α → Option σ} {I : σ → Prop} {l : List α}
    (step : ∀ s, ∀ a ∈ l, ∀ t, I s → f s a = some t → I t) {s t : σ} (hs : I s)
    (h : l.foldlM f s = some t) : I t := by
  induction l generalizing s with
  | nil =>
    obtain rfl : s = t := Option.some.inj h
    exact hs
  | cons a l ih =>
    rw [List.foldlM_cons] at h
    obtain ⟨s', hstep, hrun⟩ := Option.bind_eq_some_iff.mp h
    have hrest : ∀ s, ∀ b ∈ l, ∀ t, I s → f s b = some t → I t :=
      fun s b hb => step s b (List.mem_cons_of_mem a hb)
    exact ih hrest (step s a List.mem_cons_self s' hs hstep) hrun

theorem mapM_forall₂ {α β : Type u} {f : α → Except ε β} {l : List α} {l' : List β}
    (h : l.mapM f = .ok l') : List.Forall₂ (fun a b => f a = .ok b) l l' := by
  induction l generalizing l' with
  | nil =>
    obtain rfl : [] = l' := by simpa [pure, Except.pure] using h
    exact .nil
  | cons a l ih =>
    rw [List.mapM_cons, bind_eq_ok] at h
    obtain ⟨b, ha, h⟩ := h
    rw [bind_eq_ok] at h
    obtain ⟨bs, hl, h⟩ := h
    obtain rfl : b :: bs = l' := by simpa [pure, Except.pure] using h
    exact .cons ha (ih hl)

theorem exists_of_forall₂ {β : Type*} {R : α → β → Prop} {l : List α} {l' : List β}
    (h : List.Forall₂ R l l') {a : α} (ha : a ∈ l) : ∃ b, R a b := by
  induction h with
  | nil => cases ha
  | @cons x y _ _ hxy _ ih =>
    rcases List.mem_cons.mp ha with rfl | ha
    · exact ⟨y, hxy⟩
    · exact ih ha

end DatabaseMod.LoopRules
