import Mathlib.Data.List.Basic

/-!
# Programs that may stop

A program changes a state and either returns a value or stops with an exit. A part of the
state is a log that programs append to; a silent program leaves it as it was.
-/

namespace DatabaseMod.StoppingPrograms

def Program (S E α : Type) : Type := S → Except E α × S

variable {S T E F L α β γ δ : Type}

namespace Program

def stop (e : E) : Program S E α := fun s => (.error e, s)

def bind (m : Program S E α) (f : α → Program S E β) : Program S E β := fun s =>
  match m s with
  | (.ok a, s') => f a s'
  | (.error e, s') => (.error e, s')

instance : Monad (Program S E) where
  pure a := fun s => (.ok a, s)
  bind := bind

theorem bind_ok {m : Program S E α} {s s' : S} {a : α} (h : m s = (.ok a, s'))
    (f : α → Program S E β) : (m >>= f) s = f a s' := by
  change bind m f s = f a s'
  rw [bind, h]

theorem bind_error {m : Program S E α} {s s' : S} {e : E} (h : m s = (.error e, s'))
    (f : α → Program S E β) : (m >>= f) s = (.error e, s') := by
  change bind m f s = (.error e, s')
  rw [bind, h]

theorem bind_bind (m : Program S E α) (f : α → Program S E β) (g : β → Program S E γ) :
    (m >>= f) >>= g = m >>= fun a => f a >>= g := by
  funext s
  cases h : m s with
  | mk r s' =>
    cases r with
    | ok a =>
      have hf : (m >>= f) s = f a s' := bind_ok h f
      rw [bind_ok h]
      change bind (m >>= f) g s = bind (f a) g s'
      rw [bind, bind, hf]
    | error e => rw [bind_error (bind_error h f), bind_error h]

/-- A program that returns was returned to by its first part. -/
theorem ok_of_bind {m : Program S E α} {f : α → Program S E β} {s s' : S} {b : β}
    (h : (m >>= f) s = (.ok b, s')) : ∃ a t, m s = (.ok a, t) ∧ f a t = (.ok b, s') := by
  cases hm : m s with
  | mk r t =>
    cases r with
    | ok a =>
      rw [bind_ok hm] at h
      exact ⟨a, t, rfl, h⟩
    | error e =>
      rw [bind_error hm] at h
      cases h

/-! ### Logs -/

/-- Whether it returns or stops, the program appends nothing. -/
def Silent (log : S → List L) (m : Program S E α) : Prop := ∀ s, log (m s).2 = log s

variable {log : S → List L}

theorem silent_pure (a : α) : Silent log (pure a : Program S E α) := fun _ => rfl

theorem silent_stop (e : E) : Silent log (stop e : Program S E α) := fun _ => rfl

theorem Silent.bind {m : Program S E α} {f : α → Program S E β} (hm : Silent log m)
    (hf : ∀ a, Silent log (f a)) : Silent log (m >>= f) := by
  intro s
  have hms := hm s
  cases h : m s with
  | mk r s' =>
    rw [h] at hms
    cases r with
    | ok a =>
      rw [bind_ok h]
      exact (hf a s').trans hms
    | error e =>
      rw [bind_error h]
      exact hms

/-- A relation between the result of a program and what it appended. -/
def Logs (log : S → List L) (R : Except E α → List L → Prop) (m : Program S E α) : Prop :=
  ∀ s, ∃ new, log (m s).2 = log s ++ new ∧ R (m s).1 new

theorem Silent.logs {m : Program S E α} (hm : Silent log m) :
    Logs log (fun _ new => new = []) m :=
  fun s => ⟨[], (hm s).trans (List.append_nil _).symm, rfl⟩

theorem Logs.imp {R R' : Except E α → List L → Prop} {m : Program S E α} (hm : Logs log R m)
    (h : ∀ r new, R r new → R' r new) : Logs log R' m := by
  intro s
  obtain ⟨new, hnew, hr⟩ := hm s
  exact ⟨new, hnew, h _ new hr⟩

theorem Logs.bind {R : Except E α → List L → Prop} {R' : Except E β → List L → Prop}
    {m : Program S E α} {f : α → Program S E β} (hm : Logs log R m)
    (herror : ∀ e new, R (.error e) new → R' (.error e) new)
    (hf : ∀ a new, R (.ok a) new → Logs log (fun r new' => R' r (new ++ new')) (f a)) :
    Logs log R' (m >>= f) := by
  intro s
  obtain ⟨new, hnew, hr⟩ := hm s
  cases h : m s with
  | mk r s' =>
    rw [h] at hnew hr
    cases r with
    | ok a =>
      obtain ⟨new', hnew', hr'⟩ := hf a new hr s'
      refine ⟨new ++ new', ?_, ?_⟩
      · rw [bind_ok h, hnew', hnew, List.append_assoc]
      · rw [bind_ok h]
        exact hr'
    | error e =>
      refine ⟨new, ?_, ?_⟩
      · rw [bind_error h]
        exact hnew
      · rw [bind_error h]
        exact herror e new hr

/-! ### Projections -/

/-- The second program does what the first one does, seen through maps of the states, of the
exits and of the values. -/
def Projects (f : S → T) (e : E → F) (g : α → γ) (m : Program S E α) (n : Program T F γ) : Prop :=
  ∀ s, n (f s) = (((m s).1.mapError e).map g, f (m s).2)

section

variable {f : S → T} {e : E → F} {g : α → γ}

theorem projects_pure (a : α) : Projects f e g (pure a) (pure (g a)) := fun _ => rfl

theorem projects_stop (x : E) : Projects f e g (stop x) (stop (e x)) := fun _ => rfl

theorem Projects.bind {g' : β → δ} {m : Program S E α} {n : Program T F γ}
    (hm : Projects f e g m n) {p : α → Program S E β} {q : γ → Program T F δ}
    (hp : ∀ a, Projects f e g' (p a) (q (g a))) : Projects f e g' (m >>= p) (n >>= q) := by
  intro s
  have hms := hm s
  cases h : m s with
  | mk r s' =>
    rw [h] at hms
    cases r with
    | ok a =>
      rw [bind_ok h, bind_ok hms]
      exact hp a s'
    | error x =>
      rw [bind_error h, bind_error hms]
      rfl

end

end Program

end DatabaseMod.StoppingPrograms
