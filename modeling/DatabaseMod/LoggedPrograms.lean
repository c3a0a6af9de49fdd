import Mathlib

/-!
# Programs that keep a log

A program of the writer monad has a value and a log. The rules read both off its steps, so
that a property of every entry of the log is proved step by step.
-/

namespace DatabaseMod.LoggedPrograms

variable {ε α β : Type}

abbrev Logged (ε : Type) : Type → Type := Writer (List ε)

def logged (a : α) (l : List ε) : Logged ε α := WriterT.mk (a, l)

def value (x : Logged ε α) : α := (WriterT.run x).1

def log (x : Logged ε α) : List ε := (WriterT.run x).2

@[simp] theorem value_logged (a : α) (l : List ε) : value (logged a l) = a := rfl

@[simp] theorem log_logged (a : α) (l : List ε) : log (logged a l) = l := rfl

@[simp] theorem value_pure (a : α) : value (pure a : Logged ε α) = a := rfl

@[simp] theorem log_pure (a : α) : log (pure a : Logged ε α) = [] := rfl

@[simp] theorem value_bind (x : Logged ε α) (f : α → Logged ε β) :
    value (x >>= f) = value (f (value x)) := rfl

@[simp] theorem log_bind (x : Logged ε α) (f : α → Logged ε β) :
    log (x >>= f) = log x ++ log (f (value x)) := rfl

@[simp] theorem value_ite (c : Prop) [Decidable c] (x y : Logged ε α) :
    value (if c then x else y) = if c then value x else value y := apply_ite value c x y

@[simp] theorem log_ite (c : Prop) [Decidable c] (x y : Logged ε α) :
    log (if c then x else y) = if c then log x else log y := apply_ite log c x y

/-- Every entry of the log has the property. -/
def Logs (P : ε → Prop) (x : Logged ε α) : Prop := ∀ e ∈ log x, P e

@[simp] theorem logs_pure (P : ε → Prop) (a : α) : Logs P (pure a : Logged ε α) :=
  fun _ he => absurd he List.not_mem_nil

@[simp] theorem logs_logged (P : ε → Prop) (a : α) (l : List ε) :
    Logs P (logged a l) ↔ ∀ e ∈ l, P e := Iff.rfl

@[simp] theorem logs_bind {P : ε → Prop} {x : Logged ε α} {f : α → Logged ε β} :
    Logs P (x >>= f) ↔ Logs P x ∧ Logs P (f (value x)) := by
  simp only [Logs, log_bind, List.mem_append]
  constructor
  · intro h
    exact ⟨fun e he => h e (.inl he), fun e he => h e (.inr he)⟩
  · intro h e he
    rcases he with he | he
    · exact h.1 e he
    · exact h.2 e he

end DatabaseMod.LoggedPrograms
