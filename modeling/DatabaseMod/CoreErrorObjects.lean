import DatabaseMod.CoreQuery

/-!
# Error objects

The error of a connection on an explicit store of objects. A connection makes at most one object
until it is freed and writes it in place, so that whoever was handed it sees each later error.
-/

namespace DatabaseMod.CoreErrorObjects
open SqlTokens (Text trim)
open CoreQuery

/-- The arguments of `setError`. -/
structure Report where
  error : Text
  append : Text
  eType : ErrorType
  errorValue : ℤ
deriving DecidableEq, Repr

/-- What `setError` makes of an object that is there. -/
def Report.written (r : Report) : TDatabaseError :=
  ⟨if r.append ≠ [] then r.error ++ " : ".toList ++ r.append else r.error, r.eType, r.errorValue⟩

/-- The methods of a connection that have to do with its error. -/
inductive ErrorCall
  | error
  | resetError
  | setError (r : Report)
  | free
deriving DecidableEq, Repr

/-- Error objects by address, and the address of the one that the connection keeps. -/
structure Errors where
  objects : List TDatabaseError
  lastError : Option ℕ
  valid : ∀ a ∈ lastError, a < objects.length

namespace Errors

variable (σ : Errors)

def read (a : ℕ) : Option TDatabaseError := σ.objects[a]?

/-- The object becomes the one that the connection keeps. -/
def push (e : TDatabaseError) : Errors where
  objects := σ.objects ++ [e]
  lastError := some σ.objects.length
  valid := by simp

def write (a : ℕ) (e : TDatabaseError) : Errors where
  objects := σ.objects.set a e
  lastError := σ.lastError
  valid := by simpa using σ.valid

def error : ℕ × Errors :=
  match σ.lastError with
  | some a => (a, σ)
  | none => (σ.objects.length, σ.push .new)

def resetError : Errors :=
  match σ.lastError with
  | some a => σ.write a .new
  | none => σ

def setError (r : Report) : Errors :=
  match σ.lastError with
  | some a => σ.write a r.written
  | none => σ.push (.create r.error r.append r.eType r.errorValue)

def free : Errors where
  objects := σ.objects
  lastError := none
  valid := by simp

def call : ErrorCall → Errors
  | .error => σ.error.2
  | .resetError => σ.resetError
  | .setError r => σ.setError r
  | .free => σ.free

def run (calls : List ErrorCall) : Errors := calls.foldl Errors.call σ

theorem run_append (calls calls' : List ErrorCall) :
    σ.run (calls ++ calls') = (σ.run calls).run calls' := List.foldl_append

/-- What the rest of the core sees of the error. -/
def view (isOpen : Bool) : TDBConnection := ⟨isOpen, σ.lastError.bind σ.read⟩

end Errors

/-- The same methods on a connection that has the contents of its error only. -/
def ErrorCall.apply (conn : TDBConnection) : ErrorCall → TDBConnection
  | .error => conn.error.2
  | .resetError => conn.resetError
  | .setError r => conn.setError r.error r.append r.eType r.errorValue
  | .free => { conn with lastError := none }

def applyAll (calls : List ErrorCall) (conn : TDBConnection) : TDBConnection :=
  calls.foldl ErrorCall.apply conn

/-! ### Objects refine their contents -/

namespace Errors

variable (σ : Errors) (isOpen : Bool)

theorem view_push (e : TDatabaseError) : (σ.push e).view isOpen = ⟨isOpen, some e⟩ := by
  simp [view, read, push]

variable {σ}

theorem view_none (h : σ.lastError = none) : σ.view isOpen = ⟨isOpen, none⟩ := by
  rw [view, h]
  rfl

theorem view_some {a : ℕ} (h : σ.lastError = some a) :
    ∃ e, σ.read a = some e ∧ σ.view isOpen = ⟨isOpen, some e⟩ := by
  have hlt := σ.valid a h
  refine ⟨σ.objects[a], List.getElem?_eq_getElem hlt, ?_⟩
  rw [view, h, Option.bind_some, read, List.getElem?_eq_getElem hlt]

theorem view_write {a : ℕ} (h : σ.lastError = some a) (e : TDatabaseError) :
    (σ.write a e).view isOpen = ⟨isOpen, some e⟩ := by
  have hlt := σ.valid a h
  have hlast : (σ.write a e).lastError = some a := h
  rw [view, hlast, Option.bind_some, read]
  simp [write, hlt]

variable (σ)

theorem view_call (c : ErrorCall) : (σ.call c).view isOpen = c.apply (σ.view isOpen) := by
  cases h : σ.lastError with
  | none =>
    rw [view_none isOpen h]
    cases c with
    | error =>
      rw [call, Errors.error, h]
      exact view_push σ isOpen .new
    | resetError =>
      rw [call, Errors.resetError, h]
      exact view_none isOpen h
    | setError r =>
      rw [call, Errors.setError, h]
      exact view_push σ isOpen _
    | free => rfl
  | some a =>
    obtain ⟨e, hread, hview⟩ := view_some isOpen h
    cases c with
    | error =>
      rw [call, Errors.error, h, hview]
      rfl
    | resetError =>
      rw [call, Errors.resetError, h, hview]
      exact view_write isOpen h .new
    | setError r =>
      rw [call, Errors.setError, h, hview]
      exact view_write isOpen h r.written
    | free => rfl

theorem view_run (calls : List ErrorCall) :
    (σ.run calls).view isOpen = applyAll calls (σ.view isOpen) := by
  induction calls generalizing σ with
  | nil => rfl
  | cons c calls ih =>
    rw [run, List.foldl_cons, applyAll, List.foldl_cons, ← view_call]
    exact ih (σ.call c)

end Errors

/-! ### What becomes of an object -/

/-- What a call writes into the object of the connection. -/
def ErrorCall.writes : ErrorCall → Option TDatabaseError
  | .resetError => some .new
  | .setError r => some r.written
  | .error | .free => none

/-- The calls before the connection drops its object. -/
def live (calls : List ErrorCall) : List ErrorCall := calls.takeWhile (· ≠ .free)

/-- What these calls have written last. -/
def finalWrite (calls : List ErrorCall) : Option TDatabaseError :=
  (calls.filterMap ErrorCall.writes).getLast?

theorem finalWrite_cons (c : ErrorCall) (calls : List ErrorCall) :
    finalWrite (c :: calls) = (finalWrite calls).or c.writes := by
  unfold finalWrite
  cases h : c.writes with
  | none => rw [List.filterMap_cons_none h, Option.or_none]
  | some e =>
    rw [List.filterMap_cons_some h, List.getLast?_cons]
    cases (calls.filterMap ErrorCall.writes).getLast? <;> rfl

namespace Errors

variable {σ : Errors} {a : ℕ}

theorem read_write (e : TDatabaseError) (h : a < σ.objects.length) : (σ.write a e).read a = some e := by
  simp [read, write, h]

/-- The object that the connection keeps is written in place. -/
theorem call_kept (h : σ.lastError = some a) {c : ErrorCall} (hc : c ≠ .free) :
    (σ.call c).lastError = some a ∧ (σ.call c).read a = c.writes.or (σ.read a) := by
  have hlt := σ.valid a h
  cases c with
  | error =>
    rw [call, Errors.error, h]
    exact ⟨h, rfl⟩
  | resetError =>
    rw [call, Errors.resetError, h]
    exact ⟨h, read_write .new hlt⟩
  | setError r =>
    rw [call, Errors.setError, h]
    exact ⟨h, read_write r.written hlt⟩
  | free => exact absurd rfl hc

/-- An object that the connection does not keep is never written, nor kept again. -/
theorem call_dropped (h : σ.lastError ≠ some a) (hlt : a < σ.objects.length) (c : ErrorCall) :
    (σ.call c).lastError ≠ some a ∧ (σ.call c).read a = σ.read a ∧
      a < (σ.call c).objects.length := by
  have hpush (e : TDatabaseError) : (σ.push e).lastError ≠ some a ∧ (σ.push e).read a = σ.read a ∧
      a < (σ.push e).objects.length := by
    refine ⟨?_, List.getElem?_append_left hlt, ?_⟩
    · simp only [push, ne_eq, Option.some.injEq]
      omega
    · simp only [push, List.length_append, List.length_singleton]
      omega
  have hwrite {b : ℕ} (hb : σ.lastError = some b) (e : TDatabaseError) :
      (σ.write b e).lastError ≠ some a ∧ (σ.write b e).read a = σ.read a ∧
        a < (σ.write b e).objects.length := by
    have hne : b ≠ a := fun heq => h (heq ▸ hb)
    refine ⟨h, ?_, by simpa [write] using hlt⟩
    simp [read, write, hne]
  cases c with
  | free => exact ⟨by simp [call, free], rfl, hlt⟩
  | error =>
    cases hlast : σ.lastError with
    | none =>
      rw [call, Errors.error, hlast]
      exact hpush .new
    | some b =>
      rw [call, Errors.error, hlast]
      exact ⟨h, rfl, hlt⟩
  | resetError =>
    cases hlast : σ.lastError with
    | none =>
      rw [call, Errors.resetError, hlast]
      exact ⟨h, rfl, hlt⟩
    | some b =>
      rw [call, Errors.resetError, hlast]
      exact hwrite hlast .new
  | setError r =>
    cases hlast : σ.lastError with
    | none =>
      rw [call, Errors.setError, hlast]
      exact hpush _
    | some b =>
      rw [call, Errors.setError, hlast]
      exact hwrite hlast r.written

theorem run_dropped (h : σ.lastError ≠ some a) (hlt : a < σ.objects.length)
    (calls : List ErrorCall) :
    (σ.run calls).lastError ≠ some a ∧ (σ.run calls).read a = σ.read a ∧
      a < (σ.run calls).objects.length := by
  induction calls generalizing σ with
  | nil => exact ⟨h, rfl, hlt⟩
  | cons c calls ih =>
    obtain ⟨hlast, hread, hlength⟩ := call_dropped h hlt c
    obtain ⟨hlast', hread', hlength'⟩ := ih hlast hlength
    exact ⟨hlast', hread'.trans hread, hlength'⟩

/-- The object shows what was written last before the connection dropped it. -/
theorem run_kept (h : σ.lastError = some a) (calls : List ErrorCall) :
    (σ.run calls).read a = (finalWrite (live calls)).or (σ.read a) ∧
      ((σ.run calls).lastError = some a ↔ .free ∉ calls) ∧ a < (σ.run calls).objects.length := by
  induction calls generalizing σ with
  | nil => exact ⟨rfl, by simpa [run] using h, σ.valid a h⟩
  | cons c calls ih =>
    by_cases hc : c = .free
    · subst hc
      obtain ⟨hlast, hread, hlt⟩ := run_dropped (σ := σ.free) (by simp [free]) (σ.valid a h) calls
      refine ⟨hread, iff_of_false hlast ?_, hlt⟩
      simp
    · obtain ⟨hlast, hread⟩ := call_kept h hc
      obtain ⟨hread', hlast', hlt⟩ := ih hlast
      refine ⟨?_, hlast'.trans ?_, hlt⟩
      · have hlive : live (c :: calls) = c :: live calls :=
          List.takeWhile_cons_of_pos (by simpa using hc)
        rw [hlive, finalWrite_cons, Option.or_assoc, ← hread]
        exact hread'
      · simp [Ne.symm hc]

end Errors

end DatabaseMod.CoreErrorObjects
