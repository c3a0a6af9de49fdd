import DatabaseMod.OrmModel
import DatabaseMod.SqliteTransactions

/-!
# Transactions of the ORM

A transaction object is made by a successful start and ends the transaction once. The methods of
the driver report success or failure; a transaction is open from a start to an end that reported
success.
-/

namespace DatabaseMod.OrmTransaction
open SqlTokens (Text)
open OrmModel (TOrmException)

/-! ### The driver -/

inductive Call
  | start
  | commit
  | rollback
deriving DecidableEq, Repr

/-- The transaction methods of a connection with states `σ`. -/
structure Driver (σ : Type*) where
  hasTransactionSupport : Bool
  startTransaction : σ → Bool × σ
  commit : σ → Bool × σ
  rollback : σ → Bool × σ

def Driver.answer {σ : Type*} (d : Driver σ) : Call → σ → Bool × σ
  | .start => d.startTransaction
  | .commit => d.commit
  | .rollback => d.rollback

/-- Whether calls with these reports leave a transaction open; a start is refused in one. -/
def inTransaction (calls : List (Call × Bool)) : Bool :=
  calls.foldl (fun opened call => if call.2 then call.1 = .start else opened) false

/-- The calls that ended a transaction. -/
def endings (calls : List (Call × Bool)) : List (Call × Bool) :=
  calls.filter fun call => call.1 ≠ .start ∧ call.2 = true

theorem inTransaction_append (calls : List (Call × Bool)) (call : Call) (reported : Bool) :
    inTransaction (calls ++ [(call, reported)]) =
      if reported then decide (call = .start) else inTransaction calls := by
  rw [inTransaction, List.foldl_append]
  rfl

theorem endings_append {call : Call} (hcall : call ≠ .start) (calls : List (Call × Bool))
    (reported : Bool) : endings (calls ++ [(call, reported)]) =
      endings calls ++ if reported then [(call, reported)] else [] := by
  rw [endings, List.filter_append]
  cases reported <;> simp [endings, hcall]

/-! ### The transaction object -/

/-- The object with the state of its connection and the calls that it made. -/
structure TOrmTransaction (σ : Type*) where
  db : σ
  calls : List (Call × Bool)
  completed : Bool
  isStrict : Bool

namespace TOrmTransaction

variable {σ : Type*} (d : Driver σ) (t : TOrmTransaction σ)

def call (c : Call) : Bool × TOrmTransaction σ :=
  let r := d.answer c t.db
  (r.1, { t with db := r.2, calls := t.calls ++ [(c, r.1)] })

def new (db : σ) (isStrict : Bool) : Except TOrmException (TOrmTransaction σ) :=
  if ¬ d.hasTransactionSupport then .error ⟨"Database does not support transactions".toList⟩
  else
    let r := call d ⟨db, [], false, isStrict⟩ .start
    if ¬ r.1 then .error ⟨"Failed to start transaction".toList⟩ else .ok r.2

def commit : Except TOrmException Unit × TOrmTransaction σ :=
  if t.completed then (.ok (), t)
  else
    let r := t.call d .commit
    if ¬ r.1 then (.error ⟨"Failed to commit transaction".toList⟩, r.2)
    else (.ok (), { r.2 with completed := true })

def rollback : Except TOrmException Unit × TOrmTransaction σ :=
  if t.completed then (.ok (), t)
  else
    let r := t.call d .rollback
    if ¬ r.1 then (.error ⟨"Failed to rollback transaction".toList⟩, r.2)
    else (.ok (), { r.2 with completed := true })

/-- What the driver reports is not looked at here. -/
def close : Except TOrmException Unit × TOrmTransaction σ :=
  if t.completed then (.ok (), t)
  else
    let t := { (t.call d .rollback).2 with completed := true }
    if t.isStrict then (.error ⟨"Transaction closed without Commit()".toList⟩, t) else (.ok (), t)

end TOrmTransaction

open TOrmTransaction

/-! ### Runs -/

inductive Step (σ : Type*)
  | commit
  | rollback
  | close
  /-- Anything else that uses the connection. -/
  | work (db : σ)

section

variable {σ : Type*} (d : Driver σ) (t : TOrmTransaction σ)

/-- An exception is caught, and the object is used on. -/
def Step.apply : Step σ → TOrmTransaction σ
  | .commit => (t.commit d).2
  | .rollback => (t.rollback d).2
  | .close => (t.close d).2
  | .work db => { t with db := db }

def run (steps : List (Step σ)) : TOrmTransaction σ :=
  steps.foldl (Step.apply d) t

/-- A closing that is left to end the transaction finds a rollback that succeeds. -/
def Step.Meets : Step σ → Prop
  | .close => t.completed = false → (d.rollback t.db).1 = true
  | _ => True

def Meets (t : TOrmTransaction σ) : List (Step σ) → Prop
  | [] => True
  | step :: steps => step.Meets d t ∧ Meets (step.apply d t) steps

/-- A step makes no call, or it makes one on a transaction that is not completed. -/
theorem Step.apply_cases (step : Step σ) :
    ((step.apply d t).calls = t.calls ∧ (step.apply d t).completed = t.completed ∧
        step.Meets d t) ∨
      t.completed = false ∧ ∃ call reported, call ≠ Call.start ∧
        (step.apply d t).calls = t.calls ++ [(call, reported)] ∧
        ((step.apply d t).completed = true ↔ reported = true ∨ ¬ step.Meets d t) ∧
        (reported = true → step.Meets d t) := by
  cases hcompleted : t.completed with
  | true =>
    left
    cases step with
    | commit => simp [Step.apply, TOrmTransaction.commit, hcompleted, Step.Meets]
    | rollback => simp [Step.apply, TOrmTransaction.rollback, hcompleted, Step.Meets]
    | close => simp [Step.apply, TOrmTransaction.close, hcompleted, Step.Meets]
    | work db => exact ⟨rfl, hcompleted, trivial⟩
  | false =>
    cases step with
    | commit =>
      refine .inr ⟨rfl, .commit, (d.commit t.db).1, by decide, ?_⟩
      cases hreported : (d.commit t.db).1 <;>
        simp [Step.apply, TOrmTransaction.commit, call, Driver.answer, hcompleted, hreported,
          Step.Meets]
    | rollback =>
      refine .inr ⟨rfl, .rollback, (d.rollback t.db).1, by decide, ?_⟩
      cases hreported : (d.rollback t.db).1 <;>
        simp [Step.apply, TOrmTransaction.rollback, call, Driver.answer, hcompleted, hreported,
          Step.Meets]
    | close =>
      refine .inr ⟨rfl, .rollback, (d.rollback t.db).1, by decide, ?_⟩
      cases hreported : (d.rollback t.db).1 <;> cases hstrict : t.isStrict <;>
        simp [Step.apply, TOrmTransaction.close, call, Driver.answer, hcompleted, hreported,
          hstrict, Step.Meets]
    | work db => exact .inl ⟨rfl, hcompleted, trivial⟩

/-- Until it is completed, the transaction is open. -/
structure Sound : Prop where
  opened : t.completed = false → inTransaction t.calls = true
  pending : t.completed = false → endings t.calls = []
  once : (endings t.calls).length ≤ 1

/-- A completed transaction has been ended. -/
def Ended : Prop := t.completed = true → inTransaction t.calls = false

variable {t}

theorem Sound.apply (ht : Sound t) (step : Step σ) : Sound (step.apply d t) := by
  obtain ⟨hcalls, hcompleted, -⟩ | ⟨hpending, call, reported, hcall, hcalls, hcompleted, -⟩ :=
    step.apply_cases d t
  · refine ⟨?_, ?_, ?_⟩
    · rw [hcalls, hcompleted]
      exact ht.opened
    · rw [hcalls, hcompleted]
      exact ht.pending
    · rw [hcalls]
      exact ht.once
  · have hendings : endings (step.apply d t).calls = if reported then [(call, reported)] else [] := by
      rw [hcalls, endings_append hcall, ht.pending hpending, List.nil_append]
    have hfailed (h : (step.apply d t).completed = false) : ¬ reported = true := fun hreported =>
      Bool.false_ne_true (h.symm.trans (hcompleted.mpr (.inl hreported)))
    refine ⟨fun h => ?_, fun h => ?_, ?_⟩
    · rw [hcalls, inTransaction_append, if_neg (hfailed h)]
      exact ht.opened hpending
    · rw [hendings, if_neg (hfailed h)]
    · rw [hendings]
      cases reported <;> simp

theorem Sound.apply_ended_iff (ht : Sound t) (hended : Ended t) (step : Step σ) :
    Ended (step.apply d t) ↔ step.Meets d t := by
  obtain ⟨hcalls, hcompleted, hmeets⟩ | ⟨hpending, call, reported, hcall, hcalls, hcompleted, hok⟩ :=
    step.apply_cases d t
  · refine iff_of_true ?_ hmeets
    rw [Ended, hcalls, hcompleted]
    exact hended
  · rw [Ended, hcalls, hcompleted, inTransaction_append]
    cases reported with
    | true => simp [hcall, hok rfl]
    | false => simp [ht.opened hpending]

theorem Sound.run (ht : Sound t) (steps : List (Step σ)) : Sound (run d t steps) :=
  List.foldlRecOn steps (Step.apply d) ht fun _ hs step _ => hs.apply d step

/-- After every part of a run that meets the condition, and only of one, a completed transaction
has been ended. -/
theorem Sound.run_ended_iff (ht : Sound t) (hended : Ended t) (steps : List (Step σ)) :
    (∀ done, done <+: steps → Ended (OrmTransaction.run d t done)) ↔ Meets d t steps := by
  induction steps generalizing t with
  | nil =>
    refine iff_of_true (fun done hdone => ?_) trivial
    rw [List.prefix_nil.mp hdone]
    exact hended
  | cons step steps ih =>
    constructor
    · intro h
      have hstep : Ended (step.apply d t) := h [step] (List.prefix_append [step] steps)
      refine ⟨(ht.apply_ended_iff d hended step).mp hstep, (ih (ht.apply d step) hstep).mp ?_⟩
      exact fun done hdone => h (step :: done) (List.prefix_cons_inj step |>.mpr hdone)
    · rintro ⟨hmeets, hrest⟩ done hdone
      obtain rfl | ⟨rest, rfl, hrest'⟩ := List.prefix_cons_iff.mp hdone
      · exact hended
      · have hstep := (ht.apply_ended_iff d hended step).mpr hmeets
        exact (ih (ht.apply d step) hstep).mpr hrest rest hrest'

theorem run_completed (hcompleted : t.completed = true) (steps : List (Step σ)) :
    (run d t steps).calls = t.calls ∧ (run d t steps).completed = true := by
  refine List.foldlRecOn (motive := fun s => s.calls = t.calls ∧ s.completed = true) steps
    (Step.apply d) ⟨rfl, hcompleted⟩ fun s hs step _ => ?_
  obtain ⟨hcalls, hsame, -⟩ | ⟨hpending, -⟩ := step.apply_cases d s
  · exact ⟨hcalls.trans hs.1, hsame.trans hs.2⟩
  · exact absurd (hpending.symm.trans hs.2) Bool.false_ne_true

theorem new_sound {db : σ} {isStrict : Bool} (h : new d db isStrict = .ok t) :
    Sound t ∧ t.completed = false := by
  unfold new at h
  dsimp only at h
  split_ifs at h with hsupport hstarted
  obtain rfl := Except.ok.inj h
  have hcalls : (call d ⟨db, [], false, isStrict⟩ .start).2.calls = [(.start, true)] := by
    simpa [call] using hstarted
  refine ⟨⟨fun _ => ?_, fun _ => ?_, ?_⟩, rfl⟩
  all_goals
    rw [hcalls]
    decide

/-- However it ends, a closing leaves a completed transaction. -/
theorem close_completed (t : TOrmTransaction σ) : (t.close d).2.completed = true := by
  cases hcompleted : t.completed with
  | true =>
    rw [TOrmTransaction.close, if_pos hcompleted]
    exact hcompleted
  | false =>
    rw [TOrmTransaction.close, if_neg (by rw [hcompleted]; exact Bool.false_ne_true)]
    dsimp only
    split_ifs
    all_goals rfl

/-- Whatever the driver reports, at most one call ends the transaction, and none is made after it
is completed; a completed or closed transaction is one that was ended if and only if no closing
met a rollback that failed. -/
theorem closed_transaction_ended_iff {db : σ} {isStrict : Bool} (hnew : new d db isStrict = .ok t)
    (steps : List (Step σ)) :
    (endings (run d t steps).calls).length ≤ 1 ∧
      (∀ done rest, steps = done ++ rest → (run d t done).completed = true →
        (run d t steps).calls = (run d t done).calls) ∧
      ((∀ done, done <+: steps → Ended (run d t done) ∧
          (((run d t done).close d).1 = .ok () → done ++ [.close] <+: steps →
            inTransaction ((run d t done).close d).2.calls = false)) ↔
        Meets d t steps) := by
  obtain ⟨hsound, hpending⟩ := new_sound d hnew
  have hended : Ended t := fun h => absurd (hpending.symm.trans h) Bool.false_ne_true
  refine ⟨(hsound.run d steps).once, ?_, fun h => ?_, fun h done hdone => ⟨?_, ?_⟩⟩
  · rintro done rest rfl hcompleted
    rw [run, List.foldl_append]
    exact (run_completed d hcompleted rest).1
  · exact (hsound.run_ended_iff d hended steps).mp fun done hdone => (h done hdone).1
  · exact (hsound.run_ended_iff d hended steps).mpr h done hdone
  · intro _ hclose
    have hrun := (hsound.run_ended_iff d hended steps).mpr h _ hclose
    rw [run, List.foldl_append] at hrun
    exact hrun (close_completed d _)

end

/-! ### SQLite -/

open SqlEngine CoreValues SqliteDriver SqliteConnection

def TDBSQLite (e : Engine) (conv : Conversions) : Driver Store where
  hasTransactionSupport := true
  startTransaction s := s.startTransaction e conv
  commit s := s.commit e conv
  rollback s := s.rollback e conv

/-- An engine that refuses one statement. -/
def refusing (sql : Text) : Engine where
  prepare _ _ := .ok (some ⟨0, []⟩)
  reset _ _ := none
  bind _ _ _ _ := none
  run log handle := ⟨[], match (log[handle]?).map Call.action with
    | some (.prepare text) => if text = sql then some .misuse else none
    | _ => none⟩
  message _ := noError

/-- A connection that was just opened. -/
def connected : Store := Store.create.open false none

def uncommittable : Driver Store :=
  TDBSQLite (refusing "COMMIT TRANSACTION".toList) .integers

def unending : Driver Store :=
  TDBSQLite (refusing "ROLLBACK TRANSACTION".toList) .integers

/-- The commit fails, and the closing ends the transaction. -/
theorem closed_transaction_ended_iff_uncommittable :
    ∃ t, new uncommittable connected true = .ok t ∧
      (t.commit uncommittable).2.completed = false ∧
      inTransaction (run uncommittable t [.commit, .close]).calls = false := by
  refine ⟨_, rfl, by decide +kernel, ?_⟩
  have h := closed_transaction_ended_iff uncommittable
    (show new uncommittable connected true = .ok _ from rfl) [.commit, .close]
  exact (h.2.2.mpr ⟨trivial, fun _ => by decide +kernel, trivial⟩ _ (List.prefix_refl _)).1
    (close_completed uncommittable _)

/-- The rollback of the closing fails, and the closing returns. -/
theorem closed_not_ended :
    ∃ t, new unending connected false = .ok t ∧ (t.close unending).1 = .ok () ∧
      (t.close unending).2.completed = true ∧
      inTransaction (t.close unending).2.calls = true ∧
      endings (t.close unending).2.calls = [] := by
  refine ⟨_, rfl, ?_, ?_, ?_, ?_⟩
  all_goals decide +kernel

end DatabaseMod.OrmTransaction
