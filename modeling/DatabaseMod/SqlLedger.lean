import DatabaseMod.SqlEngine

/-!
# A ledger of prepared statements

Each statement that a log of native calls prepares is finalized or still held by someone.
A piece of code that takes one statement and leaves another keeps this account if every
native call of it does.
-/

namespace DatabaseMod.SqlLedger
open SqlTokens (Text)
open SqlEngine

/-- The handle of the statement that a call made. -/
def prepared (c : Call) : Option ℕ :=
  match c.action, c.result with
  | .prepare _, none => c.handle
  | _, _ => none

/-- The handle of the statement that a call finalized. -/
def finalized (c : Call) : Option ℕ :=
  match c.action with
  | .finalize => c.handle
  | _ => none

def prepareCount (log : List Call) (handle : ℕ) : ℕ := log.countP (prepared · = some handle)

def finalizeCount (log : List Call) (handle : ℕ) : ℕ := log.countP (finalized · = some handle)

def held (s : Option Statement) (handle : ℕ) : ℕ := if s.map (·.handle) = some handle then 1 else 0

theorem prepareCount_append (log : List Call) (c : Call) (handle : ℕ) :
    prepareCount (log ++ [c]) handle =
      prepareCount log handle + if prepared c = some handle then 1 else 0 := by
  simp [prepareCount, List.countP_singleton]

theorem finalizeCount_append (log : List Call) (c : Call) (handle : ℕ) :
    finalizeCount (log ++ [c]) handle =
      finalizeCount log handle + if finalized c = some handle then 1 else 0 := by
  simp [finalizeCount, List.countP_singleton]

/-- A statement is named by the place of the call that made it. -/
def Numbered (log : List Call) : Prop :=
  ∀ (i : ℕ) (hi : i < log.length) (handle : ℕ), prepared log[i] = some handle → handle = i

/-- Native calls that take one statement and leave another one keep the account: what was
prepared is finalized or held. -/
structure Accounts (log : List Call) (s : Option Statement) (log' : List Call)
    (s' : Option Statement) : Prop where
  grows : log <+: log'
  numbered : Numbered log → Numbered log'
  balance : ∀ handle,
    prepareCount log' handle + finalizeCount log handle + held s handle =
      prepareCount log handle + finalizeCount log' handle + held s' handle

theorem Accounts.refl (log : List Call) (s : Option Statement) : Accounts log s log s where
  grows := List.prefix_rfl
  numbered h := h
  balance _ := rfl

theorem Accounts.trans {log₁ log₂ log₃ : List Call} {s₁ s₂ s₃ : Option Statement}
    (h : Accounts log₁ s₁ log₂ s₂) (h' : Accounts log₂ s₂ log₃ s₃) :
    Accounts log₁ s₁ log₃ s₃ where
  grows := h.grows.trans h'.grows
  numbered hn := h'.numbered (h.numbered hn)
  balance handle := by
    have hb := h.balance handle
    have hb' := h'.balance handle
    omega

theorem Numbered.append {log : List Call} (h : Numbered log) {c : Call}
    (hc : ∀ handle, prepared c = some handle → handle = log.length) : Numbered (log ++ [c]) := by
  intro i hi handle hprepared
  rcases Nat.lt_or_ge i log.length with hlt | hge
  · rw [List.getElem_append_left hlt] at hprepared
    exact h i hlt handle hprepared
  · obtain rfl : i = log.length := by
      simp only [List.length_append, List.length_singleton] at hi
      omega
    exact hc handle (by simpa using hprepared)

theorem Numbered.prepareCount_le {log : List Call} (h : Numbered log) (handle : ℕ) :
    prepareCount log handle ≤ 1 := by
  induction log using List.reverseRecOn with
  | nil => exact Nat.zero_le 1
  | append_singleton log c ih =>
    have hlog : Numbered log := fun i hi handle' hprepared =>
      h i (by simp; omega) handle' (by rw [List.getElem_append_left hi]; exact hprepared)
    have hlast := h log.length (by simp) handle
    simp only [List.getElem_concat_length] at hlast
    have hcount := ih hlog
    unfold prepareCount at hcount ⊢
    rw [List.countP_append, List.countP_singleton]
    split_ifs with hc
    · -- the last call names its own place, which no call before it does
      have hnone : log.countP (prepared · = some handle) = 0 := by
        refine List.countP_eq_zero.mpr fun d hd hprepared => ?_
        obtain ⟨i, hi, rfl⟩ := List.getElem_of_mem hd
        have hplace := hlog i hi handle (by simpa using hprepared)
        have hself := hlast (by simpa using hc)
        omega
      omega
    · exact hcount

theorem accounts_append (log : List Call) {c : Call} (hprepared : prepared c = none)
    (hfinalized : finalized c = none) (s : Option Statement) :
    Accounts log s (log ++ [c]) s where
  grows := List.prefix_append ..
  numbered h := h.append fun handle hc => by simp [hprepared] at hc
  balance handle := by simp [prepareCount, finalizeCount, hprepared, hfinalized]

theorem Accounts.of_handle {log log' : List Call} {s t t' : Option Statement}
    (h : Accounts log s log' t) (ht : t'.map (·.handle) = t.map (·.handle)) :
    Accounts log s log' t' := by
  refine ⟨h.grows, h.numbered, fun handle => ?_⟩
  rw [h.balance handle, held, held, ht]

variable (e : Engine) (log : List Call) (s : Option Statement)

theorem resetStatement_accounts :
    Accounts log s (resetStatement e log s).1 (resetStatement e log s).2.1 := by
  cases s with
  | none => exact .refl log none
  | some s => exact (accounts_append log rfl rfl (some s)).of_handle rfl

theorem bindStatement_accounts (index : ℕ) (value : SqlValue) :
    Accounts log s (bindStatement e log index value s).1 s := by
  cases s with
  | none => exact accounts_append log rfl rfl none
  | some s => exact accounts_append log rfl rfl (some s)

theorem stepStatement_handle :
    (stepStatement e log s).2.1.map (·.handle) = s.map (·.handle) := by
  cases s with
  | none => rfl
  | some s =>
    cases hrows : (s.run e log).rows with
    | cons row rest =>
      rw [stepStatement_row hrows]
      rfl
    | nil =>
      cases hfailure : (s.run e log).failure with
      | none =>
        rw [stepStatement_done hrows hfailure]
        rfl
      | some code =>
        rw [stepStatement_failed hrows hfailure]
        rfl

theorem stepStatement_accounts :
    Accounts log s (stepStatement e log s).1 (stepStatement e log s).2.1 := by
  obtain ⟨c, hlog, hstep, -⟩ := stepStatement_log e log s
  unfold Call.isStep at hstep
  split at hstep
  next haction =>
    rw [hlog]
    refine (accounts_append log ?_ ?_ s).of_handle (stepStatement_handle e log s)
    · simp [prepared, haction]
    · simp [finalized, haction]
  next => cases hstep

theorem finalize_accounts : Accounts log s (finalize log s) none := by
  cases s with
  | none => exact .refl log none
  | some s =>
    refine ⟨List.prefix_append .., fun h => h.append fun handle hc => (by cases hc), fun handle => ?_⟩
    rw [finalize, prepareCount_append, finalizeCount_append]
    change prepareCount log handle + 0 + finalizeCount log handle + held (some s) handle =
      prepareCount log handle + (finalizeCount log handle + held (some s) handle) + 0
    omega

theorem prepareStatement_accounts (sql : Text) :
    Accounts log none (prepareStatement e log sql).1
      ((prepareStatement e log sql).2.toOption.join) := by
  unfold prepareStatement
  cases e.prepare log sql with
  | error code => exact accounts_append log rfl rfl none
  | ok d =>
    cases d with
    | none => exact accounts_append log rfl rfl none
    | some d =>
      refine ⟨List.prefix_append .., fun h => h.append fun handle hc => ?_, fun handle => ?_⟩
      · exact (Option.some.inj hc).symm
      · rw [prepareCount_append, finalizeCount_append]
        change prepareCount log handle + held (some ⟨log.length, d, none⟩) handle +
            finalizeCount log handle + 0 =
          prepareCount log handle + (finalizeCount log handle + 0) +
            held (some ⟨log.length, d, none⟩) handle
        omega

end DatabaseMod.SqlLedger
