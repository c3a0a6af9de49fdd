import Mathlib.Data.List.Perm.Basic
import Mathlib.Order.Nat
import Mathlib.Tactic.SplitIfs

/-!
# A ledger of native handles

Handles of a library are obtained, used and released. A code that makes calls with them is right
if every handle that it uses or releases is open at that time. What it holds in the end, with what
it has let go of, is what is open: the account is kept call by call, whatever else is open.
-/

namespace DatabaseMod.HandleLedger

/-- What a call does with a handle. A release may be refused, which leaves the handle open. -/
inductive Event
  | obtain (handle : ℕ)
  | use (handle : ℕ)
  | release (handle : ℕ) (done : Bool)
  /-- A call without the handle that it needs. -/
  | misuse
deriving DecidableEq, Repr

/-- The open handles after a call, which is refused without the handle that it needs. -/
def Event.next (live : List ℕ) : Event → Option (List ℕ)
  | .obtain handle => if handle ∈ live then none else some (handle :: live)
  | .use handle => if handle ∈ live then some live else none
  | .release handle done =>
    if handle ∈ live then some (if done then live.erase handle else live) else none
  | .misuse => none

def replay (live : List ℕ) (events : List Event) : Option (List ℕ) := events.foldlM Event.next live

theorem replay_append (live : List ℕ) (events events' : List Event) :
    replay live (events ++ events') = (replay live events).bind (replay · events') :=
  List.foldlM_append

/-- Events that are made with some handles leave others, whatever else is open. The handles before
are below `n`, and those after are below `n'`. -/
def Leaves (n n' : ℕ) (held : List ℕ) (events : List Event) (held' : List ℕ) : Prop :=
  ∀ live rest : List ℕ, live.Perm (held ++ rest) → (∀ handle ∈ live, handle < n) →
    ∃ live', replay live events = some live' ∧ live'.Perm (held' ++ rest) ∧
      ∀ handle ∈ live', handle < n'

namespace Leaves

theorem nil (n : ℕ) (held : List ℕ) : Leaves n n held [] held :=
  fun live _ hlive hlt => ⟨live, rfl, hlive, hlt⟩

theorem append {n n' n'' : ℕ} {held held' held'' : List ℕ} {events events' : List Event}
    (h : Leaves n n' held events held') (h' : Leaves n' n'' held' events' held'') :
    Leaves n n'' held (events ++ events') held'' := by
  intro live rest hlive hlt
  obtain ⟨live', hreplay, hlive', hlt'⟩ := h live rest hlive hlt
  obtain ⟨live'', hreplay', hlive'', hlt''⟩ := h' live' rest hlive' hlt'
  refine ⟨live'', ?_, hlive'', hlt''⟩
  rw [replay_append, hreplay]
  exact hreplay'

theorem later {n n' n'' : ℕ} {held held' : List ℕ} {events : List Event}
    (h : Leaves n n' held events held') (hle : n' ≤ n'') : Leaves n n'' held events held' := by
  intro live rest hlive hlt
  obtain ⟨live', hreplay, hlive', hlt'⟩ := h live rest hlive hlt
  exact ⟨live', hreplay, hlive', fun handle hmem => (hlt' handle hmem).trans_le hle⟩

/-- More can be held than the events need. -/
theorem frame {n n' : ℕ} {held held' : List ℕ} {events : List Event}
    (h : Leaves n n' held events held') (more : List ℕ) :
    Leaves n n' (held ++ more) events (held' ++ more) := by
  intro live rest hlive hlt
  rw [List.append_assoc] at hlive ⊢
  exact h live (more ++ rest) hlive hlt

theorem perm {n n' : ℕ} {held held' held₁' : List ℕ} {events : List Event}
    (h : Leaves n n' held events held') (hheld' : held'.Perm held₁') :
    Leaves n n' held events held₁' := by
  intro live rest hlive hlt
  obtain ⟨live', hreplay, hlive', hlt'⟩ := h live rest hlive hlt
  exact ⟨live', hreplay, hlive'.trans (hheld'.append_right rest), hlt'⟩

/-- A new handle is named by the bound of those before it. -/
theorem obtain (n : ℕ) (held : List ℕ) : Leaves n (n + 1) held [.obtain n] (n :: held) := by
  intro live rest hlive hlt
  have hnew : n ∉ live := fun hmem => (hlt n hmem).false
  refine ⟨n :: live, ?_, hlive.cons n, ?_⟩
  · change Event.next live (.obtain n) >>= pure = _
    rw [Event.next, if_neg hnew]
    rfl
  · intro handle hmem
    rcases List.mem_cons.mp hmem with rfl | hmem
    · exact Nat.lt_succ_self handle
    · exact (hlt handle hmem).trans (Nat.lt_succ_self n)

theorem use {n handle : ℕ} {held : List ℕ} (hheld : handle ∈ held) :
    Leaves n n held [.use handle] held := by
  intro live rest hlive hlt
  have hopen : handle ∈ live := hlive.mem_iff.mpr (List.mem_append_left rest hheld)
  refine ⟨live, ?_, hlive, hlt⟩
  change Event.next live (.use handle) >>= pure = _
  rw [Event.next, if_pos hopen]
  rfl

theorem release (n handle : ℕ) (held : List ℕ) :
    Leaves n n (handle :: held) [.release handle true] held := by
  intro live rest hlive hlt
  have hopen : handle ∈ live := hlive.mem_iff.mpr (by simp)
  refine ⟨live.erase handle, ?_, ?_, fun handle hmem => hlt handle (List.mem_of_mem_erase hmem)⟩
  · change Event.next live (.release handle true) >>= pure = _
    rw [Event.next, if_pos hopen]
    rfl
  · have herase := hlive.erase handle
    rwa [List.cons_append, List.erase_cons_head] at herase

theorem refused {n handle : ℕ} {held : List ℕ} (hheld : handle ∈ held) :
    Leaves n n held [.release handle false] held := by
  intro live rest hlive hlt
  have hopen : handle ∈ live := hlive.mem_iff.mpr (List.mem_append_left rest hheld)
  refine ⟨live, ?_, hlive, hlt⟩
  change Event.next live (.release handle false) >>= pure = _
  rw [Event.next, if_pos hopen]
  rfl

end Leaves

section

variable {κ : Type*} (events : κ → List Event)

/-- A code that holds some handles when the log has these calls holds others at the end. -/
def Accounts (log : List κ) (held : List ℕ) (log' : List κ) (held' : List ℕ) : Prop :=
  ∃ calls, log' = log ++ calls ∧
    Leaves log.length log'.length held (calls.flatMap events) held'

variable {events}

namespace Accounts

theorem refl (log : List κ) (held : List ℕ) : Accounts events log held log held :=
  ⟨[], (List.append_nil log).symm, .nil log.length held⟩

theorem trans {log log' log'' : List κ} {held held' held'' : List ℕ}
    (h : Accounts events log held log' held') (h' : Accounts events log' held' log'' held'') :
    Accounts events log held log'' held'' := by
  obtain ⟨calls, hlog, hleaves⟩ := h
  obtain ⟨calls', hlog', hleaves'⟩ := h'
  refine ⟨calls ++ calls', ?_, ?_⟩
  · rw [hlog', hlog, List.append_assoc]
  · rw [List.flatMap_append]
    exact hleaves.append hleaves'

theorem frame {log log' : List κ} {held held' : List ℕ} (h : Accounts events log held log' held')
    (more : List ℕ) : Accounts events log (held ++ more) log' (held' ++ more) := by
  obtain ⟨calls, hlog, hleaves⟩ := h
  exact ⟨calls, hlog, hleaves.frame more⟩

theorem perm {log log' : List κ} {held held' held₁' : List ℕ}
    (h : Accounts events log held log' held') (hheld' : held'.Perm held₁') :
    Accounts events log held log' held₁' := by
  obtain ⟨calls, hlog, hleaves⟩ := h
  exact ⟨calls, hlog, hleaves.perm hheld'⟩

theorem call {log : List κ} {held held' : List ℕ} {c : κ}
    (h : Leaves log.length (log.length + 1) held (events c) held') :
    Accounts events log held (log ++ [c]) held' := by
  refine ⟨[c], rfl, ?_⟩
  rw [List.length_append, List.flatMap_singleton]
  exact h

theorem idle {log : List κ} {c : κ} (hc : events c = []) (held : List ℕ) :
    Accounts events log held (log ++ [c]) held := by
  refine call ?_
  rw [hc]
  exact (Leaves.nil log.length held).later (Nat.le_succ _)

theorem use {log : List κ} {held : List ℕ} {c : κ} {handle : ℕ} (hc : events c = [.use handle])
    (hheld : handle ∈ held) : Accounts events log held (log ++ [c]) held := by
  refine call ?_
  rw [hc]
  exact (Leaves.use hheld).later (Nat.le_succ _)

theorem obtain {log : List κ} {c : κ} (hc : events c = [.obtain log.length]) (held : List ℕ) :
    Accounts events log held (log ++ [c]) (log.length :: held) := by
  refine call ?_
  rw [hc]
  exact .obtain log.length held

/-- A call that uses a handle to obtain another one. -/
theorem derive {log : List κ} {held : List ℕ} {c : κ} {handle : ℕ}
    (hc : events c = [.use handle, .obtain log.length]) (hheld : handle ∈ held) :
    Accounts events log held (log ++ [c]) (log.length :: held) := by
  refine call ?_
  rw [hc]
  exact (Leaves.use hheld).append (.obtain log.length held)

theorem release {log : List κ} {c : κ} {handle : ℕ} (hc : events c = [.release handle true])
    (held : List ℕ) : Accounts events log (handle :: held) (log ++ [c]) held := by
  refine call ?_
  rw [hc]
  exact (Leaves.release log.length handle held).later (Nat.le_succ _)

theorem refused {log : List κ} {c : κ} {handle : ℕ} (hc : events c = [.release handle false])
    {held : List ℕ} (hheld : handle ∈ held) : Accounts events log held (log ++ [c]) held := by
  refine call ?_
  rw [hc]
  exact (Leaves.refused hheld).later (Nat.le_succ _)

/-- From nothing, all calls are allowed, and what is held is what is open. -/
theorem replays {log : List κ} {held : List ℕ} (h : Accounts events [] [] log held) :
    ∃ live, replay [] (log.flatMap events) = some live ∧ live.Perm held := by
  obtain ⟨calls, rfl, hleaves⟩ := h
  obtain ⟨live, hreplay, hlive, -⟩ := hleaves [] [] .rfl (by simp)
  exact ⟨live, hreplay, hlive.trans (by rw [List.append_nil])⟩

end Accounts

/-! ### Runs -/

variable {σ τ : Type*} (apply : σ → τ → σ) (lost : σ → τ → List ℕ)

/-- What the steps of a run let go of. -/
def lostAll : σ → List τ → List ℕ
  | _, [] => []
  | s, step :: steps => lost s step ++ lostAll (apply s step) steps

variable {apply lost}

theorem run_accounts (log : σ → List κ) (held : σ → List ℕ) {Good : σ → Prop}
    (hgood : ∀ s step, Good s → Good (apply s step))
    (hstep : ∀ s step, Good s → Accounts events (log s) (held s) (log (apply s step))
      (held (apply s step) ++ lost s step)) (steps : List τ) {s : σ} (h : Good s) :
    Good (steps.foldl apply s) ∧ Accounts events (log s) (held s) (log (steps.foldl apply s))
      (held (steps.foldl apply s) ++ lostAll apply lost s steps) := by
  induction steps generalizing s with
  | nil => exact ⟨h, (Accounts.refl (log s) (held s)).perm (by rw [lostAll, List.append_nil]; rfl)⟩
  | cons step steps ih =>
    obtain ⟨hend, haccounts⟩ := ih (hgood s step h)
    refine ⟨hend, (hstep s step h).trans ((haccounts.frame (lost s step)).perm ?_)⟩
    rw [List.foldl_cons, lostAll, List.append_assoc]
    exact List.perm_append_comm.append_left _

end

end DatabaseMod.HandleLedger
