import DatabaseMod.LoopRules

/-!
# Blob ownership

`TDBBlob` over an explicit memory. `MemAlloc` hands out the blocks of one object in order and
`MemFree` logs what it is given, so that a run shows which blocks came back and whether memory of
the caller was freed.
-/

namespace DatabaseMod.CoreBlobOwnership

/-- A block that the object allocated, by order of allocation, or memory of the caller. -/
inductive Pointer
  | block (n : ℕ)
  | callers (p : ℕ)
deriving DecidableEq, Repr

/-- `live` has the bytes of what may be read. -/
structure Memory where
  blocks : ℕ
  live : Pointer → Option (List UInt8)
  freed : List Pointer

namespace Memory

variable (m : Memory)

def memAlloc (size : ℕ) : Pointer × Memory :=
  (.block m.blocks,
    { m with
      blocks := m.blocks + 1
      live := Function.update m.live (.block m.blocks) (some (List.replicate size 0)) })

def memFree (p : Pointer) : Memory :=
  { m with live := Function.update m.live p none, freed := m.freed ++ [p] }

/-- `none` where the source cannot be read as far as that: a null pointer, freed memory, less
than `size` bytes. -/
def memCopy (dst : Pointer) (src : Option Pointer) (size : ℕ) : Option Memory := do
  let bytes ← src.bind m.live
  if size ≤ bytes.length then
    some { m with live := Function.update m.live dst (some (bytes.take size)) }
  else none

end Memory

structure TDBBlob where
  isNull : Bool
  value : Option Pointer
  size : ℤ
  owner : Bool
deriving DecidableEq, Repr

/-- One object and the memory it works on. -/
structure State where
  blob : TDBBlob
  memory : Memory

namespace State

variable (σ : State)

/-- A new object beside the memory of its callers. -/
def new (callers : ℕ → Option (List UInt8)) : State where
  blob := ⟨true, none, 0, false⟩
  memory :=
    { blocks := 0
      live := fun
        | .block _ => none
        | .callers p => callers p
      freed := [] }

def getBlob : Option Pointer := σ.blob.value

def size : ℤ := σ.blob.size

/-- Neither the owner flag nor the size is reset. -/
def clear : State :=
  match σ.blob.value with
  | none => σ
  | some p =>
    { blob := { σ.blob with value := none, isNull := true }
      memory := if σ.blob.owner then σ.memory.memFree p else σ.memory }

def setBlob (v : Option Pointer) (s : ℤ) (copy : Bool) : Option State := do
  let σ := if σ.blob.value.isSome then σ.clear else σ
  if copy && decide (0 < s) then
    let (value, memory) := σ.memory.memAlloc s.toNat
    let memory ← memory.memCopy value v s.toNat
    some ⟨⟨false, some value, s, true⟩, memory⟩
  else
    -- the flag of an earlier copy stays
    some ⟨⟨false, v, s, σ.blob.owner⟩, σ.memory⟩

def delete : State := σ.clear

end State

inductive BlobCall
  | setBlob (v : Option Pointer) (s : ℤ) (copy : Bool)
  | clear
deriving DecidableEq, Repr

/-- Whether the call makes the object allocate. -/
def BlobCall.allocates : BlobCall → Bool
  | .setBlob _ s copy => copy && decide (0 < s)
  | .clear => false

def BlobCall.pointer : BlobCall → Option Pointer
  | .setBlob v _ _ => v
  | .clear => none

namespace State

variable (σ : State)

def call : BlobCall → Option State
  | .setBlob v s copy => σ.setBlob v s copy
  | .clear => some σ.clear

def run (calls : List BlobCall) : Option State := calls.foldlM State.call σ

theorem run_append (calls calls' : List BlobCall) :
    σ.run (calls ++ calls') = (σ.run calls).bind (State.run · calls') := List.foldlM_append

theorem run_snoc (calls : List BlobCall) (c : BlobCall) :
    σ.run (calls ++ [c]) = (σ.run calls).bind (State.call · c) := by
  rw [run_append]
  congr 1
  funext t
  exact bind_pure (t.call c)

/-! ### The law -/

/-- The owner flag tells whether the value is a block that the object allocated. -/
def OwnerExact : Prop :=
  σ.blob.owner = true ↔ ∃ n < σ.memory.blocks, σ.blob.value = some (.block n)

/-- What a call leaves describes the data it was given: a copy of the bytes, or the pointer with
its bytes as they were. -/
def Describes (σ' : State) : BlobCall → Prop
  | .setBlob v s copy =>
    σ'.size = s ∧
      if copy && decide (0 < s) then
        ∃ bytes, v.bind σ.memory.live = some bytes ∧ s ≤ bytes.length ∧
          (∃ n, σ'.getBlob = some (.block n)) ∧
          σ'.getBlob.bind σ'.memory.live = some (bytes.take s.toNat)
      else σ'.getBlob = v ∧ v.bind σ'.memory.live = v.bind σ.memory.live
  | .clear => True

/-- What must hold once the object is deleted. -/
def Disposed (calls : List BlobCall) : Prop :=
  (∀ n < σ.memory.blocks, σ.memory.freed.count (.block n) = 1) ∧
    ∀ c ∈ calls, ∀ p ∈ c.pointer, p ∉ σ.memory.freed

end State

/-- The calls complete; every state before `Delete` has an exact owner flag, every call leaves
what it was given, and after `Delete` each block was freed once and nothing of the caller. -/
structure OwnershipKept (callers : ℕ → Option (List UInt8)) (calls : List BlobCall) : Prop where
  exact : ∀ done, done <+: calls → ∃ σ, (State.new callers).run done = some σ ∧ σ.OwnerExact
  describes : ∀ done c, done ++ [c] <+: calls → ∃ σ σ',
    (State.new callers).run done = some σ ∧ σ.call c = some σ' ∧ σ.Describes σ' c
  disposed : ∃ σ, (State.new callers).run calls = some σ ∧ σ.delete.Disposed calls

/-- Once a call has made the object allocate every later one does; what is copied is memory of the
caller, as long as the copy; and no call is given one of the blocks of the object. -/
structure CopiesOnly (callers : ℕ → Option (List UInt8)) (calls : List BlobCall) : Prop where
  later : calls.Pairwise fun c d => c.allocates = true → d.allocates = true
  readable : ∀ v (s : ℤ), .setBlob v s true ∈ calls → 0 < s →
    ∃ p bytes, v = some (.callers p) ∧ callers p = some bytes ∧ s ≤ bytes.length
  foreign : ∀ c ∈ calls, ∀ n, c.pointer = some (.block n) → calls.countP BlobCall.allocates ≤ n

/-! ### What one call does -/

namespace State

variable {σ σ' : State} {callers : ℕ → Option (List UInt8)}

theorem clear_blob (σ : State) :
    σ.clear.blob.value = none ∧ σ.clear.blob.owner = σ.blob.owner := by
  cases h : σ.blob.value with
  | none =>
    rw [clear, h]
    exact ⟨h, rfl⟩
  | some p =>
    rw [clear, h]
    exact ⟨rfl, rfl⟩

theorem clear_blocks (σ : State) : σ.clear.memory.blocks = σ.memory.blocks := by
  cases h : σ.blob.value with
  | none => rw [clear, h]
  | some p =>
    rw [clear, h]
    cases σ.blob.owner <;> rfl

theorem clear_memory_of_not_owner (h : σ.blob.owner = false) : σ.clear.memory = σ.memory := by
  cases hv : σ.blob.value with
  | none => rw [clear, hv]
  | some p => simp only [clear, hv, h, Bool.false_eq_true, if_false]

/-- `clear` makes nothing readable. -/
theorem live_of_clear {p : Pointer} {bytes : List UInt8} (h : σ.clear.memory.live p = some bytes) :
    σ.memory.live p = some bytes := by
  cases howner : σ.blob.owner with
  | false => rwa [clear_memory_of_not_owner howner] at h
  | true =>
    cases hv : σ.blob.value with
    | none => rwa [clear, hv] at h
    | some q =>
      simp only [clear, hv, howner, if_true, Memory.memFree] at h
      by_cases hpq : p = q
      · subst hpq
        rw [Function.update_self] at h
        cases h
      · rwa [Function.update_of_ne hpq] at h

/-- The object after a call that copies these bytes. -/
def copied (σ : State) (bytes : List UInt8) (s : ℤ) : State where
  blob := ⟨false, some (.block σ.memory.blocks), s, true⟩
  memory :=
    { blocks := σ.memory.blocks + 1
      live := Function.update σ.clear.memory.live (.block σ.memory.blocks)
        (some (bytes.take s.toNat))
      freed := σ.clear.memory.freed }

theorem ite_clear (σ : State) : (if σ.blob.value.isSome then σ.clear else σ) = σ.clear := by
  cases h : σ.blob.value with
  | none => simp [clear, h]
  | some p => simp

theorem setBlob_of_not_allocates {v : Option Pointer} {s : ℤ} {copy : Bool}
    (h : (copy && decide (0 < s)) = false) :
    σ.setBlob v s copy = some ⟨⟨false, v, s, σ.blob.owner⟩, σ.clear.memory⟩ := by
  rw [setBlob, ite_clear, h, (clear_blob σ).2]
  rfl

theorem setBlob_of_allocates {v : Option Pointer} {s : ℤ} {copy : Bool}
    (h : (copy && decide (0 < s)) = true) :
    σ.setBlob v s copy = (v.bind (σ.clear.memory.memAlloc s.toNat).2.live).bind fun bytes =>
      if s.toNat ≤ bytes.length then some (σ.copied bytes s) else none := by
  rw [setBlob, ite_clear, if_pos h]
  simp only [Memory.memCopy]
  cases v.bind (σ.clear.memory.memAlloc s.toNat).2.live with
  | none => rfl
  | some bytes =>
    by_cases hlength : s.toNat ≤ bytes.length
    · simp only [Option.bind_eq_bind, Option.bind_some, if_pos hlength, copied, Memory.memAlloc,
        clear_blocks, Function.update_idem]
    · simp only [Option.bind_eq_bind, Option.bind_some, Option.bind_none, if_neg hlength]

/-- Everything that a call which completes can do. -/
theorem call_cases {c : BlobCall} (h : σ.call c = some σ') :
    (c = .clear ∧ σ' = σ.clear) ∨
    (∃ v s copy, c = .setBlob v s copy ∧ c.allocates = false ∧
      σ' = ⟨⟨false, v, s, σ.blob.owner⟩, σ.clear.memory⟩) ∨
    ∃ v s bytes, c = .setBlob v s true ∧ 0 < s ∧
      v.bind (σ.clear.memory.memAlloc s.toNat).2.live = some bytes ∧ s.toNat ≤ bytes.length ∧
      σ' = σ.copied bytes s := by
  cases c with
  | clear => exact .inl ⟨rfl, (Option.some.inj h).symm⟩
  | setBlob v s copy =>
    rw [call] at h
    cases hcopy : copy && decide (0 < s) with
    | false =>
      rw [setBlob_of_not_allocates hcopy] at h
      exact .inr (.inl ⟨v, s, copy, rfl, hcopy, (Option.some.inj h).symm⟩)
    | true =>
      obtain ⟨rfl, hs⟩ : copy = true ∧ 0 < s := by simpa using hcopy
      rw [setBlob_of_allocates hcopy] at h
      obtain ⟨bytes, hread, h⟩ := Option.bind_eq_some_iff.mp h
      by_cases hlength : s.toNat ≤ bytes.length
      · rw [if_pos hlength] at h
        exact .inr (.inr ⟨v, s, bytes, rfl, hs, hread, hlength, (Option.some.inj h).symm⟩)
      · rw [if_neg hlength] at h
        cases h

/-- The flag stays once it is set, and each block is a call that allocates. -/
theorem call_owner_blocks {c : BlobCall} (h : σ.call c = some σ') :
    σ'.blob.owner = (σ.blob.owner || c.allocates) ∧
      σ'.memory.blocks = σ.memory.blocks + c.allocates.toNat := by
  obtain ⟨rfl, rfl⟩ | ⟨v, s, copy, rfl, hc, rfl⟩ | ⟨v, s, bytes, rfl, hs, -, -, rfl⟩ :=
    call_cases h
  · simp [clear_blob, clear_blocks, BlobCall.allocates]
  · simp [hc, clear_blocks]
  · simp [copied, BlobCall.allocates, hs]

theorem run_owner_blocks {calls : List BlobCall} (h : σ.run calls = some σ') :
    σ'.blob.owner = (σ.blob.owner || calls.any BlobCall.allocates) ∧
      σ'.memory.blocks = σ.memory.blocks + calls.countP BlobCall.allocates := by
  induction calls generalizing σ with
  | nil =>
    obtain rfl := Option.some.inj h
    simp
  | cons c calls ih =>
    rw [run, List.foldlM_cons] at h
    obtain ⟨τ, hcall, hrun⟩ := Option.bind_eq_some_iff.mp h
    obtain ⟨howner, hblocks⟩ := call_owner_blocks hcall
    obtain ⟨howner', hblocks'⟩ := ih hrun
    constructor
    · rw [howner', howner, List.any_cons, Bool.or_assoc]
    · rw [hblocks', hblocks, List.countP_cons]
      cases c.allocates with
      | false => simp
      | true =>
        simp only [Bool.toNat_true, if_true]
        omega

/-- What may be read is memory of the caller as it was given, or a block handed out. -/
def Readable (callers : ℕ → Option (List UInt8)) (σ : State) : Prop :=
  (∀ p bytes, σ.memory.live (.callers p) = some bytes → callers p = some bytes) ∧
    ∀ n, σ.memory.blocks ≤ n → σ.memory.live (.block n) = none

theorem Readable.clear (hσ : Readable callers σ) : Readable callers σ.clear := by
  constructor
  · intro p bytes h
    exact hσ.1 p bytes (live_of_clear h)
  · intro n hn
    rw [clear_blocks] at hn
    cases h : σ.clear.memory.live (.block n) with
    | none => rfl
    | some bytes =>
      have hlive := live_of_clear h
      rw [hσ.2 n hn] at hlive
      cases hlive

theorem Readable.call (hσ : Readable callers σ) {c : BlobCall} (h : σ.call c = some σ') :
    Readable callers σ' := by
  obtain ⟨rfl, rfl⟩ | ⟨v, s, copy, rfl, -, rfl⟩ | ⟨v, s, bytes, rfl, -, -, -, rfl⟩ :=
    call_cases h
  · exact hσ.clear
  · exact hσ.clear
  · constructor
    · intro p bytes' hread
      exact hσ.clear.1 p bytes' (by simpa [copied] using hread)
    · intro n hn
      simp only [copied] at hn ⊢
      have hne : Pointer.block n ≠ .block σ.memory.blocks := by
        simp only [ne_eq, Pointer.block.injEq]
        omega
      rw [Function.update_of_ne hne]
      exact hσ.clear.2 n (by rw [clear_blocks]; omega)

theorem Readable.run (hσ : Readable callers σ) {calls : List BlobCall}
    (h : σ.run calls = some σ') : Readable callers σ' :=
  LoopRules.foldlM_some_invariant (fun _ _ _ _ ht hstep => Readable.call ht hstep) hσ h

end State

/-! ### Runs of copies -/

/-- Nothing was allocated yet and the flag is unset, or the value is the last block and all the
others were freed. -/
structure Tidy (callers : ℕ → Option (List UInt8)) (σ : State) : Prop where
  callers : ∀ p, σ.memory.live (.callers p) = callers p
  freed : σ.memory.freed = (List.range (σ.memory.blocks - 1)).map .block
  value : σ.blob.owner = true →
    0 < σ.memory.blocks ∧ σ.blob.value = some (.block (σ.memory.blocks - 1))
  noBlocks : σ.blob.owner = false → σ.memory.blocks = 0

namespace Tidy

variable {callers : ℕ → Option (List UInt8)} {σ : State}

theorem new : Tidy callers (State.new callers) where
  callers _ := rfl
  freed := rfl
  value h := by cases h
  noBlocks _ := rfl

theorem ownerExact (hσ : Tidy callers σ) : σ.OwnerExact := by
  cases h : σ.blob.owner with
  | true =>
    obtain ⟨hpos, hvalue⟩ := hσ.value h
    exact iff_of_true h ⟨σ.memory.blocks - 1, by omega, hvalue⟩
  | false =>
    refine iff_of_false (by simp [h]) ?_
    rintro ⟨n, hn, -⟩
    rw [hσ.noBlocks h] at hn
    omega

/-- `clear` gives back the last block, and nothing else. -/
theorem clear (hσ : Tidy callers σ) :
    σ.clear.memory.freed = (List.range σ.memory.blocks).map .block ∧
      ∀ p, σ.clear.memory.live (.callers p) = callers p := by
  cases h : σ.blob.owner with
  | false =>
    have hblocks := hσ.noBlocks h
    rw [State.clear_memory_of_not_owner h, hσ.freed, hblocks]
    exact ⟨rfl, hσ.callers⟩
  | true =>
    obtain ⟨hpos, hvalue⟩ := hσ.value h
    simp only [State.clear, hvalue, h, if_true, Memory.memFree]
    constructor
    · obtain ⟨n, hn⟩ := Nat.exists_eq_succ_of_ne_zero hpos.ne'
      rw [hσ.freed, hn, Nat.succ_sub_one, List.range_succ, List.map_append]
      rfl
    · intro p
      simpa using hσ.callers p

theorem copied (hσ : Tidy callers σ) (bytes : List UInt8) (s : ℤ) :
    Tidy callers (σ.copied bytes s) where
  callers p := by simpa [State.copied] using hσ.clear.2 p
  freed := hσ.clear.1
  value _ := ⟨Nat.succ_pos _, rfl⟩
  noBlocks h := by cases h

/-- One call that keeps to the condition. -/
theorem call (hσ : Tidy callers σ) {c : BlobCall}
    (howner : σ.blob.owner = true → c.allocates = true)
    (hread : ∀ v (s : ℤ), c = .setBlob v s true → 0 < s →
      ∃ p bytes, v = some (.callers p) ∧ callers p = some bytes ∧ s ≤ bytes.length) :
    ∃ σ', σ.call c = some σ' ∧ Tidy callers σ' ∧ σ.Describes σ' c := by
  cases hc : c.allocates with
  | false =>
    have hnot : σ.blob.owner = false := by
      cases h : σ.blob.owner with
      | false => rfl
      | true =>
        rw [howner h] at hc
        cases hc
    have hmemory := State.clear_memory_of_not_owner hnot
    cases c with
    | clear =>
      have hblob := (State.clear_blob σ).2
      refine ⟨σ.clear, rfl, ⟨?_, ?_, ?_, ?_⟩, trivial⟩
      · rw [hmemory]
        exact hσ.callers
      · rw [hmemory]
        exact hσ.freed
      · intro h
        rw [hblob, hnot] at h
        cases h
      · intro _
        rw [hmemory]
        exact hσ.noBlocks hnot
    | setBlob v s copy =>
      refine ⟨_, State.setBlob_of_not_allocates hc, ⟨?_, ?_, ?_, ?_⟩, ?_⟩
      · rw [hmemory]
        exact hσ.callers
      · rw [hmemory]
        exact hσ.freed
      · intro h
        exact absurd (hnot.symm.trans h) (by simp)
      · intro _
        rw [hmemory]
        exact hσ.noBlocks hnot
      · refine ⟨rfl, ?_⟩
        rw [if_neg (by simpa [BlobCall.allocates] using hc), hmemory]
        exact ⟨rfl, rfl⟩
  | true =>
    cases c with
    | clear => cases hc
    | setBlob v s copy =>
      obtain ⟨rfl, hs⟩ : copy = true ∧ 0 < s := by simpa [BlobCall.allocates] using hc
      obtain ⟨p, bytes, rfl, hcallers, hlength⟩ := hread v s rfl hs
      have hcopy : (true && decide (0 < s)) = true := hc
      refine ⟨σ.copied bytes s, ?_, hσ.copied bytes s, rfl, ?_⟩
      · have hlive : (some (Pointer.callers p)).bind (σ.clear.memory.memAlloc s.toNat).2.live =
            some bytes := by
          simpa [Memory.memAlloc, hcallers] using hσ.clear.2 p
        rw [State.call, State.setBlob_of_allocates hcopy, hlive, Option.bind_some,
          if_pos (by omega)]
      · rw [if_pos hcopy]
        refine ⟨bytes, ?_, hlength, ⟨_, rfl⟩, ?_⟩
        · rw [Option.bind_some, hσ.callers, hcallers]
        · simp [State.copied, State.getBlob]

theorem run (hσ : Tidy callers σ) {calls : List BlobCall}
    (howner : σ.blob.owner = true → ∀ c ∈ calls, c.allocates = true)
    (hlater : calls.Pairwise fun c d => c.allocates = true → d.allocates = true)
    (hread : ∀ v (s : ℤ), .setBlob v s true ∈ calls → 0 < s →
      ∃ p bytes, v = some (.callers p) ∧ callers p = some bytes ∧ s ≤ bytes.length) :
    ∃ σ', σ.run calls = some σ' ∧ Tidy callers σ' := by
  induction calls generalizing σ with
  | nil => exact ⟨σ, rfl, hσ⟩
  | cons c calls ih =>
    rw [List.pairwise_cons] at hlater
    obtain ⟨τ, hcall, hτ, -⟩ := hσ.call (fun h => howner h c List.mem_cons_self)
      fun v s h => hread v s (h ▸ List.mem_cons_self)
    have hnext : τ.blob.owner = true → ∀ d ∈ calls, d.allocates = true := by
      intro h d hd
      rw [(State.call_owner_blocks hcall).1, Bool.or_eq_true] at h
      cases h with
      | inl h => exact howner h d (List.mem_cons_of_mem c hd)
      | inr h => exact hlater.1 d hd h
    obtain ⟨σ', hrun, hσ'⟩ := ih hτ hnext hlater.2
      fun v s h => hread v s (List.mem_cons_of_mem c h)
    refine ⟨σ', ?_, hσ'⟩
    rw [State.run, List.foldlM_cons, hcall]
    exact hrun

/-- Deleting the object gives back the last of its blocks. -/
theorem delete (hσ : Tidy callers σ) {calls : List BlobCall}
    (hforeign : ∀ c ∈ calls, ∀ n, c.pointer = some (.block n) → σ.memory.blocks ≤ n) :
    σ.delete.Disposed calls := by
  constructor
  · intro n hn
    rw [State.delete, State.clear_blocks] at hn
    rw [State.delete, hσ.clear.1]
    apply List.count_eq_one_of_mem
    · exact List.nodup_range.map fun a b h => Pointer.block.inj h
    · exact List.mem_map_of_mem (List.mem_range.mpr hn)
  · intro c hc p hp hfreed
    rw [State.delete, hσ.clear.1] at hfreed
    obtain ⟨n, hn, rfl⟩ := List.mem_map.mp hfreed
    have hle := hforeign c hc n hp
    rw [List.mem_range] at hn
    omega

end Tidy

theorem CopiesOnly.kept {callers : ℕ → Option (List UInt8)} {calls : List BlobCall}
    (h : CopiesOnly callers calls) : OwnershipKept callers calls := by
  have hrun : ∀ done, done <+: calls →
      ∃ σ, (State.new callers).run done = some σ ∧ Tidy callers σ := by
    intro done hdone
    apply Tidy.new.run
    · intro hnew
      cases hnew
    · exact h.later.sublist hdone.sublist
    · exact fun v s hc => h.readable v s (hdone.subset hc)
  refine ⟨?_, ?_, ?_⟩
  · intro done hdone
    obtain ⟨σ, hσ, htidy⟩ := hrun done hdone
    exact ⟨σ, hσ, htidy.ownerExact⟩
  · intro done c hdone
    obtain ⟨σ, hσ, htidy⟩ := hrun done ((List.prefix_append done [c]).trans hdone)
    have hc : c ∈ calls := hdone.subset (by simp)
    have howner : σ.blob.owner = true → c.allocates = true := by
      intro howner
      rw [(State.run_owner_blocks hσ).1] at howner
      obtain ⟨d, hd, hall⟩ : ∃ d ∈ done, d.allocates = true := by
        simpa [State.new] using howner
      have hpairs := List.pairwise_append.mp (h.later.sublist hdone.sublist)
      exact hpairs.2.2 d hd c List.mem_cons_self hall
    obtain ⟨σ', hcall, -, hdescribes⟩ := htidy.call howner fun v s heq => h.readable v s (heq ▸ hc)
    exact ⟨σ, σ', hσ, hcall, hdescribes⟩
  · obtain ⟨σ, hσ, htidy⟩ := hrun calls (List.prefix_refl calls)
    refine ⟨σ, hσ, htidy.delete ?_⟩
    intro c hc n hn
    rw [(State.run_owner_blocks hσ).2]
    simpa [State.new] using h.foreign c hc n hn

/-! ### The other direction -/

namespace OwnershipKept

variable {callers : ℕ → Option (List UInt8)} {calls : List BlobCall}

/-- A block that a call is given would be freed by the object that allocated it. -/
theorem foreign (h : OwnershipKept callers calls) :
    ∀ c ∈ calls, ∀ n, c.pointer = some (.block n) → calls.countP BlobCall.allocates ≤ n := by
  intro c hc n hn
  obtain ⟨σ, hrun, honce, hkept⟩ := h.disposed
  by_contra hlt
  have hblocks : n < σ.delete.memory.blocks := by
    rw [State.delete, State.clear_blocks, (State.run_owner_blocks hrun).2]
    simp only [State.new]
    omega
  have hfreed : Pointer.block n ∈ σ.delete.memory.freed := by
    apply List.count_pos_iff.mp
    rw [honce n hblocks]
    exact Nat.one_pos
  exact hkept c hc (.block n) hn hfreed

/-- A call that does not allocate would keep the flag of an earlier copy. -/
theorem later (h : OwnershipKept callers calls) :
    calls.Pairwise fun c d => c.allocates = true → d.allocates = true := by
  rw [List.pairwise_iff_getElem]
  intro i j hi hj hij hall
  by_contra hnot
  have hc : calls[j].allocates = false := by simpa using hnot
  obtain ⟨σ, hrun, -⟩ := h.exact (calls.take j) (List.take_prefix j calls)
  obtain ⟨σ', hrun', hexact⟩ := h.exact (calls.take (j + 1)) (List.take_prefix (j + 1) calls)
  rw [← List.take_concat_get' calls j hj, State.run_snoc, hrun, Option.bind_some] at hrun'
  have howner : σ'.blob.owner = true := by
    rw [(State.call_owner_blocks hrun').1, (State.run_owner_blocks hrun).1, hc]
    have hmem : calls[i] ∈ calls.take j := List.mem_take_iff_getElem.mpr ⟨i, by omega, rfl⟩
    simp only [Bool.or_false, Bool.or_eq_true, List.any_eq_true]
    exact .inr ⟨_, hmem, hall⟩
  obtain ⟨n, hn, hvalue⟩ := hexact.mp howner
  have hpointer : calls[j].pointer = some (.block n) := by
    obtain ⟨-, rfl⟩ | ⟨v, s, copy, heq, -, rfl⟩ | ⟨v, s, bytes, heq, hs, -⟩ :=
      State.call_cases hrun'
    · rw [(State.clear_blob σ).1] at hvalue
      cases hvalue
    · rw [heq]
      exact hvalue
    · rw [heq] at hc
      simp [BlobCall.allocates, hs] at hc
  have hle := h.foreign _ (List.getElem_mem hj) n hpointer
  rw [(State.call_owner_blocks hrun').2, (State.run_owner_blocks hrun).2, hc] at hn
  have hcount : (calls.take j).countP BlobCall.allocates ≤ calls.countP BlobCall.allocates :=
    (List.take_sublist j calls).countP_le
  simp only [State.new, Bool.toNat_false] at hn
  omega

theorem readable (h : OwnershipKept callers calls) :
    ∀ v (s : ℤ), .setBlob v s true ∈ calls → 0 < s →
      ∃ p bytes, v = some (.callers p) ∧ callers p = some bytes ∧ s ≤ bytes.length := by
  intro v s hc hs
  obtain ⟨done, rest, rfl⟩ := List.append_of_mem hc
  have hprefix : done ++ [.setBlob v s true] <+: done ++ .setBlob v s true :: rest :=
    ⟨rest, by simp⟩
  obtain ⟨σ, σ', hrun, -, hdescribes⟩ := h.describes done _ hprefix
  obtain ⟨-, hread⟩ := hdescribes
  rw [if_pos (by simpa using hs)] at hread
  obtain ⟨bytes, hlive, hlength, -⟩ := hread
  obtain ⟨p, rfl, hp⟩ := Option.bind_eq_some_iff.mp hlive
  have hnew : State.Readable callers (State.new callers) := ⟨fun _ _ h => h, fun _ _ => rfl⟩
  have hreadable := hnew.run hrun
  cases p with
  | callers p => exact ⟨p, bytes, rfl, hreadable.1 p bytes hp, hlength⟩
  | block n =>
    have hle := h.foreign _ hc n rfl
    have hblocks : σ.memory.blocks ≤ n := by
      rw [(State.run_owner_blocks hrun).2]
      rw [List.countP_append] at hle
      simp only [State.new]
      omega
    rw [hreadable.2 n hblocks] at hp
    cases hp

end OwnershipKept

theorem ownership_kept_iff (callers : ℕ → Option (List UInt8)) (calls : List BlobCall) :
    OwnershipKept callers calls ↔ CopiesOnly callers calls :=
  ⟨fun h => ⟨h.later, h.readable, h.foreign⟩, CopiesOnly.kept⟩

/-- A copy of one byte and then a pointer without a copy: the flag of the first call is still set
when the object is deleted. -/
theorem borrowed_pointer_freed :
    ¬ OwnershipKept (fun _ => some [65])
      [.setBlob (some (.callers 0)) 1 true, .setBlob (some (.callers 1)) 1 false] := by
  intro h
  obtain ⟨σ, hrun, -, hkept⟩ := h.disposed
  obtain rfl := Option.some.inj hrun
  exact hkept (.setBlob (some (.callers 1)) 1 false) (by simp) (.callers 1) rfl (by decide)

end DatabaseMod.CoreBlobOwnership
