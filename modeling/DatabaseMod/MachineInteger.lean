import Mathlib

/-!
# Checked signed and wrapping unsigned machine integers

Signed C arithmetic is carried out on `ℤ` and every result is passed through
`int32` or `int64`, which is `none` where the C expression would overflow.
Unsigned arithmetic is `UInt32`, which wraps. The rules below read such an
expression back as plain integer arithmetic once its value is known to fit.
-/

namespace DatabaseMod.MachineInteger

def InInt32 (x : ℤ) : Prop := -2147483648 ≤ x ∧ x ≤ 2147483647
def InInt64 (x : ℤ) : Prop := -9223372036854775808 ≤ x ∧ x ≤ 9223372036854775807

instance : DecidablePred InInt32 := fun x => by unfold InInt32; infer_instance
instance : DecidablePred InInt64 := fun x => by unfold InInt64; infer_instance

/-- The value of a signed 32-bit expression, undefined where it overflows. -/
def int32 (x : ℤ) : Option ℤ := if InInt32 x then some x else none

/-- The value of a signed 64-bit expression, undefined where it overflows. -/
def int64 (x : ℤ) : Option ℤ := if InInt64 x then some x else none

/-- Conversion of a wider integer to 32 bits keeps the low bits. -/
def castInt32 (x : ℤ) : ℤ := (x + 2147483648) % 4294967296 - 2147483648

def castInt64 (x : ℤ) : ℤ := (x + 9223372036854775808) % 18446744073709551616 - 9223372036854775808

/-- Conversion to an unsigned type of `bits` bits. -/
def castUnsigned (bits : ℕ) (x : ℤ) : ℤ := x % 2 ^ bits

theorem int32_of_mem {x : ℤ} (h : InInt32 x) : int32 x = some x := if_pos h

theorem int64_of_mem {x : ℤ} (h : InInt64 x) : int64 x = some x := if_pos h

theorem int32_bind {α : Type} {x : ℤ} (h : InInt32 x) (f : ℤ → Option α) :
    (int32 x >>= f) = f x := by
  rw [int32_of_mem h]
  rfl

theorem int64_bind {α : Type} {x : ℤ} (h : InInt64 x) (f : ℤ → Option α) :
    (int64 x >>= f) = f x := by
  rw [int64_of_mem h]
  rfl

theorem int32_eq_some {x y : ℤ} : int32 x = some y ↔ InInt32 x ∧ x = y := by
  unfold int32
  split_ifs with h <;> simp [h]

theorem castInt32_of_mem {x : ℤ} (h : InInt32 x) : castInt32 x = x := by
  obtain ⟨hl, hu⟩ := h
  unfold castInt32
  omega

theorem castInt64_of_mem {x : ℤ} (h : InInt64 x) : castInt64 x = x := by
  obtain ⟨hl, hu⟩ := h
  unfold castInt64
  omega

theorem castUnsigned_of_mem {bits : ℕ} {x : ℤ} (h : 0 ≤ x ∧ x < 2 ^ bits) :
    castUnsigned bits x = x := Int.emod_eq_of_lt h.1 h.2

theorem castInt32_mem (x : ℤ) : InInt32 (castInt32 x) := by
  unfold InInt32 castInt32
  omega

/-- Truncating division turns into flooring division when a negative dividend
is first moved down by one less than the divisor. -/
theorem tdiv_shift_eq_ediv {x b : ℤ} (hb : 0 < b) :
    (if 0 ≤ x then x else x - (b - 1)).tdiv b = x / b := by
  split_ifs with h
  · exact Int.tdiv_eq_ediv_of_nonneg h
  · have hneg : x - (b - 1) = -(b - 1 - x) := by omega
    rw [hneg, Int.neg_tdiv, Int.tdiv_eq_ediv_of_nonneg (by omega)]
    have hq : (b - 1 - x) / b = -(x / b) := by
      rw [Int.ediv_eq_iff_of_pos hb]
      have hl := Int.mul_ediv_add_emod x b
      have h0 := Int.emod_nonneg x hb.ne'
      have h1 := Int.emod_lt_of_pos x hb
      constructor <;> nlinarith
    omega

/-- A truncated quotient and remainder are moved to the flooring ones by adding
the divisor to a negative remainder. -/
theorem floor_of_truncated {x b : ℤ} (hb : 0 < b) :
    (if x.tmod b < 0 then x.tdiv b - 1 else x.tdiv b) = x / b ∧
    (if x.tmod b < 0 then x.tmod b + b else x.tmod b) = x % b := by
  have h0 := Int.emod_nonneg x hb.ne'
  have h1 := Int.emod_lt_of_pos x hb
  have hq := Int.tdiv_eq_ediv (a := x) (b := b)
  have hr := Int.tmod_eq_emod (a := x) (b := b)
  by_cases h : 0 ≤ x ∨ b ∣ x
  · rw [if_pos h] at hq hr
    rw [if_neg (by omega), if_neg (by omega)]
    omega
  · rw [if_neg h, Int.sign_eq_one_of_pos hb] at hq
    rw [if_neg h] at hr
    rw [if_pos (by omega), if_pos (by omega)]
    omega

theorem toNat_ofInt {x : ℤ} (h0 : 0 ≤ x) (h1 : x < 4294967296) :
    (UInt32.ofInt x).toNat = x.toNat := by
  have hx : x % 2 ^ 32 = x := Int.emod_eq_of_lt h0 (by norm_num; exact h1)
  unfold UInt32.ofInt
  rw [hx, UInt32.toNat_ofNat', Nat.mod_eq_of_lt (by omega)]

theorem toNat_add_of_lt {a b : UInt32} (h : a.toNat + b.toNat < 4294967296) :
    (a + b).toNat = a.toNat + b.toNat := by
  rw [UInt32.toNat_add, Nat.mod_eq_of_lt h]

theorem toNat_mul_of_lt {a b : UInt32} (h : a.toNat * b.toNat < 4294967296) :
    (a * b).toNat = a.toNat * b.toNat := by
  rw [UInt32.toNat_mul, Nat.mod_eq_of_lt h]

/-- Adding the wrapped image of a negative constant subtracts it. -/
theorem toNat_add_neg_of_le {a b : UInt32} (h : b.toNat ≤ a.toNat) :
    (a + -b).toNat = a.toNat - b.toNat := by
  rw [← UInt32.sub_eq_add_neg]
  exact UInt32.toNat_sub_of_le a b (UInt32.le_iff_toNat_le.mpr h)

end DatabaseMod.MachineInteger
