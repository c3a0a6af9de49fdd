import DatabaseMod.MachineInteger

/-!
# Little-endian bytes

The bytes of an integer in two's complement, lowest byte first, and the number that bytes
in memory stand for.
-/

namespace DatabaseMod.LittleEndian
open MachineInteger

def littleEndian : List UInt8 → ℕ
  | [] => 0
  | b :: bytes => b.toNat + 256 * littleEndian bytes

def byteAt (n : ℤ) (i : ℕ) : UInt8 := UInt8.ofNat (n / 256 ^ i % 256).toNat

def bytesOf (width : ℕ) (n : ℤ) : List UInt8 := (List.range width).map (byteAt n)

@[simp] theorem length_bytesOf (width : ℕ) (n : ℤ) : (bytesOf width n).length = width := by
  simp [bytesOf]

theorem getElem?_bytesOf {width i : ℕ} (n : ℤ) (h : i < width) :
    (bytesOf width n)[i]? = some (byteAt n i) := by
  rw [bytesOf, List.getElem?_map, List.getElem?_range h, Option.map_some]

theorem toNat_byteAt (n : ℤ) (i : ℕ) : ((byteAt n i).toNat : ℤ) = n / 256 ^ i % 256 := by
  have h0 := Int.emod_nonneg (n / 256 ^ i) (by decide : (256 : ℤ) ≠ 0)
  have h1 := Int.emod_lt_of_pos (n / 256 ^ i) (by decide : (0 : ℤ) < 256)
  rw [byteAt, UInt8.toNat_ofNat_of_lt' (show _ < 256 by omega)]
  omega

theorem byteAt_succ (n : ℤ) (i : ℕ) : byteAt n (i + 1) = byteAt (n / 256) i := by
  rw [byteAt, byteAt, pow_succ', Int.ediv_ediv_of_nonneg (by decide)]

theorem bytesOf_succ (width : ℕ) (n : ℤ) :
    bytesOf (width + 1) n = byteAt n 0 :: bytesOf width (n / 256) := by
  rw [bytesOf, List.range_succ_eq_map, List.map_cons, List.map_map]
  refine congrArg (byteAt n 0 :: ·) (List.map_congr_left fun i _ => ?_)
  exact byteAt_succ n i

/-- The bytes of an integer stand for it modulo the power of their width. -/
theorem littleEndian_bytesOf (width : ℕ) (n : ℤ) :
    (littleEndian (bytesOf width n) : ℤ) = n % 256 ^ width := by
  induction width generalizing n with
  | zero => exact (Int.emod_one n).symm
  | succ width ih =>
    have hbyte : ((byteAt n 0).toNat : ℤ) = n % 256 := by
      rw [toNat_byteAt, pow_zero, Int.ediv_one]
    rw [bytesOf_succ, littleEndian, Nat.cast_add, Nat.cast_mul, ih, hbyte, pow_succ']
    have hpos : (0 : ℤ) < 256 ^ width := by positivity
    rw [Int.emod_def n (256 * 256 ^ width), Int.emod_def (n / 256),
      ← Int.ediv_ediv_of_nonneg (by decide)]
    have hsplit := Int.emod_add_mul_ediv n 256
    push_cast
    linear_combination hsplit

/-- As many bytes stand for one number only. -/
theorem littleEndian_inj {a b : List UInt8} (hlength : a.length = b.length)
    (h : littleEndian a = littleEndian b) : a = b := by
  induction a generalizing b with
  | nil => exact (List.length_eq_zero_iff.mp hlength.symm).symm
  | cons x a ih =>
    cases b with
    | nil => cases hlength
    | cons y b =>
      have hx := x.toNat_lt
      have hy := y.toNat_lt
      unfold littleEndian at h
      have hhead : x = y := UInt8.toNat_inj.mp (by omega)
      have htail : a = b := ih (Nat.succ.inj hlength) (by omega)
      rw [hhead, htail]

theorem littleEndian_lt (bytes : List UInt8) : littleEndian bytes < 256 ^ bytes.length := by
  induction bytes with
  | nil => decide
  | cons b bytes ih =>
    have hb := b.toNat_lt
    rw [littleEndian, List.length_cons, pow_succ]
    omega

/-! ### Casts -/

/-- Four bytes are read as an integer exactly where they are its bytes. -/
theorem castInt32_littleEndian_iff {bytes : List UInt8} (h : bytes.length = 4) (n : ℤ) :
    castInt32 (littleEndian bytes) = castInt32 n ↔ bytes = bytesOf 4 n := by
  constructor
  · intro hcast
    have hlt := littleEndian_lt bytes
    have hbytes := littleEndian_bytesOf 4 n
    rw [h] at hlt
    unfold castInt32 at hcast
    refine littleEndian_inj (h.trans (length_bytesOf 4 n).symm) ?_
    norm_num at hlt hbytes
    omega
  · rintro rfl
    rw [littleEndian_bytesOf]
    unfold castInt32
    norm_num

theorem castInt64_littleEndian (n : ℤ) : castInt64 (littleEndian (bytesOf 8 n)) = castInt64 n := by
  rw [littleEndian_bytesOf]
  unfold castInt64
  norm_num

end DatabaseMod.LittleEndian
