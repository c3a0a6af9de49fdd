import DatabaseMod.OdbcDriver

/-!
# Texts of ODBC columns

When the blocks of a column of characters put together are its text. The driver hands every
full block with its terminator to the decoder.
-/

namespace DatabaseMod.OdbcTexts
open MachineInteger
open SqlTokens (Text)
open CoreValues (NUL)
open OdbcDriver

def encode (text : Text) : List UInt8 := text.flatMap String.utf8EncodeChar

theorem encode_append (a b : Text) : encode (a ++ b) = encode a ++ encode b :=
  List.flatMap_append ..

/-- A byte of a character beyond ASCII is not zero. -/
theorem ofNat_ne_zero {n : ℕ} (hpos : 0 < n) (hlt : n < 256) : UInt8.ofNat n ≠ 0 := by
  intro h
  have hnat := congrArg UInt8.toNat h
  rw [UInt8.toNat_ofNat_of_lt' hlt] at hnat
  exact absurd hnat (Nat.pos_iff_ne_zero.mp hpos)

theorem zero_mem_utf8EncodeChar {c : Char} : 0 ∈ String.utf8EncodeChar c ↔ c = NUL := by
  constructor
  · intro h
    unfold String.utf8EncodeChar at h
    dsimp only at h
    split_ifs at h with hascii
    · by_contra hc
      have hpos : 0 < c.val.toNat :=
        Nat.pos_of_ne_zero fun hzero => hc (Char.ext (UInt32.toNat_inj.mp hzero))
      rw [List.mem_singleton] at h
      exact ofNat_ne_zero hpos (by omega) h.symm
    · simp only [List.mem_cons, List.not_mem_nil, or_false] at h
      rcases h with h | h <;> exact absurd h.symm (ofNat_ne_zero (by omega) (by omega))
    · simp only [List.mem_cons, List.not_mem_nil, or_false] at h
      rcases h with h | h | h <;> exact absurd h.symm (ofNat_ne_zero (by omega) (by omega))
    · simp only [List.mem_cons, List.not_mem_nil, or_false] at h
      rcases h with h | h | h | h <;> exact absurd h.symm (ofNat_ne_zero (by omega) (by omega))
  · rintro rfl
    decide

theorem zero_mem_encode {text : Text} : 0 ∈ encode text ↔ NUL ∈ text := by
  simp [encode, zero_mem_utf8EncodeChar]

/-! ### Decoders -/

/-- A decoder that reads bytes which are no UTF-8 as NUL. -/
def strict : Decoder where
  decode bytes := (bytes.toByteArray.utf8Decode?).elim [NUL] Array.toList
  decode_encode text := by
    change (text.utf8Encode.utf8Decode?).elim [NUL] Array.toList = text
    rw [List.utf8Decode?_utf8Encode]
    rfl

theorem encode_of_utf8Decode {bytes : List UInt8} {chars : Array Char}
    (h : bytes.toByteArray.utf8Decode? = some chars) : encode chars.toList = bytes := by
  have hsome : bytes.toByteArray.utf8Decode?.isSome = true := by
    rw [h]
    rfl
  have hencode : chars.toList.utf8Encode = bytes.toByteArray := by
    rw [← ByteArray.utf8Encode_get_utf8Decode? (h := hsome)]
    simp only [h, Option.get_some]
  exact List.toByteArray_inj.mp hencode

/-- It reads NUL in bytes of which one is zero. -/
theorem nul_mem_strict {bytes : List UInt8} (h : 0 ∈ bytes) : NUL ∈ strict.decode bytes := by
  unfold strict
  dsimp only
  cases hdecode : bytes.toByteArray.utf8Decode? with
  | none => exact List.mem_singleton_self NUL
  | some chars => exact zero_mem_encode.mp ((encode_of_utf8Decode hdecode).symm ▸ h)

/-- A decoder that reads bytes which are no UTF-8 as many a NUL. -/
def padding (n : ℕ) : Decoder where
  decode bytes := (bytes.toByteArray.utf8Decode?).elim (List.replicate n NUL) Array.toList
  decode_encode text := by
    change (text.utf8Encode.utf8Decode?).elim (List.replicate n NUL) Array.toList = text
    rw [List.utf8Decode?_utf8Encode]
    rfl

/-- What it reads has as many bytes as there were, or at least the given number. -/
theorem length_padding (n : ℕ) (bytes : List UInt8) :
    (encode ((padding n).decode bytes)).length = bytes.length ∨
      n ≤ (encode ((padding n).decode bytes)).length := by
  unfold padding
  dsimp only
  cases hdecode : bytes.toByteArray.utf8Decode? with
  | none =>
    right
    have hnul : encode (List.replicate n NUL) = List.replicate n 0 := by
      induction n with
      | zero => rfl
      | succ n ih =>
        rw [List.replicate_succ, List.replicate_succ, ← ih]
        rfl
    simp [hnul]
  | some chars =>
    left
    simp [encode_of_utf8Decode hdecode]

/-! ### Blocks -/

variable {decode : List UInt8 → Text} {length : ℤ}

theorem prefix_readBlocks (sb : Text) (left : List UInt8) :
    sb <+: readBlocks decode length sb left := by
  fun_induction readBlocks decode length sb left with
  | case1 => exact List.prefix_rfl
  | case2 => exact List.prefix_append ..
  | case3 =>
    rename_i ih
    exact (List.prefix_append ..).trans ih

theorem readBlocks_last {left : List UInt8} (h : left.length < bufferSize length) (sb : Text) :
    readBlocks decode length sb left = sb ++ decode left := by
  have hsize := bufferSize_le length
  have hcast : castInt32 left.length = left.length := castInt32_of_mem ⟨by omega, by omega⟩
  have hnull : ¬ ((left.length : ℤ) = SQL_NULL_DATA ∨ (left.length : ℤ) = SQL_NO_TOTAL) := by
    unfold SQL_NULL_DATA SQL_NO_TOTAL
    omega
  have hshort : ¬ bufferSize length ≤ left.length := by omega
  rw [readBlocks.eq_def]
  simp only [hcast, if_neg hnull, getDataString, if_neg hshort]
  rw [dif_pos (by omega), if_neg (by decide), Int.toNat_natCast, List.take_left]

theorem readBlocks_step {left : List UInt8} (h : bufferSize length ≤ left.length) (sb : Text) :
    readBlocks decode length sb left =
      if castInt32 left.length = SQL_NULL_DATA ∨ castInt32 left.length = SQL_NO_TOTAL then sb
      else if castInt32 left.length < bufferSize length then
        sb ++ decode (left.take (bufferSize length - 1) ++ [0])
      else
        readBlocks decode length (sb ++ decode (left.take (bufferSize length - 1) ++ [0]))
          (left.drop (bufferSize length - 1)) := by
  have hsize := two_le_bufferSize length
  have htake : (left.take (bufferSize length - 1) ++ [0]).take (bufferSize length) =
      left.take (bufferSize length - 1) ++ [0] := by
    apply List.take_of_length_le
    simp only [List.length_append, List.length_take, List.length_cons, List.length_nil]
    omega
  conv_lhs => rw [readBlocks.eq_def]
  simp only [getDataString, if_pos h, if_true, htake, dite_eq_ite]

theorem readBlocks_full {left : List UInt8} (h : bufferSize length ≤ left.length) (sb : Text) :
    readBlocks decode length sb left = sb ∨
      sb ++ decode (left.take (bufferSize length - 1) ++ [0]) <+:
        readBlocks decode length sb left := by
  rw [readBlocks_step h]
  split_ifs
  · exact .inl rfl
  · exact .inr List.prefix_rfl
  · exact .inr (prefix_readBlocks _ _)

/-- Where a full block ends between two characters, every decoder puts a NUL between them. -/
theorem readBlocks_boundary (decoder : Decoder) {a b : Text}
    (ha : (encode a).length + 1 = bufferSize length) (hb : encode b ≠ [])
    (hsmall : (encode (a ++ b)).length < 2 ^ 31) (sb : Text) :
    readBlocks decoder.decode length sb (encode (a ++ b)) =
      readBlocks decoder.decode length (sb ++ (a ++ [NUL])) (encode b) := by
  have hpos := List.length_pos_iff.mpr hb
  have hlength : (encode (a ++ b)).length = (encode a).length + (encode b).length := by
    rw [encode_append, List.length_append]
  have hcast : castInt32 (encode (a ++ b)).length = (encode (a ++ b)).length :=
    castInt32_of_mem ⟨by omega, by omega⟩
  have hnull : ¬ (((encode (a ++ b)).length : ℤ) = SQL_NULL_DATA ∨
      ((encode (a ++ b)).length : ℤ) = SQL_NO_TOTAL) := by
    unfold SQL_NULL_DATA SQL_NO_TOTAL
    omega
  have hfull : bufferSize length ≤ (encode (a ++ b)).length := by omega
  have hsize : bufferSize length - 1 = (encode a).length := by omega
  -- the terminator is the byte of one more character
  have hblock : encode a ++ [0] = encode (a ++ [NUL]) := by
    rw [encode_append]
    rfl
  have hdecode : decoder.decode (encode (a ++ [NUL])) = a ++ [NUL] := decoder.decode_encode _
  conv_lhs => rw [readBlocks.eq_def]
  simp only [hcast, if_neg hnull, getDataString, if_pos hfull, if_true]
  rw [dif_neg (by omega), hsize, encode_append, List.take_left, List.drop_left, hblock,
    List.take_of_length_le, hdecode]
  rw [← hblock, List.length_append]
  exact ha.le

/-- A text without NUL is read whole, whatever the decoder makes of other bytes than UTF-8, if
and only if its bytes fit the buffer for the declared length, with a terminator. -/
theorem text_whole_iff (length : ℤ) {text : Text} (htext : NUL ∉ text) :
    (∀ decoder : Decoder, getStringData decoder.decode length (encode text) = text) ↔
      (encode text).length < bufferSize length := by
  unfold getStringData
  constructor
  · intro h
    by_contra hlong
    have hsize := two_le_bufferSize length
    have hwhole := h strict
    have hblocks : readBlocks strict.decode length [] (encode text) = [] ∨
        [] ++ strict.decode ((encode text).take (bufferSize length - 1) ++ [0]) <+:
          readBlocks strict.decode length [] (encode text) :=
      readBlocks_full (Nat.le_of_not_lt hlong) []
    rcases hblocks with hnone | hblock
    · rw [hnone] at hwhole
      rw [← hwhole] at hlong
      simp [encode] at hlong
      omega
    · rw [hwhole] at hblock
      refine htext (hblock.subset ?_)
      exact nul_mem_strict (List.mem_append_right _ (List.mem_singleton_self 0))
  · intro h decoder
    rw [readBlocks_last h]
    exact decoder.decode_encode text

theorem text_whole_iff_name :
    (∀ decoder : Decoder, getStringData decoder.decode 10 (encode "name".toList) = "name".toList) ↔
      (encode "name".toList).length < bufferSize 10 :=
  text_whole_iff 10 (by decide)

/-- Two characters in a column of two, of which one has two bytes, come back as three. -/
theorem two_characters_read_as_three :
    (fun decoder : Decoder => getStringData decoder.decode 2 (encode ['é', 'a'])) =
      fun _ => ['é', NUL, 'a'] := by
  funext decoder
  have hblock : readBlocks decoder.decode 2 [] (encode (['é'] ++ ['a'])) =
      readBlocks decoder.decode 2 ([] ++ (['é'] ++ [NUL])) (encode ['a']) :=
    readBlocks_boundary decoder (by decide) (by decide) (by decide) []
  have hlast : readBlocks decoder.decode 2 ['é', NUL] (encode ['a']) =
      ['é', NUL] ++ decoder.decode (encode ['a']) := readBlocks_last (by decide) _
  have hdecode : decoder.decode (encode ['a']) = ['a'] := decoder.decode_encode _
  rw [hdecode] at hlast
  exact hblock.trans hlast

/-! ### Texts with NUL -/

section

variable {n : ℕ}

theorem length_block {left : List UInt8} (h : bufferSize length ≤ left.length) :
    (left.take (bufferSize length - 1) ++ [0]).length = bufferSize length := by
  have hsize := two_le_bufferSize length
  simp only [List.length_append, List.length_take, List.length_cons, List.length_nil]
  omega

theorem encode_readBlocks_le (sb : Text) (left : List UInt8) :
    (encode sb).length ≤ (encode (readBlocks decode length sb left)).length := by
  obtain ⟨rest, hrest⟩ := @prefix_readBlocks decode length sb left
  rw [← hrest, encode_append, List.length_append]
  exact Nat.le_add_right ..

/-- Every full block of less than 2 GiB adds a byte. -/
theorem readBlocks_longer {left : List UInt8} (hsmall : left.length < 2147483648)
    (hfull : bufferSize length ≤ left.length) (sb : Text) :
    n ≤ (encode (readBlocks (padding n).decode length sb left)).length ∨
      (encode sb).length + left.length <
        (encode (readBlocks (padding n).decode length sb left)).length := by
  induction hlength : left.length using Nat.strong_induction_on generalizing left sb with
  | _ m ih =>
    subst hlength
    have hsize := two_le_bufferSize length
    have hcast : castInt32 left.length = left.length := castInt32_of_mem ⟨by omega, by omega⟩
    rw [readBlocks_step hfull, hcast, if_neg (by unfold SQL_NULL_DATA SQL_NO_TOTAL; omega),
      if_neg (by omega)]
    have hblock := length_padding n (left.take (bufferSize length - 1) ++ [0])
    rw [length_block hfull] at hblock
    generalize (padding n).decode (left.take (bufferSize length - 1) ++ [0]) = piece at hblock ⊢
    have hpiece : (encode (sb ++ piece)).length = (encode sb).length + (encode piece).length := by
      rw [encode_append, List.length_append]
    have hdrop : (left.drop (bufferSize length - 1)).length =
      left.length - (bufferSize length - 1) := List.length_drop
    rcases hblock with hexact | hmany
    · by_cases hrest : bufferSize length ≤ (left.drop (bufferSize length - 1)).length
      · have hlater := ih _ (by omega) (by omega) hrest (sb ++ piece) rfl
        omega
      · rw [readBlocks_last (Nat.lt_of_not_le hrest), encode_append, List.length_append]
        have hlast := length_padding n (left.drop (bufferSize length - 1))
        omega
    · left
      have hmore := @encode_readBlocks_le (padding n).decode length (sb ++ piece)
        (left.drop (bufferSize length - 1))
      omega

/-- The loop ends long before the end of a text of 2 GiB. -/
theorem readBlocks_shorter {left : List UInt8} (hlarge : 2147483648 ≤ left.length) (sb : Text) :
    n ≤ (encode (readBlocks (padding n).decode length sb left)).length ∨
      ((encode (readBlocks (padding n).decode length sb left)).length : ℤ) ≤
        (encode sb).length + 2 * max (castInt32 left.length) 0 + bufferSize length := by
  induction hlength : left.length using Nat.strong_induction_on generalizing left sb with
  | _ m ih =>
    subst hlength
    have hsize := two_le_bufferSize length
    have hsize' := bufferSize_le length
    have hfull : bufferSize length ≤ left.length := by omega
    rw [readBlocks_step hfull]
    have hblock := length_padding n (left.take (bufferSize length - 1) ++ [0])
    rw [length_block hfull] at hblock
    generalize (padding n).decode (left.take (bufferSize length - 1) ++ [0]) = piece at hblock ⊢
    have hpiece : (encode (sb ++ piece)).length = (encode sb).length + (encode piece).length := by
      rw [encode_append, List.length_append]
    split_ifs with hnull hlast
    · right
      omega
    · rcases hblock with hexact | hmany
      · right
        omega
      · left
        omega
    · have hdrop : (left.drop (bufferSize length - 1)).length =
        left.length - (bufferSize length - 1) := List.length_drop
      have hcast : castInt32 (left.drop (bufferSize length - 1)).length =
          castInt32 left.length - (bufferSize length - 1) := by
        rw [hdrop]
        unfold castInt32 at hlast ⊢
        omega
      rcases hblock with hexact | hmany
      · have hrest : 2147483648 ≤ (left.drop (bufferSize length - 1)).length := by
          rw [hdrop]
          unfold castInt32 at hlast
          omega
        have hpos : 0 ≤ castInt32 left.length - (bufferSize length - 1) := by linarith
        have hlater := ih _ (by omega) hrest (sb ++ piece) rfl
        rw [hcast, max_eq_left hpos, hpiece, hexact] at hlater
        refine hlater.imp id fun hle => ?_
        rw [max_eq_left (by linarith)]
        push_cast at hle ⊢
        linarith
      · left
        have hmore := @encode_readBlocks_le (padding n).decode length (sb ++ piece)
          (left.drop (bufferSize length - 1))
        linarith

/-- A text is read whole by every decoder if and only if its bytes fit the buffer. -/
theorem text_read_iff (length : ℤ) (text : Text) :
    (∀ decoder : Decoder, getStringData decoder.decode length (encode text) = text) ↔
      (encode text).length < bufferSize length := by
  unfold getStringData
  constructor
  · intro h
    by_contra hlong
    have hfull := Nat.le_of_not_lt hlong
    have hwhole := h (padding ((encode text).length + 1))
    have hnil : (encode []).length = 0 := rfl
    have hsize := bufferSize_le length
    by_cases hsmall : (encode text).length < 2147483648
    · have hlonger := @readBlocks_longer length ((encode text).length + 1) (encode text)
        hsmall hfull []
      rw [hwhole] at hlonger
      omega
    · have hshorter := @readBlocks_shorter length ((encode text).length + 1) (encode text)
        (by omega) []
      rw [hwhole] at hshorter
      have hcast := castInt32_mem (encode text).length
      unfold InInt32 at hcast
      unfold castInt32 at hshorter hcast
      omega
  · intro h decoder
    rw [readBlocks_last h]
    exact decoder.decode_encode text

end

end DatabaseMod.OdbcTexts
