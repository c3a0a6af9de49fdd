import DatabaseMod.MariaValues

/-!
# The result buffers of the MariaDB driver

`prepare` allocates a buffer for each column, tells the client library a length for it, and
`nextRow` reads a width of its own. The library writes as many bytes as a number or a time has,
whatever length it was told, and the bytes of a text up to that length, with a zero behind them
if there is room.
-/

namespace DatabaseMod.MariaBuffers
open CoreValues CoreResultSet MariaDriver

/-! ### Offsets -/

/-- All of the offsets lie in a block of a size. -/
def Within (offsets : List ℕ) (size : ℕ) : Prop := ∀ k ∈ offsets, k < size

theorem within_range (n size : ℕ) : Within (List.range n) size ↔ n ≤ size := by
  constructor
  · intro h
    by_contra hlt
    exact absurd (h size (List.mem_range.mpr (by omega))) (lt_irrefl size)
  · intro h k hk
    exact (List.mem_range.mp hk).trans_le h

theorem within_append (l l' : List ℕ) (size : ℕ) :
    Within (l ++ l') size ↔ Within l size ∧ Within l' size := List.forall_mem_append

theorem within_nil (size : ℕ) : Within [] size := fun _ hk => absurd hk List.not_mem_nil

theorem within_if_singleton (c : Prop) [Decidable c] (n size : ℕ) :
    Within (if c then [n] else []) size ↔ (c → n < size) := by
  split
  next h => exact ⟨fun hn _ => hn n List.mem_cons_self, fun hn k hk =>
    List.mem_singleton.mp hk ▸ hn h⟩
  next h => exact iff_of_true (within_nil size) fun hc => absurd hc h

/-! ### Columns -/

/-- A column with a declared length that is an `unsigned long` of so many bits. -/
structure Column (bits : ℕ) where
  type : ℕ
  flags : ℕ
  length : BitVec bits

/-- The size of a `MYSQL_TIME`: six members, an `unsigned long`, a flag and an enumeration. -/
def timeSize (bits : ℕ) : ℕ := 24 + bits / 8 + 8

def isTemporal (type : ℕ) : Bool :=
  type = MYSQL_TYPE_DATE || type = MYSQL_TYPE_DATETIME || type = MYSQL_TYPE_TIMESTAMP ||
    type = MYSQL_TYPE_TIME

/-- The bytes that the library writes for a number; zero for the other types. -/
def numberWidth (type : ℕ) : ℕ :=
  if type = MYSQL_TYPE_TINY then 1
  else if type ∈ [MYSQL_TYPE_SHORT, MYSQL_TYPE_YEAR] then 2
  else if type ∈ [MYSQL_TYPE_LONG, MYSQL_TYPE_INT24, MYSQL_TYPE_FLOAT] then 4
  else if type ∈ [MYSQL_TYPE_LONGLONG, MYSQL_TYPE_DOUBLE] then 8
  else 0

/-- All other types are sent as texts and blobs. -/
def isText (type : ℕ) : Bool := !isTemporal type && numberWidth type = 0

/-- What a fetch finds in a column: no value, or one of so many bytes. A text or a blob is not
longer than declared. -/
structure Cell {bits : ℕ} (c : Column bits) where
  bytes : Option ℕ
  declared : isText c.type = true → ∀ n ∈ bytes, n ≤ c.length.toNat

namespace Column

variable {bits : ℕ} (c : Column bits)

/-- `bmx_mysql_length_for_field`, which is what `prepare` allocates. -/
def lengthForField : ℕ := if isTemporal c.type then timeSize bits else c.length.toNat

/-- The length that `bmx_mysql_inbind` announces. -/
def bufferLength : BitVec bits := c.length + 1

def fType : ℕ := dbTypeFromNative c.type c.flags

/-- How many bytes of a value of `n` bytes the library stores. -/
def stored (n : ℕ) : ℕ :=
  if isTemporal c.type then timeSize bits
  else if 0 < numberWidth c.type then numberWidth c.type
  else min n c.bufferLength.toNat

/-- The offsets that the library writes for a value of `n` bytes. -/
def written (n : ℕ) : List ℕ :=
  List.range (c.stored n) ++
    if isText c.type = true ∧ n < c.bufferLength.toNat then [n] else []

end Column

/-- The members of a `MYSQL_TIME` from the `i`-th on, without the `j`-th. -/
def members (i j : ℕ) : List ℕ := List.range' (4 * i) (4 * (j - i))

/-- The offsets that `nextRow` reads for a value of `n` bytes. -/
def readOffsets (fType n : ℕ) : List ℕ :=
  if fType = DBTYPE_INT then List.range 4
  else if fType = DBTYPE_LONG then List.range 8
  else if fType = DBTYPE_FLOAT then List.range 4
  else if fType = DBTYPE_DOUBLE then List.range 8
  else if fType = DBTYPE_DATE then members 0 3
  else if fType = DBTYPE_DATETIME then members 0 6
  else if fType = DBTYPE_TIME then members 3 6
  else List.range n

/-- What a fetch writes and `nextRow` reads lies in the buffer of the column. -/
def Fits {bits : ℕ} (c : Column bits) (cell : Cell c) : Prop :=
  ∀ n ∈ cell.bytes, Within (c.written n) c.lengthForField ∧
    Within (readOffsets c.fType n) c.lengthForField

/-! ### The kinds of columns -/

/-- The bytes that are read of a number. -/
def readWidth (type : ℕ) : ℕ := if type ∈ [MYSQL_TYPE_LONGLONG, MYSQL_TYPE_DOUBLE] then 8 else 4

section

variable {bits : ℕ} (c : Column bits) (n : ℕ)

theorem isTemporal_cases {type : ℕ} (h : isTemporal type = true) :
    type = MYSQL_TYPE_DATE ∨ type = MYSQL_TYPE_DATETIME ∨ type = MYSQL_TYPE_TIMESTAMP ∨
      type = MYSQL_TYPE_TIME := by
  simpa [isTemporal, or_assoc] using h

theorem numberWidth_cases {type : ℕ} (h : 0 < numberWidth type) :
    type ∈ [MYSQL_TYPE_TINY, MYSQL_TYPE_SHORT, MYSQL_TYPE_YEAR, MYSQL_TYPE_LONG, MYSQL_TYPE_INT24,
      MYSQL_TYPE_FLOAT, MYSQL_TYPE_LONGLONG, MYSQL_TYPE_DOUBLE] := by
  unfold numberWidth at h
  split at h
  next h₁ => simp [h₁]
  next =>
    split at h
    next h₂ => exact List.mem_cons_of_mem _ (List.mem_append_left _ h₂)
    next =>
      split at h
      next h₃ =>
        have hrest := List.mem_append_left [MYSQL_TYPE_LONGLONG, MYSQL_TYPE_DOUBLE] h₃
        exact List.mem_cons_of_mem _ (List.mem_cons_of_mem _ (List.mem_cons_of_mem _ hrest))
      next =>
        split at h
        next h₄ => simp only [List.mem_cons] at h₄ ⊢; tauto
        next => exact absurd h (lt_irrefl 0)

/-- A number is stored in its width, and read in the width of its mapped type. -/
theorem number_offsets {type : ℕ} (h : 0 < numberWidth type) (flags : ℕ) :
    isTemporal type = false ∧ numberWidth type ≤ readWidth type ∧
      readOffsets (dbTypeFromNative type flags) n = List.range (readWidth type) := by
  have hcases := numberWidth_cases h
  simp only [List.mem_cons, List.not_mem_nil, or_false] at hcases
  rcases hcases with rfl | rfl | rfl | rfl | rfl | rfl | rfl | rfl
  all_goals exact ⟨rfl, by decide, rfl⟩

theorem within_members {i j size : ℕ} (hij : i ≤ j) (hsize : 4 * j ≤ size) :
    Within (members i j) size := by
  intro k hk
  obtain ⟨-, hlt⟩ := List.mem_range'_1.mp hk
  omega

/-- The members of a time lie before its `unsigned long`. -/
theorem temporal_offsets {type : ℕ} (h : isTemporal type = true) (flags : ℕ) :
    Within (readOffsets (dbTypeFromNative type flags) n) 24 := by
  rcases isTemporal_cases h with rfl | rfl | rfl | rfl
  · exact (within_members (by decide) (by decide) : Within (members 0 3) 24)
  · exact (within_members (by decide) (by decide) : Within (members 0 6) 24)
  · exact (within_members (by decide) (by decide) : Within (members 0 6) 24)
  · exact (within_members (by decide) (by decide) : Within (members 3 6) 24)

theorem not_number {type : ℕ} (h : numberWidth type = 0) :
    type ∉ [MYSQL_TYPE_TINY, MYSQL_TYPE_SHORT, MYSQL_TYPE_YEAR, MYSQL_TYPE_LONG, MYSQL_TYPE_INT24,
      MYSQL_TYPE_FLOAT, MYSQL_TYPE_LONGLONG, MYSQL_TYPE_DOUBLE] := by
  intro hmem
  simp only [List.mem_cons, List.not_mem_nil, or_false] at hmem
  rcases hmem with rfl | rfl | rfl | rfl | rfl | rfl | rfl | rfl
  all_goals exact absurd h (by decide)

/-- A text is read in full, but an old decimal, which is sent as one, as a double. -/
theorem text_offsets {type : ℕ} (h : isText type = true) (flags : ℕ) :
    readOffsets (dbTypeFromNative type flags) n =
      if type = MYSQL_TYPE_DECIMAL then List.range 8 else List.range n := by
  obtain ⟨htemporal, hwidth⟩ : isTemporal type = false ∧ numberWidth type = 0 := by
    simpa [isText] using h
  have hnumber := not_number hwidth
  simp only [List.mem_cons, List.not_mem_nil, or_false, not_or] at hnumber
  obtain ⟨h1, h2, h13, h3, h9, h4, h8, h5⟩ := hnumber
  simp only [isTemporal, Bool.or_eq_false_iff, decide_eq_false_iff_not] at htemporal
  obtain ⟨⟨⟨h10, h12⟩, h7⟩, h11⟩ := htemporal
  by_cases hdecimal : type = MYSQL_TYPE_DECIMAL
  · subst hdecimal
    rfl
  · have hfType : dbTypeFromNative type flags = DBTYPE_BLOB ∨
        dbTypeFromNative type flags = DBTYPE_STRING := by
      unfold dbTypeFromNative
      simp only [List.mem_cons, List.not_mem_nil, or_false, h1, h2, h3, h4, h5, h7, h8, h9, h10, h11,
        h12, h13, hdecimal, if_false]
      split
      · split
        · exact .inl rfl
        · exact .inr rfl
      · exact .inr rfl
    rw [if_neg hdecimal]
    rcases hfType with hfType | hfType
    · rw [hfType]
      rfl
    · rw [hfType]
      rfl

/-! ### When the buffers fit -/

/-- The announced length is one more than the declared one, unless that is the largest there is. -/
theorem bufferLength_cases : c.bufferLength.toNat = 0 ∨
    c.bufferLength.toNat = c.length.toNat + 1 := by
  have hlt := c.length.isLt
  have hone : (1 : BitVec bits).toNat = 1 % 2 ^ bits := BitVec.toNat_ofNat 1 bits
  rw [Column.bufferLength, BitVec.toNat_add, hone, Nat.add_mod_mod]
  rcases Nat.lt_or_ge (c.length.toNat + 1) (2 ^ bits) with h | h
  · exact .inr (Nat.mod_eq_of_lt h)
  · have hmax : c.length.toNat + 1 = 2 ^ bits := by omega
    rw [hmax, Nat.mod_self]
    exact .inl rfl

/-- There is room for a value of `n` bytes: a time has a buffer of its own size, a number one of
its declared length, and a text has to be shorter than declared, unless the library was told
that there is no buffer. -/
inductive Room : Prop
  | temporal (h : isTemporal c.type = true)
  | number (h : 0 < numberWidth c.type) (hlength : readWidth c.type ≤ c.length.toNat)
  | text (h : isText c.type = true) (hlength : n < c.length.toNat ∨ c.bufferLength.toNat = 0)
    (hdecimal : c.type = MYSQL_TYPE_DECIMAL → 8 ≤ c.length.toNat)

theorem kind_cases (type : ℕ) : isTemporal type = true ∨ 0 < numberWidth type ∨
    isText type = true := by
  cases htemporal : isTemporal type with
  | true => exact .inl rfl
  | false =>
    rcases Nat.eq_zero_or_pos (numberWidth type) with hwidth | hwidth
    · exact .inr (.inr (by simp [isText, htemporal, hwidth]))
    · exact .inr (.inl hwidth)

/-- What is written and what is read of a value of `n` bytes lies in the buffer. -/
def FitsBytes : Prop :=
  Within (c.written n) c.lengthForField ∧ Within (readOffsets c.fType n) c.lengthForField

variable {c n}

theorem written_of_not_text (h : isText c.type = false) : c.written n = List.range (c.stored n) := by
  rw [Column.written, if_neg (fun hc => absurd (h.symm.trans hc.1) (by decide)), List.append_nil]

theorem temporal_fits (h : isTemporal c.type = true) : FitsBytes c n := by
  have htext : isText c.type = false := by rw [isText, h, Bool.not_true, Bool.false_and]
  have hsize : c.lengthForField = timeSize bits := if_pos h
  constructor
  · have hstored : c.stored n = timeSize bits := if_pos h
    rw [written_of_not_text htext, hstored, hsize]
    exact (within_range _ _).mpr le_rfl
  · intro k hk
    have hlt : k < 24 := temporal_offsets n h c.flags k hk
    rw [hsize, timeSize]
    omega

theorem number_fits_iff (h : 0 < numberWidth c.type) :
    FitsBytes c n ↔ readWidth c.type ≤ c.length.toNat := by
  obtain ⟨htemporal, hle, hread⟩ := number_offsets n h c.flags
  have htext : isText c.type = false := by
    rw [isText, decide_eq_false h.ne', Bool.and_false]
  have hsize : c.lengthForField = c.length.toNat := by
    rw [Column.lengthForField, htemporal, if_neg Bool.false_ne_true]
  have hstored : c.stored n = numberWidth c.type := by
    rw [Column.stored, htemporal, if_neg Bool.false_ne_true, if_pos h]
  rw [FitsBytes, written_of_not_text htext, hstored, hsize, Column.fType, hread, within_range,
    within_range]
  exact ⟨And.right, fun hlength => ⟨hle.trans hlength, hlength⟩⟩

theorem text_fits_iff (h : isText c.type = true) (hn : n ≤ c.length.toNat) :
    FitsBytes c n ↔ (n < c.length.toNat ∨ c.bufferLength.toNat = 0) ∧
        (c.type = MYSQL_TYPE_DECIMAL → 8 ≤ c.length.toNat) := by
  obtain ⟨htemporal, hwidth⟩ : isTemporal c.type = false ∧ numberWidth c.type = 0 := by
    simpa [isText] using h
  have hsize : c.lengthForField = c.length.toNat := by
    rw [Column.lengthForField, htemporal, if_neg Bool.false_ne_true]
  have hstored : c.stored n = min n c.bufferLength.toNat := by
    rw [Column.stored, htemporal, if_neg Bool.false_ne_true, hwidth, if_neg (lt_irrefl 0)]
  have hwritten : Within (c.written n) c.length.toNat ↔
      n < c.length.toNat ∨ c.bufferLength.toNat = 0 := by
    rw [Column.written, within_append, hstored, within_range, within_if_singleton, h]
    rcases bufferLength_cases c with hbuffer | hbuffer
    · rw [hbuffer]
      simp
    · rw [hbuffer]
      have hfits : n < c.length.toNat + 1 := by omega
      simp only [hfits, and_true, true_imp_iff]
      omega
  have hread : Within (readOffsets c.fType n) c.length.toNat ↔
      (c.type = MYSQL_TYPE_DECIMAL → 8 ≤ c.length.toNat) := by
    rw [Column.fType, text_offsets n h c.flags]
    split
    next hdecimal => rw [within_range, forall_prop_of_true hdecimal]
    next hdecimal => exact iff_of_true ((within_range _ _).mpr hn) fun hd => absurd hd hdecimal
  rw [FitsBytes, hsize, hwritten, hread]

/-- The buffer fits a value exactly if there is room for it. -/
theorem fitsBytes_iff (hn : isText c.type = true → n ≤ c.length.toNat) :
    FitsBytes c n ↔ Room c n := by
  constructor
  · intro hfits
    rcases kind_cases c.type with h | h | h
    · exact .temporal h
    · exact .number h ((number_fits_iff h).mp hfits)
    · obtain ⟨hlength, hdecimal⟩ := (text_fits_iff h (hn h)).mp hfits
      exact .text h hlength hdecimal
  · intro hroom
    cases hroom with
    | temporal h => exact temporal_fits h
    | number h hlength => exact (number_fits_iff h).mpr hlength
    | text h hlength hdecimal => exact (text_fits_iff h (hn h)).mpr ⟨hlength, hdecimal⟩

end

/-- A column's buffer fits what a fetch finds exactly if there is room for the value, if any. -/
theorem fits_iff_room {bits : ℕ} (c : Column bits) (cell : Cell c) :
    Fits c cell ↔ ∀ n ∈ cell.bytes, Room c n :=
  forall₂_congr fun n hn => fitsBytes_iff fun h => cell.declared h n hn

/-! ### The driver's reads and writes -/

/-- The bytes that the library stores of a value lie at the offsets that are written. -/
theorem fetch_frame {bits : ℕ} (c : Column bits) (f : TMySQLField) {bytes : List UInt8} {n : ℕ}
    (hlength : bytes.length = c.stored n) {k : ℕ} (hk : k ∉ c.written n) :
    (f.fetch (some bytes)).dataValue k = f.dataValue k := by
  have hout : bytes.length ≤ k := by
    by_contra hlt
    refine hk (List.mem_append_left _ (List.mem_range.mpr ?_))
    omega
  change (bytes[k]?).getD (f.dataValue k) = f.dataValue k
  rw [List.getElem?_eq_none hout, Option.getD_none]

theorem read_congr {data data' : Memory} {offset size : ℕ}
    (h : ∀ k ∈ List.range' offset size, data k = data' k) :
    data.read offset size = data'.read offset size := by
  refine List.map_congr_left fun i hi => h _ ?_
  exact List.mem_range'_1.mpr ⟨Nat.le_add_right _ _, Nat.add_lt_add_left (List.mem_range.mp hi) _⟩

theorem timeMember_congr {data data' : Memory} {i j k : ℕ} (hi : i ≤ k) (hk : k < j)
    (h : ∀ o ∈ members i j, data o = data' o) : timeMember data k = timeMember data' k := by
  unfold timeMember
  rw [read_congr fun o ho => h o ?_]
  obtain ⟨hle, hlt⟩ := List.mem_range'_1.mp ho
  exact List.mem_range'_1.mpr ⟨by omega, by omega⟩

/-- `nextRow` makes its value from the offsets that it reads. -/
theorem bufferValue_congr (rt : Runtime) (stray : ℤ) (fType : ℕ) {f f' : TMySQLField}
    (hlength : f.dataLength = f'.dataLength)
    (h : ∀ k ∈ readOffsets fType f.dataLength, f.dataValue k = f'.dataValue k) :
    bufferValue rt stray fType f = bufferValue rt stray fType f' := by
  have hrange {size : ℕ} (hsize : readOffsets fType f.dataLength = List.range size) :
      f.dataValue.read 0 size = f'.dataValue.read 0 size := by
    refine read_congr fun k hk => h k ?_
    rw [hsize, List.range_eq_range']
    exact hk
  have hmember {i j k : ℕ} (hi : i ≤ k) (hk : k < j)
      (hmembers : readOffsets fType f.dataLength = members i j) :
      timeMember f.dataValue k = timeMember f'.dataValue k :=
    timeMember_congr hi hk fun o ho => h o (hmembers ▸ ho)
  unfold bufferValue
  dsimp only
  by_cases hint : fType = DBTYPE_INT
  · subst hint
    simp only [if_true, charToInt, hrange rfl]
  by_cases hlong : fType = DBTYPE_LONG
  · subst hlong
    simp only [hint, if_true, if_false, charToLong, hrange rfl]
  by_cases hfloat : fType = DBTYPE_FLOAT
  · subst hfloat
    simp only [hint, hlong, if_true, if_false, hrange rfl]
  by_cases hdouble : fType = DBTYPE_DOUBLE
  · subst hdouble
    simp only [hint, hlong, hfloat, if_true, if_false, hrange rfl]
  by_cases hdate : fType = DBTYPE_DATE
  · subst hdate
    simp only [hint, hlong, hfloat, hdouble, if_true, if_false]
    rw [hmember (Nat.zero_le 0) (by decide) rfl, hmember (Nat.zero_le 1) (by decide) rfl,
      hmember (Nat.zero_le 2) (by decide) rfl]
  by_cases hdateTime : fType = DBTYPE_DATETIME
  · subst hdateTime
    simp only [hint, hlong, hfloat, hdouble, hdate, if_true, if_false]
    rw [hmember (Nat.zero_le 0) (by decide) rfl, hmember (Nat.zero_le 1) (by decide) rfl,
      hmember (Nat.zero_le 2) (by decide) rfl, hmember (Nat.zero_le 3) (by decide) rfl,
      hmember (Nat.zero_le 4) (by decide) rfl, hmember (Nat.zero_le 5) (by decide) rfl]
  by_cases htime : fType = DBTYPE_TIME
  · subst htime
    simp only [hint, hlong, hfloat, hdouble, hdate, hdateTime, if_true, if_false]
    rw [hmember (le_refl 3) (by decide) rfl, hmember (by decide : 3 ≤ 4) (by decide) rfl,
      hmember (by decide : 3 ≤ 5) (by decide) rfl]
  · have hbytes : readOffsets fType f.dataLength = List.range f.dataLength := by
      simp only [readOffsets, hint, hlong, hfloat, hdouble, hdate, hdateTime, htime, if_false]
    simp only [hint, hlong, hfloat, hdouble, hdate, hdateTime, htime, if_false, ← hlength,
      hrange hbytes]

/-! ### Columns that do not fit -/

def MYSQL_TYPE_VAR_STRING : ℕ := 253

/-- A Bool is a `TINYINT(1)`, whose buffer of one byte is read as four, and the zero behind a text
of the declared length has no room. -/
theorem bool_and_full_text_overflow :
    ¬ Fits (⟨MYSQL_TYPE_TINY, 0, 1⟩ : Column 64) ⟨some 1, by decide⟩ ∧
      ¬ Fits (⟨MYSQL_TYPE_VAR_STRING, 0, 20⟩ : Column 64) ⟨some 20, by decide⟩ := by
  refine ⟨fun h => ?_, fun h => ?_⟩
  · exact absurd ((h 1 rfl).2 3 (by decide)) (by decide)
  · exact absurd ((h 20 rfl).1 20 (by decide)) (by decide)

end DatabaseMod.MariaBuffers
