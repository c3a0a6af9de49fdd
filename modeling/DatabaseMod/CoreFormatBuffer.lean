import DatabaseMod.CoreFormat
import DatabaseMod.OdbcTexts

/-!
# The buffer for a format

`_formatDate` copies the bytes of a format to a buffer and replaces every `%f` that it sees
on the way, whatever stands before it, until the buffer is full. A reader of formats takes
them in units: a percent sign with the character behind it, or a character by itself.
-/

namespace DatabaseMod.CoreFormatBuffer
open CoreStrptime CoreDateParser CoreTemporal CoreFormat
open SqlTokens (Text)
open CoreValues (NUL)
open OdbcTexts (encode encode_append zero_mem_utf8EncodeChar)

/-! ### The loop -/

def PERCENT : UInt8 := 37
def LETTER_F : UInt8 := 102

/-- `room` is what is left between `dst` and `end`. -/
def replaceMicros (us : List UInt8) : ℕ → List UInt8 → List UInt8
  | 0, _ => []
  | _, [] => []
  | _ + 1, [c] => if c = 0 then [] else [c]
  | room + 1, c :: d :: src =>
    if c = 0 then []
    else if c = PERCENT ∧ d = LETTER_F then
      (us.take 6).take (room + 1) ++ replaceMicros us (room + 1 - 6) src
    else c :: replaceMicros us room (d :: src)

/-- What is handed to `strftime`. -/
def fmtbuf (format : Text) (micros : ℤ) : List UInt8 :=
  replaceMicros (encode (microText micros)) 1023 (encode format)

/-! ### Units -/

def units : Text → List Text
  | [] => []
  | [c] => [[c]]
  | c :: d :: format => if c = '%' then [c, d] :: units format else [c] :: units (d :: format)

def replaceUnit (us : Text) (u : Text) : Text := if u = ['%', 'f'] then us else u

def expansion (us : Text) (ws : List Text) : List UInt8 :=
  ws.flatMap fun u => encode (replaceUnit us u)

/-- The expansion of the units where there is room for it, or else of the first of them. -/
def ReadsUnits (us : Text) (room : ℕ) (ws : List Text) (out : List UInt8) : Prop :=
  if (expansion us ws).length ≤ room then out = expansion us ws
  else ∃ ws₁ ws₂, ws = ws₁ ++ ws₂ ∧ out = expansion us ws₁

/-- Units without NUL of which no percent sign for itself stands before an `f`. -/
def Plain : List Text → List Text → Prop
  | [], _ => True
  | u :: ws₁, ws₂ =>
    NUL ∉ u ∧ ¬ (u = ['%', '%'] ∧ (ws₁ ++ ws₂).head? = some ['f']) ∧ Plain ws₁ ws₂

/-- The format is plain, or it is until the buffer is full or a NUL by itself comes. -/
def Splits (us : Text) (room : ℕ) (ws : List Text) : Prop :=
  if (expansion us ws).length ≤ room then Plain ws []
  else ∃ ws₁ ws₂, ws = ws₁ ++ ws₂ ∧ Plain ws₁ ws₂ ∧
    ((expansion us ws₁).length = room ∨
      (expansion us ws₁).length ≤ room ∧ ws₂.head? = some [NUL])

/-! ### Bytes of characters -/

theorem ofNat_inj {n m : ℕ} (hn : n < 256) (hm : m < 256) (h : UInt8.ofNat n = UInt8.ofNat m) :
    n = m := by
  have hnat := congrArg UInt8.toNat h
  rwa [UInt8.toNat_ofNat_of_lt' hn, UInt8.toNat_ofNat_of_lt' hm] at hnat

/-- The byte of an ASCII character encodes nothing else. -/
theorem ascii_mem_utf8EncodeChar {a c : Char} (ha : a.val.toNat < 128)
    (h : UInt8.ofNat a.val.toNat ∈ String.utf8EncodeChar c) : c = a := by
  unfold String.utf8EncodeChar at h
  dsimp only at h
  split_ifs at h with hascii
  · rw [List.mem_singleton] at h
    have hval := ofNat_inj (by omega) (by omega) h
    exact Char.ext (UInt32.toNat_inj.mp hval.symm)
  · simp only [List.mem_cons, List.not_mem_nil, or_false] at h
    rcases h with h | h <;> exact absurd (ofNat_inj (by omega) (by omega) h) (by omega)
  · simp only [List.mem_cons, List.not_mem_nil, or_false] at h
    rcases h with h | h | h <;> exact absurd (ofNat_inj (by omega) (by omega) h) (by omega)
  · simp only [List.mem_cons, List.not_mem_nil, or_false] at h
    rcases h with h | h | h | h <;> exact absurd (ofNat_inj (by omega) (by omega) h) (by omega)

theorem percent_mem {c : Char} (h : PERCENT ∈ String.utf8EncodeChar c) : c = '%' :=
  ascii_mem_utf8EncodeChar (a := '%') (by decide) h

theorem letter_mem {c : Char} (h : LETTER_F ∈ String.utf8EncodeChar c) : c = 'f' :=
  ascii_mem_utf8EncodeChar (a := 'f') (by decide) h

theorem utf8EncodeChar_ne_nil (c : Char) : String.utf8EncodeChar c ≠ [] := by
  unfold String.utf8EncodeChar
  dsimp only
  split_ifs <;> simp

theorem encode_cons (c : Char) (text : Text) :
    encode (c :: text) = String.utf8EncodeChar c ++ encode text := rfl

/-! ### One unit of a format -/

section

variable {us : List UInt8} {room : ℕ}

theorem replaceMicros_zero (us src : List UInt8) : replaceMicros us 0 src = [] := by
  cases src <;> rfl

theorem replaceMicros_nul (us : List UInt8) (room : ℕ) (src : List UInt8) :
    replaceMicros us room (0 :: src) = [] := by
  cases room with
  | zero => rfl
  | succ room => cases src <;> exact if_pos rfl

theorem replaceMicros_fraction (hus : us.length = 6) (room : ℕ) (src : List UInt8) :
    replaceMicros us room (PERCENT :: LETTER_F :: src) =
      us.take room ++ replaceMicros us (room - us.length) src := by
  cases room with
  | zero =>
    rw [replaceMicros_zero, Nat.zero_sub, replaceMicros_zero, List.take_zero, List.append_nil]
  | succ room =>
    rw [replaceMicros, if_neg (by decide), if_pos ⟨rfl, rfl⟩, List.take_of_length_le hus.le, hus]

theorem replaceMicros_byte (us : List UInt8) {c : UInt8} (hc : c ≠ 0) {src : List UInt8}
    (h : ¬ (c = PERCENT ∧ src.head? = some LETTER_F)) (room : ℕ) :
    replaceMicros us room (c :: src) = [c].take room ++ replaceMicros us (room - 1) src := by
  cases room with
  | zero =>
    rw [replaceMicros_zero, Nat.zero_sub, replaceMicros_zero, List.take_zero, List.append_nil]
  | succ room =>
    rw [List.take_succ_cons, List.take_nil, Nat.add_sub_cancel]
    cases src with
    | nil =>
      have hlast : replaceMicros us (room + 1) [c] = [c] := if_neg hc
      rw [hlast]
      cases room <;> rfl
    | cons d src =>
      rw [replaceMicros, if_neg hc, if_neg]
      · rfl
      · intro hcd
        exact h ⟨hcd.1, congrArg some hcd.2⟩

theorem take_append_cons (c : UInt8) (bs : List UInt8) (room : ℕ) :
    [c].take room ++ bs.take (room - 1) = (c :: bs).take room := by
  cases room <;> simp

theorem replaceMicros_bytes (us : List UInt8) {bs : List UInt8} (hnul : 0 ∉ bs)
    (hpercent : PERCENT ∉ bs) (src : List UInt8) (room : ℕ) :
    replaceMicros us room (bs ++ src) =
      bs.take room ++ replaceMicros us (room - bs.length) src := by
  induction bs generalizing room with
  | nil => rw [List.take_nil, List.nil_append, List.nil_append, List.length_nil, Nat.sub_zero]
  | cons c bs ih =>
    rw [List.mem_cons, not_or] at hnul hpercent
    rw [List.cons_append, replaceMicros_byte us (Ne.symm hnul.1)
      (fun h => hpercent.1 h.1.symm), ih hnul.2 hpercent.2, ← List.append_assoc,
      take_append_cons, List.length_cons, Nat.sub_sub, Nat.add_comm 1]

theorem replaceMicros_char (us : List UInt8) {c : Char} (hnul : c ≠ NUL) (hpercent : c ≠ '%')
    (src : List UInt8) (room : ℕ) :
    replaceMicros us room (String.utf8EncodeChar c ++ src) =
      (String.utf8EncodeChar c).take room ++
        replaceMicros us (room - (String.utf8EncodeChar c).length) src :=
  replaceMicros_bytes us (fun h => hnul (zero_mem_utf8EncodeChar.mp h))
    (fun h => hpercent (percent_mem h)) src room

theorem head_encode_eq_letter {text : Text} :
    (encode text).head? = some LETTER_F ↔ text.head? = some 'f' := by
  cases text with
  | nil => simp [encode]
  | cons c text =>
    rw [encode_cons, List.head?_append_of_ne_nil _ (utf8EncodeChar_ne_nil c)]
    constructor
    · intro h
      rw [letter_mem (List.mem_of_head? h)]
      rfl
    · intro h
      rw [Option.some.inj h]
      rfl

end

/-- A unit of a text and the rest of it. -/
def IsUnit (u rest : Text) : Prop :=
  (∃ c, u = [c] ∧ (c ≠ '%' ∨ rest = [])) ∨ ∃ d, u = ['%', d]

theorem IsUnit.units_eq {u rest : Text} (h : IsUnit u rest) :
    units (u ++ rest) = u :: units rest := by
  rcases h with ⟨c, rfl, hc⟩ | ⟨d, rfl⟩
  · cases rest with
    | nil => rfl
    | cons d rest =>
      have hpercent : c ≠ '%' := hc.resolve_right (List.cons_ne_nil d rest)
      exact if_neg hpercent
  · exact if_pos rfl

theorem encode_percent (text : Text) : encode ('%' :: text) = PERCENT :: encode text := rfl

section

variable {us u rest : Text}

/-- A unit that is read as one. -/
theorem replaceMicros_unit (hus : (encode us).length = 6) (hunit : IsUnit u rest) (hnul : NUL ∉ u)
    (hescape : ¬ (u = ['%', '%'] ∧ rest.head? = some 'f')) (room : ℕ) :
    replaceMicros (encode us) room (encode (u ++ rest)) =
      (encode (replaceUnit us u)).take room ++
        replaceMicros (encode us) (room - (encode (replaceUnit us u)).length) (encode rest) := by
  rcases hunit with ⟨c, rfl, hc⟩ | ⟨d, rfl⟩
  · have hkept : replaceUnit us [c] = [c] := if_neg (by simp)
    have hbytes : encode [c] = String.utf8EncodeChar c := List.append_nil _
    rw [List.mem_singleton] at hnul
    rw [hkept, encode_append, hbytes]
    by_cases hpercent : c = '%'
    · have hrest : rest = [] := hc.resolve_left (not_not.mpr hpercent)
      rw [hpercent, hrest]
      exact replaceMicros_byte _ (by decide) (by simp [encode]) room
    · exact replaceMicros_char _ (Ne.symm hnul) hpercent _ room
  · by_cases hf : d = 'f'
    · have hreplaced : replaceUnit us ['%', d] = us := if_pos (by rw [hf])
      rw [hreplaced, hf]
      exact replaceMicros_fraction hus room (encode rest)
    · have hkept : replaceUnit us ['%', d] = ['%', d] := if_neg (by simp [hf])
      have hnul' : d ≠ NUL := fun h => hnul (by simp [h])
      have hbytes : encode ['%', d] = PERCENT :: String.utf8EncodeChar d :=
        congrArg (PERCENT :: ·) (List.append_nil _)
      have hhead : ¬ (PERCENT = PERCENT ∧ (encode (d :: rest)).head? = some LETTER_F) := by
        rw [head_encode_eq_letter]
        exact fun h => hf (Option.some.inj h.2)
      have hsecond : replaceMicros (encode us) (room - 1) (encode (d :: rest)) =
          (String.utf8EncodeChar d).take (room - 1) ++ replaceMicros (encode us)
            (room - 1 - (String.utf8EncodeChar d).length) (encode rest) := by
        by_cases hpercent : d = '%'
        · rw [hpercent]
          refine replaceMicros_byte _ (by decide) (fun h => hescape ⟨by rw [hpercent], ?_⟩) _
          exact head_encode_eq_letter.mp h.2
        · exact replaceMicros_char _ hnul' hpercent _ _
      rw [hkept, hbytes, List.cons_append, encode_percent, List.cons_append, List.nil_append,
        replaceMicros_byte _ (by decide) hhead, hsecond, ← List.append_assoc, take_append_cons,
        List.length_cons, Nat.sub_sub, Nat.add_comm 1]

theorem replaceMicros_end (us rest : Text) (room : ℕ) :
    replaceMicros (encode us) room (encode ([NUL] ++ rest)) = [] :=
  replaceMicros_nul _ room _

theorem replaceMicros_percent_end (us rest : Text) (room : ℕ) :
    replaceMicros (encode us) (room + 1) (encode (['%', NUL] ++ rest)) = [PERCENT] := by
  have hend : ¬ (PERCENT = PERCENT ∧ (0 :: encode rest).head? = some LETTER_F) := by
    simp
    decide
  have hpercent := replaceMicros_byte (encode us) (by decide) hend (room + 1)
  rw [replaceMicros_nul, List.append_nil, List.take_succ_cons, List.take_nil] at hpercent
  exact hpercent

/-- The second of two percent signs is taken for the start of `%f`. -/
theorem replaceMicros_escape (hus : (encode us).length = 6) (room : ℕ) :
    replaceMicros (encode us) (room + 1) (encode (['%', '%'] ++ 'f' :: rest)) =
      PERCENT :: ((encode us).take room ++
        replaceMicros (encode us) (room - (encode us).length) (encode rest)) := by
  have hsecond : ¬ (PERCENT = PERCENT ∧
      (PERCENT :: LETTER_F :: encode rest).head? = some LETTER_F) := by
    simp
    decide
  have hpercent := replaceMicros_byte (encode us) (by decide) hsecond (room + 1)
  rw [Nat.add_sub_cancel, replaceMicros_fraction hus, List.take_succ_cons,
    List.take_nil] at hpercent
  exact hpercent

end

/-! ### Units and prefixes -/

section

variable {us u : Text} {ws : List Text} {room : ℕ} {out : List UInt8}

theorem expansion_cons (us u : Text) (ws : List Text) :
    expansion us (u :: ws) = encode (replaceUnit us u) ++ expansion us ws := rfl

theorem fits_cons (h : (encode (replaceUnit us u)).length ≤ room) :
    (expansion us (u :: ws)).length ≤ room ↔
      (expansion us ws).length ≤ room - (encode (replaceUnit us u)).length := by
  rw [expansion_cons, List.length_append]
  omega

theorem readsUnits_cons (hne : encode (replaceUnit us u) ≠ [])
    (h : (encode (replaceUnit us u)).length ≤ room) :
    ReadsUnits us room (u :: ws) (encode (replaceUnit us u) ++ out) ↔
      ReadsUnits us (room - (encode (replaceUnit us u)).length) ws out := by
  unfold ReadsUnits
  simp only [fits_cons h]
  split_ifs with hfits
  · rw [expansion_cons, List.append_cancel_left_eq]
  · constructor
    · rintro ⟨ws₁, ws₂, hsplit, hout⟩
      rcases List.cons_eq_append_iff.mp hsplit with ⟨rfl, -⟩ | ⟨ws₁, rfl, hrest⟩
      · exact absurd (List.append_eq_nil_iff.mp hout).1 hne
      · exact ⟨ws₁, ws₂, hrest, List.append_cancel_left hout⟩
    · rintro ⟨ws₁, ws₂, hsplit, hout⟩
      exact ⟨u :: ws₁, ws₂, by rw [hsplit, List.cons_append], by rw [hout, expansion_cons]⟩

theorem splits_cons (hne : encode (replaceUnit us u) ≠ [])
    (h : (encode (replaceUnit us u)).length ≤ room) (hnul : NUL ∉ u)
    (hescape : ¬ (u = ['%', '%'] ∧ ws.head? = some ['f'])) :
    Splits us room (u :: ws) ↔ Splits us (room - (encode (replaceUnit us u)).length) ws := by
  have hpos := List.length_pos_of_ne_nil hne
  unfold Splits
  simp only [fits_cons h]
  split_ifs with hfits
  · constructor
    · exact fun hplain => hplain.2.2
    · intro hplain
      refine ⟨hnul, ?_, hplain⟩
      rw [List.append_nil]
      exact hescape
  · constructor
    · rintro ⟨ws₁, ws₂, hsplit, hplain, hlength⟩
      rcases List.cons_eq_append_iff.mp hsplit with ⟨rfl, rfl⟩ | ⟨ws₁, rfl, hrest⟩
      · rcases hlength with hlength | ⟨-, hhead⟩
        · have hzero : 0 = room := hlength
          omega
        · have hu : u = [NUL] := Option.some.inj hhead
          exact absurd (by simp [hu]) hnul
      · refine ⟨ws₁, ws₂, hrest, hplain.2.2, ?_⟩
        rw [expansion_cons, List.length_append] at hlength
        exact hlength.imp (fun h => by omega) fun h => ⟨by omega, h.2⟩
    · rintro ⟨ws₁, ws₂, hsplit, hplain, hlength⟩
      refine ⟨u :: ws₁, ws₂, by rw [hsplit, List.cons_append], ⟨hnul, hsplit ▸ hescape, hplain⟩, ?_⟩
      rw [expansion_cons, List.length_append]
      exact hlength.imp (fun h => by omega) fun h => ⟨by omega, h.2⟩

theorem long_of_unit (h : room < (encode (replaceUnit us u)).length) :
    ¬ (expansion us (u :: ws)).length ≤ room := by
  rw [expansion_cons, List.length_append]
  omega

theorem readsUnits_cut (h : room < (encode (replaceUnit us u)).length) :
    ReadsUnits us room (u :: ws) ((encode (replaceUnit us u)).take room) ↔ room = 0 := by
  unfold ReadsUnits
  rw [if_neg (long_of_unit h)]
  constructor
  · rintro ⟨ws₁, ws₂, hsplit, hout⟩
    have hlength := congrArg List.length hout
    rw [List.length_take_of_le h.le] at hlength
    rcases List.cons_eq_append_iff.mp hsplit with ⟨rfl, -⟩ | ⟨ws₁, rfl, -⟩
    · exact hlength
    · rw [expansion_cons, List.length_append] at hlength
      omega
  · rintro rfl
    exact ⟨[], u :: ws, rfl, rfl⟩

/-- The first unit decides where it does not fit or is not read. -/
theorem splits_first (hnul : u ≠ [NUL])
    (h : ∀ ws₁ ws₂, u :: ws = u :: ws₁ ++ ws₂ → Plain (u :: ws₁) ws₂ →
      room < (encode (replaceUnit us u)).length)
    (hne : encode (replaceUnit us u) ≠ []) :
    Splits us room (u :: ws) ↔ room = 0 := by
  have hpos := List.length_pos_of_ne_nil hne
  unfold Splits
  split_ifs with hfits
  · constructor
    · intro hplain
      have hlt := h ws [] (by rw [List.append_nil]) hplain
      exact absurd hfits (long_of_unit hlt)
    · rintro rfl
      rw [expansion_cons, List.length_append] at hfits
      omega
  · constructor
    · rintro ⟨ws₁, ws₂, hsplit, hplain, hlength⟩
      rcases List.cons_eq_append_iff.mp hsplit with ⟨rfl, rfl⟩ | ⟨ws₁, rfl, -⟩
      · rcases hlength with hlength | ⟨-, hhead⟩
        · exact hlength.symm
        · exact absurd (Option.some.inj hhead) hnul
      · have hlt := h ws₁ ws₂ hsplit hplain
        rw [expansion_cons, List.length_append] at hlength
        omega
    · rintro rfl
      exact ⟨[], u :: ws, rfl, trivial, .inl rfl⟩

theorem not_readsUnits (hout : out ≠ []) (h : ¬ encode (replaceUnit us u) <+: out) :
    ¬ ReadsUnits us room (u :: ws) out := by
  unfold ReadsUnits
  split_ifs
  · rintro rfl
    exact h (List.prefix_append _ _)
  · rintro ⟨ws₁, ws₂, hsplit, rfl⟩
    rcases List.cons_eq_append_iff.mp hsplit with ⟨rfl, -⟩ | ⟨ws₁, rfl, -⟩
    · exact hout rfl
    · exact h (List.prefix_append _ _)

end

/-! ### The units of a format -/

theorem units_head_letter {text : Text} :
    (units text).head? = some ['f'] ↔ text.head? = some 'f' := by
  cases text with
  | nil => simp [units]
  | cons c text =>
    cases text with
    | nil => simp [units]
    | cons d text =>
      rw [units]
      split_ifs with hpercent
      · simp [hpercent]
      · simp

section

variable {us : Text}

theorem nul_iff (us : Text) (ws : List Text) (room : ℕ) :
    ReadsUnits us room ([NUL] :: ws) [] ↔ Splits us room ([NUL] :: ws) := by
  unfold ReadsUnits Splits
  split_ifs
  · refine iff_of_false (fun h => ?_) fun hplain => hplain.1 List.mem_cons_self
    cases h
  · exact iff_of_true ⟨[], _, rfl, rfl⟩ ⟨[], _, rfl, trivial, .inr ⟨Nat.zero_le _, rfl⟩⟩

/-- A unit of which the loop makes something else. -/
theorem misread_iff {u : Text} {ws : List Text} {room : ℕ} {out : ℕ → List UInt8}
    (hnul : u ≠ [NUL]) (hne : encode (replaceUnit us u) ≠ [])
    (hplain : ∀ ws₁ ws₂, u :: ws = u :: ws₁ ++ ws₂ → ¬ Plain (u :: ws₁) ws₂)
    (hzero : out 0 = []) (hout : ∀ room, out (room + 1) ≠ [] ∧
      ¬ encode (replaceUnit us u) <+: out (room + 1)) :
    ReadsUnits us room (u :: ws) (out room) ↔ Splits us room (u :: ws) := by
  rw [splits_first hnul (fun ws₁ ws₂ hsplit h => absurd h (hplain ws₁ ws₂ hsplit)) hne]
  cases room with
  | zero =>
    have hcut := @readsUnits_cut us u ws 0 (List.length_pos_of_ne_nil hne)
    rw [List.take_zero] at hcut
    rw [hzero]
    exact hcut
  | succ room =>
    exact iff_of_false (not_readsUnits (hout room).1 (hout room).2) (Nat.succ_ne_zero _)

/-- Two percent signs are not what is written for them before an `f`. -/
theorem escape_misread (hus : (encode us).length = 6) (hdigits : ∀ c ∈ us, isdigit c = true)
    (rest : Text) (room : ℕ) :
    ¬ encode ['%', '%'] <+:
      replaceMicros (encode us) (room + 1) (encode (['%', '%'] ++ 'f' :: rest)) := by
  rw [replaceMicros_escape hus]
  intro hprefix
  obtain ⟨-, hprefix⟩ : PERCENT = PERCENT ∧ [PERCENT] <+: (encode us).take room ++
      replaceMicros (encode us) (room - (encode us).length) (encode rest) :=
    List.cons_prefix_cons.mp hprefix
  cases room with
  | zero =>
    rw [List.take_zero, Nat.zero_sub, replaceMicros_zero] at hprefix
    exact absurd (List.prefix_nil.mp hprefix) (List.cons_ne_nil _ _)
  | succ room =>
    cases us with
    | nil => cases hus
    | cons c us =>
      obtain ⟨b, bs, hb⟩ := List.exists_cons_of_ne_nil (utf8EncodeChar_ne_nil c)
      rw [encode_cons, hb, List.cons_append, List.take_succ_cons, List.cons_append] at hprefix
      obtain ⟨rfl, -⟩ := List.cons_prefix_cons.mp hprefix
      have hc : c = '%' := percent_mem (by rw [hb]; exact List.mem_cons_self)
      exact (literal_of_digit (hdigits c List.mem_cons_self)).1 hc

theorem unit_iff (hus : (encode us).length = 6) (hdigits : ∀ c ∈ us, isdigit c = true)
    {u rest : Text} (hunit : IsUnit u rest)
    (ih : ∀ room, ReadsUnits us room (units rest) (replaceMicros (encode us) room (encode rest)) ↔
      Splits us room (units rest)) (room : ℕ) :
    ReadsUnits us room (u :: units rest) (replaceMicros (encode us) room (encode (u ++ rest))) ↔
      Splits us room (u :: units rest) := by
  have hne : encode (replaceUnit us u) ≠ [] := by
    unfold replaceUnit
    split_ifs
    · intro h
      rw [h] at hus
      cases hus
    · rcases hunit with ⟨c, rfl, -⟩ | ⟨d, rfl⟩ <;> simp [encode]
  by_cases hclean : NUL ∉ u ∧ ¬ (u = ['%', '%'] ∧ rest.head? = some 'f')
  · obtain ⟨hnul, hescape⟩ := hclean
    rw [replaceMicros_unit hus hunit hnul hescape]
    by_cases hroom : (encode (replaceUnit us u)).length ≤ room
    · have hescape' : ¬ (u = ['%', '%'] ∧ (units rest).head? = some ['f']) := by
        rw [units_head_letter]
        exact hescape
      rw [List.take_of_length_le hroom, readsUnits_cons hne hroom,
        splits_cons hne hroom hnul hescape', ih]
    · have hlt := Nat.lt_of_not_le hroom
      have hnul' : u ≠ [NUL] := fun h => hnul (by simp [h])
      rw [Nat.sub_eq_zero_of_le hlt.le, replaceMicros_zero, List.append_nil, readsUnits_cut hlt,
        splits_first hnul' (fun _ _ _ _ => hlt) hne]
  · rcases hunit with ⟨c, rfl, -⟩ | ⟨d, rfl⟩
    · have hc : c = NUL := by
        by_contra hc
        exact hclean ⟨by simp [Ne.symm hc], by simp⟩
      rw [hc, replaceMicros_end]
      exact nul_iff us _ room
    · by_cases hd : d = NUL
      · rw [hd] at hne ⊢
        refine @misread_iff us ['%', NUL] (units rest) room
          (fun room => replaceMicros (encode us) room (encode (['%', NUL] ++ rest)))
          (by decide) hne (fun _ _ _ hplain => ?_) (replaceMicros_zero _ _) fun room => ?_
        · exact hplain.1 (by decide)
        · rw [replaceMicros_percent_end]
          have hnotPrefix : ¬ encode ['%', NUL] <+: [PERCENT] := by decide
          exact ⟨by decide, hnotPrefix⟩
      · have hescape : ['%', d] = ['%', '%'] ∧ rest.head? = some 'f' := by
          by_contra hescape
          exact hclean ⟨by simp [Ne.symm hd]; decide, hescape⟩
        obtain ⟨hpercent, hhead⟩ := hescape
        obtain ⟨rest', hrest⟩ := List.head?_eq_some_iff.mp hhead
        rw [hpercent] at hne ⊢
        refine @misread_iff us ['%', '%'] (units rest) room
          (fun room => replaceMicros (encode us) room (encode (['%', '%'] ++ rest)))
          (by decide) hne (fun ws₁ ws₂ hsplit hplain => ?_) (replaceMicros_zero _ _) fun room => ?_
        · rw [List.cons_append, List.cons.injEq] at hsplit
          exact hplain.2.1 ⟨rfl, hsplit.2 ▸ units_head_letter.mpr hhead⟩
        · rw [hrest]
          refine ⟨?_, escape_misread hus hdigits rest' room⟩
          rw [replaceMicros_escape hus]
          exact List.cons_ne_nil _ _

theorem nil_iff (us : Text) (room : ℕ) :
    ReadsUnits us room (units []) (replaceMicros (encode us) room (encode [])) ↔
      Splits us room (units []) := by
  have hnil : replaceMicros (encode us) room (encode []) = [] := by cases room <;> rfl
  have hfits : (expansion us (units [])).length ≤ room := Nat.zero_le _
  unfold ReadsUnits Splits
  rw [if_pos hfits, if_pos hfits, hnil]
  exact iff_of_true rfl trivial

/-- By induction on the units of the format. -/
theorem units_iff (hus : (encode us).length = 6) (hdigits : ∀ c ∈ us, isdigit c = true)
    (format : Text) (room : ℕ) :
    ReadsUnits us room (units format) (replaceMicros (encode us) room (encode format)) ↔
      Splits us room (units format) := by
  induction format using units.induct generalizing room with
  | case1 => exact nil_iff us room
  | case2 c => exact unit_iff hus hdigits (.inl ⟨c, rfl, .inr rfl⟩) (nil_iff us) room
  | case3 d format ih =>
    have hunit : IsUnit ['%', d] format := .inr ⟨d, rfl⟩
    have hiff := unit_iff hus hdigits hunit ih room
    rw [← hunit.units_eq] at hiff
    exact hiff
  | case4 c d format hpercent ih =>
    have hunit : IsUnit [c] (d :: format) := .inl ⟨c, rfl, .inl hpercent⟩
    have hiff := unit_iff hus hdigits hunit ih room
    rw [← hunit.units_eq] at hiff
    exact hiff

end

/-! ### The format in the buffer -/

theorem encode_digits_length {text : Text} (h : ∀ c ∈ text, isdigit c = true) :
    (encode text).length = text.length := by
  induction text with
  | nil => rfl
  | cons c text ih =>
    have hdigit := h c List.mem_cons_self
    have hascii : c.val.toNat ≤ 127 := by
      have hle : c ≤ '9' := of_decide_eq_true (Bool.and_eq_true_iff.mp hdigit).2
      exact (UInt32.le_iff_toNat_le.mp hle).trans (by decide)
    have hbytes : (String.utf8EncodeChar c).length = 1 := by
      unfold String.utf8EncodeChar
      dsimp only
      rw [if_pos hascii]
      rfl
    rw [encode_cons, List.length_append, hbytes, ih fun x hx => h x (List.mem_cons_of_mem c hx),
      List.length_cons, Nat.add_comm]

/-- The units are what the parser takes for the items of its format. -/
theorem units_formatText (items : List Item) : units (formatText items) = items.map Item.text := by
  induction items with
  | nil => rfl
  | cons item items ih =>
    have hunit : IsUnit item.text (formatText items) := by
      cases item with
      | literal c hc => exact .inl ⟨c, rfl, .inl hc.1⟩
      | space c hc =>
        refine .inl ⟨c, rfl, .inl ?_⟩
        rintro rfl
        exact absurd hc (by decide)
      | percent => exact .inr ⟨_, rfl⟩
      | field s => exact .inr ⟨_, rfl⟩
    rw [List.map_cons, ← ih]
    exact hunit.units_eq

/-- Where no NUL ends it, the format with the microseconds is cut to the buffer. -/
theorem replaceMicros_splice {us : Text} (hus : (encode us).length = 6) {format : Text}
    (h : NUL ∉ format) (room : ℕ) :
    replaceMicros (encode us) room (encode format) =
      (encode (spliceMicros us format)).take room := by
  induction format using spliceMicros.induct generalizing room with
  | case1 => cases room <;> rfl
  | case2 c =>
    have hstep := @replaceMicros_unit us [c] [] hus (.inl ⟨c, rfl, .inr rfl⟩) h
      (by simp) room
    have hnil (room : ℕ) : replaceMicros (encode us) room (encode []) = [] := by
      cases room <;> rfl
    have hkept : replaceUnit us [c] = [c] := if_neg (by simp)
    rw [hnil, List.append_nil, List.append_nil, hkept] at hstep
    exact hstep
  | case3 c d src hfraction ih =>
    obtain ⟨rfl, rfl⟩ := hfraction
    have hsplice : spliceMicros us ('%' :: 'f' :: src) = us ++ spliceMicros us src :=
      if_pos ⟨rfl, rfl⟩
    have hsrc : NUL ∉ src := fun hmem => h (List.mem_cons_of_mem _ (List.mem_cons_of_mem _ hmem))
    rw [hsplice, encode_append, List.take_append, ← ih hsrc]
    exact replaceMicros_fraction hus room (encode src)
  | case4 c d src hfraction ih =>
    have hsplice : spliceMicros us (c :: d :: src) = c :: spliceMicros us (d :: src) :=
      if_neg hfraction
    rw [List.mem_cons, not_or] at h
    rw [hsplice, encode_cons c (d :: src), encode_cons c (spliceMicros us (d :: src)),
      List.take_append, ← ih h.2]
    by_cases hpercent : c = '%'
    · have hf : d ≠ 'f' := fun hf => hfraction ⟨hpercent, hf⟩
      rw [hpercent]
      refine replaceMicros_byte _ (by decide) (fun hhead => hf ?_) room
      exact Option.some.inj (head_encode_eq_letter.mp hhead.2)
    · exact replaceMicros_char _ (Ne.symm h.1) hpercent _ room

theorem micros_length {micros : ℤ} (h : 0 ≤ micros ∧ micros ≤ 999999) :
    (encode (microText micros)).length = 6 := by
  rw [encode_digits_length (denotes_micros h).all_digits, microText_eq h]
  exact padded_length (by decide) (by omega)

theorem fmtbuf_splice {format : Text} (h : NUL ∉ format) {micros : ℤ}
    (hmicros : 0 ≤ micros ∧ micros ≤ 999999) :
    fmtbuf format micros = (encode (spliceMicros (microText micros) format)).take 1023 :=
  replaceMicros_splice (micros_length hmicros) h 1023

/-- The string for `strftime` expands the units of the format if and only if the format is
plain, or for a longer expansion is so up to a unit that fills the buffer or to a NUL. -/
theorem fmtbuf_reads_units (format : Text) {micros : ℤ} (hmicros : 0 ≤ micros ∧ micros ≤ 999999) :
    ReadsUnits (microText micros) 1023 (units format) (fmtbuf format micros) ↔
      Splits (microText micros) 1023 (units format) :=
  units_iff (micros_length hmicros) (denotes_micros hmicros).all_digits format 1023

theorem fmtbuf_reads_units_time :
    ReadsUnits (microText 1500) 1023 (units timeFractionFormat) (fmtbuf timeFractionFormat 1500) ↔
      Splits (microText 1500) 1023 (units timeFractionFormat) :=
  fmtbuf_reads_units timeFractionFormat (by decide)

/-- A percent sign for itself and an `f`. -/
theorem escaped_letter_replaced :
    fmtbuf "%%f".toList 0 = "%000000".toList.map (UInt8.ofNat ·.toNat) ∧
      expansion (microText 0) (units "%%f".toList) = "%%f".toList.map (UInt8.ofNat ·.toNat) ∧
      ¬ ReadsUnits (microText 0) 1023 (units "%%f".toList) (fmtbuf "%%f".toList 0) := by
  refine ⟨by decide +kernel, by decide +kernel, fun h => ?_⟩
  have hfits : (expansion (microText 0) (units "%%f".toList)).length ≤ 1023 := by decide +kernel
  unfold ReadsUnits at h
  rw [if_pos hfits] at h
  exact absurd h (by decide +kernel)

end DatabaseMod.CoreFormatBuffer
