import Mathlib.Data.Char
import Mathlib.Data.List.Lex
import Mathlib.Data.Nat.Digits.Defs
import Mathlib.Tactic.Ring
import Mathlib.Tactic.Linarith

/-!
# The order of decimal texts

Texts of decimal digits compared character by character. Between texts of one length this
is the order of the numbers; otherwise the longer text is cut to the length of the shorter.
-/

namespace DatabaseMod.DecimalOrder

/-- The number a text of digits stands for. -/
def value (digits : List Char) : ℕ := Nat.ofDigitChars 10 digits 0

@[simp]
theorem value_toDigits (n : ℕ) : value (Nat.toDigits 10 n) = n := Nat.ofDigitChars_ten_toDigits

theorem value_cons (c : Char) (digits : List Char) :
    value (c :: digits) = 10 ^ digits.length * (c.toNat - '0'.toNat) + value digits := by
  rw [value, Nat.ofDigitChars_cons, Nat.ofDigitChars_eq_ofDigitChars_zero, Nat.mul_zero,
    Nat.zero_add]
  rfl

theorem value_append (u v : List Char) :
    value (u ++ v) = 10 ^ v.length * value u + value v := by
  rw [value, Nat.ofDigitChars_append, Nat.ofDigitChars_eq_ofDigitChars_zero]
  rfl

/-- Only decimal digits. -/
def IsDigits (digits : List Char) : Prop := ∀ c ∈ digits, c.isDigit = true

theorem isDigits_toDigits (n : ℕ) : IsDigits (Nat.toDigits 10 n) :=
  fun _ hc => Nat.isDigit_of_mem_toDigits (by decide) (le_refl 10) hc

theorem toNat_of_isDigit {c : Char} (hc : c.isDigit = true) : 48 ≤ c.toNat ∧ c.toNat ≤ 57 := by
  simp only [Char.isDigit, Bool.and_eq_true, decide_eq_true_eq] at hc
  exact ⟨hc.1, hc.2⟩

theorem value_lt {digits : List Char} (hdigits : IsDigits digits) :
    value digits < 10 ^ digits.length := by
  induction digits with
  | nil => decide
  | cons c digits ih =>
    have hc := toNat_of_isDigit (hdigits c List.mem_cons_self)
    have hrest := ih fun e he => hdigits e (List.mem_cons_of_mem c he)
    have hzero : '0'.toNat = 48 := rfl
    have hdigit : c.toNat - '0'.toNat ≤ 9 := by omega
    have hhead := Nat.mul_le_mul_left (10 ^ digits.length) hdigit
    rw [value_cons, List.length_cons, pow_succ]
    omega

/-- Texts of one length are ordered as their numbers. -/
theorem lt_iff_value_lt {u v : List Char} (hu : IsDigits u) (hv : IsDigits v)
    (hlength : u.length = v.length) : u < v ↔ value u < value v := by
  induction u generalizing v with
  | nil =>
    obtain rfl := List.length_eq_zero_iff.mp hlength.symm
    simp
  | cons c u ih =>
    cases v with
    | nil => simp at hlength
    | cons e v =>
      have hrest : u.length = v.length := by simpa using hlength
      have hu' : IsDigits u := fun x hx => hu x (List.mem_cons_of_mem c hx)
      have hv' : IsDigits v := fun x hx => hv x (List.mem_cons_of_mem e hx)
      have hc := toNat_of_isDigit (hu c List.mem_cons_self)
      have he := toNat_of_isDigit (hv e List.mem_cons_self)
      have hlu := value_lt hu'
      have hlv := value_lt hv'
      have hzero : '0'.toNat = 48 := rfl
      rw [List.cons_lt_cons_iff, ih hu' hv' hrest, value_cons, value_cons, hrest]
      rw [hrest] at hlu
      rcases lt_trichotomy c.toNat e.toNat with hce | hce | hce
      · have hstep : c.toNat - '0'.toNat + 1 ≤ e.toNat - '0'.toNat := by omega
        have hhead := Nat.mul_le_mul_left (10 ^ v.length) hstep
        rw [Nat.mul_add, Nat.mul_one] at hhead
        exact iff_of_true (.inl hce) (by omega)
      · obtain rfl := Char.toNat_inj.mp hce
        simp
      · have hstep : e.toNat - '0'.toNat + 1 ≤ c.toNat - '0'.toNat := by omega
        have hhead := Nat.mul_le_mul_left (10 ^ v.length) hstep
        rw [Nat.mul_add, Nat.mul_one] at hhead
        have hnot : ¬ c < e := fun h => absurd (Nat.lt_trans h hce) (Nat.lt_irrefl _)
        have hne : c ≠ e := fun h => absurd (h ▸ hce) (Nat.lt_irrefl _)
        exact iff_of_false (by simp [hnot, hne]) (by omega)

theorem eq_of_value_eq {u v : List Char} (hu : IsDigits u) (hv : IsDigits v)
    (hlength : u.length = v.length) (h : value u = value v) : u = v := by
  rcases lt_trichotomy u v with huv | huv | huv
  · exact absurd h ((lt_iff_value_lt hu hv hlength).mp huv).ne
  · exact huv
  · exact absurd h ((lt_iff_value_lt hv hu hlength.symm).mp huv).ne'

/-- Against a longer text the first digits decide, and a proper prefix comes first. -/
theorem lt_append_iff {u v rest : List Char} (hlength : u.length = v.length) :
    u < v ++ rest ↔ u < v ∨ u = v ∧ rest ≠ [] := by
  induction u generalizing v with
  | nil =>
    obtain rfl := List.length_eq_zero_iff.mp hlength.symm
    cases rest <;> simp
  | cons c u ih =>
    cases v with
    | nil => simp at hlength
    | cons e v =>
      rw [List.cons_append, List.cons_lt_cons_iff, List.cons_lt_cons_iff,
        ih (by simpa using hlength)]
      constructor
      · rintro (hce | ⟨rfl, huv | ⟨rfl, hrest⟩⟩)
        · exact .inl (.inl hce)
        · exact .inl (.inr ⟨rfl, huv⟩)
        · exact .inr ⟨rfl, hrest⟩
      · rintro ((hce | ⟨rfl, huv⟩) | ⟨heq, hrest⟩)
        · exact .inl hce
        · exact .inr ⟨rfl, .inl huv⟩
        · obtain ⟨rfl, rfl⟩ := List.cons.inj heq
          exact .inr ⟨rfl, .inr ⟨rfl, hrest⟩⟩

/-- The number of decimal digits. -/
def width (n : ℕ) : ℕ := (Nat.toDigits 10 n).length

theorem width_le_width {a b : ℕ} (h : a ≤ b) : width a ≤ width b := by
  have hpos : 0 < width b := Nat.length_toDigits_pos
  have hb : b < 10 ^ width b := (Nat.length_toDigits_le_iff (by decide) hpos).mp le_rfl
  exact (Nat.length_toDigits_le_iff (by decide) hpos).mpr (Nat.lt_of_le_of_lt h hb)

/-- The texts of two numbers keep the order of the numbers if and only if the smaller number
is at most the first digits of the other. -/
theorem toDigits_lt_iff {a b : ℕ} (h : a < b) :
    Nat.toDigits 10 a < Nat.toDigits 10 b ↔ a ≤ b / 10 ^ (width b - width a) := by
  have hwidth := width_le_width h.le
  generalize hfirst : (Nat.toDigits 10 b).take (width a) = first
  generalize hrest : (Nat.toDigits 10 b).drop (width a) = rest
  have hsplit : Nat.toDigits 10 b = first ++ rest := by
    rw [← hfirst, ← hrest, List.take_append_drop]
  have hlength : width a = first.length := by
    rw [← hfirst, List.length_take]
    exact (Nat.min_eq_left hwidth).symm
  have hrestLength : rest.length = width b - width a := by rw [← hrest, List.length_drop]; rfl
  have hdigits : IsDigits (first ++ rest) := hsplit ▸ isDigits_toDigits b
  have hdigitsFirst : IsDigits first := fun c hc => hdigits c (List.mem_append_left rest hc)
  have hlt := value_lt fun c hc => hdigits c (List.mem_append_right first hc)
  have hvalue : b = 10 ^ rest.length * value first + value rest := by
    rw [← value_append, ← hsplit, value_toDigits]
  have hdiv : b / 10 ^ (width b - width a) = value first := by
    rw [← hrestLength, hvalue, Nat.mul_add_div (Nat.pow_pos (by decide)), Nat.div_eq_of_lt hlt,
      Nat.add_zero]
  rw [hdiv, hsplit, lt_append_iff hlength, lt_iff_value_lt (isDigits_toDigits a) hdigitsFirst
    hlength, value_toDigits]
  constructor
  · rintro (hbelow | ⟨heq, -⟩)
    · exact hbelow.le
    · rw [← heq, value_toDigits]
  · intro hle
    rcases hle.lt_or_eq with hbelow | heq
    · exact .inl hbelow
    · have hsame : Nat.toDigits 10 a = first :=
        eq_of_value_eq (isDigits_toDigits a) hdigitsFirst hlength (by rw [value_toDigits, heq])
      have hne : rest ≠ [] := by
        rintro rfl
        rw [heq] at h
        simp [value] at hvalue h
        omega
      exact .inr ⟨hsame, hne⟩

end DatabaseMod.DecimalOrder
