import DatabaseMod.CoreDateParser

/-!
# Database values

The value classes of the core. A float is kept as the bits of the double of the same
value, a decimal as its text, and a date or time as its parts with the text that its
`getString` prints. The runtime's conversions between texts and numbers are parameters.
-/

namespace DatabaseMod.CoreValues
open MachineInteger
open CoreDateParser (DateFields)
open SqlTokens (Text)

def DBTYPE_STRING : ℕ := 1
def DBTYPE_INT : ℕ := 2
def DBTYPE_DOUBLE : ℕ := 3
def DBTYPE_FLOAT : ℕ := 4
def DBTYPE_LONG : ℕ := 5
def DBTYPE_DATE : ℕ := 6
def DBTYPE_BLOB : ℕ := 7
def DBTYPE_DATETIME : ℕ := 8
def DBTYPE_TIME : ℕ := 9
def DBTYPE_UINT : ℕ := 10
def DBTYPE_ULONG : ℕ := 11
def DBTYPE_DECIMAL : ℕ := 12
def DBTYPE_BYTE : ℕ := 13
def DBTYPE_SHORT : ℕ := 14
def DBTYPE_BOOL : ℕ := 15

inductive IntegerKind
  | byte | bool | short | int | uint | long | ulong
deriving DecidableEq, Repr

inductive TemporalKind
  | date | dateTime | time
deriving DecidableEq, Repr

inductive Content
  | string (value : Text)
  | integer (kind : IntegerKind) (value : ℤ)
  | float (bits : UInt64)
  | double (bits : UInt64)
  | decimal (value : Option Text)
  | blob (value : List UInt8)
  | temporal (kind : TemporalKind) (parts : DateFields) (text : Text)
deriving DecidableEq, Repr

structure TDBType where
  content : Content
  isNull : Bool
deriving DecidableEq, Repr

/-- Conversions of the runtime and of the decimal type. -/
structure Conversions where
  toInt : Text → ℤ
  toUInt : Text → ℤ
  toLong : Text → ℤ
  toULong : Text → ℤ
  toDouble : Text → UInt64
  toFloat : Text → UInt64
  doubleToFloat : UInt64 → UInt64
  decimalOfText : Text → Text
  decimalOfInt : ℤ → Text
  decimalToInt : Text → ℤ
  decimalToUInt : Text → ℤ
  decimalToLong : Text → ℤ
  decimalToULong : Text → ℤ

def NUL : Char := Char.ofNat 0

/-- A text as a C library reads it. -/
def cString (s : Text) : Text := s.takeWhile (· ≠ NUL)

theorem cString_eq_iff {s : Text} : cString s = s ↔ NUL ∉ s := by
  rw [cString, List.takeWhile_eq_self_iff]
  constructor
  · intro h hmem
    simpa using h NUL hmem
  · intro h c hc
    simp only [ne_eq, decide_eq_true_eq]
    rintro rfl
    exact h hc

def printInteger (value : ℤ) : Text :=
  if value < 0 then '-' :: Nat.toDigits 10 value.natAbs else Nat.toDigits 10 value.natAbs

def readInteger : Text → ℤ
  | '-' :: digits => -(Nat.ofDigitChars 10 digits 0 : ℕ)
  | digits => (Nat.ofDigitChars 10 digits 0 : ℕ)

theorem printInteger_of_nonneg {n : ℤ} (h : 0 ≤ n) : printInteger n = Nat.toDigits 10 n.toNat := by
  rw [printInteger, if_neg (by omega)]
  congr 1
  omega

theorem nul_not_mem_toDigits (n : ℕ) : NUL ∉ Nat.toDigits 10 n := by
  intro h
  have hdigit := Nat.isDigit_of_mem_toDigits (by decide) (le_refl 10) h
  exact absurd hdigit (by decide)

theorem readInteger_printInteger (n : ℤ) : readInteger (printInteger n) = n := by
  unfold printInteger
  split_ifs with h
  · rw [readInteger, Nat.ofDigitChars_ten_toDigits]
    omega
  · have hdigits : readInteger (Nat.toDigits 10 n.natAbs) =
        (Nat.ofDigitChars 10 (Nat.toDigits 10 n.natAbs) 0 : ℕ) := by
      unfold readInteger
      split
      next digits heq =>
        have hminus : '-' ∈ Nat.toDigits 10 n.natAbs := heq ▸ List.mem_cons_self
        have hdigit := Nat.isDigit_of_mem_toDigits (by decide) (le_refl 10) hminus
        exact absurd hdigit (by decide)
      next => rfl
    rw [hdigits, Nat.ofDigitChars_ten_toDigits]
    omega

/-- Conversions that read decimal integers and no fractions. -/
def Conversions.integers : Conversions where
  toInt := readInteger
  toUInt := readInteger
  toLong := readInteger
  toULong := readInteger
  toDouble _ := 0
  toFloat _ := 0
  doubleToFloat bits := bits
  decimalOfText text := text
  decimalOfInt := printInteger
  decimalToInt := readInteger
  decimalToUInt := readInteger
  decimalToLong := readInteger
  decimalToULong := readInteger

namespace TDBType

/-! ### Constructors -/

def setString (value : Text) : TDBType := ⟨.string value, false⟩
def setInt (value : ℤ) : TDBType := ⟨.integer .int value, false⟩
def setLong (value : ℤ) : TDBType := ⟨.integer .long value, false⟩
def setFloat (bits : UInt64) : TDBType := ⟨.float bits, false⟩
def setDouble (bits : UInt64) : TDBType := ⟨.double bits, false⟩
def setBlob (value : List UInt8) : TDBType := ⟨.blob value, false⟩

def kind (v : TDBType) : ℕ :=
  match v.content with
  | .string _ => DBTYPE_STRING
  | .integer .byte _ => DBTYPE_BYTE
  | .integer .bool _ => DBTYPE_BOOL
  | .integer .short _ => DBTYPE_SHORT
  | .integer .int _ => DBTYPE_INT
  | .integer .uint _ => DBTYPE_UINT
  | .integer .long _ => DBTYPE_LONG
  | .integer .ulong _ => DBTYPE_ULONG
  | .float _ => DBTYPE_FLOAT
  | .double _ => DBTYPE_DOUBLE
  | .decimal _ => DBTYPE_DECIMAL
  | .blob _ => DBTYPE_BLOB
  | .temporal .date _ _ => DBTYPE_DATE
  | .temporal .dateTime _ _ => DBTYPE_DATETIME
  | .temporal .time _ _ => DBTYPE_TIME

/-- A blob without data has no block to free and is left as it is. A time is set to
midnight, a date keeps its parts. -/
def clear (v : TDBType) : TDBType :=
  match v.content with
  | .string _ => ⟨.string [], true⟩
  | .integer kind _ => ⟨.integer kind 0, true⟩
  | .float _ => ⟨.float 0, true⟩
  | .double _ => ⟨.double 0, true⟩
  | .decimal _ => ⟨.decimal none, true⟩
  | .blob [] => v
  | .blob (_ :: _) => ⟨.blob [], true⟩
  | .temporal .date parts text => ⟨.temporal .date parts text, true⟩
  | .temporal .dateTime parts text => ⟨.temporal .dateTime { parts with micros := 0 } text, true⟩
  | .temporal .time _ _ => ⟨.temporal .time .zero "00:00:00".toList, true⟩

/-! ### Getters -/

variable (conv : Conversions) (v : TDBType)

def getString : Text :=
  match v.content with
  | .string value => value
  | .temporal _ _ text => text
  | _ => []

/-- The shared shape of the integer getters: the class of the value, and the conversions
of texts and decimals to the wanted type. -/
def getInteger (cast : ℤ → ℤ) (ofText ofDecimal : Text → ℤ) : ℤ :=
  match v.content with
  | .integer _ value => cast value
  | .string value => ofText value
  | .decimal value => ofDecimal (value.getD [])
  | _ => 0

def getByte : ℤ :=
  getInteger v (castUnsigned 8) (fun s => castUnsigned 8 (conv.toInt s))
    (fun s => castUnsigned 8 (conv.decimalToInt s))

def getShort : ℤ :=
  getInteger v (castUnsigned 16) (fun s => castUnsigned 16 (conv.toInt s))
    (fun s => castUnsigned 16 (conv.decimalToInt s))

def getInt : ℤ := getInteger v castInt32 conv.toInt conv.decimalToInt

def getUInt : ℤ := getInteger v (castUnsigned 32) conv.toUInt conv.decimalToUInt

def getLong : ℤ := getInteger v castInt64 conv.toLong conv.decimalToLong

def getULong : ℤ := getInteger v (castUnsigned 64) conv.toULong conv.decimalToULong

def getDouble : UInt64 :=
  match v.content with
  | .double bits => bits
  | .float bits => bits
  | .string value => conv.toDouble value
  | _ => 0

def getFloat : UInt64 :=
  match v.content with
  | .float bits => bits
  | .double bits => conv.doubleToFloat bits
  | .string value => conv.toFloat value
  | _ => 0

def getDecimal : Option Text :=
  match v.content with
  | .decimal value => value
  | .string value => some (conv.decimalOfText value)
  | .integer _ value => some (conv.decimalOfInt value)
  | _ => some (conv.decimalOfInt 0)

def getBlob : List UInt8 :=
  match v.content with
  | .blob value => value
  | _ => []

end TDBType

end DatabaseMod.CoreValues
