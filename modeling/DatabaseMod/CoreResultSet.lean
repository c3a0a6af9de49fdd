import DatabaseMod.CoreValues

/-!
# Result sets of the core

The part of a result set that every driver shares: the bindings of a statement, the values
of the current row and the record that describes the columns. Value objects stand for
their contents; a bound object is a fresh one, as every `add` method makes it.
-/

namespace DatabaseMod.CoreResultSet
open SqlTokens (Text)
open CoreValues

def SQL_BeforeFirstRow : ℤ := -1
def SQL_AfterLastRow : ℤ := -2

structure TQueryField where
  name : Text
  fType : ℕ
deriving DecidableEq, Repr

structure TQueryRecord where
  fields : List TQueryField
  isEmpty : Bool
  isEmptySet : Bool
deriving DecidableEq, Repr

def TQueryRecord.create : TQueryRecord := ⟨[], true, false⟩

def TQueryRecord.clear (_ : TQueryRecord) : TQueryRecord := ⟨[], true, true⟩

def TQueryRecord.count (r : TQueryRecord) : ℕ := r.fields.length

structure TQueryResultSet where
  query : Text
  isActive : Bool
  /-- The source's index is a 32-bit one; it comes round to `SQL_AfterLastRow` after 2^32 - 1
  rows, and fewer are meant here. -/
  index : ℤ
  values : List (Option TDBType)
  bindCount : ℕ
  boundValues : List (Option TDBType)
  record : TQueryRecord
deriving DecidableEq, Repr

/-- A result set as a connection creates it. -/
def TQueryResultSet.create : TQueryResultSet :=
  ⟨[], false, SQL_BeforeFirstRow, [], 0, [], .create⟩

namespace TQueryResultSet

variable (rs : TQueryResultSet)

/-- An absent array is an empty one; `bindCount` is kept with it. -/
def clearBindValues : TQueryResultSet :=
  { rs with
    boundValues := rs.boundValues.map (Option.map TDBType.clear)
    bindCount := if rs.boundValues = [] then rs.bindCount else 0
    values := rs.values.map (Option.map TDBType.clear) }

/-- The array grows to hold the position; its new slots are empty. -/
def bindValue (index : ℕ) (value : Option TDBType) : TQueryResultSet :=
  let grown := rs.boundValues ++ List.replicate (index + 1 - rs.boundValues.length) none
  let bindCount := if index > rs.bindCount then index else rs.bindCount
  let bindCount := if index = bindCount then bindCount + 1 else bindCount
  { rs with boundValues := grown.set index value, bindCount := bindCount }

def addBindValue (value : Option TDBType) : TQueryResultSet := rs.bindValue rs.bindCount value

def addString (value : Text) : TQueryResultSet := rs.addBindValue (some (.setString value))
def addInt (value : ℤ) : TQueryResultSet := rs.addBindValue (some (.setInt value))
def addLong (value : ℤ) : TQueryResultSet := rs.addBindValue (some (.setLong value))
def addFloat (bits : UInt64) : TQueryResultSet := rs.addBindValue (some (.setFloat bits))
def addDouble (bits : UInt64) : TQueryResultSet := rs.addBindValue (some (.setDouble bits))
def addNull : TQueryResultSet := rs.addBindValue none

def resetValues (size : ℕ) : TQueryResultSet := { rs with values := List.replicate size none }

def dataValue (index : ℤ) : Option TDBType :=
  if rs.isActive ∧ ¬ rs.record.isEmpty then
    if index ≥ 0 ∧ index < rs.record.count then (rs.values[index.toNat]?).join else none
  else none

/-- `TDatabaseQuery.value`. -/
def value (index : ℤ) : Option TDBType :=
  if rs.isActive ∧ index > SQL_BeforeFirstRow then rs.dataValue index else none

/-- What the query shows of a column of an active result set. -/
theorem value_eq_slot {rs : TQueryResultSet} (hactive : rs.isActive = true)
    (hrecorded : rs.record.isEmpty = false) {i : ℕ} (hi : i < rs.record.count) :
    rs.value i = (rs.values[i]?).join := by
  have hdata : rs.value i = rs.dataValue i :=
    if_pos ⟨hactive, (by decide : SQL_BeforeFirstRow < 0).trans_le (Int.natCast_nonneg i)⟩
  rw [hdata, dataValue, if_pos ⟨hactive, by simp [hrecorded]⟩,
    if_pos ⟨Int.natCast_nonneg i, by exact_mod_cast hi⟩, Int.toNat_natCast]

/-! ### Adding values at the end -/

/-- The bindings hold exactly the values added since the array was created. -/
structure Bound (vs : List (Option TDBType)) : Prop where
  boundValues_eq : rs.boundValues = vs
  bindCount_eq : rs.bindCount = vs.length

theorem bound_create : Bound create [] := ⟨rfl, rfl⟩

variable {rs}

theorem Bound.addBindValue {vs : List (Option TDBType)} (h : rs.Bound vs)
    (value : Option TDBType) : (rs.addBindValue value).Bound (vs ++ [value]) := by
  refine ⟨?_, ?_⟩
  · simp [TQueryResultSet.addBindValue, bindValue, h.boundValues_eq, h.bindCount_eq]
  · simp [TQueryResultSet.addBindValue, bindValue, h.bindCount_eq]

end TQueryResultSet

end DatabaseMod.CoreResultSet
