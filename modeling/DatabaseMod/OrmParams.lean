import DatabaseMod.CoreBindings
import DatabaseMod.OrmBinding
import DatabaseMod.PostgresValues

/-!
# The parameters of a condition

`TOrmParams` collects the values for the placeholders of a condition; `BindTo` adds each of
them to a query through the dialect. The dialects have no case for dates, times and blobs
and take the text of the object itself.
-/

namespace DatabaseMod.OrmParams
open MachineInteger CoreStrptime CoreFormat CoreTemporal
open CoreDateParser (DateFields)
open CoreDateTypes (TDBDateTime)
open SqlTokens (Text)
open CoreValues CoreResultSet
open PostgresDriver (dateValue dateTimeValue timeValue)
open PostgresValues (IsDate)
open OrmStatements OrmBinding OrmBinding.TOrmDialect

/-- What the runtime does with objects. An object without a `ToString` of its own prints its
address. A loop over a collection may pass over elements that are Null, or enter its body. -/
structure Objects where
  toString : TDBType → Text
  address : ∀ v, '-' ∉ toString v ∧ ':' ∉ toString v
  entersNull : Bool

/-! ### Parameters -/

def InRange : IntegerKind → ℤ → Prop
  | .byte, n => 0 ≤ n ∧ n < 2 ^ 8
  | .short, n => 0 ≤ n ∧ n < 2 ^ 16
  | .uint, n => 0 ≤ n ∧ n < 2 ^ 32
  | .ulong, n => 0 ≤ n ∧ n < 2 ^ 64
  | .bool, n | .int, n => InInt32 n
  | .long, n => InInt64 n

/-- The objects that the value classes make. -/
inductive IsValue (c : Strftime) : TDBType → Prop
  | null {v : TDBType} (h : v.isNull = true) : IsValue c v
  | integer {kind : IntegerKind} {n : ℤ} (h : InRange kind n) :
    IsValue c ⟨.integer kind n, false⟩
  | string (value : Text) : IsValue c (.setString value)
  | float (bits : UInt64) : IsValue c (.setFloat bits)
  | double (bits : UInt64) : IsValue c (.setDouble bits)
  | decimal (value : Option Text) : IsValue c ⟨.decimal value, false⟩
  | blob (value : List UInt8) : IsValue c (.setBlob value)
  | date {t : TDBDate} {v : TDBType} (hdate : IsDate t.year t.month t.day)
    (h : dateValue c t = some v) : IsValue c v
  | dateTime {t : TDBDateTime} {v : TDBType} (hdate : IsDate t.year t.month t.day)
    (htime : dbIsValidTime t.hour t.minute t.second = true) (h : dateTimeValue c t = some v) :
    IsValue c v
  | time {t : TDBTime} {v : TDBType} (htime : dbIsValidTime t.hour t.minute t.second = true)
    (h : timeValue c t = some v) : IsValue c v

/-- The calls that add a parameter; an overload of `Add` is the method of its type. -/
inductive AddCall (c : Strftime)
  | add (value : Option TDBType) (h : ∀ v ∈ value, IsValue c v)
  | addNull
  | addString (value : Text)
  | addByte (value : UInt8)
  | addShort (value : UInt16)
  | addInt (value : Int32)
  | addUInt (value : UInt32)
  | addLong (value : Int64)
  | addULong (value : UInt64)
  | addFloat (bits : UInt64)
  | addDouble (bits : UInt64)
  | addDecimal (value : Option Text)
  | addBool (value : Int32)

/-- `TDBDecimal.Set`, whose decimal is zero at first. -/
def setDecimal : Option Text → TDBType
  | some text => ⟨.decimal (some text), false⟩
  | none => ⟨.decimal (some ['0']), true⟩

def AddCall.value {c : Strftime} : AddCall c → Option TDBType
  | .add value _ => value
  | .addNull => none
  | .addString value => some (.setString value)
  | .addByte value => some ⟨.integer .byte value.toNat, false⟩
  | .addShort value => some ⟨.integer .short value.toNat, false⟩
  | .addInt value => some (.setInt value.toInt)
  | .addUInt value => some ⟨.integer .uint value.toNat, false⟩
  | .addLong value => some (.setLong value.toInt)
  | .addULong value => some ⟨.integer .ulong value.toNat, false⟩
  | .addFloat bits => some (.setFloat bits)
  | .addDouble bits => some (.setDouble bits)
  | .addDecimal value => some (setDecimal value)
  | .addBool value => some ⟨.integer .bool value.toInt, false⟩

structure TOrmParams where
  values : List (Option TDBType)

namespace TOrmParams

def new : TOrmParams := ⟨[]⟩

def add (params : TOrmParams) (value : Option TDBType) : TOrmParams := ⟨params.values ++ [value]⟩

/-- The parameters that a sequence of calls adds. -/
def build {c : Strftime} (calls : List (AddCall c)) : TOrmParams :=
  calls.foldl (fun params call => params.add call.value) new

end TOrmParams

/-! ### Binding -/

section

variable (o : Objects) (conv : Conversions) (d : TOrmDialect)

/-- `AddBindValue` of both dialects; Null has no method to call. -/
def addBindValue (query : TQueryResultSet) (value : Option TDBType) : Option TQueryResultSet :=
  value.map fun v =>
    if v.isNull then query.addNull
    else if v.kind = DBTYPE_BOOL then addBool d query (v.getInt conv)
    else if v.kind = DBTYPE_BYTE then addByte d query (v.getByte conv)
    else if v.kind = DBTYPE_SHORT then addShort d query (v.getShort conv)
    else if v.kind = DBTYPE_INT then query.addInt (v.getInt conv)
    else if v.kind = DBTYPE_LONG then query.addLong (v.getLong conv)
    else if v.kind = DBTYPE_UINT then addUInt d query (v.getUInt conv)
    else if v.kind = DBTYPE_ULONG then addULong d query (v.getULong conv)
    else if v.kind = DBTYPE_FLOAT then query.addFloat (v.getFloat conv)
    else if v.kind = DBTYPE_DOUBLE then query.addDouble (v.getDouble conv)
    else if v.kind = DBTYPE_DECIMAL then addDecimal d query (v.getDecimal conv)
    else if v.kind = DBTYPE_STRING then query.addString v.getString
    else query.addString (o.toString v)

/-- A query without a result set drops what is added to it. -/
def addToQuery (query : Option TQueryResultSet) (value : Option TDBType) :
    Option (Option TQueryResultSet) :=
  match query with
  | none => value.map fun _ => none
  | some rs => (addBindValue o conv d rs value).map some

/-- The body of the loop of `BindTo`. -/
def bindNext (query : Option TQueryResultSet) (value : Option TDBType) :
    Option (Option TQueryResultSet) :=
  if value = none ∧ ¬ o.entersNull then some query else addToQuery o conv d query value

/-- `BindTo` on the result set of a query; `none` where a method of Null is called. -/
def bindTo (params : TOrmParams) (query : Option TQueryResultSet) :
    Option (Option TQueryResultSet) :=
  params.values.foldlM (bindNext o conv d) query

end

/-! ### What a value denotes -/

inductive Meaning
  | null
  | truth (value : Bool)
  | number (n : ℤ)
  | real (bits : UInt64)
  | text (t : Text)
  | bytes (data : List UInt8)
deriving DecidableEq, Repr

def meaning : Option TDBType → Meaning
  | none => .null
  | some v =>
    if v.isNull then .null
    else match v.content with
      | .integer .bool n => .truth (n ≠ 0)
      | .integer _ n => .number n
      | .float bits | .double bits => .real bits
      | .decimal none => .null
      | .decimal (some t) => .text t
      | .string t => .text t
      | .blob data => .bytes data
      | .temporal _ _ t => .text t

/-- A number is its decimal digits too, and a truth value is a number or zero. -/
def Denotes (bound : Option TDBType) : Meaning → Prop
  | .number n => meaning bound = .number n ∨ meaning bound = .text (printInteger n)
  | .truth b => ∃ n, meaning bound = .number n ∧ b = decide (n ≠ 0)
  | m => meaning bound = m

def bindCount (query : Option TQueryResultSet) : ℕ := query.elim 0 (·.bindCount)

def boundValue (query : Option TQueryResultSet) (i : ℕ) : Option TDBType :=
  query.bind fun rs => rs.boundValues.getD i none

/-- The parameters are added behind the values that were bound before, each as it is. -/
structure BoundUnchanged {c : Strftime} (calls : List (AddCall c))
    (query query' : Option TQueryResultSet) : Prop where
  count : bindCount query' = bindCount query + calls.length
  kept : ∀ i < bindCount query, boundValue query' i = boundValue query i
  denotes : ∀ i (hi : i < calls.length),
    Denotes (boundValue query' (bindCount query + i)) (meaning calls[i].value)

/-- The kinds that the dialects have no case for. -/
def otherKinds : List ℕ := [DBTYPE_BLOB, DBTYPE_DATE, DBTYPE_DATETIME, DBTYPE_TIME]

def Accepted : Option TDBType → Prop
  | none => False
  | some v => v.isNull = true ∨ v.kind ∉ otherKinds

/-! ### Values added to a result set -/

section

variable {rs : TQueryResultSet}

theorem addBindValue_bindCount (value : Option TDBType) :
    (rs.addBindValue value).bindCount = rs.bindCount + 1 := by
  simp [TQueryResultSet.addBindValue, TQueryResultSet.bindValue]

theorem addBindValue_getD (value : Option TDBType) (i : ℕ) :
    (rs.addBindValue value).boundValues.getD i none =
      if i = rs.bindCount then value else rs.boundValues.getD i none :=
  CoreBindings.getD_grown rs.boundValues rs.bindCount i value

theorem added_bindCount (ws : List (Option TDBType)) :
    (ws.foldl TQueryResultSet.addBindValue rs).bindCount = rs.bindCount + ws.length := by
  induction ws generalizing rs with
  | nil => rfl
  | cons w ws ih =>
    rw [List.foldl_cons, ih, addBindValue_bindCount, List.length_cons]
    omega

theorem added_kept (ws : List (Option TDBType)) {i : ℕ} (hi : i < rs.bindCount) :
    (ws.foldl TQueryResultSet.addBindValue rs).boundValues.getD i none =
      rs.boundValues.getD i none := by
  induction ws generalizing rs with
  | nil => rfl
  | cons w ws ih =>
    rw [List.foldl_cons, ih (by rw [addBindValue_bindCount]; omega), addBindValue_getD,
      if_neg (by omega)]

theorem added_getD {ws : List (Option TDBType)} {i : ℕ} (hi : i < ws.length) :
    (ws.foldl TQueryResultSet.addBindValue rs).boundValues.getD (rs.bindCount + i) none = ws[i] := by
  induction ws generalizing rs i with
  | nil => cases hi
  | cons w ws ih =>
    rw [List.foldl_cons]
    cases i with
    | zero =>
      rw [added_kept ws (by rw [addBindValue_bindCount]; omega), addBindValue_getD]
      exact if_pos rfl
    | succ i =>
      have hnext := @ih (rs.addBindValue w) i (by simpa using hi)
      rw [addBindValue_bindCount] at hnext
      rw [show rs.bindCount + (i + 1) = rs.bindCount + 1 + i by omega, hnext]
      rfl

end

/-! ### One parameter -/

theorem dash_mem_dateText (ys : Text) (m d : ℤ) (rest : Text) : '-' ∈ dateText ys m d rest := by
  simp [dateText]

theorem colon_mem_timeText (hh mm ss : ℤ) (rest : Text) : ':' ∈ timeText hh mm ss rest := by
  simp [timeText]

section

variable (o : Objects) (conv : Conversions) (d : TOrmDialect) {c : Strftime}

/-- What the dialects add for a value. -/
def Encodes (v : TDBType) (w : Option TDBType) : Prop :=
  ∀ query, addBindValue o conv d query (some v) = some (query.addBindValue w)

/-- A value is encoded as one that denotes the same if it is accepted, and only then. -/
structure Encoding (v : TDBType) (w : Option TDBType) : Prop where
  encodes : Encodes o conv d v w
  denotes_iff : Denotes w (meaning (some v)) ↔ Accepted (some v)

theorem encoding_null {v : TDBType} (h : v.isNull = true) : Encoding o conv d v none := by
  refine ⟨fun query => congrArg some (if_pos h), iff_of_true ?_ (.inl h)⟩
  rw [meaning, if_pos h]
  rfl

theorem encoding_accepted {v : TDBType} {w : Option TDBType} (k : ℕ) (hkind : v.kind = k)
    (hother : k ∉ otherKinds) (hencodes : Encodes o conv d v w)
    (hdenotes : Denotes w (meaning (some v))) : Encoding o conv d v w :=
  ⟨hencodes, iff_of_true hdenotes (.inr (hkind ▸ hother))⟩

theorem encoding_bool {n : ℤ} (h : InInt32 n) :
    ∃ w, Encoding o conv d ⟨.integer .bool n, false⟩ w := by
  have hvalue := castInt32_of_mem h
  cases d with
  | sqlite =>
    refine ⟨some (.setInt n), encoding_accepted o conv .sqlite DBTYPE_BOOL rfl (by decide)
      (fun query => ?_) ⟨n, rfl, rfl⟩⟩
    exact congrArg (fun x => some (query.addInt x)) hvalue
  | postgres =>
    refine ⟨some (.setInt (if n ≠ 0 then 1 else 0)), encoding_accepted o conv .postgres DBTYPE_BOOL
      rfl (by decide) (fun query => ?_) ⟨_, rfl, ?_⟩⟩
    · change some (addBool .postgres query (castInt32 n)) = _
      rw [hvalue, addBool]
      split_ifs <;> rfl
    · split_ifs with hn <;> simp [hn]

theorem encoding_integer {kind : IntegerKind} {n : ℤ} (h : InRange kind n) :
    ∃ w, Encoding o conv d ⟨.integer kind n, false⟩ w := by
  cases kind with
  | bool => exact encoding_bool o conv d h
  | byte =>
    refine ⟨some (.setInt n), encoding_accepted o conv d DBTYPE_BYTE rfl (by decide)
      (fun query => ?_) (.inl rfl)⟩
    exact congrArg (fun x => some (query.addInt x)) (castUnsigned_of_mem h)
  | short =>
    refine ⟨some (.setInt n), encoding_accepted o conv d DBTYPE_SHORT rfl (by decide)
      (fun query => ?_) (.inl rfl)⟩
    exact congrArg (fun x => some (query.addInt x)) (castUnsigned_of_mem h)
  | int =>
    refine ⟨some (.setInt n), encoding_accepted o conv d DBTYPE_INT rfl (by decide)
      (fun query => ?_) (.inl rfl)⟩
    exact congrArg (fun x => some (query.addInt x)) (castInt32_of_mem h)
  | long =>
    refine ⟨some (.setLong n), encoding_accepted o conv d DBTYPE_LONG rfl (by decide)
      (fun query => ?_) (.inl rfl)⟩
    exact congrArg (fun x => some (query.addLong x)) (castInt64_of_mem h)
  | uint =>
    have hlong : castInt64 (castUnsigned 32 n) = n := by
      rw [castUnsigned_of_mem h]
      exact castInt64_of_mem ⟨by have := h.1; omega, by have := h.2; omega⟩
    refine ⟨some (.setLong n), encoding_accepted o conv d DBTYPE_UINT rfl (by decide)
      (fun query => ?_) (.inl rfl)⟩
    exact congrArg (fun x => some (query.addLong x)) hlong
  | ulong =>
    have hdigits : Nat.toDigits 10 (castUnsigned 64 n).toNat = printInteger n := by
      rw [castUnsigned_of_mem h, printInteger_of_nonneg h.1]
    refine ⟨some (.setString (printInteger n)), encoding_accepted o conv d DBTYPE_ULONG rfl
      (by decide) (fun query => ?_) (.inr rfl)⟩
    exact congrArg (fun text => some (query.addString text)) hdigits

/-- A value whose kind has no case of its own is encoded by the text of the object. -/
theorem encoding_object {v : TDBType} (hnull : v.isNull = false)
    (hkind : v.kind ∈ otherKinds)
    (hmeaning : ¬ Denotes (some (.setString (o.toString v))) (meaning (some v))) :
    Encoding o conv d v (some (.setString (o.toString v))) := by
  refine ⟨fun query => ?_, iff_of_false hmeaning ?_⟩
  · simp only [addBindValue, Option.map_some, hnull]
    simp only [otherKinds, List.mem_cons, List.not_mem_nil, or_false] at hkind
    rcases hkind with h | h | h | h <;> rw [h] <;> rfl
  · rintro (h | h)
    · rw [hnull] at h
      cases h
    · exact h hkind

/-- The address of an object is not the text of a date or a time. -/
theorem encoding_temporal {kind : TemporalKind} {parts : DateFields} {text : Text} {isNull : Bool}
    (htext : '-' ∈ text ∨ ':' ∈ text) :
    ∃ w, Encoding o conv d ⟨.temporal kind parts text, isNull⟩ w := by
  cases isNull with
  | true => exact ⟨none, encoding_null o conv d rfl⟩
  | false =>
    refine ⟨_, encoding_object o conv d rfl (by cases kind <;> simp [TDBType.kind, otherKinds])
      fun hdenotes => ?_⟩
    have haddress := o.address ⟨.temporal kind parts text, false⟩
    obtain hsame : o.toString ⟨.temporal kind parts text, false⟩ = text := by
      exact Meaning.text.inj hdenotes
    rw [hsame] at haddress
    rcases htext with h | h
    · exact haddress.1 h
    · exact haddress.2 h

theorem encoding_of_isValue {v : TDBType} (h : IsValue c v) : ∃ w, Encoding o conv d v w := by
  cases h with
  | null h => exact ⟨none, encoding_null o conv d h⟩
  | integer h => exact encoding_integer o conv d h
  | string value =>
    exact ⟨_, encoding_accepted o conv d DBTYPE_STRING rfl (by decide) (fun query => rfl) rfl⟩
  | float bits =>
    exact ⟨_, encoding_accepted o conv d DBTYPE_FLOAT rfl (by decide) (fun query => rfl) rfl⟩
  | double bits =>
    exact ⟨_, encoding_accepted o conv d DBTYPE_DOUBLE rfl (by decide) (fun query => rfl) rfl⟩
  | decimal value =>
    cases value with
    | none =>
      exact ⟨none, encoding_accepted o conv d DBTYPE_DECIMAL rfl (by decide) (fun query => rfl) rfl⟩
    | some text =>
      exact ⟨some (.setString text),
        encoding_accepted o conv d DBTYPE_DECIMAL rfl (by decide) (fun query => rfl) rfl⟩
  | blob value =>
    exact ⟨_, encoding_object o conv d rfl List.mem_cons_self fun hdenotes => Meaning.noConfusion hdenotes⟩
  | date hdate h =>
    obtain ⟨text, hformat, rfl⟩ := Option.map_eq_some_iff.mp h
    have hprinted := formatDate_date c (hdate.printable hformat) 0
    obtain rfl := Option.some.inj (hprinted.symm.trans hformat)
    exact encoding_temporal o conv d (.inl (dash_mem_dateText _ _ _ _))
  | @dateTime t _ hdate htime h =>
    obtain ⟨text, hformat, rfl⟩ := Option.map_eq_some_iff.mp h
    have hprinted := formatDate_dateTime c (constant_nil _) (hdate.printable hformat) htime
      (PostgresValues.dateTimeFormat_spliced t.microsecond)
    obtain rfl := Option.some.inj (hprinted.symm.trans hformat)
    exact encoding_temporal o conv d (.inl (dash_mem_dateText _ _ _ _))
  | @time t _ htime h =>
    obtain ⟨text, hformat, rfl⟩ := Option.map_eq_some_iff.mp h
    have hprinted := formatDate_time c (constant_nil _) htime
      (PostgresValues.timeFormat_spliced t.microsecond)
    obtain rfl := Option.some.inj (hprinted.symm.trans hformat)
    exact encoding_temporal o conv d (.inr (colon_mem_timeText _ _ _ _))

/-! ### All parameters -/

theorem isValue_of_call (call : AddCall c) : ∀ v ∈ call.value, IsValue c v := by
  intro v hv
  cases call with
  | add value h => exact h v hv
  | addNull => cases hv
  | addString value =>
    cases hv
    exact .string value
  | addByte value =>
    cases hv
    exact .integer ⟨by omega, by have := value.toNat_lt; omega⟩
  | addShort value =>
    cases hv
    exact .integer ⟨by omega, by have := value.toNat_lt; omega⟩
  | addInt value =>
    cases hv
    exact .integer ⟨value.le_toInt, by have := value.toInt_lt; omega⟩
  | addUInt value =>
    cases hv
    exact .integer ⟨by omega, by have := value.toNat_lt; omega⟩
  | addLong value =>
    cases hv
    exact .integer ⟨value.le_toInt, by have := value.toInt_lt; omega⟩
  | addULong value =>
    cases hv
    exact .integer ⟨by omega, by have := value.toNat_lt; omega⟩
  | addFloat bits =>
    cases hv
    exact .float bits
  | addDouble bits =>
    cases hv
    exact .double bits
  | addDecimal value =>
    cases hv
    cases value with
    | none => exact .null rfl
    | some text => exact .decimal (some text)
  | addBool value =>
    cases hv
    exact .integer ⟨value.le_toInt, by have := value.toInt_lt; omega⟩

theorem build_values (calls : List (AddCall c)) :
    (TOrmParams.build calls).values = calls.map AddCall.value := by
  have hfold (params : TOrmParams) : (calls.foldl (fun params call => params.add call.value)
      params).values = params.values ++ calls.map AddCall.value := by
    induction calls generalizing params with
    | nil => simp
    | cons call calls ih =>
      rw [List.foldl_cons, ih]
      simp [TOrmParams.add]
  exact hfold .new

/-- The loop on a query with a result set: it adds a value for each parameter that is not
Null, and reaches the end if there is no other. -/
theorem bindTo_added {values : List (Option TDBType)}
    (hvalues : ∀ v, some v ∈ values → IsValue c v) (rs : TQueryResultSet) :
    (none ∉ values → ∃ query, values.foldlM (bindNext o conv d) (some rs) = some query) ∧
    ∀ query, values.foldlM (bindNext o conv d) (some rs) = some query →
      ∃ ws, query = some (ws.foldl TQueryResultSet.addBindValue rs) ∧
        List.Forall₂ (fun value w => Denotes w (meaning value) ↔ Accepted value)
          (values.filter Option.isSome) ws := by
  induction values generalizing rs with
  | nil => exact ⟨fun _ => ⟨_, rfl⟩, fun query hquery => ⟨[], by cases hquery; rfl, .nil⟩⟩
  | cons value values ih =>
    have hrest : ∀ v, some v ∈ values → IsValue c v :=
      fun v hv => hvalues v (List.mem_cons_of_mem value hv)
    rw [List.foldlM_cons]
    cases value with
    | none =>
      refine ⟨fun hnone => absurd List.mem_cons_self hnone, fun query hquery => ?_⟩
      obtain ⟨next, hnext, hquery⟩ := Option.bind_eq_some_iff.mp hquery
      -- the loop only goes on where it passes over Null
      unfold bindNext at hnext
      split_ifs at hnext
      · cases hnext
        exact (ih hrest rs).2 query hquery
      · cases hnext
    | some v =>
      obtain ⟨w, hencodes, hiff⟩ :=
        encoding_of_isValue o conv d (hvalues v List.mem_cons_self)
      have hnext : bindNext o conv d (some rs) (some v) = some (some (rs.addBindValue w)) := by
        rw [bindNext, if_neg (by simp), addToQuery, hencodes rs]
        rfl
      rw [hnext, Option.bind_eq_bind, Option.bind_some]
      obtain ⟨hcompletes, hadded⟩ := ih hrest (rs.addBindValue w)
      refine ⟨fun hnone => hcompletes fun h => hnone (List.mem_cons_of_mem _ h), ?_⟩
      intro query hquery
      obtain ⟨ws, rfl, hws⟩ := hadded query hquery
      exact ⟨w :: ws, rfl, .cons hiff hws⟩

/-- Without a result set nothing is added. -/
theorem bindTo_dropped {values : List (Option TDBType)} {query : Option TQueryResultSet}
    (h : values.foldlM (bindNext o conv d) none = some query) : query = none := by
  induction values with
  | nil =>
    cases h
    rfl
  | cons value values ih =>
    rw [List.foldlM_cons] at h
    obtain ⟨next, hnext, h⟩ := Option.bind_eq_some_iff.mp h
    obtain rfl : next = none := by
      unfold bindNext at hnext
      split_ifs at hnext
      · cases hnext
        rfl
      · obtain ⟨v, -, hnext⟩ := Option.map_eq_some_iff.mp hnext
        exact hnext.symm
    exact ih h

/-- The parameters reach a query unchanged if and only if it has a result set and each of
them is a value that the dialects have a case for. -/
theorem bindTo_unchanged_iff (calls : List (AddCall c)) (query : Option TQueryResultSet) :
    (∃ query', bindTo o conv d (.build calls) query = some query' ∧
      BoundUnchanged calls query query') ↔
    (calls ≠ [] → query.isSome) ∧ ∀ call ∈ calls, Accepted call.value := by
  have hvalues : ∀ v, some v ∈ calls.map AddCall.value → IsValue c v := by
    intro v hv
    obtain ⟨call, -, hcall⟩ := List.mem_map.mp hv
    exact isValue_of_call call v hcall
  unfold bindTo
  rw [build_values]
  cases query with
  | none =>
    constructor
    · rintro ⟨query', hrun, hunchanged⟩
      obtain rfl := bindTo_dropped o conv d hrun
      have hcount : 0 = 0 + calls.length := hunchanged.count
      obtain rfl := List.length_eq_zero_iff.mp (by omega : calls.length = 0)
      exact ⟨fun h => absurd rfl h, by simp⟩
    · rintro ⟨hsome, -⟩
      obtain rfl : calls = [] := by
        by_contra hne
        cases hsome hne
      exact ⟨none, rfl, rfl, fun _ _ => rfl, fun i hi => absurd hi (Nat.not_lt_zero i)⟩
  | some rs =>
    obtain ⟨hcompletes, hadded⟩ := bindTo_added o conv d hvalues rs
    constructor
    · rintro ⟨query', hrun, hunchanged⟩
      refine ⟨fun _ => rfl, fun call hcall => ?_⟩
      obtain ⟨ws, rfl, hws⟩ := hadded query' hrun
      -- as many values as parameters: none of these was passed over
      have hcount := hunchanged.count
      simp only [bindCount, Option.elim_some, added_bindCount, ← hws.length_eq] at hcount
      have hall : (calls.map AddCall.value).filter Option.isSome = calls.map AddCall.value := by
        refine List.filter_eq_self.mpr (List.length_filter_eq_length_iff.mp ?_)
        rw [List.length_map]
        omega
      rw [hall] at hws
      obtain ⟨i, hi, rfl⟩ := List.getElem_of_mem hcall
      have hlength : ws.length = calls.length := by
        rw [← hws.length_eq, List.length_map]
      have hdenotes := hunchanged.denotes i hi
      have hat : boundValue (some (ws.foldl TQueryResultSet.addBindValue rs)) (rs.bindCount + i) =
          ws[i] := added_getD (by omega)
      simp only [bindCount, Option.elim_some, hat] at hdenotes
      have hiff := hws.get (i := i) (by simpa using hi) (by omega)
      simp only [List.get_eq_getElem, List.getElem_map] at hiff
      exact hiff.mp hdenotes
    · rintro ⟨-, haccepted⟩
      have hnone : none ∉ calls.map AddCall.value := by
        intro h
        obtain ⟨call, hcall, hvalue⟩ := List.mem_map.mp h
        have hnull := haccepted call hcall
        rw [hvalue] at hnull
        exact hnull
      obtain ⟨query', hrun⟩ := hcompletes hnone
      refine ⟨query', hrun, ?_⟩
      obtain ⟨ws, rfl, hws⟩ := hadded query' hrun
      have hall : (calls.map AddCall.value).filter Option.isSome = calls.map AddCall.value := by
        refine List.filter_eq_self.mpr fun value hvalue => ?_
        cases value with
        | none => exact absurd hvalue hnone
        | some v => rfl
      rw [hall] at hws
      have hlength : ws.length = calls.length := by
        rw [← hws.length_eq, List.length_map]
      refine ⟨?_, fun i hi => added_kept ws hi, fun i hi => ?_⟩
      · simp [bindCount, added_bindCount, hlength]
      · have hat : boundValue (some (ws.foldl TQueryResultSet.addBindValue rs)) (rs.bindCount + i) =
            ws[i] := added_getD (by omega)
        simp only [bindCount, Option.elim_some, hat]
        have hiff := hws.get (i := i) (by simpa using hi) (by omega)
        simp only [List.get_eq_getElem, List.getElem_map] at hiff
        exact hiff.mpr (haccepted _ (List.getElem_mem hi))

end

def addresses (entersNull : Bool) : Objects :=
  ⟨fun _ => "7f00".toList, fun _ => by decide, entersNull⟩

/-- The Null of `AddNull` is either passed over or asked whether it is null. -/
theorem null_not_bound :
    bindTo (addresses true) .integers .sqlite (.build [AddCall.addNull (c := unpadded)])
        (some .create) = none ∧
      bindTo (addresses false) .integers .sqlite (.build [AddCall.addNull (c := unpadded)])
        (some .create) = some (some .create) ∧
      ¬ BoundUnchanged [AddCall.addNull (c := unpadded)] (some .create) (some .create) :=
  ⟨rfl, rfl, fun h => absurd h.count (by decide)⟩

end DatabaseMod.OrmParams
