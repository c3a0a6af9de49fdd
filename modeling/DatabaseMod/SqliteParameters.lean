import DatabaseMod.SqliteRounds

/-!
# The parameters of an executed statement

A statement keeps its parameters from one execution to the next, and each execution binds
the values of the result set over them. A value of the boolean class has no case in the
driver and binds nothing; a NaN, a blob without data and a text with a NUL are bound as
something else.
-/

namespace DatabaseMod.SqliteParameters
open SqlTokens (Text)
open CoreValues CoreResultSet CoreQuery SqlEngine SqliteDriver SqliteSteps SqliteInvariant
open SqliteCursor TSQLiteResultSet
open SqliteVerdict (callsBetween opened nextRow_step)

variable (e : Engine) (conv : Conversions)

/-- What a bound value means in SQL: null, or what the getter of its class returns. Integers
of 64 bits without a sign are out of the engine's range and are meant as texts. -/
def sqlEncoding : Option TDBType → SqlValue
  | none => .null
  | some v =>
    if v.isNull then .null
    else match v.content with
      | .integer .ulong _ => .text (printInteger (v.getULong conv))
      | .integer .uint _ | .integer .long _ => .integer (v.getLong conv)
      | .integer _ _ => .integer (v.getInt conv)
      | .float _ => .real (v.getFloat conv)
      | .double _ => .real (v.getDouble conv)
      | .string _ | .temporal _ _ _ => .text v.getString
      | .decimal _ => .text ((v.getDecimal conv).getD [])
      | .blob _ => .blob v.getBlob

/-- A value that is not null and of the boolean class. -/
def isBool : Option TDBType → Bool
  | some ⟨.integer .bool _, false⟩ => true
  | _ => false

/-- The values that the bind calls of the engine take as they are: no NaN, no text with a NUL and
no blob without data. -/
def isBoundWhole : Option TDBType → Bool
  | some ⟨.float bits, false⟩ | some ⟨.double bits, false⟩ => !sqlite3IsNaN bits
  | some ⟨.string text, false⟩ | some ⟨.temporal _ _ text, false⟩ => NUL ∉ text
  | some ⟨.decimal text, false⟩ => NUL ∉ text.getD []
  | some ⟨.blob data, false⟩ => data ≠ []
  | _ => true

theorem bmx_sqlite3_bind_text64_eq_iff {t : Text} :
    bmx_sqlite3_bind_text64 t = .text t ↔ NUL ∉ t := by
  rw [bmx_sqlite3_bind_text64, SqlValue.text.injEq, cString_eq_iff]

theorem sqlite3_bind_double_eq_iff {bits : UInt64} :
    sqlite3_bind_double bits = .real bits ↔ sqlite3IsNaN bits = false := by
  unfold sqlite3_bind_double
  cases sqlite3IsNaN bits <;> simp

theorem bmx_sqlite3_bind_blob64_eq_iff {data : List UInt8} :
    bmx_sqlite3_bind_blob64 data = .blob data ↔ data ≠ [] := by
  cases data <;> simp [bmx_sqlite3_bind_blob64]

theorem parameterOf_bool {value : Option TDBType} (h : isBool value = true) :
    parameterOf conv value = none := by
  unfold isBool at h
  split at h
  · rfl
  · cases h

/-- What is bound for a value is its encoding exactly if the value is bound as it is. -/
theorem parameterOf_eq_iff {value : Option TDBType} (hbool : isBool value = false) :
    ∃ p, parameterOf conv value = some p ∧
      (p = sqlEncoding conv value ↔ isBoundWhole value = true) := by
  cases value with
  | none => exact ⟨_, rfl, by simp [sqlEncoding, isBoundWhole]⟩
  | some v =>
    obtain ⟨content, isNull⟩ := v
    cases isNull with
    | true => exact ⟨.null, by simp [parameterOf], by simp [sqlEncoding, isBoundWhole]⟩
    | false =>
      cases content with
      | string text | temporal kind parts text =>
        exact ⟨_, rfl, bmx_sqlite3_bind_text64_eq_iff.trans decide_eq_true_iff.symm⟩
      | decimal text =>
        exact ⟨_, rfl, bmx_sqlite3_bind_text64_eq_iff.trans decide_eq_true_iff.symm⟩
      | float bits | double bits =>
        refine ⟨_, rfl, sqlite3_bind_double_eq_iff.trans ?_⟩
        rw [isBoundWhole, Bool.not_eq_true']
        rfl
      | blob data => exact ⟨_, rfl, bmx_sqlite3_bind_blob64_eq_iff.trans decide_eq_true_iff.symm⟩
      | integer kind value =>
        cases kind with
        | bool => cases hbool
        | ulong =>
          have hnonneg : 0 ≤ TDBType.getULong conv ⟨.integer .ulong value, false⟩ :=
            Int.emod_nonneg value (by decide)
          refine ⟨_, rfl, iff_of_true ?_ rfl⟩
          change bmx_sqlite3_bind_text64 _ = .text (printInteger _)
          rw [printInteger_of_nonneg hnonneg]
          exact bmx_sqlite3_bind_text64_eq_iff.mpr (nul_not_mem_toDigits _)
        | _ => exact ⟨_, rfl, iff_of_true rfl rfl⟩

/-! ### The binding loop -/

section

variable {stmt : Statement} {values : List (Option TDBType)} {i : ℕ} {log : List Call}

/-- A loop without a failure ends with the calls for the first value before those for the
others. -/
theorem bindParameters_cons {value : Option TDBType} {log' : List Call}
    (h : bindParameters e conv (some stmt) i log (value :: values) = (log', none)) :
    ∃ first, bindParameters e conv (some stmt) (i + 1) first values = (log', none) ∧
      ∀ index, parameter first stmt.handle index =
        if i + 1 = index then (parameterOf conv value).or (parameter log stmt.handle index)
        else parameter log stmt.handle index := by
  unfold bindParameters at h
  cases hvalue : parameterOf conv value with
  | none =>
    rw [hvalue] at h
    exact ⟨log, h, fun index => by simp⟩
  | some p =>
    rw [hvalue] at h
    dsimp only at h
    cases hres : (bindStatement e log (i + 1) p (some stmt)).2 with
    | some code =>
      rw [hres] at h
      cases h
    | none =>
      rw [hres] at h
      refine ⟨_, h, fun index => ?_⟩
      rw [bindStatement_parameter e log stmt hres]
      simp

theorem bindParameters_below {log' : List Call}
    (h : bindParameters e conv (some stmt) i log values = (log', none)) {index : ℕ}
    (hindex : index ≤ i) :
    parameter log' stmt.handle index = parameter log stmt.handle index := by
  induction values generalizing i log with
  | nil =>
    cases h
    rfl
  | cons value values ih =>
    obtain ⟨first, hrest, hfirst⟩ := bindParameters_cons e conv h
    rw [ih hrest (by omega), hfirst, if_neg (by omega)]

/-- Each position of the loop holds the parameter of its value afterwards, or what it held
before where the value has none. -/
theorem bindParameters_at {log' : List Call}
    (h : bindParameters e conv (some stmt) i log values = (log', none)) {m : ℕ}
    (hm : m < values.length) :
    parameter log' stmt.handle (i + m + 1) =
      (parameterOf conv values[m]).or (parameter log stmt.handle (i + m + 1)) := by
  induction values generalizing i log m with
  | nil => cases hm
  | cons value values ih =>
    obtain ⟨first, hrest, hfirst⟩ := bindParameters_cons e conv h
    cases m with
    | zero =>
      rw [bindParameters_below e conv hrest (by omega), hfirst, if_pos rfl]
      rfl
    | succ m =>
      have hat := ih hrest (m := m) (by simpa using hm)
      rw [hfirst, if_neg (by omega)] at hat
      rw [show i + (m + 1) + 1 = i + 1 + m + 1 by omega, hat]
      rfl

end

/-! ### The first step of an execution -/

/-- The parameters say what the bound values mean. -/
def Current (log : List Call) (stmt : Statement) (boundValues : List (Option TDBType)) : Prop :=
  ∀ i < stmt.description.parameterCount,
    parameter log stmt.handle (i + 1) = some (sqlEncoding conv (boundValues.getD i none))

/-- A value of the boolean class finds its encoding bound already, and any other one is bound as
it is. -/
def Carried (log : List Call) (stmt : Statement) (i : ℕ) (value : Option TDBType) : Prop :=
  if isBool value then parameter log stmt.handle (i + 1) = some (sqlEncoding conv value)
  else isBoundWhole value = true

theorem current_iff {log log' : List Call} {stmt : Statement} {boundValues : List (Option TDBType)}
    (hlength : stmt.description.parameterCount ≤ boundValues.length)
    (h : bindParameters e conv (some stmt.rewind) 0 log
      (boundValues.take stmt.description.parameterCount) = (log', none)) :
    Current conv log' stmt boundValues ↔
      ∀ i < stmt.description.parameterCount, Carried conv log stmt i (boundValues.getD i none) := by
  refine forall₂_congr fun i hi => ?_
  have hat := bindParameters_at e conv h (m := i) (by simp [hi, hlength])
  have hget : boundValues.getD i none = boundValues[i] := by
    simp [List.getD_eq_getElem?_getD, hi.trans_le hlength]
  rw [List.getElem_take, Nat.zero_add, ← hget] at hat
  change parameter log' stmt.handle (i + 1) = _ at hat
  rw [hat, Carried]
  cases hbool : isBool (boundValues.getD i none) with
  | true =>
    rw [parameterOf_bool conv hbool]
    rfl
  | false =>
    obtain ⟨p, hp, hwhole⟩ := parameterOf_eq_iff conv hbool
    rw [hp, Option.some_or, Option.some.injEq, hwhole]
    rfl

theorem execute_step {q q' : Query} {rs : TSQLiteResultSet} {stmt : Statement} {ok : Bool}
    {before after : List Call} {c : Call} (hrs : q.resultSet = some rs)
    (hstmt : rs.stmtHandle = some stmt) (h : q.execute (driver e conv) [] = some (ok, q'))
    (hcalls : callsBetween q.conn q'.conn = before ++ c :: after) (hno : NoStep before)
    (hstep : c.isStep = true) :
    ∃ log, (∀ index, parameter log stmt.handle index = parameter q.conn.log stmt.handle index) ∧
      stmt.description.parameterCount = rs.bindCount ∧
      bindParameters e conv (some stmt.rewind) 0 log (rs.boundValues.take rs.bindCount) =
        (q.conn.log ++ before, none) := by
  have hmem : c ∈ callsBetween q.conn q'.conn := by rw [hcalls]; simp
  have hsteps {calls : List Call} (hlog : q'.conn.log = q.conn.log ++ calls) : ¬ NoStep calls := by
    intro hall
    rw [callsBetween_eq hlog] at hmem
    rw [hall c hmem] at hstep
    cases hstep
  unfold TDatabaseQuery.execute at h
  rw [if_neg (not_not.mpr rfl), hrs] at h
  simp only [Option.some.injEq, Prod.mk.injEq] at h
  obtain ⟨-, rfl⟩ := h
  by_cases hopen : ((driver e conv).connection q.conn).isOpen = true
  · have hfinish : ((driver e conv).finish (execute e conv (q.conn, rs))).2.1.log =
        (execute e conv (q.conn, rs)).2.1.log :=
      Driver.finish_connection _ (fun _ _ => rfl) _
    have hprepared : (driver e conv).executePrepared (q.conn, rs) =
        (driver e conv).finish (execute e conv (q.conn, rs)) := if_pos hopen
    rw [hprepared] at hcalls hsteps hmem
    rw [hfinish] at hsteps
    rcases execute_cases e conv (q.conn, rs) with ⟨t, calls, heq, -, hlog, hno', -⟩ |
      ⟨resets, calls, hidle, hparameter, hcount, hbind, heq⟩
    · obtain ⟨freed, hfreed, hfreedLog, -⟩ := free_eq t
      refine absurd (hno'.append hfreed.noStep) (hsteps ?_)
      rw [heq, hfreedLog, hlog, List.append_assoc]
    · rw [hstmt] at hcount hbind
      obtain ⟨bound, hbound, hno', -⟩ := bindParameters_log e conv (some stmt.rewind) 0
        (q.conn.log ++ resets) (rs.boundValues.take rs.bindCount)
      obtain rfl : calls = bound := by
        have hsame : q.conn.log ++ resets ++ calls = q.conn.log ++ resets ++ bound := by
          rw [← hbound]
          exact (congrArg Prod.fst hbind).symm
        exact List.append_cancel_left hsame
      obtain ⟨c', calls', hlog, hstep', -⟩ := nextRow_step e
        ({ q.conn with log := q.conn.log ++ resets ++ calls }, rewound rs) rfl
      have hprefetch (s : Session) : (prefetch e s).2.1.log = (nextRow e s).2.1.log := by
        unfold prefetch
        dsimp only
        split_ifs <;> rfl
      have hall : callsBetween q.conn ((driver e conv).finish (execute e conv (q.conn, rs))).2.1 =
          (resets ++ calls) ++ c' :: calls' := by
        refine callsBetween_eq ?_
        rw [hfinish, heq, hprefetch, hlog, List.append_assoc, List.append_assoc, List.append_assoc]
      rw [hall] at hcalls
      rw [← (hidle.noStep.append hno').eq_of_append hno hstep' hstep hcalls, ← List.append_assoc]
      exact ⟨_, hparameter stmt.handle, hcount, hbind⟩
  · have hclosed : (driver e conv).executePrepared (q.conn, rs) =
        (driver e conv).raise (q.conn, rs) "The connection is not open" .connection := if_neg hopen
    rw [hclosed] at hsteps
    exact absurd Idle.nil.noStep (hsteps (List.append_nil _).symm)

/-- An engine whose every statement has one parameter and one row. -/
def oneParameter : Engine where
  prepare _ _ := .ok (some ⟨1, [⟨['n'], none⟩]⟩)
  reset _ _ := none
  bind _ _ _ _ := none
  run _ _ := ⟨[[.integer 1]], none⟩
  message _ := noError

def preparedInt : Query :=
  let q := ((TDatabaseQuery.create opened).prepare (driver oneParameter .integers)
    "SELECT ?".toList).2
  q.bind (driver oneParameter .integers) (.bindValue 0 (some (.setInt 5)))

/-- The integer is executed and then a boolean is bound in its place. -/
def reboundBool : Query :=
  let executed := (preparedInt.execute (driver oneParameter .integers) []).elim preparedInt (·.2)
  executed.bind (driver oneParameter .integers) (.bindValue 0 (some ⟨.integer .bool 1, false⟩))

end DatabaseMod.SqliteParameters
