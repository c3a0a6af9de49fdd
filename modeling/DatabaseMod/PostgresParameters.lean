import DatabaseMod.CoreBindings
import DatabaseMod.PostgresDriver

/-!
# The parameters sent to PostgreSQL

An execution sends the whole array of bound values, which is as long as the widest bindings
of its query so far. Values of earlier statements are null in it.
-/

namespace DatabaseMod.PostgresParameters
open SqlTokens (Text)
open CoreValues CoreResultSet CoreQuery CoreBindings PostgresDriver TPostgreSQLResultSet
open CoreFormat (unpadded)

abbrev Query := TDatabaseQuery TDBPostgreSQL TPostgreSQLResultSet

section

variable (pq : Libpq) (rt : Runtime)

/-! ### The driver keeps the bindings -/

theorem executeQuery_same (statement : Text) (s : Session) :
    SameBindings s.2.toTQueryResultSet (executeQuery pq statement s).2.2.toTQueryResultSet := by
  unfold executeQuery
  dsimp only
  split_ifs
  · split <;> exact ⟨rfl, rfl⟩
  · exact ⟨rfl, rfl⟩

theorem releaseName_same (s : Session) :
    SameBindings s.2.toTQueryResultSet (releaseName pq s).2.toTQueryResultSet := by
  unfold releaseName
  split_ifs
  · exact ⟨rfl, rfl⟩
  · have hsame := executeQuery_same pq ("DEALLOCATE ".toList ++ '"' :: s.2.preparedStatementName ++
      ['"']) s
    exact ⟨hsame.boundValues_eq, hsame.bindCount_eq⟩

theorem prepare_same (statement : Text) (s : Session) :
    SameBindings s.2.toTQueryResultSet (prepare pq statement s).2.2.toTQueryResultSet := by
  have hsame := releaseName_same pq (s.1, s.2.cleanup)
  unfold prepare
  dsimp only
  split_ifs
  · exact ⟨rfl, rfl⟩
  · split <;> exact ⟨hsame.boundValues_eq, hsame.bindCount_eq⟩

theorem execute_same (s : Session) :
    SameBindings s.2.toTQueryResultSet (execute pq rt s).2.2.toTQueryResultSet := by
  unfold execute
  dsimp only
  split
  · exact ⟨rfl, rfl⟩
  · exact ⟨rfl, rfl⟩
  · exact ⟨rfl, rfl⟩
  · split_ifs <;> exact ⟨rfl, rfl⟩

theorem nextRow_same (s : Session) :
    SameBindings s.2.toTQueryResultSet (nextRow pq rt s).2.2.toTQueryResultSet := by
  unfold nextRow
  dsimp only
  split_ifs <;> exact ⟨rfl, rfl⟩

theorem firstRow_same (s : Session) :
    SameBindings s.2.toTQueryResultSet (firstRow pq rt s).2.2.toTQueryResultSet := by
  unfold firstRow
  split_ifs
  · exact nextRow_same pq rt s
  · exact ⟨rfl, rfl⟩

theorem driver_keepsBindings : Driver.KeepsBindings (driver pq rt) where
  base_setBase _ _ := rfl
  createResultSet _ := rfl
  clear _ := rfl
  prepare := prepare_same pq
  executeQuery := executeQuery_same pq
  execute := execute_same pq rt
  firstRow := firstRow_same pq rt
  nextRow := nextRow_same pq rt
  reset _ := ⟨rfl, rfl⟩

/-! ### What an execution sends -/

theorem execute_log (s : Session) : (execute pq rt s).2.1.log = s.1.log ++
    [.execPrepared s.2.preparedStatementName s.2.boundValues.length
      (s.2.boundValues.map (paramOf rt))] := by
  unfold execute
  dsimp only
  rw [List.length_map]
  split <;> rfl

theorem paramOf_clear (v : TDBType) : paramOf rt (some v.clear) = .null := by
  obtain ⟨content, isNull⟩ := v
  cases content with
  | blob data =>
    cases data with
    | nil => cases isNull <;> rfl
    | cons b data => rfl
  | temporal kind parts text => cases kind <;> rfl
  | _ => rfl

theorem paramOf_entry {bound entry : Option TDBType} (h : Entry bound entry) :
    paramOf rt entry = paramOf rt bound := by
  rcases h with rfl | ⟨rfl, v, rfl⟩
  · rfl
  · exact paramOf_clear rt v

/-- The parameters are those of the bound values, as many as are bound. -/
def SentExactly (b : Bindings) (nParams : ℕ) (params : List Param) : Prop :=
  nParams = b.count ∧ params = (List.range b.count).map fun i => paramOf rt (b.bound i)

theorem params_eq {b : Bindings} {rs : TQueryResultSet} (h : Holds b rs) :
    rs.boundValues.map (paramOf rt) =
      (List.range b.widest).map fun i => paramOf rt (b.bound i) := by
  refine List.ext_getElem (by simp [h.length_eq]) fun i hi hi' => ?_
  have hlength : i < rs.boundValues.length := by simpa using hi
  have hentry := h.entry i
  rw [List.getD_eq_getElem rs.boundValues none hlength] at hentry
  rw [List.getElem_map, List.getElem_map, List.getElem_range]
  exact paramOf_entry rt hentry

/-- An execution of a prepared statement sends exactly what is bound if and only if no
earlier bindings of its query were wider than the current ones. -/
theorem sent_exactly_iff {b : Bindings} {q q' : Query} {ok : Bool} {calls : List Call}
    {name : Text} {nParams : ℕ} {params : List Param} (hrun : Run (driver pq rt) (some b) q)
    (h : q.execute (driver pq rt) [] = some (ok, q')) (hcalls : q'.conn.log = q.conn.log ++ calls)
    (hsent : .execPrepared name nParams params ∈ calls) :
    (∃ rs, q.resultSet = some rs ∧ rs.bindCount = b.count) ∧
      (SentExactly rt b nParams params ↔ b.widest = b.count) := by
  have htracks := run_tracks (driver_keepsBindings pq rt) hrun
  cases hresult : q.resultSet with
  | none =>
    rw [hresult] at htracks
    cases htracks
  | some rs =>
    rw [hresult] at htracks
    obtain hholds : Holds b rs.toTQueryResultSet := by
      cases htracks with
      | some hholds => exact hholds
    refine ⟨⟨rs, rfl, hholds.bindCount_eq⟩, ?_⟩
    unfold TDatabaseQuery.execute at h
    rw [if_neg (not_not.mpr rfl), hresult] at h
    simp only [Option.some.injEq, Prod.mk.injEq] at h
    obtain ⟨-, rfl⟩ := h
    dsimp only at hcalls
    by_cases hopen : ((driver pq rt).connection q.conn).isOpen = true
    · have hlog : ((driver pq rt).executePrepared (q.conn, rs)).2.1.log =
          (execute pq rt (q.conn, rs)).2.1.log := by
        unfold Driver.executePrepared
        rw [if_pos hopen]
        exact Driver.finish_connection _ (fun _ _ => rfl) _
      rw [hlog, execute_log] at hcalls
      obtain rfl := List.append_cancel_left hcalls
      obtain ⟨rfl, rfl, rfl⟩ : name = rs.preparedStatementName ∧
          nParams = rs.boundValues.length ∧ params = rs.boundValues.map (paramOf rt) := by
        simpa using hsent
      rw [SentExactly, params_eq rt hholds, hholds.length_eq]
      constructor
      · exact fun hexact => hexact.1
      · intro hwidest
        rw [hwidest]
        exact ⟨rfl, rfl⟩
    · have hlog : ((driver pq rt).executePrepared (q.conn, rs)).2.1.log = q.conn.log := by
        unfold Driver.executePrepared
        rw [if_neg hopen]
        rfl
      rw [hlog] at hcalls
      rw [List.self_eq_append_right.mp hcalls] at hsent
      cases hsent

end

/-- A server that acknowledges every call. -/
def acknowledging : Libpq := ⟨fun _ => some .commandOk, fun _ => true, fun _ => [], fun _ => [], 8⟩

def plain : Runtime := ⟨.integers, unpadded, fun _ => [], fun _ => [], id⟩

def opened : TDBPostgreSQL := ⟨⟨true, none⟩, 0, []⟩

def after (q : Query) (c : QueryCall) : Query :=
  (q.call (driver acknowledging plain) c).elim q (·.2)

/-- Two values are bound for the first statement and one for the second. -/
def twoThenOne : Query :=
  [.prepare "SELECT $1, $2".toList, .bind (.bindValue 0 (some (.setInt 1))),
    .bind (.bindValue 1 (some (.setInt 2))), .prepare "SELECT $1".toList,
    .bind (.bindValue 0 (some (.setInt 5)))].foldl after (.create opened)

def twoThenOneBound : Bindings :=
  ((Bindings.empty.bind 0 (some (.setInt 1))).bind 1 (some (.setInt 2))).clear.bind 0
    (some (.setInt 5))

theorem run_after {b : Option Bindings} {q : Query} {c : QueryCall}
    (h : Run (driver acknowledging plain) b q) (hc : (q.call (driver acknowledging plain) c).isSome) :
    Run (driver acknowledging plain) (Bindings.call b c) (after q c) := by
  obtain ⟨⟨ok, q'⟩, hcall⟩ := Option.isSome_iff_exists.mp hc
  have hafter : after q c = q' := by
    unfold after
    rw [hcall]
    rfl
  exact hafter ▸ .call h hcall

theorem twoThenOne_run : Run (driver acknowledging plain) (some twoThenOneBound) twoThenOne := by
  have hcreate : Run (driver acknowledging plain) none (.create opened) := .create opened
  have hfirst := run_after hcreate (c := .prepare "SELECT $1, $2".toList) rfl
  have hone := run_after hfirst (c := .bind (.bindValue 0 (some (.setInt 1)))) rfl
  have htwo := run_after hone (c := .bind (.bindValue 1 (some (.setInt 2)))) rfl
  have hsecond := run_after htwo (c := .prepare "SELECT $1".toList) rfl
  exact run_after hsecond (c := .bind (.bindValue 0 (some (.setInt 5)))) rfl

/-- The second statement has one parameter and is sent two. -/
theorem earlier_width_sent :
    ∃ b q', Run (driver acknowledging plain) (some b) twoThenOne ∧
      twoThenOne.execute (driver acknowledging plain) [] = some (true, q') ∧
      q'.conn.log = twoThenOne.conn.log ++
        [.execPrepared "prep0".toList 2 [.text ['5'], .null]] ∧
      ¬ SentExactly plain b 2 [.text ['5'], .null] := by
  refine ⟨_, _, twoThenOne_run, rfl, by decide +kernel, fun h => ?_⟩
  exact absurd h.1 (by decide)

theorem sent_exactly_iff_narrower :
    ∃ q', twoThenOne.execute (driver acknowledging plain) [] = some (true, q') ∧
      (SentExactly plain twoThenOneBound 2 [.text ['5'], .null] ↔
        twoThenOneBound.widest = twoThenOneBound.count) :=
  ⟨_, rfl, (@sent_exactly_iff acknowledging plain twoThenOneBound twoThenOne _ true
    [.execPrepared "prep0".toList 2 [.text ['5'], .null]] "prep0".toList 2 _ twoThenOne_run rfl
    (by decide +kernel) List.mem_cons_self).2⟩

end DatabaseMod.PostgresParameters
