import DatabaseMod.CoreQuery

/-!
# The bindings of a query

What is bound between two clearings of a query, whatever its driver. The array of a result
set never shrinks: it is as long as the widest bindings there were, and it holds the
current values, with cleared old ones wherever nothing is bound now.
-/

namespace DatabaseMod.CoreBindings
open SqlTokens (Text)
open CoreValues CoreResultSet CoreQuery

/-- The values bound since the last clearing: one more than the largest position, the
largest such number so far, and the last value of each position. -/
structure Bindings where
  count : ℕ
  widest : ℕ
  bound : ℕ → Option TDBType

namespace Bindings

def empty : Bindings := ⟨0, 0, fun _ => none⟩

def bind (b : Bindings) (position : ℕ) (value : Option TDBType) : Bindings :=
  ⟨max b.count (position + 1), max b.widest (position + 1), Function.update b.bound position value⟩

def clear (b : Bindings) : Bindings := ⟨0, b.widest, fun _ => none⟩

/-- A binding call on a result set. -/
def apply (b : Bindings) : BindCall → Bindings
  | .bindValue position value => b.bind position value
  | .addBindValue value => b.bind b.count value
  | .clearBindValues => b.clear

/-- A call on a query. The first statement makes its result set, later ones clear it. -/
def call (b : Option Bindings) : QueryCall → Option Bindings
  | .prepare _ => some (b.elim empty clear)
  | .execute statement => if statement ≠ [] then some (b.elim empty clear) else b
  | .nextRow => b
  | .bind c => b.map (·.apply c)

end Bindings

/-- An entry of the array is the value bound there, or an old one that was cleared. -/
def Entry (bound entry : Option TDBType) : Prop :=
  entry = bound ∨ bound = none ∧ ∃ v : TDBType, entry = some v.clear

structure Holds (b : Bindings) (rs : TQueryResultSet) : Prop where
  bindCount_eq : rs.bindCount = b.count
  length_eq : rs.boundValues.length = b.widest
  count_le : b.count ≤ b.widest
  entry : ∀ i, Entry (b.bound i) (rs.boundValues.getD i none)

/-! ### One binding call -/

section

variable {b : Bindings} {rs rs' : TQueryResultSet}

theorem holds_create : Holds .empty .create :=
  ⟨rfl, rfl, le_rfl, fun _ => .inl rfl⟩

theorem getD_grown {α : Type} (values : List (Option α)) (position i : ℕ) (value : Option α) :
    ((values ++ List.replicate (position + 1 - values.length) none).set position value).getD i none =
      if i = position then value else values.getD i none := by
  simp only [List.getD_eq_getElem?_getD, List.getElem?_set, List.length_append,
    List.length_replicate, List.getElem?_append, List.getElem?_replicate]
  split_ifs <;> first | rfl | omega | simp_all

theorem Holds.bind (h : Holds b rs) (position : ℕ) (value : Option TDBType) :
    Holds (b.bind position value) (rs.bindValue position value) := by
  have hcount := h.bindCount_eq
  have hlength := h.length_eq
  have hle := h.count_le
  refine ⟨?_, ?_, ?_, fun i => ?_⟩
  · simp only [TQueryResultSet.bindValue, Bindings.bind, hcount]
    split_ifs <;> omega
  · simp only [TQueryResultSet.bindValue, Bindings.bind, List.length_set, List.length_append,
      List.length_replicate, hlength]
    omega
  · exact max_le_max_right (position + 1) hle
  · change Entry (Function.update b.bound position value i) _
    rw [TQueryResultSet.bindValue, getD_grown]
    by_cases hi : i = position
    · rw [hi, if_pos rfl, Function.update_self]
      exact .inl rfl
    · rw [if_neg hi, Function.update_of_ne hi]
      exact h.entry i

theorem Holds.clear (h : Holds b rs) : Holds b.clear rs.clearBindValues := by
  have hle := h.count_le
  refine ⟨?_, ?_, Nat.zero_le _, fun i => ?_⟩
  · simp only [TQueryResultSet.clearBindValues, Bindings.clear]
    split_ifs with hempty
    · rw [h.bindCount_eq]
      have hlength := h.length_eq
      rw [hempty, List.length_nil] at hlength
      omega
    · rfl
  · simpa [TQueryResultSet.clearBindValues, Bindings.clear] using h.length_eq
  · simp only [TQueryResultSet.clearBindValues, Bindings.clear, List.getD_eq_getElem?_getD,
      List.getElem?_map]
    rcases rs.boundValues[i]? with _ | _ | v
    · exact .inl rfl
    · exact .inl rfl
    · exact .inr ⟨rfl, v, rfl⟩

theorem Holds.apply (h : Holds b rs) (c : BindCall) : Holds (b.apply c) (c.apply rs) := by
  cases c with
  | bindValue position value => exact h.bind position value
  | addBindValue value =>
    change Holds (b.bind b.count value) (rs.bindValue rs.bindCount value)
    rw [h.bindCount_eq]
    exact h.bind b.count value
  | clearBindValues => exact h.clear

/-- Two result sets with the same bindings. -/
structure SameBindings (rs rs' : TQueryResultSet) : Prop where
  boundValues_eq : rs'.boundValues = rs.boundValues
  bindCount_eq : rs'.bindCount = rs.bindCount

theorem SameBindings.trans {rs'' : TQueryResultSet} (h : SameBindings rs rs')
    (h' : SameBindings rs' rs'') : SameBindings rs rs'' :=
  ⟨h'.boundValues_eq.trans h.boundValues_eq, h'.bindCount_eq.trans h.bindCount_eq⟩

theorem Holds.same (h : Holds b rs) (hsame : SameBindings rs rs') : Holds b rs' := by
  refine ⟨hsame.bindCount_eq.trans h.bindCount_eq, ?_, h.count_le, fun i => ?_⟩
  · rw [hsame.boundValues_eq]
    exact h.length_eq
  · rw [hsame.boundValues_eq]
    exact h.entry i

end

/-! ### Runs of a query -/

section

variable {C RS : Type} {D : Driver C RS}

/-- The operations of a driver change bindings only where the core asks for it. -/
structure Driver.KeepsBindings (D : Driver C RS) : Prop where
  base_setBase : ∀ rs base, D.base (D.setBase rs base) = base
  createResultSet : ∀ conn, D.base (D.createResultSet conn).2 = .create
  clear : ∀ s, D.base (D.clear s).2 = (D.base s.2).clearBindValues
  prepare : ∀ statement s, SameBindings (D.base s.2) (D.base (D.prepare statement s).2.2)
  executeQuery : ∀ statement s, SameBindings (D.base s.2) (D.base (D.executeQuery statement s).2.2)
  execute : ∀ s, SameBindings (D.base s.2) (D.base (D.execute s).2.2)
  firstRow : ∀ s, SameBindings (D.base s.2) (D.base (D.firstRow s).2.2)
  nextRow : ∀ s, SameBindings (D.base s.2) (D.base (D.nextRow s).2.2)
  reset : ∀ s, SameBindings (D.base s.2) (D.base (D.reset s).2)

/-- The states of a query with what is bound in them. Between its calls the connection may
change, as other queries use it too. -/
inductive Run (D : Driver C RS) : Option Bindings → TDatabaseQuery C RS → Prop
  | create (conn : C) : Run D none (.create conn)
  | connection {b : Option Bindings} {q : TDatabaseQuery C RS} (h : Run D b q) (conn : C) :
    Run D b { q with conn := conn }
  | call {b : Option Bindings} {q q' : TDatabaseQuery C RS} {c : QueryCall} {ok : Bool}
    (h : Run D b q) (hc : q.call D c = some (ok, q')) : Run D (Bindings.call b c) q'

/-- A query's result set holds the bindings. -/
def Tracks (D : Driver C RS) (b : Option Bindings) (resultSet : Option RS) : Prop :=
  Option.Rel (fun b rs => Holds b (D.base rs)) b resultSet

variable (hD : Driver.KeepsBindings D) {b : Option Bindings}

include hD

theorem opened_holds {resultSet : Option RS} (h : Tracks D b resultSet) (conn : C) :
    Holds (b.elim .empty .clear) (D.base (D.opened conn resultSet).2) := by
  cases h with
  | none =>
    change Holds .empty (D.base (D.createResultSet conn).2)
    rw [hD.createResultSet]
    exact holds_create
  | @some b rs h =>
    change Holds b.clear (D.base (D.setBase (D.clear (conn, rs)).2
      { D.base (D.clear (conn, rs)).2 with isActive := false }))
    have hclear := hD.clear (conn, rs)
    rw [hD.base_setBase, hclear]
    exact h.clear.same ⟨rfl, rfl⟩

theorem setQuery_same (query : Text) (s : C × RS) :
    SameBindings (D.base s.2) (D.base (D.setQuery query s).2) := by
  unfold Driver.setQuery
  rw [hD.base_setBase]
  exact ⟨rfl, rfl⟩

theorem prepareStatement_same (statement : Text) (s : C × RS) :
    SameBindings (D.base s.2) (D.base (D.prepareStatement statement s).2.2) := by
  unfold Driver.prepareStatement
  dsimp only
  split_ifs
  · exact ⟨rfl, rfl⟩
  · rw [Driver.finish_resultSet]
    exact (setQuery_same hD _ s).trans (hD.prepare _ _)
  · exact setQuery_same hD _ s

theorem executeStatement_same (statement : Text) (s : C × RS) :
    SameBindings (D.base s.2) (D.base (D.executeStatement statement s).2.2) := by
  unfold Driver.executeStatement
  dsimp only
  split_ifs
  · exact ⟨rfl, rfl⟩
  · rw [Driver.finish_resultSet]
    exact (setQuery_same hD _ s).trans (hD.executeQuery _ _)
  · exact setQuery_same hD _ s

theorem executePrepared_same (s : C × RS) :
    SameBindings (D.base s.2) (D.base (D.executePrepared s).2.2) := by
  unfold Driver.executePrepared
  split_ifs
  · rw [Driver.finish_resultSet]
    exact hD.execute s
  · exact ⟨rfl, rfl⟩

theorem fetch_same (s : C × RS) : SameBindings (D.base s.2) (D.base (D.fetch s).2.2) := by
  unfold Driver.fetch
  dsimp only
  split_ifs
  · exact hD.firstRow s
  · exact ⟨rfl, rfl⟩
  · exact hD.nextRow s
  · refine ((hD.nextRow s).trans ?_).trans (hD.reset _)
    dsimp only
    rw [hD.base_setBase]
    exact ⟨rfl, rfl⟩
  · exact ⟨rfl, rfl⟩

theorem tracks_call {q q' : TDatabaseQuery C RS} {c : QueryCall} {ok : Bool}
    (h : Tracks D b q.resultSet) (hc : q.call D c = some (ok, q')) :
    Tracks D (Bindings.call b c) q'.resultSet := by
  cases c with
  | prepare statement =>
    cases hc
    exact .some ((opened_holds hD h q.conn).same (prepareStatement_same hD _ _))
  | execute statement =>
    change q.execute D statement = _ at hc
    unfold TDatabaseQuery.execute at hc
    unfold Bindings.call
    dsimp only
    split_ifs at hc ⊢ with hstatement
    · cases hc
      exact .some ((opened_holds hD h q.conn).same (executeStatement_same hD _ _))
    · cases hresult : q.resultSet with
      | none =>
        rw [hresult] at h hc
        dsimp only at hc
        split_ifs at hc
        cases hc
        exact h
      | some rs =>
        rw [hresult] at h hc
        cases hc
        cases h with
        | some h => exact .some (h.same (executePrepared_same hD (q.conn, rs)))
  | nextRow =>
    have hnext : q' = (q.nextRow D).2 := (congrArg Prod.snd (Option.some.inj hc)).symm
    rw [hnext]
    unfold TDatabaseQuery.nextRow
    cases hresult : q.resultSet with
    | none => exact h
    | some rs =>
      rw [hresult] at h
      cases h with
      | some h => exact .some (h.same (fetch_same hD (q.conn, rs)))
  | bind c =>
    cases hc
    unfold TDatabaseQuery.bind TDatabaseQuery.updateBase Bindings.call
    cases hresult : q.resultSet with
    | none =>
      rw [hresult] at h
      cases h
      exact .none
    | some rs =>
      rw [hresult] at h
      cases h with
      | some h =>
        refine .some ?_
        dsimp only
        rw [hD.base_setBase]
        exact h.apply c

/-- Over any run, the result set holds what is bound. -/
theorem run_tracks {q : TDatabaseQuery C RS} (h : Run D b q) : Tracks D b q.resultSet := by
  induction h with
  | create conn => exact .none
  | connection h conn ih => exact ih
  | call h hc ih => exact tracks_call hD ih hc

end

end DatabaseMod.CoreBindings
