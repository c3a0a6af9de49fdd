import DatabaseMod.CoreQuery

/-!
# Invariants of the result sets of a query

What each operation of a driver preserves holds of the result set of a query after any
calls on it, with the connection changing freely in between.
-/

namespace DatabaseMod.CoreInvariant
open SqlTokens (Text trim)
open CoreValues CoreResultSet CoreQuery

section

variable {C RS : Type} {D : Driver C RS} {I : RS → Prop}

structure Driver.Preserves (D : Driver C RS) (I : RS → Prop) : Prop where
  createResultSet : ∀ conn, I (D.createResultSet conn).2
  clear : ∀ s, I s.2 → I (D.clear s).2
  inactive : ∀ rs, I rs → I (D.setBase rs { D.base rs with isActive := false })
  query : ∀ rs query, I rs → I (D.setBase rs { D.base rs with query := query })
  bind : ∀ rs (c : BindCall), I rs → I (D.setBase rs (c.apply (D.base rs)))
  prepare : ∀ statement s, I s.2 → I (D.prepare statement s).2.2
  executeQuery : ∀ statement s, I s.2 → I (D.executeQuery statement s).2.2
  execute : ∀ s, I s.2 → I (D.execute s).2.2
  firstRow : ∀ s, I s.2 → I (D.firstRow s).2.2
  nextRow : ∀ s, I s.2 → I (D.nextRow s).2.2
  /-- The end of the rows, where the core moves the cursor behind the last one. -/
  finished : ∀ s, I s.2 → (D.nextRow s).1 = false →
    I (D.reset ((D.nextRow s).2.1,
      D.setBase (D.nextRow s).2.2 { D.base (D.nextRow s).2.2 with index := SQL_AfterLastRow })).2

variable (hD : Driver.Preserves D I)

include hD

theorem opened_preserves {resultSet : Option RS} (h : ∀ rs ∈ resultSet, I rs) (conn : C) :
    I (D.opened conn resultSet).2 := by
  cases resultSet with
  | none => exact hD.createResultSet conn
  | some rs => exact hD.inactive _ (hD.clear (conn, rs) (h rs rfl))

theorem prepareStatement_preserves (statement : Text) {s : C × RS} (h : I s.2) :
    I (D.prepareStatement statement s).2.2 := by
  have hquery := hD.query s.2 (trim statement) h
  unfold Driver.prepareStatement
  dsimp only
  split_ifs
  · exact h
  · rw [Driver.finish_resultSet]
    exact hD.prepare statement _ hquery
  · exact hquery

theorem executeStatement_preserves (statement : Text) {s : C × RS} (h : I s.2) :
    I (D.executeStatement statement s).2.2 := by
  have hquery := hD.query s.2 (trim statement) h
  unfold Driver.executeStatement
  dsimp only
  split_ifs
  · exact h
  · rw [Driver.finish_resultSet]
    exact hD.executeQuery statement _ hquery
  · exact hquery

theorem executePrepared_preserves {s : C × RS} (h : I s.2) : I (D.executePrepared s).2.2 := by
  unfold Driver.executePrepared
  split_ifs
  · rw [Driver.finish_resultSet]
    exact hD.execute s h
  · exact h

theorem fetch_preserves {s : C × RS} (h : I s.2) : I (D.fetch s).2.2 := by
  unfold Driver.fetch
  dsimp only
  split_ifs with hactive hfirst hlast hnext
  · exact hD.firstRow s h
  · exact h
  · exact hD.nextRow s h
  · exact hD.finished s h (by simpa using hnext)
  · exact h

theorem call_preserves {q q' : TDatabaseQuery C RS} {c : QueryCall} {ok : Bool}
    (h : ∀ rs ∈ q.resultSet, I rs) (hc : q.call D c = some (ok, q')) :
    ∀ rs ∈ q'.resultSet, I rs := by
  cases c with
  | prepare statement =>
    cases hc
    rintro rs ⟨⟩
    exact prepareStatement_preserves hD statement (opened_preserves hD h q.conn)
  | execute statement =>
    change q.execute D statement = some (ok, q') at hc
    unfold TDatabaseQuery.execute at hc
    split at hc
    · cases hc
      rintro rs ⟨⟩
      exact executeStatement_preserves hD statement (opened_preserves hD h q.conn)
    · split at hc
      next rs hrs =>
        cases hc
        rintro rs' ⟨⟩
        exact executePrepared_preserves hD (h rs hrs)
      next hnone =>
        dsimp only at hc
        split at hc
        · cases hc
        · cases hc
          rintro rs ⟨⟩
  | nextRow =>
    have hq : (q.nextRow D).2 = q' := congrArg Prod.snd (Option.some.inj hc)
    rw [← hq]
    intro rs hrs
    unfold TDatabaseQuery.nextRow at hrs
    split at hrs
    next => exact h rs hrs
    next old hold =>
      cases hrs
      exact fetch_preserves hD (h old hold)
  | bind c =>
    cases hc
    intro rs hrs
    simp only [TDatabaseQuery.bind, TDatabaseQuery.updateBase, Option.mem_def,
      Option.map_eq_some_iff] at hrs
    obtain ⟨old, hold, rfl⟩ := hrs
    exact hD.bind old c (h old hold)

/-- Whatever was called before, the result set of a query meets the invariant. -/
theorem reached_preserves {q : TDatabaseQuery C RS} (h : q.Reached D) :
    ∀ rs ∈ q.resultSet, I rs := by
  induction h with
  | create conn => rintro rs ⟨⟩
  | connection h conn ih => exact ih
  | call h hc ih => exact call_preserves hD ih hc

end

end DatabaseMod.CoreInvariant
