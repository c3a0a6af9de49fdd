import DatabaseMod.OrmStatementReading
import DatabaseMod.SqlCommands

/-!
# The statements of a model as commands

The texts that the mapper generates for SQLite are commands on the table of the model. None
of them has a space at its ends.
-/

namespace DatabaseMod.OrmCommands
open SqlTokens SqlReading SqlCommands OrmModel OrmStatements OrmStatementReading

variable (m : TOrmModel)

theorem fieldNames_eq (flds : List TOrmField) : fieldNames flds =
    separated [.symbol ','] ((flds.map (·.columnName)).map fun c => [.name c]) := by
  rw [fieldNames, commas, mapIdx_eq_map, List.map_map]
  rfl

theorem marks_eq (n : ℕ) :
    commas ((List.range n).mapIdx fun i _ => [placeholderItem .sqlite (i + 1)]) =
      separated [.symbol ','] (List.replicate n [.mark]) := by
  apply congrArg (separated [Item.symbol ','])
  apply List.ext_getElem
  · simp
  · simp [placeholderItem]

theorem assignments_eq (flds : List TOrmField) :
    commas (flds.mapIdx fun i fld =>
        [.name fld.columnName, .symbol '=', placeholderItem .sqlite (i + 1)]) =
      separated [.symbol ','] ((flds.map (·.columnName)).map fun c => [.name c, .symbol '=', .mark]) := by
  apply congrArg (separated [Item.symbol ','])
  apply List.ext_getElem
  · simp
  · simp [placeholderItem]

theorem read_insert : read (buildInsertSql .sqlite m) =
    (Command.insert m.tableName ((insertFields m).map (·.columnName))).items := by
  have hreturning : returningItems .sqlite m = [] := by cases h : m.primaryKey <;> rfl
  rw [(reads_insert .sqlite m).read_eq, insertItems, fieldNames_eq, marks_eq, hreturning,
    Command.items, List.length_map]
  rfl

theorem read_update (primaryKey : TOrmField) : read (buildUpdateSql .sqlite m primaryKey) =
    (Command.update m.tableName ((updateFields m).map (·.columnName))
      primaryKey.columnName).items := by
  rw [(reads_update .sqlite m primaryKey).read_eq, updateItems, assignments_eq]
  rfl

theorem read_delete (primaryKey : TOrmField) : read (buildDeleteSql .sqlite m primaryKey) =
    (Command.delete m.tableName primaryKey.columnName).items :=
  (reads_delete .sqlite m primaryKey).read_eq

theorem read_findById {primaryKey : TOrmField} (hkey : m.primaryKey = some primaryKey) :
    ∃ sql, buildFindByIdSql .sqlite m = .ok sql ∧ read sql =
      (Command.select (m.fields.map (·.columnName)) m.tableName
        (some primaryKey.columnName)).items := by
  obtain ⟨sql, hsql, hreads⟩ := reads_findById .sqlite m hkey
  refine ⟨sql, hsql, ?_⟩
  rw [hreads.read_eq, findByIdItems, selectItems, fieldNames_eq, List.append_assoc,
    List.append_assoc]
  rfl

/-! ### Ends -/

/-- A text that begins and ends with something is sent as it is. -/
theorem trim_eq {s : Text} (c c' : Char) (hhead : s.head? = some c) (hlast : s.getLast? = some c')
    (hc : ' ' < c) (hc' : ' ' < c') : trim s = s := by
  obtain ⟨t, rfl⟩ := List.head?_eq_some_iff.mp hhead
  have hdrop : (c :: t).dropWhile (· ≤ ' ') = c :: t :=
    List.dropWhile_cons_of_neg (by simpa using not_le.mpr hc)
  rw [trim, hdrop, List.rdropWhile_eq_self_iff]
  intro hne
  rw [List.getLast?_eq_some_getLast hne, Option.some.injEq] at hlast
  rw [hlast]
  simpa using not_le.mpr hc'

theorem trim_insert : trim (buildInsertSql .sqlite m) = buildInsertSql .sqlite m := by
  apply trim_eq 'I' ')'
  · rw [buildInsertSql_eq]
    rfl
  · unfold buildInsertSql
    simp [TOrmDialect.insertReturningClause]
  · decide
  · decide

theorem trim_update (primaryKey : TOrmField) :
    trim (buildUpdateSql .sqlite m primaryKey) = buildUpdateSql .sqlite m primaryKey := by
  apply trim_eq 'U' '?'
  · rw [buildUpdateSql_eq]
    rfl
  · exact List.getLast?_concat
  · decide
  · decide

theorem trim_delete (primaryKey : TOrmField) :
    trim (buildDeleteSql .sqlite m primaryKey) = buildDeleteSql .sqlite m primaryKey := by
  apply trim_eq 'D' '?'
  · rfl
  · exact List.getLast?_concat
  · decide
  · decide

theorem trim_findById {sql : Text} (h : buildFindByIdSql .sqlite m = .ok sql) : trim sql = sql := by
  unfold buildFindByIdSql at h
  split at h
  · cases h
  · obtain rfl := Except.ok.inj h
    apply trim_eq 'S' '?'
    · rfl
    · exact List.getLast?_concat
    · decide
    · decide

end DatabaseMod.OrmCommands
