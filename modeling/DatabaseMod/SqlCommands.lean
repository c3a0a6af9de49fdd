import DatabaseMod.KeyedRecords
import DatabaseMod.MachineInteger
import DatabaseMod.SqlEngine
import DatabaseMod.SqlReading

/-!
# Commands on keyed tables

The statements on one row of a table, on all of its rows, and those around transactions: how
they are written, what they change and which rows they answer with. Every value is a
parameter. A column keeps a value as its declared type has it.
-/

namespace DatabaseMod.SqlCommands
open SqlTokens (Text separated)
open MachineInteger (InInt64)
open SqlReading SqlEngine KeyedRecords

inductive Command
  | insert (table : Text) (columns : List Text)
  | update (table : Text) (columns : List Text) (key : Text)
  | delete (table key : Text)
  | select (columns : List Text) (table : Text) (key : Option Text)
  | start
  | commit
  | rollback
deriving DecidableEq, Repr

/-! ### Grammar -/

/-- Names with commas between them, and what follows. -/
def names : List Item → List Text × List Item
  | .name n :: .symbol ',' :: rest => (n :: (names rest).1, (names rest).2)
  | .name n :: rest => ([n], rest)
  | rest => ([], rest)

def marks : List Item → ℕ × List Item
  | .mark :: .symbol ',' :: rest => ((marks rest).1 + 1, (marks rest).2)
  | .mark :: rest => (1, rest)
  | rest => (0, rest)

def assignments : List Item → List Text × List Item
  | .name n :: .symbol '=' :: .mark :: .symbol ',' :: rest =>
    (n :: (assignments rest).1, (assignments rest).2)
  | .name n :: .symbol '=' :: .mark :: rest => ([n], rest)
  | rest => ([], rest)

/-- A column is asked to have the value of a parameter, and the statement ends. -/
def condition : List Item → Option Text
  | [.word w, .name key, .symbol '=', .mark] => if w = "WHERE".toList then some key else none
  | _ => none

def insertCommand : List Item → Option Command
  | .name table :: .symbol '(' :: rest =>
    match (names rest).2 with
    | .symbol ')' :: .word w :: .symbol '(' :: values =>
      if w = "VALUES".toList ∧ marks values = ((names rest).1.length, [.symbol ')']) then
        some (.insert table (names rest).1)
      else none
    | _ => none
  | _ => none

def updateCommand : List Item → Option Command
  | .name table :: .word w :: rest =>
    if w = "SET".toList then
      (condition (assignments rest).2).map (.update table (assignments rest).1)
    else none
  | _ => none

def deleteCommand : List Item → Option Command
  | .name table :: rest => (condition rest).map (.delete table)
  | _ => none

def selectCommand (l : List Item) : Option Command :=
  match (names l).2 with
  | .word w :: .name table :: rest =>
    if w = "FROM".toList then
      if rest = [] then some (.select (names l).1 table none)
      else (condition rest).map fun key => .select (names l).1 table (some key)
    else none
  | _ => none

def transactionCommand (w : Text) : Option Command :=
  if w = "BEGIN".toList then some .start
  else if w = "COMMIT".toList then some .commit
  else if w = "ROLLBACK".toList then some .rollback
  else none

def command : List Item → Option Command
  | .word first :: rest =>
    if first = "UPDATE".toList then updateCommand rest
    else if first = "SELECT".toList then selectCommand rest
    else match rest with
      | .word second :: rest =>
        if first = "INSERT".toList ∧ second = "INTO".toList then insertCommand rest
        else if first = "DELETE".toList ∧ second = "FROM".toList then deleteCommand rest
        else if second = "TRANSACTION".toList ∧ rest = [] then transactionCommand first
        else none
      | _ => none
  | _ => none

/-! ### What is read -/

/-- Neither a comma nor a name follows. -/
def Stops (l : List Item) : Prop := ∀ i ∈ l.head?, i ≠ .symbol ',' ∧ i ≠ .mark ∧ ∀ n, i ≠ .name n

theorem separated_cons {α : Type*} (sep p q : List α) (parts : List (List α)) :
    separated sep (p :: q :: parts) = p ++ (sep ++ separated sep (q :: parts)) := by
  simp [separated]

theorem names_stops {l : List Item} (hl : Stops l) : names l = ([], l) := by
  cases l with
  | nil => rfl
  | cons i l =>
    cases i with
    | name n => exact absurd rfl ((hl _ rfl).2.2 n)
    | _ => rfl

theorem names_last (n : Text) {l : List Item} (hl : Stops l) : names (.name n :: l) = ([n], l) := by
  cases l with
  | nil => rfl
  | cons i l =>
    unfold names
    split
    next h =>
      cases h
      exact absurd rfl (hl _ rfl).1
    next => simp_all
    next => simp_all

theorem names_separated (columns : List Text) {l : List Item} (hl : Stops l) :
    names (separated [.symbol ','] (columns.map fun c => [.name c]) ++ l) = (columns, l) := by
  induction columns with
  | nil => exact names_stops hl
  | cons c columns ih =>
    cases columns with
    | nil => exact names_last c hl
    | cons c' columns =>
      rw [List.map_cons, List.map_cons, separated_cons, ← List.map_cons (f := fun c => [Item.name c])]
      simp only [List.cons_append, List.nil_append, names, ih]

theorem marks_separated (n : ℕ) {l : List Item} (hl : Stops l) :
    marks (separated [.symbol ','] (List.replicate n [.mark]) ++ l) = (n, l) := by
  induction n with
  | zero =>
    cases l with
    | nil => rfl
    | cons i l =>
      cases i with
      | mark => exact absurd rfl (hl _ rfl).2.1
      | _ => rfl
  | succ n ih =>
    cases n with
    | zero =>
      cases l with
      | nil => rfl
      | cons i l =>
        change marks (.mark :: i :: l) = _
        unfold marks
        split
        next h =>
          cases h
          exact absurd rfl (hl _ rfl).1
        next => simp_all
        next => simp_all
    | succ n =>
      rw [List.replicate_succ, List.replicate_succ, separated_cons, ← List.replicate_succ]
      simp only [List.cons_append, List.nil_append, marks, ih]

theorem assignments_separated (columns : List Text) {l : List Item} (hl : Stops l) :
    assignments (separated [.symbol ','] (columns.map fun c => [.name c, .symbol '=', .mark]) ++ l) =
      (columns, l) := by
  induction columns with
  | nil =>
    cases l with
    | nil => rfl
    | cons i l =>
      cases i with
      | name n => exact absurd rfl ((hl _ rfl).2.2 n)
      | _ => rfl
  | cons c columns ih =>
    cases columns with
    | nil =>
      cases l with
      | nil => rfl
      | cons i l =>
        change assignments (.name c :: .symbol '=' :: .mark :: i :: l) = _
        unfold assignments
        split
        next h =>
          cases h
          exact absurd rfl (hl _ rfl).1
        next => simp_all
        next => simp_all
    | cons c' columns =>
      rw [List.map_cons, List.map_cons, separated_cons,
        ← List.map_cons (f := fun c => [Item.name c, .symbol '=', .mark])]
      simp only [List.cons_append, List.nil_append, assignments, ih]

def conditionItems (key : Text) : List Item :=
  [.word "WHERE".toList, .name key, .symbol '=', .mark]

/-- How a command is written. -/
def Command.items : Command → List Item
  | .insert table columns =>
    [.word "INSERT".toList, .word "INTO".toList, .name table, .symbol '('] ++
      (separated [.symbol ','] (columns.map fun c => [.name c]) ++
        ([.symbol ')', .word "VALUES".toList, .symbol '('] ++
          (separated [.symbol ','] (List.replicate columns.length [.mark]) ++ [.symbol ')'])))
  | .update table columns key =>
    [.word "UPDATE".toList, .name table, .word "SET".toList] ++
      (separated [.symbol ','] (columns.map fun c => [.name c, .symbol '=', .mark]) ++
        conditionItems key)
  | .delete table key =>
    [.word "DELETE".toList, .word "FROM".toList, .name table] ++ conditionItems key
  | .select columns table key =>
    [.word "SELECT".toList] ++ (separated [.symbol ','] (columns.map fun c => [.name c]) ++
      ([.word "FROM".toList, .name table] ++ key.elim [] conditionItems))
  | .start => [.word "BEGIN".toList, .word "TRANSACTION".toList]
  | .commit => [.word "COMMIT".toList, .word "TRANSACTION".toList]
  | .rollback => [.word "ROLLBACK".toList, .word "TRANSACTION".toList]

theorem stops_symbol {c : Char} (hc : c ≠ ',') (l : List Item) : Stops (.symbol c :: l) := by
  intro i hi
  obtain rfl := Option.some.inj hi
  exact ⟨fun h => hc (Item.symbol.inj h), nofun, nofun⟩

theorem stops_word (w : Text) (l : List Item) : Stops (.word w :: l) := by
  intro i hi
  obtain rfl := Option.some.inj hi
  exact ⟨nofun, nofun, nofun⟩

theorem insertCommand_eq {table : Text} {columns : List Text} {l values : List Item}
    (hl : names l = (columns, .symbol ')' :: .word "VALUES".toList :: .symbol '(' :: values))
    (hvalues : marks values = (columns.length, [.symbol ')'])) :
    insertCommand (.name table :: .symbol '(' :: l) = some (.insert table columns) := by
  simp only [insertCommand, hl, hvalues, and_self, if_true]

theorem updateCommand_eq {table key : Text} {columns : List Text} {l : List Item}
    (hl : assignments l = (columns, conditionItems key)) :
    updateCommand (.name table :: .word "SET".toList :: l) = some (.update table columns key) := by
  simp only [updateCommand, hl, if_true]
  rfl

theorem selectCommand_eq {table : Text} {key : Option Text} {columns : List Text} {l : List Item}
    (hl : names l = (columns, .word "FROM".toList :: .name table :: key.elim [] conditionItems)) :
    selectCommand l = some (.select columns table key) := by
  simp only [selectCommand, hl, if_true]
  cases key with
  | none => rfl
  | some key => rfl

/-- What is written is read. -/
theorem command_items (cmd : Command) : command cmd.items = some cmd := by
  cases cmd with
  | insert table columns =>
    change insertCommand (.name table :: .symbol '(' :: (_ ++ _)) = _
    apply insertCommand_eq (names_separated columns (stops_symbol (by decide) _))
    exact marks_separated columns.length (stops_symbol (by decide) [])
  | update table columns key =>
    change updateCommand (.name table :: .word "SET".toList :: (_ ++ _)) = _
    exact updateCommand_eq (assignments_separated columns (stops_word _ _))
  | delete table key => rfl
  | select columns table key =>
    change selectCommand (_ ++ _) = _
    exact selectCommand_eq (names_separated columns (stops_word _ _))
  | start => rfl
  | commit => rfl
  | rollback => rfl

/-! ### Content -/

structure TableSchema where
  /-- The names and the declared types. -/
  columns : List (Text × Text)
  key : Text
  /-- Whether the engine makes a key for a row that has none. -/
  generated : Bool
deriving DecidableEq, Repr

abbrev Catalog := Text → Option TableSchema
abbrev Record := Text → SqlValue
abbrev Tables := Text → List Record

/-- The tables, and as they were before the transaction if there is one. -/
structure Content where
  tables : Tables
  saved : Option Tables
  lastRowid : ℤ

def TableSchema.typeOf (s : TableSchema) (column : Text) : Text := (s.columns.lookup column).getD []

section

variable (store : Text → SqlValue → SqlValue) (catalog : Catalog) (param : ℕ → SqlValue)

/-- The value of a parameter as the key column compares it. -/
def sought (s : TableSchema) (index : ℕ) : SqlValue := store (s.typeOf s.key) (param index)

/-- The columns are given the values of the parameters, in order. -/
def assign (s : TableSchema) (columns : List Text) (record : Record) : Record := fun c =>
  if c ∈ columns then store (s.typeOf c) (param (columns.idxOf c + 1)) else record c

def blank (s : TableSchema) (rowid : ℤ) : Record := fun c =>
  if s.generated ∧ c = s.key then .integer rowid else .null

def Content.setTable (content : Content) (table : Text) (rows : List Record) : Content :=
  { content with tables := Function.update content.tables table rows }

/-- What a command that succeeds changes. -/
def Changes : Command → Content → Content → Prop
  | .insert table columns, before, after => ∃ s rowid, catalog table = some s ∧ InInt64 rowid ∧
      find (· s.key) (before.tables table)
        (assign store param s columns (blank s rowid) s.key) = none ∧
      after = { before.setTable table (before.tables table ++
        [assign store param s columns (blank s rowid)]) with lastRowid := rowid }
  | .update table columns _, before, after => ∃ s, catalog table = some s ∧
      after = before.setTable table (modify (· s.key) (assign store param s columns)
        (before.tables table) (sought store param s (columns.length + 1)))
  | .delete table _, before, after => ∃ s, catalog table = some s ∧
      after = before.setTable table
        (KeyedRecords.delete (· s.key) (before.tables table) (sought store param s 1))
  | .select _ _ _, before, after => after = before
  | .start, before, after => before.saved = none ∧ after = { before with saved := some before.tables }
  | .commit, before, after => before.saved ≠ none ∧ after = { before with saved := none }
  | .rollback, before, after => ∃ tables, before.saved = some tables ∧
      after = { before with tables := tables, saved := none }

/-- The rows of a command; only a selection has any. -/
def answer (content : Content) : Command → List Row
  | .select columns table none => (content.tables table).map fun record => columns.map record
  | .select columns table (some _) =>
    (catalog table).elim [] fun s =>
      (matching (· s.key) (content.tables table) (sought store param s 1)).map fun record =>
        columns.map record
  | _ => []

/-- Integers and texts are compared as they are. -/
def Comparable : SqlValue → Prop
  | .integer _ | .text _ => True
  | _ => False

/-- The rows are told apart by their key, whose values are integers or texts. -/
def Keys (table key : Text) (index : ℕ) : Prop :=
  ∀ s ∈ catalog table, key = s.key ∧ Comparable (sought store param s index)

def Usual : Command → Prop
  | .insert table columns => columns.Nodup ∧ ∀ s ∈ catalog table,
      if s.key ∈ columns then Comparable (sought store param s (columns.idxOf s.key + 1))
      else s.generated = true
  | .update table columns key => columns.Nodup ∧ key ∉ columns ∧
      Keys store catalog param table key (columns.length + 1)
  | .delete table key => Keys store catalog param table key 1
  | .select _ table (some key) => Keys store catalog param table key 1
  | .select _ _ none | .start | .commit | .rollback => True

end

/-- A failure changes nothing, or it ends the transaction that there is. -/
def Abandons (before after : Content) : Prop :=
  after = before ∨ ∃ tables, before.saved = some tables ∧
    after = { before with tables := tables, saved := none }

end DatabaseMod.SqlCommands
