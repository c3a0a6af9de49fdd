import DatabaseMod.PostgresParameters

/-!
# The names of prepared statements

A result set of the PostgreSQL driver prepares its statements under one name. The server keeps a
set of names: a statement is prepared under a new one, and a name is deallocated that is there.
The client remembers the name, not whether the server has it.
-/

namespace DatabaseMod.PostgresPreparedNames
open SqlTokens (Text)
open CoreResultSet CoreQuery PostgresDriver TPostgreSQLResultSet

/-! ### The end of a result set -/

def deallocate (name : Text) : Text := "DEALLOCATE ".toList ++ '"' :: name ++ ['"']

/-- `Delete`: the name is released and forgotten. -/
def delete (pq : Libpq) (s : Session) : Session :=
  let s := if s.2.preparedStatementName = [] then s
    else
      let r := executeQuery pq (deallocate s.2.preparedStatementName) s
      (r.2.1, { r.2.2 with preparedStatementName := [] })
  (s.1, s.2.cleanup)

def preparedName (id : ℕ) : Text := "prep".toList ++ Nat.toDigits 10 id

theorem preparedName_ne_nil (id : ℕ) : preparedName id ≠ [] := List.cons_ne_nil _ _

theorem preparedName_injective : Function.Injective preparedName := fun a b h => by
  have hdigits := congrArg (Nat.ofDigitChars 10 · 0) (List.append_cancel_left h)
  simpa using hdigits

/-! ### The server -/

inductive Transaction
  | idle
  | opened
  | aborted
deriving DecidableEq, Repr

/-- The statements that the server reads as the release of a name. -/
structure Reading where
  deallocated : Text → Option Text
  deallocated_name : ∀ id, deallocated (deallocate (preparedName id)) = some (preparedName id)

namespace Reading

variable (r : Reading)

/-- Calls that neither prepare nor deallocate. -/
def isWork : Call → Bool
  | .prepare _ _ => false
  | .exec statement => (r.deallocated statement).isNone
  | .execPrepared _ _ _ => true

def completed (names : List Text) : Call → List Text
  | .prepare name _ => name :: names
  | .exec statement => (r.deallocated statement).elim names fun name => names.filter (· ≠ name)
  | .execPrepared _ _ _ => names

/-- A call that fails adds nothing and removes nothing. -/
def effect (names : List Text) (c : Call) (answer : Option PGresult) : List Text :=
  if answer = some .commandOk then r.completed names c else names

theorem effect_work {c : Call} (hc : r.isWork c = true) (names : List Text)
    (answer : Option PGresult) : r.effect names c answer = names := by
  have hcompleted : r.completed names c = names := by
    cases c with
    | prepare name statement => cases hc
    | exec statement => rw [completed, Option.isNone_iff_eq_none.mp hc, Option.elim_none]
    | execPrepared name nParams params => rfl
  rw [effect, hcompleted, ite_self]

variable (pq : Libpq)

def namesFrom (past : List Call) (names : List Text) : List Call → List Text
  | [] => names
  | c :: calls =>
    namesFrom (past ++ [c]) (r.effect names c (pq.answer (past ++ [c]))) calls

/-- The names that the server has after these calls. -/
def names (log : List Call) : List Text := r.namesFrom pq [] [] log

theorem namesFrom_append (past calls : List Call) (names : List Text) (c : Call) :
    r.namesFrom pq past names (calls ++ [c]) =
      r.effect (r.namesFrom pq past names calls) c (pq.answer (past ++ calls ++ [c])) := by
  induction calls generalizing past names with
  | nil =>
    rw [List.append_nil]
    rfl
  | cons d calls ih =>
    have h := ih (past ++ [d]) (r.effect names d (pq.answer (past ++ [d])))
    rwa [List.append_assoc past, List.singleton_append] at h

theorem names_append (log : List Call) (c : Call) :
    r.names pq (log ++ [c]) = r.effect (r.names pq log) c (pq.answer (log ++ [c])) := by
  rw [names, namesFrom_append, List.nil_append]
  rfl

def work (log : List Call) : List Call := log.filter r.isWork

end Reading

/-- What the server answers. Whether it accepts a statement may depend on the work it has done;
any error aborts an open transaction. -/
structure Server (pq : Libpq) extends Reading where
  accepts : List Call → Text → Bool
  transaction : List Call → Transaction
  connected : ∀ log, pq.connected log = true
  prepare_iff : ∀ log name statement, pq.answer (log ++ [.prepare name statement]) =
    some .commandOk ↔ name ∉ toReading.names pq log ∧ transaction log ≠ .aborted ∧
      accepts (toReading.work log) statement = true
  deallocate_iff : ∀ log name statement, deallocated statement = some name →
    (pq.answer (log ++ [.exec statement]) = some .commandOk ↔
      name ∈ toReading.names pq log ∧ transaction log ≠ .aborted)
  keeps : ∀ log c, toReading.isWork c = false → pq.answer (log ++ [c]) = some .commandOk →
    transaction (log ++ [c]) = transaction log
  aborts : ∀ log c, transaction log = .opened →
    (pq.answer (log ++ [c]) = none ∨ pq.answer (log ++ [c]) = some .failed) →
      transaction (log ++ [c]) = .aborted

/-! ### The calls of a result set -/

section

variable (pq : Libpq) (rt : Runtime)

/-- What the calls of one result set keep. -/
structure Kept (s s' : Session) : Prop where
  isOpen : s'.1.isOpen = true
  created : s'.1.created = s.1.created
  id : s'.2.id = s.2.id

theorem setError_isOpen {conn : TDBPostgreSQL} (h : conn.isOpen = true) (error : String)
    (append : Text) : (conn.setError error append).isOpen = true :=
  (TDBConnection.setError_isOpen _ _ _ _ _).trans h

variable {pq} (hconnected : ∀ log, pq.connected log = true)
include hconnected

theorem executeQuery_calls (statement : Text) {s : Session} (hopen : s.1.isOpen = true) :
    Kept s (executeQuery pq statement s).2 ∧
      (executeQuery pq statement s).2.2.preparedStatementName = s.2.preparedStatementName ∧
      (executeQuery pq statement s).2.1.log = s.1.log ++ [.exec statement] ∧
      (pq.answer (s.1.log ++ [.exec statement]) = some .commandOk →
        (executeQuery pq statement s).2.1.toTDBConnection = s.1.toTDBConnection) := by
  have hchecked : s.1.checked pq = s.1.toTDBConnection := by
    rw [TDBPostgreSQL.checked, hopen, hconnected, Bool.and_true, ← hopen]
  unfold executeQuery
  rw [hchecked]
  dsimp only
  rw [if_neg (by rw [hopen]; simp)]
  dsimp only [TDBPostgreSQL.call]
  split
  next hanswer => exact ⟨⟨hopen, rfl, rfl⟩, rfl, rfl, fun _ => rfl⟩
  next hanswer =>
    refine ⟨⟨setError_isOpen hopen _ _, rfl, rfl⟩, rfl, rfl, fun h => ?_⟩
    rw [hanswer] at h
    cases h
  · exact ⟨⟨hopen, rfl, rfl⟩, rfl, rfl, fun _ => rfl⟩
  · exact ⟨⟨hopen, rfl, rfl⟩, rfl, rfl, fun _ => rfl⟩

omit hconnected in
theorem execute_calls {s : Session} (hopen : s.1.isOpen = true) :
    Kept s (execute pq rt s).2 ∧
      (execute pq rt s).2.2.preparedStatementName = s.2.preparedStatementName ∧
      ∃ nParams params, (execute pq rt s).2.1.log =
        s.1.log ++ [.execPrepared s.2.preparedStatementName nParams params] := by
  unfold execute
  dsimp only [TDBPostgreSQL.call]
  split
  · exact ⟨⟨setError_isOpen hopen _ _, rfl, rfl⟩, rfl, _, _, rfl⟩
  · exact ⟨⟨setError_isOpen hopen _ _, rfl, rfl⟩, rfl, _, _, rfl⟩
  · exact ⟨⟨hopen, rfl, rfl⟩, rfl, _, _, rfl⟩
  · split_ifs
    · exact ⟨⟨hopen, rfl, rfl⟩, rfl, _, _, rfl⟩
    · exact ⟨⟨hopen, rfl, rfl⟩, rfl, _, _, rfl⟩

/-- The release of the remembered name, if there is one. -/
def releases (rs : TPostgreSQLResultSet) : List Call :=
  if rs.preparedStatementName = [] then [] else [.exec (deallocate rs.preparedStatementName)]

/-- The name that the next statement is prepared under. -/
def nextName (rs : TPostgreSQLResultSet) : Text :=
  if rs.preparedStatementName = [] then preparedName rs.id else rs.preparedStatementName

theorem releaseName_calls {s : Session} (hopen : s.1.isOpen = true) :
    Kept s (releaseName pq s) ∧ (releaseName pq s).2.preparedStatementName = nextName s.2 ∧
      (releaseName pq s).1.log = s.1.log ++ releases s.2 ∧
      ((∀ c ∈ releases s.2, pq.answer (s.1.log ++ [c]) = some .commandOk) →
        (releaseName pq s).1.toTDBConnection = s.1.toTDBConnection) := by
  unfold releaseName nextName releases
  split_ifs with hname
  · exact ⟨⟨hopen, rfl, rfl⟩, rfl, (List.append_nil _).symm, fun _ => rfl⟩
  · obtain ⟨hkept, hsame, hlog, hquiet⟩ :=
      executeQuery_calls hconnected (deallocate s.2.preparedStatementName) hopen
    exact ⟨⟨hkept.isOpen, hkept.created, hkept.id⟩, hsame, hlog,
      fun h => hquiet (h _ (List.mem_singleton_self _))⟩

theorem prepare_calls {statement : Text} (hstatement : statement ≠ []) {s : Session}
    (hopen : s.1.isOpen = true) :
    let log := s.1.log ++ releases s.2
    Kept s (prepare pq statement s).2 ∧
      (prepare pq statement s).2.2.preparedStatementName = nextName s.2 ∧
      (prepare pq statement s).2.1.log = log ++ [.prepare (nextName s.2) statement] ∧
      ((prepare pq statement s).1 = true ↔
        pq.answer (log ++ [.prepare (nextName s.2) statement]) = some .commandOk) ∧
      ((prepare pq statement s).1 = true →
        (∀ c ∈ releases s.2, pq.answer (s.1.log ++ [c]) = some .commandOk) →
        (prepare pq statement s).2.1.toTDBConnection = s.1.toTDBConnection) := by
  have hreleased := releaseName_calls hconnected (show (s.1, s.2.cleanup).1.isOpen = true from hopen)
  obtain ⟨hkept, hname, hlog, hquiet⟩ := hreleased
  have hquiet' : (∀ c ∈ releases s.2, pq.answer (s.1.log ++ [c]) = some .commandOk) →
    (releaseName pq (s.1, s.2.cleanup)).1.toTDBConnection = s.1.toTDBConnection := hquiet
  unfold prepare
  rw [if_neg (by rw [List.length_eq_zero_iff]; exact hstatement)]
  dsimp only [TDBPostgreSQL.call]
  rw [hlog, hname, show releases (s.1, s.2.cleanup).2 = releases s.2 from rfl,
    show nextName (s.1, s.2.cleanup).2 = nextName s.2 from rfl]
  dsimp only
  split
  next hanswer =>
    rw [hanswer]
    exact ⟨⟨hkept.isOpen, hkept.created, hkept.id⟩, rfl, rfl, by simp, fun _ => hquiet'⟩
  next hanswer =>
    rw [hanswer]
    exact ⟨⟨hkept.isOpen, hkept.created, hkept.id⟩, rfl, rfl, by simp, fun _ => hquiet'⟩
  next answer hother hanswer =>
    rw [hanswer]
    exact ⟨⟨setError_isOpen hkept.isOpen _ _, hkept.created, hkept.id⟩, hname, rfl,
      by simpa using hother, nofun⟩

theorem delete_log {s : Session} (hopen : s.1.isOpen = true) :
    (delete pq s).1.log = s.1.log ++ releases s.2 := by
  unfold delete releases
  split_ifs
  · exact (List.append_nil _).symm
  · exact (executeQuery_calls hconnected _ hopen).2.2.1

end

/-! ### Runs -/

inductive Step (r : Reading)
  | prepare (statement : Text)
  | execute
  /-- A statement of the program, which is not one of the client's releases. -/
  | executeQuery (statement : Text) (h : r.deallocated statement = none)
  /-- What the core does to its own part of the result set. -/
  | core (base : TQueryResultSet)

section

variable {pq : Libpq} (rt : Runtime) (S : Server pq)

def Step.apply (s : Session) : Step S.toReading → Session
  | .prepare statement => (TPostgreSQLResultSet.prepare pq statement s).2
  | .execute => (TPostgreSQLResultSet.execute pq rt s).2
  | .executeQuery statement _ => (TPostgreSQLResultSet.executeQuery pq statement s).2
  | .core base => (s.1, { s.2 with toTQueryResultSet := base })

def run (s : Session) (steps : List (Step S.toReading)) : Session := steps.foldl (Step.apply rt S) s

/-- The server would carry out a PREPARE of the statement under a new name. -/
def Ready (log : List Call) (statement : Text) : Prop :=
  S.transaction log ≠ .aborted ∧ S.accepts (S.work log) statement = true

/-- No statement is refused, and the last name is not released in an aborted transaction. -/
def Meets (s : Session) : List (Step S.toReading) → Prop
  | [] => s.2.preparedStatementName ≠ [] → S.transaction s.1.log ≠ .aborted
  | .prepare statement :: steps =>
    (statement ≠ [] → Ready S s.1.log statement) ∧ Meets (Step.apply rt S s (.prepare statement)) steps
  | step :: steps => Meets (step.apply rt S s) steps

/-- A name is released where the server has it, and taken where it does not. -/
def Legal (log : List Call) : Call → Prop
  | .prepare name _ => name ∉ S.names pq log
  | .exec statement => ∀ name, S.deallocated statement = some name → name ∈ S.names pq log
  | .execPrepared _ _ _ => True

/-- The calls after the first ones are legal. -/
def AllLegal (first log : List Call) : Prop :=
  ∀ before c, first <+: before → before ++ [c] <+: log → Legal S before c

/-- The statement is prepared as by an object that was just made. -/
def AsFresh (statement : Text) (s : Session) : Prop :=
  let r := prepare pq statement s
  let fresh := prepare pq statement (createResultSet s.1)
  r.1 = fresh.1 ∧ r.2.1.toTDBConnection = fresh.2.1.toTDBConnection ∧
    S.transaction r.2.1.log = S.transaction fresh.2.1.log

/-- The server has the name that the client remembers, and no name of an object to come. -/
structure Clean (s : Session) : Prop where
  isOpen : s.1.isOpen = true
  id_lt : s.2.id < s.1.created
  later : ∀ id, s.1.created ≤ id → preparedName id ∉ S.names pq s.1.log
  name : s.2.preparedStatementName = [] ∧ preparedName s.2.id ∉ S.names pq s.1.log ∨
    s.2.preparedStatementName = preparedName s.2.id ∧ preparedName s.2.id ∈ S.names pq s.1.log

/-- The client remembers a name that the server does not have. -/
structure Dangling (s : Session) : Prop where
  isOpen : s.1.isOpen = true
  name : s.2.preparedStatementName = preparedName s.2.id
  absent : preparedName s.2.id ∉ S.names pq s.1.log

variable {S}

theorem allLegal_refl (first : List Call) : AllLegal S first first := by
  intro before c hbefore hlog
  have h := hbefore.length_le
  have h' := hlog.length_le
  rw [List.length_append, List.length_singleton] at h'
  omega

theorem allLegal_append {first log : List Call} (hfirst : first <+: log) (c : Call) :
    AllLegal S first (log ++ [c]) ↔ AllLegal S first log ∧ Legal S log c := by
  constructor
  · intro h
    exact ⟨fun before d hbefore hlog => h before d hbefore (hlog.trans (List.prefix_append _ _)),
      h log c hfirst (List.prefix_refl _)⟩
  · rintro ⟨hall, hlast⟩ before d hbefore hlog
    obtain heq | hlog := List.prefix_concat_iff.mp hlog
    · obtain ⟨rfl, hd⟩ := List.append_inj' heq rfl
      obtain rfl := List.singleton_inj.mp hd
      exact hlast
    · exact hall before d hbefore hlog

theorem legal_work {c : Call} (hc : S.isWork c = true) (log : List Call) : Legal S log c := by
  cases c with
  | prepare name statement => cases hc
  | execPrepared name nParams params => trivial
  | exec statement =>
    intro name hname
    rw [Reading.isWork, hname] at hc
    cases hc

/-! ### Steps that prepare nothing -/

theorem names_append_work {calls : List Call} (hcalls : ∀ c ∈ calls, S.isWork c = true)
    (log : List Call) : S.names pq (log ++ calls) = S.names pq log := by
  induction calls using List.reverseRecOn with
  | nil => rw [List.append_nil]
  | append_singleton calls c ih =>
    rw [← List.append_assoc, Reading.names_append, Reading.effect_work _ (hcalls c (by simp)),
      ih fun d hd => hcalls d (List.mem_append_left _ hd)]

theorem allLegal_append_work {first log calls : List Call} (hfirst : first <+: log)
    (hcalls : ∀ c ∈ calls, S.isWork c = true) :
    AllLegal S first (log ++ calls) ↔ AllLegal S first log := by
  induction calls using List.reverseRecOn with
  | nil => rw [List.append_nil]
  | append_singleton calls c ih =>
    rw [← List.append_assoc, allLegal_append (hfirst.trans (List.prefix_append _ _)),
      ih fun d hd => hcalls d (List.mem_append_left _ hd)]
    exact and_iff_left (legal_work (hcalls c (by simp)) _)

/-- A step that takes and releases no name. -/
structure Quiet (s s' : Session) : Prop where
  kept : Kept s s'
  name : s'.2.preparedStatementName = s.2.preparedStatementName
  calls : ∃ calls, (∀ c ∈ calls, S.isWork c = true) ∧ s'.1.log = s.1.log ++ calls

variable {s s' : Session}

theorem Quiet.names (h : Quiet (S := S) s s') : S.names pq s'.1.log = S.names pq s.1.log := by
  obtain ⟨calls, hcalls, hlog⟩ := h.calls
  rw [hlog, names_append_work hcalls]

theorem Quiet.allLegal (h : Quiet (S := S) s s') {first : List Call} (hfirst : first <+: s.1.log) :
    first <+: s'.1.log ∧ (AllLegal S first s'.1.log ↔ AllLegal S first s.1.log) := by
  obtain ⟨calls, hcalls, hlog⟩ := h.calls
  rw [hlog]
  exact ⟨hfirst.trans (List.prefix_append _ _), allLegal_append_work hfirst hcalls⟩

theorem Clean.quiet (hs : Clean S s) (h : Quiet (S := S) s s') : Clean S s' := by
  refine ⟨h.kept.isOpen, ?_, ?_, ?_⟩
  · rw [h.kept.id, h.kept.created]
    exact hs.id_lt
  · rw [h.names, h.kept.created]
    exact hs.later
  · rw [h.names, h.name, h.kept.id]
    exact hs.name

theorem Dangling.quiet (hs : Dangling S s) (h : Quiet (S := S) s s') : Dangling S s' := by
  refine ⟨h.kept.isOpen, ?_, ?_⟩
  · rw [h.name, h.kept.id]
    exact hs.name
  · rw [h.names, h.kept.id]
    exact hs.absent

theorem prepare_nil (hopen : s.1.isOpen = true) :
    Quiet (S := S) s (TPostgreSQLResultSet.prepare pq [] s).2 :=
  ⟨⟨hopen, rfl, rfl⟩, rfl, [], nofun, (List.append_nil _).symm⟩

theorem quiet_execute (hopen : s.1.isOpen = true) :
    Quiet (S := S) s (TPostgreSQLResultSet.execute pq rt s).2 := by
  obtain ⟨hkept, hname, nParams, params, hlog⟩ := execute_calls rt hopen
  exact ⟨hkept, hname, _, fun c hc => by rw [List.mem_singleton.mp hc]; rfl, hlog⟩

theorem quiet_executeQuery {statement : Text} (h : S.deallocated statement = none)
    (hopen : s.1.isOpen = true) :
    Quiet (S := S) s (TPostgreSQLResultSet.executeQuery pq statement s).2 := by
  obtain ⟨hkept, hname, hlog, -⟩ := executeQuery_calls S.connected statement hopen
  refine ⟨hkept, hname, _, fun c hc => ?_, hlog⟩
  rw [List.mem_singleton.mp hc, Reading.isWork, h]
  rfl

theorem quiet_core (base : TQueryResultSet) (hopen : s.1.isOpen = true) :
    Quiet (S := S) s (s.1, { s.2 with toTQueryResultSet := base }) :=
  ⟨⟨hopen, rfl, rfl⟩, rfl, [], nofun, (List.append_nil _).symm⟩

/-- Every step but the preparation of a statement is quiet. -/
theorem Step.cases_quiet (step : Step S.toReading) (hopen : s.1.isOpen = true) :
    (∃ statement, statement ≠ [] ∧ step = .prepare statement) ∨
      Quiet (S := S) s (step.apply rt S s) ∧
        ∀ steps, Meets rt S s (step :: steps) ↔ Meets rt S (step.apply rt S s) steps := by
  cases step with
  | prepare statement =>
    by_cases hstatement : statement = []
    · subst hstatement
      exact .inr ⟨prepare_nil hopen, fun steps => and_iff_right (absurd rfl)⟩
    · exact .inl ⟨statement, hstatement, rfl⟩
  | execute => exact .inr ⟨quiet_execute rt hopen, fun steps => Iff.rfl⟩
  | executeQuery statement h => exact .inr ⟨quiet_executeQuery h hopen, fun steps => Iff.rfl⟩
  | core base => exact .inr ⟨quiet_core base hopen, fun steps => Iff.rfl⟩

/-! ### Preparations -/

theorem Clean.nextName_eq (hs : Clean S s) : nextName s.2 = preparedName s.2.id := by
  unfold nextName
  obtain ⟨hname, -⟩ | ⟨hname, -⟩ := hs.name
  · rw [if_pos hname]
  · rw [hname, ite_self]

theorem effect_deallocate (names : List Text) (id : ℕ) (answer : Option PGresult) :
    S.effect names (.exec (deallocate (preparedName id))) answer =
      if answer = some .commandOk then names.filter (· ≠ preparedName id) else names := by
  rw [Reading.effect, Reading.completed, S.deallocated_name, Option.elim_some]

/-- The release of a name that the server has succeeds outside of an aborted transaction. -/
theorem Clean.released (hs : Clean S s) (hopened : S.transaction s.1.log ≠ .aborted) :
    preparedName s.2.id ∉ S.names pq (s.1.log ++ releases s.2) ∧
      (∀ id, s.1.created ≤ id → preparedName id ∉ S.names pq (s.1.log ++ releases s.2)) ∧
      (∀ c ∈ releases s.2, pq.answer (s.1.log ++ [c]) = some .commandOk) ∧
      S.transaction (s.1.log ++ releases s.2) = S.transaction s.1.log ∧
      S.work (s.1.log ++ releases s.2) = S.work s.1.log := by
  obtain ⟨hname, habsent⟩ | ⟨hname, hpresent⟩ := hs.name
  · rw [releases, if_pos hname, List.append_nil]
    exact ⟨habsent, hs.later, nofun, rfl, rfl⟩
  · rw [releases, hname, if_neg (preparedName_ne_nil _)]
    have hanswer := (S.deallocate_iff s.1.log _ _ (S.deallocated_name s.2.id)).mpr
      ⟨hpresent, hopened⟩
    have hnotWork : S.isWork (.exec (deallocate (preparedName s.2.id))) = false := by
      rw [Reading.isWork, S.deallocated_name]
      rfl
    rw [Reading.names_append, effect_deallocate, if_pos hanswer]
    refine ⟨by simp, fun id hid hmem => hs.later id hid (List.mem_of_mem_filter hmem), ?_,
      S.keeps _ _ hnotWork hanswer, ?_⟩
    · intro c hc
      rwa [List.mem_singleton.mp hc]
    · rw [Reading.work, List.filter_append,
        List.filter_cons_of_neg (by rw [hnotWork]; exact Bool.false_ne_true), List.filter_nil,
        List.append_nil]
      rfl

theorem Clean.allLegal_releases (hs : Clean S s) {first : List Call} (hfirst : first <+: s.1.log) :
    AllLegal S first (s.1.log ++ releases s.2) ↔ AllLegal S first s.1.log := by
  obtain ⟨hname, -⟩ | ⟨hname, hpresent⟩ := hs.name
  · rw [releases, if_pos hname, List.append_nil]
  · rw [releases, hname, if_neg (preparedName_ne_nil _), allLegal_append hfirst]
    refine and_iff_left fun name hread => ?_
    rw [S.deallocated_name] at hread
    rwa [← Option.some.inj hread]

/-- A name that the server does not have any more was released, so no transaction was aborted. -/
theorem Clean.not_aborted (hs : Clean S s)
    (habsent : preparedName s.2.id ∉ S.names pq (s.1.log ++ releases s.2))
    (hopened : S.transaction (s.1.log ++ releases s.2) ≠ .aborted) :
    S.transaction s.1.log ≠ .aborted := by
  obtain ⟨hname, -⟩ | ⟨hname, hpresent⟩ := hs.name
  · rwa [releases, if_pos hname, List.append_nil] at hopened
  · rw [releases, hname, if_neg (preparedName_ne_nil _), Reading.names_append, effect_deallocate]
      at habsent
    split_ifs at habsent with hanswer
    · exact ((S.deallocate_iff _ _ _ (S.deallocated_name _)).mp hanswer).2
    · exact absurd hpresent habsent

theorem Clean.prepare_ready (hs : Clean S s) {statement : Text} (hstatement : statement ≠ [])
    (hready : Ready S s.1.log statement) :
    (prepare pq statement s).1 = true ∧ Clean S (prepare pq statement s).2 ∧
      (prepare pq statement s).2.1.toTDBConnection = s.1.toTDBConnection ∧
      S.transaction (prepare pq statement s).2.1.log = S.transaction s.1.log ∧
      ∀ first, first <+: s.1.log → AllLegal S first s.1.log →
        first <+: (prepare pq statement s).2.1.log ∧
          AllLegal S first (prepare pq statement s).2.1.log := by
  obtain ⟨habsent, hlater, hreleased, htransaction, hwork⟩ := hs.released hready.1
  obtain ⟨hkept, hname, hlog, hok, hquiet⟩ := prepare_calls S.connected hstatement hs.isOpen
  rw [hs.nextName_eq] at hname hlog hok
  have hanswer := (S.prepare_iff (s.1.log ++ releases s.2) (preparedName s.2.id) statement).mpr
    ⟨habsent, htransaction ▸ hready.1, hwork ▸ hready.2⟩
  have htrue := hok.mpr hanswer
  have hnames : S.names pq (prepare pq statement s).2.1.log =
      preparedName s.2.id :: S.names pq (s.1.log ++ releases s.2) := by
    rw [hlog, Reading.names_append, Reading.effect, if_pos hanswer, Reading.completed]
  refine ⟨htrue, ⟨hkept.isOpen, ?_, ?_, .inr ?_⟩, hquiet htrue hreleased, ?_, ?_⟩
  · rw [hkept.id, hkept.created]
    exact hs.id_lt
  · rw [hnames, hkept.created]
    intro id hid hmem
    obtain heq | hmem := List.mem_cons.mp hmem
    · exact absurd (preparedName_injective heq) (hs.id_lt.trans_le hid).ne'
    · exact hlater id hid hmem
  · rw [hname, hnames, hkept.id]
    exact ⟨rfl, List.mem_cons_self⟩
  · rw [hlog, S.keeps _ _ rfl hanswer, htransaction]
  · intro first hfirst hlegal
    rw [hlog, allLegal_append (hfirst.trans (List.prefix_append _ _)),
      hs.allLegal_releases hfirst, List.append_assoc]
    exact ⟨hfirst.trans (List.prefix_append _ _), hlegal, habsent⟩

/-- A refused preparation takes a name twice, or it leaves one that the server does not have. -/
theorem Clean.prepare_refused (hs : Clean S s) {statement : Text} (hstatement : statement ≠ [])
    (hrefused : ¬ Ready S s.1.log statement) {first : List Call} (hfirst : first <+: s.1.log) :
    ¬ AllLegal S first (prepare pq statement s).2.1.log ∨ Dangling S (prepare pq statement s).2 := by
  obtain ⟨hkept, hname, hlog, -, -⟩ := prepare_calls S.connected hstatement hs.isOpen
  rw [hs.nextName_eq] at hname hlog
  by_cases hlegal : preparedName s.2.id ∈ S.names pq (s.1.log ++ releases s.2)
  · left
    rw [hlog, allLegal_append (hfirst.trans (List.prefix_append _ _))]
    exact fun h => h.2 hlegal
  · right
    have hanswer : pq.answer (s.1.log ++ releases s.2 ++ [.prepare (preparedName s.2.id) statement]) ≠
        some .commandOk := by
      intro h
      obtain ⟨-, hopened, haccepts⟩ := (S.prepare_iff _ _ _).mp h
      have hidle := hs.not_aborted hlegal hopened
      obtain ⟨-, -, -, -, hwork⟩ := hs.released hidle
      exact hrefused ⟨hidle, hwork ▸ haccepts⟩
    refine ⟨hkept.isOpen, by rw [hname, hkept.id], ?_⟩
    rwa [hlog, Reading.names_append, Reading.effect, if_neg hanswer, hkept.id]

/-! ### Whole runs -/

variable (S) in
/-- The log after the run and the end of the result set. -/
def finalLog (s : Session) (steps : List (Step S.toReading)) : List Call :=
  (delete pq (run rt S s steps)).1.log

theorem AllLegal.of_initial {first log log' : List Call} (h : AllLegal S first log')
    (hlog : log <+: log') : AllLegal S first log :=
  fun before c hbefore hc => h before c hbefore (hc.trans hlog)

theorem Step.extends (step : Step S.toReading) (hopen : s.1.isOpen = true) :
    (step.apply rt S s).1.isOpen = true ∧ s.1.log <+: (step.apply rt S s).1.log := by
  obtain ⟨statement, hstatement, rfl⟩ | ⟨hquiet, -⟩ := step.cases_quiet rt hopen
  · obtain ⟨hkept, -, hlog, -⟩ := prepare_calls S.connected hstatement hopen
    refine ⟨hkept.isOpen, ?_⟩
    rw [Step.apply, hlog, List.append_assoc]
    exact List.prefix_append _ _
  · exact ⟨hquiet.kept.isOpen, (hquiet.allLegal (List.prefix_refl _)).1⟩

theorem finalLog_extends (steps : List (Step S.toReading)) (hopen : s.1.isOpen = true) :
    s.1.log <+: finalLog rt S s steps := by
  induction steps generalizing s with
  | nil =>
    rw [finalLog, run, List.foldl_nil, delete_log S.connected hopen]
    exact List.prefix_append _ _
  | cons step steps ih =>
    obtain ⟨hopen', hlog⟩ := step.extends rt hopen
    exact hlog.trans (ih hopen')

theorem Dangling.release_illegal (hs : Dangling S s) {first : List Call}
    (hfirst : first <+: s.1.log) : ¬ AllLegal S first (s.1.log ++ releases s.2) := by
  rw [releases, hs.name, if_neg (preparedName_ne_nil _), allLegal_append hfirst]
  exact fun h => hs.absent (h.2 _ (S.deallocated_name _))

/-- The release of a name that the server does not have comes sooner or later. -/
theorem Dangling.illegal (hs : Dangling S s) {first : List Call} (hfirst : first <+: s.1.log)
    (steps : List (Step S.toReading)) : ¬ AllLegal S first (finalLog rt S s steps) := by
  induction steps generalizing s with
  | nil =>
    rw [finalLog, run, List.foldl_nil, delete_log S.connected hs.isOpen]
    exact hs.release_illegal hfirst
  | cons step steps ih =>
    obtain ⟨statement, hstatement, rfl⟩ | ⟨hquiet, -⟩ := step.cases_quiet rt hs.isOpen
    · obtain ⟨hkept, -, hlog, -⟩ := prepare_calls S.connected hstatement hs.isOpen
      refine fun h => hs.release_illegal hfirst (h.of_initial (List.IsPrefix.trans ?_
        (finalLog_extends rt steps hkept.isOpen)))
      rw [Step.apply, hlog]
      exact List.prefix_append _ _
    · exact ih (hs.quiet hquiet) (hquiet.allLegal hfirst).1

theorem Clean.final_nil (hs : Clean S s) {first : List Call} (hfirst : first <+: s.1.log)
    (hlegal : AllLegal S first s.1.log) :
    AllLegal S first (finalLog rt S s []) ∧
      (preparedName s.2.id ∉ S.names pq (finalLog rt S s []) ↔ Meets rt S s []) := by
  rw [finalLog, run, List.foldl_nil, delete_log S.connected hs.isOpen]
  refine ⟨(hs.allLegal_releases hfirst).mpr hlegal, ?_⟩
  obtain ⟨hname, habsent⟩ | ⟨hname, hpresent⟩ := hs.name
  · rw [releases, if_pos hname, List.append_nil]
    exact iff_of_true habsent fun h => absurd hname h
  · have hmeets : Meets rt S s [] ↔ S.transaction s.1.log ≠ .aborted := by
      rw [Meets, hname]
      exact imp_iff_right (preparedName_ne_nil _)
    rw [hmeets, releases, hname, if_neg (preparedName_ne_nil _), Reading.names_append,
      effect_deallocate]
    split_ifs with hanswer
    · exact iff_of_true (by simp) ((S.deallocate_iff _ _ _ (S.deallocated_name _)).mp hanswer).2
    · exact iff_of_false (not_not_intro hpresent) fun h => hanswer
        ((S.deallocate_iff _ _ _ (S.deallocated_name _)).mpr ⟨hpresent, h⟩)

/-- The calls are legal and no name is left if and only if no statement is refused. -/
theorem Clean.legal_iff (hs : Clean S s) {first : List Call} (hfirst : first <+: s.1.log)
    (hlegal : AllLegal S first s.1.log) (steps : List (Step S.toReading)) :
    (AllLegal S first (finalLog rt S s steps) ∧
      preparedName s.2.id ∉ S.names pq (finalLog rt S s steps)) ↔ Meets rt S s steps := by
  induction steps generalizing s with
  | nil =>
    obtain ⟨hfinal, hreleased⟩ := hs.final_nil rt hfirst hlegal
    rw [and_iff_right hfinal, hreleased]
  | cons step steps ih =>
    have hid : (step.apply rt S s).2.id = s.2.id := by
      obtain ⟨statement, hstatement, rfl⟩ | ⟨hquiet, -⟩ := step.cases_quiet rt hs.isOpen
      · exact (prepare_calls S.connected hstatement hs.isOpen).1.id
      · exact hquiet.kept.id
    obtain ⟨statement, hstatement, rfl⟩ | ⟨hquiet, hmeets⟩ := step.cases_quiet rt hs.isOpen
    · rw [Meets, imp_iff_right hstatement]
      by_cases hready : Ready S s.1.log statement
      · obtain ⟨-, hs', -, -, hlegal'⟩ := hs.prepare_ready hstatement hready
        obtain ⟨hfirst', hlegal'⟩ := hlegal' first hfirst hlegal
        rw [and_iff_right hready, ← hid]
        exact ih hs' hfirst' hlegal'
      · refine iff_of_false (fun h => ?_) fun h => hready h.1
        obtain hillegal | hdangling := hs.prepare_refused hstatement hready hfirst
        · exact hillegal (h.1.of_initial (finalLog_extends rt steps
            (prepare_calls S.connected hstatement hs.isOpen).1.isOpen))
        · obtain ⟨-, hextends⟩ := (Step.prepare (r := S.toReading) statement).extends rt hs.isOpen
          exact hdangling.illegal rt (hfirst.trans hextends) steps h.1
    · obtain ⟨hfirst', hlegal'⟩ := hquiet.allLegal hfirst
      rw [hmeets, ← hid]
      exact ih (hs.quiet hquiet) hfirst' (hlegal'.mpr hlegal)

/-- What the condition says of a whole run it says of its parts. -/
theorem Clean.meets_run (hs : Clean S s) (done rest : List (Step S.toReading))
    (h : Meets rt S s (done ++ rest)) :
    Clean S (run rt S s done) ∧ Meets rt S (run rt S s done) rest := by
  induction done generalizing s with
  | nil => exact ⟨hs, h⟩
  | cons step done ih =>
    obtain ⟨statement, hstatement, rfl⟩ | ⟨hquiet, hmeets⟩ := step.cases_quiet rt hs.isOpen
    · exact ih (hs.prepare_ready hstatement (h.1 hstatement)).2.1 h.2
    · exact ih (hs.quiet hquiet) ((hmeets _).mp h)

theorem Clean.createResultSet (hs : Clean S s) : Clean S (createResultSet s.1) :=
  ⟨hs.isOpen, Nat.lt_succ_self _, fun id hid => hs.later id (Nat.le_of_succ_le hid),
    .inl ⟨rfl, hs.later _ le_rfl⟩⟩

theorem Clean.asFresh (hs : Clean S s) {statement : Text}
    (h : statement ≠ [] → Ready S s.1.log statement) : AsFresh S statement s := by
  by_cases hstatement : statement = []
  · subst hstatement
    exact ⟨rfl, rfl, rfl⟩
  · obtain ⟨htrue, -, hconn, htransaction, -⟩ := hs.prepare_ready hstatement (h hstatement)
    obtain ⟨htrue', -, hconn', htransaction', -⟩ :=
      hs.createResultSet.prepare_ready hstatement (h hstatement)
    exact ⟨htrue.trans htrue'.symm, hconn.trans hconn'.symm, htransaction.trans htransaction'.symm⟩

/-- The names on the server are those that the client accounts for. -/
structure Accounted (steps : List (Step S.toReading)) (s : Session) : Prop where
  legal : AllLegal S s.1.log (finalLog rt S s steps)
  released : preparedName s.2.id ∉ S.names pq (finalLog rt S s steps)
  fresh : ∀ done failed next, done ++ [.prepare failed, .prepare next] <+: steps →
    (prepare pq failed (run rt S s done)).1 = false →
      AsFresh S next (prepare pq failed (run rt S s done)).2

end

/-! ### A server -/

def readRelease (statement : Text) : Option Text :=
  if "DEALLOCATE \"".toList <+: statement then some (statement.drop 12).dropLast else none

def reading : Reading where
  deallocated := readRelease
  deallocated_name id := by
    rw [readRelease, if_pos ⟨preparedName id ++ ['"'], rfl⟩]
    exact congrArg some (List.dropLast_concat ..)

structure ServerState where
  names : List Text
  transaction : Transaction

namespace ServerState

variable (accepted : List Text) (st : ServerState)

def answer : Call → PGresult
  | .prepare name statement =>
    if name ∉ st.names ∧ st.transaction ≠ .aborted ∧ statement ∈ accepted then .commandOk else .failed
  | .exec statement =>
    match readRelease statement with
    | some name => if name ∈ st.names ∧ st.transaction ≠ .aborted then .commandOk else .failed
    | none => if st.transaction = .aborted ∧ statement ≠ "ROLLBACK".toList then .failed else .commandOk
  | .execPrepared name _ _ =>
    if name ∈ st.names ∧ st.transaction ≠ .aborted then .commandOk else .failed

def transactionAfter (c : Call) : Transaction :=
  if st.answer accepted c = .failed then
    if st.transaction = .opened then .aborted else st.transaction
  else if c = .exec "BEGIN".toList then .opened
  else if c = .exec "ROLLBACK".toList then .idle
  else st.transaction

def next (c : Call) : ServerState :=
  ⟨reading.effect st.names c (some (st.answer accepted c)), st.transactionAfter accepted c⟩

def after (log : List Call) : ServerState := log.foldl (next accepted) ⟨[], .idle⟩

end ServerState

section

variable (accepted : List Text)

def serving : Libpq where
  answer log := log.getLast?.map ((ServerState.after accepted log.dropLast).answer accepted)
  connected _ := true
  errorMessage _ := []
  unescapeBytea _ := []
  sizeT := 8

theorem serving_answer (log : List Call) (c : Call) : (serving accepted).answer (log ++ [c]) =
    some ((ServerState.after accepted log).answer accepted c) := by
  simp [serving]

theorem after_append (log : List Call) (c : Call) : ServerState.after accepted (log ++ [c]) =
    (ServerState.after accepted log).next accepted c := by
  rw [ServerState.after, List.foldl_append]
  rfl

theorem serving_names (log : List Call) :
    reading.names (serving accepted) log = (ServerState.after accepted log).names := by
  induction log using List.reverseRecOn with
  | nil => rfl
  | append_singleton log c ih =>
    rw [Reading.names_append, serving_answer, ih, after_append]
    rfl

def server : Server (serving accepted) where
  toReading := reading
  accepts _ statement := statement ∈ accepted
  transaction log := (ServerState.after accepted log).transaction
  connected _ := rfl
  prepare_iff log name statement := by
    rw [serving_answer, serving_names]
    simp [ServerState.answer]
  deallocate_iff log name statement h := by
    have hread : readRelease statement = some name := h
    rw [serving_answer, serving_names]
    simp [ServerState.answer, hread]
  keeps log c hc hanswer := by
    have hok : (ServerState.after accepted log).answer accepted c ≠ .failed := by
      rw [serving_answer] at hanswer
      rw [Option.some.inj hanswer]
      exact nofun
    have hother (statement : Text) (h : readRelease statement = none) : c ≠ .exec statement := by
      rintro rfl
      exact absurd (hc.symm.trans (congrArg Option.isNone h)) Bool.false_ne_true
    rw [after_append, ServerState.next, ServerState.transactionAfter, if_neg hok,
      if_neg (hother _ (by decide)), if_neg (hother _ (by decide))]
  aborts log c hopened hanswer := by
    have hfailed : (ServerState.after accepted log).answer accepted c = .failed := by
      simpa [serving_answer] using hanswer
    rw [after_append, ServerState.next, ServerState.transactionAfter, if_pos hfailed,
      if_pos hopened]

end

open PostgresParameters (plain opened)

def selecting : List Text := ["SELECT 1".toList]

/-- A statement is misspelt, a transaction begins, and the right statement is prepared. -/
def misspelt : Session :=
  run plain (server selecting) (createResultSet opened)
    [.prepare "SELEC 1".toList, .executeQuery "BEGIN".toList (by decide)]

end DatabaseMod.PostgresPreparedNames
