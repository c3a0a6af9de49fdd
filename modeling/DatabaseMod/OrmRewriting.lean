import DatabaseMod.OrmAlignment
import DatabaseMod.OrmQuoting

/-!
# Rewriting generated statements

The PostgreSQL dialect rewrites the whole text of a statement. Names stay as they are, whatever
they hold, and a condition with closed quotes is rewritten as it would be alone.
-/

namespace DatabaseMod.OrmRewriting
open SqlTokens SqlReading SqlPieces OrmModel OrmStatements OrmStatementReading OrmQuoting
open OrmPostgresPlaceholders (rewritePlaceholders rewritePlaceholders_eq renumber)

/-! ### Texts with closed quotes -/

/-- The quote that is open behind a text. -/
def openQuote : Option Char → Text → Option Char
  | q, [] => q
  | none, c :: s => openQuote (if c = '\'' ∨ c = '"' then some c else none) s
  | some q, c :: s => openQuote (if c = q then none else some q) s

def Balanced (s : Text) : Prop := openQuote none s = none

instance (s : Text) : Decidable (Balanced s) := inferInstanceAs (Decidable (openQuote none s = none))

/-- A run that is closed ends before what follows, and leaves a balanced text. -/
theorem quotedRun_closed {q : Char} (hq : q = '\'' ∨ q = '"') {s t : Text}
    (h : openQuote (some q) s = none) (ht : t.head? ≠ some q) :
    quotedRun q (s ++ t) = ((quotedRun q s).1, (quotedRun q s).2 ++ t) ∧
      Balanced (quotedRun q s).2 := by
  fun_induction quotedRun q s with
  | case1 => cases h
  | case2 c =>
    by_cases hc : c = q
    · subst hc
      exact ⟨quotedRun_close ht, rfl⟩
    · simp [openQuote, hc] at h
  | case3 rest ih =>
    have hrest : openQuote (some q) rest = none := by simpa [openQuote, hq] using h
    obtain ⟨hrun, hbalanced⟩ := ih hrest
    exact ⟨by simp [quotedRun, hrun], hbalanced⟩
  | case4 d rest hd =>
    refine ⟨by simp [quotedRun, hd], ?_⟩
    simpa [Balanced, openQuote] using h
  | case5 c d rest hc ih =>
    have hrest : openQuote (some q) (d :: rest) = none := by
      rw [openQuote, if_neg hc] at h
      exact h
    obtain ⟨hrun, hbalanced⟩ := ih hrest
    refine ⟨?_, hbalanced⟩
    rw [List.cons_append, quotedRun_cons hc, hrun]

/-- The tokens of a balanced text do not depend on what follows it. -/
theorem tokens_balanced {w s : Text} (hw : Balanced w) (hs : Boundary s) :
    tokens (w ++ s) = tokens w ++ tokens s := by
  fun_induction tokens w with
  | case1 => simp
  | case2 rest ih =>
    obtain ⟨hrun, hrest⟩ := quotedRun_closed (t := s) (.inl rfl) hw (hs.head_ne (by decide))
    rw [List.cons_append, tokens, if_pos rfl, hrun, ih hrest]
    rfl
  | case3 rest _ ih =>
    obtain ⟨hrun, hrest⟩ := quotedRun_closed (t := s) (.inr rfl) hw (hs.head_ne (by decide))
    rw [List.cons_append, tokens, if_neg (by decide), if_pos rfl, hrun, ih hrest]
    rfl
  | case4 rest hnext _ _ ih =>
    obtain ⟨rest', rfl⟩ := List.head?_eq_some_iff.mp hnext
    have hrest : Balanced rest' := hw
    rw [List.cons_append, tokens, if_neg (by decide), if_neg (by decide), if_pos rfl,
      if_pos (by simp)]
    simpa using ih hrest
  | case5 rest hnext _ _ ih =>
    have hnext' : (rest ++ s).head? ≠ some '?' := by
      cases rest with
      | nil => exact hs.head_ne (by decide)
      | cons c rest => exact hnext
    rw [List.cons_append, tokens_mark hnext', ih hw]
    rfl
  | case6 c rest hs' hd hm ih =>
    have hrest : Balanced rest := by simpa [Balanced, openQuote, hs', hd] using hw
    rw [List.cons_append, tokens, if_neg hs', if_neg hd, if_neg hm, ih hrest]
    rfl

/-! ### Rewriting token by token -/

theorem renumber_append (k : ℕ) (ts ts' : List Token) :
    renumber k (ts ++ ts') = renumber k ts ++ renumber (k + ts.count .mark) ts' := by
  induction ts generalizing k with
  | nil => rfl
  | cons t ts ih =>
    cases t with
    | mark =>
      rw [List.cons_append, renumber, ih, List.count_cons_self, renumber, List.cons_append,
        Nat.add_right_comm, Nat.add_assoc]
    | literal run => simp [renumber, ih]
    | identifier run => simp [renumber, ih]
    | pair => simp [renumber, ih]
    | other c => simp [renumber, ih]

theorem renumber_plain (k : ℕ) (p : Text) :
    (renumber k (p.map Token.other)).flatMap OrmPostgresPlaceholders.Piece.text = p := by
  induction p with
  | nil => rfl
  | cons c p ih =>
    rw [List.map_cons, renumber, List.flatMap_cons, ih]
    rfl

/-- A text that rewriting copies, whatever follows it. -/
structure Neutral (t : Text) : Prop where
  tokens_append : ∀ s, Boundary s → tokens (t ++ s) = tokens t ++ tokens s
  no_mark : Token.mark ∉ tokens t
  no_pair : Token.pair ∉ tokens t

theorem Neutral.renumber {t : Text} (h : Neutral t) (k : ℕ) :
    (renumber k (tokens t)).flatMap OrmPostgresPlaceholders.Piece.text = t := by
  rw [OrmPostgresPlaceholders.renumber_unmarked k _ h.no_mark h.no_pair, tokens_text]

theorem Neutral.append {t t' : Text} (h : Neutral t) (h' : Neutral t') (hb : Boundary t') :
    Neutral (t ++ t') := by
  have htokens := h.tokens_append t' hb
  refine ⟨fun s hs => ?_, ?_, ?_⟩
  · rw [List.append_assoc, h.tokens_append _ (hb.append hs), h'.tokens_append s hs, htokens,
      List.append_assoc]
  · rw [htokens, List.mem_append, not_or]
    exact ⟨h.no_mark, h'.no_mark⟩
  · rw [htokens, List.mem_append, not_or]
    exact ⟨h.no_pair, h'.no_pair⟩

theorem neutral_nil : Neutral [] := ⟨fun s _ => by simp [tokens], by simp [tokens], by simp [tokens]⟩

theorem neutral_of_lexes {t : Text} {ps : List Piece} (h : Lexes t ps) (hps : Piece.mark ∉ ps) :
    Neutral t := by
  have hpieces (x : Token) (hx : x = .mark ∨ x = .pair) : x ∉ tokens t := by
    rw [h.tokens_eq, List.mem_flatMap]
    rintro ⟨piece, hpiece, hx'⟩
    cases piece with
    | plain p =>
      obtain ⟨c, -, rfl⟩ := List.mem_map.mp hx'
      rcases hx with hx | hx <;> cases hx
    | mark => exact hps hpiece
    | name n =>
      obtain rfl := List.mem_singleton.mp hx'
      rcases hx with hx | hx <;> cases hx
  refine ⟨fun s hs => ?_, hpieces _ (.inl rfl), hpieces _ (.inr rfl)⟩
  rw [h s hs, h.tokens_eq]

/-! ### Conditions -/

/-- Rewriting keeps blank texts blank and others not. -/
theorem trim_rewritePlaceholders (s : Text) : trim (rewritePlaceholders s) = [] ↔ trim s = [] := by
  have hpieces (k : ℕ) (ts : List Token) :
      (∀ c ∈ (renumber k ts).flatMap OrmPostgresPlaceholders.Piece.text, c ≤ ' ') ↔
        ∀ c ∈ ts.flatMap Token.text, c ≤ ' ' := by
    induction ts generalizing k with
    | nil => rfl
    | cons t ts ih =>
      cases t with
      | mark => simp [renumber, OrmPostgresPlaceholders.Piece.text, Token.text]
      | pair => simp [renumber, OrmPostgresPlaceholders.Piece.text, Token.text]
      | literal run | identifier run | other c =>
        rw [renumber, List.flatMap_cons, List.flatMap_cons, List.forall_mem_append,
          List.forall_mem_append, ih]
        rfl
  rw [trim_eq_nil, trim_eq_nil, rewritePlaceholders_eq, hpieces, tokens_text]

/-- A whole statement around a condition with closed quotes. -/
theorem rewrite_around {p t w : Text} (hp : Neutral p) (ht : Neutral t) (hb : Boundary t)
    (hw : Balanced w) : rewritePlaceholders (p ++ (whereClause w ++ t)) =
      p ++ (whereClause (rewritePlaceholders w) ++ t) := by
  have hblank : (w ≠ [] ∧ trim w ≠ []) ↔
      (rewritePlaceholders w ≠ [] ∧ trim (rewritePlaceholders w) ≠ []) := by
    have hnonempty {s : Text} : (s ≠ [] ∧ trim s ≠ []) ↔ trim s ≠ [] :=
      and_iff_right_of_imp fun h hs => h (by rw [hs]; rfl)
    rw [hnonempty, hnonempty, ne_eq, ne_eq, trim_rewritePlaceholders]
  unfold whereClause
  split_ifs with h h' h'
  · have hwhere : Boundary (" WHERE ".toList ++ (w ++ t)) := boundary_cons (by decide) _
    have hno : (" WHERE ".toList.map Token.other).count .mark = 0 := by decide
    rw [List.append_assoc, List.append_assoc, rewritePlaceholders_eq,
      hp.tokens_append _ hwhere, tokens_plain (by decide), tokens_balanced hw hb, renumber_append,
      List.count_eq_zero.mpr hp.no_mark, renumber_append, hno, renumber_append,
      List.flatMap_append, List.flatMap_append, List.flatMap_append, hp.renumber, ht.renumber,
      renumber_plain, rewritePlaceholders_eq w]
  · exact absurd (hblank.mp h) h'
  · exact absurd (hblank.mpr h') h
  · rw [List.nil_append, rewritePlaceholders_eq, hp.tokens_append _ hb, renumber_append,
      List.flatMap_append, hp.renumber, ht.renumber]

/-! ### Generated statements -/

variable (m : TOrmModel)

theorem mark_not_mem_elements {α : Type*} {l : List α} {pieces : ℕ → α → List Piece}
    (h : ∀ i x, Piece.mark ∉ pieces i x) : Piece.mark ∉ commaPieces (l.mapIdx pieces) := by
  have hparts : ∀ part ∈ l.mapIdx pieces, Piece.mark ∉ part := by
    intro part hpart
    obtain ⟨i, hi, rfl⟩ := List.mem_mapIdx.mp hpart
    exact h i _
  unfold commaPieces
  cases hl : l.mapIdx pieces with
  | nil => exact List.not_mem_nil
  | cons part parts =>
    rw [hl] at hparts
    simp only [separated, List.mem_append, List.mem_flatMap, List.mem_singleton, not_or,
      not_exists, not_and]
    refine ⟨hparts part List.mem_cons_self, fun part hpart => ⟨?_, ?_⟩⟩
    · exact Piece.noConfusion
    · exact hparts part (List.mem_cons_of_mem _ hpart)

theorem mark_not_mem_columns (flds : List TOrmField) : Piece.mark ∉ columnPieces flds :=
  mark_not_mem_elements fun _ _ => by simp

theorem mark_not_mem_assignment (index : ℕ) (fld : TOrmField) :
    Piece.mark ∉ assignmentPieces .postgres index fld := by
  simp [assignmentPieces, placeholderPiece]

theorem rewrite_lexed {sql : Text} {ps : List Piece} (h : Lexes sql ps) (hps : Piece.mark ∉ ps) :
    rewritePlaceholders sql = sql :=
  have hneutral := neutral_of_lexes h hps
  OrmPostgresPlaceholders.rewritePlaceholders_unmarked hneutral.no_mark hneutral.no_pair

theorem rewrite_delete (primaryKey : TOrmField) :
    rewritePlaceholders (buildDeleteSql .postgres m primaryKey) =
      buildDeleteSql .postgres m primaryKey := by
  refine rewrite_lexed (lexes_delete .postgres m primaryKey) ?_
  simp [deletePieces, mark_not_mem_assignment]

theorem rewrite_findById :
    (buildFindByIdSql .postgres m).map rewritePlaceholders = buildFindByIdSql .postgres m := by
  cases h : buildFindByIdSql .postgres m with
  | error e => rfl
  | ok sql =>
    cases hpk : m.primaryKey with
    | none => simp [buildFindByIdSql, hpk] at h
    | some primaryKey =>
      refine congrArg Except.ok (rewrite_lexed (lexes_findById .postgres m hpk h) ?_)
      simp [findByIdPieces, mark_not_mem_assignment, mark_not_mem_columns]

/-- What the statements with a condition begin with. -/
theorem neutral_onTable {p : Text} (hp : p.all isPlain = true) :
    Neutral (p ++ quoted m.tableName) :=
  neutral_of_lexes (Lexes.behind hp (lexes_name _)) (by simp)

theorem neutral_select :
    Neutral ("SELECT ".toList ++ buildSelectColumnList .postgres m ++ " FROM ".toList ++
      quoted m.tableName) := by
  have hlexes := Lexes.behind (p := "SELECT ".toList) (by decide)
    ((lexes_columns .postgres m.fields).append
      (Lexes.behind (p := " FROM ".toList) (by decide) (lexes_name m.tableName))
      (boundary_cons (by decide) _))
  rw [← buildSelectColumnList_eq, ← List.append_assoc, ← List.append_assoc] at hlexes
  exact neutral_of_lexes hlexes (by simp [mark_not_mem_columns])

theorem neutral_orderClause {sameName : Text → Text → Bool} {order : List TOrmOrderItem}
    {sql : Text} (h : orderClause .postgres m sameName order = .ok sql) :
    Neutral sql ∧ Boundary sql := by
  have hbuild := buildOrderBySql_of_orderClause .postgres m h
  refine ⟨neutral_of_lexes (lexes_orderBy .postgres m hbuild).1 ?_,
    (reads_orderBy .postgres m hbuild).1⟩
  cases orderColumns m sameName order with
  | nil => exact List.not_mem_nil
  | cons item items =>
    have hitems : Piece.mark ∉ commaPieces ((item :: items).map orderItemPieces) := by
      rw [← mapIdx_eq_map orderItemPieces]
      exact mark_not_mem_elements fun _ _ => by simp [orderItemPieces]
    exact fun hmark => (List.mem_cons.mp hmark).elim nofun hitems

theorem neutral_limitClause (limit offset : ℤ) :
    Neutral (limitClause limit offset) ∧ Boundary (limitClause limit offset) := by
  refine ⟨neutral_of_lexes (lexes_plain ?_) (by simp), (reads_limitClause limit offset).2⟩
  have hdigits (n : ℕ) : (Nat.toDigits 10 n).all isPlain = true := by
    rw [List.all_eq_true]
    exact fun c hc => isPlain_of_isWordChar (List.all_eq_true.mp (digits_word n) c hc)
  unfold limitClause
  split_ifs
  · simp [hdigits]
    decide
  · simp [hdigits]
    decide
  · rfl

theorem rewrite_onTable {p w : Text} (hp : p.all isPlain = true) (hw : Balanced w) :
    rewritePlaceholders (p ++ quoted m.tableName ++ whereClause w) =
      p ++ quoted m.tableName ++ whereClause (rewritePlaceholders w) := by
  have haround := rewrite_around (neutral_onTable m hp) neutral_nil boundary_nil hw
  rwa [List.append_nil, List.append_nil] at haround

theorem rewrite_findWhere {w : Text} (hw : Balanced w) (sameName : Text → Text → Bool)
    (order : List TOrmOrderItem) (limit offset : ℤ) :
    (buildFindWhereSql .postgres m sameName w order limit offset).map rewritePlaceholders =
      buildFindWhereSql .postgres m sameName (rewritePlaceholders w) order limit offset := by
  unfold buildFindWhereSql
  cases horder : orderClause .postgres m sameName order with
  | error e => rfl
  | ok orderSql =>
    obtain ⟨hneutral, hbound⟩ := neutral_orderClause m horder
    obtain ⟨hlimit, hlimitBound⟩ := neutral_limitClause limit offset
    have htail : Neutral (orderSql ++ limitClause limit offset) := hneutral.append hlimit hlimitBound
    have haround := rewrite_around (neutral_select m) htail (hbound.append hlimitBound) hw
    simp only [← List.append_assoc] at haround
    exact congrArg Except.ok haround

/-- Rewriting leaves the statements alone that the mapper writes itself, and in those around a
condition with closed quotes it rewrites the condition. -/
theorem rewriting_keeps_generated (primaryKey : TOrmField) {w : Text} (hw : Balanced w) :
    (rewritePlaceholders (buildInsertSql .postgres m) = buildInsertSql .postgres m ∧
      rewritePlaceholders (buildUpdateSql .postgres m primaryKey) =
        buildUpdateSql .postgres m primaryKey ∧
      rewritePlaceholders (buildDeleteSql .postgres m primaryKey) =
        buildDeleteSql .postgres m primaryKey ∧
      (buildFindByIdSql .postgres m).map rewritePlaceholders = buildFindByIdSql .postgres m) ∧
    (∀ sameName order limit offset,
      (buildFindWhereSql .postgres m sameName w order limit offset).map rewritePlaceholders =
        buildFindWhereSql .postgres m sameName (rewritePlaceholders w) order limit offset) ∧
    rewritePlaceholders (buildCountWhereSql .postgres m w) =
      buildCountWhereSql .postgres m (rewritePlaceholders w) ∧
    rewritePlaceholders (buildExistsWhereSql .postgres m w) =
      buildExistsWhereSql .postgres m (rewritePlaceholders w) ∧
    rewritePlaceholders (buildRemoveWhereSql .postgres m w) =
      buildRemoveWhereSql .postgres m (rewritePlaceholders w) :=
  ⟨⟨OrmAlignment.rewrite_insert .postgres m, OrmAlignment.rewrite_update .postgres m primaryKey,
      rewrite_delete m primaryKey, rewrite_findById m⟩,
    rewrite_findWhere m hw, rewrite_onTable m (by decide) hw, rewrite_onTable m (by decide) hw,
    rewrite_onTable m (by decide) hw⟩

theorem rewriting_keeps_generated_hostile :
    rewritePlaceholders (buildInsertSql .postgres hostileModel) =
        buildInsertSql .postgres hostileModel ∧
      rewritePlaceholders (buildCountWhereSql .postgres hostileModel "\"it's ?\" = ?".toList) =
        buildCountWhereSql .postgres hostileModel "\"it's ?\" = $1".toList := by
  obtain ⟨⟨hinsert, -⟩, -, hcount, -⟩ := rewriting_keeps_generated hostileModel
    (hostileModel.primaryKey.get rfl) (w := "\"it's ?\" = ?".toList) (by decide)
  have hw : rewritePlaceholders "\"it's ?\" = ?".toList = "\"it's ?\" = $1".toList := by
    decide +kernel
  exact ⟨hinsert, hw ▸ hcount⟩

end DatabaseMod.OrmRewriting
