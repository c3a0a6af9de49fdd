import DatabaseMod.SqlTokens

/-!
# Placeholder rewriting of the PostgreSQL dialect

`RewritePlaceholders` scans the text once with two quote flags and a look-ahead.
The reference splits the text into tokens first and numbers the single question
marks. The loop counter never exceeds the length of the text, so it is a natural
number here.
-/

namespace DatabaseMod.OrmPostgresPlaceholders
open SqlTokens

structure RewriteState where
  out : Text
  index : ℕ
  inSingleQuote : Bool
  inDoubleQuote : Bool

/-- The loop from a position on, given the rest of the text. -/
def rewriteLoop (st : RewriteState) : Text → RewriteState
  | [] => st
  | ch :: rest =>
    if ch = '\'' ∧ ¬ st.inDoubleQuote then
      rewriteLoop { st with
        inSingleQuote := !st.inSingleQuote, out := st.out ++ [ch] } rest
    else if ch = '"' ∧ ¬ st.inSingleQuote then
      rewriteLoop { st with
        inDoubleQuote := !st.inDoubleQuote, out := st.out ++ [ch] } rest
    else if ch = '?' ∧ ¬ st.inSingleQuote ∧ ¬ st.inDoubleQuote then
      if rest.head? = some '?' then
        -- the second mark is skipped by the source's own step of the loop variable
        rewriteLoop { st with out := st.out ++ ['?'] } rest.tail
      else
        rewriteLoop { st with
          out := st.out ++ ['$'] ++ Nat.toDigits 10 st.index, index := st.index + 1 } rest
    else
      rewriteLoop { st with out := st.out ++ [ch] } rest
termination_by s => s.length
decreasing_by all_goals simp

def rewritePlaceholders (sql : Text) : Text :=
  (rewriteLoop ⟨[], 1, false, false⟩ sql).out

inductive Piece
  | copied (t : Text)
  | placeholder (k : ℕ)

def Piece.text : Piece → Text
  | .copied t => t
  | .placeholder k => '$' :: Nat.toDigits 10 k

def Piece.number : Piece → Option ℕ
  | .copied _ => none
  | .placeholder k => some k

/-- The pieces of the rewritten text; `k` numbers the next single mark. -/
def renumber (k : ℕ) : List Token → List Piece
  | [] => []
  | .mark :: ts => .placeholder k :: renumber (k + 1) ts
  | .pair :: ts => .copied ['?'] :: renumber k ts
  | .literal run :: ts => .copied (Token.literal run).text :: renumber k ts
  | .identifier run :: ts => .copied (Token.identifier run).text :: renumber k ts
  | .other c :: ts => .copied [c] :: renumber k ts

theorem renumber_numbers (k : ℕ) (ts : List Token) :
    (renumber k ts).filterMap Piece.number = List.range' k (ts.count .mark) := by
  induction ts generalizing k with
  | nil => rfl
  | cons t ts ih =>
    cases t with
    | mark =>
      rw [List.count_cons_self, List.range'_succ, ← ih (k + 1)]
      rfl
    | literal run => simp [renumber, List.filterMap_cons, Piece.number, ih]
    | identifier run => simp [renumber, List.filterMap_cons, Piece.number, ih]
    | pair => simp [renumber, List.filterMap_cons, Piece.number, ih]
    | other c => simp [renumber, List.filterMap_cons, Piece.number, ih]

/-- From inside a run the loop copies the run and leaves the quotes. -/
theorem rewriteLoop_inside {q : Char} (hq : q = '\'' ∨ q = '"') (out : Text) (k : ℕ) (s : Text) :
    (rewriteLoop ⟨out, k, q = '\'', q = '"'⟩ s).out =
      (rewriteLoop ⟨out ++ (quotedRun q s).1, k, false, false⟩ (quotedRun q s).2).out := by
  fun_induction quotedRun q s generalizing out with
  | case1 => simp [rewriteLoop]
  | case2 c =>
    by_cases hc : c = q
    · rcases hq with rfl | rfl <;> simp [rewriteLoop, hc]
    · rcases hq with rfl | rfl <;> simp [rewriteLoop, hc]
  | case3 rest ih => rcases hq with rfl | rfl <;> simp_all [rewriteLoop]
  | case4 d rest hd => rcases hq with rfl | rfl <;> simp [rewriteLoop]
  | case5 c d rest hc ih =>
    rw [rewriteLoop]
    rcases hq with rfl | rfl <;> simp_all

theorem rewriteLoop_tokens (out : Text) (k : ℕ) (s : Text) :
    (rewriteLoop ⟨out, k, false, false⟩ s).out =
      out ++ (renumber k (tokens s)).flatMap Piece.text := by
  fun_induction tokens s generalizing out k with
  | case1 => simp [rewriteLoop, renumber]
  | case2 rest ih =>
    rw [rewriteLoop]
    have hrun := rewriteLoop_inside (Or.inl rfl) (out ++ ['\'']) k rest
    simp_all [renumber, Piece.text, Token.text]
  | case3 rest _ ih =>
    rw [rewriteLoop]
    have hrun := rewriteLoop_inside (Or.inr rfl) (out ++ ['"']) k rest
    simp_all [renumber, Piece.text, Token.text]
  | case4 rest hnext _ _ ih =>
    rw [rewriteLoop]
    simp [hnext, ih, renumber, Piece.text]
  | case5 rest hnext _ _ ih =>
    rw [rewriteLoop]
    simp [hnext, ih, renumber, Piece.text]
  | case6 c rest hs hd hm ih =>
    rw [rewriteLoop]
    simp [hs, hd, hm, ih, renumber, Piece.text]

theorem rewritePlaceholders_eq (sql : Text) :
    rewritePlaceholders sql = (renumber 1 (tokens sql)).flatMap Piece.text := by
  rw [rewritePlaceholders, rewriteLoop_tokens, List.nil_append]

theorem renumber_unmarked (k : ℕ) (ts : List Token) (hmark : Token.mark ∉ ts)
    (hpair : Token.pair ∉ ts) : (renumber k ts).flatMap Piece.text = ts.flatMap Token.text := by
  induction ts with
  | nil => rfl
  | cons t ts ih =>
    simp only [List.mem_cons, not_or] at hmark hpair
    have hts := ih hmark.2 hpair.2
    cases t with
    | mark => exact absurd rfl hmark.1
    | pair => exact absurd rfl hpair.1
    | literal run => simp [renumber, Piece.text, hts]
    | identifier run => simp [renumber, Piece.text, hts]
    | other c => simp [renumber, Piece.text, Token.text, hts]

/-- A text without question marks outside of quotes is left alone. -/
theorem rewritePlaceholders_unmarked {sql : Text} (hmark : Token.mark ∉ tokens sql)
    (hpair : Token.pair ∉ tokens sql) : rewritePlaceholders sql = sql := by
  rw [rewritePlaceholders_eq, renumber_unmarked 1 _ hmark hpair, tokens_text]

/-- The single pass computes the token-wise reference on every text: nothing of the
text is lost by the splitting, and the placeholders are numbered from one in order. -/
theorem rewritePlaceholders_token_reference (sql : Text) :
    (tokens sql).flatMap Token.text = sql ∧
    rewritePlaceholders sql = (renumber 1 (tokens sql)).flatMap Piece.text ∧
    (renumber 1 (tokens sql)).filterMap Piece.number =
      List.range' 1 ((tokens sql).count .mark) :=
  ⟨tokens_text sql, rewritePlaceholders_eq sql, renumber_numbers 1 (tokens sql)⟩

example : rewritePlaceholders "a ?? 'it''s ?' = ? AND \"?\" = ?".toList =
    "a ? 'it''s ?' = $1 AND \"?\" = $2".toList := by decide +kernel

end DatabaseMod.OrmPostgresPlaceholders
