import Mathlib

/-!
# Lexical tokens of SQL text

A statement is split from the left into single-quoted literals, double-quoted
identifiers, the pair `??`, a single `?`, and other single characters. A doubled
quote belongs to its run, and an unterminated run reaches the end of the text.
Texts are lists of characters.
-/

namespace DatabaseMod.SqlTokens

abbrev Text := List Char

/-- The comparison of texts decides membership in a list of words. -/
instance : LawfulBEq Text := inferInstance

/-- The text without blanks and control characters at both ends. -/
def trim (s : Text) : Text := (s.dropWhile (· ≤ ' ')).rdropWhile (· ≤ ' ')

theorem trim_eq_self {c d : Char} (s : Text) (hc : ¬ c ≤ ' ') (hd : ¬ d ≤ ' ') :
    trim (c :: (s ++ [d])) = c :: (s ++ [d]) := by
  rw [trim, List.dropWhile_cons_of_neg (by simpa using hc), List.rdropWhile_eq_self_iff]
  intro hne
  have hlast : (c :: (s ++ [d])).getLast hne = d := by simp
  rw [hlast]
  simpa using hd

theorem trim_eq_nil {s : Text} : trim s = [] ↔ ∀ c ∈ s, c ≤ ' ' := by
  rw [trim, List.rdropWhile_eq_nil_iff]
  constructor
  · intro h
    have hnil : s.dropWhile (· ≤ ' ') = [] := by
      cases hdrop : s.dropWhile (· ≤ ' ') with
      | nil => rfl
      | cons c rest =>
        have hfirst := List.head?_dropWhile_not (fun c : Char => decide (c ≤ ' ')) s
        rw [hdrop] at hfirst h
        exact absurd (h c List.mem_cons_self) (by simpa using hfirst)
    simpa using List.dropWhile_eq_nil_iff.mp hnil
  · exact fun h c hc => by simpa using h c ((List.dropWhile_suffix _).subset hc)

inductive Token
  | literal (run : Text)
  | identifier (run : Text)
  | pair
  | mark
  | other (c : Char)
deriving DecidableEq, Repr

def Token.text : Token → Text
  | .literal run => '\'' :: run
  | .identifier run => '"' :: run
  | .pair => ['?', '?']
  | .mark => ['?']
  | .other c => [c]

/-- The rest of a run opened by `q`, closing quote included, and what follows it. -/
def quotedRun (q : Char) : Text → Text × Text
  | [] => ([], [])
  | [c] => ([c], [])
  | c :: d :: rest =>
    if c = q then
      if d = q then (c :: d :: (quotedRun q rest).1, (quotedRun q rest).2)
      else ([c], d :: rest)
    else (c :: (quotedRun q (d :: rest)).1, (quotedRun q (d :: rest)).2)

theorem quotedRun_append (q : Char) (s : Text) :
    (quotedRun q s).1 ++ (quotedRun q s).2 = s := by
  fun_induction quotedRun q s with
  | case1 => rfl
  | case2 c => rfl
  | case3 rest ih => simp [ih]
  | case4 d rest hd => rfl
  | case5 c d rest hc ih => simp [ih]

theorem quotedRun_length (q : Char) (s : Text) : (quotedRun q s).2.length ≤ s.length := by
  have h := congrArg List.length (quotedRun_append q s)
  rw [List.length_append] at h
  omega

def tokens : Text → List Token
  | [] => []
  | c :: rest =>
    if c = '\'' then .literal (quotedRun '\'' rest).1 :: tokens (quotedRun '\'' rest).2
    else if c = '"' then .identifier (quotedRun '"' rest).1 :: tokens (quotedRun '"' rest).2
    else if c = '?' then
      if rest.head? = some '?' then .pair :: tokens rest.tail else .mark :: tokens rest
    else .other c :: tokens rest
termination_by s => s.length
decreasing_by
  all_goals simp only [List.length_cons]
  · have := quotedRun_length '\'' rest
    omega
  · have := quotedRun_length '"' rest
    omega
  · rw [List.length_tail]
    omega
  · omega
  · omega

/-- No character is lost or added by the splitting. -/
theorem tokens_text (s : Text) : (tokens s).flatMap Token.text = s := by
  fun_induction tokens s with
  | case1 => rfl
  | case2 rest ih => simp [ih, Token.text, quotedRun_append]
  | case3 rest _ ih => simp [ih, Token.text, quotedRun_append]
  | case4 rest hnext _ _ ih =>
    obtain ⟨rest', rfl⟩ := List.head?_eq_some_iff.mp hnext
    simp_all [Token.text]
  | case5 rest _ _ _ ih => simp [ih, Token.text]
  | case6 c rest _ _ _ ih => simp [ih, Token.text]

/-! ### Pieces a statement is built from -/

def isPlain (c : Char) : Bool := c ≠ '\'' && c ≠ '"' && c ≠ '?'

theorem tokens_plain {p : Text} (hp : p.all isPlain = true) (s : Text) :
    tokens (p ++ s) = p.map Token.other ++ tokens s := by
  induction p with
  | nil => rfl
  | cons c p ih =>
    simp only [List.all_cons, Bool.and_eq_true, isPlain, decide_eq_true_eq] at hp
    obtain ⟨⟨⟨hs, hd⟩, hm⟩, hp⟩ := hp
    simp [tokens, hs, hd, hm, ih hp]

theorem tokens_mark {s : Text} (hs : s.head? ≠ some '?') :
    tokens ('?' :: s) = .mark :: tokens s := by
  rw [tokens]
  simp [hs]

/-- A name with each quote character doubled. -/
def doubled (q : Char) (name : Text) : Text :=
  name.flatMap fun c => if c = q then [q, q] else [c]

def quoted (name : Text) : Text := '"' :: (doubled '"' name ++ ['"'])

/-- The name a run stands for: doubled quotes are single, the closing quote is dropped. -/
def runName (q : Char) : Text → Text
  | [] => []
  | [c] => if c = q then [] else [c]
  | c :: d :: rest =>
    if c = q then (if d = q then q :: runName q rest else [])
    else c :: runName q (d :: rest)

theorem doubled_cons (q c : Char) (name : Text) :
    doubled q (c :: name) = (if c = q then [q, q] else [c]) ++ doubled q name := rfl

theorem quotedRun_cons {q c : Char} (hc : c ≠ q) (s : Text) :
    quotedRun q (c :: s) = (c :: (quotedRun q s).1, (quotedRun q s).2) := by
  cases s with
  | nil => rfl
  | cons d s => simp [quotedRun, hc]

theorem quotedRun_close {q : Char} {rest : Text} (hrest : rest.head? ≠ some q) :
    quotedRun q (q :: rest) = ([q], rest) := by
  cases rest with
  | nil => rfl
  | cons d rest =>
    have hd : d ≠ q := by simpa using hrest
    simp [quotedRun, hd]

theorem quotedRun_doubled {q : Char} (name : Text) {rest : Text} (hrest : rest.head? ≠ some q) :
    quotedRun q (doubled q name ++ q :: rest) = (doubled q name ++ [q], rest) := by
  induction name with
  | nil => exact quotedRun_close hrest
  | cons c name ih =>
    by_cases hc : c = q
    · simp [doubled_cons, hc, quotedRun, ih]
    · simp [doubled_cons, hc, quotedRun_cons, ih]

theorem runName_cons {q c : Char} (hc : c ≠ q) (s : Text) :
    runName q (c :: s) = c :: runName q s := by
  cases s <;> simp [runName, hc]

theorem runName_doubled (q : Char) (name : Text) :
    runName q (doubled q name ++ [q]) = name := by
  induction name with
  | nil => simp [doubled, runName]
  | cons c name ih =>
    by_cases hc : c = q
    · simp [doubled_cons, hc, runName, ih]
    · simp [doubled_cons, hc, runName_cons, ih]

theorem tokens_quoted (name : Text) {rest : Text} (hrest : rest.head? ≠ some '"') :
    tokens (quoted name ++ rest) =
      .identifier (doubled '"' name ++ ['"']) :: tokens rest := by
  have h := quotedRun_doubled name hrest
  simp only [quoted, List.cons_append, List.append_assoc, List.nil_append] at h ⊢
  rw [tokens]
  simp [h]

/-- The parts one after another, with `sep` before each but the first. -/
def separated {α : Type*} (sep : List α) : List (List α) → List α
  | [] => []
  | part :: parts => part ++ parts.flatMap (sep ++ ·)

end DatabaseMod.SqlTokens
