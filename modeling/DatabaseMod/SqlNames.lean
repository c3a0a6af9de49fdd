import DatabaseMod.SqlTokens

/-!
# Names in SQL text

A database reads a name behind blanks: between quotes, or as the longest word there, which must
not be reserved. The characters of words, the reserved words and the folding of words that are
not quoted depend on the database and on the place of the name.
-/

namespace DatabaseMod.SqlNames
open SqlTokens (Text doubled quoted doubled_cons)

structure Words where
  isBlank : Char → Bool
  isWordChar : Char → Bool
  reserved : Text → Bool
  fold : Char → Char
  /-- The character that closes a name which this one opens. -/
  closing : Char → Option Char
  isBlank_space : isBlank ' ' = true
  nul_ends : isWordChar (Char.ofNat 0) = false
  blank_ends : ∀ c, isBlank c = true → isWordChar c = false
  mark_ends : ∀ c ∈ ['(', ')', '=', ','], isBlank c = false ∧ isWordChar c = false
  opening_ends : ∀ c, (closing c).isSome = true → isBlank c = false ∧ isWordChar c = false
  closing_shows : ∀ c, ∀ q ∈ closing c, isBlank q = false

/-! ### Reading a name -/

/-- A name up to the quote `q` that closes it, and what follows. Where that quote also opens
names, a doubled one belongs to the name. -/
def quotedName (q : Char) (doubles : Bool) : Text → Option (Text × Text)
  | [] => none
  | [c] => if c = q then some ([], []) else none
  | c :: d :: rest =>
    if c = q then
      if doubles ∧ d = q then (quotedName q doubles rest).map fun r => (q :: r.1, r.2)
      else some ([], d :: rest)
    else (quotedName q doubles (d :: rest)).map fun r => (c :: r.1, r.2)

variable (w : Words)

/-- The name at the start of a text, and what follows it. -/
def nameAt (sql : Text) : Option (Text × Text) :=
  match sql.dropWhile w.isBlank with
  | [] => none
  | c :: rest =>
    match w.closing c with
    | some q => quotedName q (q = c) rest
    | none =>
      let word := (c :: rest).takeWhile w.isWordChar
      if word = [] ∨ w.reserved word then none
      else some (word.map w.fold, (c :: rest).dropWhile w.isWordChar)

def nameAfter (before sql : Text) : Option Text :=
  if before <+: sql then (nameAt w (sql.drop before.length)).map Prod.fst else none

/-- The name that is all a text has between two parts of it. -/
def nameBetween (before behind sql : Text) : Option Text :=
  if before <+: sql then
    (nameAt w (sql.drop before.length)).bind fun r =>
      if r.2.dropWhile w.isBlank = behind then some r.1 else none
  else none

/-- A word that stands for a name. -/
structure IsWord (word : Text) : Prop where
  ne_nil : word ≠ []
  isWordChar : ∀ c ∈ word, w.isWordChar c = true
  not_reserved : w.reserved word = false

/-- A name that is read as itself where it is not quoted. -/
structure Bare (name : Text) : Prop extends IsWord w name where
  map_fold : name.map w.fold = name

instance (name : Text) : Decidable (Bare w name) :=
  decidable_of_iff ((name ≠ [] ∧ (∀ c ∈ name, w.isWordChar c = true) ∧ w.reserved name = false) ∧
    name.map w.fold = name)
    ⟨fun h => ⟨⟨h.1.1, h.1.2.1, h.1.2.2⟩, h.2⟩, fun h => ⟨⟨h.1.1, h.1.2, h.1.3⟩, h.2⟩⟩

variable {w}

theorem IsWord.nul_notMem {word : Text} (h : IsWord w word) : Char.ofNat 0 ∉ word := fun hmem =>
  absurd (h.isWordChar _ hmem) (Bool.eq_false_iff.mp w.nul_ends)

/-! ### How a name is spelled -/

theorem quotedName_closed {q : Char} {doubles : Bool} {rest : Text}
    (h : rest.head? ≠ some q) : quotedName q doubles (q :: rest) = some ([], rest) := by
  cases rest with
  | nil => rw [quotedName, if_pos rfl]
  | cons d rest =>
    have hd : d ≠ q := fun hd => h (congrArg some hd)
    rw [quotedName, if_pos rfl, if_neg (fun hdoubled => hd hdoubled.2)]

theorem quotedName_cons {q c : Char} {doubles : Bool} (hc : c ≠ q) {sql : Text} (hne : sql ≠ []) :
    quotedName q doubles (c :: sql) = (quotedName q doubles sql).map fun r => (c :: r.1, r.2) := by
  obtain ⟨d, tail, rfl⟩ := List.exists_cons_of_ne_nil hne
  rw [quotedName, if_neg hc]

/-- The quote that closes a name is the same, whatever follows it but another such quote. -/
theorem quotedName_run {q : Char} {doubles : Bool} {sql name rest : Text}
    (h : quotedName q doubles sql = some (name, rest)) :
    ∃ run, sql = run ++ q :: rest ∧ name.length ≤ run.length ∧
      ∀ rest', rest'.head? ≠ some q →
        quotedName q doubles (run ++ q :: rest') = some (name, rest') := by
  fun_induction quotedName q doubles sql generalizing name with
  | case1 => cases h
  | case2 =>
    cases h
    exact ⟨[], rfl, le_rfl, fun rest' => quotedName_closed⟩
  | case3 c hc => cases h
  | case4 d sql hdoubled ih =>
    obtain ⟨⟨name', rest'⟩, hrest, heq⟩ := Option.map_eq_some_iff.mp h
    cases heq
    obtain ⟨run, rfl, hlength, hlocal⟩ := ih hrest
    refine ⟨q :: d :: run, rfl, ?_, fun rest' hrest' => ?_⟩
    · simp only [List.length_cons]
      omega
    · rw [List.cons_append, List.cons_append, quotedName, if_pos rfl, if_pos hdoubled,
        hlocal rest' hrest']
      rfl
  | case5 d sql hsingle =>
    cases h
    exact ⟨[], rfl, le_rfl, fun rest' => quotedName_closed⟩
  | case6 c d sql hc ih =>
    obtain ⟨⟨name', rest'⟩, hrest, heq⟩ := Option.map_eq_some_iff.mp h
    cases heq
    obtain ⟨run, hrun, hlength, hlocal⟩ := ih hrest
    refine ⟨c :: run, congrArg (c :: ·) hrun, Nat.succ_le_succ hlength, fun rest' hrest' => ?_⟩
    rw [List.cons_append, quotedName_cons hc (by simp), hlocal rest' hrest']
    rfl

theorem quotedName_doubled {q : Char} (name : Text) {rest : Text} (hrest : rest.head? ≠ some q) :
    quotedName q true (doubled q name ++ q :: rest) = some (name, rest) := by
  induction name with
  | nil =>
    cases rest with
    | nil => simp [doubled, quotedName]
    | cons d rest =>
      have hd : d ≠ q := fun h => hrest (congrArg some h)
      simp [doubled, quotedName, hd]
  | cons c name ih =>
    by_cases hc : c = q
    · simp [doubled_cons, hc, quotedName, ih]
    · rw [doubled_cons, if_neg hc]
      change quotedName q true (c :: (doubled q name ++ q :: rest)) = _
      cases htail : doubled q name ++ q :: rest with
      | nil => simp at htail
      | cons d tail =>
        rw [quotedName, if_neg hc, ← htail, ih]
        rfl

theorem nameAt_blanks {blanks : Text} (h : ∀ c ∈ blanks, w.isBlank c = true) (sql : Text) :
    nameAt w (blanks ++ sql) = nameAt w sql := by
  unfold nameAt
  rw [List.dropWhile_append_of_pos h]

theorem nameAt_word {name : Text} (h : IsWord w name) {rest : Text}
    (hrest : ∀ c ∈ rest.head?, w.isWordChar c = false) :
    nameAt w (name ++ rest) = some (name.map w.fold, rest) := by
  obtain ⟨c, tail, rfl⟩ := List.exists_cons_of_ne_nil h.ne_nil
  have hc := h.isWordChar c List.mem_cons_self
  have hblank : ¬ w.isBlank c = true := fun hb => by simp [w.blank_ends c hb] at hc
  have hclosing : w.closing c = none := by
    by_contra hq
    simp [(w.opening_ends c (Option.isSome_iff_ne_none.mpr hq)).2] at hc
  have htake : (c :: (tail ++ rest)).takeWhile w.isWordChar = c :: tail := by
    rw [← List.cons_append, List.takeWhile_append_of_pos h.isWordChar]
    cases rest with
    | nil => simp
    | cons d rest => simp [hrest d rfl]
  have hdrop : (c :: (tail ++ rest)).dropWhile w.isWordChar = rest := by
    rw [← List.cons_append, List.dropWhile_append_of_pos h.isWordChar]
    cases rest with
    | nil => rfl
    | cons d rest => exact List.dropWhile_cons_of_neg (by simp [hrest d rfl])
  have hfree : ¬ (c :: tail = [] ∨ w.reserved (c :: tail) = true) := by simp [h.not_reserved]
  unfold nameAt
  rw [List.cons_append, List.dropWhile_cons_of_neg hblank]
  simp only [hclosing, htake, hdrop, if_neg hfree]

/-- A name takes more characters between quotes than it has; else it is the word itself. Before
a blank it is spelled in the same way. -/
theorem nameAt_spelling {sql name rest : Text} (h : nameAt w sql = some (name, rest)) :
    ∃ blanks spelling last, sql = blanks ++ (spelling ++ [last]) ++ rest ∧
      w.isBlank last = false ∧ (name.length < (spelling ++ [last]).length ∨
        IsWord w (spelling ++ [last]) ∧ name = (spelling ++ [last]).map w.fold) ∧
      ∀ rest', (∀ c ∈ rest'.head?, w.isBlank c = true) →
        nameAt w (blanks ++ (spelling ++ [last]) ++ rest') = some (name, rest') := by
  have hblanks := List.takeWhile_append_dropWhile (p := w.isBlank) (l := sql)
  have hskip (text : Text) : nameAt w (sql.takeWhile w.isBlank ++ text) = nameAt w text :=
    nameAt_blanks (fun c hc => List.mem_takeWhile_imp hc) text
  unfold nameAt at h
  split at h
  next => cases h
  next c tail htail =>
    rw [htail] at hblanks
    split at h
    next q hq =>
      obtain ⟨run, rfl, hlength, hlocal⟩ := quotedName_run h
      have hquote := w.closing_shows c q hq
      refine ⟨sql.takeWhile w.isBlank, c :: run, q, ?_, hquote, .inl ?_, fun rest' hrest' => ?_⟩
      · rw [List.append_assoc, List.append_assoc]
        exact hblanks.symm
      · simp only [List.length_append, List.length_cons, List.length_nil]
        omega
      · have hopen := w.opening_ends c (by rw [hq]; rfl)
        have hnext : rest'.head? ≠ some q := by
          intro hhead
          rw [hrest' q hhead] at hquote
          cases hquote
        rw [List.append_assoc, hskip, List.append_assoc]
        unfold nameAt
        rw [List.cons_append, List.dropWhile_cons_of_neg (by simp [hopen.1])]
        simp only [hq]
        exact hlocal rest' hnext
    next hopen =>
      dsimp only at h
      split_ifs at h with hword
      cases h
      obtain ⟨hne, hfree⟩ := not_or.mp hword
      have hchars (x : Char) (hx : x ∈ (c :: tail).takeWhile w.isWordChar) :
          w.isWordChar x = true := List.mem_takeWhile_imp hx
      have hisWord : IsWord w ((c :: tail).takeWhile w.isWordChar) :=
        ⟨hne, hchars, by simpa using hfree⟩
      have hspelling := List.dropLast_append_getLast hne
      refine ⟨sql.takeWhile w.isBlank, ((c :: tail).takeWhile w.isWordChar).dropLast,
        ((c :: tail).takeWhile w.isWordChar).getLast hne, ?_, ?_, .inr ?_, fun rest' hrest' => ?_⟩
      · rw [hspelling, List.append_assoc, List.takeWhile_append_dropWhile, hblanks]
      · have hlast := hchars _ (List.getLast_mem hne)
        by_contra hblank
        rw [w.blank_ends _ (by simpa using hblank)] at hlast
        cases hlast
      · rw [hspelling]
        exact ⟨hisWord, rfl⟩
      · rw [List.append_assoc, hskip, hspelling]
        exact nameAt_word hisWord fun x hx => w.blank_ends x (hrest' x hx)

/-! ### Names in a statement -/

section

variable {before name gap behind : Text}

theorem nameBetween_append (sql : Text) : nameBetween w before behind (before ++ sql) =
    (nameAt w sql).bind fun r => if r.2.dropWhile w.isBlank = behind then some r.1 else none := by
  rw [nameBetween, if_pos (List.prefix_append before sql), List.drop_left]

theorem dropWhile_gap (hgap : ∀ c ∈ gap, w.isBlank c = true)
    (hbehind : ∀ c ∈ behind.head?, w.isBlank c = false) :
    (gap ++ behind).dropWhile w.isBlank = behind := by
  induction gap with
  | nil =>
    cases behind with
    | nil => rfl
    | cons c behind => exact List.dropWhile_cons_of_neg (by simp [hbehind c rfl])
  | cons c gap ih =>
    rw [List.cons_append, List.dropWhile_cons_of_pos (hgap c List.mem_cons_self)]
    exact ih fun d hd => hgap d (List.mem_cons_of_mem c hd)

/-- Where a text with nothing but blanks behind it is read as a name, the name ends in it. -/
theorem nameBetween_spelling {text : Text} (hgap : ∀ c ∈ gap, w.isBlank c = true)
    (h : nameBetween w before behind (before ++ (text ++ (gap ++ behind))) = some name) :
    ∃ blanks spelling last more, text = blanks ++ (spelling ++ [last]) ++ more ∧
      (∀ c ∈ more, w.isBlank c = true) ∧ (name.length < (spelling ++ [last]).length ∨
        IsWord w (spelling ++ [last]) ∧ name = (spelling ++ [last]).map w.fold) ∧
      ∀ rest', (∀ c ∈ rest'.head?, w.isBlank c = true) →
        nameAt w (blanks ++ (spelling ++ [last]) ++ rest') = some (name, rest') := by
  rw [nameBetween_append] at h
  obtain ⟨⟨read, rest⟩, hname, hrest⟩ := Option.bind_eq_some_iff.mp h
  split_ifs at hrest with hdrop
  obtain rfl : read = name := Option.some.inj hrest
  obtain ⟨blanks, spelling, last, hsql, hlast, hcases, hlocal⟩ := nameAt_spelling hname
  have hcut := List.takeWhile_append_dropWhile (p := w.isBlank) (l := rest)
  have htake (c : Char) (hc : c ∈ rest.takeWhile w.isBlank) : w.isBlank c = true :=
    List.mem_takeWhile_imp hc
  dsimp only at hdrop
  rw [hdrop] at hcut
  rw [← hcut, ← List.append_assoc, ← List.append_assoc] at hsql
  have hsame := List.append_cancel_right hsql
  -- the spelling ends in no blank, so it ends within the text
  obtain ⟨more, hmore, hblank⟩ : ∃ more, text = blanks ++ (spelling ++ [last]) ++ more ∧
      ∀ c ∈ more, w.isBlank c = true := by
    obtain ⟨extra, hextra, hgap'⟩ | ⟨more, hmore, hgap'⟩ := List.append_eq_append_iff.mp hsame
    · rcases List.eq_nil_or_concat extra with rfl | ⟨extra, c, rfl⟩
      · exact ⟨[], by simpa using hextra.symm, by simp⟩
      · have hc : last = c := by
          have := congrArg List.getLast? hextra
          simpa using this
        have hblank := hgap c (by simp [hgap'])
        rw [← hc, hlast] at hblank
        cases hblank
    · refine ⟨more, hmore, fun c hc => htake c ?_⟩
      rw [hgap']
      exact List.mem_append_left _ hc
  exact ⟨blanks, spelling, last, more, hmore, hblank, hcases, hlocal⟩

/-- Not quoted, exactly the bare names are read as themselves. -/
theorem nameBetween_iff (before name gap behind : Text) (hgap : ∀ c ∈ gap, w.isBlank c = true)
    (hbehind : ∀ c ∈ behind.head?, w.isBlank c = false)
    (hends : ∀ c ∈ (gap ++ behind).head?, w.isWordChar c = false) :
    nameBetween w before behind (before ++ (name ++ (gap ++ behind))) = some name ↔
      Bare w name := by
  constructor
  · intro h
    obtain ⟨blanks, spelling, last, more, hmore, -, hcases, -⟩ := nameBetween_spelling hgap h
    have hlength := congrArg List.length hmore
    rw [List.length_append, List.length_append] at hlength
    obtain hquoted | ⟨hword, hfold⟩ := hcases
    · omega
    · have hfolded := congrArg List.length hfold
      rw [List.length_map] at hfolded
      obtain rfl : blanks = [] := List.length_eq_zero_iff.mp (by omega)
      obtain rfl : more = [] := List.length_eq_zero_iff.mp (by omega)
      rw [List.nil_append, List.append_nil] at hmore
      rw [← hmore] at hword hfold
      exact ⟨hword, hfold.symm⟩
  · intro h
    rw [nameBetween_append, nameAt_word h.toIsWord hends]
    simp [dropWhile_gap hgap hbehind, h.map_fold]

/-- The name that a text by itself is. -/
def nameOf (w : Words) (text : Text) : Option Text := nameBetween w [] [] text

/-- A text that is followed by a blank is the name that it is by itself. -/
theorem nameBetween_eq_nameOf (before text : Text) {gap : Text} (behind : Text) (hne : gap ≠ [])
    (hgap : ∀ c ∈ gap, w.isBlank c = true)
    (hbehind : ∀ c ∈ behind.head?, w.isBlank c = false) :
    nameBetween w before behind (before ++ (text ++ (gap ++ behind))) = nameOf w text := by
  have hiff (name : Text) :
      nameBetween w before behind (before ++ (text ++ (gap ++ behind))) = some name ↔
        nameOf w text = some name := by
    constructor
    · intro h
      obtain ⟨blanks, spelling, last, more, rfl, hmore, -, hlocal⟩ := nameBetween_spelling hgap h
      have hread := @nameBetween_append w [] []
        (blanks ++ (spelling ++ [last]) ++ more)
      rw [List.nil_append] at hread
      rw [nameOf, hread, hlocal more fun c hc => hmore c (List.mem_of_mem_head? hc)]
      rw [Option.bind_some, if_pos (List.dropWhile_eq_nil_iff.mpr hmore)]
    · intro h
      have htext : nameBetween w [] [] ([] ++ (text ++ ([] ++ []))) = some name := by
        simpa [nameOf] using h
      obtain ⟨blanks, spelling, last, more, rfl, hmore, -, hlocal⟩ :=
        nameBetween_spelling (by simp) htext
      have hblanks (c : Char) (hc : c ∈ more ++ gap) : w.isBlank c = true :=
        (List.mem_append.mp hc).elim (hmore c) (hgap c)
      have hhead : ∀ c ∈ (more ++ gap ++ behind).head?, w.isBlank c = true := by
        obtain ⟨d, tail, hd⟩ := List.exists_cons_of_ne_nil (List.append_ne_nil_of_right_ne_nil more hne)
        rw [hd]
        rintro c hc
        obtain rfl : d = c := Option.some.inj hc
        exact hblanks d (hd ▸ List.mem_cons_self)
      have hassoc : blanks ++ (spelling ++ [last]) ++ more ++ (gap ++ behind) =
          blanks ++ (spelling ++ [last]) ++ (more ++ gap ++ behind) := by
        simp
      rw [nameBetween_append, hassoc, hlocal _ hhead, Option.bind_some,
        if_pos (dropWhile_gap hblanks hbehind)]
  exact Option.ext hiff

theorem nameBetween_end_iff (before name : Text) :
    nameBetween w before [] (before ++ name) = some name ↔ Bare w name := by
  have hiff := nameBetween_iff (w := w) before name [] [] (by simp) (by simp) (by simp)
  rw [List.append_nil, List.append_nil] at hiff
  exact hiff

theorem mark_head {c : Char} (hc : c ∈ ['(', ')', '=', ',']) (hbehind : behind.head? = some c) :
    (∀ d ∈ behind.head?, w.isBlank d = false) ∧ ∀ d ∈ behind.head?, w.isWordChar d = false := by
  rw [hbehind]
  simpa using w.mark_ends c hc

theorem nameAfter_quoted (hquote : w.closing '"' = some '"') {rest : Text}
    (hrest : rest.head? ≠ some '"') :
    nameAfter w before (before ++ (quoted name ++ rest)) = some name := by
  have hopening := w.opening_ends '"' (by rw [hquote]; rfl)
  have hread : nameAt w (quoted name ++ rest) = some (name, rest) := by
    unfold nameAt quoted
    rw [List.cons_append, List.dropWhile_cons_of_neg (by simp [hopening.1])]
    simp only [hquote, decide_true, List.append_assoc, List.singleton_append]
    exact quotedName_doubled name hrest
  rw [nameAfter, if_pos (List.prefix_append before _), List.drop_left, hread]
  rfl

end

end DatabaseMod.SqlNames
