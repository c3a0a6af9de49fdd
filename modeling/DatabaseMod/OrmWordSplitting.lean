import DatabaseMod.OrmNaming

/-!
# Splitting identifiers

A name is split at its underscores and between characters of different kinds; the two snake case
spellings of a name have the words of the name.
-/

namespace DatabaseMod.OrmWordSplitting
open SqlTokens (Text)
open OrmModel OrmNaming

/-! ### Characters -/

def IdentifierChar (ch : Char) : Prop := isUpper ch ∨ isLower ch ∨ isDigit ch ∨ ch = '_'

/-- A name of ASCII letters, digits and underscores. -/
structure Identifier where
  text : Text
  ascii : ∀ ch ∈ text, IdentifierChar ch

theorem isUpper_eq (ch : Char) : isUpper ch = ch.isUpper := by
  simp [isUpper, Char.isUpper, Char.le_def]

@[simp] theorem isUpper_toLower (ch : Char) : isUpper ch.toLower = false := by
  rw [isUpper_eq]
  exact Char.isUpper_toLower_eq_false ch

@[simp] theorem isLower_toUpper (ch : Char) : isLower ch.toUpper = false :=
  Char.isLower_toUpper_eq_false ch

theorem not_isDigit_of_isAlpha {ch : Char} (h : ch.isAlpha) : isDigit ch = false := by
  simp only [Char.isAlpha, Char.isUpper, Char.isLower, Bool.or_eq_true, Bool.and_eq_true,
    decide_eq_true_eq, ge_iff_le, UInt32.le_iff_toNat_le] at h
  simp only [isDigit, Char.le_def, UInt32.le_iff_toNat_le, Bool.and_eq_false_iff,
    decide_eq_false_iff_not]
  simp only [Char.reduceVal, UInt32.reduceToNat] at h ⊢
  omega

@[simp] theorem isDigit_toLower (ch : Char) : isDigit ch.toLower = isDigit ch := by
  by_cases h : ch.isUpper
  · have halpha : ch.isAlpha := by simp [Char.isAlpha, h]
    rw [not_isDigit_of_isAlpha halpha, not_isDigit_of_isAlpha]
    rwa [Char.isAlpha_toLower_eq_isAlpha]
  · rw [Char.toLower_eq_of_not_isUpper h]

@[simp] theorem isDigit_toUpper (ch : Char) : isDigit ch.toUpper = isDigit ch := by
  by_cases h : ch.isLower
  · have halpha : ch.isAlpha := by simp [Char.isAlpha, h]
    rw [not_isDigit_of_isAlpha halpha, not_isDigit_of_isAlpha]
    rwa [Char.isAlpha_toUpper_eq_isAlpha]
  · rw [Char.toUpper_eq_of_not_isLower h]

theorem identifierChar_toLower (ch : Char) : IdentifierChar ch.toLower ↔ IdentifierChar ch := by
  by_cases h : ch.isUpper
  · have hlower : isLower ch.toLower = true := by
      have halpha : ch.isAlpha := by simp [Char.isAlpha, h]
      exact (Char.isLower_toLower_eq_isAlpha ch).trans halpha
    exact iff_of_true (.inr (.inl hlower)) (.inl ((isUpper_eq ch).trans h))
  · rw [Char.toLower_eq_of_not_isUpper h]

/-! ### One step of the loop -/

/-- What ends the word before `ch`, other than an underscore. -/
def shouldSplit (prev ch nextCh : Char) : Bool :=
  (isLower prev && isUpper ch) || (isDigit prev != isDigit ch) ||
    (isUpper prev && isUpper ch && isLower nextCh)

section Steps
variable {words : List Text} {current rest : Text} {prev ch : Char}

theorem splitLoop_underscore (words : List Text) (current rest : Text) (prev : Char) :
    splitLoop words current prev ('_' :: rest) =
      splitLoop (flushWord words current) [] '_' rest := by
  rw [splitLoop, if_pos rfl]

theorem splitLoop_start (hch : ch ≠ '_')
    (h : current = [] ∨ shouldSplit prev ch (rest.headD (Char.ofNat 0)) = true) :
    splitLoop words current prev (ch :: rest) =
      splitLoop (flushWord words current) [ch] ch rest := by
  rw [splitLoop, if_neg hch]
  by_cases hempty : current = []
  · rw [hempty]
    rfl
  · have hsplit := h.resolve_left hempty
    unfold shouldSplit at hsplit
    dsimp only
    rw [hsplit, Bool.and_true, if_pos (decide_eq_true hempty)]

theorem splitLoop_extend (hch : ch ≠ '_')
    (h : shouldSplit prev ch (rest.headD (Char.ofNat 0)) = false) :
    splitLoop words current prev (ch :: rest) = splitLoop words (current ++ [ch]) ch rest := by
  unfold shouldSplit at h
  rw [splitLoop, if_neg hch]
  dsimp only
  rw [h, Bool.and_false]
  rfl

end Steps

/-- Without a word before it the character before does not matter. -/
theorem splitLoop_prev (words : List Text) (prev prev' : Char) (s : Text) :
    splitLoop words [] prev s = splitLoop words [] prev' s := by
  cases s with
  | nil => rfl
  | cons ch rest =>
    by_cases hch : ch = '_'
    · rw [hch, splitLoop_underscore, splitLoop_underscore]
    · rw [splitLoop_start hch (.inl rfl), splitLoop_start hch (.inl rfl)]

theorem flushWord_eq_append (words : List Text) (current : Text) :
    flushWord words current = words ++ flushWord [] current := by
  unfold flushWord
  split_ifs
  · exact (List.append_nil words).symm
  · rfl

theorem splitLoop_eq_append (words : List Text) (current : Text) (prev : Char) (s : Text) :
    splitLoop words current prev s = words ++ splitLoop [] current prev s := by
  induction s generalizing words current prev with
  | nil => exact flushWord_eq_append words current
  | cons ch rest ih =>
    by_cases hch : ch = '_'
    · rw [hch, splitLoop_underscore, splitLoop_underscore, ih, ih (flushWord [] current),
        flushWord_eq_append, List.append_assoc]
    · by_cases h : current = [] ∨ shouldSplit prev ch (rest.headD (Char.ofNat 0)) = true
      · rw [splitLoop_start hch h, splitLoop_start hch h, ih, ih (flushWord [] current),
          flushWord_eq_append, List.append_assoc]
      · have hsplit := Bool.eq_false_of_not_eq_true (not_or.mp h).2
        rw [splitLoop_extend hch hsplit, splitLoop_extend hch hsplit, ih]

theorem splitLoop_head {current : Text} (hcurrent : current ≠ []) (prev : Char) (s : Text) :
    ∃ word words, splitLoop [] current prev s = word :: words ∧ toLower current <+: word := by
  have hflush : flushWord [] current = [toLower current] := if_neg hcurrent
  induction s generalizing current prev with
  | nil => exact ⟨toLower current, [], hflush, List.prefix_rfl⟩
  | cons ch rest ih =>
    by_cases hch : ch = '_'
    · rw [hch, splitLoop_underscore, hflush, splitLoop_eq_append]
      exact ⟨toLower current, _, rfl, List.prefix_rfl⟩
    · by_cases h : current = [] ∨ shouldSplit prev ch (rest.headD (Char.ofNat 0)) = true
      · rw [splitLoop_start hch h, hflush, splitLoop_eq_append]
        exact ⟨toLower current, _, rfl, List.prefix_rfl⟩
      · have hne : current ++ [ch] ≠ [] := by simp
        rw [splitLoop_extend hch (Bool.eq_false_of_not_eq_true (not_or.mp h).2)]
        obtain ⟨word, words, heq, hprefix⟩ := ih hne ch (if_neg hne)
        rw [toLower_append] at hprefix
        exact ⟨word, words, heq, (List.prefix_append _ _).trans hprefix⟩

/-! ### Where words start -/

/-- One of the words starts after the characters `pre` of the name. -/
def WordStarts (words : List Text) (pre : Text) : Prop :=
  ∃ k < words.length, (words.take k).flatten = toLower (pre.filter (· ≠ '_'))

/-- The first of a name, the first after an underscore, or one where the kind of the characters
changes. -/
def StartsWord (pre : Text) (ch : Char) (rest : Text) : Prop :=
  ∀ prev ∈ pre.getLast?, prev = '_' ∨ isLower prev ∧ isUpper ch ∨ isDigit prev ≠ isDigit ch ∨
    isUpper prev ∧ isUpper ch ∧ ∃ nextCh ∈ rest.head?, isLower nextCh

theorem shouldSplit_iff (prev ch : Char) (rest : Text) :
    shouldSplit prev ch (rest.headD (Char.ofNat 0)) = true ↔
      isLower prev ∧ isUpper ch ∨ isDigit prev ≠ isDigit ch ∨
        isUpper prev ∧ isUpper ch ∧ ∃ nextCh ∈ rest.head?, isLower nextCh := by
  have hnext : isLower (rest.headD (Char.ofNat 0)) = true ↔
      ∃ nextCh ∈ rest.head?, isLower nextCh = true := by
    cases rest with
    | nil => exact iff_of_false (by decide) (by simp)
    | cons nextCh rest => simp
  simp only [shouldSplit, Bool.or_eq_true, Bool.and_eq_true, bne_iff_ne, hnext, or_assoc, and_assoc]

theorem startsWord_iff (pre : Text) (ch : Char) (rest : Text) :
    StartsWord pre ch rest ↔ pre.getLastD '_' = '_' ∨
      shouldSplit (pre.getLastD '_') ch (rest.headD (Char.ofNat 0)) = true := by
  rw [shouldSplit_iff, StartsWord, List.getLastD_eq_getLast?]
  cases pre.getLast? with
  | none => simp
  | some prev => simp

/-- The state of the loop after a part of the name. -/
theorem splitLoop_reach {words : List Text} {current : Text} {prev : Char}
    (h : current = [] ↔ prev = '_') (pre t : Text) :
    ∃ words' current', splitLoop words current prev (pre ++ t) =
        splitLoop words' current' (pre.getLastD prev) t ∧
      words'.flatten ++ toLower current' =
        words.flatten ++ toLower (current ++ pre.filter (· ≠ '_')) ∧
      (current' = [] ↔ pre.getLastD prev = '_') := by
  induction pre generalizing words current prev with
  | nil => exact ⟨words, current, rfl, by rw [List.filter_nil, List.append_nil], h⟩
  | cons ch rest ih =>
    rw [List.getLastD_cons, List.cons_append]
    by_cases hch : ch = '_'
    · obtain ⟨words', current', hrun, hflat, hempty⟩ :=
        @ih (flushWord words current) [] '_' (iff_of_true rfl rfl)
      refine ⟨words', current', ?_, ?_, ?_⟩
      · rw [hch, splitLoop_underscore, hrun]
      · rw [hflat, flushWord_flatten, List.filter_cons_of_neg (by simp [hch]), List.nil_append,
          toLower_append, List.append_assoc]
      · rwa [hch]
    · have hfilter : (ch :: rest).filter (· ≠ '_') = ch :: rest.filter (· ≠ '_') :=
        List.filter_cons_of_pos (by simp [hch])
      by_cases hsplit : current = [] ∨
          shouldSplit prev ch ((rest ++ t).headD (Char.ofNat 0)) = true
      · obtain ⟨words', current', hrun, hflat, hempty⟩ :=
          @ih (flushWord words current) [ch] ch (iff_of_false (by simp) hch)
        refine ⟨words', current', ?_, ?_, hempty⟩
        · rw [splitLoop_start hch hsplit, hrun]
        · rw [hflat, flushWord_flatten, hfilter, List.append_assoc, ← toLower_append]
          rfl
      · obtain ⟨words', current', hrun, hflat, hempty⟩ :=
          @ih words (current ++ [ch]) ch (iff_of_false (by simp) hch)
        refine ⟨words', current', ?_, ?_, hempty⟩
        · rw [splitLoop_extend hch (Bool.eq_false_of_not_eq_true (not_or.mp hsplit).2), hrun]
        · rw [hflat, hfilter, List.append_assoc, List.singleton_append]

theorem splitIdentifierWords_eq (name : Text) :
    splitIdentifierWords name = splitLoop [] [] '_' name := splitLoop_prev _ _ _ _

theorem wordStarts_of_start {words : List Text} {pre rest : Text} {ch : Char}
    (h : words.flatten = toLower (pre.filter (· ≠ '_'))) :
    WordStarts (splitLoop words [ch] ch rest) pre := by
  obtain ⟨word, more, heq, -⟩ := splitLoop_head (List.cons_ne_nil ch []) ch rest
  rw [splitLoop_eq_append, heq]
  refine ⟨words.length, ?_, ?_⟩
  · rw [List.length_append, List.length_cons]
    omega
  · rw [List.take_left, h]

theorem not_wordStarts_of_extend {words : List Text} {pre current rest : Text} {ch : Char}
    (hcurrent : current ≠ [])
    (h : words.flatten ++ toLower current = toLower (pre.filter (· ≠ '_'))) :
    ¬ WordStarts (splitLoop words (current ++ [ch]) ch rest) pre := by
  have hne : current ++ [ch] ≠ [] := by simp
  have hpos := List.length_pos_iff.mpr hcurrent
  obtain ⟨word, more, heq, hprefix⟩ := splitLoop_head hne ch rest
  have hword := hprefix.length_le
  rw [splitLoop_eq_append, heq]
  intro ⟨k, hk, htake⟩
  have hlength := congrArg List.length (htake.trans h.symm)
  rw [List.take_append, List.flatten_append, List.length_append, List.length_append] at hlength
  simp only [toLower, List.length_map, List.length_append, List.length_singleton] at hlength hword
  by_cases hle : k ≤ words.length
  · -- the words up to `k` end before the current one
    have hrest := congrArg List.length (congrArg List.flatten (List.take_append_drop k words))
    rw [List.flatten_append, List.length_append] at hrest
    rw [Nat.sub_eq_zero_of_le hle, List.take_zero, List.flatten_nil, List.length_nil] at hlength
    omega
  · -- and with it they reach beyond `ch`
    obtain ⟨n, hn⟩ : ∃ n, k - words.length = n + 1 := ⟨k - words.length - 1, by omega⟩
    rw [hn, List.take_succ_cons, List.flatten_cons, List.length_append,
      List.take_of_length_le (by omega)] at hlength
    omega

theorem wordStarts_iff {pre rest : Text} {ch : Char} (hch : ch ≠ '_') :
    WordStarts (splitIdentifierWords (pre ++ ch :: rest)) pre ↔ StartsWord pre ch rest := by
  obtain ⟨words, current, hrun, hflat, hempty⟩ :=
    @splitLoop_reach [] [] '_' (iff_of_true rfl rfl) pre (ch :: rest)
  rw [List.flatten_nil, List.nil_append, List.nil_append] at hflat
  rw [startsWord_iff, ← hempty, splitIdentifierWords_eq, hrun]
  by_cases h : current = [] ∨
      shouldSplit (pre.getLastD '_') ch (rest.headD (Char.ofNat 0)) = true
  · rw [splitLoop_start hch h]
    refine iff_of_true (wordStarts_of_start ?_) h
    rw [flushWord_flatten, hflat]
  · have hcurrent := (not_or.mp h).1
    rw [splitLoop_extend hch (Bool.eq_false_of_not_eq_true (not_or.mp h).2)]
    exact iff_of_false (not_wordStarts_of_extend hcurrent hflat) h

/-! ### Words joined again -/

/-- A word is a number or has no digit. -/
def Uniform (word : Text) : Prop := ∀ a ∈ word, ∀ b ∈ word, isDigit a = isDigit b

theorem Uniform.map {word : Text} (h : Uniform word) {f : Char → Char}
    (hf : ∀ c, isDigit (f c) = isDigit c) : Uniform (word.map f) := by
  simp only [Uniform, List.forall_mem_map, hf]
  exact h

theorem flushWord_uniform {words : List Text} {current : Text}
    (hwords : ∀ word ∈ words, Uniform word) (hcurrent : Uniform current) :
    ∀ word ∈ flushWord words current, Uniform word := by
  unfold flushWord
  split_ifs
  · exact hwords
  · intro word hword
    obtain hword | hword := List.mem_append.mp hword
    · exact hwords word hword
    · rw [List.mem_singleton.mp hword]
      exact hcurrent.map isDigit_toLower

theorem splitLoop_uniform {words : List Text} {current : Text} {prev : Char} (s : Text)
    (hwords : ∀ word ∈ words, Uniform word) (hcurrent : ∀ c ∈ current, isDigit c = isDigit prev) :
    ∀ word ∈ splitLoop words current prev s, Uniform word := by
  have hflush := flushWord_uniform hwords fun a ha b hb =>
    (hcurrent a ha).trans (hcurrent b hb).symm
  induction s generalizing words current prev with
  | nil => exact hflush
  | cons ch rest ih =>
    by_cases hch : ch = '_'
    · rw [hch, splitLoop_underscore]
      exact ih hflush nofun (flushWord_uniform hflush nofun)
    · have hone : ∀ c ∈ [ch], isDigit c = isDigit ch := fun c hc => by rw [List.mem_singleton.mp hc]
      by_cases h : current = [] ∨ shouldSplit prev ch (rest.headD (Char.ofNat 0)) = true
      · rw [splitLoop_start hch h]
        exact ih hflush hone (flushWord_uniform hflush fun a ha b hb =>
          (hone a ha).trans (hone b hb).symm)
      · -- a word goes on only with a character of its own kind
        have hsplit := (not_or.mp h).2
        have hsame : isDigit prev = isDigit ch := by
          by_contra hne
          exact hsplit ((shouldSplit_iff prev ch rest).mpr (.inr (.inl hne)))
        have hnext : ∀ c ∈ current ++ [ch], isDigit c = isDigit ch := by
          intro c hc
          obtain hc | hc := List.mem_append.mp hc
          · exact (hcurrent c hc).trans hsame
          · exact hone c hc
        rw [splitLoop_extend hch (Bool.eq_false_of_not_eq_true hsplit)]
        exact ih hwords hnext (flushWord_uniform hwords fun a ha b hb =>
          (hnext a ha).trans (hnext b hb).symm)

theorem splitIdentifierWords_uniform (name : Text) :
    ∀ word ∈ splitIdentifierWords name, Uniform word :=
  splitLoop_uniform name nofun nofun

/-- A spelling with letters of one case. -/
def OneCase (s : Text) : Prop := (∀ c ∈ s, isUpper c = false) ∨ ∀ c ∈ s, isLower c = false

theorem OneCase.mono {s t : Text} (h : OneCase t) (hsub : s ⊆ t) : OneCase s :=
  h.imp (fun h c hc => h c (hsub hc)) fun h c hc => h c (hsub hc)

theorem OneCase.shouldSplit {prev ch : Char} {rest : Text} (h : OneCase (prev :: ch :: rest))
    (hdigit : isDigit prev = isDigit ch) :
    shouldSplit prev ch (rest.headD (Char.ofNat 0)) = false := by
  rw [Bool.eq_false_iff, ne_eq, shouldSplit_iff]
  intro hsplit
  obtain hupper | hlower := h
  · have hch := hupper ch (by simp)
    simp [hch, hdigit] at hsplit
  · have hprev := hlower prev (by simp)
    have hnext : ∀ nextCh ∈ rest.head?, isLower nextCh = false := fun nextCh hnext =>
      hlower nextCh (by simp [List.mem_of_mem_head? hnext])
    obtain h | h | ⟨-, -, nextCh, hmem, h⟩ := hsplit
    · rw [hprev] at h
      exact absurd h.1 (by decide)
    · exact h hdigit
    · rw [hnext nextCh hmem] at h
      cases h

theorem splitLoop_append {words : List Text} {current word t : Text} {prev : Char}
    (hunbroken : '_' ∉ word) (hdigit : ∀ c ∈ word, isDigit prev = isDigit c)
    (hcase : OneCase (prev :: (word ++ t))) :
    ∃ prev', splitLoop words current prev (word ++ t) =
      splitLoop words (current ++ word) prev' t := by
  induction word generalizing current prev with
  | nil => exact ⟨prev, by rw [List.nil_append, List.append_nil]⟩
  | cons ch word ih =>
    rw [List.cons_append] at hcase ⊢
    obtain ⟨hch, hunbroken⟩ := not_or.mp (mt List.mem_cons.mpr hunbroken)
    have hsame := hdigit ch List.mem_cons_self
    obtain ⟨prev', hrun⟩ := @ih (current ++ [ch]) ch hunbroken
      (fun c hc => hsame.symm.trans (hdigit c (List.mem_cons_of_mem ch hc)))
      (hcase.mono (List.subset_cons_self prev _))
    refine ⟨prev', ?_⟩
    rw [splitLoop_extend (Ne.symm hch) (hcase.shouldSplit hsame), hrun,
      List.append_assoc, List.singleton_append]

theorem splitLoop_word (words : List Text) {word t : Text} (prev : Char) (hne : word ≠ [])
    (hunbroken : '_' ∉ word) (huniform : Uniform word) (hcase : OneCase (word ++ t)) :
    ∃ prev', splitLoop words [] prev (word ++ t) = splitLoop words word prev' t := by
  cases word with
  | nil => exact absurd rfl hne
  | cons ch word =>
    obtain ⟨hch, hunbroken⟩ := not_or.mp (mt List.mem_cons.mpr hunbroken)
    rw [List.cons_append, splitLoop_start (Ne.symm hch) (.inl rfl)]
    exact splitLoop_append hunbroken
      (fun c hc => huniform ch List.mem_cons_self c (List.mem_cons_of_mem ch hc)) hcase

theorem splitLoop_joinWords {words ws : List Text} (prev : Char)
    (hws : ∀ w ∈ ws, w ≠ [] ∧ '_' ∉ w ∧ Uniform w) (hcase : OneCase (joinWords ws ['_'])) :
    splitLoop words [] prev (joinWords ws ['_']) = words ++ ws.map toLower := by
  induction ws generalizing words prev with
  | nil => exact (List.append_nil words).symm
  | cons w ws ih =>
    obtain ⟨hne, hunbroken, huniform⟩ := hws w List.mem_cons_self
    have hflush : flushWord words w = words ++ [toLower w] := if_neg hne
    cases ws with
    | nil =>
      have hjoin : joinWords [w] ['_'] = w ++ [] := by simp [joinWords]
      rw [hjoin] at hcase ⊢
      obtain ⟨prev', hrun⟩ := splitLoop_word words prev hne hunbroken huniform hcase
      rw [hrun]
      exact hflush
    | cons next ws =>
      have hjoin : joinWords (w :: next :: ws) ['_'] =
          w ++ '_' :: joinWords (next :: ws) ['_'] := by
        simp [joinWords, List.intercalate_cons_cons]
      rw [hjoin] at hcase ⊢
      obtain ⟨prev', hrun⟩ := splitLoop_word words prev hne hunbroken huniform hcase
      have htail := hcase.mono
        (List.Subset.trans (List.subset_cons_self '_' _) (List.subset_append_right w _))
      rw [hrun, splitLoop_underscore, hflush,
        ih _ (fun v hv => hws v (List.mem_cons_of_mem w hv)) htail, List.append_assoc]
      rfl

theorem splitIdentifierWords_joinWords (name : Text) {f : Char → Char} (hunderscore : f '_' = '_')
    (hlower : ∀ c, (f c).toLower = c.toLower) (hdigit : ∀ c, isDigit (f c) = isDigit c)
    (hcase : ∀ s : Text, OneCase (s.map f)) :
    splitIdentifierWords ((joinWords (splitIdentifierWords name) ['_']).map f) =
      splitIdentifierWords name := by
  have hback : ∀ word ∈ splitIdentifierWords name, toLower (word.map f) = word := by
    intro word hmem
    have hmap : toLower (word.map f) = toLower word := by simp [toLower, hlower]
    exact hmap.trans (splitIdentifierWords_isWord name word hmem).lower
  have hwords : ∀ w ∈ (splitIdentifierWords name).map fun word => word.map f,
      w ≠ [] ∧ '_' ∉ w ∧ Uniform w := by
    rw [List.forall_mem_map]
    intro word hmem
    have hword := splitIdentifierWords_isWord name word hmem
    refine ⟨mt List.map_eq_nil_iff.mp hword.nonempty, ?_,
      (splitIdentifierWords_uniform name word hmem).map hdigit⟩
    intro hbroken
    have hlowered : '_' ∈ toLower (word.map f) := List.mem_map.mpr ⟨'_', hbroken, rfl⟩
    rw [hback word hmem] at hlowered
    exact hword.unbroken hlowered
  have hmap := map_joinWords f (splitIdentifierWords name) ['_']
  rw [List.map_singleton, hunderscore] at hmap
  rw [hmap, splitIdentifierWords_eq, splitLoop_joinWords '_' hwords (hmap ▸ hcase _),
    List.nil_append, List.map_map]
  exact (List.map_congr_left hback).trans (List.map_id _)

/-! ### Snake case -/

def snakeStyles : List EOrmNamingStyle := [.lowerCaseUnderscore, .upperCaseUnderscore]

theorem mem_joinWords {words : List Text} {separator : Text} {c : Char}
    (h : c ∈ joinWords words separator) : c ∈ words.flatten ∨ c ∈ separator := by
  induction words with
  | nil => cases h
  | cons word words ih =>
    rw [List.flatten_cons, List.mem_append]
    cases words with
    | nil => exact .inl (.inl (by simpa [joinWords] using h))
    | cons next words =>
      rw [joinWords, List.intercalate_cons_cons, List.mem_append, List.mem_append] at h
      obtain (h | h) | h := h
      · exact .inl (.inl h)
      · exact .inr h
      · exact (ih h).imp_left .inr

theorem nameKey_ascii (namingStyle : EOrmNamingStyle) (name : Identifier) :
    ∀ ch ∈ nameKey namingStyle name.text, IdentifierChar ch := by
  have hflat : ∀ ch ∈ toLower (name.text.filter (· ≠ '_')), IdentifierChar ch := by
    intro ch hch
    obtain ⟨c, hc, rfl⟩ := List.mem_map.mp hch
    exact (identifierChar_toLower c).mpr (name.ascii c (List.mem_of_mem_filter hc))
  have hjoin : ∀ ch ∈ joinWords (splitIdentifierWords name.text) ['_'], IdentifierChar ch := by
    intro ch hch
    obtain h | h := mem_joinWords hch
    · rw [splitIdentifierWords_flatten] at h
      exact hflat ch h
    · exact .inr (.inr (.inr (List.mem_singleton.mp h)))
  cases namingStyle
  case lowerCaseUnderscore => exact hjoin
  case upperCaseUnderscore => exact hjoin
  all_goals exact hflat

/-- The name a naming style makes of an identifier is an identifier. -/
def Identifier.styled (namingStyle : EOrmNamingStyle) (name : Identifier) : Identifier where
  text := applyNamingStyle namingStyle name.text
  ascii := by
    intro ch hch
    have hkey := nameKey_ascii namingStyle name
    rw [← toLower_applyNamingStyle] at hkey
    exact (identifierChar_toLower ch).mp (hkey _ (List.mem_map_of_mem hch))

theorem splitIdentifierWords_applyNamingStyle {namingStyle : EOrmNamingStyle}
    (h : namingStyle ∈ snakeStyles) (name : Text) :
    splitIdentifierWords (applyNamingStyle namingStyle name) = splitIdentifierWords name := by
  have hlower := splitIdentifierWords_joinWords name (f := Char.toLower) rfl
    Char.toLower_toLower_eq_toLower isDigit_toLower fun s => .inl (by simp)
  have hupper := splitIdentifierWords_joinWords name (f := Char.toUpper) rfl
    Char.toLower_toUpper_eq_toLower isDigit_toUpper fun s => .inr (by simp)
  unfold applyNamingStyle
  dsimp only
  split_ifs with hnil
  · rw [List.length_eq_zero_iff.mp hnil]
    rfl
  · obtain rfl | rfl : namingStyle = .lowerCaseUnderscore ∨ namingStyle = .upperCaseUnderscore := by
      simpa [snakeStyles] using h
    · exact hlower
    · exact hupper

/-- Splitting an identifier loses nothing but its underscores and its case, words start exactly
where the kind of the characters changes, and the snake case spellings of a name have its words. -/
theorem split_identifier (name : Identifier) :
    (∀ word ∈ splitIdentifierWords name.text, word ≠ []) ∧
    (splitIdentifierWords name.text).flatten = toLower (name.text.filter (· ≠ '_')) ∧
    (∀ pre ch rest, name.text = pre ++ ch :: rest → ch ≠ '_' →
      (WordStarts (splitIdentifierWords name.text) pre ↔ StartsWord pre ch rest)) ∧
    ∀ namingStyle ∈ snakeStyles,
      splitIdentifierWords (name.styled namingStyle).text = splitIdentifierWords name.text ∧
      ∀ namingStyle' ∈ snakeStyles,
        ((name.styled namingStyle).styled namingStyle').text = (name.styled namingStyle').text := by
  refine ⟨fun word h => (splitIdentifierWords_isWord name.text word h).nonempty,
    splitIdentifierWords_flatten name.text, ?_, ?_⟩
  · intro pre ch rest hname hch
    rw [hname]
    exact wordStarts_iff hch
  · intro namingStyle hstyle
    have hwords := splitIdentifierWords_applyNamingStyle hstyle name.text
    refine ⟨hwords, fun namingStyle' _ => ?_⟩
    change applyNamingStyle namingStyle' (applyNamingStyle namingStyle name.text) =
      applyNamingStyle namingStyle' name.text
    unfold applyNamingStyle at hwords ⊢
    dsimp only at hwords ⊢
    rw [hwords]

example : splitIdentifierWords "HTTPServer2_userID".toList =
    ["http".toList, "server".toList, "2".toList, "user".toList, "id".toList] := rfl

end DatabaseMod.OrmWordSplitting
