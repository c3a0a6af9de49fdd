import DatabaseMod.SqlTokens

/-!
# Reading a statement

The tokens of a statement are grouped into words, decoded names, placeholders and
symbols. A text assembled from literal pieces, quoted names and words is read piece
by piece, so the reading of a generated statement follows the code that builds it.
-/

namespace DatabaseMod.SqlReading
open SqlTokens

inductive Item
  | word (w : Text)
  | name (n : Text)
  | literal (t : Text)
  | mark
  | symbol (c : Char)
deriving DecidableEq, Repr

def isWordChar (c : Char) : Bool := c.isAlphanum || c = '_' || c = '$'

def wordItem (w : Text) : List Item := if w = [] then [] else [.word w]

/-- The item a character outside of words stands for; spaces only separate. -/
def symbolItem (c : Char) : List Item := if c.isWhitespace then [] else [.symbol c]

/-- The items of a token sequence that follows the pending word `w`. -/
def items (w : Text) : List Token → List Item
  | [] => wordItem w
  | .other c :: ts =>
    if isWordChar c then items (w ++ [c]) ts else wordItem w ++ symbolItem c ++ items [] ts
  | .identifier run :: ts => wordItem w ++ .name (runName '"' run) :: items [] ts
  | .literal run :: ts => wordItem w ++ .literal (runName '\'' run) :: items [] ts
  | .pair :: ts => wordItem w ++ .symbol '?' :: items [] ts
  | .mark :: ts => wordItem w ++ .mark :: items [] ts

def read (s : Text) : List Item := items [] (tokens s)

/-- The items of plain text after the pending word `w`, and the word left pending. -/
def plainItems (w : Text) : Text → List Item × Text
  | [] => ([], w)
  | c :: p =>
    if isWordChar c then plainItems (w ++ [c]) p
    else (wordItem w ++ symbolItem c ++ (plainItems [] p).1, (plainItems [] p).2)

theorem items_plain (w p : Text) (ts : List Token) :
    items w (p.map Token.other ++ ts) = (plainItems w p).1 ++ items (plainItems w p).2 ts := by
  induction p generalizing w with
  | nil => rfl
  | cons c p ih =>
    simp only [List.map_cons, List.cons_append, items, plainItems]
    split_ifs
    · exact ih _
    · simp [ih]

theorem read_nil : read [] = [] := by
  simp [read, tokens, items, wordItem]

/-! ### Piecewise reading -/

def isSeparator (c : Char) : Bool := isPlain c && !isWordChar c

/-- The text is empty or begins with a character that ends words and quoted names. -/
def Boundary (s : Text) : Prop := ∀ c ∈ s.head?, isSeparator c = true

theorem boundary_nil : Boundary [] := by simp [Boundary]

theorem boundary_cons {c : Char} (hc : isSeparator c = true) (s : Text) : Boundary (c :: s) := by
  simpa [Boundary] using hc

theorem Boundary.append {s t : Text} (hs : Boundary s) (ht : Boundary t) : Boundary (s ++ t) := by
  cases s with
  | nil => exact ht
  | cons c s => exact boundary_cons (hs c rfl) _

theorem Boundary.head_ne {s : Text} (hs : Boundary s) {c : Char} (hc : isSeparator c = false) :
    s.head? ≠ some c := fun h => by simpa [hc] using hs c h

theorem items_boundary {s : Text} (hs : Boundary s) (w : Text) :
    items w (tokens s) = wordItem w ++ read s := by
  cases s with
  | nil => simp [read, tokens, items, wordItem]
  | cons c s =>
    have hc := hs c rfl
    simp only [isSeparator, Bool.and_eq_true, Bool.not_eq_true'] at hc
    have h := tokens_plain (p := [c]) (by simpa using hc.1) s
    simp only [List.singleton_append, List.map_cons, List.map_nil] at h
    simp [read, h, items, hc.2, wordItem]

/-- `t` stands for the items `l` wherever a boundary follows. -/
def Reads (t : Text) (l : List Item) : Prop := ∀ s, Boundary s → read (t ++ s) = l ++ read s

theorem Reads.read_eq {t : Text} {l : List Item} (h : Reads t l) : read t = l := by
  simpa [read_nil] using h [] boundary_nil

theorem reads_nil : Reads [] [] := fun _ _ => rfl

theorem reads_if {c : Prop} [Decidable c] {t : Text} {l : List Item} (h : Reads t l) :
    Reads (if c then t else []) (if c then l else []) := by
  split_ifs
  · exact h
  · exact reads_nil

theorem boundary_if {c : Prop} [Decidable c] {t : Text} (h : Boundary t) :
    Boundary (if c then t else []) := by
  split_ifs
  · exact h
  · exact boundary_nil

theorem reads_quoted (n : Text) : Reads (quoted n) [.name n] := fun s hs => by
  rw [read, tokens_quoted n (hs.head_ne (by decide)), items, runName_doubled]
  rfl

theorem reads_mark : Reads ['?'] [.mark] := fun s hs => by
  rw [List.singleton_append, read, tokens_mark (hs.head_ne (by decide))]
  rfl

/-- Plain text is read by itself when a boundary follows. -/
theorem reads_plain {p : Text} {l : List Item} (hp : p.all isPlain = true) (hl : read p = l) :
    Reads p l := fun s hs => by
  have h := items_plain [] p (tokens [])
  rw [← tokens_plain hp, List.append_nil, items_boundary boundary_nil, read_nil,
    List.append_nil] at h
  rw [← hl, read, tokens_plain hp, items_plain, items_boundary hs, ← List.append_assoc, ← h]
  rfl

theorem plainItems_word {p : Text} (hp : p.all isWordChar = true) (w : Text) :
    plainItems w p = ([], w ++ p) := by
  induction p generalizing w with
  | nil => simp [plainItems]
  | cons c p ih =>
    simp only [List.all_cons, Bool.and_eq_true] at hp
    simp [plainItems, hp.1, ih hp.2]

theorem isPlain_of_isWordChar {c : Char} (hc : isWordChar c = true) : isPlain c = true := by
  by_contra h
  simp only [isPlain, Bool.and_eq_true, decide_eq_true_eq, not_and_or, not_not] at h
  rcases h with (rfl | rfl) | rfl <;> exact absurd hc (by decide)

theorem reads_word {p : Text} (hne : p ≠ []) (hp : p.all isWordChar = true) :
    Reads p [.word p] := by
  have hpp : p.all isPlain = true := by
    rw [List.all_eq_true] at hp ⊢
    exact fun x hx => isPlain_of_isWordChar (hp x hx)
  have h := items_plain [] p (tokens [])
  rw [← tokens_plain hpp, List.append_nil, plainItems_word hp, items_boundary boundary_nil,
    read_nil] at h
  refine reads_plain hpp ?_
  rw [read, h]
  simp [wordItem, hne]

theorem Reads.append {t t' : Text} {l l' : List Item} (h : Reads t l) (h' : Reads t' l')
    (ht' : Boundary t') : Reads (t ++ t') (l ++ l') := fun s hs => by
  rw [List.append_assoc, h _ (ht'.append hs), h' s hs, List.append_assoc]

/-- A literal piece that leaves no word pending may be followed by anything. -/
theorem Reads.literal {p t : Text} {l l' : List Item} (hp : p.all isPlain = true)
    (hl : plainItems [] p = (l, [])) (h : Reads t l') : Reads (p ++ t) (l ++ l') := fun s hs => by
  rw [List.append_assoc, read, tokens_plain hp, items_plain, hl, List.append_assoc, ← h s hs]
  rfl

theorem reads_separated {parts : List Text} {ls : List (List Item)}
    (h : List.Forall₂ Reads parts ls) :
    Reads (separated ", ".toList parts) (separated [.symbol ','] ls) := by
  have hrest {parts : List Text} {ls : List (List Item)} (h : List.Forall₂ Reads parts ls) :
      Reads (parts.flatMap (", ".toList ++ ·)) (ls.flatMap ([Item.symbol ','] ++ ·)) ∧
        Boundary (parts.flatMap (", ".toList ++ ·)) := by
    induction h with
    | nil => exact ⟨reads_nil, boundary_nil⟩
    | cons h _ ih =>
      refine ⟨?_, boundary_cons (by decide) _⟩
      rw [List.flatMap_cons, List.flatMap_cons]
      exact (Reads.literal (by decide) (by decide) h).append ih.1 ih.2
  cases h with
  | nil => exact reads_nil
  | cons h hs => exact h.append (hrest hs).1 (hrest hs).2

/-! ### Columns and placeholders of a statement -/

/-- Words that a table or index name follows. -/
def relationWords : List Text :=
  ["INTO", "UPDATE", "FROM", "ON", "EXISTS"].map String.toList

/-- The names of a statement that stand where a column is named; `prev` is the word
just before. -/
def columnNames (prev : Option Text) : List Item → List Text
  | [] => []
  | .name n :: l =>
    if prev.any (· ∈ relationWords) then columnNames none l else n :: columnNames none l
  | .word w :: l => columnNames (some w) l
  | .literal _ :: l | .mark :: l | .symbol _ :: l => columnNames none l

theorem columnNames_prev {l : List Item} (hl : ∀ n, l.head? ≠ some (.name n)) (prev : Option Text) :
    columnNames prev l = columnNames none l := by
  cases l with
  | nil => rfl
  | cons i l =>
    cases i with
    | name n => exact absurd rfl (hl n)
    | word w => rfl
    | literal t => rfl
    | mark => rfl
    | symbol c => rfl

theorem columnNames_append {p l : List Item} (hl : ∀ n, l.head? ≠ some (.name n))
    (prev : Option Text) :
    columnNames prev (p ++ l) = columnNames prev p ++ columnNames none l := by
  induction p generalizing prev with
  | nil => exact columnNames_prev hl prev
  | cons i p ih =>
    cases i with
    | name n =>
      simp only [List.cons_append, columnNames]
      split_ifs <;> simp [ih]
    | word w => exact ih _
    | literal t => exact ih _
    | mark => exact ih _
    | symbol c => exact ih _

theorem columnNames_no_name {p : List Item} (hp : ∀ n, .name n ∉ p) (prev : Option Text) :
    columnNames prev p = [] := by
  induction p generalizing prev with
  | nil => rfl
  | cons i p ih =>
    have hp' : ∀ n, Item.name n ∉ p := fun n hn => hp n (List.mem_cons_of_mem i hn)
    cases i with
    | name n => exact absurd List.mem_cons_self (hp n)
    | word w => exact ih hp' _
    | literal t => exact ih hp' _
    | mark => exact ih hp' _
    | symbol c => exact ih hp' _

/-- A list that names a column in each element, with commas between. -/
theorem columnNames_elements {α : Type*} (l : List α) (name : α → Text) (prev : Option Text)
    (hprev : prev.any (· ∈ relationWords) = false) {tail : ℕ → α → List Item}
    (htail : ∀ i x n, .name n ∉ tail i x) :
    columnNames prev (separated [.symbol ','] (l.mapIdx fun i x => .name (name x) :: tail i x)) =
      l.map name := by
  have helement (prev : Option Text) (hprev : prev.any (· ∈ relationWords) = false) (i : ℕ)
      (x : α) : columnNames prev (.name (name x) :: tail i x) = [name x] := by
    simp only [columnNames, hprev, columnNames_no_name (htail i x), Bool.false_eq_true, if_false]
  have hrest (l : List α) (f : ℕ → α → List Item)
      (hf : ∀ i x, columnNames none (f i x) = [name x]) :
      columnNames none ((l.mapIdx f).flatMap ([Item.symbol ','] ++ ·)) = l.map name ∧
        ∀ n, ((l.mapIdx f).flatMap ([Item.symbol ','] ++ ·)).head? ≠ some (.name n) := by
    induction l generalizing f with
    | nil => exact ⟨rfl, by simp⟩
    | cons x l ih =>
      obtain ⟨hcols, hhead⟩ := ih (fun i => f (i + 1)) (fun i => hf (i + 1))
      refine ⟨?_, by simp⟩
      rw [List.mapIdx_cons, List.flatMap_cons, columnNames_append hhead, hcols]
      exact congrArg (· ++ l.map name) (hf 0 x)
  cases l with
  | nil => rfl
  | cons x l =>
    obtain ⟨hcols, hhead⟩ := hrest l _ (fun i x => helement none rfl (i + 1) x)
    rw [List.mapIdx_cons, separated, columnNames_append hhead, hcols, helement prev hprev]
    rfl

def isPlaceholder : Item → Bool
  | .mark => true
  | .word w => w.head? = some '$'
  | _ => false

def placeholders (l : List Item) : List Item := l.filter isPlaceholder

/-- A question mark outside of literals and names, single or doubled. -/
def isMark : Item → Bool
  | .mark => true
  | .symbol c => c = '?'
  | _ => false

theorem marks_of_items {w : Text} {ts : List Token} (h : ∀ i ∈ items w ts, isMark i = false) :
    Token.mark ∉ ts ∧ Token.pair ∉ ts := by
  induction ts generalizing w with
  | nil => simp
  | cons t ts ih =>
    cases t with
    | other c =>
      simp only [items] at h
      split_ifs at h
      · simpa using ih h
      · simpa using ih fun i hi => h i (List.mem_append_right _ hi)
    | identifier run =>
      simpa using ih fun i hi => h i (List.mem_append_right _ (List.mem_cons_of_mem _ hi))
    | literal run =>
      simpa using ih fun i hi => h i (List.mem_append_right _ (List.mem_cons_of_mem _ hi))
    | pair => exact absurd (h _ (List.mem_append_right _ List.mem_cons_self)) (by decide)
    | mark => exact absurd (h _ (List.mem_append_right _ List.mem_cons_self)) (by decide)

end DatabaseMod.SqlReading
