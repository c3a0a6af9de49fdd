import DatabaseMod.SqlReading

/-!
# Statements made of pieces

A generated statement is a sequence of plain texts, placeholders and quoted names. Its tokens
are those of its pieces, so a lexer finds each name as one token, and what is outside the
names is what the other pieces say.
-/

namespace DatabaseMod.SqlPieces
open SqlTokens SqlReading

/-! ### The lexer's view of a statement -/

def Token.name : Token → Option Text
  | .identifier run => some (runName '"' run)
  | _ => none

/-- The decoded identifiers of a statement, in order. -/
def namesOf (sql : Text) : List Text := (tokens sql).filterMap Token.name

def Token.blank : Token → Token
  | .identifier _ => .identifier []
  | t => t

/-- A statement with its identifiers blanked out. -/
def outsideOf (sql : Text) : List Token := (tokens sql).map Token.blank

/-! ### Pieces -/

inductive Piece
  | plain (p : Text)
  | mark
  | name (n : Text)
deriving DecidableEq, Repr

namespace Piece

def tokens : Piece → List Token
  | .plain p => p.map .other
  | .mark => [.mark]
  | .name n => [.identifier (doubled '"' n ++ ['"'])]

def nameOf : Piece → Option Text
  | .name n => some n
  | _ => none

def blank : Piece → Piece
  | .name _ => .name []
  | piece => piece

end Piece

/-- `t` stands for the pieces wherever a boundary follows. -/
def Lexes (t : Text) (ps : List Piece) : Prop :=
  ∀ s, Boundary s → tokens (t ++ s) = ps.flatMap Piece.tokens ++ tokens s

theorem Lexes.tokens_eq {t : Text} {ps : List Piece} (h : Lexes t ps) :
    tokens t = ps.flatMap Piece.tokens := by
  have ht := h [] boundary_nil
  rwa [List.append_nil, show tokens [] = [] by simp [tokens], List.append_nil] at ht

/-! ### Composition -/

theorem lexes_nil : Lexes [] [] := fun _ _ => rfl

theorem lexes_name (n : Text) : Lexes (quoted n) [.name n] :=
  fun _ hs => tokens_quoted n (hs.head_ne (by decide))

theorem lexes_mark : Lexes ['?'] [.mark] := fun _ hs => tokens_mark (hs.head_ne (by decide))

theorem lexes_plain {p : Text} (hp : p.all isPlain = true) : Lexes p [.plain p] := by
  intro s _
  rw [tokens_plain hp, List.flatMap_singleton]
  rfl

theorem Lexes.append {t t' : Text} {ps ps' : List Piece} (h : Lexes t ps) (h' : Lexes t' ps')
    (ht' : Boundary t') : Lexes (t ++ t') (ps ++ ps') := by
  intro s hs
  rw [List.append_assoc, h _ (ht'.append hs), h' s hs, List.flatMap_append, List.append_assoc]

/-- A plain text may be followed by anything. -/
theorem Lexes.behind {p t : Text} {ps : List Piece} (hp : p.all isPlain = true) (h : Lexes t ps) :
    Lexes (p ++ t) (.plain p :: ps) := by
  intro s hs
  rw [List.append_assoc, tokens_plain hp, h s hs, List.flatMap_cons, List.append_assoc]
  rfl

theorem lexes_separated {sep : Text} (hsep : sep.all isPlain = true) (hbound : ∀ s, Boundary (sep ++ s))
    {parts : List Text} {pss : List (List Piece)} (h : List.Forall₂ Lexes parts pss) :
    Lexes (separated sep parts) (separated [.plain sep] pss) := by
  have hrest {parts : List Text} {pss : List (List Piece)} (h : List.Forall₂ Lexes parts pss) :
      Lexes (parts.flatMap (sep ++ ·)) (pss.flatMap ([Piece.plain sep] ++ ·)) ∧
        Boundary (parts.flatMap (sep ++ ·)) := by
    induction h with
    | nil => exact ⟨lexes_nil, boundary_nil⟩
    | @cons part ps parts pss h _ ih =>
      refine ⟨?_, ?_⟩
      · rw [List.flatMap_cons, List.flatMap_cons]
        exact (Lexes.behind hsep h).append ih.1 ih.2
      · rw [List.flatMap_cons, List.append_assoc]
        exact hbound _
  cases h with
  | nil => exact lexes_nil
  | cons h hs => exact h.append (hrest hs).1 (hrest hs).2

/-! ### Names and what is outside them -/

theorem names_of_pieces (ps : List Piece) :
    (ps.flatMap Piece.tokens).filterMap Token.name = ps.filterMap Piece.nameOf := by
  induction ps with
  | nil => rfl
  | cons piece ps ih =>
    rw [List.flatMap_cons, List.filterMap_append, ih]
    cases piece with
    | plain p =>
      have hnone : (p.map Token.other).filterMap Token.name = [] := by
        rw [List.filterMap_map]
        exact List.filterMap_eq_nil_iff.mpr fun _ _ => rfl
      rw [Piece.tokens, hnone]
      rfl
    | mark => rfl
    | name n =>
      simp only [Piece.tokens, List.filterMap_cons, Token.name, runName_doubled, List.filterMap_nil,
        Piece.nameOf]
      rfl

/-- The names of a statement are those of its pieces. -/
theorem Lexes.namesOf_eq {t : Text} {ps : List Piece} (h : Lexes t ps) :
    namesOf t = ps.filterMap Piece.nameOf := by
  rw [namesOf, h.tokens_eq, names_of_pieces]

theorem blank_tokens (piece : Piece) :
    piece.tokens.map Token.blank = piece.blank.tokens.map Token.blank := by
  cases piece <;> rfl

theorem outside_of_pieces (ps : List Piece) :
    (ps.flatMap Piece.tokens).map Token.blank =
      ((ps.map Piece.blank).flatMap Piece.tokens).map Token.blank := by
  induction ps with
  | nil => rfl
  | cons piece ps ih =>
    rw [List.map_cons, List.flatMap_cons, List.flatMap_cons, List.map_append, List.map_append, ih,
      blank_tokens]

/-- Statements whose pieces differ in the names only are the same outside their names. -/
theorem Lexes.outsideOf_eq {t t' : Text} {ps ps' : List Piece} (h : Lexes t ps)
    (h' : Lexes t' ps') (hblank : ps.map Piece.blank = ps'.map Piece.blank) :
    outsideOf t = outsideOf t' := by
  rw [outsideOf, outsideOf, h.tokens_eq, h'.tokens_eq, outside_of_pieces, hblank,
    ← outside_of_pieces]

theorem map_separated {α β : Type*} (f : α → β) (sep : List α) (parts : List (List α)) :
    (separated sep parts).map f = separated (sep.map f) (parts.map (List.map f)) := by
  cases parts with
  | nil => rfl
  | cons part parts =>
    simp only [separated, List.map_append, List.map_flatMap, List.map_cons, List.flatMap_map]

theorem filterMap_separated {α β : Type*} (f : α → Option β) {sep : List α}
    (hsep : sep.filterMap f = []) (parts : List (List α)) :
    (separated sep parts).filterMap f = parts.flatMap (List.filterMap f) := by
  cases parts with
  | nil => rfl
  | cons part parts =>
    simp only [separated, List.filterMap_append, List.filterMap_flatMap, hsep, List.nil_append,
      List.flatMap_cons]

end DatabaseMod.SqlPieces
