/-
# Patterns are read as they were meant

A pattern is put together from pieces and sent as a text.  The store reads the text back, and what
it reads is one item for each piece: a literal character as itself and as nothing else, and the
wild pieces as what they stand for.  So the search can be studied on the pieces, and no text that
a caller supplies as a literal can be taken for anything else.
-/
import Mathlib.Tactic.Lemma
import DocSelect.Proofs.Pattern.Search

namespace DocSelect

open Regex (Token Item)

/-- The item that the store reads a piece as. -/
def Piece.item : Piece → Item
  | start => .start
  | stop => .stop
  | literal c => .one (.char c)
  | anyChar => .one .any
  | anyRun => .many .any

/-- What the characters of a piece are read as. -/
def Piece.tokens : Piece → List Token
  | start => [.start]
  | stop => [.stop]
  | literal c => [.atom (.char c)]
  | anyChar => [.atom .any]
  | anyRun => [.atom .any, .star]

namespace Regex

/-! ## Characters -/

lemma isPunctuation_of_mem_metacharacters {c : Char} (h : c ∈ metacharacters) :
    isPunctuation c = true := by
  have hall : metacharacters.all isPunctuation = true := by decide
  exact List.all_eq_true.mp hall c h

/-- Every character that is not read as itself is written behind a backslash. -/
lemma mem_metacharacters_of_mem_special {c : Char} (h : c ∈ special) : c ∈ metacharacters := by
  have hall : special.all (· ∈ metacharacters) = true := by decide
  exact of_decide_eq_true (List.all_eq_true.mp hall c h)

/-- A bare character that means nothing else is read as itself. -/
lemma tokens?_cons_of_not_mem_special {c : Char} (h : c ∉ special) (cs : List Char) :
    tokens? (c :: cs) = (tokens? cs).map (.atom (.char c) :: ·) := by
  have hne : ∀ d ∈ special, c ≠ d := by
    rintro d hd rfl
    exact h hd
  rw [tokens?, if_neg h]
  · rintro d ds rfl
    exact absurd rfl (hne '\\' (by decide))
  · exact hne '^' (by decide)
  · exact hne '$' (by decide)
  · exact hne '.' (by decide)
  · exact hne '*' (by decide)

/-- A literal character is read as itself, whether or not it is written behind a backslash. -/
lemma tokens?_escaped_append (c : Char) (cs : List Char) :
    tokens? (escaped c ++ cs) = (tokens? cs).map (.atom (.char c) :: ·) := by
  unfold escaped
  split
  · rename_i h
    rw [List.cons_append, List.cons_append, List.nil_append, tokens?,
      if_pos (isPunctuation_of_mem_metacharacters h)]
  · rename_i h
    have hspecial : c ∉ special := fun hc => h (mem_metacharacters_of_mem_special hc)
    rw [List.cons_append, List.nil_append, tokens?_cons_of_not_mem_special hspecial]

/-! ## Pieces -/

lemma tokens?_chars_append (piece : Piece) (cs : List Char) :
    tokens? (piece.chars ++ cs) = (tokens? cs).map (piece.tokens ++ ·) := by
  cases piece with
  | start => rfl
  | stop => rfl
  | literal c => exact tokens?_escaped_append c cs
  | anyChar => rfl
  | anyRun =>
    show ((tokens? cs).map (.star :: ·)).map (.atom .any :: ·) = _
    rw [Option.map_map]
    rfl

lemma tokens?_flatMap_chars (p : Pattern) :
    tokens? (p.flatMap Piece.chars) = some (p.flatMap Piece.tokens) := by
  induction p with
  | nil => rfl
  | cons piece p ih =>
    rw [List.flatMap_cons, tokens?_chars_append, ih, Option.map_some, List.flatMap_cons]

/-- Behind a piece there is never a stray mark of repetition. -/
lemma head?_flatMap_tokens_ne_star (p : Pattern) :
    (p.flatMap Piece.tokens).head? ≠ some .star := by
  cases p with
  | nil => simp
  | cons piece p => cases piece <;> simp [Piece.tokens]

/-- What has no mark of repetition behind it stands for one character. -/
lemma items?_atom_cons {a : Atom} {ts : List Token} (h : ts.head? ≠ some .star) :
    items? (.atom a :: ts) = (items? ts).map (.one a :: ·) := by
  rw [items?]
  rintro ts' rfl
  exact h rfl

lemma items?_flatMap_tokens (p : Pattern) :
    items? (p.flatMap Piece.tokens) = some (p.map Piece.item) := by
  induction p with
  | nil => rfl
  | cons piece p ih =>
    have hstar := head?_flatMap_tokens_ne_star p
    rw [List.flatMap_cons, List.map_cons]
    cases piece with
    | start | stop | anyRun =>
      simp only [Piece.tokens, List.cons_append, List.nil_append, items?, ih, Option.map_some,
        Piece.item]
    | literal c | anyChar =>
      rw [Piece.tokens, List.cons_append, List.nil_append, items?_atom_cons hstar, ih,
        Option.map_some, Piece.item]

/-- **A pattern is read as it was meant.**  The store reads one item for each piece. -/
theorem read?_text (p : Pattern) : read? p.text = some (p.map Piece.item) := by
  rw [read?, Pattern.text, String.toList_ofList, tokens?_flatMap_chars, Option.bind_some,
    items?_flatMap_tokens]

/-- To search for a pattern is to search for its pieces. -/
lemma found?_text (p : Pattern) (subject : String) :
    found? p.text subject = some (searches (p.map Piece.item) true subject.toList) := by
  rw [found?, read?_text, Option.map_some]

end Regex

end DocSelect
