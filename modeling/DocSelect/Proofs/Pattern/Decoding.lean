/-
# Wildcard texts can be told from their patterns

In the pattern of a wildcard text a `_` and the beginning of a `%` are written alike, the ends of
the subject are tied or left open, and a character that would mean something else stands behind a
backslash.  None of this loses anything.  The text of a pattern is read back piece by piece, and the
pieces tell the characters that they come from:

* `Pattern.text_inj`: patterns that are written alike are the same;
* `Pattern.decode?_text_ofWildcards`: a wildcard text is read back from the text of its pattern.

A wildcard text in which no character is wild has the pattern of a literal that has to be the whole
subject, and no other wildcard text has.
-/
import Mathlib.Tactic.Lemma
import DocSelect.Proofs.Pattern.Literal
import DocSelect.Proofs.Pattern.Wildcards

namespace DocSelect

open Regex (Item)

/-- The piece that is read as an item.  No piece repeats a character of its own. -/
def Regex.Item.piece? : Item → Option Piece
  | start => some .start
  | stop => some .stop
  | one (.char c) => some (.literal c)
  | one .any => some .anyChar
  | many .any => some .anyRun
  | many (.char _) => none

/-- The character of a wildcard text that a piece comes from.  The ends of the subject come from
none. -/
def Piece.wildcard? : Piece → Option Char
  | start => none
  | stop => none
  | literal c => some c
  | anyChar => some '_'
  | anyRun => some '%'

/-- Put a character behind what is written already, so that it stands for itself: a backslash comes
before a metacharacter, and before nothing else. -/
def Regex.putEscaped (out : String) (c : Char) : String :=
  (if c ∈ metacharacters then out.push '\\' else out).push c

/-- A text as it is written in a pattern to stand for itself. -/
def Regex.escape (t : String) : String :=
  t.toList.foldl putEscaped ""

lemma Piece.piece?_item (piece : Piece) : piece.item.piece? = some piece := by
  cases piece <;> rfl

namespace Pattern

/-! ## Patterns from their texts -/

/-- The pattern that a text is read as. -/
def ofText? (text : String) : Option Pattern :=
  (Regex.read? text).bind fun items => items.mapM Item.piece?

lemma mapM_piece?_map_item (p : Pattern) : (p.map Piece.item).mapM Item.piece? = some p := by
  induction p with
  | nil => rfl
  | cons piece p ih =>
    rw [List.map_cons, List.mapM_cons, Piece.piece?_item, ih]
    rfl

/-- A pattern is read back from its text. -/
lemma ofText?_text (p : Pattern) : ofText? p.text = some p := by
  rw [ofText?, Regex.read?_text, Option.bind_some, mapM_piece?_map_item]

/-- Patterns that are written alike are the same. -/
lemma text_inj {p q : Pattern} : p.text = q.text ↔ p = q := by
  constructor
  · intro h
    have hread := ofText?_text p
    rw [h, ofText?_text] at hread
    exact (Option.some.inj hread).symm
  · rintro rfl
    rfl

/-! ## Wildcard texts from their patterns -/

lemma wildcard?_wildcard (c : Char) : (wildcard c).wildcard? = some c := by
  by_cases hrun : c = '%'
  · subst hrun
    rfl
  · by_cases hsingle : c = '_'
    · subst hsingle
      rfl
    · rw [wildcard_of_ne hrun hsingle, Piece.wildcard?]

/-- The wildcard text that a pattern comes from. -/
def wildcards (p : Pattern) : String :=
  String.ofList (p.filterMap Piece.wildcard?)

/-- An end of the subject comes from no character, whether it is tied or left open. -/
lemma filterMap_wildcard?_ite {leftOpen : Prop} [Decidable leftOpen] (piece : Piece)
    (h : piece.wildcard? = none) :
    (if leftOpen then [] else [piece]).filterMap Piece.wildcard? = [] := by
  split
  · rfl
  · rw [List.filterMap_cons_none h, List.filterMap_nil]

lemma wildcards_ofWildcards (t : String) : (ofWildcards t).wildcards = t := by
  have hcs : (t.toList.map wildcard).filterMap Piece.wildcard? = t.toList := by
    rw [List.filterMap_map]
    simp only [Function.comp_def, wildcard?_wildcard, List.filterMap_some]
  rw [wildcards, ofWildcards, List.filterMap_append, List.filterMap_append, hcs,
    filterMap_wildcard?_ite .start rfl, filterMap_wildcard?_ite .stop rfl, List.nil_append,
    List.append_nil, String.ofList_toList]

lemma ofWildcards_injective : Function.Injective ofWildcards :=
  Function.LeftInverse.injective wildcards_ofWildcards

/-- The wildcard text that the text of a pattern comes from. -/
def decode? (text : String) : Option String :=
  (ofText? text).map wildcards

/-- A wildcard text is read back from the text of its pattern. -/
lemma decode?_text_ofWildcards (t : String) : decode? (ofWildcards t).text = some t := by
  rw [decode?, ofText?_text, Option.map_some, wildcards_ofWildcards]

/-! ## Wildcard texts without wild characters -/

lemma wildcard_mem_ofWildcards {t : String} {c : Char} (h : c ∈ t.toList) :
    wildcard c ∈ ofWildcards t :=
  List.mem_append_left _ (List.mem_append_right _ (List.mem_map_of_mem h))

/-- What looks for a literal has no wild piece. -/
lemma eq_of_mem_seeking_whole {t : String} {piece : Piece} (h : piece ∈ seeking .whole t) :
    piece = .start ∨ piece = .stop ∨ ∃ c, piece = .literal c := by
  simp only [seeking, literally, List.mem_append, List.mem_cons, List.mem_map, List.not_mem_nil,
    or_false] at h
  obtain (rfl | ⟨c, -, rfl⟩) | rfl := h
  · exact Or.inl rfl
  · exact Or.inr (Or.inr ⟨c, rfl⟩)
  · exact Or.inr (Or.inl rfl)

/-- The pattern of a wildcard text is the one of a literal exactly when no character is wild. -/
lemma ofWildcards_eq_seeking_whole_iff {t : String} :
    ofWildcards t = seeking .whole t ↔ '%' ∉ t.toList ∧ '_' ∉ t.toList := by
  constructor
  · intro h
    constructor
    · intro hmem
      have hrun : Piece.anyRun ∈ seeking .whole t := h ▸ wildcard_mem_ofWildcards hmem
      simpa using eq_of_mem_seeking_whole hrun
    · intro hmem
      have hsingle : Piece.anyChar ∈ seeking .whole t := h ▸ wildcard_mem_ofWildcards hmem
      simpa using eq_of_mem_seeking_whole hsingle
  · rintro ⟨hrun, hsingle⟩
    have hhead : t.toList.head? ≠ some '%' := fun h => hrun (List.mem_of_head? h)
    have hlast : t.toList.getLast? ≠ some '%' := fun h => hrun (List.mem_of_getLast? h)
    have hcs : t.toList.map wildcard = literally t := by
      refine List.map_congr_left fun c hc => wildcard_of_ne ?_ ?_
      · rintro rfl
        exact hrun hc
      · rintro rfl
        exact hsingle hc
    rw [ofWildcards, if_neg hhead, if_neg hlast, hcs]
    rfl

/-! ## Literals as they are written -/

lemma toList_putEscaped (out : String) (c : Char) :
    (Regex.putEscaped out c).toList = out.toList ++ escaped c := by
  rw [Regex.putEscaped, escaped]
  split <;> simp

/-- Whatever is written already, a text is put behind it character by character. -/
lemma toList_foldl_putEscaped (cs : List Char) (out : String) :
    (cs.foldl Regex.putEscaped out).toList = out.toList ++ cs.flatMap escaped := by
  induction cs generalizing out with
  | nil => rw [List.foldl_nil, List.flatMap_nil, List.append_nil]
  | cons c cs ih =>
    rw [List.foldl_cons, ih, toList_putEscaped, List.flatMap_cons, List.append_assoc]

/-- A literal is written as the whole of it is escaped. -/
lemma text_literally (t : String) : (literally t).text = Regex.escape t := by
  rw [← String.toList_inj, Regex.escape, toList_foldl_putEscaped, text, String.toList_ofList,
    literally, List.flatMap_map]
  rfl

lemma text_append (p q : Pattern) : text (p ++ q) = p.text ++ q.text := by
  rw [text, List.flatMap_append, String.ofList_append, text, text]

lemma text_seeking_whole (t : String) :
    (seeking .whole t).text = "^" ++ Regex.escape t ++ "$" := by
  have hpieces : seeking .whole t = [.start] ++ literally t ++ [.stop] := rfl
  rw [hpieces, text_append, text_append, text_literally]
  rfl

/-- **Patterns tell wildcard texts apart.**  A wildcard text can be read back from the text of its
pattern, so no two of them share one.  Where no character is wild, and nowhere else, the pattern is
the one that looks for the literal as a whole. -/
theorem text_ofWildcards_faithful :
    (∀ t, decode? (ofWildcards t).text = some t) ∧
    (∀ s t, (ofWildcards s).text = (ofWildcards t).text ↔ s = t) ∧
    ∀ t : String,
      ((ofWildcards t).text = "^" ++ Regex.escape t ++ "$" ↔ '%' ∉ t.toList ∧ '_' ∉ t.toList) ∧
      ∀ (p : Path) (v : Value), v.literal? = some t →
        (p.binary .like v).compile.result =
          .ok [(p.fieldName, .obj [("$regex", .str (ofWildcards t).text)])] ∧
        (p.binary .equalsIgnoreCase v).compile.result =
          .ok [(p.fieldName, .obj [("$regex", .str ("^" ++ Regex.escape t ++ "$")),
            ("$options", .str "i")])] := by
  refine ⟨decode?_text_ofWildcards, ?_, ?_⟩
  · intro s t
    rw [text_inj, ofWildcards_injective.eq_iff]
  · intro t
    rw [← text_seeking_whole, text_inj]
    refine ⟨ofWildcards_eq_seeking_whole_iff, ?_⟩
    intro p v hv
    have hx : (Expr.constant v).literal? = some t := hv
    constructor
    · exact (Expr.HasFilter.test (Compile.Tests.like rfl hx)).result_compile
    · exact Path.compile_search .equalsIgnoreCase .whole true rfl p hv

theorem text_ofWildcards_faithful_metacharacters :
    (Value.text "^a.c*$").literal? = some "^a.c*$" ∧
      decode? (ofWildcards "^a.c*$").text = some "^a.c*$" ∧
      ((ofWildcards "^a.c*$").text = (ofWildcards "^a_c%$").text ↔ "^a.c*$" = "^a_c%$") ∧
      ((ofWildcards "^a.c*$").text = "^" ++ Regex.escape "^a.c*$" ++ "$" ↔
        '%' ∉ "^a.c*$".toList ∧ '_' ∉ "^a.c*$".toList) ∧
      (((Path.root "user").property "name").binary .like (.text "^a.c*$")).compile.result =
        .ok [("name", .obj [("$regex", .str (ofWildcards "^a.c*$").text)])] ∧
      (((Path.root "user").property "name").binary .equalsIgnoreCase
          (.text "^a.c*$")).compile.result =
        .ok [("name", .obj [("$regex", .str ("^" ++ Regex.escape "^a.c*$" ++ "$")),
          ("$options", .str "i")])] := by
  obtain ⟨hdecode, hinj, hwritten⟩ := text_ofWildcards_faithful
  obtain ⟨hliteral, hcompile⟩ := hwritten "^a.c*$"
  have hfilters := hcompile ((Path.root "user").property "name") (.text "^a.c*$") rfl
  exact ⟨rfl, hdecode _, hinj _ _, hliteral, hfilters⟩

/-- Wild characters, and the characters that they are written with. -/
example : (ofWildcards "_.%*").text = "^.\\..*\\*$" ∧
    decode? "^.\\..*\\*$" = some "_.%*" := by
  decide

end Pattern

end DocSelect
