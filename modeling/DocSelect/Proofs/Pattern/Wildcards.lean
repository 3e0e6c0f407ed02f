/-
# Wildcard texts match as a whole

A wildcard text is compared with a whole subject: `%` stands for any run of characters, `_` for any
single one, and every other character for itself.  The store does not compare, it searches.  So the
pattern of a wildcard text is tied to both ends of the subject, but an end is left open where the
wildcard text itself begins or ends with `%`.  This file proves that the search finds exactly what
the comparison accepts.

The one difference from the usual reading is due to the line feed.  The wild character of the store
does not accept it, so `_` does not stand for a line feed and a run does not cross one.  A run at an
end of the wildcard text does: what the run itself cannot take, the search skips.

* `Pattern.Like first cs s`: the comparison with regard to line feeds;
* `Pattern.PlainLike cs s`: the usual comparison, the same on subjects without line feeds.
-/
import Mathlib.Tactic.Lemma
import DocSelect.Proofs.Pattern.Reading

namespace DocSelect

open Regex (Item)

namespace Pattern

/-! ## Comparison -/

/-- `Stands edge c piece`: the character `c` of a wildcard text stands for the characters `piece` of
a subject.  A run at an edge of the wildcard text may hold line feeds. -/
def Stands (edge : Bool) : Char → List Char → Prop
  | '%', piece => edge = true ∨ '\n' ∉ piece
  | '_', piece => ∃ d, d ≠ '\n' ∧ piece = [d]
  | c, piece => piece = [c]

/-- `Like first cs s`: the subject `s` is made of pieces, one for each of the wildcard characters
`cs` and in their order.  An edge is the last of the characters, and the first if `first` says that
nothing comes before `cs`. -/
inductive Like : Bool → List Char → List Char → Prop
  | nil (first : Bool) : Like first [] []
  | cons {first : Bool} {c : Char} {cs piece s : List Char}
      (hpiece : Stands (first || cs.isEmpty) c piece) :
      Like false cs s → Like first (c :: cs) (piece ++ s)

/-- The usual comparison of a subject with wildcard characters. -/
inductive PlainLike : List Char → List Char → Prop
  | nil : PlainLike [] []
  | run (piece : List Char) {cs s : List Char} : PlainLike cs s →
      PlainLike ('%' :: cs) (piece ++ s)
  | single (d : Char) {cs s : List Char} : PlainLike cs s → PlainLike ('_' :: cs) (d :: s)
  | literal {c : Char} (hrun : c ≠ '%') (hsingle : c ≠ '_') {cs s : List Char} :
      PlainLike cs s → PlainLike (c :: cs) (c :: s)

lemma stands_run {edge : Bool} {piece : List Char} :
    Stands edge '%' piece ↔ edge = true ∨ '\n' ∉ piece :=
  Iff.rfl

lemma stands_single {edge : Bool} {piece : List Char} :
    Stands edge '_' piece ↔ ∃ d, d ≠ '\n' ∧ piece = [d] :=
  Iff.rfl

lemma stands_literal {edge : Bool} {c : Char} (hrun : c ≠ '%') (hsingle : c ≠ '_')
    {piece : List Char} : Stands edge c piece ↔ piece = [c] := by
  rw [Stands]
  · exact hrun
  · exact hsingle

/-- Only a run is read differently at an edge. -/
lemma stands_iff_of_ne_run {c : Char} (hrun : c ≠ '%') (edge edge' : Bool) {piece : List Char} :
    Stands edge c piece ↔ Stands edge' c piece := by
  by_cases hsingle : c = '_'
  · subst hsingle
    rw [stands_single, stands_single]
  · rw [stands_literal hrun hsingle, stands_literal hrun hsingle]

lemma like_nil_iff {first : Bool} {s : List Char} : Like first [] s ↔ s = [] := by
  constructor
  · rintro ⟨⟩
    rfl
  · rintro rfl
    exact Like.nil first

lemma like_cons_iff {first : Bool} {c : Char} {cs s : List Char} :
    Like first (c :: cs) s ↔
      ∃ piece rest, s = piece ++ rest ∧ Stands (first || cs.isEmpty) c piece ∧
        Like false cs rest := by
  constructor
  · intro h
    cases h with
    | @cons _ _ _ piece rest hpiece hrest => exact ⟨piece, rest, rfl, hpiece, hrest⟩
  · rintro ⟨piece, rest, rfl, hpiece, hrest⟩
    exact Like.cons hpiece hrest

/-- Where no run comes first, it does not matter what comes before. -/
lemma like_true_iff_like_false {cs s : List Char} (h : cs.head? ≠ some '%') :
    Like true cs s ↔ Like false cs s := by
  cases cs with
  | nil => rw [like_nil_iff, like_nil_iff]
  | cons c cs =>
    have hrun : c ≠ '%' := by
      rintro rfl
      exact h rfl
    have hstands : ∀ piece : List Char,
        Stands (true || cs.isEmpty) c piece ↔ Stands (false || cs.isEmpty) c piece := by
      intro piece
      exact stands_iff_of_ne_run hrun _ _
    simp only [like_cons_iff, hstands]

/-- A run that comes first takes what would else have to be skipped. -/
lemma like_true_run_iff {cs s : List Char} :
    Like true ('%' :: cs) s ↔
      ∃ skipped rest, s = skipped ++ rest ∧ Like false ('%' :: cs) rest := by
  constructor
  · intro h
    obtain ⟨piece, rest, rfl, -, hrest⟩ := like_cons_iff.mp h
    refine ⟨piece, rest, rfl, like_cons_iff.mpr ⟨[], rest, rfl, ?_, hrest⟩⟩
    exact stands_run.mpr (Or.inr (by simp))
  · rintro ⟨skipped, _, rfl, h⟩
    obtain ⟨piece, rest, rfl, -, hrest⟩ := like_cons_iff.mp h
    refine like_cons_iff.mpr ⟨skipped ++ piece, rest, (List.append_assoc _ _ _).symm, ?_, hrest⟩
    exact stands_run.mpr (Or.inl rfl)

/-- Without line feeds in the subject, the comparison is the usual one. -/
lemma like_iff_plainLike {first : Bool} {cs s : List Char} (h : '\n' ∉ s) :
    Like first cs s ↔ PlainLike cs s := by
  constructor
  · intro hlike
    induction hlike with
    | nil => exact PlainLike.nil
    | @cons first c cs piece s hpiece _ ih =>
      have hrest : PlainLike cs s := ih fun hs => h (List.mem_append_right piece hs)
      by_cases hrun : c = '%'
      · subst hrun
        exact PlainLike.run piece hrest
      · by_cases hsingle : c = '_'
        · subst hsingle
          obtain ⟨d, -, rfl⟩ := stands_single.mp hpiece
          exact PlainLike.single d hrest
        · obtain rfl := (stands_literal hrun hsingle).mp hpiece
          exact PlainLike.literal hrun hsingle hrest
  · intro hlike
    induction hlike generalizing first with
    | nil => exact Like.nil first
    | run piece _ ih =>
      rw [List.mem_append, not_or] at h
      exact Like.cons (Or.inr h.1) (ih h.2)
    | single d _ ih =>
      rw [List.mem_cons, not_or] at h
      refine like_cons_iff.mpr ⟨[d], _, rfl, ?_, ih h.2⟩
      exact stands_single.mpr ⟨d, Ne.symm h.1, rfl⟩
    | @literal c hrun hsingle _ _ _ ih =>
      rw [List.mem_cons, not_or] at h
      refine like_cons_iff.mpr ⟨[c], _, rfl, ?_, ih h.2⟩
      exact (stands_literal hrun hsingle).mpr rfl

/-! ## Search -/

open Regex (matchesAt searches)

/-- A character that is not wild stands for itself. -/
lemma wildcard_of_ne {c : Char} (hrun : c ≠ '%') (hsingle : c ≠ '_') :
    wildcard c = .literal c := by
  rw [wildcard]
  · exact hrun
  · exact hsingle

/-- What a wildcard character takes is what it stands for away from the edges. -/
lemma takes_wildcard_iff {c : Char} {atStart : Bool} {taken rest : List Char} :
    (wildcard c).item.Takes atStart taken rest ↔ Stands false c taken := by
  by_cases hrun : c = '%'
  · subst hrun
    rw [stands_run]
    simp only [wildcard, Piece.item, Item.Takes, Regex.Atom.accepts, bne_iff_ne, Bool.false_eq_true,
      false_or]
    constructor
    · intro h hmem
      exact h '\n' hmem rfl
    · rintro h d hd rfl
      exact h hd
  · by_cases hsingle : c = '_'
    · subst hsingle
      rw [stands_single]
      simp only [wildcard, Piece.item, Item.Takes, Regex.Atom.accepts, bne_iff_ne]
    · rw [stands_literal hrun hsingle, wildcard_of_ne hrun hsingle]
      simp [Piece.item, Item.Takes, Regex.Atom.accepts]

/-- What ties a pattern to the end of the subject, where the wildcard text does not end with a
run. -/
def closing (cs : List Char) : List Item :=
  if cs.getLast? = some '%' then [] else [.stop]

lemma closing_singleton_of_ne_run {c : Char} (hrun : c ≠ '%') : closing [c] = [.stop] := by
  rw [closing, List.getLast?_singleton, if_neg]
  intro h
  exact hrun (Option.some.inj h)

/-- Up to the end of the subject, the store matches what the comparison accepts. -/
lemma matchesAt_wildcards_eq_true_iff {cs s : List Char} {atStart : Bool} :
    matchesAt (cs.map (fun c => (wildcard c).item) ++ closing cs) atStart s = true ↔
      Like false cs s := by
  induction cs generalizing atStart s with
  | nil =>
    rw [like_nil_iff]
    simp [closing, matchesAt]
  | cons c cs ih =>
    rw [List.map_cons, List.cons_append, Regex.matchesAt_cons_eq_true_iff, like_cons_iff]
    simp only [takes_wildcard_iff]
    cases cs with
    | nil =>
      by_cases hrun : c = '%'
      · -- nothing has to be matched behind the run, and it can be cut short
        subst hrun
        constructor
        · intro _
          exact ⟨s, [], (List.append_nil s).symm, stands_run.mpr (Or.inl rfl), Like.nil false⟩
        · intro _
          exact ⟨[], s, rfl, stands_run.mpr (Or.inr (by simp)), rfl⟩
      · have hstands : ∀ piece : List Char, Stands false c piece ↔ Stands true c piece := by
          intro piece
          exact stands_iff_of_ne_run hrun false true
        simp only [closing_singleton_of_ne_run hrun, hstands, like_nil_iff]
        simp [matchesAt]
    | cons d cs =>
      have hclosing : closing (c :: d :: cs) = closing (d :: cs) := by
        rw [closing, closing, List.getLast?_cons_cons]
      simp only [hclosing, ih, List.isEmpty_cons, Bool.or_false]

lemma map_item_ofWildcards (t : String) :
    (ofWildcards t).map Piece.item =
      (if t.toList.head? = some '%' then [] else [.start]) ++
        (t.toList.map (fun c => (wildcard c).item) ++ closing t.toList) := by
  rw [ofWildcards, List.append_assoc, List.map_append, List.map_append, List.map_map, closing]
  congr 1
  · split <;> rfl
  · congr 1
    split <;> rfl

/-- A search for the pattern of a wildcard text finds what the comparison accepts. -/
lemma searches_ofWildcards_eq_true_iff {t : String} {s : List Char} :
    searches ((ofWildcards t).map Piece.item) true s = true ↔ Like true t.toList s := by
  rw [map_item_ofWildcards]
  generalize t.toList = cs
  split
  · rename_i hhead
    obtain ⟨cs, rfl⟩ : ∃ cs', cs = '%' :: cs' := by
      cases cs with
      | nil => exact absurd hhead (by simp)
      | cons c cs' => exact ⟨cs', by simpa using hhead⟩
    rw [List.nil_append, Regex.searches_eq_true_iff, like_true_run_iff]
    simp only [matchesAt_wildcards_eq_true_iff]
  · rename_i hhead
    rw [List.cons_append, List.nil_append, Regex.searches_start, matchesAt_wildcards_eq_true_iff,
      like_true_iff_like_false hhead]

/-- **Wildcard texts match as a whole.**  Whatever the wildcard text, its pattern is found in a
subject exactly when the whole subject is like it; and where there is no line feed, in the usual
sense. -/
theorem exists_found?_ofWildcards (t subject : String) :
    ∃ found, Regex.found? (ofWildcards t).text subject = some found ∧
      (found = true ↔ Like true t.toList subject.toList) ∧
      ('\n' ∉ subject.toList → (found = true ↔ PlainLike t.toList subject.toList)) := by
  refine ⟨_, Regex.found?_text (ofWildcards t) subject, searches_ofWildcards_eq_true_iff, ?_⟩
  intro h
  rw [searches_ofWildcards_eq_true_iff, like_iff_plainLike h]

theorem exists_found?_ofWildcards_metacharacters :
    '\n' ∉ "[x].a$b".toList ∧
      ∃ found, Regex.found? (ofWildcards "%_.a%$_").text "[x].a$b" = some found ∧
        (found = true ↔ Like true "%_.a%$_".toList "[x].a$b".toList) ∧
        (found = true ↔ PlainLike "%_.a%$_".toList "[x].a$b".toList) := by
  have h : '\n' ∉ "[x].a$b".toList := by decide
  obtain ⟨found, hfound, hlike, hplain⟩ := exists_found?_ofWildcards "%_.a%$_" "[x].a$b"
  exact ⟨h, found, hfound, hlike, hplain h⟩

/-- A run crosses a line feed at an edge of the wildcard text, and nowhere else. -/
example : Regex.found? (ofWildcards "a%").text "a\nb" = some true ∧
    Regex.found? (ofWildcards "a%b").text "a\nb" = some false := by
  decide

end Pattern

end DocSelect
