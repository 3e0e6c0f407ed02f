/-
# Literals are found where they are looked for

A predicate can ask whether a text begins with a literal, ends with it, holds it somewhere, or is
that literal and nothing else.  The patterns of these predicates have the literal, character by
character, between the ends of the subject and runs of any characters.  This file proves that each
pattern is found in exactly the subjects that it was made for, whatever characters the literal and
the subject hold: metacharacters and line feeds are no exception.
-/
import Mathlib.Data.List.Infix
import Mathlib.Tactic.Lemma
import DocSelect.Expr.Build
import DocSelect.Proofs.Compile.Rules
import DocSelect.Proofs.Pattern.Reading

namespace DocSelect

open Regex (Item)

/-- The items of a literal text. -/
def Regex.literals (t : List Char) : List Item :=
  t.map fun c => .one (.char c)

lemma Pattern.map_item_literally (t : String) :
    (literally t).map Piece.item = Regex.literals t.toList := by
  rw [literally, List.map_map]
  rfl

namespace Regex

variable {t s : List Char} {items : List Item} {atStart : Bool}

/-! ## Literals -/

/-- A literal takes its own characters and no others. -/
lemma matchesAt_literals_append_eq_true_iff :
    matchesAt (literals t ++ items) atStart s = true ↔
      ∃ rest, s = t ++ rest ∧ matchesAt items (atStart && t.isEmpty) rest = true := by
  induction t generalizing atStart s with
  | nil => simp [literals]
  | cons c t ih =>
    rw [literals, List.map_cons, List.cons_append, matchesAt_cons_eq_true_iff]
    constructor
    · rintro ⟨_, rest, rfl, ⟨d, hd, rfl⟩, h⟩
      obtain rfl : d = c := by simpa [Atom.accepts] using hd
      obtain ⟨rest, rfl, hitems⟩ := ih.mp h
      exact ⟨rest, rfl, by simpa using hitems⟩
    · rintro ⟨rest, rfl, h⟩
      refine ⟨[c], t ++ rest, rfl, ⟨c, by simp [Atom.accepts], rfl⟩, ?_⟩
      exact ih.mpr ⟨rest, rfl, by simpa using h⟩

/-- A literal with nothing behind it. -/
lemma matchesAt_literals_eq_true_iff : matchesAt (literals t) atStart s = true ↔ t <+: s := by
  rw [← List.append_nil (literals t), matchesAt_literals_append_eq_true_iff]
  constructor
  · rintro ⟨rest, rfl, -⟩
    exact List.prefix_append t rest
  · rintro ⟨rest, rfl⟩
    exact ⟨rest, rfl, by rw [matchesAt]⟩

/-- A literal with the end of the subject behind it. -/
lemma matchesAt_literals_stop_eq_true_iff :
    matchesAt (literals t ++ [.stop]) atStart s = true ↔ s = t := by
  rw [matchesAt_literals_append_eq_true_iff]
  constructor
  · rintro ⟨rest, rfl, h⟩
    obtain rfl : rest = [] := by simpa [matchesAt] using h
    exact List.append_nil t
  · rintro rfl
    exact ⟨[], (List.append_nil s).symm, by simp [matchesAt]⟩

/-- Where a run is all that is wanted, the empty run will do. -/
lemma matchesAt_many (a : Atom) (atStart : Bool) (s : List Char) :
    matchesAt [.many a] atStart s = true := by
  refine matchesAt_cons_eq_true_iff.mpr ⟨[], s, rfl, ?_, by rw [matchesAt]⟩
  intro c hc
  exact absurd hc (by simp)

/-! ## Searches for a literal -/

lemma searches_atStart : searches (.start :: literals t) true s = decide (t <+: s) := by
  rw [searches_start, Bool.eq_iff_iff, matchesAt_literals_eq_true_iff, decide_eq_true_iff]

lemma searches_atEnd : searches (literals t ++ [.stop]) true s = decide (t <:+ s) := by
  rw [Bool.eq_iff_iff, searches_eq_true_iff, decide_eq_true_iff]
  constructor
  · rintro ⟨skipped, rest, rfl, h⟩
    obtain rfl := matchesAt_literals_stop_eq_true_iff.mp h
    exact List.suffix_append skipped rest
  · rintro ⟨skipped, rfl⟩
    exact ⟨skipped, t, rfl, matchesAt_literals_stop_eq_true_iff.mpr rfl⟩

lemma searches_whole : searches (.start :: literals t ++ [.stop]) true s = decide (s = t) := by
  rw [List.cons_append, searches_start, Bool.eq_iff_iff, matchesAt_literals_stop_eq_true_iff,
    decide_eq_true_iff]

/-- The runs on both sides of the literal change nothing: whatever a run would have to take that it
cannot, the search may skip or leave. -/
lemma searches_anywhere :
    searches (.many .any :: literals t ++ [.many .any]) true s = decide (t <:+: s) := by
  rw [Bool.eq_iff_iff, searches_eq_true_iff, decide_eq_true_iff]
  constructor
  · rintro ⟨skipped, _, rfl, h⟩
    obtain ⟨run, _, rfl, -, h⟩ := matchesAt_cons_eq_true_iff.mp h
    obtain ⟨rest, rfl, -⟩ := matchesAt_literals_append_eq_true_iff.mp h
    exact ⟨skipped ++ run, rest, by simp only [List.append_assoc]⟩
  · rintro ⟨before, after, rfl⟩
    refine ⟨before, t ++ after, List.append_assoc before t after, ?_⟩
    refine matchesAt_cons_eq_true_iff.mpr ⟨[], t ++ after, rfl, ?_, ?_⟩
    · intro c hc
      exact absurd hc (by simp)
    · exact matchesAt_literals_append_eq_true_iff.mpr ⟨after, rfl, matchesAt_many _ _ _⟩

end Regex

/-! ## Searches for what a caller supplies -/

namespace Pattern

/-- `place.Holds t s`: the text `s` has the literal `t` at the place. -/
def Place.Holds : Place → String → String → Prop
  | atStart, t, s => t.toList <+: s.toList
  | atEnd, t, s => t.toList <:+ s.toList
  | whole, t, s => s = t
  | anywhere, t, s => t.toList <:+: s.toList

instance (place : Place) (t s : String) : Decidable (place.Holds t s) :=
  match place with
  | .atStart => inferInstanceAs (Decidable (t.toList <+: s.toList))
  | .atEnd => inferInstanceAs (Decidable (t.toList <:+ s.toList))
  | .whole => inferInstanceAs (Decidable (s = t))
  | .anywhere => inferInstanceAs (Decidable (t.toList <:+: s.toList))

/-- The pattern of a literal is found in exactly the texts that have the literal at the place. -/
lemma found?_seeking (place : Place) (t s : String) :
    Regex.found? (seeking place t).text s = some (decide (place.Holds t s)) := by
  rw [Regex.found?_text]
  cases place with
  | atStart =>
    rw [seeking, List.map_cons, map_item_literally]
    exact congrArg some Regex.searches_atStart
  | atEnd =>
    rw [seeking, List.map_append, map_item_literally]
    exact congrArg some Regex.searches_atEnd
  | whole =>
    rw [seeking, List.cons_append, List.map_cons, List.map_append, map_item_literally]
    refine congrArg some (Regex.searches_whole.trans ?_)
    exact decide_eq_decide.mpr String.toList_inj
  | anywhere =>
    rw [seeking, List.cons_append, List.map_cons, List.map_append, map_item_literally]
    exact congrArg some Regex.searches_anywhere

end Pattern

namespace Path

open Compile Pattern

/-- What looks for a literal compiles to the pattern of its place. -/
lemma compile_search (op : Operator) (place : Place) (ignoreCase : Bool)
    (hop : op.family = .search place ignoreCase) (p : Path) {v : Value} {t : String}
    (hv : v.literal? = some t) :
    (p.binary op v).compile.result =
      .ok (Filter.matchesText p.fieldName (seeking place t).text ignoreCase) := by
  have hx : (Expr.constant v).literal? = some t := hv
  exact (Expr.HasFilter.test (Tests.finds hop hx)).result_compile

/-- **A literal is found exactly where it is looked for.**  Each of the four kinds of search has one
pattern, with and without regard to case. -/
theorem exists_searchPattern (p : Path) {v : Value} {t : String}
    (hv : v.literal? = some t) :
    (∃ pattern,
      (p.binary .startsWith v).compile.result =
        .ok [(p.fieldName, .obj [("$regex", .str pattern)])] ∧
      (p.binary .startsWithIgnoreCase v).compile.result =
        .ok [(p.fieldName, .obj [("$regex", .str pattern), ("$options", .str "i")])] ∧
      ∀ s : String, Regex.found? pattern s = some (decide (t.toList <+: s.toList))) ∧
    (∃ pattern,
      (p.binary .endsWith v).compile.result =
        .ok [(p.fieldName, .obj [("$regex", .str pattern)])] ∧
      (p.binary .endsWithIgnoreCase v).compile.result =
        .ok [(p.fieldName, .obj [("$regex", .str pattern), ("$options", .str "i")])] ∧
      ∀ s : String, Regex.found? pattern s = some (decide (t.toList <:+ s.toList))) ∧
    (∃ pattern,
      (p.binary .containsText v).compile.result =
        .ok [(p.fieldName, .obj [("$regex", .str pattern)])] ∧
      (p.binary .containsTextIgnoreCase v).compile.result =
        .ok [(p.fieldName, .obj [("$regex", .str pattern), ("$options", .str "i")])] ∧
      ∀ s : String, Regex.found? pattern s = some (decide (t.toList <:+: s.toList))) ∧
    ∃ pattern,
      (p.binary .equalsIgnoreCase v).compile.result =
        .ok [(p.fieldName, .obj [("$regex", .str pattern), ("$options", .str "i")])] ∧
      ∀ s : String, Regex.found? pattern s = some (decide (s = t)) := by
  refine ⟨⟨(seeking .atStart t).text, ?_, ?_, found?_seeking .atStart t⟩,
    ⟨(seeking .atEnd t).text, ?_, ?_, found?_seeking .atEnd t⟩,
    ⟨(seeking .anywhere t).text, ?_, ?_, found?_seeking .anywhere t⟩,
    ⟨(seeking .whole t).text, ?_, found?_seeking .whole t⟩⟩
  · exact compile_search .startsWith .atStart false rfl p hv
  · exact compile_search .startsWithIgnoreCase .atStart true rfl p hv
  · exact compile_search .endsWith .atEnd false rfl p hv
  · exact compile_search .endsWithIgnoreCase .atEnd true rfl p hv
  · exact compile_search .containsText .anywhere false rfl p hv
  · exact compile_search .containsTextIgnoreCase .anywhere true rfl p hv
  · exact compile_search .equalsIgnoreCase .whole true rfl p hv

/-- A literal full of metacharacters, with a line feed among them and a backslash at the end. -/
def metaLiteral : String :=
  "^a.b*(|\n[$\\"

theorem exists_searchPattern_metaLiteral :
    (Value.text metaLiteral).literal? = some metaLiteral ∧
    (∃ pattern,
      (((root "user").property "name").binary .startsWith (.text metaLiteral)).compile.result =
        .ok [("name", .obj [("$regex", .str pattern)])] ∧
      (((root "user").property "name").binary .startsWithIgnoreCase
          (.text metaLiteral)).compile.result =
        .ok [("name", .obj [("$regex", .str pattern), ("$options", .str "i")])] ∧
      ∀ s : String,
        Regex.found? pattern s = some (decide (metaLiteral.toList <+: s.toList))) ∧
    (∃ pattern,
      (((root "user").property "name").binary .endsWith (.text metaLiteral)).compile.result =
        .ok [("name", .obj [("$regex", .str pattern)])] ∧
      (((root "user").property "name").binary .endsWithIgnoreCase
          (.text metaLiteral)).compile.result =
        .ok [("name", .obj [("$regex", .str pattern), ("$options", .str "i")])] ∧
      ∀ s : String,
        Regex.found? pattern s = some (decide (metaLiteral.toList <:+ s.toList))) ∧
    (∃ pattern,
      (((root "user").property "name").binary .containsText (.text metaLiteral)).compile.result =
        .ok [("name", .obj [("$regex", .str pattern)])] ∧
      (((root "user").property "name").binary .containsTextIgnoreCase
          (.text metaLiteral)).compile.result =
        .ok [("name", .obj [("$regex", .str pattern), ("$options", .str "i")])] ∧
      ∀ s : String,
        Regex.found? pattern s = some (decide (metaLiteral.toList <:+: s.toList))) ∧
    ∃ pattern,
      (((root "user").property "name").binary .equalsIgnoreCase
          (.text metaLiteral)).compile.result =
        .ok [("name", .obj [("$regex", .str pattern), ("$options", .str "i")])] ∧
      ∀ s : String, Regex.found? pattern s = some (decide (s = metaLiteral)) :=
  ⟨rfl, exists_searchPattern ((root "user").property "name") rfl⟩

end Path

end DocSelect
