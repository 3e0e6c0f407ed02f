/-
# What predicates say

A predicate is a Boolean combination of tests.  Its truth value is defined here on the expression,
operator by operator and without the compiler: the connectives are those of Boolean logic, and
each test has the truth value that the store gives to one or two of its operators.  Compilation
does not change it.  In particular the four ways in which a negation is compiled, each
chosen by the look of the filter below it, all mean the same.
-/
import Mathlib.Tactic.Lemma
import DocSelect.Proofs.Compile.Rules
import DocSelect.Proofs.Filter.Reading
import DocSelect.Proofs.Value.Form

namespace DocSelect

namespace Assignment

variable (α : Assignment)

/-! ## The truth value of a predicate -/

/-- Whether the field of a path passes a single operator. -/
def single (p : Path) (operator : String) (operand : Json) : Bool :=
  α.holds p.fieldName [(operator, operand)]

/-- Whether a pattern is found in the text at a path, with or without regard to case. -/
def found (p : Path) (pattern : String) (ignoreCase : Bool) : Bool :=
  α.holds p.fieldName
    (if ignoreCase then [("$regex", .str pattern), ("$options", .str "i")]
    else [("$regex", .str pattern)])

/-- The truth value of an operation that is not a connective, if it is a test. -/
def test? : Operator → List Expr → Option Bool
  | .eq, [.path p, x] => x.operand?.map (α.single p "$eq")
  | .eq, [.operation size (.path p :: _), .constant (.int n)] =>
    if size.isSize then some (α.single p "$size" (.int n)) else none
  | .ne, [.path p, x] => x.operand?.map (α.single p "$ne")
  | .lt, [.path p, x] => x.operand?.map (α.single p "$lt")
  | .gt, [.path p, x] => x.operand?.map (α.single p "$gt")
  | .le, [.path p, x] => x.operand?.map (α.single p "$lte")
  | .ge, [.path p, x] => x.operand?.map (α.single p "$gte")
  | .between, [.path p, x, y] => do
    let least ← x.operand?
    let greatest ← y.operand?
    return α.single p "$gte" least && α.single p "$lte" greatest
  | .isIn, [x, y] => (x.membership? y).map fun m => α.single m.1 "$in" (.arr m.2)
  | .notIn, [x, y] => (x.membership? y).map fun m => α.single m.1 "$nin" (.arr m.2)
  | .isNull, [.path p] => some (α.single p "$exists" (.bool false))
  | .isNotNull, [.path p] => some (α.single p "$exists" (.bool true))
  | .isEmptyText, [.path p] => some (α.single p "$eq" (.str ""))
  | .startsWith, [.path p, x] =>
    x.literal?.map fun t => α.found p (Pattern.seeking .atStart t).text false
  | .startsWithIgnoreCase, [.path p, x] =>
    x.literal?.map fun t => α.found p (Pattern.seeking .atStart t).text true
  | .endsWith, [.path p, x] =>
    x.literal?.map fun t => α.found p (Pattern.seeking .atEnd t).text false
  | .endsWithIgnoreCase, [.path p, x] =>
    x.literal?.map fun t => α.found p (Pattern.seeking .atEnd t).text true
  | .equalsIgnoreCase, [.path p, x] =>
    x.literal?.map fun t => α.found p (Pattern.seeking .whole t).text true
  | .containsText, [.path p, x] =>
    x.literal?.map fun t => α.found p (Pattern.seeking .anywhere t).text false
  | .containsTextIgnoreCase, [.path p, x] =>
    x.literal?.map fun t => α.found p (Pattern.seeking .anywhere t).text true
  | .matchesPattern, [.path p, x] => x.literal?.map fun t => α.found p t false
  | .matchesPatternIgnoreCase, [.path p, x] => x.literal?.map fun t => α.found p t true
  | .like, [.path p, x] =>
    x.literal?.map fun t => α.found p (Pattern.ofWildcards t).text false
  | .isEmptyCollection, [.path p] =>
    some (α.single p "$exists" (.bool false) || α.single p "$size" (.int 0))
  | .containsKey, [.path p, x] =>
    x.literal?.map fun key => α.holds (p.fieldName ++ "." ++ key) [("$exists", .bool true)]
  | _, _ => none

/-- The truth value of an expression, if it is a predicate. -/
def predicate? : Expr → Option Bool
  | .operation .and [left, right] => do return (← predicate? left) && (← predicate? right)
  | .operation .or [left, right] => do return (← predicate? left) || (← predicate? right)
  | .operation .not [e] => do return !(← predicate? e)
  | .operation op args => α.test? op args
  | _ => none

/-! ## Tests -/

variable {α : Assignment}

lemma filter?_compare {field : String} (h : Filter.isOperatorName field = false)
    (c : Filter.Comparison) (j : Json) :
    α.filter? (Filter.compare c field j) = some (α.holds field [(c.key, j)]) := by
  refine filter?_test h ?_ ?_ j
  · cases c <;> decide
  · cases c <;> decide

lemma filter?_present {field : String} (h : Filter.isOperatorName field = false) (b : Bool) :
    α.filter? (Filter.present field b) = some (α.holds field [("$exists", .bool b)]) :=
  filter?_test h (by decide) (by decide) _

lemma filter?_hasSize {field : String} (h : Filter.isOperatorName field = false) (n : Int) :
    α.filter? (Filter.hasSize field n) = some (α.holds field [("$size", .int n)]) :=
  filter?_test h (by decide) (by decide) _

lemma filter?_matchesText_eq_found {p : Path} (h : Filter.isOperatorName p.fieldName = false)
    (pattern : String) (ignoreCase : Bool) :
    α.filter? (Filter.matchesText p.fieldName pattern ignoreCase) =
      some (α.found p pattern ignoreCase) := by
  rw [filter?_matchesText h, found]
  cases ignoreCase <;> rfl

/-- The filter of a test says what the test says. -/
lemma exists_test?_eq_some {op : Operator} {args : List Expr} {f : Document}
    (h : Compile.Tests op args f) (hargs : ∀ e ∈ args, e.NamesFields) :
    ∃ b, α.test? op args = some b ∧ α.filter? f = some b := by
  -- in all rules but those of membership the field is that of the first argument
  have hfirst : ∀ {p : Path}, Expr.path p ∈ args →
      Filter.isOperatorName p.fieldName = false :=
    Expr.isOperatorName_of_path_mem hargs
  cases h with
  | equals hop hx =>
    cases Operator.family_eq_equality_iff.mp hop
    refine ⟨_, ?_, filter?_equals (hfirst (by simp)) (Expr.plain_of_operand? hx).ne_obj⟩
    simp [test?, hx, single]
  | @hasSize size p rest n hop hsize =>
    cases Operator.family_eq_equality_iff.mp hop
    have hcollection := Expr.namesFields_operation_iff.mp
      (hargs (.operation size (.path p :: rest)) (by simp))
    have hp := Expr.isOperatorName_of_path_mem hcollection (p := p) (by simp)
    refine ⟨_, ?_, filter?_hasSize hp n⟩
    simp [test?, hsize, single]
  | @compares c p x j hop hx =>
    refine ⟨_, ?_, filter?_compare (hfirst (by simp)) c j⟩
    cases op <;> simp [Operator.family] at hop <;>
      simp [test?, hx, single, ← hop, Filter.Comparison.key]
  | @within p x y least greatest hop hx hy =>
    cases Operator.family_eq_range_iff.mp hop
    have hp := hfirst (p := p) (by simp)
    refine ⟨α.single p "$gte" least && α.single p "$lte" greatest, ?_, ?_⟩
    · simp [test?, hx, hy]
    · rw [filter?_both, filter?_compare hp, filter?_compare hp]
      rfl
  | inside hop hm =>
    cases Operator.family_eq_membership_iff.mp hop
    have hp := Expr.isOperatorName_of_membership? hargs hm
    refine ⟨_, ?_, filter?_test hp (by decide) (by decide) _⟩
    simp [test?, hm, single]
  | outside hop hm =>
    cases Operator.family_eq_membership_iff.mp hop
    have hp := Expr.isOperatorName_of_membership? hargs hm
    refine ⟨_, ?_, filter?_test hp (by decide) (by decide) _⟩
    simp [test?, hm, single]
  | @present b p hop =>
    refine ⟨_, ?_, filter?_present (hfirst (by simp)) b⟩
    cases Operator.family_eq_presence_iff.mp hop
    cases b <;> simp [test?, single]
  | emptyText hop =>
    cases Operator.family_eq_emptyText_iff.mp hop
    refine ⟨_, ?_, filter?_equals (hfirst (by simp)) (by simp)⟩
    simp [test?, single]
  | @finds place ignoreCase p x t hop hx =>
    refine ⟨_, ?_, filter?_matchesText_eq_found (hfirst (by simp)) _ _⟩
    cases op <;> simp [Operator.family] at hop <;>
      obtain ⟨rfl, rfl⟩ := hop <;> simp [test?, hx]
  | @passes ignoreCase p x t hop hx =>
    refine ⟨_, ?_, filter?_matchesText_eq_found (hfirst (by simp)) _ _⟩
    cases Operator.family_eq_given_iff.mp hop
    cases ignoreCase <;> simp [test?, hx]
  | like hop hx =>
    cases Operator.family_eq_wildcards_iff.mp hop
    refine ⟨_, ?_, filter?_matchesText_eq_found (hfirst (by simp)) _ _⟩
    simp [test?, hx]
  | @emptyCollection p hop =>
    cases Operator.family_eq_emptyCollection_iff.mp hop
    have hp := hfirst (p := p) (by simp)
    refine ⟨α.single p "$exists" (.bool false) || α.single p "$size" (.int 0), rfl, ?_⟩
    · rw [filter?_either, filter?_present hp, filter?_hasSize hp]
      rfl
  | @hasEntry p x key hop hx =>
    cases Operator.family_eq_mapEntry_iff.mp hop
    have hentry : Filter.isOperatorName (p.fieldName ++ "." ++ key) = false := by
      rw [Filter.isOperatorName_append_dot]
      exact hfirst (by simp)
    refine ⟨_, ?_, filter?_present hentry true⟩
    simp [test?, hx]

/-- Membership is the negation of what a test of non-membership says. -/
lemma test?_isIn {args : List Expr} {f : Document} (h : Compile.Tests .notIn args f) :
    α.test? .isIn args = (α.test? .notIn args).map (!·) := by
  cases h with
  | @outside left right p js hop hm => simp [test?, hm, single, α.notIn]
  | _ hop => exact absurd hop (by simp [Operator.family])

/-! ## Predicates -/

lemma predicate?_operation {op : Operator} {args : List Expr} (hop : op.family ≠ .nothing) :
    α.predicate? (.operation op args) = α.test? op args := by
  rw [predicate?]
  · rintro _ _ rfl -
    exact hop rfl
  · rintro _ _ rfl -
    exact hop rfl
  · rintro _ rfl -
    exact hop rfl

/-- **Compilation keeps the meaning.**  A predicate that compiles has a truth value, and its filter
has the same, whatever truth values the tests have. -/
theorem exists_predicate?_eq_some {e : Expr} {f : Document} (hpaths : e.NamesFields)
    (h : e.compile.result = .ok f) : ∃ b, α.predicate? e = some b ∧ α.filter? f = some b := by
  have hrules := Expr.hasFilter_of_result_compile h
  clear h
  induction hrules with
  | @and left right f g _ _ ihl ihr =>
    have hargs := Expr.namesFields_operation_iff.mp hpaths
    obtain ⟨b, hb, hf⟩ := ihl (hargs left (by simp))
    obtain ⟨c, hc, hg⟩ := ihr (hargs right (by simp))
    exact ⟨b && c, by simp [predicate?, hb, hc], by simp [hf, hg]⟩
  | @or left right f g _ _ ihl ihr =>
    have hargs := Expr.namesFields_operation_iff.mp hpaths
    obtain ⟨b, hb, hf⟩ := ihl (hargs left (by simp))
    obtain ⟨c, hc, hg⟩ := ihr (hargs right (by simp))
    exact ⟨b || c, by simp [predicate?, hb, hc], by simp [hf, hg]⟩
  | @notMember args f ht =>
    have hargs := Expr.namesFields_operation_iff.mp hpaths
    obtain ⟨b, hb, hf⟩ := exists_test?_eq_some (α := α) ht
      (Expr.namesFields_operation_iff.mp (hargs (.operation .isIn args) (by simp)))
    refine ⟨b, ?_, hf⟩
    rw [predicate?, predicate?_operation (by simp [Operator.family]), test?_isIn ht, hb]
    simp
  | @not e f _ _ ih =>
    have hargs := Expr.namesFields_operation_iff.mp hpaths
    obtain ⟨b, hb, hf⟩ := ih (hargs e (by simp))
    exact ⟨!b, by simp [predicate?, hb], by simp [filter?_complement, hf]⟩
  | test ht =>
    rw [predicate?_operation ht.family_ne_nothing]
    exact exists_test?_eq_some ht (Expr.namesFields_operation_iff.mp hpaths)

/-- A record without fields passes the tests that ask for absence or for difference, and no
others. -/
def ofNothing : Assignment where
  holds
    | _, [("$exists", .bool b)] => !b
    | _, [("$ne", _)] => true
    | _, [("$nin", _)] => true
    | _, _ => false
  notIn _ _ := rfl

/-- A negation over two others: that of a membership test, and that of a test for an entry of a
map. -/
def threeNegations : Expr :=
  .operation .not [.operation .and
    [.operation .not [.operation .isIn
      [.path (.property (.root "user") "age"), .constant (.list [.int 1, .null])]],
    .operation .or
      [.operation .isNull [.path (.property (.root "user") "name")],
      .operation .not [.operation .containsKey
        [.path (.property (.root "user") "tags"), .constant (.text "$a")]]]]]

theorem exists_predicate?_eq_some_threeNegations :
    threeNegations.NamesFields ∧ ∃ f,
      f = [("$nor", .arr [.obj [("$and", .arr
        [.obj [("age", .obj [("$nin", .arr [.int 1, .null])])],
        .obj [("$or", .arr
          [.obj [("name", .obj [("$exists", .bool false)])],
          .obj [("tags.$a", .obj [("$not", .obj [("$exists", .bool true)])])]])]])]])] ∧
      threeNegations.compile.result = .ok f ∧
      ∃ b, ofNothing.predicate? threeNegations = some b ∧ ofNothing.filter? f = some b := by
  have hpaths : threeNegations.NamesFields := by
    unfold Expr.NamesFields
    decide
  exact ⟨hpaths, _, rfl, rfl, exists_predicate?_eq_some hpaths rfl⟩

end Assignment

end DocSelect
