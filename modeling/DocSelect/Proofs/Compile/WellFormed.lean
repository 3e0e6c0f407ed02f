/-
# Predicates become well-formed filters

Whatever predicate is compiled, its filter is well formed.  The proof follows the rules of
compilation, and only the complement needs care: it leaves the language when the filter below it
tests membership.  But a membership test is the filter of a membership operation alone, and the
compiler turns such an operation into its opposite before the negation is compiled.
-/
import Mathlib.Tactic.Lemma
import DocSelect.Proofs.Compile.Rules
import DocSelect.Proofs.Filter.WellFormed

namespace DocSelect

open DocSelect.Filter (WellFormed OperatorDocument)

/-! ## Tests -/

namespace Compile

variable {op : Operator} {args : List Expr} {f : Document}

lemma wellFormed_matchesText {field : String} (hfield : Filter.isOperatorName field = false)
    (pattern : String) (ignoreCase : Bool) :
    WellFormed (Filter.matchesText field pattern ignoreCase) := by
  cases ignoreCase with
  | true => exact WellFormed.tested hfield (OperatorDocument.matchesTextIgnoreCase pattern)
  | false => exact WellFormed.tested hfield (OperatorDocument.matchesText pattern)

/-- The filter of a test is well formed. -/
lemma Tests.wellFormed (h : Tests op args f) (hargs : ∀ e ∈ args, e.NamesFields) :
    WellFormed f := by
  -- in all rules but those of membership the field is that of the first argument
  have hfirst : ∀ {p : Path}, Expr.path p ∈ args →
      Filter.isOperatorName p.fieldName = false :=
    Expr.isOperatorName_of_path_mem hargs
  cases h with
  | equals _ hx => exact WellFormed.equals (hfirst (by simp)) (Expr.plain_of_operand? hx)
  | @hasSize size p rest n _ _ =>
    have hcollection := Expr.namesFields_operation_iff.mp
      (hargs (.operation size (.path p :: rest)) (by simp))
    exact WellFormed.tested (Expr.isOperatorName_of_path_mem hcollection (by simp))
      (OperatorDocument.hasSize n)
  | @compares c p x j _ hx =>
    exact WellFormed.tested (hfirst (by simp))
      (OperatorDocument.comparison c (Expr.plain_of_operand? hx))
  | @within p x y least greatest _ hx hy =>
    have hp := hfirst (p := p) (by simp)
    refine WellFormed.and ?_ ?_
    · exact WellFormed.tested hp (OperatorDocument.comparison .ge (Expr.plain_of_operand? hx))
    · exact WellFormed.tested hp (OperatorDocument.comparison .le (Expr.plain_of_operand? hy))
  | inside _ hm =>
    exact WellFormed.tested (Expr.isOperatorName_of_membership? hargs hm)
      (OperatorDocument.isIn (Expr.plain_of_membership? hm))
  | outside _ hm =>
    exact WellFormed.tested (Expr.isOperatorName_of_membership? hargs hm)
      (OperatorDocument.notIn (Expr.plain_of_membership? hm))
  | @present b p _ => exact WellFormed.tested (hfirst (by simp)) (OperatorDocument.present b)
  | emptyText _ => exact WellFormed.equals (hfirst (by simp)) rfl
  | finds _ _ | passes _ _ | like _ _ => exact wellFormed_matchesText (hfirst (by simp)) _ _
  | @emptyCollection p _ =>
    have hp := hfirst (p := p) (by simp)
    refine WellFormed.or ?_ ?_
    · exact WellFormed.tested hp (OperatorDocument.present false)
    · exact WellFormed.tested hp (OperatorDocument.hasSize 0)
  | @hasEntry p x key _ _ =>
    refine WellFormed.tested ?_ (OperatorDocument.present true)
    rw [Filter.isOperatorName_append_dot]
    exact hfirst (by simp)

/-- Only a membership operation has a membership test for its filter. -/
lemma Tests.ne_isIn (h : Tests op args f) (hop : op ≠ .isIn) (field : String)
    (values : List Json) : f ≠ Filter.isIn field values := by
  cases h with
  | equals _ hx =>
    intro heq
    have hvalue := (Expr.plain_of_operand? hx).ne_obj [("$in", .arr values)]
    simp [Filter.equals, Filter.isIn, Filter.test, hvalue] at heq
  | @compares c p x j _ _ =>
    cases c <;> simp [Filter.compare, Filter.isIn, Filter.test, Filter.Comparison.key]
  | inside hmember _ => exact absurd (Operator.family_eq_membership_iff.mp hmember) hop
  | finds _ _ | passes _ _ | like _ _ => simp [Filter.matchesText, Filter.isIn, Filter.test]
  | _ =>
    simp [Filter.equals, Filter.hasSize, Filter.both, Filter.either, Filter.notIn,
      Filter.present, Filter.isIn, Filter.test]

end Compile

/-! ## Predicates -/

namespace Expr

/-- Only a membership operation has a membership test for its filter. -/
lemma HasFilter.ne_isIn {e : Expr} {f : Document} (h : e.HasFilter f)
    (he : ∀ args, e ≠ .operation .isIn args) (field : String) (values : List Json) :
    f ≠ Filter.isIn field values := by
  cases h with
  | and _ _ => simp [Filter.both, Filter.isIn, Filter.test]
  | or _ _ => simp [Filter.either, Filter.isIn, Filter.test]
  | notMember ht => exact ht.ne_isIn (by simp) field values
  | not _ _ => exact Filter.complement_ne_isIn _ field values
  | test ht =>
    refine ht.ne_isIn ?_ field values
    rintro rfl
    exact he _ rfl

lemma HasFilter.wellFormed {e : Expr} {f : Document} (h : e.HasFilter f)
    (hpaths : e.NamesFields) : WellFormed f := by
  induction h with
  | and _ _ ihl ihr =>
    have hargs := namesFields_operation_iff.mp hpaths
    exact WellFormed.and (ihl (hargs _ (by simp))) (ihr (hargs _ (by simp)))
  | or _ _ ihl ihr =>
    have hargs := namesFields_operation_iff.mp hpaths
    exact WellFormed.or (ihl (hargs _ (by simp))) (ihr (hargs _ (by simp)))
  | @notMember args f ht =>
    have hargs := namesFields_operation_iff.mp hpaths
    exact ht.wellFormed (namesFields_operation_iff.mp (hargs (.operation .isIn args) (by simp)))
  | not he hf ih =>
    have hargs := namesFields_operation_iff.mp hpaths
    exact (ih (hargs _ (by simp))).complement (hf.ne_isIn he)
  | test ht => exact ht.wellFormed (namesFields_operation_iff.mp hpaths)

/-- A choice between two memberships, the first one negated twice, and all of it negated. -/
def neitherMember : Expr :=
  .operation .not [.operation .or
    [.operation .not [.operation .notIn
      [.path (.property (.root "user") "age"), .constant (.list [.int 1, .int 2])]],
    .operation .isIn
      [.path (.property (.root "user") "name"), .constant (.list [.text "$in"])]]]

end Expr

end DocSelect
