/-
# Operators that could be left out

Some predicates say in one operation what could be said with other operators.  A field that lies
within two bounds is at least the one and at most the other; an empty collection is absent or of
size zero; a field that holds the empty text equals it; and the two arguments of a membership test
can change places.  This file proves that the compiler takes each of these predicates for the longer
one, whatever its operands are.  Both have the same filter, or both are refused with failures of the
same kind (`Expr.agree_compile_expansions`).

Only what is said in a failure tells the two apart.  A reader of arguments looks at the operation it
reads for in order to show it, and for nothing else, so it comes to the same for both.
-/
import DocSelect.Proofs.Compile.Grammar
import DocSelect.Proofs.Compile.NotIn

namespace DocSelect

/-- An outcome agrees with itself. -/
lemma Outcome.Agree.refl {ω α : Type} (o : Outcome ω α) : Agree Eq o o := by
  cases h : o.result with
  | ok a => exact .ok h h rfl
  | error e =>
    have he : e.Alike e := by
      cases e with
      | _ => constructor
    exact .error h h he

namespace Expr

mutual

/-- An expression is the same to a test as itself. -/
theorem readAlike_refl (e : Expr) : ReadAlike e e := by
  match e with
  | operation op args =>
    cases hop : op.isSize with
    | true => exact .size hop (forall₂_readAlike_refl args)
    | false => exact .operation hop hop args args
  | constant v => exact .constant v
  | path p => exact .path p
  | subquery description => exact .subquery description description
  | param name => exact .param name name
  | template source args => exact .template source source args args
  | tuple items => exact .tuple items items

/-- Arguments are the same to a test as themselves. -/
theorem forall₂_readAlike_refl (args : List Expr) : List.Forall₂ ReadAlike args args := by
  match args with
  | [] => exact .nil
  | arg :: args => exact .cons (readAlike_refl arg) (forall₂_readAlike_refl args)

end

end Expr

/-! ## Tests and their expansions -/

namespace Compile

open DocSelect.Expr (readAlike_refl)
open Outcome (Agree)

variable {op op' op'' : Operator} {args args' args'' : List Expr}

/-- A range is read as two comparisons are, one after the other. -/
lemma agree_range_comparisons (x lower upper : Expr) :
    Agree Eq (range op args x lower upper)
      (do
        let l ← comparison op' args' .ge x lower
        let r ← comparison op'' args'' .le x upper
        pure (Filter.both l r)) := by
  cases x with
  | path p =>
    simp only [range, comparison, field, Outcome.pure_bind, Outcome.bind_assoc]
    refine (agree_operand_of_readAlike (readAlike_refl lower)).bind_eq fun least => ?_
    refine (agree_operand_of_readAlike (readAlike_refl upper)).bind_eq fun greatest => ?_
    exact Agree.pure rfl
  | _ => exact Agree.error rfl rfl (Error.Alike.unsupportedOperator _ _)

/-- An empty collection is absent or of size zero. -/
lemma agree_emptyCollection_either (x : Expr) :
    Agree Eq (emptyCollection op args x)
      (do
        let l ← presence op' args' false x
        let r ← test .eq [.operation .collectionSize [x], .constant (.int 0)]
        pure (Filter.either l r)) := by
  cases x with
  | path p => exact Agree.pure rfl
  | _ => exact Agree.error rfl rfl (Error.Alike.unsupportedOperator _ _)

/-- A field that holds the empty text equals it.  Only a path has a field, and the size of a
collection equals no text. -/
lemma agree_emptyText_equality (x : Expr) :
    Agree Eq (emptyText op args x) (equality op' args' x (.constant (.text ""))) := by
  cases x with
  | path p => exact Agree.pure rfl
  | operation size inner =>
    have hrefused : equality op' args' (.operation size inner) (.constant (.text "")) =
        illegal op' args' := by
      unfold equality
      dsimp only
      cases size.isSize with
      | true => rfl
      | false => rfl
    rw [hrefused]
    exact Agree.error rfl rfl (Error.Alike.unsupportedOperator _ _)
  | _ => exact Agree.error rfl rfl (Error.Alike.unsupportedOperator _ _)

/-- A list on the left of a membership test is taken for the constants, unless there is another
constant on the right. -/
lemma membership_of_list_left (values : List Value) {x : Expr} (hx : ∀ v, x ≠ .constant v) :
    membership op args (.constant (.list values)) x = (do
      let name ← field op args x
      let js ← elements op args values
      pure (name, js)) := by
  cases x with
  | constant v => exact absurd rfl (hx v)
  | _ => rfl

/-- Two constants do not make a membership test. -/
lemma result_membership_constants (v w : Value) :
    (membership op args (.constant v) (.constant w)).result =
      (illegal op args : Compiled (String × List Json)).result := by
  cases w with
  | _ => rfl

/-- The arguments of a membership test can change places. -/
lemma agree_membership_swap (left right : Expr) :
    Agree Eq (membership op args left right) (membership op' args' right left) := by
  cases right with
  | constant w =>
    cases left with
    | constant v =>
      exact Agree.error (result_membership_constants v w) (result_membership_constants w v)
        (Error.Alike.unsupportedOperator _ _)
    | _ =>
      cases w with
      | list values =>
        rw [membership_of_list_left values (by simp)]
        exact agree_member_of_readAlike (readAlike_refl _) values
      | _ => exact agree_illegal
  | _ =>
    cases left with
    | constant v =>
      cases v with
      | list values =>
        rw [membership_of_list_left values (by simp)]
        exact agree_member_of_readAlike (readAlike_refl _) values
      | _ => exact agree_illegal
    | _ => exact agree_illegal

/-- So can they where the test is one of non-membership. -/
lemma agree_test_swap {op : Operator} (hop : op ∈ Operator.memberships) (left right : Expr) :
    Agree Eq (test op [left, right]) (test op [right, left]) := by
  simp only [Operator.memberships, List.mem_cons, List.not_mem_nil, or_false] at hop
  rcases hop with rfl | rfl
  · exact (agree_membership_swap left right).bind_eq fun _ => Agree.pure rfl
  · exact (agree_membership_swap left right).bind_eq fun _ => Agree.pure rfl

end Compile

/-! ## Predicates -/

namespace Expr

open Outcome (Agree)

/-- `e.Expands e'`: the expression `e'` says with other operators, or with its arguments in another
order, what `e` says, at any number of places that are joined by connectives. -/
inductive Expands : Expr → Expr → Prop
  | range (x lower upper : Expr) :
      Expands (operation .between [x, lower, upper])
        (operation .and [operation .ge [x, lower], operation .le [x, upper]])
  | emptyCollection (x : Expr) :
      Expands (operation .isEmptyCollection [x])
        (operation .or [operation .isNull [x],
          operation .eq [operation .collectionSize [x], constant (.int 0)]])
  | emptyText (x : Expr) :
      Expands (operation .isEmptyText [x]) (operation .eq [x, constant (.text "")])
  | swap {op : Operator} (hop : op ∈ Operator.memberships) (left right : Expr) :
      Expands (operation op [left, right]) (operation op [right, left])
  | refl (e : Expr) : Expands e e
  | and {left left' right right' : Expr} : Expands left left' → Expands right right' →
      Expands (operation .and [left, right]) (operation .and [left', right'])
  | or {left left' right right' : Expr} : Expands left left' → Expands right right' →
      Expands (operation .or [left, right]) (operation .or [left', right'])
  | not {e e' : Expr} : Expands e e' → Expands (operation .not [e]) (operation .not [e'])

/-- A membership test is expanded only by changing the places of its arguments. -/
lemma Expands.eq_or_eq_swap {args : List Expr} {e : Expr}
    (h : Expands (operation .isIn args) e) :
    e = operation .isIn args ∨
      ∃ left right, args = [left, right] ∧ e = operation .isIn [right, left] := by
  cases h with
  | swap hop left right => exact .inr ⟨left, right, rfl, rfl⟩
  | refl => exact .inl rfl

/-- Nothing but a membership test is expanded to one. -/
lemma Expands.ne_isIn {e e' : Expr} (h : Expands e e') (he : ∀ args, e ≠ operation .isIn args)
    (args : List Expr) : e' ≠ operation .isIn args := by
  cases h with
  | swap hop left right =>
    rintro ⟨rfl, -⟩
    exact he [left, right] rfl
  | refl => exact he args
  | _ => simp

/-- A negated predicate is compiled as the negation of its expansion, if the predicate is compiled
as its expansion. -/
lemma agree_compile_not {e e' : Expr} (h : Expands e e') (ih : Agree Eq e.compile e'.compile) :
    Agree Eq (operation .not [e]).compile (operation .not [e']).compile := by
  by_cases he : ∃ args, e = operation .isIn args
  · -- a negated membership test is compiled as a test of its own
    obtain ⟨args, rfl⟩ := he
    have hnotIn : Operator.notIn ∈ Operator.memberships := by simp [Operator.memberships]
    rcases h.eq_or_eq_swap with rfl | ⟨left, right, rfl, rfl⟩
    · exact Agree.refl _
    · exact Compile.agree_test_swap hnotIn left right
  · have hne : ∀ args, e ≠ operation .isIn args := fun args heq => he ⟨args, heq⟩
    rw [compile_not hne, compile_not (h.ne_isIn hne)]
    exact ih.bind_eq fun _ => Agree.pure rfl

/-- Expansion does not change what a predicate is compiled to. -/
theorem agree_compile_of_expands {e e' : Expr} (h : Expands e e') :
    Agree Eq e.compile e'.compile := by
  induction h with
  | range x lower upper => exact Compile.agree_range_comparisons x lower upper
  | emptyCollection x => exact Compile.agree_emptyCollection_either x
  | emptyText x => exact Compile.agree_emptyText_equality x
  | @swap op hop left right =>
    have htest := Compile.agree_test_swap hop left right
    simp only [Operator.memberships, List.mem_cons, List.not_mem_nil, or_false] at hop
    rcases hop with rfl | rfl
    · exact htest
    · exact htest
  | refl e => exact Agree.refl e.compile
  | and _ _ ihl ihr => exact ihl.bind_eq fun _ => ihr.bind_eq fun _ => Agree.pure rfl
  | or _ _ ihl ihr => exact ihl.bind_eq fun _ => ihr.bind_eq fun _ => Agree.pure rfl
  | not h ih => exact agree_compile_not h ih

/-- **Derived operators are compiled like what they stand for.**  Whatever the operands are, a range
agrees with a pair of comparisons, the test for an empty collection with a disjunction of absence
and size zero, the test for the empty text with an equality, and a test of membership or of
non-membership with the one whose arguments have changed places: both compile to the same filter, or
both are refused with failures of the same kind. -/
theorem agree_compile_expansions (x a b : Expr) :
    Agree Eq (operation .between [x, a, b]).compile
      (operation .and [operation .ge [x, a], operation .le [x, b]]).compile ∧
    Agree Eq (operation .isEmptyCollection [x]).compile
      (operation .or [operation .isNull [x],
        operation .eq [operation .collectionSize [x], constant (.int 0)]]).compile ∧
    Agree Eq (operation .isEmptyText [x]).compile
      (operation .eq [x, constant (.text "")]).compile ∧
    Agree Eq (operation .isIn [x, a]).compile (operation .isIn [a, x]).compile ∧
    Agree Eq (operation .notIn [x, a]).compile (operation .notIn [a, x]).compile := by
  have hisIn : Operator.isIn ∈ Operator.memberships := by simp [Operator.memberships]
  have hnotIn : Operator.notIn ∈ Operator.memberships := by simp [Operator.memberships]
  refine ⟨?_, ?_, ?_, ?_, ?_⟩
  · exact agree_compile_of_expands (.range x a b)
  · exact agree_compile_of_expands (.emptyCollection x)
  · exact agree_compile_of_expands (.emptyText x)
  · exact agree_compile_of_expands (.swap hisIn x a)
  · exact agree_compile_of_expands (.swap hnotIn x a)

end Expr

end DocSelect
