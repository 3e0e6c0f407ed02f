/-
# Negated membership

The store has no negated membership below `$not`, so the compiler takes the negation of a membership
test for a test of its own.  This file proves that it might as well have been written so.  If all
negated membership tests in an expression are merged to tests of non-membership, wherever they
stand, the filter is the same, and if there is none the failure is of the same kind
(`Expr.agree_compile_merged`).

Where they stand matters in two ways.  As a predicate a merged test compiles to what the negation
does, and around it nothing changes, since no other expression becomes a membership test
(`Expr.merged_ne_isIn`).  As an argument it is not even looked at: a test wants a constant or a path
there, and of an operation it reads only that it is one, unless it is a size
(`Expr.ReadAlike`).
-/
import DocSelect.Proofs.Compile.Alike
import DocSelect.Proofs.Compile.Arity
import DocSelect.Proofs.Compile.Faults

namespace DocSelect

namespace Outcome

variable {ω α β β' : Type} {R : β → β' → Prop}

/-- Chains agree if their first links come to the same and their second links agree on it. -/
lemma Agree.bind_eq {o o' : Outcome ω α} {f : α → Outcome ω β} {f' : α → Outcome ω β'}
    (h : Agree Eq o o') (hf : ∀ a, Agree R (f a) (f' a)) : Agree R (o >>= f) (o' >>= f') := by
  refine h.bind ?_
  rintro a _ rfl
  exact hf a

end Outcome

/-! ## Merging -/

namespace Expr

/-- An operation, or the test of non-membership if it is a negated membership test. -/
def mergedOperation : Operator → List Expr → Expr
  | .not, [operation .isIn args] => operation .notIn args
  | op, args => operation op args

mutual

/-- The expression with all negated membership tests in it merged, from the bottom to the top. -/
def merged : Expr → Expr
  | constant v => constant v
  | path p => path p
  | operation op args => mergedOperation op (mergedArgs args)
  | subquery description => subquery description
  | param name => param name
  | template source args => template source (mergedArgs args)
  | tuple items => tuple (mergedArgs items)

/-- The arguments with all negated membership tests in them merged. -/
def mergedArgs : List Expr → List Expr
  | [] => []
  | arg :: args => arg.merged :: mergedArgs args

end

lemma length_mergedArgs (args : List Expr) : (mergedArgs args).length = args.length := by
  induction args with
  | nil => rfl
  | cons arg args ih => rw [mergedArgs, List.length_cons, List.length_cons, ih]

lemma exists_eq_singleton_of_mergedArgs {args : List Expr} {e : Expr} (h : mergedArgs args = [e]) :
    ∃ a, args = [a] := by
  rw [← List.length_eq_one_iff, ← length_mergedArgs, h]
  rfl

lemma exists_eq_pair_of_mergedArgs {args : List Expr} {left right : Expr}
    (h : mergedArgs args = [left, right]) : ∃ a b, args = [a, b] := by
  rw [← List.length_eq_two, ← length_mergedArgs, h]
  rfl

/-- What merging at the top of an operation can do. -/
lemma mergedOperation_cases (op : Operator) (args : List Expr) :
    (∃ inner, op = .not ∧ args = [operation .isIn inner] ∧
        mergedOperation op args = operation .notIn inner) ∨
      ((∀ inner, op = .not → args ≠ [operation .isIn inner]) ∧
        mergedOperation op args = operation op args) := by
  unfold mergedOperation
  split
  · exact .inl ⟨_, rfl, rfl, rfl⟩
  · rename_i h
    exact .inr ⟨fun inner hop hargs => h inner hop hargs, rfl⟩

/-- No expression becomes a membership test. -/
lemma merged_ne_isIn {e : Expr} (he : ∀ args, e ≠ operation .isIn args) (args : List Expr) :
    e.merged ≠ operation .isIn args := by
  intro heq
  cases e with
  | operation op given =>
    rw [merged] at heq
    rcases mergedOperation_cases op (mergedArgs given) with ⟨_, -, -, h⟩ | ⟨-, h⟩
    · rw [h] at heq
      cases heq
    · rw [h] at heq
      cases heq
      exact he given rfl
  | _ => cases heq

/-- Merging at the top of an operation leaves no negated membership test if there is none in its
arguments. -/
lemma not_mem_operations_mergedOperation {op : Operator} {given : List Expr} {args : List Expr}
    (h : (Operator.not, [operation .isIn args]) ∉ operationsOfArgs given) :
    (Operator.not, [operation .isIn args]) ∉ (mergedOperation op given).operations := by
  rcases mergedOperation_cases op given with ⟨inner, rfl, rfl, heq⟩ | ⟨hne, heq⟩
  · rw [heq]
    simp only [operationsOfArgs, operations, List.append_nil, List.mem_cons, not_or] at h ⊢
    exact ⟨by simp, h.2⟩
  · rw [heq, operations, List.mem_cons, not_or]
    refine ⟨?_, h⟩
    intro hpair
    obtain ⟨hop, hgiven⟩ := Prod.mk.inj hpair
    exact hne args hop.symm hgiven.symm

mutual

/-- No negated membership test is left in a merged expression. -/
theorem not_mem_operations_merged (args : List Expr) (e : Expr) :
    (Operator.not, [operation .isIn args]) ∉ e.merged.operations := by
  match e with
  | operation op given =>
    exact not_mem_operations_mergedOperation (not_mem_operationsOfArgs_mergedArgs args given)
  | template source given => exact not_mem_operationsOfArgs_mergedArgs args given
  | tuple items => exact not_mem_operationsOfArgs_mergedArgs args items
  | constant _ | path _ | subquery _ | param _ => exact List.not_mem_nil

/-- No negated membership test is left in merged arguments. -/
theorem not_mem_operationsOfArgs_mergedArgs (args given : List Expr) :
    (Operator.not, [operation .isIn args]) ∉ operationsOfArgs (mergedArgs given) := by
  match given with
  | [] => exact List.not_mem_nil
  | arg :: given =>
    rw [mergedArgs, operationsOfArgs, List.mem_append, not_or]
    exact ⟨not_mem_operations_merged args arg, not_mem_operationsOfArgs_mergedArgs args given⟩

end

/-! ## Arguments of tests -/

/-- Expressions that are the same to a test that has them for an argument.  Of a node that is
neither a constant nor a path the test reads the kind alone, and if the node is a size also the
arguments of that. -/
inductive ReadAlike : Expr → Expr → Prop
  | constant (v : Value) : ReadAlike (constant v) (constant v)
  | path (p : Path) : ReadAlike (path p) (path p)
  | size {op : Operator} (hop : op.isSize = true) {args args' : List Expr} :
      List.Forall₂ ReadAlike args args' → ReadAlike (operation op args) (operation op args')
  | operation {op op' : Operator} (hop : op.isSize = false) (hop' : op'.isSize = false)
      (args args' : List Expr) : ReadAlike (operation op args) (operation op' args')
  | subquery (description description' : String) :
      ReadAlike (subquery description) (subquery description')
  | param (name name' : String) : ReadAlike (param name) (param name')
  | template (source source' : String) (args args' : List Expr) :
      ReadAlike (template source args) (template source' args')
  | tuple (items items' : List Expr) : ReadAlike (tuple items) (tuple items')

mutual

/-- A test takes a merged argument for what it was. -/
theorem readAlike_merged (e : Expr) : ReadAlike e.merged e := by
  match e with
  | operation op args =>
    rw [merged]
    cases hop : op.isSize with
    | true =>
      rcases mergedOperation_cases op (mergedArgs args) with ⟨_, rfl, -, -⟩ | ⟨-, h⟩
      · cases hop
      · rw [h]
        exact .size hop (forall₂_readAlike_mergedArgs args)
    | false =>
      rcases mergedOperation_cases op (mergedArgs args) with ⟨_, -, -, h⟩ | ⟨-, h⟩
      · rw [h]
        exact .operation rfl hop _ _
      · rw [h]
        exact .operation hop hop _ _
  | constant v => exact .constant v
  | path p => exact .path p
  | subquery description => exact .subquery description description
  | param name => exact .param name name
  | template source args => exact .template source source _ args
  | tuple items => exact .tuple _ items

/-- A test takes merged arguments for what they were. -/
theorem forall₂_readAlike_mergedArgs (args : List Expr) :
    List.Forall₂ ReadAlike (mergedArgs args) args := by
  match args with
  | [] => exact .nil
  | arg :: args => exact .cons (readAlike_merged arg) (forall₂_readAlike_mergedArgs args)

end

end Expr

namespace Compile

open DocSelect.Expr (ReadAlike)
open Outcome (Agree)

/-! ### Readers -/

section Arguments

variable {op op' : Operator} {args args' : List Expr} {e e' left left' right right' : Expr}

lemma agree_field_of_readAlike (h : ReadAlike e e') :
    Agree Eq (field op args e) (field op' args' e') := by
  cases h with
  | path p => exact Agree.pure rfl
  | _ => exact agree_illegal

/-- A constant has one form, whatever operation it belongs to. -/
lemma agree_json_self (v : Value) : Agree Eq (json op args v) (json op' args' v) := by
  rw [json, json]
  cases v.json? with
  | some j => exact Agree.pure rfl
  | none => exact Agree.error rfl rfl (Error.Alike.unsupportedOperator _ _)

lemma agree_elements_self (values : List Value) :
    Agree Eq (elements op args values) (elements op' args' values) := by
  induction values with
  | nil => exact Agree.pure rfl
  | cons v values ih =>
    exact (agree_json_self v).bind_eq fun _ => ih.bind_eq fun _ => Agree.pure rfl

lemma agree_operand_of_readAlike (h : ReadAlike e e') :
    Agree Eq (operand op args e) (operand op' args' e') := by
  cases h with
  | constant v => exact agree_json_self v
  | path p => exact Agree.pure rfl
  | size _ _ => exact agree_illegal
  | operation _ _ _ _ => exact agree_illegal
  | _ => exact Agree.error rfl rfl (Error.Alike.unsupportedNode _ _)

lemma agree_literal_of_readAlike (h : ReadAlike e e') :
    Agree Eq (literal op args e) (literal op' args' e') := by
  cases h with
  | constant v =>
    rw [literal, literal]
    cases v.literal? with
    | some t => exact Agree.pure rfl
    | none => exact Agree.error rfl rfl (Error.Alike.unsupportedOperator _ _)
  | path p => exact agree_illegal
  | size _ _ => exact agree_illegal
  | operation _ _ _ _ => exact agree_illegal
  | _ => exact Agree.error rfl rfl (Error.Alike.unsupportedNode _ _)

/-- The argument that names the field, if the other one is a list. -/
lemma agree_member_of_readAlike (h : ReadAlike e e') (values : List Value) :
    Agree Eq
      (do
        let name ← field op args e
        let js ← elements op args values
        pure (name, js) : Compiled (String × List Json))
      (do
        let name ← field op' args' e'
        let js ← elements op' args' values
        pure (name, js) : Compiled (String × List Json)) :=
  (agree_field_of_readAlike h).bind_eq fun _ => (agree_elements_self values).bind_eq fun _ =>
    Agree.pure rfl

lemma agree_membership_of_readAlike (hleft : ReadAlike left left')
    (hright : ReadAlike right right') :
    Agree Eq (membership op args left right) (membership op args' left' right') := by
  have hfield := hright
  -- a constant on the right is taken for the list, whatever stands on the left
  cases hright with
  | constant v =>
    cases v with
    | list values =>
      unfold membership
      exact agree_member_of_readAlike hleft values
    | _ =>
      unfold membership
      exact agree_illegal
  | _ =>
    cases hleft with
    | constant v =>
      cases v with
      | list values =>
        unfold membership
        exact agree_member_of_readAlike hfield values
      | _ => exact agree_illegal
    | _ => exact agree_illegal

lemma agree_equality_of_readAlike (hleft : ReadAlike left left')
    (hright : ReadAlike right right') :
    Agree Eq (equality op args left right) (equality op args' left' right') := by
  cases hleft with
  | path p => exact (agree_operand_of_readAlike hright).bind_eq fun _ => Agree.pure rfl
  | size hop hinner =>
    unfold equality
    dsimp only
    rw [if_pos hop, if_pos hop]
    cases hright with
    | constant v =>
      cases v with
      | int n =>
        cases hinner with
        | nil => exact agree_illegal
        | cons hcollection _ =>
          exact (agree_field_of_readAlike hcollection).bind_eq fun _ => Agree.pure rfl
      | _ => exact agree_illegal
    | _ => exact agree_illegal
  | operation hop hop' _ _ =>
    unfold equality
    dsimp only
    rw [if_neg (by simp [hop]), if_neg (by simp [hop'])]
    exact agree_illegal
  | _ => exact agree_illegal

end Arguments

/-! ### Tests -/

section Tests

variable {op : Operator} {args args' : List Expr}

/-- Tests of one family agree if their arguments are the same to them. -/
lemma agree_testOf_of_readAlike (family : Family) {given given' : List Expr}
    (h : List.Forall₂ ReadAlike given given') :
    Agree Eq (testOf op args family given) (testOf op args' family given') := by
  -- a family has one number of arguments, and with any other the operation is refused
  rcases h with _ | ⟨h₁, _ | ⟨h₂, _ | ⟨h₃, _ | ⟨h₄, h₅⟩⟩⟩⟩
  · cases family <;> exact agree_illegal
  · have hfield := @agree_field_of_readAlike op op args args' _ _ h₁
    cases family with
    | presence b => exact hfield.bind_eq fun _ => Agree.pure rfl
    | emptyText => exact hfield.bind_eq fun _ => Agree.pure rfl
    | emptyCollection => exact hfield.bind_eq fun _ => Agree.pure rfl
    | _ => exact agree_illegal
  · have hfield := @agree_field_of_readAlike op op args args' _ _ h₁
    have hliteral := @agree_literal_of_readAlike op op args args' _ _ h₂
    cases family with
    | equality => exact agree_equality_of_readAlike h₁ h₂
    | comparison c =>
      exact hfield.bind_eq fun _ => (agree_operand_of_readAlike h₂).bind_eq fun _ => Agree.pure rfl
    | membership inside =>
      exact (agree_membership_of_readAlike h₁ h₂).bind_eq fun _ => Agree.pure rfl
    | search place ignoreCase =>
      exact hliteral.bind_eq fun _ => hfield.bind_eq fun _ => Agree.pure rfl
    | given ignoreCase => exact hfield.bind_eq fun _ => hliteral.bind_eq fun _ => Agree.pure rfl
    | wildcards => exact hliteral.bind_eq fun _ => hfield.bind_eq fun _ => Agree.pure rfl
    | mapEntry => exact hfield.bind_eq fun _ => hliteral.bind_eq fun _ => Agree.pure rfl
    | _ => exact agree_illegal
  · cases family with
    | range =>
      refine (agree_field_of_readAlike h₁).bind_eq fun _ => ?_
      refine (agree_operand_of_readAlike h₂).bind_eq fun _ => ?_
      exact (agree_operand_of_readAlike h₃).bind_eq fun _ => Agree.pure rfl
    | _ => exact agree_illegal
  · cases family <;> exact agree_illegal

/-- A test does not change if its arguments are merged. -/
lemma agree_test_mergedArgs (op : Operator) (args : List Expr) :
    Agree Eq (test op (Expr.mergedArgs args)) (test op args) := by
  rw [test_eq_testOf, test_eq_testOf]
  exact agree_testOf_of_readAlike op.family (Expr.forall₂_readAlike_mergedArgs args)

end Tests

end Compile

/-! ## Predicates -/

namespace Expr

open Outcome (Agree)

/-- An operation that is compiled as a test is so compiled after merging. -/
lemma compile_merged_of_forall_ne {op : Operator} {args : List Expr}
    (hand : ∀ left right, op = .and → args = [left, right] → False)
    (hor : ∀ left right, op = .or → args = [left, right] → False)
    (hnot : ∀ e, op = .not → args = [e] → False) :
    (operation op args).merged.compile = Compile.test op (mergedArgs args) := by
  have hmerged : (operation op args).merged = operation op (mergedArgs args) := by
    rcases mergedOperation_cases op (mergedArgs args) with ⟨inner, rfl, hargs, -⟩ | ⟨-, h⟩
    · obtain ⟨a, rfl⟩ := exists_eq_singleton_of_mergedArgs hargs
      exact absurd rfl (hnot a rfl)
    · exact h
  rw [hmerged, compile]
  · rintro left right rfl hargs
    obtain ⟨a, b, rfl⟩ := exists_eq_pair_of_mergedArgs hargs
    exact hand a b rfl rfl
  · rintro left right rfl hargs
    obtain ⟨a, b, rfl⟩ := exists_eq_pair_of_mergedArgs hargs
    exact hor a b rfl rfl
  · rintro inner rfl hargs
    obtain ⟨a, rfl⟩ := exists_eq_singleton_of_mergedArgs hargs
    exact hnot a rfl rfl
  · rintro inner rfl hargs
    obtain ⟨a, rfl⟩ := exists_eq_singleton_of_mergedArgs hargs
    exact hnot a rfl rfl

/-- Negation of anything but a membership test. -/
lemma merged_not {e : Expr} (he : ∀ args, e ≠ operation .isIn args) :
    (operation .not [e]).merged = operation .not [e.merged] := by
  rcases mergedOperation_cases .not [e.merged] with ⟨inner, -, hargs, -⟩ | ⟨-, h⟩
  · exact absurd (List.cons.inj hargs).1 (merged_ne_isIn he inner)
  · exact h

/-- The filter of a predicate is that of the merged one, and so is the kind of the failure. -/
lemma agree_merged_compile (e : Expr) : Agree Eq e.merged.compile e.compile := by
  fun_induction compile e with
  | case1 left right ihl ihr =>
    show Agree Eq (operation .and [left.merged, right.merged]).compile _
    rw [compile]
    exact ihl.bind_eq fun _ => ihr.bind_eq fun _ => Agree.pure rfl
  | case2 left right ihl ihr =>
    show Agree Eq (operation .or [left.merged, right.merged]).compile _
    rw [compile]
    exact ihl.bind_eq fun _ => ihr.bind_eq fun _ => Agree.pure rfl
  | case3 args => exact Compile.agree_test_mergedArgs .notIn args
  | case4 e he ih =>
    rw [merged_not he, compile_not (merged_ne_isIn he)]
    exact ih.bind_eq fun _ => Agree.pure rfl
  | case5 op args hand hor _ hnot =>
    rw [compile_merged_of_forall_ne hand hor hnot]
    exact Compile.agree_test_mergedArgs op args
  | case6 v => exact Agree.error rfl rfl (Error.Alike.unsupportedOperator _ _)
  | case7 p => exact Agree.error rfl rfl (Error.Alike.unsupportedOperator _ _)
  | case8 e _ _ _ _ hop hconst hpath =>
    cases e with
    | constant v => exact absurd rfl (hconst v)
    | path p => exact absurd rfl (hpath p)
    | operation op args => exact absurd rfl (hop op args)
    | _ => exact Agree.error rfl rfl (Error.Alike.unsupportedNode _ _)

/-- **Negated membership is non-membership.**  An expression in which all negated membership tests
are merged to tests of non-membership, so that none is left at any depth, compiles to the same
filter as before, or is refused with a failure of the same kind as before.  A negated membership
test itself is compiled as the test of non-membership in every respect, down to the message of a
failure and the records. -/
theorem agree_compile_merged (e : Expr) :
    (∀ args, (Operator.not, [operation .isIn args]) ∉ e.merged.operations) ∧
    Agree Eq e.merged.compile e.compile ∧
    ∀ args, (operation .not [operation .isIn args]).compile = (operation .notIn args).compile :=
  ⟨fun args => not_mem_operations_merged args e, agree_merged_compile e, fun _ => rfl⟩

end Expr

end DocSelect
