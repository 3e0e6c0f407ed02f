/-
# Texts do not shape filters

Two predicates are alike if they differ only in the texts of their constants.  Then either both
compile to filters of the same shape, or both are refused in the same way.  So a text that comes
from outside can fill a string leaf or the key of a map entry, but it never becomes an operator
and never moves a test.

The proof runs the compiler on both predicates side by side.  Every reader of an argument looks at
the kind of a constant and hands its text on unseen; and nothing that a text can reach is looked
at when a filter is negated.
-/
import Mathlib.Tactic.Lemma
import DocSelect.Proofs.Compile.Rules
import DocSelect.Proofs.Filter.Alike
import DocSelect.Proofs.Value.Alike

namespace DocSelect

/-- Failures of the same kind. -/
inductive Error.Alike : Error → Error → Prop
  | unsupportedOperator (detail detail' : String) :
      Alike (.unsupportedOperator detail) (.unsupportedOperator detail')
  | unsupportedNode (kind kind' : String) : Alike (.unsupportedNode kind) (.unsupportedNode kind')
  | invalidArgument (detail detail' : String) :
      Alike (.invalidArgument detail) (.invalidArgument detail')
  | execution (source source' : String) : Alike (.execution source) (.execution source')
  | mapping (detail detail' : String) : Alike (.mapping detail) (.mapping detail')
  | serialization (source source' : String) :
      Alike (.serialization source) (.serialization source')

/-- Expressions that are the same but for the texts of their constants. -/
inductive Expr.Alike : Expr → Expr → Prop
  | constant {v v' : Value} (hv : v.Alike v') : Alike (.constant v) (.constant v')
  | path (p : Path) : Alike (.path p) (.path p)
  | operation (op : Operator) {args args' : List Expr} : List.Forall₂ Alike args args' →
      Alike (.operation op args) (.operation op args')
  | subquery (description : String) : Alike (.subquery description) (.subquery description)
  | param (name : String) : Alike (.param name) (.param name)
  | template (source : String) {args args' : List Expr} : List.Forall₂ Alike args args' →
      Alike (.template source args) (.template source args')
  | tuple {items items' : List Expr} : List.Forall₂ Alike items items' →
      Alike (.tuple items) (.tuple items')

/-! ## Two outcomes side by side -/

namespace Outcome

variable {ω α β α' β' : Type}

/-- Two outcomes agree if both are results, related in the given way, or both are failures of the
same kind. -/
inductive Agree (R : α → α' → Prop) (o : Outcome ω α) (o' : Outcome ω α') : Prop
  | ok {a : α} {a' : α'} (ho : o.result = .ok a) (ho' : o'.result = .ok a') (ha : R a a')
  | error {e e' : Error} (ho : o.result = .error e) (ho' : o'.result = .error e')
      (he : e.Alike e')

lemma Agree.pure {R : α → α' → Prop} {a : α} {a' : α'} (h : R a a') :
    Agree R (Pure.pure a : Outcome ω α) (Pure.pure a') :=
  Agree.ok rfl rfl h

/-- Chains agree if their links do. -/
lemma Agree.bind {R : α → α' → Prop} {S : β → β' → Prop} {o : Outcome ω α} {o' : Outcome ω α'}
    {f : α → Outcome ω β} {f' : α' → Outcome ω β'} (h : Agree R o o')
    (hf : ∀ a a', R a a' → Agree S (f a) (f' a')) : Agree S (o >>= f) (o' >>= f') := by
  cases h with
  | ok ho ho' ha =>
    rw [bind_of_ok ho, bind_of_ok ho']
    cases hf _ _ ha with
    | ok hb hb' hr => exact Agree.ok hb hb' hr
    | error hb hb' he => exact Agree.error hb hb' he
  | error ho ho' he =>
    rw [bind_of_error ho, bind_of_error ho']
    exact Agree.error rfl rfl he

end Outcome

/-! ## Entries of maps -/

/-- The fields of a test, each with the path of the map if it is an entry of one. -/
def Compile.Family.maps : Compile.Family → List Expr → List (Option Path)
  | .range, _ => [none, none]
  | .emptyCollection, _ => [none, none]
  | .mapEntry, .path p :: _ => [some p]
  | _, _ => [none]

/-- The fields that a predicate tests, in order, each with the path of the map if it is an entry of
one.  Only the test for a key has a field of that sort. -/
def Expr.testedMaps : Expr → List (Option Path)
  | .operation .and [left, right] => testedMaps left ++ testedMaps right
  | .operation .or [left, right] => testedMaps left ++ testedMaps right
  | .operation .not [e] => testedMaps e
  | .operation op args => op.family.maps args
  | _ => []

namespace Compile

open Outcome (Agree)

/-! ## Arguments -/

section Arguments

variable {α α' : Type} {R : α → α' → Prop} {op op' : Operator} {args args' : List Expr}
  {e e' left left' right right' : Expr}

lemma agree_illegal : Agree R (illegal op args) (illegal op' args') :=
  Agree.error rfl rfl (Error.Alike.unsupportedOperator _ _)

lemma agree_field (h : e.Alike e') : Agree Eq (field op args e) (field op args' e') := by
  cases h with
  | path p => exact Agree.pure rfl
  | _ => exact agree_illegal

lemma agree_json {v v' : Value} (h : v.Alike v') :
    Agree Json.Alike (json op args v) (json op args' v') := by
  have hj := h.json?
  rw [json, json]
  generalize v.json? = j, v'.json? = j' at hj
  cases hj with
  | some hj => exact Agree.pure hj
  | none => exact Agree.error rfl rfl (Error.Alike.unsupportedOperator _ _)

lemma agree_operand (h : e.Alike e') :
    Agree Json.Alike (operand op args e) (operand op args' e') := by
  cases h with
  | constant hv => exact agree_json hv
  | path p => exact Agree.pure (Json.Alike.str _ _)
  | operation _ _ => exact agree_illegal
  | _ => exact Agree.error rfl rfl (Error.Alike.unsupportedNode _ _)

/-- A literal is handed on unseen. -/
lemma agree_literal (h : e.Alike e') :
    Agree (fun _ _ => True) (literal op args e) (literal op args' e') := by
  cases h with
  | @constant v v' hv =>
    have ht := hv.literal?
    rw [literal, literal]
    generalize v.literal? = t, v'.literal? = t' at ht
    cases ht with
    | some _ => exact Agree.pure trivial
    | none => exact Agree.error rfl rfl (Error.Alike.unsupportedOperator _ _)
  | path p => exact agree_illegal
  | operation _ _ => exact agree_illegal
  | _ => exact Agree.error rfl rfl (Error.Alike.unsupportedNode _ _)

lemma agree_elements {values values' : List Value} (h : List.Forall₂ Value.Alike values values') :
    Agree (List.Forall₂ Json.Alike) (elements op args values) (elements op args' values') := by
  induction h with
  | nil => exact Agree.pure List.Forall₂.nil
  | cons hv _ ih =>
    refine Agree.bind (agree_json hv) fun j j' hj => ?_
    refine Agree.bind ih fun js js' hjs => ?_
    exact Agree.pure (List.Forall₂.cons hj hjs)

/-- The argument that names the field and the list, once it is known which argument is which. -/
lemma agree_member {values values' : List Value} (he : e.Alike e')
    (hvalues : List.Forall₂ Value.Alike values values') :
    Agree (fun m m' => m.1 = m'.1 ∧ List.Forall₂ Json.Alike m.2 m'.2)
      (do
        let name ← field op args e
        let js ← elements op args values
        pure (name, js) : Compiled (String × List Json))
      (do
        let name ← field op args' e'
        let js ← elements op args' values'
        pure (name, js) : Compiled (String × List Json)) := by
  refine Agree.bind (agree_field he) fun name name' hname => ?_
  refine Agree.bind (agree_elements hvalues) fun js js' hjs => ?_
  exact Agree.pure ⟨hname, hjs⟩

lemma agree_membership (hleft : left.Alike left') (hright : right.Alike right') :
    Agree (fun m m' => m.1 = m'.1 ∧ List.Forall₂ Json.Alike m.2 m'.2)
      (membership op args left right) (membership op args' left' right') := by
  have hfield := hright
  -- a constant on the right is taken for the list, whatever stands on the left
  cases hright with
  | constant hv =>
    cases hv with
    | list hvalues =>
      unfold membership
      exact agree_member hleft hvalues
    | _ =>
      unfold membership
      exact agree_illegal
  | _ =>
    cases hleft with
    | constant hv =>
      cases hv with
      | list hvalues =>
        unfold membership
        exact agree_member hfield hvalues
      | _ => exact agree_illegal
    | _ => exact agree_illegal

end Arguments

/-! ## Tests -/

section Tests

variable {op : Operator} {args args' : List Expr} {e e' left left' right right' : Expr}

/-- A single operator with alike operands. -/
lemma alike_test (name operator : String) {operand operand' : Json}
    (h : operand.Alike operand') :
    Filter.Alike [none] (Filter.test name operator operand) (Filter.test name operator operand') :=
  Filter.Alike.field name (Json.alike_entry operator h)

lemma alike_matchesText (name pattern pattern' : String) (ignoreCase : Bool) :
    Filter.Alike [none] (Filter.matchesText name pattern ignoreCase)
      (Filter.matchesText name pattern' ignoreCase) := by
  refine Filter.Alike.field name (Json.Alike.obj ?_)
  refine Json.AlikeFields.cons "$regex" (Json.Alike.str _ _) ?_
  cases ignoreCase with
  | true => exact Json.AlikeFields.cons "$options" (Json.Alike.str _ _) Json.AlikeFields.nil
  | false => exact Json.AlikeFields.nil

lemma agree_comparison (c : Filter.Comparison) (hleft : left.Alike left')
    (hright : right.Alike right') :
    Agree (Filter.Alike [none]) (comparison op args c left right)
      (comparison op args' c left' right') := by
  refine Agree.bind (agree_field hleft) ?_
  rintro name _ rfl
  refine Agree.bind (agree_operand hright) fun j j' hj => ?_
  exact Agree.pure (alike_test name c.key hj)

lemma agree_equality (hleft : left.Alike left') (hright : right.Alike right') :
    Agree (Filter.Alike [none]) (equality op args left right)
      (equality op args' left' right') := by
  cases hleft with
  | path p =>
    refine Agree.bind (agree_operand hright) fun j j' hj => ?_
    exact Agree.pure (Filter.Alike.field p.fieldName hj)
  | @operation size innerArgs innerArgs' hinner =>
    unfold equality
    dsimp only
    cases size.isSize with
    | false => exact agree_illegal
    | true =>
      cases hright with
      | constant hv =>
        cases hv with
        | int n =>
          cases hinner with
          | nil => exact agree_illegal
          | cons hcollection _ =>
            refine Agree.bind (agree_field hcollection) ?_
            rintro name _ rfl
            exact Agree.pure (alike_test name "$size" (Json.Alike.int n))
        | _ => exact agree_illegal
      | _ => exact agree_illegal
  | _ => exact agree_illegal

lemma agree_range {lower lower' upper upper' : Expr} (hleft : left.Alike left')
    (hlower : lower.Alike lower') (hupper : upper.Alike upper') :
    Agree (Filter.Alike [none, none]) (range op args left lower upper)
      (range op args' left' lower' upper') := by
  refine Agree.bind (agree_field hleft) ?_
  rintro name _ rfl
  refine Agree.bind (agree_operand hlower) fun j j' hj => ?_
  refine Agree.bind (agree_operand hupper) fun k k' hk => ?_
  exact Agree.pure (Filter.Alike.both (alike_test name _ hj) (alike_test name _ hk))

/-- A literal that is looked for in a text, whatever pattern is made of it. -/
lemma agree_search (pattern : String → String) (ignoreCase : Bool) (hleft : left.Alike left')
    (hright : right.Alike right') :
    Agree (Filter.Alike [none])
      (do
        let t ← literal op args right
        let name ← field op args left
        pure (Filter.matchesText name (pattern t) ignoreCase))
      (do
        let t ← literal op args' right'
        let name ← field op args' left'
        pure (Filter.matchesText name (pattern t) ignoreCase)) := by
  refine Agree.bind (agree_literal hright) fun t t' _ => ?_
  refine Agree.bind (agree_field hleft) ?_
  rintro name _ rfl
  exact Agree.pure (alike_matchesText name (pattern t) (pattern t') ignoreCase)

lemma agree_givenPattern (ignoreCase : Bool) (hleft : left.Alike left')
    (hright : right.Alike right') :
    Agree (Filter.Alike [none]) (givenPattern op args ignoreCase left right)
      (givenPattern op args' ignoreCase left' right') := by
  refine Agree.bind (agree_field hleft) ?_
  rintro name _ rfl
  refine Agree.bind (agree_literal hright) fun t t' _ => ?_
  exact Agree.pure (alike_matchesText name t t' ignoreCase)

lemma agree_presence (b : Bool) (h : e.Alike e') :
    Agree (Filter.Alike [none]) (presence op args b e) (presence op args' b e') := by
  refine Agree.bind (agree_field h) ?_
  rintro name _ rfl
  exact Agree.pure (alike_test name "$exists" (Json.Alike.bool b))

lemma agree_emptyText (h : e.Alike e') :
    Agree (Filter.Alike [none]) (emptyText op args e) (emptyText op args' e') := by
  refine Agree.bind (agree_field h) ?_
  rintro name _ rfl
  exact Agree.pure (Filter.Alike.field name (Json.Alike.str "" ""))

lemma agree_emptyCollection (h : e.Alike e') :
    Agree (Filter.Alike [none, none]) (emptyCollection op args e)
      (emptyCollection op args' e') := by
  refine Agree.bind (agree_field h) ?_
  rintro name _ rfl
  have hexists := alike_test name "$exists" (Json.Alike.bool false)
  have hsize := alike_test name "$size" (Json.Alike.int 0)
  exact Agree.pure (Filter.Alike.either hexists hsize)

/-- The key of an entry is the one literal that becomes part of a name. -/
lemma agree_mapEntry (hleft : left.Alike left') (hright : right.Alike right') :
    Agree (Filter.Alike (Family.mapEntry.maps [left, right])) (mapEntry op args left right)
      (mapEntry op args' left' right') := by
  cases hleft with
  | path p =>
    have hname : Agree (fun name name' => name = p.fieldName ∧ name' = p.fieldName)
        (field op args (.path p)) (field op args' (.path p)) := Agree.pure ⟨rfl, rfl⟩
    refine Agree.bind hname ?_
    rintro _ _ ⟨rfl, rfl⟩
    refine Agree.bind (agree_literal hright) fun key key' _ => ?_
    exact Agree.pure
      (Filter.Alike.entry p key key' (Json.alike_entry "$exists" (Json.Alike.bool true)))
  | _ => exact agree_illegal

lemma agree_membershipTest (inside : Bool) (hleft : left.Alike left')
    (hright : right.Alike right') :
    Agree (Filter.Alike [none]) (testOf op args (.membership inside) [left, right])
      (testOf op args' (.membership inside) [left', right']) := by
  refine Agree.bind (agree_membership hleft hright) ?_
  rintro ⟨name, js⟩ ⟨_, js'⟩ ⟨rfl, hjs⟩
  cases inside with
  | true => exact Agree.pure (alike_test name "$in" (Json.Alike.arr hjs))
  | false => exact Agree.pure (alike_test name "$nin" (Json.Alike.arr hjs))

/-- Tests of one family with alike arguments agree. -/
lemma agree_testOf (family : Family) {given given' : List Expr}
    (h : List.Forall₂ Expr.Alike given given') :
    Agree (Filter.Alike (family.maps given)) (testOf op args family given)
      (testOf op args' family given') := by
  -- a family has one number of arguments, and with any other the operation is refused
  rcases h with _ | ⟨h₁, _ | ⟨h₂, _ | ⟨h₃, _ | ⟨h₄, h₅⟩⟩⟩⟩
  · cases family <;> exact agree_illegal
  · cases family with
    | presence b => exact agree_presence b h₁
    | emptyText => exact agree_emptyText h₁
    | emptyCollection => exact agree_emptyCollection h₁
    | _ => exact agree_illegal
  · cases family with
    | equality => exact agree_equality h₁ h₂
    | comparison c => exact agree_comparison c h₁ h₂
    | membership inside => exact agree_membershipTest inside h₁ h₂
    | search place ignoreCase =>
      exact agree_search (fun t => (Pattern.seeking place t).text) ignoreCase h₁ h₂
    | given ignoreCase => exact agree_givenPattern ignoreCase h₁ h₂
    | wildcards => exact agree_search (fun t => (Pattern.ofWildcards t).text) false h₁ h₂
    | mapEntry => exact agree_mapEntry h₁ h₂
    | _ => exact agree_illegal
  · cases family with
    | range => exact agree_range h₁ h₂ h₃
    | _ => exact agree_illegal
  · cases family <;> exact agree_illegal

lemma agree_test (op : Operator) (h : List.Forall₂ Expr.Alike args args') :
    Agree (Filter.Alike (op.family.maps args)) (test op args) (test op args') := by
  rw [test_eq_testOf, test_eq_testOf]
  exact agree_testOf op.family h

end Tests

end Compile

/-! ## Predicates -/

namespace Expr

/-- What is alike to an operation with one argument. -/
lemma exists_of_alike_one {op : Operator} {x e' : Expr} (h : (operation op [x]).Alike e') :
    ∃ x', e' = operation op [x'] ∧ x.Alike x' := by
  cases h with
  | operation _ hargs =>
    rcases hargs with _ | ⟨hx, _ | _⟩
    exact ⟨_, rfl, hx⟩

/-- What is alike to an operation with two arguments. -/
lemma exists_of_alike_two {op : Operator} {x y e' : Expr} (h : (operation op [x, y]).Alike e') :
    ∃ x' y', e' = operation op [x', y'] ∧ x.Alike x' ∧ y.Alike y' := by
  cases h with
  | operation _ hargs =>
    rcases hargs with _ | ⟨hx, _ | ⟨hy, _ | _⟩⟩
    exact ⟨_, _, rfl, hx, hy⟩

/-- **Texts do not shape filters.**  Alike predicates compile to filters of the same shape, or they
are both refused with failures of the same kind. -/
theorem agree_compile {e e' : Expr} (h : e.Alike e') :
    Outcome.Agree (Filter.Alike e.testedMaps) e.compile e'.compile := by
  fun_induction compile e generalizing e' with
  | case1 left right ihl ihr =>
    obtain ⟨left', right', rfl, hl, hr⟩ := exists_of_alike_two h
    refine Outcome.Agree.bind (ihl hl) fun f f' hf => ?_
    refine Outcome.Agree.bind (ihr hr) fun g g' hg => ?_
    exact Outcome.Agree.pure (Filter.Alike.both hf hg)
  | case2 left right ihl ihr =>
    obtain ⟨left', right', rfl, hl, hr⟩ := exists_of_alike_two h
    refine Outcome.Agree.bind (ihl hl) fun f f' hf => ?_
    refine Outcome.Agree.bind (ihr hr) fun g g' hg => ?_
    exact Outcome.Agree.pure (Filter.Alike.either hf hg)
  | case3 args =>
    obtain ⟨x', rfl, hx⟩ := exists_of_alike_one h
    cases hx with
    | operation _ hargs => exact Compile.agree_test .notIn hargs
  | case4 e he ih =>
    obtain ⟨x', rfl, hx⟩ := exists_of_alike_one h
    have he' : ∀ args, x' ≠ operation .isIn args := by
      rintro args' rfl
      cases hx with
      | operation _ _ => exact he _ rfl
    rw [compile_not he']
    refine Outcome.Agree.bind (ih hx) fun f f' hf => ?_
    exact Outcome.Agree.pure hf.complement
  | case5 op args hand hor hmember hnot =>
    cases h with
    | @operation _ _ args' hargs =>
      rw [testedMaps, compile]
      · exact Compile.agree_test op hargs
      -- the second operation is no connective, since the first one is not
      · rintro _ _ rfl rfl
        rcases hargs with _ | ⟨_, _ | ⟨_, _ | _⟩⟩
        exact hand _ _ rfl rfl
      · rintro _ _ rfl rfl
        rcases hargs with _ | ⟨_, _ | ⟨_, _ | _⟩⟩
        exact hor _ _ rfl rfl
      · rintro _ rfl rfl
        rcases hargs with _ | ⟨_, _ | _⟩
        exact hnot _ rfl rfl
      · rintro _ rfl rfl
        rcases hargs with _ | ⟨_, _ | _⟩
        exact hnot _ rfl rfl
      · exact hand
      · exact hor
      · exact hnot
  | case6 v =>
    cases h with
    | constant _ => exact Outcome.Agree.error rfl rfl (Error.Alike.unsupportedOperator _ _)
  | case7 p =>
    cases h with
    | path _ => exact Outcome.Agree.error rfl rfl (Error.Alike.unsupportedOperator _ _)
  | case8 e _ _ _ _ hop hconst hpath =>
    cases h with
    | constant _ => exact absurd rfl (hconst _)
    | path _ => exact absurd rfl (hpath _)
    | operation _ _ => exact absurd rfl (hop _ _)
    | _ => exact Outcome.Agree.error rfl rfl (Error.Alike.unsupportedNode _ _)

/-- A predicate with two texts from outside: an item of a list, and the key of an entry. -/
def withTexts (item key : String) : Expr :=
  .operation .not [.operation .or
    [.operation .isIn
      [.path (.property (.root "user") "name"), .constant (.list [.null, .text item])],
    .operation .not [.operation .containsKey
      [.path (.property (.root "user") "tags"), .constant (.text key)]]]]

theorem agree_compile_withTexts :
    (withTexts "a" "b").Alike (withTexts "$ne" "$or.c") ∧
    (withTexts "$ne" "$or.c").compile.result = .ok
      [("$nor", .arr [.obj [("$or", .arr
        [.obj [("name", .obj [("$in", .arr [.null, .str "$ne"])])],
        .obj [("tags.$or.c", .obj [("$not", .obj [("$exists", .bool true)])])]])]])] ∧
    Outcome.Agree (Filter.Alike [none, some (.property (.root "user") "tags")])
      (withTexts "a" "b").compile (withTexts "$ne" "$or.c").compile := by
  have hname := Alike.path (.property (.root "user") "name")
  have htags := Alike.path (.property (.root "user") "tags")
  have hitems : (Value.list [.null, .text "a"]).Alike (.list [.null, .text "$ne"]) :=
    .list (.cons .null (.cons (.text "a" "$ne") .nil))
  have hmember := Alike.operation .isIn (.cons hname (.cons (.constant hitems) .nil))
  have hentry := Alike.operation .containsKey
    (.cons htags (.cons (.constant (.text "b" "$or.c")) .nil))
  have hor := Alike.operation .or
    (.cons hmember (.cons (.operation .not (.cons hentry .nil)) .nil))
  have halike : (withTexts "a" "b").Alike (withTexts "$ne" "$or.c") :=
    .operation .not (.cons hor .nil)
  exact ⟨halike, rfl, agree_compile halike⟩

end Expr

end DocSelect
