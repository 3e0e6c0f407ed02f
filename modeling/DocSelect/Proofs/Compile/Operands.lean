/-
# Operands in filters

A comparison sets a field against a constant or against another field.  In the filter the operand
is a JSON value: the form of the constant, or the name of the other field as a string.  Of two
operands this value is the same in two ways.  They may stand for the same thing, two constants of
one form or two paths of one field name.  Or one of them is a path and the other a constant that
spells the name of its field, and then the filter does not tell the field from the constant.
-/
import Mathlib.Tactic.Lemma
import DocSelect.Proofs.Compile.Grammar

namespace DocSelect

/-! ## Comparisons of a field -/

/-- A value that spells a name: a text, or a member of an enumeration. -/
inductive Value.Spells (name : String) : Value → Prop
  | text : Spells name (.text name)
  | enum (typeName : String) (ordinal : Nat) : Spells name (.enum typeName name ordinal)

/-- The constants with a string for their form are those that spell it. -/
lemma Value.json?_eq_str_iff {v : Value} {name : String} :
    v.json? = some (.str name) ↔ v.Spells name := by
  constructor
  · intro h
    cases v with
    | text s =>
      simp only [json?, Option.some.injEq, Json.str.injEq] at h
      subst h
      exact Spells.text
    | enum typeName member ordinal =>
      simp only [json?, Option.some.injEq, Json.str.injEq] at h
      subst h
      exact Spells.enum typeName ordinal
    | _ => simp [json?] at h
  · rintro (_ | ⟨typeName, ordinal⟩)
    · rfl
    · rfl

namespace Expr

/-- `SameOperand x y`: a filter does not tell the operands `x` and `y` apart. -/
inductive SameOperand : Expr → Expr → Prop
  | constants {v w : Value} {j : Json} (hv : v.json? = some j) (hw : w.json? = some j) :
      SameOperand (constant v) (constant w)
  | paths {p q : Path} (h : p.fieldName = q.fieldName) : SameOperand (path p) (path q)
  /-- The constant spells the name of the field. -/
  | pathConstant {p : Path} {v : Value} (h : v.Spells p.fieldName) :
      SameOperand (path p) (constant v)
  | constantPath {p : Path} {v : Value} (h : v.Spells p.fieldName) :
      SameOperand (constant v) (path p)

/-- Operands that stand for the same JSON value. -/
lemma sameOperand_iff {x y : Expr} {j k : Json} (hx : x.operand? = some j)
    (hy : y.operand? = some k) : SameOperand x y ↔ j = k := by
  constructor
  · intro h
    cases h with
    | constants hv hw =>
      have hj : some j = some k := hx.symm.trans (hv.trans (hw.symm.trans hy))
      exact Option.some.inj hj
    | paths h =>
      simp only [operand?, Option.some.injEq] at hx hy
      rw [← hx, ← hy, h]
    | pathConstant h =>
      have hk : some k = _ := hy.symm.trans (Value.json?_eq_str_iff.mpr h)
      exact (Option.some.inj (hk.trans hx)).symm
    | constantPath h =>
      have hj : some j = _ := hx.symm.trans (Value.json?_eq_str_iff.mpr h)
      exact Option.some.inj (hj.trans hy)
  · rintro rfl
    cases x with
    | constant v =>
      cases y with
      | constant w => exact SameOperand.constants hx hy
      | path q =>
        obtain rfl : Json.str q.fieldName = j := Option.some.inj hy
        exact SameOperand.constantPath (Value.json?_eq_str_iff.mp hx)
      | _ => simp [operand?] at hy
    | path p =>
      obtain rfl : Json.str p.fieldName = j := Option.some.inj hx
      cases y with
      | constant w => exact SameOperand.pathConstant (Value.json?_eq_str_iff.mp hy)
      | path q =>
        have hname : Json.str q.fieldName = Json.str p.fieldName := Option.some.inj hy
        exact SameOperand.paths (Json.str.inj hname).symm
      | _ => simp [operand?] at hy
    | _ => simp [operand?] at hx

/-- The predicates that compare the field of a path with an operand, as functions of the operand:
a comparison, or one of the bounds of a range. -/
inductive Comparing (p : Path) : (Expr → Expr) → Prop
  | comparison {op : Operator} (hop : op ∈ Operator.comparisons) :
      Comparing p fun x => operation op [path p, x]
  | lowerBound (upper : Expr) : Comparing p fun x => operation .between [path p, x, upper]
  | upperBound (lower : Expr) : Comparing p fun x => operation .between [path p, lower, x]

end Expr

/-! ## The filters of comparisons -/

namespace Compile

variable {op : Operator} {p : Path} {x y : Expr} {f : Document}

lemma Tests.exists_equals (h : Tests op [.path p, x] f) (hop : op.family = .equality) :
    ∃ j, x.operand? = some j ∧ f = Filter.equals p.fieldName j := by
  cases h with
  | equals _ hx => exact ⟨_, hx, rfl⟩
  | _ hfamily => exact absurd (hop.symm.trans hfamily) (by simp)

lemma Tests.exists_compare {c : Filter.Comparison} (h : Tests op [.path p, x] f)
    (hop : op.family = .comparison c) :
    ∃ j, x.operand? = some j ∧ f = Filter.compare c p.fieldName j := by
  cases h with
  | compares hfamily hx =>
    cases hop.symm.trans hfamily
    exact ⟨_, hx, rfl⟩
  | _ hfamily => exact absurd (hop.symm.trans hfamily) (by simp)

lemma Tests.exists_range (h : Tests op [.path p, x, y] f) :
    ∃ j k, x.operand? = some j ∧ y.operand? = some k ∧
      f = Filter.both (Filter.compare .ge p.fieldName j) (Filter.compare .le p.fieldName k) := by
  cases h with
  | within _ hx hy => exact ⟨_, _, hx, hy, rfl⟩

end Compile

namespace Filter

lemma equals_injective (field : String) : Function.Injective (equals field) := by
  intro j k h
  simpa [equals] using h

lemma compare_injective (c : Comparison) (field : String) :
    Function.Injective (compare c field) := by
  intro j k h
  simpa [compare, test] using h

lemma both_inj {left right left' right' : Document} :
    both left right = both left' right' ↔ left = left' ∧ right = right' := by
  simp [both]

end Filter

namespace Expr

open Compile

/-- An operation that is no connective has the filter of a test. -/
lemma HasFilter.tests {op : Operator} {args : List Expr} {f : Document}
    (h : (operation op args).HasFilter f) (hop : op.family ≠ .nothing) : Tests op args f := by
  cases h with
  | test ht => exact ht
  | _ => exact absurd rfl hop

/-- A comparison that compiles has an operand with a JSON value, and this value can be read back
from the filter. -/
lemma exists_filter_of_comparison {op : Operator} (hop : op ∈ Operator.comparisons) (p : Path) :
    ∃ g : Json → Document, Function.Injective g ∧ ∀ x f,
      (operation op [path p, x]).HasFilter f → ∃ j, x.operand? = some j ∧ f = g j := by
  have hcases : op.family = .equality ∨ ∃ c, op.family = .comparison c := by
    simp only [Operator.comparisons, List.mem_cons, List.not_mem_nil, or_false] at hop
    rcases hop with rfl | rfl | rfl | rfl | rfl | rfl
    · exact Or.inl rfl
    all_goals exact Or.inr ⟨_, rfl⟩
  rcases hcases with hfamily | ⟨c, hfamily⟩
  · refine ⟨_, Filter.equals_injective p.fieldName, fun x f h => ?_⟩
    exact (h.tests (by simp [hfamily])).exists_equals hfamily
  · refine ⟨_, Filter.compare_injective c p.fieldName, fun x f h => ?_⟩
    exact (h.tests (by simp [hfamily])).exists_compare hfamily

/-- Both bounds of a range that compiles have JSON values. -/
lemma exists_operands_of_range {p : Path} {x y : Expr} {f : Document}
    (h : (operation .between [path p, x, y]).HasFilter f) :
    ∃ j k, x.operand? = some j ∧ y.operand? = some k ∧
      f = Filter.both (Filter.compare .ge p.fieldName j) (Filter.compare .le p.fieldName k) :=
  (h.tests (by simp [Operator.family])).exists_range

/-- The same of the bounds of ranges as well: the filter is made from the JSON value of the operand,
which can be read back from it. -/
lemma Comparing.exists_filter {p : Path} {frame : Expr → Expr} (h : Comparing p frame) :
    ∃ g : Json → Document, Function.Injective g ∧ ∀ x f,
      (frame x).HasFilter f → ∃ j, x.operand? = some j ∧ f = g j := by
  cases h with
  | comparison hop => exact exists_filter_of_comparison hop p
  | lowerBound upper =>
    -- a range that compiles has another bound with a value, so the default does not matter
    let greatest := Filter.compare .le p.fieldName (upper.operand?.getD .null)
    refine ⟨fun j => Filter.both (Filter.compare .ge p.fieldName j) greatest, ?_, ?_⟩
    · intro j k hjk
      exact Filter.compare_injective _ _ (Filter.both_inj.mp hjk).1
    · intro x f hf
      obtain ⟨j, u, hj, hu, rfl⟩ := exists_operands_of_range hf
      exact ⟨j, hj, by simp only [greatest, hu, Option.getD_some]⟩
  | upperBound lower =>
    let least := Filter.compare .ge p.fieldName (lower.operand?.getD .null)
    refine ⟨fun j => Filter.both least (Filter.compare .le p.fieldName j), ?_, ?_⟩
    · intro j k hjk
      exact Filter.compare_injective _ _ (Filter.both_inj.mp hjk).2
    · intro x f hf
      obtain ⟨l, j, hl, hj, rfl⟩ := exists_operands_of_range hf
      exact ⟨j, hj, by simp only [least, hl, Option.getD_some]⟩

/-- **Which operands have the same filter.**  Two comparisons of a field that differ in one operand
compile to the same filter exactly when the operands are constants of the same form, or paths of the
same field name, or a path and a constant that spells the name of its field. -/
theorem filter_eq_iff_sameOperand {p : Path} {frame : Expr → Expr} (hframe : Comparing p frame)
    {x y : Expr} {f g : Document} (hx : (frame x).compile.result = .ok f)
    (hy : (frame y).compile.result = .ok g) : f = g ↔ SameOperand x y := by
  obtain ⟨g, hg, hread⟩ := hframe.exists_filter
  obtain ⟨j, hj, rfl⟩ := hread _ _ (hasFilter_of_result_compile hx)
  obtain ⟨k, hk, rfl⟩ := hread _ _ (hasFilter_of_result_compile hy)
  rw [hg.eq_iff, sameOperand_iff hj hk]

theorem filter_eq_iff_sameOperand_lowerBound :
    Comparing (.property (.root "user") "age")
      (fun x => operation .between
        [path (.property (.root "user") "age"), x, constant (.list [.int 65])]) ∧
    ∃ f : Document,
      (operation .between [path (.property (.root "user") "age"),
        path (.anyOf (.property (.root "user") "min")),
        constant (.list [.int 65])]).compile.result = .ok f ∧
      (operation .between [path (.property (.root "user") "age"),
        constant (.enum "Bound" "min" 0),
        constant (.list [.int 65])]).compile.result = .ok f ∧
      SameOperand (path (.anyOf (.property (.root "user") "min")))
        (constant (.enum "Bound" "min" 0)) := by
  have hframe : Comparing (.property (.root "user") "age")
      (fun x => operation .between
        [path (.property (.root "user") "age"), x, constant (.list [.int 65])]) :=
    Comparing.lowerBound _
  exact ⟨hframe, _, rfl, rfl, (filter_eq_iff_sameOperand hframe rfl rfl).mp rfl⟩

/-- A comparison with a field and a comparison with the name of that field have the same filter. -/
theorem not_constants_or_paths_of_filter_eq :
    ¬ ∀ (p : Path) (frame : Expr → Expr), Comparing p frame → ∀ (x y : Expr) (f : Document),
      (frame x).compile.result = .ok f → (frame y).compile.result = .ok f →
      (∃ v w, x = constant v ∧ y = constant w ∧ v.json? = w.json?) ∨
        ∃ q r, x = path q ∧ y = path r ∧ q.fieldName = r.fieldName := by
  intro h
  have hequal : Comparing (.property (.root "user") "a")
      (fun x => operation .eq [path (.property (.root "user") "a"), x]) :=
    Comparing.comparison (by decide)
  rcases h _ _ hequal (path (.property (.root "user") "b")) (constant (.text "b")) _ rfl rfl with
    ⟨v, -, hv, -⟩ | ⟨-, r, -, hr, -⟩
  · exact absurd hv (by simp)
  · exact absurd hr (by simp)

end Expr

end DocSelect
