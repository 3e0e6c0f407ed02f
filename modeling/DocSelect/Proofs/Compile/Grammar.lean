/-
# The predicates that can be compiled

The compiler accepts a language of its own inside the expressions.  This file writes the grammar
of that language down, production by production and without a word about filters, and proves
that the compiler accepts exactly the expressions of the grammar.
-/
import Mathlib.Tactic.Lemma
import DocSelect.Proofs.Compile.Rules
import DocSelect.Proofs.Value.Form

namespace DocSelect

/-! ## The grammar -/

namespace Operator

/-- The operators that compare a field with an operand. -/
def comparisons : List Operator :=
  [eq, ne, lt, gt, le, ge]

/-- The operators that count the elements of a collection. -/
def sizes : List Operator :=
  [collectionSize, arraySize]

/-- The operators that look for a field among constants. -/
def memberships : List Operator :=
  [isIn, notIn]

/-- The operators that test a field by itself. -/
def fieldTests : List Operator :=
  [isNull, isNotNull, isEmptyText, isEmptyCollection]

/-- The operators that test a field against a plain text. -/
def literalTests : List Operator :=
  [startsWith, startsWithIgnoreCase, endsWith, endsWithIgnoreCase, equalsIgnoreCase,
    containsText, containsTextIgnoreCase, matchesPattern, matchesPatternIgnoreCase, like,
    containsKey]

lemma mem_sizes_iff {op : Operator} : op ∈ sizes ↔ op.isSize = true := by
  cases op <;> simp [sizes, isSize]

lemma mem_comparisons {op : Operator} {c : Filter.Comparison} (h : op.family = .comparison c) :
    op ∈ comparisons := by
  cases op <;> simp_all [family, comparisons]

lemma mem_literalTests {op : Operator} {place : Pattern.Place} {ignoreCase : Bool}
    (h : op.family = .search place ignoreCase) : op ∈ literalTests := by
  cases op <;> simp_all [family, literalTests]

end Operator

namespace Expr

/-- What a field can be compared with: another field, or a constant in which no number is
infinite or not a number, at any depth. -/
inductive IsOperand : Expr → Prop
  | path (p : Path) : IsOperand (.path p)
  | constant {v : Value} (hv : v.Finite) : IsOperand (.constant v)

/-- What can stand for a plain text: a constant that is neither null nor a list. -/
inductive IsLiteral : Expr → Prop
  | constant {v : Value} (hnull : v ≠ .null) (hlist : ∀ items, v ≠ .list items) :
      IsLiteral (.constant v)

/-- The predicates that can be compiled. -/
inductive Compilable : Expr → Prop
  | and {left right : Expr} : Compilable left → Compilable right →
      Compilable (.operation .and [left, right])
  | or {left right : Expr} : Compilable left → Compilable right →
      Compilable (.operation .or [left, right])
  | not {e : Expr} : Compilable e → Compilable (.operation .not [e])
  | comparison {op : Operator} {p : Path} {x : Expr}
      (hop : op ∈ Operator.comparisons) (hx : IsOperand x) :
      Compilable (.operation op [.path p, x])
  | between {p : Path} {x y : Expr} (hx : IsOperand x) (hy : IsOperand y) :
      Compilable (.operation .between [.path p, x, y])
  /-- Whatever else the size operation has behind its collection, it is not looked at. -/
  | sizeEquals {size : Operator} {p : Path} {rest : List Expr} {n : Int}
      (hsize : size ∈ Operator.sizes) :
      Compilable (.operation .eq [.operation size (.path p :: rest), .constant (.int n)])
  | memberOf {op : Operator} {p : Path} {values : List Value}
      (hop : op ∈ Operator.memberships) (hvalues : ∀ v ∈ values, v.Finite) :
      Compilable (.operation op [.path p, .constant (.list values)])
  | memberOfFlipped {op : Operator} {p : Path} {values : List Value}
      (hop : op ∈ Operator.memberships) (hvalues : ∀ v ∈ values, v.Finite) :
      Compilable (.operation op [.constant (.list values), .path p])
  | fieldTest {op : Operator} {p : Path} (hop : op ∈ Operator.fieldTests) :
      Compilable (.operation op [.path p])
  | literalTest {op : Operator} {p : Path} {x : Expr}
      (hop : op ∈ Operator.literalTests) (hx : IsLiteral x) :
      Compilable (.operation op [.path p, x])

/-! ## Arguments -/

lemma isOperand_iff {x : Expr} : x.IsOperand ↔ ∃ j, x.operand? = some j := by
  constructor
  · rintro (p | hv)
    · exact ⟨_, rfl⟩
    · exact Option.isSome_iff_exists.mp ((Value.isSome_json?_iff _).mpr hv)
  · rintro ⟨j, hj⟩
    cases x with
    | constant v =>
      have hsome : v.json?.isSome = true := Option.isSome_iff_exists.mpr ⟨j, hj⟩
      exact IsOperand.constant ((Value.isSome_json?_iff v).mp hsome)
    | path p => exact IsOperand.path p
    | _ => exact absurd hj (by simp [operand?])

lemma isLiteral_iff {x : Expr} : x.IsLiteral ↔ ∃ t, x.literal? = some t := by
  constructor
  · rintro ⟨hnull, hlist⟩
    rename_i v
    cases v with
    | null => exact absurd rfl hnull
    | list items => exact absurd rfl (hlist items)
    | _ => exact ⟨_, rfl⟩
  · rintro ⟨t, ht⟩
    cases x with
    | constant v =>
      refine IsLiteral.constant ?_ ?_
      · rintro rfl
        exact absurd ht (by simp [literal?, Value.literal?])
      · rintro items rfl
        exact absurd ht (by simp [literal?, Value.literal?])
    | _ => exact absurd ht (by simp [literal?])

/-- Items have forms together exactly when they have them one by one. -/
lemma exists_jsonItems?_iff {values : List Value} :
    (∃ js, Value.jsonItems? values = some js) ↔ ∀ v ∈ values, v.Finite := by
  rw [← Value.isSome_jsonItems?_iff, Option.isSome_iff_exists]

/-! ## Productions and rules -/

lemma compilable_of_membership {op : Operator} {left right : Expr} {p : Path} {js : List Json}
    (hop : op ∈ Operator.memberships) (hm : left.membership? right = some (p, js)) :
    Compilable (.operation op [left, right]) := by
  obtain ⟨values, hjs, h⟩ := membership?_eq_some_iff.mp hm
  have hvalues : ∀ v ∈ values, v.Finite := exists_jsonItems?_iff.mp ⟨js, hjs⟩
  rcases h with ⟨rfl, rfl⟩ | ⟨rfl, rfl⟩
  · exact Compilable.memberOf hop hvalues
  · exact Compilable.memberOfFlipped hop hvalues

/-- A test that has a filter is in the grammar. -/
lemma compilable_of_tests {op : Operator} {args : List Expr} {f : Document}
    (h : Compile.Tests op args f) : Compilable (.operation op args) := by
  cases h with
  | equals hop hx =>
    cases Operator.family_eq_equality_iff.mp hop
    exact Compilable.comparison (by simp [Operator.comparisons]) (isOperand_iff.mpr ⟨_, hx⟩)
  | hasSize hop hsize =>
    cases Operator.family_eq_equality_iff.mp hop
    exact Compilable.sizeEquals (Operator.mem_sizes_iff.mpr hsize)
  | compares hop hx =>
    exact Compilable.comparison (Operator.mem_comparisons hop) (isOperand_iff.mpr ⟨_, hx⟩)
  | within hop hx hy =>
    cases Operator.family_eq_range_iff.mp hop
    exact Compilable.between (isOperand_iff.mpr ⟨_, hx⟩) (isOperand_iff.mpr ⟨_, hy⟩)
  | inside hop hm =>
    cases Operator.family_eq_membership_iff.mp hop
    exact compilable_of_membership (by simp [Operator.memberships]) hm
  | outside hop hm =>
    cases Operator.family_eq_membership_iff.mp hop
    exact compilable_of_membership (by simp [Operator.memberships]) hm
  | @present b p hop =>
    refine Compilable.fieldTest ?_
    rw [Operator.family_eq_presence_iff.mp hop]
    cases b <;> simp [Operator.fieldTests]
  | emptyText hop =>
    cases Operator.family_eq_emptyText_iff.mp hop
    exact Compilable.fieldTest (by simp [Operator.fieldTests])
  | finds hop hx =>
    exact Compilable.literalTest (Operator.mem_literalTests hop) (isLiteral_iff.mpr ⟨_, hx⟩)
  | @passes ignoreCase p x t hop hx =>
    refine Compilable.literalTest ?_ (isLiteral_iff.mpr ⟨_, hx⟩)
    rw [Operator.family_eq_given_iff.mp hop]
    cases ignoreCase <;> simp [Operator.literalTests]
  | like hop hx =>
    cases Operator.family_eq_wildcards_iff.mp hop
    exact Compilable.literalTest (by simp [Operator.literalTests]) (isLiteral_iff.mpr ⟨_, hx⟩)
  | emptyCollection hop =>
    cases Operator.family_eq_emptyCollection_iff.mp hop
    exact Compilable.fieldTest (by simp [Operator.fieldTests])
  | hasEntry hop hx =>
    cases Operator.family_eq_mapEntry_iff.mp hop
    exact Compilable.literalTest (by simp [Operator.literalTests]) (isLiteral_iff.mpr ⟨_, hx⟩)

/-- Every predicate with a filter is in the grammar. -/
lemma compilable_of_hasFilter {e : Expr} {f : Document} (h : e.HasFilter f) : e.Compilable := by
  induction h with
  | and _ _ ihl ihr => exact Compilable.and ihl ihr
  | or _ _ ihl ihr => exact Compilable.or ihl ihr
  | @notMember args f ht =>
    -- the arguments of a test of non-membership fit the test of membership as well
    refine Compilable.not ?_
    cases ht with
    | outside hop hm => exact compilable_of_membership (by simp [Operator.memberships]) hm
    | _ hop => exact absurd hop (by simp [Operator.family])
  | not _ _ ih => exact Compilable.not ih
  | test ht => exact compilable_of_tests ht

/-- A membership test between a path and a list of constants has a filter, in either order. -/
lemma exists_tests_of_membership {op : Operator} {left right : Expr} {p : Path}
    {values : List Value} (hop : op ∈ Operator.memberships) (hvalues : ∀ v ∈ values, v.Finite)
    (h : left = .path p ∧ right = .constant (.list values) ∨
      left = .constant (.list values) ∧ right = .path p) :
    ∃ f, Compile.Tests op [left, right] f := by
  obtain ⟨js, hjs⟩ := exists_jsonItems?_iff.mpr hvalues
  have hm : left.membership? right = some (p, js) := membership?_eq_some_iff.mpr ⟨values, hjs, h⟩
  simp only [Operator.memberships, List.mem_cons, List.not_mem_nil, or_false] at hop
  rcases hop with rfl | rfl
  · exact ⟨_, Compile.Tests.inside rfl hm⟩
  · exact ⟨_, Compile.Tests.outside rfl hm⟩

lemma exists_tests_of_comparison {op : Operator} {p : Path} {x : Expr}
    (hop : op ∈ Operator.comparisons) (hx : x.IsOperand) :
    ∃ f, Compile.Tests op [.path p, x] f := by
  obtain ⟨j, hj⟩ := isOperand_iff.mp hx
  simp only [Operator.comparisons, List.mem_cons, List.not_mem_nil, or_false] at hop
  rcases hop with rfl | rfl | rfl | rfl | rfl | rfl
  · exact ⟨_, Compile.Tests.equals rfl hj⟩
  all_goals exact ⟨_, Compile.Tests.compares rfl hj⟩

lemma exists_tests_of_fieldTest {op : Operator} {p : Path} (hop : op ∈ Operator.fieldTests) :
    ∃ f, Compile.Tests op [.path p] f := by
  simp only [Operator.fieldTests, List.mem_cons, List.not_mem_nil, or_false] at hop
  rcases hop with rfl | rfl | rfl | rfl
  · exact ⟨_, Compile.Tests.present rfl⟩
  · exact ⟨_, Compile.Tests.present rfl⟩
  · exact ⟨_, Compile.Tests.emptyText rfl⟩
  · exact ⟨_, Compile.Tests.emptyCollection rfl⟩

lemma exists_tests_of_literalTest {op : Operator} {p : Path} {x : Expr}
    (hop : op ∈ Operator.literalTests) (hx : x.IsLiteral) :
    ∃ f, Compile.Tests op [.path p, x] f := by
  obtain ⟨t, ht⟩ := isLiteral_iff.mp hx
  -- seven operators search, two take a pattern as it is, and two go by themselves
  simp only [Operator.literalTests, List.mem_cons, List.not_mem_nil, or_false] at hop
  rcases hop with rfl | rfl | rfl | rfl | rfl | rfl | rfl | rfl | rfl | rfl | rfl
  iterate 7 exact ⟨_, Compile.Tests.finds rfl ht⟩
  iterate 2 exact ⟨_, Compile.Tests.passes rfl ht⟩
  · exact ⟨_, Compile.Tests.like rfl ht⟩
  · exact ⟨_, Compile.Tests.hasEntry rfl ht⟩

/-- The negation of a predicate with a filter has a filter. -/
lemma exists_hasFilter_not {e : Expr} {f : Document} (h : e.HasFilter f) :
    ∃ g, (operation .not [e]).HasFilter g := by
  by_cases he : ∃ args, e = .operation .isIn args
  · -- what fits the test of membership fits the test of non-membership as well
    obtain ⟨args, rfl⟩ := he
    cases h with
    | test ht =>
      cases ht with
      | inside hop hm => exact ⟨_, HasFilter.notMember (Compile.Tests.outside rfl hm)⟩
      | _ hop => exact absurd hop (by simp [Operator.family])
  · exact ⟨_, HasFilter.not (fun args heq => he ⟨args, heq⟩) h⟩

/-- Every predicate of the grammar has a filter. -/
lemma exists_hasFilter_of_compilable {e : Expr} (h : e.Compilable) : ∃ f, e.HasFilter f := by
  induction h with
  | and _ _ ihl ihr =>
    obtain ⟨f, hf⟩ := ihl
    obtain ⟨g, hg⟩ := ihr
    exact ⟨_, HasFilter.and hf hg⟩
  | or _ _ ihl ihr =>
    obtain ⟨f, hf⟩ := ihl
    obtain ⟨g, hg⟩ := ihr
    exact ⟨_, HasFilter.or hf hg⟩
  | not _ ih =>
    obtain ⟨f, hf⟩ := ih
    exact exists_hasFilter_not hf
  | comparison hop hx => exact (exists_tests_of_comparison hop hx).imp fun _ => HasFilter.test
  | between hx hy =>
    obtain ⟨j, hj⟩ := isOperand_iff.mp hx
    obtain ⟨k, hk⟩ := isOperand_iff.mp hy
    exact ⟨_, HasFilter.test (Compile.Tests.within rfl hj hk)⟩
  | sizeEquals hsize =>
    exact ⟨_, HasFilter.test (Compile.Tests.hasSize rfl (Operator.mem_sizes_iff.mp hsize))⟩
  | memberOf hop hvalues =>
    exact (exists_tests_of_membership hop hvalues (Or.inl ⟨rfl, rfl⟩)).imp fun _ => HasFilter.test
  | memberOfFlipped hop hvalues =>
    exact (exists_tests_of_membership hop hvalues (Or.inr ⟨rfl, rfl⟩)).imp fun _ => HasFilter.test
  | fieldTest hop => exact (exists_tests_of_fieldTest hop).imp fun _ => HasFilter.test
  | literalTest hop hx => exact (exists_tests_of_literalTest hop hx).imp fun _ => HasFilter.test

/-- **The compiler accepts exactly its grammar.**  An expression compiles if and only if it is
built by the productions of `Compilable`. -/
theorem exists_compile_eq_ok_iff (e : Expr) :
    (∃ f, e.compile.result = .ok f) ↔ e.Compilable := by
  constructor
  · rintro ⟨f, hf⟩
    exact compilable_of_hasFilter (result_compile_eq_ok_iff.mp hf)
  · intro h
    obtain ⟨f, hf⟩ := exists_hasFilter_of_compilable h
    exact ⟨f, result_compile_eq_ok_iff.mpr hf⟩

end Expr

end DocSelect
