/-
# The rules of compilation

The compiler reads a predicate and either finds its filter or refuses.  This file states which
filter that is by rules, one for each connective and one for each family of tests, and proves
that the compiler finds a filter exactly when the rules give it.  Everything that holds of all
compiled filters is an induction over these rules.

Many operators differ only in a detail: the comparisons in the name that they have in the filter
language, the searches in the place where they look.  So operators are first sorted into
families, and a rule belongs to a family.
-/
import Mathlib.Tactic.Lemma
import DocSelect.Compile
import DocSelect.Proofs.Value.Form

namespace DocSelect

/-! ## Arguments -/

namespace Expr

/-- What an operand stands for in a document: a constant for its form, and a path for the name
of its field. -/
def operand? : Expr → Option Json
  | constant v => v.json?
  | path p => some (.str p.fieldName)
  | _ => none

/-- The plain text that an argument stands for. -/
def literal? : Expr → Option String
  | constant v => v.literal?
  | _ => none

/-- The path and the forms of the constants of a membership test.  The two arguments come in
either order. -/
def membership? : Expr → Expr → Option (Path × List Json)
  | path p, constant (.list values) => (Value.jsonItems? values).map fun js => (p, js)
  | constant (.list values), path p => (Value.jsonItems? values).map fun js => (p, js)
  | _, _ => none

/-- One of the two arguments is a path, and the other a constant list whose items have forms. -/
lemma membership?_eq_some_iff {left right : Expr} {p : Path} {js : List Json} :
    left.membership? right = some (p, js) ↔ ∃ values, Value.jsonItems? values = some js ∧
      (left = path p ∧ right = constant (.list values) ∨
        left = constant (.list values) ∧ right = path p) := by
  constructor
  · intro h
    unfold membership? at h
    split at h
    · obtain ⟨js', hjs, heq⟩ := Option.map_eq_some_iff.mp h
      cases heq
      exact ⟨_, hjs, Or.inl ⟨rfl, rfl⟩⟩
    · obtain ⟨js', hjs, heq⟩ := Option.map_eq_some_iff.mp h
      cases heq
      exact ⟨_, hjs, Or.inr ⟨rfl, rfl⟩⟩
    · exact absurd h (by simp)
  · rintro ⟨values, hjs, ⟨rfl, rfl⟩ | ⟨rfl, rfl⟩⟩
    · simp [membership?, hjs]
    · simp [membership?, hjs]

/-- There is no object in an operand. -/
lemma plain_of_operand? {x : Expr} {j : Json} (h : x.operand? = some j) : j.Plain := by
  cases x with
  | constant v => exact Value.plain_of_json? v h
  | path p =>
    simp only [operand?, Option.some.injEq] at h
    subst h
    rfl
  | _ => exact absurd h (by simp [operand?])

/-- There is no object in the constants of a membership test. -/
lemma plain_of_membership? {left right : Expr} {p : Path} {js : List Json}
    (h : left.membership? right = some (p, js)) : (Json.arr js).Plain := by
  obtain ⟨values, hjs, -⟩ := membership?_eq_some_iff.mp h
  exact Value.objectsOfItems_of_jsonItems? values hjs

end Expr

namespace Compile

section Arguments

variable {α : Type} {op : Operator} {args : List Expr}

@[simp] lemma result_illegal :
    (illegal op args : Compiled α).result =
      .error (.unsupportedOperator ("Illegal operation " ++ (Expr.operation op args).shown)) :=
  rfl

lemma result_field_eq_ok_iff {e : Expr} {name : String} :
    (field op args e).result = .ok name ↔ ∃ p, e = .path p ∧ name = p.fieldName := by
  cases e <;> simp [field, eq_comm]

lemma result_json_eq_ok_iff {v : Value} {j : Json} :
    (json op args v).result = .ok j ↔ v.json? = some j := by
  rw [json]
  cases hv : v.json? with
  | some j' => simp
  | none => simp [Outcome.result_bind_eq_ok_iff]

lemma result_operand_eq_ok_iff {e : Expr} {j : Json} :
    (operand op args e).result = .ok j ↔ e.operand? = some j := by
  cases e <;> simp [operand, Expr.operand?, result_json_eq_ok_iff, Outcome.fail]

lemma result_literal_eq_ok_iff {e : Expr} {t : String} :
    (literal op args e).result = .ok t ↔ e.literal? = some t := by
  cases e with
  | constant v =>
    rw [literal, Expr.literal?]
    cases hv : v.literal? with
    | some t' => simp
    | none => simp [Outcome.result_bind_eq_ok_iff]
  | _ => simp [literal, Expr.literal?, Outcome.fail]

lemma result_elements_eq_ok_iff {values : List Value} {js : List Json} :
    (elements op args values).result = .ok js ↔ Value.jsonItems? values = some js := by
  induction values generalizing js with
  | nil => simp [elements, Value.jsonItems?]
  | cons v values ih =>
    simp only [elements, Outcome.result_bind_eq_ok_iff, result_json_eq_ok_iff, ih,
      Outcome.result_pure, Value.jsonItems?]
    cases v.json? <;> cases Value.jsonItems? values <;> simp

/-- The argument that names the field and the list of constants, once it is known which argument
is which. -/
lemma result_member_eq_ok_iff {e : Expr} {values : List Value} {m : String × List Json} :
    (do
      let name ← field op args e
      let js ← elements op args values
      pure (name, js) : Compiled (String × List Json)).result = .ok m ↔
      ∃ p, e = .path p ∧ Value.jsonItems? values = some m.2 ∧ m.1 = p.fieldName := by
  simp only [Outcome.result_bind_eq_ok_iff, result_field_eq_ok_iff, result_elements_eq_ok_iff,
    Outcome.result_pure, Except.ok.injEq]
  constructor
  · rintro ⟨_, ⟨p, rfl, rfl⟩, js, hjs, rfl⟩
    exact ⟨p, rfl, hjs, rfl⟩
  · rintro ⟨p, rfl, hjs, hname⟩
    exact ⟨p.fieldName, ⟨p, rfl, rfl⟩, m.2, hjs, Prod.ext hname.symm rfl⟩

lemma result_membership_eq_ok_iff {left right : Expr} {m : String × List Json} :
    (membership op args left right).result = .ok m ↔
      ∃ p, left.membership? right = some (p, m.2) ∧ m.1 = p.fieldName := by
  simp only [Expr.membership?_eq_some_iff]
  constructor
  · intro h
    unfold membership at h
    split at h
    · -- the list is on the right
      obtain ⟨p, rfl, hjs, hname⟩ := result_member_eq_ok_iff.mp h
      exact ⟨p, ⟨_, hjs, Or.inl ⟨rfl, rfl⟩⟩, hname⟩
    · simp at h
    · -- the list is on the left
      obtain ⟨p, rfl, hjs, hname⟩ := result_member_eq_ok_iff.mp h
      exact ⟨p, ⟨_, hjs, Or.inr ⟨rfl, rfl⟩⟩, hname⟩
    · simp at h
  · rintro ⟨p, ⟨values, hjs, ⟨rfl, rfl⟩ | ⟨rfl, rfl⟩⟩, hname⟩
    · exact result_member_eq_ok_iff.mpr ⟨p, rfl, hjs, hname⟩
    · exact result_member_eq_ok_iff.mpr ⟨p, rfl, hjs, hname⟩

end Arguments

/-! ## Families of tests -/

/-- What an operator tests. -/
inductive Family where
  /-- A field, or the size of a collection, equals an operand. -/
  | equality
  /-- A field compares with an operand. -/
  | comparison (c : Filter.Comparison)
  /-- A field lies within two bounds. -/
  | range
  /-- A field is, or is not, one of some constants. -/
  | membership (inside : Bool)
  /-- A field is present, or absent. -/
  | presence (present : Bool)
  /-- A field holds the empty text. -/
  | emptyText
  /-- A literal is found at a place of a text. -/
  | search (place : Pattern.Place) (ignoreCase : Bool)
  /-- A text passes a pattern that the caller has written. -/
  | given (ignoreCase : Bool)
  /-- A text passes a wildcard text. -/
  | wildcards
  /-- A field is absent or an empty collection. -/
  | emptyCollection
  /-- A map has an entry under a key. -/
  | mapEntry
  /-- Nothing: the operator is a connective or computes a value. -/
  | nothing

end Compile

open Compile in
/-- What an operator tests. -/
def Operator.family : Operator → Family
  | eq => .equality
  | ne => .comparison .ne
  | lt => .comparison .lt
  | gt => .comparison .gt
  | le => .comparison .le
  | ge => .comparison .ge
  | between => .range
  | isIn => .membership true
  | notIn => .membership false
  | isNull => .presence false
  | isNotNull => .presence true
  | isEmptyText => .emptyText
  | startsWith => .search .atStart false
  | startsWithIgnoreCase => .search .atStart true
  | endsWith => .search .atEnd false
  | endsWithIgnoreCase => .search .atEnd true
  | equalsIgnoreCase => .search .whole true
  | containsText => .search .anywhere false
  | containsTextIgnoreCase => .search .anywhere true
  | matchesPattern => .given false
  | matchesPatternIgnoreCase => .given true
  | like => .wildcards
  | isEmptyCollection => .emptyCollection
  | containsKey => .mapEntry
  | and | or | not | textLength | lower | upper | concat | collectionSize | arraySize => .nothing

/-! ### The members of the families -/

namespace Operator

open Compile

variable {op : Operator}

lemma family_eq_equality_iff : op.family = .equality ↔ op = eq := by
  cases op <;> simp [family]

lemma family_eq_range_iff : op.family = .range ↔ op = between := by
  cases op <;> simp [family]

lemma family_eq_membership_iff {inside : Bool} :
    op.family = .membership inside ↔ op = if inside then isIn else notIn := by
  cases op <;> cases inside <;> simp [family]

lemma family_eq_presence_iff {present : Bool} :
    op.family = .presence present ↔ op = if present then isNotNull else isNull := by
  cases op <;> cases present <;> simp [family]

lemma family_eq_emptyText_iff : op.family = .emptyText ↔ op = isEmptyText := by
  cases op <;> simp [family]

lemma family_eq_given_iff {ignoreCase : Bool} :
    op.family = .given ignoreCase ↔
      op = if ignoreCase then matchesPatternIgnoreCase else matchesPattern := by
  cases op <;> cases ignoreCase <;> simp [family]

lemma family_eq_wildcards_iff : op.family = .wildcards ↔ op = like := by
  cases op <;> simp [family]

lemma family_eq_emptyCollection_iff : op.family = .emptyCollection ↔ op = isEmptyCollection := by
  cases op <;> simp [family]

lemma family_eq_mapEntry_iff : op.family = .mapEntry ↔ op = containsKey := by
  cases op <;> simp [family]

end Operator

namespace Compile

/-- The filter of an operation whose operator belongs to a given family. -/
def testOf (op : Operator) (args : List Expr) : Family → List Expr → Compiled Document
  | .equality, [left, right] => equality op args left right
  | .comparison c, [left, right] => comparison op args c left right
  | .range, [left, lower, upper] => range op args left lower upper
  | .membership inside, [left, right] => do
    let m ← membership op args left right
    pure (if inside then Filter.isIn m.1 m.2 else Filter.notIn m.1 m.2)
  | .presence present, [e] => presence op args present e
  | .emptyText, [e] => emptyText op args e
  | .search place ignoreCase, [left, right] => textSearch op args place ignoreCase left right
  | .given ignoreCase, [left, right] => givenPattern op args ignoreCase left right
  | .wildcards, [left, right] => wildcards op args left right
  | .emptyCollection, [e] => emptyCollection op args e
  | .mapEntry, [left, right] => mapEntry op args left right
  | _, _ => illegal op args

/-- A test depends on its operator through the family alone, the wording of refusals apart. -/
lemma test_eq_testOf (op : Operator) (args : List Expr) :
    test op args = testOf op args op.family args := by
  rcases args with _ | ⟨a, _ | ⟨b, _ | ⟨c, _ | ⟨d, rest⟩⟩⟩⟩ <;> cases op <;> rfl

/-! ## The rules -/

/-- `Tests op args f`: the operation is a test that the store can make, and `f` is its filter. -/
inductive Tests (op : Operator) : List Expr → Document → Prop
  | equals {p : Path} {x : Expr} {j : Json}
      (hop : op.family = .equality) (hx : x.operand? = some j) :
      Tests op [.path p, x] (Filter.equals p.fieldName j)
  /-- A size is that of the first argument, whatever else the operation has. -/
  | hasSize {size : Operator} {p : Path} {rest : List Expr} {n : Int}
      (hop : op.family = .equality) (hsize : size.isSize = true) :
      Tests op [.operation size (.path p :: rest), .constant (.int n)]
        (Filter.hasSize p.fieldName n)
  | compares {c : Filter.Comparison} {p : Path} {x : Expr} {j : Json}
      (hop : op.family = .comparison c) (hx : x.operand? = some j) :
      Tests op [.path p, x] (Filter.compare c p.fieldName j)
  | within {p : Path} {x y : Expr} {least greatest : Json}
      (hop : op.family = .range) (hx : x.operand? = some least)
      (hy : y.operand? = some greatest) :
      Tests op [.path p, x, y]
        (Filter.both (Filter.compare .ge p.fieldName least)
          (Filter.compare .le p.fieldName greatest))
  | inside {left right : Expr} {p : Path} {js : List Json}
      (hop : op.family = .membership true) (hm : left.membership? right = some (p, js)) :
      Tests op [left, right] (Filter.isIn p.fieldName js)
  | outside {left right : Expr} {p : Path} {js : List Json}
      (hop : op.family = .membership false) (hm : left.membership? right = some (p, js)) :
      Tests op [left, right] (Filter.notIn p.fieldName js)
  | present {b : Bool} {p : Path} (hop : op.family = .presence b) :
      Tests op [.path p] (Filter.present p.fieldName b)
  | emptyText {p : Path} (hop : op.family = .emptyText) :
      Tests op [.path p] (Filter.equals p.fieldName (.str ""))
  | finds {place : Pattern.Place} {ignoreCase : Bool} {p : Path} {x : Expr} {t : String}
      (hop : op.family = .search place ignoreCase) (hx : x.literal? = some t) :
      Tests op [.path p, x]
        (Filter.matchesText p.fieldName (Pattern.seeking place t).text ignoreCase)
  | passes {ignoreCase : Bool} {p : Path} {x : Expr} {t : String}
      (hop : op.family = .given ignoreCase) (hx : x.literal? = some t) :
      Tests op [.path p, x] (Filter.matchesText p.fieldName t ignoreCase)
  | like {p : Path} {x : Expr} {t : String}
      (hop : op.family = .wildcards) (hx : x.literal? = some t) :
      Tests op [.path p, x]
        (Filter.matchesText p.fieldName (Pattern.ofWildcards t).text false)
  | emptyCollection {p : Path} (hop : op.family = .emptyCollection) :
      Tests op [.path p]
        (Filter.either (Filter.present p.fieldName false) (Filter.hasSize p.fieldName 0))
  | hasEntry {p : Path} {x : Expr} {key : String}
      (hop : op.family = .mapEntry) (hx : x.literal? = some key) :
      Tests op [.path p, x] (Filter.present (p.fieldName ++ "." ++ key) true)

/-! ## The tests follow the rules -/

section Sound

variable {op : Operator} {args : List Expr} {f : Document}

lemma tests_of_result_equality {left right : Expr} (hop : op.family = .equality)
    (h : (equality op args left right).result = .ok f) : Tests op [left, right] f := by
  unfold equality at h
  split at h
  · -- a field
    obtain ⟨j, hj, hf⟩ := Outcome.result_bind_eq_ok_iff.mp h
    cases hf
    exact Tests.equals hop (result_operand_eq_ok_iff.mp hj)
  · -- the size of a collection
    split at h
    · rename_i size sizeArgs hsize
      split at h
      · rename_i n collection rest
        obtain ⟨name, hname, hf⟩ := Outcome.result_bind_eq_ok_iff.mp h
        obtain ⟨p, rfl, rfl⟩ := result_field_eq_ok_iff.mp hname
        cases hf
        exact Tests.hasSize hop hsize
      · simp at h
      · simp at h
    · simp at h
  · simp at h

/-- What the compiler finds for an operation that is not a connective, the rules give. -/
lemma tests_of_result_test (h : (test op args).result = .ok f) : Tests op args f := by
  rw [test_eq_testOf] at h
  unfold testOf at h
  split at h
  -- what the arguments were read as, in the order in which they are read
  any_goals
    simp only [comparison, range, presence, emptyText, textSearch, givenPattern, wildcards,
      emptyCollection, mapEntry, Outcome.result_bind_eq_ok_iff, result_field_eq_ok_iff,
      result_operand_eq_ok_iff, result_literal_eq_ok_iff, result_membership_eq_ok_iff,
      Outcome.result_pure, Except.ok.injEq] at h
  · rename_i hop
    exact tests_of_result_equality hop h
  · rename_i c left right hop
    obtain ⟨_, ⟨p, rfl, rfl⟩, j, hj, rfl⟩ := h
    exact Tests.compares hop hj
  · rename_i left lower upper hop
    obtain ⟨_, ⟨p, rfl, rfl⟩, j, hj, k, hk, rfl⟩ := h
    exact Tests.within hop hj hk
  · rename_i inside left right hop
    obtain ⟨⟨_, js⟩, ⟨p, hm, rfl⟩, rfl⟩ := h
    cases inside with
    | true => exact Tests.inside hop hm
    | false => exact Tests.outside hop hm
  · rename_i present e hop
    obtain ⟨_, ⟨p, rfl, rfl⟩, rfl⟩ := h
    exact Tests.present hop
  · rename_i e hop
    obtain ⟨_, ⟨p, rfl, rfl⟩, rfl⟩ := h
    exact Tests.emptyText hop
  · rename_i place ignoreCase left right hop
    obtain ⟨t, ht, _, ⟨p, rfl, rfl⟩, rfl⟩ := h
    exact Tests.finds hop ht
  · rename_i ignoreCase left right hop
    obtain ⟨_, ⟨p, rfl, rfl⟩, t, ht, rfl⟩ := h
    exact Tests.passes hop ht
  · rename_i left right hop
    obtain ⟨t, ht, _, ⟨p, rfl, rfl⟩, rfl⟩ := h
    exact Tests.like hop ht
  · rename_i e hop
    obtain ⟨_, ⟨p, rfl, rfl⟩, rfl⟩ := h
    exact Tests.emptyCollection hop
  · rename_i left right hop
    obtain ⟨_, ⟨p, rfl, rfl⟩, t, ht, rfl⟩ := h
    exact Tests.hasEntry hop ht
  · simp at h

end Sound

/-- What the rules give for an operation that is not a connective, the compiler finds. -/
lemma Tests.result_test {op : Operator} {args : List Expr} {f : Document} (h : Tests op args f) :
    (test op args).result = .ok f := by
  rw [test_eq_testOf]
  cases h with
  | equals hop hx =>
    simp [testOf, hop, equality, Outcome.result_bind_eq_ok_iff, result_operand_eq_ok_iff, hx]
  | hasSize hop hsize =>
    simp [testOf, hop, equality, hsize, Outcome.result_bind_eq_ok_iff, result_field_eq_ok_iff]
  | compares hop hx =>
    simp [testOf, hop, comparison, Outcome.result_bind_eq_ok_iff, result_field_eq_ok_iff,
      result_operand_eq_ok_iff, hx]
  | within hop hx hy =>
    simp [testOf, hop, range, Outcome.result_bind_eq_ok_iff, result_field_eq_ok_iff,
      result_operand_eq_ok_iff, hx, hy]
  | @inside left right p js hop hm =>
    have hread : (membership op [left, right] left right).result = .ok (p.fieldName, js) :=
      result_membership_eq_ok_iff.mpr ⟨p, hm, rfl⟩
    simp [testOf, hop, Outcome.bind_of_ok hread]
  | @outside left right p js hop hm =>
    have hread : (membership op [left, right] left right).result = .ok (p.fieldName, js) :=
      result_membership_eq_ok_iff.mpr ⟨p, hm, rfl⟩
    simp [testOf, hop, Outcome.bind_of_ok hread]
  | present hop =>
    simp [testOf, hop, presence, Outcome.result_bind_eq_ok_iff, result_field_eq_ok_iff]
  | emptyText hop =>
    simp [testOf, hop, Compile.emptyText, Outcome.result_bind_eq_ok_iff, result_field_eq_ok_iff]
  | finds hop hx =>
    simp [testOf, hop, textSearch, Outcome.result_bind_eq_ok_iff, result_field_eq_ok_iff,
      result_literal_eq_ok_iff, hx]
  | passes hop hx =>
    simp [testOf, hop, givenPattern, Outcome.result_bind_eq_ok_iff, result_field_eq_ok_iff,
      result_literal_eq_ok_iff, hx]
  | like hop hx =>
    simp [testOf, hop, wildcards, Outcome.result_bind_eq_ok_iff, result_field_eq_ok_iff,
      result_literal_eq_ok_iff, hx]
  | emptyCollection hop =>
    simp [testOf, hop, Compile.emptyCollection, Outcome.result_bind_eq_ok_iff,
      result_field_eq_ok_iff]
  | hasEntry hop hx =>
    simp [testOf, hop, mapEntry, Outcome.result_bind_eq_ok_iff, result_field_eq_ok_iff,
      result_literal_eq_ok_iff, hx]

lemma Tests.family_ne_nothing {op : Operator} {args : List Expr} {f : Document}
    (h : Tests op args f) : op.family ≠ .nothing := by
  cases h <;> simp [*]

theorem result_test_eq_ok_iff {op : Operator} {args : List Expr} {f : Document} :
    (test op args).result = .ok f ↔ Tests op args f :=
  ⟨tests_of_result_test, Tests.result_test⟩

end Compile

/-! ## Predicates -/

namespace Expr

open Compile

/-- `e.HasFilter f`: the predicate `e` can be compiled, and `f` is its filter. -/
inductive HasFilter : Expr → Document → Prop
  | and {left right : Expr} {f g : Document} : HasFilter left f → HasFilter right g →
      HasFilter (.operation .and [left, right]) (Filter.both f g)
  | or {left right : Expr} {f g : Document} : HasFilter left f → HasFilter right g →
      HasFilter (.operation .or [left, right]) (Filter.either f g)
  /-- A negated membership test is a test of its own. -/
  | notMember {args : List Expr} {f : Document} : Tests .notIn args f →
      HasFilter (.operation .not [.operation .isIn args]) f
  | not {e : Expr} {f : Document} (he : ∀ args, e ≠ .operation .isIn args) : HasFilter e f →
      HasFilter (.operation .not [e]) (Filter.complement f)
  | test {op : Operator} {args : List Expr} {f : Document} : Tests op args f →
      HasFilter (.operation op args) f

lemma hasFilter_of_result_compile {e : Expr} {f : Document} (h : e.compile.result = .ok f) :
    e.HasFilter f := by
  fun_induction compile e generalizing f with
  | case1 left right ihl ihr =>
    obtain ⟨l, hl, h⟩ := Outcome.result_bind_eq_ok_iff.mp h
    obtain ⟨r, hr, h⟩ := Outcome.result_bind_eq_ok_iff.mp h
    cases h
    exact HasFilter.and (ihl hl) (ihr hr)
  | case2 left right ihl ihr =>
    obtain ⟨l, hl, h⟩ := Outcome.result_bind_eq_ok_iff.mp h
    obtain ⟨r, hr, h⟩ := Outcome.result_bind_eq_ok_iff.mp h
    cases h
    exact HasFilter.or (ihl hl) (ihr hr)
  | case3 args => exact HasFilter.notMember (result_test_eq_ok_iff.mp h)
  | case4 e he ih =>
    obtain ⟨g, hg, h⟩ := Outcome.result_bind_eq_ok_iff.mp h
    cases h
    exact HasFilter.not he (ih hg)
  | case5 op args => exact HasFilter.test (result_test_eq_ok_iff.mp h)
  | case6 v => simp [notPredicate, refuse] at h
  | case7 p => simp [notPredicate, refuse] at h
  | case8 e => simp [refuse] at h

/-- All negations but that of a membership operation are compiled by the complement. -/
lemma compile_not {e : Expr} (he : ∀ args, e ≠ operation .isIn args) :
    (operation .not [e]).compile = e.compile >>= fun f => pure (Filter.complement f) := by
  rw [compile]
  exact he

/-- An operation that tests something is compiled as a test. -/
lemma compile_of_family_ne {op : Operator} (hop : op.family ≠ .nothing) (args : List Expr) :
    (operation op args).compile = test op args := by
  rw [compile]
  · rintro _ _ rfl -
    exact hop rfl
  · rintro _ _ rfl -
    exact hop rfl
  · rintro _ rfl -
    exact hop rfl
  · rintro _ rfl -
    exact hop rfl

lemma HasFilter.result_compile {e : Expr} {f : Document} (h : e.HasFilter f) :
    e.compile.result = .ok f := by
  induction h with
  | and _ _ ihl ihr => rw [compile, Outcome.bind_of_ok ihl, Outcome.bind_of_ok ihr]; rfl
  | or _ _ ihl ihr => rw [compile, Outcome.bind_of_ok ihl, Outcome.bind_of_ok ihr]; rfl
  | notMember ht => rw [compile]; exact ht.result_test
  | not he _ ih =>
    rw [compile_not he, Outcome.bind_of_ok ih]
    rfl
  | test ht =>
    rw [compile_of_family_ne ht.family_ne_nothing]
    exact ht.result_test

/-- **The rules describe the compiler.**  A predicate compiles to a filter exactly when the rules
give that filter. -/
theorem result_compile_eq_ok_iff {e : Expr} {f : Document} :
    e.compile.result = .ok f ↔ e.HasFilter f :=
  ⟨hasFilter_of_result_compile, HasFilter.result_compile⟩

/-! ## Fields

The names that begin with `$` belong to the filter language.  A path of such a name can be built
and compiled, but what comes out is no test of a field. -/

mutual

/-- The paths in an expression, at any depth. -/
def paths : Expr → List Path
  | constant _ => []
  | path p => [p]
  | operation _ args => pathsOfArgs args
  | subquery _ => []
  | param _ => []
  | template _ args => pathsOfArgs args
  | tuple items => pathsOfArgs items

/-- The paths in a list of arguments, at any depth. -/
def pathsOfArgs : List Expr → List Path
  | [] => []
  | arg :: args => arg.paths ++ pathsOfArgs args

end

/-- Every path in the expression names a field, and nothing in the filter language. -/
def NamesFields (e : Expr) : Prop :=
  ∀ p ∈ e.paths, Filter.isOperatorName p.fieldName = false

lemma namesFields_path_iff {p : Path} :
    (path p).NamesFields ↔ Filter.isOperatorName p.fieldName = false := by
  simp [NamesFields, paths]

lemma forall_mem_pathsOfArgs_iff {args : List Expr} :
    (∀ p ∈ pathsOfArgs args, Filter.isOperatorName p.fieldName = false) ↔
      ∀ e ∈ args, e.NamesFields := by
  induction args with
  | nil => simp [pathsOfArgs]
  | cons arg args ih =>
    simp only [pathsOfArgs, List.mem_append, or_imp, forall_and, List.forall_mem_cons, ih]
    exact Iff.rfl

lemma namesFields_operation_iff {op : Operator} {args : List Expr} :
    (operation op args).NamesFields ↔ ∀ e ∈ args, e.NamesFields :=
  forall_mem_pathsOfArgs_iff

/-- A path that is an argument names a field. -/
lemma isOperatorName_of_path_mem {args : List Expr} (h : ∀ e ∈ args, e.NamesFields) {p : Path}
    (hp : path p ∈ args) : Filter.isOperatorName p.fieldName = false :=
  namesFields_path_iff.mp (h _ hp)

end Expr

/-- The field of a membership test is named by one of its arguments. -/
lemma Expr.isOperatorName_of_membership? {left right : Expr} {p : Path} {js : List Json}
    (h : ∀ e ∈ [left, right], e.NamesFields) (hm : left.membership? right = some (p, js)) :
    Filter.isOperatorName p.fieldName = false := by
  obtain ⟨values, -, ⟨rfl, -⟩ | ⟨-, rfl⟩⟩ := membership?_eq_some_iff.mp hm
  · exact isOperatorName_of_path_mem h (by simp)
  · exact isOperatorName_of_path_mem h (by simp)

end DocSelect
