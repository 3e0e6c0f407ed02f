/-
# Predicates that are built by methods

A predicate is seldom written out as an expression.  It is put together by calls of methods: a path
has a method for every test of its field, and predicates have methods that join them.  This file
lists the methods, with the arguments that they are given, and says what a nesting of such calls
builds (`Fluent.build`).

Whatever is built this way has the shape that the compiler wants, so only an argument can be at
fault: a number that is infinite or not a number, a key that stands for no text, or a field where
the test needs constants.  If no argument is, the predicate compiles, and otherwise it is refused
with one and the same kind of failure (`Fluent.compile_build`).  The proof goes through the calls
once and keeps track of both halves together (`Outcome.Decides`).
-/
import DocSelect.Expr.Build
import DocSelect.Proofs.Compile.Faults
import DocSelect.Proofs.Value.Form

namespace DocSelect

/-! ## Calls of methods -/

/-- The operators of the tests that compare a text with a given text. -/
def Operator.textTests : List Operator :=
  [startsWith, startsWithIgnoreCase, endsWith, endsWithIgnoreCase, equalsIgnoreCase, containsText,
    containsTextIgnoreCase, matchesPattern, matchesPatternIgnoreCase, like]

/-- A test of a field, as the call of a method of the path. -/
inductive FieldTest where
  | eq (v : Value)
  | ne (v : Value)
  | lt (v : Value)
  | gt (v : Value)
  | le (v : Value)
  | ge (v : Value)
  | between (lower upper : Value)
  | isIn (values : List Value)
  | notIn (values : List Value)
  | inPath (other : Path)
  | isNull
  | isNotNull
  | text (op : Operator) (hop : op ∈ Operator.textTests) (t : String)
  | isEmptyText
  | isEmpty
  | isNotEmpty
  | sizeEq (size : Int)
  | containsKey (key : Value)

namespace FieldTest

/-- The predicate that a test builds on a path. -/
def build (p : Path) : FieldTest → Expr
  | eq v => p.eq v
  | ne v => p.ne v
  | lt v => p.lt v
  | gt v => p.gt v
  | le v => p.le v
  | ge v => p.ge v
  | between lower upper => p.between lower upper
  | isIn values => p.isIn values
  | notIn values => p.notIn values
  | inPath other => p.inPath other
  | isNull => p.isNull
  | isNotNull => p.isNotNull
  | text op _ t => p.textTest op t
  | isEmptyText => p.isEmptyText
  | isEmpty => p.isEmpty
  | isNotEmpty => p.isNotEmpty
  | sizeEq size => p.sizeEq size
  | containsKey key => p.containsKey key

/-- Whether there is a filter for the arguments of a test.  No number in a constant that the field
is compared with is infinite or not a number, at any depth; a key is neither null nor a list; and
there is no filter at all for membership in another field. -/
def Lowers : FieldTest → Prop
  | eq v | ne v | lt v | gt v | le v | ge v => v.Finite
  | between lower upper => lower.Finite ∧ upper.Finite
  | isIn values | notIn values => ∀ v ∈ values, v.Finite
  | inPath _ => False
  | containsKey key => key ≠ .null ∧ ∀ items, key ≠ .list items
  | _ => True

end FieldTest

/-- A predicate as a nesting of calls: tests of fields, joined by the methods of predicates. -/
inductive Fluent where
  | test (p : Path) (t : FieldTest)
  | and (left right : Fluent)
  | or (left right : Fluent)
  | not (c : Fluent)
  /-- The conjunction of a list of predicates.  Of an empty list there is none. -/
  | allOf (first : Fluent) (others : List Fluent)

namespace Fluent

mutual

/-- The predicate that a nesting of calls builds. -/
def build : Fluent → Expr
  | test p t => t.build p
  | and left right => left.build.and right.build
  | or left right => left.build.or right.build
  | not c => c.build.not
  | allOf first others => (Expr.allOf (first.build :: buildAll others)).get rfl

/-- The predicates that a list of nestings of calls builds. -/
def buildAll : List Fluent → List Expr
  | [] => []
  | c :: cs => c.build :: buildAll cs

end

mutual

/-- The tests in a nesting of calls. -/
def tests : Fluent → List FieldTest
  | test _ t => [t]
  | and left right => left.tests ++ right.tests
  | or left right => left.tests ++ right.tests
  | not c => c.tests
  | allOf first others => first.tests ++ testsOfAll others

/-- The tests in a list of nestings of calls. -/
def testsOfAll : List Fluent → List FieldTest
  | [] => []
  | c :: cs => c.tests ++ testsOfAll cs

end

end Fluent

/-! ## Outcomes that are decided by a condition -/

namespace Outcome

variable {ω α β : Type} {P Q : Prop}

/-- What comes out is decided by a condition: a result if it holds, and if not, the failure for what
has no filter. -/
inductive Decides (P : Prop) (o : Outcome ω α) : Prop
  | ok {a : α} (hP : P) (ho : o.result = .ok a)
  | refused {detail : String} (hP : ¬ P) (ho : o.result = .error (.unsupportedOperator detail))

lemma Decides.congr {o : Outcome ω α} (h : Decides P o) (hPQ : P ↔ Q) : Decides Q o := by
  cases h with
  | ok hP ho => exact .ok (hPQ.mp hP) ho
  | refused hP ho => exact .refused (fun hQ => hP (hPQ.mpr hQ)) ho

/-- A chain is decided by the conditions of both of its links. -/
lemma Decides.bind {o : Outcome ω α} {f : α → Outcome ω β} (h : Decides P o)
    (hf : ∀ a, Decides Q (f a)) : Decides (P ∧ Q) (o >>= f) := by
  cases h with
  | @ok a hP ho =>
    rw [bind_of_ok ho]
    cases hf a with
    | ok hQ hfa => exact .ok ⟨hP, hQ⟩ hfa
    | refused hQ hfa => exact .refused (fun hPQ => hQ hPQ.2) hfa
  | refused hP ho =>
    rw [bind_of_error ho]
    exact .refused (fun hPQ => hP hPQ.1) rfl

lemma Decides.map {o : Outcome ω α} (h : Decides P o) (g : α → β) :
    Decides P (o >>= fun a => pure (g a)) := by
  have hpure : ∀ a, Decides True (pure (g a) : Outcome ω β) := fun a => .ok trivial rfl
  exact (h.bind hpure).congr (and_iff_left trivial)

end Outcome

namespace Compile

open Outcome (Decides)

variable {op : Operator} {args : List Expr}

/-- A constant has a form exactly if all numbers in it are finite. -/
lemma decides_json (v : Value) : Decides v.Finite (json op args v) := by
  have hform := Value.isSome_json?_iff v
  rw [json]
  cases hv : v.json? with
  | some j =>
    rw [hv] at hform
    exact .ok (hform.mp rfl) rfl
  | none =>
    rw [hv] at hform
    exact .refused (fun hfinite => absurd (hform.mpr hfinite) (by simp)) rfl

/-- So have constants one after the other. -/
lemma decides_elements (values : List Value) :
    Decides (∀ v ∈ values, v.Finite) (elements op args values) := by
  induction values with
  | nil => exact .ok (List.forall_mem_nil _) rfl
  | cons v values ih =>
    have hboth : Decides (v.Finite ∧ ∀ w ∈ values, w.Finite) (elements op args (v :: values)) :=
      (decides_json v).bind fun j => ih.map fun js => j :: js
    exact hboth.congr List.forall_mem_cons.symm

/-- A membership test of a path against constants. -/
lemma decides_membership (p : Path) (values : List Value) :
    Decides (∀ v ∈ values, v.Finite) (membership op args (.path p) (.constant (.list values))) :=
  (decides_elements values).map fun js => (p.fieldName, js)

/-- A constant stands for a text if it is neither null nor a list. -/
lemma decides_mapEntry (p : Path) (key : Value) :
    Decides (key ≠ .null ∧ ∀ items, key ≠ .list items)
      (mapEntry op args (.path p) (.constant key)) := by
  cases key with
  | null => exact .refused (fun h => h.1 rfl) rfl
  | list items => exact .refused (fun h => h.2 items rfl) rfl
  | _ => exact .ok (by simp) rfl

/-- Every test of a field against a text can be made. -/
lemma decides_textTest (p : Path) (t : String) (hop : op ∈ Operator.textTests) :
    Decides True (p.textTest op t).compile := by
  simp only [Operator.textTests, List.mem_cons, List.not_mem_nil, or_false] at hop
  rcases hop with rfl | rfl | rfl | rfl | rfl | rfl | rfl | rfl | rfl | rfl
  all_goals exact .ok trivial rfl

end Compile

namespace FieldTest

open Outcome (Decides)
open Compile

/-- A test of a field can be made exactly if there is a filter for its arguments. -/
lemma decides_compile_build (p : Path) (t : FieldTest) : Decides t.Lowers (t.build p).compile := by
  cases t with
  | eq v => exact (decides_json v).map (Filter.equals p.fieldName)
  | ne v => exact (decides_json v).map (Filter.compare .ne p.fieldName)
  | lt v => exact (decides_json v).map (Filter.compare .lt p.fieldName)
  | gt v => exact (decides_json v).map (Filter.compare .gt p.fieldName)
  | le v => exact (decides_json v).map (Filter.compare .le p.fieldName)
  | ge v => exact (decides_json v).map (Filter.compare .ge p.fieldName)
  | between lower upper =>
    refine (decides_json lower).bind fun least => ?_
    exact (decides_json upper).map fun greatest => Filter.both
      (Filter.compare .ge p.fieldName least) (Filter.compare .le p.fieldName greatest)
  | isIn values => exact (decides_membership p values).map fun m => Filter.isIn m.1 m.2
  | notIn values => exact (decides_membership p values).map fun m => Filter.notIn m.1 m.2
  | inPath other => exact .refused not_false rfl
  | text op hop t => exact decides_textTest p t hop
  | containsKey key => exact decides_mapEntry p key
  | _ => exact .ok trivial rfl

end FieldTest

/-! ## Whole predicates -/

namespace Expr

open Outcome (Decides)
open Compile

variable {P Q : Prop} {e : Expr}

/-- A test of membership can be made on the same arguments as one of non-membership. -/
lemma exists_tests_isIn_iff {args : List Expr} :
    (∃ f, Tests .isIn args f) ↔ ∃ f, Tests .notIn args f := by
  constructor
  · rintro ⟨f, hf⟩
    cases hf with
    | inside hop hm => exact ⟨_, .outside rfl hm⟩
    | _ hop => exact absurd hop (by simp [Operator.family])
  · rintro ⟨f, hf⟩
    cases hf with
    | outside hop hm => exact ⟨_, .inside rfl hm⟩
    | _ hop => exact absurd hop (by simp [Operator.family])

/-- A negation is decided by the condition of what it negates. -/
lemma decides_compile_not (h : Decides P e.compile) : Decides P e.not.compile := by
  by_cases he : ∃ args, e = operation .isIn args
  · -- a negated membership test is compiled as a test of its own
    obtain ⟨args, rfl⟩ := he
    cases h with
    | ok hP ho =>
      obtain ⟨g, hg⟩ := exists_tests_isIn_iff.mp ⟨_, tests_of_result_test ho⟩
      exact .ok hP hg.result_test
    | refused hP ho =>
      rcases silentOr_test_notIn args with ⟨hok⟩ | ⟨herror, rfl⟩
      · have hnotIn := tests_of_result_test (congrArg Outcome.result hok)
        obtain ⟨g, hg⟩ := exists_tests_isIn_iff.mpr ⟨_, hnotIn⟩
        exact absurd (hg.result_test.symm.trans ho) (by simp)
      · exact .refused hP herror
  · have hcompile := compile_not fun args heq => he ⟨args, heq⟩
    rw [Expr.not, hcompile]
    exact h.map Filter.complement

end Expr

namespace Fluent

open Outcome (Decides)

mutual

/-- A predicate that calls of methods build can be compiled exactly if there is a filter for the
arguments of all tests in it. -/
theorem decides_compile_build (c : Fluent) :
    Decides (∀ t ∈ c.tests, t.Lowers) c.build.compile := by
  match c with
  | test p t =>
    exact (t.decides_compile_build p).congr (List.forall_mem_singleton).symm
  | and left right =>
    have hboth := (decides_compile_build left).bind fun l =>
      (decides_compile_build right).map (Filter.both l)
    exact hboth.congr List.forall_mem_append.symm
  | or left right =>
    have hboth := (decides_compile_build left).bind fun l =>
      (decides_compile_build right).map (Filter.either l)
    exact hboth.congr List.forall_mem_append.symm
  | not c => exact Expr.decides_compile_not (decides_compile_build c)
  | allOf first others =>
    have hall := decides_compile_foldl others (decides_compile_build first)
    exact hall.congr List.forall_mem_append.symm

/-- A conjunction is made longer by predicates that calls of methods build. -/
theorem decides_compile_foldl (cs : List Fluent) {P : Prop} {e : Expr}
    (h : Decides P e.compile) :
    Decides (P ∧ ∀ t ∈ testsOfAll cs, t.Lowers) ((buildAll cs).foldl Expr.and e).compile := by
  match cs with
  | [] => exact h.congr (and_iff_left (List.forall_mem_nil _)).symm
  | c :: cs =>
    have hlonger : Decides (P ∧ ∀ t ∈ c.tests, t.Lowers) (e.and c.build).compile :=
      h.bind fun l => (decides_compile_build c).map (Filter.both l)
    refine (decides_compile_foldl cs hlonger).congr ?_
    rw [testsOfAll, List.forall_mem_append, and_assoc]

end

/-- **What methods build can be compiled.**  A predicate that is built by calls of methods compiles
if and only if there is a filter for the arguments of every test in it.  If it does not compile,
then because something in it has no filter, and never for another reason. -/
theorem compile_build (c : Fluent) :
    ((∃ f, c.build.compile.result = .ok f) ↔ ∀ t ∈ c.tests, t.Lowers) ∧
      ∀ err, c.build.compile.result = .error err →
        ∃ detail, err = .unsupportedOperator detail := by
  cases decides_compile_build c with
  | ok hlowers ho =>
    rw [ho]
    exact ⟨⟨fun _ => hlowers, fun _ => ⟨_, rfl⟩⟩, fun err herr => by cases herr⟩
  | @refused detail hlowers ho =>
    rw [ho]
    refine ⟨⟨?_, fun h => absurd h hlowers⟩, ?_⟩
    · rintro ⟨f, hf⟩
      cases hf
    · rintro err herr
      cases herr
      exact ⟨detail, rfl⟩

/-- A test of membership in another field, negated within a disjunction. -/
theorem compile_build_inPath :
    let user := Path.root "user"
    let inside := Fluent.test (user.property "b") (.inPath (user.property "c"))
    let c := Fluent.allOf (.test (user.property "a") .isNull) [.or (.not inside) inside]
    c.build.compile.result =
        .error (.unsupportedOperator "Illegal operation NOT_IN(user.b, user.c)") ∧
      (¬ ∀ t ∈ c.tests, t.Lowers) ∧
      ∃ detail, Error.unsupportedOperator "Illegal operation NOT_IN(user.b, user.c)" =
        .unsupportedOperator detail := by
  intro user inside c
  have herror : c.build.compile.result =
      .error (.unsupportedOperator "Illegal operation NOT_IN(user.b, user.c)") := rfl
  have hlowers : ¬ ∀ t ∈ c.tests, t.Lowers := by
    intro h
    obtain ⟨f, hf⟩ := (compile_build c).1.mpr h
    rw [herror] at hf
    cases hf
  exact ⟨herror, hlowers, (compile_build c).2 _ herror⟩

end Fluent

end DocSelect
