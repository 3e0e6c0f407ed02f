/-
# The first fault decides

The compiler goes through a predicate from the top and from left to right, and it stops at the first
node that it has to refuse.  The nodes that it comes by are the skeleton of the predicate: the
connectives, and the tests below them.  What it returns and what it records is what this one node
would have brought about alone.  The failure says what is wrong there: it names the kind of a node
that has no filter, or shows an operation or an expression that is no predicate.

Nothing is recorded on the way to a fault.  A part of a predicate that can be compiled is compiled
in silence.
-/
import Mathlib.Data.List.Basic
import Mathlib.Tactic.Lemma
import DocSelect.Proofs.Compile.Rules

namespace DocSelect

/-! ## Silent outcomes -/

namespace Outcome

variable {ω α β : Type} {E E' : Error → Prop}

/-- An outcome is either a result that leaves no record, or a failure of one of the given kinds. -/
inductive SilentOr (E : Error → Prop) (o : Outcome ω α) : Prop
  | ok {a : α} (ho : o = Pure.pure a)
  | error {e : Error} (ho : o.result = .error e) (he : E e)

lemma SilentOr.pure (a : α) : SilentOr E (Pure.pure a : Outcome ω α) :=
  SilentOr.ok rfl

/-- What follows a silent result leaves the records that it leaves alone. -/
@[simp] lemma pure_bind (a : α) (f : α → Outcome ω β) : (Pure.pure a >>= f) = f a := by
  rw [bind_of_ok (result_pure a), records_pure, List.nil_append]

lemma SilentOr.bind {o : Outcome ω α} {f : α → Outcome ω β} (h : SilentOr E o)
    (hf : ∀ a, SilentOr E (f a)) : SilentOr E (o >>= f) := by
  cases h with
  | ok ho =>
    rw [ho, pure_bind]
    exact hf _
  | error ho he =>
    rw [bind_of_error ho]
    exact SilentOr.error rfl he

lemma SilentOr.mono {o : Outcome ω α} (h : SilentOr E o) (hE : ∀ e, E e → E' e) :
    SilentOr E' o := by
  cases h with
  | ok ho => exact SilentOr.ok ho
  | error ho he => exact SilentOr.error ho (hE _ he)

/-- A failure is not changed by what would have followed it. -/
lemma bind_eq_self_of_error {o : Outcome ω α} {e : Error} (h : o.result = .error e)
    (f : α → Outcome ω α) : o >>= f = o := by
  rw [bind_of_error h, ← h]

/-- Whether an outcome is a failure. -/
def isFailure (o : Outcome ω α) : Bool :=
  match o.result with
  | .ok _ => false
  | .error _ => true

lemma isFailure_of_error {o : Outcome ω α} {e : Error} (h : o.result = .error e) :
    o.isFailure = true := by
  rw [isFailure, h]

lemma SilentOr.exists_error {o : Outcome ω α} (h : SilentOr E o) (hfail : o.isFailure = true) :
    ∃ e, o.result = .error e ∧ E e := by
  cases h with
  | ok ho =>
    rw [ho] at hfail
    exact absurd hfail (by simp [isFailure])
  | error ho he => exact ⟨_, ho, he⟩

lemma SilentOr.exists_pure {o : Outcome ω α} (h : SilentOr E o) (hfail : o.isFailure = false) :
    ∃ a, o = Pure.pure a := by
  cases h with
  | ok ho => exact ⟨_, ho⟩
  | error ho _ =>
    rw [isFailure_of_error ho] at hfail
    exact absurd hfail (by simp)

end Outcome

/-! ## Failures of single nodes -/

namespace Expr

/-- The nodes from which no filter can be made, whatever is in them. -/
inductive IsForeign : Expr → Prop
  | subquery (description : String) : IsForeign (subquery description)
  | param (name : String) : IsForeign (param name)
  | template (source : String) (args : List Expr) : IsForeign (template source args)
  | tuple (items : List Expr) : IsForeign (tuple items)

/-- The failure that shows an operation. -/
def accusation (op : Operator) (args : List Expr) : Error :=
  .unsupportedOperator ("Illegal operation " ++ (operation op args).shown)

/-- `n.Refusal err`: the node `n` can be refused with the failure `err`. -/
inductive Refusal : Expr → Error → Prop
  | foreign {n : Expr} (h : n.IsForeign) : Refusal n (.unsupportedNode n.kind)
  | foreignArgument {op : Operator} {args : List Expr} {x : Expr} (hx : x ∈ args)
      (h : x.IsForeign) : Refusal (operation op args) (.unsupportedNode x.kind)
  | constant (v : Value) :
      Refusal (constant v) (.unsupportedOperator ((constant v).shown ++ " is not a predicate"))
  | path (p : Path) :
      Refusal (path p) (.unsupportedOperator ((path p).shown ++ " is not a predicate"))
  | operation (op : Operator) (args : List Expr) :
      Refusal (operation op args) (accusation op args)
  /-- The size on the left of an equality is shown alone. -/
  | size {size : Operator} (hsize : size.isSize = true) (args : List Expr) (right : Expr) :
      Refusal (operation .eq [operation size args, right]) (accusation size args)
  /-- A negated membership test is shown as what it is compiled as. -/
  | notMember (args : List Expr) :
      Refusal (operation .not [operation .isIn args]) (accusation .notIn args)

end Expr

namespace Compile

open Outcome (SilentOr)
open DocSelect.Expr (Refusal accusation)

section Arguments

variable {α : Type} {op : Operator} {args : List Expr}

lemma silentOr_illegal {E : Error → Prop} (h : E (accusation op args)) :
    SilentOr E (illegal op args : Compiled α) :=
  SilentOr.error rfl h

lemma silentOr_field (e : Expr) : SilentOr (· = accusation op args) (field op args e) := by
  cases e with
  | path p => exact SilentOr.pure _
  | _ => exact silentOr_illegal rfl

lemma silentOr_json (v : Value) : SilentOr (· = accusation op args) (json op args v) := by
  rw [json]
  cases v.json? with
  | some j => exact SilentOr.pure j
  | none => exact SilentOr.error rfl rfl

lemma silentOr_elements (values : List Value) :
    SilentOr (· = accusation op args) (elements op args values) := by
  induction values with
  | nil => exact SilentOr.pure []
  | cons v values ih =>
    refine (silentOr_json v).bind fun j => ?_
    exact ih.bind fun js => SilentOr.pure _

lemma silentOr_membership (left right : Expr) :
    SilentOr (· = accusation op args) (membership op args left right) := by
  unfold membership
  split
  · exact (silentOr_field _).bind fun _ => (silentOr_elements _).bind fun _ => SilentOr.pure _
  · exact silentOr_illegal rfl
  · exact (silentOr_field _).bind fun _ => (silentOr_elements _).bind fun _ => SilentOr.pure _
  · exact silentOr_illegal rfl

/-- The failure that shows an operation is one with which the operation can be refused. -/
lemma refusal_of_eq {e : Error} (h : e = accusation op args) : Refusal (.operation op args) e :=
  h ▸ Refusal.operation op args

lemma silentOr_operand {e : Expr} (he : e ∈ args) :
    SilentOr (Refusal (.operation op args)) (operand op args e) := by
  cases e with
  | constant v => exact (silentOr_json v).mono fun _ => refusal_of_eq
  | path p => exact SilentOr.pure _
  | operation _ _ => exact silentOr_illegal (Refusal.operation op args)
  | _ => exact SilentOr.error rfl (Refusal.foreignArgument he (by constructor))

lemma silentOr_literal {e : Expr} (he : e ∈ args) :
    SilentOr (Refusal (.operation op args)) (literal op args e) := by
  cases e with
  | constant v =>
    rw [literal]
    cases v.literal? with
    | some t => exact SilentOr.pure t
    | none => exact SilentOr.error rfl (Refusal.operation op args)
  | path p => exact silentOr_illegal (Refusal.operation op args)
  | operation _ _ => exact silentOr_illegal (Refusal.operation op args)
  | _ => exact SilentOr.error rfl (Refusal.foreignArgument he (by constructor))

end Arguments

/-! ### Tests -/

section Tests

variable {op : Operator} {args : List Expr} {left right : Expr}

/-- The field of a test that has the given arguments. -/
lemma silentOr_testedField (e : Expr) :
    SilentOr (Refusal (.operation op args)) (field op args e) :=
  (silentOr_field e).mono fun _ => refusal_of_eq

lemma silentOr_equality (left right : Expr) :
    SilentOr (Refusal (.operation .eq [left, right]))
      (equality .eq [left, right] left right) := by
  unfold equality
  split
  · exact (silentOr_operand (by simp)).bind fun _ => SilentOr.pure _
  · split
    · rename_i size sizeArgs hsize
      split
      · refine SilentOr.bind ?_ fun _ => SilentOr.pure _
        exact (silentOr_field _).mono fun _ h => h ▸ Refusal.size hsize _ _
      · exact silentOr_illegal (Refusal.size hsize _ _)
      · exact silentOr_illegal (Refusal.operation _ _)
    · exact silentOr_illegal (Refusal.operation _ _)
  · exact silentOr_illegal (Refusal.operation _ _)

/-- A test is made in silence, or it is refused for what it is or for one of its arguments. -/
lemma silentOr_test (op : Operator) (args : List Expr) :
    SilentOr (Refusal (.operation op args)) (test op args) := by
  rw [test_eq_testOf]
  unfold testOf
  -- family by family, the arguments in the order in which they are read
  split
  · rename_i left right hop
    cases Operator.family_eq_equality_iff.mp hop
    exact silentOr_equality left right
  · refine (silentOr_testedField _).bind fun _ => ?_
    exact (silentOr_operand (by simp)).bind fun _ => SilentOr.pure _
  · refine (silentOr_testedField _).bind fun _ => ?_
    refine (silentOr_operand (by simp)).bind fun _ => ?_
    exact (silentOr_operand (by simp)).bind fun _ => SilentOr.pure _
  · refine SilentOr.bind ?_ fun _ => SilentOr.pure _
    exact (silentOr_membership _ _).mono fun _ => refusal_of_eq
  · exact (silentOr_testedField _).bind fun _ => SilentOr.pure _
  · exact (silentOr_testedField _).bind fun _ => SilentOr.pure _
  · refine (silentOr_literal (by simp)).bind fun _ => ?_
    exact (silentOr_testedField _).bind fun _ => SilentOr.pure _
  · refine (silentOr_testedField _).bind fun _ => ?_
    exact (silentOr_literal (by simp)).bind fun _ => SilentOr.pure _
  · refine (silentOr_literal (by simp)).bind fun _ => ?_
    exact (silentOr_testedField _).bind fun _ => SilentOr.pure _
  · exact (silentOr_testedField _).bind fun _ => SilentOr.pure _
  · refine (silentOr_testedField _).bind fun _ => ?_
    exact (silentOr_literal (by simp)).bind fun _ => SilentOr.pure _
  · exact silentOr_illegal (Refusal.operation _ _)

/-- A test of non-membership is refused only for what it is. -/
lemma silentOr_test_notIn (args : List Expr) :
    SilentOr (· = accusation .notIn args) (test .notIn args) := by
  rcases args with _ | ⟨left, _ | ⟨right, _ | ⟨third, rest⟩⟩⟩
  · exact silentOr_illegal rfl
  · exact silentOr_illegal rfl
  · exact (silentOr_membership left right).bind fun _ => SilentOr.pure _
  · exact silentOr_illegal rfl

end Tests

end Compile

/-! ## The skeleton of a predicate -/

namespace Expr

open Compile
open Outcome (SilentOr)

/-- Whether an expression is a connective.  A negated membership test is none, since it is compiled
as a test of its own. -/
def isConnective : Expr → Bool
  | operation .not [operation .isIn _] => false
  | operation .and _ => true
  | operation .or _ => true
  | operation .not _ => true
  | _ => false

/-- The nodes that the compiler comes by in a predicate without a fault, in the order in which it
does: every connective with its number of arguments before what is in these, from left to right. -/
def skeleton : Expr → List Expr
  | operation .and [left, right] =>
    operation .and [left, right] :: (left.skeleton ++ right.skeleton)
  | operation .or [left, right] =>
    operation .or [left, right] :: (left.skeleton ++ right.skeleton)
  | operation .not [operation .isIn args] => [operation .not [operation .isIn args]]
  | operation .not [e] => operation .not [e] :: e.skeleton
  | e => [e]

/-- Whether a node is at fault by itself: a connective if its number of arguments is wrong, and any
other node if it cannot be compiled. -/
def isFault (n : Expr) : Bool :=
  match n with
  | operation op args =>
    if n.isConnective then args.length != op.arity else n.compile.isFailure
  | _ => n.compile.isFailure

lemma isFault_of_not_isConnective {n : Expr} (h : n.isConnective = false) :
    n.isFault = n.compile.isFailure := by
  cases n with
  | operation op args => rw [isFault, if_neg (by simp [h])]
  | _ => rfl

lemma isFault_of_isConnective {op : Operator} {args : List Expr}
    (h : (operation op args).isConnective = true) :
    (operation op args).isFault = (args.length != op.arity) := by
  rw [isFault, if_pos h]

/-- An operation with a wrong number of arguments is compiled as a test, even if it would be a
connective. -/
lemma compile_of_length_ne {op : Operator} {args : List Expr} (h : args.length ≠ op.arity) :
    (operation op args).compile = test op args := by
  rw [compile]
  · rintro left right rfl rfl
    exact h rfl
  · rintro left right rfl rfl
    exact h rfl
  · rintro inner rfl rfl
    exact h rfl
  · rintro e rfl rfl
    exact h rfl

/-- Connectives are no tests. -/
lemma family_of_isConnective {op : Operator} {args : List Expr}
    (h : (operation op args).isConnective = true) : op.family = .nothing := by
  cases op with
  | and | or | not => rfl
  | _ => simp [isConnective] at h

/-- A connective whose number of arguments is wrong is refused. -/
lemma isFailure_compile_of_length_ne {op : Operator} {args : List Expr}
    (hconnective : (operation op args).isConnective = true) (h : args.length ≠ op.arity) :
    (operation op args).compile.isFailure = true := by
  rw [compile_of_length_ne h]
  rcases silentOr_test op args with ⟨hok⟩ | ⟨herror, -⟩
  · have hresult := congrArg Outcome.result hok
    exact absurd (family_of_isConnective hconnective)
      (result_test_eq_ok_iff.mp hresult).family_ne_nothing
  · exact Outcome.isFailure_of_error herror

/-- Every negation but that of a membership test is a connective. -/
lemma isConnective_not {e : Expr} (he : ∀ args, e ≠ operation .isIn args) :
    (operation .not [e]).isConnective = true := by
  rw [isConnective]
  rintro args heq
  exact he args (List.cons.inj heq).1

/-- Every node but a connective is compiled in silence or refused for itself. -/
lemma silentOr_compile {n : Expr} (h : n.isConnective = false) : SilentOr n.Refusal n.compile := by
  fun_cases compile n with
  | case1 left right => exact absurd h (by simp [isConnective])
  | case2 left right => exact absurd h (by simp [isConnective])
  | case3 args =>
    exact (silentOr_test_notIn args).mono fun _ herr => herr ▸ Refusal.notMember args
  | case4 e he => exact absurd h (by simp [isConnective_not he])
  | case5 op args => exact silentOr_test op args
  | case6 v => exact SilentOr.error rfl (Refusal.constant v)
  | case7 p => exact SilentOr.error rfl (Refusal.path p)
  | case8 _ _ _ _ _ hop hconst hpath =>
    refine SilentOr.error rfl (Refusal.foreign ?_)
    cases n with
    | constant v => exact absurd rfl (hconst v)
    | path p => exact absurd rfl (hpath p)
    | operation op args => exact absurd rfl (hop op args)
    | _ => constructor

/-- A node at fault is refused, with a failure of its own. -/
lemma exists_refusal_of_isFault {n : Expr} (h : n.isFault = true) :
    ∃ err, n.compile.result = .error err ∧ n.Refusal err := by
  cases hn : n.isConnective with
  | false =>
    rw [isFault_of_not_isConnective hn] at h
    exact (silentOr_compile hn).exists_error h
  | true =>
    cases n with
    | operation op args =>
      rw [isFault_of_isConnective hn, bne_iff_ne] at h
      have hfail := isFailure_compile_of_length_ne hn h
      rw [compile_of_length_ne h] at hfail ⊢
      exact (silentOr_test op args).exists_error hfail
    | _ => simp [isConnective] at hn

/-! ## The first fault -/

/-- What has come out at a point on the way through a predicate: a silent result as long as there
has been no fault, and what the first node at fault brings about as soon as there is one. -/
inductive Verdict (o : Compiled Document) : Option Expr → Prop
  | ok {f : Document} (ho : o = pure f) : Verdict o none
  | fault {n : Expr} (hn : n.isFault = true) (ho : o = n.compile) : Verdict o (some n)

/-- The first fault of a chain is that of its first link, or else that of the second. -/
lemma Verdict.bind {o : Compiled Document} {f : Document → Compiled Document}
    {first second : Option Expr} (h : Verdict o first) (hf : ∀ d, Verdict (f d) second) :
    Verdict (o >>= f) (first.or second) := by
  cases h with
  | ok ho =>
    rw [ho, Outcome.pure_bind, Option.none_or]
    exact hf _
  | fault hn ho =>
    obtain ⟨err, herr, -⟩ := exists_refusal_of_isFault hn
    rw [Option.some_or, ho, Outcome.bind_eq_self_of_error herr]
    exact Verdict.fault hn rfl

lemma Verdict.map {o : Compiled Document} {first : Option Expr} (h : Verdict o first)
    (g : Document → Document) : Verdict (o >>= fun d => pure (g d)) first := by
  simpa only [Option.or_none] using h.bind fun d => Verdict.ok (rfl : pure (g d) = pure (g d))

/-- A connective with the right number of arguments is not at fault. -/
lemma not_isFault_of_length {op : Operator} {args : List Expr}
    (hconnective : (operation op args).isConnective = true) (h : args.length = op.arity) :
    ¬ (operation op args).isFault = true := by
  rw [isFault_of_isConnective hconnective, h]
  simp

/-- A node without a skeleton below it is at fault, or it is compiled in silence. -/
lemma verdict_of_leaf {n : Expr}
    (h : n.isConnective = true → n.isFault = true) : Verdict n.compile ([n].find? isFault) := by
  cases hfault : n.isFault with
  | true =>
    rw [List.find?_cons_of_pos hfault]
    exact Verdict.fault hfault rfl
  | false =>
    have hn : n.isConnective = false := by
      rw [← Bool.not_eq_true]
      intro hn
      exact absurd (h hn) (by simp [hfault])
    rw [isFault_of_not_isConnective hn] at hfault
    obtain ⟨f, hf⟩ := (silentOr_compile hn).exists_pure hfault
    rw [List.find?_cons_of_neg (by simp [isFault_of_not_isConnective hn, hfault])]
    exact Verdict.ok hf

/-- A connective that has no skeleton below it has a wrong number of arguments. -/
lemma isFault_of_forall_ne {e : Expr} (hand : ∀ left right, e ≠ operation .and [left, right])
    (hor : ∀ left right, e ≠ operation .or [left, right])
    (hnot : ∀ inner, e ≠ operation .not [inner]) (h : e.isConnective = true) :
    e.isFault = true := by
  cases e with
  | operation op args =>
    rw [isFault_of_isConnective h, bne_iff_ne]
    intro hlength
    cases op with
    | and =>
      obtain ⟨left, right, rfl⟩ := List.length_eq_two.mp hlength
      exact hand left right rfl
    | or =>
      obtain ⟨left, right, rfl⟩ := List.length_eq_two.mp hlength
      exact hor left right rfl
    | not =>
      obtain ⟨inner, rfl⟩ := List.length_eq_one_iff.mp hlength
      exact hnot inner rfl
    | _ => simp [isConnective] at h
  | _ => simp [isConnective] at h

/-- What comes out of a predicate is decided by the first fault in its skeleton. -/
lemma verdict_compile (e : Expr) : Verdict e.compile (e.skeleton.find? isFault) := by
  fun_induction skeleton e with
  | case1 left right ihl ihr =>
    rw [List.find?_cons_of_neg (not_isFault_of_length rfl rfl), List.find?_append, compile]
    exact ihl.bind fun l => ihr.map (Filter.both l)
  | case2 left right ihl ihr =>
    rw [List.find?_cons_of_neg (not_isFault_of_length rfl rfl), List.find?_append, compile]
    exact ihl.bind fun l => ihr.map (Filter.either l)
  | case3 args => exact verdict_of_leaf fun h => absurd h (by simp [isConnective])
  | case4 e he ih =>
    have hnot : ¬ (operation .not [e]).isFault = true :=
      not_isFault_of_length (isConnective_not he) rfl
    rw [List.find?_cons_of_neg hnot, compile_not he]
    exact ih.map Filter.complement
  | case5 e hand hor _ hnot =>
    exact verdict_of_leaf fun h => isFault_of_forall_ne hand hor hnot h

lemma compile_eq_of_first {e n : Expr} (h : e.skeleton.find? isFault = some n) :
    e.compile = n.compile ∧ ∃ err, e.compile.result = .error err ∧ n.Refusal err := by
  have hverdict := verdict_compile e
  rw [h] at hverdict
  cases hverdict with
  | fault hfault ho =>
    obtain ⟨err, herr, hrefusal⟩ := exists_refusal_of_isFault hfault
    rw [← ho] at herr
    exact ⟨ho, err, herr, hrefusal⟩

/-- **The first fault decides.**  A predicate is refused exactly when there is a fault in its
skeleton.  Then the compiler returns and records what it does for the first such node alone, and the
failure is one with which this node can be refused. -/
theorem compile_eq_of_find?_isFault (e : Expr) :
    ((∃ err, e.compile.result = .error err) ↔ ∃ n ∈ e.skeleton, n.isFault = true) ∧
      ∀ n, e.skeleton.find? isFault = some n →
        e.compile = n.compile ∧ ∃ err, e.compile.result = .error err ∧ n.Refusal err := by
  refine ⟨?_, fun n => compile_eq_of_first⟩
  constructor
  · rintro ⟨err, herr⟩
    have hverdict := verdict_compile e
    cases hfirst : e.skeleton.find? isFault with
    | none =>
      rw [hfirst] at hverdict
      cases hverdict with
      | ok ho =>
        rw [ho] at herr
        exact absurd herr (by simp)
    | some n => exact ⟨n, List.mem_of_find?_eq_some hfirst, List.find?_some hfirst⟩
  · rintro ⟨n, hn, hfault⟩
    have hsome : (e.skeleton.find? isFault).isSome = true :=
      List.find?_isSome.mpr ⟨n, hn, hfault⟩
    obtain ⟨first, hfirst⟩ := Option.isSome_iff_exists.mp hsome
    obtain ⟨-, err, herr, -⟩ := compile_eq_of_first hfirst
    exact ⟨err, herr⟩

/-- A conjunction with two faults: a negated membership test without a list, and behind it, below a
disjunction, a connective that lacks an argument. -/
def twoFaults : Expr :=
  .operation .and
    [.operation .not [.operation .isNull [.path (.property (.root "user") "a")]],
    .operation .or
      [.operation .not [.operation .isIn
        [.path (.property (.root "user") "b"), .path (.property (.root "user") "c")]],
      .operation .and [.subquery "select 1"]]]

theorem compile_eq_of_find?_isFault_twoFaults :
    twoFaults.skeleton.find? isFault = some (.operation .not [.operation .isIn
      [.path (.property (.root "user") "b"), .path (.property (.root "user") "c")]]) ∧
    twoFaults.compile.records.map Rejection.message =
      ["no filter form for NOT_IN(user.b, user.c)"] ∧
    (∃ err, twoFaults.compile.result = .error err) ∧
    twoFaults.compile = (operation .not [.operation .isIn
      [.path (.property (.root "user") "b"), .path (.property (.root "user") "c")]]).compile := by
  have hfirst : twoFaults.skeleton.find? isFault = some (.operation .not [.operation .isIn
      [.path (.property (.root "user") "b"), .path (.property (.root "user") "c")]]) := rfl
  obtain ⟨heq, err, herr, -⟩ := (compile_eq_of_find?_isFault twoFaults).2 _ hfirst
  refine ⟨hfirst, ?_, ⟨err, herr⟩, heq⟩
  rw [heq]
  rfl

end Expr

end DocSelect
