/-
# What the compiler records of a fault

A predicate that can be compiled leaves no record.  One that is refused leaves a record of the node
at which the compiler has stopped, and this record says of the node what is wrong with it.

There is one exception.  A node from which no filter can be made is recorded where a predicate is
wanted, but not where an operand or a literal is wanted: there the compiler fails with the kind of
the node and records nothing.
-/
import DocSelect.Proofs.Compile.Faults
import DocSelect.Query.Trace

namespace DocSelect

/-- `r.Accuses n`: the record `r` tells that the node `n` is at fault. -/
inductive Rejection.Accuses : Rejection → Expr → Prop
  | notPredicate (n : Expr) : Accuses (.notPredicate n) n
  | node (n : Expr) : Accuses (.node n) n
  | operation (op : Operator) (args : List Expr) : Accuses (.operation op args) (.operation op args)
  /-- The size on the left of an equality is recorded alone. -/
  | size (size : Operator) (args : List Expr) (right : Expr) :
      Accuses (.operation size args) (.operation .eq [.operation size args, right])
  /-- A negated membership test is recorded as what it is compiled as. -/
  | notMember (args : List Expr) :
      Accuses (.operation .notIn args) (.operation .not [.operation .isIn args])

namespace Expr

/-- What the compiler writes to the log. -/
def log (e : Expr) : List Notice :=
  e.compile.records.map Notice.rejected

/-- `n.StopsAt x`: the arguments of the test `n` are in order up to `x`, which is wanted as an
operand or as a literal, but no filter can be made from `x`. -/
inductive StopsAt : Expr → Expr → Prop
  | equated {op : Operator} {p : Path} {x : Expr} (hop : op.family = .equality)
      (hx : x.IsForeign) : StopsAt (operation op [path p, x]) x
  | compared {op : Operator} {c : Filter.Comparison} {p : Path} {x : Expr}
      (hop : op.family = .comparison c) (hx : x.IsForeign) : StopsAt (operation op [path p, x]) x
  | lower {op : Operator} {p : Path} {x y : Expr} (hop : op.family = .range)
      (hx : x.IsForeign) : StopsAt (operation op [path p, x, y]) x
  | upper {op : Operator} {p : Path} {x y : Expr} {j : Json} (hop : op.family = .range)
      (hx : x.operand? = some j) (hy : y.IsForeign) : StopsAt (operation op [path p, x, y]) y
  /-- What is looked for is read before the field. -/
  | sought {op : Operator} {place : Pattern.Place} {ignoreCase : Bool} {left x : Expr}
      (hop : op.family = .search place ignoreCase) (hx : x.IsForeign) :
      StopsAt (operation op [left, x]) x
  /-- A wildcard text, too, is read before the field. -/
  | like {op : Operator} {left x : Expr} (hop : op.family = .wildcards) (hx : x.IsForeign) :
      StopsAt (operation op [left, x]) x
  | given {op : Operator} {ignoreCase : Bool} {p : Path} {x : Expr}
      (hop : op.family = .given ignoreCase) (hx : x.IsForeign) :
      StopsAt (operation op [path p, x]) x
  | key {op : Operator} {p : Path} {x : Expr} (hop : op.family = .mapEntry) (hx : x.IsForeign) :
      StopsAt (operation op [path p, x]) x

end Expr

/-! ## Readers and tests -/

namespace Compile

open DocSelect.Expr (IsForeign StopsAt)
open DocSelect.Rejection (Accuses)

/-- A failure without a record stays one, whatever would have followed it. -/
@[simp] lemma fail_bind {ω α β : Type} (e : Error) (f : α → Outcome ω β) :
    (Outcome.fail e : Outcome ω α) >>= f = Outcome.fail e :=
  rfl

variable {α β : Type} {A : Rejection → Prop} {S : Expr → Prop} {o : Compiled α}

/-- A part of a predicate is compiled in silence, or it is refused and one of the records `A` is
made, or the compiler stops without a record at one of the expressions `S`. -/
inductive Recorded (A : Rejection → Prop) (S : Expr → Prop) (o : Compiled α) : Prop
  | ok {a : α} (ho : o = pure a)
  | recorded {r : Rejection} {e : Error} (ho : o.result = .error e) (hr : r ∈ o.records) (hA : A r)
  | silent {x : Expr} (ho : o = Outcome.fail (.unsupportedNode x.kind)) (hx : S x)

lemma Recorded.pure (a : α) : Recorded A S (Pure.pure a : Compiled α) :=
  Recorded.ok rfl

/-- A chain is recorded if its first link is, and its second link behind any result of the first. -/
lemma Recorded.bind {f : α → Compiled β} (h : Recorded A S o)
    (hf : ∀ a, o = Pure.pure a → Recorded A S (f a)) : Recorded A S (o >>= f) := by
  cases h with
  | ok ho =>
    have hnext := hf _ ho
    rwa [ho, Outcome.pure_bind]
  | recorded ho hr hA =>
    rw [Outcome.bind_of_error ho]
    exact Recorded.recorded rfl hr hA
  | silent ho hx =>
    rw [ho, fail_bind]
    exact Recorded.silent rfl hx

lemma Recorded.map (h : Recorded A S o) (f : α → β) :
    Recorded A S (o >>= fun a => Pure.pure (f a)) :=
  h.bind fun a _ => Recorded.pure (f a)

section Arguments

variable {op : Operator} {args : List Expr}

lemma recorded_illegal (hA : A (.operation op args)) :
    Recorded A S (illegal op args : Compiled α) :=
  Recorded.recorded rfl (by simp [illegal, refuse]) hA

lemma recorded_field (hA : A (.operation op args)) (e : Expr) :
    Recorded A S (field op args e) := by
  cases e with
  | path p => exact Recorded.pure _
  | _ => exact recorded_illegal hA

lemma recorded_json (hA : A (.operation op args)) (v : Value) :
    Recorded A S (json op args v) := by
  rw [json]
  cases v.json? with
  | some j => exact Recorded.pure j
  | none => exact Recorded.recorded rfl (List.mem_cons_of_mem _ (List.mem_singleton_self _)) hA

lemma recorded_elements (hA : A (.operation op args)) (values : List Value) :
    Recorded A S (elements op args values) := by
  induction values with
  | nil => exact Recorded.pure []
  | cons v values ih =>
    refine (recorded_json hA v).bind fun j _ => ?_
    exact ih.map _

lemma recorded_membership (hA : A (.operation op args)) (left right : Expr) :
    Recorded A S (membership op args left right) := by
  unfold membership
  split
  · refine (recorded_field hA _).bind fun _ _ => ?_
    exact (recorded_elements hA _).map _
  · exact recorded_illegal hA
  · refine (recorded_field hA _).bind fun _ _ => ?_
    exact (recorded_elements hA _).map _
  · exact recorded_illegal hA

/-- An operand leaves no record only if no filter can be made from it. -/
lemma recorded_operand (hA : A (.operation op args)) {e : Expr} (hS : e.IsForeign → S e) :
    Recorded A S (operand op args e) := by
  cases e with
  | constant v => exact recorded_json hA v
  | path p => exact Recorded.pure _
  | operation _ _ => exact recorded_illegal hA
  | _ => exact Recorded.silent rfl (hS (by constructor))

/-- A literal leaves no record only if no filter can be made from it. -/
lemma recorded_literal (hA : A (.operation op args)) {e : Expr} (hS : e.IsForeign → S e) :
    Recorded A S (literal op args e) := by
  cases e with
  | constant v =>
    rw [literal]
    cases v.literal? with
    | some t => exact Recorded.pure t
    | none => exact Recorded.recorded rfl (List.mem_cons_of_mem _ (List.mem_singleton_self _)) hA
  | path p => exact recorded_illegal hA
  | operation _ _ => exact recorded_illegal hA
  | _ => exact Recorded.silent rfl (hS (by constructor))

lemma operand_of_isForeign {x : Expr} (h : x.IsForeign) :
    operand op args x = Outcome.fail (.unsupportedNode x.kind) := by
  cases h <;> rfl

lemma literal_of_isForeign {x : Expr} (h : x.IsForeign) :
    literal op args x = Outcome.fail (.unsupportedNode x.kind) := by
  cases h <;> rfl

/-- An operand that has a form in documents is read in silence. -/
lemma operand_of_operand? {x : Expr} {j : Json} (h : x.operand? = some j) :
    operand op args x = pure j := by
  cases x with
  | constant v =>
    rw [operand, json, show v.json? = some j from h]
  | path p =>
    cases h
    rfl
  | _ => exact absurd h (by simp [Expr.operand?])

/-- What follows a field is only reached if there is a path. -/
lemma recorded_field_bind (hA : A (.operation op args)) {e : Expr} {f : String → Compiled β}
    (hf : ∀ p, e = .path p → Recorded A S (f p.fieldName)) :
    Recorded A S (field op args e >>= f) := by
  refine (recorded_field hA e).bind fun name hname => ?_
  obtain ⟨p, hp, rfl⟩ := result_field_eq_ok_iff.mp (congrArg Outcome.result hname)
  exact hf p hp

end Arguments

/-! ### Tests -/

lemma recorded_equality (left right : Expr) :
    Recorded (Accuses · (.operation .eq [left, right])) (StopsAt (.operation .eq [left, right]))
      (equality .eq [left, right] left right) := by
  have hA := Accuses.operation .eq [left, right]
  unfold equality
  split
  · exact Recorded.map (recorded_operand hA fun hx => StopsAt.equated rfl hx) _
  · rename_i size sizeArgs
    have hsize := Accuses.size size sizeArgs right
    split
    · split
      · exact (recorded_field hsize _).map _
      · exact recorded_illegal hsize
      · exact recorded_illegal hA
    · exact recorded_illegal hA
  · exact recorded_illegal hA

/-- A test that is refused is recorded, unless the compiler stops at one of its arguments. -/
lemma recorded_test (op : Operator) (args : List Expr) :
    Recorded (Accuses · (.operation op args)) (StopsAt (.operation op args)) (test op args) := by
  have hA := Accuses.operation op args
  rw [test_eq_testOf]
  unfold testOf
  -- family by family, the arguments in the order in which they are read
  split
  · rename_i left right hop
    cases Operator.family_eq_equality_iff.mp hop
    exact recorded_equality left right
  · rename_i c left right hop
    refine recorded_field_bind hA ?_
    rintro p rfl
    exact Recorded.map (recorded_operand hA fun hx => StopsAt.compared hop hx) _
  · rename_i left lower upper hop
    refine recorded_field_bind hA ?_
    rintro p rfl
    refine (recorded_operand hA fun hx => StopsAt.lower hop hx).bind fun least hlower => ?_
    have hleast : lower.operand? = some least :=
      result_operand_eq_ok_iff.mp (congrArg Outcome.result hlower)
    exact Recorded.map (recorded_operand hA fun hy => StopsAt.upper hop hleast hy) _
  · exact (recorded_membership hA _ _).map _
  · exact (recorded_field hA _).map _
  · exact (recorded_field hA _).map _
  · rename_i place ignoreCase left right hop
    refine (recorded_literal hA fun hx => StopsAt.sought hop hx).bind fun _ _ => ?_
    exact (recorded_field hA _).map _
  · rename_i ignoreCase left right hop
    refine recorded_field_bind hA ?_
    rintro p rfl
    exact Recorded.map (recorded_literal hA fun hx => StopsAt.given hop hx) _
  · rename_i left right hop
    refine (recorded_literal hA fun hx => StopsAt.like hop hx).bind fun _ _ => ?_
    exact (recorded_field hA _).map _
  · exact (recorded_field hA _).map _
  · rename_i left right hop
    refine recorded_field_bind hA ?_
    rintro p rfl
    exact Recorded.map (recorded_literal hA fun hx => StopsAt.key hop hx) _
  · exact recorded_illegal hA

/-- A test of non-membership that is refused is always recorded. -/
lemma recorded_test_notIn {args : List Expr} (hA : A (.operation .notIn args)) :
    Recorded A S (test .notIn args) := by
  rcases args with _ | ⟨left, _ | ⟨right, _ | ⟨third, rest⟩⟩⟩
  · exact recorded_illegal hA
  · exact recorded_illegal hA
  · exact (recorded_membership hA left right).map _
  · exact recorded_illegal hA

end Compile

/-! ## Predicates -/

namespace Expr

open Compile
open Rejection (Accuses)

variable {n x : Expr}

/-- A node at fault is recorded, unless the compiler stops at one of its arguments. -/
lemma recorded_of_isFault (h : n.isFault = true) :
    Recorded (Accuses · n) n.StopsAt n.compile := by
  cases hn : n.isConnective with
  | true =>
    -- a connective is at fault for the number of its arguments, and is then compiled as a test
    cases n with
    | operation op args =>
      rw [isFault_of_isConnective hn, bne_iff_ne] at h
      rw [compile_of_length_ne h]
      exact recorded_test op args
    | _ => simp [isConnective] at hn
  | false =>
    fun_cases compile n with
    | case1 left right => exact absurd hn (by simp [isConnective])
    | case2 left right => exact absurd hn (by simp [isConnective])
    | case3 args => exact recorded_test_notIn (Accuses.notMember args)
    | case4 e he => exact absurd hn (by simp [isConnective_not he])
    | case5 op args => exact recorded_test op args
    | case6 v =>
      exact Recorded.recorded rfl (List.mem_singleton_self _) (Accuses.notPredicate _)
    | case7 p =>
      exact Recorded.recorded rfl (List.mem_singleton_self _) (Accuses.notPredicate _)
    | case8 => exact Recorded.recorded rfl (List.mem_singleton_self _) (Accuses.node n)

lemma compile_eq_testOf {op : Operator} {family : Family} (hop : op.family = family)
    (hne : family ≠ .nothing) {args : List Expr} :
    (operation op args).compile = testOf op args family args := by
  rw [compile_of_family_ne (hop ▸ hne), test_eq_testOf, hop]

/-- Where the compiler stops at an argument, it names the kind of the argument and records
nothing. -/
lemma compile_of_stopsAt (h : n.StopsAt x) :
    n.compile = Outcome.fail (.unsupportedNode x.kind) := by
  cases h with
  | equated hop hx =>
    rw [compile_eq_testOf hop (by simp)]
    simp [testOf, equality, operand_of_isForeign hx]
  | compared hop hx =>
    rw [compile_eq_testOf hop (by simp)]
    simp [testOf, comparison, field, operand_of_isForeign hx]
  | lower hop hx =>
    rw [compile_eq_testOf hop (by simp)]
    simp [testOf, range, field, operand_of_isForeign hx]
  | upper hop hx hy =>
    rw [compile_eq_testOf hop (by simp)]
    simp [testOf, range, field, operand_of_operand? hx, operand_of_isForeign hy]
  | sought hop hx =>
    rw [compile_eq_testOf hop (by simp)]
    simp [testOf, textSearch, literal_of_isForeign hx]
  | like hop hx =>
    rw [compile_eq_testOf hop (by simp)]
    simp [testOf, wildcards, literal_of_isForeign hx]
  | given hop hx =>
    rw [compile_eq_testOf hop (by simp)]
    simp [testOf, givenPattern, field, literal_of_isForeign hx]
  | key hop hx =>
    rw [compile_eq_testOf hop (by simp)]
    simp [testOf, mapEntry, field, literal_of_isForeign hx]

/-! ## The log -/

/-- A predicate that can be compiled leaves nothing in the log. -/
lemma log_of_result_ok {e : Expr} {f : Document} (h : e.compile.result = .ok f) : e.log = [] := by
  have hverdict := verdict_compile e
  cases hfirst : e.skeleton.find? isFault with
  | none =>
    rw [hfirst] at hverdict
    cases hverdict with
    | ok ho => rw [log, ho, Outcome.records_pure, List.map_nil]
  | some n =>
    obtain ⟨-, err, herr, -⟩ := compile_eq_of_first hfirst
    rw [h] at herr
    cases herr

/-- What the compiler writes to the log asks for the least attention. -/
lemma level_of_mem_log {e : Expr} : ∀ notice ∈ e.log, notice.level = .trace := by
  intro notice hnotice
  obtain ⟨r, -, rfl⟩ := List.mem_map.mp hnotice
  rfl

/-- A predicate that cannot be compiled has a first node at fault, and there is a record of this
node unless the compiler stops at one of its arguments. -/
lemma exists_recorded_of_result_error {e : Expr} {err : Error} (h : e.compile.result = .error err) :
    ∃ n, e.skeleton.find? isFault = some n ∧ e.compile = n.compile ∧
      Recorded (Accuses · n) n.StopsAt e.compile := by
  have hverdict := verdict_compile e
  cases hfirst : e.skeleton.find? isFault with
  | none =>
    rw [hfirst] at hverdict
    cases hverdict with
    | ok ho =>
      rw [ho] at h
      cases h
  | some n =>
    obtain ⟨heq, -⟩ := compile_eq_of_first hfirst
    refine ⟨n, rfl, heq, ?_⟩
    rw [heq]
    exact recorded_of_isFault (List.find?_some hfirst)

/-- **Every refusal is on record but that of an argument at which the compiler stops.**  A predicate
that can be compiled leaves nothing in the log, and whatever is left there asks for the least
attention.  If a predicate is refused, the log accuses the first node at fault, wherever this stands
and whatever is wrong with it, except if the compiler has stopped at an argument of that node: then
the log is empty, and only the failure names the kind of the argument. -/
theorem exists_rejected_mem_log (e : Expr) :
    ((∃ f, e.compile.result = .ok f) → e.log = []) ∧
    (∀ notice ∈ e.log, notice.level = .trace) ∧
    ∀ err, e.compile.result = .error err → ∃ n, e.skeleton.find? isFault = some n ∧
      ((∀ x, ¬ n.StopsAt x) → ∃ r, Notice.rejected r ∈ e.log ∧ r.Accuses n) ∧
      ∀ x, n.StopsAt x → e.log = [] ∧ err = .unsupportedNode x.kind := by
  refine ⟨?_, level_of_mem_log, fun err herr => ?_⟩
  · rintro ⟨f, hf⟩
    exact log_of_result_ok hf
  · obtain ⟨n, hn, heq, hrecorded⟩ := exists_recorded_of_result_error herr
    refine ⟨n, hn, fun hstops => ?_, fun x hx => ?_⟩
    · cases hrecorded with
      | ok ho =>
        rw [ho] at herr
        cases herr
      | recorded _ hr hA => exact ⟨_, List.mem_map_of_mem hr, hA⟩
      | silent _ hx => exact absurd hx (hstops _)
    · have hsilent := heq.trans (compile_of_stopsAt hx)
      rw [hsilent] at herr
      cases herr
      exact ⟨by simp [log, hsilent, Outcome.fail], rfl⟩

/-- A test as the last part of a disjunction, below a negation in a conjunction. -/
def belowNegation (test : Expr) : Expr :=
  operation .and
    [operation .isNull [path (.property (.root "user") "a")],
    operation .not
      [operation .or [operation .isEmptyText [path (.property (.root "user") "b")], test]]]

/-- The size of a constant. -/
def sizeOfConstant : Expr :=
  operation .eq [operation .collectionSize [constant (.int 1)], constant (.int 2)]

/-- A range whose upper bound is a parameter. -/
def upToParameter : Expr :=
  operation .between [path (.property (.root "user") "a"), constant (.int 1), param "x"]

theorem exists_rejected_mem_log_belowNegation :
    (∃ r, Notice.rejected r ∈ (belowNegation sizeOfConstant).log ∧ r.Accuses sizeOfConstant) ∧
    (belowNegation sizeOfConstant).log.map Notice.message =
      ["no filter form for COL_SIZE(1)"] ∧
    (belowNegation upToParameter).log = [] ∧
    (belowNegation upToParameter).compile.result = .error (.unsupportedNode "parameter") := by
  have hrefused : (belowNegation upToParameter).compile.result =
      .error (.unsupportedNode "parameter") := rfl
  refine ⟨?_, rfl, ?_, hrefused⟩
  · obtain ⟨n, hn, hrecord, -⟩ :=
      (exists_rejected_mem_log (belowNegation sizeOfConstant)).2.2 _ rfl
    have hfirst : (belowNegation sizeOfConstant).skeleton.find? isFault = some sizeOfConstant := rfl
    cases hfirst.symm.trans hn
    refine hrecord fun x hx => ?_
    cases hx with
    | sought hop _ => cases hop
    | like hop _ => cases hop
  · obtain ⟨n, hn, -, hsilent⟩ :=
      (exists_rejected_mem_log (belowNegation upToParameter)).2.2 _ hrefused
    have hfirst : (belowNegation upToParameter).skeleton.find? isFault = some upToParameter := rfl
    cases hfirst.symm.trans hn
    exact (hsilent (param "x") (StopsAt.upper rfl rfl (IsForeign.param "x"))).1

/-- A predicate can be refused without a record: here one that compares a field with a parameter. -/
theorem not_exists_trace_of_refusal :
    ¬ ∀ e : Expr, ((∃ f, e.compile.result = .ok f) → e.log = []) ∧
      ((∃ err, e.compile.result = .error err) → ∃ notice ∈ e.log, notice.level = .trace) := by
  intro h
  let e := operation .ne [path (.property (.root "user") "a"), param "x"]
  have herr : e.compile.result = .error (.unsupportedNode "parameter") := rfl
  have hlog : e.log = [] := rfl
  obtain ⟨notice, hnotice, -⟩ := (h e).2 ⟨_, herr⟩
  rw [hlog] at hnotice
  cases hnotice

end Expr

end DocSelect
