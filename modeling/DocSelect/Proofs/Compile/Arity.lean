/-
# Numbers of arguments

Every operator takes a fixed number of arguments, and the compiler counts them before it reads any.
One operation it does not count: the size on the left of an equality.  Of that it reads the first
argument, which has to be a path, and leaves aside whatever else is there.  So an operation with a
wrong number of arguments gets through in two places, as such a size and behind its collection, and
nowhere else.
-/
import Mathlib.Tactic.Lemma
import DocSelect.Proofs.Compile.Rules

namespace DocSelect

/-! ## Operators and families -/

/-- The number of arguments that the tests of a family have. -/
def Compile.Family.arity : Compile.Family → Nat
  | .presence _ | .emptyText | .emptyCollection => 1
  | .range => 3
  | _ => 2

namespace Operator

/-- The operators of a family all take as many arguments as the tests of the family have. -/
lemma arity_eq_of_family {op : Operator} (h : op.family ≠ .nothing) :
    op.arity = op.family.arity := by
  cases op <;> simp_all [family, arity, Compile.Family.arity]

lemma arity_of_isSize {op : Operator} (h : op.isSize = true) : op.arity = 1 := by
  cases op <;> simp_all [isSize, arity]

end Operator

/-- A test that the store can make has the right number of arguments. -/
lemma Compile.Tests.length_eq_arity {op : Operator} {args : List Expr} {f : Document}
    (h : Compile.Tests op args f) : args.length = op.arity := by
  rw [Operator.arity_eq_of_family h.family_ne_nothing]
  cases h with
  | _ hop => rw [hop]; rfl

namespace Expr

/-! ## The operations in an expression -/

mutual

/-- The operations in an expression, itself included, at any depth: the operator and the arguments
of each. -/
def operations : Expr → List (Operator × List Expr)
  | operation op args => (op, args) :: operationsOfArgs args
  | template _ args => operationsOfArgs args
  | tuple items => operationsOfArgs items
  | _ => []

/-- The operations in a list of arguments, at any depth. -/
def operationsOfArgs : List Expr → List (Operator × List Expr)
  | [] => []
  | arg :: args => arg.operations ++ operationsOfArgs args

end

/-- An operation is in a list of arguments if it is in one of them. -/
lemma mem_operationsOfArgs_iff {args : List Expr} {o : Operator × List Expr} :
    o ∈ operationsOfArgs args ↔ ∃ e ∈ args, o ∈ e.operations := by
  induction args with
  | nil => simp [operationsOfArgs]
  | cons arg args ih => simp [operationsOfArgs, ih]

/-- The operations on the left of the equalities that a predicate combines. -/
def equated : Expr → List (Operator × List Expr)
  | operation .and [left, right] => left.equated ++ right.equated
  | operation .or [left, right] => left.equated ++ right.equated
  | operation .not [e] => e.equated
  | operation .eq [operation op args, _] => [(op, args)]
  | _ => []

/-- `e.Overlooks o`: in the predicate `e` the operation `o` is the size on the left of an equality
and has more arguments than its collection, or it is part of those that are too many. -/
def Overlooks (e : Expr) (o : Operator × List Expr) : Prop :=
  ∃ size p rest, (size, path p :: rest) ∈ e.equated ∧ size.isSize = true ∧ rest ≠ [] ∧
    (o = (size, path p :: rest) ∨ o ∈ operationsOfArgs rest)

/-- What a part of a predicate overlooks, the predicate overlooks. -/
lemma Overlooks.of_subset {e e' : Expr} {o : Operator × List Expr} (h : e.Overlooks o)
    (hsub : e.equated ⊆ e'.equated) : e'.Overlooks o := by
  obtain ⟨size, p, rest, hmem, hsize, hrest, ho⟩ := h
  exact ⟨size, p, rest, hsub hmem, hsize, hrest, ho⟩

/-! ### Arguments without operations -/

lemma operations_of_operand? {x : Expr} {j : Json} (h : x.operand? = some j) :
    x.operations = [] := by
  cases x with
  | operation op args => exact absurd h (by simp [operand?])
  | template source args => exact absurd h (by simp [operand?])
  | tuple items => exact absurd h (by simp [operand?])
  | _ => rfl

lemma operations_of_literal? {x : Expr} {t : String} (h : x.literal? = some t) :
    x.operations = [] := by
  cases x with
  | constant v => rfl
  | _ => exact absurd h (by simp [literal?])

lemma operationsOfArgs_of_membership? {left right : Expr} {m : Path × List Json}
    (h : left.membership? right = some m) : operationsOfArgs [left, right] = [] := by
  obtain ⟨values, -, ⟨rfl, rfl⟩ | ⟨rfl, rfl⟩⟩ := membership?_eq_some_iff.mp h
  · rfl
  · rfl

/-- There is an operation among the arguments of a test only where a size is compared. -/
lemma operationsOfArgs_of_tests {op : Operator} {args : List Expr} {f : Document}
    (h : Compile.Tests op args f) :
    operationsOfArgs args = [] ∨ ∃ size p rest n, op = .eq ∧ size.isSize = true ∧
      args = [operation size (path p :: rest), constant (.int n)] := by
  cases h with
  | hasSize hop hsize =>
    exact Or.inr ⟨_, _, _, _, Operator.family_eq_equality_iff.mp hop, hsize, rfl⟩
  | equals _ hx | compares _ hx =>
    exact Or.inl (by simp [operationsOfArgs, operations, operations_of_operand? hx])
  | within _ hx hy =>
    exact Or.inl (by
      simp [operationsOfArgs, operations, operations_of_operand? hx, operations_of_operand? hy])
  | inside _ hm | outside _ hm => exact Or.inl (operationsOfArgs_of_membership? hm)
  | finds _ hx | passes _ hx | like _ hx | hasEntry _ hx =>
    exact Or.inl (by simp [operationsOfArgs, operations, operations_of_literal? hx])
  | present _ | emptyText _ | emptyCollection _ => exact Or.inl rfl

/-! ## Compiled predicates -/

/-- The operations in an operation are right or overlooked, if its own number of arguments is right
and the operations in its arguments are so. -/
lemma length_eq_arity_of_args {op : Operator} {args : List Expr}
    (hlength : args.length = op.arity)
    (hargs : ∀ e ∈ args, ∀ o ∈ e.operations, o.2.length = o.1.arity ∨ e.Overlooks o)
    (hsub : ∀ e ∈ args, e.equated ⊆ (operation op args).equated) :
    ∀ o ∈ (operation op args).operations,
      o.2.length = o.1.arity ∨ (operation op args).Overlooks o := by
  intro o ho
  rw [operations, List.mem_cons] at ho
  rcases ho with rfl | ho
  · exact Or.inl hlength
  · obtain ⟨e, he, ho⟩ := mem_operationsOfArgs_iff.mp ho
    exact (hargs e he o ho).imp_right fun h => h.of_subset (hsub e he)

/-- In a test that compares the size of a collection, only what stands behind the collection is
overlooked. -/
lemma length_eq_arity_of_size {size : Operator} {p : Path} {rest : List Expr} {n : Int}
    (hsize : size.isSize = true) {o : Operator × List Expr}
    (ho : o ∈ operationsOfArgs [operation size (path p :: rest), constant (.int n)]) :
    o.2.length = o.1.arity ∨
      (operation .eq [operation size (path p :: rest), constant (.int n)]).Overlooks o := by
  have hsizes : o = (size, path p :: rest) ∨ o ∈ operationsOfArgs rest := by
    simpa [operationsOfArgs, operations] using ho
  by_cases hrest : rest = []
  · -- the size has its collection alone, and there is nothing behind it
    subst hrest
    rcases hsizes with rfl | ho
    · exact Or.inl (Operator.arity_of_isSize hsize).symm
    · exact absurd ho List.not_mem_nil
  · exact Or.inr ⟨size, p, rest, by simp [equated], hsize, hrest, hsizes⟩

/-- A test has the right number of arguments, and so has every operation in it that is not
overlooked. -/
lemma length_eq_arity_of_tests {op : Operator} {args : List Expr} {f : Document}
    (h : Compile.Tests op args f) :
    ∀ o ∈ (operation op args).operations,
      o.2.length = o.1.arity ∨ (operation op args).Overlooks o := by
  intro o ho
  rw [operations, List.mem_cons] at ho
  rcases ho with rfl | ho
  · exact Or.inl h.length_eq_arity
  rcases operationsOfArgs_of_tests h with hnone | ⟨size, p, rest, n, rfl, hsize, rfl⟩
  · rw [hnone] at ho
    exact absurd ho List.not_mem_nil
  · exact length_eq_arity_of_size hsize ho

lemma HasFilter.length_eq_arity {e : Expr} {f : Document} (h : e.HasFilter f) :
    ∀ o ∈ e.operations, o.2.length = o.1.arity ∨ e.Overlooks o := by
  induction h with
  | and _ _ ihl ihr =>
    refine length_eq_arity_of_args rfl ?_ (by simp [equated])
    exact List.forall_mem_cons.mpr ⟨ihl, List.forall_mem_singleton.mpr ihr⟩
  | or _ _ ihl ihr =>
    refine length_eq_arity_of_args rfl ?_ (by simp [equated])
    exact List.forall_mem_cons.mpr ⟨ihl, List.forall_mem_singleton.mpr ihr⟩
  | @notMember args f ht =>
    -- what fits the test of non-membership fits that of membership, and has no operation in it
    have hlength : args.length = Operator.arity .isIn := ht.length_eq_arity
    have hnone : operationsOfArgs args = [] := by
      rcases operationsOfArgs_of_tests ht with hnone | ⟨_, _, _, _, hop, -⟩
      · exact hnone
      · exact absurd hop (by simp)
    refine length_eq_arity_of_args rfl ?_ (by simp [equated])
    simp [operations, hnone, hlength]
  | not _ _ ih =>
    refine length_eq_arity_of_args rfl ?_ (by simp [equated])
    exact List.forall_mem_singleton.mpr ih
  | test ht => exact length_eq_arity_of_tests ht

/-- **Operations in compiled predicates have the right number of arguments**, except for sizes on
the left of equalities, and for what stands behind the collection of such a size. -/
theorem length_eq_arity_of_compile {e : Expr} {f : Document} (h : e.compile.result = .ok f) :
    ∀ o ∈ e.operations, o.2.length = o.1.arity ∨ e.Overlooks o :=
  (hasFilter_of_result_compile h).length_eq_arity

/-- The negation of a test for a size that has a second argument, an operation without any
arguments. -/
def overfullSize : Expr :=
  .operation .not [.operation .eq
    [.operation .collectionSize
      [.path (.property (.root "user") "tags"), .operation .lower []],
    .constant (.int 2)]]

theorem length_eq_arity_of_compile_overfullSize :
    overfullSize.compile.result = .ok [("tags", .obj [("$not", .obj [("$size", .int 2)])])] ∧
    (Operator.lower, []) ∈ overfullSize.operations ∧
    ([] : List Expr).length ≠ Operator.lower.arity ∧
    overfullSize.Overlooks (Operator.lower, []) := by
  have hmem : (Operator.lower, []) ∈ overfullSize.operations := by
    simp [overfullSize, operations, operationsOfArgs]
  have hlower : ([] : List Expr).length ≠ Operator.lower.arity := by decide
  refine ⟨rfl, hmem, hlower, ?_⟩
  exact (length_eq_arity_of_compile rfl _ hmem).resolve_left hlower

/-- A size with an argument too many is compiled. -/
theorem not_length_eq_arity_of_compile :
    ¬ ∀ (e : Expr) (f : Document), e.compile.result = .ok f →
      ∀ o ∈ e.operations, o.2.length = o.1.arity := by
  intro h
  let args : List Expr := [path (.property (.root "user") "tags"), constant (.int 1)]
  let e : Expr := operation .eq [operation .collectionSize args, constant (.int 2)]
  have hmem : (Operator.collectionSize, args) ∈ e.operations := by
    simp [e, operations, operationsOfArgs]
  have hlength : args.length = Operator.arity .collectionSize := h e _ rfl _ hmem
  exact absurd hlength (by decide)

end Expr

end DocSelect
