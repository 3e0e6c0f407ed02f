/-
# The condition of a query

The predicates of a query come in over a whole session, a few at a time and with other steps in
between.  When the query is compiled they are joined to a single predicate, which is joined to
itself once more if there are joins, and this predicate is compiled as one.  This file proves that
none of this shows in the filter: it is the conjunction of the filters that the predicates have each
by itself, in the order in which they came in.  If some predicate has none, the failure is that of
the first of these.

The argument runs through three functions.  What a step adds to the predicates is what its filter
call was given (`conjuncts_next`, and `conjuncts_after` over a session); the condition of a query is
the same with joins and without (`result_condition`); and a conjunction that is nested to the left
is compiled link by link (`result_compile_foldl_and`).
-/
import Mathlib.Tactic.Lemma
import DocSelect.Query.Session

namespace DocSelect

/-! ## Conjunctions of lists -/

/-- All of a list of filters hold, nested to the left.  If there are none everything passes. -/
def Filter.allOf : List Document → Document
  | [] => []
  | f :: fs => fs.foldl both f

namespace Expr

lemma result_compile_and (left right : Expr) :
    (left.and right).compile.result = (do
      let l ← left.compile.result
      let r ← right.compile.result
      pure (Filter.both l r)) := by
  simp only [Expr.and, compile, Outcome.result_bind]
  rfl

/-- A conjunction that is nested to the left is compiled link by link. -/
lemma result_compile_foldl_and (e : Expr) (es : List Expr) :
    (es.foldl Expr.and e).compile.result = (do
      let f ← e.compile.result
      let fs ← es.mapM fun e => e.compile.result
      pure (fs.foldl Filter.both f)) := by
  induction es generalizing e with
  | nil => simp only [List.foldl_nil, List.mapM_nil, pure_bind, bind_pure]
  | cons e' es ih =>
    -- the filters of the first two are joined before the third is compiled
    rw [List.foldl_cons, ih, result_compile_and]
    simp only [List.mapM_cons, List.foldl_cons, bind_assoc, pure_bind]

end Expr

/-! ## What a session adds to the predicates -/

namespace Step

/-- The predicates that a filter step is given. -/
def predicates : Step → List (Option Expr)
  | filter predicates => predicates
  | _ => []

/-- The predicates that a step adds to those of a query.  If one of them is missing, none is
added. -/
def required (step : Step) : List Expr :=
  if step.predicates.all Option.isSome then step.predicates.filterMap id else []

/-- If no predicate is missing all are added. -/
lemma required_of_predicates {step : Step} {ps : List Expr} (h : step.predicates = ps.map some) :
    step.required = ps := by
  rw [required, h]
  simp

lemma flatMap_required {steps : List Step} {ps : List Expr}
    (h : steps.flatMap predicates = ps.map some) : steps.flatMap required = ps := by
  induction steps generalizing ps with
  | nil => simpa using h
  | cons step steps ih =>
    rw [List.flatMap_cons] at h ⊢
    obtain ⟨ps₁, ps₂, rfl, h₁, h₂⟩ := List.append_eq_map_iff.mp h
    rw [required_of_predicates h₁.symm, ih h₂.symm]

/-- Only a filter step adds to the predicates, and it adds them at the end. -/
lemma conjuncts_next (step : Step) (q : Query) :
    (step.next q).clauses.conjuncts = q.clauses.conjuncts ++ step.required := by
  cases step with
  | filter predicates =>
    show (((filter predicates).revise q.clauses).toOption.getD q.clauses).conjuncts =
      q.clauses.conjuncts ++ if predicates.all Option.isSome then predicates.filterMap id else []
    rw [revise, Clauses.filter]
    by_cases hall : predicates.all Option.isSome = true
    · rw [if_pos hall, if_pos hall]
      rfl
    · rw [if_neg hall, if_neg hall]
      exact (List.append_nil _).symm
  | on condition =>
    have hnext : ((on condition).next q).clauses.conjuncts = q.clauses.conjuncts := by
      simp only [next, revise, Clauses.restrictJoin]
      split <;> rfl
    rw [hnext]
    exact (List.append_nil _).symm
  | _ => exact (List.append_nil _).symm

end Step

namespace Query

lemma after_cons (q : Query) (step : Step) (steps : List Step) :
    q.after (step :: steps) = (step.next q).after steps := rfl

/-- A part that every step adds to holds what all steps of a session add. -/
lemma after_of_append {α : Type} (part : Query → List α) {added : Step → List α}
    (hstep : ∀ (step : Step) (q : Query), part (step.next q) = part q ++ added step)
    (q : Query) (steps : List Step) :
    part (q.after steps) = part q ++ steps.flatMap added := by
  induction steps generalizing q with
  | nil => exact (List.append_nil _).symm
  | cons step steps ih => rw [after_cons, ih, hstep, List.flatMap_cons, List.append_assoc]

/-- The predicates after a session are those before it and those that its steps add. -/
lemma conjuncts_after (q : Query) (steps : List Step) :
    (q.after steps).clauses.conjuncts =
      q.clauses.conjuncts ++ steps.flatMap Step.required :=
  after_of_append (fun q => q.clauses.conjuncts) Step.conjuncts_next q steps

/-! ## Compilation without the records -/

/-- The filter of a conjunction is the conjunction of the filters. -/
lemma result_filterOf_allOf (es : List Expr) :
    (filterOf (Expr.allOf es)).result = (do
      let fs ← es.mapM fun e => e.compile.result
      pure (Filter.allOf fs)) := by
  cases es with
  | nil => rfl
  | cons e es =>
    show (es.foldl Expr.and e).compile.result = _
    rw [Expr.result_compile_foldl_and]
    simp only [List.mapM_cons, bind_assoc, pure_bind]
    rfl

/-- The joins do not change the condition. -/
lemma result_condition (q : Query) : q.condition.result = .ok q.clauses.condition := by
  rw [condition]
  split
  · rfl
  · cases q.clauses.condition with
    | none => rfl
    | some e => rfl

/-- The log does not change the request. -/
lemma result_compile (q : Query) :
    q.compile.result = (do
      let filter ← (filterOf q.clauses.condition).result
      pure (q.request filter)) := by
  rw [compile, Outcome.result_bind, result_condition]
  show (filterOf q.clauses.condition >>= _).result = _
  rw [Outcome.result_bind]
  congr 1
  funext filter
  split
  · rfl
  · rfl

/-! ## The condition that is compiled -/

/-- **The condition is the conjunction of the predicates.**  If the filter steps of a session are
given the predicates `ps` in any portions, with any other steps in between, the filter is that of
the predicates from before the session and of `ps`, each compiled by itself, in the order in which
they came in.  The first that has no filter decides the failure. -/
theorem result_compile_after (q : Query) (steps : List Step) (ps : List Expr)
    (h : steps.flatMap Step.predicates = ps.map some) :
    (q.after steps).compile.result = (do
      let fs ← (q.clauses.conjuncts ++ ps).mapM fun e => e.compile.result
      pure ((q.after steps).request (Filter.allOf fs))) := by
  have hconjuncts : (q.after steps).clauses.conjuncts = q.clauses.conjuncts ++ ps := by
    rw [conjuncts_after, Step.flatMap_required h]
  rw [result_compile, Clauses.condition, hconjuncts, result_filterOf_allOf]
  simp only [bind_assoc, pure_bind]

/-- A session in which three predicates come in, with a join and its condition between them and a
filter step that is given none. -/
def scattered (a b c : Expr) : List Step :=
  [.filter [some a], .join .inner (.path (.property (.root "user") "team")) none, .filter [],
    .on (Path.isNotNull (.root "team")), .limit 10, .filter [some b, some c]]

theorem result_compile_after_scattered :
    (scattered (.path (.root "a")) (.path (.root "b")) (.path (.root "c"))).flatMap
        Step.predicates =
      [Expr.path (.root "a"), .path (.root "b"), .path (.root "c")].map some ∧
    (({} : Query).after (scattered (Path.isNull (.root "a")) (Path.isNull (.root "b"))
        (Path.isNull (.root "c")))).compile.result.map Request.filter =
      .ok (Filter.both (Filter.both (Filter.present "a" false) (Filter.present "b" false))
        (Filter.present "c" false)) ∧
    (({} : Query).after (scattered (Path.isNull (.root "a")) (.param "b")
        (.subquery "c"))).compile.result.map Request.filter =
      .error (.unsupportedNode "parameter") := by
  refine ⟨rfl, ?_, ?_⟩
  · rw [result_compile_after {} _ [_, _, _] rfl]
    rfl
  · rw [result_compile_after {} _ [_, _, _] rfl]
    rfl

end Query

end DocSelect
