/-
# What a session leaves behind

A session may have any number of steps, in any order, and its steps change seven clauses and the
configuration.  This file reads what they leave behind off the list of steps itself, with no state
in between (`Query.told`):

* predicates and sort keys pile up, in the order in which they came in;
* of the limit, the offset, the projection and the configuration the last word counts, and a window
  is a word on the limit and on the offset alike;
* a join takes the conditions that come after it and before the next join, as one conjunction;
* a parameter keeps the place where it was first bound.

A single lemma says what a step does to every part of a query (`Step.next_eq`).  The clauses after a
session follow part by part, since every part either piles up (`Query.after_of_append`) or goes by
the last word on it (`Query.after_of_getD`), apart from the joins, where a condition reaches back to
the last join (`Query.joins_after`).
-/
import DocSelect.Proofs.Query.Condition

namespace DocSelect

variable {α β : Type}

attribute [ext] Window Clauses Query

/-! ## What a single step says about the parts of a query -/

/-- The projection that selects some expressions.  To select nothing is to have none. -/
def Expr.selected : List Expr → Option Expr
  | [] => none
  | item :: items => some (.tuple (item :: items))

namespace Step

/-- The sort keys that a step adds. -/
@[simp] def sortKeys : Step → List SortKey
  | orderBy keys => keys
  | _ => []

/-- What a step says about the limit.  It may say that there is none. -/
@[simp] def limit? : Step → Option (Option Nat)
  | limit n => some (some n)
  | restrict w => some w.limit
  | _ => none

/-- What a step says about the offset. -/
@[simp] def offset? : Step → Option (Option Nat)
  | offset n => some (some n)
  | restrict w => some w.offset
  | _ => none

/-- What a step says about the projection.  Steps that run a query on paths of their own speak of
it as well. -/
@[simp] def projection? : Step → Option (Option Expr)
  | project items => some (Expr.selected items)
  | fetchProjected paths => some (Expr.selected (paths.map Expr.path))
  | fetchOneProjected paths => some (Expr.selected (paths.map Expr.path))
  | iterate paths _ => some (Expr.selected (paths.map Expr.path))
  | _ => none

/-- Whether a step asks for distinct results. -/
@[simp] def isDistinct : Step → Bool
  | distinct => true
  | _ => false

/-- The parameter that a step binds, with its value. -/
@[simp] def binding? : Step → Option (String × Value)
  | bind param v => some (param, v)
  | _ => none

/-- The configuration that a step installs. -/
@[simp] def config? : Step → Option Config
  | configure config => some config
  | _ => none

/-- Whether a step adds a join. -/
@[simp] def isJoin : Step → Bool
  | join _ _ _ => true
  | _ => false

/-- The condition that a step puts on a join. -/
@[simp] def condition? : Step → Option Expr
  | on condition => some condition
  | _ => none

end Step

/-! ## Joins and their conditions -/

namespace Join

/-- Conditions put on the last join, one after the other.  Without a join they are lost. -/
def restrictLast (conditions : List Expr) (joins : List Join) : List Join :=
  joins.dropLast ++ (joins.getLast?.map fun j => conditions.foldl restrict j).toList

@[simp] lemma restrictLast_concat (conditions : List Expr) (joins : List Join) (j : Join) :
    restrictLast conditions (joins ++ [j]) = joins ++ [conditions.foldl restrict j] := by
  simp [restrictLast]

lemma restrictLast_nil (joins : List Join) : restrictLast [] joins = joins := by
  rcases List.eq_nil_or_concat joins with rfl | ⟨init, j, rfl⟩
  · rfl
  · rw [List.concat_eq_append, restrictLast_concat, List.foldl_nil]

lemma restrictLast_cons (e : Expr) (es : List Expr) (joins : List Join) :
    restrictLast (e :: es) joins = restrictLast es (restrictLast [e] joins) := by
  rcases List.eq_nil_or_concat joins with rfl | ⟨init, j, rfl⟩
  · rfl
  · rw [List.concat_eq_append]
    simp only [restrictLast_concat, List.foldl_cons, List.foldl_nil]

/-- Conditions on a join that has one already go to the right of it. -/
lemma foldl_restrict_of_some (kind : JoinKind) (target : Expr) (name : Option Path) (e : Expr)
    (es : List Expr) :
    es.foldl restrict { kind, target, name, condition := some e } =
      { kind, target, name, condition := some (es.foldl Expr.and e) } := by
  induction es generalizing e with
  | nil => rfl
  | cons e' es ih =>
    rw [List.foldl_cons, List.foldl_cons]
    exact ih (e.and e')

/-- Conditions on a join that has none are its conjunction. -/
lemma foldl_restrict (kind : JoinKind) (target : Expr) (name : Option Path) (es : List Expr) :
    es.foldl restrict { kind, target, name } =
      { kind, target, name, condition := Expr.allOf es } := by
  cases es with
  | nil => rfl
  | cons e es => exact foldl_restrict_of_some kind target name e es

end Join

/-! ## What a step does -/

namespace Step

/-- The joins after a step. -/
@[simp] def joined (step : Step) (joins : List Join) : List Join :=
  match step with
  | join kind target name => joins ++ [{ kind, target, name }]
  | on condition => Join.restrictLast [condition] joins
  | _ => joins

/-- The clauses after a filter step. -/
lemma clauses_next_filter (predicates : List (Option Expr)) (q : Query) :
    ((filter predicates).next q).clauses =
      { q.clauses with conjuncts := q.clauses.conjuncts ++ (filter predicates).required } := by
  have hconjuncts := conjuncts_next (filter predicates) q
  by_cases hall : predicates.all Option.isSome = true
  · simp only [next, revise, Clauses.filter, if_pos hall] at hconjuncts ⊢
    rw [← hconjuncts]
    rfl
  · simp only [next, revise, Clauses.filter, if_neg hall] at hconjuncts ⊢
    rw [← hconjuncts]
    rfl

/-- A condition goes to the last join, and is refused if there is none. -/
lemma restrictJoin_eq (c : Clauses) (condition : Expr) :
    c.restrictJoin condition =
      if c.joins.isEmpty then .error (.invalidArgument "no join to attach a condition to")
      else .ok { c with joins := Join.restrictLast [condition] c.joins } := by
  rw [Clauses.restrictJoin, Join.restrictLast]
  rcases List.eq_nil_or_concat c.joins with hjoins | ⟨init, j, hjoins⟩
  · rw [hjoins]
    rfl
  · rw [hjoins, List.concat_eq_append, List.getLast?_concat]
    simp

/-- The clauses after a condition on a join. -/
lemma clauses_next_on (condition : Expr) (q : Query) :
    ((on condition).next q).clauses =
      { q.clauses with joins := Join.restrictLast [condition] q.clauses.joins } := by
  simp only [next, revise, restrictJoin_eq]
  cases hjoins : q.clauses.joins with
  | nil => exact Clauses.ext rfl rfl rfl rfl rfl hjoins rfl
  | cons j js => rfl

/-- The clauses after a selection. -/
lemma select_eq (items : List Expr) (c : Clauses) :
    c.select items = { c with projection := Expr.selected items } := by
  cases items with
  | nil => rfl
  | cons item items => rfl

/-- **What a step does**, to every part of a query. -/
lemma next_eq (step : Step) (q : Query) :
    step.next q =
      { clauses :=
          { conjuncts := q.clauses.conjuncts ++ step.required
            distinct := q.clauses.distinct || step.isDistinct
            window :=
              { limit := step.limit?.getD q.clauses.window.limit
                offset := step.offset?.getD q.clauses.window.offset }
            order := q.clauses.order ++ step.sortKeys
            projection := step.projection?.getD q.clauses.projection
            joins := step.joined q.clauses.joins
            params := step.binding?.elim q.clauses.params fun b => q.clauses.params.put b.1 b.2 }
        config := step.config?.getD q.config } := by
  cases step with
  | filter predicates =>
    show Query.mk ((filter predicates).next q).clauses q.config = _
    rw [clauses_next_filter]
    simp
  | on condition =>
    show Query.mk ((on condition).next q).clauses q.config = _
    rw [clauses_next_on]
    simp [required, predicates]
  | _ =>
    simp [next, revise, required, predicates, Except.toOption, Clauses.orderBy, Clauses.setLimit,
      Clauses.setOffset, Clauses.setWindow, Clauses.setDistinct, Clauses.bind, Clauses.addJoin,
      Clauses.selectPaths, select_eq]

end Step

/-! ## What a session says -/

namespace Step

/-- The last word of a session on something. -/
def lastWord (word : Step → Option α) (steps : List Step) : Option α :=
  (steps.filterMap word).getLast?

lemma lastWord_cons (word : Step → Option α) (step : Step) (steps : List Step) :
    lastWord word (step :: steps) = (lastWord word steps).or (word step) := by
  rw [lastWord, List.filterMap_cons]
  cases word step with
  | none => exact Option.or_none.symm
  | some a =>
    show (a :: steps.filterMap word).getLast? = _
    rw [List.getLast?_cons, Option.or_some]
    rfl

/-- The conditions on the join before the steps: those that come before the next join. -/
def conditions (steps : List Step) : List Expr :=
  (steps.takeWhile fun step => !step.isJoin).filterMap condition?

/-- The joins of a session, each with the conjunction of its conditions. -/
def joins : List Step → List Join
  | [] => []
  | join kind target name :: steps =>
    { kind, target, name, condition := Expr.allOf (conditions steps) } :: joins steps
  | _ :: steps => joins steps

end Step

namespace Query

/-- The query that a session leaves behind, read off its steps. -/
def told (steps : List Step) : Query where
  clauses :=
    { conjuncts := steps.flatMap Step.required
      distinct := steps.any Step.isDistinct
      window :=
        { limit := (Step.lastWord Step.limit? steps).getD none
          offset := (Step.lastWord Step.offset? steps).getD none }
      order := steps.flatMap Step.sortKeys
      projection := (Step.lastWord Step.projection? steps).getD none
      joins := Step.joins steps
      params := Entries.ofList (steps.filterMap Step.binding?) }
  config := (Step.lastWord Step.config? steps).getD {}

/-! ## From the steps to the session -/

lemma after_concat (q : Query) (steps : List Step) (step : Step) :
    q.after (steps ++ [step]) = step.next (q.after steps) := by
  rw [after, List.foldl_append]
  rfl

/-- A part that is replaced by whatever a step says about it is the last word of a session. -/
lemma after_of_getD (part : Query → α) {word : Step → Option α}
    (hstep : ∀ (step : Step) (q : Query), part (step.next q) = (word step).getD (part q))
    (q : Query) (steps : List Step) :
    part (q.after steps) = (Step.lastWord word steps).getD (part q) := by
  induction steps generalizing q with
  | nil => rfl
  | cons step steps ih =>
    rw [after_cons, ih, hstep, Step.lastWord_cons]
    cases Step.lastWord word steps with
    | none => rfl
    | some a => rfl

lemma distinct_after (q : Query) (steps : List Step) :
    (q.after steps).clauses.distinct = (q.clauses.distinct || steps.any Step.isDistinct) := by
  induction steps generalizing q with
  | nil => exact (Bool.or_false _).symm
  | cons step steps ih => rw [after_cons, ih, Step.next_eq, List.any_cons, Bool.or_assoc]

lemma params_after (q : Query) (steps : List Step) :
    (q.after steps).clauses.params =
      (steps.filterMap Step.binding?).foldl (fun t b => t.put b.1 b.2) q.clauses.params := by
  induction steps generalizing q with
  | nil => rfl
  | cons step steps ih =>
    rw [after_cons, ih, Step.next_eq, List.filterMap_cons]
    cases step.binding? with
    | none => rfl
    | some b => rfl

/-- The joins after a session.  Its first conditions still go to the last join from before it. -/
lemma joins_after (q : Query) (steps : List Step) :
    (q.after steps).clauses.joins =
      Join.restrictLast (Step.conditions steps) q.clauses.joins ++ Step.joins steps := by
  induction steps generalizing q with
  | nil =>
    show q.clauses.joins = Join.restrictLast [] q.clauses.joins ++ []
    rw [Join.restrictLast_nil, List.append_nil]
  | cons step steps ih =>
    rw [after_cons, ih, Step.next_eq]
    cases step with
    | join kind target name =>
      show Join.restrictLast (Step.conditions steps)
            (q.clauses.joins ++ [({ kind, target, name } : Join)]) ++ Step.joins steps =
        Join.restrictLast [] q.clauses.joins ++ Step.joins (.join kind target name :: steps)
      rw [Join.restrictLast_concat, Join.restrictLast_nil, Join.foldl_restrict, List.append_assoc]
      rfl
    | on condition =>
      show _ = Join.restrictLast (condition :: Step.conditions steps) q.clauses.joins ++ _
      rw [Join.restrictLast_cons]
      rfl
    | _ => rfl

/-- The query after a session, read off its steps. -/
lemma after_eq_told (steps : List Step) : ({} : Query).after steps = told steps := by
  have hlimit := after_of_getD (fun q => q.clauses.window.limit)
    (fun step q => by rw [Step.next_eq]) {} steps
  have hoffset := after_of_getD (fun q => q.clauses.window.offset)
    (fun step q => by rw [Step.next_eq]) {} steps
  have horder := after_of_append (fun q => q.clauses.order)
    (fun step q => by rw [Step.next_eq]) {} steps
  have hprojection := after_of_getD (fun q => q.clauses.projection)
    (fun step q => by rw [Step.next_eq]) {} steps
  have hconfig := after_of_getD (fun q => q.config)
    (fun step q => by rw [Step.next_eq]) {} steps
  exact Query.ext
    (Clauses.ext (conjuncts_after {} steps) (distinct_after {} steps) (Window.ext hlimit hoffset)
      horder hprojection (joins_after {} steps) (params_after {} steps))
    hconfig

end Query

/-! ## Steps that are refused -/

namespace Step

/-- Why a step is refused that comes behind some others: a filter step with a missing predicate, and
a condition on a join where there has been none. -/
def refusal? (earlier : List Step) : Step → Option Error
  | filter predicates =>
    if predicates.all Option.isSome then none
    else some (.invalidArgument "predicate must not be null")
  | on _ =>
    if earlier.any isJoin then none
    else some (.invalidArgument "no join to attach a condition to")
  | _ => none

/-- A refused step changes nothing. -/
lemma next_of_error {step : Step} {q : Query} {e : Error} (h : step.revise q.clauses = .error e) :
    step.next q = q := by
  have hclauses : (step.next q).clauses = q.clauses := by
    show (step.revise q.clauses).toOption.getD q.clauses = q.clauses
    rw [h]
    rfl
  have hconfig : (step.next q).config = q.config := by
    cases step with
    | configure config => simp [revise] at h
    | _ => rfl
  exact Query.ext hclauses hconfig

/-- There are joins exactly if a step has added one. -/
lemma isEmpty_joins (steps : List Step) : (joins steps).isEmpty = !steps.any isJoin := by
  induction steps with
  | nil => rfl
  | cons step steps ih =>
    cases step with
    | join kind target name => rfl
    | _ => exact ih

/-- A step is accepted exactly if there is no reason to refuse it. -/
lemma revise_told (step : Step) (steps : List Step) :
    step.revise (Query.told steps).clauses =
      (step.refusal? steps).elim (.ok (step.next (Query.told steps)).clauses) .error := by
  cases step with
  | filter predicates =>
    simp only [next, revise, Clauses.filter, refusal?]
    by_cases hall : predicates.all Option.isSome = true
    · rw [if_pos hall, if_pos hall]
      rfl
    · rw [if_neg hall, if_neg hall]
      rfl
  | on condition =>
    have hjoins : (Query.told steps).clauses.joins.isEmpty = !steps.any isJoin :=
      isEmpty_joins steps
    simp only [next, revise, restrictJoin_eq, refusal?, hjoins]
    cases steps.any isJoin with
    | true => rfl
    | false => rfl
  | _ => rfl

end Step

namespace Query

/-- **A query is what its session says.**  After any steps the clauses and the configuration of a
fresh query are those that are read off the steps, and so they are after one step more, whatever its
answer is, even if it fails to compile or to run.  Only a refused step changes nothing at all; what
it answers is why it is refused. -/
theorem take_after (steps : List Step) :
    ({} : Query).after steps = told steps ∧
    ∀ (step : Step) (mapper : Mapper β) (items : List Item),
      step.take (({} : Query).after steps) mapper items =
        match step.refusal? steps with
        | some e => (told steps, Outcome.fail e)
        | none => (told (steps ++ [step]), step.answer (told (steps ++ [step])) mapper items) := by
  refine ⟨after_eq_told steps, ?_⟩
  intro step mapper items
  have hnext : step.next (told steps) = told (steps ++ [step]) := by
    rw [← after_eq_told, ← after_eq_told, after_concat]
  have hrevise := step.revise_told steps
  rw [after_eq_told]
  cases hrefusal : step.refusal? steps with
  | some e =>
    have herror : step.revise (told steps).clauses = .error e := by rw [hrevise, hrefusal]; rfl
    rw [Step.take, Step.next_of_error herror, herror]
    rfl
  | none =>
    have hok : step.revise (told steps).clauses = .ok (told (steps ++ [step])).clauses := by
      rw [hrevise, hrefusal, hnext]
      rfl
    rw [Step.take, hnext, hok]
    rfl

/-- A window replaces the limit and the offset from before it. -/
example :
    (({} : Query).after [.limit 10, .offset 5, .restrict { limit := some 3 }, .fetch, .offset 1,
      .filter [none]]).clauses.window = { limit := some 3, offset := some 1 } := rfl

end Query

end DocSelect
