/-
# The values of parameters

Parameters are bound one by one, in any order, again and again, and with any other edits of the
clauses in between.  What a query remembers of this is a map from names to values that is ordered
(`Clauses.Remembers`): a name stands where it was first bound, and it has the value that it was
given last.

`Clauses.Edit` lists the edits that there are.  Only a binding touches the parameters
(`Clauses.params_edit`), so over any history they are the table of the bindings in it
(`Clauses.params_edited`).  The steps of a session are such edits or change no clause
(`Step.clauses_next`), so a session is a history of edits as well.
-/
import Mathlib.Data.List.Basic
import Mathlib.Data.List.Nodup
import DocSelect.Proofs.Entries.Bindings
import DocSelect.Proofs.Query.History

namespace DocSelect

namespace Clauses

/-! ## Edits -/

/-- An edit of the clauses of a query. -/
inductive Edit where
  | require (e : Expr)
  | filter (predicates : List (Option Expr))
  | setDistinct (b : Bool)
  | setLimit (n : Nat)
  | setOffset (n : Nat)
  | setWindow (w : Window)
  | orderBy (keys : List SortKey)
  | setProjection (projection : Option Expr)
  | addJoin (j : Join)
  | restrictJoin (e : Expr)
  | bind (param : String) (v : Value)

/-- The clauses after an edit.  An edit that is refused changes nothing. -/
def edit (c : Clauses) : Edit → Clauses
  | .require e => c.require e
  | .filter predicates => (c.filter predicates).toOption.getD c
  | .setDistinct b => c.setDistinct b
  | .setLimit n => c.setLimit n
  | .setOffset n => c.setOffset n
  | .setWindow w => c.setWindow w
  | .orderBy keys => c.orderBy keys
  | .setProjection projection => c.setProjection projection
  | .addJoin j => c.addJoin j
  | .restrictJoin e => (c.restrictJoin e).toOption.getD c
  | .bind param v => c.bind param v

/-- The clauses after a history of edits. -/
def edited (c : Clauses) (edits : List Edit) : Clauses :=
  edits.foldl edit c

/-- The binding that an edit makes. -/
def Edit.binding? : Edit → Option (String × Value)
  | bind param v => some (param, v)
  | _ => none

/-! ## What is remembered of the bindings -/

/-- What clauses tell of the bindings that have been made, from the first to the last. -/
structure Remembers (c : Clauses) (bindings : List (String × Value)) : Prop where
  /-- No parameter stands twice. -/
  nodup : (Entries.keys c.params).Nodup
  /-- The parameters stand in the order in which they were first bound. -/
  keys_eq : Entries.keys c.params = (bindings.map Prod.fst).eraseDups
  /-- A parameter has the value of the last binding of it. -/
  param?_eq_some_iff : ∀ (param : String) (v : Value), c.param? param = some v ↔
    ∃ before after, bindings = before ++ (param, v) :: after ∧ param ∉ after.map Prod.fst
  /-- A parameter without a binding has no value. -/
  param?_eq_none_iff : ∀ param : String, c.param? param = none ↔ param ∉ bindings.map Prod.fst
  /-- To bind a parameter again leaves it where it is, and leaves all others alone. -/
  params_bind : ∀ (param : String) (old v : Value) (before after : Entries Value),
    c.params = before ++ (param, old) :: after →
      (c.bind param v).params = before ++ (param, v) :: after

/-- The table of some bindings is what has to be remembered of them. -/
lemma remembers_of_params {c : Clauses} {bindings : List (String × Value)}
    (h : c.params = Entries.ofList bindings) : c.Remembers bindings := by
  have hnodup : (Entries.keys c.params).Nodup := h ▸ Entries.nodup_keys_ofList bindings
  have hkeys : Entries.keys c.params = (bindings.map Prod.fst).eraseDups :=
    h ▸ Entries.keys_ofList bindings
  constructor
  case nodup => exact hnodup
  case keys_eq => exact hkeys
  case param?_eq_some_iff =>
    intro param v
    rw [param?, Entries.get?_eq_some_iff hnodup, h, Entries.mem_ofList_iff]
  case param?_eq_none_iff =>
    intro param
    rw [param?, Entries.get?_eq_none_iff, hkeys, List.mem_eraseDups]
  case params_bind =>
    intro param old v before after hparams
    -- the names before this one are other names, since none stands twice
    have hbefore : param ∉ Entries.keys before := by
      rw [hparams, Entries.keys, List.map_append, List.map_cons] at hnodup
      exact fun hmem => List.disjoint_of_nodup_append hnodup hmem List.mem_cons_self
    rw [bind, hparams]
    exact Entries.put_append_cons hbefore old v after

/-! ## Histories -/

/-- Only a binding touches the parameters. -/
lemma params_edit (c : Clauses) (e : Edit) :
    (c.edit e).params = e.binding?.elim c.params fun b => c.params.put b.1 b.2 := by
  cases e with
  | filter predicates =>
    rw [edit, filter]
    split <;> rfl
  | restrictJoin e =>
    rw [edit, restrictJoin]
    split <;> rfl
  | _ => rfl

/-- The parameters after a history are those from before it and the bindings in it. -/
lemma params_edited (c : Clauses) (edits : List Edit) :
    (c.edited edits).params =
      (edits.filterMap Edit.binding?).foldl (fun t b => t.put b.1 b.2) c.params := by
  induction edits generalizing c with
  | nil => rfl
  | cons e edits ih =>
    show ((c.edit e).edited edits).params = _
    rw [ih, params_edit, List.filterMap_cons]
    cases e.binding? with
    | none => rfl
    | some b => rfl

end Clauses

namespace Step

open Clauses (Edit)

/-- The edit of the clauses that a step makes, if it makes one. -/
def edit? : Step → Option Edit
  | filter predicates => some (.filter predicates)
  | orderBy keys => some (.orderBy keys)
  | limit n => some (.setLimit n)
  | offset n => some (.setOffset n)
  | restrict w => some (.setWindow w)
  | distinct => some (.setDistinct true)
  | bind param v => some (.bind param v)
  | project items => some (.setProjection (Expr.selected items))
  | join kind target name => some (.addJoin { kind, target, name })
  | on condition => some (.restrictJoin condition)
  | fetchProjected paths => some (.setProjection (Expr.selected (paths.map Expr.path)))
  | fetchOneProjected paths => some (.setProjection (Expr.selected (paths.map Expr.path)))
  | iterate paths _ => some (.setProjection (Expr.selected (paths.map Expr.path)))
  | configure _ | compile | fetch | fetchOne => none

/-- A step makes its edit and changes no other clause. -/
lemma clauses_next (step : Step) (q : Query) :
    (step.next q).clauses = step.edit?.elim q.clauses q.clauses.edit := by
  cases step with
  | project items => exact select_eq items q.clauses
  | fetchProjected paths => exact select_eq (paths.map Expr.path) q.clauses
  | fetchOneProjected paths => exact select_eq (paths.map Expr.path) q.clauses
  | iterate paths bound => exact select_eq (paths.map Expr.path) q.clauses
  | _ => rfl

/-- What a step binds is what its edit binds. -/
lemma binding?_eq (step : Step) : step.binding? = step.edit?.bind Edit.binding? := by
  cases step with
  | _ => rfl

end Step

namespace Query

/-- A session is a history of edits. -/
lemma clauses_after (q : Query) (steps : List Step) :
    (q.after steps).clauses = q.clauses.edited (steps.filterMap Step.edit?) := by
  induction steps generalizing q with
  | nil => rfl
  | cons step steps ih =>
    rw [after_cons, ih, Step.clauses_next, List.filterMap_cons]
    cases step.edit? with
    | none => rfl
    | some e => rfl

end Query

namespace Clauses

/-- **Parameters are an ordered map.**  After any history of edits the parameters are those that
have been bound in it, each of them once and where it was first bound, and each has the value that
it was given last.  To bind one again moves none of them and changes no other value.  This holds
after any session too. -/
theorem remembers_edited :
    (∀ edits : List Edit,
      (({} : Clauses).edited edits).Remembers (edits.filterMap Edit.binding?)) ∧
    ∀ steps : List Step,
      (({} : Query).after steps).clauses.Remembers (steps.filterMap Step.binding?) := by
  have hedits (edits : List Edit) :
      (({} : Clauses).edited edits).Remembers (edits.filterMap Edit.binding?) :=
    remembers_of_params (params_edited {} edits)
  refine ⟨hedits, ?_⟩
  intro steps
  have hbindings : steps.filterMap Step.binding? =
      (steps.filterMap Step.edit?).filterMap Edit.binding? := by
    rw [List.filterMap_filterMap]
    exact List.filterMap_congr fun step _ => step.binding?_eq
  rw [Query.clauses_after, hbindings]
  exact hedits (steps.filterMap Step.edit?)

/-- A second value comes in where the first one was, whatever has been bound and edited since. -/
example (least most : Value) :
    (({} : Clauses).edited [.bind "least" .null, .setLimit 3, .bind "most" most,
      .restrictJoin (.param "least"), .bind "least" least]).params =
      [("least", least), ("most", most)] := rfl

end Clauses

end DocSelect
