/-
# Sessions

A session is a sequence of steps on one query.  Some steps change what the query has been told,
others compile or run it, and some do both: to fetch with a projection is to select first and to
fetch then, so the projection stays even if the fetch fails.
-/
import DocSelect.Query.Run

namespace DocSelect

/-- A step on a query. -/
inductive Step where
  | filter (predicates : List (Option Expr))
  | orderBy (keys : List SortKey)
  | limit (n : Nat)
  | offset (n : Nat)
  | restrict (w : Window)
  | distinct
  | bind (param : String) (v : Value)
  | project (items : List Expr)
  | join (kind : JoinKind) (target : Expr) (name : Option Path)
  | on (condition : Expr)
  | configure (config : Config)
  | compile
  | fetch
  | fetchProjected (paths : List Path)
  | fetchOne
  | fetchOneProjected (paths : List Path)
  /-- Pull results one by one, no more than a given number of times. -/
  | iterate (paths : List Path) (bound : Option Nat)

/-- What a step answers. -/
inductive Reply (β : Type) where
  | done
  | compiled (r : Request)
  | results (bs : List β)
  | first (b : Option β)
  | pulled (rs : List (Option (Except Error β)))

namespace Step

variable {β : Type}

/-- The clauses after a step.  A step that is refused changes nothing. -/
def revise (step : Step) (c : Clauses) : Except Error Clauses :=
  match step with
  | filter predicates => c.filter predicates
  | orderBy keys => .ok (c.orderBy keys)
  | limit n => .ok (c.setLimit n)
  | offset n => .ok (c.setOffset n)
  | restrict w => .ok (c.setWindow w)
  | distinct => .ok (c.setDistinct true)
  | bind param v => .ok (c.bind param v)
  | project items => .ok (c.select items)
  | join kind target name => .ok (c.addJoin { kind, target, name })
  | on condition => c.restrictJoin condition
  | fetchProjected paths => .ok (c.selectPaths paths)
  | fetchOneProjected paths => .ok (c.selectPaths paths)
  | iterate paths _ => .ok (c.selectPaths paths)
  | configure _ | compile | fetch | fetchOne => .ok c

/-- The query after a step. -/
def next (step : Step) (q : Query) : Query :=
  { clauses := (step.revise q.clauses).toOption.getD q.clauses
    config := match step with
      | configure config => config
      | _ => q.config }

/-- The answer to a step that has led to the given query. -/
def answer (step : Step) (q : Query) (mapper : Mapper β) (items : List Item) : Ran (Reply β) :=
  match step with
  | compile => Reply.compiled <$> q.compile.mapRecords Event.notice
  | fetch | fetchProjected _ => Reply.results <$> q.fetch mapper items
  | fetchOne | fetchOneProjected _ => Reply.first <$> q.fetchOne mapper items
  | iterate _ bound => Reply.pulled <$> q.iterate mapper bound items
  | _ => pure .done

/-- Take a step: the query after it, and what the step answers. -/
def take (step : Step) (q : Query) (mapper : Mapper β) (items : List Item) :
    Query × Ran (Reply β) :=
  (step.next q, do
    let _ ← Outcome.ofExcept (step.revise q.clauses)
    step.answer (step.next q) mapper items)

end Step

/-- The query after a sequence of steps. -/
def Query.after (q : Query) (steps : List Step) : Query :=
  steps.foldl (fun q step => step.next q) q

end DocSelect
