/-
# The clauses of a query

Everything that a query has been told: the predicates that must all hold, the window of results,
the sort keys, the projection, the joins and the parameters.
-/
import DocSelect.Error
import DocSelect.Expr.Build
import DocSelect.Selection

namespace DocSelect

/-- The part of the results that is wanted. -/
structure Window where
  /-- The greatest number of results. -/
  limit : Option Nat := none
  /-- How many results are passed over first. -/
  offset : Option Nat := none
deriving DecidableEq

/-- Whether a window leaves out any result at all. -/
def Window.isRestricting (w : Window) : Bool :=
  w.limit.isSome || w.offset.isSome

/-- The kinds of joins. -/
inductive JoinKind where
  | standard
  | inner
  | plain
  | left
  | right
  | full
deriving DecidableEq

/-- A reference to another entity. -/
structure Join where
  kind : JoinKind
  /-- What is joined, usually a path that refers to the other entity. -/
  target : Expr
  /-- The path by which the other entity goes in conditions. -/
  name : Option Path
  /-- The condition on the other entity. -/
  condition : Option Expr := none

/-- The join with one more condition on it. -/
def Join.restrict (j : Join) (e : Expr) : Join :=
  { j with condition := some (match j.condition with
      | some condition => condition.and e
      | none => e) }

/-- Everything that a query has been told. -/
structure Clauses where
  /-- The predicates that must all hold, in the order in which they were added. -/
  conjuncts : List Expr := []
  /-- Whether equal results are wanted only once. -/
  distinct : Bool := false
  /-- The part of the results that is wanted. -/
  window : Window := {}
  /-- The sort keys, by falling precedence. -/
  order : List SortKey := []
  /-- What is returned of every result; whole documents if there is none. -/
  projection : Option Expr := none
  /-- The joins, in the order in which they were added. -/
  joins : List Join := []
  /-- The values of the parameters, in the order in which these were first bound. -/
  params : Entries Value := []

namespace Clauses

/-- The condition on the results: the conjunction of all predicates. -/
def condition (c : Clauses) : Option Expr :=
  Expr.allOf c.conjuncts

/-- One more predicate must hold. -/
def require (c : Clauses) (e : Expr) : Clauses :=
  { c with conjuncts := c.conjuncts ++ [e] }

/-- A list of predicates must hold as well.  If one of them is missing the whole list is
refused. -/
def filter (c : Clauses) (predicates : List (Option Expr)) : Except Error Clauses :=
  if predicates.all Option.isSome then
    .ok { c with conjuncts := c.conjuncts ++ predicates.filterMap id }
  else .error (.invalidArgument "predicate must not be null")

/-- Wish for equal results only once, or no longer. -/
def setDistinct (c : Clauses) (b : Bool) : Clauses :=
  { c with distinct := b }

/-- Bound the number of results. -/
def setLimit (c : Clauses) (n : Nat) : Clauses :=
  { c with window := { c.window with limit := some n } }

/-- Pass over some results. -/
def setOffset (c : Clauses) (n : Nat) : Clauses :=
  { c with window := { c.window with offset := some n } }

/-- Replace both bounds of the window. -/
def setWindow (c : Clauses) (w : Window) : Clauses :=
  { c with window := w }

/-- Sort by further keys, after those there are. -/
def orderBy (c : Clauses) (keys : List SortKey) : Clauses :=
  { c with order := c.order ++ keys }

/-- Replace the projection. -/
def setProjection (c : Clauses) (projection : Option Expr) : Clauses :=
  { c with projection := projection }

/-- Select some expressions.  To select nothing is to select whole documents. -/
def select (c : Clauses) (items : List Expr) : Clauses :=
  c.setProjection (if items.isEmpty then none else some (.tuple items))

/-- Select the fields of some paths. -/
def selectPaths (c : Clauses) (paths : List Path) : Clauses :=
  c.select (paths.map Expr.path)

/-- Add a join. -/
def addJoin (c : Clauses) (j : Join) : Clauses :=
  { c with joins := c.joins ++ [j] }

/-- Add a condition to the last join. -/
def restrictJoin (c : Clauses) (e : Expr) : Except Error Clauses :=
  match c.joins.getLast? with
  | some j => .ok { c with joins := c.joins.dropLast ++ [j.restrict e] }
  | none => .error (.invalidArgument "no join to attach a condition to")

/-- Give a parameter a value, in place of the one it had. -/
def bind (c : Clauses) (param : String) (v : Value) : Clauses :=
  { c with params := c.params.put param v }

/-- The value of a parameter. -/
def param? (c : Clauses) (param : String) : Option Value :=
  c.params.get? param

end Clauses

end DocSelect
