/-
# Expressions

Predicates, projections and the targets of joins are expression trees over constants, paths and
operators.  Four further kinds of nodes can be built and shown, although no filter can be made
from them: sub-queries, parameters, templates and tuples.
-/
import DocSelect.Operator
import DocSelect.Path
import DocSelect.Value

namespace DocSelect

/-- An expression. -/
inductive Expr where
  | constant (value : Value)
  | path (path : Path)
  | operation (op : Operator) (args : List Expr)
  /-- A nested query, known only by its description. -/
  | subquery (description : String)
  /-- A named parameter. -/
  | param (name : String)
  /-- A piece of text in some other language, with its arguments. -/
  | template (source : String) (args : List Expr)
  /-- Several expressions that are selected together. -/
  | tuple (items : List Expr)

namespace Expr

/-- The name of the kind of an expression. -/
def kind : Expr → String
  | constant _ => "constant"
  | path _ => "path"
  | operation _ _ => "operation"
  | subquery _ => "sub-query"
  | param _ => "parameter"
  | template _ _ => "template"
  | tuple _ => "factory"

/-- The path, if the expression is one. -/
def path? : Expr → Option Path
  | path p => some p
  | _ => none

/-- The value, if the expression is a constant. -/
def constant? : Expr → Option Value
  | constant v => some v
  | _ => none

/-- The operator and its arguments, if the expression is an operation. -/
def operation? : Expr → Option (Operator × List Expr)
  | operation op args => some (op, args)
  | _ => none

/-! ## Text -/

mutual

/-- The text by which an expression is shown. -/
def shown : Expr → String
  | constant v => v.shown
  | path p => p.text
  | operation op args => op.name ++ "(" ++ ", ".intercalate (shownArgs args) ++ ")"
  | subquery description => "(" ++ description ++ ")"
  | param name => "$" ++ name
  | template source _ => source
  | tuple items => "tuple(" ++ ", ".intercalate (shownArgs items) ++ ")"

/-- The texts by which arguments are shown. -/
def shownArgs : List Expr → List String
  | [] => []
  | arg :: args => shown arg :: shownArgs args

end

/-! ## Equality -/

mutual

/-- Whether two expressions are the same tree over the same constants. -/
def same : Expr → Expr → Bool
  | constant a, constant b => a.same b
  | path a, path b => a == b
  | operation op args, operation op' args' => op == op' && sameArgs args args'
  | subquery a, subquery b => a == b
  | param a, param b => a == b
  | template a args, template b args' => a == b && sameArgs args args'
  | tuple items, tuple items' => sameArgs items items'
  | _, _ => false

/-- Whether two lists of arguments are the same. -/
def sameArgs : List Expr → List Expr → Bool
  | [], [] => true
  | a :: as, b :: bs => same a b && sameArgs as bs
  | _, _ => false

end

end Expr

end DocSelect
