/-
# The inspection text of a query

Everything that a query has been told and how it is run, down to the constants in its
predicates, on a single line.
-/
import DocSelect.Query.Run
import DocSelect.Shape

namespace DocSelect

/-! ## Names -/

/-- The name of a kind of segment. -/
def Path.Kind.label : Path.Kind → String
  | root => "Variable"
  | property => "Property"
  | anyOf => "CollectionAny"
  | delegate => "Delegate"

/-- The name of a kind of join. -/
def JoinKind.label : JoinKind → String
  | standard => "Default"
  | inner => "Inner"
  | plain => "Join"
  | left => "LeftJoin"
  | right => "RightJoin"
  | full => "FullJoin"

/-- The name of a direction. -/
def Direction.label : Direction → String
  | ascending => "Asc"
  | descending => "Desc"

/-- Words in capitals with underscores between them, run together with only their first letters
in capitals. -/
def camelCase (atStart : Bool) : List Char → List Char
  | [] => []
  | c :: cs =>
    if c = '_' then camelCase true cs
    else (if atStart then c else c.toLower) :: camelCase false cs

/-- The name of an operator, its words run together. -/
def Operator.label (op : Operator) : String :=
  String.ofList (camelCase true op.name.toList)

/-! ## Paths, values and expressions -/

namespace Path

/-- A segment on top of the shape of what is below it. -/
def segmentShape (p : Path) (parent : Option Shape) : Shape :=
  .tuple "Path" [.record "PathMetadata" [
    ("element", .text p.segment),
    ("parent", Shape.option id parent),
    ("kind", .word p.kind.label)]]

/-- The shape of a path. -/
def shape : Path → Shape
  | root name => segmentShape (root name) none
  | property p name => segmentShape (property p name) (some p.shape)
  | anyOf p => segmentShape (anyOf p) (some p.shape)
  | delegate p => segmentShape (delegate p) (some p.shape)

end Path

namespace Value

mutual

/-- The shape of a value. -/
def shape : Value → Shape
  | null => .word "Null"
  | bool b => .tuple "Boolean" [.bool b]
  | int n => .tuple "Integer" [.word (toString n)]
  | float x => .tuple "Float" [.word (Decimal.inspectionLayout.text x)]
  | text s => .tuple "String" [.text s]
  | enum typeName member ordinal => .record "Enum" [
      ("type_name", .text typeName), ("variant", .text member), ("ordinal", .nat ordinal)]
  | list items => .tuple "List" [.list (shapes items)]

/-- The shapes of the items of a list. -/
def shapes : List Value → List Shape
  | [] => []
  | item :: items => shape item :: shapes items

end

end Value

namespace Expr

mutual

/-- The shape of an expression. -/
def shape : Expr → Shape
  | constant v => .tuple "Constant" [v.shape]
  | path p => .tuple "Path" [p.shape]
  | operation op args => .tuple "Operation" [.record "Operation" [
      ("operator", .word op.label), ("args", .list (shapes args))]]
  | subquery description => .tuple "SubQuery" [.record "SubQuery" [
      ("description", .text description)]]
  | param name => .tuple "Param" [.record "Param" [("name", .text name)]]
  | template source args => .tuple "Template" [.record "Template" [
      ("template", .text source), ("args", .list (shapes args))]]
  | tuple items => .tuple "Factory" [.record "FactoryExpression" [
      ("args", .list (shapes items))]]

/-- The shapes of arguments. -/
def shapes : List Expr → List Shape
  | [] => []
  | arg :: args => shape arg :: shapes args

end

/-- The shape of an expression that is used as a predicate. -/
def predicateShape (e : Expr) : Shape :=
  .tuple "Predicate" [e.shape]

end Expr

/-! ## Clauses and queries -/

/-- The shape of a sort key. -/
def SortKey.shape (key : SortKey) : Shape :=
  .record "OrderSpecifier" [
    ("target", key.target.shape),
    ("order", .word key.direction.label)]

/-- The shape of a join. -/
def Join.shape (j : Join) : Shape :=
  .record "JoinExpression" [
    ("kind", .word j.kind.label),
    ("target", j.target.shape),
    ("alias", .option Path.shape j.name),
    ("condition", .option Expr.predicateShape j.condition)]

/-- The shape of a window. -/
def Window.shape (w : Window) : Shape :=
  .record "QueryModifiers" [
    ("limit", .option Shape.nat w.limit),
    ("offset", .option Shape.nat w.offset)]

/-- The shape of the clauses of a query. -/
def Clauses.shape (c : Clauses) : Shape :=
  .record "QueryMetadata" [
    ("conjuncts", .list (c.conjuncts.map Expr.predicateShape)),
    ("distinct", .bool c.distinct),
    ("modifiers", c.window.shape),
    ("order_by", .list (c.order.map SortKey.shape)),
    ("projection", .option Expr.shape c.projection),
    ("joins", .list (c.joins.map Join.shape)),
    ("params", .list (c.params.map fun binding =>
      .tuple "" [.record "Param" [("name", .text binding.1)], binding.2.shape]))]

/-- The shape of the way in which a query is run. -/
def Config.shape (config : Config) : Shape :=
  .record "QueryConfig" [
    ("log_compiled", .bool config.logCompiled),
    ("batch_size", .option Shape.nat config.batchSize)]

/-- The inspection text of a query. -/
def Query.inspect (q : Query) : String :=
  (Shape.record "Query" [("metadata", q.clauses.shape), ("config", q.config.shape)]).line

end DocSelect
