/-
# From predicates to filters

A predicate is turned into a filter by a recursion over its connectives.  Below them stand the
tests, each with an operator of its own and with arguments in fixed positions: the field, then
the operands.  A test whose arguments have no counterpart in the filter language is refused.
What is refused is recorded, so that a caller can see which part of a predicate was at fault.
-/
import DocSelect.Expr
import DocSelect.Filter
import DocSelect.Outcome
import DocSelect.Pattern

namespace DocSelect

/-- A part of a predicate for which there is no filter. -/
inductive Rejection where
  /-- A constant or a path where a predicate is wanted. -/
  | notPredicate (e : Expr)
  /-- A node that no filter can be made from. -/
  | node (e : Expr)
  /-- An operation whose arguments do not fit. -/
  | operation (op : Operator) (args : List Expr)
  /-- A constant that has no form in documents. -/
  | noJson (v : Value)
  /-- A constant that stands for no plain text. -/
  | noLiteral (v : Value)

/-- The message that tells of a rejection. -/
def Rejection.message : Rejection → String
  | notPredicate e => "rejecting " ++ e.kind ++ " node in predicate position: " ++ e.shown
  | node e => "rejecting " ++ e.kind ++ " node: " ++ e.shown
  | operation op args => "no filter form for " ++ (Expr.operation op args).shown
  | noJson v => v.typeName ++ " constant " ++ v.shown ++ " has no wire form"
  | noLiteral v => v.typeName ++ " constant has no literal form"

/-- The outcome of compiling a part of a predicate. -/
abbrev Compiled (α : Type) := Outcome Rejection α

namespace Compile

variable {α : Type}

/-- Refuse something and fail. -/
def refuse (r : Rejection) (e : Error) : Compiled α :=
  ⟨[r], .error e⟩

/-- Refuse an operation. -/
def illegal (op : Operator) (args : List Expr) : Compiled α :=
  refuse (.operation op args)
    (.unsupportedOperator ("Illegal operation " ++ (Expr.operation op args).shown))

/-- Refuse an expression that says nothing true or false. -/
def notPredicate (e : Expr) : Compiled α :=
  refuse (.notPredicate e) (.unsupportedOperator (e.shown ++ " is not a predicate"))

/-! ## Arguments

An argument is read on behalf of the operation it belongs to, which is refused if the argument
does not fit. -/

section Arguments

variable (op : Operator) (args : List Expr)

/-- The field that an argument names. -/
def field : Expr → Compiled String
  | .path p => pure p.fieldName
  | _ => illegal op args

/-- The form of a constant in documents. -/
def json (v : Value) : Compiled Json :=
  match v.json? with
  | some j => pure j
  | none => do
    Outcome.record (.noJson v)
    illegal op args

/-- The operand of a comparison: a constant, or the name of another field. -/
def operand : Expr → Compiled Json
  | .constant v => json op args v
  | .path p => pure (.str p.fieldName)
  | .operation _ _ => illegal op args
  | e => Outcome.fail (.unsupportedNode e.kind)

/-- The plain text of a constant argument. -/
def literal : Expr → Compiled String
  | .constant v =>
    match v.literal? with
    | some t => pure t
    | none => do
      Outcome.record (.noLiteral v)
      illegal op args
  | .path _ => illegal op args
  | .operation _ _ => illegal op args
  | e => Outcome.fail (.unsupportedNode e.kind)

/-! ## Tests -/

/-- A field compared with an operand. -/
def comparison (c : Filter.Comparison) (left right : Expr) : Compiled Document := do
  let name ← field op args left
  let value ← operand op args right
  pure (Filter.compare c name value)

/-- A field, or the size of a collection, equal to an operand.  A size is compared with an
integer only. -/
def equality (left right : Expr) : Compiled Document :=
  match left with
  | .path p => do
    let value ← operand op args right
    pure (Filter.equals p.fieldName value)
  | .operation inner innerArgs =>
    if inner.isSize then
      match right, innerArgs with
      | .constant (.int size), collection :: _ => do
        let name ← field inner innerArgs collection
        pure (Filter.hasSize name size)
      | .constant (.int _), [] => illegal inner innerArgs
      | _, _ => illegal op args
    else illegal op args
  | _ => illegal op args

/-- A field within two bounds. -/
def range (left lower upper : Expr) : Compiled Document := do
  let name ← field op args left
  let least ← operand op args lower
  let greatest ← operand op args upper
  pure (Filter.both (Filter.compare .ge name least) (Filter.compare .le name greatest))

/-- The forms of the elements of a constant list, one after the other. -/
def elements : List Value → Compiled (List Json)
  | [] => pure []
  | v :: vs => do
    let j ← json op args v
    let js ← elements vs
    pure (j :: js)

/-- A field and the list of constants that it is tested against.  They come in either order; a
constant on the right is taken for the list. -/
def membership (left right : Expr) : Compiled (String × List Json) :=
  let member (e : Expr) (values : List Value) : Compiled (String × List Json) := do
    let name ← field op args e
    let js ← elements op args values
    pure (name, js)
  match left, right with
  | e, .constant (.list values) => member e values
  | _, .constant _ => illegal op args
  | .constant (.list values), e => member e values
  | _, _ => illegal op args

/-- A text in which a literal is looked for at a place. -/
def textSearch (place : Pattern.Place) (ignoreCase : Bool) (left right : Expr) :
    Compiled Document := do
  let t ← literal op args right
  let name ← field op args left
  pure (Filter.matchesText name (Pattern.seeking place t).text ignoreCase)

/-- A text tested against a wildcard text. -/
def wildcards (left right : Expr) : Compiled Document := do
  let t ← literal op args right
  let name ← field op args left
  pure (Filter.matchesText name (Pattern.ofWildcards t).text false)

/-- A text tested against a pattern that the caller has written. -/
def givenPattern (ignoreCase : Bool) (left right : Expr) : Compiled Document := do
  let name ← field op args left
  let pattern ← literal op args right
  pure (Filter.matchesText name pattern ignoreCase)

/-- A map with an entry under a key. -/
def mapEntry (left right : Expr) : Compiled Document := do
  let name ← field op args left
  let key ← literal op args right
  pure (Filter.present (name ++ "." ++ key) true)

/-- A field that is present, or absent. -/
def presence (b : Bool) (e : Expr) : Compiled Document := do
  let name ← field op args e
  pure (Filter.present name b)

/-- A field that holds the empty text. -/
def emptyText (e : Expr) : Compiled Document := do
  let name ← field op args e
  pure (Filter.equals name (.str ""))

/-- A field that is absent or an empty collection. -/
def emptyCollection (e : Expr) : Compiled Document := do
  let name ← field op args e
  pure (Filter.either (Filter.present name false) (Filter.hasSize name 0))

end Arguments

/-- The filter of an operation that is not a connective.  An operation that is no predicate or
that has the wrong number of arguments is refused. -/
def test (op : Operator) (args : List Expr) : Compiled Document :=
  match op, args with
  | .eq, [left, right] => equality op args left right
  | .ne, [left, right] => comparison op args .ne left right
  | .lt, [left, right] => comparison op args .lt left right
  | .gt, [left, right] => comparison op args .gt left right
  | .le, [left, right] => comparison op args .le left right
  | .ge, [left, right] => comparison op args .ge left right
  | .between, [left, lower, upper] => range op args left lower upper
  | .isIn, [left, right] => do
    let (name, values) ← membership op args left right
    pure (Filter.isIn name values)
  | .notIn, [left, right] => do
    let (name, values) ← membership op args left right
    pure (Filter.notIn name values)
  | .isNull, [e] => presence op args false e
  | .isNotNull, [e] => presence op args true e
  | .isEmptyText, [e] => emptyText op args e
  | .startsWith, [left, right] => textSearch op args .atStart false left right
  | .startsWithIgnoreCase, [left, right] => textSearch op args .atStart true left right
  | .endsWith, [left, right] => textSearch op args .atEnd false left right
  | .endsWithIgnoreCase, [left, right] => textSearch op args .atEnd true left right
  | .equalsIgnoreCase, [left, right] => textSearch op args .whole true left right
  | .containsText, [left, right] => textSearch op args .anywhere false left right
  | .containsTextIgnoreCase, [left, right] => textSearch op args .anywhere true left right
  | .matchesPattern, [left, right] => givenPattern op args false left right
  | .matchesPatternIgnoreCase, [left, right] => givenPattern op args true left right
  | .like, [left, right] => wildcards op args left right
  | .isEmptyCollection, [e] => emptyCollection op args e
  | .containsKey, [left, right] => mapEntry op args left right
  | _, _ => illegal op args

end Compile

/-- The filter of a predicate.  The store has no negated membership below `$not`, so a negated
membership test becomes a test of non-membership. -/
def Expr.compile : Expr → Compiled Document
  | .operation .and [left, right] => do
    let l ← compile left
    let r ← compile right
    pure (Filter.both l r)
  | .operation .or [left, right] => do
    let l ← compile left
    let r ← compile right
    pure (Filter.either l r)
  | .operation .not [.operation .isIn args] => Compile.test .notIn args
  | .operation .not [e] => do
    let f ← compile e
    pure (Filter.complement f)
  | .operation op args => Compile.test op args
  | .constant v => Compile.notPredicate (.constant v)
  | .path p => Compile.notPredicate (.path p)
  | e => Compile.refuse (.node e) (.unsupportedNode e.kind)

end DocSelect
