/-
# Building predicates

Predicates are built from paths: `age.ge v` says that the field is at least `v`.  Whatever is
built here has the number of arguments that its operator asks for, and a path where a field is
wanted.
-/
import DocSelect.Expr

namespace DocSelect

namespace Path

/-- An operator applied to the path alone. -/
def unary (op : Operator) (p : Path) : Expr :=
  .operation op [.path p]

/-- An operator applied to the path and a constant. -/
def binary (op : Operator) (p : Path) (v : Value) : Expr :=
  .operation op [.path p, .constant v]

/-! ## Comparisons -/

/-- The field equals a constant. -/
def eq : Path → Value → Expr :=
  binary .eq

/-- The field differs from a constant. -/
def ne : Path → Value → Expr :=
  binary .ne

/-- The field is less than a constant. -/
def lt : Path → Value → Expr :=
  binary .lt

/-- The field is greater than a constant. -/
def gt : Path → Value → Expr :=
  binary .gt

/-- The field is at most a constant. -/
def le : Path → Value → Expr :=
  binary .le

/-- The field is at least a constant. -/
def ge : Path → Value → Expr :=
  binary .ge

/-- The field lies between two constants, both included. -/
def between (p : Path) (lower upper : Value) : Expr :=
  .operation .between [.path p, .constant lower, .constant upper]

/-- The field is one of some constants. -/
def isIn (p : Path) (values : List Value) : Expr :=
  p.binary .isIn (.list values)

/-- The field is none of some constants. -/
def notIn (p : Path) (values : List Value) : Expr :=
  p.binary .notIn (.list values)

/-- The field is an element of another field. -/
def inPath (p other : Path) : Expr :=
  .operation .isIn [.path p, .path other]

/-- The field is absent. -/
def isNull : Path → Expr :=
  unary .isNull

/-- The field is present. -/
def isNotNull : Path → Expr :=
  unary .isNotNull

/-! ## Texts -/

/-- A test of the field, as a text, against a text. -/
def textTest (op : Operator) (p : Path) (t : String) : Expr :=
  p.binary op (.text t)

/-- The field is the empty text. -/
def isEmptyText : Path → Expr :=
  unary .isEmptyText

/-! ## Collections and maps -/

/-- The field is absent or an empty collection. -/
def isEmpty : Path → Expr :=
  unary .isEmptyCollection

/-- The field is present and not an empty collection. -/
def isNotEmpty (p : Path) : Expr :=
  .operation .not [p.isEmpty]

/-- The collection has a given number of elements. -/
def sizeEq (p : Path) (size : Int) : Expr :=
  .operation .eq [p.unary .collectionSize, .constant (.int size)]

/-- The map has an entry under a key. -/
def containsKey : Path → Value → Expr :=
  binary .containsKey

end Path

namespace Expr

/-- Both predicates hold. -/
def and (left right : Expr) : Expr :=
  operation .and [left, right]

/-- At least one of two predicates holds. -/
def or (left right : Expr) : Expr :=
  operation .or [left, right]

/-- The predicate does not hold. -/
def not (e : Expr) : Expr :=
  operation .not [e]

/-- The conjunction of a list of predicates, nested to the left.  Of no predicates there is
none. -/
def allOf : List Expr → Option Expr
  | [] => none
  | e :: es => some (es.foldl and e)

end Expr

end DocSelect
