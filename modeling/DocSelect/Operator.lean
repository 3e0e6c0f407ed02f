/-
# The operators of the expression language

Every operator has a fixed number of arguments.  Most of them are predicates; a few compute a
value and make sense only below a predicate.
-/

namespace DocSelect

/-- An operator of the expression language. -/
inductive Operator where
  | eq
  | ne
  | lt
  | gt
  | le
  | ge
  | between
  | isIn
  | notIn
  | isNull
  | isNotNull
  | and
  | or
  | not
  | isEmptyText
  | startsWith
  | startsWithIgnoreCase
  | endsWith
  | endsWithIgnoreCase
  | equalsIgnoreCase
  | containsText
  | containsTextIgnoreCase
  | matchesPattern
  | matchesPatternIgnoreCase
  | like
  | textLength
  | lower
  | upper
  | concat
  | isEmptyCollection
  | collectionSize
  | arraySize
  | containsKey
deriving DecidableEq

namespace Operator

/-- All operators, in the order in which they are declared. -/
def all : List Operator :=
  [eq, ne, lt, gt, le, ge, between, isIn, notIn, isNull, isNotNull, and, or, not, isEmptyText,
    startsWith, startsWithIgnoreCase, endsWith, endsWithIgnoreCase, equalsIgnoreCase,
    containsText, containsTextIgnoreCase, matchesPattern, matchesPatternIgnoreCase, like,
    textLength, lower, upper, concat, isEmptyCollection, collectionSize, arraySize, containsKey]

/-- The name by which an operator is written in the text of an expression. -/
def name : Operator → String
  | eq => "EQ"
  | ne => "NE"
  | lt => "LT"
  | gt => "GT"
  | le => "LOE"
  | ge => "GOE"
  | between => "BETWEEN"
  | isIn => "IN"
  | notIn => "NOT_IN"
  | isNull => "IS_NULL"
  | isNotNull => "IS_NOT_NULL"
  | and => "AND"
  | or => "OR"
  | not => "NOT"
  | isEmptyText => "STRING_IS_EMPTY"
  | startsWith => "STARTS_WITH"
  | startsWithIgnoreCase => "STARTS_WITH_IC"
  | endsWith => "ENDS_WITH"
  | endsWithIgnoreCase => "ENDS_WITH_IC"
  | equalsIgnoreCase => "EQ_IGNORE_CASE"
  | containsText => "STRING_CONTAINS"
  | containsTextIgnoreCase => "STRING_CONTAINS_IC"
  | matchesPattern => "MATCHES"
  | matchesPatternIgnoreCase => "MATCHES_IC"
  | like => "LIKE"
  | textLength => "STRING_LENGTH"
  | lower => "LOWER"
  | upper => "UPPER"
  | concat => "CONCAT"
  | isEmptyCollection => "COL_IS_EMPTY"
  | collectionSize => "COL_SIZE"
  | arraySize => "ARRAY_SIZE"
  | containsKey => "CONTAINS_KEY"

/-- The operator of a given name. -/
def ofName? (name : String) : Option Operator :=
  all.find? fun op => op.name = name

/-- The number of arguments that an operator takes. -/
def arity : Operator → Nat
  | isNull | isNotNull | not | isEmptyText | textLength | lower | upper | isEmptyCollection
  | collectionSize | arraySize => 1
  | between => 3
  | _ => 2

/-- Whether an operator yields a truth value.  The others compute a text or a number. -/
def isPredicate : Operator → Bool
  | textLength | lower | upper | concat | collectionSize | arraySize => false
  | _ => true

/-- Whether an operator counts the elements of a collection. -/
def isSize : Operator → Bool
  | collectionSize | arraySize => true
  | _ => false

end Operator

end DocSelect
