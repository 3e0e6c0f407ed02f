/-
# Filter documents

A filter is a document in the filter language of the store.  A field with a plain value tests
for equality; a field with an object whose names all start with `$` is tested by these
operators; and the names `$and`, `$or` and `$nor` combine filters.  This file holds the
constructors of the filters that predicates need, and the complement of an arbitrary filter.
-/
import DocSelect.Json

namespace DocSelect.Filter

/-- A comparison of a field with a value. -/
inductive Comparison where
  | ne
  | lt
  | gt
  | le
  | ge
deriving DecidableEq

/-- The name of a comparison in the filter language. -/
def Comparison.key : Comparison → String
  | ne => "$ne"
  | lt => "$lt"
  | gt => "$gt"
  | le => "$lte"
  | ge => "$gte"

/-! ## Tests of one field -/

/-- The filter that tests a field by one operator. -/
def test (field operator : String) (operand : Json) : Document :=
  [(field, .obj [(operator, operand)])]

/-- The field equals a value. -/
def equals (field : String) (value : Json) : Document :=
  [(field, value)]

/-- The field compares with a value in the given way. -/
def compare (c : Comparison) (field : String) (value : Json) : Document :=
  test field c.key value

/-- The field is one of some values. -/
def isIn (field : String) (values : List Json) : Document :=
  test field "$in" (.arr values)

/-- The field is none of some values. -/
def notIn (field : String) (values : List Json) : Document :=
  test field "$nin" (.arr values)

/-- The field is present, or absent. -/
def present (field : String) (b : Bool) : Document :=
  test field "$exists" (.bool b)

/-- The field is a collection of the given size. -/
def hasSize (field : String) (size : Int) : Document :=
  test field "$size" (.int size)

/-- The field is a text in which a pattern is found, with or without regard to case. -/
def matchesText (field pattern : String) (ignoreCase : Bool) : Document :=
  [(field, .obj (("$regex", .str pattern) :: if ignoreCase then [("$options", .str "i")] else []))]

/-! ## Combinations -/

/-- Both filters hold. -/
def both (left right : Document) : Document :=
  [("$and", .arr [.obj left, .obj right])]

/-- At least one of two filters holds. -/
def either (left right : Document) : Document :=
  [("$or", .arr [.obj left, .obj right])]

/-- The filter does not hold, whatever it is. -/
def neither (filter : Document) : Document :=
  [("$nor", .arr [.obj filter])]

/-- Whether a name belongs to the filter language and not to a field. -/
def isOperatorName (name : String) : Bool :=
  name.toList.head? == some '$'

/-- A key behind a dot does not decide whether a name is one of the filter language. -/
theorem isOperatorName_append_dot (name key : String) :
    isOperatorName (name ++ "." ++ key) = isOperatorName name := by
  unfold isOperatorName
  rw [String.toList_append, String.toList_append]
  cases name.toList with
  | nil => rfl
  | cons c cs => rfl

/-- Whether an object tests a field by operators.  Any other object is a value. -/
def isOperatorDocument (fields : Document) : Bool :=
  !fields.isEmpty && fields.all fun entry => isOperatorName entry.1

/-- What a field is tested by, as an object of operators: a value is tested for equality. -/
def operators : Json → Json
  | .obj fields => if isOperatorDocument fields then .obj fields else .obj [("$eq", .obj fields)]
  | value => .obj [("$eq", value)]

/-- The filter that holds exactly where the given one does not.  The store takes `$not` only
below a field, so a test of a single field is negated in place and all else from outside. -/
def complement : Document → Document
  | [(field, value)] =>
    if isOperatorName field then neither [(field, value)]
    else test field "$not" (operators value)
  | filter => neither filter

/-- The complement of a combination of filters is taken from outside. -/
theorem complement_of_operatorName {name : String} (h : isOperatorName name = true)
    (value : Json) : complement [(name, value)] = neither [(name, value)] := by
  rw [complement, if_pos h]

/-- The complement of a test of a field is taken at the field. -/
theorem complement_of_field {field : String} (h : isOperatorName field = false) (value : Json) :
    complement [(field, value)] = test field "$not" (operators value) := by
  rw [complement, if_neg (by simp [h])]

end DocSelect.Filter
