/-
# Constants

The constants of an expression are typed values.  A value has three readings: the text by which
it is shown, the plain text that it stands for inside a pattern or a field name, and its form in
a document.  Not every value has the last two.  Members of an enumeration go by their names, so
neither the name of the enumeration nor their position in it reaches a document.
-/
import DocSelect.Json.Text

namespace DocSelect

/-- A constant. -/
inductive Value where
  | null
  | bool (b : Bool)
  | int (n : Int)
  | float (x : Float)
  | text (s : String)
  /-- A member of an enumeration, with its position there. -/
  | enum (typeName member : String) (ordinal : Nat)
  | list (items : List Value)

namespace Value

/-- The name of the type of a value. -/
def typeName : Value → String
  | null => "null"
  | bool _ => "boolean"
  | int _ => "integer"
  | float _ => "float"
  | text _ => "string"
  | enum _ _ _ => "enum"
  | list _ => "list"

/-- The number, if the value is an integer. -/
def int? : Value → Option Int
  | int n => some n
  | _ => none

/-- The items, if the value is a list. -/
def items? : Value → Option (List Value)
  | list items => some items
  | _ => none

/-! ## Texts -/

mutual

/-- The text by which a value is shown. -/
def shown : Value → String
  | null => "null"
  | bool b => if b then "true" else "false"
  | int n => toString n
  | float x => Decimal.plainLayout.text x
  | text s => "\"" ++ s ++ "\""
  | enum typeName member _ => typeName ++ "::" ++ member
  | list items => "[" ++ ", ".intercalate (shownItems items) ++ "]"

/-- The texts by which the items of a list are shown. -/
def shownItems : List Value → List String
  | [] => []
  | item :: items => shown item :: shownItems items

end

/-- The plain text that a value stands for inside a pattern or a field name.  Only scalars have
one. -/
def literal? : Value → Option String
  | null => none
  | list _ => none
  | text s => some s
  | enum _ member _ => some member
  | v => some v.shown

/-! ## Form in documents -/

mutual

/-- The form of a value in a document.  A number that is infinite or not a number has none, nor
has a list with such a number in it. -/
def json? : Value → Option Json
  | null => some .null
  | bool b => some (.bool b)
  | int n => some (.int n)
  | float x => if x.isFinite then some (.float x) else none
  | text s => some (.str s)
  | enum _ member _ => some (.str member)
  | list items => (jsonItems? items).map .arr

/-- The forms of the items of a list, if each of them has one. -/
def jsonItems? : List Value → Option (List Json)
  | [] => some []
  | item :: items =>
    match json? item, jsonItems? items with
    | some j, some js => some (j :: js)
    | _, _ => none

end

/-! ## Equality -/

mutual

/-- Whether two values are the same.  Floating-point numbers are compared as numbers: the two
zeros are the same, and what is not a number is not even the same as itself. -/
def same : Value → Value → Bool
  | null, null => true
  | bool a, bool b => a == b
  | int a, int b => a == b
  | float a, float b => a == b
  | text a, text b => a == b
  | enum t m o, enum t' m' o' => t == t' && m == m' && o == o'
  | list a, list b => sameItems a b
  | _, _ => false

/-- Whether two lists hold the same values. -/
def sameItems : List Value → List Value → Bool
  | [], [] => true
  | a :: as, b :: bs => same a b && sameItems as bs
  | _, _ => false

end

end Value

end DocSelect
