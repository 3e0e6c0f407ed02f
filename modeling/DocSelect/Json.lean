/-
# JSON values and documents

Filters, sort orders, projections and the stored records themselves are documents: tables from
field names to JSON values, in the order in which the names first arrived.  Integers and
floating-point numbers are kept apart, as they are in the text.
-/
import DocSelect.Entries

namespace DocSelect

/-- A JSON value. -/
inductive Json where
  | null
  | bool (b : Bool)
  | int (n : Int)
  /-- A finite number that is not an integer by its type. -/
  | float (x : Float)
  | str (s : String)
  | arr (items : List Json)
  /-- An object, its names in order of first arrival. -/
  | obj (fields : List (String × Json))

/-- A document: the fields of a JSON object. -/
abbrev Document := Entries Json

namespace Json

/-- The fields of an object. -/
def fields? : Json → Option Document
  | obj fields => some fields
  | _ => none

end Json

end DocSelect
