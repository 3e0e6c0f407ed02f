/-
# References to document fields

A path is written against the queried entity.  It starts at a root variable and goes down
through named properties, through "any element of this collection" and through transparent
wrappers.  This file holds the type, the text of a path as it was built, and the field name
by which the store knows it: the names of the properties joined by dots, without the root.
-/

namespace DocSelect

/-- A reference to a field of the queried entity. -/
inductive Path where
  /-- The queried entity, under the name that the query gives it. -/
  | root (name : String)
  /-- A named property, or an entry of a map, of the parent. -/
  | property (parent : Path) (name : String)
  /-- Any element of the collection at the parent. -/
  | anyOf (parent : Path)
  /-- A transparent wrapper around the parent. -/
  | delegate (parent : Path)
deriving DecidableEq

namespace Path

/-- What the last segment of a path is. -/
inductive Kind where
  | root
  | property
  | anyOf
  | delegate
deriving DecidableEq

/-! ## The chain of segments -/

/-- The kind of the last segment. -/
def kind : Path → Kind
  | root _ => .root
  | property _ _ => .property
  | anyOf _ => .anyOf
  | delegate _ => .delegate

/-- The identifier of the last segment: its name where it has one, a fixed word for "any
element", and nothing for a wrapper. -/
def segment : Path → String
  | root name => name
  | property _ name => name
  | anyOf _ => "any"
  | delegate _ => ""

/-- The path without its last segment; a root has none. -/
def parent? : Path → Option Path
  | root _ => none
  | property p _ => some p
  | anyOf p => some p
  | delegate p => some p

/-- Whether the path is the queried entity itself. -/
def isRoot : Path → Bool
  | root _ => true
  | _ => false

/-- The name of the root variable that the path starts at. -/
def rootName : Path → String
  | root name => name
  | property p _ => p.rootName
  | anyOf p => p.rootName
  | delegate p => p.rootName

/-- The root that the path starts at. -/
def origin (p : Path) : Path :=
  root p.rootName

/-- The number of segments below the root. -/
def depth : Path → Nat
  | root _ => 0
  | property p _ => p.depth + 1
  | anyOf p => p.depth + 1
  | delegate p => p.depth + 1

/-! ## Text -/

/-- The path as it was built, root included.  A wrapper leaves no trace. -/
def text : Path → String
  | root name => name
  | property p name => p.text ++ "." ++ name
  | anyOf p => p.text ++ ".any()"
  | delegate p => p.text

/-! ## Field names -/

/-- A field name made longer by one property.  Where there is no field name yet the property
is the field name, even if it is empty; below that an empty name adds nothing. -/
def extend : Option String → String → String
  | none, name => name
  | some stem, name => if name = "" then stem else stem ++ "." ++ name

/-- The field name fixed by the segments so far.  There is none as long as only the root and
wrappers have been passed.  "Any element" keeps the name of its collection, since the store
matches the elements of an array by the name of the array; of the root it takes the name of
the root. -/
def stem : Path → Option String
  | root _ => none
  | property p name => some (extend p.stem name)
  | anyOf p => some (p.stem.getD p.rootName)
  | delegate p => p.stem

/-- The name by which the store knows the field.  The bare root goes by its own name, and a
wrapped root has the empty name. -/
def fieldName : Path → String
  | root name => name
  | p => p.stem.getD ""

@[simp] theorem fieldName_property (p : Path) (name : String) :
    (property p name).fieldName = extend p.stem name := rfl

@[simp] theorem fieldName_anyOf (p : Path) :
    (anyOf p).fieldName = p.stem.getD p.rootName := rfl

@[simp] theorem fieldName_delegate (p : Path) :
    (delegate p).fieldName = p.stem.getD "" := rfl

end Path

end DocSelect
