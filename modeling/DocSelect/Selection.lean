/-
# Sort orders and projections

Beside the filter a query sends two documents to the store.  The sort order lists field names
by falling precedence, each with a direction; the projection lists the fields to return.  Paths
that name the same field are one entry: it stands where the field was first named, and the last
direction given to it counts.
-/
import DocSelect.Expr

namespace DocSelect

/-- The direction of a sort key. -/
inductive Direction where
  | ascending
  | descending
deriving DecidableEq

/-- The number that stands for a direction in a sort order. -/
def Direction.sign : Direction → Int
  | .ascending => 1
  | .descending => -1

/-- A path to sort by. -/
structure SortKey where
  /-- The path whose field is sorted by. -/
  target : Path
  /-- The direction of the sort. -/
  direction : Direction
deriving DecidableEq

/-- The document of a sort order. -/
def sortDocument (keys : List SortKey) : Document :=
  Entries.ofList (keys.map fun key => (key.target.fieldName, .int key.direction.sign))

/-- The document that selects the fields of some paths. -/
def selecting (paths : List Path) : Document :=
  Entries.ofList (paths.map fun p => (p.fieldName, .int 1))

/-- The document of a projection.  Only a tuple selects fields, those of the paths among its
items; without one, whole documents are returned. -/
def projectionDocument : Option Expr → Option Document
  | some (.tuple items) => some (selecting (items.filterMap Expr.path?))
  | _ => none

end DocSelect
