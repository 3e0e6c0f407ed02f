/-
# Requests

A request is what a query sends to the store, fixed at one moment: the filter, the sort order and
the projection as documents, and the window of results.
-/
import DocSelect.Json.Text

namespace DocSelect

/-- What a query sends to the store. -/
structure Request where
  filter : Document
  sort : Document
  /-- The fields to return; whole documents if there is none. -/
  projection : Option Document
  /-- How many results are passed over first. -/
  offset : Option Nat
  /-- The greatest number of results. -/
  limit : Option Nat

namespace Request

/-- The documents of a request on one line. -/
def text (r : Request) : String :=
  "filter=" ++ r.filter.compact ++ " sort=" ++ r.sort.compact ++
    " projection=" ++ (match r.projection with
      | some projection => projection.compact
      | none => "all")

/-- A part of a request as a value; what is absent is null. -/
def part {α : Type} (f : α → Json) : Option α → Json
  | some a => f a
  | none => .null

/-- A request as a single value. -/
def json (r : Request) : Json :=
  .obj [
    ("filter", .obj r.filter),
    ("sort", .obj r.sort),
    ("projection", part Json.obj r.projection),
    ("offset", part (fun n => Json.int n) r.offset),
    ("limit", part (fun n => Json.int n) r.limit)]

/-- The indented text of a request, for inspection. -/
def indented (r : Request) : String :=
  r.json.indented

end Request

end DocSelect
