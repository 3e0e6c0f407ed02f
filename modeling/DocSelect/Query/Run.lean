/-
# Running a query

A query is compiled anew whenever it is run.  The request goes to the collection step by step:
the three documents, the window, the size of batches, and at the end the question for the first
result or for a stream of all of them.  Where all results are wanted at once the stream is
drained and released before the first document is mapped; where they are wanted one by one every
document is mapped as soon as it has been pulled.
-/
import DocSelect.Query.Clauses
import DocSelect.Query.Trace

namespace DocSelect

/-- What a collection has in store for a query: a document, or a failure to read one. -/
abbrev Item := Except String Document

/-- What turns a document into a result. -/
abbrev Mapper (β : Type) := Document → Except Error β

/-- How a query is run. -/
structure Config where
  /-- Whether every compiled query goes to the log. -/
  logCompiled : Bool := false
  /-- The size of the batches in which results are sent, if it matters. -/
  batchSize : Option Nat := none
deriving DecidableEq

/-- A query: what it has been told, and how it is run. -/
structure Query where
  clauses : Clauses := {}
  config : Config := {}

/-- The outcome of running a query. -/
abbrev Ran (α : Type) := Outcome Event α

namespace Run

variable {α β : Type}

/-- Write to the log. -/
def log (n : Notice) : Ran Unit :=
  Outcome.record (.notice n)

/-- Make a call. -/
def call (c : Call) : Ran Unit :=
  Outcome.record (.call c)

/-! ## The collection -/

/-- The items that remain after a call.  Only the bounds of the window take any away. -/
def answer (items : List Item) : Call → List Item
  | .skip n => items.drop n
  | .limit n => items.take n
  | _ => items

/-- The calls that put a request to the collection, up to the question for results. -/
def calls (config : Config) (r : Request) (purpose : Purpose) : List Call :=
  [.find r.filter, .project r.projection, .sort r.sort] ++
    r.offset.toList.map Call.skip ++
    (if purpose = .fetchFirst then [] else r.limit.toList.map Call.limit) ++
    config.batchSize.toList.map Call.batchSize

/-- Put a request to a collection.  What comes out are the items that answer it. -/
def put (config : Config) (r : Request) (purpose : Purpose) (items : List Item) :
    Ran (List Item) := do
  let cs := calls config r purpose
  Outcome.recordAll (cs.map Event.call)
  pure (cs.foldl answer items)

/-! ## Results -/

/-- Hand a document to the mapper. -/
def map (mapper : Mapper β) (d : Document) : Ran β := do
  call (.map d)
  Outcome.ofExcept (mapper d)

/-- Map documents one after the other, up to the first that fails. -/
def mapAll (mapper : Mapper β) : List Document → Ran (List β)
  | [] => pure []
  | d :: ds => do
    let b ← map mapper d
    let bs ← mapAll mapper ds
    pure (b :: bs)

/-- Pull all documents from a stream, up to the first failure, and release the stream. -/
def drain : List Item → Ran (List Document)
  | [] => do
    call .finish
    call .close
    pure []
  | .ok d :: items => do
    call .next
    let ds ← drain items
    pure (d :: ds)
  | .error message :: _ => do
    call .next
    call .close
    Outcome.fail (.execution message)

/-- What a pull from a stream of results yields: a result or a failure. -/
def result (mapper : Mapper β) : Item → Ran (Except Error β)
  | .ok d => do
    call (.map d)
    pure (mapper d)
  | .error message => pure (.error (.execution message))

/-- Pull results from a stream and release it.  A failure does not end the stream, and `none` is
pulled at its end.  No more than a given number of pulls is made, if one is given. -/
def pull (mapper : Mapper β) : Option Nat → List Item → Ran (List (Option (Except Error β)))
  | some 0, _ => do
    call .close
    pure []
  | _, [] => do
    call .finish
    call .close
    pure [none]
  | bound, item :: items => do
    call .next
    let r ← result mapper item
    let rs ← pull mapper (bound.map (· - 1)) items
    pure (some r :: rs)

/-! ## What follows a request -/

/-- All results of a stream.  A single failure takes the place of them all. -/
def collect (mapper : Mapper β) (items : List Item) : Ran (List β) := do
  call .openStream
  let ds ← drain items
  log (.fetched ds.length)
  mapAll mapper ds

/-- The first result, if there is any. -/
def lead (mapper : Mapper β) (items : List Item) : Ran (Option β) := do
  call .first
  match items with
  | [] => pure none
  | .ok d :: _ => do
    let b ← map mapper d
    pure (some b)
  | .error message :: _ => Outcome.fail (.execution message)

/-- The results of a stream one by one, as many as are pulled. -/
def stream (mapper : Mapper β) (bound : Option Nat) (items : List Item) :
    Ran (List (Option (Except Error β))) := do
  call .openStream
  pull mapper bound items

end Run

namespace Query

variable {β : Type}

/-- What the joins add to the condition on the results.  The store does not resolve references, so
they add nothing, and a warning says so. -/
def joinCondition (q : Query) : Outcome Notice (Option Expr) := do
  Outcome.record (.joinsIgnored q.clauses.joins.length)
  pure none

/-- The condition that the results have to meet: that of the clauses, and if there are joins what
they add to it. -/
def condition (q : Query) : Outcome Notice (Option Expr) :=
  if q.clauses.joins.isEmpty then pure q.clauses.condition
  else do
    let joined ← q.joinCondition
    pure (Expr.allOf (q.clauses.condition.toList ++ joined.toList))

/-- The filter of a condition.  Without a condition everything passes. -/
def filterOf : Option Expr → Outcome Notice Document
  | some e => e.compile.mapRecords Notice.rejected
  | none => pure []

/-- The request with a given filter. -/
def request (q : Query) (filter : Document) : Request where
  filter := filter
  sort := sortDocument q.clauses.order
  projection := projectionDocument q.clauses.projection
  offset := q.clauses.window.offset
  limit := q.clauses.window.limit

/-- The request that a query amounts to now. -/
def compile (q : Query) : Outcome Notice Request := do
  let condition ← q.condition
  let filter ← filterOf condition
  let r := q.request filter
  if q.config.logCompiled then Outcome.record (.compiled r) else pure ()
  pure r

/-- Compile a query and put its request to a collection. -/
def send (q : Query) (purpose : Purpose) (items : List Item) : Ran (List Item) := do
  let r ← q.compile.mapRecords Event.notice
  Run.log (.sending purpose r)
  Run.put q.config r purpose items

/-- All results. -/
def fetch (q : Query) (mapper : Mapper β) (items : List Item) : Ran (List β) := do
  let answers ← q.send .fetchAll items
  Run.collect mapper answers

/-- The first result, if there is any. -/
def fetchOne (q : Query) (mapper : Mapper β) (items : List Item) : Ran (Option β) := do
  let answers ← q.send .fetchFirst items
  Run.lead mapper answers

/-- The results one by one, as many as are pulled. -/
def iterate (q : Query) (mapper : Mapper β) (bound : Option Nat) (items : List Item) :
    Ran (List (Option (Except Error β))) := do
  let answers ← q.send .iterate items
  Run.stream mapper bound answers

end Query

end DocSelect
