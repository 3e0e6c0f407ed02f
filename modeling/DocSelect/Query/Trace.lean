/-
# What a running query leaves behind

A running query writes notices to a log and makes calls to the collection and to the mapper that
turns documents into results.  Both are kept as data, in one sequence, in the order in which they
happen.
-/
import DocSelect.Compile
import DocSelect.Query.Request

namespace DocSelect

/-- How much attention a notice asks for. -/
inductive Level where
  | trace
  | debug
  | warn
deriving DecidableEq

/-- What a request is sent for. -/
inductive Purpose where
  /-- All results at once. -/
  | fetchAll
  /-- The first result. -/
  | fetchFirst
  /-- The results one by one. -/
  | iterate
deriving DecidableEq

/-- An entry of the log. -/
inductive Notice where
  /-- A part of a predicate has been refused. -/
  | rejected (r : Rejection)
  /-- There are joins, which the store does not resolve. -/
  | joinsIgnored (count : Nat)
  /-- A query has been compiled. -/
  | compiled (r : Request)
  /-- A request is about to be sent. -/
  | sending (purpose : Purpose) (r : Request)
  /-- All results have arrived. -/
  | fetched (count : Nat)

namespace Notice

/-- The level of a notice. -/
def level : Notice → Level
  | rejected _ => .trace
  | joinsIgnored _ => .warn
  | _ => .debug

/-- The message of a notice. -/
def message : Notice → String
  | rejected r => r.message
  | joinsIgnored count =>
    "Ignoring " ++ toString count ++ " join(s): reference resolution is not supported by find"
  | compiled r => "Compiled query: " ++ r.text
  | sending .fetchAll r => "Fetching with " ++ r.text
  | sending .fetchFirst r => "Fetching first with " ++ r.text
  | sending .iterate r => "Iterating with " ++ r.text
  | fetched count => "Fetched " ++ toString count ++ " document(s)"

end Notice

/-- A call to the collection or to the mapper. -/
inductive Call where
  /-- Look for the documents that pass a filter. -/
  | find (filter : Document)
  /-- Return only some fields. -/
  | project (projection : Option Document)
  /-- Sort the results. -/
  | sort (order : Document)
  /-- Pass over the first results. -/
  | skip (n : Nat)
  /-- Return at most so many results. -/
  | limit (n : Nat)
  /-- Send the results in batches of this size. -/
  | batchSize (n : Nat)
  /-- Ask for the first result. -/
  | first
  /-- Ask for a stream of all results. -/
  | openStream
  /-- Pull a result from the stream. -/
  | next
  /-- Find the stream at its end. -/
  | finish
  /-- Release the stream. -/
  | close
  /-- Hand a document to the mapper. -/
  | map (d : Document)

/-- Something that a running query does. -/
inductive Event where
  | notice (n : Notice)
  | call (c : Call)

namespace Event

/-- The notice, if the event is one. -/
def notice? : Event → Option Notice
  | notice n => some n
  | call _ => none

/-- The call, if the event is one. -/
def call? : Event → Option Call
  | notice _ => none
  | call c => some c

/-- Among notices there are the notices, and no call. -/
theorem filterMap_map_notice (ns : List Notice) :
    (ns.map notice).filterMap notice? = ns ∧ (ns.map notice).filterMap call? = [] := by
  simp [List.filterMap_map, Function.comp_def, notice?, call?]

/-- Among calls there are the calls, and no notice. -/
theorem filterMap_map_call (cs : List Call) :
    (cs.map call).filterMap call? = cs ∧ (cs.map call).filterMap notice? = [] := by
  simp [List.filterMap_map, Function.comp_def, notice?, call?]

end Event

end DocSelect
