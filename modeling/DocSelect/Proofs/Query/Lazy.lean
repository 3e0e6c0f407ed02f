/-
# Results that are pulled one by one

Whoever iterates over the results of a query opens a stream and pulls as often as it pleases.  This
file says what happens in between.  A stream of items comes down to a sequence of rounds, one for
every pull: an item is pulled, and if it is a document it is mapped at once (`Run.rounds`).  The
last round finds the stream at its end.  What the rounds yield is an entry for every item, and then
the notice that there are no more (`Run.yields`).

The stream is lazy, since so many pulls make so many rounds from the beginning and no other call
(`Run.pull_eq_rounds`).  And no failure ends it, for the rounds that are to come do not depend on
what those before them have yielded.
-/
import Mathlib.Data.List.Basic
import DocSelect.Proofs.Query.Results

namespace DocSelect

variable {α β : Type}

namespace Run

/-! ## Bounded lists -/

/-- The last of the items is pulled if the end of those before it is found. -/
lemma pulled_concat (bound : Option Nat) (as : List α) (a : α) :
    pulled bound (as ++ [a]) = pulled bound as ++ if isExhausted bound as then [a] else [] := by
  cases bound with
  | none => rfl
  | some n =>
    show (as ++ [a]).take n = as.take n ++ if decide (as.length < n) then [a] else []
    by_cases hn : as.length < n
    · have hwhole : (as ++ [a]).length ≤ n := by
        rw [List.length_append]
        exact hn
      rw [List.take_of_length_le hwhole, List.take_of_length_le (Nat.le_of_lt hn),
        decide_eq_true hn, if_pos rfl]
    · rw [List.take_append_of_le_length (Nat.le_of_not_lt hn), decide_eq_false hn,
        if_neg Bool.false_ne_true, List.append_nil]

lemma pulled_map (bound : Option Nat) (f : α → β) (as : List α) :
    pulled bound (as.map f) = (pulled bound as).map f := by
  cases bound with
  | none => rfl
  | some n => exact List.map_take.symm

lemma isExhausted_map (bound : Option Nat) (f : α → β) (as : List α) :
    isExhausted bound (as.map f) = isExhausted bound as := by
  rw [isExhausted, List.length_map, isExhausted]

/-! ## Rounds -/

/-- The calls for one item: it is pulled, and if it is a document it is mapped at once. -/
def round (item : Item) : List Call :=
  .next :: mapping item

/-- The calls of all pulls from a stream, pull by pull.  The last pull finds it at its end. -/
def rounds (items : List Item) : List (List Call) :=
  items.map round ++ [[.finish]]

/-- What all pulls from a stream yield, pull by pull.  The last pull yields nothing. -/
def yields (mapper : Mapper β) (items : List Item) : List (Option (Except Error β)) :=
  items.map (some ∘ entry mapper) ++ [none]

variable (bound : Option Nat) (items : List Item)

/-- The rounds that are gone through, call by call. -/
lemma flatten_pulled_rounds :
    (pulled bound (rounds items)).flatten =
      (pulled bound items).flatMap round ++ if isExhausted bound items then [.finish] else [] := by
  rw [rounds, pulled_concat, isExhausted_map, pulled_map, List.flatten_append, List.flatMap_def]
  cases isExhausted bound items with
  | true => rfl
  | false => rfl

/-- To pull is to go through the rounds from the beginning, and to release the stream. -/
lemma pull_eq_rounds (mapper : Mapper β) :
    pull mapper bound items =
      ⟨((pulled bound (rounds items)).flatten ++ [Call.close]).map Event.call,
        .ok (pulled bound (yields mapper items))⟩ := by
  rw [pull_eq, flatten_pulled_rounds, yields, pulled_concat, isExhausted_map, pulled_map]
  cases isExhausted bound items with
  | true =>
    rw [if_pos rfl, if_pos rfl, if_pos rfl, List.append_assoc]
    rfl
  | false =>
    simp only [if_neg Bool.false_ne_true, List.append_nil]
    rfl

/-- The pulls in the rounds: one for each item, and one for the end if it is found. -/
lemma filter_isPull_rounds :
    (pulled bound (rounds items)).flatten.filter Call.isPull =
      List.replicate (pulled bound items).length .next ++
        if isExhausted bound items then [.finish] else [] := by
  have hround : ∀ item : Item, (round item).filter Call.isPull = [.next] := by
    intro item
    cases item with
    | ok d => rfl
    | error message => rfl
  have hend : (if isExhausted bound items then [Call.finish] else []).filter Call.isPull =
      if isExhausted bound items then [.finish] else [] := by
    cases isExhausted bound items with
    | true => rfl
    | false => rfl
  rw [flatten_pulled_rounds, List.filter_append, List.filter_flatMap, hend]
  simp only [hround]
  rw [← List.map_eq_flatMap, List.map_const']

/-- The documents that are mapped in the rounds: those among the items that are pulled. -/
lemma filterMap_document?_rounds :
    (pulled bound (rounds items)).flatten.filterMap Call.document? =
      (pulled bound items).filterMap Except.toOption := by
  have hround : ∀ item : Item,
      (round item).filterMap Call.document? = (Except.toOption item).toList := by
    intro item
    cases item with
    | ok d => rfl
    | error message => rfl
  have hend : (if isExhausted bound items then [Call.finish] else []).filterMap Call.document? =
      [] := by
    cases isExhausted bound items with
    | true => rfl
    | false => rfl
  rw [flatten_pulled_rounds, List.filterMap_append, List.filterMap_flatMap, hend, List.append_nil]
  simp only [hround]
  exact (List.filterMap_eq_flatMap_toList _ _).symm

end Run

/-! ## Streams of a query -/

/-- How `n` pulls from a stream of items turn out, after the calls that opened it.

* They yield what the first `n` pulls of all would yield.
* The calls are those of the first `n` rounds.  So there are as many pulls as there are items, at
  most `n`, and one more that finds the end if it comes before the last pull.
* The documents among the items that were pulled are mapped, once each and in their order, and the
  mapper sees nothing else. -/
structure Lazily (mapper : Mapper β) (items : List Item) (opening : List Call) (n : Nat)
    (o : Ran (Reply β)) : Prop where
  result_eq : o.result = .ok (.pulled ((Run.yields mapper items).take n))
  calls_eq : o.calls = opening ++ ((Run.rounds items).take n).flatten ++ [.close]
  pulls_eq : o.calls.filter Call.isPull =
    List.replicate (min n items.length) .next ++ if items.length < n then [.finish] else []
  documents_eq : o.calls.filterMap Call.document? = (items.take n).filterMap Except.toOption

/-- Pulls after a request that has been put by its stages. -/
lemma lazily_of_calls {mapper : Mapper β} {items : List Item} {config : Config} {r : Request}
    {n : Nat} {o : Ran (Reply β)}
    (hresult : o.result = .ok (.pulled ((Run.yields mapper items).take n)))
    (hcalls : o.calls = Run.calls config r .iterate ++ [.openStream] ++
      ((Run.rounds items).take n).flatten ++ [.close]) :
    Lazily mapper items (Run.calls config r .iterate ++ [.openStream]) n o := by
  have hpulls := Run.filter_isPull_rounds (some n) items
  have hdocuments := Run.filterMap_document?_rounds (some n) items
  simp only [Run.pulled, Run.isExhausted, Option.elim_some, Option.all_some, decide_eq_true_eq,
    List.length_take] at hpulls hdocuments
  constructor
  case result_eq => exact hresult
  case calls_eq => exact hcalls
  case pulls_eq =>
    rw [hcalls, List.filter_append, List.filter_append, List.filter_append, filter_isPull_calls,
      hpulls]
    exact List.append_nil _
  case documents_eq =>
    rw [hcalls, List.filterMap_append, List.filterMap_append, List.filterMap_append,
      filterMap_document?_calls, hdocuments]
    exact List.append_nil _

namespace Step

/-- What an iteration over a query that compiles comes to. -/
lemma take_iterate_of_ok {q : Query} {r : Request} {paths : List Path}
    (h : (q.selecting (some paths)).compile.result = .ok r) (bound : Option Nat)
    (mapper : Mapper β) (items : List Item) :
    let o := ((Step.iterate paths bound).take q mapper items).2
    let window := q.clauses.window.view items
    o.result = .ok (.pulled (Run.pulled bound (Run.yields mapper window))) ∧
    o.calls = Run.calls q.config r .iterate ++ [.openStream] ++
      (Run.pulled bound (Run.rounds window)).flatten ++ [.close] := by
  intro o window
  have ho : o = Reply.pulled <$> (q.selecting (some paths)).iterate mapper bound items := by
    show ((Step.iterate paths bound).take q mapper items).2 = _
    rw [(Runs.iterate paths bound).take_eq]
    rfl
  obtain ⟨hcalls, hresult⟩ := Query.iterate_of_ok h mapper bound items
  rw [ho, Outcome.map_eq]
  constructor
  · show ((q.selecting (some paths)).iterate mapper bound items).result.map Reply.pulled = _
    rw [hresult, Run.pull_eq_rounds]
    rfl
  · show ((q.selecting (some paths)).iterate mapper bound items).calls = _
    rw [hcalls, Run.pull_eq_rounds, Outcome.calls, (Event.filterMap_map_call _).1]
    simp only [List.append_assoc, List.singleton_append]
    rfl

/-- **Iterating is lazy, and failures do not end it.**  Let the predicate of a query compile.  To
iterate over some paths to the end yields an entry for every item in the window, in their order:
what the mapper makes of a document, or the failure that the collection reports.  Each item is
pulled in a round of its own, in which it is mapped if it is a document.  To pull no more than a
number of times is to go through as many of these rounds from the beginning, and to get as many of
these entries.  In particular a stream that is only opened pulls and maps nothing. -/
theorem lazily_iterate {q : Query} {filter : Document}
    (h : (Query.filterOf q.clauses.condition).result = .ok filter) (paths : List Path)
    (mapper : Mapper β) (items : List Item) :
    let selected := q.selecting (some paths)
    let window := q.clauses.window.view items
    let opening := Run.calls selected.config (selected.request filter) .iterate ++ [.openStream]
    let drained := ((Step.iterate paths none).take q mapper items).2
    drained.result = .ok (.pulled (Run.yields mapper window)) ∧
    drained.calls = opening ++ (Run.rounds window).flatten ++ [.close] ∧
    ∀ n : Nat, Lazily mapper window opening n
      ((Step.iterate paths (some n)).take q mapper items).2 := by
  intro selected window opening drained
  have hcompile : selected.compile.result = .ok (selected.request filter) :=
    Query.compile_eq_ok_iff.mpr ⟨filter, h, rfl⟩
  obtain ⟨hresult, hcalls⟩ := take_iterate_of_ok hcompile none mapper items
  refine ⟨hresult, hcalls, fun n => ?_⟩
  obtain ⟨hresult, hcalls⟩ := take_iterate_of_ok hcompile (some n) mapper items
  exact lazily_of_calls hresult hcalls

/-- Both items in the window come to a failure, one for the mapper and one of the collection.  The
third pull finds the end. -/
theorem lazily_iterate_allStages :
    let items : List Item :=
      [.error "before the window", .ok [], .error "reset", .ok [("name", .str "Bob")]]
    let paths : List Path := [.property (.root "user") "name"]
    let opening : List Call :=
      [.find (Filter.present "age" true), .project (some [("name", .int 1)]),
        .sort [("age", .int (-1))], .skip 1, .limit 2, .batchSize 5, .openStream]
    let pulled := ((Step.iterate paths (some 3)).take allStages Query.nameOf items).2
    (Query.filterOf allStages.clauses.condition).result = .ok (Filter.present "age" true) ∧
    Lazily Query.nameOf [.ok [], .error "reset"] opening 3 pulled ∧
    pulled.calls = opening ++ [.next, .map [], .next, .finish, .close] ∧
    pulled.result = .ok (.pulled
      [some (.error (.mapping "missing name")), some (.error (.execution "reset")), none]) := by
  intro items paths opening pulled
  have hfilter : (Query.filterOf allStages.clauses.condition).result =
      .ok (Filter.present "age" true) := rfl
  have hlazily : Lazily Query.nameOf [.ok [], .error "reset"] opening 3 pulled :=
    (lazily_iterate hfilter paths Query.nameOf items).2.2 3
  exact ⟨hfilter, hlazily, hlazily.calls_eq, hlazily.result_eq⟩

end Step

end DocSelect
