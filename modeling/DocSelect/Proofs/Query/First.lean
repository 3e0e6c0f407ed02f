/-
# The first result and all results

A query can be asked for its first result alone.  Such a request carries the offset but not the
limit, the collection answers it with one item instead of a stream, and at most one document is
mapped.  Even so the first result is the first of all results, as long as the limit leaves room for
one (`Query.Heads`).

The two disagree in one respect.  If the first document of the window is refused by the mapper, the
first result fails with this refusal; but all results are read before any is mapped, so that a
failure of the collection further down in the window takes its place (`Query.Fails`).

Both requests are answered from the same window, of which the first one sees the head
(`Window.head?_view`).
-/
import DocSelect.Proofs.Query.Results

namespace DocSelect

variable {α β : Type}

/-- Unless the limit is zero, the first item in the window is the first one behind the offset. -/
lemma Window.head?_view {w : Window} (h : w.limit ≠ some 0) (items : List α) :
    (w.view items).head? = (items.drop (w.offset.getD 0)).head? := by
  rw [view]
  cases hlimit : w.limit with
  | none => rfl
  | some n =>
    have hn : n ≠ 0 := fun h0 => h (by rw [hlimit, h0])
    show ((items.drop (w.offset.getD 0)).take n).head? = _
    rw [List.head?_take, if_neg hn]

namespace Query

variable {q : Query} {r : Request}

/-- The items that answer a request for the first result are those behind the offset. -/
lemma answers_fetchFirst (h : q.compile.result = .ok r) (items : List Item) :
    q.answers r .fetchFirst items = items.drop (q.clauses.window.offset.getD 0) := by
  have hwindow := window_of_compile h
  rw [← hwindow, answers, Run.calls, if_pos rfl]
  cases r.offset with
  | none => cases q.config.batchSize with | _ => rfl
  | some k => cases q.config.batchSize with | _ => rfl

/-- The first result of a query that compiles is decided by the first item in its window. -/
lemma result_fetchOne_of_ok (h : q.compile.result = .ok r)
    (hlimit : q.clauses.window.limit ≠ some 0) (mapper : Mapper β) (items : List Item) :
    (q.fetchOne mapper items).result =
      (q.clauses.window.view items).head?.elim (.ok none) fun item =>
        (Run.entry mapper item).map some := by
  have hresult : (q.fetchOne mapper items).result =
      (Run.lead mapper (q.answers r .fetchFirst items)).result :=
    (send_bind_of_ok h (Run.lead mapper)).2
  rw [hresult, answers_fetchFirst h, Run.lead_eq, Window.head?_view hlimit]

/-! ## Failures -/

/-- `q.Fails mapper items e e'`: there is a reason for which the first result fails with `e`, and
all results then fail with `e'`. -/
inductive Fails (q : Query) (mapper : Mapper β) (items : List Item) : Error → Error → Prop
  /-- The query does not compile. -/
  | compilation {e : Error} (h : q.compile.result = .error e) : Fails q mapper items e e
  /-- The collection fails on the first item in the window. -/
  | collection {message : String} {rest : List Item}
      (h : q.clauses.window.view items = .error message :: rest) :
      Fails q mapper items (.execution message) (.execution message)
  /-- The mapper refuses the first document, and the collection does not fail. -/
  | refusal {d : Document} {ds : List Document} {e : Error}
      (h : q.clauses.window.view items = (d :: ds).map .ok) (hd : mapper d = .error e) :
      Fails q mapper items e e
  /-- The mapper refuses the first document, but the collection fails on an item behind it. -/
  | behind {d : Document} {ds : List Document} {message : String} {rest : List Item} {e : Error}
      (h : q.clauses.window.view items = (d :: ds).map .ok ++ .error message :: rest)
      (hd : mapper d = .error e) :
      Fails q mapper items e (.execution message)

/-- How the first result stands to all results.

* If there are results, the first of them is the first result.
* If there are none, there is no first result.
* If the first result fails, they fail as well, and with the same failure unless the mapper is the
  reason and the collection fails further down in the window. -/
structure Heads (q : Query) (mapper : Mapper β) (items : List Item)
    (first : Except Error (Option β)) (all : Except Error (List β)) : Prop where
  of_cons : ∀ (b : β) (bs : List β), all = .ok (b :: bs) → first = .ok (some b)
  of_nil : all = .ok [] → first = .ok none
  of_error : ∀ e : Error, first = .error e → ∃ e', all = .error e' ∧ Fails q mapper items e e'

/-- What fails after a function has been applied has failed before. -/
lemma eq_error_of_map {ε : Type} {f : α → β} {x : Except ε α} {e : ε} (h : x.map f = .error e) :
    x = .error e := by
  cases x with
  | ok a => cases h
  | error e' =>
    cases h
    rfl

/-- All results of a query whose window begins with an item that comes to a failure. -/
lemma exists_fails_of_cons (h : q.compile.result = .ok r) {mapper : Mapper β} {items : List Item}
    {item : Item} {rest : List Item} {e : Error}
    (hview : q.clauses.window.view items = item :: rest)
    (hitem : Run.entry mapper item = .error e) :
    ∃ e', (q.fetch mapper items).result = .error e' ∧ Fails q mapper items e e' := by
  have hagreement := (fetched_of_compile h mapper items).agreement
  cases item with
  | error message =>
    cases hitem
    exact ⟨_, (hagreement.of_failure [] message rest hview).2, .collection hview⟩
  | ok d =>
    rcases exists_eq_map_ok_or_error rest with ⟨ds, rfl⟩ | ⟨ds, message, rest, rfl⟩
    · have hentries : (q.clauses.window.view items).map (Run.entry mapper) =
          ([] : List β).map .ok ++ .error e :: (ds.map .ok).map (Run.entry mapper) := by
        rw [hview, List.map_cons, hitem]
        rfl
      exact ⟨e, hagreement.of_refusal (d :: ds) [] e _ hview hentries, .refusal hview hitem⟩
    · exact ⟨_, (hagreement.of_failure (d :: ds) message rest hview).2, .behind hview hitem⟩

/-- The first result and all results of a query that does not compile. -/
lemma heads_of_error {e : Error} (h : q.compile.result = .error e) (mapper : Mapper β)
    (items : List Item) :
    q.Heads mapper items (q.fetchOne mapper items).result (q.fetch mapper items).result := by
  have hfirst : (q.fetchOne mapper items).result = .error e :=
    (send_bind_of_error h (Run.lead mapper)).2
  have hall : (q.fetch mapper items).result = .error e :=
    (send_bind_of_error h (Run.collect mapper)).2
  rw [hfirst, hall]
  constructor
  case of_cons => intro b bs heq; cases heq
  case of_nil => intro heq; cases heq
  case of_error =>
    rintro _ ⟨rfl⟩
    exact ⟨e, rfl, .compilation h⟩

/-- The first result and all results of a query that compiles. -/
lemma heads_of_compile (h : q.compile.result = .ok r) (hlimit : q.clauses.window.limit ≠ some 0)
    (mapper : Mapper β) (items : List Item) :
    q.Heads mapper items (q.fetchOne mapper items).result (q.fetch mapper items).result := by
  have hagreement := (fetched_of_compile h mapper items).agreement
  have hfirst := result_fetchOne_of_ok h hlimit mapper items
  constructor
  case of_cons =>
    intro b bs hall
    obtain ⟨item, rest, hview, hitem, -⟩ :=
      List.map_eq_cons_iff.mp ((hagreement.eq_ok_iff (b :: bs)).mp hall)
    rw [hfirst, hview, List.head?_cons, Option.elim_some, hitem]
    rfl
  case of_nil =>
    intro hall
    have hview := List.map_eq_nil_iff.mp ((hagreement.eq_ok_iff []).mp hall)
    rw [hfirst, hview]
    rfl
  case of_error =>
    intro e herror
    rw [hfirst] at herror
    cases hview : q.clauses.window.view items with
    | nil =>
      rw [hview] at herror
      cases herror
    | cons item rest =>
      rw [hview, List.head?_cons, Option.elim_some] at herror
      exact exists_fails_of_cons h hview (eq_error_of_map herror)

/-- The first result of a query and all its results, where the limit leaves room for one. -/
lemma heads_fetchOne (q : Query) (hlimit : q.clauses.window.limit ≠ some 0) (mapper : Mapper β)
    (items : List Item) :
    q.Heads mapper items (q.fetchOne mapper items).result (q.fetch mapper items).result := by
  cases hcompile : q.compile.result with
  | error e => exact heads_of_error hcompile mapper items
  | ok r => exact heads_of_compile hcompile hlimit mapper items

end Query

namespace Step

/-- **The first result is the first of all.**  Take a query whose limit is not zero, and ask it on
the one hand for its first result and on the other hand for all results, both times with the same
paths to select, if any.  Then what comes of the first request is told by what comes of the second
one as `Query.Heads` says. -/
theorem heads_take {one all : Step} {paths : Option (List Path)}
    (hone : one.Runs .fetchFirst paths) (hall : all.Runs .fetchAll paths) (q : Query)
    (hlimit : q.clauses.window.limit ≠ some 0) (mapper : Mapper β) (items : List Item) :
    ∃ (first : Except Error (Option β)) (results : Except Error (List β)),
      (one.take q mapper items).2.result = first.map .first ∧
      (all.take q mapper items).2.result = results.map .results ∧
      (q.selecting paths).Heads mapper items first results := by
  have hselecting : (q.selecting paths).clauses.window.limit ≠ some 0 := by
    cases paths with
    | none => exact hlimit
    | some paths => exact hlimit
  refine ⟨_, _, ?_, ?_, (q.selecting paths).heads_fetchOne hselecting mapper items⟩
  · rw [hone.take_eq]
    cases hone with
    | _ => exact Outcome.result_map Reply.first _
  · rw [hall.take_eq]
    cases hall with
    | _ => exact Outcome.result_map Reply.results _

/-- The first document in the window has no name, and behind it the collection fails. -/
theorem heads_take_allStages :
    let items : List Item :=
      [.error "before the window", .ok [], .error "reset", .ok [("name", .str "Bob")]]
    let paths : List Path := [.property (.root "user") "name"]
    allStages.clauses.window.limit ≠ some 0 ∧
    ((Step.fetchOneProjected paths).take allStages Query.nameOf items).2.result =
      .error (.mapping "missing name") ∧
    ((Step.fetchProjected paths).take allStages Query.nameOf items).2.result =
      .error (.execution "reset") ∧
    ∃ (first : Except Error (Option Json)) (results : Except Error (List Json)),
      ((Step.fetchOneProjected paths).take allStages Query.nameOf items).2.result =
        first.map .first ∧
      ((Step.fetchProjected paths).take allStages Query.nameOf items).2.result =
        results.map .results ∧
      (allStages.selecting (some paths)).Heads Query.nameOf items first results :=
  ⟨by decide, rfl, rfl,
    heads_take (.fetchOneProjected _) (.fetchProjected _) allStages (by decide) Query.nameOf _⟩

end Step

end DocSelect
