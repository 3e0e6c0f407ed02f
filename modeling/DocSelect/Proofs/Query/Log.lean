/-
# What the log tells of a run

A query that is run writes to the log while it is compiled, before its request is sent and after all
results have arrived.  This file proves that what is written there is what has happened: the warning
counts the joins, the lines about the request show the three documents that the collection is given
in the same run, and the number of documents is that of the results pulled.  A query that does not
compile has written nothing but the warning and what the compiler says of its predicate.

The lines come from four functions.  What compiling leaves behind is the warning and one line at
most (`Query.records_compile_of_ok`), sending adds a line (`Query.notices_send_bind_of_ok`), and
behind that only a drained stream is heard of (`Run.notices_collect_map_ok`).  The lines are read
off the same equations as the calls, so that both are told of one and the same run.
-/
import DocSelect.Proofs.Compile.Records
import DocSelect.Proofs.Query.Results
import DocSelect.Proofs.Query.Unheard

namespace DocSelect

variable {α β : Type}

/-! ## The lines of the log -/

/-- A line of the log, with the attention that it asks for. -/
abbrev Line := Level × String

/-- The line for a notice. -/
def Notice.line (n : Notice) : Line :=
  (n.level, n.message)

namespace Outcome

/-- The notices among what was recorded. -/
def notices (o : Outcome Event α) : List Notice :=
  o.records.filterMap Event.notice?

/-- The lines that were written to the log. -/
def lines (o : Outcome Event α) : List Line :=
  o.notices.map Notice.line

end Outcome

/-! ## What the log should tell -/

/-- The documents of a request on one line. -/
def shownDocuments (filter : Document) (projection : Option Document) (sort : Document) : String :=
  "filter=" ++ filter.compact ++ " sort=" ++ sort.compact ++
    " projection=" ++ projection.elim "all" Document.compact

lemma Request.text_eq (r : Request) : r.text = shownDocuments r.filter r.projection r.sort := by
  rw [text, shownDocuments]
  cases r.projection with
  | none => rfl
  | some projection => rfl

/-- The words before the documents of a request that is about to be sent. -/
def Purpose.opening : Purpose → String
  | fetchAll => "Fetching with "
  | fetchFirst => "Fetching first with "
  | iterate => "Iterating with "

lemma line_sending (purpose : Purpose) (r : Request) :
    (Notice.sending purpose r).line =
      (.debug, purpose.opening ++ shownDocuments r.filter r.projection r.sort) := by
  rw [← r.text_eq]
  cases purpose with
  | _ => rfl

/-- Whether a call gives a document to the collection. -/
def Call.isDocument : Call → Bool
  | find _ => true
  | project _ => true
  | sort _ => true
  | _ => false

/-- What the log tells of the results, by what they were asked for, the items in the window and the
pulls from the stream.  There is a line only if all results have been asked for and no item is a
failure, and then it has the number of documents that were pulled. -/
inductive Arrives (purpose : Purpose) (items : List Item) (pulls : List Call) : List Line → Prop
  | fetched {ds : List Document} (hpurpose : purpose = .fetchAll) (hitems : items = ds.map .ok)
      (hpulls : pulls = List.replicate ds.length .next ++ [.finish]) :
      Arrives purpose items pulls [(.debug, "Fetched " ++ toString ds.length ++ " document(s)")]
  | nothing (h : purpose = .fetchAll → ∀ ds : List Document, items ≠ ds.map .ok) :
      Arrives purpose items pulls []

namespace Query

/-- The warning that joins are ignored, if there are any. -/
def warningLines (q : Query) : List Line :=
  match q.clauses.joins.length with
  | 0 => []
  | count => [(.warn, "Ignoring " ++ toString count ++
      " join(s): reference resolution is not supported by find")]

/-- The line for a compiled query with the given documents on it, if the log wants it. -/
def compiledLines (q : Query) (text : String) : List Line :=
  if q.config.logCompiled then [(.debug, "Compiled query: " ++ text)] else []

/-- `q.Logs purpose items o`: the outcome `o` of running `q` has left in the log what it should.

* If the query does not compile, there is the warning about joins, and behind it there may be what
  the compiler says of the predicate.
* If it does, the collection is given three documents.  Behind the warning they are shown once or
  twice, and at the end the log may tell that the results have arrived. -/
def Logs (q : Query) (purpose : Purpose) (items : List Item) (o : Ran α) : Prop :=
  match q.compile.result with
  | .error _ =>
    ∃ traces : List Line, o.lines = q.warningLines ++ traces ∧ ∀ line ∈ traces, line.1 = .trace
  | .ok _ =>
    ∃ (filter sort : Document) (projection : Option Document) (arrival : List Line),
      o.calls.filter Call.isDocument = [.find filter, .project projection, .sort sort] ∧
      Arrives purpose (q.clauses.window.view items) (o.calls.filter Call.isPull) arrival ∧
      o.lines = q.warningLines ++ q.compiledLines (shownDocuments filter projection sort) ++
        (.debug, purpose.opening ++ shownDocuments filter projection sort) :: arrival

end Query

/-! ## What is written where -/

namespace Query

variable {q : Query} {r : Request} {purpose : Purpose} {items : List Item}

lemma map_line_warnings (q : Query) : q.warnings.map Notice.line = q.warningLines := by
  rw [warnings, warningLines]
  cases q.clauses.joins with
  | nil => rfl
  | cons join joins => rfl

/-- Apart from the warning, a query is compiled by compiling its condition. -/
lemma compile_heard (q : Query) :
    q.heard.compile = filterOf q.clauses.condition >>= fun filter =>
      ⟨if q.config.logCompiled then [.compiled (q.request filter)] else [],
        .ok (q.request filter)⟩ := by
  have hcondition : q.heard.condition = pure q.clauses.condition := rfl
  rw [compile, hcondition, Outcome.pure_bind]
  congr 1
  funext filter
  show (if q.config.logCompiled then
    Outcome.record (Notice.compiled (q.request filter)) >>= fun _ => pure (q.request filter)
    else pure (q.request filter)) = _
  cases q.config.logCompiled with
  | _ => rfl

/-- A condition that can be compiled leaves nothing in the log. -/
lemma records_filterOf {condition : Option Expr} {filter : Document}
    (h : (filterOf condition).result = .ok filter) : (filterOf condition).records = [] := by
  cases condition with
  | none => rfl
  | some e => exact Expr.log_of_result_ok h

lemma level_of_mem_records_filterOf {condition : Option Expr} :
    ∀ notice ∈ (filterOf condition).records, notice.level = .trace := by
  cases condition with
  | none => exact List.forall_mem_nil _
  | some e => exact Expr.level_of_mem_log

/-- A query that does not compile leaves the warning and what the compiler says of its condition. -/
lemma records_compile_of_error {e : Error} (h : q.compile.result = .error e) :
    q.compile.records = q.warnings ++ (filterOf q.clauses.condition).records := by
  rw [compile_eq, Outcome.preceded, compile_heard] at h ⊢
  cases hfilter : (filterOf q.clauses.condition).result with
  | error e => rw [Outcome.bind_of_error hfilter]
  | ok filter =>
    rw [Outcome.bind_of_ok hfilter] at h
    cases h

/-- A query that compiles leaves the warning, and a line for its request if the log wants it. -/
lemma records_compile_of_ok (h : q.compile.result = .ok r) :
    q.compile.records = q.warnings ++ if q.config.logCompiled then [.compiled r] else [] := by
  obtain ⟨filter, hfilter, rfl⟩ := compile_eq_ok_iff.mp h
  rw [compile_eq, Outcome.preceded, compile_heard, Outcome.bind_of_ok hfilter,
    records_filterOf hfilter, List.nil_append]

/-- What is sent is written to the log. -/
lemma notices_send_bind_of_ok (h : q.compile.result = .ok r) (f : List Item → Ran α) :
    (q.send purpose items >>= f).notices =
      q.compile.records ++ .sending purpose r :: (f (q.answers r purpose items)).notices := by
  rw [send_of_ok h, Outcome.bind_of_ok rfl, Outcome.notices, List.filterMap_append,
    List.filterMap_append, (Event.filterMap_map_notice _).1, (Event.filterMap_map_call _).2,
    List.append_nil, List.append_assoc]
  rfl

lemma notices_send_bind_of_error {e : Error} (h : q.compile.result = .error e)
    (f : List Item → Ran α) : (q.send purpose items >>= f).notices = q.compile.records := by
  rw [send_of_error h, Outcome.bind_of_error (e := e) rfl, Outcome.notices,
    (Event.filterMap_map_notice _).1]

end Query

namespace Run

variable (mapper : Mapper β)

/-- A stream that does not fail is heard of at its end, whatever becomes of the documents. -/
lemma notices_collect_map_ok (ds : List Document) :
    (collect mapper (ds.map .ok)).notices = [.fetched ds.length] := by
  obtain ⟨mapped, hmapped⟩ := exists_records_mapAll mapper ds
  rw [collect_map_ok, hmapped, Outcome.notices, List.filterMap_append,
    (Event.filterMap_map_call _).2, List.nil_append, List.filterMap_cons,
    (Event.filterMap_map_call _).2]
  rfl

/-- A stream that fails is not heard of. -/
lemma notices_collect_of_error (ds : List Document) (message : String) (rest : List Item) :
    (collect mapper (ds.map .ok ++ .error message :: rest)).notices = [] := by
  rw [collect_of_error, Outcome.notices, (Event.filterMap_map_call _).2]

lemma notices_lead (items : List Item) : (lead mapper items).notices = [] := by
  rw [lead_eq, Outcome.notices, (Event.filterMap_map_call _).2]

lemma notices_stream (bound : Option Nat) (items : List Item) :
    (stream mapper bound items).notices = [] := by
  rw [stream, Outcome.bind_of_ok (a := ()) rfl, pull_eq, Outcome.notices, List.filterMap_append,
    (Event.filterMap_map_call _).2]
  rfl

end Run

/-! ## The log is right -/

/-- A request gives three documents to the collection. -/
lemma filter_isDocument_calls (config : Config) (r : Request) (purpose : Purpose) :
    (Run.calls config r purpose).filter Call.isDocument =
      [.find r.filter, .project r.projection, .sort r.sort] := by
  have hskips : (r.offset.toList.map Call.skip).filter Call.isDocument = [] := by
    simp [Call.isDocument]
  have hlimits : (if purpose = .fetchFirst then [] else r.limit.toList.map Call.limit).filter
      Call.isDocument = [] := by
    split
    · rfl
    · simp [Call.isDocument]
  have hbatches : (config.batchSize.toList.map Call.batchSize).filter Call.isDocument = [] := by
    simp [Call.isDocument]
  rw [Run.calls, List.filter_append, List.filter_append, List.filter_append, hskips, hlimits,
    hbatches]
  rfl

/-- The documents of a conversation are those of its request. -/
lemma Conversation.filter_isDocument {config : Config} {r : Request} {purpose : Purpose}
    {cs : List Call} (h : Conversation config r purpose cs) :
    cs.filter Call.isDocument = [.find r.filter, .project r.projection, .sort r.sort] := by
  obtain ⟨ending, rfl, hending⟩ := h.exists_ending
  have hnone : ending.filter Call.isDocument = [] := by
    rw [List.filter_eq_nil_iff]
    intro c hc hdocument
    have hstage := hending c hc
    cases c with
    | find | project | sort => cases hstage
    | _ => cases hdocument
  rw [List.filter_append, filter_isDocument_calls, hnone, List.append_nil]

namespace Query

variable {q : Query} {r : Request} {purpose : Purpose} {items : List Item}

/-- A query that sends its request and then follows `f` has written what it should, if `f` tells
what it should of the results. -/
lemma logs_send_bind {f : List Item → Ran α}
    (hconverses : q.Converses purpose (q.send purpose items >>= f))
    (hf : ∀ r, q.compile.result = .ok r →
      Arrives purpose (q.clauses.window.view items)
        ((q.send purpose items >>= f).calls.filter Call.isPull)
        ((f (q.answers r purpose items)).notices.map Notice.line)) :
    q.Logs purpose items (q.send purpose items >>= f) := by
  rw [Logs]
  rw [Converses] at hconverses
  cases hcompile : q.compile.result with
  | error e =>
    refine ⟨(filterOf q.clauses.condition).records.map Notice.line, ?_, ?_⟩
    · rw [Outcome.lines, notices_send_bind_of_error hcompile, records_compile_of_error hcompile,
        List.map_append, map_line_warnings]
    · intro line hline
      obtain ⟨notice, hnotice, rfl⟩ := List.mem_map.mp hline
      exact level_of_mem_records_filterOf notice hnotice
  | ok r =>
    rw [hcompile] at hconverses
    refine ⟨r.filter, r.sort, r.projection, _, hconverses.filter_isDocument, hf r hcompile, ?_⟩
    have hcompiled : (if q.config.logCompiled then [Notice.compiled r] else []).map Notice.line =
        q.compiledLines (shownDocuments r.filter r.projection r.sort) := by
      rw [compiledLines, ← r.text_eq]
      cases q.config.logCompiled with
      | _ => rfl
    rw [Outcome.lines, notices_send_bind_of_ok hcompile, records_compile_of_ok hcompile,
      List.map_append, List.map_append, List.map_cons, map_line_warnings, hcompiled, line_sending]

lemma Logs.map {o : Ran α} (h : q.Logs purpose items o) (f : α → β) :
    q.Logs purpose items (f <$> o) := by
  rw [Logs] at h ⊢
  rw [Outcome.map_eq]
  exact h

end Query

/-- A drained stream is heard of exactly if none of its items is a failure. -/
lemma Fetched.arrives {mapper : Mapper β} {items : List Item} {answer : Except Error (List β)}
    {pulls : List Call} {mapped : List Document} (h : Fetched mapper items answer pulls mapped) :
    Arrives .fetchAll items pulls ((Run.collect mapper items).notices.map Notice.line) := by
  cases h with
  | broken ds message rest =>
    rw [Run.notices_collect_of_error]
    exact .nothing fun _ ds' heq => map_ok_ne_append_error ds' _ message rest heq.symm
  | refused after hbefore hd =>
    rw [Run.notices_collect_map_ok]
    exact .fetched rfl rfl rfl
  | complete hds =>
    rw [Run.notices_collect_map_ok]
    exact .fetched rfl rfl rfl

namespace Step

/-- What a step that runs a query writes to the log. -/
lemma Runs.logs_answer {step : Step} {purpose : Purpose} {paths : Option (List Path)}
    (h : step.Runs purpose paths) (q : Query) (mapper : Mapper β) (items : List Item) :
    q.Logs purpose items (step.answer q mapper items) := by
  have hfetch : q.Logs .fetchAll items (q.fetch mapper items) := by
    refine Query.logs_send_bind (f := Run.collect mapper) ?_ fun r hr => ?_
    · exact Query.converses_send_bind fun r answers => .of_collect mapper answers
    · rw [Query.answers_eq_view hr (by decide) items]
      exact (Query.fetched_of_compile hr mapper items).arrives
  have hfetchOne : q.Logs .fetchFirst items (q.fetchOne mapper items) := by
    refine Query.logs_send_bind (f := Run.lead mapper) ?_ fun r hr => ?_
    · exact Query.converses_send_bind fun r answers => .of_lead mapper answers
    · rw [Run.notices_lead]
      exact .nothing fun hpurpose => absurd hpurpose (by decide)
  cases h with
  | fetch => exact hfetch.map Reply.results
  | fetchProjected paths => exact hfetch.map Reply.results
  | fetchOne => exact hfetchOne.map Reply.first
  | fetchOneProjected paths => exact hfetchOne.map Reply.first
  | iterate paths bound =>
    refine Query.Logs.map (o := q.iterate mapper bound items) ?_ Reply.pulled
    refine Query.logs_send_bind (f := Run.stream mapper bound) ?_ fun r hr => ?_
    · exact Query.converses_send_bind fun r answers => .of_stream mapper bound answers
    · rw [Run.notices_stream]
      exact .nothing fun hpurpose => absurd hpurpose (by decide)

/-- **The log is faithful.**  Take a step that runs a query, in any state of it.  The log begins
with the number of joins, if there are any.  If the query does not compile, nothing is written
behind this but what the compiler says of the predicate.  If it does, the log shows, once or twice
as configured, the documents that the collection is given in this step; and a fetch whose window
holds no failure then tells how many documents have been pulled, whatever the mapper makes of
them. -/
theorem logs_take {step : Step} {purpose : Purpose} {paths : Option (List Path)}
    (h : step.Runs purpose paths) (q : Query) (mapper : Mapper β) (items : List Item) :
    (q.selecting paths).Logs purpose items (step.take q mapper items).2 := by
  rw [h.take_eq]
  exact h.logs_answer (q.selecting paths) mapper items

/-- The query with all stages, joined, with its requests in the log, and behind all but the last two
items. -/
def watched : Query :=
  allStages.after
    [.join .inner (.path (.property (.root "user") "pet")) none, .offset 2,
      .configure { logCompiled := true }]

/-- The second document has no name, so the fetch fails behind its last line in the log. -/
theorem logs_take_watched :
    Step.Runs .fetch .fetchAll none ∧
    (watched.selecting none).Logs .fetchAll brokenItems
      (Step.fetch.take watched Query.nameOf brokenItems).2 ∧
    (Step.fetch.take watched Query.nameOf brokenItems).2.result =
      .error (.mapping "missing name") ∧
    (Step.fetch.take watched Query.nameOf brokenItems).2.lines =
      [(.warn, "Ignoring 1 join(s): reference resolution is not supported by find"),
        (.debug, "Compiled query: " ++
          "filter=\x7b\"age\":\x7b\"$exists\":true\x7d\x7d sort=\x7b\"age\":-1\x7d projection=all"),
        (.debug, "Fetching with " ++
          "filter=\x7b\"age\":\x7b\"$exists\":true\x7d\x7d sort=\x7b\"age\":-1\x7d projection=all"),
        (.debug, "Fetched 2 document(s)")] :=
  ⟨.fetch, logs_take .fetch watched Query.nameOf brokenItems, rfl, rfl⟩

end Step

end DocSelect
