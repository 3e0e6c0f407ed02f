/-
# The results of a query

A collection that is asked for results has a list of items in store, documents and failures.  The
offset passes over the first of them, and of the others no more than the limit are kept
(`Window.view`).  This file says what becomes of the items that are left.

* A fetch has three ways to end (`Fetched`).  The first failure of the collection ends it before any
  document is mapped, even one whose mapping would fail; without such a failure the first document
  that the mapper refuses ends it; and otherwise its answer is the results of all documents.
* Results that are pulled one by one are the same, each in its place, and the failures stand among
  them.  From these entries the answer of a fetch can be told (`Agreement`).

Both come down to the two equations of a drained stream and the two of a mapped list, one each for
the case without a failure and one for the first failure.
-/
import DocSelect.Proofs.Query.Conversation

namespace DocSelect

variable {α β : Type}

/-! ## The window -/

/-- The items in a window: the first ones are passed over, and of the others no more than the limit
are kept. -/
def Window.view (w : Window) (items : List α) : List α :=
  let rest := items.drop (w.offset.getD 0)
  w.limit.elim rest rest.take

namespace Query

variable {q : Query} {r : Request}

/-- A query compiles exactly if its predicate does, and then its request has the filter of it. -/
lemma compile_eq_ok_iff :
    q.compile.result = .ok r ↔
      ∃ filter, (filterOf q.clauses.condition).result = .ok filter ∧ q.request filter = r := by
  rw [result_compile]
  cases (filterOf q.clauses.condition).result with
  | error e =>
    constructor
    · intro h
      cases h
    · rintro ⟨filter, hfilter, -⟩
      cases hfilter
  | ok filter =>
    constructor
    · intro h
      exact ⟨filter, rfl, Except.ok.inj h⟩
    · rintro ⟨_, hfilter, rfl⟩
      cases hfilter
      rfl

/-- The window of a request is that of the query. -/
lemma window_of_compile (h : q.compile.result = .ok r) :
    (⟨r.limit, r.offset⟩ : Window) = q.clauses.window := by
  obtain ⟨filter, -, rfl⟩ := compile_eq_ok_iff.mp h
  rfl

/-- The items that answer a request for all results are those in the window. -/
lemma answers_eq_view (h : q.compile.result = .ok r) {purpose : Purpose}
    (hpurpose : purpose ≠ .fetchFirst) (items : List Item) :
    q.answers r purpose items = q.clauses.window.view items := by
  have hwindow := window_of_compile h
  rw [← hwindow, answers, Run.calls, if_neg hpurpose]
  cases r.offset with
  | none =>
    cases r.limit with
    | none => cases q.config.batchSize with | _ => rfl
    | some n => cases q.config.batchSize with | _ => rfl
  | some k =>
    cases r.limit with
    | none => cases q.config.batchSize with | _ => rfl
    | some n => cases q.config.batchSize with | _ => rfl

end Query

/-! ## Calls of a kind -/

namespace Call

/-- Whether a call is a stage of a request. -/
def isStage : Call → Bool
  | find _ => true
  | project _ => true
  | sort _ => true
  | skip _ => true
  | limit _ => true
  | batchSize _ => true
  | _ => false

/-- The document that a call hands to the mapper. -/
def document? : Call → Option Document
  | map d => some d
  | _ => none

lemma isPull_of_isStage {c : Call} (h : c.isStage) : c.isPull = false := by
  cases c with
  | next => cases h
  | finish => cases h
  | _ => rfl

lemma document?_of_isStage {c : Call} (h : c.isStage) : c.document? = none := by
  cases c with
  | map d => cases h
  | _ => rfl

lemma isStage_of_isPull {c : Call} (h : c.isPull) : c.isStage = false := by
  cases c with
  | next => rfl
  | finish => rfl
  | _ => cases h

lemma isStage_of_isMap {c : Call} (h : c.isMap) : c.isStage = false := by
  cases c with
  | map d => rfl
  | _ => cases h

end Call

/-- A request is put by its stages alone. -/
lemma isStage_of_mem_calls {config : Config} {r : Request} {purpose : Purpose} :
    ∀ c ∈ Run.calls config r purpose, c.isStage := by
  intro c hc
  simp only [Run.calls, List.mem_append] at hc
  rcases hc with ((hc | hc) | hc) | hc
  · -- the three documents
    simp only [List.mem_cons, List.not_mem_nil, or_false] at hc
    rcases hc with rfl | rfl | rfl <;> rfl
  · obtain ⟨n, -, rfl⟩ := List.mem_map.mp hc
    rfl
  · split at hc
    · cases hc
    · obtain ⟨n, -, rfl⟩ := List.mem_map.mp hc
      rfl
  · obtain ⟨n, -, rfl⟩ := List.mem_map.mp hc
    rfl

/-- To put a request is not to pull anything yet. -/
lemma filter_isPull_calls (config : Config) (r : Request) (purpose : Purpose) :
    (Run.calls config r purpose).filter Call.isPull = [] := by
  rw [List.filter_eq_nil_iff]
  intro c hc
  rw [Call.isPull_of_isStage (isStage_of_mem_calls c hc)]
  exact Bool.false_ne_true

/-- Nor is it to map anything. -/
lemma filterMap_document?_calls (config : Config) (r : Request) (purpose : Purpose) :
    (Run.calls config r purpose).filterMap Call.document? = [] := by
  rw [List.filterMap_eq_nil_iff]
  exact fun c hc => Call.document?_of_isStage (isStage_of_mem_calls c hc)

/-! ## How a fetch ends -/

/-- What a fetch makes of the items in its window, by how it ends: its answer, its pulls from the
stream, and the documents that it has mapped. -/
inductive Fetched (mapper : Mapper β) :
    List Item → Except Error (List β) → List Call → List Document → Prop
  /-- The collection fails.  Nothing is pulled behind the failure, and nothing is mapped. -/
  | broken (ds : List Document) (message : String) (rest : List Item) :
      Fetched mapper (ds.map .ok ++ .error message :: rest) (.error (.execution message))
        (List.replicate (ds.length + 1) .next) []
  /-- The collection does not fail, but the mapper does.  Nothing is mapped behind the failure. -/
  | refused {before : List Document} {d : Document} (after : List Document) {bs : List β}
      {e : Error} (hbefore : before.map mapper = bs.map .ok) (hd : mapper d = .error e) :
      Fetched mapper ((before ++ d :: after).map .ok) (.error e)
        (List.replicate (before ++ d :: after).length .next ++ [.finish]) (before ++ [d])
  /-- Nothing fails, and every document has its result. -/
  | complete {ds : List Document} {bs : List β} (h : ds.map mapper = bs.map .ok) :
      Fetched mapper (ds.map .ok) (.ok bs) (List.replicate ds.length .next ++ [.finish]) ds

section Collect

variable (mapper : Mapper β)

/-- The pulls, the mapped documents and the answer, where the stream does not fail. -/
lemma filter_collect_map_ok {ds mapped : List Document} {answer : Except Error (List β)}
    (h : Run.mapAll mapper ds = ⟨(mapped.map Call.map).map Event.call, answer⟩) :
    (Run.collect mapper (ds.map .ok)).calls.filter Call.isPull =
        List.replicate ds.length .next ++ [.finish] ∧
      (Run.collect mapper (ds.map .ok)).calls.filterMap Call.document? = mapped ∧
      (Run.collect mapper (ds.map .ok)).result = answer := by
  have hmaps : (mapped.map Call.map).filter Call.isPull = [] := by simp [Call.isPull]
  have hdocuments : (mapped.map Call.map).filterMap Call.document? = mapped := by
    simp [List.filterMap_map, Function.comp_def, Call.document?]
  rw [Run.calls_collect_map_ok, Run.collect_map_ok, h, Outcome.calls,
    (Event.filterMap_map_call _).1]
  refine ⟨?_, ?_, rfl⟩
  · simp [List.filter_cons, List.filter_replicate, hmaps, Call.isPull]
  · simp [List.filterMap_cons, List.filterMap_replicate, hdocuments, Call.document?]

/-- How the results of a stream are collected. -/
lemma fetched_collect (items : List Item) :
    Fetched mapper items (Run.collect mapper items).result
      ((Run.collect mapper items).calls.filter Call.isPull)
      ((Run.collect mapper items).calls.filterMap Call.document?) := by
  rcases exists_eq_map_ok_or_error items with ⟨ds, rfl⟩ | ⟨ds, message, rest, rfl⟩
  · rcases exists_map_eq_ok_or_error mapper ds with
      ⟨bs, hbs⟩ | ⟨before, d, after, bs, e, rfl, hbefore, hd⟩
    · obtain ⟨hpulls, hmapped, hanswer⟩ :=
        filter_collect_map_ok mapper (Run.mapAll_of_forall_ok mapper hbs)
      rw [hpulls, hmapped, hanswer]
      exact .complete hbs
    · have hmap : Run.mapAll mapper (before ++ d :: after) =
          ⟨((before ++ [d]).map Call.map).map Event.call, .error e⟩ :=
        Run.mapAll_of_error mapper hbefore hd
      obtain ⟨hpulls, hmapped, hanswer⟩ := filter_collect_map_ok mapper hmap
      rw [hpulls, hmapped, hanswer]
      exact .refused after hbefore hd
  · have hpulls : (Call.openStream :: (List.replicate (ds.length + 1) .next ++ [.close])).filter
        Call.isPull = List.replicate (ds.length + 1) .next := by
      simp [Call.isPull]
    have hmapped : (Call.openStream :: (List.replicate (ds.length + 1) .next ++ [.close])).filterMap
        Call.document? = [] := by
      simp [Call.document?]
    rw [Run.calls_collect_of_error, Run.collect_of_error, hpulls, hmapped]
    exact .broken ds message rest

end Collect

namespace Query

variable {q : Query} {r : Request}

/-- A fetch of a query that compiles puts its request and collects the items in its window. -/
lemma fetch_of_ok (h : q.compile.result = .ok r) (mapper : Mapper β) (items : List Item) :
    (q.fetch mapper items).calls =
        Run.calls q.config r .fetchAll ++
          (Run.collect mapper (q.clauses.window.view items)).calls ∧
      (q.fetch mapper items).result =
        (Run.collect mapper (q.clauses.window.view items)).result := by
  have hpurpose : Purpose.fetchAll ≠ .fetchFirst := by decide
  rw [← answers_eq_view h hpurpose items]
  exact send_bind_of_ok h (Run.collect mapper)

/-- How a fetch of a query that compiles ends. -/
lemma fetched_of_compile (h : q.compile.result = .ok r) (mapper : Mapper β) (items : List Item) :
    Fetched mapper (q.clauses.window.view items) (q.fetch mapper items).result
      ((q.fetch mapper items).calls.filter Call.isPull)
      ((q.fetch mapper items).calls.filterMap Call.document?) := by
  obtain ⟨hcalls, hresult⟩ := fetch_of_ok h mapper items
  rw [hcalls, hresult, List.filter_append, List.filterMap_append, filter_isPull_calls,
    filterMap_document?_calls]
  exact fetched_collect mapper (q.clauses.window.view items)

/-- **How a fetch ends.**  If the predicate of the query compiles, the items in the window decide.
With a failure among them the first failure is the answer, nothing is pulled behind it, and nothing
is mapped at all.  Otherwise the documents are mapped one after the other up to the first that the
mapper refuses, and its refusal is the answer.  If there is none, the answer is the results of all
documents, in their order. -/
theorem fetched_fetch {filter : Document}
    (h : (filterOf q.clauses.condition).result = .ok filter) (mapper : Mapper β)
    (items : List Item) :
    Fetched mapper (q.clauses.window.view items) (q.fetch mapper items).result
      ((q.fetch mapper items).calls.filter Call.isPull)
      ((q.fetch mapper items).calls.filterMap Call.document?) := by
  have hcompile : q.compile.result = .ok (q.request filter) :=
    compile_eq_ok_iff.mpr ⟨filter, h, rfl⟩
  exact fetched_of_compile hcompile mapper items

/-- The name in a document, which must have one. -/
def nameOf : Mapper Json := fun d =>
  match d.get? "name" with
  | some name => .ok name
  | none => .error (.mapping "missing name")

/-- The failure in the window is the second item of it, behind a document without a name; another
failure is before the window. -/
theorem fetched_fetch_allStages :
    let items : List Item :=
      [.error "before the window", .ok [], .error "reset", .ok [("name", .str "Bob")]]
    (filterOf Step.allStages.clauses.condition).result = .ok (Filter.present "age" true) ∧
      Fetched nameOf (Step.allStages.clauses.window.view items)
        (Step.allStages.fetch nameOf items).result
        ((Step.allStages.fetch nameOf items).calls.filter Call.isPull)
        ((Step.allStages.fetch nameOf items).calls.filterMap Call.document?) ∧
      (Step.allStages.fetch nameOf items).result = .error (.execution "reset") :=
  ⟨rfl, fetched_fetch rfl nameOf _, rfl⟩

end Query

/-! ## Results one by one -/

/-- How the answer of a fetch can be told from the entries that are pulled one by one, over the
items in the window.  There is an entry for every item: what the mapper makes of a document, or the
failure that the collection reports.

* The answer is a list of results exactly if all entries are results, and then it is the list of
  them.
* The first failure of the collection is the answer, whatever the mapper has made of the documents
  before it.
* If the collection does not fail, the first failure of the mapper is the answer. -/
structure Agreement (mapper : Mapper β) (items : List Item) (entries : List (Except Error β))
    (answer : Except Error (List β)) : Prop where
  entries_eq : entries = items.map (Run.entry mapper)
  eq_ok_iff : ∀ bs : List β, answer = .ok bs ↔ entries = bs.map .ok
  of_failure : ∀ (ds : List Document) (message : String) (rest : List Item),
    items = ds.map .ok ++ .error message :: rest →
      entries = ds.map mapper ++ .error (.execution message) :: rest.map (Run.entry mapper) ∧
        answer = .error (.execution message)
  of_refusal : ∀ (ds : List Document) (bs : List β) (e : Error) (rest : List (Except Error β)),
    items = ds.map .ok → entries = bs.map .ok ++ .error e :: rest → answer = .error e

/-- A list with a failure in it is no list of successes. -/
lemma map_ok_ne_append_error {ε : Type} (as : List α) (before : List (Except ε α)) (e : ε)
    (rest : List (Except ε α)) : as.map .ok ≠ before ++ .error e :: rest := by
  intro heq
  have hmem : Except.error e ∈ as.map Except.ok := by
    rw [heq]
    exact List.mem_append_right before List.mem_cons_self
  obtain ⟨a, -, ha⟩ := List.mem_map.mp hmem
  cases ha

/-- Neither a failure for an answer nor entries with a failure in them are a list of results. -/
lemma error_eq_ok_iff {answer e : Error} {before rest : List (Except Error β)} (bs : List β) :
    (Except.error answer : Except Error (List β)) = .ok bs ↔
      before ++ .error e :: rest = bs.map .ok := by
  constructor
  · intro hok
    cases hok
  · intro heq
    exact absurd heq.symm (map_ok_ne_append_error bs before e rest)

/-- The first failure of a list, and the successes before it, are fixed. -/
lemma append_error_inj {ε : Type} {as bs : List α} {e e' : ε} {rest rest' : List (Except ε α)}
    (h : as.map .ok ++ .error e :: rest = bs.map .ok ++ .error e' :: rest') :
    as = bs ∧ e = e' ∧ rest = rest' := by
  induction as generalizing bs with
  | nil =>
    cases bs with
    | nil =>
      simp at h
      exact ⟨rfl, h⟩
    | cons b bs => cases h
  | cons a as ih =>
    cases bs with
    | nil => cases h
    | cons b bs =>
      simp only [List.map_cons, List.cons_append, List.cons.injEq, Except.ok.injEq] at h
      obtain ⟨rfl, rfl, rfl⟩ := ih h.2
      exact ⟨by rw [h.1], rfl, rfl⟩

/-- The entries of documents are what the mapper makes of them. -/
lemma map_entry_map_ok (mapper : Mapper β) (ds : List Document) :
    (ds.map Except.ok).map (Run.entry mapper) = ds.map mapper := by
  simp [Function.comp_def, Run.entry]

/-- The entries of items of which one is a failure. -/
lemma map_entry_append_error (mapper : Mapper β) (ds : List Document) (message : String)
    (rest : List Item) :
    (ds.map Except.ok ++ Except.error message :: rest).map (Run.entry mapper) =
      ds.map mapper ++ .error (.execution message) :: rest.map (Run.entry mapper) := by
  rw [List.map_append, map_entry_map_ok]
  rfl

/-- A fetch agrees with the entries that its items come to. -/
lemma Fetched.agreement {mapper : Mapper β} {items : List Item} {answer : Except Error (List β)}
    {pulls : List Call} {mapped : List Document} (h : Fetched mapper items answer pulls mapped) :
    Agreement mapper items (items.map (Run.entry mapper)) answer := by
  cases h with
  | broken ds message rest =>
    have hentries := map_entry_append_error mapper ds message rest
    constructor
    case entries_eq => rfl
    case eq_ok_iff =>
      intro bs
      rw [hentries]
      exact error_eq_ok_iff bs
    case of_failure =>
      intro ds' message' rest' heq
      obtain ⟨rfl, rfl, rfl⟩ := append_error_inj heq
      exact ⟨hentries, rfl⟩
    case of_refusal =>
      -- the items are not all documents
      intro ds' bs e rest' heq
      exact absurd heq.symm (map_ok_ne_append_error ds' _ message rest)
  | @refused before d after bs e hbefore hd =>
    have hentries : ((before ++ d :: after).map Except.ok).map (Run.entry mapper) =
        bs.map .ok ++ .error e :: after.map mapper := by
      rw [map_entry_map_ok, List.map_append, hbefore, List.map_cons, hd]
    constructor
    case entries_eq => rfl
    case eq_ok_iff =>
      intro bs'
      rw [hentries]
      exact error_eq_ok_iff bs'
    case of_failure =>
      -- no item is a failure
      intro ds' message rest heq
      exact absurd heq (map_ok_ne_append_error _ _ message rest)
    case of_refusal =>
      intro ds' bs' e' rest _ heq
      rw [hentries] at heq
      obtain ⟨-, rfl, -⟩ := append_error_inj heq
      rfl
  | @complete _ bs hmapped =>
    -- all documents are mapped, so they go by the name of the mapped ones
    have hentries : (mapped.map Except.ok).map (Run.entry mapper) = bs.map .ok := by
      rw [map_entry_map_ok, hmapped]
    constructor
    case entries_eq => rfl
    case eq_ok_iff =>
      intro bs'
      have hinj : ∀ a b : β, (Except.ok a : Except Error β) = .ok b → a = b :=
        fun a b hab => Except.ok.inj hab
      rw [hentries, List.map_inj_right hinj]
      exact ⟨fun hok => Except.ok.inj hok, fun heq => congrArg Except.ok heq⟩
    case of_failure =>
      intro ds' message rest heq
      exact absurd heq (map_ok_ne_append_error mapped _ message rest)
    case of_refusal =>
      -- no entry is a failure
      intro ds' bs' e rest _ heq
      rw [hentries] at heq
      exact absurd heq (map_ok_ne_append_error bs _ e rest)

namespace Query

variable {q : Query} {r : Request}

/-- To iterate over a query that compiles is to put its request, to open a stream, and to pull from
the items in the window. -/
lemma iterate_of_ok (h : q.compile.result = .ok r) (mapper : Mapper β) (bound : Option Nat)
    (items : List Item) :
    (q.iterate mapper bound items).calls =
        Run.calls q.config r .iterate ++
          .openStream :: (Run.pull mapper bound (q.clauses.window.view items)).calls ∧
      (q.iterate mapper bound items).result =
        (Run.pull mapper bound (q.clauses.window.view items)).result := by
  have hpurpose : Purpose.iterate ≠ .fetchFirst := by decide
  rw [← answers_eq_view h hpurpose items]
  exact send_bind_of_ok h (Run.stream mapper bound)

/-- To iterate to the end over a query that compiles is to pull an entry for every item in its
window. -/
lemma result_iterate_of_ok (h : q.compile.result = .ok r) (mapper : Mapper β) (items : List Item) :
    (q.iterate mapper none items).result =
      .ok (((q.clauses.window.view items).map (Run.entry mapper)).map some ++ [none]) := by
  rw [(iterate_of_ok h mapper none items).2, Run.pull_eq, List.map_map]
  rfl

end Query

/-! ## Both ways together -/

/-- A conversation begins with its request, and has no stage behind it. -/
lemma Conversation.exists_ending {config : Config} {r : Request} {purpose : Purpose}
    {cs : List Call} (h : Conversation config r purpose cs) :
    ∃ ending : List Call, cs = Run.calls config r purpose ++ ending ∧
      ∀ c ∈ ending, c.isStage = false := by
  cases h with
  | @fetchFirst skips batches maps hskips hbatches hmaps hone =>
    refine ⟨.first :: maps, ?_, fun c hc => ?_⟩
    · rw [hskips.eq_toList, hbatches.eq_toList]
      simp [Run.calls]
    · rcases List.mem_cons.mp hc with rfl | hc
      · rfl
      · exact Call.isStage_of_isMap (hmaps c hc)
  | @fetchAll skips limits batches pulls maps hskips hlimits hbatches hpulls hmaps =>
    refine ⟨.openStream :: (pulls ++ .close :: maps), ?_, fun c hc => ?_⟩
    · rw [hskips.eq_toList, hlimits.eq_toList, hbatches.eq_toList]
      simp [Run.calls]
    · simp only [List.mem_cons, List.mem_append] at hc
      rcases hc with rfl | hc | rfl | hc
      · rfl
      · exact Call.isStage_of_isPull (hpulls c hc)
      · rfl
      · exact Call.isStage_of_isMap (hmaps c hc)
  | @iterate skips limits batches between hskips hlimits hbatches hbetween =>
    refine ⟨.openStream :: (between ++ [.close]), ?_, fun c hc => ?_⟩
    · rw [hskips.eq_toList, hlimits.eq_toList, hbatches.eq_toList]
      simp [Run.calls]
    · simp only [List.mem_cons, List.mem_append, List.not_mem_nil, or_false] at hc
      rcases hc with rfl | hc | rfl
      · rfl
      · exact (hbetween c hc).elim Call.isStage_of_isPull Call.isStage_of_isMap
      · rfl

/-- The stages of a conversation are its request. -/
lemma Conversation.filter_isStage {config : Config} {r : Request} {purpose : Purpose}
    {cs : List Call} (h : Conversation config r purpose cs) :
    cs.filter Call.isStage = Run.calls config r purpose := by
  obtain ⟨ending, rfl, hending⟩ := h.exists_ending
  have hrequest : (Run.calls config r purpose).filter Call.isStage = Run.calls config r purpose :=
    List.filter_eq_self.mpr isStage_of_mem_calls
  have hnone : ending.filter Call.isStage = [] := by
    rw [List.filter_eq_nil_iff]
    intro c hc
    rw [hending c hc]
    exact Bool.false_ne_true
  rw [List.filter_append, hrequest, hnone, List.append_nil]

/-- The stages that a query passes are those of the request that it compiles to, if it does. -/
lemma Query.Converses.filter_isStage {q : Query} {purpose : Purpose} {o : Ran α}
    (h : q.Converses purpose o) :
    o.calls.filter Call.isStage =
      match q.compile.result with
      | .error _ => []
      | .ok r => Run.calls q.config r purpose := by
  rw [Query.Converses] at h
  cases hcompile : q.compile.result with
  | error e =>
    rw [hcompile] at h
    rw [h.1]
    rfl
  | ok r =>
    rw [hcompile] at h
    exact Conversation.filter_isStage h

namespace Step

/-- **Pulled one by one or fetched at once.**  To iterate over paths to the end and to fetch them
leave the same query behind and put the same request.  If the query with these paths does not
compile, both fail alike.  Otherwise the stream is opened, and the entries that are pulled from it
tell the answer of the fetch. -/
theorem agreement_iterate_fetchProjected (q : Query) (paths : List Path) (mapper : Mapper β)
    (items : List Item) :
    let pulled := (Step.iterate paths none).take q mapper items
    let fetched := (Step.fetchProjected paths).take q mapper items
    pulled.1 = q.selecting (some paths) ∧ fetched.1 = q.selecting (some paths) ∧
    pulled.2.calls.filter Call.isStage = fetched.2.calls.filter Call.isStage ∧
    match (q.selecting (some paths)).compile.result with
    | .error e => pulled.2.result = .error e ∧ fetched.2.result = .error e
    | .ok _ =>
      ∃ (entries : List (Except Error β)) (answer : Except Error (List β)),
        pulled.2.result = .ok (.pulled (entries.map some ++ [none])) ∧
        fetched.2.result = answer.map .results ∧
        Agreement mapper ((q.selecting (some paths)).clauses.window.view items) entries answer := by
  intro pulled fetched
  have hpulled : (q.selecting (some paths)).Converses .iterate pulled.2 :=
    (Runs.iterate paths none).converses_answer _ mapper items
  have hfetched : (q.selecting (some paths)).Converses .fetchAll fetched.2 :=
    (Runs.fetchProjected paths).converses_answer _ mapper items
  -- a request for all results is put in the same way for both purposes
  refine ⟨rfl, rfl, hpulled.filter_isStage.trans hfetched.filter_isStage.symm, ?_⟩
  rw [Query.Converses] at hpulled hfetched
  cases hcompile : (q.selecting (some paths)).compile.result with
  | error e =>
    rw [hcompile] at hpulled hfetched
    exact ⟨hpulled.2, hfetched.2⟩
  | ok r =>
    have hiterate := Query.result_iterate_of_ok hcompile mapper items
    have hagreement := (Query.fetched_of_compile hcompile mapper items).agreement
    refine ⟨_, _, ?_, ?_, hagreement⟩
    · show (Reply.pulled <$> (q.selecting (some paths)).iterate mapper none items).result = _
      rw [Outcome.result_map, hiterate]
      rfl
    · exact Outcome.result_map Reply.results ((q.selecting (some paths)).fetch mapper items)

end Step

end DocSelect
