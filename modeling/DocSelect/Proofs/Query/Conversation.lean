/-
# The conversation with the collection

A query that runs talks to the collection and to the mapper, and the order of its calls is fixed.
The request goes first: the three documents, then the offset, the limit and the size of batches,
each only if there is one.  What follows is either the question for the first result, or a stream
that is opened, pulled from and released.  `Conversation` is the grammar of such sequences of calls;
it says in particular that a stream is released once and for all, and that a fetch releases it
before anything is mapped.

The main result is that whatever a query does when it is run is a conversation of this kind, with
the documents and numbers that it compiles to at that moment, and that a query that does not compile
is silent (`Query.Converses`).  Every function of a run has an equation, or one for each way in
which it ends, that gives all that it records together with its result: `Query.send_of_ok` for the
sending of a request, and `Run.collect_map_ok`, `Run.lead_eq` and `Run.pull_eq` for what follows it.
The calls are read off these equations here, and so is elsewhere what is written to the log.
-/
import DocSelect.Proofs.Query.Condition

namespace DocSelect

variable {α β : Type}

/-! ## The calls among the records -/

namespace Outcome

/-- The calls that were made, without what was written to the log. -/
def calls (o : Outcome Event α) : List Call :=
  o.records.filterMap Event.call?

lemma result_map (f : α → β) (o : Outcome Event α) : (f <$> o).result = o.result.map f := by
  rw [map_eq]

end Outcome

/-! ## The grammar -/

namespace Call

/-- Whether a call pulls from a stream. -/
def isPull : Call → Bool
  | next => true
  | finish => true
  | _ => false

/-- Whether a call hands a document to the mapper. -/
def isMap : Call → Bool
  | map _ => true
  | _ => false

end Call

/-- A stage of a request that is passed only with a number: one call if there is a number, and no
call if there is none. -/
inductive Stage (call : Nat → Call) : Option Nat → List Call → Prop
  | absent : Stage call none []
  | present (n : Nat) : Stage call (some n) [call n]

/-- The sequences of calls by which a request is run, by what it is run for.

* The first result is asked for, whatever the limit, and mapped.
* All results are pulled from a stream; it is released, and then they are mapped.
* Results are pulled one by one and mapped in between; at the end the stream is released. -/
inductive Conversation (config : Config) (r : Request) : Purpose → List Call → Prop
  | fetchFirst {skips batches maps : List Call}
      (hskips : Stage .skip r.offset skips)
      (hbatches : Stage .batchSize config.batchSize batches)
      (hmaps : ∀ c ∈ maps, c.isMap) (hone : maps.length ≤ 1) :
      Conversation config r .fetchFirst
        (.find r.filter :: .project r.projection :: .sort r.sort ::
          (skips ++ batches ++ .first :: maps))
  | fetchAll {skips limits batches pulls maps : List Call}
      (hskips : Stage .skip r.offset skips) (hlimits : Stage .limit r.limit limits)
      (hbatches : Stage .batchSize config.batchSize batches)
      (hpulls : ∀ c ∈ pulls, c.isPull) (hmaps : ∀ c ∈ maps, c.isMap) :
      Conversation config r .fetchAll
        (.find r.filter :: .project r.projection :: .sort r.sort ::
          (skips ++ limits ++ batches ++ .openStream :: (pulls ++ .close :: maps)))
  | iterate {skips limits batches between : List Call}
      (hskips : Stage .skip r.offset skips) (hlimits : Stage .limit r.limit limits)
      (hbatches : Stage .batchSize config.batchSize batches)
      (hbetween : ∀ c ∈ between, c.isPull ∨ c.isMap) :
      Conversation config r .iterate
        (.find r.filter :: .project r.projection :: .sort r.sort ::
          (skips ++ limits ++ batches ++ .openStream :: (between ++ [.close])))

/-- A number that is passed on where there is one makes a stage. -/
lemma stage_toList (call : Nat → Call) (n : Option Nat) : Stage call n (n.toList.map call) := by
  cases n with
  | none => exact .absent
  | some n => exact .present n

/-- A stage is a call for the number, if there is one. -/
lemma Stage.eq_toList {call : Nat → Call} {n : Option Nat} {cs : List Call} (h : Stage call n cs) :
    cs = n.toList.map call := by
  cases h with
  | absent => rfl
  | present n => rfl

/-! ## Streams -/

namespace Run

variable (mapper : Mapper β)

/-- A stream without failures is pulled to its end. -/
lemma drain_map_ok (ds : List Document) :
    drain (ds.map .ok) =
      ⟨(List.replicate ds.length Call.next ++ [Call.finish, Call.close]).map Event.call,
        .ok ds⟩ := by
  induction ds with
  | nil => rfl
  | cons d ds ih =>
    show (call .next >>= fun _ => drain (ds.map .ok) >>= fun ds => pure (d :: ds)) = _
    rw [Outcome.bind_of_ok (a := ()) rfl, ih, Outcome.bind_of_ok (a := ds) rfl]
    simp [call, Outcome.record, List.replicate_succ]

/-- The first failure in a stream ends it. -/
lemma drain_of_error (ds : List Document) (message : String) (rest : List Item) :
    drain (ds.map .ok ++ .error message :: rest) =
      ⟨(List.replicate (ds.length + 1) Call.next ++ [Call.close]).map Event.call,
        .error (.execution message)⟩ := by
  induction ds with
  | nil => rfl
  | cons d ds ih =>
    show (call .next >>= fun _ => drain (ds.map .ok ++ .error message :: rest) >>= fun ds =>
      pure (d :: ds)) = _
    rw [Outcome.bind_of_ok (a := ()) rfl, ih, Outcome.bind_of_error (e := .execution message) rfl]
    simp [call, Outcome.record, List.replicate_succ]

lemma map_eq (d : Document) : map mapper d = ⟨[Event.call (.map d)], mapper d⟩ :=
  rfl

/-- Documents that all have a result are all mapped. -/
lemma mapAll_of_forall_ok {ds : List Document} {bs : List β} (h : ds.map mapper = bs.map .ok) :
    mapAll mapper ds = ⟨(ds.map Call.map).map Event.call, .ok bs⟩ := by
  induction ds generalizing bs with
  | nil =>
    have hnil : bs = [] := by simpa using h.symm
    rw [hnil]
    rfl
  | cons d ds ih =>
    obtain ⟨b, bs, rfl, hd, hds⟩ := List.map_eq_cons_iff.mp h.symm
    rw [mapAll, map_eq, ← hd, Outcome.bind_of_ok (a := b) rfl, ih hds.symm,
      Outcome.bind_of_ok (a := bs) rfl]
    simp

/-- The first document without a result ends the mapping. -/
lemma mapAll_of_error {before after : List Document} {bs : List β} {d : Document} {e : Error}
    (hbefore : before.map mapper = bs.map .ok) (hd : mapper d = .error e) :
    mapAll mapper (before ++ d :: after) =
      ⟨((before ++ [d]).map Call.map).map Event.call, .error e⟩ := by
  induction before generalizing bs with
  | nil =>
    rw [List.nil_append, mapAll, map_eq, hd, Outcome.bind_of_error (e := e) rfl]
    rfl
  | cons d' before ih =>
    obtain ⟨b, bs, rfl, hd', hbefore'⟩ := List.map_eq_cons_iff.mp hbefore.symm
    rw [List.cons_append, mapAll, map_eq, ← hd', Outcome.bind_of_ok (a := b) rfl,
      ih hbefore'.symm, Outcome.bind_of_error (e := e) rfl]
    simp

/-! ### Pulling one by one -/

/-- The items that are pulled if no more than a given number is. -/
def pulled (bound : Option Nat) (items : List α) : List α :=
  bound.elim items items.take

/-- Whether the end of a stream is found, if no more than a given number of pulls is made. -/
def isExhausted (bound : Option Nat) (items : List α) : Bool :=
  bound.all (items.length < ·)

lemma pulled_nil (bound : Option Nat) : pulled bound ([] : List α) = [] := by
  cases bound with
  | none => rfl
  | some n => exact List.take_nil

lemma pulled_cons {bound : Option Nat} (h : bound ≠ some 0) (a : α) (as : List α) :
    pulled bound (a :: as) = a :: pulled (bound.map (· - 1)) as := by
  cases bound with
  | none => rfl
  | some n =>
    have hn : n ≠ 0 := fun h0 => h (by rw [h0])
    obtain ⟨m, rfl⟩ := Nat.exists_eq_succ_of_ne_zero hn
    rfl

lemma isExhausted_nil {bound : Option Nat} (h : bound ≠ some 0) :
    isExhausted bound ([] : List α) = true := by
  cases bound with
  | none => rfl
  | some n =>
    have hn : n ≠ 0 := fun h0 => h (by rw [h0])
    simpa [isExhausted] using Nat.pos_of_ne_zero hn

lemma isExhausted_cons {bound : Option Nat} (h : bound ≠ some 0) (a : α) (as : List α) :
    isExhausted bound (a :: as) = isExhausted (bound.map (· - 1)) as := by
  cases bound with
  | none => rfl
  | some n =>
    have hn : n ≠ 0 := fun h0 => h (by rw [h0])
    simp only [isExhausted, Option.all_some, Option.map_some, List.length_cons, decide_eq_decide]
    omega

/-- What an item comes to: the result for a document, or the failure of the collection. -/
def entry : Item → Except Error β
  | .ok d => mapper d
  | .error message => .error (.execution message)

/-- The calls to the mapper for an item. -/
def mapping : Item → List Call
  | .ok d => [.map d]
  | .error _ => []

lemma result_eq (item : Item) :
    result mapper item = ⟨(mapping item).map Event.call, .ok (entry mapper item)⟩ := by
  cases item with
  | ok d => rfl
  | error message => rfl

/-- Pulling one by one, as a whole: a document is mapped as soon as it has been pulled. -/
lemma pull_eq (bound : Option Nat) (items : List Item) :
    pull mapper bound items =
      ⟨((pulled bound items).flatMap (fun item => Call.next :: mapping item) ++
          if isExhausted bound items then [Call.finish, Call.close]
          else [Call.close]).map Event.call,
        .ok ((pulled bound items).map (some ∘ entry mapper) ++
          if isExhausted bound items then [none] else [])⟩ := by
  fun_induction pull mapper bound items with
  | case1 items =>
    -- no pull is left
    simp only [pulled, Option.elim_some, List.take_zero, isExhausted, Option.all_some,
      Nat.not_lt_zero, decide_false]
    rfl
  | case2 bound h =>
    -- the stream is at its end
    rw [pulled_nil, isExhausted_nil h]
    rfl
  | case3 bound item items h ih =>
    rw [Outcome.bind_of_ok (a := ()) rfl, result_eq,
      Outcome.bind_of_ok (a := entry mapper item) rfl, ih, Outcome.bind_of_ok rfl, pulled_cons h,
      isExhausted_cons h]
    simp [call, Outcome.record]

end Run

/-! ## Sending a request -/

namespace Query

variable {q : Query} {purpose : Purpose} {items : List Item}

/-- The items that answer a request. -/
def answers (q : Query) (r : Request) (purpose : Purpose) (items : List Item) : List Item :=
  (Run.calls q.config r purpose).foldl Run.answer items

lemma put_eq (r : Request) :
    Run.put q.config r purpose items =
      ⟨(Run.calls q.config r purpose).map Event.call, .ok (q.answers r purpose items)⟩ := by
  rw [Run.put, Outcome.bind_of_ok (a := ()) rfl]
  simp [Outcome.recordAll, answers]

/-- A query that compiles says that it sends, and puts its request. -/
lemma send_of_ok {r : Request} (h : q.compile.result = .ok r) :
    q.send purpose items =
      ⟨(q.compile.records ++ [Notice.sending purpose r]).map Event.notice ++
          (Run.calls q.config r purpose).map Event.call,
        .ok (q.answers r purpose items)⟩ := by
  have hcompile : (q.compile.mapRecords Event.notice).result = .ok r := h
  rw [send, Outcome.bind_of_ok hcompile, Outcome.bind_of_ok (a := ()) rfl, put_eq, List.map_append,
    List.append_assoc]
  rfl

/-- A query that does not compile fails as its compilation does, and leaves what that records. -/
lemma send_of_error {e : Error} (h : q.compile.result = .error e) :
    q.send purpose items = ⟨q.compile.records.map Event.notice, .error e⟩ := by
  have hcompile : (q.compile.mapRecords Event.notice).result = .error e := h
  rw [send, Outcome.bind_of_error hcompile]
  rfl

/-- A query that compiles sends its request, and what follows goes on with the answers. -/
lemma send_bind_of_ok {r : Request} (h : q.compile.result = .ok r) (f : List Item → Ran α) :
    (q.send purpose items >>= f).calls =
        Run.calls q.config r purpose ++ (f (q.answers r purpose items)).calls ∧
      (q.send purpose items >>= f).result = (f (q.answers r purpose items)).result := by
  rw [send_of_ok h, Outcome.bind_of_ok rfl, Outcome.calls, List.filterMap_append,
    List.filterMap_append, (Event.filterMap_map_notice _).2, (Event.filterMap_map_call _).1]
  exact ⟨rfl, rfl⟩

/-- A query that does not compile sends nothing, and nothing follows. -/
lemma send_bind_of_error {e : Error} (h : q.compile.result = .error e) (f : List Item → Ran α) :
    (q.send purpose items >>= f).calls = [] ∧ (q.send purpose items >>= f).result = .error e := by
  rw [send_of_error h, Outcome.bind_of_error (e := e) rfl, Outcome.calls,
    (Event.filterMap_map_notice _).2]
  exact ⟨rfl, rfl⟩

end Query

/-! ## What follows a request -/

/-- A list whose elements are tried one after the other: all succeed, or there is a first that
fails. -/
lemma exists_map_eq_ok_or_error {γ ε : Type} (f : α → Except ε γ) (as : List α) :
    (∃ cs : List γ, as.map f = cs.map .ok) ∨
      ∃ (before : List α) (a : α) (after : List α) (cs : List γ) (e : ε),
        as = before ++ a :: after ∧ before.map f = cs.map .ok ∧ f a = .error e := by
  induction as with
  | nil => exact .inl ⟨[], rfl⟩
  | cons a as ih =>
    cases ha : f a with
    | error e => exact .inr ⟨[], a, as, [], e, rfl, rfl, ha⟩
    | ok c =>
      rcases ih with ⟨cs, hcs⟩ | ⟨before, a', after, cs, e, rfl, hbefore, ha'⟩
      · exact .inl ⟨c :: cs, by rw [List.map_cons, List.map_cons, ha, hcs]⟩
      · refine .inr ⟨a :: before, a', after, c :: cs, e, rfl, ?_, ha'⟩
        rw [List.map_cons, List.map_cons, ha, hbefore]

/-- Items are all documents, or there is a first failure among them. -/
lemma exists_eq_map_ok_or_error (items : List Item) :
    (∃ ds : List Document, items = ds.map .ok) ∨
      ∃ (ds : List Document) (message : String) (rest : List Item),
        items = ds.map .ok ++ .error message :: rest := by
  rcases exists_map_eq_ok_or_error id items with
    ⟨ds, hds⟩ | ⟨before, a, after, ds, message, rfl, hbefore, ha⟩
  · exact .inl ⟨ds, by rwa [List.map_id] at hds⟩
  · rw [List.map_id] at hbefore
    exact .inr ⟨ds, message, after, by rw [hbefore, ← ha]; rfl⟩

namespace Run

variable (mapper : Mapper β)

/-- Mapping leaves calls to the mapper, and nothing else. -/
lemma exists_records_mapAll (ds : List Document) :
    ∃ mapped : List Document,
      (mapAll mapper ds).records = (mapped.map Call.map).map Event.call := by
  rcases exists_map_eq_ok_or_error mapper ds with
    ⟨bs, hbs⟩ | ⟨before, d, after, bs, e, rfl, hbefore, hd⟩
  · exact ⟨ds, by rw [mapAll_of_forall_ok mapper hbs]⟩
  · exact ⟨before ++ [d], by rw [mapAll_of_error mapper hbefore hd]⟩

lemma isMap_of_mem_calls_mapAll (ds : List Document) : ∀ c ∈ (mapAll mapper ds).calls, c.isMap := by
  obtain ⟨mapped, hmapped⟩ := exists_records_mapAll mapper ds
  rw [Outcome.calls, hmapped, (Event.filterMap_map_call _).1]
  intro c hc
  obtain ⟨d, -, rfl⟩ := List.mem_map.mp hc
  rfl

/-- A failure of the collection is the answer, and nothing is mapped. -/
lemma collect_of_error (ds : List Document) (message : String) (rest : List Item) :
    collect mapper (ds.map .ok ++ .error message :: rest) =
      ⟨(.openStream :: (List.replicate (ds.length + 1) .next ++ [.close])).map Event.call,
        .error (.execution message)⟩ := by
  rw [collect, Outcome.bind_of_ok (a := ()) rfl, drain_of_error,
    Outcome.bind_of_error (e := .execution message) rfl]
  rfl

/-- Without a failure of the collection the answer is up to the mapper. -/
lemma collect_map_ok (ds : List Document) :
    collect mapper (ds.map .ok) =
      ⟨(.openStream :: (List.replicate ds.length .next ++ [.finish, .close])).map Event.call ++
          .notice (.fetched ds.length) :: (mapAll mapper ds).records,
        (mapAll mapper ds).result⟩ := by
  rw [collect, Outcome.bind_of_ok (a := ()) rfl, drain_map_ok, Outcome.bind_of_ok (a := ds) rfl,
    Outcome.bind_of_ok (a := ()) rfl]
  rfl

/-- The first result is what the first item comes to, if there is an item. -/
lemma lead_eq (items : List Item) :
    lead mapper items =
      ⟨(.first :: items.head?.elim [] mapping).map Event.call,
        items.head?.elim (.ok none) fun item => (entry mapper item).map some⟩ := by
  cases items with
  | nil => rfl
  | cons item items =>
    cases item with
    | error message => rfl
    | ok d =>
      show (call .first >>= fun _ => some <$> map mapper d) = _
      rw [Outcome.bind_of_ok (a := ()) rfl, map_eq, Outcome.map_eq]
      rfl

/-- The calls that collect the results of a stream without failures. -/
lemma calls_collect_map_ok (ds : List Document) :
    (collect mapper (ds.map .ok)).calls =
      .openStream :: (List.replicate ds.length .next ++ [.finish] ++
        .close :: (mapAll mapper ds).calls) := by
  rw [collect_map_ok, Outcome.calls, List.filterMap_append, (Event.filterMap_map_call _).1]
  simp [Outcome.calls, List.filterMap_cons, Event.call?]

lemma calls_collect_of_error (ds : List Document) (message : String) (rest : List Item) :
    (collect mapper (ds.map .ok ++ .error message :: rest)).calls =
      .openStream :: (List.replicate (ds.length + 1) .next ++ [.close]) := by
  rw [collect_of_error, Outcome.calls, (Event.filterMap_map_call _).1]

lemma calls_stream (bound : Option Nat) (items : List Item) :
    (stream mapper bound items).calls = .openStream :: (pull mapper bound items).calls :=
  rfl

end Run

/-! ## Every run is a conversation -/

namespace Conversation

variable {config : Config} {r : Request}

/-- A request for the first result, and what follows it. -/
lemma of_lead (mapper : Mapper β) (items : List Item) :
    Conversation config r .fetchFirst
      (Run.calls config r .fetchFirst ++ (Run.lead mapper items).calls) := by
  have hcalls : (Run.lead mapper items).calls = .first :: items.head?.elim [] Run.mapping := by
    rw [Run.lead_eq, Outcome.calls, (Event.filterMap_map_call _).1]
  have hmaps : (∀ c ∈ items.head?.elim [] Run.mapping, c.isMap) ∧
      (items.head?.elim [] Run.mapping).length ≤ 1 := by
    cases items with
    | nil => exact ⟨List.forall_mem_nil _, Nat.zero_le 1⟩
    | cons item items =>
      cases item with
      | error message => exact ⟨List.forall_mem_nil _, Nat.zero_le 1⟩
      | ok d => exact ⟨List.forall_mem_singleton.mpr rfl, Nat.le_refl 1⟩
  rw [hcalls]
  simpa [Run.calls] using
    fetchFirst (stage_toList .skip r.offset) (stage_toList .batchSize config.batchSize) hmaps.1
      hmaps.2

/-- A request for all results, and what follows it. -/
lemma of_collect (mapper : Mapper β) (items : List Item) :
    Conversation config r .fetchAll
      (Run.calls config r .fetchAll ++ (Run.collect mapper items).calls) := by
  have hcollect : ∃ pulls maps : List Call,
      (Run.collect mapper items).calls = .openStream :: (pulls ++ .close :: maps) ∧
      (∀ c ∈ pulls, c.isPull) ∧ ∀ c ∈ maps, c.isMap := by
    rcases exists_eq_map_ok_or_error items with ⟨ds, rfl⟩ | ⟨ds, message, rest, rfl⟩
    · refine ⟨List.replicate ds.length .next ++ [.finish], (Run.mapAll mapper ds).calls,
        Run.calls_collect_map_ok mapper ds, ?_, Run.isMap_of_mem_calls_mapAll mapper ds⟩
      intro c hc
      rcases List.mem_append.mp hc with hc | hc
      · rw [List.eq_of_mem_replicate hc]
        rfl
      · rw [List.mem_singleton.mp hc]
        rfl
    · refine ⟨List.replicate (ds.length + 1) .next, [],
        Run.calls_collect_of_error mapper ds message rest, ?_, List.forall_mem_nil _⟩
      intro c hc
      rw [List.eq_of_mem_replicate hc]
      rfl
  obtain ⟨pulls, maps, hcalls, hpulls, hmaps⟩ := hcollect
  rw [hcalls]
  simpa [Run.calls] using
    fetchAll (stage_toList .skip r.offset) (stage_toList .limit r.limit)
      (stage_toList .batchSize config.batchSize) hpulls hmaps

/-- A request for results one by one, and what follows it. -/
lemma of_stream (mapper : Mapper β) (bound : Option Nat) (items : List Item) :
    Conversation config r .iterate
      (Run.calls config r .iterate ++ (Run.stream mapper bound items).calls) := by
  have hstream : ∃ between : List Call,
      (Run.stream mapper bound items).calls = .openStream :: (between ++ [.close]) ∧
      ∀ c ∈ between, c.isPull ∨ c.isMap := by
    have hitems (items : List Item) :
        ∀ c ∈ items.flatMap fun item => Call.next :: Run.mapping item, c.isPull ∨ c.isMap := by
      intro c hc
      obtain ⟨item, -, hc⟩ := List.mem_flatMap.mp hc
      rcases List.mem_cons.mp hc with rfl | hc
      · exact .inl rfl
      · cases item with
        | ok d =>
          rw [List.mem_singleton.mp hc]
          exact .inr rfl
        | error message => cases hc
    rw [Run.calls_stream, Run.pull_eq, Outcome.calls, (Event.filterMap_map_call _).1]
    cases Run.isExhausted bound items with
    | true =>
      refine ⟨(Run.pulled bound items).flatMap (fun item => .next :: Run.mapping item) ++ [.finish],
        by simp, ?_⟩
      intro c hc
      rcases List.mem_append.mp hc with hc | hc
      · exact hitems _ c hc
      · rw [List.mem_singleton.mp hc]
        exact .inl rfl
    | false => exact ⟨_, rfl, hitems _⟩
  obtain ⟨between, hcalls, hbetween⟩ := hstream
  rw [hcalls]
  simpa [Run.calls] using
    iterate (stage_toList .skip r.offset) (stage_toList .limit r.limit)
      (stage_toList .batchSize config.batchSize) hbetween

end Conversation

namespace Query

variable {q : Query} {purpose : Purpose} {items : List Item}

/-- A query that does not compile makes no call and fails as its compilation does; one that compiles
has a conversation on its request. -/
def Converses (q : Query) (purpose : Purpose) (o : Ran α) : Prop :=
  match q.compile.result with
  | .error e => o.calls = [] ∧ o.result = .error e
  | .ok r => Conversation q.config r purpose o.calls

/-- To send a request and to go on with the answers is to converse if the calls fit together. -/
lemma converses_send_bind {f : List Item → Ran α}
    (hf : ∀ (r : Request) (answers : List Item),
      Conversation q.config r purpose (Run.calls q.config r purpose ++ (f answers).calls)) :
    q.Converses purpose (q.send purpose items >>= f) := by
  rw [Converses]
  cases hcompile : q.compile.result with
  | error e => exact send_bind_of_error hcompile f
  | ok r =>
    show Conversation q.config r purpose (q.send purpose items >>= f).calls
    rw [(send_bind_of_ok hcompile f).1]
    exact hf r (q.answers r purpose items)

lemma Converses.map {o : Ran α} (h : q.Converses purpose o) (f : α → β) :
    q.Converses purpose (f <$> o) := by
  rw [Converses] at h ⊢
  rw [Outcome.map_eq]
  cases hcompile : q.compile.result with
  | error e =>
    rw [hcompile] at h
    exact ⟨h.1, congrArg (Except.map f) h.2⟩
  | ok r =>
    rw [hcompile] at h
    exact h

/-- The query with its projection replaced, if there are paths to select. -/
def selecting (q : Query) : Option (List Path) → Query
  | none => q
  | some paths => { q with clauses := q.clauses.selectPaths paths }

end Query

namespace Step

/-- The steps that run a query, with what they run it for and the paths that they select first. -/
inductive Runs : Step → Purpose → Option (List Path) → Prop
  | fetch : Runs .fetch .fetchAll none
  | fetchProjected (paths : List Path) : Runs (.fetchProjected paths) .fetchAll (some paths)
  | fetchOne : Runs .fetchOne .fetchFirst none
  | fetchOneProjected (paths : List Path) : Runs (.fetchOneProjected paths) .fetchFirst (some paths)
  | iterate (paths : List Path) (bound : Option Nat) :
      Runs (.iterate paths bound) .iterate (some paths)

/-- A step that runs a query selects its paths and answers from then on. -/
lemma Runs.take_eq {step : Step} {purpose : Purpose} {paths : Option (List Path)}
    (h : step.Runs purpose paths) (q : Query) (mapper : Mapper β) (items : List Item) :
    step.take q mapper items =
      (q.selecting paths, step.answer (q.selecting paths) mapper items) := by
  cases h with
  | _ => rfl

/-- What a step that runs a query says to the collection and to the mapper. -/
lemma Runs.converses_answer {step : Step} {purpose : Purpose} {paths : Option (List Path)}
    (h : step.Runs purpose paths) (q : Query) (mapper : Mapper β) (items : List Item) :
    q.Converses purpose (step.answer q mapper items) := by
  have hfetch : q.Converses .fetchAll (q.fetch mapper items) :=
    Query.converses_send_bind (f := Run.collect mapper) fun r answers => .of_collect mapper answers
  have hfetchOne : q.Converses .fetchFirst (q.fetchOne mapper items) :=
    Query.converses_send_bind (f := Run.lead mapper) fun r answers => .of_lead mapper answers
  cases h with
  | fetch => exact hfetch.map Reply.results
  | fetchProjected paths => exact hfetch.map Reply.results
  | fetchOne => exact hfetchOne.map Reply.first
  | fetchOneProjected paths => exact hfetchOne.map Reply.first
  | iterate paths bound =>
    have hiterate : q.Converses .iterate (q.iterate mapper bound items) :=
      Query.converses_send_bind (f := Run.stream mapper bound) fun r answers =>
        .of_stream mapper bound answers
    exact hiterate.map Reply.pulled

/-- **Every run is a conversation.**  A step that runs a query first sets the projection, if it has
paths of its own.  If the query, as it is then, does not compile, not a single call is made, and the
failure is the answer.  Otherwise the calls are a conversation on the request that it compiles to:
the documents, the offset, the limit and the size of batches in this order, then the question for
the first result or a stream that is released once, after the last pull, and by a fetch before
anything is mapped. -/
theorem converses_take {step : Step} {purpose : Purpose} {paths : Option (List Path)}
    (h : step.Runs purpose paths) (q : Query) (mapper : Mapper β) (items : List Item) :
    (step.take q mapper items).1 = q.selecting paths ∧
    (q.selecting paths).Converses purpose (step.take q mapper items).2 := by
  rw [h.take_eq]
  exact ⟨rfl, h.converses_answer (q.selecting paths) mapper items⟩

/-- A query with a predicate, a sort key, both bounds of a window and a size of batches. -/
def allStages : Query :=
  ({} : Query).after
    [.filter [some (Path.isNotNull (.property (.root "user") "age"))],
      .orderBy [{ target := .property (.root "user") "age", direction := .descending }],
      .offset 1, .limit 2, .configure { batchSize := some 5 }]

/-- Three documents, the middle one after a failure. -/
def brokenItems : List Item :=
  [.ok [("name", .str "Ann")], .error "reset", .ok [("name", .str "Bob")], .ok []]

theorem converses_take_allStages :
    Step.Runs (.iterate [.property (.root "user") "name"] none) .iterate
        (some [.property (.root "user") "name"]) ∧
    (allStages.selecting (some [.property (.root "user") "name"])).Converses .iterate
      ((Step.iterate [.property (.root "user") "name"] none).take allStages Except.ok
        brokenItems).2 ∧
    ((Step.iterate [.property (.root "user") "name"] none).take allStages Except.ok
        brokenItems).2.calls =
      [.find (Filter.present "age" true), .project (some [("name", .int 1)]),
        .sort [("age", .int (-1))], .skip 1, .limit 2, .batchSize 5, .openStream, .next, .next,
        .map [("name", .str "Bob")], .finish, .close] :=
  ⟨.iterate _ none, (converses_take (.iterate _ none) allStages Except.ok brokenItems).2, rfl⟩

end Step

end DocSelect
