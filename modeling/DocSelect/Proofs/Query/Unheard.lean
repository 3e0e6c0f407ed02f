/-
# What the collection does not hear of

Joins and their conditions, the wish for distinct results and the values of parameters are kept with
a query, but no request has a place for them.  This file proves that nothing of them gets through,
in a session of any length: to leave out all steps that are about them changes neither a result nor
a call of any other step.  What it may take away is the warning that joins are ignored, which stands
in front of everything else that a step records.

The session with all its steps and the one without those go on side by side.  The second one is
always at the query of the first, with the clauses taken off that are not heard (`Query.heard`):
a step that is not heard leaves it there (`Step.heard_next_of_not_isHeard`), and every other step
does the same to both (`Step.next_heard`) and answers the same but for the warning
(`Step.answer_eq`).
-/
import Mathlib.Data.List.Forall2
import DocSelect.Proofs.Query.Conversation

namespace DocSelect

variable {α β : Type}

/-! ## Records in front -/

namespace Outcome

variable {ω ω' : Type}

/-- The outcome with further records in front of its own. -/
def preceded (rs : List ω) (o : Outcome ω α) : Outcome ω α :=
  ⟨rs ++ o.records, o.result⟩

lemma preceded_bind (rs : List ω) (o : Outcome ω α) (f : α → Outcome ω β) :
    o.preceded rs >>= f = (o >>= f).preceded rs := by
  cases h : o.result with
  | ok a =>
    have hpreceded : (o.preceded rs).result = .ok a := h
    rw [bind_of_ok h, bind_of_ok hpreceded, preceded, preceded, List.append_assoc]
  | error e =>
    have hpreceded : (o.preceded rs).result = .error e := h
    rw [bind_of_error h, bind_of_error hpreceded]
    rfl

lemma map_preceded (f : α → β) (rs : List ω) (o : Outcome ω α) :
    f <$> o.preceded rs = (f <$> o).preceded rs :=
  preceded_bind rs o fun a => pure (f a)

lemma mapRecords_preceded (f : ω → ω') (rs : List ω) (o : Outcome ω α) :
    (o.preceded rs).mapRecords f = (o.mapRecords f).preceded (rs.map f) := by
  rw [mapRecords, preceded, List.map_append]
  rfl

end Outcome

/-! ## Running a query -/

/-- The clauses without those that no request has a place for. -/
def Clauses.heard (c : Clauses) : Clauses :=
  { c with distinct := false, joins := [], params := [] }

namespace Query

/-- The query as far as the collection hears of it. -/
def heard (q : Query) : Query :=
  { q with clauses := q.clauses.heard }

/-- The warning that joins are ignored, if there are any. -/
def warnings (q : Query) : List Notice :=
  if q.clauses.joins.isEmpty then [] else [.joinsIgnored q.clauses.joins.length]

/-- The joins add nothing to the condition, and there is a warning. -/
lemma condition_eq (q : Query) : q.condition = q.heard.condition.preceded q.warnings := by
  rw [condition, warnings]
  cases q.clauses.joins.isEmpty with
  | true => rfl
  | false =>
    show _ = Outcome.preceded _ (pure q.clauses.condition)
    cases q.clauses.condition with
    | none => rfl
    | some e => rfl

lemma compile_eq (q : Query) : q.compile = q.heard.compile.preceded q.warnings := by
  rw [compile, condition_eq, Outcome.preceded_bind]
  rfl

lemma send_eq (q : Query) (purpose : Purpose) (items : List Item) :
    q.send purpose items =
      (q.heard.send purpose items).preceded (q.warnings.map Event.notice) := by
  rw [send, compile_eq, Outcome.mapRecords_preceded, Outcome.preceded_bind]
  rfl

end Query

namespace Step

/-- Whether a step compiles or runs the query. -/
def isRun : Step → Bool
  | compile | fetch | fetchProjected _ | fetchOne | fetchOneProjected _ | iterate _ _ => true
  | _ => false

/-- What a step answers, told by what it would answer if nothing had been said that is not heard. -/
lemma answer_eq (step : Step) (q : Query) (mapper : Mapper β) (items : List Item) :
    step.answer q mapper items =
      (step.answer q.heard mapper items).preceded
        (if step.isRun then q.warnings.map Event.notice else []) := by
  have hfetch : q.fetch mapper items =
      (q.heard.fetch mapper items).preceded (q.warnings.map Event.notice) := by
    rw [Query.fetch, Query.send_eq, Outcome.preceded_bind]
    rfl
  have hfetchOne : q.fetchOne mapper items =
      (q.heard.fetchOne mapper items).preceded (q.warnings.map Event.notice) := by
    rw [Query.fetchOne, Query.send_eq, Outcome.preceded_bind]
    rfl
  cases step with
  | compile =>
    show Reply.compiled <$> q.compile.mapRecords Event.notice = _
    rw [Query.compile_eq, Outcome.mapRecords_preceded, Outcome.map_preceded]
    rfl
  | fetch | fetchProjected paths =>
    show Reply.results <$> q.fetch mapper items = _
    rw [hfetch, Outcome.map_preceded]
    rfl
  | fetchOne | fetchOneProjected paths =>
    show Reply.first <$> q.fetchOne mapper items = _
    rw [hfetchOne, Outcome.map_preceded]
    rfl
  | iterate paths bound =>
    show Reply.pulled <$> q.iterate mapper bound items = _
    rw [Query.iterate, Query.send_eq, Outcome.preceded_bind, Outcome.map_preceded]
    rfl
  | _ => rfl

/-! ## Steps that are heard -/

/-- Whether a step is about anything that a request has a place for. -/
def isHeard : Step → Bool
  | distinct | bind _ _ | join _ _ _ | on _ => false
  | _ => true

/-- A step that is not heard changes nothing that is heard. -/
lemma heard_next_of_not_isHeard {step : Step} (h : step.isHeard = false) (q : Query) :
    (step.next q).heard = q.heard := by
  cases step with
  | on condition =>
    have hclauses : ((on condition).next q).clauses.heard = q.clauses.heard := by
      simp only [next, revise, Clauses.restrictJoin]
      split <;> rfl
    rw [Query.heard, hclauses]
    rfl
  | distinct | bind | join => rfl
  | _ => cases h

/-- A step that is heard takes no notice of the clauses that are not. -/
lemma revise_heard {step : Step} (h : step.isHeard = true) (c : Clauses) :
    step.revise c.heard = (step.revise c).map Clauses.heard := by
  cases step with
  | filter predicates =>
    rw [revise, revise, Clauses.filter, Clauses.filter]
    split <;> rfl
  | distinct | bind | join | on => cases h
  | _ => rfl

/-- A step that is heard does the same to a query with and without the clauses that are not. -/
lemma next_heard {step : Step} (h : step.isHeard = true) (q : Query) :
    step.next q.heard = (step.next q).heard := by
  have hclauses : (step.next q.heard).clauses = (step.next q).clauses.heard := by
    show (step.revise q.clauses.heard).toOption.getD q.clauses.heard =
      ((step.revise q.clauses).toOption.getD q.clauses).heard
    rw [revise_heard h]
    cases step.revise q.clauses with
    | error e => rfl
    | ok c => rfl
  show Query.mk (step.next q.heard).clauses _ = _
  rw [hclauses]
  rfl

end Step

/-! ## Sessions -/

/-- What the steps of a session answer.  Every step comes with the items that the collection has in
store when it is taken. -/
def Query.transcript (q : Query) (mapper : Mapper β) :
    List (Step × List Item) → List (Step × Ran (Reply β))
  | [] => []
  | (step, items) :: rest =>
    (step, (step.take q mapper items).2) :: transcript (step.take q mapper items).1 mapper rest

/-- Two answers to a step that are the same but for a warning in front of the first one: they have
the same result, and the same calls were made. -/
structure SameButWarning (t t' : Step × Ran (Reply β)) : Prop where
  step_eq : t.1 = t'.1
  result_eq : t.2.result = t'.2.result
  calls_eq : t.2.calls = t'.2.calls
  records_eq : t.2.records = t'.2.records ∨
    ∃ count : Nat, t.2.records = .notice (.joinsIgnored count) :: t'.2.records

lemma SameButWarning.refl (t : Step × Ran (Reply β)) : SameButWarning t t :=
  ⟨rfl, rfl, rfl, .inl rfl⟩

namespace Step

/-- The answers to a step that is heard, with and without the clauses that are not. -/
lemma sameButWarning_take {step : Step} (h : step.isHeard = true) (q : Query) (mapper : Mapper β)
    (items : List Item) :
    SameButWarning (step, (step.take q mapper items).2)
      (step, (step.take q.heard mapper items).2) := by
  have htake : (step.take q.heard mapper items).2 =
      Outcome.ofExcept (step.revise q.clauses) >>= fun _ =>
        step.answer (step.next q).heard mapper items := by
    show (Outcome.ofExcept (step.revise q.clauses.heard) >>= fun _ =>
      step.answer (step.next q.heard) mapper items) = _
    rw [revise_heard h, next_heard h]
    cases step.revise q.clauses with
    | error e => rfl
    | ok c => rfl
  rw [htake, take]
  cases step.revise q.clauses with
  | error e => exact .refl _
  | ok c =>
    show SameButWarning (step, step.answer (step.next q) mapper items)
      (step, step.answer (step.next q).heard mapper items)
    rw [answer_eq step (step.next q)]
    cases step.isRun with
    | false => exact .refl _
    | true =>
      rw [if_pos rfl, Query.warnings]
      cases (step.next q).clauses.joins.isEmpty with
      | true => exact .refl _
      | false => exact ⟨rfl, rfl, rfl, .inr ⟨_, rfl⟩⟩

end Step

namespace Query

/-- A session and the same one without the steps that are not heard, which begins with the clauses
that are heard. -/
lemma forall₂_transcript_heard (q : Query) (mapper : Mapper β) (session : List (Step × List Item)) :
    List.Forall₂ SameButWarning
      ((q.transcript mapper session).filter fun t => t.1.isHeard)
      (q.heard.transcript mapper (session.filter fun s => s.1.isHeard)) := by
  induction session generalizing q with
  | nil => exact .nil
  | cons s rest ih =>
    obtain ⟨step, items⟩ := s
    have hrest := ih (step.next q)
    cases hstep : step.isHeard with
    | false =>
      rw [Step.heard_next_of_not_isHeard hstep] at hrest
      rw [transcript, List.filter_cons_of_neg (by simp [hstep]),
        List.filter_cons_of_neg (by simp [hstep])]
      exact hrest
    | true =>
      rw [← Step.next_heard hstep] at hrest
      rw [transcript, List.filter_cons_of_pos (by simp [hstep]),
        List.filter_cons_of_pos (by simp [hstep]), transcript]
      exact .cons (Step.sameButWarning_take hstep q mapper items) hrest

/-- **Joins, distinctness and parameters do not get through.**  Take any session with a fresh query,
and leave out all its steps that add a join or a condition on one, ask for distinct results or bind
a parameter.  Then each step that is left has the same result as before and makes the same calls to
the collection and to the mapper.  It also records the same, apart from a warning about joins that
may have stood in front of it all. -/
theorem forall₂_transcript_filter_isHeard (mapper : Mapper β)
    (session : List (Step × List Item)) :
    List.Forall₂ SameButWarning
      ((({} : Query).transcript mapper session).filter fun t => t.1.isHeard)
      (({} : Query).transcript mapper (session.filter fun s => s.1.isHeard)) :=
  forall₂_transcript_heard {} mapper session

/-- A value that is bound to a parameter does not take its place in a predicate. -/
example (v : Value) (items : List Item) :
    ((({} : Query).transcript Except.ok
      [(.filter [some (.param "adult")], items), (.bind "adult" v, items), (.fetch, items)]).map
        fun t => t.2.result) =
      [.ok .done, .ok .done, .error (.unsupportedNode "parameter")] := rfl

end Query

end DocSelect
