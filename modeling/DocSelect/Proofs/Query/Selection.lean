/-
# What a query sorts by and what it returns

Two documents of a request are tables that are made from lists: the sort order from the sort keys,
and the projection from the expressions that are selected.  In both of them paths are told apart by
their field names alone, and a field that is named again keeps its place.

* A sort order lists each field where it is first named, with the direction that it is given last
  (`SortsBy`), in however many portions the sort keys came in.
* A projection lists the fields of the paths among the expressions and nothing else
  (`Selects`).  There is none exactly if nothing at all was selected, so expressions that are no
  paths count in one respect: they keep a projection from being absent.
-/
import DocSelect.Proofs.Entries.Bindings
import DocSelect.Proofs.Query.History
import DocSelect.Proofs.Query.Results

namespace DocSelect

/-! ## Sort orders -/

/-- What a document says as a sort order by some sort keys. -/
structure SortsBy (sort : Document) (keys : List SortKey) : Prop where
  /-- The fields stand where they are first named. -/
  keys_eq : Entries.keys sort = (keys.map fun key => key.target.fieldName).eraseDups
  /-- No field stands twice. -/
  nodup : (Entries.keys sort).Nodup
  /-- Beside a field stands the direction of the last sort key that names it. -/
  mem_iff : ∀ (name : String) (value : Json), (name, value) ∈ sort ↔
    ∃ before key after, keys = before ++ key :: after ∧ key.target.fieldName = name ∧
      Json.int (if key.direction = .ascending then 1 else -1) = value ∧
      ∀ other ∈ after, other.target.fieldName ≠ name

lemma Direction.sign_eq (direction : Direction) :
    direction.sign = if direction = .ascending then 1 else -1 := by
  cases direction with
  | _ => rfl

lemma sortsBy_sortDocument (keys : List SortKey) : SortsBy (sortDocument keys) keys where
  keys_eq := Entries.keys_ofList_map keys
  nodup := Entries.nodup_keys_ofList _
  mem_iff name value := by
    simp only [← Direction.sign_eq]
    exact Entries.mem_ofList_map_iff

namespace Query

/-- Sort keys pile up over a session. -/
lemma order_after (q : Query) (steps : List Step) :
    (q.after steps).clauses.order = q.clauses.order ++ steps.flatMap Step.sortKeys :=
  after_of_append (fun q => q.clauses.order) (fun step q => by rw [Step.next_eq]) q steps

/-- **What a query sorts by.**  The document of any sort keys lists each field once, where it is
first named, with the direction that it is given last.  In however many portions the sort keys have
come in, and whatever steps there were between them, this document is the one in the request. -/
theorem sortsBy_after (keys : List SortKey) :
    SortsBy (sortDocument keys) keys ∧
      ∀ (q : Query) (steps : List Step), q.clauses.order ++ steps.flatMap Step.sortKeys = keys →
        ∀ r, (q.after steps).compile.result = .ok r → r.sort = sortDocument keys := by
  refine ⟨sortsBy_sortDocument keys, ?_⟩
  rintro q steps rfl r hr
  obtain ⟨filter, -, rfl⟩ := compile_eq_ok_iff.mp hr
  rw [← order_after]
  rfl

/-- A field is named three times, in different words and in two portions. -/
theorem sortsBy_after_sameField :
    let age : Path := .property (.root "user") "age"
    let first : List SortKey := [⟨age, .ascending⟩]
    let second : List SortKey := [⟨.delegate (.anyOf age), .ascending⟩,
      ⟨.property (.root "item") "name", .ascending⟩, ⟨.property age "", .descending⟩]
    let steps : List Step := [.orderBy first, .limit 3, .orderBy second]
    ({} : Query).clauses.order ++ steps.flatMap Step.sortKeys = first ++ second ∧
      Entries.keys (sortDocument (first ++ second)) = ["age", "name"] ∧
      ("age", .int (-1)) ∈ sortDocument (first ++ second) ∧
      ∃ r, (({} : Query).after steps).compile.result = .ok r ∧
        r.sort = sortDocument (first ++ second) := by
  intro age first second steps
  obtain ⟨hsorts, hafter⟩ := sortsBy_after (first ++ second)
  have hkeys : Entries.keys (sortDocument (first ++ second)) = ["age", "name"] :=
    hsorts.keys_eq.trans (by decide)
  have hlast : first ++ second = [⟨age, .ascending⟩, ⟨.delegate (.anyOf age), .ascending⟩,
      ⟨.property (.root "item") "name", .ascending⟩] ++ ⟨.property age "", .descending⟩ :: [] := rfl
  have hmem : ("age", .int (-1)) ∈ sortDocument (first ++ second) :=
    (hsorts.mem_iff "age" (.int (-1))).mpr
      ⟨_, _, _, hlast, by decide, rfl, List.forall_mem_nil _⟩
  exact ⟨rfl, hkeys, hmem, _, rfl, hafter {} steps rfl _ rfl⟩

end Query

/-! ## Projections -/

/-- What a projection says that selects some expressions. -/
structure Selects (projection : Option Document) (items : List Expr) : Prop where
  /-- There is no projection exactly if there are no expressions. -/
  eq_none_iff : projection = none ↔ items = []
  /-- The fields are those of the paths, and stand where they are first named. -/
  keys_eq : ∀ d ∈ projection,
    Entries.keys d = ((items.filterMap Expr.path?).map Path.fieldName).eraseDups
  /-- No field stands twice. -/
  nodup : ∀ d ∈ projection, (Entries.keys d).Nodup
  /-- Every field is to be returned. -/
  value_eq : ∀ d ∈ projection, ∀ entry ∈ d, entry.2 = .int 1

/-- All fields in a projection are to be returned. -/
lemma eq_one_of_mem_selecting {paths : List Path} {entry : String × Json}
    (h : entry ∈ selecting paths) : entry.2 = .int 1 := by
  obtain ⟨_, _, _, -, -, hvalue, -⟩ := Entries.mem_ofList_map_iff.mp h
  exact hvalue.symm

lemma selects_selected (items : List Expr) :
    Selects (projectionDocument (Expr.selected items)) items := by
  cases items with
  | nil => constructor <;> simp [Expr.selected, projectionDocument]
  | cons item items =>
    constructor
    case eq_none_iff => simp [Expr.selected, projectionDocument]
    case keys_eq =>
      rintro d ⟨⟩
      exact Entries.keys_ofList_map _
    case nodup =>
      rintro d ⟨⟩
      exact Entries.nodup_keys_ofList _
    case value_eq =>
      rintro d ⟨⟩ entry hentry
      exact eq_one_of_mem_selecting hentry

/-- Once something is selected, only the paths count. -/
lemma projectionDocument_selected {items : List Expr} (h : items ≠ []) :
    projectionDocument (Expr.selected items) = some (selecting (items.filterMap Expr.path?)) := by
  cases items with
  | nil => exact absurd rfl h
  | cons item items => rfl

/-- The projection that a call passes on, if it passes on one. -/
def Call.projection? : Call → Option (Option Document)
  | project projection => some projection
  | _ => none

/-- A number is passed on without a projection. -/
lemma filterMap_projection?_toList (call : Nat → Call) (h : ∀ n, (call n).projection? = none)
    (n : Option Nat) : (n.toList.map call).filterMap Call.projection? = [] := by
  cases n with
  | none => rfl
  | some n => rw [Option.toList_some, List.map_singleton, List.filterMap_cons_none (h n)]; rfl

/-- In a request the projection is passed on once. -/
lemma filterMap_projection?_calls (config : Config) (r : Request) (purpose : Purpose) :
    (Run.calls config r purpose).filterMap Call.projection? = [r.projection] := by
  have hskip := filterMap_projection?_toList .skip (fun _ => rfl) r.offset
  have hlimit := filterMap_projection?_toList .limit (fun _ => rfl) r.limit
  have hbatch := filterMap_projection?_toList .batchSize (fun _ => rfl) config.batchSize
  have hlimits : (if purpose = .fetchFirst then [] else r.limit.toList.map Call.limit).filterMap
      Call.projection? = [] := by
    split
    · rfl
    · exact hlimit
  rw [Run.calls, List.filterMap_append, List.filterMap_append, List.filterMap_append, hskip,
    hlimits, hbatch]
  rfl

/-- The projection is passed on with the request or not at all. -/
lemma filterMap_projection?_filter_isStage (cs : List Call) :
    (cs.filter Call.isStage).filterMap Call.projection? = cs.filterMap Call.projection? := by
  rw [List.filterMap_filter]
  congr 1
  funext c
  cases c with
  | _ => rfl

namespace Step

/-- To select expressions replaces the projection of the request and nothing else. -/
lemma result_compile_project (q : Query) (items : List Expr) :
    ((project items).next q).compile.result =
      q.compile.result.map fun r =>
        { r with projection := projectionDocument (Expr.selected items) } := by
  have hnext : (project items).next q =
      { q with clauses := { q.clauses with projection := Expr.selected items } } := by
    show { q with clauses := q.clauses.select items } = _
    rw [select_eq]
  have hcompile : ((project items).next q).compile.result = (do
      let filter ← (Query.filterOf q.clauses.condition).result
      pure { q.request filter with projection := projectionDocument (Expr.selected items) }) := by
    rw [hnext, Query.result_compile]
    rfl
  rw [hcompile, Query.result_compile]
  cases (Query.filterOf q.clauses.condition).result with
  | ok filter => rfl
  | error e => rfl

/-- The projections that a step sends which selects paths of its own. -/
lemma Runs.projections {step : Step} {purpose : Purpose} {paths : List Path}
    {β : Type} (h : step.Runs purpose (some paths)) (q : Query) (mapper : Mapper β)
    (items : List Item) :
    (step.take q mapper items).2.calls.filterMap Call.projection? =
      match q.compile.result with
      | .error _ => []
      | .ok _ => [projectionDocument (Expr.selected (paths.map Expr.path))] := by
  have hconverses := (converses_take h q mapper items).2
  have hselecting : q.selecting (some paths) = (project (paths.map Expr.path)).next q := rfl
  rw [← filterMap_projection?_filter_isStage, hconverses.filter_isStage, hselecting,
    result_compile_project]
  cases q.compile.result with
  | error e => rfl
  | ok r => exact filterMap_projection?_calls _ _ _

/-- **What a query returns.**  To select some expressions gives the request a projection that
selects them, and changes nothing else in it.  Which other expressions stand between the paths, and
in which order, does not matter, as long as there are any expressions at all.  A step that selects
paths of its own sends the same projection, once, whatever it is run for. -/
theorem selects_project {β : Type} (q : Query) (items : List Expr) :
    ∃ projection, Selects projection items ∧
      ((project items).next q).compile.result =
        q.compile.result.map (fun r => { r with projection := projection }) ∧
      (∀ items', items ≠ [] → items' ≠ [] →
        items'.filterMap Expr.path? = items.filterMap Expr.path? →
        ((project items').next q).compile.result = ((project items).next q).compile.result) ∧
      ∀ paths : List Path, paths.map Expr.path = items →
        ∀ (step : Step) (purpose : Purpose), step.Runs purpose (some paths) →
        ∀ (mapper : Mapper β) (answers : List Item),
          (step.take q mapper answers).2.calls.filterMap Call.projection? =
            match q.compile.result with
            | .error _ => []
            | .ok _ => [projection] := by
  refine ⟨_, selects_selected items, result_compile_project q items, ?_, ?_⟩
  · intro items' hne hne' hpaths
    rw [result_compile_project, result_compile_project, projectionDocument_selected hne,
      projectionDocument_selected hne', hpaths]
  · rintro paths rfl step purpose hruns mapper answers
    exact hruns.projections q mapper answers

/-- Three paths to two fields, with a constant and a tuple around them or without. -/
theorem selects_project_mixed :
    let name : Path := .property (.root "user") "name"
    let age : Path := .property (.root "user") "age"
    let paths : List Path := [name, age.anyOf, .delegate name]
    let items : List Expr := paths.map Expr.path
    let mixed : List Expr :=
      [.constant (.int 1), .path name, .tuple [.path age], .path age.anyOf, .path (.delegate name)]
    items ≠ [] ∧ mixed ≠ [] ∧ mixed.filterMap Expr.path? = items.filterMap Expr.path? ∧
    Step.Runs (.fetchOneProjected paths) .fetchFirst (some paths) ∧
    ((project mixed).next allStages).compile.result =
      ((project items).next allStages).compile.result ∧
    ∃ d, Entries.keys d = ["name", "age"] ∧
      ((Step.fetchOneProjected paths).take allStages Except.ok brokenItems).2.calls.filterMap
        Call.projection? = [some d] := by
  intro name age paths items mixed
  have hitems : items ≠ [] := List.cons_ne_nil _ _
  have hmixed : mixed ≠ [] := List.cons_ne_nil _ _
  have hruns : Step.Runs (.fetchOneProjected paths) .fetchFirst (some paths) :=
    .fetchOneProjected paths
  obtain ⟨r, hr⟩ : ∃ r, allStages.compile.result = .ok r := ⟨_, rfl⟩
  obtain ⟨projection, hselects, -, hsame, hsent⟩ := selects_project allStages items
  have hcalls := hsent paths rfl _ _ hruns Except.ok brokenItems
  rw [hr] at hcalls
  cases hprojection : projection with
  | none => exact absurd (hselects.eq_none_iff.mp hprojection) hitems
  | some d =>
    have hkeys : Entries.keys d = ["name", "age"] :=
      (hselects.keys_eq d hprojection).trans (by decide)
    rw [hprojection] at hcalls
    exact ⟨hitems, hmixed, rfl, hruns, hsame mixed hitems hmixed rfl, d, hkeys, hcalls⟩

end Step

end DocSelect
