/-
# Well-formed filters

The store does not take every document for a filter.  This file writes down the part of its
filter language that predicates need: tests of one field, the three ways to combine filters, and
the places where a test can be negated.  Two things must not happen in such a document, and
neither does: `$not` stands below a field and never at the head of a filter, and it never stands
directly over `$in`.

The complement of a filter is chosen by its look alone.  It stays in the language unless the
filter is a membership test.
-/
import Mathlib.Tactic.Lemma
import DocSelect.Filter
import DocSelect.Proofs.Value.Form

namespace DocSelect

namespace Filter

/-! ## The language -/

/-- The names that combine filters. -/
def combining : List String :=
  ["$and", "$or", "$nor"]

/-- The objects of operators that a field can be tested by. -/
inductive OperatorDocument : Document → Prop
  | comparison (c : Comparison) {operand : Json} (hoperand : operand.Plain) :
      OperatorDocument [(c.key, operand)]
  | isIn {values : List Json} (hvalues : (Json.arr values).Plain) :
      OperatorDocument [("$in", .arr values)]
  | notIn {values : List Json} (hvalues : (Json.arr values).Plain) :
      OperatorDocument [("$nin", .arr values)]
  | present (b : Bool) : OperatorDocument [("$exists", .bool b)]
  | hasSize (n : Int) : OperatorDocument [("$size", .int n)]
  | matchesText (pattern : String) : OperatorDocument [("$regex", .str pattern)]
  | matchesTextIgnoreCase (pattern : String) :
      OperatorDocument [("$regex", .str pattern), ("$options", .str "i")]
  | notEquals {value : Json} (hvalue : value.Plain) :
      OperatorDocument [("$not", .obj [("$eq", value)])]
  | not {fields : Document} (hin : ∀ values, fields ≠ [("$in", .arr values)]) :
      OperatorDocument fields → OperatorDocument [("$not", .obj fields)]

/-- The documents that predicates are turned into. -/
inductive WellFormed : Document → Prop
  | and {f g : Document} : WellFormed f → WellFormed g →
      WellFormed [("$and", .arr [.obj f, .obj g])]
  | or {f g : Document} : WellFormed f → WellFormed g →
      WellFormed [("$or", .arr [.obj f, .obj g])]
  /-- A negation from outside is for combinations of filters only. -/
  | nor {name : String} {value : Json} (hname : name ∈ combining) :
      WellFormed [(name, value)] → WellFormed [("$nor", .arr [.obj [(name, value)]])]
  | equals {field : String} {value : Json} (hfield : isOperatorName field = false)
      (hvalue : value.Plain) : WellFormed [(field, value)]
  | tested {field : String} {fields : Document} (hfield : isOperatorName field = false)
      (hfields : OperatorDocument fields) : WellFormed [(field, .obj fields)]

lemma isOperatorName_of_mem_combining {name : String} (h : name ∈ combining) :
    isOperatorName name = true := by
  simp only [combining, List.mem_cons, List.not_mem_nil, or_false] at h
  rcases h with rfl | rfl | rfl
  · decide
  · decide
  · decide

/-- What the store is given as an object of operators, it takes for one. -/
lemma OperatorDocument.isOperatorDocument {fields : Document} (h : OperatorDocument fields) :
    Filter.isOperatorDocument fields = true := by
  cases h with
  | comparison c _ =>
    cases c <;> simp [Filter.isOperatorDocument, isOperatorName, Comparison.key]
  | _ => simp [Filter.isOperatorDocument, isOperatorName]

/-- A well-formed filter has one name. -/
lemma WellFormed.length_eq_one {f : Document} (h : WellFormed f) : f.length = 1 := by
  cases h <;> rfl

/-! ## Complements -/

/-- The complement of a well-formed filter is well formed, unless the filter tests membership. -/
lemma WellFormed.complement {f : Document} (h : WellFormed f)
    (hin : ∀ field values, f ≠ isIn field values) : WellFormed (complement f) := by
  cases h with
  | and hf hg =>
    rw [complement_of_operatorName (by decide)]
    exact WellFormed.nor (by simp [combining]) (WellFormed.and hf hg)
  | or hf hg =>
    rw [complement_of_operatorName (by decide)]
    exact WellFormed.nor (by simp [combining]) (WellFormed.or hf hg)
  | nor hname hf =>
    rw [complement_of_operatorName (by decide)]
    exact WellFormed.nor (by simp [combining]) (WellFormed.nor hname hf)
  | @equals field value hfield hvalue =>
    have hoperators : operators value = .obj [("$eq", value)] := by
      cases value with
      | obj fields => exact absurd rfl (hvalue.ne_obj fields)
      | _ => rfl
    rw [complement_of_field hfield, hoperators]
    exact WellFormed.tested hfield (OperatorDocument.notEquals hvalue)
  | @tested field fields hfield hfields =>
    have hoperators : operators (.obj fields) = .obj fields := by
      rw [operators, if_pos hfields.isOperatorDocument]
    rw [complement_of_field hfield, hoperators]
    refine WellFormed.tested hfield (OperatorDocument.not ?_ hfields)
    rintro values rfl
    exact hin field values rfl

/-- No complement is a membership test. -/
lemma complement_ne_isIn (f : Document) (field : String) (values : List Json) :
    complement f ≠ isIn field values := by
  unfold complement
  split
  · split
    · simp [neither, isIn, test]
    · simp [isIn, test]
  · simp [neither, isIn, test]

/-! ## Where a negation stands -/

/-- `Subfilter g f`: the filter `g` is `f` itself or one of the filters that it combines, at any
depth. -/
inductive Subfilter (g : Document) : Document → Prop
  | refl : Subfilter g g
  | part {name : String} {items : List Json} {f h : Document} (hname : name ∈ combining)
      (hentry : (name, .arr items) ∈ h) (hitem : .obj f ∈ items) :
      Subfilter g f → Subfilter g h

/-- What a well-formed filter combines is well formed. -/
lemma WellFormed.of_part {name : String} {items : List Json} {f h : Document}
    (hh : WellFormed h) (hname : name ∈ combining) (hentry : (name, .arr items) ∈ h)
    (hitem : .obj f ∈ items) : WellFormed f := by
  cases hh with
  | @and l r hl hr | @or l r hl hr =>
    obtain ⟨-, rfl⟩ : _ ∧ items = [.obj l, .obj r] := by simpa using hentry
    obtain rfl | rfl : f = l ∨ f = r := by simpa using hitem
    · exact hl
    · exact hr
  | @nor name' value' _ hf =>
    obtain ⟨-, rfl⟩ : name = "$nor" ∧ items = [.obj [(name', value')]] := by simpa using hentry
    obtain rfl : f = [(name', value')] := by simpa using hitem
    exact hf
  -- a field combines nothing
  | @equals field value hfield _ =>
    obtain ⟨rfl, -⟩ : name = field ∧ Json.arr items = value := by simpa using hentry
    exact absurd (isOperatorName_of_mem_combining hname) (by simp [hfield])
  | tested _ _ => simp at hentry

/-- The filters inside a well-formed filter are well formed. -/
lemma WellFormed.of_subfilter {f g : Document} (hg : Subfilter g f) (h : WellFormed f) :
    WellFormed g := by
  induction hg with
  | refl => exact h
  | part hname hentry hitem _ ih => exact ih (h.of_part hname hentry hitem)

/-- At the head of a well-formed filter there is no `$not`. -/
lemma WellFormed.not_mem_keys {f : Document} (h : WellFormed f) : "$not" ∉ Entries.keys f := by
  cases h with
  | equals hfield _ | tested hfield _ =>
    simp only [Entries.keys, List.map_cons, List.map_nil, List.mem_singleton]
    rintro rfl
    exact absurd hfield (by decide)
  | _ => simp [Entries.keys]

/-- Every `$not` in an object stands over an object, and `$in` is not a name of that one. -/
def NegatesNoMembership (fields : Document) : Prop :=
  ∀ value, ("$not", value) ∈ fields → ∃ inner, value = .obj inner ∧ "$in" ∉ Entries.keys inner

lemma negatesNoMembership_of_not_mem {fields : Document} (h : "$not" ∉ Entries.keys fields) :
    NegatesNoMembership fields := by
  intro value hvalue
  exact absurd (List.mem_map_of_mem hvalue) h

lemma negatesNoMembership_not {fields : Document} (h : "$in" ∉ Entries.keys fields) :
    NegatesNoMembership [("$not", .obj fields)] := by
  intro value hvalue
  obtain rfl : value = .obj fields := by simpa using hvalue
  exact ⟨fields, rfl, h⟩

/-- Among the objects of operators, only that of a membership test has the name `$in`. -/
lemma OperatorDocument.not_mem_keys {fields : Document} (h : OperatorDocument fields)
    (hin : ∀ values, fields ≠ [("$in", .arr values)]) : "$in" ∉ Entries.keys fields := by
  cases h with
  | comparison c _ => cases c <;> simp [Entries.keys, Comparison.key]
  | isIn _ => exact absurd rfl (hin _)
  | _ => simp [Entries.keys]

/-- In an object of operators no `$not` stands over `$in`, at any depth. -/
lemma OperatorDocument.negatesNoMembership {fields : Document} (h : OperatorDocument fields) :
    ∀ g ∈ (Json.obj fields).objects, NegatesNoMembership g := by
  induction h with
  | @comparison c operand hoperand =>
    rw [Json.objects_entry, show operand.objects = [] from hoperand, List.forall_mem_singleton]
    refine negatesNoMembership_of_not_mem ?_
    cases c <;> simp [Entries.keys, Comparison.key]
  | @isIn values hvalues | @notIn values hvalues =>
    rw [Json.objects_entry, show (Json.arr values).objects = [] from hvalues,
      List.forall_mem_singleton]
    exact negatesNoMembership_of_not_mem (by simp [Entries.keys])
  | present | hasSize | matchesText | matchesTextIgnoreCase =>
    simp only [Json.objects, Json.objectsOfFields, List.append_nil, List.forall_mem_singleton]
    exact negatesNoMembership_of_not_mem (by simp [Entries.keys])
  | @notEquals value hvalue =>
    rw [Json.objects_entry, Json.objects_entry, show value.objects = [] from hvalue,
      List.forall_mem_cons, List.forall_mem_singleton]
    constructor
    · exact negatesNoMembership_not (by simp [Entries.keys])
    · exact negatesNoMembership_of_not_mem (by simp [Entries.keys])
  | not hin hfields ih =>
    rw [Json.objects_entry, List.forall_mem_cons]
    exact ⟨negatesNoMembership_not (hfields.not_mem_keys hin), ih⟩

/-- In a well-formed filter no `$not` stands over `$in`, at any depth. -/
lemma WellFormed.negatesNoMembership {f : Document} (h : WellFormed f) :
    ∀ g ∈ (Json.obj f).objects, NegatesNoMembership g := by
  have hhead := negatesNoMembership_of_not_mem h.not_mem_keys
  induction h with
  | and hf hg ihf ihg | or hf hg ihf ihg =>
    rw [Json.objects_entry, List.forall_mem_cons]
    refine ⟨hhead, ?_⟩
    rw [Json.objects, Json.objectsOfItems, Json.objectsOfItems, Json.objectsOfItems,
      List.append_nil, List.forall_mem_append]
    exact ⟨ihf (negatesNoMembership_of_not_mem hf.not_mem_keys),
      ihg (negatesNoMembership_of_not_mem hg.not_mem_keys)⟩
  | nor hname hf ih =>
    rw [Json.objects_entry, List.forall_mem_cons, Json.objects, Json.objectsOfItems,
      Json.objectsOfItems, List.append_nil]
    exact ⟨hhead, ih (negatesNoMembership_of_not_mem hf.not_mem_keys)⟩
  | @equals field value _ hvalue =>
    rw [Json.objects_entry, show value.objects = [] from hvalue, List.forall_mem_singleton]
    exact hhead
  | tested _ hfields =>
    rw [Json.objects_entry, List.forall_mem_cons]
    exact ⟨hhead, hfields.negatesNoMembership⟩

end Filter

end DocSelect
