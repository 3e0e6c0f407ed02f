/-
# What filters say

A filter says something true or false of a record once it is known which tests the record
passes.  A test is a field together with an object of operators; the store evaluates all
operators of the object at once, so the object is not taken apart.  Only `$not` is: it negates
the test below it.  This file reads a filter as a Boolean combination of tests, and proves that
the complement of a filter reads as the negation of the filter.
-/
import Mathlib.Tactic.Lemma
import DocSelect.Filter

namespace DocSelect

/-- A truth assignment to tests. -/
structure Assignment where
  /-- Whether a field passes an object of operators. -/
  holds : String → Document → Bool
  /-- A field is none of some values exactly when it is not one of them. -/
  notIn : ∀ field values, holds field [("$nin", .arr values)] = !holds field [("$in", .arr values)]

namespace Assignment

variable (α : Assignment)

/-- Whether a field passes what stands beside it in a filter: an object of operators, or a value
that it has to equal. -/
def passes (field : String) : Json → Bool
  | .obj [("$not", inner)] => !passes field inner
  | .obj fields =>
    if Filter.isOperatorDocument fields then α.holds field fields
    else α.holds field [("$eq", .obj fields)]
  | value => α.holds field [("$eq", value)]

/-- The truth value of a filter.  What is not in the filter language has none. -/
def reading : Json → Option Bool
  | .obj [("$and", .arr [left, right])] => do return (← reading left) && (← reading right)
  | .obj [("$or", .arr [left, right])] => do return (← reading left) || (← reading right)
  | .obj [("$nor", .arr [filter])] => do return !(← reading filter)
  | .obj [(field, value)] =>
    if Filter.isOperatorName field then none else some (α.passes field value)
  | _ => none

/-- The truth value of a document as a filter. -/
def filter? (f : Document) : Option Bool :=
  α.reading (.obj f)

variable {α}

lemma passes_value {field : String} {value : Json} (h : ∀ fields, value ≠ .obj fields) :
    α.passes field value = α.holds field [("$eq", value)] := by
  cases value with
  | obj fields => exact absurd rfl (h fields)
  | _ => simp [passes]

lemma passes_obj {field : String} {fields : Document}
    (h : Filter.isOperatorDocument fields = true) (hnot : ∀ inner, fields ≠ [("$not", inner)]) :
    α.passes field (.obj fields) = α.holds field fields := by
  rw [passes, if_pos h]
  exact hnot

lemma passes_not (field : String) (inner : Json) :
    α.passes field (.obj [("$not", inner)]) = !α.passes field inner := by
  rw [passes]

/-- To write a value as an object of operators does not change what it says. -/
lemma passes_operators (field : String) (value : Json) :
    α.passes field (Filter.operators value) = α.passes field value := by
  have heq : ∀ v, α.passes field (.obj [("$eq", v)]) = α.holds field [("$eq", v)] := by
    intro v
    exact passes_obj (by simp [Filter.isOperatorDocument, Filter.isOperatorName]) (by simp)
  cases value with
  | obj fields =>
    rw [Filter.operators]
    split
    · rfl
    · rename_i h
      rw [heq, passes, if_neg h]
      rintro inner rfl
      exact h (by simp [Filter.isOperatorDocument, Filter.isOperatorName])
  | _ => rw [Filter.operators, heq, passes_value (by simp)]; simp

/-! ## Filters -/

@[simp] lemma filter?_both (f g : Document) :
    α.filter? (Filter.both f g) = do return (← α.filter? f) && (← α.filter? g) := by
  rw [filter?, Filter.both, reading]
  rfl

@[simp] lemma filter?_either (f g : Document) :
    α.filter? (Filter.either f g) = do return (← α.filter? f) || (← α.filter? g) := by
  rw [filter?, Filter.either, reading]
  rfl

@[simp] lemma filter?_neither (f : Document) :
    α.filter? (Filter.neither f) = (α.filter? f).map (!·) := by
  rw [filter?, Filter.neither, reading]
  show _ = (α.reading (.obj f)).map (!·)
  cases α.reading (.obj f) <;> rfl

lemma filter?_field {field : String} (h : Filter.isOperatorName field = false) (value : Json) :
    α.filter? [(field, value)] = some (α.passes field value) := by
  rw [filter?, reading]
  · simp [h]
  -- the names that combine filters are no fields
  · rintro _ _ rfl
    exact absurd h (by decide)
  · rintro _ _ rfl
    exact absurd h (by decide)
  · rintro _ rfl
    exact absurd h (by decide)

/-- A value that is no object is tested for equality. -/
lemma filter?_equals {field : String} (h : Filter.isOperatorName field = false) {value : Json}
    (hvalue : ∀ fields, value ≠ .obj fields) :
    α.filter? (Filter.equals field value) = some (α.holds field [("$eq", value)]) := by
  rw [Filter.equals, filter?_field h, passes_value hvalue]

/-- A single operator, `$not` apart, is a test. -/
lemma filter?_test {field operator : String} (h : Filter.isOperatorName field = false)
    (hoperator : Filter.isOperatorName operator = true) (hnot : operator ≠ "$not")
    (operand : Json) :
    α.filter? (Filter.test field operator operand) =
      some (α.holds field [(operator, operand)]) := by
  rw [Filter.test, filter?_field h, passes_obj]
  · simp [Filter.isOperatorDocument, hoperator]
  · simp [hnot]

/-- A pattern and its options are a single test. -/
lemma filter?_matchesText {field : String} (h : Filter.isOperatorName field = false)
    (pattern : String) (ignoreCase : Bool) :
    α.filter? (Filter.matchesText field pattern ignoreCase) =
      some (α.holds field (("$regex", .str pattern) ::
        if ignoreCase then [("$options", .str "i")] else [])) := by
  rw [Filter.matchesText, filter?_field h, passes_obj]
  · cases ignoreCase <;> simp [Filter.isOperatorDocument, Filter.isOperatorName]
  · simp

/-- **The complement of a filter is its negation.** -/
theorem filter?_complement (f : Document) :
    α.filter? (Filter.complement f) = (α.filter? f).map (!·) := by
  unfold Filter.complement
  split
  · rename_i field value
    split
    · exact filter?_neither _
    · rename_i h
      have hfield : Filter.isOperatorName field = false := by simpa using h
      rw [Filter.test, filter?_field hfield, filter?_field hfield, passes_not, passes_operators,
        Option.map_some]
  · exact filter?_neither _

end Assignment

end DocSelect
