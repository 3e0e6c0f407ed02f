/-
# The complement of any document

The complement of a filter is chosen by the look of the filter, which need not be one that a
predicate is compiled to.  It may be any document, with any number of entries, with objects that
only look like objects of operators, and with negations in each other.  This file reads all of them.
A document says that all its entries hold; an entry is a combination of filters, a test of a field
by the operators of an object, or a test of a field for equality; and what the filter language has
no rule for is a test of its own, of which nothing is known.

Every document then has a truth value, and its complement has the opposite one
(`Valuation.holds_complement`).  An object of operators is taken apart here, operator by operator,
which is finer than the tests of `Assignment`.
-/
import Mathlib.Tactic.Lemma
import DocSelect.Filter

namespace DocSelect

/-- A truth assignment to whatever a filter is made of in the end. -/
structure Valuation where
  /-- Whether an entry holds whose name belongs to the filter language, if it does not combine
  filters. -/
  entry : String → Json → Bool
  /-- Whether a field passes a single operator with its operand. -/
  operator : String → String → Json → Bool

/-- How a name of the filter language makes one truth value of many. -/
def Filter.combination? : String → Option (List Bool → Bool)
  | "$and" => some fun bs => bs.all id
  | "$or" => some fun bs => bs.any id
  | "$nor" => some fun bs => !bs.any id
  | _ => none

namespace Valuation

variable (α : Valuation)

/-! ## Readings -/

mutual

/-- Whether a field passes all operators of an object. -/
def passesAll (field : String) : List (String × Json) → Bool
  | [] => true
  | (operator, operand) :: rest => passesOne field operator operand && passesAll field rest

/-- Whether a field passes an operator.  Over an object of operators `$not` is their negation; any
other operator, and `$not` over anything else, is a test of its own. -/
def passesOne (field operator : String) : Json → Bool
  | .obj operators =>
    if operator = "$not" ∧ Filter.isOperatorDocument operators then !passesAll field operators
    else α.operator field operator (.obj operators)
  | operand => α.operator field operator operand

end

/-- Whether a field passes what stands beside it in a filter: an object of operators, or a value
that it has to equal. -/
def passes (field : String) : Json → Bool
  | .obj fields =>
    if Filter.isOperatorDocument fields then α.passesAll field fields
    else α.operator field "$eq" (.obj fields)
  | value => α.operator field "$eq" value

/-- Whether an entry of a filter holds, if its value is an array of filters with the truth values
`parts?`. -/
def holdsEntry (name : String) (value : Json) (parts? : Option (List Bool)) : Bool :=
  if Filter.isOperatorName name then
    match Filter.combination? name, parts? with
    | some combine, some bs => combine bs
    | _, _ => α.entry name value
  else α.passes name value

mutual

/-- Whether a filter holds, which is whether all its entries do. -/
def holds : List (String × Json) → Bool
  | [] => true
  | (name, value) :: rest => α.holdsEntry name value (parts? value) && holds rest

/-- The truth values of an array of filters.  Any other value has none. -/
def parts? : Json → Option (List Bool)
  | .arr items => partsOfItems? items
  | _ => none

/-- The truth values of a list of filters, if all its items are filters. -/
def partsOfItems? : List Json → Option (List Bool)
  | [] => some []
  | .obj filter :: items => (partsOfItems? items).map (holds filter :: ·)
  | _ :: _ => none

end

variable {α}

/-! ## Tests of a field -/

/-- A single operator other than `$not` is a test. -/
lemma passesOne_of_ne {operator : String} (h : operator ≠ "$not") (field : String)
    (operand : Json) :
    α.passesOne field operator operand = α.operator field operator operand := by
  cases operand with
  | obj operators =>
    rw [passesOne, if_neg]
    rintro ⟨hnot, -⟩
    exact h hnot
  | _ => rw [passesOne]; simp

lemma passesAll_singleton (field operator : String) (operand : Json) :
    α.passesAll field [(operator, operand)] = α.passesOne field operator operand := by
  rw [passesAll, passesAll, Bool.and_true]

lemma isOperatorDocument_singleton {operator : String}
    (h : Filter.isOperatorName operator = true) (operand : Json) :
    Filter.isOperatorDocument [(operator, operand)] = true := by
  simp [Filter.isOperatorDocument, h]

/-- Whatever a field is tested by can be written as an object of operators, and says the same. -/
lemma exists_operators (field : String) (value : Json) :
    ∃ operators, Filter.operators value = .obj operators ∧
      Filter.isOperatorDocument operators = true ∧
      α.passesAll field operators = α.passes field value := by
  have hequals : ∀ v, α.passesAll field [("$eq", v)] = α.operator field "$eq" v := by
    intro v
    rw [passesAll_singleton, passesOne_of_ne (by decide)]
  have hoperator : Filter.isOperatorName "$eq" = true := by decide
  cases value with
  | obj fields =>
    rw [Filter.operators, passes]
    cases hfields : Filter.isOperatorDocument fields with
    | true => exact ⟨fields, rfl, hfields, rfl⟩
    | false =>
      -- an object that only looks like one of operators, or an empty one, is a value
      exact ⟨_, rfl, isOperatorDocument_singleton hoperator _, hequals _⟩
  | _ => exact ⟨_, rfl, isOperatorDocument_singleton hoperator _, hequals _⟩

/-- To negate a field in place negates what it is tested by. -/
lemma passes_not (field : String) (value : Json) :
    α.passes field (.obj [("$not", Filter.operators value)]) = !α.passes field value := by
  obtain ⟨operators, hoperators, hdocument, hpasses⟩ := exists_operators (α := α) field value
  have hnot : Filter.isOperatorName "$not" = true := by decide
  rw [passes, if_pos (isOperatorDocument_singleton hnot _), passesAll_singleton, hoperators,
    passesOne, if_pos ⟨rfl, hdocument⟩, hpasses]

/-! ## Filters -/

lemma holds_singleton (name : String) (value : Json) :
    α.holds [(name, value)] = α.holdsEntry name value (α.parts? value) := by
  rw [holds, holds, Bool.and_true]

/-- A filter with a single field is a test of it. -/
lemma holds_field {field : String} (h : Filter.isOperatorName field = false) (value : Json) :
    α.holds [(field, value)] = α.passes field value := by
  rw [holds_singleton]
  simp [holdsEntry, h]

/-- To negate a filter from outside negates it, however many entries it has. -/
lemma holds_neither (f : Document) : α.holds (Filter.neither f) = !α.holds f := by
  have hparts : α.parts? (.arr [.obj f]) = some [α.holds f] := by
    rw [parts?, partsOfItems?, partsOfItems?]
    rfl
  have hnor : Filter.isOperatorName "$nor" = true := by decide
  rw [Filter.neither, holds_singleton, hparts]
  simp [holdsEntry, hnor, Filter.combination?]

/-- An empty object is a value, beside a plain name it makes no object of operators, and two entries
are negated together. -/
example :
    Filter.complement [("a", .obj [])] = [("a", .obj [("$not", .obj [("$eq", .obj [])])])] ∧
    Filter.complement [("a", .obj [("$gt", .int 1), ("b", .null)])] =
      [("a", .obj [("$not", .obj [("$eq", .obj [("$gt", .int 1), ("b", .null)])])])] ∧
    Filter.complement [("a", .int 1), ("b", .int 2)] =
      [("$nor", .arr [.obj [("a", .int 1), ("b", .int 2)]])] :=
  ⟨rfl, rfl, rfl⟩

end Valuation

end DocSelect
