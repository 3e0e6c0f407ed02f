/-
# Which values have a form in documents

Only numbers stand between a value and its form: the form exists exactly when every
floating-point number in the value, however deep in a list, is finite.  What comes out of a
value is made of scalars and arrays alone.  An object never comes out of one, so no constant is
ever taken for a test or for a filter.
-/
import Mathlib.Tactic.Lemma
import DocSelect.Value

namespace DocSelect

namespace Value

mutual

/-- The floating-point numbers in a value, at any depth. -/
def floats : Value → List Float
  | float x => [x]
  | list items => floatsOfItems items
  | _ => []

/-- The floating-point numbers in the items of a list, at any depth. -/
def floatsOfItems : List Value → List Float
  | [] => []
  | item :: items => item.floats ++ floatsOfItems items

end

/-- All numbers in a value are finite. -/
def Finite (v : Value) : Prop :=
  ∀ x ∈ v.floats, x.isFinite = true

/-- All numbers in the items of a list are finite exactly when they are so in each item. -/
lemma forall_mem_floatsOfItems_iff {items : List Value} :
    (∀ x ∈ floatsOfItems items, x.isFinite = true) ↔ ∀ v ∈ items, v.Finite := by
  induction items with
  | nil => simp [floatsOfItems]
  | cons item items ih =>
    simp only [floatsOfItems, List.mem_append, or_imp, forall_and, List.forall_mem_cons, ih]
    exact Iff.rfl

lemma finite_list_iff {items : List Value} : (list items).Finite ↔ ∀ v ∈ items, v.Finite :=
  forall_mem_floatsOfItems_iff

/-- The items of a list have forms exactly when each of them has one. -/
lemma jsonItems?_cons_eq_some_iff {item : Value} {items : List Value} {js : List Json} :
    jsonItems? (item :: items) = some js ↔
      ∃ j js', item.json? = some j ∧ jsonItems? items = some js' ∧ js = j :: js' := by
  rw [jsonItems?]
  constructor
  · intro h
    split at h
    · rename_i j js' hj hjs
      exact ⟨j, js', hj, hjs, (Option.some.inj h).symm⟩
    · exact absurd h (by simp)
  · rintro ⟨j, js', hj, hjs, rfl⟩
    rw [hj, hjs]

mutual

/-- A value has a form in documents exactly when no number in it is infinite or not a number. -/
theorem isSome_json?_iff (v : Value) : v.json?.isSome = true ↔ v.Finite := by
  match v with
  | null | bool _ | int _ | text _ | enum _ _ _ => simp [json?, Finite, floats]
  | float x =>
    simp only [json?, Finite, floats, List.mem_singleton, forall_eq]
    split <;> simp_all
  | list items =>
    rw [finite_list_iff, ← isSome_jsonItems?_iff items, json?, Option.isSome_map]

/-- The items of a list have forms exactly when all numbers in them are finite. -/
theorem isSome_jsonItems?_iff (items : List Value) :
    (jsonItems? items).isSome = true ↔ ∀ v ∈ items, v.Finite := by
  match items with
  | [] => simp [jsonItems?]
  | item :: items =>
    rw [List.forall_mem_cons, ← isSome_json?_iff item, ← isSome_jsonItems?_iff items]
    simp only [Option.isSome_iff_exists, jsonItems?_cons_eq_some_iff]
    constructor
    · rintro ⟨_, j, js, hj, hjs, -⟩
      exact ⟨⟨j, hj⟩, ⟨js, hjs⟩⟩
    · rintro ⟨⟨j, hj⟩, ⟨js, hjs⟩⟩
      exact ⟨_, j, js, hj, hjs, rfl⟩

end

end Value

/-! ## Objects -/

namespace Json

mutual

/-- The objects in a JSON value, itself included, at any depth. -/
def objects : Json → List Document
  | obj fields => fields :: objectsOfFields fields
  | arr items => objectsOfItems items
  | _ => []

/-- The objects in the items of an array, at any depth. -/
def objectsOfItems : List Json → List Document
  | [] => []
  | item :: items => item.objects ++ objectsOfItems items

/-- The objects in the fields of an object, at any depth. -/
def objectsOfFields : List (String × Json) → List Document
  | [] => []
  | (_, value) :: fields => value.objects ++ objectsOfFields fields

end

lemma objects_entry (name : String) (value : Json) :
    (obj [(name, value)]).objects = [(name, value)] :: value.objects := by
  rw [objects, objectsOfFields, objectsOfFields, List.append_nil]

/-- A JSON value in which there is no object at any depth. -/
def Plain (j : Json) : Prop :=
  j.objects = []

lemma Plain.ne_obj {j : Json} (h : j.Plain) (fields : Document) : j ≠ .obj fields := by
  rintro rfl
  exact absurd h (by simp [Plain, objects])

end Json

namespace Value

mutual

/-- The form of a value holds no object. -/
theorem plain_of_json? (v : Value) {j : Json} (h : v.json? = some j) : j.Plain := by
  match v with
  | null | bool _ | int _ | text _ | enum _ _ _ =>
    simp only [json?, Option.some.injEq] at h
    subst h
    rfl
  | float x =>
    simp only [json?, Option.ite_none_right_eq_some, Option.some.injEq] at h
    obtain ⟨-, rfl⟩ := h
    rfl
  | list items =>
    simp only [json?, Option.map_eq_some_iff] at h
    obtain ⟨js, hjs, rfl⟩ := h
    exact objectsOfItems_of_jsonItems? items hjs

/-- The forms of the items of a list hold no object. -/
theorem objectsOfItems_of_jsonItems? (items : List Value) {js : List Json}
    (h : jsonItems? items = some js) : Json.objectsOfItems js = [] := by
  match items with
  | [] =>
    simp only [jsonItems?, Option.some.injEq] at h
    subst h
    rfl
  | item :: items =>
    obtain ⟨j, js', hj, hjs, rfl⟩ := jsonItems?_cons_eq_some_iff.mp h
    have hplain : j.objects = [] := plain_of_json? item hj
    rw [Json.objectsOfItems, hplain, objectsOfItems_of_jsonItems? items hjs, List.nil_append]

end

end Value

end DocSelect
