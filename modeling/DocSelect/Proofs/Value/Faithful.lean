/-
# Constants reach a document as they are

A value that has a form in documents is written item by item: a scalar as a scalar, and a list as an
array of the same length.  Nothing gets lost on the way but the type of an enumeration and the
position of a member there, which goes by its name.  So two forms are equal exactly when the values
are, once every member of an enumeration is replaced by the text of its name.
-/
import Mathlib.Data.List.Forall2
import DocSelect.Proofs.Value.Form

namespace DocSelect

/-! ## Equality of JSON values -/

namespace Json

mutual

/-- Whether two JSON values are equal.  Numbers are compared as numbers, and an integer is never a
floating-point number.  The fields of an object may come in any order. -/
def same : Json → Json → Bool
  | null, null => true
  | bool a, bool b => a == b
  | int a, int b => a == b
  | float a, float b => a == b
  | str a, str b => a == b
  | arr items, arr items' => sameItems items items'
  | obj fields, obj fields' => fields.length == fields'.length && hasFields fields' fields
  | _, _ => false

/-- Whether two arrays hold equal items. -/
def sameItems : List Json → List Json → Bool
  | [], [] => true
  | a :: as, b :: bs => same a b && sameItems as bs
  | _, _ => false

/-- Whether an object has fields equal to the given ones. -/
def hasFields (d : Document) : List (String × Json) → Bool
  | [] => true
  | (name, value) :: fields =>
    (d.get? name).any (fun value' => same value value') && hasFields d fields

end

end Json

namespace Value

/-! ## Names -/

mutual

/-- The value with every member of an enumeration replaced by the text of its name. -/
def named : Value → Value
  | enum _ member _ => text member
  | list items => list (namedItems items)
  | v => v

/-- The items of a list with every member of an enumeration replaced by the text of its name. -/
def namedItems : List Value → List Value
  | [] => []
  | item :: items => named item :: namedItems items

end

/-! ## What is written -/

/-- `v.WrittenAs j`: the JSON value `j` is the value `v`, scalar by scalar and list by list. -/
inductive WrittenAs : Value → Json → Prop
  | null : WrittenAs null .null
  | bool (b : Bool) : WrittenAs (bool b) (.bool b)
  | int (n : Int) : WrittenAs (int n) (.int n)
  | float (x : Float) : WrittenAs (float x) (.float x)
  | text (s : String) : WrittenAs (text s) (.str s)
  | enum (typeName member : String) (ordinal : Nat) :
      WrittenAs (enum typeName member ordinal) (.str member)
  | list {items : List Value} {js : List Json} : List.Forall₂ WrittenAs items js →
      WrittenAs (list items) (.arr js)

mutual

lemma writtenAs_of_json? (v : Value) {j : Json} (h : v.json? = some j) : v.WrittenAs j := by
  match v with
  | null | bool _ | int _ | text _ | enum _ _ _ =>
    cases h
    constructor
  | float x =>
    simp only [json?, Option.ite_none_right_eq_some, Option.some.injEq] at h
    obtain ⟨-, rfl⟩ := h
    exact .float x
  | list items =>
    simp only [json?, Option.map_eq_some_iff] at h
    obtain ⟨js, hjs, rfl⟩ := h
    exact .list (forall₂_writtenAs_of_jsonItems? items hjs)

lemma forall₂_writtenAs_of_jsonItems? (items : List Value) {js : List Json}
    (h : jsonItems? items = some js) : List.Forall₂ WrittenAs items js := by
  match items with
  | [] =>
    cases h
    exact .nil
  | item :: items =>
    obtain ⟨j, js', hj, hjs, rfl⟩ := jsonItems?_cons_eq_some_iff.mp h
    exact .cons (writtenAs_of_json? item hj) (forall₂_writtenAs_of_jsonItems? items hjs)

end

mutual

/-- What is written of two values is equal exactly when the values are, but for enumerations. -/
lemma WrittenAs.same_eq {w : Value} {j k : Json} (v : Value) (hv : v.WrittenAs j)
    (hw : w.WrittenAs k) : j.same k = v.named.same w.named := by
  match v with
  | list items =>
    cases hv with
    | list hitems =>
      cases hw with
      | list hitems' => exact sameItems_eq_of_writtenAs items hitems hitems'
      | _ => rfl
  | null | bool _ | int _ | float _ | text _ | enum _ _ _ =>
    -- both sides compare what two scalars hold, or both fail for their kinds
    cases hv
    cases hw with
    | _ => rfl

/-- So it is with the items of two lists, one by one. -/
lemma sameItems_eq_of_writtenAs {items' : List Value} {js ks : List Json} (items : List Value)
    (h : List.Forall₂ WrittenAs items js) (h' : List.Forall₂ WrittenAs items' ks) :
    Json.sameItems js ks = sameItems (namedItems items) (namedItems items') := by
  match items with
  | [] =>
    cases h
    cases h' with
    | _ => rfl
  | item :: items =>
    cases h with
    | cons hitem hitems =>
      cases h' with
      | nil => rfl
      | cons hitem' hitems' =>
        rw [namedItems, namedItems, sameItems, Json.sameItems, hitem.same_eq item hitem',
          sameItems_eq_of_writtenAs items hitems hitems']

end

/-! ## Numbers that cannot be written -/

/-- A number is not finite if it is infinite or not a number at all. -/
lemma isFinite_eq_false_iff (x : Float) :
    x.isFinite = false ↔ x.isNaN = true ∨ x.isInf = true := by
  show x.toModel.unpack.isFinite = false ↔
    x.toModel.unpack.isNaN = true ∨ x.toModel.unpack.isInf = true
  cases x.toModel.unpack with
  | infinity sign => exact ⟨fun _ => .inr rfl, fun _ => rfl⟩
  | notANumber => exact ⟨fun _ => .inl rfl, fun _ => rfl⟩
  | zero | finite =>
    constructor
    · intro h
      cases h
    · rintro (h | h)
      · cases h
      · cases h

lemma json?_eq_none_iff (v : Value) :
    v.json? = none ↔ ∃ x ∈ v.floats, x.isNaN = true ∨ x.isInf = true := by
  rw [← Option.not_isSome_iff_eq_none, isSome_json?_iff, Finite]
  simp only [not_forall, exists_prop, Bool.not_eq_true, isFinite_eq_false_iff]

/-- **Constants are written as they are.**  A value has no form in documents exactly if there is a
number in it, at some depth, that is infinite or not a number.  A form has no object in it at any
depth, and it is the value scalar by scalar and list by list.  Two forms are equal exactly if the
values are, once their enumerations are replaced by texts. -/
theorem json?_faithful :
    (∀ v : Value, v.json? = none ↔ ∃ x ∈ v.floats, x.isNaN = true ∨ x.isInf = true) ∧
    (∀ (v : Value) (j : Json), v.json? = some j → j.objects = [] ∧ v.WrittenAs j) ∧
    ∀ (v w : Value) (j k : Json), v.json? = some j → w.json? = some k →
      (j.same k = true ↔ v.named.same w.named = true) := by
  refine ⟨json?_eq_none_iff, fun v j hj => ?_, fun v w j k hj hk => ?_⟩
  · exact ⟨plain_of_json? v hj, writtenAs_of_json? v hj⟩
  · rw [(writtenAs_of_json? v hj).same_eq v (writtenAs_of_json? w hk)]

/-- A list with a list of a colour and a number in it, and behind that one more value. -/
def nested (color : Value) (x : Float) (last : Value) : Value :=
  list [list [color, float x], last]

/-- The name of a colour is a text, and the two zeros are equal; but the number one is not an
integer. -/
theorem json?_faithful_nested :
    (nested (enum "Color" "RED" 0) 0.0 (int 1)).json? =
      some (.arr [.arr [.str "RED", .float 0.0], .int 1]) ∧
    (nested (text "RED") (-0.0) (int 1)).json? =
      some (.arr [.arr [.str "RED", .float (-0.0)], .int 1]) ∧
    (nested (text "RED") 0.0 (float 1.0)).json? =
      some (.arr [.arr [.str "RED", .float 0.0], .float 1.0]) ∧
    (Json.arr [.arr [.str "RED", .float 0.0], .int 1]).same
      (.arr [.arr [.str "RED", .float (-0.0)], .int 1]) = true ∧
    ¬ (Json.arr [.arr [.str "RED", .float 0.0], .int 1]).same
      (.arr [.arr [.str "RED", .float 0.0], .float 1.0]) = true ∧
    (nested (text "RED") (1.0 / 0.0) (int 1)).json? = none := by
  have hcolor : (nested (enum "Color" "RED" 0) 0.0 (int 1)).json? =
      some (.arr [.arr [.str "RED", .float 0.0], .int 1]) := rfl
  have htext : (nested (text "RED") (-0.0) (int 1)).json? =
      some (.arr [.arr [.str "RED", .float (-0.0)], .int 1]) := rfl
  have hone : (nested (text "RED") 0.0 (float 1.0)).json? =
      some (.arr [.arr [.str "RED", .float 0.0], .float 1.0]) := rfl
  obtain ⟨hnone, -, hsame⟩ := json?_faithful
  refine ⟨hcolor, htext, hone, ?_, ?_, ?_⟩
  · exact (hsame _ _ _ _ hcolor htext).mpr (by decide)
  · exact fun h => absurd ((hsame _ _ _ _ hcolor hone).mp h) (by decide)
  · refine (hnone _).mpr ⟨1.0 / 0.0, ?_, .inr (by decide)⟩
    exact List.mem_singleton_self _

end Value

end DocSelect
