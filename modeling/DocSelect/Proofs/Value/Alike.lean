/-
# The same but for texts

Two values are alike if they differ only in the texts that they hold, and two JSON values are
alike if they differ only in their string leaves: they have the same arrays of the same lengths,
and the same objects with the same names in the same order.  Alike values have alike forms.
-/
import Mathlib.Data.List.Forall2
import Mathlib.Tactic.Lemma
import DocSelect.Value

namespace DocSelect

/-- Values that are the same but for the texts in them. -/
inductive Value.Alike : Value → Value → Prop
  | null : Alike .null .null
  | bool (b : Bool) : Alike (.bool b) (.bool b)
  | int (n : Int) : Alike (.int n) (.int n)
  | float (x : Float) : Alike (.float x) (.float x)
  | text (s s' : String) : Alike (.text s) (.text s')
  /-- The name of a member of an enumeration is no text. -/
  | enum (typeName member : String) (ordinal : Nat) :
      Alike (.enum typeName member ordinal) (.enum typeName member ordinal)
  | list {items items' : List Value} : List.Forall₂ Alike items items' →
      Alike (.list items) (.list items')

mutual

/-- JSON values that are the same but for their string leaves. -/
inductive Json.Alike : Json → Json → Prop
  | null : Json.Alike .null .null
  | bool (b : Bool) : Json.Alike (.bool b) (.bool b)
  | int (n : Int) : Json.Alike (.int n) (.int n)
  | float (x : Float) : Json.Alike (.float x) (.float x)
  | str (s s' : String) : Json.Alike (.str s) (.str s')
  | arr {items items' : List Json} : List.Forall₂ Json.Alike items items' →
      Json.Alike (.arr items) (.arr items')
  | obj {fields fields' : Document} : Json.AlikeFields fields fields' →
      Json.Alike (.obj fields) (.obj fields')

/-- Documents that are the same but for their string leaves. -/
inductive Json.AlikeFields : Document → Document → Prop
  | nil : Json.AlikeFields [] []
  | cons (name : String) {value value' : Json} {fields fields' : Document} :
      Json.Alike value value' → Json.AlikeFields fields fields' →
      Json.AlikeFields ((name, value) :: fields) ((name, value') :: fields')

end

lemma Json.alike_entry (name : String) {value value' : Json} (h : value.Alike value') :
    (Json.obj [(name, value)]).Alike (.obj [(name, value')]) :=
  Json.Alike.obj (Json.AlikeFields.cons name h Json.AlikeFields.nil)

/-- Alike documents have the same names in the same order. -/
lemma Json.AlikeFields.keys_eq {fields fields' : Document} (h : Json.AlikeFields fields fields') :
    Entries.keys fields = Entries.keys fields' := by
  induction fields generalizing fields' with
  | nil =>
    cases h
    rfl
  | cons entry fields ih =>
    cases h with
    | cons name _ hfields =>
      rw [Entries.keys, Entries.keys, List.map_cons, List.map_cons]
      exact congrArg (name :: ·) (ih hfields)

/-! ## Readings of alike values -/

namespace Value

mutual

/-- Alike values have alike forms, or neither of them has one. -/
theorem Alike.json? {v v' : Value} (h : v.Alike v') :
    Option.Rel Json.Alike v.json? v'.json? := by
  match v with
  | .float x =>
    cases h
    rw [Value.json?]
    split
    · exact Option.Rel.some (Json.Alike.float x)
    · exact Option.Rel.none
  | .list items =>
    cases h with
    | @list _ items' hitems =>
      have hjs := Alike.jsonItems? hitems
      rw [Value.json?, Value.json?]
      generalize Value.jsonItems? items = js, Value.jsonItems? items' = js' at hjs
      cases hjs with
      | some hjs => exact Option.Rel.some (Json.Alike.arr hjs)
      | none => exact Option.Rel.none
  | .null | .bool _ | .int _ | .text _ | .enum _ _ _ =>
    cases h
    exact Option.Rel.some (by constructor)

/-- Alike items have alike forms, or neither of the lists has them. -/
theorem Alike.jsonItems? {items items' : List Value}
    (h : List.Forall₂ Value.Alike items items') :
    Option.Rel (List.Forall₂ Json.Alike) (Value.jsonItems? items) (Value.jsonItems? items') := by
  match items with
  | [] =>
    cases h
    exact Option.Rel.some List.Forall₂.nil
  | item :: items =>
    cases h with
    | @cons _ item' _ items' hitem hitems =>
      have hj := Alike.json? hitem
      have hjs := Alike.jsonItems? hitems
      rw [Value.jsonItems?, Value.jsonItems?]
      generalize item.json? = j, item'.json? = j' at hj
      generalize Value.jsonItems? items = js, Value.jsonItems? items' = js' at hjs
      cases hj with
      | some hj =>
        cases hjs with
        | some hjs => exact Option.Rel.some (List.Forall₂.cons hj hjs)
        | none => exact Option.Rel.none
      | none => exact Option.Rel.none

end

/-- Of two alike values both stand for plain texts or neither does. -/
lemma Alike.literal? {v v' : Value} (h : v.Alike v') :
    Option.Rel (fun _ _ => True) v.literal? v'.literal? := by
  cases h with
  | null | list _ => exact Option.Rel.none
  | _ => exact Option.Rel.some trivial

end Value

end DocSelect
