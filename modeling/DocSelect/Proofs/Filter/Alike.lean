/-
# Filters of the same shape

Two filters have the same shape if they combine the same tests in the same way and differ only in
string leaves.  There is one exception.  A test for an entry of a map has the key of the entry in
the name of its field, behind the name of the map and a dot, and the keys may differ.  Which
fields these are is part of the shape.

The complement of a filter is chosen by its look, but nothing that may differ in two filters of
the same shape is looked at.
-/
import Mathlib.Tactic.Lemma
import DocSelect.Filter
import DocSelect.Path
import DocSelect.Proofs.Value.Alike

namespace DocSelect

namespace Filter

/-- `Alike maps f f'`: the filters `f` and `f'` have the same shape.  The list `maps` has an item
for each tested field, in the order in which they stand in the filters.  The item is the path of a
map if the field is an entry of that map; only then may the two names of the field differ. -/
inductive Alike : List (Option Path) → Document → Document → Prop
  | both {maps maps' : List (Option Path)} {f f' g g' : Document} :
      Alike maps f f' → Alike maps' g g' → Alike (maps ++ maps') (both f g) (both f' g')
  | either {maps maps' : List (Option Path)} {f f' g g' : Document} :
      Alike maps f f' → Alike maps' g g' → Alike (maps ++ maps') (either f g) (either f' g')
  | neither {maps : List (Option Path)} {f f' : Document} :
      Alike maps f f' → Alike maps (neither f) (neither f')
  | field (name : String) {value value' : Json} (hvalue : value.Alike value') :
      Alike [none] [(name, value)] [(name, value')]
  | entry (p : Path) (key key' : String) {value value' : Json} (hvalue : value.Alike value') :
      Alike [some p] [(p.fieldName ++ "." ++ key, value)] [(p.fieldName ++ "." ++ key', value')]

/-! ## Complements -/

/-- Whether an object tests a field by operators is decided by its names. -/
lemma isOperatorDocument_eq_all_keys (fields : Document) :
    isOperatorDocument fields =
      (!(Entries.keys fields).isEmpty && (Entries.keys fields).all isOperatorName) := by
  rw [isOperatorDocument, Entries.keys, List.isEmpty_map, List.all_map]
  rfl

lemma alike_operators {value value' : Json} (h : value.Alike value') :
    (operators value).Alike (operators value') := by
  cases h with
  | obj hfields =>
    rw [operators, operators, isOperatorDocument_eq_all_keys, isOperatorDocument_eq_all_keys,
      hfields.keys_eq]
    split
    · exact Json.Alike.obj hfields
    · exact Json.alike_entry "$eq" (Json.Alike.obj hfields)
  | arr hitems => exact Json.alike_entry "$eq" (Json.Alike.arr hitems)
  | _ => exact Json.alike_entry "$eq" (by constructor)

/-- Complements of filters of the same shape have the same shape. -/
lemma Alike.complement {maps : List (Option Path)} {f f' : Document} (h : Alike maps f f') :
    Alike maps (complement f) (complement f') := by
  cases h with
  | both hf hg =>
    rw [Filter.both, Filter.both, complement_of_operatorName (by decide),
      complement_of_operatorName (by decide)]
    exact Alike.neither (Alike.both hf hg)
  | either hf hg =>
    rw [Filter.either, Filter.either, complement_of_operatorName (by decide),
      complement_of_operatorName (by decide)]
    exact Alike.neither (Alike.either hf hg)
  | neither hf =>
    rw [Filter.neither, Filter.neither, complement_of_operatorName (by decide),
      complement_of_operatorName (by decide)]
    exact Alike.neither (Alike.neither hf)
  | field name hvalue =>
    cases hname : isOperatorName name with
    | true =>
      rw [complement_of_operatorName hname, complement_of_operatorName hname]
      exact Alike.neither (Alike.field name hvalue)
    | false =>
      rw [complement_of_field hname, complement_of_field hname]
      exact Alike.field name (Json.alike_entry "$not" (alike_operators hvalue))
  | entry p key key' hvalue =>
    -- the first character of the name belongs to the map, or is the dot
    have hkey := isOperatorName_append_dot p.fieldName key
    have hkey' := isOperatorName_append_dot p.fieldName key'
    cases hname : isOperatorName p.fieldName with
    | true =>
      rw [complement_of_operatorName (hkey.trans hname),
        complement_of_operatorName (hkey'.trans hname)]
      exact Alike.neither (Alike.entry p key key' hvalue)
    | false =>
      rw [complement_of_field (hkey.trans hname), complement_of_field (hkey'.trans hname)]
      exact Alike.entry p key key' (Json.alike_entry "$not" (alike_operators hvalue))

end Filter

end DocSelect
