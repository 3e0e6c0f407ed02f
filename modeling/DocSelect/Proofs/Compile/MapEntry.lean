/-
# Two ways to ask for an entry of a map

Whether a map has an entry under a key is asked for by an operator of its own, or by the path that
goes on from the map to the entry, which has to be present.  Both become a test for the presence of
a single field, but they find its name in different ways.  The operator puts the key behind the
field name of the map and a dot, whatever that name is and whatever the key is.  The path leaves it
to its segments, where nothing stands above the first property, and a property without a name adds
nothing.

So the two agree where the map has a field name of its own and the key is not empty, and nowhere
else (`Path.compile_containsKey_eq_iff`).
-/
import DocSelect.Compile
import DocSelect.Expr.Build
import DocSelect.Proofs.Path.Segments

namespace DocSelect

namespace Path

variable {p : Path}

/-! ## The field of an entry -/

lemma length_append_dot (name key : String) :
    (name ++ "." ++ key).length = name.length + 1 + key.length := by
  rw [String.length_append, String.length_append]
  rfl

lemma append_dot_ne_left (name key : String) : name ++ "." ++ key ≠ name := by
  intro h
  have hlength := length_append_dot name key
  rw [h] at hlength
  omega

lemma append_dot_ne_right (name key : String) : name ++ "." ++ key ≠ key := by
  intro h
  have hlength := length_append_dot name key
  rw [h] at hlength
  omega

/-- Wrappers around a field go by its name. -/
lemma fieldName_unwrapped_of_not_isRoot (h : p.unwrapped.isRoot = false) :
    p.unwrapped.fieldName = p.fieldName := by
  rw [isRoot_unwrapped] at h
  rw [fieldName_unwrapped]
  cases hstem : p.stem with
  | none => exact absurd h (by simp [hstem])
  | some base => rw [fieldName_of_stem_eq_some hstem, Option.getD_some]

/-- An entry of the queried entity itself, wrapped or not, goes by its key alone.  Everywhere else
it goes by the field name of the map, which gets the key behind a dot if the key is not empty. -/
lemma fieldName_entry (p : Path) (t : String) :
    (p.property t).fieldName =
      if p.unwrapped.isRoot then t
      else if t = "" then p.fieldName
      else p.fieldName ++ "." ++ t := by
  have hparent : (p.property t).parent? = some p := rfl
  rw [fieldName_of_parent? hparent, if_neg (by simp [kind])]
  cases hroot : p.unwrapped.isRoot with
  | true => rfl
  | false => rw [fieldName_unwrapped_of_not_isRoot hroot]; rfl

/-- Where the two names of an entry are the same. -/
lemma append_dot_eq_fieldName_iff (p : Path) (t : String) :
    p.fieldName ++ "." ++ t = (p.property t).fieldName ↔
      t ≠ "" ∧ p.unwrapped.isRoot = false := by
  rw [fieldName_entry]
  cases hroot : p.unwrapped.isRoot with
  | true =>
    rw [if_pos rfl]
    exact iff_of_false (append_dot_ne_right p.fieldName t) (fun h => Bool.noConfusion h.2)
  | false =>
    rw [if_neg Bool.false_ne_true]
    by_cases ht : t = ""
    · rw [if_pos ht]
      exact iff_of_false (append_dot_ne_left p.fieldName t) (fun h => h.1 ht)
    · rw [if_neg ht]
      exact iff_of_true rfl ⟨ht, rfl⟩

/-! ## The two tests -/

/-- The operator tests for the key behind the field name of the map. -/
lemma compile_containsKey {k : Value} {t : String} (h : k.literal? = some t) (p : Path) :
    (p.containsKey k).compile = pure (Filter.present (p.fieldName ++ "." ++ t) true) := by
  show Compile.mapEntry .containsKey [.path p, .constant k] (.path p) (.constant k) = _
  have hliteral : Compile.literal .containsKey [.path p, .constant k] (.constant k) = pure t := by
    simp only [Compile.literal, h]
  rw [Compile.mapEntry, hliteral]
  rfl

/-- The path tests for its own field name. -/
lemma compile_isNotNull (p : Path) :
    p.isNotNull.compile = pure (Filter.present p.fieldName true) := rfl

/-- Tests for presence that come to the same are tests of the same field. -/
lemma pure_present_inj {field field' : String} {b : Bool} :
    (pure (Filter.present field b) : Compiled Document) = pure (Filter.present field' b) ↔
      field = field' := by
  constructor
  · intro h
    have hresult := congrArg Outcome.result h
    rw [Outcome.result_pure, Outcome.result_pure, Except.ok.injEq] at hresult
    have hentry := List.head_eq_of_cons_eq hresult
    exact congrArg Prod.fst hentry
  · rintro rfl
    rfl

/-- **When the two tests for an entry agree.**  Let `t` be the text of a scalar constant.  The
operator with this constant and the path that goes on with `t` both compile, whatever the path of
the map is.  They come to the same if and only if `t` is not empty and the map is not the queried
entity itself, with any number of wrappers around it. -/
theorem compile_containsKey_eq_iff {k : Value} {t : String} (h : k.literal? = some t) (p : Path) :
    (∃ f g, (p.containsKey k).compile = pure f ∧ (p.property t).isNotNull.compile = pure g) ∧
      ((p.containsKey k).compile = (p.property t).isNotNull.compile ↔
        t ≠ "" ∧ ∀ r, p.unwrapped ≠ root r) := by
  have hroot : (∀ r, p.unwrapped ≠ root r) ↔ p.unwrapped.isRoot = false := by
    cases p.unwrapped with
    | root name => simp [isRoot]
    | _ => simp [isRoot]
  have hoperator := compile_containsKey h p
  have hpath := compile_isNotNull (p.property t)
  refine ⟨⟨_, _, hoperator, hpath⟩, ?_⟩
  rw [hoperator, hpath, pure_present_inj, hroot]
  exact append_dot_eq_fieldName_iff p t

/-- A member of an enumeration is a key below "any element" and two wrappers, but not in a wrapper
of the queried entity. -/
theorem compile_containsKey_eq_iff_wrapped :
    let map := delegate (delegate (anyOf (property (root "user") "attributes")))
    let k := Value.enum "Color" "RED" 0
    k.literal? = some "RED" ∧
      (map.containsKey k).compile = (map.property "RED").isNotNull.compile ∧
      (map.containsKey k).compile = pure (Filter.present "attributes.RED" true) ∧
      ((delegate (root "user")).containsKey k).compile ≠
        ((delegate (root "user")).property "RED").isNotNull.compile := by
  intro map k
  have hliteral : k.literal? = some "RED" := rfl
  refine ⟨hliteral, ?_, rfl, ?_⟩
  · refine (compile_containsKey_eq_iff hliteral map).2.mpr ⟨by decide, ?_⟩
    intro r
    exact Path.noConfusion
  · intro h
    have hfield := ((compile_containsKey_eq_iff hliteral (delegate (root "user"))).2.mp h).2
    exact hfield "user" rfl

end Path

end DocSelect
