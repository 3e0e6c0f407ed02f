/-
# Segments that leave no trace

Two kinds of segments stand for nothing in a document: a transparent wrapper, and a property without
a name.  Below a property that has a name neither of them is seen in the field name.  Above all of
these they are not alike.  A transparent wrapper leaves no trace there either, but a property
without a name begins the field name.  It contributes the empty name, and whatever comes below is
put behind a dot.

So such segments can be deleted from a path exactly if the first that is not transparent has a name
(`fieldName_elided_eq_iff`).  Under any other path the field name has an empty component in front.
-/
import DocSelect.Proofs.Path.Segments

namespace DocSelect

namespace Segment

/-- Whether a segment stands for nothing in the document. -/
def isWrapper : Segment → Bool
  | property name => name = ""
  | anyOf => false
  | delegate => true

/-- The segments that stand for something in the document. -/
def elided (segs : List Segment) : List Segment :=
  segs.filter (!·.isWrapper)

/-- The first segment that is not transparent is a property without a name. -/
def StartsUnnamed (segs : List Segment) : Prop :=
  (segs.filter (· ≠ delegate)).head? = some (property "")

instance (segs : List Segment) : Decidable (StartsUnnamed segs) :=
  inferInstanceAs (Decidable (_ = _))

/-- What stands for nothing adds nothing to a field name. -/
lemma isSilent_of_isWrapper {seg : Segment} (h : seg.isWrapper = true) : seg.isSilent = true := by
  cases seg with
  | property name => exact h
  | anyOf => rfl
  | delegate => rfl

lemma names_elided (segs : List Segment) : names (elided segs) = names segs := by
  refine names_filter ?_ segs
  intro seg hseg
  exact isSilent_of_isWrapper (by simpa using hseg)

lemma not_startsUnnamed_elided (segs : List Segment) : ¬ StartsUnnamed (elided segs) := by
  intro h
  have hmem : property "" ∈ (elided segs).filter (· ≠ delegate) := List.mem_of_head? h
  have hkept : property "" ∈ elided segs := (List.mem_filter.mp hmem).1
  exact absurd (List.mem_filter.mp hkept).2 (by decide)

/-- The components of the field name of segments: the names of the properties, and an empty one in
front of them if it was begun without a name. -/
def components (segs : List Segment) : List String :=
  if StartsUnnamed segs then "" :: names segs else names segs

/-- The first segment that is not transparent contributes its name, whether it has one or not. -/
lemma components_of_filter {segs rest : List Segment} {name : String}
    (h : segs.filter (· ≠ delegate) = property name :: rest) :
    components segs = name :: names rest := by
  have hstart : StartsUnnamed segs ↔ name = "" := by
    rw [StartsUnnamed, h]
    simp
  rw [components, ← names_filter_ne_delegate segs, h]
  by_cases hname : name = ""
  · rw [if_pos (hstart.mpr hname), hname, names_property_empty]
  · rw [if_neg (fun hs => hname (hstart.mp hs)), names_property hname]

lemma components_elided (segs : List Segment) : components (elided segs) = names segs := by
  rw [components, if_neg (not_startsUnnamed_elided segs), names_elided]

/-- A name that counts is not empty. -/
lemma empty_notMem_names (segs : List Segment) : "" ∉ names segs := by
  intro h
  exact absurd (List.mem_filter.mp h).2 (by decide)

lemma empty_mem_components_iff (segs : List Segment) :
    "" ∈ components segs ↔ StartsUnnamed segs := by
  rw [components]
  split
  case isTrue h => exact iff_of_true List.mem_cons_self h
  case isFalse h => exact iff_of_false (empty_notMem_names segs) h

end Segment

namespace Path

open Segment (names elided StartsUnnamed)

/-! ## Field names as texts between dots -/

/-- The texts between the dots of a field name. -/
def components (fieldName : String) : List String :=
  (fieldName.toList.splitOn '.').map String.ofList

/-- Texts without dots are what stands between the dots, once they are joined by dots. -/
lemma components_intercalate {texts : List String} (h : ∀ t ∈ texts, '.' ∉ t.toList)
    (hne : texts ≠ []) : components (".".intercalate texts) = texts := by
  have hdotless : ∀ cs ∈ texts.map String.toList, '.' ∉ cs := by
    intro cs hcs
    obtain ⟨t, ht, rfl⟩ := List.mem_map.mp hcs
    exact h t ht
  have hsplit : (".".intercalate texts).toList.splitOn '.' = texts.map String.toList := by
    rw [String.toList_intercalate]
    exact List.splitOn_intercalate '.' hdotless (by simpa using hne)
  rw [components, hsplit, List.map_map]
  simp

lemma dotted_eq_intercalate (base : String) (names : List String) :
    dotted base names = ".".intercalate (base :: names) := by
  induction names generalizing base with
  | nil => exact String.intercalate_singleton.symm
  | cons name names ih =>
    have hlonger : dotted base (name :: names) = dotted (base ++ "." ++ name) names := rfl
    rw [hlonger, ih, String.intercalate_cons_append, String.intercalate_cons_cons]

variable {segs : List Segment}

/-- The field name of segments, as texts that are joined by dots. -/
lemma fieldName_built_eq_intercalate (hany : .anyOf ∉ segs) (hnames : names segs ≠ [])
    (r : String) : (built r segs).fieldName = ".".intercalate (Segment.components segs) := by
  have hsegs : segs ≠ [] := by
    rintro rfl
    exact hnames rfl
  rw [fieldName_built, named, if_neg hsegs]
  cases hkept : segs.filter (· ≠ .delegate) with
  | nil =>
    refine absurd ?_ hnames
    rw [← Segment.names_filter_ne_delegate, hkept]
    rfl
  | cons seg rest =>
    have hmem : seg ∈ segs.filter (· ≠ .delegate) := by
      rw [hkept]
      exact List.mem_cons_self
    cases seg with
    | property name =>
      rw [Segment.components_of_filter hkept, ← dotted_eq_intercalate]
      rfl
    | anyOf => exact absurd (List.mem_filter.mp hmem).1 hany
    | delegate => exact absurd (List.mem_filter.mp hmem).2 (by decide)

/-! ## Deleting segments -/

/-- What is left of a field name when all segments that stand for nothing are deleted.  It loses the
dot that it begins with, if there is one, and nothing else. -/
lemma fieldName_built_eq_append_elided (hany : .anyOf ∉ segs) (hnames : names segs ≠ [])
    (r : String) :
    (built r segs).fieldName =
      (if StartsUnnamed segs then "." else "") ++ (built r (elided segs)).fieldName := by
  have helided : (built r (elided segs)).fieldName = ".".intercalate (names segs) := by
    have hanyElided : .anyOf ∉ elided segs := fun hmem => hany (List.mem_filter.mp hmem).1
    rw [fieldName_built_eq_intercalate hanyElided (by rwa [Segment.names_elided]),
      Segment.components_elided]
  rw [fieldName_built_eq_intercalate hany hnames, helided, Segment.components]
  split
  case isTrue h =>
    rw [String.intercalate_cons_of_ne_nil hnames, String.empty_append]
  case isFalse h => exact String.empty_append.symm

/-- **Which paths are left alone by deleting what stands for nothing.**  Let a path have a property
with a name, and no "any element".  To delete from it all wrappers and all properties without a name
does not change its field name if and only if the first segment that is not transparent has a name.
If that segment has none, then the field name begins with a dot, which is lost.  Where there is no
dot in the names, the field name has no empty component under the same condition. -/
theorem fieldName_elided_eq_iff (hany : .anyOf ∉ segs) (hnames : names segs ≠ []) (r : String) :
    ((built r (elided segs)).fieldName = (built r segs).fieldName ↔ ¬ StartsUnnamed segs) ∧
      (StartsUnnamed segs → (built r segs).fieldName = "." ++ (built r (elided segs)).fieldName) ∧
      ((∀ name ∈ names segs, '.' ∉ name.toList) →
        ("" ∉ components (built r segs).fieldName ↔ ¬ StartsUnnamed segs)) := by
  refine ⟨?_, ?_, ?_⟩
  · rw [fieldName_built_eq_append_elided hany hnames]
    split
    case isTrue h =>
      refine iff_of_false ?_ (not_not_intro h)
      intro heq
      have hlength := congrArg String.length heq
      rw [String.length_append] at hlength
      have hdot : ".".length = 1 := rfl
      omega
    case isFalse h => exact iff_of_true String.empty_append.symm h
  · intro hstart
    rw [fieldName_built_eq_append_elided hany hnames, if_pos hstart]
  · intro hdotless
    have hcomponents : ∀ t ∈ Segment.components segs, '.' ∉ t.toList := by
      rw [Segment.components]
      split
      case isTrue h => exact List.forall_mem_cons.mpr ⟨by simp, hdotless⟩
      case isFalse h => exact hdotless
    have hne : Segment.components segs ≠ [] := by
      rw [Segment.components]
      split
      case isTrue h => exact List.cons_ne_nil _ _
      case isFalse h => exact hnames
    rw [fieldName_built_eq_intercalate hany hnames, components_intercalate hcomponents hne,
      Segment.empty_mem_components_iff]

theorem fieldName_elided_eq_iff_belowName :
    let segs : List Segment :=
      [.delegate, .property "meta", .property "", .property "created", .delegate]
    .anyOf ∉ segs ∧ names segs ≠ [] ∧ (∀ name ∈ names segs, '.' ∉ name.toList) ∧
      ¬ StartsUnnamed segs ∧
      (built "user" [.property "meta", .property "created"]).fieldName =
        (built "user" segs).fieldName ∧
      "" ∉ components (built "user" segs).fieldName := by
  intro segs
  have hany : .anyOf ∉ segs := by decide
  have hnames : names segs ≠ [] := by decide
  have hdotless : ∀ name ∈ names segs, '.' ∉ name.toList := by decide
  have hstart : ¬ StartsUnnamed segs := by decide
  obtain ⟨helided, -, hcomponents⟩ := fieldName_elided_eq_iff hany hnames "user"
  exact ⟨hany, hnames, hdotless, hstart, helided.mpr hstart, (hcomponents hdotless).mpr hstart⟩

/-- A property without a name leaves a dot in front of the name below it, if it is the first. -/
theorem not_fieldName_elided_eq :
    ¬ ∀ segs : List Segment, .anyOf ∉ segs → names segs ≠ [] → ∀ r : String,
      (built r (elided segs)).fieldName = (built r segs).fieldName := by
  intro h
  have hdot : (built "user" [.property "x"]).fieldName =
      (built "user" [.property "", .property "x"]).fieldName :=
    h [.property "", .property "x"] (by decide) (by decide) "user"
  exact absurd hdot (by decide)

end Path

end DocSelect
