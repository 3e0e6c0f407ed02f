/-
# Field names, segment by segment

A path is built on a root, one segment after the other.  Its field name can be found upwards, from
the field name of the parent, or at once from the list of segments.  For the latter, wrappers are
left out.  The first segment that remains gives the name to begin with, which is its own name if it
is a property, and the name of the root if it is "any element".  After it only properties with a
name count, and each adds its name behind a dot.

So the root variable is not kept out of all field names.  It is in the field name of a path that
begins with "any element", and of no other path longer than the root.
-/
import Mathlib.Tactic.Lemma
import DocSelect.Path

namespace DocSelect

/-- A segment of a path. -/
inductive Segment where
  /-- A named property of the parent, or an entry of the map there. -/
  | property (name : String)
  /-- Any element of the collection there. -/
  | anyOf
  /-- A transparent wrapper. -/
  | delegate
deriving DecidableEq

namespace Segment

/-- The name of a property. -/
def name? : Segment → Option String
  | property name => some name
  | _ => none

/-- The names that segments add to a field name: those of the properties, in their order and
without the empty ones. -/
def names (segs : List Segment) : List String :=
  (segs.filterMap name?).filter (· ≠ "")

/-- Whether a segment adds nothing to a field name that has begun. -/
def isSilent : Segment → Bool
  | property name => name = ""
  | anyOf => true
  | delegate => true

lemma names_property_empty (segs : List Segment) : names (property "" :: segs) = names segs := rfl

lemma names_property {name : String} (h : name ≠ "") (segs : List Segment) :
    names (property name :: segs) = name :: names segs := by
  simp [names, name?, h]

lemma names_anyOf (segs : List Segment) : names (anyOf :: segs) = names segs := rfl

lemma names_delegate (segs : List Segment) : names (delegate :: segs) = names segs := rfl

lemma names_cons_of_isSilent {seg : Segment} (h : seg.isSilent = true) (segs : List Segment) :
    names (seg :: segs) = names segs := by
  cases seg with
  | property name =>
    obtain rfl : name = "" := by simpa [isSilent] using h
    exact names_property_empty segs
  | anyOf => exact names_anyOf segs
  | delegate => exact names_delegate segs

/-- To leave segments out changes none of the names, as long as they are silent. -/
lemma names_filter {keep : Segment → Bool} (h : ∀ seg, keep seg = false → seg.isSilent = true)
    (segs : List Segment) : names (segs.filter keep) = names segs := by
  induction segs with
  | nil => rfl
  | cons seg segs ih =>
    cases hkeep : keep seg with
    | false =>
      rw [List.filter_cons_of_neg (by simp [hkeep]), names_cons_of_isSilent (h seg hkeep), ih]
    | true =>
      rw [List.filter_cons_of_pos hkeep]
      cases seg with
      | property name =>
        by_cases hname : name = ""
        · subst hname
          rw [names_property_empty, names_property_empty, ih]
        · rw [names_property hname, names_property hname, ih]
      | anyOf => rw [names_anyOf, names_anyOf, ih]
      | delegate => rw [names_delegate, names_delegate, ih]

lemma names_filter_ne_delegate (segs : List Segment) :
    names (segs.filter (· ≠ delegate)) = names segs := by
  refine names_filter ?_ segs
  intro seg hseg
  obtain rfl : seg = delegate := by simpa using hseg
  rfl

end Segment

namespace Path

open Segment (names)

/-! ## Upwards -/

/-- The path without the wrappers at its end. -/
def unwrapped : Path → Path
  | delegate p => p.unwrapped
  | p => p

/-- A field name has not begun exactly as long as there are only wrappers around the root. -/
lemma isRoot_unwrapped (p : Path) : p.unwrapped.isRoot = p.stem.isNone := by
  induction p with
  | delegate p ih => exact ih
  | _ => rfl

lemma fieldName_unwrapped (p : Path) : p.unwrapped.fieldName = p.stem.getD p.rootName := by
  induction p with
  | delegate p ih => exact ih
  | _ => rfl

/-- **The field name by way of the parent.**  A path longer than the root takes the field name of
what its parent wraps, and adds its own segment to it unless that is "any element" or has no
name.  Below the root its own segment is all there is. -/
theorem fieldName_of_parent? {p q : Path} (h : p.parent? = some q) :
    p.fieldName =
      if p.kind = .anyOf then q.unwrapped.fieldName
      else if q.unwrapped.isRoot then p.segment
      else if p.segment = "" then q.unwrapped.fieldName
      else q.unwrapped.fieldName ++ "." ++ p.segment := by
  rw [fieldName_unwrapped, isRoot_unwrapped]
  cases p with
  | root name => exact absurd h (by simp [parent?])
  | property p name =>
    obtain rfl : p = q := by simpa [parent?] using h
    cases hstem : p.stem with
    | none => simp [kind, segment, hstem, extend]
    | some base =>
      by_cases hname : name = "" <;> simp [kind, segment, hstem, extend, hname]
  | anyOf p =>
    obtain rfl : p = q := by simpa [parent?] using h
    simp [kind]
  | delegate p =>
    obtain rfl : p = q := by simpa [parent?] using h
    cases hstem : p.stem <;> simp [kind, segment, hstem]

/-! ## Building -/

/-- The path made longer by a segment. -/
def child (p : Path) : Segment → Path
  | .property name => property p name
  | .anyOf => anyOf p
  | .delegate => delegate p

/-- The path that is built on a root from segments. -/
def built (r : String) (segs : List Segment) : Path :=
  segs.foldl child (root r)

lemma exists_built_child {p : Path} (h : ∃ segs, p = built p.rootName segs) (seg : Segment) :
    ∃ segs, p.child seg = built p.rootName segs := by
  obtain ⟨segs, hsegs⟩ := h
  refine ⟨segs ++ [seg], ?_⟩
  rw [built, List.foldl_append, ← built, ← hsegs]
  rfl

/-- Every path is built from segments. -/
lemma exists_built (p : Path) : ∃ segs, p = built p.rootName segs := by
  induction p with
  | root name => exact ⟨[], rfl⟩
  | property p name ih => exact exists_built_child ih (.property name)
  | anyOf p ih => exact exists_built_child ih .anyOf
  | delegate p ih => exact exists_built_child ih .delegate

/-- A name with others behind it, each after a dot. -/
def dotted (base : String) (names : List String) : String :=
  names.foldl (fun stem name => stem ++ "." ++ name) base

/-- The field name of the segments on a root that are left without the wrappers.  If none is left,
there is no field name. -/
def named? (r : String) : List Segment → Option String
  | [] => none
  | .property name :: segs => some (dotted name (names segs))
  | _ :: segs => some (dotted r (names segs))

/-- The field name of segments on a root. -/
def named (r : String) (segs : List Segment) : String :=
  if segs = [] then r else (named? r (segs.filter (· ≠ .delegate))).getD ""

/-! ## Stems -/

lemma isRoot_child (p : Path) (seg : Segment) : (p.child seg).isRoot = false := by
  cases seg <;> rfl

/-- A path is longer than the root once it has a segment. -/
lemma isRoot_foldl_child {p : Path} (h : p.isRoot = false) (segs : List Segment) :
    (segs.foldl child p).isRoot = false := by
  induction segs generalizing p with
  | nil => exact h
  | cons seg segs ih => exact ih (isRoot_child p seg)

/-- A field name that has begun goes by that name. -/
lemma fieldName_of_stem_eq_some {p : Path} {base : String} (h : p.stem = some base) :
    p.fieldName = base := by
  cases p with
  | root name => exact absurd h (by simp [stem])
  | property p name =>
    rw [stem, Option.some.injEq] at h
    exact h
  | anyOf p =>
    rw [stem, Option.some.injEq] at h
    exact h
  | delegate p =>
    rw [stem] at h
    rw [fieldName_delegate, h, Option.getD_some]

/-- Wrappers around the root leave nothing to go by. -/
lemma fieldName_of_stem_eq_none {p : Path} (hroot : p.isRoot = false) (h : p.stem = none) :
    p.fieldName = "" := by
  cases p with
  | root name => exact absurd hroot (by simp [isRoot])
  | property p name => exact absurd h (by simp [stem])
  | anyOf p => exact absurd h (by simp [stem])
  | delegate p =>
    rw [stem] at h
    rw [fieldName_delegate, h, Option.getD_none]

/-- Behind a field name that has begun, only the names of properties count. -/
lemma stem_foldl_child {p : Path} {base : String} (h : p.stem = some base)
    (segs : List Segment) : (segs.foldl child p).stem = some (dotted base (names segs)) := by
  induction segs generalizing p base with
  | nil => exact h
  | cons seg segs ih =>
    rw [List.foldl_cons]
    cases seg with
    | property name =>
      by_cases hname : name = ""
      · subst hname
        have hstem : (p.property "").stem = some base := by
          rw [stem, h]
          rfl
        exact ih hstem
      · have hstem : (p.property name).stem = some (base ++ "." ++ name) := by
          rw [stem, h, extend, if_neg hname]
        rw [Segment.names_property hname]
        exact ih hstem
    | anyOf =>
      have hstem : p.anyOf.stem = some base := by
        rw [stem, h, Option.getD_some]
      exact ih hstem
    | delegate =>
      have hstem : p.delegate.stem = some base := h
      exact ih hstem

/-- Before a field name has begun, the first segment that is no wrapper decides how it begins. -/
lemma stem_foldl_child_of_none {p : Path} (h : p.stem = none) (segs : List Segment) :
    (segs.foldl child p).stem = named? p.rootName (segs.filter (· ≠ .delegate)) := by
  induction segs generalizing p with
  | nil => exact h
  | cons seg segs ih =>
    have hnames : names (segs.filter (· ≠ .delegate)) = names segs :=
      Segment.names_filter_ne_delegate segs
    rw [List.foldl_cons]
    cases seg with
    | property name =>
      have hstem : (p.property name).stem = some name := by
        rw [stem, h, extend]
      rw [List.filter_cons_of_pos (by simp), named?, hnames]
      exact stem_foldl_child hstem segs
    | anyOf =>
      have hstem : p.anyOf.stem = some p.rootName := by
        rw [stem, h, Option.getD_none]
      rw [List.filter_cons_of_pos (by simp), named?, hnames]
      · exact stem_foldl_child hstem segs
      · simp
    | delegate =>
      have hstem : p.delegate.stem = none := h
      rw [List.filter_cons_of_neg (by simp)]
      exact ih hstem

/-! ## Field names -/

/-- Every segment but a wrapper begins a field name, if none has begun. -/
lemma exists_stem_child {seg : Segment} (h : seg ≠ .delegate) (p : Path) :
    ∃ base, (p.child seg).stem = some base := by
  cases seg with
  | property name => exact ⟨_, rfl⟩
  | anyOf => exact ⟨_, rfl⟩
  | delegate => exact absurd rfl h

lemma fieldName_built (r : String) (segs : List Segment) :
    (built r segs).fieldName = named r segs := by
  cases segs with
  | nil => rfl
  | cons seg segs =>
    have hstem : (built r (seg :: segs)).stem =
        named? r ((seg :: segs).filter (· ≠ .delegate)) := stem_foldl_child_of_none rfl _
    have hroot : (built r (seg :: segs)).isRoot = false :=
      isRoot_foldl_child (isRoot_child (root r) seg) segs
    rw [named, if_neg (by simp)]
    cases hnamed : named? r ((seg :: segs).filter (· ≠ .delegate)) with
    | none => exact fieldName_of_stem_eq_none hroot (hstem.trans hnamed)
    | some base => exact fieldName_of_stem_eq_some (hstem.trans hnamed)

/-- Silent segments behind a field name that has begun can be left out, all at once. -/
lemma fieldName_built_filter {seg : Segment} (h : seg ≠ .delegate) (r : String)
    (above segs : List Segment) :
    (built r (above ++ seg :: segs.filter (!·.isSilent))).fieldName =
      (built r (above ++ seg :: segs)).fieldName := by
  obtain ⟨base, hbase⟩ := exists_stem_child h (built r above)
  have hnames : names (segs.filter (!·.isSilent)) = names segs := by
    refine Segment.names_filter ?_ segs
    intro other hother
    simpa using hother
  have hfieldName : ∀ rest,
      (built r (above ++ seg :: rest)).fieldName = dotted base (names rest) := by
    intro rest
    rw [built, List.foldl_append, List.foldl_cons]
    exact fieldName_of_stem_eq_some (stem_foldl_child hbase rest)
  rw [hfieldName, hfieldName, hnames]

/-- **The field name of a path in closed form.**  Behind the first segment that is no wrapper,
silent segments never change the field name, wherever they are and however many. -/
theorem fieldName_built_eq_named (r : String) (segs : List Segment) :
    (built r segs).fieldName = named r segs ∧
      ∀ above seg below, segs = above ++ seg :: below → seg ≠ .delegate →
        (built r (above ++ seg :: below.filter (!·.isSilent))).fieldName =
          (built r segs).fieldName := by
  refine ⟨fieldName_built r segs, ?_⟩
  rintro above seg below rfl hseg
  exact fieldName_built_filter hseg r above below

theorem fieldName_built_eq_named_silentSegments :
    ([.delegate, .anyOf, .delegate, .property "", .property "a", .anyOf, .property "b"] :
        List Segment) =
      [.delegate] ++ .anyOf ::
        [.delegate, .property "", .property "a", .anyOf, .property "b"] ∧
    Segment.anyOf ≠ .delegate ∧
    (built "user" [.delegate, .anyOf, .property "a", .property "b"]).fieldName = "user.a.b" := by
  have hsegs : ([.delegate, .anyOf, .delegate, .property "", .property "a", .anyOf,
        .property "b"] : List Segment) =
      [.delegate] ++ .anyOf ::
        [.delegate, .property "", .property "a", .anyOf, .property "b"] := rfl
  have hanyOf : Segment.anyOf ≠ .delegate := by decide
  obtain ⟨hclosed, hsilent⟩ := fieldName_built_eq_named "user"
    [.delegate, .anyOf, .delegate, .property "", .property "a", .anyOf, .property "b"]
  refine ⟨hsegs, hanyOf, ?_⟩
  exact (hsilent _ _ _ hsegs hanyOf).trans (hclosed.trans (by decide))

/-! ## The root variable -/

/-- What a field name begins with can be told apart from what comes behind it. -/
lemma dotted_eq_append (base : String) (names : List String) :
    dotted base names = base ++ dotted "" names := by
  induction names generalizing base with
  | nil => exact (String.append_empty).symm
  | cons name names ih =>
    have hbase : dotted base (name :: names) = base ++ "." ++ name ++ dotted "" names :=
      ih (base ++ "." ++ name)
    have hempty : dotted "" (name :: names) = "" ++ "." ++ name ++ dotted "" names :=
      ih ("" ++ "." ++ name)
    rw [hbase, hempty, String.empty_append, String.append_assoc, String.append_assoc,
      String.append_assoc]

lemma dotted_inj {base base' : String} {names : List String} :
    dotted base names = dotted base' names ↔ base = base' := by
  rw [dotted_eq_append base, dotted_eq_append base', String.append_left_inj]

/-- **Which field names depend on the root variable.**  Under two different root variables, the same
segments have the same field name unless the first that is no wrapper is "any element". -/
theorem fieldName_built_eq_iff {segs : List Segment} (h : segs ≠ []) (r r' : String) :
    (built r segs).fieldName = (built r' segs).fieldName ↔
      r = r' ∨ (segs.filter (· ≠ .delegate)).head? ≠ some .anyOf := by
  rw [fieldName_built, fieldName_built, named, named, if_neg h, if_neg h]
  cases hkept : segs.filter (· ≠ .delegate) with
  | nil => simp [named?]
  | cons seg rest =>
    cases seg with
    | property name => simp [named?]
    | anyOf => simp [named?, dotted_inj]
    | delegate =>
      have hmem : Segment.delegate ∈ segs.filter (· ≠ .delegate) := by
        rw [hkept]
        exact List.mem_cons_self
      exact absurd (List.mem_filter.mp hmem).2 (by decide)

theorem fieldName_built_eq_iff_property :
    ([.delegate, .property "tags", .anyOf] : List Segment) ≠ [] ∧
      (built "user" [.delegate, .property "tags", .anyOf]).fieldName =
        (built "item" [.delegate, .property "tags", .anyOf]).fieldName :=
  have h : ([.delegate, .property "tags", .anyOf] : List Segment) ≠ [] := by decide
  ⟨h, (fieldName_built_eq_iff h "user" "item").mpr (Or.inr (by decide))⟩

/-- "Any element" of the root keeps the name of the root variable. -/
theorem not_fieldName_built_eq :
    ¬ ∀ segs : List Segment, segs ≠ [] → ∀ r r' : String,
      (built r segs).fieldName = (built r' segs).fieldName := by
  intro h
  have huser : (built "user" [.anyOf]).fieldName = (built "item" [.anyOf]).fieldName :=
    h [.anyOf] (by decide) "user" "item"
  exact absurd huser (by decide)

end Path

end DocSelect
