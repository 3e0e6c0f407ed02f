/-
# Tables as the bindings that made them

A table is made by binding names one after the other, and a name may be bound any number of times.
This file says what is left of the bindings in the end.  The names stand in the order in which they
were first bound, each of them once (`keys_ofList`), and beside each name stands the value of the
binding of it that came last (`mem_ofList_iff`).

Both are shown from the last binding backwards, since the last binding of all either adds a name at
the end or replaces a value where it stands.  No name is bound twice in a table that has been made
in this way, and what replaces a value replaces it everywhere for this reason alone.
-/
import Mathlib.Tactic.Lemma
import Mathlib.Data.List.Induction
import DocSelect.Entries

namespace DocSelect.Entries

variable {α : Type} {t : Entries α}

/-! ## One binding -/

/-- To bind a name does not make any name stand twice. -/
lemma nodup_keys_put (h : (keys t).Nodup) (key : String) (value : α) :
    (keys (put t key value)).Nodup := by
  rw [keys_put]
  split
  case isTrue hmem => exact h
  case isFalse hmem =>
    refine List.nodup_append.mpr ⟨h, by simp, ?_⟩
    intro name hname other hother
    rw [List.mem_singleton.mp hother]
    rintro rfl
    exact hmem hname

/-- After a binding there is what has been bound, and whatever was there under other names. -/
lemma mem_put_iff (h : (keys t).Nodup) {key : String} {value : α} {entry : String × α} :
    entry ∈ put t key value ↔ entry = (key, value) ∨ entry ∈ t ∧ entry.1 ≠ key := by
  induction t with
  | nil => simp [put]
  | cons first t ih =>
    obtain ⟨hfirst, hnodup⟩ := List.nodup_cons.mp h
    by_cases hkey : first.1 = key
    · -- the name has its place here, so it has none behind
      have hbehind : ∀ other ∈ t, other.1 ≠ key := by
        rintro other hother rfl
        exact hfirst (hkey ▸ List.mem_map_of_mem hother)
      rw [put, if_pos hkey, List.mem_cons, List.mem_cons]
      constructor
      · rintro (rfl | hentry)
        · exact .inl rfl
        · exact .inr ⟨.inr hentry, hbehind entry hentry⟩
      · rintro (rfl | ⟨rfl | hentry, hne⟩)
        · exact .inl rfl
        · exact absurd hkey hne
        · exact .inr hentry
    · rw [put, if_neg hkey, List.mem_cons, List.mem_cons, ih hnodup]
      constructor
      · rintro (rfl | rfl | ⟨hentry, hne⟩)
        · exact .inr ⟨.inl rfl, hkey⟩
        · exact .inl rfl
        · exact .inr ⟨.inr hentry, hne⟩
      · rintro (rfl | ⟨rfl | hentry, hne⟩)
        · exact .inr (.inl rfl)
        · exact .inl rfl
        · exact .inr (.inr ⟨hentry, hne⟩)

/-- To bind a name that is there changes its value where it stands, and nothing else. -/
lemma put_append_cons {before : Entries α} {key : String} (h : key ∉ keys before) (old value : α)
    (after : Entries α) :
    put (before ++ (key, old) :: after) key value = before ++ (key, value) :: after := by
  induction before with
  | nil => rw [List.nil_append, put, if_pos rfl, List.nil_append]
  | cons first before ih =>
    obtain ⟨hfirst, hbefore⟩ := List.ne_and_not_mem_of_not_mem_cons h
    rw [List.cons_append, put, if_neg hfirst.symm, ih hbefore, List.cons_append]

/-! ## Look-ups -/

/-- Where no name stands twice, a look-up finds whatever stands beside the name. -/
lemma get?_eq_some_iff (h : (keys t).Nodup) {key : String} {value : α} :
    get? t key = some value ↔ (key, value) ∈ t := by
  induction t with
  | nil => simp [get?]
  | cons first t ih =>
    obtain ⟨hfirst, hnodup⟩ := List.nodup_cons.mp h
    by_cases hkey : first.1 = key
    · -- the name has its place here, so it has none behind
      have hbehind : (key, value) ∉ t := fun hmem => hfirst (hkey ▸ List.mem_map_of_mem hmem)
      rw [get?, if_pos hkey, List.mem_cons, or_iff_left hbehind, Option.some.injEq]
      exact ⟨fun hvalue => Prod.ext hkey.symm hvalue.symm, fun hentry => by rw [← hentry]⟩
    · have hother : (key, value) ≠ first := fun hentry => hkey (by rw [← hentry])
      rw [get?, if_neg hkey, List.mem_cons, or_iff_right hother, ih hnodup]

/-- A look-up finds nothing exactly if the name is not bound. -/
lemma get?_eq_none_iff {key : String} : get? t key = none ↔ key ∉ keys t := by
  induction t with
  | nil => simp [get?, keys]
  | cons first t ih =>
    by_cases hkey : first.1 = key
    · simp [get?, keys, hkey]
    · have hne : key ≠ first.1 := fun heq => hkey heq.symm
      rw [get?, if_neg hkey, ih]
      simp [keys, hne]

/-! ## Any number of bindings -/

lemma ofList_concat (bindings : List (String × α)) (last : String × α) :
    ofList (bindings ++ [last]) = put (ofList bindings) last.1 last.2 := by
  rw [ofList, List.foldl_append]
  rfl

/-- **The names of a table**, each where it was first bound. -/
theorem keys_ofList (bindings : List (String × α)) :
    keys (ofList bindings) = (bindings.map Prod.fst).eraseDups := by
  induction bindings using List.reverseRecOn with
  | nil => rfl
  | append_singleton bindings last ih =>
    rw [ofList_concat, keys_put, ih, List.map_append, List.map_singleton, List.eraseDups_append]
    by_cases hmem : last.1 ∈ bindings.map Prod.fst
    · rw [if_pos (List.mem_eraseDups.mpr hmem)]
      simp [List.removeAll, hmem]
    · rw [if_neg (fun h => hmem (List.mem_eraseDups.mp h))]
      have honce : [last.1].removeAll (bindings.map Prod.fst) = [last.1] := by
        simp [List.removeAll, hmem]
      rw [honce]
      rfl

/-- No name stands twice in a table. -/
theorem nodup_keys_ofList (bindings : List (String × α)) : (keys (ofList bindings)).Nodup := by
  induction bindings using List.reverseRecOn with
  | nil => exact List.nodup_nil
  | append_singleton bindings last ih =>
    rw [ofList_concat]
    exact nodup_keys_put ih last.1 last.2

/-- **The values of a table.**  What stands in a table is what has been bound, as long as the same
name was not bound again. -/
theorem mem_ofList_iff {bindings : List (String × α)} {entry : String × α} :
    entry ∈ ofList bindings ↔
      ∃ before after, bindings = before ++ entry :: after ∧ entry.1 ∉ after.map Prod.fst := by
  induction bindings using List.reverseRecOn with
  | nil => simp [ofList]
  | append_singleton bindings last ih =>
    rw [ofList_concat, mem_put_iff (nodup_keys_ofList bindings), ih]
    constructor
    · rintro (rfl | ⟨⟨before, after, rfl, hafter⟩, hne⟩)
      · exact ⟨bindings, [], rfl, List.not_mem_nil⟩
      · refine ⟨before, after ++ [last], by simp, ?_⟩
        simpa [hne] using hafter
    · rintro ⟨before, after, heq, hafter⟩
      rcases List.eq_nil_or_concat after with rfl | ⟨after, other, rfl⟩
      · have hlast := (List.append_inj' heq rfl).2
        exact .inl (List.head_eq_of_cons_eq hlast).symm
      · rw [List.concat_eq_append] at heq hafter
        have hsplit : bindings ++ [last] = (before ++ entry :: after) ++ [other] := by
          rw [heq, List.append_assoc, List.cons_append]
        obtain ⟨rfl, hother⟩ := List.append_inj' hsplit rfl
        obtain rfl : last = other := List.head_eq_of_cons_eq hother
        rw [List.map_append, List.mem_append, not_or] at hafter
        refine .inr ⟨⟨before, after, rfl, hafter.1⟩, ?_⟩
        intro hkey
        exact hafter.2 (by simp [hkey])

/-! ## Bindings made from other things -/

variable {β : Type} {name : β → String} {value : β → α}

/-- The names of a table that is made from a list, one binding from each item. -/
lemma keys_ofList_map (items : List β) :
    keys (ofList (items.map fun b => (name b, value b))) = (items.map name).eraseDups := by
  rw [keys_ofList, List.map_map]
  rfl

/-- What stands in a table that is made from a list: each name with the value from the last item
that binds it. -/
lemma mem_ofList_map_iff {items : List β} {key : String} {v : α} :
    (key, v) ∈ ofList (items.map fun b => (name b, value b)) ↔
      ∃ before b after, items = before ++ b :: after ∧ name b = key ∧ value b = v ∧
        ∀ other ∈ after, name other ≠ key := by
  rw [mem_ofList_iff]
  constructor
  · rintro ⟨_, _, heq, hafter⟩
    obtain ⟨before, rest, rfl, -, hrest⟩ := List.map_eq_append_iff.mp heq
    obtain ⟨b, after, rfl, hb, rfl⟩ := List.map_eq_cons_iff.mp hrest
    obtain ⟨hkey, hvalue⟩ := Prod.mk.inj hb
    refine ⟨before, b, after, rfl, hkey, hvalue, ?_⟩
    intro other hother hname
    exact hafter (by simpa using ⟨other, hother, hname⟩)
  · rintro ⟨before, b, after, rfl, rfl, rfl, hafter⟩
    refine ⟨_, _, List.map_append, ?_⟩
    simpa using hafter

end DocSelect.Entries
