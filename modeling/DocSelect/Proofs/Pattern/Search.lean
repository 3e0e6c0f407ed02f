/-
# How the store searches

A pattern reaches the store as a text.  The store reads it character by character, and then it
searches the subject for a place from which the pattern matches, trying one place after the other
and going back where a longer run has led nowhere.  This file holds the part of that pattern
language that predicates need: single characters, bare or behind a backslash, the wild character,
repetition, and the two ends of the subject.  A text with anything else in it is not read.

The matcher is a function that backtracks.  What it finds is described without backtracking by two
statements:

* `Regex.matchesAt_cons_eq_true_iff`: an item takes some characters, and the other items match what
  is left;
* `Regex.searches_eq_true_iff`: a search skips some characters, and the items match what is left.
-/
import Mathlib.Tactic.Lemma
import DocSelect.Pattern

namespace DocSelect

namespace Regex

/-! ## Reading -/

/-- What a pattern has in the place of a single character. -/
inductive Atom where
  | char (c : Char)
  /-- The wild character. -/
  | any
deriving DecidableEq

/-- What the characters of a pattern are read as. -/
inductive Token where
  | start
  | stop
  | atom (a : Atom)
  /-- The mark behind something that may be repeated. -/
  | star
deriving DecidableEq

/-- What a pattern is a sequence of. -/
inductive Item where
  /-- The start of the whole subject. -/
  | start
  /-- The end of the whole subject. -/
  | stop
  /-- One character. -/
  | one (a : Atom)
  /-- Any number of characters, each of which fits. -/
  | many (a : Atom)
deriving DecidableEq

/-- The characters that, bare, are not read as themselves. -/
def special : List Char :=
  ['\\', '.', '+', '*', '?', '(', ')', '|', '[', ']', '\x7b', '\x7d', '^', '$']

/-- Whether a character is one of the punctuation characters, all of which stand for themselves
behind a backslash. -/
def isPunctuation (c : Char) : Bool :=
  '!' ≤ c && c ≤ '~' && !c.isAlphanum

/-- What the characters of a pattern are read as, one after the other. -/
def tokens? : List Char → Option (List Token)
  | [] => some []
  | '\\' :: c :: cs =>
    if isPunctuation c then (tokens? cs).map (.atom (.char c) :: ·) else none
  | '^' :: cs => (tokens? cs).map (.start :: ·)
  | '$' :: cs => (tokens? cs).map (.stop :: ·)
  | '.' :: cs => (tokens? cs).map (.atom .any :: ·)
  | '*' :: cs => (tokens? cs).map (.star :: ·)
  | c :: cs => if c ∈ special then none else (tokens? cs).map (.atom (.char c) :: ·)

/-- The items of a pattern.  The mark of repetition belongs to what stands before it. -/
def items? : List Token → Option (List Item)
  | [] => some []
  | .start :: ts => (items? ts).map (.start :: ·)
  | .stop :: ts => (items? ts).map (.stop :: ·)
  | .atom a :: .star :: ts => (items? ts).map (.many a :: ·)
  | .atom a :: ts => (items? ts).map (.one a :: ·)
  | .star :: _ => none

/-- The items that the text of a pattern is read as. -/
def read? (pattern : String) : Option (List Item) :=
  (tokens? pattern.toList).bind items?

/-! ## Matching -/

/-- Whether a character fits.  The wild character is any but the line feed. -/
def Atom.accepts : Atom → Char → Bool
  | char c, d => d == c
  | any, d => d != '\n'

/-- A run of characters that fit, and `next` from where the run ends.  The longest run is tried
first.  Like everything that matches from some place of the subject, it is told whether that place
is the start. -/
def repeats (a : Atom) (next : Bool → List Char → Bool) : Bool → List Char → Bool
  | atStart, [] => next atStart []
  | atStart, c :: s => (a.accepts c && repeats a next false s) || next atStart (c :: s)

/-- Whether items match from a place of the subject on. -/
def matchesAt : List Item → Bool → List Char → Bool
  | [], _, _ => true
  | .start :: items, atStart, s => atStart && matchesAt items atStart s
  | .stop :: items, atStart, s => s.isEmpty && matchesAt items atStart s
  | .one _ :: _, _, [] => false
  | .one a :: items, _, c :: s => a.accepts c && matchesAt items false s
  | .many a :: items, atStart, s => repeats a (matchesAt items) atStart s

/-- Whether items match from a place of the subject on, or from a later one. -/
def searches (items : List Item) : Bool → List Char → Bool
  | atStart, [] => matchesAt items atStart []
  | atStart, c :: s => matchesAt items atStart (c :: s) || searches items false s

/-- Whether a pattern is found in a subject; there is no answer if the pattern cannot be read. -/
def found? (pattern subject : String) : Option Bool :=
  (read? pattern).map fun items => searches items true subject.toList

/-! ## What is matched -/

/-- `item.Takes atStart taken rest`: the item can take the characters `taken` where `rest` follows
them. -/
def Item.Takes : Item → Bool → List Char → List Char → Prop
  | start, atStart, taken, _ => atStart = true ∧ taken = []
  | stop, _, taken, rest => taken = [] ∧ rest = []
  | one a, _, taken, _ => ∃ c, a.accepts c = true ∧ taken = [c]
  | many a, _, taken, _ => ∀ c ∈ taken, a.accepts c = true

/-- A run can be of any length, as long as all of its characters fit. -/
lemma repeats_eq_true_iff {a : Atom} {next : Bool → List Char → Bool} {atStart : Bool}
    {s : List Char} :
    repeats a next atStart s = true ↔
      ∃ run rest, s = run ++ rest ∧ (∀ c ∈ run, a.accepts c = true) ∧
        next (atStart && run.isEmpty) rest = true := by
  induction s generalizing atStart with
  | nil =>
    rw [repeats]
    constructor
    · intro h
      exact ⟨[], [], rfl, by simp, by simpa using h⟩
    · rintro ⟨run, rest, hs, -, hnext⟩
      obtain ⟨rfl, rfl⟩ := List.nil_eq_append_iff.mp hs
      simpa using hnext
  | cons c s ih =>
    rw [repeats, Bool.or_eq_true, Bool.and_eq_true, ih]
    constructor
    · rintro (⟨hc, run, rest, rfl, hrun, hnext⟩ | hnext)
      · refine ⟨c :: run, rest, rfl, ?_, by simpa using hnext⟩
        exact List.forall_mem_cons.mpr ⟨hc, hrun⟩
      · exact ⟨[], c :: s, rfl, by simp, by simpa using hnext⟩
    · rintro ⟨run, rest, hs, hrun, hnext⟩
      cases run with
      | nil =>
        rw [List.nil_append] at hs
        subst hs
        exact Or.inr (by simpa using hnext)
      | cons d run =>
        obtain ⟨rfl, rfl⟩ := List.cons.inj hs
        rw [List.forall_mem_cons] at hrun
        exact Or.inl ⟨hrun.1, run, rest, rfl, hrun.2, by simpa using hnext⟩

/-- The first item takes some characters, and the other items match what is left. -/
lemma matchesAt_cons_eq_true_iff {item : Item} {items : List Item} {atStart : Bool}
    {s : List Char} :
    matchesAt (item :: items) atStart s = true ↔
      ∃ taken rest, s = taken ++ rest ∧ item.Takes atStart taken rest ∧
        matchesAt items (atStart && taken.isEmpty) rest = true := by
  cases item with
  | start =>
    rw [matchesAt, Bool.and_eq_true]
    constructor
    · rintro ⟨hstart, h⟩
      exact ⟨[], s, rfl, ⟨hstart, rfl⟩, by simpa using h⟩
    · rintro ⟨_, rest, rfl, ⟨hstart, rfl⟩, h⟩
      exact ⟨hstart, by simpa using h⟩
  | stop =>
    rw [matchesAt, Bool.and_eq_true, List.isEmpty_iff]
    constructor
    · rintro ⟨rfl, h⟩
      exact ⟨[], [], rfl, ⟨rfl, rfl⟩, by simpa using h⟩
    · rintro ⟨_, _, rfl, ⟨rfl, rfl⟩, h⟩
      exact ⟨rfl, by simpa using h⟩
  | one a =>
    cases s with
    | nil =>
      rw [matchesAt]
      constructor
      · intro h
        exact absurd h (by simp)
      · rintro ⟨_, rest, hs, ⟨c, -, rfl⟩, -⟩
        exact absurd hs (by simp)
    | cons c s =>
      rw [matchesAt, Bool.and_eq_true]
      constructor
      · rintro ⟨hc, h⟩
        exact ⟨[c], s, rfl, ⟨c, hc, rfl⟩, by simpa using h⟩
      · rintro ⟨_, rest, hs, ⟨d, hd, rfl⟩, h⟩
        obtain ⟨rfl, rfl⟩ := List.cons.inj hs
        exact ⟨hd, by simpa using h⟩
  | many a =>
    rw [matchesAt, repeats_eq_true_iff]
    exact Iff.rfl

/-- A search skips some characters, and the items match what is left. -/
lemma searches_eq_true_iff {items : List Item} {atStart : Bool} {s : List Char} :
    searches items atStart s = true ↔
      ∃ skipped rest, s = skipped ++ rest ∧
        matchesAt items (atStart && skipped.isEmpty) rest = true := by
  induction s generalizing atStart with
  | nil =>
    rw [searches]
    constructor
    · intro h
      exact ⟨[], [], rfl, by simpa using h⟩
    · rintro ⟨skipped, rest, hs, h⟩
      obtain ⟨rfl, rfl⟩ := List.nil_eq_append_iff.mp hs
      simpa using h
  | cons c s ih =>
    rw [searches, Bool.or_eq_true, ih]
    constructor
    · rintro (h | ⟨skipped, rest, rfl, h⟩)
      · exact ⟨[], c :: s, rfl, by simpa using h⟩
      · exact ⟨c :: skipped, rest, rfl, by simpa using h⟩
    · rintro ⟨skipped, rest, hs, h⟩
      cases skipped with
      | nil =>
        rw [List.nil_append] at hs
        subst hs
        exact Or.inl (by simpa using h)
      | cons d skipped =>
        obtain ⟨rfl, rfl⟩ := List.cons.inj hs
        exact Or.inr ⟨skipped, rest, rfl, by simpa using h⟩

/-- What begins at the start of the subject is found there or nowhere. -/
lemma searches_start {items : List Item} {s : List Char} :
    searches (.start :: items) true s = matchesAt items true s := by
  rw [Bool.eq_iff_iff, searches_eq_true_iff]
  constructor
  · rintro ⟨skipped, rest, rfl, h⟩
    rw [matchesAt, Bool.and_eq_true, Bool.true_and] at h
    obtain ⟨hskipped, h⟩ := h
    rw [List.isEmpty_iff] at hskipped
    subst hskipped
    exact h
  · intro h
    exact ⟨[], s, rfl, h⟩

end Regex

end DocSelect
