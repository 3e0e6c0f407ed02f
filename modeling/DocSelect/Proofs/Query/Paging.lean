/-
# Reading page by page

A reader who does not want all results at once asks for them page by page: the window is set to the
first page, then to the second, and so on, until a page is not full.  Nothing is lost in this way
and nothing comes twice (`Query.exists_paged`).

This rests on two facts.  A window takes the same part of the results as it takes of the items
(`Window.view_map`), since the offset is passed over before the limit counts.  And to set the window
is to replace both of its bounds, so that no page is affected by the one before it
(`Query.result_fetch_within`).
-/
import DocSelect.Proofs.Query.Results

namespace DocSelect

variable {α β : Type}

namespace Window

/-- The window of a page, counted from zero, if all pages have the given size. -/
def page (size i : Nat) : Window :=
  { limit := some size, offset := some (i * size) }

/-- A window does not look at what it shows. -/
lemma view_map (w : Window) (f : α → β) (as : List α) : w.view (as.map f) = (w.view as).map f := by
  rw [view, view]
  cases w.limit with
  | none => exact List.map_drop.symm
  | some n =>
    show ((as.map f).drop (w.offset.getD 0)).take n = ((as.drop (w.offset.getD 0)).take n).map f
    rw [← List.map_drop, List.map_take]

/-- Without a limit and an offset everything is in view. -/
lemma view_unbounded (as : List α) : ({} : Window).view as = as := rfl

lemma view_page (size i : Nat) (as : List α) :
    (page size i).view as = (as.drop (i * size)).take size := rfl

end Window

namespace Query

/-- The query with its window replaced. -/
def within (q : Query) (w : Window) : Query :=
  (Step.restrict w).next q

/-- `Paged mapper items size q i pages`: beginning with the query `q`, the pages from the page `i`
on are fetched one after the other.  Before each fetch the window is set to the page, and the first
page that is not full is the last one. -/
inductive Paged (mapper : Mapper β) (items : List Item) (size : Nat) :
    Query → Nat → List (List β) → Prop
  | last {q : Query} {i : Nat} {page : List β}
      (hpage : ((q.within (.page size i)).fetch mapper items).result = .ok page)
      (hshort : page.length < size) : Paged mapper items size q i [page]
  | turn {q : Query} {i : Nat} {page : List β} {pages : List (List β)}
      (hpage : ((q.within (.page size i)).fetch mapper items).result = .ok page)
      (hfull : size ≤ page.length)
      (hrest : Paged mapper items size (q.within (.page size i)) (i + 1) pages) :
      Paged mapper items size q i (page :: pages)

section Pages

variable {q : Query} {filter : Document} {mapper : Mapper β} {ds : List Document} {bs : List β}
  {size : Nat}

/-- What is fetched in a window is what the window shows of all results, whatever the window was
before. -/
lemma result_fetch_within (hq : (filterOf q.clauses.condition).result = .ok filter)
    (hbs : ds.map mapper = bs.map .ok) (w : Window) :
    ((q.within w).fetch mapper (ds.map .ok)).result = .ok (w.view bs) := by
  have hcompile : (q.within w).compile.result = .ok ((q.within w).request filter) :=
    compile_eq_ok_iff.mpr ⟨filter, hq, rfl⟩
  have hagreement := (fetched_of_compile hcompile mapper (ds.map .ok)).agreement
  refine (hagreement.eq_ok_iff (w.view bs)).mpr ?_
  show (w.view (ds.map .ok)).map (Run.entry mapper) = (w.view bs).map .ok
  rw [Window.view_map, map_entry_map_ok, ← Window.view_map, hbs, Window.view_map]

lemma Paged.ne_nil {items : List Item} {i : Nat} {pages : List (List β)}
    (h : Paged mapper items size q i pages) : pages ≠ [] := by
  cases h with
  | last hpage hshort => exact List.cons_ne_nil _ _
  | turn hpage hfull hrest => exact List.cons_ne_nil _ _

/-- There is one way to go through the pages. -/
lemma Paged.eq {items : List Item} {i : Nat} {pages pages' : List (List β)}
    (h : Paged mapper items size q i pages) (h' : Paged mapper items size q i pages') :
    pages = pages' := by
  induction h generalizing pages' with
  | last hpage hshort =>
    cases h' with
    | last hpage' _ =>
      cases hpage.symm.trans hpage'
      rfl
    | turn hpage' hfull' _ =>
      cases hpage.symm.trans hpage'
      exact absurd hfull' (Nat.not_le_of_lt hshort)
  | turn hpage hfull hrest ih =>
    cases h' with
    | last hpage' hshort' =>
      cases hpage.symm.trans hpage'
      exact absurd hfull (Nat.not_le_of_lt hshort')
    | turn hpage' _ hrest' =>
      cases hpage.symm.trans hpage'
      rw [ih hrest']

/-- The pages from some page on, put together, are the results behind the pages before it. -/
lemma exists_paged_from (hq : (filterOf q.clauses.condition).result = .ok filter)
    (hbs : ds.map mapper = bs.map .ok) (hsize : 0 < size) (i : Nat) :
    ∃ pages : List (List β), Paged mapper (ds.map .ok) size q i pages ∧
      pages.flatten = bs.drop (i * size) ∧ ∀ page ∈ pages.dropLast, page.length = size := by
  -- every page that is full leaves fewer results to the pages behind it
  induction hleft : (bs.drop (i * size)).length using Nat.strongRecOn generalizing q i with
  | ind left ih =>
    have hpage := result_fetch_within hq hbs (.page size i)
    rw [Window.view_page] at hpage
    by_cases hshort : left < size
    · have hwhole : (bs.drop (i * size)).take size = bs.drop (i * size) :=
        List.take_of_length_le (by omega)
      rw [hwhole] at hpage
      refine ⟨[bs.drop (i * size)], .last hpage (by omega), List.append_nil _, ?_⟩
      intro page hmem
      cases hmem
    · have hlength : ((bs.drop (i * size)).take size).length = size := by
        rw [List.length_take]
        omega
      have hnext : bs.drop ((i + 1) * size) = (bs.drop (i * size)).drop size := by
        rw [List.drop_drop, Nat.succ_mul]
      have hless : (bs.drop ((i + 1) * size)).length < left := by
        rw [hnext, List.length_drop]
        omega
      obtain ⟨pages, hpaged, hflatten, hfull⟩ :=
        ih _ hless (q := q.within (.page size i)) hq (i + 1) rfl
      have hfilled : size ≤ ((bs.drop (i * size)).take size).length := Nat.le_of_eq hlength.symm
      refine ⟨(bs.drop (i * size)).take size :: pages, .turn hpage hfilled hpaged, ?_, ?_⟩
      · rw [List.flatten_cons, hflatten, hnext, List.take_append_drop]
      · intro page hmem
        rw [List.dropLast_cons_of_ne_nil hpaged.ne_nil] at hmem
        rcases List.mem_cons.mp hmem with rfl | hmem
        · exact hlength
        · exact hfull page hmem

/-- **Nothing is lost between the pages.**  Take a query that compiles, a collection without
failures, a mapper that accepts all documents of it, and a size of pages that is not zero.  Then the
pages can be fetched one after the other up to one that is not full.  Put together they are all
results of the query without a window, and all of them but the last have the given size.  A page
that begins at the end of the results or behind it is empty. -/
theorem exists_paged (hq : (filterOf q.clauses.condition).result = .ok filter)
    (hmapper : ∀ d ∈ ds, ∃ b, mapper d = .ok b) (hsize : 0 < size) :
    (∃ pages : List (List β), Paged mapper (ds.map .ok) size q 0 pages) ∧
    (∀ pages : List (List β), Paged mapper (ds.map .ok) size q 0 pages →
      ((q.within {}).fetch mapper (ds.map .ok)).result = .ok pages.flatten ∧
      ∀ page ∈ pages.dropLast, page.length = size) ∧
    ∀ offset : Nat, ds.length ≤ offset →
      ((q.within { limit := some size, offset := some offset }).fetch mapper
        (ds.map .ok)).result = .ok [] := by
  have hall : ∃ bs : List β, ds.map mapper = bs.map .ok := by
    rcases exists_map_eq_ok_or_error mapper ds with hbs | ⟨before, d, after, _, e, rfl, -, hd⟩
    · exact hbs
    · obtain ⟨b, hb⟩ := hmapper d (by simp)
      rw [hb] at hd
      cases hd
  obtain ⟨bs, hbs⟩ := hall
  obtain ⟨pages, hpaged, hflatten, hfull⟩ := exists_paged_from hq hbs hsize 0
  refine ⟨⟨pages, hpaged⟩, ?_, ?_⟩
  · intro pages' hpaged'
    rw [← hpaged.eq hpaged']
    refine ⟨?_, hfull⟩
    rw [result_fetch_within hq hbs, Window.view_unbounded, hflatten, Nat.zero_mul, List.drop_zero]
  · intro offset hoffset
    have hlength : bs.length = ds.length := by
      simpa using (congrArg List.length hbs).symm
    have hempty : bs.drop offset = [] := List.drop_of_length_le (by omega)
    rw [result_fetch_within hq hbs]
    show Except.ok ((bs.drop offset).take size) = .ok []
    rw [hempty, List.take_nil]

end Pages

/-- Documents with the given names. -/
def named (names : List String) : List Document :=
  names.map fun name => [("name", .str name)]

/-- Five documents on pages of two, for a query that still has a window of its own.  The page at
offset six is empty. -/
theorem exists_paged_fiveNames :
    let ds := named ["A", "B", "C", "D", "E"]
    let pages : List (List Json) := [[.str "A", .str "B"], [.str "C", .str "D"], [.str "E"]]
    (filterOf Step.allStages.clauses.condition).result = .ok (Filter.present "age" true) ∧
    (∀ d ∈ ds, ∃ b, nameOf d = .ok b) ∧ 0 < 2 ∧
    Paged nameOf (ds.map .ok) 2 Step.allStages 0 pages ∧
    (((Step.allStages.within {}).fetch nameOf (ds.map .ok)).result = .ok pages.flatten ∧
      ∀ page ∈ pages.dropLast, page.length = 2) ∧
    ds.length ≤ 6 ∧
    ((Step.allStages.within { limit := some 2, offset := some 6 }).fetch nameOf
      (ds.map .ok)).result = .ok [] := by
  intro ds pages
  have hnamed : ∀ d ∈ ds, ∃ b, nameOf d = .ok b := by
    intro d hd
    obtain ⟨name, -, rfl⟩ := List.mem_map.mp hd
    exact ⟨.str name, rfl⟩
  have hpages : Paged nameOf (ds.map .ok) 2 Step.allStages 0 pages :=
    .turn rfl (by decide) (.turn rfl (by decide) (.last rfl (by decide)))
  have hsize : 0 < 2 := by decide
  obtain ⟨-, hall, hend⟩ := exists_paged (q := Step.allStages) rfl hnamed hsize
  exact ⟨rfl, hnamed, hsize, hpages, hall pages hpages, by decide, hend 6 (by decide)⟩

end Query

end DocSelect
