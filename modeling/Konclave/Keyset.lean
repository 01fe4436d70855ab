/-
Reading a changing set by key, page by page.

A reader asks for the highest keys below a cursor and goes on below the last key it got,
until a page has no next cursor. Members may come and go between two pages. `Serves` is what
a source has to do for one page. That is enough for no key to be read twice (`descending`),
and for none to be passed over that is there at every page (`complete`).
-/
import Mathlib.Algebra.Order.Ring.Int
import Mathlib.Data.List.Basic

set_option autoImplicit false

namespace Konclave.Keyset

open List

variable {K : Type} [LinearOrder K]

/-- A page, with the keys that were there when it was read. -/
structure Page (K : Type) where
  members : List K
  keys : List K
  next : Option K

structure Page.Serves (page : Page K) (cursor : Option K) : Prop where
  below : ∀ k ∈ page.keys, ∀ c ∈ cursor, k < c
  descending : page.keys.Pairwise (· > ·)
  next : ∀ n ∈ page.next, n ∈ page.keys ∧ ∀ k ∈ page.keys, n ≤ k
  rest : ∀ k ∈ page.members, (∀ c ∈ cursor, k < c) → k ∈ page.keys ∨ ∃ n ∈ page.next, k < n

/-- A page may be the first part of what is left in descending order, if it ends with the
next cursor or nothing comes after it. -/
theorem Page.serves {page : Page K} {cursor : Option K} (rest : List K)
    (hleft : ∀ k, k ∈ page.keys ++ rest ↔ k ∈ page.members ∧ ∀ c ∈ cursor, k < c)
    (hdesc : (page.keys ++ rest).Pairwise (· > ·))
    (hnext : (page.next = none ∧ rest = [])
      ∨ ∃ init last, page.next = some last ∧ page.keys = init ++ [last]) :
    page.Serves cursor := by
  obtain ⟨hkeys, -, hrest⟩ := pairwise_append.1 hdesc
  refine ⟨fun k hk => ((hleft k).1 (mem_append_left _ hk)).2, hkeys, ?_, ?_⟩
  · intro n hn
    rcases hnext with ⟨hnone, -⟩ | ⟨init, last, hsome, hpage⟩
    · cases hnone.symm.trans hn
    · cases hsome.symm.trans hn
      rw [hpage, pairwise_append] at hkeys
      rw [hpage]
      refine ⟨mem_append_right _ mem_cons_self, fun k hk => ?_⟩
      rcases mem_append.1 hk with hk | hk
      · exact le_of_lt (hkeys.2.2 k hk n mem_cons_self)
      · exact le_of_eq (mem_singleton.1 hk).symm
  · intro k hk hbelow
    rcases mem_append.1 ((hleft k).2 ⟨hk, hbelow⟩) with hk | hk
    · exact .inl hk
    · rcases hnext with ⟨-, rfl⟩ | ⟨init, last, hsome, hpage⟩
      · cases hk
      · refine .inr ⟨last, hsome, hrest last ?_ k hk⟩
        rw [hpage]
        exact mem_append_right _ mem_cons_self

/-- Pages that were read one after the other. -/
inductive Follows : Option K → List (Page K) → Prop
  | nil {cursor : Option K} : Follows cursor []
  | last {cursor : Option K} {page : Page K} : page.Serves cursor → page.next = none →
      Follows cursor [page]
  | more {cursor : Option K} {page : Page K} {pages : List (Page K)} {n : K} :
      page.Serves cursor → page.next = some n → Follows (some n) pages →
      Follows cursor (page :: pages)

namespace Follows

variable {cursor : Option K} {pages : List (Page K)} {k : K}

theorem lt_cursor (h : Follows cursor pages) :
    ∀ k ∈ pages.flatMap (·.keys), ∀ c ∈ cursor, k < c := by
  induction h with
  | nil => exact fun _ hk => nomatch hk
  | last hserves _ => simpa using hserves.below
  | more hserves hnext _ ih =>
    intro k hk c hc
    rw [flatMap_cons, mem_append] at hk
    rcases hk with hk | hk
    · exact hserves.below k hk c hc
    · exact lt_trans (ih k hk _ rfl) (hserves.below _ (hserves.next _ hnext).1 c hc)

theorem descending (h : Follows cursor pages) : (pages.flatMap (·.keys)).Pairwise (· > ·) := by
  induction h with
  | nil => exact .nil
  | last hserves _ => simpa using hserves.descending
  | more hserves hnext hrest ih =>
    rw [flatMap_cons, pairwise_append]
    refine ⟨hserves.descending, ih, ?_⟩
    intro k hk later hlater
    exact lt_of_lt_of_le (hrest.lt_cursor later hlater _ rfl) ((hserves.next _ hnext).2 k hk)

/-- A key that is there at every page is read, once the last page is. -/
theorem complete (h : Follows cursor pages) (hend : ∃ page ∈ pages, page.next = none)
    (hthere : ∀ page ∈ pages, k ∈ page.members) (hbelow : ∀ c ∈ cursor, k < c) :
    k ∈ pages.flatMap (·.keys) := by
  induction h with
  | nil =>
    obtain ⟨_, hmem, -⟩ := hend
    cases hmem
  | last hserves hnone =>
    rcases hserves.rest k (hthere _ mem_cons_self) hbelow with hk | ⟨n, hn, -⟩
    · simpa using hk
    · rw [hnone] at hn
      cases hn
  | @more _ page pages n hserves hnext _ ih =>
    rw [flatMap_cons, mem_append]
    rcases hserves.rest k (hthere _ mem_cons_self) hbelow with hk | ⟨n', hn', hlt⟩
    · exact .inl hk
    · cases hnext.symm.trans hn'
      obtain ⟨last, hlast, hnone⟩ := hend
      rcases mem_cons.1 hlast with rfl | hlast
      · rw [hnext] at hnone
        cases hnone
      · refine .inr (ih ⟨last, hlast, hnone⟩ (fun page hpage => ?_) fun _ hc => ?_)
        · exact hthere page (mem_cons_of_mem _ hpage)
        · cases hc
          exact hlt

end Follows

end Konclave.Keyset
