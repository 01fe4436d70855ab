/-
Reading a growing log page by page.

A reader asks for a page after a cursor, goes on from the page's next cursor while the
page says that there is more, and stops at the first page that says there is not. Other
parties may append to the log between two pages. `Serves` is what a source has to do for
one page: return a window that starts right after the cursor, is not empty when there is
something to return, and says whether it reached the end. That is enough for the reader
to stop, and to have read everything after its first cursor exactly once and in order
(`drain_eq`). `drain_related` carries a result about one source to another that returns
the same pages in another representation.
-/
import Konclave.Checked

set_option autoImplicit false

namespace Konclave.Paging

open List

variable {ε α β : Type} {log : List α} {after : ℕ}

structure Page (α : Type) where
  entries : List α
  next_cursor : ℕ
  has_more : Bool
  deriving DecidableEq, Repr

/-- Reads pages until one has no more; page `i` is read from the `i`-th source. Returns
the entries read and the number of the last page, or `none` when the fuel is used up. -/
def drain (fetch : ℕ → ℕ → Except ε (Page α)) : ℕ → ℕ → ℕ → Except ε (Option (List α × ℕ))
  | 0, _, _ => .ok none
  | fuel + 1, i, after_cursor =>
    match fetch i after_cursor with
    | .error e => .error e
    | .ok page =>
      if page.has_more then
        (drain fetch fuel (i + 1) page.next_cursor).map
          (Option.map (fun rest => (page.entries ++ rest.1, rest.2)))
      else .ok (some (page.entries, i))

/-- The source answers a request after `after_cursor` with a window of `log`. -/
def Serves (fetch : ℕ → Except ε (Page α)) (log : List α) (after_cursor : ℕ) : Prop :=
  ∃ count, (log.drop after_cursor ≠ [] → 0 < count)
    ∧ fetch after_cursor = .ok ⟨(log.drop after_cursor).take count, after_cursor + count,
        count < (log.drop after_cursor).length⟩

/-- A page that has more is not empty and advances the cursor. -/
theorem Serves.advances {fetch : ℕ → Except ε (Page α)}
    (h : Serves fetch log after) : ∃ page, fetch after = .ok page
    ∧ (page.has_more = true → page.entries ≠ [] ∧ after < page.next_cursor) := by
  obtain ⟨count, hpos, hfetch⟩ := h
  refine ⟨_, hfetch, ?_⟩
  intro hmore
  have hlt := of_decide_eq_true hmore
  have hne : log.drop after ≠ [] := by
    rw [← length_pos_iff]
    omega
  have hcount := hpos hne
  constructor
  · rw [← length_pos_iff, length_take]
    omega
  · exact Nat.lt_add_of_pos_right hcount

section

variable {fetch : ℕ → ℕ → Except ε (Page α)} {logs : ℕ → List α} {bound : ℕ}

theorem prefix_of_le (hgrow : ∀ i, logs i <+: logs (i + 1)) {i j : ℕ} (h : i ≤ j) :
    logs i <+: logs j := by
  induction h with
  | refl => exact prefix_refl _
  | step _ ih => exact ih.trans (hgrow _)

/-- A window of a log is the same window of a longer one. -/
theorem take_drop_append {log longer : List α} (hgrows : log <+: longer) {after count : ℕ}
    (h : count ≤ (log.drop after).length) :
    (log.drop after).take count ++ longer.drop (after + count) = longer.drop after := by
  obtain ⟨suffix, rfl⟩ := hgrows
  by_cases hlen : after ≤ log.length
  · rw [drop_append_of_le_length hlen]
    rw [show (log.drop after).take count = (log.drop after ++ suffix).take count from
      (take_append_of_le_length h).symm]
    rw [← drop_drop, drop_append_of_le_length hlen, take_append_drop]
  · rw [length_drop] at h
    have hzero : count = 0 := by omega
    subst hzero
    rw [take_zero, nil_append, Nat.add_zero]

/-- Draining stops and has read the whole log after its cursor, as it stands at the last
page. The induction is on the fuel, which covers the distance to `bound`: every page that
has more moves the cursor on. -/
theorem drain_eq (hserves : ∀ i after, after ≤ bound → Serves (fetch i) (logs i) after)
    (hgrow : ∀ i, logs i <+: logs (i + 1)) (hbound : ∀ i, (logs i).length ≤ bound) :
    ∀ fuel i after, after ≤ bound → bound - after < fuel → ∃ last, i ≤ last
    ∧ drain fetch fuel i after = .ok (some ((logs last).drop after, last)) := by
  intro fuel
  induction fuel with
  | zero =>
    intro i after _ hfuel
    omega
  | succ fuel ih =>
    intro i after hafter hfuel
    obtain ⟨count, hpos, hfetch⟩ := hserves i after hafter
    rw [drain, hfetch]
    by_cases hmore : count < ((logs i).drop after).length
    · have hne : (logs i).drop after ≠ [] := by
        rw [← length_pos_iff]
        omega
      have hcount := hpos hne
      have hlen := hbound i
      have hlt := hmore
      rw [length_drop] at hlt
      obtain ⟨last, hlast, hrest⟩ := ih (i + 1) (after + count) (by omega) (by omega)
      refine ⟨last, by omega, ?_⟩
      simp only [decide_eq_true hmore, if_true, hrest, Except.map, Option.map_some]
      rw [take_drop_append (prefix_of_le hgrow (by omega)) (Nat.le_of_lt hmore)]
    · refine ⟨i, Nat.le_refl _, ?_⟩
      simp only [decide_eq_false hmore, Bool.false_eq_true, if_false]
      rw [take_of_length_le (Nat.not_lt.1 hmore)]

end

/-! ## Two representations of the same pages -/

/-- Equal pages up to a relation of their entries, or the same error. -/
inductive Related (R : α → β → Prop) : Except ε (Page α) → Except ε (Page β) → Prop
  | error (e : ε) : Related R (.error e) (.error e)
  | ok {xs : List α} {ys : List β} (h : List.Forall₂ R xs ys) (next_cursor : ℕ)
      (has_more : Bool) :
      Related R (.ok ⟨xs, next_cursor, has_more⟩) (.ok ⟨ys, next_cursor, has_more⟩)

theorem drain_related {R : α → β → Prop} {fetch : ℕ → ℕ → Except ε (Page α)}
    {fetch' : ℕ → ℕ → Except ε (Page β)}
    (h : ∀ i after, Related R (fetch i after) (fetch' i after)) :
    ∀ fuel i after {xs : List α} {last : ℕ}, drain fetch fuel i after = .ok (some (xs, last)) →
    ∃ ys, List.Forall₂ R xs ys ∧ drain fetch' fuel i after = .ok (some (ys, last)) := by
  intro fuel
  induction fuel with
  | zero =>
    intro i after xs last hdrain
    cases hdrain
  | succ fuel ih =>
    intro i after xs last hdrain
    rw [drain] at hdrain ⊢
    have hrelated := h i after
    revert hdrain hrelated
    generalize fetch i after = page
    generalize fetch' i after = page'
    intro hdrain hrelated
    cases hrelated with
    | error e => cases hdrain
    | ok hentries next_cursor has_more =>
      cases has_more with
      | false =>
        cases hdrain
        exact ⟨_, hentries, rfl⟩
      | true =>
        simp only [if_true] at hdrain ⊢
        obtain ⟨rest, hrest, hmap⟩ := map_eq_ok.1 hdrain
        obtain ⟨⟨tail, last'⟩, rfl, hpair⟩ := Option.map_eq_some_iff.1 hmap
        cases hpair
        obtain ⟨ys, hys, hdrain'⟩ := ih (i + 1) next_cursor hrest
        rw [hdrain']
        exact ⟨_, rel_append hentries hys, rfl⟩

end Konclave.Paging
