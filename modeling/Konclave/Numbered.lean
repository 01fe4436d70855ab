/-
Rows that are numbered one after the other.

A journal gives each new row of an owner the next number, so the rows an owner has are
numbered from a start without a gap, in the order they were written. `ORDER BY` the number
then changes nothing, and a query for the numbers after one, or for the last few, is a
window of the list.
-/
import Mathlib.Algebra.Order.Ring.Int
import Mathlib.Data.List.Basic
import Mathlib.Data.List.Induction
import Mathlib.Data.List.Sort

set_option autoImplicit false

namespace Konclave

open List

variable {V : Type} {n : ℕ}

/-- `ORDER BY` an integer column. -/
def order_by (column : V → ℕ) (rows : List V) : List V :=
  rows.insertionSort fun x y => column x ≤ column y

/-- The rows are numbered from `start` on. -/
def Numbered (column : V → ℕ) (start : ℕ) (rows : List V) : Prop :=
  rows.map column = range' start rows.length

namespace Numbered

variable {column : V → ℕ} {start : ℕ} {rows : List V} {row : V}

@[simp] theorem nil : Numbered column start [] := rfl

theorem concat_iff : Numbered column start (rows ++ [row]) ↔
    Numbered column start rows ∧ column row = start + rows.length := by
  rw [Numbered, Numbered, map_append, length_append, length_singleton,
    range'_concat, map_singleton, Nat.one_mul]
  constructor
  · intro h
    obtain ⟨hrows, hrow⟩ := append_inj h (by simp)
    exact ⟨hrows, singleton_inj.1 hrow⟩
  · rintro ⟨hrows, hrow⟩
    rw [hrows, hrow]

theorem cons_iff : Numbered column start (row :: rows) ↔
    column row = start ∧ Numbered column (start + 1) rows := by
  rw [Numbered, Numbered, map_cons, length_cons, range'_succ, cons_eq_cons]

section

variable (h : Numbered column start rows)
include h

theorem drop (n : ℕ) : Numbered column (start + n) (rows.drop n) := by
  rw [Numbered, map_drop, h, drop_range', length_drop, Nat.mul_one]

theorem take (n : ℕ) : Numbered column start (rows.take n) := by
  induction rows generalizing start n with
  | nil => rw [take_nil]; exact nil
  | cons row rows ih =>
    cases n with
    | zero => exact nil
    | succ n =>
      obtain ⟨hrow, hrest⟩ := cons_iff.1 h
      exact cons_iff.2 ⟨hrow, ih hrest n⟩

theorem le_of_mem (hrow : row ∈ rows) : start ≤ column row ∧ column row < start + rows.length := by
  have hmem : column row ∈ rows.map column := mem_map_of_mem hrow
  rw [h, mem_range'_1] at hmem
  exact hmem

/-- Position `i` holds the number `start + i`. -/
theorem getElem {i : ℕ} (hi : i < rows.length) : column rows[i] = start + i := by
  have hget : (rows.map column)[i]? = (range' start rows.length)[i]? := congrArg (·[i]?) h
  rw [getElem?_map, getElem?_eq_getElem hi, getElem?_range' hi] at hget
  simpa using hget

theorem pairwise_lt : rows.Pairwise fun x y => column x < column y := by
  rw [← pairwise_map, h]
  exact pairwise_lt_range'

theorem order_by_eq : order_by column rows = rows :=
  List.Pairwise.insertionSort_eq (h.pairwise_lt.imp fun hlt => hlt.le)

/-- Rows in the opposite order are put back. -/
theorem order_by_reverse : order_by column rows.reverse = rows := by
  have htotal : Std.Total fun x y : V => column x ≤ column y := ⟨fun _ _ => Nat.le_total _ _⟩
  have htrans : IsTrans V fun x y => column x ≤ column y := ⟨fun _ _ _ => Nat.le_trans⟩
  have hsorted : (order_by column rows.reverse).Pairwise fun x y => column x ≤ column y :=
    pairwise_insertionSort _ _
  have hperm : (order_by column rows.reverse).Perm rows :=
    (perm_insertionSort _ _).trans (reverse_perm rows)
  refine List.Perm.eq_of_pairwise ?_ hsorted (h.pairwise_lt.imp fun hlt => hlt.le) hperm
  -- a number picks one of the rows
  intro x y hx hy hxy hyx
  have hnodup : (rows.map column).Nodup := by
    rw [h]
    exact nodup_range'
  exact inj_on_of_nodup_map hnodup (hperm.mem_iff.1 hx) hy (Nat.le_antisymm hxy hyx)

/-- The rows after a number are what is left when those up to it are dropped. -/
theorem filter_lt (after : ℕ) :
    rows.filter (fun row => after < column row) = rows.drop (after + 1 - start) := by
  induction rows generalizing start with
  | nil => simp
  | cons row rows ih =>
    obtain ⟨hrow, hrest⟩ := cons_iff.1 h
    by_cases hlt : after < column row
    · have hzero : after + 1 - start = 0 := by omega
      rw [hzero, drop_zero, filter_eq_self]
      intro x hx
      have hle := (h.le_of_mem hx).1
      simpa using (by omega : after < column x)
    · have hsucc : after + 1 - start = after + 1 - (start + 1) + 1 := by omega
      rw [filter_cons_of_neg (by simpa using hlt), ih hrest, hsucc, drop_succ_cons]

/-- The rows below a number are the first ones. -/
theorem filter_lt_add (n : ℕ) : rows.filter (fun row => column row < start + n) = rows.take n := by
  have htake : (rows.take n).filter (fun row => column row < start + n) = rows.take n := by
    rw [filter_eq_self]
    intro x hx
    have hlt := ((h.take n).le_of_mem hx).2
    rw [length_take] at hlt
    exact decide_eq_true (by omega)
  have hdrop : (rows.drop n).filter (fun row => column row < start + n) = [] := by
    rw [filter_eq_nil_iff]
    intro x hx
    have hle := ((h.drop n).le_of_mem hx).1
    rw [decide_eq_true_eq]
    omega
  calc rows.filter (fun row => column row < start + n)
      = (rows.take n ++ rows.drop n).filter (fun row => column row < start + n) := by
        rw [take_append_drop]
    _ = rows.take n := by rw [filter_append, htake, hdrop, append_nil]

end

/-- What stands before a row is what has a smaller number. -/
theorem filter_before {before after : List V} (h : Numbered column start (before ++ row :: after)) :
    (before ++ row :: after).filter (fun x => column x < column row) = before := by
  have hrow := h.getElem (i := before.length) (by simp)
  rw [getElem_append_right (Nat.le_refl _)] at hrow
  simp only [Nat.sub_self, getElem_cons_zero] at hrow
  rw [hrow, h.filter_lt_add, take_left]

theorem append {more : List V} (h : Numbered column start rows)
    (hmore : Numbered column (start + rows.length) more) :
    Numbered column start (rows ++ more) := by
  rw [Numbered, map_append, length_append, ← range'_append_1, h, hmore]

/-- What is numbered stays so when each row is written out with its number. -/
theorem map {W : Type} {column' : W → ℕ} {f : V → W} (hf : ∀ row, column' (f row) = column row)
    (h : Numbered column start rows) : Numbered column' start (rows.map f) := by
  rw [Numbered, map_map, length_map, show column' ∘ f = column from funext hf]
  exact h

/-- The number of the last row, or the one before the first. -/
theorem last (h : Numbered column (start + 1) rows) :
    (rows.getLast?.map column).getD start = start + rows.length := by
  induction rows using reverseRecOn with
  | nil => rfl
  | append_singleton rows row _ =>
    rw [getLast?_concat, Option.map_some, Option.getD_some, (concat_iff.1 h).2,
      length_append, length_singleton]
    omega

theorem last_take (h : Numbered column (start + 1) rows) (hpos : 0 < n)
    (hle : n ≤ rows.length) : (rows.take n).getLast?.map column = some (start + n) := by
  have hlast := (h.take n).last
  rw [length_take, Nat.min_eq_left hle] at hlast
  cases hrow : (rows.take n).getLast? with
  | none =>
    rw [getLast?_eq_none_iff, ← length_eq_zero_iff, length_take] at hrow
    omega
  | some row =>
    rw [hrow] at hlast
    exact congrArg some hlast

/-- The newest rows, oldest first. -/
theorem newest (h : Numbered column start rows) (limit : ℕ) :
    order_by column (rows.reverse.take limit) = rows.drop (rows.length - limit) := by
  rw [take_reverse]
  exact (h.drop _).order_by_reverse

end Numbered

end Konclave
