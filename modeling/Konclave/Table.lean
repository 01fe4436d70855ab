/-
Database tables with a primary key.

A table is its rows in insertion order, and no two rows have the same key: the
constraint is a field, so that every table that exists satisfies it. The operations
are those of the SQL statements the models use (`SELECT … WHERE key`, `INSERT`, `UPDATE
… WHERE key`, `INSERT … ON CONFLICT DO UPDATE`), and each has the equation of what
`get?` reads afterwards.
-/
import Mathlib.Algebra.Order.Ring.Int
import Mathlib.Data.List.Nodup

set_option autoImplicit false

namespace Konclave

open List

/-- Rows of type `V`, unique by `key`. -/
structure Table (K V : Type) (key : V → K) where
  rows : List V
  nodup : (rows.map key).Nodup

namespace Table

variable {K V : Type} {key : V → K} {p : V → Bool} {set : V → V}

instance [DecidableEq V] : DecidableEq (Table K V key) := fun x y =>
  decidable_of_iff (x.rows = y.rows) ⟨fun h => by cases x; cases y; cases h; rfl, congrArg rows⟩

theorem ext {x y : Table K V key} (h : x.rows = y.rows) : x = y := by
  cases x
  cases y
  cases h
  rfl

/-- A key picks one row. -/
theorem eq_of_key_eq (table : Table K V key) {x y : V} (hx : x ∈ table.rows)
    (hy : y ∈ table.rows) (h : key x = key y) : x = y :=
  inj_on_of_nodup_map table.nodup hx hy h

variable {row : V} {table table' : Table K V key} {k : K} {R : V → V → Prop}

/-- A query that one row of the table satisfies finds that row. -/
theorem filter_eq_singleton (table : Table K V key) (hrow : row ∈ table.rows)
    (honly : ∀ x ∈ table.rows, p x = true ↔ x = row) : table.rows.filter p = [row] := by
  have hnodup : (table.rows.filter p).Nodup := (List.Nodup.of_map _ table.nodup).filter _
  refine perm_singleton.1 ((perm_ext_iff_of_nodup hnodup (nodup_singleton _)).2 ?_)
  intro x
  rw [mem_filter, mem_singleton]
  constructor
  · rintro ⟨hx, hp⟩
    exact (honly x hx).1 hp
  · rintro rfl
    exact ⟨hrow, (honly x hrow).2 rfl⟩

/-! ## Reading

A key names one row at most. -/

/-- A search for what at most one element satisfies finds that element. -/
theorem find?_iff {P : V → Prop} [DecidablePred P] {l : List V}
    (honly : ∀ x ∈ l, ∀ y ∈ l, P x → P y → x = y) :
    l.find? (fun x => decide (P x)) = some row ↔ row ∈ l ∧ P row := by
  constructor
  · intro h
    exact ⟨mem_of_find?_eq_some h, by simpa using find?_some h⟩
  · rintro ⟨hmem, hrow⟩
    cases h : l.find? fun x => decide (P x) with
    | none => exact absurd (decide_eq_true hrow) (find?_eq_none.1 h row hmem)
    | some other =>
      have hother : P other := by simpa using find?_some h
      rw [honly other (mem_of_find?_eq_some h) row hmem hother hrow]

variable [DecidableEq K]

/-- The row with key `k`. -/
def get? (table : Table K V key) (k : K) : Option V :=
  table.rows.find? (fun row => decide (key row = k))

theorem get?_iff : table.get? k = some row ↔ row ∈ table.rows ∧ key row = k :=
  find?_iff fun _ hx _ hy hkx hky => table.eq_of_key_eq hx hy (hkx.trans hky.symm)

theorem get?_eq_none_iff : table.get? k = none ↔ ∀ row ∈ table.rows, key row ≠ k := by
  rw [get?, find?_eq_none]
  simp

theorem get?_of_mem (table : Table K V key) (h : row ∈ table.rows) :
    table.get? (key row) = some row :=
  get?_iff.2 ⟨h, rfl⟩

theorem key_of_get? (h : table.get? k = some row) : key row = k := (get?_iff.1 h).2

/-! ## Writing

Each write with what a later read finds. -/

def empty : Table K V key := ⟨[], nodup_nil⟩

@[simp] theorem get?_empty (k : K) : (empty : Table K V key).get? k = none := rfl

/-- `INSERT`; `none` when the key is taken. -/
def insert? (table : Table K V key) (row : V) : Option (Table K V key) :=
  if h : key row ∈ table.rows.map key then none
  else some ⟨table.rows ++ [row], by
    rw [map_append, nodup_append]
    refine ⟨table.nodup, nodup_singleton _, ?_⟩
    rintro _ hx _ hy rfl
    rw [map_singleton, mem_singleton] at hy
    exact h (hy ▸ hx)⟩

theorem insert?_iff : table.insert? row = some table'
    ↔ table.get? (key row) = none ∧ table'.rows = table.rows ++ [row] := by
  have hnone : table.get? (key row) = none ↔ key row ∉ table.rows.map key := by
    rw [get?_eq_none_iff, mem_map]
    constructor
    · rintro h ⟨other, hmem, hkey⟩
      exact h other hmem hkey
    · intro h other hmem hkey
      exact h ⟨other, hmem, hkey⟩
  rw [hnone, insert?]
  split
  · rename_i h
    simp [h]
  · rename_i h
    simp only [Option.some.injEq, h, not_false_eq_true, true_and]
    constructor
    · rintro rfl
      rfl
    · intro hrows
      exact ext hrows.symm

theorem insert?_of_get?_none (h : table.get? (key row) = none) :
    ∃ table', table.insert? row = some table' := by
  rw [insert?]
  split
  · rename_i hmem
    obtain ⟨old, hold, hkey⟩ := mem_map.1 hmem
    exact absurd hkey (get?_eq_none_iff.1 h old hold)
  · exact ⟨_, rfl⟩

theorem get?_insert (h : table.insert? row = some table') (k : K) :
    table'.get? k = if key row = k then some row else table.get? k := by
  obtain ⟨hfresh, hrows⟩ := insert?_iff.1 h
  split
  · rename_i hk
    exact get?_iff.2 ⟨by simp [hrows], hk⟩
  · rename_i hk
    rw [get?, hrows, find?_append]
    cases hold : table.rows.find? (fun row => decide (key row = k)) with
    | none => simp [get?, hold, hk]
    | some old => simp [get?, hold]

/-- `UPDATE … WHERE key = k`, by a change that keeps the key. -/
def update (table : Table K V key) (k : K) (set : V → V) (hset : ∀ row, key (set row) = key row) :
    Table K V key :=
  ⟨table.rows.map (fun row => if key row = k then set row else row), by
    rw [map_map, show key ∘ (fun row => if key row = k then set row else row) = key from
      funext fun row => by by_cases h : key row = k <;> simp [h, hset]]
    exact table.nodup⟩

theorem get?_update (table : Table K V key) (k : K) (set : V → V)
    (hset : ∀ row, key (set row) = key row) (k' : K) : (table.update k set hset).get? k'
    = if k' = k then (table.get? k').map set else table.get? k' := by
  cases h : table.get? k' with
  | none =>
    have hnone : (table.update k set hset).get? k' = none := by
      rw [get?_eq_none_iff] at h ⊢
      intro row hrow
      obtain ⟨old, hold, rfl⟩ := mem_map.1 hrow
      by_cases hk : key old = k <;> simp [hk, hset, h old hold]
      exact hk ▸ h old hold
    simp [hnone]
  | some row =>
    obtain ⟨hmem, hkey⟩ := get?_iff.1 h
    have hnew : (if key row = k then set row else row) ∈ (table.update k set hset).rows :=
      mem_map.2 ⟨row, hmem, rfl⟩
    by_cases hk : k' = k
    · subst hk
      rw [if_pos hkey] at hnew
      rw [if_pos rfl, Option.map_some]
      exact get?_iff.2 ⟨hnew, by rw [hset, hkey]⟩
    · rw [if_neg (by rw [hkey]; exact hk)] at hnew
      rw [if_neg hk]
      exact get?_iff.2 ⟨hnew, hkey⟩

/-- A row of an updated table was there, as it is or as it was before the update. -/
theorem get?_update_cases (set : V → V) (hset : ∀ row, key (set row) = key row) {k' : K} {row' : V}
    (h : (table.update k set hset).get? k' = some row') :
    ∃ row, table.get? k' = some row ∧ (row' = row ∨ k' = k ∧ row' = set row) := by
  rw [get?_update] at h
  split at h
  · rename_i hk
    obtain ⟨row, hrow, rfl⟩ := Option.map_eq_some_iff.1 h
    exact ⟨row, hrow, .inr ⟨hk, rfl⟩⟩
  · exact ⟨row', h, .inl rfl⟩

/-- `DELETE … WHERE` the rows that satisfy `p`. -/
def delete (table : Table K V key) (p : V → Bool) : Table K V key :=
  ⟨table.rows.filter fun row => !p row, table.nodup.sublist (filter_sublist.map key)⟩

omit [DecidableEq K] in
theorem delete_sublist : (table.delete p).rows.Sublist table.rows := filter_sublist

theorem get?_delete (table : Table K V key) (p : V → Bool) (k : K) :
    (table.delete p).get? k = (table.get? k).filter fun row => !p row := by
  cases h : table.get? k with
  | none =>
    rw [get?_eq_none_iff] at h
    rw [Option.filter_none, get?_eq_none_iff]
    intro row hrow
    exact h row (mem_of_mem_filter hrow)
  | some row =>
    obtain ⟨hmem, hkey⟩ := get?_iff.1 h
    cases hp : p row with
    | false =>
      rw [Option.filter_some, hp, get?_iff.2 ⟨mem_filter.2 ⟨hmem, by simp [hp]⟩, hkey⟩]
      rfl
    | true =>
      rw [Option.filter_some, hp, get?_eq_none_iff.2]
      · rfl
      · intro other hother hkey'
        obtain ⟨hother, hkept⟩ := mem_filter.1 hother
        rw [table.eq_of_key_eq hother hmem (hkey'.trans hkey.symm), hp] at hkept
        cases hkept

/-- `INSERT … ON CONFLICT(key) DO UPDATE` to the given row. -/
def put (table : Table K V key) (row : V) : Table K V key :=
  match table.insert? row with
  | some table' => table'
  | none => table.update (key row) (fun old => if key old = key row then row else old)
      (fun old => by by_cases hk : key old = key row <;> simp [hk])

theorem get?_put (table : Table K V key) (row : V) (k : K) :
    (table.put row).get? k = if key row = k then some row else table.get? k := by
  rw [put]
  split
  · rename_i table' h
    exact get?_insert h k
  · rename_i h
    rw [get?_update]
    by_cases hk : key row = k
    · subst hk
      rw [if_pos rfl, if_pos rfl]
      have htaken : table.get? (key row) ≠ none := by
        intro hnone
        obtain ⟨table', htable'⟩ := insert?_of_get?_none hnone
        rw [h] at htable'
        cases htable'
      obtain ⟨old, hold⟩ := Option.ne_none_iff_exists'.1 htaken
      rw [hold, Option.map_some, if_pos (key_of_get? hold)]
    · rw [if_neg hk, if_neg (fun heq => hk heq.symm)]

/-- Where a row replaces the one with its key, a sum over the rows trades the one's term for
the other's. -/
theorem sum_put (table : Table K V key) (row : V) (f : V → ℕ) :
    ((table.put row).rows.map f).sum + ((table.get? (key row)).map f).getD 0
    = (table.rows.map f).sum + f row := by
  cases hold : table.get? (key row) with
  | none =>
    obtain ⟨table', htable'⟩ := insert?_of_get?_none hold
    rw [put, htable']
    simp [(insert?_iff.1 htable').2]
  | some old =>
    have htaken : table.insert? row = none := by
      rw [Option.eq_none_iff_forall_ne_some]
      intro table' htable'
      rw [(insert?_iff.1 htable').1] at hold
      cases hold
    obtain ⟨hmem, hkey⟩ := get?_iff.1 hold
    obtain ⟨before, after, hrows⟩ := append_of_mem hmem
    have hnodup := table.nodup
    rw [hrows, map_append, map_cons, nodup_append, nodup_cons] at hnodup
    -- the rows before and after the replaced one have other keys
    have hbefore : ∀ x ∈ before, key x ≠ key row := by
      intro x hx heq
      exact hnodup.2.2 _ (mem_map_of_mem hx) _ mem_cons_self (heq.trans hkey.symm)
    have hafter : ∀ x ∈ after, key x ≠ key row := by
      intro x hx heq
      exact hnodup.2.1.1 (mem_map.2 ⟨x, hx, heq.trans hkey.symm⟩)
    have hkept : ∀ l : List V, (∀ x ∈ l, key x ≠ key row) →
        l.map (fun x => if key x = key row then (if key x = key row then row else x) else x)
          = l := by
      intro l hl
      refine (map_congr_left fun x hx => ?_).trans (map_id l)
      rw [if_neg (hl x hx), id]
    rw [put, htaken]
    simp only [update, hrows, map_append, map_cons, hkept _ hbefore, hkept _ hafter,
      hkey, if_true, sum_append, sum_cons, Option.map_some, Option.getD_some]
    omega

/-! ## Keeping

Rows stay, up to a relation between a row and its later state. -/

/-- Every row of the one table goes on in the other, as `R` allows. -/
def Keeps (R : V → V → Prop) (table table' : Table K V key) : Prop :=
  ∀ k row, table.get? k = some row → ∃ row', table'.get? k = some row' ∧ R row row'

theorem Keeps.refl (hrefl : ∀ row, R row row) (table : Table K V key) : table.Keeps R table :=
  fun _ row hrow => ⟨row, hrow, hrefl row⟩

theorem Keeps.trans (htrans : ∀ x y z, R x y → R y z → R x z) {table'' : Table K V key}
    (h : table.Keeps R table') (h' : table'.Keeps R table'') : table.Keeps R table'' := by
  intro k row hrow
  obtain ⟨row', hrow', hR⟩ := h k row hrow
  obtain ⟨row'', hrow'', hR'⟩ := h' k row' hrow'
  exact ⟨row'', hrow'', htrans _ _ _ hR hR'⟩

theorem keeps_insert (hrefl : ∀ row, R row row) (h : table.insert? row = some table') :
    table.Keeps R table' := by
  intro k old hold
  refine ⟨old, ?_, hrefl old⟩
  rw [get?_insert h, if_neg]
  · exact hold
  · intro hk
    rw [← hk, (insert?_iff.1 h).1] at hold
    cases hold

theorem keeps_update (hrefl : ∀ row, R row row) (set : V → V)
    (hset : ∀ row, key (set row) = key row) (h : ∀ row, table.get? k = some row → R row (set row)) :
    table.Keeps R (table.update k set hset) := by
  intro k' row hrow
  rw [get?_update]
  by_cases hk : k' = k
  · rw [if_pos hk, hrow]
    exact ⟨set row, rfl, h row (hk ▸ hrow)⟩
  · rw [if_neg hk]
    exact ⟨row, hrow, hrefl row⟩

end Table

end Konclave
