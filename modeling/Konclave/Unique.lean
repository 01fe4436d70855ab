/-
Tables with further unique columns.

`names row` lists what the row claims for itself beside its key: the values of its unique
columns, those that are null left out. No name is claimed by two rows, and that is a field
of the table. A write that would break it is refused, as the database refuses it.
-/
import Konclave.Table
import Mathlib.Data.List.Flatten
import Mathlib.Data.List.Pairwise

set_option autoImplicit false

namespace Konclave

open Table List

/-- Rows of type `V`, unique by `key` and in each of their `names`. -/
structure UniqueTable (K N V : Type) (key : V → K) (names : V → List N) extends Table K V key where
  names_nodup : (rows.flatMap names).Nodup

namespace UniqueTable

variable {K N V : Type} {key : V → K} {names : V → List N} {k' : K} {row' : V} {p : V → Bool}

theorem ext {x y : UniqueTable K N V key names} (h : x.rows = y.rows) : x = y := by
  obtain ⟨x, hx⟩ := x
  obtain ⟨y, hy⟩ := y
  have heq : x = y := Table.ext h
  cases heq
  rfl

instance [DecidableEq V] : DecidableEq (UniqueTable K N V key names) := fun x y =>
  decidable_of_iff (x.rows = y.rows)
    ⟨ext, congrArg fun table : UniqueTable K N V key names => table.rows⟩

variable {n : N} {table table' : UniqueTable K N V key names} {row : V} {k : K} {set : V → V}

/-- A name picks one row. -/
theorem eq_of_name (table : UniqueTable K N V key names) {x y : V} (hx : x ∈ table.rows)
    (hy : y ∈ table.rows) (hnx : n ∈ names x) (hny : n ∈ names y) : x = y := by
  by_contra hne
  have hpairwise := (nodup_flatMap.1 table.names_nodup).2
  have hsymm : Std.Symm (Function.onFun List.Disjoint names) := ⟨fun _ _ h => disjoint_comm.1 h⟩
  exact hpairwise.forall hx hy hne hnx hny

def empty : UniqueTable K N V key names := ⟨Table.empty, nodup_nil⟩

variable [DecidableEq N]

/-- The row that claims `n`. -/
def named? (table : UniqueTable K N V key names) (n : N) : Option V :=
  table.rows.find? fun row => decide (n ∈ names row)

theorem named?_eq_some_iff : table.named? n = some row ↔ row ∈ table.rows ∧ n ∈ names row :=
  find?_iff fun _ hx _ hy => table.eq_of_name hx hy

theorem named?_eq_none_iff : table.named? n = none ↔ ∀ row ∈ table.rows, n ∉ names row := by
  rw [named?, find?_eq_none]
  simp

variable [DecidableEq K]

/-- `INSERT`; `none` when a unique column is violated. -/
def insert? (table : UniqueTable K N V key names) (row : V) :
    Option (UniqueTable K N V key names) :=
  match table.toTable.insert? row with
  | none => none
  | some inserted =>
    if h : (inserted.rows.flatMap names).Nodup then some ⟨inserted, h⟩ else none

section

variable (h : table.insert? row = some table')
include h

/-- An insertion the unique columns allow is one of the table. -/
theorem insert?_toTable : table.toTable.insert? row = some table'.toTable := by
  rw [insert?] at h
  split at h
  · cases h
  · rename_i inserted hins
    split at h
    · cases h
      exact hins
    · cases h

theorem insert?_eq_some : table.get? (key row) = none ∧ table'.rows = table.rows ++ [row] :=
  insert?_iff.1 (insert?_toTable h)

theorem get?_insert_self : table'.get? (key row) = some row := by
  refine get?_iff.2 ⟨?_, rfl⟩
  rw [(insert?_eq_some h).2]
  exact mem_append_right _ (mem_singleton.2 rfl)

theorem get?_insert (k : K) : table'.get? k = if key row = k then some row else table.get? k :=
  Table.get?_insert (insert?_toTable h) k

/-- A row stays through an insertion. -/
theorem get?_insert_of_get? (hget : table.get? k = some row') : table'.get? k = some row' := by
  rw [get?_insert h, if_neg]
  · exact hget
  · intro hk
    rw [← hk, (insert?_eq_some h).1] at hget
    cases hget

/-- A row after an insertion is the inserted one or was there. -/
theorem get?_insert_cases
    (hget : table'.get? k = some row') : (key row = k ∧ row' = row) ∨ table.get? k = some row' := by
  rw [get?_insert h] at hget
  split at hget
  · rename_i hk
    cases hget
    exact .inl ⟨hk, rfl⟩
  · exact .inr hget

/-- A row that is inserted shares no unique column with another. -/
theorem insert?_apart {old : V} (hold : old ∈ table.rows) :
    key row ≠ key old ∧ (names row).Disjoint (names old) := by
  obtain ⟨hnone, hrows⟩ := insert?_eq_some h
  have hkey : key row ≠ key old := by
    intro hkey
    rw [hkey, table.get?_of_mem hold] at hnone
    cases hnone
  refine ⟨hkey, fun n hrow hname => hkey ?_⟩
  rw [table'.eq_of_name (x := row) (y := old) (by simp [hrows]) (by simp [hrows, hold]) hrow hname]

/-- A row that does not satisfy `p` is not noticed by a query for `p`. -/
theorem any_insert (hp : p row = false) : (table'.get? k).any p = (table.get? k).any p := by
  rw [get?_insert h]
  by_cases hk : key row = k
  · rw [if_pos hk, Option.any_some, hp, ← hk, (insert?_eq_some h).1]
    rfl
  · rw [if_neg hk]

end

theorem insert?_of_get? {other : V} (h : table.get? (key row) = some other) :
    table.insert? row = none := by
  cases hins : table.insert? row with
  | none => rfl
  | some table' =>
    rw [(insert?_eq_some hins).1] at h
    cases h

/-- A row whose key and names are free can be inserted. -/
theorem insert?_of_free (hkey : table.get? (key row) = none)
    (hnames : ∀ n ∈ names row, table.named? n = none) (hnodup : (names row).Nodup) :
    ∃ table', table.insert? row = some table' := by
  obtain ⟨inserted, hins⟩ := insert?_of_get?_none hkey
  have hrows := (insert?_iff.1 hins).2
  have hfree : (inserted.rows.flatMap names).Nodup := by
    rw [hrows, flatMap_append, nodup_append]
    refine ⟨table.names_nodup, by simpa using hnodup, ?_⟩
    rintro n hold m hnew rfl
    obtain ⟨other, hother, hclaimed⟩ := mem_flatMap.1 hold
    rw [flatMap_singleton] at hnew
    exact named?_eq_none_iff.1 (hnames n hnew) other hother hclaimed
  rw [insert?, hins]
  exact ⟨_, dif_pos hfree⟩

/-- `UPDATE … WHERE key = k`; `none` when a unique column is violated. -/
def update? (table : UniqueTable K N V key names) (k : K) (set : V → V)
    (hset : ∀ row, key (set row) = key row) : Option (UniqueTable K N V key names) :=
  if h : ((table.toTable.update k set hset).rows.flatMap names).Nodup then
    some ⟨table.toTable.update k set hset, h⟩
  else none

variable {hset : ∀ row, key (set row) = key row}

theorem update?_eq_some (h : table.update? k set hset = some table') :
    table'.toTable = table.toTable.update k set hset := by
  rw [update?] at h
  split at h
  · cases h
    rfl
  · cases h

theorem get?_update? (h : table.update? k set hset = some table') :
    table'.get? k' = if k' = k then (table.get? k').map set else table.get? k' := by
  rw [update?_eq_some h]
  exact get?_update table.toTable k set hset k'

theorem get?_update?_cases (h : table.update? k set hset = some table')
    (hget : table'.get? k' = some row') :
    ∃ row, table.get? k' = some row ∧ (row' = row ∨ k' = k ∧ row' = set row) := by
  rw [update?_eq_some h] at hget
  exact get?_update_cases set hset hget

theorem keeps_update? {R : V → V → Prop}
    (hrefl : ∀ row, R row row) (h : table.update? k set hset = some table')
    (hR : ∀ row, table.get? k = some row → R row (set row)) :
    table.toTable.Keeps R table'.toTable := by
  rw [update?_eq_some h]
  exact keeps_update hrefl set hset hR

/-- An update that leaves the names of its row as they were is allowed. -/
theorem update?_of_names
    (hnames : ∀ row, table.get? k = some row → names (set row) = names row) :
    ∃ table', table.update? k set hset = some table' := by
  have hsame : (table.toTable.update k set hset).rows.flatMap names = table.rows.flatMap names := by
    rw [update, flatMap_map]
    refine flatMap_congr fun row hrow => ?_
    by_cases h : key row = k
    · rw [if_pos h, hnames row (get?_iff.2 ⟨hrow, h⟩)]
    · rw [if_neg h]
  exact ⟨_, dif_pos (hsame ▸ table.names_nodup)⟩

/-- An update that leaves `p` as it was is not noticed by a query for `p`. -/
theorem any_update? (h : table.update? k set hset = some table')
    (hp : ∀ row, table.get? k = some row → p (set row) = p row) :
    (table'.get? k').any p = (table.get? k').any p := by
  rw [get?_update? h]
  by_cases hk : k' = k
  · rw [if_pos hk, hk]
    cases hrow : table.get? k with
    | none => rfl
    | some row => exact hp row hrow
  · rw [if_neg hk]

/-- `UPDATE … WHERE key = k` of columns that are not unique. -/
def update (table : UniqueTable K N V key names) (k : K) (set : V → V)
    (hset : ∀ row, key (set row) = key row) (hnames : ∀ row, names (set row) = names row) :
    UniqueTable K N V key names :=
  ⟨table.toTable.update k set hset, by
    have hsame : (table.toTable.update k set hset).rows.flatMap names
        = table.rows.flatMap names := by
      rw [Table.update, flatMap_map]
      refine flatMap_congr fun row _ => ?_
      by_cases h : key row = k
      · rw [if_pos h, hnames]
      · rw [if_neg h]
    rw [hsame]
    exact table.names_nodup⟩

/-- `DELETE … WHERE` the rows that satisfy `p`. -/
def delete (table : UniqueTable K N V key names) (p : V → Bool) : UniqueTable K N V key names :=
  ⟨table.toTable.delete p, table.names_nodup.sublist (delete_sublist.flatMap names)⟩

end UniqueTable

end Konclave
