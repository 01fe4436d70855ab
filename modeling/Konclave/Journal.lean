/-
Journals: tables whose records are never removed and move along a relation.

A step of a system evolves its journal when every record is still there afterwards, moved
along `R`, and a record that is new satisfies `Fresh`. From one fact about a step follow
the two facts about a run that a safety argument uses: what holds of a record later, and
what holds of every record there is.
-/
import Konclave.Table

set_option autoImplicit false

namespace Konclave.Journal

variable {K V : Type} {key : V → K} [DecidableEq K] {R : V → V → Prop} {Fresh : V → Prop}

/-- The records of `table` are in `table'`, moved along `R`; the others there are fresh. -/
structure Evolves (R : V → V → Prop) (Fresh : V → Prop) (table table' : Table K V key) : Prop where
  kept : ∀ {k : K} {row : V}, table.get? k = some row →
    ∃ row', table'.get? k = some row' ∧ R row row'
  fresh : ∀ {k : K} {row' : V}, table.get? k = none → table'.get? k = some row' → Fresh row'

theorem Evolves.refl (hrefl : ∀ row, R row row) (table : Table K V key) :
    Evolves R Fresh table table where
  kept h := ⟨_, h, hrefl _⟩
  fresh hnone hsome := by
    rw [hnone] at hsome
    cases hsome

/-- Overwriting a record by one it may move to. -/
theorem Evolves.put (hrefl : ∀ row, R row row) {table : Table K V key} {old row : V}
    (hold : table.get? (key row) = some old) (hmove : R old row) :
    Evolves R Fresh table (table.put row) where
  kept {k row'} h := by
    rw [Table.get?_put]
    split
    · rename_i hk
      subst hk
      rw [hold] at h
      cases h
      exact ⟨row, rfl, hmove⟩
    · exact ⟨row', h, hrefl row'⟩
  fresh {k row'} hnone hsome := by
    rw [Table.get?_put] at hsome
    split at hsome
    · rename_i hk
      rw [hk, hnone] at hold
      cases hold
    · rw [hnone] at hsome
      cases hsome

/-- Adding a fresh record. -/
theorem Evolves.insert (hrefl : ∀ row, R row row) {table table' : Table K V key} {row : V}
    (h : table.insert? row = some table') (hfresh : Fresh row) : Evolves R Fresh table table' where
  kept {k row'} hrow := by
    have hne : key row ≠ k := by
      rintro rfl
      rw [(Table.insert?_iff.1 h).1] at hrow
      cases hrow
    rw [Table.get?_insert h, if_neg hne]
    exact ⟨row', hrow, hrefl row'⟩
  fresh {k row'} hnone hsome := by
    rw [Table.get?_insert h] at hsome
    split at hsome
    · cases hsome
      exact hfresh
    · rw [hnone] at hsome
      cases hsome

section

variable {S : Type} {t : S → Table K V key} {step : S → S → Prop}

/-- A record moves along `R` over a whole run. -/
theorem kept_of_steps (hrefl : ∀ row, R row row) (htrans : ∀ x y z, R x y → R y z → R x z)
    (hstep : ∀ s s', step s s' → Evolves R Fresh (t s) (t s')) {s s' : S}
    (hsteps : Relation.ReflTransGen step s s') {k : K} {row : V} (hrow : (t s).get? k = some row) :
    ∃ row', (t s').get? k = some row' ∧ R row row' := by
  induction hsteps with
  | refl => exact ⟨row, hrow, hrefl row⟩
  | tail _ hlast ih =>
    obtain ⟨middle, hmiddle, hto⟩ := ih
    obtain ⟨row', hrow', hmove⟩ := (hstep _ _ hlast).kept hmiddle
    exact ⟨row', hrow', htrans _ _ _ hto hmove⟩

/-- What fresh records satisfy and `R` keeps holds of every record of every run. -/
theorem forall_of_steps {I : V → Prop} (hfresh : ∀ row, Fresh row → I row)
    (hkeep : ∀ row row', R row row' → I row → I row')
    (hstep : ∀ s s', step s s' → Evolves R Fresh (t s) (t s')) {s s' : S}
    (hsteps : Relation.ReflTransGen step s s')
    (hinit : ∀ k row, (t s).get? k = some row → I row) {k : K} {row : V}
    (hrow : (t s').get? k = some row) : I row := by
  induction hsteps generalizing k row with
  | refl => exact hinit k row hrow
  | @tail middle last _ hlast ih =>
    cases hold : (t middle).get? k with
    | none => exact hfresh row ((hstep _ _ hlast).fresh hold hrow)
    | some old =>
      obtain ⟨row', hrow', hmove⟩ := (hstep _ _ hlast).kept hold
      rw [hrow] at hrow'
      cases hrow'
      exact hkeep old row hmove (ih hold)

end

end Konclave.Journal
