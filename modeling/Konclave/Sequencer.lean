/-
Logs guarded by an epoch.

A sequencer appends entries to a log. Some entries advance the epoch of the log, and some
entries name the epoch they were made for (the `gate`): those are only appended while that
is still the epoch. The epoch is the number of advancing entries so far, so a log built
this way can be read back: the gate of an entry says how many advancing entries stand
before it, and the gates of the advancing entries are `0, 1, 2, …` in order.

`Sequenced` says what such a log looks like; the lemmas are how it is extended by one entry
and what can be read off a whole log.
-/
import Mathlib.Algebra.Order.Ring.Int
import Mathlib.Data.List.Sort

set_option autoImplicit false

namespace Konclave.Sequencer

open List

variable {α : Type} {log : List α} (advances : α → Bool) (gate : α → Option ℕ)

/-- The epoch of a log: its advancing entries. -/
def epoch (log : List α) : ℕ := log.countP advances

/-- A log to which every gated entry was appended at the epoch it names. -/
inductive Sequenced : List α → Prop
  | nil : Sequenced []
  | snoc {log : List α} {entry : α} (hlog : Sequenced log)
      (hgate : ∀ parent, gate entry = some parent → parent = epoch advances log) :
      Sequenced (log ++ [entry])

variable {advances gate}

theorem epoch_snoc (entry : α) : epoch advances (log ++ [entry])
    = epoch advances log + if advances entry then 1 else 0 := by
  rw [epoch, epoch, countP_append, countP_singleton]

theorem epoch_le_length : epoch advances log ≤ log.length := countP_le_length

/-- A gate counts the advancing entries before it. -/
theorem Sequenced.gate_eq (h : Sequenced advances gate log) :
    ∀ {before after : List α} {entry : α} {parent : ℕ}, log = before ++ entry :: after →
    gate entry = some parent → parent = epoch advances before := by
  induction h with
  | nil => intro before after entry parent hsplit; simp at hsplit
  | snoc hlog hgate ih =>
    intro before after entry parent hsplit hentry
    -- the entry is the one just appended, or one of the log before it
    rcases eq_nil_or_concat after with rfl | ⟨after, last, rfl⟩
    · obtain ⟨rfl, hlast⟩ := append_inj' hsplit rfl
      simp only [cons.injEq, and_true] at hlast
      subst hlast
      exact hgate parent hentry
    · rw [concat_eq_append, ← cons_append, ← append_assoc] at hsplit
      exact ih (append_inj' hsplit rfl).1 hentry

/-- The advancing entries name the epochs `0, 1, 2, …`, so no two name the same. -/
theorem Sequenced.advancing_gates (h : Sequenced advances gate log)
    (hgated : ∀ entry ∈ log, advances entry = true → (gate entry).isSome) :
    (log.filter advances).map gate = (range (epoch advances log)).map some := by
  induction h with
  | nil => rfl
  | @snoc log entry hlog hgate ih =>
    have hgrows := ih (fun x hx => hgated x (mem_append_left _ hx))
    rw [filter_append, map_append, hgrows, epoch_snoc]
    cases hadv : advances entry with
    | false => simp [hadv]
    | true =>
      obtain ⟨parent, hparent⟩ := Option.isSome_iff_exists.1 (hgated entry (by simp) hadv)
      rw [filter_singleton, hadv, if_pos rfl, range_succ, map_append]
      simp only [cond_true, map_cons, map_nil, hparent, hgate parent hparent]

end Konclave.Sequencer
