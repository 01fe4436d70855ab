/-
Numbered logs whose records name their predecessor.

A log continues a number and a name: its first record has the next number and names what
came before, and each later record has the next number again and names the record before
it. A log is appended to at its end and cut at its start, and both keep the link: the rules
here say what the two parts of a log continue.
-/
import Mathlib.Algebra.Order.Ring.Int
import Mathlib.Data.List.Nodup
import Mathlib.Data.List.Range

set_option autoImplicit false

namespace Konclave

open List

section

variable {α ι : Type} (number : α → ℕ) (name : α → ι) (back : α → Option ι)

/-- The records continue the number `after` and the name `previous`. -/
def Linked : ℕ → Option ι → List α → Prop
  | _, _, [] => True
  | after, previous, x :: l =>
    number x = after + 1 ∧ back x = previous ∧ Linked (after + 1) (some (name x)) l

/-- The name of the last record, or the one the log continues. -/
def last_name : Option ι → List α → Option ι
  | previous, [] => previous
  | _, x :: l => last_name (some (name x)) l

theorem last_name_append (previous : Option ι) (l l' : List α) :
    last_name name previous (l ++ l') = last_name name (last_name name previous l) l' := by
  induction l generalizing previous with
  | nil => rfl
  | cons x l ih => exact ih (some (name x))

theorem last_name_concat (previous : Option ι) (l : List α) (x : α) :
    last_name name previous (l ++ [x]) = some (name x) := by
  rw [last_name_append]
  rfl

variable {number name back} {after : ℕ} {previous : Option ι} {l l' : List α}

/-- A log in two parts: the second continues the first. -/
theorem linked_append : Linked number name back after previous (l ++ l')
    ↔ Linked number name back after previous l
      ∧ Linked number name back (after + l.length) (last_name name previous l) l' := by
  induction l generalizing after previous with
  | nil => simp [Linked, last_name]
  | cons x l ih =>
    simp only [cons_append, Linked, ih, last_name, length_cons, and_assoc]
    rw [Nat.add_assoc, Nat.add_comm 1]

section

variable (h : Linked number name back after previous l)
include h

/-- The numbers of a log have no gap. -/
theorem linked_numbers : l.map number = range' (after + 1) l.length := by
  induction l generalizing after previous with
  | nil => rfl
  | cons x l ih =>
    obtain ⟨hnumber, -, hrest⟩ := h
    rw [map_cons, hnumber, ih hrest, length_cons, range'_succ]

theorem linked_sorted : l.Pairwise (fun x y => number x < number y) := by
  rw [← pairwise_map, linked_numbers h]
  exact pairwise_lt_range'

theorem lt_of_linked {x : α} (hx : x ∈ l) : after < number x ∧ number x ≤ after + l.length := by
  have hmem : number x ∈ range' (after + 1) l.length := by
    rw [← linked_numbers h]
    exact mem_map_of_mem hx
  rw [mem_range'_1] at hmem
  omega

/-- A record names the one before it, or what the log continues. -/
theorem back_of_linked {x : α} (hx : x ∈ l) : (number x = after + 1 ∧ back x = previous)
    ∨ ∃ y ∈ l, number y + 1 = number x ∧ back x = some (name y) := by
  induction l generalizing after previous with
  | nil => cases hx
  | cons y l ih =>
    obtain ⟨hnumber, hback, hrest⟩ := h
    rcases mem_cons.1 hx with rfl | hlater
    · exact .inl ⟨hnumber, hback⟩
    · rcases ih hrest hlater with ⟨hfirst, hprev⟩ | ⟨z, hz, hbefore⟩
      · exact .inr ⟨y, mem_cons_self, by omega, hprev⟩
      · exact .inr ⟨z, mem_cons_of_mem _ hz, hbefore⟩

end

theorem last_name_eq_getLast? : last_name name previous l = (l.getLast?.map name).or previous := by
  induction l using reverseRecOn with
  | nil => rfl
  | append_singleton l x => rw [last_name_concat, getLast?_concat, Option.map_some, Option.some_or]

/-- A log among the records of another that starts where it does is the front of it. -/
theorem take_of_linked (h : Linked number name back after previous l)
    (h' : Linked number name back after previous l') (hmem : ∀ x ∈ l', x ∈ l) :
    l' = l.take l'.length := by
  induction l' generalizing after previous l with
  | nil => rfl
  | cons x l' ih =>
    obtain ⟨hx, -, hrest'⟩ := h'
    have hin := hmem x mem_cons_self
    cases l with
    | nil => cases hin
    | cons y l =>
      obtain ⟨hy, -, hrest⟩ := h
      -- only the first record has the first number
      have hxy : x = y := by
        rcases mem_cons.1 hin with heq | hlater
        · exact heq
        · have hlt := (lt_of_linked hrest hlater).1
          omega
      subst hxy
      have hin' : ∀ z ∈ l', z ∈ l := by
        intro z hz
        have hlt := (lt_of_linked hrest' hz).1
        rcases mem_cons.1 (hmem z (mem_cons_of_mem _ hz)) with rfl | hlater
        · omega
        · exact hlater
      rw [length_cons, take_succ_cons, ← ih hrest hrest' hin']

end

/-- Removing the front of a list by value removes the front. -/
theorem filter_notMem_take {α β : Type} [DecidableEq β] (f : α → β) {l : List α}
    (h : (l.map f).Nodup) (n : ℕ) : l.filter (fun x => f x ∉ (l.map f).take n) = l.drop n := by
  induction l generalizing n with
  | nil => simp
  | cons x l ih =>
    cases n with
    | zero => simp
    | succ n =>
      rw [map_cons, nodup_cons] at h
      have hrest : ∀ y ∈ l, decide (f y ∉ f x :: (l.map f).take n)
          = decide (f y ∉ (l.map f).take n) := by
        intro y hy
        have hne : f y ≠ f x := fun heq => h.1 (heq ▸ mem_map_of_mem hy)
        simp [hne]
      rw [map_cons, take_succ_cons, drop_succ_cons, ← ih h.2 n,
        filter_cons_of_neg (by simp), filter_congr hrest]

end Konclave
