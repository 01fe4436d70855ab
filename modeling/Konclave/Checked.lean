/-
Computations that stop at their first error.

A checked function of the models is a chain of `Except` binds. These are the rules by
which a proof takes such a chain apart: what a successful chain says about each link, and
what a traversal says about each element.
-/
import Mathlib.Algebra.Order.Ring.Int
import Mathlib.Data.List.Forall2

set_option autoImplicit false

namespace Konclave

open List

variable {ε α β : Type}

variable {f : α → Except ε β} {b : β} {p : Prop} {e : ε} {a : α} {σ : Type} {l : List α}
  {l' : List β}

/-- A chain succeeds when its first link does and the rest does on its value. -/
theorem bind_ok {x : Except ε α} : (x >>= f) = .ok b ↔ ∃ a, x = .ok a ∧ f a = .ok b := by
  cases x with
  | error e | ok a => simp [bind, Except.bind]

@[simp] theorem ok_bind (a : α) (f : α → Except ε β) : (Except.ok a >>= f) = f a := rfl

@[simp] theorem error_bind (e : ε) (f : α → Except ε β) :
    ((Except.error e : Except ε α) >>= f) = .error e := rfl

theorem map_eq_ok {x : Except ε α} {f : α → β} : x.map f = .ok b ↔ ∃ a, x = .ok a ∧ f a = b := by
  cases x with
  | error e | ok a => simp [Except.map]

/-- A conditional check that succeeded took its successful branch. -/
theorem ite_ok [Decidable p] {x : Except ε α} :
    (if p then .error e else x) = .ok a ↔ ¬ p ∧ x = .ok a := by
  split <;> simp_all

/-- A construction that succeeded has the proof of its condition. -/
theorem dite_ok [Decidable p] {x : p → Except ε α} :
    (if h : p then x h else .error e) = .ok a ↔ ∃ h, x h = .ok a := by
  by_cases h : p <;> simp [h]

/-! ## Checks

A check that fails ends the computation with its error; the rewrite rules peel one check off. -/

/-- Fails with `e` unless `p` holds. -/
def require (p : Prop) [Decidable p] (e : ε) : Except ε Unit := if p then .ok () else .error e

/-- The value of an optional, or the error of its absence. -/
def some_or (x : Option α) (e : ε) : Except ε α := x.elim (.error e) .ok

theorem require_eq_ok [Decidable p] {u : Unit} : require p e = .ok u ↔ p := by
  rw [require]
  by_cases h : p <;> simp [h]

theorem require_ok [Decidable p] {f : Unit → Except ε β} :
    (require p e >>= f) = .ok b ↔ p ∧ f () = .ok b := by
  rw [bind_ok]
  constructor
  · rintro ⟨_, hp, h⟩
    exact ⟨require_eq_ok.1 hp, h⟩
  · rintro ⟨hp, h⟩
    exact ⟨(), require_eq_ok.2 hp, h⟩

theorem require_bind [Decidable p] {f : Unit → Except ε β} (h : p) :
    (require p e >>= f) = f () := by
  rw [require, if_pos h, ok_bind]

theorem require_bind_of_not [Decidable p] {f : Unit → Except ε β} (h : ¬ p) :
    (require p e >>= f) = .error e := by
  rw [require, if_neg h, error_bind]

theorem some_or_eq_ok {x : Option α} : some_or x e = .ok a ↔ x = some a := by
  cases x <;> simp [some_or]

theorem some_or_ok {x : Option α} :
    (some_or x e >>= f) = .ok b ↔ ∃ a, x = some a ∧ f a = .ok b := by
  simp only [bind_ok, some_or_eq_ok]

theorem some_or_bind {x : Option α} (h : x = some a) : (some_or x e >>= f) = f a := by
  rw [h]
  rfl

/-! ## Transactions

A transaction that fails leaves the state it started from. -/

/-- Commits a transaction, or rolls it back: an error leaves the state as it was. -/
def transaction {σ : Type} (state : σ) (body : Except ε (α × σ)) : Except ε α × σ :=
  match body with
  | .ok (value, state') => (.ok value, state')
  | .error e => (.error e, state)

variable {body : Except ε (α × σ)} {state : σ} {R : α → β → Prop} {Q : β → Prop}

/-- A transaction that succeeded committed what its body computed. -/
theorem transaction_ok {state' : σ} (h : transaction state body = (.ok a, state')) :
    body = .ok (a, state') := by
  cases body with
  | ok result =>
    cases h
    rfl
  | error e => cases h

/-- A transaction fails and leaves the state, or commits what its body returned. -/
theorem transaction_result : (∃ e, transaction state body = (.error e, state))
    ∨ ∃ a state', body = .ok (a, state') ∧ transaction state body = (.ok a, state') := by
  cases body with
  | error e => exact .inl ⟨e, rfl⟩
  | ok result => exact .inr ⟨result.1, result.2, rfl, rfl⟩

theorem isOk_iff {x : Except ε α} : x.isOk = true ↔ ∃ value, x = .ok value := by
  cases x <;> simp [Except.isOk, Except.toBool]

/-- A transaction succeeds when its body does. -/
theorem transaction_isOk :
    (∃ a, (transaction state body).1 = .ok a) ↔ ∃ result, body = .ok result := by
  cases body with
  | ok result => exact ⟨fun _ => ⟨result, rfl⟩, fun _ => ⟨result.1, rfl⟩⟩
  | error e => exact ⟨fun ⟨_, h⟩ => (nomatch h), fun ⟨_, h⟩ => (nomatch h)⟩

/-- What holds of the state and of what its body returns holds after a transaction. -/
theorem transaction_keeps {p : σ → Prop} (hstate : p state)
    (hbody : ∀ a state', body = .ok (a, state') → p state') : p (transaction state body).2 := by
  rcases transaction_result with ⟨_, hfailed⟩ | ⟨a, later, hok, hcommitted⟩
  · rw [hfailed]
    exact hstate
  · rw [hcommitted]
    exact hbody a later hok

theorem transaction_eq_error {state' : σ} (h : transaction state body = (.error e, state')) :
    state' = state := by
  cases body with
  | ok result => cases h
  | error e =>
    cases h
    rfl

/-! ## Errors that do not occur

`Avoids` is a postcondition of successful runs together with the absence of some errors, with a
rule for each way to put computations together. -/

/-- The computation does not fail with `bad`, and what it returns satisfies `P`. -/
def Avoids (bad : ε) (x : Except ε α) (P : α → Prop) : Prop :=
  match x with
  | .ok a => P a
  | .error e => e ≠ bad

namespace Avoids

variable {bad : ε} {x : Except ε α} {P : α → Prop}

theorem ne_error (h : Avoids bad x P) : x ≠ .error bad := by
  rintro rfl
  exact h rfl

theorem of_ok (h : Avoids bad x P) (hx : x = .ok a) : P a := by
  rw [hx] at h
  exact h

theorem ok (h : P a) : Avoids bad (.ok a) P := h

theorem error (h : e ≠ bad) : Avoids bad (.error e : Except ε α) P := h

theorem mono {Q : α → Prop} (h : Avoids bad x P) (himp : ∀ a, P a → Q a) : Avoids bad x Q := by
  cases x with
  | ok a => exact himp a h
  | error e => exact h

/-- A chain avoids what its links avoid, each on what the ones before it return. -/
theorem bind (h : Avoids bad x P) (hrest : ∀ a, P a → Avoids bad (f a) Q) :
    Avoids bad (x >>= f) Q := by
  cases x with
  | ok a => exact hrest a h
  | error e => exact h

/-- What a computation returns is what it returned. -/
theorem and_eq (h : Avoids bad x P) : Avoids bad x fun a => x = .ok a ∧ P a := by
  cases x with
  | ok a => exact ⟨rfl, h⟩
  | error e => exact h

theorem map {f : α → β} (h : Avoids bad x fun a => Q (f a)) : Avoids bad (x.map f) Q := by
  cases x with
  | ok a => exact h
  | error e => exact h

/-- A check fails with `bad` only if its condition can fail. -/
theorem require [Decidable p] (h : e = bad → p) : Avoids bad (Konclave.require p e) fun _ => p := by
  rw [Konclave.require]
  split
  · assumption
  · rename_i hp
    exact fun he => hp (h he)

theorem some_or {o : Option α} (h : e = bad → ∃ a, o = some a) :
    Avoids bad (Konclave.some_or o e) fun a => o = some a := by
  cases o with
  | some a => exact rfl
  | none =>
    intro he
    obtain ⟨_, ha⟩ := h he
    cases ha

theorem mapM (h : ∀ a ∈ l, Avoids bad (f a) fun _ => True) :
    Avoids bad (l.mapM f) fun _ => True := by
  induction l with
  | nil => exact trivial
  | cons a l ih =>
    rw [mapM_cons]
    refine (h a mem_cons_self).bind fun _ _ => ?_
    exact (ih fun x hx => h x (mem_cons_of_mem _ hx)).bind fun _ _ => trivial

end Avoids

/-! ## Traversals

What a successful `mapM`, `forM` or `foldlM` says of each element. -/

theorem exists_right_of_forall₂ (h : List.Forall₂ R l l') {x : α} (hx : x ∈ l) :
    ∃ y ∈ l', R x y := by
  induction h with
  | nil => cases hx
  | cons hhead _ ih =>
    rcases mem_cons.1 hx with rfl | htail
    · exact ⟨_, mem_cons_self, hhead⟩
    · obtain ⟨y, hy, hrel⟩ := ih htail
      exact ⟨y, mem_cons_of_mem _ hy, hrel⟩

theorem exists_left_of_forall₂ (h : List.Forall₂ R l l') {y : β} (hy : y ∈ l') : ∃ x ∈ l, R x y :=
  exists_right_of_forall₂ h.flip hy

/-- A traversal succeeds when it does at each element. -/
theorem mapM_eq_ok : l.mapM f = .ok l' ↔ List.Forall₂ (fun x y => f x = .ok y) l l' := by
  induction l generalizing l' with
  | nil => cases l' <;> simp [pure, Except.pure]
  | cons x l ih =>
    rw [mapM_cons, bind_ok]
    constructor
    · rintro ⟨y, hy, hrest⟩
      obtain ⟨tail, htail, hcons⟩ := bind_ok.1 hrest
      cases hcons
      exact .cons hy (ih.1 htail)
    · intro h
      cases h with
      | cons hy htail => exact ⟨_, hy, bind_ok.2 ⟨_, ih.2 htail, rfl⟩⟩

/-- A traversal that succeeds everywhere returns what it finds there. -/
theorem mapM_ok {g : α → β} (h : ∀ x ∈ l, f x = .ok (g x)) : l.mapM f = .ok (l.map g) := by
  rw [mapM_eq_ok, forall₂_map_right_iff, forall₂_same]
  exact h

/-- A traversal succeeds when it can succeed at each element. -/
theorem exists_mapM_ok (h : ∀ x ∈ l, ∃ y, f x = .ok y) : ∃ l', l.mapM f = .ok l' := by
  induction l with
  | nil => exact ⟨[], rfl⟩
  | cons x l ih =>
    obtain ⟨y, hy⟩ := h x mem_cons_self
    obtain ⟨l', hl'⟩ := ih fun z hz => h z (mem_cons_of_mem _ hz)
    exact ⟨y :: l', mapM_eq_ok.2 (.cons hy (mapM_eq_ok.1 hl'))⟩

/-- A traversal for its checks succeeds when each element passes. -/
theorem forM_eq_ok {f : α → Except ε Unit} : l.forM f = .ok () ↔ ∀ x ∈ l, f x = .ok () := by
  induction l with
  | nil => simp [pure, Except.pure]
  | cons x l ih =>
    have hcons : (x :: l).forM f = (f x >>= fun _ => l.forM f) := rfl
    rw [hcons, bind_ok, forall_mem_cons, ← ih]
    exact ⟨fun ⟨_, hx, hl⟩ => ⟨hx, hl⟩, fun ⟨hx, hl⟩ => ⟨(), hx, hl⟩⟩

/-- A loop that keeps `p` at every turn keeps it to its end. -/
theorem foldlM_keeps {p : β → Prop} {f : β → α → Except ε β} {b' : β}
    (hstep : ∀ b a b', p b → f b a = .ok b' → p b') (hb : p b) (h : l.foldlM f b = .ok b') :
    p b' := by
  induction l generalizing b with
  | nil =>
    cases h
    exact hb
  | cons a l ih =>
    rw [foldlM_cons] at h
    obtain ⟨next, hnext, hrest⟩ := bind_ok.1 h
    exact ih (hstep b a next hb hnext) hrest

end Konclave
