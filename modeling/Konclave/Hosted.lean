/-
Programs over a store and the components around it.

A service reads and writes a store of its own and calls components it was given. A call may
fail, and what was written before it stays written. `Keeps` says that a program keeps an
invariant of its store, wherever it stops and whatever the components answer; `Agrees` that
two programs cannot be told apart from the stores of interest.
-/
import Konclave.Checked

set_option autoImplicit false

namespace Konclave

/-- A program over a store `σ` and components `ω` that may fail with `ε`. -/
abbrev Hosted (ε σ ω α : Type) : Type := ExceptT ε (StateM (σ × ω)) α

namespace Hosted

variable {ε ε' σ ω α β : Type}

/-- What a program returns, with the store and the components it leaves. -/
def exec (m : Hosted ε σ ω α) (s : σ) (w : ω) : Except ε α × σ × ω := m.run.run (s, w)

/-! ## Steps

A step reads or writes the store, calls a component, or checks. -/

def store (f : σ → Except ε α × σ) : Hosted ε σ ω α :=
  ExceptT.mk fun (s, w) => ((f s).1, (f s).2, w)

/-- The `?` on a result of the program's own checks. -/
def of (x : Except ε α) : Hosted ε σ ω α := ExceptT.mk fun state => (x, state)

/-- The `?` that converts an error. -/
def lift (wrap : ε' → ε) (x : Except ε' α) : Hosted ε σ ω α := of (x.mapError wrap)

/-- A call of a component, whose errors are converted. -/
def ask (wrap : ε' → ε) (f : ω → Except ε' α × ω) : Hosted ε σ ω α :=
  ExceptT.mk fun (s, w) => ((f w).1.mapError wrap, s, (f w).2)

def check (p : Prop) [Decidable p] (e : ε) : Hosted ε σ ω Unit := of (require p e)

def value_or (x : Option α) (e : ε) : Hosted ε σ ω α := of (some_or x e)

theorem mapError_eq_ok {x : Except ε' α} {wrap : ε' → ε} {a : α} :
    x.mapError wrap = .ok a ↔ x = .ok a := by
  cases x <;> simp [Except.mapError]

section

variable (s : σ) (w : ω)

@[simp] theorem exec_pure (a : α) : (pure a : Hosted ε σ ω α).exec s w = (.ok a, s, w) := rfl

@[simp] theorem exec_of (x : Except ε α) : (of x : Hosted ε σ ω α).exec s w = (x, s, w) := rfl

@[simp] theorem exec_store (f : σ → Except ε α × σ) :
    (store f : Hosted ε σ ω α).exec s w = ((f s).1, (f s).2, w) := rfl

@[simp] theorem exec_ask (wrap : ε' → ε) (f : ω → Except ε' α × ω) :
    (ask wrap f : Hosted ε σ ω α).exec s w = ((f w).1.mapError wrap, s, (f w).2) := rfl

theorem exec_bind (m : Hosted ε σ ω α) (f : α → Hosted ε σ ω β) :
    (m >>= f).exec s w = match m.exec s w with
      | (.ok a, s', w') => (f a).exec s' w'
      | (.error e, s', w') => (.error e, s', w') := by
  simp only [exec, bind, ExceptT.bind, ExceptT.mk, ExceptT.run, StateT.run, StateT.bind]
  cases hm : (m : StateM (σ × ω) (Except ε α)) (s, w) with
  | mk x state => cases x <;> rfl

end

/-- The program calls no component. -/
def Silent (m : Hosted ε σ ω α) : Prop := ∀ s w, (m.exec s w).2.2 = w

theorem Silent.bind {m : Hosted ε σ ω α} {f : α → Hosted ε σ ω β} (hm : Silent m)
    (hf : ∀ a, Silent (f a)) : Silent (m >>= f) := by
  intro s w
  have hw := hm s w
  rw [exec_bind]
  split <;> rename_i hrun <;> rw [hrun] at hw
  · exact (hf _ _ _).trans hw
  · exact hw

theorem Silent.store (f : σ → Except ε α × σ) :
    Silent (Hosted.store f : Hosted ε σ ω α) := fun _ _ => rfl

theorem Silent.of (x : Except ε α) : Silent (Hosted.of x : Hosted ε σ ω α) := fun _ _ => rfl

/-! ## Invariants of the store

A program keeps `I` if it holds where the program stops, with a value or with an error. -/

/-- From a store with `I` and `P`, the program leaves one with `I`, and one with `Q` of its
value if it returns one. -/
def Keeps (I P : σ → Prop) (m : Hosted ε σ ω α) (Q : α → σ → Prop) : Prop :=
  ∀ s w, I s → P s → I (m.exec s w).2.1 ∧ ∀ a, (m.exec s w).1 = .ok a → Q a (m.exec s w).2.1

/-- Nothing is asked of a store beside the invariant. -/
def Any (_ : σ) : Prop := True

section

variable {I P P' : σ → Prop} {m : Hosted ε σ ω α} {f : α → Hosted ε σ ω β}
  {R : α → σ → Prop} {Q : β → σ → Prop}

theorem Keeps.pure {Q : α → σ → Prop} {a : α} (h : ∀ s, P s → Q a s) :
    Keeps I P (Pure.pure a : Hosted ε σ ω α) Q := by
  intro s w hI hP
  refine ⟨hI, fun b hb => ?_⟩
  cases hb
  exact h s hP

theorem Keeps.of_error {Q : α → σ → Prop} {e : ε} :
    Keeps I P (of (.error e) : Hosted ε σ ω α) Q := by
  intro s w hI hP
  exact ⟨hI, fun b hb => nomatch hb⟩

theorem Keeps.store {Q : α → σ → Prop} {g : σ → Except ε α × σ}
    (h : ∀ s, I s → P s → I (g s).2 ∧ ∀ a, (g s).1 = .ok a → Q a (g s).2) :
    Keeps I P (Hosted.store g : Hosted ε σ ω α) Q := fun s _ hI hP => h s hI hP

/-- What is known of every store of interest can be used. -/
theorem Keeps.of_pre {p : Prop} (hp : ∀ s, P s → p) (h : p → Keeps I P m R) : Keeps I P m R := by
  intro s w hI hP
  exact h (hp s hP) s w hI hP

/-- A chain keeps what its links keep. -/
theorem Keeps.bind (hm : Keeps I P m R) (hf : ∀ a, Keeps I (R a) (f a) Q) :
    Keeps I P (m >>= f) Q := by
  intro s w hI hP
  obtain ⟨hI', hR⟩ := hm s w hI hP
  rw [exec_bind]
  split
  · rename_i a s' w' hrun
    rw [hrun] at hI' hR
    exact hf a s' w' hI' (hR a rfl)
  · rename_i e s' w' hrun
    rw [hrun] at hI'
    exact ⟨hI', fun b hb => nomatch hb⟩

theorem Keeps.of_bind {x : Except ε α} (h : ∀ a, x = .ok a → Keeps I P (f a) Q) :
    Keeps I P (of x >>= f) Q := by
  cases x with
  | ok a => exact h a rfl
  | error e => exact Keeps.bind (Keeps.of_error (Q := fun _ _ => False)) fun _ _ _ _ h => h.elim

theorem Keeps.lift_bind {x : Except ε' α} {wrap : ε' → ε}
    (h : ∀ a, x = .ok a → Keeps I P (f a) Q) : Keeps I P (lift wrap x >>= f) Q :=
  Keeps.of_bind fun a ha => h a (mapError_eq_ok.1 ha)

theorem Keeps.check_bind {p : Prop} [Decidable p] {e : ε} {f : Unit → Hosted ε σ ω β}
    (h : p → Keeps I P (f ()) Q) : Keeps I P (check p e >>= f) Q :=
  Keeps.of_bind fun _ ha => h (require_eq_ok.1 ha)

theorem Keeps.value_or_bind {x : Option α} {e : ε} (h : ∀ a, x = some a → Keeps I P (f a) Q) :
    Keeps I P (value_or x e >>= f) Q :=
  Keeps.of_bind fun a ha => h a (some_or_eq_ok.1 ha)

theorem Keeps.lift {Q : α → σ → Prop} {x : Except ε' α} {wrap : ε' → ε}
    (h : ∀ a, x = .ok a → ∀ s, P s → Q a s) :
    Keeps I P (Hosted.lift wrap x : Hosted ε σ ω α) Q := by
  intro s w hI hP
  refine ⟨hI, fun a ha => ?_⟩
  exact h a (mapError_eq_ok.1 ha) s hP

theorem Keeps.check {p : Prop} [Decidable p] {e : ε} :
    Keeps I P (Hosted.check p e : Hosted ε σ ω Unit) fun _ => Any := by
  intro s w hI hP
  exact ⟨hI, fun _ _ => trivial⟩

theorem Keeps.ask {wrap : ε' → ε} {g : ω → Except ε' α × ω} :
    Keeps I P (Hosted.ask wrap g : Hosted ε σ ω α) fun _ => Any := by
  intro s w hI hP
  exact ⟨hI, fun _ _ => trivial⟩

/-- The store is what it was before a call; the answer is one the component gives. -/
theorem Keeps.ask_bind {wrap : ε' → ε} {g : ω → Except ε' α × ω}
    (h : ∀ a w, (g w).1 = .ok a → Keeps I P (f a) Q) : Keeps I P (Hosted.ask wrap g >>= f) Q := by
  intro s w hI hP
  rw [exec_bind, exec_ask]
  cases hg : (g w).1 with
  | ok a => exact h a w hg s (g w).2 hI hP
  | error e => exact ⟨hI, fun b hb => nomatch hb⟩

theorem Keeps.ite {c : Prop} [Decidable c] {m' : Hosted ε σ ω α} (h : c → Keeps I P m R)
    (h' : ¬ c → Keeps I P m' R) : Keeps I P (if c then m else m') R := by
  by_cases hc : c
  · rw [if_pos hc]
    exact h hc
  · rw [if_neg hc]
    exact h' hc

theorem Keeps.weaken (h : Keeps I P m R) (hP : ∀ s, P' s → P s) : Keeps I P' m R := by
  intro s w hI hP'
  exact h s w hI (hP s hP')

theorem Keeps.post {R' : α → σ → Prop} (h : Keeps I P m R) (hR : ∀ a s, R a s → R' a s) :
    Keeps I P m R' := by
  intro s w hI hP
  obtain ⟨hI', hpost⟩ := h s w hI hP
  exact ⟨hI', fun a ha => hR a _ (hpost a ha)⟩

/-- A program that asks for nothing but the invariant can come anywhere. -/
theorem Keeps.of_any (h : Keeps I Any m R) : Keeps I P m R := h.weaken fun _ _ => trivial

theorem Keeps.forM {l : List α} {f : α → Hosted ε σ ω Unit}
    (h : ∀ a ∈ l, Keeps I Any (f a) fun _ => Any) : Keeps I Any (l.forM f) fun _ => Any := by
  induction l with
  | nil => exact Keeps.pure fun _ _ => trivial
  | cons a rest ih =>
    change Keeps I Any (f a >>= fun _ => rest.forM f) _
    refine (h a List.mem_cons_self).bind fun _ => Keeps.of_any (ih ?_)
    intro b hb
    exact h b (List.mem_cons_of_mem _ hb)

end

/-! ## Programs that agree -/

/-- From a store with `P` the programs do the same. -/
def Agrees (P : σ → Prop) (m m' : Hosted ε σ ω α) : Prop := ∀ s w, P s → m.exec s w = m'.exec s w

section

variable {P : σ → Prop} {m m' : Hosted ε σ ω α} {f f' : α → Hosted ε σ ω β}

theorem Agrees.refl (m : Hosted ε σ ω α) : Agrees P m m := fun _ _ _ => rfl

theorem Agrees.weaken {P' : σ → Prop} (h : Agrees P m m') (hP : ∀ s, P' s → P s) :
    Agrees P' m m' := fun s w hs => h s w (hP s hs)

/-- Programs that agree up to a store where `P` holds again go on agreeing from it. -/
theorem Agrees.bind {R : α → σ → Prop} (hm : Agrees P m m') (hkeeps : Keeps P Any m R)
    (hf : ∀ a, Agrees (fun s => P s ∧ R a s) (f a) (f' a)) : Agrees P (m >>= f) (m' >>= f') := by
  intro s w hP
  obtain ⟨hkept, hvalue⟩ := hkeeps s w hP trivial
  rw [exec_bind, exec_bind, ← hm s w hP]
  split
  · rename_i a s' w' hrun
    rw [hrun] at hkept hvalue
    exact hf a s' w' ⟨hkept, hvalue a rfl⟩
  · rfl

theorem Agrees.of_bind {x : Except ε α} (h : ∀ a, x = .ok a → Agrees P (f a) (f' a)) :
    Agrees P (of x >>= f) (of x >>= f') := by
  cases x with
  | ok a => exact h a rfl
  | error e => exact fun _ _ _ => rfl

theorem Agrees.ite {c : Prop} [Decidable c] {n n' : Hosted ε σ ω α} (h : Agrees P m m')
    (h' : Agrees P n n') : Agrees P (if c then m else n) (if c then m' else n') := by
  by_cases hc : c
  · rw [if_pos hc, if_pos hc]
    exact h
  · rw [if_neg hc, if_neg hc]
    exact h'

end

end Hosted

end Konclave
