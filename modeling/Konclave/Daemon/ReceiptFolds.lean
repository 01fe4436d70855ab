/-
The outcomes that delivery receipts report for one request.

Outcomes are folded in the order they are observed. The fold fails when the request would
end in two ways, and it depends on the order only through an expiry that meets an admission:
first, it settles the outcome and the admission is late; second, it is refused.
-/
import Konclave.Domain.Application
import Konclave.Checked
import Mathlib.Data.List.Perm.Basic

set_option autoImplicit false

namespace Konclave.Daemon.Replay

open Domain List

/-! ## Folding outcomes

The fold is described by the outcomes as a set, except for the pair whose order matters. -/

/-- Folds outcomes in the order they are observed. -/
def observe_all (current : Option RequestDeliveryOutcome) (outcomes : List RequestDeliveryOutcome) :
    Except RequestDeliveryError (Option RequestDeliveryOutcome) :=
  outcomes.foldlM (fun current observed => some <$> observe_request_delivery current observed)
    current

/-- No two outcomes end the request in different ways. -/
def Agree (outcomes : List RequestDeliveryOutcome) : Prop :=
  ∀ x ∈ outcomes, ∀ y ∈ outcomes, x ≠ .Admitted → y ≠ .Admitted → x = y

/-- An admission meets an expiry. -/
def Mixed (outcomes : List RequestDeliveryOutcome) : Prop :=
  .Admitted ∈ outcomes ∧ .ExpiredBeforeAdmission ∈ outcomes

variable {current next : Option RequestDeliveryOutcome} {outcome settled : RequestDeliveryOutcome}
  {outcomes outcomes' : List RequestDeliveryOutcome}

theorem Agree.subset (h : Agree outcomes) (hsub : outcomes' ⊆ outcomes) : Agree outcomes' :=
  fun x hx y hy => h x (hsub hx) y (hsub hy)

theorem Mixed.subset (h : Mixed outcomes) (hsub : outcomes ⊆ outcomes') : Mixed outcomes' :=
  ⟨hsub h.1, hsub h.2⟩

theorem observe_all_cons : observe_all current (outcome :: outcomes)
    = observe_request_delivery current outcome >>= fun settled =>
    observe_all (some settled) outcomes := by
  rw [observe_all, foldlM_cons]
  cases observe_request_delivery current outcome <;> rfl

theorem observe_all_append : observe_all current (outcomes ++ outcomes')
    = observe_all current outcomes >>= fun next => observe_all next outcomes' := by
  rw [observe_all, foldlM_append]
  rfl

/-- The settled outcome was observed, and every other observed outcome is an admission. -/
theorem observe_request_delivery_eq_ok
    (h : observe_request_delivery current outcome = .ok settled) :
    settled ∈ current.toList ++ [outcome]
    ∧ ∀ x ∈ current.toList ++ [outcome], x ≠ .Admitted → x = settled := by
  cases current with
  | none =>
    cases h
    simp
  | some existing => cases existing <;> cases outcome <;> cases h <;> simp

/-- What a fold goes on with was observed. -/
theorem settled_subset (h : observe_request_delivery current outcome = .ok settled) :
    settled :: outcomes ⊆ current.toList ++ outcome :: outcomes := by
  have hmem := (observe_request_delivery_eq_ok h).1
  intro x hx
  rcases mem_cons.1 hx with rfl | hx
  · rcases mem_append.1 hmem with hmem | hmem
    · exact mem_append_left _ hmem
    · exact mem_append_right _ (mem_singleton.1 hmem ▸ mem_cons_self)
  · exact mem_append_right _ (mem_cons_of_mem _ hx)

theorem observe_all_agree (h : observe_all current outcomes = .ok next) :
    Agree (current.toList ++ outcomes) := by
  induction outcomes generalizing current with
  | nil =>
    intro x hx y hy _ _
    cases current with
    | none => cases hx
    | some existing => rw [mem_singleton.1 hx, mem_singleton.1 hy]
  | cons outcome outcomes ih =>
    rw [observe_all_cons] at h
    obtain ⟨settled, hsettled, h⟩ := bind_ok.1 h
    have hagree : Agree (settled :: outcomes) := ih h
    -- an outcome that is no admission is the settled one or still to come
    have hcover : ∀ x ∈ current.toList ++ outcome :: outcomes, x ≠ .Admitted →
        x ∈ settled :: outcomes := by
      intro x hx hne
      rw [← singleton_append, ← append_assoc] at hx
      rcases mem_append.1 hx with hx | hx
      · rw [(observe_request_delivery_eq_ok hsettled).2 x hx hne]
        exact mem_cons_self
      · exact mem_cons_of_mem _ hx
    exact fun x hx y hy hxne hyne =>
      hagree x (hcover x hx hxne) y (hcover y hy hyne) hxne hyne

theorem observe_all_error {error : RequestDeliveryError}
    (h : observe_all current outcomes = .error error) : error = .ConflictingOutcome := by
  induction outcomes generalizing current with
  | nil => cases h
  | cons outcome outcomes ih =>
    rw [observe_all_cons] at h
    cases hobs : observe_request_delivery current outcome with
    | ok settled =>
      rw [hobs] at h
      exact ih h
    | error error' =>
      rw [hobs] at h
      cases h
      cases current with
      | none => cases hobs
      | some existing => cases existing <;> cases outcome <;> cases hobs <;> rfl

/-- Two outcomes may change places, unless one is an admission and one an expiry. -/
theorem observe_request_delivery_comm {x y : RequestDeliveryOutcome}
    (hmixed : ¬ Mixed (current.toList ++ [x, y])) :
    (observe_request_delivery current x >>= fun settled =>
      observe_request_delivery (some settled) y)
    = (observe_request_delivery current y >>= fun settled =>
      observe_request_delivery (some settled) x) := by
  cases current with
  | none =>
    cases x <;> cases y <;> first | rfl | exact absurd ⟨by simp, by simp⟩ hmixed
  | some existing => cases existing <;> cases x <;> cases y <;> rfl

theorem observe_all_perm (h : outcomes.Perm outcomes') :
    ∀ current : Option RequestDeliveryOutcome, ¬ Mixed (current.toList ++ outcomes) →
    observe_all current outcomes = observe_all current outcomes' := by
  induction h with
  | nil => exact fun _ _ => rfl
  | cons outcome hperm ih =>
    intro current hmixed
    rw [observe_all_cons, observe_all_cons]
    cases hsettled : observe_request_delivery current outcome with
    | error error => rfl
    | ok settled => exact ih (some settled) fun h => hmixed (h.subset (settled_subset hsettled))
  | swap x y outcomes =>
    intro current hmixed
    have happart : ¬ Mixed (current.toList ++ [x, y]) := by
      refine fun h => hmixed (h.subset (append_subset.2 ⟨subset_append_left _ _, ?_⟩))
      intro z hz
      simp only [mem_cons, not_mem_nil, or_false] at hz
      rcases hz with rfl | rfl <;> simp
    simp only [observe_all_cons, ← bind_assoc]
    rw [observe_request_delivery_comm happart]
  | trans hperm _ ih ih' =>
    intro current hmixed
    rw [ih current hmixed]
    refine ih' current fun h => hmixed (h.subset ?_)
    exact (List.Perm.append_left _ hperm).symm.subset

/-- An expiry stays, whatever admissions follow. -/
theorem observe_all_expired (h : ∀ x ∈ outcomes, x = .Admitted ∨ x = .ExpiredBeforeAdmission) :
    observe_all (some .ExpiredBeforeAdmission) outcomes = .ok (some .ExpiredBeforeAdmission) := by
  induction outcomes with
  | nil => rfl
  | cons outcome outcomes ih =>
    rw [observe_all_cons]
    rcases h outcome mem_cons_self with rfl | rfl
    · exact ih fun x hx => h x (mem_cons_of_mem _ hx)
    · exact ih fun x hx => h x (mem_cons_of_mem _ hx)

/-- Outcomes that end the request in one way are folded, unless an admission meets an expiry. -/
theorem observe_all_ok (hagree : Agree (current.toList ++ outcomes))
    (hmixed : ¬ Mixed (current.toList ++ outcomes)) :
    ∃ next, observe_all current outcomes = .ok next := by
  induction outcomes generalizing current with
  | nil => exact ⟨current, rfl⟩
  | cons outcome outcomes ih =>
    obtain ⟨settled, hsettled⟩ : ∃ settled, observe_request_delivery current outcome
        = .ok settled := by
      cases current with
      | none => exact ⟨_, rfl⟩
      | some existing =>
        have hsame := hagree existing (by simp) outcome (by simp)
        cases existing <;> cases outcome <;> first
          | exact ⟨_, rfl⟩
          | nomatch hsame (by decide) (by decide)
          | exact absurd ⟨by simp, by simp⟩ hmixed
    have hsub := @settled_subset _ _ _ outcomes hsettled
    rw [observe_all_cons, hsettled, ok_bind]
    exact ih (hagree.subset hsub) fun h => hmixed (h.subset hsub)

/-- All that was observed are admissions and expiries, both. -/
def Contested (outcomes : List RequestDeliveryOutcome) : Prop :=
  Mixed outcomes ∧ .Responded ∉ outcomes ∧ .EndedWithoutResponse ∉ outcomes

/-- The fold of some outcomes does not depend on their order, unless they are contested. -/
theorem observe_all_perm_iff (outcomes : List RequestDeliveryOutcome) :
    (∀ outcomes', outcomes.Perm outcomes' → observe_all none outcomes' = observe_all none outcomes)
    ↔ ¬ Contested outcomes := by
  constructor
  · rintro horder ⟨⟨hadmitted, hexpired⟩, hresponded, hended⟩
    have hadmitted' := (mem_erase_of_ne (b := RequestDeliveryOutcome.ExpiredBeforeAdmission)
      (by decide)).2 hadmitted
    -- the two folds that begin with the two outcomes
    have hperm := (perm_cons_erase hexpired).trans ((perm_cons_erase hadmitted').cons _)
    have hlate := horder _ hperm
    rw [← horder _ (hperm.trans (List.Perm.swap _ _ _)), observe_all_cons,
      observe_all_cons] at hlate
    refine absurd (hlate.symm.trans (observe_all_expired fun x hx => ?_)) (by nofun)
    have hx := hperm.symm.subset (mem_cons_of_mem _ hx)
    cases x with
    | Admitted => exact .inl rfl
    | Responded => exact absurd hx hresponded
    | ExpiredBeforeAdmission => exact .inr rfl
    | EndedWithoutResponse => exact absurd hx hended
  · intro hapart outcomes' hperm
    by_cases hmixed : Mixed outcomes
    · -- a second way to end makes every order fail, and every failure is the same
      have hfails : ∀ l : List RequestDeliveryOutcome, outcomes.Perm l →
          observe_all none l = .error .ConflictingOutcome := by
        intro l hl
        cases h : observe_all none l with
        | error error => rw [observe_all_error h]
        | ok next =>
          have hagree := (observe_all_agree h).subset hl.subset
          refine absurd ⟨hmixed, fun hresponded => ?_, fun hended => ?_⟩ hapart
          · cases hagree _ hresponded _ hmixed.2 (by decide) (by decide)
          · cases hagree _ hended _ hmixed.2 (by decide) (by decide)
      rw [hfails outcomes (.refl _), hfails outcomes' hperm]
    · exact (observe_all_perm hperm none hmixed).symm

end Konclave.Daemon.Replay
