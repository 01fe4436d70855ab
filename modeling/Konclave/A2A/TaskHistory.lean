/-
`Konclave.A2ATaskStore`: what a valid status history says.

A history the policy accepts is a submission, perhaps the start of work, perhaps one
terminal status, in this order and no more. A transition the policy allows extends the
history of its task to the history of the next generation.
-/
import Konclave.A2A.TaskPolicy
import Konclave.Numbered

set_option autoImplicit false

namespace Konclave.A2A

open Domain List

/-! ## One status after another

The checks on a history look at two neighbours at a time, so a history is valid exactly when
its first entry fits and each other fits the one before. -/

section

variable {created_at index previous_time : ℕ} {previous_state : Option A2ATaskState}
  {statuses : List StoredA2ATaskStatus} {status : StoredA2ATaskStatus}

theorem statusFits_iff : StatusFits created_at index previous_state previous_time status ↔
    status.generation = index ∧ previous_time ≤ status.occurred_at_unix_milliseconds
    ∧ (index = 0 → status.state = .Submitted ∧ status.terminal_reason = none
      ∧ status.occurred_at_unix_milliseconds = created_at)
    ∧ a2a_task_status_reason_is_valid status.state status.terminal_reason = true
    ∧ ∀ previous, previous_state = some previous →
      a2a_task_state_transition_is_allowed previous status.state = true := by
  rw [StatusFits]
  cases previous_state with
  | none | some previous => simp [not_or]

theorem validate_statuses_cons :
    validate_statuses created_at index previous_state previous_time (status :: statuses) = .ok ()
    ↔ StatusFits created_at index previous_state previous_time status
      ∧ validate_statuses created_at (index + 1) (some status.state)
        status.occurred_at_unix_milliseconds statuses = .ok () :=
  require_ok

/-- One more status is checked against the one before it. -/
theorem validate_statuses_concat :
    validate_statuses created_at index previous_state previous_time (statuses ++ [status]) = .ok ()
    ↔ validate_statuses created_at index previous_state previous_time statuses = .ok ()
      ∧ StatusFits created_at (index + statuses.length)
        ((statuses.getLast?.map (·.state)).or previous_state)
        ((statuses.getLast?.map (·.occurred_at_unix_milliseconds)).getD previous_time) status := by
  induction statuses generalizing index previous_state previous_time with
  | nil =>
    rw [nil_append, validate_statuses_cons]
    simp [validate_statuses]
  | cons head statuses ih =>
    rw [cons_append, validate_statuses_cons, validate_statuses_cons, ih, and_assoc,
      length_cons, show index + 1 + statuses.length = index + (statuses.length + 1) by omega]
    -- the status before the new one is the head only if nothing comes after it
    cases h : statuses.getLast? with
    | none => simp [getLast?_eq_none_iff.1 h]
    | some last => simp [getLast?_cons, h]

theorem validate_statuses_numbered
    (h : validate_statuses created_at index previous_state previous_time statuses = .ok ()) :
    Numbered (·.generation) index statuses := by
  induction statuses generalizing index previous_state previous_time with
  | nil => exact Numbered.nil
  | cons status statuses ih =>
    obtain ⟨hfits, hrest⟩ := validate_statuses_cons.1 h
    exact Numbered.cons_iff.2 ⟨(statusFits_iff.1 hfits).1, ih hrest⟩

theorem reason_valid_of_validate_statuses
    (h : validate_statuses created_at index previous_state previous_time statuses = .ok ()) :
    ∀ status ∈ statuses,
    a2a_task_status_reason_is_valid status.state status.terminal_reason = true := by
  induction statuses generalizing index previous_state previous_time with
  | nil => exact fun _ hstatus => nomatch hstatus
  | cons head statuses ih =>
    obtain ⟨hfits, hrest⟩ := validate_statuses_cons.1 h
    intro status hstatus
    rcases mem_cons.1 hstatus with rfl | htail
    · exact (statusFits_iff.1 hfits).2.2.2.1
    · exact ih hrest status htail

end

/-! ## Histories

A valid history is one of four shapes, and the columns of the task repeat its last entry. -/

section

variable {δ : Type} {task : A2ATaskRecord δ} {statuses : List StoredA2ATaskStatus}

variable {state : A2ATaskState} {transition : A2ATaskTransition} {next : A2ATaskState}

/-- The last status of a history is the state of the task. -/
def A2ATaskRecord.EndsIn (task : A2ATaskRecord δ) (last : StoredA2ATaskStatus) : Prop :=
  last.state = task.state ∧ last.generation = task.generation
    ∧ last.occurred_at_unix_milliseconds = task.updated_at_unix_milliseconds
    ∧ last.terminal_reason = task.terminal_reason

theorem history_eq_ok : validate_a2a_task_status_history task statuses = .ok () ↔
    statuses.length = task.generation + 1 ∧ statuses.length ≤ 3
    ∧ validate_statuses task.created_at_unix_milliseconds 0 none 0 statuses = .ok ()
    ∧ ∃ last, statuses.getLast? = some last ∧ task.EndsIn last := by
  unfold validate_a2a_task_status_history A2ATaskRecord.EndsIn
  simp only [bind_ok, some_or_eq_ok, require_eq_ok, checked_add_iff, not_or, not_not,
    ne_eq, Nat.not_lt]
  constructor
  · rintro ⟨_, ⟨-, rfl⟩, _, ⟨hlen, -, hthree⟩, _, hvalid, last, hlast, hends⟩
    exact ⟨hlen, hthree, hvalid, last, hlast, hends⟩
  · rintro ⟨hlen, hthree, hvalid, last, hlast, hends⟩
    refine ⟨_, ⟨by omega, rfl⟩, (), ⟨hlen, ?_, hthree⟩, (), hvalid, last, hlast, hends⟩
    rintro rfl
    cases hlast

/-- A terminal state is one of four. -/
theorem terminal_of_allowed_working
    (h : a2a_task_state_transition_is_allowed .Working state = true) :
    a2a_task_state_is_terminal state = true := by
  cases state <;> simp_all [a2a_task_state_transition_is_allowed, a2a_task_state_is_terminal]

theorem working_or_terminal_of_allowed
    (h : a2a_task_state_transition_is_allowed .Submitted state = true) :
    state = .Working ∨ a2a_task_state_is_terminal state = true := by
  cases state <;> simp_all [a2a_task_state_transition_is_allowed, a2a_task_state_is_terminal]

theorem not_allowed_of_terminal (h : a2a_task_state_is_terminal state = true) :
    a2a_task_state_transition_is_allowed state next = false := by
  cases state <;> simp_all [a2a_task_state_transition_is_allowed, a2a_task_state_is_terminal]

/-- A submission, perhaps the start of work, perhaps one terminal status, at generations
0, 1 and 2 and at times that do not decrease. -/
inductive Lifecycle (created_at : ℕ) : List StoredA2ATaskStatus → Prop
  | submitted : Lifecycle created_at [⟨0, .Submitted, none, created_at⟩]
  | working {time : ℕ} (htime : created_at ≤ time) :
      Lifecycle created_at [⟨0, .Submitted, none, created_at⟩, ⟨1, .Working, none, time⟩]
  | ended {state : A2ATaskState} {reason : Option A2ATerminalReason} {time : ℕ}
      (hstate : a2a_task_state_is_terminal state = true) (htime : created_at ≤ time) :
      Lifecycle created_at [⟨0, .Submitted, none, created_at⟩, ⟨1, state, reason, time⟩]
  | worked {state : A2ATaskState} {reason : Option A2ATerminalReason} {started time : ℕ}
      (hstate : a2a_task_state_is_terminal state = true) (hstarted : created_at ≤ started)
      (htime : started ≤ time) :
      Lifecycle created_at [⟨0, .Submitted, none, created_at⟩, ⟨1, .Working, none, started⟩,
        ⟨2, state, reason, time⟩]

/-- The first status is the submission. -/
theorem submitted_of_fits {created_at previous_time : ℕ} {status : StoredA2ATaskStatus}
    (h : StatusFits created_at 0 none previous_time status) :
    status = ⟨0, .Submitted, none, created_at⟩ := by
  obtain ⟨hgen, -, hfirst, -, -⟩ := statusFits_iff.1 h
  obtain ⟨hstate, hreason, htime⟩ := hfirst rfl
  cases status
  simp_all

theorem lifecycle_of_history (h : validate_a2a_task_status_history task statuses = .ok ()) :
    Lifecycle task.created_at_unix_milliseconds statuses := by
  obtain ⟨hlen, hthree, hvalid, -⟩ := history_eq_ok.1 h
  rcases statuses with _ | ⟨first, _ | ⟨second, _ | ⟨third, _ | ⟨fourth, rest⟩⟩⟩⟩
  · simp at hlen
  · have hfirst := submitted_of_fits (validate_statuses_cons.1 hvalid).1
    rw [hfirst]
    exact .submitted
  · obtain ⟨hfits, hrest⟩ := validate_statuses_cons.1 hvalid
    have hfirst := submitted_of_fits hfits
    subst hfirst
    obtain ⟨hgen, htime, -, hreason, hall⟩ := statusFits_iff.1 (validate_statuses_cons.1 hrest).1
    rcases working_or_terminal_of_allowed (hall _ rfl) with hworking | hterm
    · obtain ⟨generation, state, reason, time⟩ := second
      simp only at hgen hworking htime hreason
      subst hgen hworking
      simp only [a2a_task_status_reason_is_valid, Option.isNone_iff_eq_none] at hreason
      subst hreason
      exact .working htime
    · obtain ⟨generation, state, reason, time⟩ := second
      simp only at hgen
      subst hgen
      exact .ended hterm htime
  · obtain ⟨hfits, hrest⟩ := validate_statuses_cons.1 hvalid
    have hfirst := submitted_of_fits hfits
    subst hfirst
    obtain ⟨hfits', hrest'⟩ := validate_statuses_cons.1 hrest
    obtain ⟨hgen, htime, -, hreason, hall⟩ := statusFits_iff.1 hfits'
    obtain ⟨hgen', htime', -, -, hall'⟩ := statusFits_iff.1 (validate_statuses_cons.1 hrest').1
    obtain ⟨generation, state, reason, time⟩ := second
    obtain ⟨generation', state', reason', time'⟩ := third
    simp only at hgen hgen' htime htime' hreason
    subst hgen hgen'
    rcases working_or_terminal_of_allowed (hall _ rfl) with hworking | hterm
    · simp only at hworking
      subst hworking
      simp only [a2a_task_status_reason_is_valid, Option.isNone_iff_eq_none] at hreason
      subst hreason
      exact .worked (terminal_of_allowed_working (hall' _ rfl)) htime htime'
    · -- nothing follows a terminal status
      have hnone := hall' _ rfl
      rw [not_allowed_of_terminal hterm] at hnone
      cases hnone
  · simp only [length_cons] at hthree
    omega

/-- A task that can still change has at most one status after its submission. -/
theorem generation_le_one (h : validate_a2a_task_status_history task statuses = .ok ())
    (hall : a2a_task_state_transition_is_allowed task.state next = true) : task.generation ≤ 1 := by
  obtain ⟨hlen, -, -, last, hlast, hstate, -⟩ := history_eq_ok.1 h
  cases lifecycle_of_history h with
  | submitted =>
    simp only [length_singleton] at hlen
    omega
  | working htime | ended hterm htime =>
    simp only [length_cons, length_nil] at hlen
    omega
  | worked hterm hstarted htime =>
    -- the third status is terminal, and it is the state of the task
    simp only [getLast?_cons_cons, getLast?_singleton, Option.some.injEq] at hlast
    subst hlast
    simp only at hstate
    rw [hstate] at hterm
    rw [not_allowed_of_terminal hterm] at hall
    cases hall

/-- A transition of a task: what the policy checked of it. -/
structure A2ATaskTransition.Allowed (transition : A2ATaskTransition) (task : A2ATaskRecord δ) :
    Prop where
  key : task.key = transition.key
  generation : task.generation = transition.expected_generation
  state : a2a_task_state_transition_is_allowed task.state transition.state = true
  reason : a2a_task_status_reason_is_valid transition.state transition.terminal_reason = true
  time : task.updated_at_unix_milliseconds ≤ transition.occurred_at_unix_milliseconds

theorem plan_eq_ok {plan : A2ATaskTransitionPlan} :
    plan_a2a_task_transition task transition = .ok plan ↔
    (plan = .Existing ∧ task.key = transition.key
      ∧ task.generation ≠ transition.expected_generation ∧ transition.repeats task)
    ∨ (transition.Allowed task ∧ plan = if transition.state = .Completed
      then .RequireCompletionEvidence else .Apply) := by
  unfold plan_a2a_task_transition
  rw [ite_ok, not_not]
  by_cases hkey : task.key = transition.key
  · by_cases hgen : task.generation = transition.expected_generation
    · rw [if_neg (not_not.2 hgen), ite_ok]
      simp only [hkey, hgen, not_true_eq_false, ne_eq, false_and, and_false, false_or,
        true_and, not_or, not_not, Nat.not_lt]
      constructor
      · rintro ⟨⟨hstate, hreason, htime⟩, hplan⟩
        refine ⟨⟨hkey, hgen, hstate, hreason, htime⟩, ?_⟩
        split at hplan <;> cases hplan <;> simp_all
      · rintro ⟨hall, rfl⟩
        refine ⟨⟨hall.state, hall.reason, hall.time⟩, ?_⟩
        split <;> rfl
    · rw [if_pos hgen]
      by_cases hrepeats : transition.repeats task
      · rw [if_pos hrepeats]
        simp only [hkey, true_and, Except.ok.injEq, hgen, ne_eq, not_false_eq_true,
          hrepeats, and_true]
        constructor
        · intro h
          exact .inl h.symm
        · rintro (h | ⟨hall, -⟩)
          · exact h.symm
          · exact absurd hall.generation hgen
      · rw [if_neg hrepeats]
        simp only [hrepeats, and_false, false_or, reduceCtorEq, false_iff, not_and]
        intro hall
        exact absurd hall.generation hgen
  · simp only [hkey, false_and, and_false, false_or, false_iff, not_and]
    intro hall
    exact absurd hall.key hkey

/-- The task after a transition has its history with one more status. -/
theorem history_concat {next : A2ATaskRecord δ}
    (h : validate_a2a_task_status_history task statuses = .ok ()) (hall : transition.Allowed task)
    (hcreated : next.created_at_unix_milliseconds = task.created_at_unix_milliseconds)
    (hnext : next.EndsIn ⟨task.generation + 1, transition.state, transition.terminal_reason,
      transition.occurred_at_unix_milliseconds⟩) :
    validate_a2a_task_status_history next (statuses ++ [⟨task.generation + 1, transition.state,
      transition.terminal_reason, transition.occurred_at_unix_milliseconds⟩]) = .ok () := by
  have hone := generation_le_one h hall.state
  obtain ⟨hlen, -, hvalid, last, hlast, hends⟩ := history_eq_ok.1 h
  refine history_eq_ok.2 ⟨?_, ?_, ?_, _, getLast?_concat, hnext⟩
  · rw [length_append, length_singleton, hlen, ← hnext.2.1]
  · rw [length_append, length_singleton]
    omega
  · rw [hcreated, validate_statuses_concat, hlast]
    refine ⟨hvalid, statusFits_iff.2 ⟨?_, ?_, ?_, hall.reason, ?_⟩⟩
    · simp only
      omega
    · simp only [Option.map_some, Option.getD_some, hends.2.2.1]
      exact hall.time
    · intro hzero
      omega
    · intro previous hprev
      simp only [Option.map_some, Option.some_or, Option.some.injEq] at hprev
      rw [← hprev, hends.1]
      exact hall.state

end

end Konclave.A2A
