/-
`Konclave.A2ATaskStore`: the decisions every task store shares.

Which state may follow which, which reason a state needs, what an exact retry of a
transition is, and what a stored task and its status history must look like. The functions
see decoded values only; `TaskStore` says where an implementation finds them.
-/
import Konclave.A2A.Task
import Konclave.Checked

set_option autoImplicit false

namespace Konclave.A2A

open Domain

/-! ## Records -/

/-- `A2ATaskRecord`, the stored task as a store returns it. -/
structure A2ATaskRecord (δ : Type) where
  identity : A2ATaskIdentity
  identity_digest : δ
  request_text_digest : δ
  request_text : Option String
  state : A2ATaskState
  generation : ℕ
  created_at_unix_milliseconds : ℕ
  updated_at_unix_milliseconds : ℕ
  terminal_at_unix_milliseconds : Option ℕ
  terminal_reason : Option A2ATerminalReason
  content_pruned : Bool
  deriving DecidableEq

def A2ATaskRecord.key {δ : Type} (record : A2ATaskRecord δ) : A2ATaskKey := record.identity.key

def A2ATaskRecord.retained_identity_is_valid {δ : Type} [DecidableEq δ] (sha : Sha256 δ)
    (record : A2ATaskRecord δ) : Bool :=
  (record.request_text.all fun text => text_digest sha text = record.request_text_digest)
    ∧ task_identity_digest sha record.identity record.request_text_digest = record.identity_digest

structure StoredA2ATaskStatus where
  generation : ℕ
  state : A2ATaskState
  terminal_reason : Option A2ATerminalReason
  occurred_at_unix_milliseconds : ℕ
  deriving DecidableEq

/-! ## States -/

def a2a_task_state_is_terminal : A2ATaskState → Bool
  | .Completed | .Failed | .Canceled | .Rejected => true
  | _ => false

def a2a_task_state_transition_is_allowed (previous next : A2ATaskState) : Bool :=
  match previous with
  | .Submitted => match next with
    | .Working | .Completed | .Failed | .Rejected | .Canceled => true
    | _ => false
  | .Working => match next with
    | .Completed | .Failed | .Rejected | .Canceled => true
    | _ => false
  | _ => false

def a2a_task_status_reason_is_valid (state : A2ATaskState)
    (reason : Option A2ATerminalReason) : Bool :=
  match state with
  | .Submitted | .Working | .Completed => reason.isNone
  | .Failed | .Canceled | .Rejected => reason.isSome
  | .InputRequired | .AuthRequired => false

/-! ## Transitions

What a transition is, before the store is asked for evidence: a retry, a conflict, or a change. -/

inductive A2ATaskTransitionPlan
  | Existing
  | Apply
  | RequireCompletionEvidence
  deriving DecidableEq, Repr

def A2ATaskTransitionPlan.validate_completion_evidence (plan : A2ATaskTransitionPlan)
    (has_completion_evidence : Bool) : Except A2ATaskStoreError Unit :=
  require (¬ (plan = .RequireCompletionEvidence ∧ has_completion_evidence = false))
    .InvalidTransition

/-- The transition is the one that was applied last. -/
def A2ATaskTransition.repeats {δ : Type} (transition : A2ATaskTransition)
    (current : A2ATaskRecord δ) : Prop :=
  checked_add transition.expected_generation 1 = some current.generation
    ∧ current.state = transition.state ∧ current.terminal_reason = transition.terminal_reason

instance {δ : Type} (transition : A2ATaskTransition) (current : A2ATaskRecord δ) :
    Decidable (transition.repeats current) :=
  inferInstanceAs (Decidable (_ ∧ _))

def plan_a2a_task_transition {δ : Type} (current : A2ATaskRecord δ)
    (transition : A2ATaskTransition) : Except A2ATaskStoreError A2ATaskTransitionPlan :=
  if current.key ≠ transition.key then .error .Conflict
  else if current.generation ≠ transition.expected_generation then
    if transition.repeats current then .ok .Existing else .error .Conflict
  else if ¬ (a2a_task_state_transition_is_allowed current.state transition.state = true)
      ∨ ¬ (a2a_task_status_reason_is_valid transition.state transition.terminal_reason = true)
      ∨ transition.occurred_at_unix_milliseconds < current.updated_at_unix_milliseconds then
    .error .InvalidTransition
  else if transition.state = .Completed then .ok .RequireCompletionEvidence
  else .ok .Apply

/-! ## Stored shapes

The checks a row and its history must pass whenever they are read. -/

/-- `x > y` of optional values, where an absent one comes first. -/
def later_than : Option ℕ → Option ℕ → Bool
  | some x, some y => y < x
  | some _, none => true
  | none, _ => false

def validate_a2a_task_shape (state : A2ATaskState) (generation updated_at : ℕ)
    (terminal_at : Option ℕ) (terminal_reason : Option A2ATerminalReason) (content_pruned : Bool)
    (content_expires_at tombstone_expires_at : Option ℕ) : Except A2ATaskStoreError Unit :=
  let terminal := a2a_task_state_is_terminal state
  require (¬ (2 < generation
    ∨ (terminal = true ∧ (terminal_at ≠ some updated_at ∨ content_expires_at = none
      ∨ tombstone_expires_at = none ∨ later_than terminal_at content_expires_at = true
      ∨ later_than content_expires_at tombstone_expires_at = true))
    ∨ (terminal = false ∧ (terminal_at ≠ none ∨ terminal_reason ≠ none ∨ content_pruned = true
      ∨ content_expires_at ≠ none ∨ tombstone_expires_at ≠ none))
    ∨ a2a_task_status_reason_is_valid state terminal_reason = false)) .CorruptData

/-- What a status at an index must be, after the state and time of the one before it. -/
def StatusFits (created_at index : ℕ) (previous_state : Option A2ATaskState) (previous_time : ℕ)
    (status : StoredA2ATaskStatus) : Prop :=
  ¬ (status.generation ≠ index
    ∨ status.occurred_at_unix_milliseconds < previous_time
    ∨ (index = 0 ∧ (status.state ≠ .Submitted ∨ status.terminal_reason ≠ none
      ∨ status.occurred_at_unix_milliseconds ≠ created_at))
    ∨ a2a_task_status_reason_is_valid status.state status.terminal_reason = false
    ∨ (previous_state.any fun previous =>
      !a2a_task_state_transition_is_allowed previous status.state) = true)

instance (created_at index : ℕ) (previous_state : Option A2ATaskState) (previous_time : ℕ)
    (status : StoredA2ATaskStatus) :
    Decidable (StatusFits created_at index previous_state previous_time status) :=
  inferInstanceAs (Decidable (¬ _))

/-- The loop over a history. -/
def validate_statuses (created_at : ℕ) :
    ℕ → Option A2ATaskState → ℕ → List StoredA2ATaskStatus → Except A2ATaskStoreError Unit
  | _, _, _, [] => .ok ()
  | index, previous_state, previous_time, status :: rest => do
    require (StatusFits created_at index previous_state previous_time status) .CorruptData
    validate_statuses created_at (index + 1) (some status.state)
      status.occurred_at_unix_milliseconds rest

def validate_a2a_task_status_history {δ : Type} (task : A2ATaskRecord δ)
    (statuses : List StoredA2ATaskStatus) : Except A2ATaskStoreError Unit := do
  let expected_length ← some_or (checked_add task.generation 1) .CorruptData
  require (¬ (statuses.length ≠ expected_length ∨ statuses = [] ∨ 3 < statuses.length)) .CorruptData
  validate_statuses task.created_at_unix_milliseconds 0 none 0 statuses
  let last ← some_or statuses.getLast? .CorruptData
  require (¬ (last.state ≠ task.state ∨ last.generation ≠ task.generation
    ∨ last.occurred_at_unix_milliseconds ≠ task.updated_at_unix_milliseconds
    ∨ last.terminal_reason ≠ task.terminal_reason)) .CorruptData

end Konclave.A2A
