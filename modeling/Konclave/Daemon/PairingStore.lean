/-
`Konclave.LocalDaemon`: the journal of pairings.

One row per pairing, with its phase, its deadlines and its sealed state. A row is only
checkpointed: a checkpoint names the generation it read, moves along the phase graph, and
may be repeated word for word. The sealed state is represented by the state; a checkpoint
reads and writes its row under the lock of its pairing, so that no other write comes between.
-/
import Konclave.Daemon.Pairing
import Konclave.Daemon.RemoteEvents
import Konclave.Unique
import Mathlib.Data.List.Sort

set_option autoImplicit false

namespace Konclave.Daemon

open Domain

def MAX_ACTIVE_PAIRINGS : ℕ := 32

/-- `daemon_pairing`: the pairing is the key, and no two rows have one route. -/
abbrev PairingTable := UniqueTable PairingId RoutingId PairingCheckpoint (·.pairing_id)
  fun row => [row.routing_id]

variable (row : PairingCheckpoint) (next_phase : PairingPhase) (completion_deadline : Option ℕ)
  (role : PairingRole) (replay_cursor : ℕ) (pairings : PairingTable) (pairing_id : PairingId)

def valid_transition (current next : PairingPhase) : Bool :=
  if current = next then !current.is_terminal
  else match role, current, next with
    | .Joiner, .JoinerAwaitingInvitation, .JoinerAwaitingInviterAuthorization
    | .Joiner, .JoinerAwaitingInvitation, .Cancelled
    | .Joiner, .JoinerAwaitingInviterAuthorization, .JoinerAwaitingWelcome
    | .Joiner, .JoinerAwaitingInviterAuthorization, .Cancelled
    | .Joiner, .JoinerAwaitingWelcome, .Completed
    | .Joiner, .JoinerAwaitingWelcome, .Cancelled
    | .Inviter, .InviterAwaitingAuthorization, .InviterAwaitingJoinProof
    | .Inviter, .InviterAwaitingAuthorization, .Cancelled
    | .Inviter, .InviterAwaitingJoinProof, .InviterAwaitingCompletion
    | .Inviter, .InviterAwaitingJoinProof, .Cancelled
    | .Inviter, .InviterAwaitingCompletion, .Completed
    | .Inviter, .InviterAwaitingCompletion, .Compensating
    | .Inviter, .Compensating, .Cancelled => true
    | _, _, _ => false

/-- The phases of a role. -/
def PairingPhase.of_role : PairingPhase → PairingRole → Bool
  | .JoinerAwaitingInvitation, .Joiner | .JoinerAwaitingInviterAuthorization, .Joiner
  | .JoinerAwaitingWelcome, .Joiner => true
  | .InviterAwaitingAuthorization, .Inviter | .InviterAwaitingJoinProof, .Inviter
  | .InviterAwaitingCompletion, .Inviter | .Compensating, .Inviter => true
  | .Completed, _ | .Cancelled, _ => true
  | _, _ => false

/-- The phases that have a completion deadline, and those that must have one. -/
def PairingPhase.may_complete : PairingPhase → Bool
  | .InviterAwaitingCompletion | .Compensating | .Completed | .Cancelled => true
  | _ => false

def PairingPhase.must_complete : PairingPhase → Bool
  | .InviterAwaitingCompletion | .Compensating => true
  | _ => false

def validate_metadata (phase : PairingPhase) (authorization_deadline : ℕ)
    (completion_deadline : Option ℕ) : Except ProfileStoreError Unit :=
  require (authorization_deadline ≠ 0
    ∧ (∀ deadline ∈ completion_deadline, authorization_deadline ≤ deadline)
    ∧ phase.of_role role = true
    ∧ (phase.must_complete = true → completion_deadline.isSome = true)
    ∧ (completion_deadline.isSome = true → phase.may_complete = true)) .InvalidTransition

def load_pairing : Except ProfileStoreError PairingCheckpoint := do
  let row ← some_or (pairings.get? pairing_id) .OperationNotFound
  validate_metadata row.role row.phase row.authorization_deadline_unix_seconds
    row.completion_deadline_unix_seconds
  pure row

/-- The pairings that are not over, by identifier. -/
def active_pairing_ids (after : Option PairingId) (limit : ℕ) :
    Except ProfileStoreError (List PairingId) := do
  require (limit ≠ 0 ∧ limit ≤ MAX_ACTIVE_PAIRINGS) .InvalidTransition
  let active := pairings.rows.filter fun row =>
    !row.phase.is_terminal && after.all fun after => after.bytes < row.pairing_id.bytes
  pure (((active.map (·.pairing_id)).insertionSort fun x y => x.bytes ≤ y.bytes).take limit)

/-- The row a checkpoint leaves. -/
def PairingCheckpoint.next (phase : PairingPhase) (completion_deadline : Option ℕ)
    (replay_cursor : ℕ) (state : PairingOperationState) : PairingCheckpoint :=
  { row with
    phase
    completion_deadline_unix_seconds := completion_deadline
    replay_cursor
    generation := row.generation + 1
    state }

/-- A checkpoint that was made before answers as it did. -/
def match_checkpoint_retry (observed : PairingCheckpoint) (expected_generation : ℕ)
    (next_phase : PairingPhase) (completion_deadline : Option ℕ) (replay_cursor : ℕ)
    (state : PairingOperationState) : Except ProfileStoreError ℕ := do
  let retry_generation ← some_or (checked_add expected_generation 1) .InvalidTransition
  require (observed.generation = retry_generation ∧ observed.phase = next_phase
    ∧ observed.completion_deadline_unix_seconds = completion_deadline
    ∧ observed.replay_cursor = replay_cursor ∧ observed.state = state) .InvalidTransition
  pure observed.generation

/-- What a checkpoint may change: not back in the log, along the phase graph, and the
completion deadline once, on the way to the commit. -/
def PairingCheckpoint.allows : Prop :=
  row.replay_cursor ≤ replay_cursor ∧ valid_transition row.role row.phase next_phase = true
    ∧ (row.completion_deadline_unix_seconds.isSome = true →
      completion_deadline = row.completion_deadline_unix_seconds)
    ∧ (row.completion_deadline_unix_seconds = none → completion_deadline.isSome = true →
      row.phase = .InviterAwaitingJoinProof ∧ next_phase = .InviterAwaitingCompletion)

instance : Decidable (row.allows next_phase completion_deadline replay_cursor) :=
  inferInstanceAs (Decidable (_ ∧ _))

def checkpoint_pairing (expected_generation : ℕ) (next_phase : PairingPhase)
    (completion_deadline : Option ℕ) (replay_cursor : ℕ) (state : PairingOperationState) :
    Except ProfileStoreError (ℕ × PairingTable) := do
  require (expected_generation ≠ 0) .InvalidTransition
  let current ← load_pairing pairings pairing_id
  if current.generation ≠ expected_generation then do
    let generation ← match_checkpoint_retry current expected_generation next_phase
      completion_deadline replay_cursor state
    pure (generation, pairings)
  else do
    require (current.allows next_phase completion_deadline replay_cursor) .InvalidTransition
    validate_metadata current.role next_phase current.authorization_deadline_unix_seconds
      completion_deadline
    let next_generation ← some_or (checked_add expected_generation 1) .SequenceExhausted
    let _ ← completion_deadline.elim (.ok 0) to_sql_integer
    let _ ← to_sql_integer replay_cursor
    let _ ← to_sql_integer next_generation
    pure (next_generation, pairings.update pairing_id
      (fun row => row.next next_phase completion_deadline replay_cursor state)
      (fun _ => rfl) fun _ => rfl)

/-! ## What a write leaves -/

theorem load_pairing_eq_ok {pairings : PairingTable} {pairing_id : PairingId}
    {row : PairingCheckpoint} (h : load_pairing pairings pairing_id = .ok row) :
    pairings.get? pairing_id = some row := by
  rw [load_pairing, some_or_ok] at h
  obtain ⟨found, hfound, h⟩ := h
  obtain ⟨_, -, h⟩ := bind_ok.1 h
  cases h
  exact hfound

/-- A checkpoint of the row that was read writes the row that follows it, and no other. -/
theorem checkpoint_pairing_eq_ok {pairings later : PairingTable} {row : PairingCheckpoint}
    {generation : ℕ} {next_phase : PairingPhase} {completion_deadline : Option ℕ}
    {replay_cursor : ℕ} {state : PairingOperationState}
    (hrow : pairings.get? row.pairing_id = some row)
    (h : checkpoint_pairing pairings row.pairing_id row.generation next_phase completion_deadline
      replay_cursor state = .ok (generation, later)) (id : PairingId) :
    later.get? id = if id = row.pairing_id
      then some (row.next next_phase completion_deadline replay_cursor state)
      else pairings.get? id := by
  rw [checkpoint_pairing] at h
  obtain ⟨-, h⟩ := require_ok.1 h
  obtain ⟨current, hload, h⟩ := bind_ok.1 h
  have hcurrent := load_pairing_eq_ok hload
  rw [hrow] at hcurrent
  cases hcurrent
  rw [if_neg fun hne => hne rfl] at h
  obtain ⟨-, h⟩ := require_ok.1 h
  obtain ⟨_, -, h⟩ := bind_ok.1 h
  obtain ⟨_, -, h⟩ := bind_ok.1 h
  obtain ⟨_, -, h⟩ := bind_ok.1 h
  obtain ⟨_, -, h⟩ := bind_ok.1 h
  obtain ⟨_, -, hpure⟩ := bind_ok.1 h
  cases hpure
  refine (Table.get?_update pairings.toTable row.pairing_id (fun row =>
    row.next next_phase completion_deadline replay_cursor state) (fun _ => rfl) id).trans ?_
  by_cases hid : id = row.pairing_id
  · rw [if_pos hid, if_pos hid, hid, hrow]
    rfl
  · rw [if_neg hid, if_neg hid]

end Konclave.Daemon
