/-
`Konclave.LocalDaemon`: the journal of repeat pairings.

A member of a conversation asks another member for a fresh capability, and both daemons
keep the operation in their profile store: the phases of either role, the transitions the
store allows, and the statements that reserve, advance, read and prune the rows. A sealed
state is represented by what it seals, so that sealing and opening it are the check of its
shape; the sealed number of rows is a column of its own.
-/
import Konclave.Daemon.Handling
import Konclave.Unique

set_option autoImplicit false

namespace Konclave.Daemon

open Domain

/-! ## States -/

inductive RepeatPairingRole
  | Initiator
  | Responder
  deriving DecidableEq, Repr

inductive RepeatPairingPhase
  | InitiatorSendingRequest
  | InitiatorAwaitingResponse
  | InitiatorRedeemingCapability
  | InitiatorCreatingConversation
  | InitiatorPairing
  | ResponderIssuingCapability
  | ResponderReservingPairing
  | ResponderSendingResponse
  | ResponderPairing
  | Completed
  | Cancelling
  | Cancelled
  deriving DecidableEq, Repr

def RepeatPairingPhase.is_terminal : RepeatPairingPhase → Bool
  | .Completed | .Cancelled => true
  | _ => false

structure RepeatPairingOperationState where
  operation_id : RepeatPairingOperationId
  role : RepeatPairingRole
  phase : RepeatPairingPhase
  bootstrap_conversation_id : ConversationId
  new_conversation_id : ConversationId
  new_routing_id : Option RoutingId
  peer_device_id : DeviceId
  peer_root_public_key : Ed25519PublicKey
  deadline_unix_seconds : ℕ
  pairing_id : Option PairingId
  capability : Option String
  deriving DecidableEq

namespace RepeatPairingOperationState

def initiator (operation_id : RepeatPairingOperationId)
    (bootstrap_conversation_id new_conversation_id : ConversationId) (new_routing_id : RoutingId)
    (peer_device_id : DeviceId) (peer_root_public_key : Ed25519PublicKey)
    (deadline_unix_seconds : ℕ) : RepeatPairingOperationState :=
  ⟨operation_id, .Initiator, .InitiatorSendingRequest, bootstrap_conversation_id,
    new_conversation_id, some new_routing_id, peer_device_id, peer_root_public_key,
    deadline_unix_seconds, none, none⟩

def responder (operation_id : RepeatPairingOperationId)
    (bootstrap_conversation_id new_conversation_id : ConversationId)
    (peer_device_id : DeviceId) (peer_root_public_key : Ed25519PublicKey)
    (deadline_unix_seconds : ℕ) : RepeatPairingOperationState :=
  ⟨operation_id, .Responder, .ResponderIssuingCapability, bootstrap_conversation_id,
    new_conversation_id, none, peer_device_id, peer_root_public_key, deadline_unix_seconds,
    none, none⟩

/-- There is a capability, and its text fits. -/
def has_capability (state : RepeatPairingOperationState) : Bool :=
  state.capability.any repeat_pairing_capability_fits

/-- What a state of its role and phase must and must not hold. -/
def shape_valid (state : RepeatPairingOperationState) : Bool :=
  match state.role, state.phase with
  | .Initiator, .InitiatorSendingRequest | .Initiator, .InitiatorAwaitingResponse =>
    state.new_routing_id.isSome && state.pairing_id.isNone && state.capability.isNone
  | .Initiator, .InitiatorRedeemingCapability =>
    state.new_routing_id.isSome && state.pairing_id.isNone && state.has_capability
  | .Initiator, .InitiatorCreatingConversation | .Initiator, .InitiatorPairing
  | .Initiator, .Completed =>
    state.new_routing_id.isSome && state.pairing_id.isSome && state.has_capability
  | .Responder, .ResponderIssuingCapability =>
    state.new_routing_id.isNone && state.pairing_id.isNone && state.capability.isNone
  | .Responder, .ResponderReservingPairing | .Responder, .ResponderSendingResponse
  | .Responder, .ResponderPairing | .Responder, .Completed =>
    state.new_routing_id.isNone && state.pairing_id.isSome && state.has_capability
  | .Initiator, .Cancelling | .Initiator, .Cancelled =>
    state.capability.all repeat_pairing_capability_fits && state.new_routing_id.isSome
  | .Responder, .Cancelling | .Responder, .Cancelled =>
    state.capability.all repeat_pairing_capability_fits && state.new_routing_id.isNone
  | _, _ => false

end RepeatPairingOperationState

inductive RepeatPairingStateError
  | InvalidState
  deriving DecidableEq, Repr

def validate_state (state : RepeatPairingOperationState) : Except RepeatPairingStateError Unit := do
  require (state.deadline_unix_seconds ≠ 0) .InvalidState
  require (state.shape_valid = true) .InvalidState

def repeat_pairing_transition_allowed (role : RepeatPairingRole)
    (current next : RepeatPairingPhase) : Bool :=
  if current.is_terminal then current = next
  else if next = .Cancelling then true
  else if current = .Cancelling then next = .Cancelled
  else match role, current, next with
    | .Initiator, .InitiatorSendingRequest, .InitiatorAwaitingResponse
    | .Initiator, .InitiatorSendingRequest, .InitiatorRedeemingCapability
    | .Initiator, .InitiatorAwaitingResponse, .InitiatorRedeemingCapability
    | .Initiator, .InitiatorRedeemingCapability, .InitiatorCreatingConversation
    | .Initiator, .InitiatorCreatingConversation, .InitiatorPairing
    | .Initiator, .InitiatorPairing, .Completed
    | .Responder, .ResponderIssuingCapability, .ResponderReservingPairing
    | .Responder, .ResponderReservingPairing, .ResponderSendingResponse
    | .Responder, .ResponderSendingResponse, .ResponderPairing
    | .Responder, .ResponderPairing, .Completed => true
    | _, _, _ => false

/-! ## Rows -/

def MAX_ACTIVE_REPEAT_PAIRINGS : ℕ := 16
def MAX_REPEAT_PAIRING_RECORDS : ℕ := 64
def MAX_INTERNAL_REPEAT_PAIRING_MESSAGES : ℕ := MAX_REPEAT_PAIRING_RECORDS * 4
def MAX_REPEAT_PAIRING_WINDOW_SECONDS : ℕ := 15 * 60

structure RepeatPairingCheckpoint where
  generation : ℕ
  state : RepeatPairingOperationState
  deriving DecidableEq

/-- `daemon_repeat_pairing`; a pairing identifier is in one row at most. -/
abbrev RepeatPairingTable := UniqueTable RepeatPairingOperationId PairingId
  RepeatPairingCheckpoint (·.state.operation_id) fun row => row.state.pairing_id.toList

/-- The rows, and the sealed number of them. -/
structure RepeatPairings where
  operations : RepeatPairingTable
  count : ℕ

def RepeatPairings.empty : RepeatPairings := ⟨.empty, 0⟩

def repeat_pairing_state_error : RepeatPairingStateError → ProfileStoreError
  | .InvalidState => .CorruptData

/-- Sealing encodes the state, and opening decodes it: both check its shape. -/
def seal_repeat_pairing (state : RepeatPairingOperationState) : Except ProfileStoreError Unit :=
  (validate_state state).mapError repeat_pairing_state_error

def load_repeat_pairing_from (pairings : RepeatPairings) (operation_id : RepeatPairingOperationId) :
    Except ProfileStoreError (Option RepeatPairingCheckpoint) :=
  match pairings.operations.get? operation_id with
  | none => .ok none
  | some row => do
    seal_repeat_pairing row.state
    pure (some row)

def load_repeat_pairing (pairings : RepeatPairings) (operation_id : RepeatPairingOperationId) :
    Except ProfileStoreError RepeatPairingCheckpoint := do
  let existing ← load_repeat_pairing_from pairings operation_id
  some_or existing .RepeatPairingNotFound

def repeat_pairing_count (operations : RepeatPairingTable) : ℕ := operations.rows.length

def active_repeat_pairing_count (operations : RepeatPairingTable) : ℕ :=
  (operations.rows.filter fun row => !row.state.phase.is_terminal).length

def repeat_pairing_identity_equal (left right : RepeatPairingOperationState) : Prop :=
  left.operation_id = right.operation_id ∧ left.role = right.role
    ∧ left.bootstrap_conversation_id = right.bootstrap_conversation_id
    ∧ left.new_conversation_id = right.new_conversation_id
    ∧ left.new_routing_id = right.new_routing_id
    ∧ left.peer_device_id = right.peer_device_id
    ∧ left.peer_root_public_key = right.peer_root_public_key
    ∧ left.deadline_unix_seconds = right.deadline_unix_seconds

instance (left right : RepeatPairingOperationState) :
    Decidable (repeat_pairing_identity_equal left right) :=
  inferInstanceAs (Decidable (_ ∧ _))

/-- Compares the encodings, which both sides must have. -/
def repeat_pairing_states_equal (left right : RepeatPairingOperationState) :
    Except ProfileStoreError Bool := do
  seal_repeat_pairing left
  seal_repeat_pairing right
  pure (left = right)

def repeat_pairing_deadline_valid (now deadline : ℕ) : Bool :=
  now < deadline ∧ deadline - now ≤ MAX_REPEAT_PAIRING_WINDOW_SECONDS

variable (pairings : RepeatPairings) (operation_id : RepeatPairingOperationId)
  (state : RepeatPairingOperationState) (now_unix_seconds : ℕ) (conversation_id : ConversationId)
  (sender : DeviceId) (sender_root : Ed25519PublicKey)

/-! ## Statements -/

/-- `DELETE` of the terminal rows whose deadline is over, but for the row of an operation. -/
def RepeatPairingTable.without_expired (operations : RepeatPairingTable)
    (operation_id : RepeatPairingOperationId) (now : ℕ) : RepeatPairingTable :=
  operations.delete fun row => row.state.phase.is_terminal
    ∧ row.state.deadline_unix_seconds < now ∧ row.state.operation_id ≠ operation_id

/-- The rest of a reservation once there is no row of the operation. -/
def insert_repeat_pairing : Except ProfileStoreError RepeatPairings := do
  let now ← to_sql_integer now_unix_seconds
  let operations := RepeatPairingTable.without_expired pairings.operations state.operation_id now
  let count := repeat_pairing_count operations
  require (count < MAX_REPEAT_PAIRING_RECORDS
    ∧ active_repeat_pairing_count operations < MAX_ACTIVE_REPEAT_PAIRINGS)
    .RepeatPairingCapacityExceeded
  seal_repeat_pairing state
  let _ ← to_sql_integer state.deadline_unix_seconds
  let operations ← some_or (operations.insert? ⟨1, state⟩) .Storage
  pure ⟨operations, count + 1⟩

def reserve_repeat_pairing_in : Except ProfileStoreError RepeatPairings := do
  require (pairings.count = repeat_pairing_count pairings.operations) .CorruptData
  match ← load_repeat_pairing_from pairings state.operation_id with
  | some existing => do
    require (existing.generation = 1) .DuplicateOperation
    let equal ← repeat_pairing_states_equal existing.state state
    require (equal = true) .DuplicateOperation
    pure pairings
  | none => insert_repeat_pairing pairings state now_unix_seconds

def reserve_repeat_pairing : Except ProfileStoreError RepeatPairings :=
  reserve_repeat_pairing_in pairings state now_unix_seconds

/-- `UPDATE daemon_repeat_pairing … WHERE operation_id AND generation`. -/
def RepeatPairingTable.advance? (operations : RepeatPairingTable) (generation : ℕ)
    (state : RepeatPairingOperationState) : Option RepeatPairingTable :=
  operations.update? state.operation_id
    (fun row => if row.state.operation_id = state.operation_id then ⟨generation, state⟩ else row)
    fun row => by by_cases h : row.state.operation_id = state.operation_id <;> simp [h]

def checkpoint_repeat_pairing_in (generation : ℕ) (state : RepeatPairingOperationState) :
    Except ProfileStoreError RepeatPairings := do
  let existing ← load_repeat_pairing pairings state.operation_id
  require (existing.generation = generation
    ∧ repeat_pairing_transition_allowed existing.state.role existing.state.phase state.phase = true
    ∧ repeat_pairing_identity_equal existing.state state) .InvalidTransition
  let next_generation ← some_or (checked_add generation 1) .SequenceExhausted
  seal_repeat_pairing state
  let _ ← to_sql_integer next_generation
  let operations ← some_or (RepeatPairingTable.advance? pairings.operations next_generation state)
    .Storage
  pure { pairings with operations }

/-- The operation of a checkpoint is the one of its state. -/
def checkpoint_repeat_pairing (checkpoint : RepeatPairingCheckpoint) :
    Except ProfileStoreError RepeatPairings :=
  checkpoint_repeat_pairing_in pairings checkpoint.generation checkpoint.state

/-! ## Messages -/

/-- A request with a usable deadline opens an operation, unless there is one already. -/
def record_repeat_pairing_request_in (request : RepeatPairingRequest) (now_unix_seconds : ℕ) :
    Except ProfileStoreError RepeatPairings :=
  if repeat_pairing_deadline_valid now_unix_seconds request.expires_at_unix_seconds = false then
    .ok pairings
  else do
    match ← load_repeat_pairing_from pairings request.operation_id with
    | some _ => pure pairings
    | none =>
      reserve_repeat_pairing_in pairings (.responder request.operation_id conversation_id
        request.new_conversation_id sender sender_root request.expires_at_unix_seconds)
        now_unix_seconds

/-- The response is to this operation, from the peer that was asked. -/
def RepeatPairingOperationState.answered_by (response : RepeatPairingResponse) : Prop :=
  state.role = .Initiator ∧ state.bootstrap_conversation_id = conversation_id
    ∧ state.new_conversation_id = response.new_conversation_id
    ∧ state.peer_device_id = sender ∧ state.peer_root_public_key = sender_root

instance (response : RepeatPairingResponse) :
    Decidable (state.answered_by conversation_id sender sender_root response) :=
  inferInstanceAs (Decidable (_ ∧ _))

/-- The first response to an operation that waits for one is stored; any other is ignored. -/
def record_repeat_pairing_response_in (response : RepeatPairingResponse) :
    Except ProfileStoreError RepeatPairings := do
  match ← load_repeat_pairing_from pairings response.operation_id with
  | none => pure pairings
  | some checkpoint =>
    let state := checkpoint.state
    if state.answered_by conversation_id sender sender_root response ∧ state.capability = none
        ∧ (state.phase = .InitiatorSendingRequest ∨ state.phase = .InitiatorAwaitingResponse) then
      checkpoint_repeat_pairing_in pairings checkpoint.generation
        { state with
          capability := some response.capability
          phase := .InitiatorRedeemingCapability }
    else pure pairings

/-- Contents that are not for the local device, or its own, are left alone. -/
def record_repeat_pairing_content_in (local_device : DeviceId) (content : ApplicationContent)
    (now_unix_seconds : ℕ) : Except ProfileStoreError RepeatPairings :=
  match content with
  | .RepeatPairingRequest request =>
    if sender ≠ local_device ∧ request.target_device_id = local_device then
      record_repeat_pairing_request_in pairings conversation_id sender sender_root request
        now_unix_seconds
    else .ok pairings
  | .RepeatPairingResponse response =>
    if sender ≠ local_device ∧ response.requester_device_id = local_device then
      record_repeat_pairing_response_in pairings conversation_id sender sender_root response
    else .ok pairings
  | _ => .ok pairings

end Konclave.Daemon
