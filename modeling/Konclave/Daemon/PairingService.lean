/-
`Konclave.LocalDaemon`: the replay of pairings.

What the pairing service does without a user: it submits the records a pairing has prepared,
replays the pairing's route page by page, answers the peer's records, and ends what is past
its deadline. The journal of pairings is the service's store. The conversations, the
application session, the random source and the relay are components, with whatever state
they have. A call holds the lock of its pairing from its first step to its last.
-/
import Konclave.Cryptographic.Statements
import Konclave.Daemon.PairingStore

set_option autoImplicit false

namespace Konclave.Daemon.Pairing

open Protobuf Domain Relay Cryptographic Hosted

def PAIRING_REPLAY_LIMIT : ℕ := 8
def ACTIVE_PAIRING_PAGE_SIZE : ℕ := 32
def COMPLETION_WINDOW_SECONDS : ℕ := 300
def COMPENSATION_ENVELOPE_EXPIRY : ℕ := I64_MAX

/-! ## Errors -/

/-- `ConversationCoordinatorError`, the variants of the modelled calls. -/
inductive ConversationCoordinatorError
  | RequestService (error : RequestServiceError)
  | Profile (error : ProfileStoreError)
  | Cryptographic
  | SecretStorage
  | StateUnavailable
  | MissingMlsState
  | MissingMembershipJournal
  | StateMismatch
  | Protocol
  | Unauthorized
  deriving DecidableEq

/-- `ApplicationServiceError`, the variants of the modelled calls. -/
inductive ApplicationServiceError
  | Conversation (error : ConversationCoordinatorError)
  | Relay (error : KonclaveClientError)
  | Task
  | Protocol
  | IdempotencyConflict
  | OutboundExpired
  | OutboundRemoved
  | InvalidRelayResponse
  | ProfileClosing
  deriving DecidableEq

/-- `PairingServiceError`, the variants of the modelled calls. -/
inductive PairingServiceError
  | Expired
  | InvalidTransition
  | AuthorizationMismatch
  | InvalidRelayResponse
  | Task
  | ProfileClosing
  | Application (error : ApplicationServiceError)
  | Client (error : KonclaveClientError)
  | Conversation (error : ConversationCoordinatorError)
  | Cryptographic (error : KonclaveCryptographicError)
  | Persistence (error : ProfileStoreError)
  | Protocol (error : KonclaveProtocolError)
  | State (error : PairingStateError)
  deriving DecidableEq

/-! ## Components -/

structure SentMembership where
  cursor : ℕ
  welcome : Option Bytes
  deriving DecidableEq

/-- The components of the service, each call with what it answers and leaves. -/
structure PairingService (ω : Type) where
  suite : PairingSuite
  root : RootSignatures
  /-- `MlsWelcome::from_bytes`. -/
  mls_welcome : Bytes → Except KonclaveCryptographicError Bytes
  generate_pairing_message_id : ω → Except KonclaveCryptographicError PairingMessageId × ω
  fill_random : ω → Except KonclaveCryptographicError (PairingNonce × EnvelopeId) × ω
  /-- `admitted_sweep`: the profile is not closing. -/
  try_begin : ω → Except PairingServiceError Unit × ω
  device_id : ω → Except ConversationCoordinatorError DeviceId × ω
  sign_pairing_control : PairingId → PairingMessageId → PairingStage → PairingMessageId →
    ConversationId → ω → Except ConversationCoordinatorError PairingControl × ω
  complete_pairing_join : ConversationId → ω → Except ConversationCoordinatorError Unit × ω
  accept_pairing_welcome : ConversationId → Bytes → ℕ → ω →
    Except ApplicationServiceError Unit × ω
  resume_add_member : ConversationId → JoinProof → ℕ → ω →
    Except ApplicationServiceError (Option SentMembership) × ω
  add_member : ConversationId → JoinProof → ℕ → ℕ → ω →
    Except ApplicationServiceError SentMembership × ω
  remove_member : ConversationId → DeviceId → ℕ → ℕ → ω →
    Except ApplicationServiceError SentMembership × ω
  submit : RelayEnvelope → ω → Except KonclaveClientError StoredRelayEnvelope × ω
  replay : ReplayRequest → ω → Except KonclaveClientError ReplayPage × ω
  acknowledge : AcknowledgeRequest → ω → Except KonclaveClientError AcknowledgeRequest × ω

abbrev Service (ω α : Type) : Type := Hosted PairingServiceError PairingTable ω α

/-! ## Checks -/

def require_phase (checkpoint : PairingCheckpoint) (role : PairingRole) (phase : PairingPhase) :
    Except PairingServiceError Unit :=
  require (checkpoint.role = role ∧ checkpoint.phase = phase) .InvalidTransition

def require_before (now deadline : ℕ) : Except PairingServiceError Unit :=
  require (now < deadline) .Expired

def completion_deadline (authorization_deadline commit_started_at : ℕ) :
    Except PairingServiceError ℕ := do
  let recovery_deadline ← some_or (checked_add commit_started_at COMPLETION_WINDOW_SECONDS)
    .InvalidTransition
  pure (max recovery_deadline authorization_deadline)

def require_authorization_record (checkpoint : PairingCheckpoint) (pairing : PairingEnvelope) :
    Except PairingServiceError Unit :=
  require (pairing.expires_at_unix_seconds = checkpoint.authorization_deadline_unix_seconds)
    .InvalidTransition

def require_matching_control (pairing : PairingEnvelope) (control : PairingControl)
    (conversation_id : ConversationId) : Except PairingServiceError Unit :=
  require (control.transcript.pairing_id = pairing.pairing_id
    ∧ control.transcript.message_id = pairing.message_id
    ∧ control.transcript.stage = pairing.stage
    ∧ some control.transcript.in_reply_to = pairing.in_reply_to
    ∧ control.transcript.conversation_id = conversation_id) .AuthorizationMismatch

def is_precommit_phase : PairingPhase → Bool
  | .JoinerAwaitingInvitation | .JoinerAwaitingInviterAuthorization | .JoinerAwaitingWelcome
  | .InviterAwaitingAuthorization | .InviterAwaitingJoinProof => true
  | _ => false

def is_cancellable_precommit_phase : PairingPhase → Bool
  | .JoinerAwaitingInviterAuthorization | .InviterAwaitingJoinProof => true
  | _ => false

section

variable (suite : PairingSuite) (checkpoint : PairingCheckpoint) (state : PairingOperationState)
  (pairing : PairingEnvelope) (plaintext : Bytes) (stage : PairingStage)
  (in_reply_to : PairingMessageId)

/-- Whether an outbound of a stage was accepted. -/
def stage_accepted : Bool :=
  state.outbounds.any fun outbound => outbound.accepted_cursor.isSome
    && outbound.carries suite fun envelope => envelope.stage = stage

def terminal_after_submission : PairingPhase :=
  if stage_accepted suite state .Cancellation = true then
    if checkpoint.role = .Inviter ∧ checkpoint.phase = .InviterAwaitingCompletion
    then .Compensating else .Cancelled
  else if checkpoint.role = .Joiner ∧ checkpoint.phase = .JoinerAwaitingWelcome
      ∧ stage_accepted suite state .Completion = true then .Completed
  else checkpoint.phase

/-- `local_record(stage)?.ok_or(InvalidTransition)?`. -/
def required_local : Except PairingServiceError OpenedPairingRecord := do
  let record ← (state.local_record suite stage).mapError .State
  some_or record .InvalidTransition

def required_remote : Except PairingServiceError OpenedPairingRecord := do
  let record ← (state.remote_record suite stage).mapError .State
  some_or record .InvalidTransition

def validate_join_proof : Except PairingServiceError JoinProof := do
  let invitation ← required_local suite state .Invitation
  require (pairing.in_reply_to = some invitation.envelope.message_id) .InvalidTransition
  let payload ← (suite.pairing_invitation.decode invitation.plaintext).mapError .Protocol
  let proof ← (suite.join_proof.decode plaintext).mapError .Protocol
  let received ← (suite.invitation.encode proof.invitation).mapError .Protocol
  let issued ← (suite.invitation.encode payload.invitation).mapError .Protocol
  require (received = issued ∧ proof.credential.device_id = state.capability.offer.device_id
    ∧ proof.credential.device_root_public_key = state.capability.offer.device_root_public_key
    ∧ some proof.invitation.conversation_id = state.conversation_id) .AuthorizationMismatch
  let _ ← (verify_device_credential_binding suite.identity proof.credential).mapError
    .Cryptographic
  pure proof

/-- The deadline of the record with a message identifier, by stage, own records first. -/
def cancellation_deadline_among (in_reply_to : PairingMessageId) :
    List PairingStage → Except PairingStateError (Option ℕ)
  | [] => .ok none
  | stage :: rest => do
    let own ← state.local_record suite stage
    let peer ← state.remote_record suite stage
    match (own.toList ++ peer.toList).find? fun record =>
        record.envelope.message_id = in_reply_to with
    | some record => pure (some record.envelope.expires_at_unix_seconds)
    | none => cancellation_deadline_among in_reply_to rest

def cancellation_deadline_for_reply : Except PairingServiceError ℕ := do
  let deadline ← (cancellation_deadline_among suite state in_reply_to
    [.Invitation, .JoinProof, .Welcome, .Completion]).mapError .State
  some_or deadline .InvalidTransition

end

/-- Whether a precommit phase, or a joiner with a completion, is past its deadline. -/
def should_cancel (checkpoint : PairingCheckpoint) (joiner_completion_deadline : Option ℕ)
    (now_unix_seconds : ℕ) : Bool :=
  match joiner_completion_deadline with
  | none => checkpoint.authorization_deadline_unix_seconds ≤ now_unix_seconds
      && (is_precommit_phase checkpoint.phase || checkpoint.phase = .JoinerAwaitingWelcome)
  | some deadline => deadline ≤ now_unix_seconds

/-- The cursor after a run of records that leaves no gap. -/
def contiguous_after (after : ℕ) : List StoredRelayEnvelope → Option ℕ
  | [] => some after
  | stored :: rest => do
    let expected ← checked_add after 1
    if stored.cursor = expected then contiguous_after expected rest else none

/-- `validate_replay_page`: the page continues the log after the cursor. -/
def validate_replay_page (after : ℕ) (page : ReplayPage) : Except PairingServiceError Unit :=
  require (contiguous_after after page.envelopes = some page.next_cursor) .InvalidRelayResponse

def validate_acknowledgment (requested effective : AcknowledgeRequest) :
    Except PairingServiceError Unit :=
  require (effective.routing_id = requested.routing_id ∧ requested.cursor ≤ effective.cursor)
    .InvalidRelayResponse

namespace PairingService

variable {ω : Type} (service : PairingService ω) (pairing_id : PairingId)
  (checkpoint : PairingCheckpoint) (state : PairingOperationState) (pairing : PairingEnvelope)
  (plaintext : Bytes) (stage : PairingStage) (now_unix_seconds : ℕ)
  (cancellation_requested : Bool)

/-! ## Rows and records -/

def load_checkpoint : Service ω PairingCheckpoint :=
  store fun pairings => ((load_pairing pairings pairing_id).mapError .Persistence, pairings)

def checkpoint_state (next_phase : PairingPhase) (completion_deadline : Option ℕ)
    (replay_cursor : ℕ) : Service ω Unit := do
  let encoded ← lift .State (state.encode service.suite)
  let _ ← store fun pairings => transaction pairings
    ((checkpoint_pairing pairings checkpoint.pairing_id checkpoint.generation next_phase
      completion_deadline replay_cursor encoded).mapError .Persistence)
  pure ()

def active_pairing_ids (after : Option PairingId) (limit : ℕ) : Service ω (List PairingId) :=
  store fun pairings =>
    ((Daemon.active_pairing_ids pairings after limit).mapError .Persistence, pairings)

def from_checkpoint : Service ω PairingOperationState :=
  lift .State (PairingOperationState.from_checkpoint service.suite checkpoint)

/-- What a state holds, where it is looked for at all. -/
def local_record_if (p : Prop) [Decidable p] : Service ω (Option OpenedPairingRecord) :=
  if p then lift .State (state.local_record service.suite stage) else pure none

def prepare_outbound_with_id (message_id : PairingMessageId) (stage : PairingStage)
    (in_reply_to : Option PairingMessageId) (expires_at_unix_seconds : ℕ) (plaintext : Bytes) :
    Service ω PairingOperationState := do
  let random ← ask .Cryptographic service.fill_random
  lift .State (state.prepare_outbound_with_id service.suite message_id stage in_reply_to
    expires_at_unix_seconds plaintext random.1 random.2)

def prepare_outbound (in_reply_to : Option PairingMessageId) (expires_at_unix_seconds : ℕ)
    (plaintext : Bytes) : Service ω PairingOperationState := do
  let message_id ← ask .Cryptographic service.generate_pairing_message_id
  service.prepare_outbound_with_id state message_id stage in_reply_to expires_at_unix_seconds
    plaintext

/-- A joiner's pending join goes with its pairing. -/
def cleanup_terminal_join : Service ω Unit :=
  if checkpoint.role ≠ .Joiner ∨ checkpoint.phase.is_terminal = false then pure ()
  else do
    let state ← service.from_checkpoint checkpoint
    match state.conversation_id with
    | none => check (checkpoint.phase = .Cancelled) .InvalidTransition
    | some conversation_id => ask .Conversation (service.complete_pairing_join conversation_id)

/-! ## The inviter's commit -/

/-- The Welcome of a commit that was sent, sealed and checkpointed. -/
def checkpoint_welcome (conversation_id : ConversationId) (join_proof : OpenedPairingRecord)
    (sent : SentMembership) : Service ω Unit := do
  let welcome ← value_or sent.welcome .InvalidTransition
  let payload ← lift (fun error => .Protocol (.Domain error))
    (PairingWelcomePayload.new conversation_id welcome sent.cursor)
  let deadline ← value_or checkpoint.completion_deadline_unix_seconds .InvalidTransition
  let encoded ← lift .Protocol (service.suite.pairing_welcome.encode payload)
  let state ← service.prepare_outbound state .Welcome (some join_proof.envelope.message_id)
    deadline encoded
  service.checkpoint_state checkpoint state checkpoint.phase
    checkpoint.completion_deadline_unix_seconds checkpoint.replay_cursor

def resume_inviter_commit_if_required (create_if_missing : Bool) : Service ω Bool := do
  let checkpoint ← load_checkpoint pairing_id
  if checkpoint.role ≠ .Inviter
      ∨ (checkpoint.phase ≠ .InviterAwaitingCompletion ∧ checkpoint.phase ≠ .Compensating) then
    pure true
  else do
    let state ← service.from_checkpoint checkpoint
    let welcome ← lift .State (state.local_record service.suite .Welcome)
    if welcome.isSome = true then pure true
    else do
      let join_proof ← of (required_remote service.suite state .JoinProof)
      let proof ← of (validate_join_proof service.suite state join_proof.envelope
        join_proof.plaintext)
      let conversation_id ← value_or state.conversation_id .InvalidTransition
      let resumed ← ask .Application (service.resume_add_member conversation_id proof
        now_unix_seconds)
      match resumed with
      | some sent => do
        service.checkpoint_welcome checkpoint state conversation_id join_proof sent
        pure true
      | none =>
        if create_if_missing = true then do
          let sent ← ask .Application (service.add_member conversation_id proof now_unix_seconds
            checkpoint.authorization_deadline_unix_seconds)
          service.checkpoint_welcome checkpoint state conversation_id join_proof sent
          pure true
        else pure false

/-! ## Deadlines and compensation -/

/-- The removal of a member whose pairing did not complete. -/
def remove_and_cancel : Service ω Bool := do
  let state ← service.from_checkpoint checkpoint
  let conversation_id ← value_or state.conversation_id .InvalidTransition
  let _ ← ask .Application (service.remove_member conversation_id
    state.capability.offer.device_id now_unix_seconds COMPENSATION_ENVELOPE_EXPIRY)
  service.checkpoint_state checkpoint state .Cancelled
    checkpoint.completion_deadline_unix_seconds checkpoint.replay_cursor
  pure true

/-- The end of `compensate_if_required`: an inviter's commit without a completion. -/
def compensate_commit : Service ω Bool :=
  if checkpoint.role ≠ .Inviter then pure false
  else if checkpoint.phase = .InviterAwaitingCompletion then do
    let deadline ← value_or checkpoint.completion_deadline_unix_seconds .InvalidTransition
    if cancellation_requested = false ∧ now_unix_seconds < deadline then pure false
    else do
      service.checkpoint_state checkpoint state .Compensating (some deadline)
        checkpoint.replay_cursor
      let checkpoint ← load_checkpoint pairing_id
      if checkpoint.phase ≠ .Compensating then pure false
      else service.remove_and_cancel checkpoint now_unix_seconds
  else if checkpoint.phase ≠ .Compensating then pure false
  else service.remove_and_cancel checkpoint now_unix_seconds

/-- The middle of `compensate_if_required`: the deadlines before a commit. -/
def cancel_if_expired : Service ω Bool := do
  let completion ← service.local_record_if state .Completion
    (checkpoint.phase = .JoinerAwaitingWelcome)
  if should_cancel checkpoint
      (completion.map fun record => record.envelope.expires_at_unix_seconds)
      now_unix_seconds = true then do
    service.checkpoint_state checkpoint state .Cancelled none checkpoint.replay_cursor
    let checkpoint ← load_checkpoint pairing_id
    service.cleanup_terminal_join checkpoint
    pure true
  else
    service.compensate_commit pairing_id checkpoint state now_unix_seconds cancellation_requested

/-- A commit whose Welcome is not sealed yet: it is resumed, or the pairing ends without. -/
def resume_or_cancel (deadline : ℕ) (must_cancel : Bool) : Service ω Bool := do
  if ← service.resume_inviter_commit_if_required pairing_id now_unix_seconds false then do
    let checkpoint ← load_checkpoint pairing_id
    let state ← service.from_checkpoint checkpoint
    service.cancel_if_expired pairing_id checkpoint state now_unix_seconds cancellation_requested
  else if must_cancel = false then pure false
  else do
    service.checkpoint_state checkpoint state .Cancelled (some deadline) checkpoint.replay_cursor
    pure true

def compensate_if_required : Service ω Bool := do
  let checkpoint ← load_checkpoint pairing_id
  let state ← service.from_checkpoint checkpoint
  let committing := checkpoint.role = .Inviter
    ∧ (checkpoint.phase = .InviterAwaitingCompletion ∨ checkpoint.phase = .Compensating)
  let welcome ← service.local_record_if state .Welcome committing
  if committing ∧ welcome = none then do
    let deadline ← value_or checkpoint.completion_deadline_unix_seconds .InvalidTransition
    let must_cancel := cancellation_requested || decide (deadline ≤ now_unix_seconds)
      || decide (checkpoint.phase = .Compensating)
    if must_cancel = true ∧ checkpoint.phase = .InviterAwaitingCompletion then do
      service.checkpoint_state checkpoint state .Compensating (some deadline)
        checkpoint.replay_cursor
      let checkpoint ← load_checkpoint pairing_id
      let state ← service.from_checkpoint checkpoint
      service.resume_or_cancel pairing_id checkpoint state now_unix_seconds
        cancellation_requested deadline must_cancel
    else
      service.resume_or_cancel pairing_id checkpoint state now_unix_seconds
        cancellation_requested deadline must_cancel
  else
    service.cancel_if_expired pairing_id checkpoint state now_unix_seconds cancellation_requested

/-! ## Own records -/

def is_pending (outbound : PairingOutbound) : Bool := outbound.accepted_cursor.isNone

/-- The record to submit next: what a pending cancellation answers, the cancellation, or
the first that is pending. -/
def next_pending : Option PairingOutbound :=
  let cancellation := (state.outbounds.filter is_pending).find? fun outbound =>
    outbound.carries service.suite fun envelope => envelope.stage = .Cancellation
  let in_reply_to := cancellation.bind fun outbound =>
    match service.suite.pairing_envelope.decode outbound.envelope.payload with
    | .ok envelope => envelope.in_reply_to
    | .error _ => none
  let prerequisite := in_reply_to.bind fun in_reply_to => state.outbounds.find? fun outbound =>
    is_pending outbound
      && outbound.carries service.suite fun envelope => envelope.message_id = in_reply_to
  (prerequisite.or cancellation).or (state.outbounds.find? is_pending)

/-- One turn of the loop of `retry_outbounds_serialized`; whether there is another. -/
def retry_outbound : Service ω Bool := do
  if ← service.compensate_if_required pairing_id now_unix_seconds false then pure false
  else do
    let checkpoint ← load_checkpoint pairing_id
    if checkpoint.phase.is_terminal = true then do
      service.cleanup_terminal_join checkpoint
      pure false
    else do
      let state ← service.from_checkpoint checkpoint
      match service.next_pending state with
      | none => pure false
      | some outbound => do
        let pairing ← lift .State (outbound.pairing_envelope service.suite)
        of (require_before now_unix_seconds outbound.envelope.expires_at_unix_seconds)
        let stored ← ask .Client (service.submit outbound.envelope)
        check (stored.envelope = outbound.envelope) .InvalidRelayResponse
        let state ← lift .State (state.mark_outbound_accepted service.suite pairing.message_id
          stored.cursor)
        service.checkpoint_state checkpoint state
          (terminal_after_submission service.suite checkpoint state)
          checkpoint.completion_deadline_unix_seconds checkpoint.replay_cursor
        pure true

def retry_outbounds_loop (pairing_id : PairingId) (now_unix_seconds : ℕ) : ℕ → Service ω Unit
  | 0 => of (.error .InvalidTransition)
  | fuel + 1 => do
    if ← service.retry_outbound pairing_id now_unix_seconds
    then retry_outbounds_loop pairing_id now_unix_seconds fuel else pure ()

/-- Each turn but the last gives one outbound its cursor, and there are `MAX_OUTBOUNDS`. -/
def retry_outbounds_serialized : Service ω Unit :=
  service.retry_outbounds_loop pairing_id now_unix_seconds (MAX_OUTBOUNDS + 1)

def retry_outbounds : Service ω Unit :=
  service.retry_outbounds_serialized pairing_id now_unix_seconds

/-! ## The peer's records -/

def verify_invitation_payload (payload : PairingInvitationPayload) : Service ω Unit := do
  let local_device_id ← ask .Conversation service.device_id
  let offer := state.capability.offer
  check (local_device_id = offer.device_id
    ∧ payload.invitation.expected_device_id = offer.device_id
    ∧ payload.invitation.expires_at_unix_seconds = offer.expires_at_unix_seconds)
    .AuthorizationMismatch
  lift .Cryptographic (payload.peer_bindings.forM fun binding => do
    let _ ← verify_device_credential_binding service.suite.identity binding
    pure ())
  let issuer ← value_or (payload.peer_bindings.find? fun binding =>
    binding.device_id = payload.invitation.issuer_device_id
      ∧ binding.device_root_public_key = payload.issuer_public_key) .AuthorizationMismatch
  lift .Cryptographic (verify_invitation service.suite.identity payload.invitation
    issuer.device_root_public_key now_unix_seconds)

/-- The root key of the peer: the offer's, or the invitation's issuer's. -/
def peer_public_key : Except PairingServiceError Ed25519PublicKey :=
  match checkpoint.role with
  | .Inviter => .ok state.capability.offer.device_root_public_key
  | .Joiner => do
    let invitation ← required_remote service.suite state .Invitation
    let payload ← (service.suite.pairing_invitation.decode invitation.plaintext).mapError .Protocol
    pure payload.issuer_public_key

/-- Where a cancellation by the peer leads. -/
def cancelled_phase : Except PairingServiceError PairingPhase :=
  if checkpoint.role = .Inviter ∧ checkpoint.phase = .InviterAwaitingCompletion then
    .ok .Compensating
  else if is_cancellable_precommit_phase checkpoint.phase = true
      ∨ checkpoint.phase = .JoinerAwaitingWelcome then .ok .Cancelled
  else .error .InvalidTransition

def process_remote_cancellation : Except PairingServiceError (PairingPhase × Option ℕ) := do
  let conversation_id ← some_or state.conversation_id .InvalidTransition
  let reply ← some_or pairing.in_reply_to .InvalidTransition
  let deadline ← cancellation_deadline_for_reply service.suite state reply
  require (pairing.expires_at_unix_seconds = deadline) .InvalidTransition
  let control ← (service.suite.pairing_control.decode plaintext).mapError .Protocol
  require_matching_control pairing control conversation_id
  let public_key ← service.peer_public_key checkpoint state
  (verify_pairing_control service.root service.suite.identity control public_key).mapError
    .Cryptographic
  let phase ← cancelled_phase checkpoint
  pure (phase, checkpoint.completion_deadline_unix_seconds)

/-- The joiner's Welcome: it joins, and seals its completion. -/
def process_welcome : Service ω PairingOperationState := do
  let join_proof ← of (required_local service.suite state .JoinProof)
  check (pairing.in_reply_to = some join_proof.envelope.message_id) .InvalidTransition
  let welcome ← lift .Protocol (service.suite.pairing_welcome.decode plaintext)
  check (some welcome.conversation_id = state.conversation_id) .AuthorizationMismatch
  let mls_welcome ← lift .Cryptographic (service.mls_welcome welcome.welcome)
  let _ ← ask .Application (service.accept_pairing_welcome welcome.conversation_id mls_welcome
    welcome.commit_cursor)
  let message_id ← ask .Cryptographic service.generate_pairing_message_id
  let control ← ask .Conversation (service.sign_pairing_control pairing.pairing_id message_id
    .Completion pairing.message_id welcome.conversation_id)
  let encoded ← lift .Protocol (service.suite.pairing_control.encode control)
  service.prepare_outbound_with_id state message_id .Completion (some pairing.message_id)
    pairing.expires_at_unix_seconds encoded

/-- The inviter's completion, signed by the root of the offer. -/
def process_completion : Except PairingServiceError Unit := do
  let deadline ← some_or checkpoint.completion_deadline_unix_seconds .InvalidTransition
  require (pairing.expires_at_unix_seconds = deadline) .InvalidTransition
  let welcome ← required_local service.suite state .Welcome
  require (pairing.in_reply_to = some welcome.envelope.message_id) .InvalidTransition
  let control ← (service.suite.pairing_control.decode plaintext).mapError .Protocol
  let conversation_id ← some_or state.conversation_id .InvalidTransition
  require_matching_control pairing control conversation_id
  (verify_pairing_control service.root service.suite.identity control
    state.capability.offer.device_root_public_key).mapError .Cryptographic

/-- `process_remote_stage`, with the state it leaves. -/
def process_remote_stage : Service ω (PairingPhase × Option ℕ × PairingOperationState) :=
  match pairing.stage with
  | .Cancellation => do
    let result ← of (service.process_remote_cancellation checkpoint state pairing plaintext)
    pure (result.1, result.2, state)
  | .Invitation => do
    of (require_phase checkpoint .Joiner .JoinerAwaitingInvitation)
    of (require_authorization_record checkpoint pairing)
    let payload ← lift .Protocol (service.suite.pairing_invitation.decode plaintext)
    service.verify_invitation_payload state now_unix_seconds payload
    let state ← lift .State (state.set_conversation_id payload.invitation.conversation_id)
    pure (.JoinerAwaitingInviterAuthorization, none, state)
  | .Welcome => do
    of (require_phase checkpoint .Joiner .JoinerAwaitingWelcome)
    let state ← service.process_welcome state pairing plaintext
    pure (.JoinerAwaitingWelcome, none, state)
  | .Completion => do
    of (require_phase checkpoint .Inviter .InviterAwaitingCompletion)
    of (service.process_completion checkpoint state pairing plaintext)
    pure (.Completed, checkpoint.completion_deadline_unix_seconds, state)
  | .JoinProof => of (.error .InvalidTransition)

def checkpoint_inviter_commit (replay_cursor : ℕ) : Service ω Unit := do
  of (require_authorization_record checkpoint pairing)
  let _ ← of (validate_join_proof service.suite state pairing plaintext)
  let deadline ← of (completion_deadline checkpoint.authorization_deadline_unix_seconds
    now_unix_seconds)
  service.checkpoint_state checkpoint state .InviterAwaitingCompletion (some deadline)
    replay_cursor

/-- A record of the peer that was not observed before. -/
def process_added (cursor : ℕ) : Service ω Unit :=
  if checkpoint.role = .Inviter ∧ checkpoint.phase = .InviterAwaitingJoinProof
      ∧ pairing.stage = .JoinProof then
    service.checkpoint_inviter_commit checkpoint state pairing plaintext now_unix_seconds cursor
  else do
    let result ← service.process_remote_stage checkpoint state pairing plaintext now_unix_seconds
    service.checkpoint_state checkpoint result.2.2 result.1 result.2.1 cursor

/-- `process_stored` once the record is observed: what each observation writes. -/
def process_observed (stored : StoredRelayEnvelope) :
    PairingObservationResult × PairingOperationState → Service ω Unit
  | (.LocalEcho, state) =>
    service.checkpoint_state checkpoint state
      (terminal_after_submission service.suite checkpoint state)
      checkpoint.completion_deadline_unix_seconds stored.cursor
  | (.Duplicate _, state) =>
    service.checkpoint_state checkpoint state checkpoint.phase
      checkpoint.completion_deadline_unix_seconds stored.cursor
  | (.Added plaintext, state) =>
    service.process_added checkpoint state pairing plaintext now_unix_seconds stored.cursor

def process_stored (stored : StoredRelayEnvelope) : Service ω Unit := do
  let checkpoint ← load_checkpoint pairing_id
  if stored.cursor ≤ checkpoint.replay_cursor then pure ()
  else do
    check (checked_add checkpoint.replay_cursor 1 = some stored.cursor) .InvalidRelayResponse
    let state ← service.from_checkpoint checkpoint
    let pairing ← lift .Protocol (service.suite.pairing_envelope.decode stored.envelope.payload)
    of (require_before now_unix_seconds pairing.expires_at_unix_seconds)
    let observed ← lift .State (state.observe service.suite stored)
    service.process_observed checkpoint pairing now_unix_seconds stored observed

/-! ## Replay

The loops are over whatever processes a record: the service's own is `process_stored`. -/

section

variable (process : StoredRelayEnvelope → Service ω Unit)

/-- The records of a page, one after the other: processed, acknowledged, answered. -/
def process_page (routing_id : RoutingId) : List StoredRelayEnvelope → Service ω Unit
  | [] => pure ()
  | stored :: rest => do
    process stored
    let acknowledgment : AcknowledgeRequest := ⟨routing_id, stored.cursor, stored.cursor_pos⟩
    let effective ← ask .Client (service.acknowledge acknowledgment)
    of (validate_acknowledgment acknowledgment effective)
    service.retry_outbounds_serialized pairing_id now_unix_seconds
    process_page routing_id rest

def replay_through : Service ω ℕ := do
  if ← service.compensate_if_required pairing_id now_unix_seconds false then pure 0
  else do
    let checkpoint ← load_checkpoint pairing_id
    if checkpoint.phase.is_terminal = true then do
      service.cleanup_terminal_join checkpoint
      pure 0
    else do
      let page ← ask .Client (service.replay ⟨checkpoint.routing_id, checkpoint.replay_cursor,
        PAIRING_REPLAY_LIMIT, by decide⟩)
      of (validate_replay_page checkpoint.replay_cursor page)
      service.process_page pairing_id now_unix_seconds process checkpoint.routing_id
        page.envelopes
      if page.has_more = false then do
        let _ ← service.resume_inviter_commit_if_required pairing_id now_unix_seconds true
        service.retry_outbounds_serialized pairing_id now_unix_seconds
        pure page.envelopes.length
      else pure page.envelopes.length

end

def replay_once : Service ω ℕ :=
  service.replay_through pairing_id now_unix_seconds fun stored =>
    service.process_stored pairing_id now_unix_seconds stored

/-! ## Sweeps -/

/-- There is no pairing beyond a full page. -/
def require_no_overflow (page : List PairingId) : Service ω Unit :=
  if page.length = ACTIVE_PAIRING_PAGE_SIZE then do
    let current ← active_pairing_ids none ACTIVE_PAIRING_PAGE_SIZE
    if current.length = ACTIVE_PAIRING_PAGE_SIZE then do
      let overflow ← active_pairing_ids current.getLast? 1
      check (overflow.isEmpty = true) (.Persistence .PairingCapacityExceeded)
    else pure ()
  else pure ()

def recover : Service ω ℕ := do
  let page ← active_pairing_ids none ACTIVE_PAIRING_PAGE_SIZE
  page.forM fun pairing_id => service.retry_outbounds pairing_id now_unix_seconds
  require_no_overflow page
  pure page.length

section

variable (process : PairingId → StoredRelayEnvelope → Service ω Unit)

/-- The loop of `sync_active_admitted`: how many records were processed. -/
def replay_each (processed : ℕ) : List PairingId → Service ω ℕ
  | [] => pure processed
  | pairing_id :: rest => do
    let count ← service.replay_through pairing_id now_unix_seconds (process pairing_id)
    let processed ← value_or (checked_add processed count) .InvalidTransition
    replay_each processed rest

/-- `sync_active_once`, with `sync_active_admitted`. -/
def sync_through : Service ω ℕ := do
  ask id service.try_begin
  let _ ← service.recover now_unix_seconds
  let page ← active_pairing_ids none ACTIVE_PAIRING_PAGE_SIZE
  service.replay_each now_unix_seconds process 0 page

end

def sync_active_once : Service ω ℕ :=
  service.sync_through now_unix_seconds fun pairing_id stored =>
    service.process_stored pairing_id now_unix_seconds stored

end PairingService

end Konclave.Daemon.Pairing
