/-
`Konclave.LocalDaemon`: the state of one side of a pairing.

What a daemon keeps of an exchange: its role, the capability, the conversation once it is
known, the peer's records in the order of the relay, and its own records with the cursors
the relay gave them. No stage is sent or observed twice, no message identifier is used for
two records, and a relay cursor belongs to one record.
-/
import Konclave.Cryptographic.Pairing
import Konclave.Hosted

set_option autoImplicit false

namespace Konclave.Daemon

open Protobuf Domain Relay Cryptographic

/-! ## Roles and phases -/

inductive PairingRole
  | Joiner
  | Inviter
  deriving DecidableEq, Repr

inductive PairingPhase
  | JoinerAwaitingInvitation
  | JoinerAwaitingInviterAuthorization
  | JoinerAwaitingWelcome
  | InviterAwaitingAuthorization
  | InviterAwaitingJoinProof
  | InviterAwaitingCompletion
  | Compensating
  | Completed
  | Cancelled
  deriving DecidableEq, Repr

def PairingPhase.is_terminal : PairingPhase → Bool
  | .Completed | .Cancelled => true
  | _ => false

def local_sender : PairingRole → PairingSenderRole
  | .Joiner => .Joiner
  | .Inviter => .Inviter

/-! ## States -/

def MAX_OBSERVATIONS : ℕ := 8
def MAX_OUTBOUNDS : ℕ := 8
def MAX_PAIRING_STATE_BYTES : ℕ := 4 * 1024 * 1024

inductive PairingStateError
  | InvalidEncoding
  | Capacity
  | Conflict
  | CheckpointMismatch
  | UnexpectedSender
  | OperationNotFound
  | Client (error : KonclaveClientError)
  | Cryptographic (error : KonclaveCryptographicError)
  | Domain (error : KonclaveDomainError)
  | Protocol (error : KonclaveProtocolError)
  deriving DecidableEq

structure PairingOutbound where
  envelope : RelayEnvelope
  accepted_cursor : Option ℕ
  deriving DecidableEq

structure PairingOperationState where
  role : PairingRole
  capability : PairingCapability
  conversation_id : Option ConversationId
  observations : List StoredRelayEnvelope
  outbounds : List PairingOutbound
  deriving DecidableEq

/-- A row of `daemon_pairing`, its state opened. -/
structure PairingCheckpoint where
  pairing_id : PairingId
  routing_id : RoutingId
  role : PairingRole
  phase : PairingPhase
  authorization_deadline_unix_seconds : ℕ
  completion_deadline_unix_seconds : Option ℕ
  replay_cursor : ℕ
  generation : ℕ
  state : PairingOperationState
  deriving DecidableEq

inductive PairingObservationResult
  | Added (plaintext : Bytes)
  | Duplicate (plaintext : Bytes)
  | LocalEcho
  deriving DecidableEq

/-- A record with what it seals. -/
structure OpenedPairingRecord where
  envelope : PairingEnvelope
  plaintext : Bytes
  deriving DecidableEq

section

variable {α : Type}

def of_protocol (x : Except KonclaveProtocolError α) : Except PairingStateError α :=
  x.mapError .Protocol

def of_cryptographic (x : Except KonclaveCryptographicError α) : Except PairingStateError α :=
  x.mapError .Cryptographic

theorem of_protocol_eq_ok {x : Except KonclaveProtocolError α} {a : α} :
    of_protocol x = .ok a ↔ x = .ok a := Hosted.mapError_eq_ok

theorem of_cryptographic_eq_ok {x : Except KonclaveCryptographicError α} {a : α} :
    of_cryptographic x = .ok a ↔ x = .ok a := Hosted.mapError_eq_ok

end

variable (suite : PairingSuite)

def PairingOutbound.pairing_envelope (outbound : PairingOutbound) :
    Except PairingStateError PairingEnvelope :=
  of_protocol (suite.pairing_envelope.decode outbound.envelope.payload)

/-- `pairing_envelope().is_ok_and(..)`. -/
def PairingOutbound.carries (outbound : PairingOutbound) (p : PairingEnvelope → Bool) : Bool :=
  match suite.pairing_envelope.decode outbound.envelope.payload with
  | .ok envelope => p envelope
  | .error _ => false

def validate_outer_envelope (capability : PairingCapability) (envelope : RelayEnvelope) :
    Except PairingStateError Unit :=
  require (envelope.version = ProtocolVersion.application_v1
    ∧ envelope.routing_id = capability_route suite capability
    ∧ envelope.delivery_class = .Pairing ∧ envelope.expected_parent_epoch = none) .Conflict

namespace PairingOperationState

variable (state : PairingOperationState) (stored : StoredRelayEnvelope) (pairing : PairingEnvelope)
  (stage : PairingStage)

def set_conversation_id (conversation_id : ConversationId) :
    Except PairingStateError PairingOperationState :=
  match state.conversation_id with
  | none => .ok { state with conversation_id := some conversation_id }
  | some existing => if existing = conversation_id then .ok state else .error .Conflict

/-! ## Records -/

/-- Opens the first record of a stage among payloads that must all decode up to it. -/
def record_among : List RelayEnvelope → Except PairingStateError (Option OpenedPairingRecord)
  | [] => .ok none
  | outer :: rest => do
    let envelope ← of_protocol (suite.pairing_envelope.decode outer.payload)
    if envelope.stage = stage then do
      let plaintext ← of_cryptographic (open_envelope suite state.capability envelope)
      pure (some ⟨envelope, plaintext⟩)
    else record_among rest

def remote_record : Except PairingStateError (Option OpenedPairingRecord) :=
  state.record_among suite stage (state.observations.map (·.envelope))

def local_record : Except PairingStateError (Option OpenedPairingRecord) :=
  state.record_among suite stage (state.outbounds.map (·.envelope))

/-- The loop of `prepare_outbound_with_id`: no outbound is of the stage. -/
def stage_unused (outbounds : List PairingOutbound) : Except PairingStateError Unit :=
  outbounds.forM fun existing => do
    let envelope ← existing.pairing_envelope suite
    require (envelope.stage ≠ stage) .Conflict

/-- `prepare_outbound_with_id`, given the randomness it draws. -/
def prepare_outbound_with_id (message_id : PairingMessageId) (stage : PairingStage)
    (in_reply_to : Option PairingMessageId) (expires_at_unix_seconds : ℕ) (plaintext : Bytes)
    (nonce : PairingNonce) (envelope_id : EnvelopeId) :
    Except PairingStateError PairingOperationState := do
  require (state.outbounds.length < MAX_OUTBOUNDS) .Capacity
  stage_unused suite stage state.outbounds
  let pairing ← of_cryptographic (seal_envelope suite state.capability.secret
    ⟨state.capability.offer.pairing_id, message_id, local_sender state.role, stage, in_reply_to,
      expires_at_unix_seconds, nonce⟩ plaintext)
  let payload ← of_protocol (suite.pairing_envelope.encode pairing)
  let envelope ← (RelayEnvelope.new ProtocolVersion.application_v1
    (capability_route suite state.capability) envelope_id .Pairing none expires_at_unix_seconds
    payload).mapError .Domain
  pure { state with outbounds := state.outbounds ++ [⟨envelope, none⟩] }

/-- Whether a cursor is that of an observation. -/
def observed_at (cursor : ℕ) : Bool :=
  state.observations.any fun observation => observation.cursor = cursor

/-- Whether a cursor was given to an outbound other than the one at `index`. -/
def accepted_elsewhere (index cursor : ℕ) : Bool :=
  state.outbounds.zipIdx.any fun (outbound, other) =>
    other ≠ index && outbound.accepted_cursor = some cursor

def outbound_position (message_id : PairingMessageId) : Option ℕ :=
  state.outbounds.findIdx? fun outbound =>
    outbound.carries suite fun envelope => envelope.message_id = message_id

/-- Gives the outbound at `index` its cursor; one it has must be the same. -/
def accept_at (index : ℕ) (outbound : PairingOutbound) (cursor : ℕ) :
    Except PairingStateError PairingOperationState :=
  match outbound.accepted_cursor with
  | none => .ok { state with
      outbounds := state.outbounds.set index { outbound with accepted_cursor := some cursor } }
  | some existing => if existing = cursor then .ok state else .error .Conflict

def mark_outbound_accepted (message_id : PairingMessageId) (cursor : ℕ) :
    Except PairingStateError PairingOperationState := do
  require (cursor ≠ 0) .InvalidEncoding
  require (state.observed_at cursor = false) .Conflict
  let index ← some_or (state.outbound_position suite message_id) .OperationNotFound
  require (state.accepted_elsewhere index cursor = false) .Conflict
  let outbound ← some_or state.outbounds[index]? .OperationNotFound
  state.accept_at index outbound cursor

/-- The branch of `observe` for a record in the daemon's own name. -/
def observe_echo : Except PairingStateError PairingOperationState := do
  let index ← some_or (state.outbound_position suite pairing.message_id) .UnexpectedSender
  require (state.observed_at stored.cursor = false
    ∧ state.accepted_elsewhere index stored.cursor = false) .Conflict
  let outbound ← some_or state.outbounds[index]? .UnexpectedSender
  require (outbound.envelope = stored.envelope) .Conflict
  state.accept_at index outbound stored.cursor

/-- The loop of `observe` over the observations: `true` at one that is the same record. -/
def matches_observed (pairing : PairingEnvelope) (cursor : ℕ) :
    List StoredRelayEnvelope → Except PairingStateError Bool
  | [] => .ok false
  | observed :: rest => do
    let existing ← of_protocol (suite.pairing_envelope.decode observed.envelope.payload)
    if existing.message_id = pairing.message_id then
      if existing = pairing then .ok true else .error .Conflict
    else do
      require (existing.stage ≠ pairing.stage ∧ observed.cursor ≠ cursor) .Conflict
      matches_observed pairing cursor rest

/-- The branch of `observe` for a record of the peer. -/
def observe_remote (plaintext : Bytes) :
    Except PairingStateError (PairingObservationResult × PairingOperationState) := do
  require (state.outbounds.any (fun outbound => outbound.accepted_cursor = some stored.cursor)
    = false) .Conflict
  if ← matches_observed suite pairing stored.cursor state.observations then
    pure (.Duplicate plaintext, state)
  else do
    require (∀ observed ∈ state.observations.getLast?, observed.cursor < stored.cursor) .Conflict
    require (state.observations.length < MAX_OBSERVATIONS) .Capacity
    pure (.Added plaintext, { state with observations := state.observations ++ [stored] })

def observe : Except PairingStateError (PairingObservationResult × PairingOperationState) := do
  validate_outer_envelope suite state.capability stored.envelope
  let pairing ← of_protocol (suite.pairing_envelope.decode stored.envelope.payload)
  require (pairing.expires_at_unix_seconds = stored.envelope.expires_at_unix_seconds) .Conflict
  let plaintext ← of_cryptographic (open_envelope suite state.capability pairing)
  if pairing.sender = local_sender state.role then do
    let state ← state.observe_echo suite stored pairing
    pure (.LocalEcho, state)
  else state.observe_remote suite stored pairing plaintext

/-! ## Encoding -/

/-- One turn of the first loop of `validate_loaded_state`: the records before, and this. -/
def validate_observation (seen : List PairingEnvelope × ℕ) (observation : StoredRelayEnvelope) :
    Except PairingStateError (List PairingEnvelope × ℕ) := do
  validate_outer_envelope suite state.capability observation.envelope
  let pairing ← of_protocol (suite.pairing_envelope.decode observation.envelope.payload)
  require (pairing.pairing_id = state.capability.offer.pairing_id
    ∧ pairing.sender ≠ local_sender state.role
    ∧ pairing.expires_at_unix_seconds = observation.envelope.expires_at_unix_seconds
    ∧ seen.2 < observation.cursor
    ∧ (∀ before ∈ seen.1, before.message_id ≠ pairing.message_id ∧ before.stage ≠ pairing.stage))
    .Conflict
  let _ ← of_cryptographic (open_envelope suite state.capability pairing)
  pure (seen.1 ++ [pairing], observation.cursor)

/-- One turn of the second loop, with the cursors that are taken. -/
def validate_outbound (seen : List (EnvelopeId × PairingEnvelope) × List ℕ)
    (outbound : PairingOutbound) :
    Except PairingStateError (List (EnvelopeId × PairingEnvelope) × List ℕ) := do
  require (outbound.envelope.routing_id = capability_route suite state.capability
    ∧ outbound.envelope.delivery_class = .Pairing
    ∧ outbound.envelope.expected_parent_epoch = none
    ∧ ∀ before ∈ seen.1, before.1 ≠ outbound.envelope.envelope_id) .Conflict
  let pairing ← outbound.pairing_envelope suite
  require (pairing.pairing_id = state.capability.offer.pairing_id
    ∧ pairing.sender = local_sender state.role
    ∧ (∀ before ∈ seen.1, before.2.message_id ≠ pairing.message_id
      ∧ before.2.stage ≠ pairing.stage)
    ∧ pairing.expires_at_unix_seconds = outbound.envelope.expires_at_unix_seconds
    ∧ ∀ cursor ∈ outbound.accepted_cursor, cursor ∉ seen.2) .Conflict
  let _ ← of_cryptographic (open_envelope suite state.capability pairing)
  pure (seen.1 ++ [(outbound.envelope.envelope_id, pairing)],
    seen.2 ++ outbound.accepted_cursor.toList)

def validate_loaded_state : Except PairingStateError Unit := do
  require (state.observations.length ≤ MAX_OBSERVATIONS
    ∧ state.outbounds.length ≤ MAX_OUTBOUNDS) .Capacity
  let _ ← state.observations.foldlM (state.validate_observation suite) ([], 0)
  let _ ← state.outbounds.foldlM (state.validate_outbound suite)
    ([], state.observations.map (·.cursor))
  pure ()

/-- `encode`; the encoding is represented by the state. -/
def encode : Except PairingStateError PairingOperationState := do
  state.validate_loaded_state suite
  let _ ← (suite.encode_capability state.capability).mapError .Client
  require (suite.state_length state.capability state.observations
    (state.outbounds.map (·.envelope)) ≤ MAX_PAIRING_STATE_BYTES) .Capacity
  pure state

/-- `decode`: the capability is authenticated again, at no current time. -/
def decode : Except PairingStateError PairingOperationState := do
  let text ← (suite.encode_capability state.capability).mapError .Client
  let _ ← (decode_capability suite text 0).mapError .Client
  state.validate_loaded_state suite
  pure state

def from_checkpoint (checkpoint : PairingCheckpoint) :
    Except PairingStateError PairingOperationState := do
  let state ← checkpoint.state.decode suite
  require (state.role = checkpoint.role
    ∧ state.capability.offer.pairing_id = checkpoint.pairing_id
    ∧ capability_route suite state.capability = checkpoint.routing_id
    ∧ state.capability.offer.expires_at_unix_seconds
      = checkpoint.authorization_deadline_unix_seconds
    ∧ ∀ observed ∈ state.observations.getLast?, observed.cursor ≤ checkpoint.replay_cursor)
    .CheckpointMismatch
  pure state

end PairingOperationState

end Konclave.Daemon
