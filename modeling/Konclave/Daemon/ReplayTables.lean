/-
`Konclave.LocalDaemon`: the tables a profile store replays into.

Conversations with their policy and replay position, the ledger of observed cursors, the
two inboxes, the sender counters, the message history and the two outboxes. A status
column and the columns it makes null are one inductive type, so that every row satisfies
its `CHECK`; the unique columns are the names of a row. A sealed record is represented by
what it seals. The tables no modelled statement reads a column of (collaboration policies,
repeat pairings) are `others`, and what the store does to them is a parameter.
-/
import Konclave.Cryptographic.Identity
import Konclave.Daemon.RemoteEvents
import Konclave.Domain.RequestService
import Konclave.Domain.Relay
import Konclave.Unique

set_option autoImplicit false

namespace Konclave.Daemon.Replay

open Domain Cryptographic RemoteEvents

def MAX_MESSAGE_PAGE_SIZE : ℕ := 100
def MAX_LOCAL_BINDINGS : ℕ := MAX_MEMBERS + 1

/-! ## Rows -/

inductive ReplayCompletionKind
  | Application
  | Membership
  | Join
  deriving DecidableEq, Repr

/-- The record of the last completed cursor. -/
structure ReplayHead where
  previous_cursor : ℕ
  cursor : ℕ
  kind : ReplayCompletionKind
  completion_state : ConversationState
  policy_state : ConversationState
  envelope : RelayEnvelope
  deriving DecidableEq

/-- A conversation with its bindings. `self_binding` is the one of its signing material. -/
structure ConversationRow where
  conversation_id : ConversationId
  routing_id : RoutingId
  self_binding : DeviceCredentialBinding
  state : ConversationState
  bindings : List DeviceCredentialBinding
  sender_counter : ℕ
  replay_cursor : ℕ
  replay_head : Option ReplayHead
  adapter_delivery_policy : Option Bool
  deriving DecidableEq

structure ObservationRow where
  conversation_id : ConversationId
  stored : StoredRelayEnvelope
  deriving DecidableEq

/-- What an inbox row seals once its message is decrypted. -/
structure InboxMessage where
  sender : DeviceId
  epoch : ℕ
  message : ApplicationMessage
  deriving DecidableEq

inductive InboxState
  | Received
  | MessageSaved (message : InboxMessage)
  | Complete (message : InboxMessage)
  deriving DecidableEq

structure InboxRow where
  conversation_id : ConversationId
  stored : StoredRelayEnvelope
  state : InboxState
  deriving DecidableEq

/-- A decoded membership control. -/
structure MembershipControl where
  authorization : MembershipAuthorization
  join_proof : Option JoinProof
  deriving DecidableEq

structure MembershipTransition where
  sender : DeviceId
  parent_epoch : ℕ
  operation_id : MembershipOperationId
  control : MembershipControl
  next_state : ConversationState
  bindings : List DeviceCredentialBinding
  deriving DecidableEq

inductive MembershipInboxState
  | Received
  | TransitionSaved (transition : MembershipTransition)
  | Complete (transition : MembershipTransition)
  deriving DecidableEq

structure MembershipInboxRow where
  conversation_id : ConversationId
  stored : StoredRelayEnvelope
  state : MembershipInboxState
  deriving DecidableEq

structure SenderCounterRow where
  conversation_id : ConversationId
  sender : DeviceId
  epoch : ℕ
  highest_counter : ℕ
  deriving DecidableEq

inductive RequestServiceHistoryReply
  | Pending
  | Complete (reply : MessageId)
  deriving DecidableEq, Repr

structure HistoryRow where
  conversation_id : ConversationId
  envelope_id : EnvelopeId
  cursor : Option ℕ
  direction : MessageDirection
  complete : Bool
  sender : DeviceId
  epoch : ℕ
  message : ApplicationMessage
  request_service_reply : Option RequestServiceHistoryReply
  deriving DecidableEq

inductive OutboxTerminalReason
  | Expired
  | Removed
  deriving DecidableEq, Repr

inductive OutboxState
  | Reserved
  | Ready (envelope : RelayEnvelope) (terminal_reason : Option OutboxTerminalReason)
  | Accepted (envelope : RelayEnvelope) (cursor : ℕ)
  | Abandoned
  deriving DecidableEq

structure OutboxRow where
  envelope_id : EnvelopeId
  conversation_id : ConversationId
  message_id : MessageId
  sender_counter : ℕ
  state : OutboxState
  deriving DecidableEq

inductive MembershipOutboxState
  | Ready
  | Accepted (cursor : ℕ)
  | Applied (cursor : ℕ)
  | Orphaned
  deriving DecidableEq, Repr

structure MembershipOutboxRow where
  operation_id : MembershipOperationId
  conversation_id : ConversationId
  parent_epoch : ℕ
  envelope : RelayEnvelope
  control : MembershipControl
  next_state : ConversationState
  bindings : List DeviceCredentialBinding
  welcome : Option Protobuf.Bytes
  state : MembershipOutboxState
  deriving DecidableEq

def InboxState.message : InboxState → Option InboxMessage
  | .Received => none
  | .MessageSaved message | .Complete message => some message

def InboxState.is_complete : InboxState → Bool
  | .Complete _ => true
  | _ => false

def MembershipInboxState.transition : MembershipInboxState → Option MembershipTransition
  | .Received => none
  | .TransitionSaved transition | .Complete transition => some transition

def MembershipInboxState.is_complete : MembershipInboxState → Bool
  | .Complete _ => true
  | _ => false

def OutboxState.envelope : OutboxState → Option RelayEnvelope
  | .Ready envelope _ | .Accepted envelope _ => some envelope
  | _ => none

/-! ## Unique columns

The names a row takes in the unique indices of its table. -/

inductive InboxName
  | envelope (envelope_id : EnvelopeId)
  | message (conversation_id : ConversationId) (message_id : MessageId)
  | counter (conversation_id : ConversationId) (sender : DeviceId) (epoch counter : ℕ)
  deriving DecidableEq

def InboxRow.names (row : InboxRow) : List InboxName :=
  .envelope row.stored.envelope.envelope_id :: match row.state.message with
    | none => []
    | some message => [.message row.conversation_id message.message.message_id,
        .counter row.conversation_id message.sender message.epoch message.message.sender_counter]

inductive MembershipInboxName
  | envelope (envelope_id : EnvelopeId)
  | operation (operation_id : MembershipOperationId)
  deriving DecidableEq

def MembershipInboxRow.names (row : MembershipInboxRow) : List MembershipInboxName :=
  .envelope row.stored.envelope.envelope_id :: match row.state.transition with
    | none => []
    | some transition => [.operation transition.operation_id]

inductive HistoryName
  | envelope (envelope_id : EnvelopeId)
  | counter (conversation_id : ConversationId) (sender : DeviceId) (epoch counter : ℕ)
  | cursor (conversation_id : ConversationId) (cursor : ℕ)
  deriving DecidableEq

def HistoryRow.names (row : HistoryRow) : List HistoryName :=
  .envelope row.envelope_id
    :: .counter row.conversation_id row.sender row.epoch row.message.sender_counter
    :: row.cursor.toList.map (HistoryName.cursor row.conversation_id)

inductive OutboxName
  | message (conversation_id : ConversationId) (message_id : MessageId)
  | counter (conversation_id : ConversationId) (counter : ℕ)
  deriving DecidableEq

def OutboxRow.names (row : OutboxRow) : List OutboxName :=
  [.message row.conversation_id row.message_id, .counter row.conversation_id row.sender_counter]

inductive MembershipOutboxName
  | envelope (envelope_id : EnvelopeId)
  | active (conversation_id : ConversationId)
  | epoch (conversation_id : ConversationId) (parent_epoch : ℕ)
  deriving DecidableEq

def MembershipOutboxRow.names (row : MembershipOutboxRow) : List MembershipOutboxName :=
  .envelope row.envelope.envelope_id :: .epoch row.conversation_id row.parent_epoch
    :: match row.state with
      | .Ready | .Accepted _ => [.active row.conversation_id]
      | _ => []

/-! ## The store

What lies outside the ledger is a parameter: the other tables and the suite of the host. -/

structure ReplayStore (σ : Type) where
  conversation : UniqueTable ConversationId RoutingId ConversationRow (·.conversation_id)
    fun row => [row.routing_id]
  cursor_observation : UniqueTable (ConversationId × ℕ) EnvelopeId ObservationRow
    (fun row => (row.conversation_id, row.stored.cursor))
    fun row => [row.stored.envelope.envelope_id]
  inbox : UniqueTable (ConversationId × ℕ) InboxName InboxRow
    (fun row => (row.conversation_id, row.stored.cursor)) InboxRow.names
  membership_inbox : UniqueTable (ConversationId × ℕ) MembershipInboxName MembershipInboxRow
    (fun row => (row.conversation_id, row.stored.cursor)) MembershipInboxRow.names
  sender_counter : Table (ConversationId × DeviceId × ℕ) SenderCounterRow
    fun row => (row.conversation_id, row.sender, row.epoch)
  message_history : UniqueTable (ConversationId × MessageId) HistoryName HistoryRow
    (fun row => (row.conversation_id, row.message.message_id)) HistoryRow.names
  internal_application_message : List (ConversationId × MessageId)
  outbox : UniqueTable EnvelopeId OutboxName OutboxRow (·.envelope_id) OutboxRow.names
  membership_outbox : UniqueTable MembershipOperationId MembershipOutboxName MembershipOutboxRow
    (·.operation_id) MembershipOutboxRow.names
  journal : RemoteEventJournal
  others : σ

/-- A new profile. -/
def ReplayStore.empty {σ : Type} (others : σ) : ReplayStore σ :=
  ⟨.empty, .empty, .empty, .empty, .empty, .empty, [], .empty, .empty, .empty, others⟩

/-- A message of the inbox as it is sealed and loaded. -/
structure StoredApplicationMessage where
  cursor : ℕ
  envelope_id : EnvelopeId
  sender : DeviceId
  epoch : ℕ
  message : ApplicationMessage
  deriving DecidableEq

/-- A transition of the membership inbox as it is sealed and loaded. -/
structure StoredMembershipTransition where
  stored : StoredRelayEnvelope
  transition : MembershipTransition
  deriving DecidableEq

/-- What the store is run with: the signature suite, the derivation of receipt identifiers,
the lengths of the sealed records, and the statements on the other tables. -/
structure Host (σ : Type) where
  suite : CipherSuite
  derive_request_delivery_identifiers : ConversationId → MessageId → DeviceId →
    RequestDeliveryOutcome → MessageId
  message_length : StoredApplicationMessage → ℕ
  transition_length : StoredMembershipTransition → ℕ
  collaboration_policy_operation_reserves_message_id : σ → ConversationId → MessageId →
    Except ProfileStoreError Bool
  index_collaboration_policy_exchange_in : σ → ConversationId → ℕ → ApplicationMessage →
    Except ProfileStoreError σ
  record_repeat_pairing_content_in : σ → ConversationId → DeviceId → Ed25519PublicKey →
    DeviceId → ApplicationContent → ℕ → Except ProfileStoreError σ

variable {σ : Type}
variable (host : Host σ) (store : ReplayStore σ) (conversation_id : ConversationId)
  (message_id : MessageId) (envelope_id : EnvelopeId) (cursor : ℕ)

/-! ## Observations -/

/-- The row at this cursor or of this envelope is the one row that is both. -/
def verify_cursor_observation (envelope : RelayEnvelope) : Except ProfileStoreError Unit := do
  let _ ← to_sql_integer cursor
  let rows := store.cursor_observation.rows.filter fun row =>
    (row.conversation_id = conversation_id ∧ row.stored.cursor = cursor)
      ∨ row.stored.envelope.envelope_id = envelope.envelope_id
  match rows with
  | [row] => require (row.conversation_id = conversation_id ∧ row.stored.cursor = cursor
      ∧ row.stored.envelope = envelope) .CursorConflict
  | _ => .error .CursorConflict

/-- Binds a cursor to an envelope, or checks that it is so bound; whether a row was
inserted. -/
def insert_or_verify_cursor_observation (stored : StoredRelayEnvelope) :
    Except ProfileStoreError (Bool × ReplayStore σ) := do
  let _ ← to_sql_integer stored.cursor
  match store.cursor_observation.insert? ⟨conversation_id, stored⟩ with
  | some cursor_observation => pure (true, { store with cursor_observation })
  | none => do
    verify_cursor_observation store conversation_id stored.cursor stored.envelope
    pure (false, store)

variable (suite : CipherSuite) (routing_id : RoutingId) (state : ConversationState)
  (sender : DeviceId)

def load_cursor_observation (cursor : ℕ) : Except ProfileStoreError StoredRelayEnvelope := do
  let row ← some_or (store.cursor_observation.get? (conversation_id, cursor)) .CursorConflict
  require (row.stored.envelope.routing_id = routing_id) .CursorConflict
  pure row.stored

/-! ## Inboxes -/

def load_inbox_envelope : Except ProfileStoreError StoredRelayEnvelope := do
  let row ← some_or (store.inbox.named? (.envelope envelope_id)) .InvalidTransition
  let conversation ← some_or (store.conversation.get? row.conversation_id) .InvalidTransition
  require (row.stored.envelope.routing_id = conversation.routing_id) .CorruptData
  verify_cursor_observation store row.conversation_id row.stored.cursor row.stored.envelope
  pure row.stored

/-- The row with this envelope or cursor, which must be one. -/
def load_conflicting_inbox (envelope_id : EnvelopeId) :
    Except ProfileStoreError StoredRelayEnvelope :=
  let rows := store.inbox.rows.filter fun row => row.stored.envelope.envelope_id = envelope_id
    ∨ (row.conversation_id = conversation_id ∧ row.stored.cursor = cursor)
  match rows with
  | [row] => do
    require (row.stored.envelope.envelope_id = envelope_id) .DuplicateOperation
    load_inbox_envelope store envelope_id
  | _ => .error .DuplicateOperation

def load_message_at : Except ProfileStoreError StoredApplicationMessage := do
  let row ← some_or (store.inbox.get? (conversation_id, cursor)) .InvalidTransition
  let conversation ← some_or (store.conversation.get? conversation_id) .InvalidTransition
  let message ← some_or row.state.message .InvalidTransition
  let stored : StoredApplicationMessage := ⟨cursor, row.stored.envelope.envelope_id,
    message.sender, message.epoch, message.message⟩
  validate_blob_length (host.message_length stored)
  require (row.stored.envelope.routing_id = conversation.routing_id) .CorruptData
  pure stored

def load_membership_inbox_envelope (envelope_id : EnvelopeId) :
    Except ProfileStoreError StoredRelayEnvelope := do
  let row ← some_or (store.membership_inbox.get? (conversation_id, cursor)) .InvalidTransition
  require (row.stored.envelope.envelope_id = envelope_id) .InvalidTransition
  let conversation ← some_or (store.conversation.get? conversation_id) .InvalidTransition
  require (row.stored.envelope.routing_id = conversation.routing_id
    ∧ row.stored.envelope.delivery_class = .GroupCommit) .CorruptData
  pure row.stored

/-- What `decode_membership_inbox_transition` accepts. -/
def MembershipTransition.decodes (conversation_id : ConversationId)
    (transition : MembershipTransition) : Prop :=
  let authorization := transition.control.authorization
  transition.bindings ≠ [] ∧ transition.bindings.length ≤ MAX_LOCAL_BINDINGS
    ∧ (∀ binding ∈ transition.bindings, credential_binding_verifies suite binding = true)
    ∧ authorization.conversation_id = conversation_id
    ∧ authorization.parent_epoch = transition.parent_epoch
    ∧ authorization.operation_id = transition.operation_id
    ∧ transition.next_state.conversation_id = conversation_id
    ∧ checked_add transition.parent_epoch 1 = some transition.next_state.epoch

instance (conversation_id : ConversationId) (transition : MembershipTransition) :
    Decidable (transition.decodes suite conversation_id) :=
  inferInstanceAs (Decidable (_ ∧ _))

/-- The transition of a row with the envelope it was read from. -/
def load_membership_inbox_transition (stored : StoredRelayEnvelope) :
    Except ProfileStoreError StoredMembershipTransition := do
  let row ← some_or (store.membership_inbox.get? (conversation_id, cursor)) .Storage
  let transition ← some_or row.state.transition .Storage
  validate_blob_length (host.transition_length ⟨row.stored, transition⟩)
  require (row.stored.envelope.routing_id = stored.envelope.routing_id
    ∧ row.stored.envelope.envelope_id = stored.envelope.envelope_id
    ∧ transition.decodes host.suite conversation_id) .CorruptData
  pure ⟨stored, transition⟩

inductive MembershipInboxOperation
  | Received (stored : StoredRelayEnvelope)
  | TransitionSaved (transition : StoredMembershipTransition)
  | Complete (transition : StoredMembershipTransition)

def membership_inbox_operation : Except ProfileStoreError MembershipInboxOperation := do
  let row ← some_or (store.membership_inbox.get? (conversation_id, cursor)) .InvalidTransition
  let stored ← load_membership_inbox_envelope store conversation_id cursor
    row.stored.envelope.envelope_id
  match row.state with
  | .Received => pure (.Received stored)
  | .TransitionSaved _ => do
    let transition ← load_membership_inbox_transition host store conversation_id cursor stored
    pure (.TransitionSaved transition)
  | .Complete _ => do
    let transition ← load_membership_inbox_transition host store conversation_id cursor stored
    pure (.Complete transition)

/-! ## Conversations -/

/-- The bindings cover the members, and the device's own is among them. -/
def validate_bindings (self_binding : DeviceCredentialBinding)
    (bindings : List DeviceCredentialBinding) : Except ProfileStoreError Unit :=
  require (bindings ≠ [] ∧ bindings.length ≤ MAX_LOCAL_BINDINGS
    ∧ (bindings.map (·.device_id)).Nodup
    ∧ (∀ binding ∈ bindings, binding.conversation_id = state.conversation_id
      ∧ credential_binding_verifies suite binding = true)
    ∧ bindings.find? (fun binding => binding.device_id = self_binding.device_id)
      = some self_binding
    ∧ ∀ member ∈ state.members, member.device_id ∈ bindings.map (·.device_id))
    .ConversationMismatch

def verify_replay_position (cursor : ℕ) (head : ReplayHead) : Except ProfileStoreError Unit := do
  require (head.cursor = cursor ∧ head.policy_state = state
    ∧ head.completion_state.conversation_id = conversation_id
    ∧ head.policy_state.conversation_id = conversation_id
    ∧ head.completion_state.version = head.policy_state.version
    ∧ head.completion_state.epoch ≤ head.policy_state.epoch
    ∧ head.envelope.routing_id = routing_id
    ∧ (head.kind ≠ .Join → checked_add head.previous_cursor 1 = some cursor)
    ∧ (head.kind = .Join → head.previous_cursor = 0)) .CorruptData
  let observed ← load_cursor_observation store conversation_id routing_id cursor
  require (observed.envelope = head.envelope) .CursorConflict
  match head.kind with
  | .Application => do
    let message ← load_message_at host store conversation_id cursor
    require (message.envelope_id = head.envelope.envelope_id) .CursorConflict
  | .Membership => do
    let transition ← load_membership_inbox_transition host store conversation_id cursor observed
    require (transition.transition.next_state = head.completion_state) .ConversationMismatch
  | .Join => require (head.envelope.delivery_class = .GroupCommit
      ∧ (head.envelope.expected_parent_epoch.bind (checked_add · 1)
        = some head.completion_state.epoch)
      ∧ (store.inbox.get? (conversation_id, cursor)).isNone = true
      ∧ (store.membership_inbox.get? (conversation_id, cursor)).isNone = true) .CorruptData

/-- A replay head is there exactly from the first completed cursor on. -/
def verify_replay_head (row : ConversationRow) : Except ProfileStoreError Unit :=
  match row.replay_head with
  | none => require (row.replay_cursor = 0) .CorruptData
  | some head => do
    require (row.replay_cursor ≠ 0) .CorruptData
    verify_replay_position host store conversation_id row.routing_id row.state
      row.replay_cursor head

def load_conversation : Except ProfileStoreError ConversationRow := do
  let row ← some_or (store.conversation.get? conversation_id) .ConversationNotFound
  require (row.state.conversation_id = conversation_id) .ConversationMismatch
  validate_bindings host.suite row.state row.self_binding row.bindings
  verify_replay_head host store conversation_id row
  pure row

def ReplayStore.conversation_for_routing : Except ProfileStoreError ConversationRow :=
  some_or (store.conversation.named? routing_id) .ConversationNotFound

/-! ## History

A message enters the history under its identifier, its envelope and its cursor. -/

/-- A stored message must be marked internal exactly when its content is. -/
def load_history_record : Except ProfileStoreError (Option HistoryRow) :=
  match store.message_history.get? (conversation_id, message_id) with
  | none => .ok none
  | some row => do
    require (decide ((conversation_id, message_id) ∈ store.internal_application_message)
      = row.message.content.is_internal) .CorruptData
    pure (some row)

def store_internal_application_marker (message : ApplicationMessage) : ReplayStore σ :=
  let marker := (conversation_id, message.message_id)
  if message.content.is_internal then
    if marker ∈ store.internal_application_message then store
    else { store with
      internal_application_message := store.internal_application_message ++ [marker] }
  else { store with
    internal_application_message := store.internal_application_message.filter (· ≠ marker) }

/-- Folds the stored outcomes of a request, the admission before the terminal one. -/
def observe_stored_outcomes (store : ReplayStore σ) (conversation_id : ConversationId)
    (original : ApplicationMessage) : Option RequestDeliveryOutcome → List MessageId →
      Except ProfileStoreError (Option RequestDeliveryOutcome)
  | observed, [] => .ok observed
  | observed, id :: ids => do
    match ← load_history_record store conversation_id id with
    | none => observe_stored_outcomes store conversation_id original observed ids
    | some previous =>
      match previous.message.content with
      | .RequestDeliveryOutcome outcome => do
        match validate_request_delivery_receipt original previous.sender previous.message with
        | .error _ => .error .CorruptData
        | .ok () =>
          match observe_request_delivery observed outcome with
          | .error _ => .error .InvalidTransition
          | .ok outcome =>
            observe_stored_outcomes store conversation_id original (some outcome) ids
      | _ => .error .InvalidTransition

/-- The checks on a delivery receipt before it enters the history. -/
def verify_request_delivery_receipt (message : ApplicationMessage)
    (outcome : RequestDeliveryOutcome) : Except ProfileStoreError Unit := do
  let reply_to ← some_or message.reply_to .InvalidTransition
  let original ← load_history_record store conversation_id reply_to
  let original ← some_or original .OperationNotFound
  require (original.complete = true) .InvalidTransition
  match validate_request_delivery_receipt original.message sender message with
  | .error _ => .error .InvalidTransition
  | .ok () => do
    let identifiers := host.derive_request_delivery_identifiers conversation_id
      original.message.message_id sender
    require (identifiers outcome = message.message_id) .InvalidTransition
    let observed ← observe_stored_outcomes store conversation_id original.message none
      [identifiers .Admitted, identifiers .EndedWithoutResponse]
    match observe_request_delivery observed outcome with
    | .error _ => .error .InvalidTransition
    | .ok _ => pure ()

def request_service {α : Type} (x : Except RequestServiceError α) : Except ProfileStoreError α :=
  x.mapError .RequestService

/-- The reply a request was completed with. -/
def previous_reply : Option RequestServiceHistoryReply → Except ProfileStoreError (Option MessageId)
  | none => .error .CorruptData
  | some .Pending => .ok none
  | some (.Complete id) => .ok (some id)

/-- A text completes the request it answers. -/
def complete_request_service_request (original : HistoryRow) (reply : MessageId) :
    Except ProfileStoreError (ReplayStore σ) := do
  let previous ← previous_reply original.request_service_reply
  match ← request_service (classify_request_service_reply previous reply) with
  | .Retry => pure store
  | .New => pure { store with
      message_history := store.message_history.update
        (original.conversation_id, original.message.message_id)
        (fun row => { row with request_service_reply := some (.Complete reply) })
        (fun _ => rfl) (fun _ => rfl) }

def answers_request : ApplicationContent → Bool
  | .Text _ | .RequestDeliveryOutcome _ => true
  | _ => false

def is_text : ApplicationContent → Bool
  | .Text _ => true
  | _ => false

/-- In a request-service conversation a message must fit the channel. -/
def commit_request_service_reply_in (message : ApplicationMessage) :
    Except ProfileStoreError (ReplayStore σ) :=
  match state.request_service with
  | none => .ok store
  | some channel =>
    if answers_request message.content then do
      let request_id ← some_or message.reply_to (.RequestService .UnsolicitedText)
      let original ← load_history_record store state.conversation_id request_id
      let original ← some_or original (.RequestService .MissingRequest)
      require (original.complete = true ∧ original.cursor.isSome = true)
        (.RequestService .MissingRequest)
      request_service (channel.validate_application state sender message.content
        message.reply_to (some ⟨state.conversation_id, original.sender, original.message⟩))
      if is_text message.content then
        complete_request_service_request store original message.message_id
      else pure store
    else do
      request_service (channel.validate_application state sender message.content
        message.reply_to none)
      pure store

/-- `UPDATE daemon_message_history SET cursor` where it is null. -/
def HistoryRow.with_cursor (row : HistoryRow) : HistoryRow :=
  { row with cursor := some cursor }

/-- A delivery receipt must fit the request it is for. -/
def verify_history_receipt (message : ApplicationMessage) : Except ProfileStoreError Unit :=
  match message.content with
  | .RequestDeliveryOutcome outcome =>
    verify_request_delivery_receipt host store conversation_id sender message outcome
  | _ => .ok ()

/-- A message identifier a policy operation reserved is for the device's own envelope. -/
def require_unreserved_message (direction : MessageDirection) (message_id : MessageId) :
    Except ProfileStoreError Unit :=
  if direction = .Inbound then do
    let reserved ← host.collaboration_policy_operation_reserves_message_id store.others
      conversation_id message_id
    if reserved then do
      let existing ← load_history_record store conversation_id message_id
      require (∃ row ∈ existing, row.direction = .Outbound ∧ row.envelope_id = envelope_id)
        .DuplicateOperation
    else pure ()
  else .ok ()

/-- The cursor of a stored message is filled in, and never changed. -/
def verify_history_cursor (existing : HistoryRow) (cursor : Option ℕ) :
    Except ProfileStoreError (ReplayStore σ) :=
  match existing.cursor, cursor with
  | some existing, some candidate => do
    require (existing = candidate) .CursorConflict
    pure store
  | none, some cursor => do
    let message_history ← some_or (store.message_history.update?
      (existing.conversation_id, existing.message.message_id) (HistoryRow.with_cursor cursor)
      fun _ => rfl) .CursorConflict
    pure { store with message_history }
  | _, none => .ok store

/-- A service owes a reply to every request that is addressed to it. -/
def request_service_reply (state : ConversationState) (content : ApplicationContent) :
    Option RequestServiceHistoryReply :=
  match state.request_service, content with
  | some _, .DirectedRequest _ => some .Pending
  | _, _ => none

def insert_or_verify_history (cursor : Option ℕ) (direction : MessageDirection) (sender : DeviceId)
    (epoch : ℕ) (message : ApplicationMessage) : Except ProfileStoreError (ReplayStore σ) := do
  verify_history_receipt host store conversation_id sender message
  let conversation ← some_or (store.conversation.get? conversation_id) .ConversationNotFound
  let state := conversation.state
  require (state.conversation_id = conversation_id) .CorruptData
  let request_service_reply := request_service_reply state message.content
  require_unreserved_message host store conversation_id envelope_id direction message.message_id
  let _ ← to_sql_integer (cursor.getD 0)
  let _ ← to_sql_integer epoch
  let _ ← to_sql_integer message.sender_counter
  match store.message_history.insert? ⟨conversation_id, envelope_id, cursor, direction, false,
      sender, epoch, message, request_service_reply⟩ with
  | some message_history =>
    commit_request_service_reply_in
      (store_internal_application_marker { store with message_history } conversation_id message)
      state sender message
  | none => do
    let existing ← load_history_record store conversation_id message.message_id
    let existing ← some_or existing .DuplicateOperation
    require (existing.envelope_id = envelope_id ∧ existing.sender = sender
      ∧ existing.epoch = epoch ∧ existing.message = message) .DuplicateOperation
    let store ← commit_request_service_reply_in
      (store_internal_application_marker store conversation_id message) state sender message
    verify_history_cursor store existing cursor

/-- Gives the message of an accepted envelope its cursor; `false` when there is none. -/
def assign_history_cursor : Except ProfileStoreError (Bool × ReplayStore σ) := do
  match ← load_history_record store conversation_id message_id with
  | none => pure (false, store)
  | some history => do
    require (history.envelope_id = envelope_id ∧ ∀ existing ∈ history.cursor, existing = cursor)
      .CursorConflict
    if history.cursor = some cursor then pure (true, store)
    else do
      let message_history ← some_or (store.message_history.update?
        (conversation_id, message_id) (HistoryRow.with_cursor cursor) fun _ => rfl)
        .CursorConflict
      pure (true, { store with message_history })

/-- `UPDATE daemon_message_history SET cursor, status = 2` where it is incomplete. -/
def HistoryRow.completed (row : HistoryRow) : HistoryRow :=
  { row with cursor := some cursor, complete := true }

def complete_history : Except ProfileStoreError (Bool × ReplayStore σ) := do
  match ← load_history_record store conversation_id message_id with
  | none => pure (false, store)
  | some history => do
    require (history.envelope_id = envelope_id ∧ ∀ existing ∈ history.cursor, existing = cursor)
      .CursorConflict
    if history.complete = true ∧ history.cursor = some cursor then pure (true, store)
    else do
      require (history.complete = false) .InvalidTransition
      let message_history ← some_or (store.message_history.update?
        (conversation_id, message_id) (HistoryRow.completed cursor) fun _ => rfl)
        .CursorConflict
      pure (true, { store with message_history })

/-! ## Sender counters -/

def load_sender_high_water (epoch : ℕ) : Option ℕ :=
  (store.sender_counter.get? (conversation_id, sender, epoch)).map (·.highest_counter)

def store_sender_high_water (epoch highest_counter : ℕ) : ReplayStore σ :=
  { store with
    sender_counter := store.sender_counter.put ⟨conversation_id, sender, epoch, highest_counter⟩ }

/-! ## Outboxes -/

/-- An envelope with the columns its record repeats. -/
structure OutboxRecord where
  row : OutboxRow
  envelope : RelayEnvelope

def load_outbox_record : Except ProfileStoreError OutboxRecord := do
  let row ← some_or (store.outbox.get? envelope_id) .InvalidTransition
  let conversation ← some_or (store.conversation.get? row.conversation_id) .InvalidTransition
  let envelope ← some_or row.state.envelope .InvalidTransition
  require (envelope.envelope_id = envelope_id ∧ envelope.routing_id = conversation.routing_id)
    .CorruptData
  pure ⟨row, envelope⟩

def ReplayStore.set_outbox_state (state : OutboxState) : ReplayStore σ :=
  { store with
    outbox := store.outbox.update envelope_id (fun row => { row with state }) (fun _ => rfl)
      fun _ => rfl }

/-- Every unsent envelope of a conversation the device was removed from is terminal. -/
def terminalize_removed_outbox : ReplayStore σ :=
  let unsent := store.outbox.rows.filterMap fun row => match row.state with
    | .Ready envelope none =>
      if row.conversation_id = conversation_id then some (row.envelope_id, envelope) else none
    | _ => none
  unsent.foldl (fun store unsent =>
    store.set_outbox_state unsent.1 (.Ready unsent.2 (some .Removed))) store

end Konclave.Daemon.Replay
