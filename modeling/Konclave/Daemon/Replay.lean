/-
`Konclave.LocalDaemon`: replaying a relay log into the profile store.

An envelope is recorded at its cursor, what it decrypts to is saved, and its completion
advances the replay cursor; membership commits go the same way through their own inbox.
Accepted envelopes of the device's own meet their echoes in the same ledger. Every call
is one transaction here: what it reads before its transaction no other call changes.
-/
import Konclave.Daemon.ReplayTables
import Konclave.Daemon.RemoteEventDelivery

set_option autoImplicit false

namespace Konclave.Daemon.Replay

open Domain Cryptographic RemoteEvents

variable {σ : Type}
variable (host : Host σ) (store : ReplayStore σ) (conversation_id : ConversationId)
  (stored : StoredRelayEnvelope) (operation_id : MembershipOperationId) (reservation : OutboxRow)

/-! ## What the event journal reads -/

inductive RemoteEventPayload
  | ApplicationMessage (message : ApplicationMessage)
  | MemberAdded (device_id : DeviceId) (role : ConversationRole)
  | MemberRemoved (device_id : DeviceId)
  | MemberRoleChanged (device_id : DeviceId) (role : ConversationRole)
  | LocalAccessRemoved (device_id : DeviceId)
  deriving DecidableEq

/-- The payload of a membership event: its kind must be the one of the change. -/
def membership_payload : RemoteEventKind → MembershipChange →
    Except ProfileStoreError RemoteEventPayload
  | .MemberAdded, .Add change => .ok (.MemberAdded change.device_id change.role)
  | .MemberRemoved, .Remove change => .ok (.MemberRemoved change.device_id)
  | .MemberRoleChanged, .ChangeRole change => .ok (.MemberRoleChanged change.device_id change.role)
  | .LocalAccessRemoved, .Remove change => .ok (.LocalAccessRemoved change.device_id)
  | _, _ => .error .CorruptData

/-- The rest of `load_remote_event_by_sequence`: what the event's source holds. -/
def load_remote_event_payload (event : RemoteEvents.RemoteEventRecord) :
    Except ProfileStoreError RemoteEventPayload :=
  if event.kind = .ApplicationMessage then do
    let message ← load_message_at host store event.conversation_id event.relay_cursor
    require (message.sender = event.sender ∧ message.message.message_id = event.source_identifier
      ∧ message.message.content.is_internal = false) .CorruptData
    pure (.ApplicationMessage message.message)
  else do
    match ← membership_inbox_operation host store event.conversation_id event.relay_cursor with
    | .Complete ⟨_, transition⟩ => do
      require (transition.sender = event.sender
        ∧ transition.operation_id = event.source_identifier) .CorruptData
      membership_payload event.kind transition.control.authorization.change
    | _ => .error .CorruptData

variable (conversation : ConversationRow) (cursor : ℕ) (sender : DeviceId)
  (notification_id : NotificationId)

/-- The length of the sealed record an event delivers, where there is one. -/
def remote_event_delivery_length (kind : RemoteEventKind) : Option ℕ :=
  if kind = .ApplicationMessage then do
    let row ← store.inbox.get? (conversation_id, cursor)
    let message ← row.state.message
    some (host.message_length ⟨cursor, row.stored.envelope.envelope_id, message.sender,
      message.epoch, message.message⟩)
  else do
    let row ← store.membership_inbox.get? (conversation_id, cursor)
    let transition ← row.state.transition
    some (host.transition_length ⟨row.stored, transition⟩)

def ReplayStore.around : Surroundings RemoteEventPayload where
  conversation id := (store.conversation.get? id).map fun row =>
    ⟨row.conversation_id, row.routing_id, row.adapter_delivery_policy⟩
  delivery_length := remote_event_delivery_length host store
  payload := load_remote_event_payload host store

/-! ## Conversations -/

def ReplayStore.set_conversation (set : ConversationRow → ConversationRow)
    (hkey : ∀ row, (set row).conversation_id = row.conversation_id)
    (hrouting : ∀ row, (set row).routing_id = row.routing_id) : ReplayStore σ :=
  { store with
    conversation := store.conversation.update conversation_id set hkey
      fun row => by rw [hrouting] }

/-- A conversation is created at cursor zero, or joined at the cursor of the commit that
added the device. -/
def insert_conversation_at_cursor (routing_id : RoutingId) (self_binding : DeviceCredentialBinding)
    (state : ConversationState) (bindings : List DeviceCredentialBinding)
    (replay_receipt : Option StoredRelayEnvelope) (adapter_delivery_enabled : Option Bool) :
    Except ProfileStoreError Unit × ReplayStore σ := transaction store do
  let conversation_id := self_binding.conversation_id
  require (state.conversation_id = conversation_id) .ConversationMismatch
  require (∀ receipt ∈ replay_receipt, receipt.envelope.routing_id = routing_id)
    .ConversationMismatch
  validate_bindings host.suite state self_binding bindings
  let head := replay_receipt.map fun receipt =>
    (⟨0, receipt.cursor, .Join, state, state, receipt.envelope⟩ : ReplayHead)
  let replay_cursor ← to_sql_integer ((replay_receipt.map (·.cursor)).getD 0)
  let conversation ← some_or (store.conversation.insert? ⟨conversation_id, routing_id,
    self_binding, state, bindings, 0, replay_cursor, head, adapter_delivery_enabled⟩)
    .ConversationExists
  let store := { store with conversation }
  match replay_receipt with
  | none => pure ((), store)
  | some receipt => do
    let (_, store) ← insert_or_verify_cursor_observation store conversation_id receipt
    pure ((), store)

def set_adapter_delivery_enabled (enabled : Bool) :
    Except ProfileStoreError Unit × ReplayStore σ := transaction store do
  let _ ← some_or (store.conversation.get? conversation_id) .ConversationNotFound
  pure ((), store.set_conversation conversation_id
    (fun row => { row with adapter_delivery_policy := some enabled }) (fun _ => rfl) fun _ => rfl)

/-! ## Application messages

An envelope is recorded, its message saved, and its cursor completed, each in a transaction. -/

/-- The incomplete rows of both inboxes. -/
def incomplete_inbox_count : ℕ :=
  (store.inbox.rows.filter fun row =>
    row.conversation_id = conversation_id ∧ row.state.is_complete = false).length

def incomplete_membership_inbox_count : ℕ :=
  (store.membership_inbox.rows.filter fun row =>
    row.conversation_id = conversation_id ∧ row.state.is_complete = false).length

def record_inbox_envelope :
    Except ProfileStoreError ConversationId × ReplayStore σ := transaction store do
  require (stored.envelope.delivery_class = .GroupApplication) .InvalidTransition
  let conversation ← store.conversation_for_routing stored.envelope.routing_id
  let conversation_id := conversation.conversation_id
  let (observation_inserted, observed) ←
    insert_or_verify_cursor_observation store conversation_id stored
  match observed.inbox.insert? ⟨conversation_id, stored, .Received⟩ with
  | some inbox => do
    let recorded := { observed with inbox }
    require (stored.cursor ≤ conversation.replay_cursor + MAX_MESSAGE_PAGE_SIZE)
      .InboxCapacityExceeded
    require (incomplete_inbox_count recorded conversation_id ≤ MAX_MESSAGE_PAGE_SIZE)
      .InboxCapacityExceeded
    pure (conversation_id, recorded)
  | none => do
    require (observation_inserted = false) .CorruptData
    let existing ← load_conflicting_inbox store conversation_id stored.cursor
      stored.envelope.envelope_id
    require (existing = stored) .DuplicateOperation
    pure (conversation_id, store)

/-- A sealed record must not exceed the length every record is read under. -/
def seal_length (length : ℕ) : Except ProfileStoreError Unit :=
  require (0 < length ∧ length ≤ MAX_SEALED_RECORD_BYTES) .Storage

def save_inbox_message (sender_epoch : ℕ) (message : ApplicationMessage) :
    Except ProfileStoreError Unit × ReplayStore σ := transaction store do
  let row ← some_or (store.inbox.get? (conversation_id, cursor)) .InvalidTransition
  let envelope_id := row.stored.envelope.envelope_id
  let stored ← load_inbox_envelope store envelope_id
  require (stored.cursor = cursor) .CorruptData
  seal_length (host.message_length ⟨cursor, envelope_id, sender, sender_epoch, message⟩)
  let _ ← to_sql_integer sender_epoch
  let _ ← to_sql_integer message.sender_counter
  match row.state with
  | .Received => do
    let inbox ← some_or (store.inbox.update? (conversation_id, cursor)
      (fun row => { row with state := .MessageSaved ⟨sender, sender_epoch, message⟩ })
      fun _ => rfl) .DuplicateOperation
    let store ← insert_or_verify_history host { store with inbox } conversation_id envelope_id
      (some cursor) .Inbound sender sender_epoch message
    pure ((), store)
  | _ => do
    let existing ← load_message_at host store conversation_id cursor
    require (existing.sender = sender ∧ existing.epoch = sender_epoch
      ∧ existing.message = message) .InvalidTransition
    let store ← insert_or_verify_history host store conversation_id envelope_id
      (some cursor) .Inbound sender sender_epoch message
    pure ((), store)

/-- `UPDATE daemon_inbox SET status = 3` where it is two. -/
def InboxState.complete : InboxState → InboxState
  | .MessageSaved message => .Complete message
  | state => state

theorem InboxState.complete_message (state : InboxState) :
    state.complete.message = state.message := by
  cases state <;> rfl

def ReplayStore.complete_inbox_row : ReplayStore σ :=
  { store with
    inbox := store.inbox.update (conversation_id, cursor)
      (fun row => { row with state := row.state.complete }) (fun _ => rfl) fun row => by
        rw [InboxRow.names, InboxRow.names, InboxState.complete_message] }

def is_delivery_outcome : ApplicationContent → Bool
  | .RequestDeliveryOutcome _ => true
  | _ => false

/-- The statements of a completion on the other tables. -/
def complete_inbox_others (message : StoredApplicationMessage) (now_unix_seconds : ℕ) (others : σ) :
    Except ProfileStoreError σ := do
  let others ← host.index_collaboration_policy_exchange_in others conversation.conversation_id
    cursor message.message
  if message.message.content.is_internal then do
    let binding ← some_or (conversation.bindings.find? fun binding =>
      binding.device_id = message.sender) .ConversationMismatch
    host.record_repeat_pairing_content_in others conversation.conversation_id message.sender
      binding.device_root_public_key conversation.self_binding.device_id message.message.content
      now_unix_seconds
  else pure others

/-- A message that is not for the daemon itself becomes an event. -/
def insert_application_event (message : StoredApplicationMessage)
    (notification_id : NotificationId) :
    Except ProfileStoreError RemoteEventJournal :=
  if message.message.content.is_internal || is_delivery_outcome message.message.content then
    .ok store.journal
  else insert_remote_event (store.around host) store.journal ⟨conversation.conversation_id,
    conversation.routing_id, message.cursor, notification_id, .ApplicationMessage, message.sender,
    conversation.self_binding.device_id, message.message.message_id⟩

def complete_inbox_with_notification_at (now_unix_seconds : ℕ) :
    Except ProfileStoreError ℕ × ReplayStore σ := transaction store do
  let conversation ← load_conversation host store conversation_id
  let message ← load_message_at host store conversation_id cursor
  let stored ← load_inbox_envelope store message.envelope_id
  require (stored.cursor = cursor ∧ stored.envelope.routing_id = conversation.routing_id)
    .CorruptData
  verify_cursor_observation store conversation_id cursor stored.envelope
  let current := conversation.replay_cursor
  let high_water := load_sender_high_water store conversation_id message.sender message.epoch
  if cursor ≤ current then do
    require ((∃ row ∈ store.inbox.get? (conversation_id, cursor), row.state.is_complete = true)
      ∧ ∃ counter ∈ high_water, message.message.sender_counter ≤ counter) .CorruptData
    pure (current, store)
  else do
    require (checked_add current 1 = some cursor) .CursorGap
    require (∀ counter ∈ high_water, counter < message.message.sender_counter)
      .SenderCounterRegression
    let store := store_sender_high_water store conversation_id message.sender message.epoch
      message.message.sender_counter
    let (found, store) ← complete_history store conversation_id message.message.message_id
      message.envelope_id cursor
    require (found = true) .CorruptData
    let others ← complete_inbox_others host conversation cursor message now_unix_seconds
      store.others
    let journal ← insert_application_event host { store with others } conversation message
      notification_id
    require (∃ row ∈ store.inbox.get? (conversation_id, cursor), row.state.is_complete = false)
      .InvalidTransition
    let head : ReplayHead := ⟨current, cursor, .Application, conversation.state,
      conversation.state, stored.envelope⟩
    pure (cursor, ({ store with others, journal }.complete_inbox_row conversation_id
      cursor).set_conversation conversation_id
        (fun row => { row with replay_cursor := cursor, replay_head := some head })
        (fun _ => rfl) fun _ => rfl)

/-! ## Membership commits

Commits go the same way, and a completed one replaces the policy of the conversation. -/

def record_membership_inbox_envelope :
    Except ProfileStoreError ConversationId × ReplayStore σ := transaction store do
  require (stored.envelope.delivery_class = .GroupCommit) .InvalidTransition
  let conversation ← store.conversation_for_routing stored.envelope.routing_id
  let conversation_id := conversation.conversation_id
  let (observation_inserted, observed) ←
    insert_or_verify_cursor_observation store conversation_id stored
  match observed.membership_inbox.insert? ⟨conversation_id, stored, .Received⟩ with
  | some membership_inbox => do
    let recorded := { observed with membership_inbox }
    require (incomplete_inbox_count recorded conversation_id
      + incomplete_membership_inbox_count recorded conversation_id ≤ MAX_MESSAGE_PAGE_SIZE)
      .InboxCapacityExceeded
    pure (conversation_id, recorded)
  | none => do
    require (observation_inserted = false) .CorruptData
    let existing ← load_membership_inbox_envelope store conversation_id stored.cursor
      stored.envelope.envelope_id
    require (existing = stored) .DuplicateOperation
    pure (conversation_id, store)

/-- As many bindings, each among the expected ones. -/
def same_verified_bindings (existing expected : List DeviceCredentialBinding) : Prop :=
  existing.length = expected.length ∧ ∀ binding ∈ existing, binding ∈ expected

instance (existing expected : List DeviceCredentialBinding) :
    Decidable (same_verified_bindings existing expected) := inferInstanceAs (Decidable (_ ∧ _))

def save_membership_inbox_transition_record (transition : MembershipTransition) :
    Except ProfileStoreError (ReplayStore σ) := do
  let row ← some_or (store.membership_inbox.get? (conversation_id, cursor)) .InvalidTransition
  let stored ← load_membership_inbox_envelope store conversation_id cursor
    row.stored.envelope.envelope_id
  seal_length (host.transition_length ⟨stored, transition⟩)
  let _ ← to_sql_integer transition.parent_epoch
  match row.state with
  | .Received => do
    let membership_inbox ← some_or (store.membership_inbox.update? (conversation_id, cursor)
      (fun row => { row with state := .TransitionSaved transition }) fun _ => rfl)
      .DuplicateOperation
    pure { store with membership_inbox }
  | _ => do
    let existing ← load_membership_inbox_transition host store conversation_id cursor stored
    let existing := existing.transition
    require (existing.sender = transition.sender
      ∧ existing.parent_epoch = transition.parent_epoch
      ∧ existing.operation_id = transition.operation_id
      ∧ existing.control = transition.control ∧ existing.next_state = transition.next_state
      ∧ same_verified_bindings existing.bindings transition.bindings) .InvalidTransition
    pure store

def save_membership_inbox_transition (transition : MembershipTransition) :
    Except ProfileStoreError Unit × ReplayStore σ := transaction store do
  let authorization := transition.control.authorization
  let current ← load_conversation host store conversation_id
  require (authorization.conversation_id = conversation_id
    ∧ authorization.operation_id = transition.operation_id
    ∧ authorization.parent_epoch = transition.parent_epoch
    ∧ current.state.epoch = transition.parent_epoch
    ∧ current.state.apply_membership_authorization transition.sender authorization
      transition.next_state.epoch = .ok transition.next_state) .ConversationMismatch
  validate_bindings host.suite transition.next_state current.self_binding transition.bindings
  let store ← save_membership_inbox_transition_record host store conversation_id cursor transition
  pure ((), store)

/-- The bindings of the members and of the device itself. -/
def final_bindings (next_state : ConversationState) (self_device_id : DeviceId)
    (bindings : List DeviceCredentialBinding) : List DeviceCredentialBinding :=
  bindings.filter fun binding => binding.device_id = self_device_id
    ∨ (next_state.member binding.device_id).isSome = true

/-- `UPDATE daemon_membership_inbox SET status = 3` where it is two. -/
def MembershipInboxState.complete : MembershipInboxState → MembershipInboxState
  | .TransitionSaved transition => .Complete transition
  | state => state

theorem MembershipInboxState.complete_transition (state : MembershipInboxState) :
    state.complete.transition = state.transition := by
  cases state <;> rfl

def ReplayStore.complete_membership_inbox_row : ReplayStore σ :=
  { store with
    membership_inbox := store.membership_inbox.update (conversation_id, cursor)
      (fun row => { row with state := row.state.complete }) (fun _ => rfl) fun row => by
        rw [MembershipInboxRow.names, MembershipInboxRow.names,
          MembershipInboxState.complete_transition] }

/-- The event a membership change is for the device. -/
def membership_event_kind (self_device_id : DeviceId) : MembershipChange → RemoteEventKind
  | .Add _ => .MemberAdded
  | .Remove change =>
    if change.device_id = self_device_id then .LocalAccessRemoved else .MemberRemoved
  | .ChangeRole _ => .MemberRoleChanged

/-- The transition saved at a cursor, and whether it was completed. -/
def MembershipInboxOperation.saved : MembershipInboxOperation →
    Except ProfileStoreError (StoredMembershipTransition × Bool)
  | .TransitionSaved transition => .ok (transition, false)
  | .Complete transition => .ok (transition, true)
  | .Received _ => .error .InvalidTransition

def complete_membership_inbox_with_notification :
    Except ProfileStoreError ℕ × ReplayStore σ := transaction store do
  let operation ← membership_inbox_operation host store conversation_id cursor
  let (⟨stored, transition⟩, already_complete) ← operation.saved
  require (stored.cursor = cursor) .CorruptData
  let current ← load_conversation host store conversation_id
  let self_device_id := current.self_binding.device_id
  let bindings := final_bindings transition.next_state self_device_id transition.bindings
  validate_bindings host.suite transition.next_state current.self_binding bindings
  verify_cursor_observation store conversation_id cursor stored.envelope
  if cursor ≤ current.replay_cursor then do
    require (already_complete = true) .CorruptData
    pure (current.replay_cursor, store)
  else do
    require (checked_add current.replay_cursor 1 = some cursor) .CursorGap
    let authorization := transition.control.authorization
    require (authorization.operation_id = transition.operation_id) .CorruptData
    let journal ← insert_remote_event (store.around host) store.journal ⟨conversation_id,
      stored.envelope.routing_id, cursor, notification_id,
      membership_event_kind self_device_id authorization.change, transition.sender,
      self_device_id, transition.operation_id⟩
    let head : ReplayHead := ⟨current.replay_cursor, cursor, .Membership, transition.next_state,
      transition.next_state, stored.envelope⟩
    let store := { store with journal }.set_conversation conversation_id
      (fun row => { row with
        state := transition.next_state
        replay_cursor := cursor
        replay_head := some head
        bindings }) (fun _ => rfl) fun _ => rfl
    let store := if (transition.next_state.member self_device_id).isNone then
      terminalize_removed_outbox store conversation_id else store
    require (already_complete = false) .InvalidTransition
    pure (cursor, store.complete_membership_inbox_row conversation_id cursor)

/-! ## The device's own messages

A message is reserved, stored, sealed into an envelope, and accepted at the cursor where the
relay returns it. -/

/-- A new reservation takes the next counter of its conversation. -/
def reserve_new_outbound_application_in (message_id : MessageId) (envelope_id : EnvelopeId) :
    Except ProfileStoreError (OutboxRow × ReplayStore σ) := do
  let pending := store.outbox.rows.filter fun row => match row.state with
    | .Reserved | .Ready _ none => true
    | _ => false
  require (pending.length < MAX_PENDING_OUTBOX) .OutboxCapacityExceeded
  let conversation ← some_or (store.conversation.get? conversation_id) .ConversationNotFound
  let sender_counter ← some_or (checked_add conversation.sender_counter 1) .SequenceExhausted
  let _ ← to_sql_integer sender_counter
  let row : OutboxRow := ⟨envelope_id, conversation_id, message_id, sender_counter, .Reserved⟩
  let outbox ← some_or (store.outbox.insert? row) .DuplicateOperation
  pure (row, { store with outbox }.set_conversation conversation_id
    (fun row => { row with sender_counter }) (fun _ => rfl) fun _ => rfl)

/-- The unrestricted reservation; an unsealed one of the same identifiers is returned. -/
def reserve_outbound_application (message_id : MessageId) (envelope_id : EnvelopeId) :
    Except ProfileStoreError OutboxRow × ReplayStore σ := transaction store do
  let reserved ← host.collaboration_policy_operation_reserves_message_id store.others
    conversation_id message_id
  require (reserved = false) .DuplicateOperation
  let existing := store.outbox.rows.filter fun row => row.envelope_id = envelope_id
    ∨ (row.conversation_id = conversation_id ∧ row.message_id = message_id)
  match existing with
  | [] => reserve_new_outbound_application_in store conversation_id message_id envelope_id
  | [row] => do
    require (row.conversation_id = conversation_id ∧ row.message_id = message_id
      ∧ row.envelope_id = envelope_id) .DuplicateOperation
    require (row.state = .Reserved) .InvalidTransition
    pure (row, store)
  | _ => .error .DuplicateOperation

/-- The reservation must still be unsealed. -/
def ReplayStore.reserved : Prop :=
  ∃ row ∈ store.outbox.get? reservation.envelope_id,
    row.conversation_id = reservation.conversation_id ∧ row.message_id = reservation.message_id
      ∧ row.sender_counter = reservation.sender_counter ∧ row.state = .Reserved

instance : Decidable (store.reserved reservation) := inferInstanceAs (Decidable (∃ _ ∈ _, _))

def store_outbound_message (routing_id : RoutingId) (sender : DeviceId) (epoch : ℕ)
    (message : ApplicationMessage) :
    Except ProfileStoreError Unit × ReplayStore σ := transaction store do
  require (message.message_id = reservation.message_id
    ∧ message.sender_counter = reservation.sender_counter) .ConversationMismatch
  let conversation ← some_or (store.conversation.get? reservation.conversation_id)
    .ConversationNotFound
  require (conversation.routing_id = routing_id) .ConversationMismatch
  require (store.reserved reservation) .InvalidTransition
  let store ← insert_or_verify_history host store reservation.conversation_id
    reservation.envelope_id none .Outbound sender epoch message
  pure ((), store)

def store_outbound_envelope (envelope : RelayEnvelope) :
    Except ProfileStoreError Unit × ReplayStore σ :=
  transaction store do
    let conversation ← some_or (store.conversation.get? reservation.conversation_id)
      .ConversationNotFound
    require (envelope.delivery_class = .GroupApplication) .InvalidTransition
    require (envelope.envelope_id = reservation.envelope_id
      ∧ envelope.routing_id = conversation.routing_id) .ConversationMismatch
    if store.reserved reservation then
      pure ((), store.set_outbox_state reservation.envelope_id (.Ready envelope none))
    else do
      let existing ← load_outbox_record store reservation.envelope_id
      require (existing.row.conversation_id = reservation.conversation_id
        ∧ existing.row.message_id = reservation.message_id
        ∧ existing.row.sender_counter = reservation.sender_counter
        ∧ existing.envelope = envelope) .InvalidTransition
      pure ((), store)

/-- The unsent messages of these envelopes leave the history, and their markers with them. -/
def ReplayStore.delete_unsent_history (gone : HistoryRow → Bool) : ReplayStore σ :=
  let unsent := fun row : HistoryRow =>
    gone row && decide (row.direction = .Outbound ∧ row.complete = false ∧ row.cursor = none)
  { store with
    message_history := store.message_history.delete unsent
    internal_application_message := store.internal_application_message.filter fun marker =>
      !(store.message_history.get? marker).any unsent }

/-- A reservation that was never sealed leaves a gap in the counters. -/
def abandon_outbound_application :
    Except ProfileStoreError Unit × ReplayStore σ := transaction store do
  if store.reserved reservation then
    pure ((), (store.set_outbox_state reservation.envelope_id .Abandoned).delete_unsent_history
      fun row => row.conversation_id = reservation.conversation_id
        && row.message.message_id = reservation.message_id
        && row.envelope_id = reservation.envelope_id)
  else do
    let row ← some_or (store.outbox.get? reservation.envelope_id) .InvalidTransition
    require (row.conversation_id = reservation.conversation_id
      ∧ row.message_id = reservation.message_id
      ∧ row.sender_counter = reservation.sender_counter ∧ row.state = .Abandoned)
      .InvalidTransition
    pure ((), store)

/-- Every unsealed reservation is abandoned when a session is opened. -/
def abandon_unsealed_outbox : ReplayStore σ :=
  let unsealed := (store.outbox.rows.filter fun row => row.state = .Reserved).map (·.envelope_id)
  let store := unsealed.foldl (fun store envelope_id =>
    store.set_outbox_state envelope_id .Abandoned) store
  store.delete_unsent_history fun row =>
    (store.outbox.get? row.envelope_id).any fun sent => sent.state = .Abandoned

inductive ExpireOutboundResult
  | Expired
  | Accepted (cursor : ℕ)
  deriving DecidableEq, Repr

def expire_outbound_application (envelope : RelayEnvelope) :
    Except ProfileStoreError ExpireOutboundResult × ReplayStore σ := transaction store do
  let record ← load_outbox_record store envelope.envelope_id
  require (record.envelope = envelope) .CursorConflict
  let row := record.row
  let history ← load_history_record store row.conversation_id row.message_id
  let history ← some_or history .CorruptData
  require (history.direction = .Outbound ∧ history.envelope_id = envelope.envelope_id) .CorruptData
  match row.state with
  | .Ready sent none => do
    require (history.cursor = none) .InvalidTransition
    pure (.Expired, store.set_outbox_state row.envelope_id (.Ready sent (some .Expired)))
  | .Ready _ (some .Expired) => do
    require (history.cursor = none) .InvalidTransition
    pure (.Expired, store)
  | .Accepted _ cursor => do
    require (history.cursor = some cursor) .CorruptData
    verify_cursor_observation store row.conversation_id cursor record.envelope
    pure (.Accepted cursor, store)
  | _ => .error .InvalidTransition

/-- The envelope's row after the relay accepted it at a cursor. `accept_terminal` lets the
echo of an expired or removed envelope accept it. -/
def accepted_outbox (record : OutboxRecord) (stored : StoredRelayEnvelope)
    (accept_terminal : Bool) :
    Except ProfileStoreError (ReplayStore σ) :=
  let row := record.row
  match row.state with
  | .Ready _ terminal_reason => do
    require (terminal_reason = none ∨ accept_terminal = true) .InvalidTransition
    let (_, store) ← insert_or_verify_cursor_observation store row.conversation_id stored
    pure (store.set_outbox_state row.envelope_id (.Accepted record.envelope stored.cursor))
  | .Accepted _ cursor => do
    require (cursor = stored.cursor) .InvalidTransition
    verify_cursor_observation store row.conversation_id stored.cursor record.envelope
    pure store
  | _ => .error .InvalidTransition

def accept_outbox_in_transaction (record : OutboxRecord) (stored : StoredRelayEnvelope)
    (accept_terminal : Bool) : Except ProfileStoreError (ReplayStore σ) := do
  let accepted ← accepted_outbox store record stored accept_terminal
  let (assigned, accepted) ← assign_history_cursor accepted record.row.conversation_id
    record.row.message_id record.row.envelope_id stored.cursor
  require (assigned = true) .CorruptData
  pure accepted

def mark_outbox_accepted : Except ProfileStoreError Unit × ReplayStore σ := transaction store do
  let record ← load_outbox_record store stored.envelope.envelope_id
  require (record.envelope = stored.envelope) .CursorConflict
  let store ← accept_outbox_in_transaction store record stored false
  pure ((), store)

/-- The device's own message an envelope is the echo of, which is then accepted. -/
def outbound_history_message :
    Except ProfileStoreError (Option HistoryRow) × ReplayStore σ := transaction store do
  let _ ← some_or (store.conversation.get? conversation_id) .ConversationNotFound
  let envelope_id := stored.envelope.envelope_id
  let sent := (store.message_history.named? (.envelope envelope_id)).filter fun row =>
    row.conversation_id = conversation_id ∧ row.direction = .Outbound
  match sent with
  | none => pure (none, store)
  | some sent => do
    let record ← load_outbox_record store envelope_id
    require (record.row.conversation_id = conversation_id
      ∧ record.row.message_id = sent.message.message_id
      ∧ record.envelope = stored.envelope) .CursorConflict
    let store ← accept_outbox_in_transaction store record stored true
    let history ← load_history_record store conversation_id sent.message.message_id
    let history ← some_or history .CorruptData
    pure (some history, store)

/-! ## The device's own commits

A commit waits in an outbox of its own until the relay accepts it or another commit comes first. -/

/-- The columns of a commit the store is given. -/
structure MembershipOperation where
  operation_id : MembershipOperationId
  conversation_id : ConversationId
  parent_epoch : ℕ
  envelope : RelayEnvelope
  control : MembershipControl
  next_state : ConversationState
  bindings : List DeviceCredentialBinding
  welcome : Option Protobuf.Bytes
  deriving DecidableEq

def MembershipOperation.row (operation : MembershipOperation) : MembershipOutboxRow :=
  ⟨operation.operation_id, operation.conversation_id, operation.parent_epoch, operation.envelope,
    operation.control, operation.next_state, operation.bindings, operation.welcome, .Ready⟩

def MembershipOutboxState.is_applied : MembershipOutboxState → Bool
  | .Applied _ => true
  | _ => false

def MembershipOutboxRow.matches (existing : MembershipOutboxRow)
    (operation : MembershipOperation) : Prop :=
  existing.conversation_id = operation.conversation_id
    ∧ existing.parent_epoch = operation.parent_epoch ∧ existing.envelope = operation.envelope
    ∧ existing.control = operation.control ∧ existing.next_state = operation.next_state
    ∧ same_verified_bindings existing.bindings operation.bindings
    ∧ existing.welcome = operation.welcome

instance (existing : MembershipOutboxRow) (operation : MembershipOperation) :
    Decidable (existing.matches operation) := inferInstanceAs (Decidable (_ ∧ _))

/-- An accepted or applied commit must be the observed one at its cursor. -/
def verify_membership_acceptance (row : MembershipOutboxRow) : Except ProfileStoreError Unit :=
  match row.state with
  | .Accepted cursor | .Applied cursor =>
    verify_cursor_observation store row.conversation_id cursor row.envelope
  | _ => .ok ()

def load_membership_outbox_row (row : MembershipOutboxRow) :
    Except ProfileStoreError MembershipOutboxRow := do
  let conversation ← some_or (store.conversation.get? row.conversation_id) .OperationNotFound
  require (row.envelope.routing_id = conversation.routing_id) .CorruptData
  verify_membership_acceptance store row
  pure row

def load_membership_outbox : Except ProfileStoreError MembershipOutboxRow := do
  let row ← some_or (store.membership_outbox.get? operation_id) .OperationNotFound
  load_membership_outbox_row store row

def store_membership_outbox (operation : MembershipOperation) :
    Except ProfileStoreError Unit × ReplayStore σ :=
  transaction store do
    let current ← load_conversation host store operation.conversation_id
    require (current.state.epoch = operation.parent_epoch
      ∧ checked_add operation.parent_epoch 1 = some operation.next_state.epoch
      ∧ operation.next_state.conversation_id = operation.conversation_id
      ∧ operation.envelope.routing_id = current.routing_id
      ∧ operation.envelope.delivery_class = .GroupCommit
      ∧ operation.envelope.expected_parent_epoch = some operation.parent_epoch)
      .ConversationMismatch
    validate_bindings host.suite operation.next_state current.self_binding operation.bindings
    let authorization := operation.control.authorization
    require (authorization.operation_id = operation.operation_id
      ∧ authorization.parent_epoch = operation.parent_epoch
      ∧ authorization.conversation_id = operation.next_state.conversation_id)
      .ConversationMismatch
    let pending := store.membership_outbox.rows.filter fun row =>
      row.operation_id ≠ operation.operation_id && match row.state with
        | .Ready | .Accepted _ => true
        | _ => false
    require (pending.length < MAX_PENDING_OUTBOX) .OutboxCapacityExceeded
    let _ ← to_sql_integer operation.parent_epoch
    match store.membership_outbox.insert? operation.row with
    | some membership_outbox => pure ((), { store with membership_outbox })
    | none =>
      match load_membership_outbox store operation.operation_id with
      | .ok existing => do
        require (existing.matches operation ∧ existing.state = .Ready) .DuplicateOperation
        pure ((), store)
      | .error _ => .error .DuplicateOperation

/-- `UPDATE daemon_membership_outbox SET status`; the unique columns may refuse it. -/
def ReplayStore.set_membership_outbox_state (state : MembershipOutboxState) :
    Except ProfileStoreError (ReplayStore σ) := do
  let membership_outbox ← some_or (store.membership_outbox.update? operation_id
    (fun row => { row with state }) fun _ => rfl) .Storage
  pure { store with membership_outbox }

def mark_membership_outbox_accepted :
    Except ProfileStoreError MembershipOperationId × ReplayStore σ := transaction store do
  let named ← some_or (store.membership_outbox.named? (.envelope stored.envelope.envelope_id))
    .OperationNotFound
  let record ← load_membership_outbox store named.operation_id
  require (record.envelope = stored.envelope) .CursorConflict
  match record.state with
  | .Ready => do
    let (_, store) ← insert_or_verify_cursor_observation store record.conversation_id stored
    let store ← store.set_membership_outbox_state record.operation_id (.Accepted stored.cursor)
    pure (record.operation_id, store)
  | .Accepted cursor | .Applied cursor => do
    require (cursor = stored.cursor) .InvalidTransition
    verify_cursor_observation store record.conversation_id stored.cursor record.envelope
    pure (record.operation_id, store)
  | .Orphaned => .error .InvalidTransition

/-- The replay head with the policy moved one epoch on; none before the first cursor. -/
def advance_replay_head_state (next_state : ConversationState) :
    Except ProfileStoreError (Option ReplayHead) :=
  if conversation.replay_cursor = 0 then .ok none
  else do
    let head ← some_or conversation.replay_head .Storage
    verify_replay_position host store next_state.conversation_id conversation.routing_id
      conversation.state conversation.replay_cursor head
    require (head.policy_state = conversation.state
      ∧ next_state.version = conversation.state.version
      ∧ next_state.conversation_id = conversation.state.conversation_id
      ∧ checked_add conversation.state.epoch 1 = some next_state.epoch) .CorruptData
    pure (some { head with policy_state := next_state })

/-- The applied commit is the stored policy. -/
def verify_applied_membership (record : MembershipOutboxRow) : Except ProfileStoreError Unit := do
  let stored ← load_conversation host store record.conversation_id
  let expected := final_bindings record.next_state stored.self_binding.device_id record.bindings
  require (stored.state = record.next_state
    ∧ same_verified_bindings stored.bindings expected) .InvalidTransition

def complete_membership_outbox : Except ProfileStoreError Unit × ReplayStore σ :=
  transaction store do
    let record ← load_membership_outbox store operation_id
    match record.state with
    | .Applied _ => do
      verify_applied_membership host store record
      pure ((), store)
    | .Accepted cursor => do
      let current ← load_conversation host store record.conversation_id
      let self_device_id := current.self_binding.device_id
      let bindings := final_bindings record.next_state self_device_id record.bindings
      validate_bindings host.suite record.next_state current.self_binding bindings
      let head ← advance_replay_head_state host store current record.next_state
      verify_cursor_observation store record.conversation_id cursor record.envelope
      let store := store.set_conversation record.conversation_id
        (fun row => { row with state := record.next_state, replay_head := head, bindings })
        (fun _ => rfl) fun _ => rfl
      let store := if (record.next_state.member self_device_id).isNone then
        terminalize_removed_outbox store record.conversation_id else store
      let store ← store.set_membership_outbox_state operation_id (.Applied cursor)
      pure ((), store)
    | _ => .error .InvalidTransition

def orphan_membership_outbox : Except ProfileStoreError Unit × ReplayStore σ := transaction store do
  let row ← some_or (store.membership_outbox.get? operation_id) .InvalidTransition
  match row.state with
  | .Ready => do
    let store ← store.set_membership_outbox_state operation_id .Orphaned
    pure ((), store)
  | .Orphaned => pure ((), store)
  | _ => .error .InvalidTransition

/-- Accepted where its envelope was observed, and ready otherwise. -/
def normalized_membership_state (record : MembershipOutboxRow) :
    Except ProfileStoreError MembershipOutboxState :=
  match store.cursor_observation.named? record.envelope.envelope_id with
  | none => .ok .Ready
  | some observed => do
    require (observed.conversation_id = record.conversation_id) .CursorConflict
    verify_cursor_observation store record.conversation_id observed.stored.cursor
      record.envelope
    pure (.Accepted observed.stored.cursor)

/-- The commit prepared at the current epoch, its state normalized. -/
def active_membership_outbox :
    Except ProfileStoreError (Option MembershipOutboxRow) × ReplayStore σ := transaction store do
  let conversation ← load_conversation host store conversation_id
  match store.membership_outbox.named? (.epoch conversation_id conversation.state.epoch) with
  | none => pure (none, store)
  | some row => do
    let record ← load_membership_outbox store row.operation_id
    let state ← normalized_membership_state store record
    let store ← store.set_membership_outbox_state record.operation_id state
    let record ← load_membership_outbox store record.operation_id
    pure (some record, store)

/-- The applied commit an envelope is the echo of. -/
def applied_membership_outbox : Except ProfileStoreError MembershipOutboxRow := do
  let named ← some_or (store.membership_outbox.named? (.envelope stored.envelope.envelope_id))
    .OperationNotFound
  let outbox ← load_membership_outbox_row store named
  require (outbox.state.is_applied = true ∧ outbox.envelope = stored.envelope)
    .InvalidTransition
  pure outbox

/-- The transition and its completion are two transactions: the first may be all that is
kept. -/
def complete_membership_echo : Except ProfileStoreError MembershipOperationId × ReplayStore σ :=
  match applied_membership_outbox store stored with
  | .error error => (.error error, store)
  | .ok outbox =>
    match save_membership_inbox_transition_record host store outbox.conversation_id
        stored.cursor ⟨sender, outbox.parent_epoch, outbox.operation_id, outbox.control,
          outbox.next_state, outbox.bindings⟩ with
    | .error error => (.error error, store)
    | .ok saved =>
      let (completed, store) := complete_membership_inbox_with_notification host saved
        outbox.conversation_id stored.cursor stored.envelope.envelope_id
      (completed.map fun _ => outbox.operation_id, store)

/-! ## Calls -/

/-- A call on the store. Events enter the journal through completions only. -/
inductive StoreCall
  | insert_conversation (routing_id : RoutingId) (self_binding : DeviceCredentialBinding)
      (state : ConversationState) (bindings : List DeviceCredentialBinding)
      (replay_receipt : Option StoredRelayEnvelope) (adapter_delivery_enabled : Option Bool)
  | set_adapter_delivery_enabled (conversation_id : ConversationId) (enabled : Bool)
  | record_inbox_envelope (stored : StoredRelayEnvelope)
  | save_inbox_message (conversation_id : ConversationId) (cursor : ℕ) (sender : DeviceId)
      (sender_epoch : ℕ) (message : ApplicationMessage)
  | complete_inbox (conversation_id : ConversationId) (cursor : ℕ)
      (notification_id : NotificationId) (now_unix_seconds : ℕ)
  | record_membership_inbox_envelope (stored : StoredRelayEnvelope)
  | save_membership_inbox_transition (conversation_id : ConversationId) (cursor : ℕ)
      (transition : MembershipTransition)
  | complete_membership_inbox (conversation_id : ConversationId) (cursor : ℕ)
      (notification_id : NotificationId)
  | complete_membership_echo (stored : StoredRelayEnvelope) (sender : DeviceId)
  | reserve_outbound_application (conversation_id : ConversationId) (message_id : MessageId)
      (envelope_id : EnvelopeId)
  | store_outbound_message (reservation : OutboxRow) (routing_id : RoutingId) (sender : DeviceId)
      (epoch : ℕ) (message : ApplicationMessage)
  | store_outbound_envelope (reservation : OutboxRow) (envelope : RelayEnvelope)
  | abandon_outbound_application (reservation : OutboxRow)
  | abandon_unsealed_outbox
  | expire_outbound_application (envelope : RelayEnvelope)
  | mark_outbox_accepted (stored : StoredRelayEnvelope)
  | outbound_history_message (conversation_id : ConversationId) (stored : StoredRelayEnvelope)
  | store_membership_outbox (operation : MembershipOperation)
  | mark_membership_outbox_accepted (stored : StoredRelayEnvelope)
  | complete_membership_outbox (operation_id : MembershipOperationId)
  | orphan_membership_outbox (operation_id : MembershipOperationId)
  | active_membership_outbox (conversation_id : ConversationId)
  | delivery (call : DeliveryCall) (hcall : ∀ source, call ≠ .insert source)

/-- Whether a call succeeded, and the store after it. -/
def answered {α : Type} (result : Except ProfileStoreError α × ReplayStore σ) :
    Except ProfileStoreError Unit × ReplayStore σ :=
  (result.1.map fun _ => (), result.2)

def StoreCall.run : StoreCall → Except ProfileStoreError Unit × ReplayStore σ
  | .insert_conversation routing_id self_binding state bindings replay_receipt enabled =>
    insert_conversation_at_cursor host store routing_id self_binding state bindings
      replay_receipt enabled
  | .set_adapter_delivery_enabled conversation_id enabled =>
    Replay.set_adapter_delivery_enabled store conversation_id enabled
  | .record_inbox_envelope stored => answered (Replay.record_inbox_envelope store stored)
  | .save_inbox_message conversation_id cursor sender sender_epoch message =>
    Replay.save_inbox_message host store conversation_id cursor sender sender_epoch message
  | .complete_inbox conversation_id cursor notification_id now =>
    answered (complete_inbox_with_notification_at host store conversation_id cursor
      notification_id now)
  | .record_membership_inbox_envelope stored =>
    answered (Replay.record_membership_inbox_envelope store stored)
  | .save_membership_inbox_transition conversation_id cursor transition =>
    Replay.save_membership_inbox_transition host store conversation_id cursor transition
  | .complete_membership_inbox conversation_id cursor notification_id =>
    answered (complete_membership_inbox_with_notification host store conversation_id cursor
      notification_id)
  | .complete_membership_echo stored sender =>
    answered (Replay.complete_membership_echo host store stored sender)
  | .reserve_outbound_application conversation_id message_id envelope_id =>
    answered (Replay.reserve_outbound_application host store conversation_id message_id
      envelope_id)
  | .store_outbound_message reservation routing_id sender epoch message =>
    Replay.store_outbound_message host store reservation routing_id sender epoch message
  | .store_outbound_envelope reservation envelope =>
    Replay.store_outbound_envelope store reservation envelope
  | .abandon_outbound_application reservation =>
    Replay.abandon_outbound_application store reservation
  | .abandon_unsealed_outbox => (.ok (), Replay.abandon_unsealed_outbox store)
  | .expire_outbound_application envelope =>
    answered (Replay.expire_outbound_application store envelope)
  | .mark_outbox_accepted stored => Replay.mark_outbox_accepted store stored
  | .outbound_history_message conversation_id stored =>
    answered (Replay.outbound_history_message store conversation_id stored)
  | .store_membership_outbox operation => Replay.store_membership_outbox host store operation
  | .mark_membership_outbox_accepted stored =>
    answered (Replay.mark_membership_outbox_accepted store stored)
  | .complete_membership_outbox operation_id =>
    Replay.complete_membership_outbox host store operation_id
  | .orphan_membership_outbox operation_id => Replay.orphan_membership_outbox store operation_id
  | .active_membership_outbox conversation_id =>
    answered (Replay.active_membership_outbox host store conversation_id)
  | .delivery call _ =>
    let (result, journal) := call.run (store.around host) store.journal
    (result, { store with journal })

/-- The store after the calls, from a profile that holds nothing. -/
def ReplayStore.after (others : σ) (calls : List StoreCall) : ReplayStore σ :=
  calls.foldl (fun store call => (call.run host store).2) (.empty others)

end Konclave.Daemon.Replay
