/-
`Konclave.LocalDaemon`: the directed-request handling journal of a profile store.

One record for each conversation, request and responder says who handles the request and
how handling ended. The tables the journal's operations read are part of the state, the
journal of remote events among them: a turn is asked for by a claimed event. A
sealed record is represented by the record it seals: `seal_directed_request_handling` is
the checks of the encoder, `decode_directed_request_handling` those of the decoder, and
what the columns repeat of the sealed record is not stored twice.
-/
import Konclave.Daemon.RemoteEvents

set_option autoImplicit false

namespace Konclave.Daemon

open Domain RemoteEvents

/-! ## Limits -/

def MAX_DIRECTED_REQUEST_HANDLINGS : ℕ := 4096
def MAX_DIRECTED_REQUEST_HANDLING_ATTEMPTS : ℕ := 16
def DELIVERY_RECEIPT_RETENTION_SECONDS : ℕ := 7 * 24 * 60 * 60

/-! ## Handling records -/

structure DirectedRequestClaim where
  conversation_id : ConversationId
  request_message_id : MessageId
  continuation_message_id : Option MessageId
  responder_device_id : DeviceId
  notification_id : NotificationId
  consumer_id : AdapterConsumerId
  lease_id : AdapterLeaseId
  lease_generation : ℕ
  claim_expires_at_unix_milliseconds : ℕ
  attempt : ℕ
  policy_digest : CollaborationPolicyDigest
  deriving DecidableEq, Repr

/-- The primary key of the journal. -/
abbrev HandlingKey := ConversationId × MessageId × DeviceId

def DirectedRequestClaim.key (claim : DirectedRequestClaim) : HandlingKey :=
  (claim.conversation_id, claim.request_message_id, claim.responder_device_id)

inductive HandlingState
  | Claimed
  | CompletedResponse
  | CompletedNoResponse
  deriving DecidableEq, Repr

structure OutboundReservation where
  conversation_id : ConversationId
  message_id : MessageId
  envelope_id : EnvelopeId
  sender_counter : ℕ
  deriving DecidableEq, Repr

structure RequestDeliveryReceipt where
  reservation : OutboundReservation
  outcome : RequestDeliveryOutcome
  request_message_id : MessageId
  sent_at_unix_milliseconds : ℕ
  expires_at_unix_seconds : ℕ
  deriving DecidableEq, Repr

structure DirectedRequestHandling where
  claim : DirectedRequestClaim
  state : HandlingState
  response_message_id : Option MessageId
  response_envelope_id : Option EnvelopeId
  response_sender_counter : Option ℕ
  response_text : Option String
  response_sent_at_unix_milliseconds : Option ℕ
  response_expires_at_unix_seconds : Option ℕ
  delivery_receipts : List RequestDeliveryReceipt
  deriving DecidableEq, Repr

def DirectedRequestHandling.key (handling : DirectedRequestHandling) : HandlingKey :=
  handling.claim.key

/-- A record without a response. -/
def DirectedRequestHandling.without_response (claim : DirectedRequestClaim)
    (state : HandlingState) (delivery_receipts : List RequestDeliveryReceipt) :
    DirectedRequestHandling :=
  ⟨claim, state, none, none, none, none, none, none, delivery_receipts⟩

/-- The length `encode_directed_request_handling` writes for the response. -/
def DirectedRequestHandling.response_length (handling : DirectedRequestHandling) : ℕ :=
  (handling.response_text.map String.utf8ByteSize).getD 0

/-! ## Tables -/

structure ConversationRow where
  conversation_id : ConversationId
  routing_id : RoutingId
  sender_counter : ℕ
  deriving DecidableEq, Repr

structure CollaborationPolicyBindingRow where
  conversation_id : ConversationId
  policy_digest : CollaborationPolicyDigest
  deriving DecidableEq, Repr

structure HistoryRecord where
  cursor : Option ℕ
  direction : MessageDirection
  sender : DeviceId
  message : ApplicationMessage
  complete : Bool
  deriving DecidableEq, Repr

structure MessageHistoryRow where
  conversation_id : ConversationId
  record : HistoryRecord
  deriving DecidableEq, Repr

/-- The columns of `daemon_outbox` a reservation reads and writes. -/
structure OutboxRow where
  envelope_id : EnvelopeId
  conversation_id : ConversationId
  message_id : MessageId
  sender_counter : ℕ
  status : ℕ
  terminal_reason : Option ℕ
  deriving DecidableEq, Repr

structure ProfileStore where
  conversation : Table ConversationId ConversationRow ConversationRow.conversation_id
  conversation_binding : List (ConversationId × DeviceId)
  collaboration_policy_binding : Table ConversationId CollaborationPolicyBindingRow
    CollaborationPolicyBindingRow.conversation_id
  collaboration_policy_operation : List (ConversationId × MessageId)
  internal_application_message : List (ConversationId × MessageId)
  journal : RemoteEventJournal
  message_history : Table (ConversationId × MessageId) MessageHistoryRow
    (fun row => (row.conversation_id, row.record.message.message_id))
  outbox : Table EnvelopeId OutboxRow OutboxRow.envelope_id
  directed_request_handling : Table HandlingKey DirectedRequestHandling
    DirectedRequestHandling.key
  /-- The sealed record count of the journal. -/
  directed_request_handling_state : ℕ
  deriving DecidableEq

/-- `derive_request_delivery_identifiers`, a hash of its arguments. -/
abbrev DeliveryIdentifiers :=
  ConversationId → MessageId → DeviceId → RequestDeliveryOutcome → MessageId × EnvelopeId

variable (store : ProfileStore) (conversation_id : ConversationId)
  (handling : DirectedRequestHandling)

/-! ## Reading the other tables -/

def require_active_collaboration_policy_digest (required_digest : CollaborationPolicyDigest) :
    Except ProfileStoreError Unit :=
  match store.collaboration_policy_binding.get? conversation_id with
  | some row =>
    if row.policy_digest = required_digest then .ok ()
    else .error .CollaborationPolicyReplacementMismatch
  | none => .error .CollaborationPolicyReplacementMismatch

def require_current_conversation_member (device_id : DeviceId) : Except ProfileStoreError Unit :=
  if (conversation_id, device_id) ∈ store.conversation_binding then .ok ()
  else .error .InvalidTransition

def request_routing_id : Except ProfileStoreError RoutingId :=
  match store.conversation.get? conversation_id with
  | some row => .ok row.routing_id
  | none => .error .ConversationNotFound

/-- A stored message must be marked internal exactly when its content is. -/
def load_history_record (message_id : MessageId) :
    Except ProfileStoreError (Option HistoryRecord) :=
  match store.message_history.get? (conversation_id, message_id) with
  | none => .ok none
  | some row =>
    if decide ((conversation_id, message_id) ∈ store.internal_application_message)
        = row.record.message.content.is_internal then .ok (some row.record)
    else .error .CorruptData

/-- What the journal of events reads of the other tables. None of the operations here inserts
or delivers an event, so the records that events stand for are not read. -/
def ProfileStore.around : Surroundings Unit where
  conversation := fun conversation_id => (store.conversation.get? conversation_id).map fun row =>
    ⟨row.conversation_id, row.routing_id, none⟩
  delivery_length := fun _ _ _ => none
  payload := fun _ => .ok ()

/-- The sequence of the event that a notification names. -/
def remote_event_sequence (notification_id : NotificationId) : Option ℕ :=
  (store.journal.events.rows.find? (·.event.notification_id = notification_id)).map
    (·.event.sequence)

/-- `load_remote_event_record_in`, of the sequence that a notification names. -/
def load_notified_remote_event (notification_id : NotificationId) :
    Except ProfileStoreError RemoteEventRow := do
  let sequence ← some_or (remote_event_sequence store notification_id) .OperationNotFound
  load_remote_event_record store.around store.journal sequence

/-! ## Sealing and opening a record

Both directions check which fields go together; what one writes the other accepts. -/

/-- The checks of `encode_directed_request_handling`. -/
def seal_directed_request_handling : Except ProfileStoreError DirectedRequestHandling :=
  let response_present := handling.response_message_id.isSome
    ∧ handling.response_envelope_id.isSome
    ∧ handling.response_sender_counter.any (0 < ·)
    ∧ 0 < handling.response_length
    ∧ handling.response_sent_at_unix_milliseconds.isSome
    ∧ handling.response_expires_at_unix_seconds.any (0 < ·)
  if (handling.claim.continuation_message_id.isSome ∧ handling.state = .CompletedResponse)
      ∨ MAX_TEXT_BODY_BYTES < handling.response_length
      ∨ ¬ (handling.state = .CompletedResponse ↔ response_present)
      ∨ (handling.state ≠ .CompletedResponse
        ∧ (handling.response_message_id.isSome
          ∨ handling.response_envelope_id.isSome
          ∨ handling.response_sender_counter.isSome
          ∨ handling.response_text.isSome
          ∨ handling.response_sent_at_unix_milliseconds.isSome
          ∨ handling.response_expires_at_unix_seconds.isSome)) then
    .error .CorruptData
  else if handling.delivery_receipts ≠ [] ∧ handling.claim.continuation_message_id.isSome then
    .error .CorruptData
  else if 2 < handling.delivery_receipts.length then .error .CorruptData
  else .ok handling

/-- The receipts a record of the given state may hold. -/
def receipts_match_state (state : HandlingState) : List RequestDeliveryReceipt → Bool
  | [] => true
  | [receipt] =>
    (receipt.outcome = .Admitted ∧ state ≠ .CompletedNoResponse)
      ∨ (receipt.outcome = .ExpiredBeforeAdmission ∧ state = .CompletedNoResponse)
  | [admission, terminal] =>
    admission.outcome = .Admitted ∧ terminal.outcome = .EndedWithoutResponse
      ∧ admission.reservation.sender_counter < terminal.reservation.sender_counter
      ∧ state = .CompletedNoResponse
  | _ => false

/-- The checks of `decode_directed_request_handling`. -/
def decode_directed_request_handling : Except ProfileStoreError DirectedRequestHandling :=
  let claim := handling.claim
  if (claim.continuation_message_id.isSome ∧ handling.state = .CompletedResponse)
      ∨ MAX_TEXT_BODY_BYTES < handling.response_length then .error .CorruptData
  else if ¬ (handling.state = .CompletedResponse
      ↔ handling.response_message_id.isSome
        ∧ handling.response_envelope_id.isSome
        ∧ 0 < handling.response_sender_counter.getD 0
        ∧ 0 < handling.response_length
        ∧ 0 < handling.response_expires_at_unix_seconds.getD 0) then .error .CorruptData
  else if handling.state ≠ .CompletedResponse
      ∧ (handling.response_message_id.isSome
        ∨ handling.response_envelope_id.isSome
        ∨ handling.response_sender_counter.getD 0 ≠ 0
        ∨ 0 < handling.response_length
        ∨ handling.response_sent_at_unix_milliseconds.getD 0 ≠ 0
        ∨ handling.response_expires_at_unix_seconds.getD 0 ≠ 0) then .error .CorruptData
  else if claim.lease_generation = 0 ∨ claim.claim_expires_at_unix_milliseconds = 0
      ∨ claim.attempt = 0 ∨ MAX_DIRECTED_REQUEST_HANDLING_ATTEMPTS < claim.attempt then
    .error .CorruptData
  else if handling.delivery_receipts.any (fun receipt =>
      receipt.reservation.sender_counter = 0
        ∨ checked_add (receipt.sent_at_unix_milliseconds / 1000)
            DELIVERY_RECEIPT_RETENTION_SECONDS ≠ some receipt.expires_at_unix_seconds) then
    .error .CorruptData
  else if receipts_match_state handling.state handling.delivery_receipts then .ok handling
  else .error .CorruptData

/-- The application message a receipt stands for. -/
def receipt_message (receipt : RequestDeliveryReceipt) :
    Except ProfileStoreError ApplicationMessage :=
  match ApplicationMessage.new .application_v1 receipt.reservation.message_id
      receipt.reservation.sender_counter receipt.sent_at_unix_milliseconds
      (some receipt.request_message_id) (.RequestDeliveryOutcome receipt.outcome) with
  | .ok message => .ok message
  | .error _ => .error .CorruptData

/-- The receipts of an opened record must be ones its responder may give for the request. -/
def verify_delivery_receipts : Except ProfileStoreError Unit := do
  if handling.delivery_receipts = [] then .ok ()
  else
    let _ ← request_routing_id store handling.claim.conversation_id
    match ← load_history_record store handling.claim.conversation_id
        handling.claim.request_message_id with
    | none => .error .CorruptData
    | some original =>
      if original.complete = false ∨ original.direction ≠ .Inbound then .error .CorruptData
      else handling.delivery_receipts.forM (fun receipt => do
        let message ← receipt_message receipt
        match validate_request_delivery_receipt original.message
            handling.claim.responder_device_id message with
        | .ok () => .ok ()
        | .error _ => .error .CorruptData)

/-- `load_handling_metadata`, then `open_directed_request_handling` of the row it found. -/
def load_directed_request_handling (key : HandlingKey) :
    Except ProfileStoreError (Option DirectedRequestHandling) := do
  match store.directed_request_handling.get? key with
  | none => .ok none
  | some row =>
    let handling ← decode_directed_request_handling row
    verify_delivery_receipts store handling
    .ok (some handling)

/-- The same where a missing record is an error. -/
def require_directed_request_handling (key : HandlingKey) :
    Except ProfileStoreError DirectedRequestHandling := do
  match ← load_directed_request_handling store key with
  | none => .error .OperationNotFound
  | some handling => .ok handling

/-! ## Writing a record

The two statements that write a record, and the count that is sealed with it. -/

/-- The parameters of the two statements that write a record, and the table's `CHECK`s. -/
def handling_row : Except ProfileStoreError DirectedRequestHandling := do
  let sealed_handling ← seal_directed_request_handling handling
  let lease_generation ← to_sql_integer handling.claim.lease_generation
  let claim_expiry ← to_sql_integer handling.claim.claim_expires_at_unix_milliseconds
  if lease_generation < 1 ∨ claim_expiry < 1 ∨ handling.claim.attempt < 1
      ∨ 16 < handling.claim.attempt then .error .Storage
  else .ok sealed_handling

/-- `INSERT`, with the foreign key of the request's history. -/
def insert_directed_request_handling : Except ProfileStoreError ProfileStore := do
  let row ← handling_row handling
  if (store.message_history.get?
      (handling.claim.conversation_id, handling.claim.request_message_id)).isNone then
    .error .Storage
  else match store.directed_request_handling.insert? row with
    | none => .error .Storage
    | some directed_request_handling => .ok { store with directed_request_handling }

/-- The index `daemon_directed_request_response_idx` holds another row's response. -/
def response_taken : Bool :=
  handling.response_message_id.isSome
    && store.directed_request_handling.rows.any (fun row =>
      row.key ≠ handling.key ∧ row.claim.conversation_id = handling.claim.conversation_id
        ∧ row.response_message_id = handling.response_message_id)

/-- `UPDATE … WHERE` the key; no row changed is an error. -/
def update_directed_request_handling : Except ProfileStoreError ProfileStore := do
  let row ← handling_row handling
  if (store.directed_request_handling.get? handling.key).isNone then .error .InvalidTransition
  else if response_taken store handling then .error .Storage
  else .ok { store with
    directed_request_handling := store.directed_request_handling.put row }

def require_directed_request_handling_capacity : Except ProfileStoreError Unit :=
  if MAX_DIRECTED_REQUEST_HANDLINGS ≤ store.directed_request_handling.rows.length then
    .error .DirectedRequestHandlingCapacityExceeded
  else .ok ()

/-- The record count to seal with one more record. -/
def advance_directed_request_handling_state : Except ProfileStoreError ℕ :=
  let actual_count := store.directed_request_handling.rows.length
  if MAX_DIRECTED_REQUEST_HANDLINGS < store.directed_request_handling_state
      ∨ store.directed_request_handling_state ≠ actual_count then .error .CorruptData
  else .ok (actual_count + 1)

/-! ## Outbound reservations

A response and a receipt reserve the next counter of the conversation before they are sent. -/

/-- `reserve_new_outbound_application_in`: the next sender counter and one outbox row. -/
def reserve_new_outbound_application (message_id : MessageId) (envelope_id : EnvelopeId) :
    Except ProfileStoreError (OutboundReservation × ProfileStore) := do
  let pending := store.outbox.rows.filter (fun row =>
    row.status = 1 ∨ (row.status = 2 ∧ row.terminal_reason = none))
  if MAX_PENDING_OUTBOX ≤ pending.length then .error .OutboxCapacityExceeded
  else match store.conversation.get? conversation_id with
    | none => .error .ConversationNotFound
    | some conversation =>
      match checked_add conversation.sender_counter 1 with
      | none => .error .SequenceExhausted
      | some sender_counter =>
        let sender_counter ← to_sql_integer sender_counter
        if store.outbox.rows.any (fun row => row.conversation_id = conversation_id
            ∧ (row.message_id = message_id ∨ row.sender_counter = sender_counter)) then
          .error .DuplicateOperation
        else
          let row := ⟨envelope_id, conversation_id, message_id, sender_counter, 1, none⟩
          match store.outbox.insert? row with
          | none => .error .DuplicateOperation
          | some outbox =>
            .ok (⟨conversation_id, message_id, envelope_id, sender_counter⟩,
              { store with
                conversation := store.conversation.put { conversation with sender_counter }
                outbox })

/-- `reserve_request_delivery_receipt_in`. -/
def reserve_request_delivery_receipt (derive : DeliveryIdentifiers) (store : ProfileStore)
    (claim : DirectedRequestClaim) (outcome : RequestDeliveryOutcome) (now : ℕ) :
    Except ProfileStoreError (RequestDeliveryReceipt × ProfileStore) := do
  let identifiers := derive claim.conversation_id claim.request_message_id
    claim.responder_device_id outcome
  let (reservation, store) ← reserve_new_outbound_application store claim.conversation_id
    identifiers.1 identifiers.2
  match checked_add (now / 1000) DELIVERY_RECEIPT_RETENTION_SECONDS with
  | none => .error .SequenceExhausted
  | some expires_at =>
    .ok (⟨reservation, outcome, claim.request_message_id, now, expires_at⟩, store)

end Konclave.Daemon
