/-
The operations of the directed-request handling journal.

Claiming a turn, resuming and renewing an attempt, and the two ways to end one: without a
response, or by reserving the response. Each is one transaction of the profile store.
`ProfileStore.Step` is one such call, or any write of the daemon to the other tables.
-/
import Konclave.Daemon.Handling

set_option autoImplicit false

namespace Konclave.Daemon

open Domain RemoteEvents

variable (derive : DeliveryIdentifiers) (store : ProfileStore) (consumer_id : AdapterConsumerId)
  (lease_id : AdapterLeaseId) (claim : DirectedRequestClaim) (now : ℕ)

/-! ## The claimed event -/

variable (expires_at : ℕ) (delivery_options : Option RequestDeliveryOptions)
  (conversation_id : ConversationId)

/-- The relay cursor and the sender of the message that asks for a turn: the request, or
the answer that continues a request of this device. -/
def verify_directed_request_message (request_message_id : MessageId)
    (responder_device_id : DeviceId) (continuation_message_id : Option MessageId) :
    Except ProfileStoreError (ℕ × DeviceId) := do
  let _ ← request_routing_id store conversation_id
  match ← load_history_record store conversation_id request_message_id with
  | none => .error .OperationNotFound
  | some history =>
    match continuation_message_id with
    | some response_message_id =>
      match ← load_history_record store conversation_id response_message_id with
      | none => .error .OperationNotFound
      | some response =>
        match validate_response_continuation responder_device_id
            ⟨conversation_id, history.sender, history.direction, history.complete,
              history.message⟩
            ⟨conversation_id, response.sender, response.direction, response.complete,
              response.message⟩ with
        | .error _ => .error .InvalidTransition
        | .ok () =>
          match response.cursor with
          | none => .error .CorruptData
          | some cursor => .ok (cursor, response.sender)
    | none =>
      match history.message.content with
      | .DirectedRequest request =>
        if history.complete = false ∨ history.direction ≠ .Inbound
            ∨ history.message.message_id ≠ request_message_id
            ∨ history.sender = responder_device_id
            ∨ request.target_device_id ≠ responder_device_id then
          .error .InvalidTransition
        else match history.cursor with
          | none => .error .CorruptData
          | some cursor => .ok (cursor, history.sender)
      | _ => .error .InvalidTransition

/-- The expiry of the live delivery lease on the event that asks for the turn. -/
def verify_claimed_directed_request_event (request_message_id : MessageId)
    (responder_device_id : DeviceId) (notification_id : NotificationId)
    (consumer_id : AdapterConsumerId) (lease_id : AdapterLeaseId) (lease_generation now : ℕ)
    (continuation_message_id : Option MessageId) : Except ProfileStoreError ℕ := do
  let ⟨event, state⟩ ← load_notified_remote_event store notification_id
  match state.lease_expires_at_unix_milliseconds with
  | none => .error .InvalidAdapterLease
  | some claim_expiry =>
    if event.conversation_id ≠ conversation_id ∨ event.kind ≠ .ApplicationMessage
        ∨ event.source_identifier ≠ continuation_message_id.getD request_message_id
        ∨ state.status ≠ .Claimed ∨ state.consumer_id ≠ some consumer_id
        ∨ state.lease_id ≠ some lease_id ∨ state.lease_generation ≠ lease_generation
        ∨ claim_expiry ≤ now then
      .error .InvalidAdapterLease
    else
      let (history_cursor, history_sender) ← verify_directed_request_message store
        conversation_id request_message_id responder_device_id continuation_message_id
      if history_cursor ≠ event.relay_cursor ∨ history_sender ≠ event.sender then
        .error .CorruptData
      else
        if continuation_message_id.isSome then
          require_current_conversation_member store conversation_id history_sender
        .ok claim_expiry

/-! ## Claiming a turn

A claim is answered from the record, or it makes the next attempt under the event's lease. -/

structure ClaimDirectedRequest where
  conversation_id : ConversationId
  request_message_id : MessageId
  responder_device_id : DeviceId
  notification_id : NotificationId
  consumer_id : AdapterConsumerId
  lease_id : AdapterLeaseId
  lease_generation : ℕ
  policy_digest : CollaborationPolicyDigest
  now_unix_milliseconds : ℕ
  deriving DecidableEq, Repr

def ClaimDirectedRequest.key (request : ClaimDirectedRequest) : HandlingKey :=
  (request.conversation_id, request.request_message_id, request.responder_device_id)

inductive DirectedRequestClaimOutcome
  | Claimed (claim : DirectedRequestClaim)
  | Busy
  | AttemptsExhausted
  | CompletedResponse
  | CompletedNoResponse
  | ExpiredBeforeAdmission
  deriving DecidableEq, Repr

def claim_matches (request : ClaimDirectedRequest) : Bool :=
  claim.conversation_id = request.conversation_id
    ∧ claim.request_message_id = request.request_message_id
    ∧ claim.responder_device_id = request.responder_device_id
    ∧ claim.notification_id = request.notification_id
    ∧ claim.consumer_id = request.consumer_id
    ∧ claim.lease_id = request.lease_id
    ∧ claim.lease_generation = request.lease_generation
    ∧ claim.policy_digest = request.policy_digest

/-- The delivery options the request asks for; a continuation has none. -/
def claim_delivery_options (request : ClaimDirectedRequest)
    (continuation_message_id : Option MessageId) :
    Except ProfileStoreError (Option RequestDeliveryOptions) := do
  if continuation_message_id.isNone then
    let _ ← request_routing_id store request.conversation_id
    match ← load_history_record store request.conversation_id request.request_message_id with
    | none => .error .OperationNotFound
    | some original =>
      match original.message.content with
      | .DirectedRequest directed => .ok directed.delivery
      | _ => .error .InvalidTransition
  else .ok none

/-- Whether the options' admission cutoff has passed. -/
def cutoff_passed (now : ℕ) : Bool :=
  (delivery_options.bind (·.expiry)).any (·.is_expired now)

def active_directed_request_claim_count : Except ProfileStoreError ℕ := do
  let now ← to_sql_integer now
  .ok (store.directed_request_handling.rows.filter (fun row =>
    row.state = .Claimed ∧ row.claim.consumer_id = consumer_id
      ∧ now < row.claim.claim_expires_at_unix_milliseconds)).length

/-- What a claim finds in the journal: an answer to return as it is, or the number of the
attempt to make. -/
def claim_attempt (request : ClaimDirectedRequest) (existing : Option DirectedRequestHandling)
    (expired_before_admission : Bool) :
    Except ProfileStoreError (DirectedRequestClaimOutcome ⊕ ℕ) := do
  match existing with
  | some existing =>
    match existing.state with
    | .CompletedResponse => .ok (.inl .CompletedResponse)
    | .CompletedNoResponse =>
      if existing.delivery_receipts.any (·.outcome = .ExpiredBeforeAdmission) then
        .ok (.inl .ExpiredBeforeAdmission)
      else .ok (.inl .CompletedNoResponse)
    | .Claimed =>
      if claim_matches existing.claim request then .ok (.inl (.Claimed existing.claim))
      else if request.now_unix_milliseconds
          < existing.claim.claim_expires_at_unix_milliseconds then .ok (.inl .Busy)
      else if MAX_DIRECTED_REQUEST_HANDLING_ATTEMPTS ≤ existing.claim.attempt then
        .ok (.inl .AttemptsExhausted)
      else if expired_before_admission then .ok (.inr (existing.claim.attempt + 1))
      else
        let active ← active_directed_request_claim_count store request.consumer_id
          request.now_unix_milliseconds
        if 0 < active then .ok (.inl .Busy) else .ok (.inr (existing.claim.attempt + 1))
  | none =>
    if expired_before_admission then .ok (.inr 1)
    else
      let active ← active_directed_request_claim_count store request.consumer_id
        request.now_unix_milliseconds
      if 0 < active then .ok (.inl .Busy) else .ok (.inr 1)

/-- The receipt a new record starts with, when the request asked for receipts. -/
def admission_receipts (expired_before_admission : Bool) (now : ℕ) :
    Except ProfileStoreError (List RequestDeliveryReceipt × ProfileStore) :=
  if delivery_options.isSome then
    (reserve_request_delivery_receipt derive store claim
      (if expired_before_admission then .ExpiredBeforeAdmission else .Admitted) now).map
      (fun reserved => ([reserved.1], reserved.2))
  else .ok ([], store)

/-- The journal's write of a claim that makes an attempt. -/
def write_claim (existing : Option DirectedRequestHandling)
    (delivery_options : Option RequestDeliveryOptions) (expired_before_admission : Bool) (now : ℕ) :
    Except ProfileStoreError ProfileStore := do
  let state := if expired_before_admission then .CompletedNoResponse else .Claimed
  match existing with
  | some existing =>
    update_directed_request_handling store
      (.without_response claim state existing.delivery_receipts)
  | none =>
    let (receipts, store) ← admission_receipts derive store claim delivery_options
      expired_before_admission now
    require_directed_request_handling_capacity store
    let sealed_state ← advance_directed_request_handling_state store
    let store ← insert_directed_request_handling store (.without_response claim state receipts)
    .ok { store with directed_request_handling_state := sealed_state }

def claim_collaboration_turn (request : ClaimDirectedRequest)
    (continuation_message_id : Option MessageId) :
    Except ProfileStoreError DirectedRequestClaimOutcome × ProfileStore :=
  transaction store do
    require_active_collaboration_policy_digest store request.conversation_id
      request.policy_digest
    require_current_conversation_member store request.conversation_id
      request.responder_device_id
    verify_active_adapter_consumer_now store.journal request.consumer_id request.lease_id
      request.now_unix_milliseconds
    let claim_expiry ← verify_claimed_directed_request_event store request.conversation_id
      request.request_message_id request.responder_device_id request.notification_id
      request.consumer_id request.lease_id request.lease_generation
      request.now_unix_milliseconds continuation_message_id
    let existing ← load_directed_request_handling store request.key
    let delivery_options ← claim_delivery_options store request continuation_message_id
    let expired_before_admission :=
      existing.isNone && cutoff_passed delivery_options request.now_unix_milliseconds
    if existing.any (·.claim.continuation_message_id ≠ continuation_message_id) then
      .error .InvalidTransition
    else
      match ← claim_attempt store request existing expired_before_admission with
      | .inl outcome => .ok (outcome, store)
      | .inr attempt =>
        let claim := ⟨request.conversation_id, request.request_message_id,
          continuation_message_id, request.responder_device_id, request.notification_id,
          request.consumer_id, request.lease_id, request.lease_generation, claim_expiry,
          attempt, request.policy_digest⟩
        let store ← write_claim derive store claim existing delivery_options
          expired_before_admission request.now_unix_milliseconds
        .ok (if expired_before_admission then .ExpiredBeforeAdmission else .Claimed claim,
          store)

/-! ## Resuming and renewing an attempt

An attempt outlives a lost lease when its consumer comes back before the claim expires. -/

structure ActiveDirectedRequestClaim where
  conversation_id : ConversationId
  request_message_id : MessageId
  responder_device_id : DeviceId
  consumer_id : AdapterConsumerId
  attempt : ℕ
  policy_digest : CollaborationPolicyDigest
  now_unix_milliseconds : ℕ
  deriving DecidableEq, Repr

def ActiveDirectedRequestClaim.key (request : ActiveDirectedRequestClaim) : HandlingKey :=
  (request.conversation_id, request.request_message_id, request.responder_device_id)

def resume_claim_matches (handling : DirectedRequestHandling)
    (request : ActiveDirectedRequestClaim) : Bool :=
  let claim := handling.claim
  handling.state = .Claimed
    ∧ claim.conversation_id = request.conversation_id
    ∧ claim.request_message_id = request.request_message_id
    ∧ claim.responder_device_id = request.responder_device_id
    ∧ claim.consumer_id = request.consumer_id
    ∧ claim.attempt = request.attempt
    ∧ claim.policy_digest = request.policy_digest
    ∧ request.now_unix_milliseconds < claim.claim_expires_at_unix_milliseconds

/-- The event is free, or still leased to the attempt that is resumed. -/
def resumable_event (state : RemoteEventDeliveryState) (claim : DirectedRequestClaim)
    (consumer_id : AdapterConsumerId) : Bool :=
  match state.status with
  | .Pending =>
    state.consumer_id = none ∧ state.lease_id = none
      ∧ state.lease_expires_at_unix_milliseconds = none
  | .Claimed =>
    state.consumer_id = some consumer_id ∧ state.lease_id = some claim.lease_id
      ∧ state.lease_expires_at_unix_milliseconds
        = some claim.claim_expires_at_unix_milliseconds
  | .Acknowledged | .Suppressed => false

def resume_directed_request_delivery (request : ActiveDirectedRequestClaim)
    (lease_id : AdapterLeaseId) (expires_at : ℕ) :
    Except ProfileStoreError DirectedRequestClaim × ProfileStore :=
  transaction store do
    validate_adapter_lease_window request.now_unix_milliseconds expires_at
    require_active_collaboration_policy_digest store request.conversation_id
      request.policy_digest
    require_current_conversation_member store request.conversation_id
      request.responder_device_id
    let handling ← require_directed_request_handling store request.key
    if resume_claim_matches handling request = false then .error .InvalidAdapterLease
    else if store.journal.consumer.any (fun row =>
        row.consumer_id ≠ request.consumer_id ∨ row.lease_id ≠ handling.claim.lease_id
          ∨ row.lease_expires_at_unix_milliseconds ≤ request.now_unix_milliseconds) then
      .error .InvalidAdapterLease
    else
      let ⟨event, state⟩ ← load_notified_remote_event store handling.claim.notification_id
      if resumable_event state handling.claim request.consumer_id = false
          ∨ state.lease_generation ≠ handling.claim.lease_generation then
        .error .InvalidAdapterLease
      else
        let lease_expires_at ← to_sql_integer expires_at
        let journal ← store_remote_event_delivery_state
          { store.journal with
            consumer := some ⟨request.consumer_id, lease_id, lease_expires_at⟩ }
          event ⟨.Claimed, some request.consumer_id, some lease_id,
            handling.claim.lease_generation, some expires_at⟩
        let store := { store with journal }
        let _ ← verify_claimed_directed_request_event store request.conversation_id
          request.request_message_id request.responder_device_id handling.claim.notification_id
          request.consumer_id lease_id handling.claim.lease_generation
          request.now_unix_milliseconds handling.claim.continuation_message_id
        let claim := { handling.claim with
          lease_id, claim_expires_at_unix_milliseconds := expires_at }
        let store ← update_directed_request_handling store { handling with claim }
        .ok (claim, store)

/-- `renew_directed_request_claim_in`. -/
def renew_directed_request_claim (request : ActiveDirectedRequestClaim) (lease_id : AdapterLeaseId)
    (expires_at : ℕ) : Except ProfileStoreError ProfileStore := do
  let handling ← require_directed_request_handling store request.key
  if handling.claim.consumer_id ≠ request.consumer_id ∨ handling.claim.lease_id ≠ lease_id
      ∨ handling.claim.attempt ≠ request.attempt
      ∨ handling.claim.policy_digest ≠ request.policy_digest then .error .InvalidAdapterLease
  else if handling.state ≠ .Claimed then .ok store
  else if handling.claim.claim_expires_at_unix_milliseconds ≤ request.now_unix_milliseconds then
    .error .InvalidAdapterLease
  -- the sequence is read without `optional`, so an absent event is a storage error here
  else if (remote_event_sequence store handling.claim.notification_id).isNone then
    .error .Storage
  else
    let ⟨_, state⟩ ← load_notified_remote_event store handling.claim.notification_id
    if state.status ≠ .Claimed ∨ state.consumer_id ≠ some request.consumer_id
        ∨ state.lease_id ≠ some lease_id
        ∨ state.lease_generation ≠ handling.claim.lease_generation
        ∨ state.lease_expires_at_unix_milliseconds ≠ some expires_at then
      .error .InvalidAdapterLease
    else
      let claim := { handling.claim with claim_expires_at_unix_milliseconds := expires_at }
      update_directed_request_handling store { handling with claim }

def heartbeat_adapter_consumer (directed_request : Option ActiveDirectedRequestClaim) :
    Except ProfileStoreError Unit × ProfileStore :=
  transaction store do
    let (store, journal) ← heartbeat_statements store.around store.journal consumer_id lease_id now
      expires_at fun journal => match directed_request with
        | some request =>
          renew_directed_request_claim { store with journal } request lease_id expires_at
        | none => .ok { store with journal }
    .ok ((), { store with journal })

/-! ## Ending an attempt

An attempt ends without a response, or with the response it reserves. -/

structure CompleteDirectedRequest where
  conversation_id : ConversationId
  request_message_id : MessageId
  responder_device_id : DeviceId
  consumer_id : AdapterConsumerId
  attempt : ℕ
  policy_digest : CollaborationPolicyDigest
  deriving DecidableEq, Repr

def CompleteDirectedRequest.key (request : CompleteDirectedRequest) : HandlingKey :=
  (request.conversation_id, request.request_message_id, request.responder_device_id)

def completion_matches (request : CompleteDirectedRequest) : Bool :=
  claim.conversation_id = request.conversation_id
    ∧ claim.request_message_id = request.request_message_id
    ∧ claim.responder_device_id = request.responder_device_id
    ∧ claim.consumer_id = request.consumer_id
    ∧ claim.attempt = request.attempt
    ∧ claim.policy_digest = request.policy_digest

inductive DirectedRequestCompletionOutcome
  | CompletedResponse
  | CompletedNoResponse (changed : Bool)
  deriving DecidableEq, Repr

/-- The receipts a record ends with: those it has, and one for the end if it has any. -/
def terminal_receipts (existing : DirectedRequestHandling) (now : ℕ) :
    Except ProfileStoreError (List RequestDeliveryReceipt × ProfileStore) :=
  if existing.delivery_receipts ≠ [] then
    (reserve_request_delivery_receipt derive store existing.claim .EndedWithoutResponse now).map
      (fun reserved => (existing.delivery_receipts ++ [reserved.1], reserved.2))
  else .ok (existing.delivery_receipts, store)

/-- `now` is the system clock the terminal receipt is dated with. -/
def complete_directed_request_without_response (request : CompleteDirectedRequest) (now : ℕ) :
    Except ProfileStoreError DirectedRequestCompletionOutcome × ProfileStore :=
  transaction store do
    let existing ← require_directed_request_handling store request.key
    if completion_matches existing.claim request = false then .error .InvalidTransition
    else if existing.state = .CompletedNoResponse then
      .ok (.CompletedNoResponse false, store)
    else if existing.state = .CompletedResponse then .ok (.CompletedResponse, store)
    else
      let (receipts, store) ← terminal_receipts derive store existing now
      let store ← update_directed_request_handling store
        (.without_response existing.claim .CompletedNoResponse receipts)
      .ok (.CompletedNoResponse true, store)

def require_live_directed_request_claim : Except ProfileStoreError Unit := do
  if claim.claim_expires_at_unix_milliseconds ≤ now then .error .InvalidAdapterLease
  else
    require_active_collaboration_policy_digest store claim.conversation_id claim.policy_digest
    require_current_conversation_member store claim.conversation_id claim.responder_device_id
    verify_active_adapter_consumer_now store.journal claim.consumer_id claim.lease_id now
    let _ ← verify_claimed_directed_request_event store claim.conversation_id
      claim.request_message_id claim.responder_device_id claim.notification_id
      claim.consumer_id claim.lease_id claim.lease_generation now
      claim.continuation_message_id
    .ok ()

def response_message_id_occupied_outside_outbox (response_message_id : MessageId) : Bool :=
  (store.message_history.get? (conversation_id, response_message_id)).isSome
    || decide ((conversation_id, response_message_id) ∈ store.collaboration_policy_operation)
    || store.directed_request_handling.rows.any (fun row =>
      row.claim.conversation_id = conversation_id
        ∧ row.response_message_id = some response_message_id)

/-- What a response carries besides its claim and its identifiers. -/
structure ResponseContent where
  content : ApplicationContent
  reply_to : Option MessageId
  sent_at_unix_milliseconds : ℕ
  expires_at_unix_seconds : ℕ
  deriving DecidableEq, Repr

/-- The record that `reserve_directed_request_response_in` completes a claim with. -/
def DirectedRequestHandling.with_response (handling : DirectedRequestHandling)
    (reservation : OutboundReservation) (response_text : String)
    (response : ResponseContent) : DirectedRequestHandling :=
  ⟨handling.claim, .CompletedResponse, some reservation.message_id,
    some reservation.envelope_id, some reservation.sender_counter, some response_text,
    some response.sent_at_unix_milliseconds, some response.expires_at_unix_seconds,
    handling.delivery_receipts⟩

/-- `reserve_directed_request_response_in`. -/
def reserve_directed_request_response (reservation : OutboundReservation) (inserted_outbox : Bool)
    (response : ResponseContent) (now : ℕ) : Except ProfileStoreError ProfileStore := do
  match response.content with
  | .Text response_text =>
    if claim.continuation_message_id.isSome
        ∨ response.reply_to ≠ some claim.request_message_id then .error .InvalidTransition
    else
      let existing ← require_directed_request_handling store claim.key
      if existing.state = .CompletedResponse ∧ existing.claim = claim
          ∧ existing.response_message_id = some reservation.message_id
          ∧ existing.response_envelope_id = some reservation.envelope_id
          ∧ existing.response_sender_counter = some reservation.sender_counter
          ∧ existing.response_text = some response_text
          ∧ existing.response_sent_at_unix_milliseconds
            = some response.sent_at_unix_milliseconds
          ∧ existing.response_expires_at_unix_seconds
            = some response.expires_at_unix_seconds then .ok store
      else if existing.state ≠ .Claimed ∨ existing.claim ≠ claim then
        .error .InvalidTransition
      else if inserted_outbox = false then .error .DuplicateOperation
      else
        require_live_directed_request_claim store claim now
        if response_message_id_occupied_outside_outbox store claim.conversation_id
            reservation.message_id then .error .DuplicateOperation
        else
          update_directed_request_handling store
            (existing.with_response reservation response_text response)
  | _ => .error .InvalidTransition

structure CollaborationActionAuthorization where
  policy_digest : CollaborationPolicyDigest
  consumer_id : AdapterConsumerId
  not_after_unix_milliseconds : ℕ
  directed_request_claim : DirectedRequestClaim
  deriving DecidableEq, Repr

def require_collaboration_action_lease (authorization : CollaborationActionAuthorization)
    (now : ℕ) :
    Except ProfileStoreError Unit :=
  if authorization.not_after_unix_milliseconds ≤ now then .error .InvalidAdapterLease
  else if I64_MAX < now then .error .Storage
  else if store.journal.consumer.any (fun row => row.consumer_id = authorization.consumer_id
      ∧ now < row.lease_expires_at_unix_milliseconds) then .ok ()
  else .error .InvalidAdapterLease

/-- `reserve_outbound_application_with_policy` for a collaboration action: the response of
one live attempt, under a new or an already reserved outbox row. -/
def reserve_outbound_collaboration_action (message_id : MessageId) (envelope_id : EnvelopeId)
    (authorization : CollaborationActionAuthorization) (response : ResponseContent) (now : ℕ) :
    Except ProfileStoreError OutboundReservation × ProfileStore :=
  transaction store do
    require_active_collaboration_policy_digest store conversation_id authorization.policy_digest
    require_collaboration_action_lease store authorization now
    if (conversation_id, message_id) ∈ store.collaboration_policy_operation then
      .error .DuplicateOperation
    else
      match store.outbox.rows.filter (fun row => row.envelope_id = envelope_id
          ∨ (row.conversation_id = conversation_id ∧ row.message_id = message_id)) with
      | [] =>
        let (reservation, store) ← reserve_new_outbound_application store conversation_id
          message_id envelope_id
        let store ← reserve_directed_request_response store
          authorization.directed_request_claim reservation true response now
        .ok (reservation, store)
      | [row] =>
        if row.conversation_id ≠ conversation_id ∨ row.message_id ≠ message_id
            ∨ row.envelope_id ≠ envelope_id then .error .DuplicateOperation
        else if row.status ≠ 1 ∨ row.terminal_reason ≠ none then .error .InvalidTransition
        else
          let reservation := ⟨conversation_id, message_id, envelope_id, row.sender_counter⟩
          let _ ← reserve_directed_request_response store
            authorization.directed_request_claim reservation false response now
          -- this path returns without committing
          .ok (reservation, store)
      | _ => .error .DuplicateOperation

/-! ## Runs -/

/-- A call of the journal, with the clock reading it is made at. -/
inductive Call
  | claim (request : ClaimDirectedRequest) (continuation_message_id : Option MessageId)
  | resume (request : ActiveDirectedRequestClaim) (lease_id : AdapterLeaseId) (expires_at : ℕ)
  | renew (consumer_id : AdapterConsumerId) (lease_id : AdapterLeaseId) (now expires_at : ℕ)
      (request : ActiveDirectedRequestClaim)
  | complete (request : CompleteDirectedRequest) (now : ℕ)
  | respond (conversation_id : ConversationId) (message_id : MessageId)
      (envelope_id : EnvelopeId) (authorization : CollaborationActionAuthorization)
      (response : ResponseContent) (now : ℕ)

/-- What a successful call returns. -/
inductive Reply
  | claim (outcome : DirectedRequestClaimOutcome)
  | resume (claim : DirectedRequestClaim)
  | renew
  | complete (outcome : DirectedRequestCompletionOutcome)
  | respond (reservation : OutboundReservation)
  deriving DecidableEq, Repr

def Call.run : Call → Except ProfileStoreError Reply × ProfileStore
  | .claim request continuation_message_id =>
    (claim_collaboration_turn derive store request continuation_message_id).map
      (·.map .claim) id
  | .resume request lease_id expires_at =>
    (resume_directed_request_delivery store request lease_id expires_at).map
      (·.map .resume) id
  | .renew consumer_id lease_id now expires_at request =>
    (heartbeat_adapter_consumer store consumer_id lease_id now expires_at (some request)).map
      (·.map fun _ => .renew) id
  | .complete request now =>
    (complete_directed_request_without_response derive store request now).map
      (·.map .complete) id
  | .respond conversation_id message_id envelope_id authorization response now =>
    (reserve_outbound_collaboration_action store conversation_id message_id envelope_id
      authorization response now).map (·.map .respond) id

/-- The record a call is about. -/
def Call.key : Call → HandlingKey
  | .claim request _ => request.key
  | .resume request _ _ => request.key
  | .renew _ _ _ _ request => request.key
  | .complete request _ => request.key
  | .respond _ _ _ authorization _ _ => authorization.directed_request_claim.key

/-- The attempt a call names; a claim names none. -/
def Call.attempt : Call → Option ℕ
  | .claim _ _ => none
  | .resume request _ _ => some request.attempt
  | .renew _ _ _ _ request => some request.attempt
  | .complete request _ => some request.attempt
  | .respond _ _ _ authorization _ _ => some authorization.directed_request_claim.attempt

/-- The reservation an outbox row holds; nothing changes it once the row exists. -/
def OutboxRow.reservation (row : OutboxRow) : OutboundReservation :=
  ⟨row.conversation_id, row.message_id, row.envelope_id, row.sender_counter⟩

namespace ProfileStore

/-- The outbox keeps every reservation it holds. -/
def ReservationsKept (store' : ProfileStore) : Prop :=
  ∀ row ∈ store.outbox.rows, ∃ row' ∈ store'.outbox.rows, row'.reservation = row.reservation

/-- Work that leaves the journal's two tables alone and keeps every outbox reservation. -/
structure OtherWork (store store' : ProfileStore) : Prop where
  journal : store'.directed_request_handling = store.directed_request_handling
  journal_state : store'.directed_request_handling_state = store.directed_request_handling_state
  reserved : store.ReservationsKept store'

/-- One call, or any other work of the daemon. -/
inductive Step (derive : DeliveryIdentifiers) : ProfileStore → ProfileStore → Prop
  | call (store : ProfileStore) (call : Call) : Step derive store (call.run derive store).2
  | other {store store' : ProfileStore} (h : store.OtherWork store') : Step derive store store'

abbrev Steps : ProfileStore → ProfileStore → Prop :=
  Relation.ReflTransGen (Step derive)

/-- The states of every run from a store whose journal is empty. -/
def Reachable : Prop :=
  ∃ initial : ProfileStore, initial.directed_request_handling = .empty
    ∧ Steps derive initial store

end ProfileStore

end Konclave.Daemon
