/-
A claimed batch on its way to a client.

The journal's events leave the daemon by two ways. A legacy adapter is sent the bytes of a
batch in one authenticated frame, a client of the local service a document in one response.
Each way has bounds of its own: a text in an adapter's event, the frame, the payload of a
response once its strings are escaped. None of them is the bound of a message, so a batch
that was claimed may be impossible to send. Which batches are is said here by the sizes of
their texts; the bytes that a claim puts into a batch are those of the sealed records.
-/
import Konclave.Daemon.MessagePages
import Konclave.Daemon.ReplayIdempotence
import Mathlib.Data.List.Permutation

set_option autoImplicit false

namespace Konclave.Daemon.Replay

open Protobuf Domain RemoteEvents Messages Framing LateAdmission Json List

/-! ## Adapters

The frame a legacy adapter is sent, and the bounds of its codec. -/

def MAX_CLAIM_BATCH : ℕ := 50
def MAX_EVENT_TEXT_BYTES : ℕ := 64 * 1024
def MAX_AUTHENTICATED_FRAME_BYTES : ℕ := 1048576

inductive DeliveredPayload
  | ApplicationText (text : String)
  | MemberAdded (device : DeviceId) (role : ConversationRole)
  | MemberRemoved (device : DeviceId)
  | MemberRoleChanged (device : DeviceId) (role : ConversationRole)
  | LocalAccessRemoved (device : DeviceId)

structure DeliveredEvent where
  notification_id : NotificationId
  lease_generation : ℕ
  sequence : ℕ
  conversation : ConversationId
  sender : DeviceId
  relay_cursor : ℕ
  payload : DeliveredPayload

open DeliveredEvent

inductive AdapterTransportError
  | RequestOutOfBounds

def encode_role : ConversationRole → UInt8
  | .Administrator => 1
  | .Member => 2

def event_text_fits (text : String) : Bool :=
  0 < text.utf8ByteSize ∧ text.utf8ByteSize ≤ MAX_EVENT_TEXT_BYTES

/-- The bytes of a payload, after that of its kind. -/
def DeliveredPayload.bytes : DeliveredPayload → Bytes
  | .ApplicationText text => 1 :: length_prefixed 4 text.toUTF8.data.toList
  | .MemberAdded device role => 2 :: (device.bytes ++ [encode_role role])
  | .MemberRemoved device => 3 :: device.bytes
  | .MemberRoleChanged device role => 4 :: (device.bytes ++ [encode_role role])
  | .LocalAccessRemoved device => 5 :: device.bytes

/-- Only the bounds of a text are checked. -/
def DeliveredPayload.fits : DeliveredPayload → Bool
  | .ApplicationText text => event_text_fits text
  | _ => true

def DeliveredEvent.bytes (event : DeliveredEvent) : Bytes :=
  event.notification_id.bytes ++ be_bytes 8 event.lease_generation ++ be_bytes 8 event.sequence
    ++ event.conversation.bytes ++ event.sender.bytes ++ be_bytes 8 event.relay_cursor
    ++ event.payload.bytes

def DeliveredEvent.encode_into (event : DeliveredEvent) : Except AdapterTransportError Bytes := do
  require (event.payload.fits = true) .RequestOutOfBounds
  pure event.bytes

/-- `AdapterResponse::encode` of a batch. -/
def encode_batch (events : List DeliveredEvent) : Except AdapterTransportError Bytes := do
  require (events.length ≤ MAX_CLAIM_BATCH) .RequestOutOfBounds
  let encoded ← events.mapM encode_into
  let payload := 32 :: be_bytes 2 events.length ++ encoded.flatten
  require (payload.length ≤ MAX_AUTHENTICATED_FRAME_BYTES) .RequestOutOfBounds
  pure payload

theorem mapM_encode_into {events : List DeliveredEvent}
    (hfits : ∀ event ∈ events, event.payload.fits = true) :
    events.mapM encode_into = .ok (events.map bytes) :=
  mapM_ok fun event hev => require_bind (hfits event hev)

/-- A batch has a frame exactly when its texts keep their bounds and it fits. -/
theorem encode_batch_eq_ok_iff {events : List DeliveredEvent} :
    (∃ payload, encode_batch events = .ok payload) ↔ events.length ≤ MAX_CLAIM_BATCH
    ∧ (∀ event ∈ events, event.payload.fits = true)
    ∧ 3 + (events.map (·.bytes.length)).sum ≤ MAX_AUTHENTICATED_FRAME_BYTES := by
  have hbytes : 3 + (events.map (·.bytes.length)).sum
      = (32 :: be_bytes 2 events.length ++ (events.map bytes).flatten).length := by
    simp [length_flatten, Function.comp_def]
    omega
  rw [hbytes]
  constructor
  · rintro ⟨payload, h⟩
    obtain ⟨hlen, h⟩ := require_ok.1 h
    obtain ⟨encoded, henc, h⟩ := bind_ok.1 h
    obtain ⟨hframe, -⟩ := require_ok.1 h
    have hfits : ∀ event ∈ events, event.payload.fits = true := by
      intro event hev
      obtain ⟨_, -, hencode⟩ := exists_right_of_forall₂ (mapM_eq_ok.1 henc) hev
      exact (require_ok.1 hencode).1
    cases henc.symm.trans (mapM_encode_into hfits)
    exact ⟨hlen, hfits, hframe⟩
  · rintro ⟨hlen, hfits, hframe⟩
    rw [encode_batch, require_bind hlen, mapM_encode_into hfits, ok_bind]
    exact ⟨_, require_bind hframe⟩

/-- What a conversion does with content that is `unreachable!`. -/
inductive Unreachable
  | internal_application_content

def deliver_content : ApplicationContent → Except Unreachable DeliveredPayload
  | .Text text => .ok (.ApplicationText text)
  | .DirectedRequest request => .ok (.ApplicationText
      ("Konclave received a directed request for device "
        ++ encode_hex request.target_device_id.bytes ++ " through a legacy adapter that cannot "
        ++ "process this content kind; inspect message history with a supported client."))
  | .CollaborationPolicyProposal _ => .ok (.ApplicationText ("Konclave received a collaboration-"
      ++ "policy proposal through a legacy adapter; no local authority was activated."))
  | .CollaborationPolicyResponse _ => .ok (.ApplicationText ("Konclave received a collaboration-"
      ++ "policy response through a legacy adapter; no local authority changed."))
  | .CollaborationPolicyRevocation _ => .ok (.ApplicationText ("Konclave received a "
      ++ "collaboration-policy revocation through a legacy adapter; no local authority changed."))
  | .RequestDeliveryOutcome _ | .RepeatPairingRequest _ | .RepeatPairingResponse _ =>
    .error .internal_application_content

def deliver_payload : RemoteEventPayload → Except Unreachable DeliveredPayload
  | .ApplicationMessage message => deliver_content message.content
  | .MemberAdded device role => .ok (.MemberAdded device role)
  | .MemberRemoved device => .ok (.MemberRemoved device)
  | .MemberRoleChanged device role => .ok (.MemberRoleChanged device role)
  | .LocalAccessRemoved device => .ok (.LocalAccessRemoved device)

def deliver (claimed : ClaimedRemoteEvent RemoteEventPayload) :
    Except Unreachable DeliveredEvent := do
  let payload ← deliver_payload claimed.payload
  pure ⟨claimed.event.notification_id, claimed.lease_generation, claimed.event.sequence,
    claimed.event.conversation_id, claimed.event.sender, claimed.event.relay_cursor, payload⟩

/-! ## Clients of the local service

The document of a batch, whose strings are escaped. -/

def delivery_role : ConversationRole → String
  | .Administrator => "administrator"
  | .Member => "member"

/-- `DeliveryPayloadResult` of a message. -/
def delivery_content_result (message : ApplicationMessage) :
    Except Unreachable (List (String × Json)) :=
  match message.content with
  | .Text text => .ok [("kind", .string "application_text"),
      ("messageId", hex_json message.message_id),
      ("replyToMessageId", message.reply_to.elim .null hex_json), ("text", .string text)]
  | .DirectedRequest request => .ok [("kind", .string "directed_request"),
      ("messageId", hex_json message.message_id),
      ("targetDeviceId", hex_json request.target_device_id), ("text", .string request.body)]
  | .CollaborationPolicyProposal proposal => .ok [("kind", .string "collaboration_policy_proposal"),
      ("proposalId", hex_json proposal.proposal_id),
      ("policyDigest", hex_json proposal.policy_digest),
      ("replacesPolicyDigest", proposal.replaces_policy_digest.elim .null hex_json)]
  | .CollaborationPolicyResponse response => .ok [("kind", .string "collaboration_policy_response"),
      ("proposalId", hex_json response.proposal_id),
      ("policyDigest", hex_json response.policy_digest),
      ("outcome", .string (CollaborationPolicyResponseOutcome.name response.outcome))]
  | .CollaborationPolicyRevocation policy_digest => .ok
      [("kind", .string "collaboration_policy_revocation"),
        ("policyDigest", hex_json policy_digest)]
  | .RequestDeliveryOutcome _ | .RepeatPairingRequest _ | .RepeatPairingResponse _ =>
    .error .internal_application_content

def delivery_payload_result : RemoteEventPayload → Except Unreachable (List (String × Json))
  | .ApplicationMessage message => delivery_content_result message
  | .MemberAdded device role => .ok [("kind", .string "member_added"), ("device", hex_json device),
      ("role", .string (delivery_role role))]
  | .MemberRemoved device => .ok [("kind", .string "member_removed"), ("device", hex_json device)]
  | .MemberRoleChanged device role => .ok [("kind", .string "member_role_changed"),
      ("device", hex_json device), ("role", .string (delivery_role role))]
  | .LocalAccessRemoved device => .ok [("kind", .string "local_access_removed"),
      ("device", hex_json device)]

def delivery_event_result (claimed : ClaimedRemoteEvent RemoteEventPayload) :
    Except Unreachable Json := do
  let payload ← delivery_payload_result claimed.payload
  pure (.object [("notificationId", hex_json claimed.event.notification_id),
    ("leaseGeneration", .number claimed.lease_generation),
    ("sequence", .number claimed.event.sequence),
    ("conversation", hex_json claimed.event.conversation_id),
    ("sender", hex_json claimed.event.sender),
    ("relayCursor", .number claimed.event.relay_cursor), ("payload", .object payload)])

/-- `DeliveryBatchResult`. -/
def delivery_batch_result (events : List Json) : Json := .object [("events", .array events)]

/-! ## What a batch can hold

Which conversions fail, and how many bytes each event takes, in a frame and in a document. -/

/-- Neither conversion meets content that is for the daemon. -/
theorem converts_of_shown {payload : RemoteEventPayload} (h : payload.Shown) :
    (∃ delivered, deliver_payload payload = .ok delivered)
    ∧ ∃ result, delivery_payload_result payload = .ok result := by
  cases payload with
  | ApplicationMessage message =>
    rw [RemoteEventPayload.Shown] at h
    rw [deliver_payload, delivery_payload_result, delivery_content_result]
    cases hbody : message.content with
    | RequestDeliveryOutcome | RepeatPairingRequest | RepeatPairingResponse =>
      rw [hbody] at h
      cases h
    | _ => exact ⟨⟨_, rfl⟩, _, rfl⟩
  | _ => exact ⟨⟨_, rfl⟩, _, rfl⟩

/-- A text a member wrote keeps the bounds of an adapter's event. -/
def content_text_fits : ApplicationContent → Bool
  | .Text text => event_text_fits text
  | _ => true

def RemoteEventPayload.text_fits : RemoteEventPayload → Bool
  | .ApplicationMessage message => content_text_fits message.content
  | _ => true

theorem utf8ByteSize_ofList (characters : List Char) :
    (String.ofList characters).utf8ByteSize = (characters.map Char.utf8Size).sum := by
  induction characters with
  | nil => rfl
  | cons c characters ih =>
    rw [String.ofList_cons, String.utf8ByteSize_append, String.utf8ByteSize_singleton, ih,
      map_cons, sum_cons]

theorem utf8ByteSize_encode_hex {n : ℕ} (id : FixedBytes n) :
    (encode_hex id.bytes).utf8ByteSize = 2 * n := by
  rw [← String.ofList_toList (s := encode_hex id.bytes), utf8ByteSize_ofList,
    sum_hex_digits _ (by decide), id.length_eq]

/-- The bytes of a content's text in a frame; only a `Text` is not of a fixed size. -/
def content_frame_size : ApplicationContent → ℕ
  | .Text text => text.utf8ByteSize
  | .DirectedRequest _ => 225
  | .CollaborationPolicyProposal _ => 109
  | .CollaborationPolicyResponse _ => 103
  | .CollaborationPolicyRevocation _ => 105
  | .RequestDeliveryOutcome _ | .RepeatPairingRequest _ | .RepeatPairingResponse _ => 0

/-- The bytes of an event in a frame. -/
def RemoteEventPayload.frame_size : RemoteEventPayload → ℕ
  | .ApplicationMessage message => 109 + content_frame_size message.content
  | .MemberAdded _ _ | .MemberRoleChanged _ _ => 138
  | .MemberRemoved _ | .LocalAccessRemoved _ => 137

theorem deliver_content_size {content : ApplicationContent} {delivered : DeliveredPayload}
    (h : deliver_content content = .ok delivered) :
    ∃ text, delivered = .ApplicationText text
    ∧ text.utf8ByteSize = content_frame_size content := by
  cases content with
  | Text text =>
    cases h
    exact ⟨text, rfl, rfl⟩
  | DirectedRequest request =>
    cases h
    refine ⟨_, rfl, ?_⟩
    simp only [String.utf8ByteSize_append, utf8ByteSize_encode_hex, content_frame_size]
    decide +kernel
  | CollaborationPolicyProposal | CollaborationPolicyResponse | CollaborationPolicyRevocation =>
    cases h
    refine ⟨_, rfl, ?_⟩
    rw [content_frame_size]
    decide +kernel
  | RequestDeliveryOutcome | RepeatPairingRequest | RepeatPairingResponse => cases h

/-- The daemon's own texts are short. -/
theorem deliver_content_fits {content : ApplicationContent} {delivered : DeliveredPayload}
    (h : deliver_content content = .ok delivered) : delivered.fits = content_text_fits content := by
  obtain ⟨text, rfl, hsize⟩ := deliver_content_size h
  rw [DeliveredPayload.fits, event_text_fits, hsize]
  cases content with
  | Text | DirectedRequest | CollaborationPolicyProposal | CollaborationPolicyResponse
  | CollaborationPolicyRevocation => rfl
  | RequestDeliveryOutcome | RepeatPairingRequest | RepeatPairingResponse => cases h

/-- What an event becomes in a frame. -/
theorem deliver_eq_ok {claimed : ClaimedRemoteEvent RemoteEventPayload} {event : DeliveredEvent}
    (h : deliver claimed = .ok event) : event.payload.fits = claimed.payload.text_fits
    ∧ event.bytes.length = claimed.payload.frame_size := by
  obtain ⟨payload, hpay, h⟩ := bind_ok.1 h
  cases h
  have hlength : ∀ {n : ℕ} (id : FixedBytes n), id.bytes.length = n := fun id => id.length_eq
  cases hclaimed : claimed.payload with
  | ApplicationMessage message =>
    rw [hclaimed] at hpay
    refine ⟨deliver_content_fits hpay, ?_⟩
    obtain ⟨text, rfl, hsize⟩ := deliver_content_size hpay
    simp only [DeliveredEvent.bytes, DeliveredPayload.bytes, length_append, length_cons, hlength,
      length_be_bytes, length_prefixed, RemoteEventPayload.frame_size, ← hsize]
    have hbytes : text.toUTF8.data.toList.length = text.utf8ByteSize := rfl
    omega
  | MemberAdded | MemberRemoved | MemberRoleChanged | LocalAccessRemoved =>
    rw [hclaimed] at hpay
    cases hpay
    refine ⟨rfl, ?_⟩
    simp only [DeliveredEvent.bytes, DeliveredPayload.bytes, length_append, length_cons, hlength,
      length_be_bytes, RemoteEventPayload.frame_size, length_nil]

/-- The bytes of an event's payload in a document. -/
def RemoteEventPayload.document_size : RemoteEventPayload → ℕ
  | .ApplicationMessage message => match message.content with
    | .Text text => 102 + optional_size message.reply_to + string_size text
    | .DirectedRequest request => 166 + string_size request.body
    | .CollaborationPolicyProposal proposal => 194 + optional_size proposal.replaces_policy_digest
    | .CollaborationPolicyResponse response =>
      181 + string_size (CollaborationPolicyResponseOutcome.name response.outcome)
    | .CollaborationPolicyRevocation _ => 124
    | .RequestDeliveryOutcome _ | .RepeatPairingRequest _ | .RepeatPairingResponse _ => 0
  | .MemberAdded _ role => 107 + string_size (delivery_role role)
  | .MemberRemoved _ => 101
  | .MemberRoleChanged _ role => 114 + string_size (delivery_role role)
  | .LocalAccessRemoved _ => 107

/-- The bytes of an event's document: 268 and those of its payload and its numbers. -/
def document_size (claimed : ClaimedRemoteEvent RemoteEventPayload) : ℕ :=
  268 + claimed.payload.document_size + (number claimed.lease_generation).size
    + (number claimed.event.sequence).size + (number claimed.event.relay_cursor).size

theorem payload_key_sizes : string_size "kind" = 6 ∧ string_size "application_text" = 18
    ∧ string_size "messageId" = 11 ∧ string_size "replyToMessageId" = 18
    ∧ string_size "targetDeviceId" = 16 ∧ string_size "proposalId" = 12
    ∧ string_size "policyDigest" = 14 ∧ string_size "replacesPolicyDigest" = 22
    ∧ string_size "member_added" = 14 ∧ string_size "device" = 8 ∧ string_size "role" = 6
    ∧ string_size "member_removed" = 16 ∧ string_size "member_role_changed" = 21
    ∧ string_size "local_access_removed" = 22 := by
  decide +kernel

theorem event_key_sizes : string_size "notificationId" = 16 ∧ string_size "leaseGeneration" = 17
    ∧ string_size "sequence" = 10 ∧ string_size "conversation" = 14 ∧ string_size "sender" = 8
    ∧ string_size "relayCursor" = 13 ∧ string_size "payload" = 9 ∧ string_size "events" = 8 := by
  decide +kernel

theorem delivery_payload_size {payload : RemoteEventPayload} {fields : List (String × Json)}
    (h : delivery_payload_result payload = .ok fields) :
    (object fields).size = payload.document_size := by
  cases payload with
  | ApplicationMessage message =>
    rw [delivery_payload_result, delivery_content_result] at h
    rw [RemoteEventPayload.document_size]
    cases hbody : message.content <;> rw [hbody] at h <;> cases h <;> simp only [size, fields_size,
      isEmpty_cons, Bool.false_eq_true, if_false, size_hex_json, size_optional_hex,
      content_key_sizes, payload_key_sizes] <;> omega
  | MemberRemoved | LocalAccessRemoved =>
    cases h
    simp only [size, fields_size, isEmpty_cons, Bool.false_eq_true, if_false, size_hex_json,
      payload_key_sizes, RemoteEventPayload.document_size]
  | MemberAdded | MemberRoleChanged =>
    cases h
    simp only [size, fields_size, isEmpty_cons, Bool.false_eq_true, if_false, size_hex_json,
      payload_key_sizes, RemoteEventPayload.document_size]
    omega

theorem delivery_event_size {claimed : ClaimedRemoteEvent RemoteEventPayload} {result : Json}
    (h : delivery_event_result claimed = .ok result) : result.size = document_size claimed := by
  obtain ⟨fields, hfields, h⟩ := bind_ok.1 h
  cases h
  simp only [size, fields_size, isEmpty_cons, Bool.false_eq_true, if_false, size_hex_json,
    event_key_sizes, document_size, ← delivery_payload_size hfields]
  omega

theorem respond_batch_iff {events : List (ClaimedRemoteEvent RemoteEventPayload)}
    {results : List Json} (h : events.mapM delivery_event_result = .ok results) :
    (respond (.ok (delivery_batch_result results))).isSome = true
    ↔ 12 + (events.map (document_size · + 1)).sum ≤ MAX_RPC_PAYLOAD_BYTES := by
  have hsizes : events.map (document_size · + 1) = results.map (·.size + 1) :=
    forall₂_eq_eq_eq ▸ forall₂_map_left_iff.2 (forall₂_map_right_iff.2
      ((mapM_eq_ok.1 h).imp fun _ _ hresult => by rw [delivery_event_size hresult]))
  rw [Option.isSome_iff_exists, hsizes]
  simp only [respond_eq_some, Except.ok.injEq, exists_eq_left', delivery_batch_result, size,
    fields_size, event_key_sizes, items_size_eq, isEmpty_cons, Bool.false_eq_true, if_false]
  cases results with
  | nil => decide
  | cons result results =>
    rw [isEmpty_cons, if_neg Bool.false_ne_true]
    omega

/-! ## The bytes of a batch

A claim bounds the sealed records of its events. The seal of a text adds a header, a tag and the
other fields of the message to it, more than an adapter's event does. -/

/-- Sealing a message adds this much to its text. -/
def SealsTexts {σ : Type} (host : Host σ) : Prop :=
  ∀ stored text, stored.message.content = .Text text →
    text.utf8ByteSize + 112 ≤ host.message_length stored

/-- The event is of a text. -/
def RemoteEventPayload.IsText (payload : RemoteEventPayload) : Prop :=
  ∃ message text, payload = .ApplicationMessage message ∧ message.content = .Text text

theorem frame_size_lt_event_length {σ : Type} {host : Host σ} {store : ReplayStore σ}
    (hseals : SealsTexts host) {event : RemoteEvents.RemoteEventRecord}
    {payload : RemoteEventPayload}
    (hpayload : load_remote_event_payload host store event = .ok payload) (htext : payload.IsText) :
    payload.frame_size + 3 ≤ (store.around host).event_length event := by
  obtain ⟨message, text, rfl, hbody⟩ := htext
  rw [load_remote_event_payload] at hpayload
  split at hpayload
  · rename_i hkind
    obtain ⟨stored, hstored, hpayload⟩ := bind_ok.1 hpayload
    obtain ⟨-, hpayload⟩ := require_ok.1 hpayload
    cases hpayload
    obtain ⟨row, -, saved, hrow, -, hsaved, rfl, -⟩ := load_message_at_eq_ok.1 hstored
    have hlength : (store.around host).event_length event = host.message_length
        ⟨event.relay_cursor, row.stored.envelope.envelope_id, saved.sender, saved.epoch,
          saved.message⟩ := by
      simp [Surroundings.event_length, ReplayStore.around, remote_event_delivery_length, hkind,
        hrow, hsaved]
    have := hseals _ _ hbody
    rw [hlength, RemoteEventPayload.frame_size, hbody, content_frame_size]
    omega
  · obtain ⟨operation, -, hpayload⟩ := bind_ok.1 hpayload
    split at hpayload
    · obtain ⟨-, hpayload⟩ := require_ok.1 hpayload
      unfold membership_payload at hpayload
      split at hpayload <;> cases hpayload
    · cases hpayload

/-- The frame of a batch of texts is no longer than their sealed records. -/
theorem text_batch_fits {σ : Type} {host : Host σ} {store : ReplayStore σ}
    (hseals : SealsTexts host) {events : List (ClaimedRemoteEvent RemoteEventPayload)}
    (hpayload : ∀ event ∈ events,
      load_remote_event_payload host store event.event = .ok event.payload)
    (htexts : ∀ event ∈ events, event.payload.IsText)
    (hbytes : (events.map fun event => (store.around host).event_length event.event).sum
      ≤ MAX_REMOTE_EVENT_BATCH_BYTES) :
    3 + (events.map (·.payload.frame_size)).sum ≤ MAX_AUTHENTICATED_FRAME_BYTES := by
  have hle : (events.map (·.payload.frame_size + 3)).sum
      ≤ (events.map fun event => (store.around host).event_length event.event).sum :=
    sum_le_sum fun event hevent =>
      frame_size_lt_event_length hseals (hpayload event hevent) (htexts event hevent)
  cases events with
  | nil => decide
  | cons event events =>
    have hlimits : MAX_REMOTE_EVENT_BATCH_BYTES = MAX_AUTHENTICATED_FRAME_BYTES := by decide
    simp only [sum_map_add, map_cons, sum_cons] at hle hbytes ⊢
    omega

/-- Whatever a profile claims is converted both ways. A frame then carries it exactly when the
texts of its members keep the bounds of an adapter's event and their bytes fit, and a response
exactly when they fit once they are escaped. For a batch of texts the bound on each of them is
enough for a frame, since the sealed records of a batch are bounded. -/
theorem claimed_batch_delivered {σ : Type} (host : Host σ) (others : σ) (calls : List StoreCall)
    (consumer_id : AdapterConsumerId) (lease_id : AdapterLeaseId) (now expires_at limit : ℕ)
    {events : List (ClaimedRemoteEvent RemoteEventPayload)}
    (h : (claim_remote_events ((ReplayStore.after host others calls).around host)
      (ReplayStore.after host others calls).journal consumer_id lease_id now expires_at limit).1
      = .ok events) : ∃ delivered results, events.mapM deliver = .ok delivered
    ∧ events.mapM delivery_event_result = .ok results
    ∧ ((∃ payload, encode_batch delivered = .ok payload)
      ↔ (∀ event ∈ events, event.payload.text_fits = true)
        ∧ 3 + (events.map (·.payload.frame_size)).sum ≤ MAX_AUTHENTICATED_FRAME_BYTES)
    ∧ ((respond (.ok (delivery_batch_result results))).isSome = true
      ↔ 12 + (events.map (document_size · + 1)).sum ≤ MAX_RPC_PAYLOAD_BYTES)
    ∧ (SealsTexts host → (∀ event ∈ events, event.payload.IsText) →
      ((∃ payload, encode_batch delivered = .ok payload)
        ↔ ∀ event ∈ events, event.payload.text_fits = true)) := by
  obtain ⟨⟨hlength, hbytes⟩, hclaimed⟩ := claim_remote_events_eq_ok (Prod.ext h rfl)
  have hshown : ∀ event ∈ events, event.payload.Shown := by
    intro event hevent
    obtain ⟨hpayload, row, hrow, -, -, hrecord, -⟩ := hclaimed event hevent
    obtain ⟨payload, hload, hshown⟩ :=
      ((ReplayStore.JournalSound.after host others calls).backed row hrow).payload
    rw [hrecord] at hload
    cases hpayload.symm.trans hload
    exact hshown
  obtain ⟨delivered, hdelivered⟩ : ∃ delivered, events.mapM deliver = .ok delivered :=
    exists_mapM_ok fun event hevent => by
      obtain ⟨⟨_, hpayload⟩, -⟩ := converts_of_shown (hshown event hevent)
      exact ⟨_, bind_ok.2 ⟨_, hpayload, rfl⟩⟩
  obtain ⟨results, hresults⟩ : ∃ results, events.mapM delivery_event_result = .ok results :=
    exists_mapM_ok fun event hevent => by
      obtain ⟨-, _, hpayload⟩ := converts_of_shown (hshown event hevent)
      exact ⟨_, bind_ok.2 ⟨_, hpayload, rfl⟩⟩
  have hpairs := mapM_eq_ok.1 hdelivered
  have hfits : (∀ event ∈ delivered, event.payload.fits = true)
      ↔ ∀ event ∈ events, event.payload.text_fits = true := by
    constructor
    · intro hall event hevent
      obtain ⟨_, hmem, hdeliver⟩ := exists_right_of_forall₂ hpairs hevent
      exact (deliver_eq_ok hdeliver).1.symm.trans (hall _ hmem)
    · intro hall event hevent
      obtain ⟨_, hmem, hdeliver⟩ := exists_left_of_forall₂ hpairs hevent
      exact (deliver_eq_ok hdeliver).1.trans (hall _ hmem)
  have hframes : events.map (·.payload.frame_size) = delivered.map (·.bytes.length) :=
    forall₂_eq_eq_eq ▸ forall₂_map_left_iff.2 (forall₂_map_right_iff.2
      (hpairs.imp fun _ _ hdeliver => (deliver_eq_ok hdeliver).2.symm))
  have hframe : (∃ payload, encode_batch delivered = .ok payload)
      ↔ (∀ event ∈ events, event.payload.text_fits = true)
        ∧ 3 + (events.map (·.payload.frame_size)).sum ≤ MAX_AUTHENTICATED_FRAME_BYTES := by
    rw [encode_batch_eq_ok_iff, hfits, hframes, ← hpairs.length_eq]
    exact and_iff_right hlength
  refine ⟨delivered, results, hdelivered, hresults, hframe, respond_batch_iff hresults, ?_⟩
  intro hseals htexts
  rw [hframe]
  exact and_iff_left (text_batch_fits hseals (fun event hevent => (hclaimed event hevent).1) htexts
    hbytes)

/-! ## Texts that cannot be delivered

Two texts within the bound of a message that no batch can carry. -/

namespace Undeliverable

def consumer : AdapterConsumerId := FixedBytes.repeated 16 1
def lease : AdapterLeaseId := FixedBytes.repeated 16 2
def notification : NotificationId := FixedBytes.repeated 16 3

/-- Every sealed message takes a quarter of the bytes of a batch. -/
def host : Host Unit := { profile_host with message_length := fun _ => 262144 }

def said (text : String) : ApplicationMessage :=
  ⟨.application_v1, request_id, 1, 0, none, .Text text, Nat.one_pos⟩

/-- A member's text is replayed, and an adapter attaches. -/
def calls (text : String) : List StoreCall :=
  [.insert_conversation routing_id binding state
      [binding] none (some true),
    .record_inbox_envelope ⟨envelope 1, 1, Nat.one_pos⟩,
    .save_inbox_message conversation_id 1 target 0 (said text),
    .complete_inbox conversation_id 1 notification 0,
    .delivery (.acquire consumer lease 0 10000) (by nofun)]

/-- It claims the event and gives it back. -/
def gives_back : List StoreCall :=
  [.delivery (.claim consumer lease 1 10000 16) (by nofun),
    .delivery (.release_event notification consumer lease 1 2) (by nofun)]

def claimed (host : Host Unit) (later : List StoreCall) (text : String) :
    Except ProfileStoreError (List (ClaimedRemoteEvent RemoteEventPayload)) :=
  let store := ReplayStore.after host () (calls text ++ later)
  (claim_remote_events (store.around host) store.journal consumer lease 3 10000 16).1

def event (text : String) (lease_generation : ℕ) : ClaimedRemoteEvent RemoteEventPayload :=
  ⟨⟨1, notification, conversation_id, routing_id, 1,
    .ApplicationMessage, target, request_id, none⟩,
    .ApplicationMessage (said text), lease_generation⟩

theorem claimed_eq (text : String) : claimed host [] text = .ok [event text 1]
    ∧ claimed host gives_back text = .ok [event text 2] := by
  constructor
  · cbv
  · cbv

def repeated (count : ℕ) (c : Char) : String := String.ofList (replicate count c)

theorem utf8ByteSize_repeated (count : ℕ) (c : Char) :
    (repeated count c).utf8ByteSize = count * c.utf8Size := by
  simp [repeated, utf8ByteSize_ofList]

theorem string_size_repeated (count : ℕ) (c : Char) :
    Json.string_size (repeated count c) = 2 + count * Json.escaped_size c := by
  simp [Json.string_size, repeated]

/-- Nothing but its length is checked of a text. -/
theorem validate_repeated {count : ℕ} {c : Char} (hcount : 0 < count)
    (hbound : count * c.utf8Size ≤ MAX_TEXT_BODY_BYTES) :
    validate_application_text (repeated count c) = true := by
  have hsize := utf8ByteSize_repeated count c
  refine decide_eq_true ⟨fun hempty => ?_, hsize ▸ hbound⟩
  rw [hempty, String.utf8ByteSize_empty] at hsize
  have := Nat.mul_pos hcount c.utf8Size_pos
  omega

/-- No frame is made of an event with a long text. -/
theorem encode_batch_long {text : String} (htext : MAX_EVENT_TEXT_BYTES < text.utf8ByteSize)
    (lease_generation : ℕ) : ∃ delivered, [event text lease_generation].mapM deliver = .ok delivered
    ∧ encode_batch delivered = .error .RequestOutOfBounds := by
  refine ⟨_, rfl, ?_⟩
  cases henc : encode_batch _ with
  | error e =>
    cases e
    rfl
  | ok payload =>
    have hfits := (encode_batch_eq_ok_iff.1 ⟨_, henc⟩).2.1 _ mem_cons_self
    exact absurd (of_decide_eq_true hfits).2 (Nat.not_le_of_lt htext)

/-- No response is made of one whose text is long once it is escaped. -/
theorem respond_long {text : String} (htext : MAX_RPC_PAYLOAD_BYTES < Json.string_size text)
    (lease_generation : ℕ) :
    ∃ results, [event text lease_generation].mapM delivery_event_result = .ok results
    ∧ respond (.ok (delivery_batch_result results)) = none := by
  refine ⟨_, rfl, ?_⟩
  cases hrespond : respond _ with
  | none => rfl
  | some value =>
    obtain ⟨hvalue, hsize⟩ := respond_eq_some.1 hrespond
    cases hvalue
    simp only [delivery_batch_result, Json.size, Json.items_size, Json.fields_size, isEmpty,
      reverse_singleton, Bool.false_eq_true, if_false] at hsize
    omega

/-- An ordinary text. -/
def long_text : String := repeated 65537 'a'

/-- A text of control characters, of which every one is escaped. -/
def control_text : String := repeated 174763 (Char.ofNat 1)

end Undeliverable

namespace Undeliverable

/-- A sealed message is longer than its text. -/
def sealing_host : Host Unit :=
  { profile_host with
    message_length := fun stored => 512 + match stored.message.content with
      | .Text text => text.utf8ByteSize
      | _ => 0 }

theorem sealing_host_seals : SealsTexts sealing_host := by
  intro stored text hbody
  simp only [sealing_host, hbody]
  omega

end Undeliverable

open Undeliverable

theorem claimed_batch_delivered_text : claimed sealing_host [] "hello" = .ok [event "hello" 1]
    ∧ ∃ delivered results, [event "hello" 1].mapM deliver = .ok delivered
    ∧ [event "hello" 1].mapM delivery_event_result = .ok results
    ∧ (∃ payload, encode_batch delivered = .ok payload)
    ∧ (respond (.ok (delivery_batch_result results))).isSome = true := by
  have hclaimed : claimed sealing_host [] "hello" = .ok [event "hello" 1] := rfl
  refine ⟨hclaimed, ?_⟩
  obtain ⟨delivered, results, hdelivered, hresults, -, hresponse, htexts⟩ :=
    claimed_batch_delivered sealing_host () (calls "hello" ++ []) consumer lease 3 10000 16 hclaimed
  cases hdelivered
  cases hresults
  refine ⟨_, _, rfl, rfl, (htexts sealing_host_seals ?_).2 (by decide +kernel),
    hresponse.2 (by decide +kernel)⟩
  exact forall_mem_singleton.2 ⟨_, _, rfl, rfl⟩

/-- Two texts a member may send: one is refused by the adapter's codec, the other by the local
service, when they are first claimed and again once they were given back. -/
theorem claimed_text_undeliverable :
    validate_application_text long_text = true ∧ validate_application_text control_text = true
    ∧ ∀ later ∈ [[], gives_back], (∃ events delivered, claimed host later long_text = .ok events
        ∧ events.mapM deliver = .ok delivered
        ∧ encode_batch delivered = .error .RequestOutOfBounds)
      ∧ ∃ events results, claimed host later control_text = .ok events
        ∧ events.mapM delivery_event_result = .ok results
        ∧ respond (.ok (delivery_batch_result results)) = none := by
  refine ⟨validate_repeated (by decide) (by decide), validate_repeated (by decide) (by decide), ?_⟩
  intro later hlater
  obtain ⟨generation, hclaimed⟩ : ∃ generation, ∀ text,
      claimed host later text = .ok [event text generation] := by
    simp only [mem_cons, not_mem_nil, or_false] at hlater
    rcases hlater with rfl | rfl
    · exact ⟨1, fun text => (claimed_eq text).1⟩
    · exact ⟨2, fun text => (claimed_eq text).2⟩
  have hlong : MAX_EVENT_TEXT_BYTES < long_text.utf8ByteSize := by
    rw [long_text, utf8ByteSize_repeated]
    decide
  have hcontrol : MAX_RPC_PAYLOAD_BYTES < Json.string_size control_text := by
    rw [control_text, string_size_repeated]
    decide
  obtain ⟨delivered, hdelivered, hencode⟩ := encode_batch_long hlong generation
  obtain ⟨results, hresults, hrespond⟩ := respond_long hcontrol generation
  exact ⟨⟨_, delivered, hclaimed _, hdelivered, hencode⟩, _, results, hclaimed _, hresults,
    hrespond⟩

end Konclave.Daemon.Replay
