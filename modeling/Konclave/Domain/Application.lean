/-
`Konclave.DomainCore`: application messages, directed requests and their delivery.

A collaboration policy's proposal keeps its identifiers and leaves out the bundle, which no
modelled function reads.
-/
import Konclave.Domain.Basic

set_option autoImplicit false

namespace Konclave.Domain

/-! ## Contents -/

/-- `RequestDeliveryError`, the variants of receipts. -/
inductive RequestDeliveryError
  | InvalidReceipt
  | InvalidExpiry
  | ConflictingOutcome
  deriving DecidableEq, Repr

def MAX_REQUEST_ADMISSION_UNIX_MILLISECONDS : ℕ := 9007199254740991

/-- `RequestAdmissionExpiry`: a nonzero, exactly representable cutoff. -/
structure RequestAdmissionExpiry where
  unix_milliseconds : ℕ
  pos : 0 < unix_milliseconds
  le_max : unix_milliseconds ≤ MAX_REQUEST_ADMISSION_UNIX_MILLISECONDS
  deriving Repr

instance : DecidableEq RequestAdmissionExpiry :=
  decEq_on (·.unix_milliseconds) (by rintro ⟨⟩ ⟨⟩ ⟨⟩; rfl)

/-- Equality is already expired. -/
def RequestAdmissionExpiry.is_expired (expiry : RequestAdmissionExpiry) (now : ℕ) : Bool :=
  expiry.unix_milliseconds ≤ now

inductive RequestDeliveryOutcome
  | Admitted
  | Responded
  | ExpiredBeforeAdmission
  | EndedWithoutResponse
  deriving DecidableEq, Repr

structure RequestDeliveryOptions where
  expiry : Option RequestAdmissionExpiry
  deriving DecidableEq, Repr

structure DirectedRequest where
  target_device_id : DeviceId
  body : String
  delivery : Option RequestDeliveryOptions
  deriving DecidableEq, Repr

/-- Asks one member for a fresh capability; the deadline is positive. -/
structure RepeatPairingRequest where
  operation_id : RepeatPairingOperationId
  target_device_id : DeviceId
  new_conversation_id : ConversationId
  expires_at_unix_seconds : ℕ
  expires_pos : 0 < expires_at_unix_seconds
  deriving Repr

instance : DecidableEq RepeatPairingRequest :=
  decEq_on (fun ⟨a, b, c, d, _⟩ => (a, b, c, d)) (by rintro ⟨⟩ ⟨⟩ ⟨⟩; rfl)

def MAX_REPEAT_PAIRING_CAPABILITY_BYTES : ℕ := 16 * 1024

/-- A capability's text that is neither empty nor too long. -/
def repeat_pairing_capability_fits (capability : String) : Bool :=
  1 ≤ capability.utf8ByteSize ∧ capability.utf8ByteSize ≤ MAX_REPEAT_PAIRING_CAPABILITY_BYTES

/-- Returns a fresh capability to the member that asked for it. -/
structure RepeatPairingResponse where
  operation_id : RepeatPairingOperationId
  requester_device_id : DeviceId
  new_conversation_id : ConversationId
  capability : String
  capability_fits : repeat_pairing_capability_fits capability = true
  deriving DecidableEq, Repr

structure CollaborationPolicyProposal where
  proposal_id : CollaborationPolicyProposalId
  policy_digest : CollaborationPolicyDigest
  replaces_policy_digest : Option CollaborationPolicyDigest
  deriving DecidableEq, Repr

inductive CollaborationPolicyResponseOutcome
  | Accepted
  | Rejected
  deriving DecidableEq, Repr

structure CollaborationPolicyResponse where
  proposal_id : CollaborationPolicyProposalId
  policy_digest : CollaborationPolicyDigest
  outcome : CollaborationPolicyResponseOutcome
  deriving DecidableEq, Repr

inductive ApplicationContent
  | Text (body : String)
  | DirectedRequest (request : DirectedRequest)
  | RequestDeliveryOutcome (outcome : RequestDeliveryOutcome)
  | RepeatPairingRequest (request : RepeatPairingRequest)
  | RepeatPairingResponse (response : RepeatPairingResponse)
  | CollaborationPolicyProposal (proposal : CollaborationPolicyProposal)
  | CollaborationPolicyResponse (response : CollaborationPolicyResponse)
  | CollaborationPolicyRevocation (policy_digest : CollaborationPolicyDigest)
  deriving DecidableEq, Repr

def MAX_TEXT_BODY_BYTES : ℕ := 256 * 1024 - 1024

/-- A body that is neither empty nor too long. -/
def validate_application_text (body : String) : Bool :=
  body ≠ "" ∧ body.utf8ByteSize ≤ MAX_TEXT_BODY_BYTES

def ApplicationContent.is_internal : ApplicationContent → Bool
  | .RepeatPairingRequest _ | .RepeatPairingResponse _ => true
  | _ => false

/-! ## Messages -/

/-- `ApplicationMessage`: the sender counter is positive. -/
structure ApplicationMessage where
  version : ProtocolVersion
  message_id : MessageId
  sender_counter : ℕ
  sent_at_unix_milliseconds : ℕ
  reply_to : Option MessageId
  content : ApplicationContent
  sender_counter_pos : 0 < sender_counter
  deriving Repr

instance : DecidableEq ApplicationMessage :=
  decEq_on (fun ⟨a, b, c, d, e, f, _⟩ => ((a, b, c), d, e, f)) (by rintro ⟨⟩ ⟨⟩ ⟨⟩; rfl)

/-- A delivery outcome must answer another message and cannot claim a response. -/
def ApplicationMessage.new (version : ProtocolVersion) (message_id : MessageId)
    (sender_counter sent_at_unix_milliseconds : ℕ) (reply_to : Option MessageId)
    (content : ApplicationContent) : Except KonclaveDomainError ApplicationMessage :=
  let rejected : Bool := match content with
    | .RequestDeliveryOutcome outcome =>
      reply_to = none ∨ reply_to = some message_id ∨ outcome = .Responded
    | _ => false
  if rejected then .error .InvalidReceipt
  else if h : sender_counter = 0 then .error (.ZeroValue "sender_counter")
  else .ok ⟨version, message_id, sender_counter, sent_at_unix_milliseconds, reply_to, content,
    Nat.pos_of_ne_zero h⟩

/-! ## Receipts and continuations -/

/-- Whether `receipt` is a delivery receipt its sender may give for `original`. -/
def validate_request_delivery_receipt (original : ApplicationMessage)
    (authenticated_receipt_sender : DeviceId) (receipt : ApplicationMessage) :
    Except RequestDeliveryError Unit :=
  match original.content, receipt.content with
  | .DirectedRequest request, .RequestDeliveryOutcome outcome =>
    match request.delivery with
    | none => .error .InvalidReceipt
    | some options =>
      if request.target_device_id ≠ authenticated_receipt_sender
          ∨ receipt.reply_to ≠ some original.message_id
          ∨ receipt.message_id = original.message_id
          ∨ outcome = .Responded
          ∨ (outcome = .ExpiredBeforeAdmission ∧ options.expiry = none) then
        .error .InvalidReceipt
      else match options.expiry with
        | none => .ok ()
        | some expiry =>
          if (outcome = .Admitted ∨ outcome = .ExpiredBeforeAdmission)
              ∧ expiry.is_expired receipt.sent_at_unix_milliseconds
                ≠ decide (outcome = .ExpiredBeforeAdmission) then
            .error .InvalidReceipt
          else .ok ()
  | _, _ => .error .InvalidReceipt

/-- The outcome after one more receipt was observed. -/
def observe_request_delivery (current : Option RequestDeliveryOutcome)
    (observed : RequestDeliveryOutcome) : Except RequestDeliveryError RequestDeliveryOutcome :=
  match current with
  | none => .ok observed
  | some existing =>
    if existing = observed then .ok existing
    else if existing = .Admitted then
      if observed = .ExpiredBeforeAdmission then .error .ConflictingOutcome else .ok observed
    else if observed = .Admitted then .ok existing
    else .error .ConflictingOutcome

inductive MessageDirection
  | Outbound
  | Inbound
  deriving DecidableEq, Repr

inductive ResponseContinuationError
  | InvalidRequestOrigin
  | RequestNotLocal
  | RequestNotDirected
  | LocalTarget
  | InvalidResponseOrigin
  | ConversationMismatch
  | ResponseNotText
  | SenderMismatch
  | ReplyMismatch
  deriving DecidableEq, Repr

structure ResponseContinuationMessage where
  conversation : ConversationId
  sender : DeviceId
  direction : MessageDirection
  complete : Bool
  message : ApplicationMessage
  deriving DecidableEq, Repr

/-- Checks an exact answer to a directed request of the local device. -/
def validate_response_continuation (local_device : DeviceId)
    (request response : ResponseContinuationMessage) : Except ResponseContinuationError Unit :=
  if request.direction ≠ .Outbound ∨ request.complete = false then .error .InvalidRequestOrigin
  else if request.sender ≠ local_device then .error .RequestNotLocal
  else match request.message.content with
    | .DirectedRequest directed =>
      if directed.target_device_id = local_device then .error .LocalTarget
      else if response.direction ≠ .Inbound ∨ response.complete = false then
        .error .InvalidResponseOrigin
      else if request.conversation ≠ response.conversation then .error .ConversationMismatch
      else match response.message.content with
        | .Text _ =>
          if response.sender ≠ directed.target_device_id then .error .SenderMismatch
          else if response.message.reply_to ≠ some request.message.message_id
              ∨ response.message.message_id = request.message.message_id then
            .error .ReplyMismatch
          else .ok ()
        | _ => .error .ResponseNotText
    | _ => .error .RequestNotDirected

end Konclave.Domain
