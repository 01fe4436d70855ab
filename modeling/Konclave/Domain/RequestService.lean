/-
`Konclave.DomainCore`: what a request-service channel lets its two endpoints send.
-/
import Konclave.Domain.Application
import Konclave.Domain.Membership

set_option autoImplicit false

namespace Konclave.Domain

inductive RequestServiceReplyDecision
  | New
  | Retry
  deriving DecidableEq, Repr

/-- A reply against the witness stored with its request. -/
def classify_request_service_reply (previous_reply : Option MessageId)
    (candidate_reply : MessageId) : Except RequestServiceError RequestServiceReplyDecision :=
  match previous_reply with
  | none => .ok .New
  | some previous =>
    if previous = candidate_reply then .ok .Retry else .error .ReplyAlreadyCompleted

/-- The authenticated request a reply answers. -/
structure RequestServiceRequest where
  conversation_id : ConversationId
  authenticated_sender : DeviceId
  message : ApplicationMessage

/-- The checks on the request a text or a receipt answers. -/
def RequestServiceChannel.validate_reply (channel : RequestServiceChannel)
    (state : ConversationState) (authenticated_sender : DeviceId) (content : ApplicationContent)
    (reply_to : Option MessageId) (original : Option RequestServiceRequest) :
    Except RequestServiceError Unit :=
  if reply_to = none then .error .UnsolicitedText
  else if authenticated_sender ≠ channel.operator_device_id then .error .RequesterCannotReply
  else if (state.member channel.requester_device_id).isNone then .error .SenderNotMember
  else match original with
    | none => .error .MissingRequest
    | some original =>
      if original.conversation_id ≠ channel.conversation_id
          ∨ original.authenticated_sender ≠ channel.requester_device_id
          ∨ some original.message.message_id ≠ reply_to then .error .InvalidReply
      else match original.message.content with
        | .DirectedRequest request =>
          if request.target_device_id ≠ channel.operator_device_id then .error .InvalidReply
          else match content with
            | .RequestDeliveryOutcome _ =>
              if request.delivery = none then .error .InvalidReply else .ok ()
            | _ => .ok ()
        | _ => .error .InvalidReply

def RequestServiceChannel.validate_application (channel : RequestServiceChannel)
    (state : ConversationState) (authenticated_sender : DeviceId) (content : ApplicationContent)
    (reply_to : Option MessageId) (original : Option RequestServiceRequest) :
    Except RequestServiceError Unit :=
  match channel.validate_membership state.conversation_id state.members with
  | .error e => .error e
  | .ok () =>
    if (state.member authenticated_sender).isNone then .error .SenderNotMember
    else match content with
      | .DirectedRequest request =>
        if authenticated_sender ≠ channel.requester_device_id then
          .error .OperatorCannotRequest
        else if request.target_device_id ≠ channel.operator_device_id then
          .error .InvalidTarget
        else .ok ()
      | .Text _ | .RequestDeliveryOutcome _ =>
        channel.validate_reply state authenticated_sender content reply_to original
      | .CollaborationPolicyProposal _ | .CollaborationPolicyResponse _
      | .CollaborationPolicyRevocation _ => .ok ()
      | .RepeatPairingRequest _ | .RepeatPairingResponse _ => .error .UnsupportedOperation

end Konclave.Domain
