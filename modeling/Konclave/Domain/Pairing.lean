/-
`Konclave.DomainCore`: the records of a pairing exchange.

A joiner's signed offer, the envelope that carries one sealed stage of the exchange, and
what the stages hold: the invitation with the credentials of the members, the Welcome with
the cursor of its commit, and the signed control that completes or cancels. A record that
exists satisfies what its constructor checks.
-/
import Konclave.Cryptographic.Identity
import Konclave.Domain.Relay

set_option autoImplicit false

namespace Konclave.Domain

open Protobuf

def MAX_PAIRING_CIPHERTEXT_BYTES : ℕ := MAX_RELAY_PAYLOAD_BYTES - 1024
def MAX_PAIRING_WELCOME_BYTES : ℕ := MAX_RELAY_PAYLOAD_BYTES - 1024
def MIN_PAIRING_CIPHERTEXT_BYTES : ℕ := 16

abbrev PairingMessageId := FixedBytes 16
abbrev PairingNonce := FixedBytes 12
abbrev PairingContextHash := FixedBytes 32
abbrev PairingSecret := FixedBytes 32

/-! ## Offers and capabilities -/

structure PairingOffer where
  version : ProtocolVersion
  pairing_id : PairingId
  device_id : DeviceId
  device_root_public_key : Ed25519PublicKey
  requested_role : ConversationRole
  expires_at_unix_seconds : ℕ
  context_hash : PairingContextHash
  device_signature : Ed25519Signature
  expires_pos : 0 < expires_at_unix_seconds
  deriving DecidableEq

/-- `PairingCapability`: an offer, the secret of its exchange and the relay of its route. -/
structure PairingCapability where
  offer : PairingOffer
  secret : PairingSecret
  relay_endpoint : String
  deriving DecidableEq

/-! ## Envelopes -/

inductive PairingSenderRole
  | Joiner
  | Inviter
  deriving DecidableEq, Repr

inductive PairingStage
  | Invitation
  | JoinProof
  | Welcome
  | Completion
  | Cancellation
  deriving DecidableEq, Repr

def PairingStage.expected_sender : PairingStage → Option PairingSenderRole
  | .Invitation | .Welcome => some .Inviter
  | .JoinProof | .Completion => some .Joiner
  | .Cancellation => none

def PairingStage.requires_reply : PairingStage → Bool
  | .Invitation => false
  | _ => true

/-- `PairingEnvelope`: the header the sender's key authenticates, and the ciphertext. -/
structure PairingEnvelope where
  version : ProtocolVersion
  pairing_id : PairingId
  message_id : PairingMessageId
  sender : PairingSenderRole
  stage : PairingStage
  in_reply_to : Option PairingMessageId
  expires_at_unix_seconds : ℕ
  nonce : PairingNonce
  ciphertext : Bytes
  expires_pos : 0 < expires_at_unix_seconds
  ciphertext_range : MIN_PAIRING_CIPHERTEXT_BYTES ≤ ciphertext.length
    ∧ ciphertext.length ≤ MAX_PAIRING_CIPHERTEXT_BYTES
  sender_expected : ∀ expected ∈ stage.expected_sender, sender = expected
  reply_presence : stage.requires_reply = in_reply_to.isSome
  deriving DecidableEq

/-! ## Payloads -/

/-- `PairingInvitationPayload`: a routed invitation with the credentials of the members it
joins, the issuer's among them, each of another device and none of the invited one. -/
structure PairingInvitationPayload where
  invitation : Invitation
  issuer_public_key : Ed25519PublicKey
  peer_bindings : List DeviceCredentialBinding
  routed : invitation.routing_id.isSome = true
  peers_range : 1 ≤ peer_bindings.length ∧ peer_bindings.length ≤ MAX_MEMBERS
  peers_nodup : (peer_bindings.map (·.device_id)).Nodup
  peers : ∀ binding ∈ peer_bindings, binding.conversation_id = invitation.conversation_id
    ∧ binding.device_id ≠ invitation.expected_device_id
  issuer : ∃ binding ∈ peer_bindings, binding.device_id = invitation.issuer_device_id
    ∧ binding.device_root_public_key = issuer_public_key
  deriving DecidableEq

/-- The loop's checks, in the order of the constructor's results: a binding of another
conversation, of the invited device or of a device seen before. -/
def peer_bindings_fit (invitation : Invitation) (peer_bindings : List DeviceCredentialBinding) :
    Prop :=
  (peer_bindings.map (·.device_id)).Nodup
    ∧ ∀ binding ∈ peer_bindings, binding.conversation_id = invitation.conversation_id
      ∧ binding.device_id ≠ invitation.expected_device_id

instance (invitation : Invitation) (peer_bindings : List DeviceCredentialBinding) :
    Decidable (peer_bindings_fit invitation peer_bindings) := inferInstanceAs (Decidable (_ ∧ _))

namespace PairingInvitationPayload

def new (invitation : Invitation)
    (issuer_public_key : Ed25519PublicKey) (peer_bindings : List DeviceCredentialBinding) :
    Except KonclaveDomainError PairingInvitationPayload :=
  if hrouted : invitation.routing_id.isSome = true then
    if hrange : 1 ≤ peer_bindings.length ∧ peer_bindings.length ≤ MAX_MEMBERS then
      if hpeers : peer_bindings_fit invitation peer_bindings then
        if hissuer : ∃ binding ∈ peer_bindings, binding.device_id = invitation.issuer_device_id
            ∧ binding.device_root_public_key = issuer_public_key then
          .ok ⟨invitation, issuer_public_key, peer_bindings, hrouted, hrange, hpeers.1, hpeers.2,
            hissuer⟩
        else .error (.InvalidPairingEnvelope "issuer_public_key")
      else .error (.InvalidPairingEnvelope "peer_bindings")
    else .error (.OutOfRange "pairing_peer_bindings" 1 MAX_MEMBERS peer_bindings.length)
  else .error (.InvalidPairingEnvelope "invitation_routing_id")

theorem new_eq_ok {invitation : Invitation}
    {issuer_public_key : Ed25519PublicKey} {peer_bindings : List DeviceCredentialBinding}
    {payload : PairingInvitationPayload}
    (h : new invitation issuer_public_key peer_bindings = .ok payload) :
    payload.invitation = invitation := by
  simp only [new, dite_ok] at h
  obtain ⟨_, _, _, _, h⟩ := h
  cases h
  rfl

end PairingInvitationPayload

/-- `PairingWelcomePayload`: an opaque Welcome and the cursor of the commit it joins at. -/
structure PairingWelcomePayload where
  conversation_id : ConversationId
  welcome : Bytes
  commit_cursor : ℕ
  welcome_range : 1 ≤ welcome.length ∧ welcome.length ≤ MAX_PAIRING_WELCOME_BYTES
  cursor_pos : 0 < commit_cursor
  deriving DecidableEq

def PairingWelcomePayload.new (conversation_id : ConversationId) (welcome : Bytes)
    (commit_cursor : ℕ) : Except KonclaveDomainError PairingWelcomePayload :=
  if hwelcome : 1 ≤ welcome.length ∧ welcome.length ≤ MAX_PAIRING_WELCOME_BYTES then
    if hcursor : commit_cursor = 0 then .error (.ZeroValue "pairing_commit_cursor")
    else .ok ⟨conversation_id, welcome, commit_cursor, hwelcome, Nat.pos_of_ne_zero hcursor⟩
  else .error (.OutOfRange "pairing_welcome" 1 MAX_PAIRING_WELCOME_BYTES welcome.length)

/-- What a device root signs to complete or cancel an exchange. -/
structure PairingControlTranscript where
  version : ProtocolVersion
  pairing_id : PairingId
  message_id : PairingMessageId
  stage : PairingStage
  in_reply_to : PairingMessageId
  device_id : DeviceId
  conversation_id : ConversationId
  deriving DecidableEq

/-- `PairingControl`: a signed completion or cancellation. -/
structure PairingControl where
  transcript : PairingControlTranscript
  device_signature : Ed25519Signature
  control_stage : transcript.stage = .Completion ∨ transcript.stage = .Cancellation
  deriving DecidableEq

end Konclave.Domain
