/-
`Konclave.CryptographicCore` and `Konclave.ClientLibrary`: the keys of a pairing exchange.

The two sides of an exchange share a secret: it derives the route of the exchange and one
key per direction. Key derivation, the authenticated cipher and the encodings of the
records are a parameter, `PairingSuite`, with the facts the exchange rests on: what was
sealed opens, and what was encoded decodes.
-/
import Konclave.Domain.Pairing
import Konclave.Relay.Contract

set_option autoImplicit false

namespace Konclave.Cryptographic

open Protobuf Domain Relay ProtocolVersion

/-! ## Errors -/

/-- `KonclaveClientError`, the variants of the modelled operations. -/
inductive KonclaveClientError
  | InvalidPairingCapability
  | PairingCapabilityTooLarge (maximum actual : ℕ)
  | Timeout
  | TransportUnavailable
  | InvalidResponse
  | RelayRejected (status : ℕ) (relay_code : String)
  deriving DecidableEq

/-! ## Suites -/

/-- `canonical_header`: what a cipher authenticates beside the plaintext. -/
structure PairingHeader where
  pairing_id : PairingId
  message_id : PairingMessageId
  sender : PairingSenderRole
  stage : PairingStage
  in_reply_to : Option PairingMessageId
  expires_at_unix_seconds : ℕ
  nonce : PairingNonce
  deriving DecidableEq

/-- One encoding of the protocol, with its bound. -/
structure Codec (α : Type) where
  encode : α → Except KonclaveProtocolError Bytes
  decode : Bytes → Except KonclaveProtocolError α
  decode_encode : ∀ value bytes, encode value = .ok bytes → decode bytes = .ok value

/-- Key derivation, the cipher, the encodings and the text form of a capability. -/
structure PairingSuite where
  identity : CipherSuite
  routing_id : PairingId → PairingSecret → RoutingId
  pairing_context_hash : PairingId → RoutingId → String → PairingContextHash
  cipher_seal : PairingSecret → PairingHeader → Bytes → Except KonclaveCryptographicError Bytes
  cipher_open : PairingSecret → PairingHeader → Bytes → Except KonclaveCryptographicError Bytes
  cipher_open_seal : ∀ secret header plaintext ciphertext,
    cipher_seal secret header plaintext = .ok ciphertext →
      cipher_open secret header ciphertext = .ok plaintext
  pairing_envelope : Codec PairingEnvelope
  pairing_invitation : Codec PairingInvitationPayload
  join_proof : Codec JoinProof
  invitation : Codec Invitation
  pairing_welcome : Codec PairingWelcomePayload
  pairing_control : Codec PairingControl
  /-- The framing of a capability's text: its bound, its alphabet and its canonical form. -/
  parse_capability : String → Except KonclaveClientError PairingCapability
  encode_capability : PairingCapability → Except KonclaveClientError String
  parse_encode_capability : ∀ capability text,
    encode_capability capability = .ok text → parse_capability text = .ok capability
  /-- How long the encoding of a pairing's state is, from its records. -/
  state_length : PairingCapability → List StoredRelayEnvelope → List RelayEnvelope → ℕ

variable (suite : PairingSuite) {envelope : PairingEnvelope}

/-! ## Offers -/

def canonical_pairing_offer (offer : PairingOffer) : Transcript :=
  .PairingOffer offer.version offer.pairing_id offer.device_id offer.device_root_public_key
    offer.requested_role offer.expires_at_unix_seconds offer.context_hash

def verify_pairing_offer (offer : PairingOffer) (now_unix_seconds : ℕ) :
    Except KonclaveCryptographicError Unit :=
  if offer.version ≠ application_v1 then .error .InvalidInvitationSignature
  else if suite.identity.derive_device_id offer.device_root_public_key ≠ offer.device_id then
    .error .InvalidInvitationSignature
  else if offer.expires_at_unix_seconds ≤ now_unix_seconds then .error .ExpiredInvitation
  else if suite.identity.verify offer.device_root_public_key offer.device_signature
      (canonical_pairing_offer offer) = true then .ok ()
  else .error .InvalidInvitationSignature

/-- The route of a capability's exchange. -/
def capability_route (capability : PairingCapability) : RoutingId :=
  suite.routing_id capability.offer.pairing_id capability.secret

/-- `PairingCapability::decode`; every check but the bound of the text has one error. -/
def decode_capability (encoded : String) (now_unix_seconds : ℕ) :
    Except KonclaveClientError PairingCapability := do
  let capability ← suite.parse_capability encoded
  require (verify_pairing_offer suite capability.offer now_unix_seconds = .ok ())
    .InvalidPairingCapability
  require (capability.offer.context_hash = suite.pairing_context_hash capability.offer.pairing_id
    (capability_route suite capability) capability.relay_endpoint) .InvalidPairingCapability
  pure capability

/-! ## The key schedule -/

def PairingEnvelope.header (envelope : PairingEnvelope) : PairingHeader :=
  ⟨envelope.pairing_id, envelope.message_id, envelope.sender, envelope.stage,
    envelope.in_reply_to, envelope.expires_at_unix_seconds, envelope.nonce⟩

open PairingEnvelope

/-- `PairingEnvelope::new` of a header and its ciphertext. -/
def PairingEnvelope.new (header : PairingHeader) (ciphertext : Bytes) :
    Except KonclaveDomainError PairingEnvelope :=
  if hexpires : header.expires_at_unix_seconds = 0 then
    .error (.ZeroValue "expires_at_unix_seconds")
  else
    if hrange : MIN_PAIRING_CIPHERTEXT_BYTES ≤ ciphertext.length
        ∧ ciphertext.length ≤ MAX_PAIRING_CIPHERTEXT_BYTES then
      if hsender : ∀ expected ∈ header.stage.expected_sender, header.sender = expected then
        if hreply : header.stage.requires_reply = header.in_reply_to.isSome then
          .ok ⟨application_v1, header.pairing_id, header.message_id,
            header.sender, header.stage, header.in_reply_to, header.expires_at_unix_seconds,
            header.nonce, ciphertext, Nat.pos_of_ne_zero hexpires, hrange, hsender, hreply⟩
        else .error (.InvalidPairingEnvelope "in_reply_to")
      else .error (.InvalidPairingEnvelope "sender")
    else .error (.OutOfRange "pairing_ciphertext" MIN_PAIRING_CIPHERTEXT_BYTES
      MAX_PAIRING_CIPHERTEXT_BYTES ciphertext.length)

theorem PairingEnvelope.new_eq_ok {header : PairingHeader} {ciphertext : Bytes}
    (h : PairingEnvelope.new header ciphertext = .ok envelope) :
    PairingEnvelope.header envelope = header ∧ envelope.ciphertext = ciphertext
    ∧ envelope.version = application_v1 := by
  unfold new at h
  split at h
  · cases h
  · simp only [dite_ok] at h
    obtain ⟨_, _, _, h⟩ := h
    cases h
    exact ⟨rfl, rfl, rfl⟩

def seal_envelope (secret : PairingSecret) (header : PairingHeader) (plaintext : Bytes) :
    Except KonclaveCryptographicError PairingEnvelope := do
  let ciphertext ← suite.cipher_seal secret header plaintext
  domain (new header ciphertext)

/-- `open` of the key schedule of a capability. -/
def open_envelope (capability : PairingCapability) (envelope : PairingEnvelope) :
    Except KonclaveCryptographicError Bytes := do
  require (envelope.version = application_v1
    ∧ envelope.pairing_id = capability.offer.pairing_id) .PairingAuthenticationFailed
  suite.cipher_open capability.secret (header envelope) envelope.ciphertext

/-- What a side of an exchange sealed, both sides open. -/
theorem open_seal_envelope {capability : PairingCapability} {header : PairingHeader}
    {plaintext : Bytes} (hpair : header.pairing_id = capability.offer.pairing_id)
    (h : seal_envelope suite capability.secret header plaintext = .ok envelope) :
    PairingEnvelope.header envelope = header
    ∧ open_envelope suite capability envelope = .ok plaintext := by
  rw [seal_envelope] at h
  obtain ⟨ciphertext, hsealed, hnew⟩ := bind_ok.1 h
  obtain ⟨hheader, hciphertext, hver⟩ := new_eq_ok (domain_eq_ok.1 hnew)
  refine ⟨hheader, ?_⟩
  have hid : envelope.pairing_id = capability.offer.pairing_id := by
    rw [← hpair, ← hheader]
    rfl
  rw [open_envelope, require_bind ⟨hver, hid⟩, hheader, hciphertext]
  exact suite.cipher_open_seal _ _ _ _ hsealed

end Konclave.Cryptographic
