/-
`Konclave.CryptographicCore`: device credentials, invitations and join proofs.

The signature scheme and the hash functions are a parameter, `CipherSuite`: which device
identifier a root key derives, which signatures verify, and the hash of a credential. A
signature is over a canonical encoding, which a `Transcript` represents by what it
encodes. An MLS key package is represented by what it is parsed to.
-/
import Konclave.Domain.Membership

set_option autoImplicit false

namespace Konclave.Domain

open Protobuf

/-! ## Credentials, invitations and join proofs -/

inductive SignatureScheme
  | Ed25519
  deriving DecidableEq

/-- `DeviceCredentialBinding`: capabilities come with a signature, or are absent. -/
structure DeviceCredentialBinding where
  version : ProtocolVersion
  device_id : DeviceId
  conversation_id : ConversationId
  signature_scheme : SignatureScheme
  device_root_public_key : Ed25519PublicKey
  conversation_signature_public_key : Ed25519PublicKey
  device_binding_signature : Ed25519Signature
  application_capabilities : ℕ
  application_capabilities_signature : Option Ed25519Signature
  capabilities_signed : application_capabilities = 0 ↔ application_capabilities_signature = none
  deriving DecidableEq

theorem no_capabilities : 0 = 0 ↔ (none : Option Ed25519Signature) = none := by decide

/-- `Invitation`: it expires, and a channel it carries is between its own parties. -/
structure Invitation where
  version : ProtocolVersion
  invitation_id : InvitationId
  conversation_id : ConversationId
  routing_id : Option RoutingId
  expected_device_id : DeviceId
  role : ConversationRole
  expires_at_unix_seconds : ℕ
  nonce : InvitationNonce
  issuer_device_id : DeviceId
  issuer_signature : Ed25519Signature
  request_service : Option RequestServiceChannel
  expires_pos : 0 < expires_at_unix_seconds
  channel : ∀ channel ∈ request_service,
    channel.conversation_id = conversation_id ∧ channel.operator_device_id = issuer_device_id
      ∧ channel.requester_device_id = expected_device_id ∧ role = .Member
      ∧ version = ProtocolVersion.application_v1

set_option synthInstance.maxSize 512 in
instance : DecidableEq Invitation :=
  decEq_on (fun ⟨a, b, c, d, e, f, g, h, i, j, k, _, _⟩ => ((a, b, c), (d, e, f), (g, h, i), j, k))
    (by rintro ⟨⟩ ⟨⟩ ⟨⟩; rfl)

/-- An MLS credential: a basic one with an identifier, or another kind. -/
inductive Credential
  | Basic (identifier : Bytes)
  | Other
  deriving DecidableEq

/-- Who an MLS leaf belongs to: a credential and the key its messages are signed with. -/
structure SigningIdentity where
  credential : Credential
  signature_key : Ed25519PublicKey
  deriving DecidableEq

/-- A parsed MLS key package. -/
structure KeyPackage where
  cipher_suite : ℕ
  signing_identity : SigningIdentity
  deriving DecidableEq

/-- `JoinProof`: the credential is the invited device's, for the invited conversation. -/
structure JoinProof where
  invitation : Invitation
  credential : DeviceCredentialBinding
  mls_key_package : KeyPackage
  device_eq : invitation.expected_device_id = credential.device_id
  conversation_eq : invitation.conversation_id = credential.conversation_id
  deriving DecidableEq

end Konclave.Domain

namespace Konclave.Cryptographic

open Domain

/-! ## Errors -/

/-- `KonclaveCryptographicError`, the variants of the modelled operations. -/
inductive KonclaveCryptographicError
  | InvalidCredentialBinding
  | InvalidInvitationSignature
  | ExpiredInvitation
  | MlsFailure (operation : String)
  | ApplicationMessageAlreadyProcessed
  | ProtocolContractFailure
  | UnexpectedMlsMessage (operation : String)
  | MlsConversationMismatch
  | MlsCipherSuiteMismatch
  | CredentialNotRegistered
  | CredentialSigningKeyMismatch
  | MembershipAuthorizationRequired
  | MembershipAuthorizationMismatch
  | PendingCommitExists
  | PendingCommitNotFound
  | RemovedFromConversation
  | MissingAuthenticatedState
  | RosterMismatch
  | PairingAuthenticationFailed
  | PairingPayloadTooLarge (maximum actual : ℕ)
  | InvalidPairingControl
  | ProviderFailure (operation : String)
  | Domain (error : KonclaveDomainError)
  deriving DecidableEq

/-- `From<KonclaveDomainError>`. -/
def domain {α : Type} (x : Except KonclaveDomainError α) : Except KonclaveCryptographicError α :=
  x.mapError .Domain

theorem domain_eq_ok {α : Type} {x : Except KonclaveDomainError α} {a : α} :
    domain x = .ok a ↔ x = .ok a := by
  cases x <;> simp [domain, Except.mapError]

/-! ## Verification

A signature is checked over a transcript; the suite says what verifies, and nothing is assumed
of it here. -/

/-- What a device root or an invitation issuer signs. -/
inductive Transcript
  | CredentialBinding (version : ProtocolVersion) (device_id : DeviceId)
      (conversation_id : ConversationId) (signature_scheme : SignatureScheme)
      (device_root_public_key conversation_signature_public_key : Ed25519PublicKey)
  | CredentialCapabilities (canonical : Transcript) (capabilities : ℕ)
  | Invitation (version : ProtocolVersion) (invitation_id : InvitationId)
      (conversation_id : ConversationId) (routing_id : Option RoutingId)
      (expected_device_id : DeviceId) (role : ConversationRole) (expires_at_unix_seconds : ℕ)
      (nonce : InvitationNonce) (issuer_device_id : DeviceId)
      (request_service : Option RequestServiceChannel)
  | PairingOffer (version : ProtocolVersion) (pairing_id : PairingId) (device_id : DeviceId)
      (device_root_public_key : Ed25519PublicKey) (requested_role : ConversationRole)
      (expires_at_unix_seconds : ℕ) (context_hash : FixedBytes 32)

/-- The configured provider. -/
structure CipherSuite where
  derive_device_id : Ed25519PublicKey → DeviceId
  verify : Ed25519PublicKey → Ed25519Signature → Transcript → Bool
  /-- The hash over a credential's canonical encoding and its signature. -/
  hash_credential_binding : Transcript → Ed25519Signature → CredentialBindingHash

variable (suite : CipherSuite) (binding : DeviceCredentialBinding)

def canonical_credential_binding : Transcript :=
  .CredentialBinding binding.version binding.device_id binding.conversation_id
    binding.signature_scheme binding.device_root_public_key
    binding.conversation_signature_public_key

def canonical_invitation (invitation : Invitation) : Transcript :=
  .Invitation invitation.version invitation.invitation_id invitation.conversation_id
    invitation.routing_id invitation.expected_device_id invitation.role
    invitation.expires_at_unix_seconds invitation.nonce invitation.issuer_device_id
    invitation.request_service

/-- The capability signature, where there is one. Capabilities without a signature do not
exist (`capabilities_signed`). -/
def capabilities_verify : Bool :=
  match binding.application_capabilities_signature with
  | none => true
  | some signature => suite.verify binding.device_root_public_key signature
      (.CredentialCapabilities (canonical_credential_binding binding)
        binding.application_capabilities)

/-- The checks of `verify_device_credential_binding`. -/
def credential_binding_verifies : Bool :=
  binding.version = ProtocolVersion.application_v1
    ∧ suite.derive_device_id binding.device_root_public_key = binding.device_id
    ∧ suite.verify binding.device_root_public_key binding.device_binding_signature
        (canonical_credential_binding binding) = true
    ∧ capabilities_verify suite binding = true

/-- `VerifiedDeviceCredentialBinding`: a binding that its device root signed. -/
structure VerifiedDeviceCredentialBinding (suite : CipherSuite) where
  binding : DeviceCredentialBinding
  verified : credential_binding_verifies suite binding = true
  deriving DecidableEq

def credential_binding_hash : CredentialBindingHash :=
  suite.hash_credential_binding (canonical_credential_binding binding)
    binding.device_binding_signature

def verify_device_credential_binding :
    Except KonclaveCryptographicError (VerifiedDeviceCredentialBinding suite) :=
  if h : credential_binding_verifies suite binding = true then .ok ⟨binding, h⟩
  else .error .InvalidCredentialBinding

def verify_invitation (invitation : Invitation) (issuer_public_key : Ed25519PublicKey)
    (now_unix_seconds : ℕ) : Except KonclaveCryptographicError Unit :=
  if invitation.version ≠ ProtocolVersion.application_v1 then .error .InvalidInvitationSignature
  else if suite.derive_device_id issuer_public_key ≠ invitation.issuer_device_id then
    .error .InvalidInvitationSignature
  else if invitation.expires_at_unix_seconds ≤ now_unix_seconds then .error .ExpiredInvitation
  else if suite.verify issuer_public_key invitation.issuer_signature
      (canonical_invitation invitation) = true then .ok ()
  else .error .InvalidInvitationSignature

/-! ## Signing identities -/

/-- The signing identity of a device's MLS client. -/
def signing_identity : SigningIdentity :=
  ⟨.Basic binding.device_id.bytes, binding.conversation_signature_public_key⟩

end Konclave.Cryptographic
