/-
`Konclave.CryptographicCore`: the statements a device root signs.

A root signs credentials, their capabilities, invitations, pairing offers and pairing
controls. What is signed is a domain followed by the fields in order, and the optional
parts of an invitation come without a flag: a statement is told apart by its domain and by
its total length. Equal bytes are of one statement, and so a verification that succeeded
was of a statement that the holder of the root signed.
-/
import Konclave.Cryptographic.Pairing

set_option autoImplicit false

namespace Konclave.Cryptographic

open Protobuf Domain Framing List

/-! ## Canonical encodings

A statement is signed as its domain, its version and its fields, the variable ones with lengths. -/

inductive StatementKind
  | CredentialBinding
  | CredentialCapabilities
  | Invitation
  | PairingOffer
  | PairingControl
  deriving DecidableEq

/-- `CREDENTIAL_DOMAIN`, `CREDENTIAL_CAPABILITY_DOMAIN`, `INVITATION_DOMAIN`,
`PAIRING_OFFER_DOMAIN` and `PAIRING_CONTROL_DOMAIN`. -/
def StatementKind.domain (kind : StatementKind) : Bytes :=
  byte_string (match kind with
    | .CredentialBinding => "konclave-device-credential-binding-v1"
    | .CredentialCapabilities => "konclave-device-credential-capabilities-v1"
    | .Invitation => "konclave-invitation-v1"
    | .PairingOffer => "konclave-pairing-offer-v1"
    | .PairingControl => "konclave-pairing-control-v1") ++ [0]

def append_version (version : ProtocolVersion) : Bytes :=
  be_bytes 4 version.major ++ be_bytes 4 version.minor

def signature_scheme_code : SignatureScheme → UInt8
  | .Ed25519 => 1

def role_code : ConversationRole → UInt8
  | .Administrator => 1
  | .Member => 2

/-- A part that is appended where it is present. -/
def append_optional {α : Type} (encode : α → Bytes) (part : Option α) : Bytes :=
  (part.map encode).getD []

/-- The channel of a request service, after a domain of its own. -/
def append_channel (channel : RequestServiceChannel) : Bytes :=
  (byte_string "konclave-request-service-v1" ++ [0]) ++ (channel.conversation_id.bytes
    ++ (channel.operator_device_id.bytes ++ channel.requester_device_id.bytes))

namespace Transcript

def kind : Transcript → StatementKind
  | .CredentialBinding .. => .CredentialBinding
  | .CredentialCapabilities .. => .CredentialCapabilities
  | .Invitation .. => .Invitation
  | .PairingOffer .. => .PairingOffer

/-- What follows the domain. -/
def fields : Transcript → Bytes
  | .CredentialBinding version device_id conversation_id signature_scheme
      device_root_public_key conversation_signature_public_key =>
    append_version version ++ (device_id.bytes ++ (conversation_id.bytes
      ++ (signature_scheme_code signature_scheme :: (device_root_public_key.bytes
      ++ conversation_signature_public_key.bytes))))
  | .CredentialCapabilities canonical capabilities =>
    (canonical.kind.domain ++ canonical.fields) ++ be_bytes 8 capabilities
  | .Invitation version invitation_id conversation_id routing_id expected_device_id role
      expires_at_unix_seconds nonce issuer_device_id request_service =>
    append_version version ++ (invitation_id.bytes ++ (conversation_id.bytes
      ++ (append_optional (·.bytes) routing_id ++ (expected_device_id.bytes
      ++ (role_code role :: (be_bytes 8 expires_at_unix_seconds ++ (nonce.bytes
      ++ (issuer_device_id.bytes ++ append_optional append_channel request_service))))))))
  | .PairingOffer version pairing_id device_id device_root_public_key requested_role
      expires_at_unix_seconds context_hash =>
    append_version version ++ (pairing_id.bytes ++ (device_id.bytes
      ++ (device_root_public_key.bytes ++ (role_code requested_role
      :: (be_bytes 8 expires_at_unix_seconds ++ context_hash.bytes)))))

def canonical (transcript : Transcript) : Bytes := transcript.kind.domain ++ transcript.fields

end Transcript

/-- The code of the stage; only these two have a control. -/
def control_stage_code : PairingStage → Except KonclaveCryptographicError UInt8
  | .Completion => .ok 1
  | .Cancellation => .ok 2
  | _ => .error (.Domain (.InvalidPairingEnvelope "control_stage"))

def canonical_pairing_control (control : PairingControlTranscript) :
    Except KonclaveCryptographicError Bytes := do
  let stage ← control_stage_code control.stage
  pure (StatementKind.PairingControl.domain ++ (append_version control.version
    ++ (control.pairing_id.bytes ++ (control.message_id.bytes ++ (stage
    :: (control.in_reply_to.bytes ++ (control.device_id.bytes
    ++ control.conversation_id.bytes)))))))

/-- What a device root signs. -/
inductive RootStatement
  | identity (transcript : Transcript)
  | control (transcript : PairingControlTranscript)

def RootStatement.canonical : RootStatement → Except KonclaveCryptographicError Bytes
  | .identity transcript => .ok transcript.canonical
  | .control transcript => canonical_pairing_control transcript

/-! ## Machine integers

Lengths and numbers are written with a fixed width, and are read back when they fit it. -/

/-- The components are the `u32` of the source. -/
def ProtocolVersion.Sized (version : ProtocolVersion) : Prop :=
  version.major < 2 ^ 32 ∧ version.minor < 2 ^ 32

/-- The integers of the statement are the `u32` and `u64` of the source. -/
def Transcript.Sized : Transcript → Prop
  | .CredentialBinding version .. => ProtocolVersion.Sized version
  | .CredentialCapabilities canonical capabilities => canonical.Sized ∧ capabilities < 2 ^ 64
  | .Invitation version _ _ _ _ _ expires_at_unix_seconds .. =>
    ProtocolVersion.Sized version ∧ expires_at_unix_seconds < 2 ^ 64
  | .PairingOffer version _ _ _ _ expires_at_unix_seconds _ =>
    ProtocolVersion.Sized version ∧ expires_at_unix_seconds < 2 ^ 64

def RootStatement.Sized : RootStatement → Prop
  | .identity transcript => transcript.Sized
  | .control transcript => ProtocolVersion.Sized transcript.version

/-! ## Reading the fields off

Each field is delimited: what follows it can be told apart from it. -/

theorem delimited_domain : Delimited (fun _ => True) StatementKind.domain := by
  refine delimited_tag fun k k' => ?_
  cases k <;> cases k' <;> decide +kernel

theorem delimited_version : Delimited ProtocolVersion.Sized append_version := by
  intro x y rest rest' hx hy h
  rw [append_version, append_version, append_assoc, append_assoc] at h
  obtain ⟨hmajor, h⟩ := delimited_be_bytes 4 _ _ _ _ hx.1 hy.1 h
  obtain ⟨hminor, h⟩ := delimited_be_bytes 4 _ _ _ _ hx.2 hy.2 h
  refine ⟨?_, h⟩
  cases x
  cases y
  simp_all

theorem role_code_injective : Function.Injective role_code := by
  intro x y h
  cases x <;> cases y <;> simp_all [role_code]

section

variable {α : Type} {encode : α → Bytes} {width : ℕ} (hlen : ∀ x, (encode x).length = width)
include hlen

theorem length_append_optional (part : Option α) :
    (append_optional encode part).length = if part.isSome then width else 0 := by
  cases part with
  | none => rfl
  | some x => exact hlen x

theorem delimited_append_optional (hinj : Function.Injective encode) (present : Bool) :
    Delimited (fun part => part.isSome = present) (append_optional encode) := by
  refine delimited_of_length ?_ ?_
  · intro x y hx hy
    rw [length_append_optional hlen, length_append_optional hlen, hx, hy]
  · intro x y hx hy h
    cases x <;> cases y <;> simp_all [append_optional]
    exact hinj h

end

theorem length_append_channel (channel : RequestServiceChannel) :
    (append_channel channel).length = 124 := by
  have hdomain : (byte_string "konclave-request-service-v1" ++ [0]).length = 28 := by
    decide +kernel
  simp only [append_channel, length_append, FixedBytes.length_eq] at hdomain ⊢
  omega

theorem append_channel_injective : Function.Injective append_channel := by
  intro x y h
  have h := append_cancel_left h
  obtain ⟨hconv, h⟩ := delimited_fixed.split h
  obtain ⟨hoperator, h⟩ := delimited_fixed.split h
  have hrequester := FixedBytes.ext h
  cases x
  cases y
  simp_all

/-! ## Unambiguous statements

Two statements with one encoding are one statement, whatever their kinds. -/

theorem Transcript.canonical_inj {x y : Transcript} (hx : x.Sized) (hy : y.Sized)
    (h : x.canonical = y.canonical) : x = y := by
  induction x generalizing y with
  | CredentialBinding version =>
    obtain ⟨hkind, h⟩ := delimited_domain.split h
    cases y <;> cases hkind
    obtain ⟨hver, h⟩ := delimited_version _ _ _ _ hx hy h
    obtain ⟨hdevice, h⟩ := delimited_fixed.split h
    obtain ⟨hconv, h⟩ := delimited_fixed.split h
    obtain ⟨-, h⟩ := cons.inj h
    obtain ⟨hroot, h⟩ := delimited_fixed.split h
    rw [hver, hdevice, hconv, hroot, FixedBytes.ext h]
  | CredentialCapabilities canonical capabilities ih =>
    obtain ⟨hkind, h⟩ := delimited_domain.split h
    cases y <;> cases hkind
    -- both end with the eight bytes of the capabilities
    obtain ⟨hcanonical, hcapabilities⟩ := append_inj' h (by simp)
    rw [ih hx.1 hy.1 hcanonical, be_bytes_inj hx.2 hy.2 hcapabilities]
  | Invitation version =>
    obtain ⟨hkind, h⟩ := delimited_domain.split h
    cases y <;> cases hkind
    obtain ⟨hver, h⟩ := delimited_version _ _ _ _ hx.1 hy.1 h
    obtain ⟨hinv, h⟩ := delimited_fixed.split h
    obtain ⟨hconv, h⟩ := delimited_fixed.split h
    -- a route is 32 bytes long and a channel 124: the length tells which of them there are
    have hlen := congrArg length h
    simp only [length_append, length_cons, FixedBytes.length_eq, length_be_bytes,
      length_append_optional (@FixedBytes.length_eq 32),
      length_append_optional length_append_channel] at hlen
    obtain ⟨hroute, h⟩ := delimited_append_optional FixedBytes.length_eq
      (fun _ _ => FixedBytes.ext) _ _ _ _ _ rfl (by grind) h
    obtain ⟨hexpected, h⟩ := delimited_fixed.split h
    obtain ⟨hrole, h⟩ := cons.inj h
    obtain ⟨hexpires, h⟩ := delimited_be_bytes 8 _ _ _ _ hx.2 hy.2 h
    obtain ⟨hnonce, h⟩ := delimited_fixed.split h
    obtain ⟨hissuer, h⟩ := delimited_fixed.split h
    obtain ⟨hservice, -⟩ := delimited_append_optional length_append_channel
      append_channel_injective _ _ _ _ _ rfl (by grind) (congrArg (· ++ []) h)
    rw [hver, hinv, hconv, hroute, hexpected, role_code_injective hrole, hexpires, hnonce,
      hissuer, hservice]
  | PairingOffer version =>
    obtain ⟨hkind, h⟩ := delimited_domain.split h
    cases y <;> cases hkind
    obtain ⟨hver, h⟩ := delimited_version _ _ _ _ hx.1 hy.1 h
    obtain ⟨hpairing, h⟩ := delimited_fixed.split h
    obtain ⟨hdevice, h⟩ := delimited_fixed.split h
    obtain ⟨hroot, h⟩ := delimited_fixed.split h
    obtain ⟨hrole, h⟩ := cons.inj h
    obtain ⟨hexpires, h⟩ := delimited_be_bytes 8 _ _ _ _ hx.2 hy.2 h
    rw [hver, hpairing, hdevice, hroot, role_code_injective hrole, hexpires, FixedBytes.ext h]

theorem canonical_pairing_control_inj {x y : PairingControlTranscript} {bytes : Bytes}
    (hx : ProtocolVersion.Sized x.version) (hy : ProtocolVersion.Sized y.version)
    (h : canonical_pairing_control x = .ok bytes) (h' : canonical_pairing_control y = .ok bytes) :
    x = y := by
  obtain ⟨stage, hstage, h⟩ := bind_ok.1 h
  obtain ⟨stage', hstage', h'⟩ := bind_ok.1 h'
  have h := append_cancel_left ((Except.ok.inj h).trans (Except.ok.inj h').symm)
  obtain ⟨hver, h⟩ := delimited_version _ _ _ _ hx hy h
  obtain ⟨hpairing, h⟩ := delimited_fixed.split h
  obtain ⟨hmessage, h⟩ := delimited_fixed.split h
  obtain ⟨hcode, h⟩ := cons.inj h
  obtain ⟨hreply, h⟩ := delimited_fixed.split h
  obtain ⟨hdevice, h⟩ := delimited_fixed.split h
  have hconv := FixedBytes.ext h
  have hsame : x.stage = y.stage := by
    rw [← hcode] at hstage'
    cases hx : x.stage <;> cases hy : y.stage <;> grind [control_stage_code]
  cases x
  cases y
  simp_all

namespace RootStatement

/-- Equal bytes are of one kind of statement, with the same optional parts and fields. -/
theorem canonical_inj {x y : RootStatement} {bytes : Bytes} (hx : x.Sized) (hy : y.Sized)
    (h : x.canonical = .ok bytes) (h' : y.canonical = .ok bytes) : x = y := by
  -- no transcript has the domain of a control
  have hdomain : ∀ {transcript : Transcript} {control : PairingControlTranscript},
      RootStatement.canonical (.identity transcript) = .ok bytes →
      canonical_pairing_control control ≠ .ok bytes := by
    intro transcript control hidentity hcontrol
    obtain ⟨_, -, hcontrol⟩ := bind_ok.1 hcontrol
    have hbytes := (Except.ok.inj hidentity).trans (Except.ok.inj hcontrol).symm
    have hkind := (delimited_domain.split hbytes).1
    cases transcript <;> cases hkind
  cases x <;> cases y
  · rw [Transcript.canonical_inj hx hy ((Except.ok.inj h).trans (Except.ok.inj h').symm)]
  · exact absurd h' (hdomain h)
  · exact absurd h (hdomain h')
  · rw [canonical_pairing_control_inj hx hy h h']

end RootStatement

/-! ## Signatures

Roots sign statements; what verifies under a root is a statement that it signed. -/

/-- Signatures over bytes, and the statements that the holder of each key signed: no other
bytes verify. -/
structure RootSignatures where
  verify : Ed25519PublicKey → Ed25519Signature → Bytes → Bool
  signed : Ed25519PublicKey → RootStatement → Prop
  signed_sized : ∀ key statement, signed key statement → statement.Sized
  unforgeable : ∀ key signature bytes, verify key signature bytes = true →
    ∃ statement, signed key statement ∧ statement.canonical = .ok bytes

/-- The provider that verifies canonical encodings. -/
def RootSignatures.suite (root : RootSignatures) (suite : CipherSuite) : CipherSuite :=
  { suite with verify := fun key signature transcript =>
      root.verify key signature transcript.canonical }

def verify_pairing_control (root : RootSignatures) (suite : CipherSuite)
    (control : PairingControl) (expected_public_key : Ed25519PublicKey) :
    Except KonclaveCryptographicError Unit :=
  if control.transcript.version ≠ ProtocolVersion.application_v1 then
    .error .InvalidPairingControl
  else if suite.derive_device_id expected_public_key ≠ control.transcript.device_id then
    .error .InvalidPairingControl
  else do
    let canonical ← canonical_pairing_control control.transcript
    require (root.verify expected_public_key control.device_signature canonical = true)
      .InvalidPairingControl

namespace RootSignatures

variable (root : RootSignatures)

/-- Statements that encode alike are the same, and what verifies was signed. -/
structure Unambiguous : Prop where
  injective : ∀ (x y : RootStatement) (bytes : Bytes), x.Sized → y.Sized →
    x.canonical = .ok bytes → y.canonical = .ok bytes → x = y
  binding : ∀ (suite : CipherSuite) (binding : DeviceCredentialBinding)
    (verified : VerifiedDeviceCredentialBinding (root.suite suite)),
    binding.application_capabilities < 2 ^ 64 →
    verify_device_credential_binding (root.suite suite) binding = .ok verified →
    root.signed binding.device_root_public_key (.identity (canonical_credential_binding binding))
    ∧ (binding.application_capabilities ≠ 0 → root.signed binding.device_root_public_key
      (.identity (.CredentialCapabilities (canonical_credential_binding binding)
        binding.application_capabilities)))
  invitation : ∀ (suite : CipherSuite) (invitation : Invitation) (key : Ed25519PublicKey)
    (now : ℕ), invitation.expires_at_unix_seconds < 2 ^ 64 →
    verify_invitation (root.suite suite) invitation key now = .ok () →
    root.signed key (.identity (canonical_invitation invitation))
  offer : ∀ (suite : PairingSuite) (offer : PairingOffer) (now : ℕ),
    offer.expires_at_unix_seconds < 2 ^ 64 →
    verify_pairing_offer { suite with identity := root.suite suite.identity } offer now = .ok () →
    root.signed offer.device_root_public_key (.identity (canonical_pairing_offer offer))
  control : ∀ (suite : CipherSuite) (control : PairingControl) (key : Ed25519PublicKey),
    verify_pairing_control root suite control key = .ok () →
    root.signed key (.control control.transcript)

variable {root}

theorem signed_of_verify {key : Ed25519PublicKey} {signature : Ed25519Signature} {bytes : Bytes}
    {statement : RootStatement} (hsized : statement.Sized)
    (hcanonical : statement.canonical = .ok bytes)
    (h : root.verify key signature bytes = true) : root.signed key statement := by
  obtain ⟨other, hsigned, hother⟩ := root.unforgeable key signature bytes h
  have hother_sized := root.signed_sized key other hsigned
  rwa [RootStatement.canonical_inj hsized hother_sized hcanonical hother]

/-- What is verified is of the version there is. -/
theorem sized_of_version {version : ProtocolVersion}
    (h : ¬ version ≠ ProtocolVersion.application_v1) : ProtocolVersion.Sized version := by
  rw [not_not.1 h]
  exact ⟨by decide, by decide⟩

end RootSignatures

open RootSignatures

/-- The statements a device root signs are unambiguous. -/
theorem root_statements_unambiguous (root : RootSignatures) : root.Unambiguous := by
  refine ⟨fun _ _ _ => RootStatement.canonical_inj, ?_, ?_, ?_, ?_⟩
  · intro suite binding verified hcapabilities h
    obtain ⟨hverifies, -⟩ := dite_ok.1 h
    obtain ⟨hver, -, hsignature, hsigned⟩ := of_decide_eq_true hverifies
    have hsized : (canonical_credential_binding binding).Sized := sized_of_version (not_not.2 hver)
    refine ⟨signed_of_verify hsized rfl hsignature, fun hne => ?_⟩
    cases hsome : binding.application_capabilities_signature with
    | none => exact absurd (binding.capabilities_signed.2 hsome) hne
    | some signature =>
      rw [capabilities_verify, hsome] at hsigned
      exact signed_of_verify ⟨hsized, hcapabilities⟩ rfl hsigned
  · intro suite invitation key now hexpires h
    obtain ⟨hver, h⟩ := ite_ok.1 h
    obtain ⟨-, h⟩ := ite_ok.1 h
    obtain ⟨-, h⟩ := ite_ok.1 h
    exact signed_of_verify ⟨sized_of_version hver, hexpires⟩ rfl (require_eq_ok.1 h)
  · intro suite offer now hexpires h
    obtain ⟨hver, h⟩ := ite_ok.1 h
    obtain ⟨-, h⟩ := ite_ok.1 h
    obtain ⟨-, h⟩ := ite_ok.1 h
    exact signed_of_verify ⟨sized_of_version hver, hexpires⟩ rfl (require_eq_ok.1 h)
  · intro suite control key h
    obtain ⟨hver, h⟩ := ite_ok.1 h
    obtain ⟨-, h⟩ := ite_ok.1 h
    obtain ⟨bytes, hcanonical, h⟩ := bind_ok.1 h
    exact signed_of_verify (sized_of_version hver) hcanonical (require_eq_ok.1 h)

namespace RootSignatures

/-- Ideal signatures: those of a key verify for the statements entered under it. -/
def ledger (entries : List (Ed25519PublicKey × RootStatement))
    (hsized : ∀ entry ∈ entries, entry.2.Sized) : RootSignatures where
  verify key _ bytes := entries.any fun entry =>
    decide (entry.1 = key) && decide (entry.2.canonical = .ok bytes)
  signed key statement := (key, statement) ∈ entries
  signed_sized _ _ hentry := hsized _ hentry
  unforgeable key _ bytes h := by
    obtain ⟨entry, hentry, h⟩ := any_eq_true.1 h
    rw [Bool.and_eq_true, decide_eq_true_eq, decide_eq_true_eq] at h
    exact ⟨entry.2, h.1 ▸ hentry, h.2⟩

/-- An invitation to a request service, with and without the route of its conversation. -/
def service_invitation (routing_id : Option RoutingId) : Invitation where
  version := .application_v1
  invitation_id := .repeated 16 1
  conversation_id := .repeated 32 2
  routing_id := routing_id
  expected_device_id := .repeated 32 3
  role := .Member
  expires_at_unix_seconds := 300
  nonce := .repeated 32 4
  issuer_device_id := .repeated 32 5
  issuer_signature := .repeated 64 6
  request_service := some ⟨.repeated 32 2, .repeated 32 5, .repeated 32 3, by decide⟩
  expires_pos := by decide
  channel := by
    rintro _ ⟨⟩
    exact ⟨rfl, rfl, rfl, rfl, rfl⟩

/-- The issuer has signed the routed invitation and nothing else. -/
def service_root : RootSignatures :=
  ledger [(.repeated 32 5, .identity (canonical_invitation (service_invitation
    (some (.repeated 32 7)))))] (by
      intro entry hentry
      cases mem_singleton.1 hentry
      exact ⟨⟨by decide, by decide⟩, by decide⟩)

/-- A provider over these signatures to which a root key is the device. -/
def service_suite : CipherSuite :=
  service_root.suite ⟨fun key => key, fun _ _ _ => false, fun _ _ => .repeated 32 0⟩

end RootSignatures

theorem root_statements_unambiguous_service :
    verify_invitation service_suite (service_invitation (some (.repeated 32 7)))
      (.repeated 32 5) 9 = .ok ()
    ∧ service_root.signed (.repeated 32 5) (.identity (canonical_invitation (service_invitation
      (some (.repeated 32 7)))))
    ∧ verify_invitation service_suite (service_invitation none) (.repeated 32 5) 9
      = .error .InvalidInvitationSignature := by
  have hverified : verify_invitation service_suite (service_invitation (some (.repeated 32 7)))
      (.repeated 32 5) 9 = .ok () := by decide +kernel
  exact ⟨hverified, (root_statements_unambiguous service_root).invitation _ _ _ _ (by decide)
    hverified, by decide +kernel⟩

end Konclave.Cryptographic
