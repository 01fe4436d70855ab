/-
`Konclave.DomainCore`: identifiers, protocol versions and validation errors.

A validated value of the Rust crate is a private struct behind a fallible constructor.
Here it is a structure whose fields include what the constructor checked, so that a
value that exists is a valid one; the constructor keeps its name and its error.
-/
import Konclave.Framing
import Konclave.Protobuf.Varint

set_option autoImplicit false

namespace Konclave.Domain

open Protobuf

/-! ## Errors -/

inductive RequestServiceError
  | IdenticalEndpoints
  | ConversationMismatch
  | InvalidOperator
  | InvalidRequester
  | ForeignMember
  | SenderNotMember
  | OperatorCannotRequest
  | InvalidTarget
  | UnsolicitedText
  | RequesterCannotReply
  | MissingRequest
  | InvalidReply
  | UnsupportedOperation
  | ReplyAlreadyCompleted
  deriving DecidableEq, Repr

/-- `KonclaveDomainError`, the variants the modelled contracts return. -/
inductive KonclaveDomainError
  | InvalidLength (field : String) (expected actual : ℕ)
  | InvalidProtocolMajor
  | ZeroValue (field : String)
  | OutOfRange (field : String) (minimum maximum actual : ℕ)
  | DuplicateIdentifier (field : String)
  | MemberJoinedAfterStateEpoch (joined_epoch state_epoch : ℕ)
  | MissingAdministrator
  | MembershipVersionMismatch
  | MembershipConversationMismatch
  | StaleMembershipEpoch
  | InvalidMembershipEpochAdvance
  | UnauthorizedMembershipChange
  | MemberAlreadyExists
  | MemberNotFound
  | InvitationAlreadyConsumed
  | MismatchedInvitedDevice
  | MismatchedInvitedConversation
  | InvalidExpectedParentEpoch (delivery_class : String)
  | InvalidReplayOrder
  | InvalidReceipt
  | RequestServiceInvitationMismatch
  | RequestService (error : RequestServiceError)
  | InvalidPairingEnvelope (field : String)
  deriving DecidableEq, Repr

/-- Equality of values that are told apart by their data. -/
def decEq_on {α β : Type} [DecidableEq β] (data : α → β) (h : ∀ x y, data x = data y → x = y) :
    DecidableEq α :=
  fun x y => decidable_of_iff (data x = data y) ⟨h x y, congrArg data⟩

/-! ## Integers -/

/-- `i64::MAX`, the largest integer an SQLite column holds. -/
def I64_MAX : ℕ := 2 ^ 63 - 1

/-- `u64::checked_add`. -/
def checked_add (x y : ℕ) : Option ℕ := if x + y < 2 ^ 64 then some (x + y) else none

theorem checked_add_iff {x y z : ℕ} : checked_add x y = some z ↔ x + y < 2 ^ 64 ∧ z = x + y := by
  rw [checked_add]
  split
  · rename_i h
    rw [Option.some.injEq, eq_comm, and_iff_right h]
  · rename_i h
    constructor
    · rintro ⟨⟩
    · rintro ⟨hlt, _⟩
      exact absurd hlt h

/-! ## Fixed-size identifiers -/

/-- A value of the `define_fixed_bytes!` family: exactly `length` bytes. -/
structure FixedBytes (length : ℕ) where
  bytes : Bytes
  length_eq : bytes.length = length
  deriving DecidableEq

instance (length : ℕ) : Repr (FixedBytes length) :=
  ⟨fun id precedence => reprPrec id.bytes precedence⟩

theorem FixedBytes.ext {length : ℕ} {x y : FixedBytes length} (h : x.bytes = y.bytes) : x = y := by
  cases x
  cases y
  cases h
  rfl

theorem delimited_fixed {length : ℕ} :
    Framing.Delimited (fun _ => True) fun id : FixedBytes length => id.bytes :=
  Framing.delimited_of_length (fun x y _ _ => x.length_eq.trans y.length_eq.symm)
    fun _ _ _ _ => FixedBytes.ext

/-- `from_bytes([value; LENGTH])`, the identifier of one repeated byte. -/
def FixedBytes.repeated (length : ℕ) (value : UInt8) : FixedBytes length :=
  ⟨List.replicate length value, List.length_replicate⟩

/-- `from_slice` of the type named `field`. -/
def FixedBytes.from_slice (field : String) (length : ℕ) (value : Bytes) :
    Except KonclaveDomainError (FixedBytes length) :=
  if h : value.length = length then .ok ⟨value, h⟩
  else .error (.InvalidLength field length value.length)

abbrev DeviceId := FixedBytes 32
abbrev ConversationId := FixedBytes 32
abbrev RoutingId := FixedBytes 32
abbrev RelayPrincipalId := FixedBytes 32
abbrev MessageId := FixedBytes 16
abbrev EnvelopeId := FixedBytes 16
abbrev NotificationId := FixedBytes 16
abbrev AdapterConsumerId := FixedBytes 16
abbrev AdapterLeaseId := FixedBytes 16
abbrev CollaborationPolicyDigest := FixedBytes 32
abbrev CollaborationPolicyProposalId := FixedBytes 16
abbrev InvitationId := FixedBytes 16
abbrev InvitationNonce := FixedBytes 32
abbrev MembershipOperationId := FixedBytes 16
abbrev PairingId := FixedBytes 16
abbrev RepeatPairingOperationId := FixedBytes 16
abbrev CredentialBindingHash := FixedBytes 32
abbrev Ed25519PublicKey := FixedBytes 32
abbrev Ed25519Signature := FixedBytes 64

instance : LawfulBEq InvitationId := inferInstance

instance : LawfulBEq (ConversationId × MessageId) := inferInstance

/-! ## Protocol versions -/

/-- `ProtocolVersion`: the major component is positive. -/
structure ProtocolVersion where
  major : ℕ
  minor : ℕ
  major_pos : 0 < major
  deriving Repr

instance : DecidableEq ProtocolVersion :=
  decEq_on (fun x => (x.major, x.minor)) (by rintro ⟨⟩ ⟨⟩ ⟨⟩; rfl)

def ProtocolVersion.new (major minor : ℕ) : Except KonclaveDomainError ProtocolVersion :=
  if h : major = 0 then .error .InvalidProtocolMajor
  else .ok ⟨major, minor, Nat.pos_of_ne_zero h⟩

/-- `application_v1`. -/
def ProtocolVersion.application_v1 : ProtocolVersion := ⟨1, 0, Nat.one_pos⟩

end Konclave.Domain
