/-
`Konclave.DomainCore`: the relay contracts of short-code pairing.

Two devices pair over a short code through an attempt the relay keeps: the creator
publishes it, one other principal claims it, and both write opaque stages of the exchange
in a fixed order. The last stage, the capability, is taken once.
-/
import Konclave.Domain.Basic
import Mathlib.Data.List.Sort

set_option autoImplicit false

namespace Konclave.Domain

open Protobuf

abbrev ShortCodePairingAttemptId := FixedBytes 16
abbrev ShortCodeCapabilityTakeId := FixedBytes 16
abbrev ShortCodePairingLocator := FixedBytes 32

def MAX_SHORT_CODE_RELAY_PAYLOAD_BYTES : ℕ := 9 * 1024
def MAX_SHORT_CODE_RELAY_STAGES : ℕ := 7

/-! ## Stages -/

/-- The stages of an exchange, in their order. -/
inductive ShortCodeRelayStage
  | CredentialRequest
  | CredentialResponse
  | ClaimantFinalization
  | CreatorIdentity
  | CreatorConfirmation
  | ClaimantConfirmation
  | Capability
  deriving DecidableEq, Repr

namespace ShortCodeRelayStage

/-- The discriminant. -/
def number : ShortCodeRelayStage → ℕ
  | .CredentialRequest => 1
  | .CredentialResponse => 2
  | .ClaimantFinalization => 3
  | .CreatorIdentity => 4
  | .CreatorConfirmation => 5
  | .ClaimantConfirmation => 6
  | .Capability => 7

/-- Every stage, in order. -/
def all : List ShortCodeRelayStage :=
  [.CredentialRequest, .CredentialResponse, .ClaimantFinalization, .CreatorIdentity,
    .CreatorConfirmation, .ClaimantConfirmation, .Capability]

theorem mem_all (stage : ShortCodeRelayStage) : stage ∈ all := by
  cases stage <;> decide

theorem all_sorted : all.Pairwise (fun x y => x.number < y.number) := by
  decide

end ShortCodeRelayStage

/-- Opaque bytes of one stage, within `validate_payload`'s bounds. -/
structure ShortCodePayload where
  bytes : Bytes
  range : 1 ≤ bytes.length ∧ bytes.length ≤ MAX_SHORT_CODE_RELAY_PAYLOAD_BYTES
  deriving DecidableEq

/-- `ShortCodeRelayMessage`: one stage with its bytes. -/
structure ShortCodeRelayMessage where
  stage : ShortCodeRelayStage
  payload : ShortCodePayload
  deriving DecidableEq

/-! ## Requests -/

/-- `ShortCodeAttemptPublishRequest`: the deadline is positive. -/
structure ShortCodeAttemptPublishRequest where
  version : ProtocolVersion
  locator : ShortCodePairingLocator
  attempt_id : ShortCodePairingAttemptId
  deadline_unix_seconds : ℕ
  deadline_pos : 0 < deadline_unix_seconds

instance : DecidableEq ShortCodeAttemptPublishRequest :=
  decEq_on (fun ⟨a, b, c, d, _⟩ => (a, b, c, d)) (by rintro ⟨⟩ ⟨⟩ ⟨⟩; rfl)

structure ShortCodeAttemptClaimRequest where
  version : ProtocolVersion
  locator : ShortCodePairingLocator
  payload : ShortCodePayload
  deriving DecidableEq

structure ShortCodeAttemptMessageRequest where
  version : ProtocolVersion
  attempt_id : ShortCodePairingAttemptId
  stage : ShortCodeRelayStage
  payload : ShortCodePayload
  deriving DecidableEq

structure ShortCodeAttemptReadRequest where
  version : ProtocolVersion
  attempt_id : ShortCodePairingAttemptId
  deriving DecidableEq

structure ShortCodeCapabilityTakeRequest where
  version : ProtocolVersion
  attempt_id : ShortCodePairingAttemptId
  take_id : ShortCodeCapabilityTakeId
  deriving DecidableEq

/-! ## Snapshots -/

/-- `ShortCodeAttemptSnapshot`: at most seven stages, each once, in order. -/
structure ShortCodeAttemptSnapshot where
  version : ProtocolVersion
  attempt_id : ShortCodePairingAttemptId
  deadline_unix_seconds : ℕ
  cancelled : Bool
  capability_consumed : Bool
  messages : List ShortCodeRelayMessage
  deriving DecidableEq

namespace ShortCodeAttemptSnapshot

def new (version : ProtocolVersion)
    (attempt_id : ShortCodePairingAttemptId) (deadline_unix_seconds : ℕ)
    (cancelled capability_consumed : Bool) (messages : List ShortCodeRelayMessage) :
    Except KonclaveDomainError ShortCodeAttemptSnapshot :=
  let sorted := messages.insertionSort (fun x y => x.stage.number ≤ y.stage.number)
  if deadline_unix_seconds = 0 then .error (.ZeroValue "short_code_pairing_deadline")
  else if MAX_SHORT_CODE_RELAY_STAGES < messages.length then
    .error (.OutOfRange "short_code_pairing_stages" 0 MAX_SHORT_CODE_RELAY_STAGES messages.length)
  else if ¬ (sorted.map (·.stage)).IsChain (· ≠ ·) then
    .error (.DuplicateIdentifier "short_code_pairing_stage")
  else .ok ⟨version, attempt_id, deadline_unix_seconds, cancelled, capability_consumed, sorted⟩

/-- Stages that are already in strict order make a snapshot as they are. -/
theorem new_of_sorted {version : ProtocolVersion}
    {aid : ShortCodePairingAttemptId} {deadline : ℕ} {cancelled consumed : Bool}
    {messages : List ShortCodeRelayMessage} (hdue : 0 < deadline)
    (hcount : messages.length ≤ MAX_SHORT_CODE_RELAY_STAGES)
    (hsorted : messages.Pairwise (fun x y => x.stage.number < y.stage.number)) :
    new version aid deadline cancelled consumed messages
    = .ok ⟨version, aid, deadline, cancelled, consumed, messages⟩ := by
  have hsort : messages.insertionSort (fun x y => x.stage.number ≤ y.stage.number) = messages :=
    List.Pairwise.insertionSort_eq (hsorted.imp Nat.le_of_lt)
  have hchain : (messages.map (·.stage)).IsChain (· ≠ ·) := by
    refine (List.pairwise_map.2 (hsorted.imp fun hlt heq => ?_)).isChain
    rw [heq] at hlt
    exact Nat.lt_irrefl _ hlt
  rw [new]
  simp only [hsort, hchain, not_true_eq_false, if_false, Nat.ne_of_gt hdue, Nat.not_lt.2 hcount]

end ShortCodeAttemptSnapshot

end Konclave.Domain
