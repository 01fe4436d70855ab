/-
`Konclave.DomainCore`: the relay's envelopes, requests and pages.
-/
import Konclave.Checked
import Konclave.Domain.Basic

set_option autoImplicit false

namespace Konclave.Domain

open Protobuf

/-! ## Limits -/

def MAX_RELAY_ENVELOPE_BYTES : ℕ := 1024 * 1024
def MAX_RELAY_PAYLOAD_BYTES : ℕ := MAX_RELAY_ENVELOPE_BYTES - 1024
def MAX_REPLAY_PAGE_SIZE : ℕ := 100
def MAX_REPLAY_PAGE_BYTES : ℕ := 16 * 1024 * 1024
def MAX_PROTOBUF_TOP_LEVEL_FIELDS : ℕ := 4096

/-! ## Envelopes -/

/-- The relay-visible delivery class. -/
inductive DeliveryClass
  | KeyPackage
  | Welcome
  | GroupProposal
  | GroupCommit
  | GroupApplication
  | Pairing
  deriving DecidableEq, Repr

def DeliveryClass.as_str : DeliveryClass → String
  | .KeyPackage => "key_package"
  | .Welcome => "welcome"
  | .GroupProposal => "group_proposal"
  | .GroupCommit => "group_commit"
  | .GroupApplication => "group_application"
  | .Pairing => "pairing"

def DeliveryClass.requires_parent_epoch : DeliveryClass → Bool
  | .GroupProposal | .GroupCommit => true
  | _ => false

/-- `RelayEnvelope`: opaque bytes and the metadata the relay reads. -/
structure RelayEnvelope where
  version : ProtocolVersion
  routing_id : RoutingId
  envelope_id : EnvelopeId
  delivery_class : DeliveryClass
  expected_parent_epoch : Option ℕ
  expires_at_unix_seconds : ℕ
  payload : Bytes
  payload_range : 1 ≤ payload.length ∧ payload.length ≤ MAX_RELAY_PAYLOAD_BYTES
  expires_pos : 0 < expires_at_unix_seconds
  epoch_presence : delivery_class.requires_parent_epoch = expected_parent_epoch.isSome
  deriving Repr

instance : DecidableEq RelayEnvelope :=
  decEq_on (fun ⟨a, b, c, d, e, f, g, _, _, _⟩ => ((a, b, c), (d, e), f, g)) (by
    rintro ⟨⟩ ⟨⟩ ⟨⟩; rfl)

theorem application_epoch :
    DeliveryClass.GroupApplication.requires_parent_epoch = (none : Option ℕ).isSome := rfl

theorem byte_fits : 1 ≤ ([0] : Bytes).length ∧ ([0] : Bytes).length ≤ MAX_RELAY_PAYLOAD_BYTES := by
  decide

def RelayEnvelope.new (version : ProtocolVersion) (routing_id : RoutingId)
    (envelope_id : EnvelopeId) (delivery_class : DeliveryClass)
    (expected_parent_epoch : Option ℕ) (expires_at_unix_seconds : ℕ) (payload : Bytes) :
    Except KonclaveDomainError RelayEnvelope :=
  if hpayload : 1 ≤ payload.length ∧ payload.length ≤ MAX_RELAY_PAYLOAD_BYTES then
    if hexpires : expires_at_unix_seconds = 0 then
      .error (.ZeroValue "expires_at_unix_seconds")
    else
      if hepoch : delivery_class.requires_parent_epoch = expected_parent_epoch.isSome then
        .ok ⟨version, routing_id, envelope_id, delivery_class, expected_parent_epoch,
          expires_at_unix_seconds, payload, hpayload, Nat.pos_of_ne_zero hexpires, hepoch⟩
      else .error (.InvalidExpectedParentEpoch delivery_class.as_str)
  else .error (.OutOfRange "relay_payload" 1 MAX_RELAY_PAYLOAD_BYTES payload.length)

theorem RelayEnvelope.new_eq_ok {version : ProtocolVersion} {routing_id : RoutingId}
    {envelope_id : EnvelopeId} {delivery_class : DeliveryClass}
    {expected_parent_epoch : Option ℕ} {expires_at_unix_seconds : ℕ} {payload : Bytes}
    {envelope : RelayEnvelope}
    (h : RelayEnvelope.new version routing_id envelope_id delivery_class expected_parent_epoch
      expires_at_unix_seconds payload = .ok envelope) :
    envelope.envelope_id = envelope_id := by
  obtain ⟨_, h⟩ := dite_ok.1 h
  split at h
  · cases h
  · obtain ⟨_, h⟩ := dite_ok.1 h
    cases h
    rfl

/-- `StoredRelayEnvelope`: an envelope at a positive cursor. -/
structure StoredRelayEnvelope where
  envelope : RelayEnvelope
  cursor : ℕ
  cursor_pos : 0 < cursor
  deriving Repr

instance : DecidableEq StoredRelayEnvelope :=
  decEq_on (fun x => (x.envelope, x.cursor)) (by rintro ⟨⟩ ⟨⟩ ⟨⟩; rfl)

def StoredRelayEnvelope.new (envelope : RelayEnvelope) (cursor : ℕ) :
    Except KonclaveDomainError StoredRelayEnvelope :=
  if h : cursor = 0 then .error (.ZeroValue "cursor")
  else .ok ⟨envelope, cursor, Nat.pos_of_ne_zero h⟩

/-! ## Requests and pages -/

/-- `ReplayRequest`: a page size from one to `MAX_REPLAY_PAGE_SIZE`. -/
structure ReplayRequest where
  routing_id : RoutingId
  after_cursor : ℕ
  limit : ℕ
  limit_range : 1 ≤ limit ∧ limit ≤ MAX_REPLAY_PAGE_SIZE
  deriving DecidableEq, Repr

/-- Each envelope's cursor is smaller than the next one's (`windows(2)`), and the
last one's is at most `next_cursor`. -/
def replay_order (envelopes : List StoredRelayEnvelope) (next_cursor : ℕ) : Prop :=
  (envelopes.map (·.cursor)).IsChain (· < ·)
    ∧ ∀ envelope ∈ envelopes.getLast?, envelope.cursor ≤ next_cursor

instance (envelopes : List StoredRelayEnvelope) (next_cursor : ℕ) :
    Decidable (replay_order envelopes next_cursor) :=
  inferInstanceAs (Decidable (_ ∧ _))

/-- `ReplayPage`: a bounded, strictly increasing page. -/
structure ReplayPage where
  envelopes : List StoredRelayEnvelope
  next_cursor : ℕ
  has_more : Bool
  count_le : envelopes.length ≤ MAX_REPLAY_PAGE_SIZE
  order : replay_order envelopes next_cursor
  deriving DecidableEq, Repr

def ReplayPage.new (envelopes : List StoredRelayEnvelope) (next_cursor : ℕ) (has_more : Bool) :
    Except KonclaveDomainError ReplayPage :=
  if hcount : envelopes.length ≤ MAX_REPLAY_PAGE_SIZE then
    if horder : replay_order envelopes next_cursor then
      .ok ⟨envelopes, next_cursor, has_more, hcount, horder⟩
    else .error .InvalidReplayOrder
  else .error (.OutOfRange "replay_envelopes" 0 MAX_REPLAY_PAGE_SIZE envelopes.length)

/-- `AcknowledgeRequest`: a positive cursor of a route. -/
structure AcknowledgeRequest where
  routing_id : RoutingId
  cursor : ℕ
  cursor_pos : 0 < cursor
  deriving Repr

instance : DecidableEq AcknowledgeRequest :=
  decEq_on (fun x => (x.routing_id, x.cursor)) (by rintro ⟨⟩ ⟨⟩ ⟨⟩; rfl)

def AcknowledgeRequest.new (routing_id : RoutingId) (cursor : ℕ) :
    Except KonclaveDomainError AcknowledgeRequest :=
  if h : cursor = 0 then .error (.ZeroValue "cursor")
  else .ok ⟨routing_id, cursor, Nat.pos_of_ne_zero h⟩

end Konclave.Domain
