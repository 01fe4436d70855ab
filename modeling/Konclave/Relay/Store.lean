/-
`Konclave.RelayCore`: the SQLite relay repository.

The three tables are the state; a statement of the source is a function on them. Integer
columns are natural numbers: the schema's `CHECK`s keep them from being negative, so
`from_sql_integer` does not fail on a stored value. A call that returns an error has
rolled its transaction back, so it returns the store it was given (`transaction`).
-/
import Konclave.Relay.Contract
import Konclave.Table
import Mathlib.Data.List.Sort

set_option autoImplicit false

namespace Konclave.Relay

open Protobuf Domain

/-! ## Errors -/

/-- `RelayError`, the variants of submission, replay, acknowledgment and short-code attempts. -/
inductive RelayError
  | ExpiredEnvelope
  | IdempotencyConflict
  | EnvelopeEncodingMismatch
  | StaleEpoch
  | SequenceExhausted
  | InvalidAcknowledgment
  | StorageFailure (operation : String)
  | InvalidStoredData
  | ExpiredShortCodeAttempt
  | InvalidShortCodeDeadline
  | ShortCodeAttemptConflict
  | ShortCodeGlobalCapacityExceeded
  | ShortCodeCreatorCapacityExceeded
  | ShortCodeAttemptUnavailable
  | ShortCodeClaimRateLimited
  | InvalidShortCodeStage
  | Protocol (error : KonclaveProtocolError)
  | Domain (error : KonclaveDomainError)
  deriving DecidableEq, Repr

/-- The `?` that lifts a protocol error. -/
def from_protocol {α : Type} : Except KonclaveProtocolError α → Except RelayError α
  | .ok value => .ok value
  | .error e => .error (.Protocol e)

/-- The `map_err` that reports a stored value as invalid. -/
def or_invalid_stored {ε α : Type} : Except ε α → Except RelayError α
  | .ok value => .ok value
  | .error _ => .error .InvalidStoredData

/-! ## Tables -/

def to_sql_integer (value : ℕ) : Except RelayError ℕ :=
  if value ≤ I64_MAX then .ok value else .error .SequenceExhausted

/-- `to_sql_integer` under `Option::transpose`. -/
def to_sql_option : Option ℕ → Except RelayError (Option ℕ)
  | none => .ok none
  | some value => (to_sql_integer value).map some

def from_sql_u32 (value : ℕ) : Except RelayError ℕ :=
  if value < 2 ^ 32 then .ok value else .error .InvalidStoredData

structure RouteRow where
  routing_id : RoutingId
  next_cursor : ℕ
  current_epoch : ℕ
  deriving DecidableEq, Repr

structure EnvelopeRow where
  routing_id : RoutingId
  cursor : ℕ
  envelope_id : EnvelopeId
  version_major : ℕ
  version_minor : ℕ
  delivery_class : ℕ
  expected_parent_epoch : Option ℕ
  expires_at_unix_seconds : ℕ
  encoded_envelope : Bytes
  deriving DecidableEq, Repr

structure AcknowledgmentRow where
  routing_id : RoutingId
  principal_id : RelayPrincipalId
  cursor : ℕ
  deriving DecidableEq, Repr

/-- The relay database. -/
structure RelayStore where
  relay_route : Table RoutingId RouteRow RouteRow.routing_id
  /-- `UNIQUE (envelope_id)`; the primary key is checked by `insert_envelope`. -/
  relay_envelope : Table EnvelopeId EnvelopeRow EnvelopeRow.envelope_id
  relay_acknowledgment : Table (RoutingId × RelayPrincipalId) AcknowledgmentRow
    (fun row => (row.routing_id, row.principal_id))
  deriving DecidableEq

/-- The database `initialize_schema` creates. -/
def RelayStore.empty : RelayStore := ⟨.empty, .empty, .empty⟩

def delivery_class_to_sql : DeliveryClass → ℕ
  | .KeyPackage => 1
  | .Welcome => 2
  | .GroupProposal => 3
  | .GroupCommit => 4
  | .GroupApplication => 5
  | .Pairing => 6

def delivery_class_from_sql : ℕ → Except RelayError DeliveryClass
  | 1 => .ok .KeyPackage
  | 2 => .ok .Welcome
  | 3 => .ok .GroupProposal
  | 4 => .ok .GroupCommit
  | 5 => .ok .GroupApplication
  | 6 => .ok .Pairing
  | _ => .error .InvalidStoredData

variable (store : RelayStore) (routing_id : RoutingId) (envelope : RelayEnvelope)
  (encoded_envelope : Bytes) (now_unix_seconds : ℕ)

/-! ## Submission

A submission is answered from the row of its identifier, or admitted at the next cursor. -/

structure SubmitResult where
  cursor : ℕ
  duplicate : Bool
  deriving DecidableEq, Repr

structure ExistingSubmission where
  cursor : ℕ
  identical : Bool
  deriving DecidableEq, Repr

/-- `INSERT INTO relay_route … ON CONFLICT DO NOTHING`. -/
def RelayStore.initialize_route : RelayStore :=
  match store.relay_route.insert? ⟨routing_id, 1, 0⟩ with
  | some relay_route => { store with relay_route := relay_route }
  | none => store

variable (request : ReplayRequest) (row : EnvelopeRow)

/-- Whether the metadata columns of a row are those of the decoded envelope. -/
def row_metadata_matches (envelope : RelayEnvelope) : Except RelayError Bool := do
  if row.routing_id = envelope.routing_id ∧ row.envelope_id = envelope.envelope_id then
    if (← from_sql_u32 row.version_major) = envelope.version.major then
      if (← from_sql_u32 row.version_minor) = envelope.version.minor then
        if (← delivery_class_from_sql row.delivery_class) = envelope.delivery_class then
          return row.expected_parent_epoch = envelope.expected_parent_epoch
            ∧ row.expires_at_unix_seconds = envelope.expires_at_unix_seconds
        else return false
      else return false
    else return false
  else return false

/-- The envelope a row stores, if its length, bytes and metadata are sound. -/
def envelope_from_row : Except RelayError RelayEnvelope := do
  if 1 ≤ row.encoded_envelope.length ∧ row.encoded_envelope.length ≤ MAX_RELAY_ENVELOPE_BYTES then
    let envelope ← or_invalid_stored (decode_relay_envelope row.encoded_envelope)
    if ← row_metadata_matches row envelope then return envelope
    else .error .InvalidStoredData
  else .error .InvalidStoredData

def find_existing : Except RelayError (Option ExistingSubmission) :=
  match store.relay_envelope.get? envelope.envelope_id with
  | none => .ok none
  | some row => do
    let stored_envelope ← envelope_from_row row
    return some ⟨row.cursor,
      stored_envelope = envelope ∧ row.encoded_envelope = encoded_envelope⟩

/-- The `SET` of a cursor allocation: the next cursor, and for a Commit the epoch. -/
def RouteRow.advance (advance_epoch : Bool) (row : RouteRow) : RouteRow :=
  { row with
    next_cursor := row.next_cursor + 1
    current_epoch := row.current_epoch + if advance_epoch then 1 else 0 }

/-- `UPDATE relay_route SET … WHERE routing_id = ? AND … RETURNING next_cursor - 1`. -/
def RelayStore.update_route (condition : RouteRow → Bool) (advance_epoch : Bool) :
    Option (ℕ × RelayStore) :=
  match store.relay_route.get? routing_id with
  | none => none
  | some row =>
    if condition row then
      some ((row.advance advance_epoch).next_cursor - 1,
        { store with
          relay_route := store.relay_route.update routing_id (RouteRow.advance advance_epoch)
            (fun _ => rfl) })
    else none

def classify_allocation_failure : RelayError :=
  match store.relay_route.get? envelope.routing_id with
  | none => .StorageFailure "missing relay route"
  | some row =>
    if (envelope.delivery_class = .GroupCommit ∨ envelope.delivery_class = .GroupProposal)
        ∧ envelope.expected_parent_epoch ≠ some row.current_epoch then .StaleEpoch
    else if I64_MAX ≤ row.next_cursor
        ∨ (envelope.delivery_class = .GroupCommit ∧ I64_MAX ≤ row.current_epoch) then
      .SequenceExhausted
    else .StorageFailure "relay sequence allocation"

/-- The `UPDATE` of the envelope's delivery class. -/
def update_route_for (expected_epoch : Option ℕ) : Except RelayError (Option (ℕ × RelayStore)) :=
  match envelope.delivery_class, expected_epoch with
  | .GroupCommit, none | .GroupProposal, none => .error .StaleEpoch
  | .GroupCommit, some epoch =>
    .ok (store.update_route envelope.routing_id (fun row =>
      row.current_epoch = epoch ∧ row.current_epoch < I64_MAX ∧ row.next_cursor < I64_MAX) true)
  | .GroupProposal, some epoch =>
    .ok (store.update_route envelope.routing_id (fun row =>
      row.current_epoch = epoch ∧ row.next_cursor < I64_MAX) false)
  | _, _ =>
    .ok (store.update_route envelope.routing_id (fun row => row.next_cursor < I64_MAX) false)

def allocate_cursor : Except RelayError (ℕ × RelayStore) := do
  let expected_epoch ← to_sql_option envelope.expected_parent_epoch
  match ← update_route_for store envelope expected_epoch with
  | some (cursor, store) => .ok (cursor, store)
  | none => .error (classify_allocation_failure store envelope)

/-- The `CHECK` constraints of `relay_envelope`. -/
def EnvelopeRow.check : Bool :=
  1 ≤ row.cursor
    ∧ (1 ≤ row.version_major ∧ row.version_major ≤ 4294967295)
    ∧ row.version_minor ≤ 4294967295
    ∧ (1 ≤ row.delivery_class ∧ row.delivery_class ≤ 6)
    ∧ 1 ≤ row.expires_at_unix_seconds
    ∧ (1 ≤ row.encoded_envelope.length ∧ row.encoded_envelope.length ≤ 1048576)
    ∧ ((row.delivery_class = 3 ∨ row.delivery_class = 4) ↔ row.expected_parent_epoch.isSome)

/-- `INSERT INTO relay_envelope`, with the checks, the primary key, the foreign key and
the unique identifier. -/
def RelayStore.insert_row : Option RelayStore :=
  if row.check
      ∧ (∀ other ∈ store.relay_envelope.rows,
          ¬ (other.routing_id = row.routing_id ∧ other.cursor = row.cursor))
      ∧ (store.relay_route.get? row.routing_id).isSome then
    (store.relay_envelope.insert? row).map (fun relay_envelope =>
      { store with relay_envelope := relay_envelope })
  else none

def insert_envelope (cursor : ℕ) : Except RelayError RelayStore := do
  let cursor ← to_sql_integer cursor
  let expected_parent_epoch ← to_sql_option envelope.expected_parent_epoch
  let expires_at_unix_seconds ← to_sql_integer envelope.expires_at_unix_seconds
  match store.insert_row ⟨envelope.routing_id, cursor, envelope.envelope_id,
      envelope.version.major, envelope.version.minor,
      delivery_class_to_sql envelope.delivery_class, expected_parent_epoch,
      expires_at_unix_seconds, encoded_envelope⟩ with
  | some store => .ok store
  | none => .error (.StorageFailure "envelope insert")

/-- The body of `submit_encoded`, up to its commit. -/
def submit_transaction : Except RelayError (SubmitResult × RelayStore) := do
  let decoded ← from_protocol (decode_relay_envelope encoded_envelope)
  if decoded ≠ envelope then .error .EnvelopeEncodingMismatch
  else
    let store := store.initialize_route envelope.routing_id
    match ← find_existing store envelope encoded_envelope with
    | some existing =>
      if existing.identical then .ok (⟨existing.cursor, true⟩, store)
      else .error .IdempotencyConflict
    | none =>
      if envelope.expires_at_unix_seconds ≤ now_unix_seconds then .error .ExpiredEnvelope
      else
        let (cursor, store) ← allocate_cursor store envelope
        let store ← insert_envelope store envelope encoded_envelope cursor
        .ok (⟨cursor, false⟩, store)

def submit_encoded : Except RelayError SubmitResult × RelayStore :=
  transaction store (submit_transaction store envelope encoded_envelope now_unix_seconds)

/-- `submit`: the canonical bytes of the envelope are submitted. -/
def submit : Except RelayError SubmitResult × RelayStore :=
  match from_protocol (encode_relay_envelope envelope) with
  | .error e => (.error e, store)
  | .ok encoded_envelope => submit_encoded store envelope encoded_envelope now_unix_seconds

/-! ## Replay

Rows are selected by their lengths, then read again and decoded. -/

def REPLAY_PAGE_FIXED_WIRE_BUDGET : ℕ := 64
def STORED_ENVELOPE_WIRE_OVERHEAD_BUDGET : ℕ := 32

/-- `SELECT … WHERE routing_id = ? AND cursor > ? ORDER BY cursor`. -/
def RelayStore.rows_after (after_cursor : ℕ) : List EnvelopeRow :=
  (store.relay_envelope.rows.filter (fun row =>
    row.routing_id = routing_id ∧ after_cursor < row.cursor)).insertionSort
      (fun x y => x.cursor ≤ y.cursor)

structure ReplaySelection where
  last_cursor : Option ℕ
  count : ℕ
  has_more : Bool
  deriving DecidableEq, Repr

/-- The loop of `select_replay_rows`, over the cursor and length of each row. -/
def select_replay_loop (limit : ℕ) :
    List (ℕ × ℕ) → ℕ → Option ℕ → ℕ → Except RelayError ReplaySelection
  | [], _, last_cursor, count => .ok ⟨last_cursor, count, false⟩
  | (cursor, envelope_length) :: rows, used_bytes, last_cursor, count =>
    if 1 ≤ envelope_length ∧ envelope_length ≤ MAX_RELAY_ENVELOPE_BYTES then
      let next_used_bytes := used_bytes
        + (envelope_length + STORED_ENVELOPE_WIRE_OVERHEAD_BUDGET)
      if count = limit ∨ MAX_REPLAY_PAGE_BYTES < next_used_bytes then
        .ok ⟨last_cursor, count, true⟩
      else select_replay_loop limit rows next_used_bytes (some cursor) (count + 1)
    else .error .InvalidStoredData

def select_replay_rows (rows : List (ℕ × ℕ)) (limit : ℕ) : Except RelayError ReplaySelection :=
  match select_replay_loop limit rows REPLAY_PAGE_FIXED_WIRE_BUDGET none 0 with
  | .error e => .error e
  | .ok selection =>
    if selection.last_cursor = none ∧ rows ≠ [] then .error .InvalidStoredData
    else .ok selection

structure ReplayEntry where
  encoded_envelope : Bytes
  cursor : ℕ
  deriving DecidableEq, Repr

structure ReplayEntries where
  entries : List ReplayEntry
  next_cursor : ℕ
  has_more : Bool
  deriving DecidableEq, Repr

def replay_entry_from_row : Except RelayError ReplayEntry := do
  let _ ← envelope_from_row row
  return ⟨row.encoded_envelope, row.cursor⟩

/-- One read transaction: sizes first, then the selected rows. -/
def load_replay_entries : Except RelayError ReplayEntries := do
  let after_cursor ← to_sql_integer request.after_cursor
  let size_rows := (store.rows_after request.routing_id after_cursor).take (request.limit + 1)
  let selection ← select_replay_rows
    (size_rows.map (fun row => (row.cursor, row.encoded_envelope.length))) request.limit
  match selection.last_cursor with
  | none => return ⟨[], request.after_cursor, false⟩
  | some last_cursor =>
    let last_cursor ← to_sql_integer last_cursor
    let rows := ((store.rows_after request.routing_id after_cursor).filter
      (fun row => row.cursor ≤ last_cursor)).take selection.count
    let entries ← rows.mapM replay_entry_from_row
    return ⟨entries, (entries.getLast?.map (·.cursor)).getD request.after_cursor,
      selection.has_more⟩

def stored_from_entry (entry : ReplayEntry) : Except RelayError StoredRelayEnvelope := do
  let envelope ← or_invalid_stored (decode_relay_envelope entry.encoded_envelope)
  match StoredRelayEnvelope.new envelope entry.cursor with
  | .ok stored => .ok stored
  | .error e => .error (.Domain e)

def replay : Except RelayError ReplayPage := do
  let page ← load_replay_entries store request
  let envelopes ← page.entries.mapM stored_from_entry
  match ReplayPage.new envelopes page.next_cursor page.has_more with
  | .ok page => .ok page
  | .error e => .error (.Domain e)

structure EncodedReplayPage where
  bytes : Bytes
  next_cursor : ℕ
  has_more : Bool
  envelope_count : ℕ
  deriving DecidableEq, Repr

def EncodedReplayPage.new (bytes : Bytes) (after_cursor next_cursor : ℕ) (has_more : Bool)
    (envelope_count : ℕ) : Except RelayError EncodedReplayPage := do
  if MAX_REPLAY_PAGE_BYTES < bytes.length ∨ MAX_REPLAY_PAGE_SIZE < envelope_count then
    .error .InvalidStoredData
  else
    let decoded ← from_protocol (decode_replay_page bytes)
    if decoded.next_cursor ≠ next_cursor ∨ decoded.has_more ≠ has_more
        ∨ decoded.envelopes.length ≠ envelope_count
        ∨ (has_more ∧ envelope_count = 0)
        ∨ (envelope_count = 0 ∧ next_cursor ≠ after_cursor)
        ∨ (0 < envelope_count ∧ next_cursor ≤ after_cursor) then
      .error .InvalidStoredData
    else .ok ⟨bytes, next_cursor, has_more, envelope_count⟩

def replay_encoded : Except RelayError EncodedReplayPage := do
  let page ← load_replay_entries store request
  let envelopes := page.entries.map (fun entry => (entry.encoded_envelope, entry.cursor))
  let bytes ← from_protocol
    (encode_replay_page_preserving envelopes page.next_cursor page.has_more)
  EncodedReplayPage.new bytes request.after_cursor page.next_cursor page.has_more
    page.entries.length

/-! ## Acknowledgment -/

/-- The first statement of `acknowledge`: the cursor has been assigned. -/
def acknowledge_check (request : AcknowledgeRequest) : Except RelayError Unit :=
  let highest := match store.relay_route.get? request.routing_id with
    | some row => row.next_cursor - 1
    | none => 0
  if highest < request.cursor then .error .InvalidAcknowledgment else .ok ()

/-- The second statement of `acknowledge`: `INSERT … ON CONFLICT DO UPDATE SET cursor =
MAX(cursor, excluded.cursor) RETURNING cursor`, with the foreign key of the route. -/
def acknowledge_write (principal : RelayPrincipalId) (request : AcknowledgeRequest) :
    Except RelayError ℕ × RelayStore :=
  transaction store do
    let cursor ← to_sql_integer request.cursor
    if (store.relay_route.get? request.routing_id).isSome then
      let cursor := match store.relay_acknowledgment.get? (request.routing_id, principal) with
        | some row => max row.cursor cursor
        | none => cursor
      .ok (cursor, { store with
        relay_acknowledgment := store.relay_acknowledgment.put
          ⟨request.routing_id, principal, cursor⟩ })
    else .error (.StorageFailure "acknowledgment update")

/-! ## Runs -/

/-- The repository and the `acknowledge` calls between their two statements: each
statement commits by itself, so other calls may run in between. -/
structure Repository where
  store : RelayStore
  acknowledging : List (RelayPrincipalId × AcknowledgeRequest)

namespace Repository

/-- One committed transaction, or one call that ended without one. -/
inductive Step : Repository → Repository → Prop
  | submit (relay : Repository) (envelope : RelayEnvelope) (encoded_envelope : Bytes) (now : ℕ) :
      Step relay
        { relay with store := (submit_encoded relay.store envelope encoded_envelope now).2 }
  | replay (relay : Repository) (request : ReplayRequest) : Step relay relay
  | acknowledge_check (relay : Repository) (principal : RelayPrincipalId)
      (request : AcknowledgeRequest) (h : acknowledge_check relay.store request = .ok ()) :
      Step relay { relay with acknowledging := (principal, request) :: relay.acknowledging }
  | acknowledge_refused (relay : Repository) (principal : RelayPrincipalId)
      (request : AcknowledgeRequest) : Step relay relay
  | acknowledge_write (relay : Repository) (principal : RelayPrincipalId)
      (request : AcknowledgeRequest) (h : (principal, request) ∈ relay.acknowledging) :
      Step relay
        ⟨(acknowledge_write relay.store principal request).2,
          relay.acknowledging.erase (principal, request)⟩

/-- Any number of steps, by any interleaving of clients. -/
abbrev Steps : Repository → Repository → Prop :=
  Relation.ReflTransGen Step

/-- The relay on an empty database. -/
def initial : Repository := ⟨.empty, []⟩

/-- The states of every run from an empty database. -/
def Reachable (relay : Repository) : Prop :=
  Steps initial relay

end Repository

end Konclave.Relay
