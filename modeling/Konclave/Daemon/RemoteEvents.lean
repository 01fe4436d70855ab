/-
`Konclave.LocalDaemon`: the remote-event journal of a profile store.

Every message and membership change of another device becomes one event of the journal,
numbered without gaps and linked to the event before it. One adapter at a time holds the
delivery lease; it claims pending events, and acknowledges or releases what it claimed.
The journal keeps a sealed head and, once terminal events were pruned, a sealed floor.

What the journal reads of the other tables (the conversations, the lengths of the sealed
records and the payload an event stands for) is `Surroundings`. A sealed record is
represented by what it seals, and what the columns repeat of it is not stored twice.
-/
import Konclave.Domain.Application
import Konclave.Table
import Konclave.Checked
import Mathlib.Data.List.Sort

set_option autoImplicit false

namespace Konclave.Daemon

open Domain

/-! ## Errors and integers -/

/-- `ProfileStoreError`, the variants of the modelled operations. -/
inductive ProfileStoreError
  | Storage
  | CorruptData
  | ConversationExists
  | ConversationNotFound
  | ConversationMismatch
  | DuplicateOperation
  | OperationNotFound
  | InvalidTransition
  | CursorGap
  | CursorConflict
  | SenderCounterRegression
  | SequenceExhausted
  | OutboxCapacityExceeded
  | InboxCapacityExceeded
  | RequestService (error : RequestServiceError)
  | DirectedRequestHandlingCapacityExceeded
  | CollaborationPolicyReplacementMismatch
  | InvalidAdapterLease
  | AdapterConsumerActive
  | RemoteEventCapacityExceeded
  | RepeatPairingNotFound
  | RepeatPairingCapacityExceeded
  | PairingCapacityExceeded
  deriving DecidableEq, Repr

def to_sql_integer (value : ℕ) : Except ProfileStoreError ℕ :=
  if value ≤ I64_MAX then .ok value else .error .SequenceExhausted

theorem to_sql_integer_ok {value result : ℕ} :
    to_sql_integer value = .ok result ↔ value ≤ I64_MAX ∧ result = value := by
  rw [to_sql_integer]
  by_cases h : value ≤ I64_MAX
  · simp [h, eq_comm]
  · simp [h]

/-! ## Limits and leases -/

def MAX_PENDING_OUTBOX : ℕ := 32
def MAX_ADAPTER_LEASE_MILLISECONDS : ℕ := 5 * 60 * 1000

/-- The singleton row of the active delivery consumer. -/
structure AdapterConsumerRow where
  consumer_id : AdapterConsumerId
  lease_id : AdapterLeaseId
  lease_expires_at_unix_milliseconds : ℕ
  deriving DecidableEq, Repr

inductive RemoteEventKind
  | ApplicationMessage
  | MemberAdded
  | MemberRemoved
  | MemberRoleChanged
  | LocalAccessRemoved
  deriving DecidableEq, Repr

inductive RemoteEventStatus
  | Pending
  | Claimed
  | Acknowledged
  | Suppressed
  deriving DecidableEq, Repr

structure RemoteEventDeliveryState where
  status : RemoteEventStatus
  consumer_id : Option AdapterConsumerId
  lease_id : Option AdapterLeaseId
  lease_generation : ℕ
  lease_expires_at_unix_milliseconds : Option ℕ
  deriving DecidableEq, Repr

/-- The combinations of columns `encode_remote_event_delivery_state` writes and its decoder
accepts. -/
def RemoteEventDeliveryState.encodable (state : RemoteEventDeliveryState) : Bool :=
  match state.consumer_id, state.lease_id, state.lease_expires_at_unix_milliseconds with
  | none, none, none => state.status ≠ .Claimed
  | some _, some _, some expires_at =>
    state.status = .Claimed ∧ 1 ≤ state.lease_generation ∧ 1 ≤ expires_at
  | _, _, _ => false

def validate_adapter_lease_window (now expires_at : ℕ) : Except ProfileStoreError Unit :=
  if expires_at ≤ now ∨ MAX_ADAPTER_LEASE_MILLISECONDS < expires_at - now then
    .error .InvalidAdapterLease
  else .ok ()

namespace RemoteEvents

/-! ## Limits -/

def MAX_REMOTE_EVENT_RECORDS : ℕ := 1024 + 256
def MAX_REMOTE_EVENT_BATCH : ℕ := 50
def MAX_REMOTE_EVENT_BATCH_BYTES : ℕ := 1024 * 1024
def MAX_PENDING_REMOTE_EVENTS : ℕ := 1024
def MAX_PENDING_REMOTE_EVENTS_PER_CONVERSATION : ℕ := 128
def MAX_PENDING_REMOTE_EVENT_BYTES : ℕ := 8 * 1024 * 1024
def MAX_PENDING_REMOTE_EVENT_BYTES_PER_CONVERSATION : ℕ := 1024 * 1024
def MAX_REMOTE_EVENT_TERMINAL_RECORDS : ℕ := 256
def MAX_SEALED_RECORD_BYTES : ℕ := 16 * 1024 * 1024 + 64

/-! ## Records -/

structure RemoteEventRecord where
  sequence : ℕ
  notification_id : NotificationId
  conversation_id : ConversationId
  routing_id : RoutingId
  relay_cursor : ℕ
  kind : RemoteEventKind
  sender : DeviceId
  source_identifier : FixedBytes 16
  previous_notification_id : Option NotificationId
  deriving DecidableEq, Repr

structure RemoteEventRow where
  event : RemoteEventRecord
  state : RemoteEventDeliveryState
  deriving DecidableEq, Repr

/-- The last event of the journal, or the last one pruned from it. -/
structure RemoteEventHead where
  sequence : ℕ
  notification_id : NotificationId
  deriving DecidableEq, Repr

/-- `daemon_remote_event`, `daemon_adapter_consumer`, and the columns of `daemon_profile`
that hold the head and the floor. -/
structure RemoteEventJournal where
  next_sequence : ℕ
  head : Option RemoteEventHead
  floor_sequence : ℕ
  floor : Option RemoteEventHead
  events : Table ℕ RemoteEventRow (·.event.sequence)
  notifications : (events.rows.map (·.event.notification_id)).Nodup
  cursors : (events.rows.map fun row => (row.event.conversation_id, row.event.relay_cursor)).Nodup
  consumer : Option AdapterConsumerRow
  deriving DecidableEq

open RemoteEventJournal

/-- The columns of `daemon_conversation` the journal reads. -/
structure DeliveryConversation where
  conversation_id : ConversationId
  routing_id : RoutingId
  adapter_delivery_policy : Option Bool
  deriving DecidableEq

/-- What the journal reads of the other tables. -/
structure Surroundings (π : Type) where
  conversation : ConversationId → Option DeliveryConversation
  /-- The length of the sealed record an event of this kind delivers. -/
  delivery_length : ConversationId → ℕ → RemoteEventKind → Option ℕ
  payload : RemoteEventRecord → Except ProfileStoreError π

variable {π : Type}
variable (around : Surroundings π) (journal : RemoteEventJournal) (consumer_id : AdapterConsumerId)
  (lease_id : AdapterLeaseId) (now expires_at : ℕ)

variable (limit sequence : ℕ) (notification_id : NotificationId) (conversation_id : ConversationId)
  (event : RemoteEventRecord) (state : RemoteEventDeliveryState)

namespace RemoteEventJournal

/-- A profile that has received nothing. -/
def empty : RemoteEventJournal :=
  ⟨1, none, 0, none, Table.empty, List.nodup_nil, List.nodup_nil, none⟩

/-- `ORDER BY event_sequence`. -/
def in_order (rows : List RemoteEventRow) : List RemoteEventRow :=
  rows.insertionSort (fun x y => x.event.sequence ≤ y.event.sequence)

def with_status (statuses : List RemoteEventStatus) : List RemoteEventRow :=
  journal.events.rows.filter fun row => row.state.status ∈ statuses

/-- `UPDATE daemon_remote_event SET` the delivery state `WHERE event_sequence`. -/
def set_state : RemoteEventJournal :=
  have hmap : ∀ {α : Type} (f : RemoteEventRecord → α),
      (journal.events.update sequence (fun row => { row with state }) fun _ => rfl).rows.map
          (fun row => f row.event) = journal.events.rows.map (fun row => f row.event) := by
    intro α f
    rw [Table.update, List.map_map]
    refine List.map_congr_left fun row _ => ?_
    by_cases h : row.event.sequence = sequence <;> simp [h]
  { journal with
    events := journal.events.update sequence (fun row => { row with state }) fun _ => rfl
    notifications := by
      rw [hmap (·.notification_id)]
      exact journal.notifications
    cursors := by
      rw [hmap fun event => (event.conversation_id, event.relay_cursor)]
      exact journal.cursors }

/-- `DELETE FROM daemon_remote_event WHERE event_sequence AND notification_id`. -/
def delete_event : RemoteEventJournal :=
  let gone := fun row : RemoteEventRow => decide (row.event.sequence = event.sequence
    ∧ row.event.notification_id = event.notification_id)
  { journal with
    events := journal.events.delete gone
    notifications := journal.notifications.sublist (journal.events.delete_sublist.map _)
    cursors := journal.cursors.sublist (journal.events.delete_sublist.map _) }

/-- `INSERT INTO daemon_remote_event`; `none` when a key is taken. -/
def insert_event? (row : RemoteEventRow) : Option RemoteEventJournal :=
  match h : journal.events.insert? row with
  | none => none
  | some events =>
    if hnew : row.event.notification_id
          ∉ journal.events.rows.map (·.event.notification_id)
        ∧ (row.event.conversation_id, row.event.relay_cursor)
          ∉ journal.events.rows.map
            fun row => (row.event.conversation_id, row.event.relay_cursor) then
      have happend : ∀ {α : Type} (f : RemoteEventRow → α), (journal.events.rows.map f).Nodup →
          f row ∉ journal.events.rows.map f → (events.rows.map f).Nodup := by
        intro α f hnodup hfresh
        rw [(Table.insert?_iff.1 h).2, List.map_append, List.map_singleton,
          List.nodup_append]
        refine ⟨hnodup, List.nodup_singleton _, ?_⟩
        rintro _ hmem _ hlast rfl
        rw [List.mem_singleton] at hlast
        exact hfresh (hlast ▸ hmem)
      some { journal with
        events
        notifications := happend _ journal.notifications hnew.1
        cursors := happend _ journal.cursors hnew.2 }
    else none

end RemoteEventJournal

/-- A delivery state without a claim. -/
def unclaimed (status : RemoteEventStatus) (lease_generation : ℕ) : RemoteEventDeliveryState :=
  ⟨status, none, none, lease_generation, none⟩

/-! ## Statements

The journal is read through its sealed head, floor and records, each checked as it is opened. -/

def validate_blob_length (length : ℕ) : Except ProfileStoreError Unit :=
  require (0 < length ∧ length ≤ MAX_SEALED_RECORD_BYTES) .CorruptData

def load_remote_event_head : Except ProfileStoreError (ℕ × Option RemoteEventHead) :=
  match journal.head with
  | none => .ok (journal.next_sequence, none)
  | some head => do
    require (0 < head.sequence) .CorruptData
    require (checked_add head.sequence 1 = some journal.next_sequence) .CorruptData
    pure (journal.next_sequence, some head)

def load_remote_event_floor : Except ProfileStoreError (Option RemoteEventHead) :=
  match journal.floor with
  | none => do
    require (journal.floor_sequence = 0) .CorruptData
    pure none
  | some floor => do
    require (journal.floor_sequence ≠ 0) .CorruptData
    require (floor.sequence = journal.floor_sequence) .CorruptData
    pure (some floor)

/-- The sealed event and delivery state, opened under the conversation's routing. -/
def load_remote_event_record : Except ProfileStoreError RemoteEventRow := do
  let row ← some_or (journal.events.get? sequence) .OperationNotFound
  let conversation ← some_or (around.conversation row.event.conversation_id) .OperationNotFound
  require (row.event.routing_id = conversation.routing_id) .CorruptData
  require (0 < row.event.relay_cursor) .CorruptData
  require (row.state.encodable = true) .CorruptData
  pure row

def store_remote_event_delivery_state : Except ProfileStoreError RemoteEventJournal := do
  require (state.encodable = true) .InvalidTransition
  let _ ← to_sql_integer state.lease_generation
  let _ ← to_sql_integer (state.lease_expires_at_unix_milliseconds.getD 0)
  require ((journal.events.get? event.sequence).isSome = true) .InvalidTransition
  pure (journal.set_state event.sequence state)

/-- The loop the journal's statements share: load each event, check its state, store the
next one. -/
def rewrite_events
    (next : RemoteEventDeliveryState → Except ProfileStoreError RemoteEventDeliveryState)
    (journal : RemoteEventJournal) (sequences : List ℕ) :
    Except ProfileStoreError RemoteEventJournal :=
  sequences.foldlM (fun journal sequence => do
    let row ← load_remote_event_record around journal sequence
    let state ← next row.state
    store_remote_event_delivery_state journal row.event state) journal

/-- The claimed events that satisfy `p`, by sequence. -/
def claimed_sequences (p : RemoteEventDeliveryState → Bool) : List ℕ :=
  (in_order (journal.events.rows.filter fun row =>
    row.state.status = .Claimed && p row.state)).map (·.event.sequence)

/-- A claim that ends without an acknowledgment leaves the event pending. -/
def make_pending (p : RemoteEventDeliveryState → Bool) (state : RemoteEventDeliveryState) :
    Except ProfileStoreError RemoteEventDeliveryState := do
  require (state.status = .Claimed ∧ p state = true) .CorruptData
  pure (unclaimed .Pending state.lease_generation)

def reclaim_expired_remote_events : Except ProfileStoreError RemoteEventJournal := do
  let now ← to_sql_integer now
  rewrite_events around (make_pending fun _ => true) journal
    (claimed_sequences journal fun state =>
      state.lease_expires_at_unix_milliseconds.any (· ≤ now))

def renew_active_adapter_lease (requested_expiry : ℕ) :
    Except ProfileStoreError RemoteEventJournal := do
  validate_adapter_lease_window now requested_expiry
  let row ← some_or journal.consumer .InvalidAdapterLease
  require (row.consumer_id = consumer_id ∧ row.lease_id = lease_id
    ∧ now < row.lease_expires_at_unix_milliseconds) .InvalidAdapterLease
  if row.lease_expires_at_unix_milliseconds < requested_expiry then do
    let expiry ← to_sql_integer requested_expiry
    pure { journal with
      consumer := some { row with lease_expires_at_unix_milliseconds := expiry } }
  else pure journal

/-- The consumer holds the claim, which has not expired. -/
def holds_claim : Bool :=
  state.consumer_id = some consumer_id && state.lease_id = some lease_id
    && state.lease_expires_at_unix_milliseconds.any (now < ·)

def renew_claimed_remote_events : Except ProfileStoreError RemoteEventJournal := do
  let now ← to_sql_integer now
  let sequences := claimed_sequences journal (holds_claim consumer_id lease_id now)
  require (sequences.length ≤ MAX_REMOTE_EVENT_RECORDS) .CorruptData
  rewrite_events around (fun state => do
    require (state.status = .Claimed ∧ holds_claim consumer_id lease_id now state = true)
      .CorruptData
    pure { state with lease_expires_at_unix_milliseconds := some expires_at }) journal sequences

def verify_active_adapter_consumer_now : Except ProfileStoreError Unit :=
  require (∃ row ∈ journal.consumer, row.consumer_id = consumer_id ∧ row.lease_id = lease_id
    ∧ now < row.lease_expires_at_unix_milliseconds) .InvalidAdapterLease

/-! ## Pruning

Terminal events leave the journal from its front, and the floor remembers the last of them. -/

/-- The terminal events that start the given ones, checked to continue the floor. -/
def terminal_prefix (around : Surroundings π) (journal : RemoteEventJournal) :
    ℕ → Option NotificationId → List ℕ → Except ProfileStoreError (List RemoteEventRecord)
  | _, _, [] => .ok []
  | after, previous, sequence :: rest => do
    let row ← load_remote_event_record around journal sequence
    require (checked_add after 1 = some row.event.sequence
      ∧ row.event.previous_notification_id = previous) .CorruptData
    if row.state.status = .Acknowledged ∨ row.state.status = .Suppressed then do
      let later ← terminal_prefix around journal row.event.sequence
        (some row.event.notification_id) rest
      pure (row.event :: later)
    else pure []

/-- One `DELETE`, which must remove one row. -/
def delete_remote_event : Except ProfileStoreError RemoteEventJournal := do
  require (∃ row ∈ journal.events.get? event.sequence,
    row.event.notification_id = event.notification_id) .InvalidTransition
  pure (journal.delete_event event)

def prune_terminal_remote_events_in : Except ProfileStoreError (ℕ × RemoteEventJournal) := do
  let floor ← load_remote_event_floor journal
  let floor_sequence := (floor.map (·.sequence)).getD 0
  let sequences := ((in_order (journal.events.rows.filter fun row =>
    floor_sequence < row.event.sequence)).map (·.event.sequence)).take limit
  let terminal ← terminal_prefix around journal floor_sequence (floor.map (·.notification_id))
    sequences
  match terminal.getLast? with
  | none => pure (0, journal)
  | some last => do
    let pruned ← terminal.foldlM delete_remote_event journal
    pure (terminal.length, { pruned with
      floor_sequence := last.sequence
      floor := some ⟨last.sequence, last.notification_id⟩ })

def prune_excess_terminal_remote_events : Except ProfileStoreError RemoteEventJournal :=
  let excess := (journal.with_status [.Acknowledged, .Suppressed]).length
    - MAX_REMOTE_EVENT_TERMINAL_RECORDS
  if 0 < excess then do
    let (_, journal) ← prune_terminal_remote_events_in around journal
      (min excess MAX_REMOTE_EVENT_BATCH)
    pure journal
  else .ok journal

/-! ## Inserting -/

/-- A conversation without a policy is muted. -/
def adapter_delivery_enabled_in (routing_id : RoutingId) : Except ProfileStoreError Bool := do
  let conversation ← some_or (around.conversation conversation_id) .ConversationNotFound
  match conversation.adapter_delivery_policy with
  | none => pure false
  | some enabled => do
    require (conversation.routing_id = routing_id) .CorruptData
    pure enabled

def remote_event_delivery_length_in (relay_cursor : ℕ) (kind : RemoteEventKind) :
    Except ProfileStoreError ℕ := do
  let length ← some_or (around.delivery_length conversation_id relay_cursor kind) .CorruptData
  validate_blob_length length
  pure length

/-- The length an event delivers; a missing record counts nothing. -/
def Surroundings.event_length : ℕ :=
  (around.delivery_length event.conversation_id event.relay_cursor event.kind).getD 0

/-- The pending and claimed events, of one conversation or of all. -/
def pending_events (conversation_id : Option ConversationId) : List RemoteEventRow :=
  (journal.with_status [.Pending, .Claimed]).filter fun row =>
    conversation_id.all (row.event.conversation_id = ·)

def pending_remote_event_bytes (conversation_id : Option ConversationId) : ℕ :=
  ((pending_events journal conversation_id).map fun row => around.event_length row.event).sum

/-- A pending event must fit under the four limits. -/
def require_pending_capacity (delivery_length : ℕ) : Except ProfileStoreError Unit :=
  require ((pending_events journal none).length < MAX_PENDING_REMOTE_EVENTS
    ∧ (pending_events journal (some conversation_id)).length
      < MAX_PENDING_REMOTE_EVENTS_PER_CONVERSATION
    ∧ pending_remote_event_bytes around journal none + delivery_length
      ≤ MAX_PENDING_REMOTE_EVENT_BYTES
    ∧ pending_remote_event_bytes around journal (some conversation_id) + delivery_length
      ≤ MAX_PENDING_REMOTE_EVENT_BYTES_PER_CONVERSATION) .RemoteEventCapacityExceeded

/-- The source of an event, as a completion names it. -/
structure RemoteEventSource where
  conversation_id : ConversationId
  routing_id : RoutingId
  relay_cursor : ℕ
  notification_id : NotificationId
  kind : RemoteEventKind
  sender : DeviceId
  self_device_id : DeviceId
  source_identifier : FixedBytes 16
  deriving DecidableEq

/-- The row of a new event: the journal's next, after its head. -/
def RemoteEventSource.row (source : RemoteEventSource) (sequence : ℕ)
    (previous : Option NotificationId) (status : RemoteEventStatus) : RemoteEventRow :=
  ⟨⟨sequence, source.notification_id, source.conversation_id, source.routing_id,
    source.relay_cursor, source.kind, source.sender, source.source_identifier, previous⟩,
    unclaimed status 0⟩

/-- The two statements that append an event: the row, and the head after it. -/
def append_event (source : RemoteEventSource) (status : RemoteEventStatus) :
    Except ProfileStoreError RemoteEventJournal := do
  let (sequence, previous_head) ← load_remote_event_head journal
  require (sequence = 1 ↔ previous_head = none) .CorruptData
  let next_sequence ← some_or (checked_add sequence 1) .SequenceExhausted
  let _ ← to_sql_integer sequence
  let _ ← to_sql_integer source.relay_cursor
  require (1 ≤ sequence ∧ 1 ≤ source.relay_cursor
    ∧ (around.conversation source.conversation_id).isSome = true) .DuplicateOperation
  let inserted ← some_or (journal.insert_event? (source.row sequence
    (previous_head.map (·.notification_id)) status)) .DuplicateOperation
  let next_sequence ← to_sql_integer next_sequence
  pure { inserted with next_sequence, head := some ⟨sequence, source.notification_id⟩ }

def insert_remote_event (source : RemoteEventSource) :
    Except ProfileStoreError RemoteEventJournal :=
  if source.sender = source.self_device_id then .ok journal
  else do
    let journal ← prune_excess_terminal_remote_events around journal
    require (journal.events.rows.length < MAX_REMOTE_EVENT_RECORDS) .RemoteEventCapacityExceeded
    let enabled ← adapter_delivery_enabled_in around source.conversation_id source.routing_id
    if enabled then do
      let length ← remote_event_delivery_length_in around source.conversation_id
        source.relay_cursor source.kind
      require_pending_capacity around journal source.conversation_id length
      append_event around journal source .Pending
    else do
      let journal ← append_event around journal source .Suppressed
      prune_excess_terminal_remote_events around journal

/-! ## The delivery lease -/

def acquire_adapter_consumer :
    Except ProfileStoreError Unit × RemoteEventJournal := transaction journal do
  validate_adapter_lease_window now expires_at
  let journal ← reclaim_expired_remote_events around journal now
  require (∀ row ∈ journal.consumer, row.lease_expires_at_unix_milliseconds ≤ now
    ∨ (row.consumer_id = consumer_id ∧ row.lease_id = lease_id)) .AdapterConsumerActive
  let expiry ← to_sql_integer expires_at
  pure ((), { journal with consumer := some ⟨consumer_id, lease_id, expiry⟩ })

def release_adapter_consumer : Except ProfileStoreError Unit × RemoteEventJournal :=
  match journal.consumer with
  | none => (.ok (), journal)
  | some row => transaction journal do
      require (row.consumer_id = consumer_id ∧ row.lease_id = lease_id) .InvalidAdapterLease
      let mine := fun state : RemoteEventDeliveryState =>
        decide (state.consumer_id = some consumer_id) && decide (state.lease_id = some lease_id)
      let journal ← rewrite_events around (make_pending mine) journal
        (claimed_sequences journal mine)
      pure ((), { journal with consumer := none })

/-! ## Claims

A claim takes pending events in turn over the conversations, until the batch is full. -/

/-- The pending events, the first of every conversation before the second of any. -/
def claim_order : List RemoteEventRow :=
  let pending := in_order (journal.with_status [.Pending])
  let rank := fun row : RemoteEventRow => (pending.filter fun other =>
    other.event.conversation_id = row.event.conversation_id
      ∧ other.event.sequence ≤ row.event.sequence).length
  pending.insertionSort (fun x y => rank x < rank y
    ∨ (rank x = rank y ∧ x.event.sequence ≤ y.event.sequence))

/-- The candidates of a claim with the length each delivers. -/
def claim_candidates : Except ProfileStoreError (List (ℕ × ℕ)) :=
  ((claim_order journal).take limit).mapM fun row => do
    let length ← some_or (around.delivery_length row.event.conversation_id row.event.relay_cursor
      row.event.kind) .Storage
    pure (row.event.sequence, length)

/-- The next claim of a pending event. -/
def claim_state : Except ProfileStoreError RemoteEventDeliveryState := do
  require (state.status = .Pending) .InvalidTransition
  let generation ← some_or (checked_add state.lease_generation 1) .SequenceExhausted
  pure ⟨.Claimed, some consumer_id, some lease_id, generation, some expires_at⟩

/-- Claims the candidates in order until the batch is full; the accumulator holds the
sequences and generations claimed so far and their bytes. -/
def claim_selected (around : Surroundings π)
    (next : RemoteEventDeliveryState → Except ProfileStoreError RemoteEventDeliveryState) :
    RemoteEventJournal → List (ℕ × ℕ) → ℕ → List (ℕ × ℕ) →
      Except ProfileStoreError (List (ℕ × ℕ) × RemoteEventJournal)
  | journal, selected, _, [] => .ok (selected, journal)
  | journal, selected, bytes, (sequence, length) :: rest => do
    validate_blob_length length
    if MAX_REMOTE_EVENT_BATCH_BYTES < bytes + length then do
      require (selected ≠ []) .RemoteEventCapacityExceeded
      pure (selected, journal)
    else do
      let row ← load_remote_event_record around journal sequence
      let state ← next row.state
      let journal ← store_remote_event_delivery_state journal row.event state
      claim_selected around next journal (selected ++ [(sequence, state.lease_generation)])
        (bytes + length) rest

/-- An event as an adapter receives it. -/
structure ClaimedRemoteEvent (π : Type) where
  event : RemoteEventRecord
  payload : π
  lease_generation : ℕ

/-- `load_remote_event_by_sequence`, the record and what it stands for. -/
def load_remote_event_by_sequence : Except ProfileStoreError (RemoteEventRecord × π) := do
  let row ← load_remote_event_record around journal sequence
  let payload ← around.payload row.event
  pure (row.event, payload)

/-- The transaction of a claim: the sequences it claimed, with their generations. -/
def claim_transaction :
    Except ProfileStoreError (List (ℕ × ℕ)) × RemoteEventJournal := transaction journal do
  require (limit ≠ 0 ∧ limit ≤ MAX_REMOTE_EVENT_BATCH) .InvalidTransition
  validate_adapter_lease_window now expires_at
  let journal ← renew_active_adapter_lease journal consumer_id lease_id now expires_at
  let journal ← reclaim_expired_remote_events around journal now
  let candidates ← claim_candidates around journal limit
  claim_selected around (claim_state consumer_id lease_id expires_at) journal [] 0 candidates

/-- The claimed events are loaded after the transaction committed. -/
def claim_remote_events :
    Except ProfileStoreError (List (ClaimedRemoteEvent π)) × RemoteEventJournal :=
  let (claimed, journal) := claim_transaction around journal consumer_id lease_id now expires_at
    limit
  (do
    let claimed ← claimed
    claimed.mapM fun (sequence, generation) => do
      let (event, payload) ← load_remote_event_by_sequence around journal sequence
      pure ⟨event, payload, generation⟩, journal)

/-- The statements of a heartbeat. `renew_claim` renews the claim of a directed request, where
the heartbeat names one; it writes the handling journal only. -/
def heartbeat_statements {α : Type}
    (renew_claim : RemoteEventJournal → Except ProfileStoreError α) :
    Except ProfileStoreError (α × RemoteEventJournal) := do
  validate_adapter_lease_window now expires_at
  let journal ← renew_active_adapter_lease journal consumer_id lease_id now expires_at
  let journal ← renew_claimed_remote_events around journal consumer_id lease_id now expires_at
  let renewed ← renew_claim journal
  let journal ← reclaim_expired_remote_events around journal now
  pure (renewed, journal)

/-- `directed_request` is what renewing the claim of a directed request comes to. -/
def heartbeat_adapter_consumer (directed_request : Except ProfileStoreError Unit) :
    Except ProfileStoreError Unit × RemoteEventJournal :=
  transaction journal (heartbeat_statements around journal consumer_id lease_id now expires_at
    fun _ => directed_request)

/-! ## Ending a claim -/

/-- The delivery state names this claim, which has not expired. -/
def is_current_claim (consumer_id : AdapterConsumerId) (lease_id : AdapterLeaseId)
    (lease_generation now : ℕ) : Prop :=
  state.status = .Claimed ∧ state.consumer_id = some consumer_id ∧ state.lease_id = some lease_id
    ∧ state.lease_generation = lease_generation
    ∧ ∃ expiry ∈ state.lease_expires_at_unix_milliseconds, now < expiry

instance (consumer_id : AdapterConsumerId) (lease_id : AdapterLeaseId) (lease_generation now : ℕ) :
    Decidable (is_current_claim state consumer_id lease_id lease_generation now) :=
  inferInstanceAs (Decidable (_ ∧ _))

def finish_remote_event_claim (consumer_id : AdapterConsumerId) (lease_id : AdapterLeaseId)
    (lease_generation now : ℕ) (target : RemoteEventStatus) :
    Except ProfileStoreError Unit × RemoteEventJournal := transaction journal do
  let named ← some_or (journal.events.rows.find? fun row =>
    row.event.notification_id = notification_id) .OperationNotFound
  let row ← load_remote_event_record around journal named.event.sequence
  if row.state.status = .Acknowledged ∧ target = .Acknowledged then pure ((), journal)
  else if row.state.status = .Pending ∧ target = .Pending then pure ((), journal)
  else do
    require (is_current_claim row.state consumer_id lease_id lease_generation now)
      .InvalidAdapterLease
    verify_active_adapter_consumer_now journal consumer_id lease_id now
    let journal ← store_remote_event_delivery_state journal row.event
      (unclaimed target lease_generation)
    if target = .Acknowledged then do
      let journal ← prune_excess_terminal_remote_events around journal
      pure ((), journal)
    else pure ((), journal)

def acknowledge_remote_event (consumer_id : AdapterConsumerId) (lease_id : AdapterLeaseId)
    (lease_generation now : ℕ) : Except ProfileStoreError Unit × RemoteEventJournal :=
  finish_remote_event_claim around journal notification_id consumer_id lease_id lease_generation
    now .Acknowledged

def release_remote_event (consumer_id : AdapterConsumerId) (lease_id : AdapterLeaseId)
    (lease_generation now : ℕ) : Except ProfileStoreError Unit × RemoteEventJournal :=
  finish_remote_event_claim around journal notification_id consumer_id lease_id lease_generation
    now .Pending

def prune_terminal_remote_events :
    Except ProfileStoreError ℕ × RemoteEventJournal := transaction journal do
  require (limit ≠ 0 ∧ limit ≤ MAX_REMOTE_EVENT_BATCH) .InvalidTransition
  prune_terminal_remote_events_in around journal limit

/-! ## Opening a profile -/

/-- The events after the floor, each linked to the one before it and loadable; the
sequence and notification of the last one. -/
def verify_chain (around : Surroundings π) (journal : RemoteEventJournal) :
    ℕ → Option NotificationId → List ℕ → Except ProfileStoreError (ℕ × Option NotificationId)
  | after, previous, [] => .ok (after, previous)
  | after, previous, sequence :: rest => do
    let row ← load_remote_event_record around journal sequence
    require (checked_add after 1 = some sequence
      ∧ row.event.previous_notification_id = previous) .CorruptData
    let _ ← load_remote_event_by_sequence around journal sequence
    verify_chain around journal sequence (some row.event.notification_id) rest

/-- The source reads the events in pages; the pages are read here as one list. -/
def verify_remote_event_journal : Except ProfileStoreError Unit := do
  let (next_sequence, head) ← load_remote_event_head journal
  let floor ← load_remote_event_floor journal
  let count := journal.events.rows.length
  if next_sequence = 1 then require (head = none ∧ floor = none ∧ count = 0) .CorruptData
  else do
    let head ← some_or head .CorruptData
    let floor_sequence := (floor.map (·.sequence)).getD 0
    require (floor_sequence ≤ head.sequence ∧ checked_add head.sequence 1 = some next_sequence
      ∧ count = head.sequence - floor_sequence) .CorruptData
    if head.sequence = floor_sequence then
      require (floor.map (·.notification_id) = some head.notification_id) .CorruptData
    else
      require ((journal.events.get? head.sequence).map (·.event.notification_id)
        = some head.notification_id) .CorruptData
    let sequences := (in_order (journal.events.rows.filter fun row =>
      floor_sequence < row.event.sequence)).map (·.event.sequence)
    let last ← verify_chain around journal floor_sequence (floor.map (·.notification_id)) sequences
    require (last = (head.sequence, some head.notification_id)) .CorruptData

def invalidate_remote_event_leases :
    Except ProfileStoreError Unit × RemoteEventJournal := transaction journal do
  let journal ← rewrite_events around (make_pending fun _ => true) journal
    (claimed_sequences journal fun _ => true)
  pure ((), { journal with consumer := none })

end RemoteEvents

end Konclave.Daemon
