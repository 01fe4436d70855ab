/-
`Konclave.A2ATaskStoreSqlite`: the task store on SQLite.

Five tables: the contexts, the tasks, and for each task its statuses, messages and
artifacts, which go when the task goes (`ON DELETE CASCADE`). Every call is one
transaction; one that fails leaves the tables as they were. A read checks all it reads:
shape, digests, generations, sequences, deadlines and the binding of the context. An enum
column holds the value its code stands for, and an integer column what `to_sql` let in.
-/
import Konclave.A2A.TaskPolicy
import Konclave.Numbered
import Konclave.Unique
import Mathlib.Data.List.Lex

set_option autoImplicit false

namespace Konclave.A2A

open Domain Protobuf

/-! ## Rows

The tables and their columns; a digest column holds the digest of the row it was written with. -/

/-- The primary key of `a2a_context`. -/
structure ContextKey where
  agent_id : A2AAgentId
  tenant : Option A2ATenantId
  context_id : A2AContextId
  deriving DecidableEq

structure ContextRow where
  key : ContextKey
  conversation_id : ConversationId
  target_device_id : DeviceId
  created_at_unix_milliseconds : ℕ
  deriving DecidableEq

def A2ATaskIdentity.context_key (identity : A2ATaskIdentity) : ContextKey :=
  ⟨identity.key.agent_id, identity.key.tenant, identity.context_id⟩

structure TaskRow (δ : Type) where
  identity : A2ATaskIdentity
  identity_digest : δ
  state : A2ATaskState
  generation : ℕ
  created_at_unix_milliseconds : ℕ
  updated_at_unix_milliseconds : ℕ
  terminal_at_unix_milliseconds : Option ℕ
  terminal_reason : Option A2ATerminalReason
  content_pruned : Bool
  content_expires_at_unix_milliseconds : Option ℕ
  tombstone_expires_at_unix_milliseconds : Option ℕ
  request_text_digest : δ
  deriving DecidableEq

structure StatusRow where
  key : A2ATaskKey
  generation : ℕ
  state : A2ATaskState
  terminal_reason : Option A2ATerminalReason
  occurred_at_unix_milliseconds : ℕ
  deriving DecidableEq

structure MessageRow (δ : Type) where
  key : A2ATaskKey
  sequence : ℕ
  message_id : A2AMessageId
  role : A2ATaskMessageRole
  text : String
  identity_digest : δ
  recorded_at_unix_milliseconds : ℕ
  deriving DecidableEq

structure ArtifactRow (δ : Type) where
  key : A2ATaskKey
  sequence : ℕ
  artifact_id : A2AArtifactId
  content_digest : δ
  canonical_bytes : Bytes
  complete : Bool
  identity_digest : δ
  recorded_at_unix_milliseconds : ℕ
  deriving DecidableEq

/-- The tables of a task store, with their primary keys and unique columns. -/
structure TaskTables (δ : Type) where
  contexts : Table ContextKey ContextRow (·.key)
  tasks : Table A2ATaskKey (TaskRow δ) (·.identity.key)
  statuses : Table (A2ATaskKey × ℕ) StatusRow fun row => (row.key, row.generation)
  messages : UniqueTable (A2ATaskKey × ℕ) (A2ATaskKey × A2AMessageId) (MessageRow δ)
    (fun row => (row.key, row.sequence)) fun row => [(row.key, row.message_id)]
  artifacts : UniqueTable (A2ATaskKey × ℕ) (A2ATaskKey × A2AArtifactId) (ArtifactRow δ)
    (fun row => (row.key, row.sequence)) fun row => [(row.key, row.artifact_id)]
  deriving DecidableEq

def TaskTables.empty {δ : Type} : TaskTables δ :=
  ⟨.empty, .empty, .empty, .empty, .empty⟩

/-! ## Configuration -/

def MAX_PAGE_SIZE : ℕ := 256
def HARD_MAX_TASKS : ℕ := 100000
def HARD_MAX_PAYLOAD_BYTES : ℕ := 1024 * 1024 * 1024
def HARD_MAX_RETENTION_MILLISECONDS : ℕ := 10 * 365 * 24 * 60 * 60 * 1000
def HARD_MAX_BUSY_TIMEOUT_MILLISECONDS : ℕ := 60000
def HARD_MAX_PRUNE_BATCH : ℕ := 1024

structure A2ASqliteTaskStoreConfig where
  max_tasks : ℕ
  max_messages_per_task : ℕ
  max_artifacts_per_task : ℕ
  max_payload_bytes : ℕ
  max_prune_batch : ℕ
  content_retention_milliseconds : ℕ
  idempotency_retention_milliseconds : ℕ
  busy_timeout_milliseconds : ℕ
  deriving DecidableEq

/-- `A2ASqliteTaskStoreConfig::default`. -/
def A2ASqliteTaskStoreConfig.default : A2ASqliteTaskStoreConfig where
  max_tasks := 1024
  max_messages_per_task := 256
  max_artifacts_per_task := 64
  max_payload_bytes := 64 * 1024 * 1024
  max_prune_batch := 256
  content_retention_milliseconds := 7 * 24 * 60 * 60 * 1000
  idempotency_retention_milliseconds := 30 * 24 * 60 * 60 * 1000
  busy_timeout_milliseconds := 5000

def A2ASqliteTaskStoreConfig.validate (config : A2ASqliteTaskStoreConfig) :
    Except A2ATaskStoreError Unit :=
  require (¬ (config.max_tasks = 0 ∨ HARD_MAX_TASKS < config.max_tasks
    ∨ config.max_messages_per_task < 2 ∨ MAX_PAGE_SIZE < config.max_messages_per_task
    ∨ config.max_artifacts_per_task = 0 ∨ MAX_PAGE_SIZE < config.max_artifacts_per_task
    ∨ config.max_payload_bytes = 0 ∨ HARD_MAX_PAYLOAD_BYTES < config.max_payload_bytes
    ∨ config.max_prune_batch = 0 ∨ HARD_MAX_PRUNE_BATCH < config.max_prune_batch
    ∨ config.content_retention_milliseconds = 0
    ∨ HARD_MAX_RETENTION_MILLISECONDS < config.content_retention_milliseconds
    ∨ config.idempotency_retention_milliseconds ≤ config.content_retention_milliseconds
    ∨ HARD_MAX_RETENTION_MILLISECONDS < config.idempotency_retention_milliseconds
    ∨ config.busy_timeout_milliseconds = 0
    ∨ HARD_MAX_BUSY_TIMEOUT_MILLISECONDS < config.busy_timeout_milliseconds))
    .InvalidConfiguration

def to_sql (value : ℕ) : Except A2ATaskStoreError ℕ :=
  if value ≤ I64_MAX then .ok value else .error .InvalidConfiguration

/-- `to_sql` of an optional value. -/
def to_sql_option : Option ℕ → Except A2ATaskStoreError (Option ℕ)
  | none => .ok none
  | some value => (to_sql value).map some

/-! ## Queries -/

section

variable {δ : Type} [DecidableEq δ] (sha : Sha256 δ)
variable (config : A2ASqliteTaskStoreConfig) (store : TaskTables δ) (creation : A2ATaskCreation)
  (transition : A2ATaskTransition) (key : A2ATaskKey) (after_generation now_unix_milliseconds : ℕ)
variable (sequence limit : ℕ) (message : A2ATaskMessage) (artifact : A2ATaskArtifact)

namespace TaskTables

/-- The statuses of a task, as the table has them. -/
def statuses_of : List StatusRow := store.statuses.rows.filter fun row => row.key = key

def messages_of : List (MessageRow δ) := store.messages.rows.filter fun row => row.key = key

def artifacts_of : List (ArtifactRow δ) := store.artifacts.rows.filter fun row => row.key = key

end TaskTables

def stored_status (row : StatusRow) : StoredA2ATaskStatus :=
  ⟨row.generation, row.state, row.terminal_reason, row.occurred_at_unix_milliseconds⟩

structure StoredA2ATaskMessage where
  sequence : ℕ
  message_id : A2AMessageId
  role : A2ATaskMessageRole
  text : String
  recorded_at_unix_milliseconds : ℕ
  deriving DecidableEq

structure StoredA2ATaskArtifact (δ : Type) where
  sequence : ℕ
  artifact_id : A2AArtifactId
  content_digest : δ
  canonical_bytes : Bytes
  complete : Bool
  recorded_at_unix_milliseconds : ℕ
  deriving DecidableEq

/-- A message row whose digest is right. -/
def read_message (row : MessageRow δ) : Except A2ATaskStoreError A2ATaskMessage := do
  let message ← (A2ATaskMessage.new key row.message_id row.role row.text
    row.recorded_at_unix_milliseconds).mapError fun _ => A2ATaskStoreError.CorruptData
  require (message.identity_digest sha = row.identity_digest) .CorruptData
  pure message

/-- An artifact row whose digests are right. -/
def read_artifact (row : ArtifactRow δ) : Except A2ATaskStoreError A2ATaskArtifact := do
  let artifact ← (A2ATaskArtifact.new key row.artifact_id row.canonical_bytes row.complete
    row.recorded_at_unix_milliseconds).mapError fun _ => A2ATaskStoreError.CorruptData
  require (artifact.content_digest sha = row.content_digest
    ∧ artifact.identity_digest sha = row.identity_digest) .CorruptData
  pure artifact

def stored_message : StoredA2ATaskMessage :=
  ⟨sequence, message.message_id, message.role, message.text,
    message.recorded_at_unix_milliseconds⟩

def stored_artifact : StoredA2ATaskArtifact δ :=
  ⟨sequence, artifact.artifact_id, artifact.content_digest sha, artifact.canonical_bytes,
    artifact.complete, artifact.recorded_at_unix_milliseconds⟩

/-! ## Loading

Every read checks what it read: the history, the first message, the context, the digests. -/

def load_message_at_sequence : Except A2ATaskStoreError (Option StoredA2ATaskMessage) := do
  let _ ← to_sql sequence
  match store.messages.get? (key, sequence) with
  | none => pure none
  | some row => do
    let message ← read_message sha key row
    pure (some (stored_message sequence message))

def verify_context_binding (task : A2ATaskRecord δ) : Except A2ATaskStoreError Unit :=
  match store.contexts.get? task.identity.context_key with
  | none => .error .CorruptData
  | some context => require (context.conversation_id = task.identity.conversation_id
      ∧ context.target_device_id = task.identity.target_device_id) .CorruptData

def verify_status_history (task : A2ATaskRecord δ) : Except A2ATaskStoreError Unit :=
  validate_a2a_task_status_history task
    (((order_by (·.generation) (store.statuses_of task.key)).take 4).map stored_status)

/-- The record of a row, with the text of the request while it is kept. -/
def TaskRow.record (row : TaskRow δ) (request_text : Option String) : A2ATaskRecord δ where
  identity := row.identity
  identity_digest := row.identity_digest
  request_text_digest := row.request_text_digest
  request_text := request_text
  state := row.state
  generation := row.generation
  created_at_unix_milliseconds := row.created_at_unix_milliseconds
  updated_at_unix_milliseconds := row.updated_at_unix_milliseconds
  terminal_at_unix_milliseconds := row.terminal_at_unix_milliseconds
  terminal_reason := row.terminal_reason
  content_pruned := row.content_pruned

/-- The text of the first message, unless the content is gone. -/
def request_text_of (row : TaskRow δ) : Option String :=
  if row.content_pruned then none
  else (store.messages.get? (row.identity.key, 1)).map (·.text)

/-- The first message is the request the task was created with. -/
def verify_initial_message (record : A2ATaskRecord δ) : Except A2ATaskStoreError Unit :=
  if record.content_pruned then .ok ()
  else do
    let initial ← load_message_at_sequence sha store record.key 1
    let initial ← some_or initial .CorruptData
    require (initial.sequence = 1 ∧ initial.role = .User
      ∧ initial.message_id = record.identity.source_message_id
      ∧ initial.text = record.request_text.getD "") .CorruptData

/-- The checks of a stored row, and its record. -/
def load_task_row (row : TaskRow δ) : Except A2ATaskStoreError (A2ATaskRecord δ) := do
  let request_text := request_text_of store row
  require (¬ ((row.content_pruned = false ∧ request_text = none)
    ∨ (request_text.any fun text => text.utf8ByteSize = 0 ∨ 64 * 1024 < text.utf8ByteSize) = true))
    .CorruptData
  validate_a2a_task_shape row.state row.generation row.updated_at_unix_milliseconds
    row.terminal_at_unix_milliseconds row.terminal_reason row.content_pruned
    row.content_expires_at_unix_milliseconds row.tombstone_expires_at_unix_milliseconds
  let record := row.record request_text
  require (record.key.task_id.request_message_id = record.identity.request_message_id
    ∧ record.retained_identity_is_valid sha = true) .CorruptData
  verify_context_binding store record
  verify_initial_message sha store record
  verify_status_history store record
  pure record

def load_task_optional : Except A2ATaskStoreError (Option (A2ATaskRecord δ)) :=
  match store.tasks.get? key with
  | none => .ok none
  | some row => (load_task_row sha store row).map some

def load_task : Except A2ATaskStoreError (A2ATaskRecord δ) := do
  let task ← load_task_optional sha store key
  some_or task .NotFound

/-- Statuses that are numbered from `expected` on. -/
def read_statuses : ℕ → List StatusRow → Except A2ATaskStoreError (List StoredA2ATaskStatus)
  | _, [] => .ok []
  | expected, row :: rest => do
    require (row.generation = expected
      ∧ a2a_task_status_reason_is_valid row.state row.terminal_reason = true) .CorruptData
    let expected ← some_or (checked_add expected 1) .CorruptData
    let updates ← read_statuses expected rest
    pure (stored_status row :: updates)

def load_status_updates : Except A2ATaskStoreError (List StoredA2ATaskStatus) := do
  let _ ← to_sql after_generation
  let rows := (order_by (·.generation)
    ((store.statuses_of key).filter fun row => after_generation < row.generation)).take 3
  let expected ← some_or (checked_add after_generation 1) .CorruptData
  read_statuses expected rows

/-- Messages, each numbered one after the one before it. -/
def read_messages (key : A2ATaskKey) :
    Option ℕ → List (MessageRow δ) → Except A2ATaskStoreError (List StoredA2ATaskMessage)
  | _, [] => .ok []
  | previous, row :: rest => do
    require ((previous.any fun sequence => checked_add sequence 1 ≠ some row.sequence) = false)
      .CorruptData
    let message ← read_message sha key row
    let messages ← read_messages key (some row.sequence) rest
    pure (stored_message row.sequence message :: messages)

/-- The last `limit` messages, oldest first. -/
def load_messages : Except A2ATaskStoreError (List StoredA2ATaskMessage) :=
  let newest := (order_by (·.sequence) (store.messages_of key)).reverse.take limit
  read_messages sha key none (order_by (·.sequence) newest)

/-- Artifacts that are numbered from `expected` on. -/
def read_artifacts (key : A2ATaskKey) :
    ℕ → List (ArtifactRow δ) → Except A2ATaskStoreError (List (StoredA2ATaskArtifact δ))
  | _, [] => .ok []
  | expected, row :: rest => do
    require (row.sequence = expected) .CorruptData
    let artifact ← read_artifact sha key row
    let artifacts ← read_artifacts key (expected + 1) rest
    pure (stored_artifact sha row.sequence artifact :: artifacts)

def load_artifacts : Except A2ATaskStoreError (List (StoredA2ATaskArtifact δ)) :=
  read_artifacts sha key 1 ((order_by (·.sequence) (store.artifacts_of key)).take limit)

def load_artifacts_after (after_sequence limit : ℕ) :
    Except A2ATaskStoreError (List (StoredA2ATaskArtifact δ)) := do
  let _ ← to_sql after_sequence
  let expected ← some_or (checked_add after_sequence 1) .CorruptData
  read_artifacts sha key expected ((order_by (·.sequence)
    ((store.artifacts_of key).filter fun row => after_sequence < row.sequence)).take limit)

def existing_message (message_id : A2AMessageId) : Except A2ATaskStoreError (Option (ℕ × δ)) :=
  match store.messages.named? (key, message_id) with
  | none => .ok none
  | some row => do
    let message ← read_message sha key row
    pure (some (row.sequence, message.identity_digest sha))

def existing_artifact (artifact_id : A2AArtifactId) : Except A2ATaskStoreError (Option (ℕ × δ)) :=
  match store.artifacts.named? (key, artifact_id) with
  | none => .ok none
  | some row => do
    let artifact ← read_artifact sha key row
    pure (some (row.sequence, artifact.identity_digest sha))

/-- There is a message of the agent, or a complete artifact. -/
def has_completion_evidence : Bool :=
  (store.messages_of key).any (fun row => row.role = .Agent)
    || (store.artifacts_of key).any (·.complete)

/-! ## Bounds -/

/-- `sum(length(text))` and `sum(length(canonical_bytes))` over all tasks. -/
def retained_payload_bytes : ℕ :=
  (store.messages.rows.map (·.text.utf8ByteSize)).sum
    + (store.artifacts.rows.map (·.canonical_bytes.length)).sum

def require_task_capacity (config : A2ASqliteTaskStoreConfig) : Except A2ATaskStoreError Unit :=
  require (store.tasks.rows.length < config.max_tasks) .CapacityExceeded

def require_payload_capacity (config : A2ASqliteTaskStoreConfig) (additional : ℕ) :
    Except A2ATaskStoreError Unit :=
  require (retained_payload_bytes store + additional ≤ config.max_payload_bytes) .CapacityExceeded

/-- A context has no task, or a task has no context or another binding. -/
def invalid_context_relationship : Bool :=
  (store.contexts.rows.any fun context =>
      !store.tasks.rows.any fun task => task.identity.context_key = context.key)
    || store.tasks.rows.any fun task =>
      match store.contexts.get? task.identity.context_key with
      | none => true
      | some context => context.conversation_id ≠ task.identity.conversation_id
          ∨ context.target_device_id ≠ task.identity.target_device_id

/-- No task has more than `bound` rows in a table. -/
def counts_within {V : Type} (owner : V → A2ATaskKey) (rows : List V) (bound : ℕ) : Bool :=
  rows.all fun row => (rows.filter fun other => owner other = owner row).length ≤ bound

def verify_store_bounds (config : A2ASqliteTaskStoreConfig) : Except A2ATaskStoreError Unit := do
  require (store.tasks.rows.length ≤ config.max_tasks
    ∧ store.contexts.rows.length ≤ config.max_tasks
    ∧ counts_within (·.key) store.messages.rows config.max_messages_per_task = true
    ∧ counts_within (·.key) store.artifacts.rows config.max_artifacts_per_task = true
    ∧ retained_payload_bytes store ≤ config.max_payload_bytes) .CapacityExceeded
  require (invalid_context_relationship store = false) .CorruptData

/-- `open` of a file that has the schema. -/
def open_store : Except A2ATaskStoreError Unit := do
  config.validate
  verify_store_bounds store config

/-! ## Inserting -/

def insert_status (generation : ℕ) (state : A2ATaskState) (reason : Option A2ATerminalReason)
    (occurred_at : ℕ) : Except A2ATaskStoreError (TaskTables δ) := do
  let generation ← to_sql generation
  let occurred_at ← to_sql occurred_at
  let statuses ← some_or (store.statuses.insert? ⟨key, generation, state, reason, occurred_at⟩)
    .Conflict
  pure { store with statuses }

def insert_message (sequence : ℕ) : Except A2ATaskStoreError (TaskTables δ) := do
  let sequence ← to_sql sequence
  let recorded_at ← to_sql message.recorded_at_unix_milliseconds
  let messages ← some_or (store.messages.insert? ⟨message.key, sequence, message.message_id,
    message.role, message.text, message.identity_digest sha, recorded_at⟩) .Conflict
  pure { store with messages }

def insert_artifact (sequence : ℕ) : Except A2ATaskStoreError (TaskTables δ) := do
  let sequence ← to_sql sequence
  let recorded_at ← to_sql artifact.recorded_at_unix_milliseconds
  let artifacts ← some_or (store.artifacts.insert? ⟨artifact.key, sequence, artifact.artifact_id,
    artifact.content_digest sha, artifact.canonical_bytes, artifact.complete,
    artifact.identity_digest sha, recorded_at⟩) .Conflict
  pure { store with artifacts }

/-! ## Retention

A task loses its content at one deadline and its row at a later one. -/

inductive RetentionKind
  | Payload
  | Tombstone
  deriving DecidableEq, Repr

structure RetentionCandidate where
  key : A2ATaskKey
  kind : RetentionKind
  deadline : ℕ
  terminal_at : Option ℕ
  deriving DecidableEq

/-- A byte string as SQLite orders it. -/
def collation (bytes : Bytes) : List ℕ := bytes.map UInt8.toNat

/-- `ORDER BY deadline, terminal_at, kind, agent_id, tenant_id, task_id`. -/
def RetentionCandidate.order_key (candidate : RetentionCandidate) : List (List ℕ) :=
  [[candidate.deadline], candidate.terminal_at.toList,
    [match candidate.kind with
      | .Payload => 1
      | .Tombstone => 2],
    collation candidate.key.agent_id.bytes,
    collation ((candidate.key.tenant.map (·.bytes)).getD []),
    collation candidate.key.task_id.bytes]

/-- What of a task is due to go. -/
def TaskRow.candidate? (row : TaskRow δ) (now : ℕ) : Option RetentionCandidate :=
  if row.content_pruned then
    (row.tombstone_expires_at_unix_milliseconds.filter fun deadline => deadline ≤ now).map
      fun deadline =>
        ⟨row.identity.key, .Tombstone, deadline, row.terminal_at_unix_milliseconds⟩
  else
    (row.content_expires_at_unix_milliseconds.filter fun deadline => deadline ≤ now).map
      fun deadline =>
        ⟨row.identity.key, .Payload, deadline, row.terminal_at_unix_milliseconds⟩

def next_retention_candidate (now : ℕ) : Except A2ATaskStoreError (Option RetentionCandidate) := do
  let now ← to_sql now
  pure ((store.tasks.rows.filterMap fun row => row.candidate? now).insertionSort
    fun x y => x.order_key ≤ y.order_key).head?

def delete_payloads : TaskTables δ :=
  { store with
    messages := store.messages.delete fun row => row.key = key
    artifacts := store.artifacts.delete fun row => row.key = key }

/-- `DELETE FROM a2a_task`, and the rows that go with it. -/
def delete_task : TaskTables δ :=
  { delete_payloads store key with
    tasks := store.tasks.delete fun row => row.identity.key = key
    statuses := store.statuses.delete fun row => row.key = key }

def mark_pruned : TaskTables δ :=
  { store with
    tasks := store.tasks.update key (fun row => { row with content_pruned := true })
      fun _ => rfl }

structure A2ATaskPruneOutcome where
  pruned_task_payloads : ℕ
  removed_tombstones : ℕ
  deriving DecidableEq, Repr

/-- One candidate goes. -/
def prune_candidate (outcome : A2ATaskPruneOutcome) (candidate : RetentionCandidate) :
    Except A2ATaskStoreError (A2ATaskPruneOutcome × TaskTables δ) := do
  require ((store.tasks.get? candidate.key).isSome = true) .CorruptData
  match candidate.kind with
  | .Payload => pure ({ outcome with pruned_task_payloads := outcome.pruned_task_payloads + 1 },
      mark_pruned (delete_payloads store candidate.key) candidate.key)
  | .Tombstone => pure ({ outcome with removed_tombstones := outcome.removed_tombstones + 1 },
      delete_task store candidate.key)

def prune_loop (now : ℕ) : ℕ → A2ATaskPruneOutcome → TaskTables δ →
    Except A2ATaskStoreError (A2ATaskPruneOutcome × TaskTables δ)
  | 0, outcome, store => .ok (outcome, store)
  | batch + 1, outcome, store => do
    match ← next_retention_candidate store now with
    | none => pure (outcome, store)
    | some candidate => do
      let (outcome, store) ← prune_candidate store outcome candidate
      prune_loop now batch outcome store

/-- `DELETE FROM a2a_context` where no task is left. -/
def delete_orphans : TaskTables δ :=
  { store with
    contexts := store.contexts.delete fun context =>
      !store.tasks.rows.any fun task => task.identity.context_key = context.key }

def prune_in (now : ℕ) (store : TaskTables δ) :
    Except A2ATaskStoreError (A2ATaskPruneOutcome × TaskTables δ) := do
  let (outcome, store) ← prune_loop now config.max_prune_batch ⟨0, 0⟩ store
  pure (outcome, delete_orphans store)

/-! ## Calls that write

Each is one transaction: when it fails nothing is written. -/

def ensure_context_binding : Except A2ATaskStoreError (TaskTables δ) :=
  match store.contexts.get? creation.identity.context_key with
  | some context => do
    require (context.conversation_id = creation.identity.conversation_id
      ∧ context.target_device_id = creation.identity.target_device_id) .Conflict
    pure store
  | none => do
    require ((store.tasks.rows.any fun task =>
      task.identity.context_key = creation.identity.context_key) = false) .CorruptData
    require (store.contexts.rows.length < config.max_tasks) .CapacityExceeded
    let created_at ← to_sql creation.created_at_unix_milliseconds
    let contexts ← some_or (store.contexts.insert? ⟨creation.identity.context_key,
      creation.identity.conversation_id, creation.identity.target_device_id, created_at⟩) .Conflict
    pure { store with contexts }

inductive CreateA2ATaskOutcome (δ : Type)
  | Created (task : A2ATaskRecord δ)
  | Existing (task : A2ATaskRecord δ)

/-- The row of a task that was just submitted. -/
def A2ATaskCreation.row (created_at : ℕ) : TaskRow δ where
  identity := creation.identity
  identity_digest := creation.identity_digest sha
  state := .Submitted
  generation := 0
  created_at_unix_milliseconds := created_at
  updated_at_unix_milliseconds := created_at
  terminal_at_unix_milliseconds := none
  terminal_reason := none
  content_pruned := false
  content_expires_at_unix_milliseconds := none
  tombstone_expires_at_unix_milliseconds := none
  request_text_digest := creation.request_text_digest sha

/-- The message a task begins with. -/
def A2ATaskCreation.initial_message : A2ATaskMessage :=
  ⟨creation.identity.key, creation.identity.source_message_id, .User, creation.request_text,
    creation.created_at_unix_milliseconds, creation.text_fits⟩

/-- The rows of a task that does not exist yet. -/
def insert_task : Except A2ATaskStoreError (CreateA2ATaskOutcome δ × TaskTables δ) := do
  require_task_capacity store config
  require_payload_capacity store config creation.request_text.utf8ByteSize
  let created_at ← to_sql creation.created_at_unix_milliseconds
  let tasks ← some_or (store.tasks.insert? (creation.row sha created_at)) .Conflict
  let store ← insert_status { store with tasks } creation.identity.key 0 .Submitted none
    creation.created_at_unix_milliseconds
  let store ← insert_message sha store creation.initial_message 1
  let task ← load_task sha store creation.identity.key
  pure (.Created task, store)

def create_task (store : TaskTables δ) :
    Except A2ATaskStoreError (CreateA2ATaskOutcome δ × TaskTables δ) := do
  let (_, store) ← prune_in config creation.created_at_unix_milliseconds store
  let store ← ensure_context_binding config store creation
  match ← load_task_optional sha store creation.identity.key with
  | some existing => do
    require (existing.identity_digest = creation.identity_digest sha) .Conflict
    pure (.Existing existing, store)
  | none => insert_task sha config store creation

inductive TransitionA2ATaskOutcome (δ : Type)
  | Applied (task : A2ATaskRecord δ)
  | Existing (task : A2ATaskRecord δ)

/-- When a terminal state was reached, and when its content and its row may go. -/
def terminal_times : Except A2ATaskStoreError (Option ℕ × Option ℕ × Option ℕ) :=
  if a2a_task_state_is_terminal transition.state then do
    let terminal_at := transition.occurred_at_unix_milliseconds
    let content_expires_at ←
      some_or (checked_add terminal_at config.content_retention_milliseconds)
        .InvalidConfiguration
    let tombstone_expires_at ←
      some_or (checked_add terminal_at config.idempotency_retention_milliseconds)
        .InvalidConfiguration
    pure (some terminal_at, some content_expires_at, some tombstone_expires_at)
  else pure (none, none, none)

/-- The columns a transition sets. -/
def TaskRow.transitioned (row : TaskRow δ) (transition : A2ATaskTransition) (generation : ℕ)
    (times : Option ℕ × Option ℕ × Option ℕ) : TaskRow δ :=
  { row with
    state := transition.state
    generation := generation
    updated_at_unix_milliseconds := transition.occurred_at_unix_milliseconds
    terminal_at_unix_milliseconds := times.1
    terminal_reason := transition.terminal_reason
    content_expires_at_unix_milliseconds := times.2.1
    tombstone_expires_at_unix_milliseconds := times.2.2 }

/-- The rows of a transition that is not a retry. -/
def apply_transition (current : A2ATaskRecord δ) (transition : A2ATaskTransition) :
    Except A2ATaskStoreError (TransitionA2ATaskOutcome δ × TaskTables δ) := do
  let generation ← some_or (checked_add current.generation 1) .CorruptData
  let times ← terminal_times config transition
  let _ ← to_sql generation
  let _ ← to_sql transition.occurred_at_unix_milliseconds
  let _ ← to_sql_option times.1
  let _ ← to_sql_option times.2.1
  let _ ← to_sql_option times.2.2
  -- `UPDATE … WHERE … AND generation`: the row that was loaded
  require (((store.tasks.get? transition.key).any fun row =>
    row.generation = current.generation) = true) .Conflict
  let tasks := store.tasks.update transition.key
    (fun row => row.transitioned transition generation times) fun _ => rfl
  let store ← insert_status { store with tasks } transition.key generation transition.state
    transition.terminal_reason transition.occurred_at_unix_milliseconds
  let task ← load_task sha store transition.key
  pure (.Applied task, store)

def transition_task (store : TaskTables δ) :
    Except A2ATaskStoreError (TransitionA2ATaskOutcome δ × TaskTables δ) := do
  let current ← load_task sha store transition.key
  let plan ← plan_a2a_task_transition current transition
  if plan = .Existing then pure (.Existing current, store)
  else do
    plan.validate_completion_evidence (has_completion_evidence store current.key)
    apply_transition sha config store current transition

inductive AppendA2ATaskRecordOutcome
  | Appended (sequence : ℕ)
  | Existing (sequence : ℕ)
  deriving DecidableEq, Repr

def append_message (now_unix_milliseconds : ℕ) (store : TaskTables δ) :
    Except A2ATaskStoreError (AppendA2ATaskRecordOutcome × TaskTables δ) := do
  let (_, store) ← prune_in config now_unix_milliseconds store
  let task ← load_task sha store message.key
  match ← existing_message sha store message.key message.message_id with
  | some (sequence, digest) => do
    require (digest = message.identity_digest sha) .Conflict
    pure (.Existing sequence, store)
  | none => do
    require (¬ (a2a_task_state_is_terminal task.state = true ∨ task.content_pruned = true))
      .InvalidTransition
    let count := (store.messages_of message.key).length
    require (count < config.max_messages_per_task) .CapacityExceeded
    require_payload_capacity store config message.text.utf8ByteSize
    let sequence ← some_or (checked_add count 1) .CorruptData
    let store ← insert_message sha store message sequence
    pure (.Appended sequence, store)

def append_artifact_in_state (now_unix_milliseconds : ℕ) (require_working : Bool)
    (maximum_artifacts : ℕ) (store : TaskTables δ) :
    Except A2ATaskStoreError (AppendA2ATaskRecordOutcome × TaskTables δ) := do
  require (¬ (maximum_artifacts = 0 ∨ MAX_PAGE_SIZE < maximum_artifacts)) .InvalidConfiguration
  let (_, store) ← prune_in config now_unix_milliseconds store
  let task ← load_task sha store artifact.key
  match ← existing_artifact sha store artifact.key artifact.artifact_id with
  | some (sequence, digest) => do
    require (digest = artifact.identity_digest sha) .Conflict
    pure (.Existing sequence, store)
  | none => do
    require (¬ (a2a_task_state_is_terminal task.state = true ∨ task.content_pruned = true
      ∨ (require_working = true ∧ task.state ≠ .Working))) .InvalidTransition
    let count := (store.artifacts_of artifact.key).length
    require (count < min maximum_artifacts config.max_artifacts_per_task) .CapacityExceeded
    require_payload_capacity store config artifact.canonical_bytes.length
    let sequence ← some_or (checked_add count 1) .CorruptData
    let store ← insert_artifact sha store artifact sequence
    pure (.Appended sequence, store)

def append_artifact (now_unix_milliseconds : ℕ) (store : TaskTables δ) :
    Except A2ATaskStoreError (AppendA2ATaskRecordOutcome × TaskTables δ) :=
  append_artifact_in_state sha config artifact now_unix_milliseconds false
    config.max_artifacts_per_task store

def append_working_artifact (now_unix_milliseconds maximum_artifacts : ℕ) (store : TaskTables δ) :
    Except A2ATaskStoreError (AppendA2ATaskRecordOutcome × TaskTables δ) :=
  append_artifact_in_state sha config artifact now_unix_milliseconds true maximum_artifacts store

/-! ## Calls that read -/

def validate_page_limit (configured : ℕ) : Except A2ATaskStoreError Unit :=
  require (¬ (limit = 0 ∨ configured < limit ∨ MAX_PAGE_SIZE < limit)) .InvalidConfiguration

def validate_artifact_read_limit (configured : ℕ) : Except A2ATaskStoreError ℕ := do
  require (¬ (limit = 0 ∨ MAX_PAGE_SIZE < limit)) .InvalidConfiguration
  pure (min limit configured)

def validate_list_page_size : Except A2ATaskStoreError Unit :=
  require (¬ (limit = 0 ∨ MAX_PAGE_SIZE < limit)) .InvalidConfiguration

def status_updates (store : TaskTables δ) :
    Except A2ATaskStoreError (List StoredA2ATaskStatus) := do
  let task ← load_task sha store key
  require (after_generation ≤ task.generation) .CorruptData
  load_status_updates store key after_generation

def task_with_messages (store : TaskTables δ) :
    Except A2ATaskStoreError (A2ATaskRecord δ × List StoredA2ATaskMessage) := do
  validate_page_limit limit config.max_messages_per_task
  let task ← load_task sha store key
  if task.content_pruned then pure (task, [])
  else do
    let messages ← load_messages sha store key limit
    pure (task, messages)

def messages (store : TaskTables δ) : Except A2ATaskStoreError (List StoredA2ATaskMessage) :=
  (task_with_messages sha config key limit store).map (·.2)

def artifacts (store : TaskTables δ) :
    Except A2ATaskStoreError (List (StoredA2ATaskArtifact δ)) := do
  validate_page_limit limit config.max_artifacts_per_task
  let task ← load_task sha store key
  if task.content_pruned then pure [] else load_artifacts sha store key limit

structure A2ATaskSnapshot (δ : Type) where
  task : A2ATaskRecord δ
  messages : List StoredA2ATaskMessage
  artifacts : List (StoredA2ATaskArtifact δ)

def task_snapshot (message_limit artifact_limit : ℕ) (store : TaskTables δ) :
    Except A2ATaskStoreError (A2ATaskSnapshot δ) := do
  validate_page_limit message_limit config.max_messages_per_task
  let artifact_limit ← validate_artifact_read_limit artifact_limit config.max_artifacts_per_task
  let task ← load_task sha store key
  if task.content_pruned then pure ⟨task, [], []⟩
  else do
    let messages ← load_messages sha store key message_limit
    let artifacts ← load_artifacts sha store key artifact_limit
    pure ⟨task, messages, artifacts⟩

structure A2ATaskStreamUpdates (δ : Type) where
  task : A2ATaskRecord δ
  statuses : List StoredA2ATaskStatus
  artifacts : List (StoredA2ATaskArtifact δ)
  messages : List StoredA2ATaskMessage
  deriving DecidableEq

def stream_updates (after_artifact_sequence message_limit artifact_limit : ℕ)
    (store : TaskTables δ) :
    Except A2ATaskStoreError (A2ATaskStreamUpdates δ) := do
  validate_page_limit message_limit config.max_messages_per_task
  let artifact_limit ← validate_artifact_read_limit artifact_limit config.max_artifacts_per_task
  let task ← load_task sha store key
  require (after_generation ≤ task.generation) .CorruptData
  let statuses ← load_status_updates store key after_generation
  if task.content_pruned then do
    require (after_artifact_sequence = 0) .CorruptData
    pure ⟨task, statuses, [], []⟩
  else do
    require (after_artifact_sequence ≤ (store.artifacts_of key).length) .CorruptData
    let artifacts ← load_artifacts_after sha store key after_artifact_sequence artifact_limit
    let messages ← load_messages sha store key message_limit
    pure ⟨task, statuses, artifacts, messages⟩

structure A2ATaskListCursor where
  created_at_unix_milliseconds : ℕ
  task_id : A2ATaskId
  deriving DecidableEq

structure A2ATaskListQuery where
  context : ContextKey
  page_size : ℕ
  cursor : Option A2ATaskListCursor
  deriving DecidableEq

/-- `(created_at, task_id)`, by which a list is ordered. -/
def TaskRow.list_key (row : TaskRow δ) : List (List ℕ) :=
  [[row.created_at_unix_milliseconds], collation row.identity.key.task_id.bytes]

def A2ATaskListCursor.list_key (cursor : A2ATaskListCursor) : List (List ℕ) :=
  [[cursor.created_at_unix_milliseconds], collation cursor.task_id.bytes]

/-- The tasks of a context whose content is kept. -/
def visible_tasks (context : ContextKey) : List (TaskRow δ) :=
  store.tasks.rows.filter fun row => row.identity.context_key = context ∧ row.content_pruned = false

def load_task_page_rows (query : A2ATaskListQuery) :
    Except A2ATaskStoreError (List (TaskRow δ)) := do
  let rows ← match query.cursor with
    | none => pure (visible_tasks store query.context)
    | some cursor => do
      let _ ← to_sql cursor.created_at_unix_milliseconds
      pure ((visible_tasks store query.context).filter fun row => row.list_key < cursor.list_key)
  pure ((rows.insertionSort fun x y => y.list_key ≤ x.list_key).take (query.page_size + 1))

structure A2ATaskListPage (δ : Type) where
  tasks : List (A2ATaskRecord δ)
  next_cursor : Option A2ATaskListCursor
  page_size : ℕ
  total_size : ℕ

def load_task_page (query : A2ATaskListQuery) : Except A2ATaskStoreError (A2ATaskListPage δ) := do
  let rows ← load_task_page_rows store query
  let tasks ← (rows.take query.page_size).mapM fun row => load_task sha store row.identity.key
  let next_cursor := if query.page_size < rows.length then
      tasks.getLast?.map fun task => ⟨task.created_at_unix_milliseconds, task.key.task_id⟩
    else none
  pure ⟨tasks, next_cursor, query.page_size, (visible_tasks store query.context).length⟩

def list_tasks (query : A2ATaskListQuery) (store : TaskTables δ) :
    Except A2ATaskStoreError (A2ATaskListPage δ) := do
  validate_list_page_size query.page_size
  load_task_page sha store query

def list_tasks_with_artifacts (query : A2ATaskListQuery) (artifact_limit : ℕ)
    (store : TaskTables δ) :
    Except A2ATaskStoreError
      (List (A2ATaskRecord δ × List (StoredA2ATaskArtifact δ)) × A2ATaskListPage δ) := do
  validate_list_page_size query.page_size
  let artifact_limit ← validate_artifact_read_limit artifact_limit config.max_artifacts_per_task
  let page ← load_task_page sha store query
  let tasks ← page.tasks.mapM fun task => do
    let artifacts ← load_artifacts sha store task.key artifact_limit
    pure (task, artifacts)
  pure (tasks, page)

/-! ## Runs -/

/-- A call of the store's contract, or opening it again. -/
inductive TaskStoreCall
  | create_task (creation : A2ATaskCreation)
  | get_task (key : A2ATaskKey)
  | list_tasks (query : A2ATaskListQuery)
  | list_tasks_with_artifacts (query : A2ATaskListQuery) (artifact_limit : ℕ)
  | transition_task (transition : A2ATaskTransition)
  | status_updates (key : A2ATaskKey) (after_generation : ℕ)
  | append_message (message : A2ATaskMessage) (now_unix_milliseconds : ℕ)
  | append_artifact (artifact : A2ATaskArtifact) (now_unix_milliseconds : ℕ)
  | append_working_artifact (artifact : A2ATaskArtifact)
      (now_unix_milliseconds maximum_artifacts : ℕ)
  | messages (key : A2ATaskKey) (limit : ℕ)
  | task_with_messages (key : A2ATaskKey) (limit : ℕ)
  | task_snapshot (key : A2ATaskKey) (message_limit artifact_limit : ℕ)
  | stream_updates (key : A2ATaskKey)
      (after_generation after_artifact_sequence message_limit artifact_limit : ℕ)
  | artifacts (key : A2ATaskKey) (limit : ℕ)
  | prune (now_unix_milliseconds : ℕ)
  | reopen

/-- The result of a call, but for what it returns. -/
def TaskStoreCall.result : TaskStoreCall → Except A2ATaskStoreError (TaskTables δ)
  | .create_task creation => (A2A.create_task sha config creation store).map (·.2)
  | .get_task key => (load_task sha store key).map fun _ => store
  | .list_tasks query => (A2A.list_tasks sha query store).map fun _ => store
  | .list_tasks_with_artifacts query artifact_limit =>
    (A2A.list_tasks_with_artifacts sha config query artifact_limit store).map fun _ => store
  | .transition_task transition => (A2A.transition_task sha config transition store).map (·.2)
  | .status_updates key after_generation =>
    (A2A.status_updates sha key after_generation store).map fun _ => store
  | .append_message message now => (A2A.append_message sha config message now store).map (·.2)
  | .append_artifact artifact now => (A2A.append_artifact sha config artifact now store).map (·.2)
  | .append_working_artifact artifact now maximum =>
    (A2A.append_working_artifact sha config artifact now maximum store).map (·.2)
  | .messages key limit => (A2A.messages sha config key limit store).map fun _ => store
  | .task_with_messages key limit =>
    (A2A.task_with_messages sha config key limit store).map fun _ => store
  | .task_snapshot key message_limit artifact_limit =>
    (A2A.task_snapshot sha config key message_limit artifact_limit store).map fun _ => store
  | .stream_updates key generation sequence message_limit artifact_limit =>
    (A2A.stream_updates sha config key generation sequence message_limit artifact_limit
      store).map fun _ => store
  | .artifacts key limit => (A2A.artifacts sha config key limit store).map fun _ => store
  | .prune now => (prune_in config now store).map (·.2)
  | .reopen => (open_store config store).map fun _ => store

/-- The tables after a call: a transaction that failed is rolled back. -/
def TaskStoreCall.run (call : TaskStoreCall) : TaskTables δ :=
  match call.result sha config store with
  | .ok store' => store'
  | .error _ => store

/-- The tables after a list of calls on a new store. -/
def store_after (calls : List TaskStoreCall) : TaskTables δ :=
  calls.foldl (fun store call => call.run sha config store) .empty

end

end Konclave.A2A
