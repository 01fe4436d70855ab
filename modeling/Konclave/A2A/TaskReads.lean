/-
`Konclave.A2ATaskStoreSqlite`: what the tables hold, and that reads find it.

`TaskTables.Kept` says what every committed state has in common: each task has a valid
shape, its digest, its context and its history; the messages and artifacts of a task are
numbered from one and can be read; nothing belongs to a task that is gone; and the bounds
of the configuration hold. It is all a read checks, so in such a state reads succeed, and
each has an equation for what it returns.
-/
import Konclave.A2A.TaskHistory
import Konclave.A2A.TaskStore

set_option autoImplicit false

namespace Konclave.A2A

open Domain Numbered List

variable {δ : Type} {sha : Sha256 δ} {config : A2ASqliteTaskStoreConfig}
  {store : TaskTables δ} {key : A2ATaskKey} {row : TaskRow δ} {start : ℕ}

/-! ## Tasks and their statuses

What a sound row is to its statuses, whose checks it passes. -/

/-- What the tables say of one task. -/
structure TaskRow.Sound (sha : Sha256 δ) (store : TaskTables δ) (row : TaskRow δ) : Prop where
  shape : validate_a2a_task_shape row.state row.generation row.updated_at_unix_milliseconds
    row.terminal_at_unix_milliseconds row.terminal_reason row.content_pruned
    row.content_expires_at_unix_milliseconds row.tombstone_expires_at_unix_milliseconds = .ok ()
  mapped : row.identity.key.task_id.request_message_id = row.identity.request_message_id
  digest : task_identity_digest sha row.identity row.request_text_digest = row.identity_digest
  created : row.created_at_unix_milliseconds ≤ I64_MAX
  bound : ∃ context, store.contexts.get? row.identity.context_key = some context
    ∧ context.conversation_id = row.identity.conversation_id
    ∧ context.target_device_id = row.identity.target_device_id
  history : validate_a2a_task_status_history (row.record none)
    ((store.statuses_of row.identity.key).map stored_status) = .ok ()
  request : row.content_pruned = false → ∃ first rest,
    store.messages_of row.identity.key = first :: rest ∧ first.role = .User
      ∧ first.message_id = row.identity.source_message_id
      ∧ text_digest sha first.text = row.request_text_digest
  pruned : row.content_pruned = true →
    store.messages_of row.identity.key = [] ∧ store.artifacts_of row.identity.key = []

theorem TaskRow.Sound.statuses_valid (h : row.Sound sha store) :
    validate_statuses row.created_at_unix_milliseconds 0 none 0
    ((store.statuses_of row.identity.key).map stored_status) = .ok () :=
  (history_eq_ok.1 h.history).2.2.1

theorem TaskRow.Sound.statuses_numbered (h : row.Sound sha store) :
    Numbered (·.generation) 0 (store.statuses_of row.identity.key) := by
  have hnum := validate_statuses_numbered h.statuses_valid
  rw [Numbered, map_map, length_map] at hnum
  exact hnum

theorem TaskRow.Sound.statuses_length (h : row.Sound sha store) :
    (store.statuses_of row.identity.key).length = row.generation + 1 ∧ row.generation ≤ 2 := by
  obtain ⟨hlen, hthree, -⟩ := history_eq_ok.1 h.history
  rw [length_map] at hlen hthree
  have hgen : (row.record none).generation = row.generation := rfl
  omega

theorem TaskRow.Sound.verify_status_history (h : row.Sound sha store) (text : Option String) :
    verify_status_history store (row.record text) = .ok () := by
  have hlen := h.statuses_length
  have htake : (store.statuses_of row.identity.key).take 4 = store.statuses_of row.identity.key :=
    take_of_length_le (by omega)
  have hkey : (row.record text).key = row.identity.key := rfl
  rw [A2A.verify_status_history, hkey, h.statuses_numbered.order_by_eq, htake]
  exact h.history

theorem TaskRow.Sound.verify_context_binding (h : row.Sound sha store) (text : Option String) :
    verify_context_binding store (row.record text) = .ok () := by
  obtain ⟨context, hctx, hconv, htarget⟩ := h.bound
  have hget : store.contexts.get? (row.record text).identity.context_key = some context := hctx
  rw [A2A.verify_context_binding, hget]
  exact require_eq_ok.2 ⟨hconv, htarget⟩

theorem read_statuses_eq {rows : List StatusRow} (hnum : Numbered (·.generation) start rows)
    (hlt : start + rows.length < 2 ^ 64) (hreason : ∀ status ∈ rows,
      a2a_task_status_reason_is_valid status.state status.terminal_reason = true) :
    read_statuses start rows = .ok (rows.map stored_status) := by
  induction rows generalizing start with
  | nil => rfl
  | cons status rows ih =>
    obtain ⟨hstatus, hrest⟩ := cons_iff.1 hnum
    rw [length_cons] at hlt
    have hadd : checked_add start 1 = some (start + 1) := checked_add_iff.2 ⟨by omega, rfl⟩
    rw [read_statuses, require_bind ⟨hstatus, hreason status mem_cons_self⟩,
      some_or_bind hadd, ih hrest (by omega) fun x hx => hreason x (mem_cons_of_mem _ hx),
      ok_bind]
    rfl

/-- The statuses after a generation the reader has seen. -/
theorem TaskRow.Sound.load_status_updates_eq (h : row.Sound sha store) {after_generation : ℕ}
    (hseen : after_generation ≤ row.generation) :
    load_status_updates store row.identity.key after_generation
    = .ok (((store.statuses_of row.identity.key).drop (after_generation + 1)).map
      stored_status) := by
  obtain ⟨hlen, hgen⟩ := h.statuses_length
  have hnum := h.statuses_numbered
  have hdrop := hnum.drop (after_generation + 1)
  rw [Nat.zero_add] at hdrop
  have hsql : to_sql after_generation = .ok after_generation := by
    rw [to_sql, if_pos]
    unfold I64_MAX
    omega
  have hadd : checked_add after_generation 1 = some (after_generation + 1) :=
    checked_add_iff.2 ⟨by omega, rfl⟩
  have hreason : ∀ status ∈ store.statuses_of row.identity.key,
      a2a_task_status_reason_is_valid status.state status.terminal_reason = true := by
    intro status hstatus
    exact reason_valid_of_validate_statuses h.statuses_valid _ (mem_map_of_mem hstatus)
  rw [load_status_updates, hsql, ok_bind, hnum.filter_lt, Nat.sub_zero, hdrop.order_by_eq,
    some_or_bind hadd, take_of_length_le (by rw [length_drop]; omega)]
  refine read_statuses_eq hdrop ?_ fun status hstatus =>
    hreason status (mem_of_mem_drop hstatus)
  rw [length_drop]
  omega

theorem mem_messages_of {row : MessageRow δ} :
    row ∈ store.messages_of key ↔ row ∈ store.messages.rows ∧ row.key = key := by
  simp [TaskTables.messages_of]

theorem mem_artifacts_of {row : ArtifactRow δ} :
    row ∈ store.artifacts_of key ↔ row ∈ store.artifacts.rows ∧ row.key = key := by
  simp [TaskTables.artifacts_of]

/-! ## The invariant

Rows are numbered and readable, content belongs to a task that has it, and the totals are
within the configured limits. -/

variable [DecidableEq δ]

/-- The rows of one task in one table: numbered from one, readable and within a bound. -/
structure RowsKept {V β : Type} (sequence : V → ℕ) (read : V → Except A2ATaskStoreError β)
    (limit : ℕ) (rows : List V) : Prop where
  numbered : Numbered sequence 1 rows
  readable : ∀ row ∈ rows, ∃ value, read row = .ok value
  length_le : rows.length ≤ limit

/-- The messages and artifacts under one key. -/
structure TaskTables.ContentKept (sha : Sha256 δ) (config : A2ASqliteTaskStoreConfig)
    (store : TaskTables δ) (key : A2ATaskKey) : Prop where
  messages : RowsKept (·.sequence) (read_message sha key) config.max_messages_per_task
    (store.messages_of key)
  artifacts : RowsKept (·.sequence) (read_artifact sha key) config.max_artifacts_per_task
    (store.artifacts_of key)

/-- What the tables hold under one key. -/
structure TaskTables.KeptAt (sha : Sha256 δ) (config : A2ASqliteTaskStoreConfig)
    (store : TaskTables δ) (key : A2ATaskKey) : Prop extends store.ContentKept sha config key where
  task : ∀ row, store.tasks.get? key = some row → row.Sound sha store
  absent : store.tasks.get? key = none →
    store.statuses_of key = [] ∧ store.messages_of key = [] ∧ store.artifacts_of key = []

/-- What holds of the tables between any two statements that matter. -/
structure TaskTables.Kept (sha : Sha256 δ) (config : A2ASqliteTaskStoreConfig)
    (store : TaskTables δ) : Prop where
  under : ∀ key, store.KeptAt sha config key
  tasks_le : store.tasks.rows.length ≤ config.max_tasks
  contexts_le : store.contexts.rows.length ≤ config.max_tasks
  payload_le : retained_payload_bytes store ≤ config.max_payload_bytes

/-- Every context has a task. -/
def TaskTables.NoOrphans (store : TaskTables δ) : Prop :=
  ∀ context ∈ store.contexts.rows,
    ∃ row ∈ store.tasks.rows, row.identity.context_key = context.key

/-- What holds of the tables after every call. -/
structure TaskTables.Sound (sha : Sha256 δ) (config : A2ASqliteTaskStoreConfig)
    (store : TaskTables δ) : Prop where
  kept : store.Kept sha config
  context : store.NoOrphans

/-! ## Rows

A row that is readable is read as the record it stores. -/

section

variable {V β : Type} {sequence : V → ℕ} {read : V → Except A2ATaskStoreError β} {limit : ℕ}

theorem RowsKept.nil : RowsKept sequence read limit [] :=
  ⟨Numbered.nil, fun _ hmem => (nomatch hmem), Nat.zero_le _⟩

theorem RowsKept.concat {rows : List V} {row : V} {value : β}
    (h : RowsKept sequence read limit rows) (hlt : rows.length < limit)
    (hseq : sequence row = rows.length + 1) (hread : read row = .ok value) :
    RowsKept sequence read limit (rows ++ [row]) where
  numbered := concat_iff.2 ⟨h.numbered, hseq.trans (Nat.add_comm _ _)⟩
  readable := by
    intro other hother
    rcases mem_append.1 hother with hold | hnew
    · exact h.readable other hold
    · rw [mem_singleton.1 hnew]
      exact ⟨value, hread⟩
  length_le := by
    rw [length_append, length_singleton]
    exact hlt

end

variable {rest : List (MessageRow δ)} {artifact : A2ATaskArtifact} {message : A2ATaskMessage}
  {first : MessageRow δ}

theorem read_message_eq_ok {row : MessageRow δ} : read_message sha key row = .ok message ↔
    ∃ h : text_fits row.text = true, message = ⟨key, row.message_id, row.role, row.text,
      row.recorded_at_unix_milliseconds, h⟩
    ∧ message.identity_digest sha = row.identity_digest := by
  unfold read_message
  by_cases h : text_fits row.text = true
  · rw [A2ATaskMessage.new_of_fits h]
    constructor
    · intro hread
      obtain ⟨hdigest, hmsg⟩ := require_ok.1 hread
      cases hmsg
      exact ⟨h, rfl, hdigest⟩
    · rintro ⟨_, rfl, hdigest⟩
      exact require_ok.2 ⟨hdigest, rfl⟩
  · rw [A2ATaskMessage.new, dif_neg h]
    constructor
    · intro hread
      cases hread
    · rintro ⟨hfits, -⟩
      exact absurd hfits h

theorem read_artifact_eq_ok {row : ArtifactRow δ} : read_artifact sha key row = .ok artifact ↔
    ∃ h : artifact_fits row.canonical_bytes = true, artifact = ⟨key, row.artifact_id,
      row.canonical_bytes, row.complete, row.recorded_at_unix_milliseconds, h⟩
      ∧ artifact.content_digest sha = row.content_digest
      ∧ artifact.identity_digest sha = row.identity_digest := by
  unfold read_artifact
  by_cases h : artifact_fits row.canonical_bytes = true
  · rw [A2ATaskArtifact.new_of_fits h]
    constructor
    · intro hread
      obtain ⟨hdigests, hartifact⟩ := require_ok.1 hread
      cases hartifact
      exact ⟨h, rfl, hdigests⟩
    · rintro ⟨_, rfl, hdigests⟩
      exact require_ok.2 ⟨hdigests, rfl⟩
  · rw [A2ATaskArtifact.new, dif_neg h]
    constructor
    · intro hread
      cases hread
    · rintro ⟨hfits, -⟩
      exact absurd hfits h

def MessageRow.stored (row : MessageRow δ) : StoredA2ATaskMessage :=
  ⟨row.sequence, row.message_id, row.role, row.text, row.recorded_at_unix_milliseconds⟩

def ArtifactRow.stored (row : ArtifactRow δ) : StoredA2ATaskArtifact δ :=
  ⟨row.sequence, row.artifact_id, row.content_digest, row.canonical_bytes, row.complete,
    row.recorded_at_unix_milliseconds⟩

theorem stored_message_of_read {row : MessageRow δ} (h : read_message sha key row = .ok message) :
    stored_message row.sequence message = row.stored := by
  obtain ⟨_, rfl, -⟩ := read_message_eq_ok.1 h
  rfl

theorem stored_artifact_of_read {row : ArtifactRow δ}
    (h : read_artifact sha key row = .ok artifact) :
    stored_artifact sha row.sequence artifact = row.stored := by
  obtain ⟨_, rfl, h, -⟩ := read_artifact_eq_ok.1 h
  rw [stored_artifact, h]
  rfl

/-! ## Messages and artifacts

The loops that read the rows of a task succeed, and give the rows in order. -/

/-- Numbered messages that can be read are returned. -/
theorem read_messages_eq {rows : List (MessageRow δ)} {previous : Option ℕ}
    (hnum : Numbered (·.sequence) start rows) (hlt : start + rows.length < 2 ^ 64)
    (hread : ∀ row ∈ rows, ∃ message, read_message sha key row = .ok message)
    (hprev : ∀ sequence, previous = some sequence → sequence + 1 = start) :
    read_messages sha key previous rows = .ok (rows.map MessageRow.stored) := by
  induction rows generalizing start previous with
  | nil => rfl
  | cons row rows ih =>
    obtain ⟨hrow, hrest⟩ := cons_iff.1 hnum
    rw [length_cons] at hlt
    have hfollows : (previous.any fun sequence => checked_add sequence 1 ≠ some row.sequence)
        = false := by
      cases previous with
      | none => rfl
      | some sequence =>
        have hnext := hprev sequence rfl
        have hadd : checked_add sequence 1 = some row.sequence :=
          checked_add_iff.2 ⟨by omega, by omega⟩
        simp [hadd]
    obtain ⟨message, hmsg⟩ := hread row mem_cons_self
    have hnext : ∀ sequence, some row.sequence = some sequence → sequence + 1 = start + 1 := by
      intro sequence h
      cases h
      omega
    have htail := ih hrest (by omega) (fun x hx => hread x (mem_cons_of_mem _ hx)) hnext
    rw [read_messages, require_bind hfollows, hmsg, ok_bind, htail, ok_bind,
      stored_message_of_read hmsg]
    rfl

theorem read_artifacts_eq {rows : List (ArtifactRow δ)} (hnum : Numbered (·.sequence) start rows)
    (hread : ∀ row ∈ rows, ∃ artifact, read_artifact sha key row = .ok artifact) :
    read_artifacts sha key start rows = .ok (rows.map ArtifactRow.stored) := by
  induction rows generalizing start with
  | nil => rfl
  | cons row rows ih =>
    obtain ⟨hrow, hrest⟩ := cons_iff.1 hnum
    obtain ⟨artifact, hartifact⟩ := hread row mem_cons_self
    have htail := ih hrest fun x hx => hread x (mem_cons_of_mem _ hx)
    rw [read_artifacts, require_bind hrow, hartifact, ok_bind, htail, ok_bind,
      stored_artifact_of_read hartifact]
    rfl

namespace TaskTables.Kept

variable (h : store.Kept sha config)
include h

/-- The messages returned are the newest, oldest first. -/
theorem load_messages_eq (hcfg : config.max_messages_per_task ≤ MAX_PAGE_SIZE)
    (key : A2ATaskKey) (limit : ℕ) :
    load_messages sha store key limit = .ok (((store.messages_of key).drop
      ((store.messages_of key).length - limit)).map MessageRow.stored) := by
  have hnum := (h.under key).messages.numbered
  have hle := (h.under key).messages.length_le
  unfold MAX_PAGE_SIZE at hcfg
  rw [load_messages, hnum.order_by_eq, hnum.newest]
  refine read_messages_eq (hnum.drop _) ?_ ?_ (fun _ hnone => nomatch hnone)
  · rw [length_drop]
    omega
  · intro row hrow
    exact (h.under key).messages.readable row (mem_of_mem_drop hrow)

theorem load_artifacts_eq (key : A2ATaskKey) (limit : ℕ) : load_artifacts sha store key limit
    = .ok (((store.artifacts_of key).take limit).map ArtifactRow.stored) := by
  have hnum := (h.under key).artifacts.numbered
  rw [load_artifacts, hnum.order_by_eq]
  exact read_artifacts_eq (hnum.take limit) fun row hrow =>
    (h.under key).artifacts.readable row (mem_of_mem_take hrow)

/-- The artifacts after a sequence the reader has seen. -/
theorem load_artifacts_after_eq (hcfg : config.max_artifacts_per_task ≤ MAX_PAGE_SIZE)
    {key : A2ATaskKey} {after_sequence : ℕ}
    (hseen : after_sequence ≤ (store.artifacts_of key).length) (limit : ℕ) :
    load_artifacts_after sha store key after_sequence limit
    = .ok ((((store.artifacts_of key).drop after_sequence).take limit).map ArtifactRow.stored) := by
  have hnum := (h.under key).artifacts.numbered
  have hle := (h.under key).artifacts.length_le
  unfold MAX_PAGE_SIZE at hcfg
  have hsql : to_sql after_sequence = .ok after_sequence := by
    rw [to_sql, if_pos]
    unfold I64_MAX
    omega
  have hadd : checked_add after_sequence 1 = some (after_sequence + 1) :=
    checked_add_iff.2 ⟨by omega, rfl⟩
  have hdrop := hnum.drop after_sequence
  rw [Nat.add_comm] at hdrop
  rw [load_artifacts_after, hsql, ok_bind, some_or_bind hadd, hnum.filter_lt,
    Nat.add_sub_cancel, hdrop.order_by_eq]
  exact read_artifacts_eq (hdrop.take limit) fun row hrow =>
    (h.under key).artifacts.readable row (mem_of_mem_drop (mem_of_mem_take hrow))

end TaskTables.Kept

/-! ## Tasks

Loading a task repeats every check, and none of them fails on a kept store. -/

namespace TaskTables

theorem Kept.get?_first (h : store.Kept sha config)
    (hmsgs : store.messages_of key = first :: rest) :
    first.sequence = 1 ∧ store.messages.get? (key, 1) = some first := by
  have hnum := (h.under key).messages.numbered
  rw [hmsgs] at hnum
  have hone := (cons_iff.1 hnum).1
  have hmem : first ∈ store.messages_of key := by
    rw [hmsgs]
    exact mem_cons_self
  obtain ⟨hrow, rfl⟩ := mem_messages_of.1 hmem
  exact ⟨hone, Table.get?_iff.2 ⟨hrow, by rw [hone]⟩⟩

theorem Kept.load_message_first (h : store.Kept sha config)
    (hmsgs : store.messages_of key = first :: rest) :
    load_message_at_sequence sha store key 1 = .ok (some first.stored) := by
  obtain ⟨hone, hget⟩ := h.get?_first hmsgs
  have hmem : first ∈ store.messages_of key := by
    rw [hmsgs]
    exact mem_cons_self
  obtain ⟨message, hmsg⟩ := (h.under key).messages.readable first hmem
  have hstored := stored_message_of_read hmsg
  rw [hone] at hstored
  have hsql : to_sql 1 = .ok 1 := by decide
  rw [load_message_at_sequence, hsql, ok_bind, hget]
  simp only [hmsg, ok_bind, hstored]
  rfl

/-- A stored task passes every check of a load. -/
theorem Kept.load_task_row_eq (h : store.Kept sha config) (hrow : row ∈ store.tasks.rows) :
    load_task_row sha store row = .ok (row.record (request_text_of store row)) := by
  have hsound := (h.under row.identity.key).task row (Table.get?_of_mem _ hrow)
  have hmapped : (row.record (request_text_of store row)).key.task_id.request_message_id
    = (row.record (request_text_of store row)).identity.request_message_id := hsound.mapped
  cases hpruned : row.content_pruned with
  | true =>
    have htext : request_text_of store row = none := by
      rw [request_text_of, if_pos hpruned]
    have hident : (row.record none).retained_identity_is_valid sha = true := by
      simp only [A2ATaskRecord.retained_identity_is_valid, decide_eq_true_eq]
      exact ⟨rfl, hsound.digest⟩
    have hinitial : verify_initial_message sha store (row.record none) = .ok () := by
      rw [verify_initial_message, if_pos]
      exact hpruned
    rw [htext] at hmapped ⊢
    rw [load_task_row, htext]
    rw [require_bind (by simp [hpruned]), hsound.shape, ok_bind,
      require_bind ⟨hmapped, hident⟩, hsound.verify_context_binding, ok_bind, hinitial,
      ok_bind, hsound.verify_status_history, ok_bind]
    rfl
  | false =>
    obtain ⟨first, rest, hmsgs, hrole, hid, hdigest⟩ := hsound.request hpruned
    obtain ⟨hone, hget⟩ := h.get?_first hmsgs
    have htext : request_text_of store row = some first.text := by
      rw [request_text_of, if_neg (by simp [hpruned]), hget]
      rfl
    have hfits : text_fits first.text = true := by
      have hmem : first ∈ store.messages_of row.identity.key := by
        rw [hmsgs]
        exact mem_cons_self
      obtain ⟨message, hmsg⟩ := (h.under row.identity.key).messages.readable first hmem
      exact (read_message_eq_ok.1 hmsg).1
    have hident : (row.record (some first.text)).retained_identity_is_valid sha = true := by
      simp only [A2ATaskRecord.retained_identity_is_valid, decide_eq_true_eq]
      exact ⟨decide_eq_true hdigest, hsound.digest⟩
    have hinitial : verify_initial_message sha store (row.record (some first.text)) = .ok () := by
      have hkey : (row.record (some first.text)).key = row.identity.key := rfl
      rw [verify_initial_message, if_neg (by simp [TaskRow.record, hpruned]), hkey,
        h.load_message_first hmsgs, ok_bind, some_or_bind rfl]
      exact require_eq_ok.2 ⟨hone, hrole, hid, rfl⟩
    have hsize : ¬ ((row.content_pruned = false ∧ some first.text = none)
        ∨ ((some first.text).any fun text =>
          text.utf8ByteSize = 0 ∨ 64 * 1024 < text.utf8ByteSize) = true) := by
      have hbounds := of_decide_eq_true hfits
      unfold MAX_A2A_TEXT_BYTES at hbounds
      simp only [reduceCtorEq, and_false, false_or, Option.any_some, decide_eq_true_eq]
      omega
    rw [htext] at hmapped ⊢
    rw [load_task_row, htext]
    rw [require_bind hsize, hsound.shape, ok_bind,
      require_bind ⟨hmapped, hident⟩, hsound.verify_context_binding, ok_bind, hinitial,
      ok_bind, hsound.verify_status_history, ok_bind]
    rfl

/-- The record a load returns. -/
def record_of (store : TaskTables δ) (row : TaskRow δ) : A2ATaskRecord δ :=
  row.record (request_text_of store row)

theorem Kept.load_task_optional_eq (h : store.Kept sha config) :
    load_task_optional sha store key = .ok ((store.tasks.get? key).map store.record_of) := by
  unfold load_task_optional
  cases hrow : store.tasks.get? key with
  | none => rfl
  | some row =>
    simp only [h.load_task_row_eq (Table.get?_iff.1 hrow).1]
    rfl

theorem Kept.load_task_eq (h : store.Kept sha config) :
    load_task sha store key = some_or ((store.tasks.get? key).map store.record_of) .NotFound := by
  rw [load_task, h.load_task_optional_eq, ok_bind]

theorem Kept.load_task_ok (h : store.Kept sha config) (hrow : store.tasks.get? key = some row) :
    load_task sha store key = .ok (store.record_of row) := by
  rw [h.load_task_eq, hrow]
  rfl

/-- A load finds the task or says that there is none. -/
theorem Kept.load_task_avoids (h : store.Kept sha config) :
    Avoids .CorruptData (load_task sha store key) fun task =>
    ∃ row, store.tasks.get? key = some row ∧ task = store.record_of row := by
  rw [h.load_task_eq]
  cases hrow : store.tasks.get? key with
  | none => exact Avoids.error (by decide)
  | some row => exact Avoids.ok ⟨row, rfl, rfl⟩

end TaskTables

end Konclave.A2A
