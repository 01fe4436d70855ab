/-
`Konclave.A2ATaskStoreSqlite`: what the writes do.

A write concerns one key: it appends a status, a message or an artifact there, starts a
task, or prunes one. What was kept under the other keys is kept, and the task itself goes
on: its identity stays, its rows are only appended to until their content is pruned, and a
terminal task changes no more (`GoesOn`).
-/
import Konclave.A2A.TaskReads

set_option autoImplicit false

namespace Konclave.A2A

open Domain UniqueTable List

/-! ## Rows as they are written -/

variable {δ : Type} (sha : Sha256 δ)

/-- The row of a message at a sequence. -/
def A2ATaskMessage.row (message : A2ATaskMessage) (sequence : ℕ) : MessageRow δ :=
  ⟨message.key, sequence, message.message_id, message.role, message.text,
    message.identity_digest sha, message.recorded_at_unix_milliseconds⟩

/-- The row of an artifact at a sequence. -/
def A2ATaskArtifact.row (artifact : A2ATaskArtifact) (sequence : ℕ) : ArtifactRow δ :=
  ⟨artifact.key, sequence, artifact.artifact_id, artifact.content_digest sha,
    artifact.canonical_bytes, artifact.complete, artifact.identity_digest sha,
    artifact.recorded_at_unix_milliseconds⟩

/-- The status a transition adds to the history of a task. -/
def A2ATaskTransition.status (transition : A2ATaskTransition) (generation : ℕ) : StatusRow :=
  ⟨transition.key, generation, transition.state, transition.terminal_reason,
    transition.occurred_at_unix_milliseconds⟩

variable {sha} {config : A2ASqliteTaskStoreConfig}
  {store store' : TaskTables δ} {key : A2ATaskKey} {row : TaskRow δ}
  {message : A2ATaskMessage} {artifact : A2ATaskArtifact} {transition : A2ATaskTransition}
  {sequence : ℕ} {times : Option ℕ × Option ℕ × Option ℕ}

/-! ## How a task goes on

What a task keeps as the store changes: its row but for its state, and what is stored for it. -/

theorem key_of_task (h : store.tasks.get? key = some row) : row.identity.key = key :=
  (Table.get?_iff.1 h).2

namespace TaskTables

/-- Two states hold the same under a key. -/
structure SameAt (store store' : TaskTables δ) (key : A2ATaskKey) : Prop where
  task : store'.tasks.get? key = store.tasks.get? key
  statuses : store'.statuses_of key = store.statuses_of key
  messages : store'.messages_of key = store.messages_of key
  artifacts : store'.artifacts_of key = store.artifacts_of key

/-- The row of a task and the rows under its key, in one state and a later one. -/
structure GoesOn (store store' : TaskTables δ) (row row' : TaskRow δ) : Prop where
  identity : row'.identity = row.identity
  created : row'.created_at_unix_milliseconds = row.created_at_unix_milliseconds
  statuses : store.statuses_of row.identity.key <+: store'.statuses_of row.identity.key
  ended : a2a_task_state_is_terminal row.state = true →
    row' = { row with content_pruned := row'.content_pruned }
      ∧ store'.statuses_of row.identity.key = store.statuses_of row.identity.key
  pruned : row.content_pruned = true → row'.content_pruned = true
  messages : row'.content_pruned = false →
    store.messages_of row.identity.key <+: store'.messages_of row.identity.key
  artifacts : row'.content_pruned = false →
    store.artifacts_of row.identity.key <+: store'.artifacts_of row.identity.key
  closed : a2a_task_state_is_terminal row.state = true → row'.content_pruned = false →
    store'.messages_of row.identity.key = store.messages_of row.identity.key
      ∧ store'.artifacts_of row.identity.key = store.artifacts_of row.identity.key

/-- The task under a key is still there, and has gone on. -/
def Lasts (store store' : TaskTables δ) (key : A2ATaskKey) : Prop :=
  ∀ row, store.tasks.get? key = some row →
    ∃ row', store'.tasks.get? key = some row' ∧ store.GoesOn store' row row'

theorem SameAt.lasts (h : store.SameAt store' key) : store.Lasts store' key := by
  intro row hrow
  have hkey : row.identity.key = key := key_of_task hrow
  subst hkey
  refine ⟨row, h.task.trans hrow, rfl, rfl, ?_, ?_, id, ?_, ?_, ?_⟩
  · exact h.statuses ▸ prefix_refl _
  · exact fun _ => ⟨rfl, h.statuses⟩
  · exact fun _ => h.messages ▸ prefix_refl _
  · exact fun _ => h.artifacts ▸ prefix_refl _
  · exact fun _ _ => ⟨h.messages, h.artifacts⟩

theorem Lasts.refl (store : TaskTables δ) (key : A2ATaskKey) : store.Lasts store key :=
  SameAt.lasts ⟨rfl, rfl, rfl, rfl⟩

theorem GoesOn.trans {store'' : TaskTables δ} {row' row'' : TaskRow δ}
    (h : store.GoesOn store' row row') (h' : store'.GoesOn store'' row' row'') :
    store.GoesOn store'' row row'' := by
  have hkept : row''.content_pruned = false → row'.content_pruned = false := by
    intro hfalse
    by_contra htrue
    rw [h'.pruned (by simpa using htrue)] at hfalse
    cases hfalse
  obtain ⟨hident, hcreated, hsts, hended, hpruned, hmsgs, hart, hclosed⟩ := h'
  rw [h.identity] at hsts hended hmsgs hart hclosed
  have hstate : a2a_task_state_is_terminal row.state = true →
      a2a_task_state_is_terminal row'.state = true := by
    intro hterm
    rw [(h.ended hterm).1]
    exact hterm
  refine ⟨hident.trans h.identity, hcreated.trans h.created, h.statuses.trans hsts, ?_,
    fun htrue => hpruned (h.pruned htrue), ?_, ?_, ?_⟩
  · intro hterm
    obtain ⟨hrow, hsame⟩ := h.ended hterm
    obtain ⟨hrow', hsame'⟩ := hended (hstate hterm)
    refine ⟨?_, hsame'.trans hsame⟩
    rw [hrow', hrow]
  · exact fun hfalse => (h.messages (hkept hfalse)).trans (hmsgs hfalse)
  · exact fun hfalse => (h.artifacts (hkept hfalse)).trans (hart hfalse)
  · intro hterm hfalse
    obtain ⟨hsame, hsame'⟩ := h.closed hterm (hkept hfalse)
    obtain ⟨hlater, hlater'⟩ := hclosed (hstate hterm) hfalse
    exact ⟨hlater.trans hsame, hlater'.trans hsame'⟩

theorem Lasts.trans {store'' : TaskTables δ} (h : store.Lasts store' key)
    (h' : store'.Lasts store'' key) : store.Lasts store'' key := by
  intro row hrow
  obtain ⟨row', hrow', hgoes⟩ := h row hrow
  obtain ⟨row'', hrow'', hgoes'⟩ := h' row' hrow'
  exact ⟨row'', hrow'', hgoes.trans hgoes'⟩

theorem GoesOn.lasts {row' : TaskRow δ} (hrow : store.tasks.get? key = some row)
    (hrow' : store'.tasks.get? key = some row') (h : store.GoesOn store' row row') :
    store.Lasts store' key := by
  intro other hother
  rw [hrow] at hother
  cases hother
  exact ⟨row', hrow', h⟩

end TaskTables

/-- After a write under one key every task goes on, if the task under that key does. -/
theorem TaskTables.Lasts.write (h : store.Lasts store' key)
    (hsame : ∀ other, other ≠ key → store.SameAt store' other) (other : A2ATaskKey) :
    store.Lasts store' other := by
  by_cases heq : other = key
  · exact heq ▸ h
  · exact (hsame other heq).lasts

/-! ## Rows of one owner

The tables hold the rows of all tasks; each lemma is about those of one. -/

theorem to_sql_eq_ok {value sql : ℕ} : to_sql value = .ok sql ↔ value ≤ I64_MAX ∧ sql = value := by
  rw [to_sql]
  split
  · rename_i h
    rw [Except.ok.injEq, eq_comm, and_iff_right h]
  · rename_i h
    simp [h]

theorem to_sql_avoids (value : ℕ) : Avoids A2ATaskStoreError.CorruptData (to_sql value) fun sql =>
    value ≤ I64_MAX ∧ sql = value := by
  cases h : to_sql value with
  | ok sql => exact to_sql_eq_ok.1 h
  | error e =>
    rw [to_sql] at h
    split at h
    · cases h
    · cases h
      exact Avoids.error (by decide)

theorem to_sql_option_avoids (value : Option ℕ) :
    Avoids A2ATaskStoreError.CorruptData (to_sql_option value) fun _ => True := by
  cases value with
  | none => exact trivial
  | some value => exact Avoids.map ((to_sql_avoids value).mono fun _ _ => trivial)

theorem filter_owner_concat {V : Type} (owner : V → A2ATaskKey) (rows : List V) (row : V) :
    (rows ++ [row]).filter (fun other => owner other = key)
    = rows.filter (fun other => owner other = key) ++ if owner row = key then [row] else [] := by
  rw [filter_append, filter_singleton]
  by_cases h : owner row = key <;> simp [h]

theorem filter_owner_delete {V : Type} (owner : V → A2ATaskKey) (rows : List V)
    (deleted key : A2ATaskKey) :
    (rows.filter fun row => !decide (owner row = deleted)).filter (fun row => owner row = key)
    = if key = deleted then [] else rows.filter fun row => owner row = key := by
  rw [filter_filter]
  by_cases h : key = deleted
  · rw [if_pos h, filter_eq_nil_iff]
    intro row _
    simp [h]
  · rw [if_neg h]
    refine filter_congr fun row _ => ?_
    by_cases hrow : owner row = key
    · simp [hrow, h]
    · simp [hrow]

/-! ## Rows that are inserted

An insertion appends to the rows of its owner and adds its bytes to the total. -/

theorem insert_message_avoids :
    Avoids .CorruptData (insert_message sha store message sequence) fun store' =>
    ∃ messages, store.messages.insert? (message.row sha sequence) = some messages
      ∧ store' = { store with messages } := by
  refine (to_sql_avoids _).bind fun _ hseq => (to_sql_avoids _).bind fun _ htime => ?_
  rw [hseq.2, htime.2]
  exact (Avoids.some_or (by nofun)).bind fun messages hmsgs =>
    Avoids.ok ⟨messages, hmsgs, rfl⟩

theorem messages_of_insert {messages}
    (h : store.messages.insert? (message.row sha sequence) = some messages) (key : A2ATaskKey) :
    ({ store with messages } : TaskTables δ).messages_of key
    = store.messages_of key ++ if message.key = key then [message.row sha sequence] else [] := by
  have hrows := (insert?_eq_some h).2
  unfold TaskTables.messages_of
  rw [hrows]
  exact filter_owner_concat _ _ _

theorem payload_insert_message {messages}
    (h : store.messages.insert? (message.row sha sequence) = some messages) :
    retained_payload_bytes { store with messages }
    = retained_payload_bytes store + message.text.utf8ByteSize := by
  have hsum : (messages.rows.map (·.text.utf8ByteSize)).sum
      = (store.messages.rows.map (·.text.utf8ByteSize)).sum + message.text.utf8ByteSize := by
    rw [(insert?_eq_some h).2, map_append, sum_append, map_singleton, sum_singleton]
    rfl
  simp only [retained_payload_bytes, hsum]
  omega

theorem insert_artifact_avoids :
    Avoids .CorruptData (insert_artifact sha store artifact sequence) fun store' =>
    ∃ artifacts, store.artifacts.insert? (artifact.row sha sequence) = some artifacts
      ∧ store' = { store with artifacts } := by
  refine (to_sql_avoids _).bind fun _ hseq => (to_sql_avoids _).bind fun _ htime => ?_
  rw [hseq.2, htime.2]
  exact (Avoids.some_or (by nofun)).bind fun artifacts hart =>
    Avoids.ok ⟨artifacts, hart, rfl⟩

theorem artifacts_of_insert {artifacts}
    (h : store.artifacts.insert? (artifact.row sha sequence) = some artifacts) (key : A2ATaskKey) :
    ({ store with artifacts } : TaskTables δ).artifacts_of key
    = store.artifacts_of key ++ if artifact.key = key then [artifact.row sha sequence] else [] := by
  have hrows := (insert?_eq_some h).2
  unfold TaskTables.artifacts_of
  rw [hrows]
  exact filter_owner_concat _ _ _

theorem payload_insert_artifact {artifacts}
    (h : store.artifacts.insert? (artifact.row sha sequence) = some artifacts) :
    retained_payload_bytes { store with artifacts }
    = retained_payload_bytes store + artifact.canonical_bytes.length := by
  have hsum : (artifacts.rows.map (·.canonical_bytes.length)).sum
      = (store.artifacts.rows.map (·.canonical_bytes.length)).sum
        + artifact.canonical_bytes.length := by
    rw [(insert?_eq_some h).2, map_append, sum_append, map_singleton, sum_singleton]
    rfl
  simp only [retained_payload_bytes, hsum]
  omega

theorem insert_status_avoids (generation : ℕ)
    (state : A2ATaskState) (reason : Option A2ATerminalReason) (occurred_at : ℕ) :
    Avoids .CorruptData (insert_status store key generation state reason occurred_at) fun store' =>
    ∃ statuses, store.statuses.insert? ⟨key, generation, state, reason, occurred_at⟩
      = some statuses ∧ store' = { store with statuses } := by
  refine (to_sql_avoids _).bind fun _ hgen => (to_sql_avoids _).bind fun _ htime => ?_
  rw [hgen.2, htime.2]
  exact (Avoids.some_or (by nofun)).bind fun statuses hsts =>
    Avoids.ok ⟨statuses, hsts, rfl⟩

theorem statuses_of_insert {status : StatusRow} {statuses}
    (h : store.statuses.insert? status = some statuses) :
    ({ store with statuses } : TaskTables δ).statuses_of key
    = store.statuses_of key ++ if status.key = key then [status] else [] := by
  have hrows := (Table.insert?_iff.1 h).2
  unfold TaskTables.statuses_of
  rw [hrows]
  exact filter_owner_concat _ _ _

/-! ## Transitions -/

/-- A terminal state expires, its content before its row; any other does not. -/
theorem terminal_times_eq_ok (h : terminal_times config transition = .ok times) :
    (a2a_task_state_is_terminal transition.state = false ∧ times = (none, none, none))
    ∨ (a2a_task_state_is_terminal transition.state = true
      ∧ times = (some transition.occurred_at_unix_milliseconds,
        some (transition.occurred_at_unix_milliseconds + config.content_retention_milliseconds),
        some (transition.occurred_at_unix_milliseconds
          + config.idempotency_retention_milliseconds))) := by
  unfold terminal_times at h
  split at h
  · rename_i hterm
    simp only [bind_ok, some_or_eq_ok, checked_add_iff] at h
    obtain ⟨_, ⟨-, rfl⟩, _, ⟨-, rfl⟩, htimes⟩ := h
    cases htimes
    exact .inr ⟨hterm, rfl⟩
  · rename_i hterm
    cases h
    exact .inl ⟨by simpa using hterm, rfl⟩

theorem terminal_times_avoids : Avoids .CorruptData (terminal_times config transition) fun times =>
    terminal_times config transition = .ok times := by
  unfold terminal_times
  split
  · refine (Avoids.some_or (by nofun)).bind fun content h =>
      (Avoids.some_or (by nofun)).bind fun tombstone htombstone => Avoids.ok ?_
    rw [some_or_bind h, some_or_bind htombstone]
    rfl
  · exact Avoids.ok rfl

theorem A2ASqliteTaskStoreConfig.bounds (h : config.validate = .ok ()) :
    config.max_messages_per_task ≤ MAX_PAGE_SIZE ∧ config.max_artifacts_per_task ≤ MAX_PAGE_SIZE
    ∧ 2 ≤ config.max_messages_per_task
    ∧ config.content_retention_milliseconds < config.idempotency_retention_milliseconds := by
  have hvalid := require_eq_ok.1 h
  push Not at hvalid
  obtain ⟨-, -, htwo, hmsgs, -, hart, -, -, -, -, -, -, hretention, -⟩ := hvalid
  exact ⟨hmsgs, hart, htwo, hretention⟩

/-- The row of a task after a transition has a valid shape. -/
theorem TaskRow.transitioned_shape (hcfg : config.validate = .ok ())
    (hsound : row.Sound sha store) (hall : transition.Allowed (store.record_of row))
    (htimes : terminal_times config transition = .ok times) :
    let next := row.transitioned transition (row.generation + 1) times
    validate_a2a_task_shape next.state next.generation next.updated_at_unix_milliseconds
      next.terminal_at_unix_milliseconds next.terminal_reason next.content_pruned
      next.content_expires_at_unix_milliseconds next.tombstone_expires_at_unix_milliseconds
        = .ok () := by
  have hone : row.generation ≤ 1 := generation_le_one hsound.history hall.state
  have hretention := (config.bounds hcfg).2.2.2
  have hreason := hall.reason
  have hopen : a2a_task_state_is_terminal row.state = false := by
    by_contra hterm
    have hstate : a2a_task_state_transition_is_allowed row.state transition.state = true :=
      hall.state
    rw [not_allowed_of_terminal (by simpa using hterm)] at hstate
    cases hstate
  -- a task that is not terminal still has its content
  have hpruned : row.content_pruned = false := by
    have hshape := require_eq_ok.1 hsound.shape
    push Not at hshape
    simpa using (hshape.2.2.1 hopen).2.2.1
  refine require_eq_ok.2 ?_
  rcases terminal_times_eq_ok htimes with ⟨hstate, rfl⟩ | ⟨hstate, rfl⟩
  · have hnone : transition.terminal_reason = none := by
      cases hcase : transition.state <;> simp_all [a2a_task_state_is_terminal,
        a2a_task_status_reason_is_valid]
    simp [TaskRow.transitioned, hstate, hpruned, hnone, hnone ▸ hreason]
    omega
  · simp [TaskRow.transitioned, hstate, hreason, later_than]
    omega

namespace TaskTables

theorem transitioned_key (transition : A2ATaskTransition) (generation : ℕ)
    (times : Option ℕ × Option ℕ × Option ℕ) (row : TaskRow δ) :
    (row.transitioned transition generation times).identity.key = row.identity.key := rfl

/-- The tables after a transition. -/
def transitioned (store : TaskTables δ) (transition : A2ATaskTransition)
    (generation : ℕ) (times : Option ℕ × Option ℕ × Option ℕ)
    (statuses : Table (A2ATaskKey × ℕ) StatusRow fun row => (row.key, row.generation)) :
    TaskTables δ :=
  { store with
    tasks := store.tasks.update transition.key
      (fun row => row.transitioned transition generation times)
      (transitioned_key transition generation times)
    statuses }

theorem get?_transitioned (store : TaskTables δ) (transition : A2ATaskTransition)
    (generation : ℕ) (times : Option ℕ × Option ℕ × Option ℕ) (statuses) (key : A2ATaskKey) :
    (store.transitioned transition generation times statuses).tasks.get? key
    = if key = transition.key
      then (store.tasks.get? key).map fun row => row.transitioned transition generation times
      else store.tasks.get? key :=
  Table.get?_update store.tasks transition.key
    (fun row => row.transitioned transition generation times) (fun _ => rfl) key

end TaskTables

/-! ## Keys that are left alone

A write under one key keeps the invariant at the others, so only its own is looked at. -/

variable [DecidableEq δ]

namespace TaskTables

/-- The context of the task under a key is still there. -/
def ContextStays (store store' : TaskTables δ) (key : A2ATaskKey) : Prop :=
  ∀ row, store.tasks.get? key = some row → ∀ context,
    store.contexts.get? row.identity.context_key = some context →
      store'.contexts.get? row.identity.context_key = some context

theorem KeptAt.frame (h : store.KeptAt sha config key) (hsame : store.SameAt store' key)
    (hctx : store.ContextStays store' key) : store'.KeptAt sha config key where
  messages := hsame.messages ▸ h.messages
  artifacts := hsame.artifacts ▸ h.artifacts
  task := by
    intro row hrow
    rw [hsame.task] at hrow
    have hkey : row.identity.key = key := key_of_task hrow
    have hsound := h.task row hrow
    subst hkey
    obtain ⟨context, hget, hbinding⟩ := hsound.bound
    exact
      { shape := hsound.shape
        mapped := hsound.mapped
        digest := hsound.digest
        created := hsound.created
        bound := ⟨context, hctx row hrow context hget, hbinding⟩
        history := by rw [hsame.statuses]; exact hsound.history
        request := by rw [hsame.messages]; exact hsound.request
        pruned := by rw [hsame.messages, hsame.artifacts]; exact hsound.pruned }
  absent := by
    rw [hsame.task, hsame.statuses, hsame.messages, hsame.artifacts]
    exact h.absent

theorem KeptAt.of_task (hbody : store.ContentKept sha config key)
    (hrow : store.tasks.get? key = some row) (hsound : row.Sound sha store) :
    store.KeptAt sha config key where
  toContentKept := hbody
  task := by
    intro other hother
    rw [hrow] at hother
    cases hother
    exact hsound
  absent := by
    intro hnone
    rw [hrow] at hnone
    cases hnone

/-- A write under one key keeps the tables if it keeps what is under that key. -/
theorem Kept.write (h : store.Kept sha config)
    (hsame : ∀ other, other ≠ key → store.SameAt store' other)
    (hctxs : store'.contexts = store.contexts) (hkey : store'.KeptAt sha config key)
    (htasks : store'.tasks.rows.length ≤ config.max_tasks)
    (hpay : retained_payload_bytes store' ≤ config.max_payload_bytes) : store'.Kept sha config := by
  refine ⟨fun other => ?_, htasks, hctxs ▸ h.contexts_le, hpay⟩
  by_cases heq : other = key
  · exact heq ▸ hkey
  · refine (h.under other).frame (hsame other heq) ?_
    intro row _ context hctx
    rw [hctxs]
    exact hctx

/-- Content appended under the key of a task keeps what was kept there. -/
theorem Kept.append (h : store.Kept sha config)
    (hrow : store.tasks.get? key = some row) (hkept : row.content_pruned = false)
    (hopen : a2a_task_state_is_terminal row.state = false)
    (htables : store'.tasks = store.tasks ∧ store'.contexts = store.contexts
      ∧ store'.statuses = store.statuses)
    (hother : ∀ other, other ≠ key → store'.messages_of other = store.messages_of other
      ∧ store'.artifacts_of other = store.artifacts_of other)
    (hmsgs : store.messages_of key <+: store'.messages_of key)
    (hart : store.artifacts_of key <+: store'.artifacts_of key)
    (hbody : store'.ContentKept sha config key)
    (hpay : retained_payload_bytes store' ≤ config.max_payload_bytes) :
    store'.Kept sha config ∧ ∀ key, store.Lasts store' key := by
  obtain ⟨htasks, hctxs, hsts⟩ := htables
  have hsts : ∀ other, store'.statuses_of other = store.statuses_of other := by
    intro other
    rw [TaskTables.statuses_of, hsts]
    rfl
  have hsame : ∀ other, other ≠ key → store.SameAt store' other := fun other hne =>
    ⟨by rw [htasks], hsts other, (hother other hne).1, (hother other hne).2⟩
  have hsound := (h.under key).task row hrow
  have hrow' : store'.tasks.get? key = some row := by rw [htasks, hrow]
  have hkey := key_of_task hrow
  subst hkey
  have hsound' : row.Sound sha store' := by
    obtain ⟨first, rest, hfirst, hrequest⟩ := hsound.request hkept
    obtain ⟨added, hadded⟩ := id hmsgs
    refine ⟨hsound.shape, hsound.mapped, hsound.digest, hsound.created,
      by rw [hctxs]; exact hsound.bound,
      by rw [hsts]; exact hsound.history, ?_, ?_⟩
    · intro _
      exact ⟨first, rest ++ added, by rw [← hadded, hfirst]; rfl, hrequest⟩
    · intro hpruned
      rw [hkept] at hpruned
      cases hpruned
  have hgoes : store.GoesOn store' row row := by
    refine ⟨rfl, rfl, hsts _ ▸ prefix_refl _, fun _ => ⟨rfl, hsts _⟩, id, fun _ => hmsgs,
      fun _ => hart, fun hterm => ?_⟩
    rw [hopen] at hterm
    cases hterm
  exact ⟨h.write hsame hctxs (.of_task hbody hrow' hsound') (htasks ▸ h.tasks_le) hpay,
    (hgoes.lasts hrow hrow').write hsame⟩

/-! ## What is kept

The three writes keep the invariant, each because of what was checked before it. -/

theorem read_message_row : read_message sha message.key (message.row sha sequence) = .ok message :=
  read_message_eq_ok.2 ⟨message.text_fits, rfl, rfl⟩

/-- A message that fits is kept, as the last of its task. -/
theorem Kept.insert_message (h : store.Kept sha config)
    (hrow : store.tasks.get? message.key = some row) (hkept : row.content_pruned = false)
    (hopen : a2a_task_state_is_terminal row.state = false)
    (hcount : (store.messages_of message.key).length < config.max_messages_per_task)
    (hpay : retained_payload_bytes store + message.text.utf8ByteSize ≤ config.max_payload_bytes)
    (hseq : sequence = (store.messages_of message.key).length + 1) {messages}
    (hmsgs : store.messages.insert? (message.row sha sequence) = some messages) :
    ({ store with messages } : TaskTables δ).Kept sha config
    ∧ ∀ key, store.Lasts { store with messages } key := by
  have hof := messages_of_insert hmsgs
  have hself := hof message.key
  rw [if_pos rfl] at hself
  have hat := h.under message.key
  refine h.append hrow hkept hopen ⟨rfl, rfl, rfl⟩ ?_ ?_ prefix_rfl ⟨?_, hat.artifacts⟩ ?_
  · intro key hkey
    rw [hof, if_neg fun heq => hkey heq.symm, append_nil]
    exact ⟨rfl, rfl⟩
  · rw [hself]
    exact prefix_append _ _
  · rw [hself]
    exact hat.messages.concat hcount hseq read_message_row
  · rw [payload_insert_message hmsgs]
    exact hpay

/-- An artifact that fits is kept, as the last of its task. -/
theorem Kept.insert_artifact (h : store.Kept sha config)
    (hrow : store.tasks.get? artifact.key = some row) (hkept : row.content_pruned = false)
    (hopen : a2a_task_state_is_terminal row.state = false)
    (hcount : (store.artifacts_of artifact.key).length < config.max_artifacts_per_task)
    (hpay : retained_payload_bytes store + artifact.canonical_bytes.length
      ≤ config.max_payload_bytes)
    (hseq : sequence = (store.artifacts_of artifact.key).length + 1) {artifacts}
    (hart : store.artifacts.insert? (artifact.row sha sequence) = some artifacts) :
    ({ store with artifacts } : TaskTables δ).Kept sha config
    ∧ ∀ key, store.Lasts { store with artifacts } key := by
  have hof := artifacts_of_insert hart
  have hself := hof artifact.key
  rw [if_pos rfl] at hself
  have hat := h.under artifact.key
  refine h.append hrow hkept hopen ⟨rfl, rfl, rfl⟩ ?_ prefix_rfl ?_ ⟨hat.messages, ?_⟩ ?_
  · intro key hkey
    rw [hof, if_neg fun heq => hkey heq.symm, append_nil]
    exact ⟨rfl, rfl⟩
  · rw [hself]
    exact prefix_append _ _
  · rw [hself]
    exact hat.artifacts.concat hcount hseq
      (read_artifact_eq_ok.2 ⟨artifact.bytes_fit, rfl, rfl, rfl⟩)
  · rw [payload_insert_artifact hart]
    exact hpay

/-- An allowed transition adds one status, and changes nothing else but the task. -/
theorem Kept.transitioned (h : store.Kept sha config)
    (hcfg : config.validate = .ok ()) (hrow : store.tasks.get? transition.key = some row)
    (hall : transition.Allowed (store.record_of row))
    (htimes : terminal_times config transition = .ok times) {statuses}
    (hins : store.statuses.insert? (transition.status (row.generation + 1)) = some statuses) :
    (store.transitioned transition (row.generation + 1) times statuses).Kept sha config
    ∧ ∀ key, store.Lasts (store.transitioned transition (row.generation + 1) times statuses)
      key := by
  have hself := store.get?_transitioned transition (row.generation + 1) times statuses
    transition.key
  rw [if_pos rfl, hrow, Option.map_some] at hself
  have hof (key : A2ATaskKey) :
      (store.transitioned transition (row.generation + 1) times statuses).statuses_of key
      = _ := statuses_of_insert hins
  have hsts := hof transition.key
  rw [A2ATaskTransition.status, if_pos rfl] at hsts
  have hsame : ∀ key, key ≠ transition.key → store.SameAt
      (store.transitioned transition (row.generation + 1) times statuses) key := by
    intro key hne
    refine ⟨?_, ?_, rfl, rfl⟩
    · rw [store.get?_transitioned, if_neg hne]
    · rw [hof, if_neg fun heq => hne heq.symm, append_nil]
  have hat := h.under transition.key
  have hsound := hat.task row hrow
  have hkey : row.identity.key = transition.key := key_of_task hrow
  refine ⟨h.write hsame rfl (.of_task ⟨hat.messages, hat.artifacts⟩ hself ?_) ?_ h.payload_le,
    Lasts.write (GoesOn.lasts hrow hself ?_) hsame⟩
  · refine ⟨TaskRow.transitioned_shape hcfg hsound hall htimes, hsound.mapped,
      hsound.digest, hsound.created, hsound.bound, ?_, hsound.request, hsound.pruned⟩
    have hnext : (row.transitioned transition (row.generation + 1) times).identity.key
      = transition.key := hkey
    rw [hnext, hsts, map_append, ← hkey]
    exact history_concat hsound.history ⟨hall.key, hall.generation, hall.state,
      hall.reason, hall.time⟩ rfl ⟨rfl, rfl, rfl, rfl⟩
  · have hlen : (store.transitioned transition (row.generation + 1) times
        statuses).tasks.rows.length = store.tasks.rows.length := length_map _
    rw [hlen]
    exact h.tasks_le
  · refine ⟨rfl, rfl, ?_, ?_, id, fun _ => prefix_rfl, fun _ => prefix_rfl, fun _ _ => ⟨rfl, rfl⟩⟩
    · rw [hkey, hsts]
      exact prefix_append _ _
    · -- nothing is allowed from a terminal state
      intro hterm
      have hstate : a2a_task_state_transition_is_allowed row.state transition.state = true :=
        hall.state
      rw [not_allowed_of_terminal hterm] at hstate
      cases hstate

end TaskTables

end Konclave.A2A
