/-
`Konclave.A2ATaskStoreSqlite`: what goes, and what begins.

Pruning takes one due task at a time: first its content, and later, when its tombstone is
due as well, the task with its history. Contexts that no task is left in go with it. A new
task is created after such a pruning, under a context bound to its conversation.
-/
import Konclave.A2A.TaskWrites
import Mathlib.Algebra.Order.BigOperators.Group.List
import Mathlib.Algebra.Order.Group.Nat

set_option autoImplicit false

namespace Konclave.A2A

open Domain Table List

variable {δ : Type} {sha : Sha256 δ} {config : A2ASqliteTaskStoreConfig}
  {store store' : TaskTables δ} {key : A2ATaskKey} {row : TaskRow δ} {deleted : A2ATaskKey}
  {now : ℕ} {candidate : RetentionCandidate} {creation : A2ATaskCreation}

/-! ## Candidates

The next candidate is a task whose deadline has passed. -/

/-- A candidate is a task with content that expires, or a tombstone. -/
theorem TaskRow.candidate?_eq_some
    (h : row.candidate? now = some candidate) : candidate.key = row.identity.key
    ∧ ((candidate.kind = .Payload ∧ row.content_expires_at_unix_milliseconds ≠ none)
      ∨ candidate.kind = .Tombstone) := by
  unfold TaskRow.candidate? at h
  split at h
  · obtain ⟨_, -, rfl⟩ := Option.map_eq_some_iff.1 h
    exact ⟨rfl, .inr rfl⟩
  · obtain ⟨deadline, hdeadline, rfl⟩ := Option.map_eq_some_iff.1 h
    have hsome := (Option.filter_eq_some_iff.1 hdeadline).1
    exact ⟨rfl, .inl ⟨rfl, by rw [hsome]; exact Option.some_ne_none _⟩⟩

theorem next_retention_candidate_avoids :
    Avoids .CorruptData (next_retention_candidate store now) fun candidate? =>
    ∀ candidate, candidate? = some candidate →
      ∃ row ∈ store.tasks.rows, row.candidate? now = some candidate := by
  refine (to_sql_avoids now).bind fun _ hnow => Avoids.ok ?_
  rw [hnow.2]
  intro candidate hcandidate
  have hmem := mem_of_mem_head? hcandidate
  rw [mem_insertionSort, mem_filterMap] at hmem
  exact hmem

/-! ## Deleting

Deleting what one key owns leaves every other key as it was. -/

theorem messages_of_delete (store : TaskTables δ) (deleted key : A2ATaskKey) :
    (delete_payloads store deleted).messages_of key
    = if key = deleted then [] else store.messages_of key :=
  filter_owner_delete _ _ _ _

theorem artifacts_of_delete : (delete_payloads store deleted).artifacts_of key
    = if key = deleted then [] else store.artifacts_of key :=
  filter_owner_delete _ _ _ _

theorem payload_delete_le :
    retained_payload_bytes (delete_payloads store deleted) ≤ retained_payload_bytes store := by
  refine Nat.add_le_add ?_ ?_
  · exact (delete_sublist.map _).sum_le_sum fun _ _ => Nat.zero_le _
  · exact (delete_sublist.map _).sum_le_sum fun _ _ => Nat.zero_le _

theorem TaskTables.sameAt_delete_task (store : TaskTables δ)
    (hne : key ≠ deleted) : store.SameAt (delete_task store deleted) key := by
  refine ⟨?_, ?_, ?_, ?_⟩
  · refine (get?_delete _ _ _).trans ?_
    cases hrow : store.tasks.get? key with
    | none => rfl
    | some row => simpa [key_of_task hrow] using hne
  · exact (filter_owner_delete _ _ _ _).trans (if_neg hne)
  · exact (messages_of_delete store deleted key).trans (if_neg hne)
  · exact artifacts_of_delete.trans (if_neg hne)

theorem get?_delete_task (store : TaskTables δ) (deleted : A2ATaskKey) :
    (delete_task store deleted).tasks.get? deleted = none := by
  refine (get?_delete _ _ _).trans ?_
  refine Option.filter_eq_none_iff.2 fun row hrow => ?_
  simp [key_of_task hrow]

/-- The content of a task is gone, and the row says so. -/
abbrev prune_payload (store : TaskTables δ) (key : A2ATaskKey) : TaskTables δ :=
  mark_pruned (delete_payloads store key) key

theorem get?_prune_payload (store : TaskTables δ) (pruned key : A2ATaskKey) :
    (prune_payload store pruned).tasks.get? key
    = if key = pruned then (store.tasks.get? key).map fun row => { row with content_pruned := true }
      else store.tasks.get? key :=
  get?_update store.tasks pruned (fun row => { row with content_pruned := true }) (fun _ => rfl) key

theorem TaskTables.sameAt_prune_payload (store : TaskTables δ) {pruned : A2ATaskKey}
    (hne : key ≠ pruned) : store.SameAt (prune_payload store pruned) key := by
  refine ⟨?_, rfl, ?_, ?_⟩
  · rw [get?_prune_payload, if_neg hne]
  · exact (messages_of_delete store pruned key).trans (if_neg hne)
  · exact artifacts_of_delete.trans (if_neg hne)

/-! ## Tasks that are kept or gone

One relation says what pruning may do: a task is as it was, has lost its content, or is gone. -/

/-- What pruning does: a task lasts or is gone, and what is left of one is what it was, but
for its content. -/
structure TaskTables.Prunes (store store' : TaskTables δ) : Prop where
  goes : ∀ key, store.Lasts store' key ∨ store'.tasks.get? key = none
  left : ∀ key row', store'.tasks.get? key = some row' →
    ∃ row, store.tasks.get? key = some row
      ∧ row' = { row with content_pruned := row'.content_pruned }

theorem TaskTables.Prunes.of_same (h : ∀ key, store.SameAt store' key) : store.Prunes store' where
  goes key := .inl (h key).lasts
  left key row' hrow' := ⟨row', (h key).task.symm.trans hrow', rfl⟩

theorem TaskTables.Prunes.adds_none (h : store.Prunes store')
    (hnone : store.tasks.get? key = none) : store'.tasks.get? key = none := by
  cases hrow' : store'.tasks.get? key with
  | none => rfl
  | some row' =>
    obtain ⟨row, hrow, -⟩ := h.left key row' hrow'
    rw [hnone] at hrow
    cases hrow

theorem TaskTables.Prunes.trans {store'' : TaskTables δ} (h : store.Prunes store')
    (h' : store'.Prunes store'') : store.Prunes store'' where
  goes key := by
    rcases h.goes key with hlasts | hgone
    · rcases h'.goes key with hlasts' | hgone'
      · exact .inl (hlasts.trans hlasts')
      · exact .inr hgone'
    · exact .inr (h'.adds_none hgone)
  left key row'' hrow'' := by
    obtain ⟨row', hrow', heq'⟩ := h'.left key row'' hrow''
    obtain ⟨row, hrow, heq⟩ := h.left key row' hrow'
    refine ⟨row, hrow, ?_⟩
    rw [heq', heq]

theorem get?_delete_orphans (hrow : store.tasks.get? key = some row) {context : ContextRow}
    (hctx : store.contexts.get? row.identity.context_key = some context) :
    (delete_orphans store).contexts.get? row.identity.context_key = some context := by
  refine (get?_delete _ _ _).trans ?_
  have hkey : context.key = row.identity.context_key := (get?_iff.1 hctx).2
  have hmem := (get?_iff.1 hrow).1
  have hused : (store.tasks.rows.any fun task => task.identity.context_key = context.key) = true :=
    any_eq_true.2 ⟨row, hmem, by simp [hkey]⟩
  rw [hctx, Option.filter_some, hused]
  rfl

/-! ## Creation

A creation binds its context and adds one task with its first status and message. -/

/-- The context of a task is there, bound to its conversation and device. -/
def TaskTables.Bound (store : TaskTables δ) (identity : A2ATaskIdentity) : Prop :=
  ∃ context, store.contexts.get? identity.context_key = some context
    ∧ context.conversation_id = identity.conversation_id
    ∧ context.target_device_id = identity.target_device_id

/-- The state between binding a context and inserting its task. -/
structure TaskTables.Binds (store store' : TaskTables δ) (identity : A2ATaskIdentity) : Prop where
  tasks : store'.tasks = store.tasks
  same : ∀ key, store.SameAt store' key
  bound : store'.Bound identity
  contexts : ∀ context ∈ store'.contexts.rows,
    context ∈ store.contexts.rows ∨ context.key = identity.context_key

/-- The first status of a task. -/
def A2ATaskCreation.status (creation : A2ATaskCreation) : StatusRow :=
  ⟨creation.identity.key, 0, .Submitted, none, creation.created_at_unix_milliseconds⟩

/-- The tables with a task that was just created. -/
structure TaskTables.Created (sha : Sha256 δ) (store store' : TaskTables δ)
    (creation : A2ATaskCreation) : Prop where
  tasks : store.tasks.insert? (creation.row sha creation.created_at_unix_milliseconds)
    = some store'.tasks
  statuses : store.statuses.insert? creation.status = some store'.statuses
  messages : store.messages.insert? (creation.initial_message.row sha 1) = some store'.messages
  artifacts : store'.artifacts = store.artifacts
  contexts : store'.contexts = store.contexts
  created : creation.created_at_unix_milliseconds ≤ I64_MAX

namespace TaskTables.Created

section

variable (h : store.Created sha store' creation)
include h

theorem get? (key : A2ATaskKey) : store'.tasks.get? key = if creation.identity.key = key
    then some (creation.row sha creation.created_at_unix_milliseconds) else store.tasks.get? key :=
  get?_insert h.tasks key

theorem statuses_of (key : A2ATaskKey) : store'.statuses_of key = store.statuses_of key
    ++ if creation.identity.key = key then [creation.status] else [] := by
  have hrows := (insert?_iff.1 h.statuses).2
  unfold TaskTables.statuses_of
  rw [hrows]
  exact filter_owner_concat _ _ _

theorem messages_of (key : A2ATaskKey) : store'.messages_of key = store.messages_of key
    ++ if creation.identity.key = key then [creation.initial_message.row sha 1] else [] := by
  have hrows := (UniqueTable.insert?_eq_some h.messages).2
  unfold TaskTables.messages_of
  rw [hrows]
  exact filter_owner_concat _ _ _

theorem artifacts_of (key : A2ATaskKey) : store'.artifacts_of key = store.artifacts_of key := by
  unfold TaskTables.artifacts_of
  rw [h.artifacts]

theorem sameAt (hne : key ≠ creation.identity.key) : store.SameAt store' key := by
  have hne' : creation.identity.key ≠ key := fun heq => hne heq.symm
  refine ⟨?_, ?_, ?_, h.artifacts_of key⟩
  · rw [h.get?, if_neg hne']
  · rw [h.statuses_of, if_neg hne', append_nil]
  · rw [h.messages_of, if_neg hne', append_nil]

theorem payload : retained_payload_bytes store'
    = retained_payload_bytes store + creation.request_text.utf8ByteSize := by
  have hsum := payload_insert_message h.messages
  unfold retained_payload_bytes at hsum ⊢
  rw [h.artifacts]
  exact hsum

/-- Creating a task changes none that exists. -/
theorem lasts (key : A2ATaskKey) : store.Lasts store' key := by
  refine TaskTables.Lasts.write ?_ (fun _ => h.sameAt) key
  intro row hrow
  have hnone : store.tasks.get? creation.identity.key = none := (insert?_iff.1 h.tasks).1
  rw [hnone] at hrow
  cases hrow

end

end TaskTables.Created

/-! ## Pruning

Either way of pruning a task keeps the invariant. -/

variable [DecidableEq δ]

namespace TaskTables

theorem ContentKept.of_nil (hmsgs : store.messages_of key = [])
    (hart : store.artifacts_of key = []) : store.ContentKept sha config key :=
  ⟨hmsgs ▸ .nil, hart ▸ .nil⟩

/-- A terminal task keeps its row and its history when its content goes. -/
theorem Kept.prune_payload (h : store.Kept sha config) (hrow : store.tasks.get? key = some row)
    (hterm : a2a_task_state_is_terminal row.state = true) :
    (prune_payload store key).Kept sha config ∧ store.Prunes (A2A.prune_payload store key) := by
  have hself := get?_prune_payload store key key
  rw [if_pos rfl, hrow, Option.map_some] at hself
  have hmsgs : (A2A.prune_payload store key).messages_of key = [] :=
    (messages_of_delete store key key).trans (if_pos rfl)
  have hart : (A2A.prune_payload store key).artifacts_of key = [] :=
    artifacts_of_delete.trans (if_pos rfl)
  have hsound := (h.under key).task row hrow
  have hkey := key_of_task hrow
  subst hkey
  have hsame : ∀ other, other ≠ row.identity.key →
      store.SameAt (A2A.prune_payload store row.identity.key) other :=
    fun _ hne => store.sameAt_prune_payload hne
  have hlen : (A2A.prune_payload store row.identity.key).tasks.rows.length
    = store.tasks.rows.length := length_map _
  refine ⟨h.write hsame rfl (.of_task (.of_nil hmsgs hart) hself ?_)
    (hlen ▸ h.tasks_le) (payload_delete_le.trans h.payload_le), fun other => .inl ?_, ?_⟩
  · refine ⟨?_, hsound.mapped, hsound.digest, hsound.created, hsound.bound, hsound.history,
      fun hkept => (nomatch hkept), fun _ => ⟨hmsgs, hart⟩⟩
    have hshape := require_eq_ok.1 hsound.shape
    refine require_eq_ok.2 ?_
    simpa [hterm] using hshape
  · refine Lasts.write (GoesOn.lasts hrow hself ?_) hsame other
    exact ⟨rfl, rfl, prefix_rfl, fun _ => ⟨rfl, rfl⟩, fun _ => rfl, fun hkept => (nomatch hkept),
      fun hkept => (nomatch hkept), fun _ hkept => (nomatch hkept)⟩
  · intro other row' hrow'
    by_cases heq : other = row.identity.key
    · subst heq
      rw [hself] at hrow'
      cases hrow'
      exact ⟨row, hrow, rfl⟩
    · exact ⟨row', (hsame other heq).task.symm.trans hrow', rfl⟩

theorem Kept.delete_task (h : store.Kept sha config) (key : A2ATaskKey) :
    (delete_task store key).Kept sha config ∧ store.Prunes (A2A.delete_task store key) := by
  have hgone := get?_delete_task store key
  have hsts : (A2A.delete_task store key).statuses_of key = [] :=
    (filter_owner_delete _ _ _ _).trans (if_pos rfl)
  have hmsgs : (A2A.delete_task store key).messages_of key = [] :=
    (messages_of_delete store key key).trans (if_pos rfl)
  have hart : (A2A.delete_task store key).artifacts_of key = [] :=
    artifacts_of_delete.trans (if_pos rfl)
  have hsame : ∀ other, other ≠ key → store.SameAt (A2A.delete_task store key) other :=
    fun _ hne => store.sameAt_delete_task hne
  have hnothing : (A2A.delete_task store key).KeptAt sha config key := by
    refine ⟨.of_nil hmsgs hart, ?_, fun _ => ⟨hsts, hmsgs, hart⟩⟩
    intro row hrow
    rw [hgone] at hrow
    cases hrow
  refine ⟨h.write hsame rfl hnothing (delete_sublist.length_le.trans h.tasks_le)
    (payload_delete_le.trans h.payload_le), ?_, ?_⟩
  · intro other
    by_cases heq : other = key
    · exact .inr (heq ▸ hgone)
    · exact .inl (hsame other heq).lasts
  · intro other row' hrow'
    by_cases heq : other = key
    · subst heq
      rw [hgone] at hrow'
      cases hrow'
    · exact ⟨row', (hsame other heq).task.symm.trans hrow', rfl⟩

/-! ## The loop

The loop prunes one candidate at a time, and contexts without tasks go at its end. -/

theorem Kept.prune_candidate (h : store.Kept sha config) (hrow : row ∈ store.tasks.rows)
    (hcandidate : row.candidate? now = some candidate) (outcome : A2ATaskPruneOutcome) :
    Avoids .CorruptData (prune_candidate store outcome candidate) fun result =>
    result.2.Kept sha config ∧ store.Prunes result.2 := by
  obtain ⟨hkey, hkind⟩ := TaskRow.candidate?_eq_some hcandidate
  have hget : store.tasks.get? candidate.key = some row := get?_iff.2 ⟨hrow, hkey.symm⟩
  refine (Avoids.require fun _ => by rw [hget]; rfl).bind fun _ _ => ?_
  rcases hkind with ⟨hpay, hexpires⟩ | htombstone
  · rw [hpay]
    -- only a terminal task has content that expires
    have hterm : a2a_task_state_is_terminal row.state = true := by
      by_contra hopen
      have hshape := require_eq_ok.1 ((h.under candidate.key).task row hget).shape
      push Not at hshape
      exact hexpires (hshape.2.2.1 (by simpa using hopen)).2.2.2.1
    exact Avoids.ok (h.prune_payload hget hterm)
  · rw [htombstone]
    exact Avoids.ok (h.delete_task candidate.key)

/-- Pruning takes what is due, one candidate at a time. -/
theorem Kept.prune_loop (h : store.Kept sha config) (now batch : ℕ)
    (outcome : A2ATaskPruneOutcome) :
    Avoids .CorruptData (prune_loop now batch outcome store) fun result =>
    result.2.Kept sha config ∧ store.Prunes result.2 := by
  induction batch generalizing store outcome with
  | zero => exact Avoids.ok ⟨h, .of_same fun _ => ⟨rfl, rfl, rfl, rfl⟩⟩
  | succ batch ih =>
    refine next_retention_candidate_avoids.bind fun candidate? hcandidate => ?_
    cases candidate? with
    | none => exact Avoids.ok ⟨h, .of_same fun _ => ⟨rfl, rfl, rfl, rfl⟩⟩
    | some candidate =>
      obtain ⟨row, hrow, hdue⟩ := hcandidate candidate rfl
      refine (h.prune_candidate hrow hdue outcome).bind fun result hres => ?_
      exact (ih hres.1 result.1).mono fun later hlater =>
        ⟨hlater.1, hres.2.trans hlater.2⟩

end TaskTables

/-- No context is left without a task. -/
theorem TaskTables.Kept.delete_orphans (h : store.Kept sha config) :
    (delete_orphans store).Sound sha config := by
  refine ⟨⟨?_, h.tasks_le, delete_sublist.length_le.trans h.contexts_le, h.payload_le⟩, ?_⟩
  · intro key
    refine (h.under key).frame ⟨rfl, rfl, rfl, rfl⟩ ?_
    intro row hrow context hctx
    exact get?_delete_orphans hrow hctx
  · intro context hctx
    have hkept := (mem_filter.1 hctx).2
    rw [Bool.not_not, any_eq_true] at hkept
    obtain ⟨row, hrow, hkey⟩ := hkept
    exact ⟨row, hrow, of_decide_eq_true hkey⟩

theorem TaskTables.Kept.prune_in (h : store.Kept sha config) (now : ℕ) :
    Avoids .CorruptData (prune_in config now store) fun result =>
    prune_in config now store = .ok result ∧ result.2.Sound sha config ∧ store.Prunes result.2 := by
  refine Avoids.and_eq ?_
  refine (h.prune_loop now config.max_prune_batch ⟨0, 0⟩).bind fun result hres => Avoids.ok ?_
  exact ⟨hres.1.delete_orphans, hres.2.trans (.of_same fun _ => ⟨rfl, rfl, rfl, rfl⟩)⟩

theorem TaskTables.Kept.ensure_context_binding (h : store.Kept sha config)
    (creation : A2ATaskCreation) :
    Avoids .CorruptData (ensure_context_binding config store creation) fun store' =>
    store'.Kept sha config ∧ store.Binds store' creation.identity := by
  unfold A2A.ensure_context_binding
  cases hctx : store.contexts.get? creation.identity.context_key with
  | some context =>
    refine (Avoids.require (by nofun)).bind fun _ hbound => Avoids.ok ?_
    exact ⟨h, rfl, fun _ => ⟨rfl, rfl, rfl, rfl⟩, ⟨context, hctx, hbound⟩, fun _ => .inl⟩
  | none =>
    -- a task of the context would have brought the context with it
    have hunused : (store.tasks.rows.any fun task =>
        task.identity.context_key = creation.identity.context_key) = false := by
      rw [any_eq_false]
      intro row hrow hkey
      obtain ⟨context, hget, -⟩ := ((h.under row.identity.key).task row (get?_of_mem _ hrow)).bound
      rw [of_decide_eq_true hkey, hctx] at hget
      cases hget
    refine (Avoids.require fun _ => hunused).bind fun _ _ =>
      (Avoids.require (by nofun)).bind fun _ hcap =>
      (to_sql_avoids _).bind fun created_at hcreated =>
      (Avoids.some_or (by nofun)).bind fun contexts hctxs => Avoids.ok ?_
    obtain ⟨hfresh, hrows⟩ := insert?_iff.1 hctxs
    refine ⟨⟨?_, h.tasks_le, ?_, h.payload_le⟩, rfl, fun _ => ⟨rfl, rfl, rfl, rfl⟩, ?_, ?_⟩
    · intro key
      refine (h.under key).frame ⟨rfl, rfl, rfl, rfl⟩ ?_
      intro row hrow context hget
      refine (get?_insert hctxs _).trans ?_
      rw [if_neg, hget]
      intro heq
      rw [← heq, hctx] at hget
      cases hget
    · rw [hrows, length_append, length_singleton]
      exact hcap
    · exact ⟨_, (get?_insert hctxs _).trans (if_pos rfl), rfl, rfl⟩
    · intro context hmem
      rw [hrows] at hmem
      rcases mem_append.1 hmem with hold | hnew
      · exact .inl hold
      · rw [mem_singleton.1 hnew]
        exact .inr rfl

namespace TaskTables.Created

variable (h : store.Created sha store' creation)
include h

/-- A task that was just created is sound. -/
theorem row_sound (hkept : store.Kept sha config) (hbound : store.Bound creation.identity) :
    (creation.row sha creation.created_at_unix_milliseconds : TaskRow δ).Sound sha store' := by
  have hnone : store.tasks.get? creation.identity.key = none := (insert?_iff.1 h.tasks).1
  obtain ⟨hsts, hmsgs, -⟩ := (hkept.under creation.identity.key).absent hnone
  have hstatus := h.statuses_of creation.identity.key
  have hmsg := h.messages_of creation.identity.key
  rw [hsts, if_pos rfl, nil_append] at hstatus
  rw [hmsgs, if_pos rfl, nil_append] at hmsg
  have hkey : (creation.row sha creation.created_at_unix_milliseconds : TaskRow δ).identity.key
    = creation.identity.key := rfl
  refine ⟨?_, creation.mapped, rfl, h.created, ?_, ?_, ?_, ?_⟩
  · exact require_eq_ok.2 (by simp [A2ATaskCreation.row, a2a_task_state_is_terminal,
      a2a_task_status_reason_is_valid])
  · rw [h.contexts]
    exact hbound
  · rw [hkey, hstatus]
    refine history_eq_ok.2 ⟨rfl, by simp, ?_, _, rfl, rfl, rfl, rfl, rfl⟩
    refine validate_statuses_cons.2 ⟨statusFits_iff.2 ⟨rfl, Nat.zero_le _, ?_, rfl, ?_⟩, rfl⟩
    · exact fun _ => ⟨rfl, rfl, rfl⟩
    · rintro _ ⟨⟩
  · intro _
    rw [hkey, hmsg]
    exact ⟨_, [], rfl, rfl, rfl, rfl⟩
  · intro hpruned
    cases hpruned

theorem kept (hkept : store.Kept sha config) (hcfg : config.validate = .ok ())
    (hbound : store.Bound creation.identity) (hcap : store.tasks.rows.length < config.max_tasks)
    (hpay : retained_payload_bytes store + creation.request_text.utf8ByteSize
      ≤ config.max_payload_bytes) : store'.Kept sha config := by
  have hnone : store.tasks.get? creation.identity.key = none := (insert?_iff.1 h.tasks).1
  have hat := hkept.under creation.identity.key
  have hself := h.get? creation.identity.key
  have hmsg := h.messages_of creation.identity.key
  rw [(hat.absent hnone).2.1, if_pos rfl, nil_append] at hmsg
  rw [if_pos rfl] at hself
  refine hkept.write (fun _ => h.sameAt) h.contexts (.of_task ⟨?_, ?_⟩ hself ?_) ?_
    (h.payload ▸ hpay)
  · rw [hmsg]
    have htwo := (config.bounds hcfg).2.2.1
    exact RowsKept.nil.concat (by rw [length_nil]; omega) rfl read_message_row
  · rw [h.artifacts_of]
    exact hat.artifacts
  · exact h.row_sound hkept hbound
  · rw [(insert?_iff.1 h.tasks).2, length_append, length_singleton]
    exact hcap

end TaskTables.Created

theorem TaskTables.Kept.insert_task (h : store.Kept sha config) (hcfg : config.validate = .ok ())
    (hbound : store.Bound creation.identity) :
    Avoids .CorruptData (insert_task sha config store creation) fun result =>
    result.2.Kept sha config ∧ store.Created sha result.2 creation
      ∧ result.1 = .Created (result.2.record_of
        (creation.row sha creation.created_at_unix_milliseconds)) := by
  refine (Avoids.require (by nofun)).bind fun _ hcap =>
    (Avoids.require (by nofun)).bind fun _ hpay =>
    (to_sql_avoids _).bind fun created_at hcreated =>
    (Avoids.some_or (by nofun)).bind fun tasks htasks =>
    (insert_status_avoids _ _ _ _).bind fun store₁ hstatus =>
    insert_message_avoids.bind fun store₂ hmsg => ?_
  obtain ⟨hcreated, rfl⟩ := hcreated
  obtain ⟨statuses, hsts, rfl⟩ := hstatus
  obtain ⟨messages, hmsgs, rfl⟩ := hmsg
  have hnew : store.Created sha { store with tasks, statuses, messages } creation :=
    ⟨htasks, hsts, hmsgs, rfl, rfl, hcreated⟩
  have hkept := hnew.kept h hcfg hbound hcap hpay
  have hself := hnew.get? creation.identity.key
  rw [if_pos rfl] at hself
  refine hkept.load_task_avoids.bind fun task htask => Avoids.ok ⟨hkept, hnew, ?_⟩
  obtain ⟨row, hrow, rfl⟩ := htask
  rw [hself] at hrow
  cases hrow
  rfl

end Konclave.A2A
