/-
`Konclave.A2ATaskStoreSqlite`: runs of the store.

Every call keeps the tables sound, and none finds them corrupt: the only reads that say so
are those of a reader whose cursor is ahead of what the task has. A call first prunes, if
it does, and then every task that is left goes on.
-/
import Konclave.A2A.TaskRetention

set_option autoImplicit false

namespace Konclave.A2A

open Domain TaskTables List

variable {δ : Type} [DecidableEq δ] {sha : Sha256 δ} {config : A2ASqliteTaskStoreConfig}
  {store store' : TaskTables δ} {key : A2ATaskKey} {row : TaskRow δ} {query : A2ATaskListQuery}
  {limit : ℕ} {artifact_limit : ℕ}

/-- The tables once a call has pruned, if it prunes. -/
def TaskTables.pruned_at (config : A2ASqliteTaskStoreConfig) (store : TaskTables δ) :
    Option ℕ → TaskTables δ
  | none => store
  | some now => match prune_in config now store with
    | .ok (_, pruned) => pruned
    | .error _ => store

/-- What a call does: it prunes, and then every task goes on. -/
structure TaskTables.Evolves (config : A2ASqliteTaskStoreConfig) (now : Option ℕ)
    (store store' : TaskTables δ) : Prop where
  prunes : store.Prunes (store.pruned_at config now)
  lasts : ∀ key, (store.pruned_at config now).Lasts store' key

/-- No task changes but by the pruning, and a new one is only submitted. -/
def TaskTables.Steady (config : A2ASqliteTaskStoreConfig) (now : Option ℕ)
    (store store' : TaskTables δ) : Prop :=
  ∀ key row, store'.tasks.get? key = some row →
    (store.pruned_at config now).tasks.get? key = some row ∨ row.state = .Submitted

variable {result : A2ATaskPruneOutcome × TaskTables δ} {call : TaskStoreCall}
  {after_generation now : ℕ}

omit [DecidableEq δ] in
theorem TaskTables.pruned_at_eq (h : prune_in config now store = .ok result) :
    store.pruned_at config (some now) = result.2 := by
  rw [pruned_at, h]

omit [DecidableEq δ] in
theorem TaskTables.Evolves.of_lasts (h : ∀ key, store.Lasts store' key) :
    store.Evolves config none store' :=
  ⟨.of_same fun _ => ⟨rfl, rfl, rfl, rfl⟩, h⟩

omit [DecidableEq δ] in
theorem TaskTables.Evolves.of_prune_in (h : prune_in config now store = .ok result)
    (hprunes : store.Prunes result.2) (hlasts : ∀ key, result.2.Lasts store' key) :
    store.Evolves config (some now) store' := by
  have heq := pruned_at_eq h
  exact ⟨heq ▸ hprunes, heq ▸ hlasts⟩

omit [DecidableEq δ] in
/-- A call that leaves the rows of the pruned tasks as they are is steady. -/
theorem TaskTables.Steady.of_tasks (h : prune_in config now store = .ok result)
    (htasks : store'.tasks = result.2.tasks) : store.Steady config (some now) store' := by
  intro key row hrow
  rw [pruned_at_eq h, ← htasks]
  exact .inl hrow

/-! ## Writes

One specification for each call that writes: the invariant after it, what it did to the tasks,
and what it answers. -/

/-- The number of the record an append answers for. -/
def AppendA2ATaskRecordOutcome.sequence : AppendA2ATaskRecordOutcome → ℕ
  | .Appended sequence | .Existing sequence => sequence

theorem TaskTables.Sound.of_contexts (h : store.Sound sha config) (hkept : store'.Kept sha config)
    (hctxs : store'.contexts = store.contexts)
    (htasks : store'.tasks.rows.map (·.identity) = store.tasks.rows.map (·.identity)) :
    store'.Sound sha config := by
  refine ⟨hkept, ?_⟩
  intro context hctx
  rw [hctxs] at hctx
  obtain ⟨row, hrow, hkey⟩ := h.context context hctx
  have hmem : row.identity ∈ store'.tasks.rows.map (·.identity) := by
    rw [htasks]
    exact mem_map_of_mem hrow
  obtain ⟨row', hrow', hident⟩ := mem_map.1 hmem
  exact ⟨row', hrow', by rw [hident]; exact hkey⟩

namespace TaskTables

theorem Sound.create_task (hsha : sha.Ideal) (hcfg : config.validate = .ok ())
    (h : store.Sound sha config) (creation : A2ATaskCreation) :
    Avoids .CorruptData (create_task sha config creation store) fun result =>
    result.2.Sound sha config
      ∧ store.Evolves config (some creation.created_at_unix_milliseconds) result.2
      ∧ store.Steady config (some creation.created_at_unix_milliseconds) result.2 := by
  refine (h.kept.prune_in creation.created_at_unix_milliseconds).bind fun pruned hpruned =>
    (hpruned.2.1.kept.ensure_context_binding creation).bind fun store₁ hbinds => ?_
  obtain ⟨hkept, hbinds⟩ := hbinds
  obtain ⟨hprune, hpruned⟩ := hpruned
  have horphan : ∀ {store₂ : TaskTables δ}, store₂.contexts = store₁.contexts →
      (∀ row ∈ store₁.tasks.rows, row ∈ store₂.tasks.rows) →
      (∃ row ∈ store₂.tasks.rows, row.identity.context_key = creation.identity.context_key) →
      store₂.NoOrphans := by
    intro store₂ hctxs htasks hself context hctx
    rw [hctxs] at hctx
    rcases hbinds.contexts context hctx with hold | hnew
    · obtain ⟨row, hrow, hkey⟩ := hpruned.1.context context hold
      exact ⟨row, htasks row (by rw [hbinds.tasks]; exact hrow), hkey⟩
    · rw [hnew]
      exact hself
  rw [hkept.load_task_optional_eq, ok_bind]
  cases hrow : store₁.tasks.get? creation.identity.key with
  | some row =>
    refine (Avoids.require (by nofun)).bind fun _ hdigest => Avoids.ok ?_
    -- a task of the same digest is the task the creation describes
    have hident := (task_identity_digest_inj hsha
      (((hkept.under _).task row hrow).digest.trans hdigest)).1
    refine ⟨⟨hkept, horphan rfl (fun _ => id) ⟨row, (Table.get?_iff.1 hrow).1, ?_⟩⟩,
      .of_prune_in hprune hpruned.2 fun key => (hbinds.same key).lasts,
      .of_tasks hprune hbinds.tasks⟩
    rw [hident]
  | none =>
    refine (hkept.insert_task hcfg hbinds.bound).mono fun result hres => ?_
    obtain ⟨hkept', hnew, -⟩ := hres
    have hrows := (Table.insert?_iff.1 hnew.tasks).2
    refine ⟨⟨hkept', horphan hnew.contexts ?_
      ⟨creation.row sha creation.created_at_unix_milliseconds, ?_, rfl⟩⟩,
      .of_prune_in hprune hpruned.2 ?_, ?_⟩
    · intro row hmem
      rw [hrows]
      exact mem_append_left _ hmem
    · rw [hrows]
      exact mem_append_right _ (mem_singleton.2 rfl)
    · exact fun key => (hbinds.same key).lasts.trans (hnew.lasts key)
    · intro key row hget
      rw [hnew.get?] at hget
      split at hget
      · cases hget
        exact .inr rfl
      · rw [pruned_at_eq hprune, ← hbinds.tasks]
        exact .inl hget

/-- What a transition does: it repeats the last one, or it is applied. -/
theorem Sound.transition_task (hcfg : config.validate = .ok ())
    (h : store.Sound sha config) (transition : A2ATaskTransition) :
    Avoids .CorruptData (transition_task sha config transition store) fun result =>
    result.2.Sound sha config ∧ ∃ row, store.tasks.get? transition.key = some row
      ∧ ((result.2 = store ∧ transition.repeats (store.record_of row)
          ∧ result.1 = .Existing (store.record_of row))
        ∨ (transition.Allowed (store.record_of row) ∧ (transition.state = .Completed →
            has_completion_evidence store transition.key = true)
          ∧ ∃ times statuses, terminal_times config transition = .ok times
            ∧ store.statuses.insert? (transition.status (row.generation + 1)) = some statuses
            ∧ result.2 = store.transitioned transition (row.generation + 1) times statuses
            ∧ result.1 = .Applied (result.2.record_of
              (row.transitioned transition (row.generation + 1) times)))) := by
  refine h.kept.load_task_avoids.bind fun current hcur => ?_
  obtain ⟨row, hrow, rfl⟩ := hcur
  cases hplan : plan_a2a_task_transition (store.record_of row) transition with
  | error e =>
    refine Avoids.error ?_
    rintro rfl
    unfold plan_a2a_task_transition at hplan
    split at hplan
    · cases hplan
    · split at hplan
      · split at hplan <;> cases hplan
      · split at hplan
        · cases hplan
        · split at hplan <;> cases hplan
  | ok plan =>
    rcases plan_eq_ok.1 hplan with ⟨rfl, -, -, hrepeats⟩ | ⟨hall, rfl⟩
    · exact Avoids.ok ⟨h, row, hrow, .inl ⟨rfl, hrepeats, rfl⟩⟩
    · have hne : (if transition.state = .Completed then
          A2ATaskTransitionPlan.RequireCompletionEvidence else .Apply) ≠ .Existing := by
        split <;> exact A2ATaskTransitionPlan.noConfusion
      rw [ok_bind, if_neg hne]
      refine (Avoids.require (by nofun)).bind fun _ hevidence => ?_
      have hgen := ((h.kept.under _).task row hrow).statuses_length.2
      have hadd : checked_add (store.record_of row).generation 1 = some (row.generation + 1) :=
        checked_add_iff.2 ⟨by change row.generation + 1 < 2 ^ 64; omega, rfl⟩
      unfold apply_transition
      rw [some_or_bind hadd]
      refine terminal_times_avoids.bind fun times htimes =>
        (to_sql_avoids _).bind fun _ _ => (to_sql_avoids _).bind fun _ _ =>
        (to_sql_option_avoids _).bind fun _ _ => (to_sql_option_avoids _).bind fun _ _ =>
        (to_sql_option_avoids _).bind fun _ _ => (Avoids.require (by nofun)).bind fun _ _ =>
        (insert_status_avoids _ _ _ _).bind fun store₁ hstatus => ?_
      obtain ⟨statuses, hsts, rfl⟩ := hstatus
      have hins : store.statuses.insert? (transition.status (row.generation + 1)) = some statuses :=
        hsts
      obtain ⟨hkept, -⟩ := h.kept.transitioned hcfg hrow hall htimes hins
      have hself := store.get?_transitioned transition (row.generation + 1) times statuses
          transition.key
      rw [if_pos rfl, hrow, Option.map_some] at hself
      refine hkept.load_task_avoids.bind fun task htask => Avoids.ok ?_
      obtain ⟨row', hrow', rfl⟩ := htask
      have heq : row' = row.transitioned transition (row.generation + 1) times :=
        Option.some.inj (hrow'.symm.trans hself)
      subst heq
      refine ⟨h.of_contexts hkept rfl ?_, row, hrow, .inr ⟨hall, ?_, times, statuses, htimes,
        hins, rfl, rfl⟩⟩
      · refine (map_map ..).trans (map_congr_left fun other _ => ?_)
        rw [Function.comp_apply]
        split <;> rfl
      · intro hdone
        have hkey : (store.record_of row).key = transition.key := hall.key
        rw [hkey] at hevidence
        simpa [hdone] using hevidence

omit [DecidableEq δ] in
theorem named_message_iff {row : MessageRow δ} {mid : A2AMessageId} :
    store.messages.named? (key, mid) = some row
    ↔ row ∈ store.messages_of key ∧ row.message_id = mid := by
  rw [UniqueTable.named?_eq_some_iff, mem_messages_of]
  simp [and_assoc, eq_comm]

omit [DecidableEq δ] in
theorem named_artifact_iff {row : ArtifactRow δ} {artifact_id : A2AArtifactId} :
    store.artifacts.named? (key, artifact_id) = some row
    ↔ row ∈ store.artifacts_of key ∧ row.artifact_id = artifact_id := by
  rw [UniqueTable.named?_eq_some_iff, mem_artifacts_of]
  simp [and_assoc, eq_comm]

theorem Kept.existing_message_eq (h : store.Kept sha config)
    (mid : A2AMessageId) : existing_message sha store key mid
    = .ok ((store.messages.named? (key, mid)).map fun row =>
      (row.sequence, row.identity_digest)) := by
  unfold A2A.existing_message
  cases hrow : store.messages.named? (key, mid) with
  | none => rfl
  | some row =>
    obtain ⟨message, hmsg⟩ := (h.under key).messages.readable row (named_message_iff.1 hrow).1
    obtain ⟨-, -, hdigest⟩ := read_message_eq_ok.1 hmsg
    simp only [hmsg, ok_bind, hdigest]
    rfl

theorem Kept.existing_artifact_eq (h : store.Kept sha config)
    (artifact_id : A2AArtifactId) : existing_artifact sha store key artifact_id
    = .ok ((store.artifacts.named? (key, artifact_id)).map fun row =>
      (row.sequence, row.identity_digest)) := by
  unfold A2A.existing_artifact
  cases hrow : store.artifacts.named? (key, artifact_id) with
  | none => rfl
  | some row =>
    obtain ⟨artifact, hartifact⟩ :=
      (h.under key).artifacts.readable row (named_artifact_iff.1 hrow).1
    obtain ⟨-, -, -, hdigest⟩ := read_artifact_eq_ok.1 hartifact
    simp only [hartifact, ok_bind, hdigest]
    rfl

theorem Sound.append_message (hcfg : config.validate = .ok ())
    (h : store.Sound sha config) (message : A2ATaskMessage) (now : ℕ) :
    Avoids .CorruptData (append_message sha config message now store) fun result =>
    result.2.Sound sha config ∧ store.Evolves config (some now) result.2
      ∧ store.Steady config (some now) result.2
      ∧ ∃ row ∈ result.2.messages_of message.key, row.message_id = message.message_id
        ∧ row.sequence = result.1.sequence
        ∧ row.identity_digest = message.identity_digest sha := by
  refine (h.kept.prune_in now).bind fun pruned hpruned =>
    hpruned.2.1.kept.load_task_avoids.bind fun task htask => ?_
  obtain ⟨hprune, hsound, hprunes⟩ := hpruned
  obtain ⟨row, hrow, rfl⟩ := htask
  rw [hsound.kept.existing_message_eq, ok_bind]
  cases hfound : pruned.2.messages.named? (message.key, message.message_id) with
  | some found =>
    obtain ⟨hmem, hid⟩ := named_message_iff.1 hfound
    refine (Avoids.require (by nofun)).bind fun _ hdigest => Avoids.ok ?_
    exact ⟨hsound, .of_prune_in hprune hprunes (Lasts.refl _), .of_tasks hprune rfl,
      found, hmem, hid, rfl, hdigest⟩
  | none =>
    have hle := (hsound.kept.under message.key).messages.length_le
    have hmax := (config.bounds hcfg).1
    unfold MAX_PAGE_SIZE at hmax
    refine (Avoids.require (by nofun)).bind fun _ hopen =>
      (Avoids.require (by nofun)).bind fun _ hcount =>
      (Avoids.require (by nofun)).bind fun _ hpay =>
      (Avoids.some_or fun _ => ⟨_, checked_add_iff.2 ⟨by omega, rfl⟩⟩).bind
        fun sequence hseq => insert_message_avoids.bind fun store₁ hins =>
        Avoids.ok ?_
    have hkept : row.content_pruned = false :=
      Bool.eq_false_iff.2 fun hpruned => hopen (.inr hpruned)
    have hopen : a2a_task_state_is_terminal row.state = false :=
      Bool.eq_false_iff.2 fun hterm => hopen (.inl hterm)
    obtain ⟨messages, hmsgs, rfl⟩ := hins
    obtain ⟨hkept', hlasts⟩ := hsound.kept.insert_message hrow hkept hopen hcount hpay
      (checked_add_iff.1 hseq).2 hmsgs
    refine ⟨hsound.of_contexts hkept' rfl rfl, .of_prune_in hprune hprunes hlasts,
      .of_tasks hprune rfl, message.row sha sequence, ?_, rfl, rfl, rfl⟩
    rw [messages_of_insert hmsgs, if_pos rfl]
    exact mem_append_right _ (mem_singleton.2 rfl)

theorem Sound.append_artifact_in_state (hcfg : config.validate = .ok ())
    (h : store.Sound sha config) (artifact : A2ATaskArtifact) (now : ℕ) (require_working : Bool)
    (maximum_artifacts : ℕ) :
    Avoids .CorruptData (append_artifact_in_state sha config artifact now require_working
        maximum_artifacts store) fun result =>
    result.2.Sound sha config ∧ store.Evolves config (some now) result.2
      ∧ store.Steady config (some now) result.2
      ∧ ∃ row ∈ result.2.artifacts_of artifact.key, row.artifact_id = artifact.artifact_id
        ∧ row.sequence = result.1.sequence
        ∧ row.identity_digest = artifact.identity_digest sha := by
  refine (Avoids.require (by nofun)).bind fun _ _ =>
    (h.kept.prune_in now).bind fun pruned hpruned =>
    hpruned.2.1.kept.load_task_avoids.bind fun task htask => ?_
  obtain ⟨hprune, hsound, hprunes⟩ := hpruned
  obtain ⟨row, hrow, rfl⟩ := htask
  rw [hsound.kept.existing_artifact_eq, ok_bind]
  cases hfound : pruned.2.artifacts.named? (artifact.key, artifact.artifact_id) with
  | some found =>
    obtain ⟨hmem, hid⟩ := named_artifact_iff.1 hfound
    refine (Avoids.require (by nofun)).bind fun _ hdigest => Avoids.ok ?_
    exact ⟨hsound, .of_prune_in hprune hprunes (Lasts.refl _), .of_tasks hprune rfl,
      found, hmem, hid, rfl, hdigest⟩
  | none =>
    have hle := (hsound.kept.under artifact.key).artifacts.length_le
    have hmax := (config.bounds hcfg).2.1
    unfold MAX_PAGE_SIZE at hmax
    refine (Avoids.require (by nofun)).bind fun _ hopen =>
      (Avoids.require (by nofun)).bind fun _ hcount =>
      (Avoids.require (by nofun)).bind fun _ hpay =>
      (Avoids.some_or fun _ => ⟨_, checked_add_iff.2 ⟨by omega, rfl⟩⟩).bind
        fun sequence hseq => insert_artifact_avoids.bind fun store₁ hins =>
        Avoids.ok ?_
    have hkept : row.content_pruned = false :=
      Bool.eq_false_iff.2 fun hpruned => hopen (.inr (.inl hpruned))
    have hopen : a2a_task_state_is_terminal row.state = false :=
      Bool.eq_false_iff.2 fun hterm => hopen (.inl hterm)
    obtain ⟨artifacts, hart, rfl⟩ := hins
    obtain ⟨hkept', hlasts⟩ := hsound.kept.insert_artifact hrow hkept hopen
      (hcount.trans_le (Nat.min_le_right _ _)) hpay
      (checked_add_iff.1 hseq).2 hart
    refine ⟨hsound.of_contexts hkept' rfl rfl, .of_prune_in hprune hprunes hlasts,
      .of_tasks hprune rfl, artifact.row sha sequence, ?_, rfl, rfl, rfl⟩
    rw [artifacts_of_insert hart, if_pos rfl]
    exact mem_append_right _ (mem_singleton.2 rfl)

end TaskTables

/-! ## Reads

A read leaves the store and never finds it corrupt. -/

theorem read_limit_avoids (limit configured : ℕ) :
    Avoids .CorruptData (validate_artifact_read_limit limit configured) fun _ => True :=
  (Avoids.require (by nofun)).bind fun _ _ => trivial

theorem TaskTables.Kept.task_with_messages (hcfg : config.validate = .ok ())
    (h : store.Kept sha config) (key : A2ATaskKey) (limit : ℕ) :
    Avoids .CorruptData (task_with_messages sha config key limit store) fun _ => True := by
  refine (Avoids.require (by nofun)).bind fun _ _ =>
    h.load_task_avoids.bind fun task _ => ?_
  split
  · exact trivial
  · rw [h.load_messages_eq (config.bounds hcfg).1]
    exact trivial

theorem TaskTables.Kept.artifacts (h : store.Kept sha config) (key : A2ATaskKey) (limit : ℕ) :
    Avoids .CorruptData (A2A.artifacts sha config key limit store) fun _ => True := by
  refine (Avoids.require (by nofun)).bind fun _ _ =>
    h.load_task_avoids.bind fun task _ => ?_
  split
  · exact trivial
  · rw [h.load_artifacts_eq]
    exact trivial

theorem TaskTables.Kept.task_snapshot (hcfg : config.validate = .ok ())
    (h : store.Kept sha config) (key : A2ATaskKey) (message_limit artifact_limit : ℕ) :
    Avoids .CorruptData (task_snapshot sha config key message_limit artifact_limit store)
    fun _ => True := by
  refine (Avoids.require (by nofun)).bind fun _ _ =>
    (read_limit_avoids _ _).bind fun _ _ => h.load_task_avoids.bind fun task _ => ?_
  split
  · exact trivial
  · rw [h.load_messages_eq (config.bounds hcfg).1, ok_bind, h.load_artifacts_eq]
    exact trivial

omit [DecidableEq δ] in
theorem load_task_page_rows_avoids :
    Avoids .CorruptData (load_task_page_rows store query) fun _ => True := by
  unfold load_task_page_rows
  cases query.cursor with
  | none => exact trivial
  | some cursor => exact (to_sql_avoids _).bind fun _ _ => trivial

namespace TaskTables

theorem Kept.load_task_page (h : store.Kept sha config) (query : A2ATaskListQuery) :
    Avoids .CorruptData (load_task_page sha store query) fun _ => True := by
  refine load_task_page_rows_avoids.bind fun rows _ => ?_
  refine (Avoids.mapM fun row _ => ?_).bind fun _ _ => trivial
  exact h.load_task_avoids.mono fun _ _ => trivial

theorem Kept.list_tasks (h : store.Kept sha config) (query : A2ATaskListQuery) :
    Avoids .CorruptData (list_tasks sha query store) fun _ => True :=
  (Avoids.require (by nofun)).bind fun _ _ => h.load_task_page query

theorem Kept.list_tasks_with_artifacts (h : store.Kept sha config)
    (query : A2ATaskListQuery) (artifact_limit : ℕ) :
    Avoids .CorruptData (list_tasks_with_artifacts sha config query artifact_limit store)
    fun _ => True := by
  refine (Avoids.require (by nofun)).bind fun _ _ => (read_limit_avoids _ _).bind fun _ _ =>
    (h.load_task_page query).bind fun page _ =>
    (Avoids.mapM fun task _ => ?_).bind fun _ _ => trivial
  rw [h.load_artifacts_eq]
  exact trivial

/-- A cursor that the task has reached is answered. -/
theorem Kept.status_updates (h : store.Kept sha config)
    (hseen : ∀ row, store.tasks.get? key = some row → after_generation ≤ row.generation) :
    Avoids .CorruptData (status_updates sha key after_generation store) fun _ => True := by
  refine h.load_task_avoids.bind fun task htask => ?_
  obtain ⟨row, hrow, rfl⟩ := htask
  refine (Avoids.require fun _ => hseen row hrow).bind fun _ _ => ?_
  have hsound := (h.under key).task row hrow
  rw [← key_of_task hrow, hsound.load_status_updates_eq (hseen row hrow)]
  exact trivial

theorem Kept.stream_updates (hcfg : config.validate = .ok ())
    (h : store.Kept sha config) {after_artifact_sequence : ℕ} (message_limit artifact_limit : ℕ)
    (hseen : ∀ row, store.tasks.get? key = some row → after_generation ≤ row.generation
      ∧ after_artifact_sequence ≤ (store.artifacts_of key).length) :
    Avoids .CorruptData (stream_updates sha config key after_generation after_artifact_sequence
      message_limit artifact_limit store) fun _ => True := by
  refine (Avoids.require (by nofun)).bind fun _ _ =>
    (read_limit_avoids _ _).bind fun limit _ => h.load_task_avoids.bind fun task htask => ?_
  obtain ⟨row, hrow, rfl⟩ := htask
  obtain ⟨hgen, hseq⟩ := hseen row hrow
  have hsound := (h.under key).task row hrow
  have hsts := hsound.load_status_updates_eq hgen
  rw [key_of_task hrow] at hsts
  refine (Avoids.require fun _ => hgen).bind fun _ _ => ?_
  rw [hsts, ok_bind]
  split
  · rename_i hpruned
    have hnil := (hsound.pruned hpruned).2
    rw [key_of_task hrow] at hnil
    rw [hnil] at hseq
    exact (Avoids.require fun _ => Nat.le_zero.1 hseq).bind fun _ _ => trivial
  · refine (Avoids.require fun _ => hseq).bind fun _ _ => ?_
    rw [h.load_artifacts_after_eq (config.bounds hcfg).2.1 hseq, ok_bind,
      h.load_messages_eq (config.bounds hcfg).1]
    exact trivial

/-- The store can be opened again. -/
theorem Sound.open_store (hcfg : config.validate = .ok ())
    (h : store.Sound sha config) : open_store config store = .ok () := by
  have hmsgs : counts_within (·.key) store.messages.rows config.max_messages_per_task = true :=
    all_eq_true.2 fun row _ => decide_eq_true (h.kept.under row.key).messages.length_le
  have hart : counts_within (·.key) store.artifacts.rows config.max_artifacts_per_task = true :=
    all_eq_true.2 fun row _ => decide_eq_true (h.kept.under row.key).artifacts.length_le
  have hctxs : invalid_context_relationship store = false := by
    rw [invalid_context_relationship, Bool.or_eq_false_iff, any_eq_false, any_eq_false]
    constructor
    · intro context hctx
      obtain ⟨row, hrow, hkey⟩ := h.context context hctx
      simp only [Bool.not_eq_true', any_eq_false, decide_eq_true_eq, not_forall, not_not]
      exact ⟨row, hrow, hkey⟩
    · intro row hrow
      obtain ⟨context, hget, hconv, htarget⟩ :=
        ((h.kept.under row.identity.key).task row (Table.get?_of_mem _ hrow)).bound
      simp [hget, hconv, htarget]
  rw [A2A.open_store, hcfg, ok_bind, verify_store_bounds,
    require_bind ⟨h.kept.tasks_le, h.kept.contexts_le, hmsgs, hart, h.kept.payload_le⟩]
  exact require_eq_ok.2 hctxs

end TaskTables

/-! ## Calls

What any call does is said once, for the run lemmas to use. -/

namespace TaskStoreCall

/-- A read with a cursor that the task has not reached. -/
def Ahead (store : TaskTables δ) : TaskStoreCall → Prop
  | .status_updates key after_generation =>
    ∃ row, store.tasks.get? key = some row ∧ row.generation < after_generation
  | .stream_updates key after_generation after_artifact_sequence _ _ =>
    ∃ row, store.tasks.get? key = some row ∧ (row.generation < after_generation
      ∨ (store.artifacts_of key).length < after_artifact_sequence)
  | _ => False

/-- When a call prunes. -/
def pruning_time : TaskStoreCall → Option ℕ
  | .create_task creation => some creation.created_at_unix_milliseconds
  | .append_message _ now | .append_artifact _ now | .append_working_artifact _ now _
  | .prune now => some now
  | _ => none

/-- What a call leaves: sound tables, in which each task went on, and only a transition
changed one. -/
structure Leaves (sha : Sha256 δ) (config : A2ASqliteTaskStoreConfig)
    (store : TaskTables δ) (call : TaskStoreCall) (store' : TaskTables δ) : Prop where
  sound : store'.Sound sha config
  evolves : store.Evolves config call.pruning_time store'
  steady : (∀ transition, call ≠ .transition_task transition) →
    store.Steady config call.pruning_time store'

/-- A read leaves the tables as they are. -/
theorem leaves_self (h : store.Sound sha config) (hcall : call.pruning_time = none) :
    call.Leaves sha config store store := by
  refine ⟨h, ?_, fun _ => ?_⟩
  · rw [hcall]
    exact .of_lasts (TaskTables.Lasts.refl store)
  · rw [hcall]
    exact fun _ _ hrow => .inl hrow

theorem read_leaves {α : Type} {x : Except A2ATaskStoreError α}
    (h : store.Sound sha config) (hcall : call.pruning_time = none)
    (hx : Avoids .CorruptData x fun _ => True) :
    Avoids .CorruptData (x.map fun _ => store) (call.Leaves sha config store) :=
  Avoids.map (hx.mono fun _ _ => leaves_self h hcall)

/-- A call that is not ahead succeeds or fails for a reason of its own. -/
theorem result_avoids (hsha : sha.Ideal) (hcfg : config.validate = .ok ())
    (h : store.Sound sha config) (call : TaskStoreCall) (hcall : ¬ call.Ahead store) :
    Avoids .CorruptData (call.result sha config store) (call.Leaves sha config store) := by
  cases call with
  | create_task creation =>
    refine Avoids.map ((h.create_task hsha hcfg creation).mono fun result hres => ?_)
    exact ⟨hres.1, hres.2.1, fun _ => hres.2.2⟩
  | get_task key => exact read_leaves h rfl (h.kept.load_task_avoids.mono fun _ _ => trivial)
  | list_tasks query => exact read_leaves h rfl (h.kept.list_tasks query)
  | list_tasks_with_artifacts query limit =>
    exact read_leaves h rfl (h.kept.list_tasks_with_artifacts query limit)
  | transition_task transition =>
    refine Avoids.map ((h.transition_task hcfg transition).mono fun result hres => ?_)
    obtain ⟨hsound, row, hrow, hsame | happlied⟩ := hres
    · rw [hsame.1]
      exact leaves_self h rfl
    · obtain ⟨hall, -, times, statuses, htimes, hins, heq, -⟩ := happlied
      refine ⟨hsound, .of_lasts ?_, fun hne => absurd rfl (hne transition)⟩
      rw [heq]
      exact (h.kept.transitioned hcfg hrow hall htimes hins).2
  | status_updates key after_generation =>
    refine read_leaves h rfl (h.kept.status_updates fun row hrow => ?_)
    exact Nat.le_of_not_lt fun hlt => hcall ⟨row, hrow, hlt⟩
  | append_message message now =>
    refine Avoids.map ((h.append_message hcfg message now).mono fun result hres => ?_)
    exact ⟨hres.1, hres.2.1, fun _ => hres.2.2.1⟩
  | append_artifact artifact now | append_working_artifact artifact now maximum =>
    refine Avoids.map ((h.append_artifact_in_state hcfg artifact now _ _).mono
      fun result hres => ?_)
    exact ⟨hres.1, hres.2.1, fun _ => hres.2.2.1⟩
  | messages key limit =>
    exact read_leaves h rfl (Avoids.map (h.kept.task_with_messages hcfg key limit))
  | task_with_messages key limit =>
    exact read_leaves h rfl (h.kept.task_with_messages hcfg key limit)
  | task_snapshot key message_limit artifact_limit =>
    exact read_leaves h rfl (h.kept.task_snapshot hcfg key message_limit artifact_limit)
  | stream_updates key generation sequence message_limit artifact_limit =>
    refine read_leaves h rfl (h.kept.stream_updates hcfg message_limit artifact_limit
      fun row hrow => ⟨?_, ?_⟩)
    · exact Nat.le_of_not_lt fun hlt => hcall ⟨row, hrow, .inl hlt⟩
    · exact Nat.le_of_not_lt fun hlt => hcall ⟨row, hrow, .inr hlt⟩
  | artifacts key limit => exact read_leaves h rfl (h.kept.artifacts key limit)
  | prune now =>
    refine Avoids.map ((h.kept.prune_in now).mono fun result hres => ?_)
    obtain ⟨hprune, hsound, hprunes⟩ := hres
    exact ⟨hsound, .of_prune_in hprune hprunes (TaskTables.Lasts.refl _),
      fun _ => .of_tasks hprune rfl⟩
  | reopen =>
    rw [result, h.open_store hcfg]
    exact leaves_self h rfl

/-- A call that is ahead is a read. -/
theorem run_of_ahead (hcall : call.Ahead store) : call.run sha config store = store := by
  have hread : ∀ store', call.result sha config store = .ok store' → store' = store := by
    intro store' hresult
    cases call with
    | status_updates | stream_updates =>
      obtain ⟨_, -, rfl⟩ := map_eq_ok.1 hresult
      rfl
    | _ => exact hcall.elim
  rw [run]
  split
  · rename_i hresult
    exact hread _ hresult
  · rfl

/-- A call fails and changes nothing, or it leaves what it should. -/
theorem run_cases (hsha : sha.Ideal) (hcfg : config.validate = .ok ())
    (h : store.Sound sha config) (call : TaskStoreCall) :
    call.run sha config store = store ∨ (call.result sha config store
        = .ok (call.run sha config store)
      ∧ call.Leaves sha config store (call.run sha config store)) := by
  by_cases hcall : call.Ahead store
  · exact .inl (run_of_ahead hcall)
  · have havoids := call.result_avoids hsha hcfg h hcall
    unfold run
    cases hres : call.result sha config store with
    | ok store' => exact .inr ⟨rfl, havoids.of_ok hres⟩
    | error e => exact .inl rfl

end TaskStoreCall

/-! ## Runs

The store is sound after every list of calls, whichever of them fail. -/

theorem TaskTables.sound_empty : (empty : TaskTables δ).Sound sha config := by
  refine ⟨⟨?_, Nat.zero_le _, Nat.zero_le _, Nat.zero_le _⟩, fun _ hctx => nomatch hctx⟩
  intro key
  exact ⟨TaskTables.ContentKept.of_nil rfl rfl, fun _ hrow => (nomatch hrow),
    fun _ => ⟨rfl, rfl, rfl⟩⟩

theorem store_after_concat (calls : List TaskStoreCall) :
    store_after sha config (calls ++ [call])
      = call.run sha config (store_after sha config calls) := by
  rw [store_after, foldl_append]
  rfl

/-- The tables are sound after every run. -/
theorem store_after_sound (hsha : sha.Ideal) (hcfg : config.validate = .ok ())
    (calls : List TaskStoreCall) : (store_after sha config calls).Sound sha config := by
  induction calls using reverseRecOn with
  | nil => exact sound_empty
  | append_singleton calls call ih =>
    rw [store_after_concat]
    rcases call.run_cases hsha hcfg ih with hsame | ⟨-, hleaves⟩
    · rw [hsame]
      exact ih
    · exact hleaves.sound

/-- No call finds the tables corrupt, unless its cursor is ahead of the task; and the store
can always be opened again. -/
theorem task_store_never_corrupt (hsha : sha.Ideal) (hconfig : config.validate = .ok ())
    (calls : List TaskStoreCall) (call : TaskStoreCall) :
    (call.result sha config (store_after sha config calls) = .error .CorruptData →
        call.Ahead (store_after sha config calls))
    ∧ open_store config (store_after sha config calls) = .ok () := by
  have hsound := store_after_sound hsha hconfig calls
  refine ⟨?_, hsound.open_store hconfig⟩
  intro hcorrupt
  by_contra hcall
  exact (call.result_avoids hsha hconfig hsound hcall).ne_error hcorrupt

/-! ## A store with one task -/

namespace Scene

/-- A digest that is the text itself. -/
def text_itself : Sha256 Protobuf.Bytes := ⟨id, id⟩

theorem text_itself_ideal : text_itself.Ideal := ⟨Function.injective_id, Function.injective_id⟩

def identifier : A2AIdentifier := ⟨[97], by decide, by decide, by decide⟩

def task_key : A2ATaskKey :=
  ⟨identifier, none, ⟨replicate 32 48, by decide, by decide⟩⟩

def creation : A2ATaskCreation where
  identity :=
    { key := task_key
      context_id := identifier
      source_message_id := identifier
      conversation_id := ⟨replicate 32 0, rfl⟩
      target_device_id := ⟨replicate 32 0, rfl⟩
      request_message_id := task_key.task_id.request_message_id
      return_immediately := false
      history_length := none }
  request_text := "a"
  created_at_unix_milliseconds := 0
  mapped := rfl
  text_fits := by decide

end Scene

open Scene

/-- A cursor ahead of a task that was just created. -/
theorem status_updates_ahead_corrupt :
    (TaskStoreCall.status_updates task_key 1).result text_itself .default
    (store_after text_itself .default [.create_task creation]) = .error .CorruptData := by
  decide +kernel

/-- The same store can be opened, and the read was ahead. -/
theorem created_store_never_corrupt : (TaskStoreCall.status_updates task_key 1).Ahead
      (store_after text_itself .default [.create_task creation])
    ∧ open_store .default (store_after text_itself .default [.create_task creation]) = .ok () := by
  have h := task_store_never_corrupt text_itself_ideal
    (show A2ASqliteTaskStoreConfig.default.validate = .ok () by decide)
    [.create_task creation] (.status_updates task_key 1)
  exact ⟨h.1 (by decide +kernel), h.2⟩

end Konclave.A2A
