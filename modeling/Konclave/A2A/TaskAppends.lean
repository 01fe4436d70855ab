/-
`Konclave.A2ATaskStoreSqlite`: records that are appended again.

A message or an artifact update is found by its identity as long as the content of its task
is kept. A retry gets the number of the record that is stored, and other content under the
identity is a conflict. The record is looked up before the state of the task and the
capacity are, so a retry is answered when the task has ended and when the store is full.
It is not without effect, though: every append begins with the pruning of what is due.
-/
import Konclave.A2A.TaskLifecycle

set_option autoImplicit false

namespace Konclave.A2A

open Domain Scene

variable {δ : Type} [DecidableEq δ] {sha : Sha256 δ} {config : A2ASqliteTaskStoreConfig}
  {store : TaskTables δ} {key : A2ATaskKey} {row : TaskRow δ} {now : ℕ}
  {pruned : A2ATaskPruneOutcome × TaskTables δ} {more : List TaskStoreCall}

/-- The tables some calls later. -/
def TaskTables.after (sha : Sha256 δ) (config : A2ASqliteTaskStoreConfig) (store : TaskTables δ)
    (more : List TaskStoreCall) : TaskTables δ :=
  more.foldl (fun store call => call.run sha config store) store

/-- Some calls later the task was never removed, and the pruning of the next call, at a time
that can be stored, leaves its content. -/
structure Retains (sha : Sha256 δ) (config : A2ASqliteTaskStoreConfig) (store : TaskTables δ)
    (key : A2ATaskKey) (more : List TaskStoreCall) (now : ℕ) : Prop where
  there : StillThere sha config key store more
  clock : now ≤ I64_MAX
  content : ∃ row, ((store.after sha config more).pruned_at config (some now)).tasks.get? key
    = some row ∧ row.content_pruned = false

/-! ## Pruning succeeds

The deadlines of the tasks are compared with a time that has to fit a column. Nothing else
can fail: a candidate is a task that is there. -/

omit [DecidableEq δ] in
theorem prune_candidate_ok {candidate : RetentionCandidate} (outcome : A2ATaskPruneOutcome)
    (hrow : row ∈ store.tasks.rows) (hdue : row.candidate? now = some candidate) :
    ∃ result, prune_candidate store outcome candidate = .ok result := by
  obtain ⟨hkey, -⟩ := TaskRow.candidate?_eq_some hdue
  have hthere : (store.tasks.get? candidate.key).isSome = true := by
    rw [hkey, Table.get?_of_mem _ hrow]
    rfl
  rw [prune_candidate, require_bind hthere]
  split <;> exact ⟨_, rfl⟩

theorem TaskTables.Kept.prune_loop_ok (h : store.Kept sha config) (hnow : now ≤ I64_MAX)
    (batch : ℕ) (outcome : A2ATaskPruneOutcome) :
    ∃ result, A2A.prune_loop now batch outcome store = .ok result := by
  induction batch generalizing store outcome with
  | zero => exact ⟨_, rfl⟩
  | succ batch ih =>
    obtain ⟨candidate?, hnext⟩ : ∃ candidate?, next_retention_candidate store now
        = .ok candidate? := by
      rw [next_retention_candidate, to_sql_eq_ok.2 ⟨hnow, rfl⟩]
      exact ⟨_, rfl⟩
    rw [A2A.prune_loop, hnext, ok_bind]
    cases candidate? with
    | none => exact ⟨_, rfl⟩
    | some candidate =>
      obtain ⟨row, hrow, hdue⟩ := next_retention_candidate_avoids.of_ok hnext candidate rfl
      obtain ⟨⟨outcome', left⟩, hpruned⟩ := prune_candidate_ok outcome hrow hdue
      dsimp only
      rw [hpruned, ok_bind]
      exact ih ((h.prune_candidate hrow hdue outcome).of_ok hpruned).1 outcome'

theorem TaskTables.Kept.prune_in_ok (h : store.Kept sha config) (hnow : now ≤ I64_MAX) :
    ∃ pruned, A2A.prune_in config now store = .ok pruned
    ∧ store.pruned_at config (some now) = pruned.2 := by
  obtain ⟨result, hloop⟩ := h.prune_loop_ok hnow config.max_prune_batch ⟨0, 0⟩
  have hprune : A2A.prune_in config now store = .ok (result.1, A2A.delete_orphans result.2) := by
    rw [A2A.prune_in, hloop]
    rfl
  exact ⟨_, hprune, TaskTables.pruned_at_eq hprune⟩

/-! ## What an identity digest compares

A record and its retry have one identity; the digests agree exactly when the contents do. -/

section

variable {message : A2ATaskMessage} {artifact : A2ATaskArtifact}

theorem TaskTables.Kept.message_digest_iff (hsha : sha.Ideal) (h : store.Kept sha config)
    {stored : MessageRow δ} (hmem : stored ∈ store.messages_of message.key)
    (hid : stored.message_id = message.message_id) :
    stored.identity_digest = message.identity_digest sha
    ↔ stored.role = message.role ∧ stored.text = message.text := by
  obtain ⟨value, hread⟩ := (h.under message.key).messages.readable stored hmem
  obtain ⟨hfits, rfl, hdigest⟩ := read_message_eq_ok.1 hread
  rw [← hdigest]
  constructor
  · intro hsame
    exact (message_identity_digest_inj hsha hsame).2.2
  · rintro ⟨hrole, htext⟩
    simp only [A2ATaskMessage.identity_digest, hid, hrole, htext]

theorem TaskTables.Kept.artifact_digest_iff (hsha : sha.Ideal) (h : store.Kept sha config)
    {stored : ArtifactRow δ} (hmem : stored ∈ store.artifacts_of artifact.key)
    (hid : stored.artifact_id = artifact.artifact_id) :
    stored.identity_digest = artifact.identity_digest sha
    ↔ stored.canonical_bytes = artifact.canonical_bytes ∧ stored.complete = artifact.complete := by
  obtain ⟨value, hread⟩ := (h.under artifact.key).artifacts.readable stored hmem
  obtain ⟨hfits, rfl, -, hdigest⟩ := read_artifact_eq_ok.1 hread
  rw [← hdigest]
  constructor
  · intro hsame
    exact (artifact_identity_digest_inj hsha hsame).2.2
  · rintro ⟨hbytes, hcomplete⟩
    simp only [A2ATaskArtifact.identity_digest, A2ATaskArtifact.content_digest, hid, hbytes,
      hcomplete]

/-! ## A retry

After the pruning the record is looked up, before the state of the task and the capacity are. -/

theorem TaskTables.Sound.append_message_again (hsha : sha.Ideal) (h : store.Sound sha config)
    (hprune : prune_in config now store = .ok pruned)
    (hrow : pruned.2.tasks.get? message.key = some row) {stored : MessageRow δ}
    (hmem : stored ∈ pruned.2.messages_of message.key)
    (hid : stored.message_id = message.message_id) : A2A.append_message sha config message now store
    = if stored.role = message.role ∧ stored.text = message.text
      then .ok (.Existing stored.sequence, pruned.2) else .error .Conflict := by
  have hkept := ((h.kept.prune_in now).of_ok hprune).2.1.kept
  have hfound := named_message_iff.2 ⟨hmem, hid⟩
  obtain ⟨outcome, left⟩ := pruned
  rw [A2A.append_message, hprune, ← if_congr (hkept.message_digest_iff hsha hmem hid) rfl rfl]
  simp only [ok_bind, hkept.load_task_ok hrow, hkept.existing_message_eq, hfound, Option.map_some]
  split
  · rename_i hsame
    exact require_bind hsame
  · rename_i hother
    exact require_bind_of_not hother

theorem TaskTables.Sound.append_artifact_again (hsha : sha.Ideal) (h : store.Sound sha config)
    (hprune : prune_in config now store = .ok pruned)
    (hrow : pruned.2.tasks.get? artifact.key = some row) {stored : ArtifactRow δ}
    (hmem : stored ∈ pruned.2.artifacts_of artifact.key)
    (hid : stored.artifact_id = artifact.artifact_id) {maximum_artifacts : ℕ}
    (hmax : ¬ (maximum_artifacts = 0 ∨ MAX_PAGE_SIZE < maximum_artifacts))
    (require_working : Bool) :
    A2A.append_artifact_in_state sha config artifact now require_working maximum_artifacts store
    = if stored.canonical_bytes = artifact.canonical_bytes ∧ stored.complete = artifact.complete
      then .ok (.Existing stored.sequence, pruned.2) else .error .Conflict := by
  have hkept := ((h.kept.prune_in now).of_ok hprune).2.1.kept
  have hfound := named_artifact_iff.2 ⟨hmem, hid⟩
  obtain ⟨outcome, left⟩ := pruned
  rw [A2A.append_artifact_in_state, require_bind hmax, hprune,
    ← if_congr (hkept.artifact_digest_iff hsha hmem hid) rfl rfl]
  simp only [ok_bind, hkept.load_task_ok hrow, hkept.existing_artifact_eq, hfound, Option.map_some]
  split
  · rename_i hsame
    exact require_bind hsame
  · rename_i hother
    exact require_bind_of_not hother

end

/-! ## Until the content is pruned

What was stored for a task stays stored along any calls that leave its content. -/

theorem TaskTables.Sound.after (hsha : sha.Ideal) (hcfg : config.validate = .ok ())
    (h : store.Sound sha config) (more : List TaskStoreCall) :
    (store.after sha config more).Sound sha config := by
  induction more generalizing store with
  | nil => exact h
  | cons call more ih => exact ih (call.run_sound hsha hcfg h)

/-- What was stored for a task is still stored while its content is retained. -/
theorem Retains.stored (hsha : sha.Ideal) (hcfg : config.validate = .ok ())
    (h : store.Sound sha config) (hret : Retains sha config store key more now)
    (hprune : prune_in config now (store.after sha config more) = .ok pruned) :
    store.messages_of key <+: pruned.2.messages_of key
    ∧ store.artifacts_of key <+: pruned.2.artifacts_of key := by
  obtain ⟨hthere, -, row', hrow', hkept⟩ := hret
  rw [TaskTables.pruned_at_eq hprune] at hrow'
  have hprunes := (((h.after hsha hcfg more).kept.prune_in now).of_ok hprune).2.2
  have hlater : store.Lasts (store.after sha config more) key := hthere.lasts hsha hcfg h
  have hstays : (store.after sha config more).Lasts pruned.2 key :=
    (hprunes.goes key).resolve_right (by rw [hrow']; exact Option.some_ne_none _)
  cases hrow : store.tasks.get? key with
  | none =>
    -- nothing is stored under a key without a task
    obtain ⟨-, hmsgs, hart⟩ := (h.kept.under key).absent hrow
    rw [hmsgs, hart]
    exact ⟨List.nil_prefix, List.nil_prefix⟩
  | some row =>
    obtain ⟨last, hlast, hgoes⟩ := hlater.trans hstays row hrow
    rw [hrow'] at hlast
    cases hlast
    have hkey := key_of_task hrow
    subst hkey
    exact ⟨hgoes.messages hkept, hgoes.artifacts hkept⟩

/-! ## Appends

Numbering, limits and retries hold in every store that a run of calls leads to. -/

/-- What holds of the records of a store. -/
structure AppendsSoundly (sha : Sha256 δ) (config : A2ASqliteTaskStoreConfig)
    (store : TaskTables δ) : Prop where
  /-- Messages and artifact updates of a task are each numbered from one, without a gap. -/
  numbered : ∀ key, Numbered (·.sequence) 1 (store.messages_of key)
    ∧ Numbered (·.sequence) 1 (store.artifacts_of key)
  /-- The configured limits hold, for each task and for the store. -/
  within : store.tasks.rows.length ≤ config.max_tasks
    ∧ store.contexts.rows.length ≤ config.max_tasks
    ∧ retained_payload_bytes store ≤ config.max_payload_bytes
    ∧ ∀ key, (store.messages_of key).length ≤ config.max_messages_per_task
      ∧ (store.artifacts_of key).length ≤ config.max_artifacts_per_task
  /-- An append that succeeds answers with the number of a record of its content. -/
  message : ∀ message now outcome store',
    append_message sha config message now store = .ok (outcome, store') →
    ∃ stored ∈ store'.messages_of message.key, stored.message_id = message.message_id
      ∧ stored.sequence = outcome.sequence ∧ stored.role = message.role
      ∧ stored.text = message.text
  artifact : ∀ artifact now require_working maximum outcome store',
    append_artifact_in_state sha config artifact now require_working maximum store
      = .ok (outcome, store') →
    ∃ stored ∈ store'.artifacts_of artifact.key, stored.artifact_id = artifact.artifact_id
      ∧ stored.sequence = outcome.sequence ∧ stored.canonical_bytes = artifact.canonical_bytes
      ∧ stored.complete = artifact.complete
  /-- At any later time until its content is pruned, a record that is appended again is
  answered with its number, and only what is due is pruned; other content is a conflict. -/
  message_again : ∀ stored (message : A2ATaskMessage) more now,
    stored ∈ store.messages_of message.key → stored.message_id = message.message_id →
    Retains sha config store message.key more now →
    append_message sha config message now (store.after sha config more)
    = if stored.role = message.role ∧ stored.text = message.text
      then .ok (.Existing stored.sequence,
        (store.after sha config more).pruned_at config (some now))
      else .error .Conflict
  artifact_again : ∀ stored (artifact : A2ATaskArtifact) more now require_working maximum,
    stored ∈ store.artifacts_of artifact.key → stored.artifact_id = artifact.artifact_id →
    Retains sha config store artifact.key more now →
    ¬ (maximum = 0 ∨ MAX_PAGE_SIZE < maximum) →
    append_artifact_in_state sha config artifact now require_working maximum
      (store.after sha config more)
    = if stored.canonical_bytes = artifact.canonical_bytes ∧ stored.complete = artifact.complete
      then .ok (.Existing stored.sequence,
        (store.after sha config more).pruned_at config (some now))
      else .error .Conflict
  /-- Nothing new is stored for a task that has ended: it has the records it had, or none
  once they are pruned. -/
  closed : ∀ key row more, store.tasks.get? key = some row →
    a2a_task_state_is_terminal row.state = true → StillThere sha config key store more →
    ((store.after sha config more).messages_of key = store.messages_of key
      ∧ (store.after sha config more).artifacts_of key = store.artifacts_of key)
    ∨ ((store.after sha config more).messages_of key = []
      ∧ (store.after sha config more).artifacts_of key = [])

/-- After every run the records of each task are numbered without a gap and within the limits,
an append that comes again is answered with the number it has, and nothing is appended to a
task that has ended. -/
theorem appends_soundly (hsha : sha.Ideal) (hconfig : config.validate = .ok ())
    (calls : List TaskStoreCall) : AppendsSoundly sha config (store_after sha config calls) := by
  have h := store_after_sound hsha hconfig calls
  refine ⟨?_, ?_, ?_, ?_, ?_, ?_, ?_⟩
  · intro key
    exact ⟨(h.kept.under key).messages.numbered, (h.kept.under key).artifacts.numbered⟩
  · refine ⟨h.kept.tasks_le, h.kept.contexts_le, h.kept.payload_le, ?_⟩
    intro key
    exact ⟨(h.kept.under key).messages.length_le, (h.kept.under key).artifacts.length_le⟩
  · intro message now outcome store' happend
    obtain ⟨hsound, -, -, stored, hmem, hid, hseq, hdigest⟩ :=
      (h.append_message hconfig message now).of_ok happend
    exact ⟨stored, hmem, hid, hseq, (hsound.kept.message_digest_iff hsha hmem hid).1 hdigest⟩
  · intro artifact now require_working maximum outcome store' happend
    obtain ⟨hsound, -, -, stored, hmem, hid, hseq, hdigest⟩ :=
      (h.append_artifact_in_state hconfig artifact now require_working maximum).of_ok happend
    exact ⟨stored, hmem, hid, hseq, (hsound.kept.artifact_digest_iff hsha hmem hid).1 hdigest⟩
  · intro stored message more now hmem hid hret
    have hlater := h.after hsha hconfig more
    obtain ⟨pruned, hprune, heq⟩ := hlater.kept.prune_in_ok hret.clock
    obtain ⟨row, hrow, -⟩ := hret.content
    have hstill := (hret.stored hsha hconfig h hprune).1.subset hmem
    rw [heq] at hrow ⊢
    exact hlater.append_message_again hsha hprune hrow hstill hid
  · intro stored artifact more now require_working maximum hmem hid hret hmax
    have hlater := h.after hsha hconfig more
    obtain ⟨pruned, hprune, heq⟩ := hlater.kept.prune_in_ok hret.clock
    obtain ⟨row, hrow, -⟩ := hret.content
    have hstill := (hret.stored hsha hconfig h hprune).2.subset hmem
    rw [heq] at hrow ⊢
    exact hlater.append_artifact_again hsha hprune hrow hstill hid hmax require_working
  · intro key row more hrow hterm hthere
    obtain ⟨row', hrow', hgoes⟩ := hthere.lasts hsha hconfig h row hrow
    have hlater := (((h.after hsha hconfig more).kept.under key).task row' hrow').pruned
    rw [key_of_task hrow'] at hlater
    have hkey := key_of_task hrow
    subst hkey
    cases hpruned : row'.content_pruned with
    | true => exact .inr (hlater hpruned)
    | false => exact .inl (hgoes.closed hterm hpruned)

namespace Scene

/-- A second task of the same context, and a message for it. -/
def other_key : A2ATaskKey :=
  ⟨identifier, none, ⟨List.replicate 32 49, by decide, by decide⟩⟩

def other_creation : A2ATaskCreation :=
  { creation with
    identity :=
      { creation.identity with
        key := other_key
        request_message_id := other_key.task_id.request_message_id }
    mapped := rfl }

def other_answer : A2ATaskMessage := { answer with key := other_key }

/-- The first task is completed, the second one is answered. -/
def side_by_side : List TaskStoreCall :=
  [.create_task creation, .create_task other_creation, .append_message answer 1,
    .transition_task completion, .append_message other_answer 3]

/-- When the content of the first task expires. -/
def expiry : ℕ := 2 + 7 * 24 * 60 * 60 * 1000

end Scene

/-- An answer that is appended again is found, and the expired content of another task goes. -/
theorem append_again_prunes : (append_message text_itself .default other_answer expiry
        (store_after text_itself .default side_by_side)).map (·.1)
      = .ok (.Existing 2)
    ∧ (append_message text_itself .default other_answer expiry
        (store_after text_itself .default side_by_side)).map (·.2)
      ≠ .ok (store_after text_itself .default side_by_side) := by
  decide +kernel

/-- It is answered with the number it has, and what is left is what the pruning left. -/
theorem answered_appends_soundly :
    append_message text_itself .default other_answer expiry
      (store_after text_itself .default side_by_side)
    = .ok (.Existing 2,
      (store_after text_itself .default side_by_side).pruned_at .default (some expiry)) := by
  have h := appends_soundly text_itself_ideal
    (show A2ASqliteTaskStoreConfig.default.validate = .ok () by decide) side_by_side
  have hmem : other_answer.row text_itself 2
      ∈ (store_after text_itself .default side_by_side).messages_of other_answer.key := by
    decide +kernel
  have hcontent : ((((store_after text_itself .default side_by_side).pruned_at .default
      (some expiry)).tasks.get? other_key).any fun row => !row.content_pruned) = true := by
    decide +kernel
  -- from here on the store is not evaluated
  generalize store_after text_itself .default side_by_side = store at h hmem hcontent ⊢
  obtain ⟨row, hrow, hcontent⟩ := (Option.any_eq_true ..).1 hcontent
  have hretains : Retains text_itself .default store other_answer.key [] expiry :=
    ⟨trivial, by decide, row, hrow, by simpa using hcontent⟩
  exact (h.message_again _ other_answer [] expiry hmem rfl hretains).trans (if_pos ⟨rfl, rfl⟩)

/-! ## Tasks that are open

Retention looks at tasks that have ended. An open one keeps its row and its content through
every call. -/

section

variable (h : store.Kept sha config) (hrow : store.tasks.get? key = some row)
  (hopen : a2a_task_state_is_terminal row.state = false)

include h hrow hopen

/-- An open task has its content, and is never due. -/
theorem TaskTables.Kept.open_row :
    row.content_pruned = false ∧ ∀ now, row.candidate? now = none := by
  have hshape := require_eq_ok.1 ((h.under key).task row hrow).shape
  push Not at hshape
  obtain ⟨-, -, hpruned, hcontent, -⟩ := hshape.2.2.1 hopen
  have hkept : row.content_pruned = false := by simpa using hpruned
  simp [TaskRow.candidate?, hkept, hcontent]

theorem TaskTables.Kept.prune_loop_open {batch : ℕ} {outcome : A2ATaskPruneOutcome}
    (hloop : A2A.prune_loop now batch outcome store = .ok pruned) :
    store.SameAt pruned.2 key := by
  induction batch generalizing store outcome with
  | zero =>
    cases hloop
    exact ⟨rfl, rfl, rfl, rfl⟩
  | succ batch ih =>
    obtain ⟨candidate?, hnext, hloop⟩ := bind_ok.1 hloop
    cases candidate? with
    | none =>
      cases hloop
      exact ⟨rfl, rfl, rfl, rfl⟩
    | some candidate =>
      obtain ⟨⟨outcome', left⟩, hcand, hloop⟩ := bind_ok.1 hloop
      obtain ⟨due, hdue, hcandidate⟩ := next_retention_candidate_avoids.of_ok hnext candidate rfl
      have hkept := ((h.prune_candidate hdue hcandidate outcome).of_ok hcand).1
      -- the candidate is due, and the open task is not
      have hne : key ≠ candidate.key := by
        rintro rfl
        rw [(TaskRow.candidate?_eq_some hcandidate).1, Table.get?_of_mem _ hdue] at hrow
        cases hrow
        rw [(h.open_row (Table.get?_of_mem _ hdue) hopen).2] at hcandidate
        cases hcandidate
      have hsame : store.SameAt left key := by
        rw [A2A.prune_candidate] at hcand
        obtain ⟨-, hcand⟩ := require_ok.1 hcand
        split at hcand
        · cases hcand
          exact store.sameAt_prune_payload hne
        · cases hcand
          exact store.sameAt_delete_task hne
      have hlater := ih hkept (hsame.task.trans hrow) hloop
      exact ⟨hlater.task.trans hsame.task, hlater.statuses.trans hsame.statuses,
        hlater.messages.trans hsame.messages, hlater.artifacts.trans hsame.artifacts⟩

theorem TaskTables.Kept.spares_open (call : TaskStoreCall) : call.Spares config store key := by
  have hthere : store.tasks.get? key ≠ none := by
    rw [hrow]
    exact Option.some_ne_none row
  rw [TaskStoreCall.Spares]
  unfold pruned_at
  split
  · exact hthere
  · split
    · rename_i hprune
      obtain ⟨left, hloop, hleft⟩ := bind_ok.1 hprune
      cases hleft
      exact (h.prune_loop_open hrow hopen hloop).task ▸ hthere
    · exact hthere

end

/-- No call removes a task, or anything appended to it, before it has ended. -/
theorem open_task_kept (hsha : sha.Ideal) (hconfig : config.validate = .ok ())
    (calls more : List TaskStoreCall) {key : A2ATaskKey} {row : TaskRow δ}
    (hrow : (store_after sha config calls).tasks.get? key = some row) :
    (∃ before ended, before <+: more
      ∧ (store_after sha config (calls ++ before)).tasks.get? key = some ended
      ∧ a2a_task_state_is_terminal ended.state = true)
    ∨ ∃ row', (store_after sha config (calls ++ more)).tasks.get? key = some row'
      ∧ a2a_task_state_is_terminal row'.state = false ∧ row'.content_pruned = false
      ∧ (store_after sha config calls).GoesOn (store_after sha config (calls ++ more)) row
        row' := by
  induction more using List.reverseRecOn with
  | nil =>
    rw [List.append_nil]
    cases hstate : a2a_task_state_is_terminal row.state with
    | true => exact .inl ⟨[], row, List.nil_prefix, by rwa [List.append_nil], hstate⟩
    | false =>
      obtain ⟨_, hrow', hgoes⟩ := TaskTables.Lasts.refl (store_after sha config calls) key row hrow
      cases hrow.symm.trans hrow'
      exact .inr ⟨row, hrow, hstate,
        ((store_after_sound hsha hconfig calls).kept.open_row hrow hstate).1, hgoes⟩
  | append_singleton more call ih =>
    rcases ih with ⟨before, ended, hbefore, hended⟩ | ⟨row', hrow', hstate, -, hgoes⟩
    · exact .inl ⟨before, ended, hbefore.trans (List.prefix_append _ _), hended⟩
    · have hsound := store_after_sound hsha hconfig (calls ++ more)
      have hlasts := call.run_lasts hsha hconfig hsound
        (hsound.kept.spares_open hrow' hstate call)
      rw [← store_after_concat, List.append_assoc] at hlasts
      obtain ⟨row'', hrow'', hgoes'⟩ := hlasts row' hrow'
      cases hstate'' : a2a_task_state_is_terminal row''.state with
      | true => exact .inl ⟨_, row'', List.prefix_rfl, hrow'', hstate''⟩
      | false =>
        have hsound'' := store_after_sound hsha hconfig (calls ++ (more ++ [call]))
        exact .inr ⟨row'', hrow'', hstate'', (hsound''.kept.open_row hrow'' hstate'').1,
          hgoes.trans hgoes'⟩

/-- The second task is kept through any pruning, for its answer is not its end. -/
theorem open_task_kept_answered : ∃ row row',
    (store_after text_itself .default side_by_side).tasks.get? other_key = some row
    ∧ (store_after text_itself .default (side_by_side ++ [.prune expiry])).tasks.get? other_key
      = some row' ∧ row'.content_pruned = false := by
  have hrow : ((store_after text_itself .default side_by_side).tasks.get? other_key).isSome
      = true := by decide +kernel
  have hopen : ∀ before ∈ [[], [TaskStoreCall.prune expiry]], ((store_after text_itself
      .default (side_by_side ++ before)).tasks.get? other_key).any
        (fun row => a2a_task_state_is_terminal row.state) = false := by decide +kernel
  obtain ⟨row, hrow⟩ := Option.isSome_iff_exists.1 hrow
  rcases open_task_kept text_itself_ideal
      (show A2ASqliteTaskStoreConfig.default.validate = .ok () by decide) side_by_side
      [.prune expiry] hrow with ⟨before, ended, hbefore, hended, hterminal⟩ | ⟨row', hrow', -,
        hkept, -⟩
  · have hmem : before ∈ [[], [TaskStoreCall.prune expiry]] := by
      rcases List.prefix_cons_iff.1 hbefore with rfl | ⟨_, rfl, hnil⟩
      · exact List.mem_cons_self
      · rw [List.prefix_nil.1 hnil]
        exact List.mem_cons_of_mem _ List.mem_cons_self
    have hfalse := hopen before hmem
    rw [hended, Option.any_some, hterminal] at hfalse
    cases hfalse
  · exact ⟨row, row', hrow, hrow', hkept⟩

end Konclave.A2A
