/-
A reader of the updates of one task.

The reader passes back the generation of the last status and the sequence of the last
artifact it received, and other calls come between its reads. What it has received is the
beginning of what is stored, each update once and in order, and a read brings it up to
date. But once the content of the task is pruned, a reader that has received an artifact
is told that the store is corrupt.
-/
import Konclave.A2A.TaskLifecycle
import Mathlib.Data.List.Infix

set_option autoImplicit false

namespace Konclave.A2A

open Domain Scene ArtifactRow List

variable {δ : Type} [DecidableEq δ] {sha : Sha256 δ} {config : A2ASqliteTaskStoreConfig}
  {store store' : TaskTables δ} {key : A2ATaskKey} {row : TaskRow δ} {generation : ℕ} {sequence : ℕ}

/-! ## One read

What a read answers, in terms of the rows: the statuses, messages and artifact updates after the
numbers the reader names, as many as the limits allow. -/

/-- The limits a read accepts. -/
def ReadLimits (config : A2ASqliteTaskStoreConfig) (message_limit artifact_limit : ℕ) : Prop :=
  ¬ (message_limit = 0 ∨ config.max_messages_per_task < message_limit
      ∨ MAX_PAGE_SIZE < message_limit)
    ∧ ¬ (artifact_limit = 0 ∨ MAX_PAGE_SIZE < artifact_limit)

/-- What there is after a generation and a sequence. -/
def TaskTables.updates_after (store : TaskTables δ) (row : TaskRow δ)
    (generation sequence message_limit artifact_limit : ℕ) : A2ATaskStreamUpdates δ where
  task := store.record_of row
  statuses := ((store.statuses_of row.identity.key).drop (generation + 1)).map stored_status
  artifacts := (((store.artifacts_of row.identity.key).drop sequence).take artifact_limit).map
    stored
  messages := ((store.messages_of row.identity.key).drop
    ((store.messages_of row.identity.key).length - message_limit)).map MessageRow.stored

/-- A read returns what there is, unless its artifact cursor is past the end. -/
theorem TaskTables.Kept.stream_updates_eq (hcfg : config.validate = .ok ())
    (h : store.Kept sha config) (hrow : store.tasks.get? key = some row)
    {generation sequence message_limit artifact_limit : ℕ}
    (hlimits : ReadLimits config message_limit artifact_limit)
    (hgen : generation ≤ row.generation) :
    A2A.stream_updates sha config key generation sequence message_limit artifact_limit store
    = if sequence ≤ (store.artifacts_of key).length
      then .ok (store.updates_after row generation sequence message_limit
        (min artifact_limit config.max_artifacts_per_task))
      else .error .CorruptData := by
  have hkey := key_of_task hrow
  subst hkey
  have hsound := (h.under row.identity.key).task row hrow
  have hseen : generation ≤ (store.record_of row).generation := hgen
  rw [A2A.stream_updates, validate_page_limit, require_bind hlimits.1,
    validate_artifact_read_limit, require_bind hlimits.2]
  change (load_task sha store row.identity.key >>= _) = _
  rw [h.load_task_ok hrow, ok_bind, require_bind hseen, hsound.load_status_updates_eq hgen, ok_bind]
  have hflag : (store.record_of row).content_pruned = row.content_pruned := rfl
  rw [hflag]
  cases hpruned : row.content_pruned with
  | true =>
    obtain ⟨hmsgs, hart⟩ := hsound.pruned hpruned
    rw [if_pos rfl, hart, length_nil]
    by_cases hzero : sequence = 0
    · rw [if_pos hzero.le, require_bind hzero, TaskTables.updates_after, hmsgs, hart]
      simp [pure, Except.pure]
    · rw [if_neg fun hle => hzero (Nat.le_zero.1 hle), require_bind_of_not hzero]
  | false =>
    rw [if_neg (by decide)]
    by_cases hle : sequence ≤ (store.artifacts_of row.identity.key).length
    · rw [if_pos hle, require_bind hle, h.load_artifacts_after_eq (config.bounds hcfg).2.1 hle,
        ok_bind, h.load_messages_eq (config.bounds hcfg).1, ok_bind]
      rfl
    · rw [if_neg hle, require_bind_of_not hle]

/-- A read is refused for its limits before anything is looked at. -/
theorem stream_updates_limits {generation sequence message_limit artifact_limit : ℕ}
    (hlimits : ¬ ReadLimits config message_limit artifact_limit) :
    A2A.stream_updates sha config key generation sequence message_limit artifact_limit store
    = .error .InvalidConfiguration := by
  rw [A2A.stream_updates, validate_page_limit, validate_artifact_read_limit]
  by_cases hmsg : ¬ (message_limit = 0 ∨ config.max_messages_per_task < message_limit
      ∨ MAX_PAGE_SIZE < message_limit)
  · rw [require_bind hmsg, require_bind_of_not fun hartifact => hlimits ⟨hmsg, hartifact⟩]
    rfl
  · rw [require_bind_of_not hmsg]

/-! ## The reader

A reader keeps what it was given and asks for what follows. It has received beginnings of the
three lists, none with a gap or twice. -/

/-- A reader: its two cursors, and all it has received. -/
structure Reader (δ : Type) where
  generation : ℕ
  sequence : ℕ
  statuses : List StoredA2ATaskStatus
  artifacts : List (StoredA2ATaskArtifact δ)

def Reader.start : Reader δ := ⟨0, 0, [], []⟩

/-- The reader moves its cursors to the last status and artifact it is given. -/
def Reader.receive (reader : Reader δ) (updates : A2ATaskStreamUpdates δ) : Reader δ where
  generation := (updates.statuses.getLast?.map (·.generation)).getD reader.generation
  sequence := (updates.artifacts.getLast?.map (·.sequence)).getD reader.sequence
  statuses := reader.statuses ++ updates.statuses
  artifacts := reader.artifacts ++ updates.artifacts

/-- What a reader has received is the beginning of what is stored: the statuses after the
submission up to its generation and, unless they are gone, the artifacts up to its sequence. -/
structure Reader.Follows (reader : Reader δ) (store : TaskTables δ) (row : TaskRow δ) : Prop where
  generation_le : reader.generation ≤ row.generation
  statuses : reader.statuses
    = (((store.statuses_of row.identity.key).drop 1).take reader.generation).map stored_status
  statuses_numbered : Numbered (·.generation) 1 reader.statuses
  artifacts_numbered : Numbered (·.sequence) 1 reader.artifacts
  artifacts_length : reader.artifacts.length = reader.sequence
  artifacts : row.content_pruned = false →
    reader.sequence ≤ (store.artifacts_of row.identity.key).length
      ∧ reader.artifacts
        = ((store.artifacts_of row.identity.key).take reader.sequence).map stored

omit [DecidableEq δ] in
theorem Reader.start_follows : Reader.start.Follows store row :=
  ⟨Nat.zero_le _, rfl, Numbered.nil, Numbered.nil, rfl, fun _ => ⟨Nat.zero_le _, rfl⟩⟩

omit [DecidableEq δ] in
/-- Taking up to a number that a list has reaches nothing that is appended to it. -/
theorem take_of_isPrefix {V : Type} {l l' : List V} (h : l <+: l') {n : ℕ}
    (hn : n ≤ l.length) : l'.take n = l.take n := by
  obtain ⟨rest, rfl⟩ := h
  exact take_append_of_le_length hn

omit [DecidableEq δ] in
/-- A reader still follows a task that went on. -/
theorem Reader.Follows.goes_on {reader : Reader δ} {row' : TaskRow δ}
    (h : reader.Follows store row) (hsound : row.Sound sha store)
    (hsound' : row'.Sound sha store') (hgoes : store.GoesOn store' row row') :
    reader.Follows store' row' := by
  have hkey : row'.identity.key = row.identity.key := by rw [hgoes.identity]
  have hlen := hsound.statuses_length.1
  have hlen' := hsound'.statuses_length.1
  rw [hkey] at hlen'
  have hle := hgoes.statuses.length_le
  have hgen := h.generation_le
  refine ⟨by omega, ?_, h.statuses_numbered, h.artifacts_numbered, h.artifacts_length, ?_⟩
  · rw [hkey, take_of_isPrefix (List.IsPrefix.drop hgoes.statuses 1)]
    · exact h.statuses
    · rw [length_drop]
      omega
  · intro hkept
    have hpruned : row.content_pruned = false := by
      by_contra htrue
      rw [hgoes.pruned (by simpa using htrue)] at hkept
      cases hkept
    obtain ⟨hseen, hart⟩ := h.artifacts hpruned
    have hprefix := hgoes.artifacts hkept
    rw [hkey]
    refine ⟨hseen.trans hprefix.length_le, ?_⟩
    rw [take_of_isPrefix hprefix hseen]
    exact hart

section

variable {reader : Reader δ} {message_limit limit : ℕ} {updates : A2ATaskStreamUpdates δ}
  (h : reader.Follows store row) (hkept : store.Kept sha config)
  (hrow : store.tasks.get? row.identity.key = some row)
  (hseen : reader.sequence ≤ (store.artifacts_of row.identity.key).length)
  (hupdates : updates = store.updates_after row reader.generation reader.sequence message_limit
    limit)

include h hkept hrow hupdates

/-- The statuses after the cursor run up to the generation of the task. -/
theorem Reader.Follows.receive_statuses : (reader.receive updates).generation = row.generation
    ∧ (reader.receive updates).statuses
      = ((store.statuses_of row.identity.key).drop 1).map stored_status := by
  subst hupdates
  have hsound := (hkept.under row.identity.key).task row hrow
  obtain ⟨hlen, -⟩ := hsound.statuses_length
  have hgen := h.generation_le
  have hdrop := hsound.statuses_numbered.drop (reader.generation + 1)
  rw [Nat.zero_add] at hdrop
  have hsts : Numbered (·.generation) (reader.generation + 1)
      (((store.statuses_of row.identity.key).drop (reader.generation + 1)).map stored_status) :=
    hdrop.map fun _ => rfl
  have hlast := hsts.last
  rw [length_map, length_drop, hlen] at hlast
  refine ⟨hlast.trans (by omega), ?_⟩
  have hsplit := take_append_drop reader.generation ((store.statuses_of row.identity.key).drop 1)
  rw [drop_drop, Nat.add_comm] at hsplit
  rw [← hsplit, map_append, ← h.statuses]
  rfl

include hseen

omit hrow in
/-- The artifacts after the cursor run on from it. -/
theorem Reader.Follows.receive_artifacts :
    Numbered (·.sequence) 1 (reader.receive updates).artifacts
    ∧ (reader.receive updates).artifacts.length = (reader.receive updates).sequence
    ∧ (reader.receive updates).sequence
      = min (reader.sequence + limit) (store.artifacts_of row.identity.key).length := by
  subst hupdates
  have hdrop := ((hkept.under row.identity.key).artifacts.numbered.drop reader.sequence).take limit
  rw [Nat.add_comm] at hdrop
  have hart : Numbered (·.sequence) (reader.sequence + 1)
      ((((store.artifacts_of row.identity.key).drop reader.sequence).take limit).map stored) :=
    hdrop.map fun _ => rfl
  have hlast := hart.last
  refine ⟨?_, ?_, ?_⟩
  · refine Numbered.append h.artifacts_numbered ?_
    rw [h.artifacts_length, Nat.add_comm]
    exact hart
  · refine length_append.trans ?_
    rw [h.artifacts_length]
    exact hlast.symm
  · refine hlast.trans ?_
    rw [length_map, length_take, length_drop]
    omega

/-- An answered read brings the reader up to date: it has every status, and the artifacts
as far as its limit goes. -/
theorem Reader.Follows.receive : (reader.receive updates).Follows store row
    ∧ (reader.receive updates).statuses
      = ((store.statuses_of row.identity.key).drop 1).map stored_status
    ∧ (row.content_pruned = false → (reader.receive updates).artifacts
      = ((store.artifacts_of row.identity.key).take (reader.sequence + limit)).map stored) := by
  have hsound := (hkept.under row.identity.key).task row hrow
  obtain ⟨hlen, -⟩ := hsound.statuses_length
  obtain ⟨hgen, hsts⟩ := h.receive_statuses hkept hrow hupdates
  obtain ⟨hnum, hart, hseq⟩ := h.receive_artifacts hkept hseen hupdates
  have htaken : row.content_pruned = false → (reader.receive updates).artifacts
      = ((store.artifacts_of row.identity.key).take (reader.sequence + limit)).map
        stored := by
    intro hpruned
    rw [take_add, map_append, ← (h.artifacts hpruned).2, hupdates]
    rfl
  refine ⟨⟨hgen.le, ?_, ?_, hnum, hart, ?_⟩, hsts, htaken⟩
  · rw [hgen, hsts, take_of_length_le]
    rw [length_drop]
    omega
  · have hdrop := hsound.statuses_numbered.drop 1
    rw [Nat.zero_add] at hdrop
    rw [hsts]
    exact hdrop.map fun _ => rfl
  · intro hpruned
    rw [hseq]
    refine ⟨Nat.min_le_right _ _, (htaken hpruned).trans ?_⟩
    congr 1
    rw [take_eq_take_iff]
    omega

end

/-! ## Runs of a reader

Calls of others come between two reads; the lists only grow until the content is pruned. -/

/-- A call of anyone, or a read of the reader. -/
inductive ReaderStep
  | call (call : TaskStoreCall)
  | read (message_limit artifact_limit : ℕ)

structure StreamState (δ : Type) where
  store : TaskTables δ
  reader : Reader δ

open StreamState

/-- What the reader is answered with its two cursors. -/
def StreamState.read (sha : Sha256 δ) (config : A2ASqliteTaskStoreConfig) (key : A2ATaskKey)
    (state : StreamState δ) (message_limit artifact_limit : ℕ) :
    Except A2ATaskStoreError (A2ATaskStreamUpdates δ) :=
  A2A.stream_updates sha config key state.reader.generation state.reader.sequence message_limit
    artifact_limit state.store

def StreamState.step (sha : Sha256 δ) (config : A2ASqliteTaskStoreConfig) (key : A2ATaskKey)
    (state : StreamState δ) : ReaderStep → StreamState δ
  | .call call => { state with store := call.run sha config state.store }
  | .read message_limit artifact_limit =>
    match state.read sha config key message_limit artifact_limit with
    | .ok updates => { state with reader := state.reader.receive updates }
    | .error _ => state

def StreamState.after (sha : Sha256 δ) (config : A2ASqliteTaskStoreConfig) (key : A2ATaskKey)
    (state : StreamState δ) (steps : List ReaderStep) : StreamState δ :=
  steps.foldl (fun state step => state.step sha config key step) state

/-- No call of the run removes the task. -/
def StreamState.StillThere (sha : Sha256 δ) (config : A2ASqliteTaskStoreConfig)
    (key : A2ATaskKey) : StreamState δ → List ReaderStep → Prop
  | _, [] => True
  | state, step :: steps =>
    (∀ call, step = .call call → call.Spares config state.store key)
      ∧ StillThere sha config key (state.step sha config key step) steps

/-- The store is sound, and the reader follows the task. -/
structure StreamState.Sound (sha : Sha256 δ) (config : A2ASqliteTaskStoreConfig)
    (key : A2ATaskKey) (state : StreamState δ) : Prop where
  store : state.store.Sound sha config
  reader : ∃ row, state.store.tasks.get? key = some row ∧ state.reader.Follows state.store row

variable {state : StreamState δ} {message_limit artifact_limit : ℕ}

/-- A read with valid limits is answered with what there is, or finds its cursor too far. -/
theorem StreamState.Sound.read_eq (hcfg : config.validate = .ok ())
    (h : state.Sound sha config key) (hlimits : ReadLimits config message_limit artifact_limit)
    (hrow : state.store.tasks.get? key = some row) :
    state.read sha config key message_limit artifact_limit
    = if state.reader.sequence ≤ (state.store.artifacts_of key).length
      then .ok (state.store.updates_after row state.reader.generation state.reader.sequence
        message_limit (min artifact_limit config.max_artifacts_per_task))
      else .error .CorruptData := by
  obtain ⟨row', hrow', hfollows⟩ := h.reader
  rw [hrow] at hrow'
  cases hrow'
  exact h.store.kept.stream_updates_eq hcfg hrow hlimits hfollows.generation_le

/-- What an answered read says about the reader after it. -/
theorem StreamState.Sound.read_ok (hcfg : config.validate = .ok ())
    (h : state.Sound sha config key) (hrow : state.store.tasks.get? key = some row)
    {updates : A2ATaskStreamUpdates δ}
    (hread : state.read sha config key message_limit artifact_limit = .ok updates) :
    (state.reader.receive updates).Follows state.store row ∧ (state.reader.receive updates).statuses
      = ((state.store.statuses_of key).drop 1).map stored_status
    ∧ (row.content_pruned = false → (state.reader.receive updates).artifacts
      = ((state.store.artifacts_of key).take (state.reader.sequence + artifact_limit)).map
        stored) := by
  have hlimits : ReadLimits config message_limit artifact_limit := by
    by_contra hnot
    rw [read, stream_updates_limits hnot] at hread
    cases hread
  rw [h.read_eq hcfg hlimits hrow] at hread
  obtain ⟨row', hrow', hfollows⟩ := h.reader
  rw [hrow] at hrow'
  cases hrow'
  have hkey := key_of_task hrow
  subst hkey
  split at hread
  · rename_i hseen
    obtain ⟨hafter, hsts, hart⟩ :=
      hfollows.receive h.store.kept hrow hseen (Except.ok.inj hread).symm
    refine ⟨hafter, hsts, fun hpruned => (hart hpruned).trans ?_⟩
    -- there are never more artifacts than the configured bound
    have hle := (h.store.kept.under row.identity.key).artifacts.length_le
    congr 1
    rw [take_eq_take_iff]
    omega
  · cases hread

theorem StreamState.Sound.step (hsha : sha.Ideal) (hcfg : config.validate = .ok ())
    (h : state.Sound sha config key) (step : ReaderStep)
    (hspares : ∀ call, step = .call call → call.Spares config state.store key) :
    (state.step sha config key step).Sound sha config key := by
  obtain ⟨row, hrow, hfollows⟩ := h.reader
  cases step with
  | call call =>
    have hsound := call.run_sound hsha hcfg h.store
    obtain ⟨row', hrow', hgoes⟩ := call.run_lasts hsha hcfg h.store (hspares call rfl) row hrow
    refine ⟨hsound, row', hrow', ?_⟩
    exact hfollows.goes_on ((h.store.kept.under key).task row hrow)
      ((hsound.kept.under key).task row' hrow') hgoes
  | read message_limit artifact_limit =>
    cases hread : state.read sha config key message_limit artifact_limit with
    | ok updates =>
      simp only [StreamState.step, hread]
      exact ⟨h.store, row, hrow, (h.read_ok hcfg hrow hread).1⟩
    | error e =>
      simp only [StreamState.step, hread]
      exact h

theorem StreamState.Sound.after (hsha : sha.Ideal) (hcfg : config.validate = .ok ())
    (h : state.Sound sha config key) {steps : List ReaderStep}
    (hthere : StreamState.StillThere sha config key state steps) :
    (state.after sha config key steps).Sound sha config key := by
  induction steps generalizing state with
  | nil => exact h
  | cons step steps ih => exact ih (h.step hsha hcfg step hthere.1) hthere.2

/-- The reader's cursor is in the stored artifacts, unless they are gone. -/
theorem StreamState.Sound.sequence_le_iff (h : state.Sound sha config key)
    (hrow : state.store.tasks.get? key = some row) :
    state.reader.sequence ≤ (state.store.artifacts_of key).length
    ↔ row.content_pruned = false ∨ state.reader.sequence = 0 := by
  obtain ⟨row', hrow', hfollows⟩ := h.reader
  rw [hrow] at hrow'
  cases hrow'
  have hkey := key_of_task hrow
  subst hkey
  cases hpruned : row.content_pruned with
  | true =>
    rw [(((h.store.kept.under _).task row hrow).pruned hpruned).2]
    simp
  | false => simp [(hfollows.artifacts hpruned).1]

/-- A read with accepted limits is answered, or the content it had begun to read is gone. -/
theorem StreamState.Sound.read_iff (hcfg : config.validate = .ok ())
    (h : state.Sound sha config key) (hrow : state.store.tasks.get? key = some row) :
    ((∃ updates, state.read sha config key message_limit artifact_limit = .ok updates)
      ↔ ReadLimits config message_limit artifact_limit
        ∧ (row.content_pruned = false ∨ state.reader.sequence = 0))
    ∧ (state.read sha config key message_limit artifact_limit = .error .CorruptData
      ↔ ReadLimits config message_limit artifact_limit ∧ row.content_pruned = true
        ∧ state.reader.sequence ≠ 0) := by
  by_cases hlimits : ReadLimits config message_limit artifact_limit
  · rw [h.read_eq hcfg hlimits hrow]
    by_cases hseen : state.reader.sequence ≤ (state.store.artifacts_of key).length
    · have hreads := (h.sequence_le_iff hrow).1 hseen
      simp only [if_pos hseen, hlimits, hreads]
      grind
    · have hgone := mt (h.sequence_le_iff hrow).2 hseen
      simp only [if_neg hseen, hlimits, hgone]
      grind
  · rw [read, stream_updates_limits hlimits]
    simp [hlimits]

/-- The reader of a task that exists, once other calls have been made. -/
def StreamState.start (store : TaskTables δ) : StreamState δ := ⟨store, .start⟩

/-- A reader receives every update once and in order and is up to date after every answered
read. A read with accepted limits is answered unless the content it had begun to read is gone,
and exactly then it is told of corruption. -/
theorem stream_reader_sound (hsha : sha.Ideal) (hconfig : config.validate = .ok ())
    (calls : List TaskStoreCall) (key : A2ATaskKey)
    (hexists : (store_after sha config calls).tasks.get? key ≠ none) (steps : List ReaderStep)
    (hthere : StreamState.StillThere sha config key (.start (store_after sha config calls)) steps) :
    let state := (start (store_after sha config calls)).after sha config key steps
    ∃ row, state.store.tasks.get? key = some row ∧ state.reader.Follows state.store row
      ∧ (∀ message_limit artifact_limit updates,
        state.read sha config key message_limit artifact_limit = .ok updates →
        (state.reader.receive updates).statuses
            = ((state.store.statuses_of key).drop 1).map stored_status
          ∧ (row.content_pruned = false → (state.reader.receive updates).artifacts
            = ((state.store.artifacts_of key).take (state.reader.sequence + artifact_limit)).map
              stored))
      ∧ ∀ message_limit artifact_limit,
        ((∃ updates, state.read sha config key message_limit artifact_limit = .ok updates)
          ↔ ReadLimits config message_limit artifact_limit
            ∧ (row.content_pruned = false ∨ state.reader.sequence = 0))
        ∧ (state.read sha config key message_limit artifact_limit = .error .CorruptData
          ↔ ReadLimits config message_limit artifact_limit ∧ row.content_pruned = true
            ∧ state.reader.sequence ≠ 0) := by
  intro state
  have hstart : (start (store_after sha config calls)).Sound sha config key := by
    refine ⟨store_after_sound hsha hconfig calls, ?_⟩
    obtain ⟨row, hrow⟩ := Option.ne_none_iff_exists'.1 hexists
    exact ⟨row, hrow, Reader.start_follows⟩
  have hsound : state.Sound sha config key := hstart.after hsha hconfig hthere
  obtain ⟨row, hrow, hfollows⟩ := hsound.reader
  refine ⟨row, hrow, hfollows, ?_, ?_⟩
  · intro message_limit artifact_limit updates hread
    exact (hsound.read_ok hconfig hrow hread).2
  · intro message_limit artifact_limit
    exact hsound.read_iff hconfig hrow

namespace Scene

def artifact : A2ATaskArtifact := ⟨task_key, identifier, [0], true, 1, by decide⟩

/-- A reader receives an artifact; the task is completed, and its content expires. -/
def interrupted : List ReaderStep :=
  [.call (.append_artifact artifact 1), .read 2 9, .call (.transition_task completion),
    .call (.prune (2 + 7 * 24 * 60 * 60 * 1000))]

def interrupted_state : StreamState Protobuf.Bytes :=
  (start (store_after text_itself .default [.create_task creation])).after
    text_itself .default task_key interrupted

end Scene

/-- The next read of that reader fails, although the task is still there. -/
theorem interrupted_reader_corrupt : interrupted_state.store.tasks.get? task_key ≠ none
    ∧ interrupted_state.read text_itself .default task_key 2 9 = .error .CorruptData := by
  decide +kernel

/-- Until then it had followed the task, up to the artifact whose content is gone. -/
theorem interrupted_reader_sound : ∃ row, interrupted_state.store.tasks.get? task_key = some row
    ∧ interrupted_state.reader.Follows interrupted_state.store row
    ∧ row.content_pruned = true ∧ interrupted_state.reader.sequence ≠ 0 := by
  have hthere : StreamState.StillThere text_itself .default task_key
      (.start (store_after text_itself .default [.create_task creation]))
      interrupted := by
    refine ⟨?_, ?_, ?_, ?_, trivial⟩ <;> rintro call ⟨⟩ <;> unfold TaskStoreCall.Spares <;>
      decide +kernel
  obtain ⟨row, hrow, hfollows, -, hreads⟩ := stream_reader_sound text_itself_ideal
    (show A2ASqliteTaskStoreConfig.default.validate = .ok () by decide)
    [.create_task creation] task_key (by decide +kernel) interrupted hthere
  exact ⟨row, hrow, hfollows, ((hreads 2 9).2.1 (by decide +kernel)).2⟩

end Konclave.A2A
