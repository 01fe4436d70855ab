/-
The life of a task, from its creation to the removal of its tombstone.

A task is submitted, perhaps worked on, and ends at most once. What it ended in stays,
also when its content is pruned. It ends completed only where an answer of the agent or a
complete artifact was stored, and a transition is compared with the generation it expects:
the last one may be repeated, any other that is late is a conflict.
-/
import Konclave.A2A.TaskRuns

set_option autoImplicit false

namespace Konclave.A2A

open Domain Scene

variable {δ : Type} [DecidableEq δ] {sha : Sha256 δ} {config : A2ASqliteTaskStoreConfig}
  {store : TaskTables δ} {key : A2ATaskKey} {row : TaskRow δ} {call : TaskStoreCall}
  {calls : List TaskStoreCall}

/-! ## While a task exists

A call that creates a task prunes first, so one call may remove a task and create another under
its key. A task still exists when no pruning on the way removed it. -/

/-- The pruning of a call, if it prunes, does not remove the task under a key. -/
def TaskStoreCall.Spares (config : A2ASqliteTaskStoreConfig) (store : TaskTables δ)
    (key : A2ATaskKey) (call : TaskStoreCall) : Prop :=
  (store.pruned_at config call.pruning_time).tasks.get? key ≠ none

/-- No call of a run removes the task under a key. -/
def StillThere (sha : Sha256 δ) (config : A2ASqliteTaskStoreConfig) (key : A2ATaskKey) :
    TaskTables δ → List TaskStoreCall → Prop
  | _, [] => True
  | store, call :: calls =>
    call.Spares config store key ∧ StillThere sha config key (call.run sha config store) calls

theorem TaskStoreCall.run_lasts (hsha : sha.Ideal) (hcfg : config.validate = .ok ())
    (h : store.Sound sha config) (hspares : call.Spares config store key) :
    store.Lasts (call.run sha config store) key := by
  rcases call.run_cases hsha hcfg h with hsame | ⟨-, hleaves⟩
  · rw [hsame]
    exact TaskTables.Lasts.refl store key
  · have hpruned : store.Lasts (store.pruned_at config call.pruning_time) key :=
      (hleaves.evolves.prunes.goes key).resolve_right hspares
    exact hpruned.trans (hleaves.evolves.lasts key)

theorem TaskStoreCall.run_sound (hsha : sha.Ideal) (hcfg : config.validate = .ok ())
    (h : store.Sound sha config) (call : TaskStoreCall) :
    (call.run sha config store).Sound sha config := by
  rcases call.run_cases hsha hcfg h with hsame | ⟨-, hleaves⟩
  · rw [hsame]
    exact h
  · exact hleaves.sound

/-- A task goes on through every run that does not remove it. -/
theorem StillThere.lasts (hsha : sha.Ideal) (hcfg : config.validate = .ok ())
    (h : store.Sound sha config)
    (hthere : StillThere sha config key store calls) :
    store.Lasts (calls.foldl (fun store call => call.run sha config store) store) key := by
  induction calls generalizing store with
  | nil => exact TaskTables.Lasts.refl store key
  | cons call calls ih =>
    have hstep := call.run_lasts hsha hcfg h hthere.1
    exact hstep.trans (ih (call.run_sound hsha hcfg h) hthere.2)

/-! ## Completion

Only a transition completes a task, and it looks for an answer when it does. -/

/-- An answer of the agent, or a complete artifact, is stored for a task. -/
def TaskTables.Answered (store : TaskTables δ) (key : A2ATaskKey) : Prop :=
  (∃ message ∈ store.messages_of key, message.role = .Agent)
    ∨ ∃ artifact ∈ store.artifacts_of key, artifact.complete = true

/-- The task under a key is completed. -/
def TaskTables.Completed (store : TaskTables δ) (key : A2ATaskKey) : Prop :=
  ∃ row, store.tasks.get? key = some row ∧ row.state = .Completed

/-- A call that completes a task is a transition of it that finds an answer. -/
theorem TaskStoreCall.completed_cases (hsha : sha.Ideal) (hcfg : config.validate = .ok ())
    (h : store.Sound sha config) (hdone : (call.run sha config store).Completed key) :
    store.Completed key
    ∨ ∃ transition, call = .transition_task transition ∧ transition.key = key
      ∧ transition.state = .Completed ∧ store.Answered key := by
  obtain ⟨row, hrow, hdone⟩ := hdone
  rcases call.run_cases hsha hcfg h with hsame | ⟨hres, hleaves⟩
  · rw [hsame] at hrow
    exact .inl ⟨row, hrow, hdone⟩
  · by_cases htr : ∃ transition, call = .transition_task transition
    · obtain ⟨transition, rfl⟩ := htr
      obtain ⟨result, hok, hstore⟩ := map_eq_ok.1 hres
      obtain ⟨-, old, hold, hsame | happlied⟩ := (h.transition_task hcfg transition).of_ok hok
      · rw [← hstore, hsame.1] at hrow
        exact .inl ⟨row, hrow, hdone⟩
      · obtain ⟨hall, hevidence, times, statuses, -, -, heq, -⟩ := happlied
        rw [← hstore, heq, store.get?_transitioned] at hrow
        split at hrow
        · -- the task the transition is about is now in the state it asked for
          rename_i hkey
          subst hkey
          rw [hold] at hrow
          cases hrow
          refine .inr ⟨transition, rfl, rfl, hdone, ?_⟩
          simpa [has_completion_evidence, TaskTables.Answered] using hevidence hdone
        · exact .inl ⟨row, hrow, hdone⟩
    · have hsteady := hleaves.steady fun transition heq => htr ⟨transition, heq⟩
      rcases hsteady key row hrow with hpruned | hsubmitted
      · obtain ⟨old, hold, heq⟩ := hleaves.evolves.prunes.left key row hpruned
        refine .inl ⟨old, hold, ?_⟩
        rw [heq] at hdone
        exact hdone
      · rw [hsubmitted] at hdone
        cases hdone

/-- The transition that completed a task found an answer, and the task was completed ever
since. -/
structure CompletedBy (sha : Sha256 δ) (config : A2ASqliteTaskStoreConfig) (key : A2ATaskKey)
    (before : List TaskStoreCall) (transition : A2ATaskTransition) (after : List TaskStoreCall) :
    Prop where
  task : transition.key = key
  state : transition.state = .Completed
  answered : (store_after sha config before).Answered key
  open_before : ¬ (store_after sha config before).Completed key
  ever_since : ∀ since, since <+: after →
    (store_after sha config (before ++ .transition_task transition :: since)).Completed key

/-- What a run has completed was completed by one of its transitions: by the last one that
found the task open. -/
theorem completed_answered (hsha : sha.Ideal) (hcfg : config.validate = .ok ())
    (hdone : (store_after sha config calls).Completed key) :
    ∃ before transition after, calls = before ++ .transition_task transition :: after
    ∧ CompletedBy sha config key before transition after := by
  induction calls using List.reverseRecOn with
  | nil =>
    obtain ⟨row, hrow, -⟩ := hdone
    cases hrow
  | append_singleton calls call ih =>
    have hsound := store_after_sound hsha hcfg calls
    by_cases hbefore : (store_after sha config calls).Completed key
    · obtain ⟨before, transition, after, rfl, h⟩ := ih hbefore
      refine ⟨before, transition, after ++ [call], by simp, h.task, h.state, h.answered,
        h.open_before, fun since hsince => ?_⟩
      rcases List.prefix_concat_iff.1 hsince with rfl | hsince
      · simpa using hdone
      · exact h.ever_since since hsince
    · obtain ⟨transition, rfl, htask, hstate, hanswered⟩ :=
        (call.completed_cases hsha hcfg hsound (by rwa [← store_after_concat])).resolve_left hbefore
      refine ⟨calls, transition, [], rfl, htask, hstate, hanswered, hbefore, fun since hsince => ?_⟩
      rw [List.prefix_nil.1 hsince]
      exact hdone

/-! ## Retries and conflicts

A transition names the generation it expects. The one that was applied last is recognised when
it comes again; any other that names a past generation is refused. -/

section

variable {transition : A2ATaskTransition}

/-- The last transition can be repeated, whatever its time. -/
theorem TaskTables.Kept.transition_repeated (h : store.Kept sha config)
    (hrow : store.tasks.get? transition.key = some row)
    (hgen : transition.expected_generation + 1 = row.generation)
    (hstate : transition.state = row.state)
    (hreason : transition.terminal_reason = row.terminal_reason) :
    transition_task sha config transition store
    = .ok (.Existing (store.record_of row), store) := by
  have hkey : (store.record_of row).key = transition.key := key_of_task hrow
  have hle : row.generation ≤ 2 := ((h.under _).task row hrow).statuses_length.2
  have hsame : (store.record_of row).generation = row.generation := rfl
  have hrepeats : transition.repeats (store.record_of row) :=
    ⟨checked_add_iff.2 ⟨by omega, hgen.symm⟩, hstate.symm, hreason.symm⟩
  have hplan : plan_a2a_task_transition (store.record_of row) transition = .ok .Existing :=
    plan_eq_ok.2 (.inl ⟨rfl, hkey, by omega, hrepeats⟩)
  rw [transition_task, h.load_task_ok hrow, ok_bind, hplan, ok_bind, if_pos rfl]
  rfl

/-- Any other transition that expects another generation is a conflict. -/
theorem TaskTables.Kept.transition_conflict (h : store.Kept sha config)
    (hrow : store.tasks.get? transition.key = some row)
    (hgen : transition.expected_generation ≠ row.generation)
    (hother : ¬ (transition.expected_generation + 1 = row.generation
      ∧ transition.state = row.state ∧ transition.terminal_reason = row.terminal_reason)) :
    transition_task sha config transition store = .error .Conflict := by
  have hkey : (store.record_of row).key = transition.key := key_of_task hrow
  have hrepeats : ¬ transition.repeats (store.record_of row) := by
    rintro ⟨hadd, hstate, hreason⟩
    exact hother ⟨(checked_add_iff.1 hadd).2.symm, hstate.symm, hreason.symm⟩
  have hlate : (store.record_of row).generation ≠ transition.expected_generation := hgen.symm
  have hplan : plan_a2a_task_transition (store.record_of row) transition = .error .Conflict := by
    rw [plan_a2a_task_transition, if_neg (not_not.2 hkey), if_pos hlate, if_neg hrepeats]
  rw [transition_task, h.load_task_ok hrow, ok_bind, hplan]
  rfl

end

/-! ## The life of a task

The four facts in one statement about every run. -/

/-- What holds of the tasks of a store after a run. -/
structure LivesSoundly (sha : Sha256 δ) (config : A2ASqliteTaskStoreConfig)
    (calls : List TaskStoreCall) : Prop where
  /-- A submission, perhaps the start of work, perhaps one end: this is the history of
  every task, and the task is in its last state. -/
  history : ∀ key row, (store_after sha config calls).tasks.get? key = some row →
    Lifecycle row.created_at_unix_milliseconds
        (((store_after sha config calls).statuses_of key).map stored_status)
      ∧ ∃ last, (((store_after sha config calls).statuses_of key).map stored_status).getLast?
        = some last ∧ (row.record none).EndsIn last
  /-- Once it has ended nothing but its content changes, until its tombstone is removed. -/
  ended : ∀ key row more, (store_after sha config calls).tasks.get? key = some row →
    a2a_task_state_is_terminal row.state = true →
    StillThere sha config key (store_after sha config calls) more →
    ∃ row', (store_after sha config (calls ++ more)).tasks.get? key = some row'
      ∧ row' = { row with content_pruned := row'.content_pruned }
      ∧ (store_after sha config (calls ++ more)).statuses_of key
        = (store_after sha config calls).statuses_of key
  /-- It was completed where an answer or a complete artifact was stored, by the transition
  since which it is completed. -/
  answered : ∀ key, (store_after sha config calls).Completed key →
    ∃ before transition after, calls = before ++ .transition_task transition :: after
      ∧ CompletedBy sha config key before transition after
  /-- The last transition can be repeated, also when the content is gone. -/
  repeated : ∀ (transition : A2ATaskTransition) row,
    (store_after sha config calls).tasks.get? transition.key = some row →
    transition.expected_generation + 1 = row.generation → transition.state = row.state →
    transition.terminal_reason = row.terminal_reason →
    transition_task sha config transition (store_after sha config calls)
      = .ok (.Existing ((store_after sha config calls).record_of row),
        store_after sha config calls)
  /-- Another one that expects another generation is a conflict. -/
  conflict : ∀ (transition : A2ATaskTransition) row,
    (store_after sha config calls).tasks.get? transition.key = some row →
    transition.expected_generation ≠ row.generation →
    ¬ (transition.expected_generation + 1 = row.generation ∧ transition.state = row.state
      ∧ transition.terminal_reason = row.terminal_reason) →
    transition_task sha config transition (store_after sha config calls) = .error .Conflict
  /-- A transition that fails changes nothing. -/
  failed : ∀ (transition : A2ATaskTransition) e,
    transition_task sha config transition (store_after sha config calls) = .error e →
    store_after sha config (calls ++ [.transition_task transition])
      = store_after sha config calls

/-- In every run a task is submitted, ends at most once, and is completed only when it was
answered; a transition that comes again is answered as it was, and one that comes late is
refused. -/
theorem task_lives_soundly (hsha : sha.Ideal) (hconfig : config.validate = .ok ())
    (calls : List TaskStoreCall) : LivesSoundly sha config calls where
  history := by
    intro key row hrow
    have hsound := ((store_after_sound hsha hconfig calls).kept.under key).task row hrow
    have hhistory := hsound.history
    rw [key_of_task hrow] at hhistory
    exact ⟨lifecycle_of_history hhistory, (history_eq_ok.1 hhistory).2.2.2⟩
  ended := by
    intro key row more hrow hterminal hthere
    have hlasts := hthere.lasts hsha hconfig (store_after_sound hsha hconfig calls)
    rw [show store_after sha config (calls ++ more) = _ from List.foldl_append]
    obtain ⟨row', hrow', hgoes⟩ := hlasts row hrow
    have hended := hgoes.ended hterminal
    rw [key_of_task hrow] at hended
    exact ⟨row', hrow', hended⟩
  answered := fun _ => completed_answered hsha hconfig
  repeated := fun _ _ hrow hgeneration hstate hreason =>
    (store_after_sound hsha hconfig calls).kept.transition_repeated hrow hgeneration hstate hreason
  conflict := fun _ _ hrow hgeneration hother =>
    (store_after_sound hsha hconfig calls).kept.transition_conflict hrow hgeneration hother
  failed := by
    intro transition e hfailed
    rw [store_after_concat, TaskStoreCall.run, TaskStoreCall.result, hfailed]
    rfl

namespace Scene

def answer : A2ATaskMessage :=
  ⟨task_key, ⟨[98], by decide, by decide, by decide⟩, .Agent, "b", 1, by decide⟩

def completion : A2ATaskTransition := ⟨task_key, 0, .Completed, none, 2⟩

/-- A task that is answered and completed, and the prune after its content has expired. -/
def completed : List TaskStoreCall :=
  [.create_task creation, .append_message answer 1, .transition_task completion,
    .prune (2 + 7 * 24 * 60 * 60 * 1000)]

end Scene

/-- The completion of a task whose content was pruned is repeated. -/
theorem completed_lives_soundly : ∃ row,
    (store_after text_itself .default completed).tasks.get? task_key = some row
    ∧ row.state = .Completed ∧ row.content_pruned = true
    ∧ transition_task text_itself .default completion (store_after text_itself .default completed)
      = .ok (.Existing ((store_after text_itself .default completed).record_of row),
        store_after text_itself .default completed) := by
  have h := task_lives_soundly text_itself_ideal
    (show A2ASqliteTaskStoreConfig.default.validate = .ok () by decide) completed
  have hrow : (((store_after text_itself .default completed).tasks.get? task_key).any fun row =>
      row.generation = 1 ∧ row.state = .Completed ∧ row.terminal_reason = none
        ∧ row.content_pruned = true) = true := by
    decide +kernel
  obtain ⟨row, hrow, hdone⟩ := (Option.any_eq_true ..).1 hrow
  obtain ⟨hgeneration, hstate, hreason, hpruned⟩ := of_decide_eq_true hdone
  exact ⟨row, hrow, hstate, hpruned, h.repeated completion row hrow hgeneration.symm hstate.symm
    hreason.symm⟩

end Konclave.A2A
