/-
The replay ledger of a conversation, against any relay.

A row of an inbox is an observed cursor of its conversation, whatever the relay presents.
The cursors completed are those after the baseline a conversation was inserted at, up to
its replay cursor and none left out, and the counters of one sender in one epoch grow
along them. One change of the store is considered at a time; the runs follow.
-/
import Konclave.Daemon.RemoteEventReplay

set_option autoImplicit false

namespace Konclave.Daemon.Replay

open Domain Cryptographic RemoteEvents UniqueTable ReplayStore StoreCall Table Option

variable {σ : Type} {host : Host σ} {store store' : ReplayStore σ} {calls : List StoreCall}
  {others : σ}

/-! ## Where the rows of a changed store come from

A row of the later store was there, perhaps in an earlier state, or the change wrote it. -/

variable {p : ReplayStore σ → Prop} {call : StoreCall} {row' : InboxRow} {baseline : ℕ}

theorem ReplayStore.complete_inbox_row_cases {conversation_id : ConversationId} {cursor : ℕ}
    {key : ConversationId × ℕ}
    (h : (store.complete_inbox_row conversation_id cursor).inbox.get? key = some row') :
    ∃ row, store.inbox.get? key = some row ∧ (row' = row
      ∨ key = (conversation_id, cursor) ∧ row' = { row with state := row.state.complete }) :=
  get?_update_cases (fun row : InboxRow => { row with state := row.state.complete })
    (fun _ => rfl) h

theorem load_sender_high_water_store (store : ReplayStore σ)
    (conversation_id other : ConversationId)
    (sender sender' : DeviceId) (epoch epoch' counter : ℕ) :
    load_sender_high_water (store_sender_high_water store conversation_id sender epoch counter)
        other sender' epoch'
      = if (conversation_id, sender, epoch) = (other, sender', epoch') then some counter
      else load_sender_high_water store other sender' epoch' := by
  rw [load_sender_high_water, store_sender_high_water]
  dsimp only
  rw [get?_put]
  by_cases hkey : (conversation_id, sender, epoch) = (other, sender', epoch')
  · rw [if_pos hkey, if_pos hkey]
    rfl
  · rw [if_neg hkey, if_neg hkey]
    rfl

/-- A message that is completed was saved. -/
theorem CompletesApplication.saved {conversation : ConversationRow}
    {message : StoredApplicationMessage} {stored : StoredRelayEnvelope}
    (h : CompletesApplication host store conversation message stored) :
    ∃ row, store.inbox.get? (conversation.conversation_id, message.cursor) = some row
    ∧ row.state = .MessageSaved ⟨message.sender, message.epoch, message.message⟩
    ∧ row.stored.envelope.envelope_id = message.envelope_id := by
  obtain ⟨row, -, saved, hrow, -, hsaved, hmsg, -⟩ := load_message_at_eq_ok.1 h.read
  obtain ⟨found, hfound, hincomplete⟩ := h.incomplete
  obtain rfl : found = row := some.inj (hfound.symm.trans hrow)
  have hfields : saved = ⟨message.sender, message.epoch, message.message⟩ := by rw [hmsg]
  refine ⟨found, hrow, ?_, by rw [hmsg]⟩
  rw [← hfields]
  cases hstate : found.state with
  | Received =>
    rw [hstate] at hsaved
    cases hsaved
  | MessageSaved =>
    rw [hstate] at hsaved
    cases hsaved
    rfl
  | Complete =>
    rw [hstate] at hincomplete
    cases hincomplete

variable {conversation_id : ConversationId} {cursor : ℕ} {row : ConversationRow}

namespace ReplayStore

/-- A row of the inbox was there, or is of an envelope that was observed. -/
theorem Change.inbox_origin (h : Change host store store')
    (hrow' : store'.inbox.get? (conversation_id, cursor) = some row') :
    (⟨conversation_id, row'.stored⟩ ∈ store.cursor_observation.rows
        ∧ row'.stored.envelope.delivery_class = .GroupApplication)
    ∨ ∃ row, store.inbox.get? (conversation_id, cursor) = some row ∧ row'.stored = row.stored := by
  cases h with
  | sides hsame =>
    rw [hsame.inbox] at hrow'
    exact .inr ⟨row', hrow', rfl⟩
  | inserted | configured | observed | membership_received | membership_saved
  | membership_completed | prepared | marked | published => exact .inr ⟨row', hrow', rfl⟩
  | received hclass hobs hins =>
    rcases get?_insert_cases hins hrow' with ⟨hkey, rfl⟩ | hold
    · cases hkey
      exact .inl ⟨hobs, hclass⟩
    · exact .inr ⟨row', hold, rfl⟩
  | saved _ _ hupd =>
    obtain ⟨row, hrow, rfl | ⟨-, rfl⟩⟩ := get?_update?_cases hupd hrow'
    all_goals exact .inr ⟨_, hrow, rfl⟩
  | completed =>
    obtain ⟨row, hrow, rfl | ⟨-, rfl⟩⟩ := complete_inbox_row_cases hrow'
    all_goals exact .inr ⟨_, hrow, rfl⟩

theorem Change.membership_inbox_origin (h : Change host store store') {row' : MembershipInboxRow}
    (hrow' : store'.membership_inbox.get? (conversation_id, cursor) = some row') :
    (⟨conversation_id, row'.stored⟩ ∈ store.cursor_observation.rows
        ∧ row'.stored.envelope.delivery_class = .GroupCommit)
    ∨ ∃ row, store.membership_inbox.get? (conversation_id, cursor) = some row
    ∧ row'.stored = row.stored := by
  cases h with
  | sides hsame =>
    rw [hsame.membership_inbox] at hrow'
    exact .inr ⟨row', hrow', rfl⟩
  | inserted | configured | observed | received | saved | completed | prepared | marked
  | published => exact .inr ⟨row', hrow', rfl⟩
  | membership_received hclass hobs hins =>
    rcases get?_insert_cases hins hrow' with ⟨hkey, rfl⟩ | hold
    · cases hkey
      exact .inl ⟨hobs, hclass⟩
    · exact .inr ⟨row', hold, rfl⟩
  | membership_saved _ _ hupd =>
    obtain ⟨row, hrow, rfl | ⟨-, rfl⟩⟩ := get?_update?_cases hupd hrow'
    all_goals exact .inr ⟨_, hrow, rfl⟩
  | membership_completed =>
    obtain ⟨row, hrow, rfl | ⟨-, rfl⟩⟩ := get?_update_cases (fun row : MembershipInboxRow =>
        { row with state := row.state.complete }) (fun _ => rfl) hrow'
    all_goals exact .inr ⟨_, hrow, rfl⟩

theorem Change.observation_origin (h : Change host store store')
    {row : ObservationRow} (hrow : row ∈ store'.cursor_observation.rows) :
    row ∈ store.cursor_observation.rows ∨ ∃ conversation,
    store.conversation.get? row.conversation_id = some conversation
      ∧ row.stored.envelope.routing_id = conversation.routing_id := by
  cases h with
  | sides hsame => exact .inl (hsame.cursor_observation ▸ hrow)
  | @observed conversation stored _ hconv hrouting hins =>
    dsimp only at hrow
    rw [(insert?_eq_some hins).2] at hrow
    rcases List.mem_append.1 hrow with hold | hnew
    · exact .inl hold
    · rw [List.mem_singleton.1 hnew]
      exact .inr ⟨conversation, hconv, hrouting⟩
  | inserted | configured | received | membership_received | saved | membership_saved
  | completed | membership_completed | prepared | marked | published => exact .inl hrow

/-! ## Rows are observed

Every inbox row stands for the envelope that was observed at its cursor. -/

/-- Every observation is of a conversation, and every inbox row is an observation. -/
structure Recorded (store : ReplayStore σ) : Prop where
  observation : ∀ row ∈ store.cursor_observation.rows, ∃ conversation,
    store.conversation.get? row.conversation_id = some conversation
      ∧ row.stored.envelope.routing_id = conversation.routing_id
  inbox : ∀ conversation_id cursor row, store.inbox.get? (conversation_id, cursor) = some row →
    ⟨conversation_id, row.stored⟩ ∈ store.cursor_observation.rows
      ∧ row.stored.envelope.delivery_class = .GroupApplication
  membership_inbox : ∀ conversation_id cursor row,
    store.membership_inbox.get? (conversation_id, cursor) = some row →
      ⟨conversation_id, row.stored⟩ ∈ store.cursor_observation.rows
        ∧ row.stored.envelope.delivery_class = .GroupCommit

theorem Recorded.change (h : store.Recorded)
    (hchange : Change host store store') : store'.Recorded := by
  have hgrows := hchange.grows
  refine ⟨fun row hrow => ?_, fun id cursor row' hrow' => ?_, fun id cursor row' hrow' => ?_⟩
  · have hbefore : ∃ conversation, store.conversation.get? row.conversation_id = some conversation
          ∧ row.stored.envelope.routing_id = conversation.routing_id := by
      rcases hchange.observation_origin hrow with hold | hnew
      · exact h.observation row hold
      · exact hnew
    obtain ⟨conversation, hconv, hrouting⟩ := hbefore
    obtain ⟨conv', hconv', hsame⟩ := hgrows.conversation _ _ hconv
    exact ⟨conv', hconv', hrouting.trans hsame.1.symm⟩
  · have hbefore : ⟨id, row'.stored⟩ ∈ store.cursor_observation.rows
        ∧ row'.stored.envelope.delivery_class = .GroupApplication := by
      rcases hchange.inbox_origin hrow' with hobs | ⟨row, hrow, hstored⟩
      · exact hobs
      · rw [hstored]
        exact h.inbox id cursor row hrow
    exact ⟨hgrows.cursor_observation _ hbefore.1, hbefore.2⟩
  · have hbefore : ⟨id, row'.stored⟩ ∈ store.cursor_observation.rows
        ∧ row'.stored.envelope.delivery_class = .GroupCommit := by
      rcases hchange.membership_inbox_origin hrow' with hobs | ⟨row, hrow, hstored⟩
      · exact hobs
      · rw [hstored]
        exact h.membership_inbox id cursor row hrow
    exact ⟨hgrows.cursor_observation _ hbefore.1, hbefore.2⟩

/-! ## Completed cursors

A change completes no cursor, or the next one of one conversation. -/

/-- One of the inboxes holds a completed row at the cursor. -/
def completed (store : ReplayStore σ) (conversation_id : ConversationId) (cursor : ℕ) : Bool :=
  (store.inbox.get? (conversation_id, cursor)).any (·.state.is_complete)
    || (store.membership_inbox.get? (conversation_id, cursor)).any (·.state.is_complete)

/-- A change completes no cursor, or the next one of one conversation. -/
inductive Progress (store store' : ReplayStore σ) : Prop
  | none
      (hcursors : ∀ conversation_id row, store.conversation.get? conversation_id = some row →
        ∃ row', store'.conversation.get? conversation_id = some row'
          ∧ row'.replay_cursor = row.replay_cursor)
      (hcompleted : ∀ conversation_id cursor,
        store'.completed conversation_id cursor = store.completed conversation_id cursor)
  | next (conversation : ConversationRow) (cursor : ℕ)
      (hrow : store.conversation.get? conversation.conversation_id = some conversation)
      (hnext : cursor = conversation.replay_cursor + 1)
      (hcursors : ∀ conversation_id row, store.conversation.get? conversation_id = some row →
        ∃ row', store'.conversation.get? conversation_id = some row' ∧ row'.replay_cursor
          = if conversation_id = conversation.conversation_id then cursor else row.replay_cursor)
      (hcompleted : ∀ conversation_id number, store'.completed conversation_id number
        = (decide ((conversation_id, number) = (conversation.conversation_id, cursor))
          || store.completed conversation_id number))

theorem SameCursors.keeps (h : store.SameCursors store')
    (conversation_id : ConversationId) (row : ConversationRow)
    (hrow : store.conversation.get? conversation_id = some row) :
    ∃ row', store'.conversation.get? conversation_id = some row'
    ∧ row'.replay_cursor = row.replay_cursor := by
  have hcur := h conversation_id
  rw [hrow] at hcur
  exact map_eq_some_iff.1 hcur

theorem Change.progress (h : Change host store store') : store.Progress store' := by
  cases h with
  | sides hsame =>
    refine .none (fun id row hrow => ⟨row, ?_, rfl⟩) fun id cursor => ?_
    · rw [hsame.conversation, hrow]
    · rw [ReplayStore.completed, hsame.inbox, hsame.membership_inbox]
      rfl
  | inserted _ hins =>
    exact .none (fun id row hrow => ⟨row, get?_insert_of_get? hins hrow, rfl⟩) fun _ _ => rfl
  | configured id set hset =>
    exact .none (store.sameCursors_set_conversation id set _ _ fun row =>
      (hset row).replay_cursor).keeps fun _ _ => rfl
  | @published conversation record _ head _ _ _ _ _ _ =>
    exact .none (sameCursors_set_conversation _ record.conversation_id
      (conversation.publish record head) (fun _ => rfl) (fun _ => rfl) fun _ => rfl).keeps
      fun _ _ => rfl
  | observed | prepared | marked =>
    exact .none (fun _ row hrow => ⟨row, hrow, rfl⟩) fun _ _ => rfl
  | received _ _ hins | membership_received _ _ hins =>
    refine .none (fun _ row hrow => ⟨row, hrow, rfl⟩) fun id cursor => ?_
    rw [ReplayStore.completed, any_insert hins rfl]
    rfl
  | saved hrow hrecv hupd | membership_saved hrow hrecv hupd =>
    refine .none (fun _ row hrow => ⟨row, hrow, rfl⟩) fun id cursor => ?_
    rw [ReplayStore.completed, any_update? hupd]
    · rfl
    · intro found hfound
      cases hrow.symm.trans hfound
      rw [hrecv]
      rfl
  | @completed conversation message stored _ _ _ hcomp =>
    refine .next conversation message.cursor (get?_of_conversation hcomp.loaded)
      (checked_add_iff.1 hcomp.next).2 ?_ fun id number => ?_
    · exact next_set_conversation _ conversation.conversation_id
        (conversation.complete_application stored) (fun _ => rfl) (fun _ => rfl)
        fun _ => hcomp.stored_cursor
    · obtain ⟨row, hrow, hstate, -⟩ := hcomp.saved
      have hget := store.get?_complete_inbox_row conversation.conversation_id message.cursor
          (id, number)
      refine (congrArg (fun found => Option.any (·.state.is_complete) found
        || (store.membership_inbox.get? (id, number)).any (·.state.is_complete)) hget).trans ?_
      by_cases hkey : (id, number) = (conversation.conversation_id, message.cursor)
      · rw [if_pos hkey, decide_eq_true hkey, hkey, hrow, map_some, any_some, hstate]
        rfl
      · rw [if_neg hkey, decide_eq_false hkey]
        rfl
  | @membership_completed conversation transition _ _ hcomp _ =>
    refine .next conversation transition.stored.cursor (get?_of_conversation hcomp.loaded)
      (checked_add_iff.1 hcomp.next).2 ?_ fun id number => ?_
    · exact next_set_conversation _ conversation.conversation_id
        (conversation.complete_membership transition) (fun _ => rfl) (fun _ => rfl) fun _ => rfl
    · have hsaved := membership_inbox_operation_saved hcomp.operation
      have hget := get?_update store.membership_inbox.toTable
        (conversation.conversation_id, transition.stored.cursor)
        (fun row => { row with state := row.state.complete }) (fun _ => rfl) (id, number)
      refine (congrArg (fun found => (store.inbox.get? (id, number)).any (·.state.is_complete)
        || Option.any (·.state.is_complete) found) hget).trans ?_
      by_cases hkey : (id, number) = (conversation.conversation_id, transition.stored.cursor)
      · rw [if_pos hkey, decide_eq_true hkey, hkey, hsaved.row, Bool.true_or]
        exact Bool.or_true _
      · rw [if_neg hkey, decide_eq_false hkey]
        rfl

/-- The cursors completed are those after `baseline`, up to the replay cursor. -/
def CompletedFrom (store : ReplayStore σ) (conversation_id : ConversationId)
    (baseline : ℕ) : Prop :=
  ∃ row, store.conversation.get? conversation_id = some row ∧ baseline ≤ row.replay_cursor
    ∧ ∀ cursor, store.completed conversation_id cursor = true
      ↔ baseline < cursor ∧ cursor ≤ row.replay_cursor

theorem CompletedFrom.change (h : store.CompletedFrom conversation_id baseline)
    (hchange : Change host store store') : store'.CompletedFrom conversation_id baseline := by
  obtain ⟨row, hrow, hbaseline, hdone⟩ := h
  cases hchange.progress with
  | none hcurs hsame =>
    obtain ⟨row', hrow', hcur⟩ := hcurs conversation_id row hrow
    refine ⟨row', hrow', hcur ▸ hbaseline, fun cursor => ?_⟩
    rw [hsame, hdone, hcur]
  | next conversation number hconv hnext hcurs hdone' =>
    obtain ⟨row', hrow', hcur⟩ := hcurs conversation_id row hrow
    by_cases hid : conversation_id = conversation.conversation_id
    · -- the cursor that is completed is the one after all that were
      rw [if_pos hid] at hcur
      obtain rfl : conversation = row := by
        rw [hid, hconv] at hrow
        exact some.inj hrow
      refine ⟨row', hrow', by omega, fun cursor => ?_⟩
      rw [hdone', Bool.or_eq_true, hdone, decide_eq_true_eq, Prod.mk.injEq]
      constructor
      · rintro (⟨-, rfl⟩ | hbefore) <;> omega
      · intro hrange
        by_cases hlast : cursor = number
        · exact .inl ⟨hid, hlast⟩
        · exact .inr (by omega)
    · rw [if_neg hid] at hcur
      refine ⟨row', hrow', hcur ▸ hbaseline, fun cursor => ?_⟩
      rw [hdone', Bool.or_eq_true, hdone, hcur, decide_eq_true_eq, Prod.mk.injEq]
      constructor
      · rintro (⟨hsame, -⟩ | hbefore)
        · exact absurd hsame hid
        · exact hbefore
      · exact .inr

/-! ## Sender counters

The high water of a sender is above the counters of its completed messages. -/

/-- The message was completed at the cursor. -/
def CompletedMessage (store : ReplayStore σ) (conversation_id : ConversationId)
    (cursor : ℕ) (message : InboxMessage) : Prop :=
  ∃ row, store.inbox.get? (conversation_id, cursor) = some row ∧ row.state = .Complete message

/-- Completed messages are counted, and the counters of a sender in an epoch grow with the
cursors. -/
structure Counted (store : ReplayStore σ) : Prop where
  reached : ∀ conversation_id cursor message,
    store.CompletedMessage conversation_id cursor message →
      ∃ row, store.conversation.get? conversation_id = some row ∧ cursor ≤ row.replay_cursor
  high_water : ∀ conversation_id cursor message,
    store.CompletedMessage conversation_id cursor message →
      ∃ highest, load_sender_high_water store conversation_id message.sender message.epoch
        = some highest ∧ message.message.sender_counter ≤ highest
  increasing : ∀ conversation_id cursor cursor' message message',
    store.CompletedMessage conversation_id cursor message →
    store.CompletedMessage conversation_id cursor' message' →
    message.sender = message'.sender → message.epoch = message'.epoch → cursor < cursor' →
      message.message.sender_counter < message'.message.sender_counter

/-- A completed message was, or is the next of its conversation and above its high water. -/
theorem Change.completed_message (h : Change host store store')
    {message : InboxMessage} (hmsg : store'.CompletedMessage conversation_id cursor message) :
    store.CompletedMessage conversation_id cursor message
    ∨ ((∃ row, store.conversation.get? conversation_id = some row ∧ cursor = row.replay_cursor + 1)
      ∧ (∀ counter ∈ load_sender_high_water store conversation_id message.sender message.epoch,
        counter < message.message.sender_counter)
      ∧ (∃ row', store'.conversation.get? conversation_id = some row' ∧ row'.replay_cursor = cursor)
      ∧ load_sender_high_water store' conversation_id message.sender message.epoch
        = some message.message.sender_counter) := by
  obtain ⟨row', hrow', hstate'⟩ := hmsg
  cases h with
  | sides hsame =>
    rw [hsame.inbox] at hrow'
    exact .inl ⟨row', hrow', hstate'⟩
  | inserted | configured | observed | membership_received | membership_saved
  | membership_completed | prepared | marked | published => exact .inl ⟨row', hrow', hstate'⟩
  | received _ _ hins =>
    rcases get?_insert_cases hins hrow' with ⟨-, rfl⟩ | hold
    · cases hstate'
    · exact .inl ⟨row', hold, hstate'⟩
  | saved _ _ hupd =>
    obtain ⟨row, hrow, rfl | ⟨-, rfl⟩⟩ := get?_update?_cases hupd hrow'
    · exact .inl ⟨row', hrow, hstate'⟩
    · cases hstate'
  | @completed conversation saved stored _ _ _ hcomp =>
    obtain ⟨row, hrow, rfl | ⟨hkey, rfl⟩⟩ := complete_inbox_row_cases hrow'
    · exact .inl ⟨row', hrow, hstate'⟩
    obtain ⟨found, hfound, hstate, -⟩ := hcomp.saved
    cases hkey
    cases hfound.symm.trans hrow
    dsimp only at hstate'
    rw [hstate] at hstate'
    cases hstate'
    have hget := get?_of_conversation hcomp.loaded
    refine .inr ⟨⟨conversation, hget, (checked_add_iff.1 hcomp.next).2⟩,
      hcomp.counter, ⟨conversation.complete_application stored conversation, ?_,
        hcomp.stored_cursor⟩, ?_⟩
    · refine (get?_set_conversation _ _ (conversation.complete_application stored)
        (fun _ => rfl) (fun _ => rfl) _).trans ?_
      rw [if_pos rfl]
      exact congrArg (Option.map _) hget
    · refine (load_sender_high_water_store store conversation.conversation_id
        conversation.conversation_id saved.sender saved.sender saved.epoch saved.epoch
        saved.message.sender_counter).trans ?_
      rw [if_pos rfl]

/-- The high water never falls, and a message that is completed is at most at it. -/
theorem Change.high_water (h : Change host store store') {sender : DeviceId} {epoch highest : ℕ}
    (hhighest : load_sender_high_water store conversation_id sender epoch = some highest) :
    ∃ highest', load_sender_high_water store' conversation_id sender epoch = some highest'
    ∧ highest ≤ highest' := by
  cases h with
  | sides hsame =>
    refine ⟨highest, ?_, Nat.le_refl _⟩
    rw [load_sender_high_water, hsame.sender_counter]
    exact hhighest
  | @completed conversation message stored _ _ _ hcomp =>
    have hload := load_sender_high_water_store store conversation.conversation_id
      conversation_id message.sender sender message.epoch epoch message.message.sender_counter
    by_cases hkey : (conversation.conversation_id, message.sender, message.epoch)
      = (conversation_id, sender, epoch)
    · rw [if_pos hkey] at hload
      cases hkey
      exact ⟨_, hload, Nat.le_of_lt (hcomp.counter highest hhighest)⟩
    · rw [if_neg hkey] at hload
      exact ⟨highest, hload.trans hhighest, Nat.le_refl _⟩
  | inserted | configured | observed | received | membership_received | saved | membership_saved
  | membership_completed | prepared | marked | published =>
    exact ⟨highest, hhighest, Nat.le_refl _⟩

theorem Progress.cursor_le (h : store.Progress store')
    (hrow : store.conversation.get? conversation_id = some row) :
    ∃ row', store'.conversation.get? conversation_id = some row'
    ∧ row.replay_cursor ≤ row'.replay_cursor := by
  cases h with
  | none hcurs _ =>
    obtain ⟨row', hrow', hcur⟩ := hcurs conversation_id row hrow
    exact ⟨row', hrow', hcur ▸ Nat.le_refl _⟩
  | next conversation number hconv hnext hcurs _ =>
    obtain ⟨row', hrow', hcur⟩ := hcurs conversation_id row hrow
    refine ⟨row', hrow', ?_⟩
    by_cases hid : conversation_id = conversation.conversation_id
    · rw [hid, hconv] at hrow
      cases hrow
      rw [hcur, if_pos hid]
      omega
    · rw [hcur, if_neg hid]

theorem Counted.change (h : store.Counted)
    (hchange : Change host store store') : store'.Counted := by
  refine ⟨fun id cursor message hmsg => ?_, fun id cursor message hmsg => ?_,
    fun id cursor cursor' message message' hmsg hmsg' hsender hepoch hlt => ?_⟩
  · rcases hchange.completed_message hmsg with hold | ⟨-, -, ⟨row', hrow', rfl⟩, -⟩
    · obtain ⟨row, hrow, hreached⟩ := h.reached id cursor message hold
      obtain ⟨row', hrow', hle⟩ := hchange.progress.cursor_le hrow
      exact ⟨row', hrow', Nat.le_trans hreached hle⟩
    · exact ⟨row', hrow', Nat.le_refl _⟩
  · rcases hchange.completed_message hmsg with hold | ⟨-, -, -, hcounted⟩
    · obtain ⟨highest, hhighest, hle⟩ := h.high_water id cursor message hold
      obtain ⟨highest', hhighest', hle'⟩ := hchange.high_water hhighest
      exact ⟨highest', hhighest', Nat.le_trans hle hle'⟩
    · exact ⟨_, hcounted, Nat.le_refl _⟩
  · rcases hchange.completed_message hmsg with hold | ⟨⟨row, hrow, hcur⟩, -⟩
    · rcases hchange.completed_message hmsg' with hold' | ⟨-, habove, -⟩
      · exact h.increasing id cursor cursor' message message' hold hold' hsender hepoch hlt
      · -- the message that is completed now is above the high water of its sender
        obtain ⟨highest, hhighest, hle⟩ := h.high_water id cursor message hold
        rw [hsender, hepoch] at hhighest
        exact Nat.lt_of_le_of_lt hle (habove highest hhighest)
    · -- nothing is completed after the cursor that is completed now
      rcases hchange.completed_message hmsg' with hold' | ⟨⟨row', hrow', hcur'⟩, -⟩
      · obtain ⟨found, hfound, hreached⟩ := h.reached id cursor' message' hold'
        cases hrow.symm.trans hfound
        omega
      · cases hrow.symm.trans hrow'
        omega

/-! ## Runs

The invariants after any calls. -/

/-- The store after further calls. -/
def run_calls (host : Host σ) (store : ReplayStore σ) (calls : List StoreCall) : ReplayStore σ :=
  calls.foldl (fun store call => (call.run host store).2) store

theorem after_append (calls later : List StoreCall) :
    after host others (calls ++ later) = (after host others calls).run_calls host later :=
  List.foldl_append

end ReplayStore

/-- What every change keeps, and what does not speak of the journal, every call keeps. -/
theorem StoreCall.run_keeps
    (hchange : ∀ store store', p store → ReplayStore.Change host store store' → p store')
    (hjournal : ∀ store journal, p store → p { store with journal })
    (h : p store) : p (call.run host store).2 := by
  by_cases hcall : ∃ delivery hdel, call = .delivery delivery hdel
  · obtain ⟨delivery, hdel, rfl⟩ := hcall
    exact hjournal store _ h
  · have hchanges : ∀ later, store.Changes host later → p later := by
      intro later hlater
      induction hlater with
      | refl => exact h
      | tail _ hstep ih => exact hchange _ _ ih hstep
    exact hchanges _ (call.run_changes host store fun delivery hdel hequal =>
      hcall ⟨delivery, hdel, hequal⟩)

namespace ReplayStore

theorem run_calls_keeps (hchange : ∀ store store', p store → Change host store store' → p store')
    (hjournal : ∀ store journal, p store → p { store with journal }) (calls : List StoreCall)
    (h : p store) : p (store.run_calls host calls) :=
  List.foldlRecOn calls _ h fun _ h _ _ => run_keeps hchange hjournal h

theorem Recorded.after (host : Host σ) (others : σ) (calls : List StoreCall) :
    (after host others calls).Recorded := by
  refine run_calls_keeps (fun _ _ h hchange => h.change hchange)
    (fun _ _ h => ⟨h.observation, h.inbox, h.membership_inbox⟩) calls ⟨?_, ?_, ?_⟩
  · exact fun _ hrow => absurd hrow List.not_mem_nil
  · exact fun _ _ _ hrow => by cases hrow
  · exact fun _ _ _ hrow => by cases hrow

theorem Counted.after (host : Host σ) (others : σ) (calls : List StoreCall) :
    (after host others calls).Counted := by
  have hnone : ∀ conversation_id cursor message,
      ¬ (empty others).CompletedMessage conversation_id cursor message := by
    rintro _ _ _ ⟨_, hrow, _⟩
    cases hrow
  refine run_calls_keeps (fun _ _ h hchange => h.change hchange)
    (fun _ _ h => ⟨h.reached, h.high_water, h.increasing⟩) calls ⟨?_, ?_, ?_⟩
  · exact fun _ _ _ hmsg => absurd hmsg (hnone _ _ _)
  · exact fun _ _ _ hmsg => absurd hmsg (hnone _ _ _)
  · exact fun _ _ _ _ _ hmsg => absurd hmsg (hnone _ _ _)

theorem CompletedFrom.run_calls (h : store.CompletedFrom conversation_id baseline)
    (calls : List StoreCall) :
    (store.run_calls host calls).CompletedFrom conversation_id baseline :=
  run_calls_keeps (p := (·.CompletedFrom conversation_id baseline))
    (fun _ _ h hchange => h.change hchange) (fun _ _ h => h) calls h

theorem Grows.run_calls (host : Host σ) (store : ReplayStore σ)
    (calls : List StoreCall) : store.Grows (store.run_calls host calls) :=
  run_calls_keeps (p := store.Grows) (fun _ _ h hchange => h.trans hchange.grows)
    (fun _ _ h => ⟨h.conversation, h.cursor_observation, h.inbox, h.membership_inbox⟩) calls
    (.refl store)

end ReplayStore

/-! ## What a call does to the replay cursors

The calls that complete a cursor are told apart from those that cannot. -/

/-- The calls that complete a cursor. -/
def StoreCall.Completes (store : ReplayStore σ) (conversation_id : ConversationId) (cursor : ℕ) :
    StoreCall → Prop
  | .complete_inbox id number _ _ | .complete_membership_inbox id number _ =>
    id = conversation_id ∧ number = cursor
  | .complete_membership_echo stored _ => stored.cursor = cursor ∧ ∃ outbox,
      applied_membership_outbox store stored = .ok outbox
        ∧ outbox.conversation_id = conversation_id
  | _ => False

inductive StoreCall.CursorEffect (host : Host σ) (store : ReplayStore σ) (call : StoreCall) : Prop
  | same (hcursors : store.SameCursors (call.run host store).2)
      (hpast : (call.run host store).1 = .ok () → ∀ conversation_id cursor,
        call.Completes store conversation_id cursor → ∃ row,
          store.conversation.get? conversation_id = some row ∧ cursor ≤ row.replay_cursor)
  | inserted (routing_id : RoutingId) (self_binding : DeviceCredentialBinding)
      (state : ConversationState) (bindings : List DeviceCredentialBinding)
      (receipt : Option StoredRelayEnvelope) (enabled : Option Bool)
      (hcall : call = .insert_conversation routing_id self_binding state bindings receipt enabled)
      (hok : (call.run host store).1 = .ok ())
  | completed (conversation_id : ConversationId) (cursor : ℕ)
      (hok : (call.run host store).1 = .ok ())
      (hcompletes : call.Completes store conversation_id cursor)
      (hnext : (store.conversation.get? conversation_id).map (·.replay_cursor + 1) = some cursor)
      (hcursors : ∀ other, ((call.run host store).2.conversation.get? other).map (·.replay_cursor)
        = if other = conversation_id then some cursor
          else (store.conversation.get? other).map (·.replay_cursor))

/-- A completion's answer, as it is the one of a call. -/
theorem completion_cursorEffect {α : Type} {result : Except ProfileStoreError α × ReplayStore σ}
    (hrun : call.run host store = answered result)
    (hcomp : ∀ id number, call.Completes store id number ↔ conversation_id = id ∧ cursor = number)
    (hfailed : ∀ error, result.1 = .error error → result.2 = store)
    (hres : ∀ reached, result.1 = .ok reached →
      (result.2 = store ∧ ∃ row, store.conversation.get? conversation_id = some row
        ∧ cursor ≤ row.replay_cursor)
      ∨ store.CompletesCursor host conversation_id cursor result.2) :
    call.CursorEffect host store := by
  obtain ⟨answer, later⟩ := result
  have hlater : (call.run host store).2 = later := congrArg Prod.snd hrun
  cases answer with
  | error error =>
    refine .same ?_ fun hok => ?_
    · rw [hlater, show later = store from hfailed error rfl]
      exact fun _ => rfl
    · rw [hrun] at hok
      cases hok
  | ok reached =>
    rcases hres reached rfl with ⟨hsame, hpast⟩ | hnext
    · refine .same ?_ fun _ id number hid => ?_
      · rw [hlater, show later = store from hsame]
        exact fun _ => rfl
      · obtain ⟨rfl, rfl⟩ := (hcomp id number).1 hid
        exact hpast
    · refine .completed conversation_id cursor (congrArg Prod.fst hrun)
        ((hcomp _ _).2 ⟨rfl, rfl⟩) hnext.next fun other => ?_
      rw [hlater]
      exact hnext.cursors other

theorem StoreCall.run_cursorEffect (call : StoreCall) : call.CursorEffect host store := by
  cases hupd : call.is_update with
  | true =>
    refine .same (call.run_updates hupd).sameCursors fun _ id number hid => ?_
    cases call <;> first | exact hid.elim | cases hupd
  | false =>
    cases call with
    | insert_conversation routing_id self_binding state bindings receipt enabled =>
      cases hres : insert_conversation_at_cursor host store routing_id self_binding state
          bindings receipt enabled with
      | mk result later =>
      cases result with
      | error =>
        refine .same ?_ fun _ _ _ hid => hid.elim
        intro other
        rw [show (run host store (.insert_conversation routing_id self_binding
          state bindings receipt enabled)).2 = later from congrArg Prod.snd hres,
          transaction_eq_error hres]
      | ok =>
        exact .inserted routing_id self_binding state bindings receipt enabled rfl
          (congrArg Prod.fst hres)
    | complete_inbox id cursor notification_id now =>
      exact completion_cursorEffect rfl (fun _ _ => Iff.rfl)
        (fun error herror => transaction_eq_error (Prod.ext herror rfl))
        fun reached hreached => (complete_inbox_eq_ok (Prod.ext hreached rfl)).2.2
    | complete_membership_inbox id cursor notification_id =>
      exact completion_cursorEffect rfl (fun _ _ => Iff.rfl)
        (fun error herror => transaction_eq_error (Prod.ext herror rfl))
        fun reached hreached => (complete_membership_inbox_eq_ok (Prod.ext hreached rfl)).2.2
    | complete_membership_echo stored sender =>
      rcases complete_membership_echo_cases with
        ⟨hsave, hpast⟩ | ⟨outbox, saved, happlied, hsave, hok, hnext⟩
      · refine .same hsave.sameCursors ?_
        rintro hok id number ⟨rfl, outbox, happlied, rfl⟩
        obtain ⟨operation_id, hans, -⟩ := map_eq_ok.1 hok
        obtain ⟨outbox', row, happlied', hrow, hle⟩ := hpast operation_id hans
        cases happlied.symm.trans happlied'
        exact ⟨row, hrow, hle⟩
      · refine .completed outbox.conversation_id stored.cursor
          (map_eq_ok.2 ⟨outbox.operation_id, hok, rfl⟩) ⟨rfl, outbox, happlied, rfl⟩ ?_
          fun other => ?_
        · have hcur := hsave.sameCursors outbox.conversation_id
          have hsaved := hnext.next
          cases hrow : saved.conversation.get? outbox.conversation_id with
          | none =>
            rw [hrow] at hsaved
            cases hsaved
          | some row =>
            rw [hrow] at hcur hsaved
            obtain ⟨before, hbefore, hsame⟩ := map_eq_some_iff.1 hcur.symm
            rw [hbefore, map_some, hsame]
            exact hsaved
        · refine (hnext.cursors other).trans ?_
          rw [hsave.sameCursors other]
    | store_membership_outbox operation =>
      refine .same (fun id => ?_) fun _ _ _ hid => hid.elim
      exact congrArg (fun table => (get? table id).map (·.replay_cursor))
        (congrArg toTable (store_membership_outbox_changes operation).2)
    | delivery =>
      exact .same (fun _ => rfl) fun _ _ _ hid => hid.elim
    | _ => cases hupd

/-- A conversation stays, and its replay cursor moves by one exactly when a call completes
the next cursor. -/
theorem StoreCall.run_cursor (call : StoreCall)
    (hrow : store.conversation.get? conversation_id = some row) :
    ∃ row', (call.run host store).2.conversation.get? conversation_id = some row'
    ∧ ((row'.replay_cursor = row.replay_cursor ∧ ((call.run host store).1 = .ok () → ∀ cursor,
          call.Completes store conversation_id cursor → cursor ≤ row.replay_cursor))
      ∨ (row'.replay_cursor = row.replay_cursor + 1 ∧ (call.run host store).1 = .ok ()
        ∧ call.Completes store conversation_id (row.replay_cursor + 1))) := by
  cases call.run_cursorEffect with
  | same hcurs hpast =>
    obtain ⟨row', hrow', hcur⟩ := hcurs.keeps conversation_id row hrow
    refine ⟨row', hrow', .inl ⟨hcur, fun hok cursor hcomp => ?_⟩⟩
    obtain ⟨found, hfound, hle⟩ := hpast hok conversation_id cursor hcomp
    cases hrow.symm.trans hfound
    exact hle
  | inserted routing_id self_binding state bindings receipt enabled hcall hok =>
    subst hcall
    obtain ⟨inserted, -, -, hins, -⟩ := (insert_conversation_at_cursor_eq_ok (Prod.ext hok rfl)).2
    exact ⟨row, get?_insert_of_get? hins hrow, .inl ⟨rfl, fun _ _ hcomp => hcomp.elim⟩⟩
  | completed completed cursor hok hcomp hnext hcurs =>
    have hcur := hcurs conversation_id
    by_cases hid : conversation_id = completed
    · subst hid
      rw [if_pos rfl] at hcur
      rw [hrow] at hnext
      cases hnext
      obtain ⟨row', hrow', hcur'⟩ := map_eq_some_iff.1 hcur
      exact ⟨row', hrow', .inr ⟨hcur', hok, hcomp⟩⟩
    · rw [if_neg hid, hrow] at hcur
      obtain ⟨row', hrow', hcur'⟩ := map_eq_some_iff.1 hcur
      refine ⟨row', hrow', .inl ⟨hcur', fun _ number hother => ?_⟩⟩
      refine absurd ?_ hid
      -- a call completes cursors of one conversation
      cases call with
      | complete_inbox | complete_membership_inbox => exact hother.1.symm.trans hcomp.1
      | complete_membership_echo =>
        obtain ⟨-, outbox, happlied, rfl⟩ := hother
        obtain ⟨-, outbox', happlied', rfl⟩ := hcomp
        cases happlied.symm.trans happlied'
        rfl
      | _ => exact hcomp.elim

/-- Only an insertion adds a conversation. -/
theorem StoreCall.new_conversation (hnone : store.conversation.get? conversation_id = none)
    (hrow : (call.run host store).2.conversation.get? conversation_id = some row) :
    ∃ routing_id self_binding state bindings receipt enabled,
    call = .insert_conversation routing_id self_binding state bindings receipt enabled
      ∧ self_binding.conversation_id = conversation_id ∧ (call.run host store).1 = .ok ()
      ∧ row.replay_cursor = (receipt.map (·.cursor)).getD 0
      ∧ (call.run host store).2.inbox = store.inbox
      ∧ (call.run host store).2.membership_inbox = store.membership_inbox := by
  cases call.run_cursorEffect with
  | same hcurs =>
    have hcur := hcurs conversation_id
    rw [hnone, hrow] at hcur
    cases hcur
  | inserted routing_id self_binding state bindings receipt enabled hcall hok =>
    subst hcall
    obtain ⟨inserted, hid, hcur, hins, hinbox, hmembership⟩ :=
      (insert_conversation_at_cursor_eq_ok (Prod.ext hok rfl)).2
    have hget := (get?_insert hins conversation_id).symm.trans hrow
    by_cases hkey : inserted.conversation_id = conversation_id
    · rw [if_pos hkey] at hget
      cases hget
      exact ⟨routing_id, self_binding, state, bindings, receipt, enabled, rfl,
        hid.symm.trans hkey, hok, hcur, hinbox, hmembership⟩
    · rw [if_neg hkey, hnone] at hget
      cases hget
  | completed completed cursor _ _ hnext hcurs =>
    have hcur := hcurs conversation_id
    by_cases hid : conversation_id = completed
    · rw [← hid, hnone] at hnext
      cases hnext
    · rw [if_neg hid, hnone, hrow] at hcur
      cases hcur

/-- The conversation was inserted at `baseline` by one of the calls, which succeeded. -/
def InsertedAt (host : Host σ) (others : σ) (calls : List StoreCall)
    (conversation_id : ConversationId) (baseline : ℕ) : Prop :=
  ∃ earlier later routing_id self_binding state bindings receipt enabled,
    calls = earlier ++ .insert_conversation routing_id self_binding state bindings receipt enabled
        :: later
      ∧ (run host (after host others earlier)
        (.insert_conversation routing_id self_binding state bindings receipt enabled)).1 = .ok ()
      ∧ self_binding.conversation_id = conversation_id
      ∧ baseline = (receipt.map (·.cursor)).getD 0

/-- A conversation was inserted at some baseline, and the cursors completed are those after
it. -/
theorem ReplayStore.CompletedFrom.after (host : Host σ) (others : σ) (calls : List StoreCall)
    (hrow : (after host others calls).conversation.get? conversation_id = some row) :
    ∃ baseline, InsertedAt host others calls conversation_id baseline
    ∧ (after host others calls).CompletedFrom conversation_id baseline := by
  induction calls using List.reverseRecOn generalizing row with
  | nil => cases hrow
  | append_singleton calls call ih =>
    rw [after_append] at hrow ⊢
    cases hbefore : (after host others calls).conversation.get? conversation_id with
    | some before =>
      obtain ⟨baseline, ⟨earlier, later, routing_id, self_binding, state, bindings, receipt,
        enabled, rfl, hins⟩, hdone⟩ := ih hbefore
      refine ⟨baseline, ⟨earlier, later ++ [call], routing_id, self_binding, state, bindings,
        receipt, enabled, ?_, hins⟩, hdone.run_calls [call]⟩
      rw [List.append_assoc, List.cons_append]
    | none =>
      obtain ⟨routing_id, self_binding, state, bindings, receipt, enabled, rfl, hid, hok,
        hcur, hinbox, hmembership⟩ := new_conversation hbefore hrow
      refine ⟨_, ⟨calls, [], routing_id, self_binding, state, bindings, receipt, enabled, rfl,
        hok, hid, rfl⟩, row, hrow, Nat.le_of_eq hcur.symm, fun cursor => ?_⟩
      -- no inbox holds a row of a conversation that was not there
      have hrec := ReplayStore.Recorded.after host others calls
      have hfree : ∀ stored, (⟨conversation_id, stored⟩ : ObservationRow)
          ∉ (after host others calls).cursor_observation.rows := by
        intro stored hobs
        obtain ⟨_, hconv, -⟩ := hrec.observation _ hobs
        rw [hbefore] at hconv
        cases hconv
      have hnone : (ReplayStore.run_calls host (ReplayStore.after host others calls)
          [.insert_conversation routing_id self_binding state bindings receipt enabled]
          ).completed conversation_id cursor = false := by
        refine Bool.or_eq_false_iff.2 ⟨?_, ?_⟩
        · refine (congrArg (fun table => (get? table (conversation_id, cursor)).any
            (·.state.is_complete)) (congrArg toTable hinbox)).trans ?_
          cases hfound : (after host others calls).inbox.get? (conversation_id, cursor) with
          | none => rfl
          | some found => exact absurd (hrec.inbox _ _ _ hfound).1 (hfree _)
        · refine (congrArg (fun table => (get? table (conversation_id, cursor)).any
            (·.state.is_complete)) (congrArg toTable hmembership)).trans ?_
          cases hfound : (after host others calls).membership_inbox.get?
            (conversation_id, cursor) with
          | none => rfl
          | some found => exact absurd (hrec.membership_inbox _ _ _ hfound).1 (hfree _)
      rw [hnone, hcur]
      constructor
      · exact fun hfalse => by cases hfalse
      · exact fun hrange => absurd hrange.2 (Nat.not_le.2 hrange.1)

end Konclave.Daemon.Replay
