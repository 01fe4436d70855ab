/-
Changes of the replay ledger.

A call of the profile store is a few changes of its tables, one after the other; `Change`
lists them with the checks the code made before each. Everything said of a run of the
store follows from what one change does.
-/
import Konclave.Daemon.ReplayMessages

set_option autoImplicit false

namespace Konclave.Daemon.Replay

open Domain Cryptographic RemoteEvents MembershipOutboxRow

variable {σ : Type} {other : ConversationId}

/-! ## Changes

One inductive type lists everything a statement can do to the ledger. The invariants are proved
of its constructors, never of the calls. -/

/-- The columns replay does not read are set. -/
structure ConversationRow.Configures (row row' : ConversationRow) : Prop where
  conversation_id : row'.conversation_id = row.conversation_id
  routing_id : row'.routing_id = row.routing_id
  self_binding : row'.self_binding = row.self_binding
  state : row'.state = row.state
  bindings : row'.bindings = row.bindings
  replay_cursor : row'.replay_cursor = row.replay_cursor
  replay_head : row'.replay_head = row.replay_head

/-- A conversation as it is inserted. -/
structure ConversationRow.Starts (host : Host σ) (row : ConversationRow) : Prop where
  state : row.state.conversation_id = row.conversation_id
  bindings : validate_bindings host.suite row.state row.self_binding row.bindings = .ok ()
  head : (row.replay_head = none ∧ row.replay_cursor = 0)
    ∨ ∃ receipt : StoredRelayEnvelope, receipt.envelope.routing_id = row.routing_id
      ∧ row.replay_cursor = receipt.cursor
      ∧ row.replay_head = some ⟨0, receipt.cursor, .Join, row.state, row.state, receipt.envelope⟩

/-- Content the daemon keeps to itself. -/
def for_daemon (content : ApplicationContent) : Bool :=
  content.is_internal || is_delivery_outcome content

/-- The event of a completed message, where it is one. -/
def application_event (conversation : ConversationRow) (message : StoredApplicationMessage)
    (notification_id : NotificationId) : RemoteEventSource :=
  ⟨conversation.conversation_id, conversation.routing_id, message.cursor, notification_id,
    .ApplicationMessage, message.sender, conversation.self_binding.device_id,
    message.message.message_id⟩

/-- The event of a completed membership commit. -/
def membership_event (conversation : ConversationRow) (transition : StoredMembershipTransition)
    (notification_id : NotificationId) : RemoteEventSource :=
  ⟨conversation.conversation_id, transition.stored.envelope.routing_id, transition.stored.cursor,
    notification_id, membership_event_kind conversation.self_binding.device_id
      transition.transition.control.authorization.change,
    transition.transition.sender, conversation.self_binding.device_id,
    transition.transition.operation_id⟩

/-- The checks before an application cursor is completed. -/
structure CompletesApplication (host : Host σ) (store : ReplayStore σ)
    (conversation : ConversationRow) (message : StoredApplicationMessage)
    (stored : StoredRelayEnvelope) : Prop where
  loaded : load_conversation host store conversation.conversation_id = .ok conversation
  read : load_message_at host store conversation.conversation_id message.cursor = .ok message
  envelope : load_inbox_envelope store message.envelope_id = .ok stored
  stored_cursor : stored.cursor = message.cursor
  next : checked_add conversation.replay_cursor 1 = some message.cursor
  counter : ∀ counter ∈ load_sender_high_water store conversation.conversation_id message.sender
    message.epoch, counter < message.message.sender_counter
  incomplete : ∃ row ∈ store.inbox.get? (conversation.conversation_id, message.cursor),
    row.state.is_complete = false

/-- The checks before a membership cursor is completed. -/
structure CompletesMembership (host : Host σ) (store : ReplayStore σ)
    (conversation : ConversationRow) (transition : StoredMembershipTransition) : Prop where
  loaded : load_conversation host store conversation.conversation_id = .ok conversation
  operation : membership_inbox_operation host store conversation.conversation_id
    transition.stored.cursor = .ok (.TransitionSaved transition)
  bindings : validate_bindings host.suite transition.transition.next_state
    conversation.self_binding (final_bindings transition.transition.next_state
      conversation.self_binding.device_id transition.transition.bindings) = .ok ()
  observed : verify_cursor_observation store conversation.conversation_id
    transition.stored.cursor transition.stored.envelope = .ok ()
  next : checked_add conversation.replay_cursor 1 = some transition.stored.cursor

/-- The conversation row a completed application cursor leaves. -/
def ConversationRow.complete_application (current : ConversationRow)
    (stored : StoredRelayEnvelope) (row : ConversationRow) : ConversationRow :=
  { row with
    replay_cursor := stored.cursor
    replay_head := some ⟨current.replay_cursor, stored.cursor, .Application, current.state,
      current.state, stored.envelope⟩ }

/-- The conversation row a completed membership cursor leaves. -/
def ConversationRow.complete_membership (current : ConversationRow)
    (transition : StoredMembershipTransition) (row : ConversationRow) : ConversationRow :=
  { row with
    state := transition.transition.next_state
    replay_cursor := transition.stored.cursor
    replay_head := some ⟨current.replay_cursor, transition.stored.cursor, .Membership,
      transition.transition.next_state, transition.transition.next_state,
      transition.stored.envelope⟩
    bindings := final_bindings transition.transition.next_state current.self_binding.device_id
      transition.transition.bindings }

/-- The conversation row an applied commit of the device's own leaves. -/
def ConversationRow.publish (current : ConversationRow) (record : MembershipOutboxRow)
    (head : Option ReplayHead) (row : ConversationRow) : ConversationRow :=
  { row with
    state := record.next_state
    replay_head := head
    bindings := final_bindings record.next_state current.self_binding.device_id record.bindings }

namespace ReplayStore

inductive Change (host : Host σ) (store : ReplayStore σ) : ReplayStore σ → Prop
  | sides {store' : ReplayStore σ} (h : store.SameLedger store') : Change host store store'
  | inserted {row : ConversationRow}
      {conversation : UniqueTable ConversationId RoutingId ConversationRow (·.conversation_id)
        fun row => [row.routing_id]}
      (hstarts : row.Starts host) (hinsert : store.conversation.insert? row = some conversation) :
      Change host store { store with conversation }
  | configured (conversation_id : ConversationId) (set : ConversationRow → ConversationRow)
      (hset : ∀ row : ConversationRow, row.Configures (set row)) :
      Change host store (store.set_conversation conversation_id set
        (fun row => (hset row).conversation_id) fun row => (hset row).routing_id)
  | observed {conversation : ConversationRow} {stored : StoredRelayEnvelope}
      {cursor_observation : UniqueTable (ConversationId × ℕ) EnvelopeId ObservationRow
        (fun row => (row.conversation_id, row.stored.cursor))
        fun row => [row.stored.envelope.envelope_id]}
      (hconv : store.conversation.get? conversation.conversation_id = some conversation)
      (hrouting : stored.envelope.routing_id = conversation.routing_id)
      (hinsert : store.cursor_observation.insert? ⟨conversation.conversation_id, stored⟩
        = some cursor_observation) :
      Change host store { store with cursor_observation }
  | received {conversation_id : ConversationId} {stored : StoredRelayEnvelope}
      {inbox : UniqueTable (ConversationId × ℕ) InboxName InboxRow
        (fun row => (row.conversation_id, row.stored.cursor)) InboxRow.names}
      (hclass : stored.envelope.delivery_class = .GroupApplication)
      (hobserved : ⟨conversation_id, stored⟩ ∈ store.cursor_observation.rows)
      (hinsert : store.inbox.insert? ⟨conversation_id, stored, .Received⟩ = some inbox) :
      Change host store { store with inbox }
  | membership_received {conversation_id : ConversationId} {stored : StoredRelayEnvelope}
      {membership_inbox : UniqueTable (ConversationId × ℕ) MembershipInboxName MembershipInboxRow
        (fun row => (row.conversation_id, row.stored.cursor)) MembershipInboxRow.names}
      (hclass : stored.envelope.delivery_class = .GroupCommit)
      (hobserved : ⟨conversation_id, stored⟩ ∈ store.cursor_observation.rows)
      (hinsert : store.membership_inbox.insert? ⟨conversation_id, stored, .Received⟩
        = some membership_inbox) :
      Change host store { store with membership_inbox }
  | saved {row : InboxRow} {message : InboxMessage}
      {inbox : UniqueTable (ConversationId × ℕ) InboxName InboxRow
        (fun row => (row.conversation_id, row.stored.cursor)) InboxRow.names}
      (hrow : store.inbox.get? (row.conversation_id, row.stored.cursor) = some row)
      (hreceived : row.state = .Received)
      (hupdate : store.inbox.update? (row.conversation_id, row.stored.cursor)
        (fun row => { row with state := .MessageSaved message }) (fun _ => rfl) = some inbox) :
      Change host store { store with inbox }
  | membership_saved {row : MembershipInboxRow} {transition : MembershipTransition}
      {membership_inbox : UniqueTable (ConversationId × ℕ) MembershipInboxName MembershipInboxRow
        (fun row => (row.conversation_id, row.stored.cursor)) MembershipInboxRow.names}
      (hrow : store.membership_inbox.get? (row.conversation_id, row.stored.cursor) = some row)
      (hreceived : row.state = .Received)
      (hupdate : store.membership_inbox.update? (row.conversation_id, row.stored.cursor)
        (fun row => { row with state := .TransitionSaved transition }) (fun _ => rfl)
        = some membership_inbox) :
      Change host store { store with membership_inbox }
  | completed {conversation : ConversationRow} {message : StoredApplicationMessage}
      {stored : StoredRelayEnvelope} {journal : RemoteEventJournal} {now : ℕ} {others : σ}
      (hcompletes : CompletesApplication host store conversation message stored)
      (hothers : complete_inbox_others host conversation message.cursor message now store.others
        = .ok others)
      (hjournal : journal = store.journal ∨ (for_daemon message.message.content = false
        ∧ ∃ notification_id, insert_remote_event (store.around host) store.journal
          (application_event conversation message notification_id) = .ok journal)) :
      Change host store ({ store_sender_high_water store conversation.conversation_id
          message.sender message.epoch message.message.sender_counter with journal, others
        }.complete_inbox_row conversation.conversation_id message.cursor |>.set_conversation
          conversation.conversation_id (conversation.complete_application stored) (fun _ => rfl)
          fun _ => rfl)
  | membership_completed {conversation : ConversationRow}
      {transition : StoredMembershipTransition} {journal : RemoteEventJournal}
      {notification_id : NotificationId}
      (hcompletes : CompletesMembership host store conversation transition)
      (hjournal : insert_remote_event (store.around host) store.journal
        (membership_event conversation transition notification_id) = .ok journal) :
      Change host store ({ store with journal }.set_conversation conversation.conversation_id
        (conversation.complete_membership transition) (fun _ => rfl) (fun _ => rfl)
          |>.complete_membership_inbox_row conversation.conversation_id transition.stored.cursor)
  | prepared {operation : MembershipOperation}
      {membership_outbox : UniqueTable MembershipOperationId MembershipOutboxName
        MembershipOutboxRow (·.operation_id) names}
      (hnext : operation.next_state.conversation_id = operation.conversation_id)
      (hinsert : store.membership_outbox.insert? operation.row = some membership_outbox) :
      Change host store { store with membership_outbox }
  | marked {operation_id : MembershipOperationId} {state : MembershipOutboxState}
      {membership_outbox : UniqueTable MembershipOperationId MembershipOutboxName
        MembershipOutboxRow (·.operation_id) names}
      (hupdate : store.membership_outbox.update? operation_id (fun row => { row with state })
        (fun _ => rfl) = some membership_outbox) :
      Change host store { store with membership_outbox }
  | published {conversation : ConversationRow} {record : MembershipOutboxRow} {cursor : ℕ}
      {head : Option ReplayHead}
      {membership_outbox : UniqueTable MembershipOperationId MembershipOutboxName
        MembershipOutboxRow (·.operation_id) names}
      (hrecord : store.membership_outbox.get? record.operation_id = some record)
      (hconv : load_conversation host store record.conversation_id = .ok conversation)
      (hbindings : validate_bindings host.suite record.next_state conversation.self_binding
        (final_bindings record.next_state conversation.self_binding.device_id record.bindings)
        = .ok ())
      (hhead : advance_replay_head_state host store conversation record.next_state = .ok head)
      (hupdate : store.membership_outbox.update? record.operation_id
        (fun row => { row with state := .Applied cursor }) (fun _ => rfl)
        = some membership_outbox) :
      Change host store ({ store with membership_outbox }.set_conversation record.conversation_id
        (conversation.publish record head) (fun _ => rfl) fun _ => rfl)

/-- Some changes, one after the other. -/
def Changes (host : Host σ) : ReplayStore σ → ReplayStore σ → Prop :=
  Relation.ReflTransGen (Change host)

/-- Every conversation is at the cursor it was at. -/
def SameCursors (store store' : ReplayStore σ) : Prop :=
  ∀ conversation_id, (store'.conversation.get? conversation_id).map (·.replay_cursor)
    = (store.conversation.get? conversation_id).map (·.replay_cursor)

/-- Some changes that leave every conversation at its cursor, and add none. -/
def Updates (host : Host σ) : ReplayStore σ → ReplayStore σ → Prop :=
  Relation.ReflTransGen fun store store' =>
    Change host store store' ∧ store.SameCursors store'

end ReplayStore

variable {host : Host σ} {store store' : ReplayStore σ} {conversation_id : ConversationId}
  {stored : StoredRelayEnvelope} {cursor : ℕ} {envelope_id : EnvelopeId}
  {operation_id : MembershipOperationId} {state : MembershipOutboxState}
  {row conversation : ConversationRow}

namespace ReplayStore

theorem Updates.changes (h : store.Updates host store') : store.Changes host store' := by
  induction h with
  | refl => exact .refl
  | tail _ hstep ih => exact ih.tail hstep.1

theorem Updates.sameCursors (h : store.Updates host store') : store.SameCursors store' := by
  induction h with
  | refl => exact fun _ => rfl
  | tail _ hstep ih => exact fun id => (hstep.2 id).trans (ih id)

theorem SameLedger.updates (h : store.SameLedger store') : store.Updates host store' :=
  .single ⟨.sides h, fun id => by rw [h.conversation]⟩

section

variable (store : ReplayStore σ) (conversation_id : ConversationId)
  (set : ConversationRow → ConversationRow)
  (hkey : ∀ row, (set row).conversation_id = row.conversation_id)
  (hrouting : ∀ row, (set row).routing_id = row.routing_id)

theorem get?_set_conversation (other : ConversationId) :
    (store.set_conversation conversation_id set hkey hrouting).conversation.get? other
    = if other = conversation_id then (store.conversation.get? other).map set
      else store.conversation.get? other :=
  Table.get?_update store.conversation.toTable conversation_id set hkey other

theorem sameCursors_set_conversation (hcur : ∀ row, (set row).replay_cursor = row.replay_cursor) :
    store.SameCursors (store.set_conversation conversation_id set hkey hrouting) := by
  intro other
  rw [store.get?_set_conversation]
  by_cases hother : other = conversation_id
  · rw [if_pos hother]
    cases store.conversation.get? other with
    | none => rfl
    | some row => exact congrArg some (hcur row)
  · rw [if_neg hother]

theorem cursors_set_conversation (hcur : ∀ row, (set row).replay_cursor = cursor)
    (hpresent : (store.conversation.get? conversation_id).isSome = true) (other : ConversationId) :
    ((store.set_conversation conversation_id set hkey hrouting).conversation.get? other).map
    (·.replay_cursor)
    = if other = conversation_id then some cursor
      else (store.conversation.get? other).map (·.replay_cursor) := by
  rw [store.get?_set_conversation]
  by_cases hother : other = conversation_id
  · obtain ⟨row, hrow⟩ := Option.isSome_iff_exists.1 hpresent
    rw [if_pos hother, if_pos hother, hother, hrow]
    exact congrArg some (hcur row)
  · rw [if_neg hother, if_neg hother]

theorem next_set_conversation (hcur : ∀ row, (set row).replay_cursor = cursor)
    (other : ConversationId) (row : ConversationRow)
    (hrow : store.conversation.get? other = some row) :
    ∃ row', (store.set_conversation conversation_id set hkey hrouting).conversation.get? other
      = some row'
    ∧ row'.replay_cursor = if other = conversation_id then cursor else row.replay_cursor := by
  rw [store.get?_set_conversation, hrow]
  by_cases hother : other = conversation_id
  · rw [if_pos hother, if_pos hother]
    exact ⟨set row, rfl, hcur row⟩
  · rw [if_neg hother, if_neg hother]
    exact ⟨row, rfl, rfl⟩

end

/-- Some changes that complete nothing, with every message kept. -/
structure Replays (host : Host σ) (store store' : ReplayStore σ) : Prop where
  updates : store.Updates host store'
  messages : store.KeepsMessages store'

theorem Replays.refl (store : ReplayStore σ) : store.Replays host store := ⟨.refl, .refl store⟩

theorem Replays.trans {store'' : ReplayStore σ} (h : store.Replays host store')
    (h' : store'.Replays host store'') : store.Replays host store'' :=
  ⟨h.updates.trans h'.updates, h.messages.trans h'.messages⟩

theorem Sides.replays (h : store.Sides store') : store.Replays host store' :=
  ⟨h.ledger.updates, h.messages⟩

end ReplayStore

/-! ## Reading

What a successful load says of the rows it read. -/

/-- A cursor is verified when it is bound to the envelope. -/
theorem verify_cursor_observation_ok :
    verify_cursor_observation store conversation_id stored.cursor stored.envelope = .ok ()
    ↔ stored.cursor ≤ I64_MAX
      ∧ (⟨conversation_id, stored⟩ : ObservationRow) ∈ store.cursor_observation.rows := by
  rw [verify_cursor_observation, bind_ok]
  constructor
  · rintro ⟨_, hcur, h⟩
    refine ⟨(to_sql_integer_ok.1 hcur).1, ?_⟩
    dsimp only at h
    split at h
    · rename_i row hrows
      obtain ⟨hconv, hnumber, henv⟩ := require_eq_ok.1 h
      have hmem : row ∈ store.cursor_observation.rows :=
        List.mem_of_mem_filter (hrows ▸ List.mem_singleton.2 rfl)
      have hrow : row = ⟨conversation_id, stored⟩ := by
        obtain ⟨_, ⟨_, _, _⟩⟩ := row
        obtain ⟨_, _, _⟩ := stored
        cases hconv
        cases hnumber
        cases henv
        rfl
      exact hrow ▸ hmem
    · cases h
  · rintro ⟨hbound, hmem⟩
    refine ⟨_, to_sql_integer_ok.2 ⟨hbound, rfl⟩, ?_⟩
    -- the row's key and its envelope are both unique, so the query finds one row
    have hfilter := store.cursor_observation.filter_eq_singleton hmem
      (p := fun row => decide ((row.conversation_id = conversation_id
        ∧ row.stored.cursor = stored.cursor)
          ∨ row.stored.envelope.envelope_id = stored.envelope.envelope_id)) (by
        intro row hrow
        rw [decide_eq_true_eq]
        constructor
        · rintro (⟨hconv, hcur⟩ | henv)
          · exact store.cursor_observation.eq_of_key_eq hrow hmem (Prod.ext hconv hcur)
          · exact store.cursor_observation.eq_of_name hrow hmem
              (List.mem_singleton.2 rfl) (List.mem_singleton.2 henv)
        · rintro rfl
          exact .inl ⟨rfl, rfl⟩)
    dsimp only
    rw [hfilter]
    exact require_eq_ok.2 ⟨rfl, rfl, rfl⟩

theorem load_conversation_eq_ok : load_conversation host store conversation_id = .ok row
    ↔ store.conversation.get? conversation_id = some row
    ∧ row.state.conversation_id = conversation_id
      ∧ validate_bindings host.suite row.state row.self_binding row.bindings = .ok ()
      ∧ verify_replay_head host store conversation_id row = .ok () := by
  rw [load_conversation, some_or_ok]
  constructor
  · rintro ⟨found, hfound, h⟩
    obtain ⟨hstate, h⟩ := require_ok.1 h
    obtain ⟨_, hbnd, h⟩ := bind_ok.1 h
    obtain ⟨_, hhead, h⟩ := bind_ok.1 h
    cases h
    exact ⟨hfound, hstate, hbnd, hhead⟩
  · rintro ⟨hrow, hstate, hbnd, hhead⟩
    exact ⟨row, hrow, require_ok.2 ⟨hstate, bind_ok.2 ⟨_, hbnd, bind_ok.2 ⟨_, hhead, rfl⟩⟩⟩⟩

theorem get?_of_conversation (h : load_conversation host store conversation_id = .ok row) :
    store.conversation.get? conversation_id = some row := (load_conversation_eq_ok.1 h).1

theorem conversation_id_of_load (h : load_conversation host store conversation_id = .ok row) :
    row.conversation_id = conversation_id :=
  (Table.get?_iff.1 (get?_of_conversation h)).2

theorem conversation_for_routing_eq_ok {routing_id : RoutingId}
    (h : store.conversation_for_routing routing_id = .ok row) :
    store.conversation.get? row.conversation_id = some row ∧ row.routing_id = routing_id := by
  obtain ⟨hrow, hname⟩ := UniqueTable.named?_eq_some_iff.1 (some_or_eq_ok.1 h)
  exact ⟨store.conversation.get?_of_mem hrow, (List.mem_singleton.1 hname).symm⟩

/-- The envelope is bound to its cursor in the conversation of its route. -/
structure ReplayStore.Binds (store : ReplayStore σ) (conversation_id : ConversationId)
    (stored : StoredRelayEnvelope) : Prop where
  cursor : stored.cursor ≤ I64_MAX
  conversation : ∃ conversation, store.conversation.get? conversation_id = some conversation
    ∧ conversation.routing_id = stored.envelope.routing_id
  observed : ⟨conversation_id, stored⟩ ∈ store.cursor_observation.rows

/-- The two rows of one observed envelope are of one conversation. -/
theorem observed_conversation (h : ⟨conversation_id, stored⟩ ∈ store.cursor_observation.rows)
    (h' : ⟨other, stored⟩ ∈ store.cursor_observation.rows) : other = conversation_id :=
  congrArg ObservationRow.conversation_id (store.cursor_observation.eq_of_name h' h
    (List.mem_singleton.2 rfl) (List.mem_singleton.2 rfl))

theorem load_inbox_envelope_eq_ok : load_inbox_envelope store envelope_id = .ok stored
    ↔ ∃ row conversation, row ∈ store.inbox.rows ∧ row.stored = stored
      ∧ stored.envelope.envelope_id = envelope_id
      ∧ store.conversation.get? row.conversation_id = some conversation
      ∧ stored.envelope.routing_id = conversation.routing_id
      ∧ stored.cursor ≤ I64_MAX
      ∧ ⟨row.conversation_id, stored⟩ ∈ store.cursor_observation.rows := by
  have hname : ∀ row : InboxRow, InboxName.envelope envelope_id ∈ row.names
      ↔ row.stored.envelope.envelope_id = envelope_id := by
    intro row
    rw [InboxRow.names]
    cases row.state.message <;> simp [eq_comm]
  rw [load_inbox_envelope, some_or_ok]
  constructor
  · rintro ⟨row, hrow, h⟩
    obtain ⟨hmem, hnamed⟩ := UniqueTable.named?_eq_some_iff.1 hrow
    obtain ⟨conversation, hconv, h⟩ := some_or_ok.1 h
    obtain ⟨hrouting, h⟩ := require_ok.1 h
    obtain ⟨_, hverify, h⟩ := bind_ok.1 h
    cases h
    obtain ⟨hcur, hobs⟩ := verify_cursor_observation_ok.1 hverify
    exact ⟨row, conversation, hmem, rfl, (hname row).1 hnamed, hconv, hrouting, hcur, hobs⟩
  · rintro ⟨row, conversation, hmem, rfl, hid, hconv, hrouting, hcur, hobs⟩
    exact ⟨row, UniqueTable.named?_eq_some_iff.2 ⟨hmem, (hname row).2 hid⟩,
      some_or_ok.2 ⟨conversation, hconv, require_ok.2 ⟨hrouting,
        bind_ok.2 ⟨_, verify_cursor_observation_ok.2 ⟨hcur, hobs⟩, rfl⟩⟩⟩⟩

theorem load_message_at_eq_ok {message : StoredApplicationMessage} :
    load_message_at host store conversation_id cursor = .ok message
    ↔ ∃ row conversation saved, store.inbox.get? (conversation_id, cursor) = some row
      ∧ store.conversation.get? conversation_id = some conversation
      ∧ row.state.message = some saved
      ∧ message = ⟨cursor, row.stored.envelope.envelope_id, saved.sender, saved.epoch,
        saved.message⟩
      ∧ validate_blob_length (host.message_length message) = .ok ()
      ∧ row.stored.envelope.routing_id = conversation.routing_id := by
  rw [load_message_at]
  simp only [some_or_ok, bind_ok (x := validate_blob_length _), require_ok]
  constructor
  · rintro ⟨row, hrow, conversation, hconv, saved, hsaved, _, hlen, hrouting, h⟩
    cases h
    exact ⟨row, conversation, saved, hrow, hconv, hsaved, rfl, hlen, hrouting⟩
  · rintro ⟨row, conversation, saved, hrow, hconv, hsaved, rfl, hlen, hrouting⟩
    exact ⟨row, hrow, conversation, hconv, saved, hsaved, _, hlen, hrouting, rfl⟩

theorem load_membership_inbox_envelope_eq_ok :
    load_membership_inbox_envelope store conversation_id cursor envelope_id = .ok stored
    ↔ ∃ row conversation, store.membership_inbox.get? (conversation_id, cursor) = some row
      ∧ row.stored.envelope.envelope_id = envelope_id
      ∧ store.conversation.get? conversation_id = some conversation
      ∧ row.stored.envelope.routing_id = conversation.routing_id
      ∧ row.stored.envelope.delivery_class = .GroupCommit ∧ stored = row.stored := by
  rw [load_membership_inbox_envelope]
  simp only [some_or_ok, require_ok]
  constructor
  · rintro ⟨row, hrow, hid, conversation, hconv, ⟨hrouting, hclass⟩, h⟩
    cases h
    exact ⟨row, conversation, hrow, hid, hconv, hrouting, hclass, rfl⟩
  · rintro ⟨row, conversation, hrow, hid, hconv, hrouting, hclass, rfl⟩
    exact ⟨row, hrow, hid, conversation, hconv, ⟨hrouting, hclass⟩, rfl⟩

variable {transition : StoredMembershipTransition}

theorem load_membership_inbox_transition_eq_ok :
    load_membership_inbox_transition host store conversation_id cursor stored = .ok transition
    ↔ ∃ row saved, store.membership_inbox.get? (conversation_id, cursor) = some row
      ∧ row.state.transition = some saved ∧ transition = ⟨stored, saved⟩
      ∧ validate_blob_length (host.transition_length ⟨row.stored, saved⟩) = .ok ()
      ∧ row.stored.envelope.routing_id = stored.envelope.routing_id
      ∧ row.stored.envelope.envelope_id = stored.envelope.envelope_id
      ∧ saved.decodes host.suite conversation_id := by
  rw [load_membership_inbox_transition]
  simp only [some_or_ok, bind_ok (x := validate_blob_length _), require_ok]
  constructor
  · rintro ⟨row, hrow, saved, hsaved, _, hlen, ⟨hrouting, hid, hdec⟩, h⟩
    cases h
    exact ⟨row, saved, hrow, hsaved, rfl, hlen, hrouting, hid, hdec⟩
  · rintro ⟨row, saved, hrow, hsaved, rfl, hlen, hrouting, hid, hdec⟩
    exact ⟨row, hrow, saved, hsaved, _, hlen, ⟨hrouting, hid, hdec⟩, rfl⟩

/-- A membership row with its transition, as it is read. -/
structure MembershipRead (host : Host σ) (store : ReplayStore σ) (conversation_id : ConversationId)
    (cursor : ℕ) (transition : StoredMembershipTransition) (state : MembershipInboxState) :
    Prop where
  row : store.membership_inbox.get? (conversation_id, cursor)
    = some ⟨conversation_id, transition.stored, state⟩
  saved : state.transition = some transition.transition
  conversation : ∃ conversation, store.conversation.get? conversation_id = some conversation
    ∧ transition.stored.envelope.routing_id = conversation.routing_id
  delivery_class : transition.stored.envelope.delivery_class = .GroupCommit
  length : validate_blob_length (host.transition_length transition) = .ok ()
  decodes : transition.transition.decodes host.suite conversation_id

theorem MembershipRead.of_loads {row : MembershipInboxRow}
    (hrow : store.membership_inbox.get? (conversation_id, cursor) = some row)
    (hstored : load_membership_inbox_envelope store conversation_id cursor
      row.stored.envelope.envelope_id = .ok stored)
    (hload : load_membership_inbox_transition host store conversation_id cursor stored
      = .ok transition) :
    MembershipRead host store conversation_id cursor transition row.state := by
  obtain ⟨found, conversation, hfound, -, hconv, hrouting, hclass, rfl⟩ :=
    load_membership_inbox_envelope_eq_ok.1 hstored
  obtain rfl : found = row := by
    rw [hrow] at hfound
    exact (Option.some.inj hfound).symm
  obtain ⟨again, saved, hagain, hsaved, rfl, hlen, -, -, hdec⟩ :=
    load_membership_inbox_transition_eq_ok.1 hload
  obtain rfl : again = found := by
    rw [hrow] at hagain
    exact (Option.some.inj hagain).symm
  have hkey : again.conversation_id = conversation_id := congrArg Prod.fst (Table.get?_iff.1 hrow).2
  refine ⟨?_, hsaved, ⟨conversation, hconv, hrouting⟩, hclass, hlen, hdec⟩
  rw [hrow, ← hkey]

theorem MembershipRead.loads {state : MembershipInboxState}
    (h : MembershipRead host store conversation_id cursor transition state) :
    load_membership_inbox_envelope store conversation_id cursor
      transition.stored.envelope.envelope_id = .ok transition.stored
    ∧ load_membership_inbox_transition host store conversation_id cursor transition.stored
      = .ok transition := by
  obtain ⟨conversation, hconv, hrouting⟩ := h.conversation
  exact ⟨load_membership_inbox_envelope_eq_ok.2 ⟨_, conversation, h.row, rfl, hconv,
      hrouting, h.delivery_class, rfl⟩,
    load_membership_inbox_transition_eq_ok.2 ⟨_, transition.transition, h.row, h.saved, rfl,
      h.length, rfl, rfl, h.decodes⟩⟩

theorem membership_inbox_operation_saved
    (h : membership_inbox_operation host store conversation_id cursor
      = .ok (.TransitionSaved transition)) :
    MembershipRead host store conversation_id cursor transition
      (.TransitionSaved transition.transition) := by
  obtain ⟨row, hrow, h⟩ := some_or_ok.1 h
  obtain ⟨stored, hstored, h⟩ := bind_ok.1 h
  split at h
  · cases h
  · rename_i saved hstate
    obtain ⟨loaded, hload, hpure⟩ := bind_ok.1 h
    cases hpure
    have hread := MembershipRead.of_loads hrow hstored hload
    rw [hstate] at hread
    obtain rfl : saved = transition.transition := Option.some.inj hread.saved
    exact hread
  · obtain ⟨loaded, -, hpure⟩ := bind_ok.1 h
    cases hpure

theorem membership_inbox_operation_complete :
    membership_inbox_operation host store conversation_id cursor = .ok (.Complete transition)
    ↔ MembershipRead host store conversation_id cursor transition
      (.Complete transition.transition) := by
  constructor
  · intro h
    obtain ⟨row, hrow, h⟩ := some_or_ok.1 h
    obtain ⟨stored, hstored, h⟩ := bind_ok.1 h
    split at h
    · cases h
    · obtain ⟨loaded, -, hpure⟩ := bind_ok.1 h
      cases hpure
    · rename_i saved hstate
      obtain ⟨loaded, hload, hpure⟩ := bind_ok.1 h
      cases hpure
      have hread := MembershipRead.of_loads hrow hstored hload
      rw [hstate] at hread
      obtain rfl : saved = transition.transition := Option.some.inj hread.saved
      exact hread
  · intro h
    rw [membership_inbox_operation, some_or_bind h.row, h.loads.1, ok_bind]
    dsimp only
    rw [h.loads.2]
    rfl

end Konclave.Daemon.Replay
