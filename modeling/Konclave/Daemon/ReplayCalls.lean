/-
What a call does to the replay ledger.

The calls are taken apart here and only here. The lemma about a call says which changes it
makes, that it keeps the messages where it does, and what it leaves behind when it succeeds.
-/
import Konclave.Daemon.ReplayChanges

set_option autoImplicit false

namespace Konclave.Daemon.Replay

open Domain Cryptographic RemoteEvents ReplayStore UniqueTable Table

variable {σ α : Type} {host : Host σ} {store store' : ReplayStore σ}
  {conversation_id : ConversationId} {stored : StoredRelayEnvelope}
  {operation_id : MembershipOperationId} {state : MembershipOutboxState}
  {conversation : ConversationRow} {cursor : ℕ} {message : ApplicationMessage}
  {envelope_id : EnvelopeId} {notification_id : NotificationId} {record : MembershipOutboxRow}
  {sender : DeviceId} {transition : MembershipTransition} {call : StoreCall} {now : ℕ}

variable {body : Except ProfileStoreError (α × ReplayStore σ)}
  {self_binding : DeviceCredentialBinding} {reached : ℕ} {reservation : OutboxRow}
  {envelope : RelayEnvelope}

/-- A call that is one transaction makes the changes its body makes. -/
theorem transaction_changes
    (hbody : ∀ a store', transaction store body = (.ok a, store') → store.Changes host store') :
    store.Changes host (transaction store body).2 :=
  transaction_keeps (p := store.Changes host) .refl
    fun a store' h => hbody a store' (congrArg (transaction store) h)

theorem transaction_updates
    (hbody : ∀ a store', body = .ok (a, store') → store.Updates host store') :
    store.Updates host (transaction store body).2 :=
  transaction_keeps (p := store.Updates host) .refl hbody

theorem transaction_replays
    (hbody : ∀ a store', transaction store body = (.ok a, store') → store.Replays host store') :
    store.Replays host (transaction store body).2 :=
  transaction_keeps (p := store.Replays host) (.refl store)
    fun a store' h => hbody a store' (congrArg (transaction store) h)

/-! ## Recording

What a recorded envelope leaves behind: the observation and its inbox row. -/

/-- Binding a cursor leaves it bound, and changes nothing else. -/
theorem insert_or_verify_cursor_observation_eq_ok (host : Host σ) {inserted : Bool}
    (h : insert_or_verify_cursor_observation store conversation_id stored = .ok (inserted, store'))
    (hconv : store.conversation.get? conversation_id = some conversation)
    (hrouting : conversation.routing_id = stored.envelope.routing_id) : store.Replays host store'
    ∧ store' = { store with cursor_observation := store'.cursor_observation }
    ∧ store'.Binds conversation_id stored
    ∧ (inserted = false → store' = store) := by
  obtain ⟨-, rfl⟩ := get?_iff.1 hconv
  obtain ⟨_, hcur, h⟩ := bind_ok.1 h
  have hcur := (to_sql_integer_ok.1 hcur).1
  split at h
  · rename_i cursor_observation hins
    cases h
    refine ⟨⟨.single ⟨.observed hconv hrouting.symm hins, fun _ => rfl⟩,
        .of_eq rfl rfl rfl⟩, rfl, ⟨hcur, ⟨conversation, hconv, hrouting⟩, ?_⟩, nofun⟩
    dsimp only
    rw [(insert?_eq_some hins).2]
    exact List.mem_append_right _ (List.mem_singleton.2 rfl)
  · obtain ⟨_, hverify, h⟩ := bind_ok.1 h
    cases h
    exact ⟨.refl store, rfl, ⟨hcur, ⟨conversation, hconv, hrouting⟩,
      (verify_cursor_observation_ok.1 hverify).2⟩, fun _ => rfl⟩

/-- A conversation is inserted, and then the cursor it was joined at is bound. -/
theorem insert_conversation_at_cursor_eq_ok {routing_id : RoutingId} {state : ConversationState}
    {bindings : List DeviceCredentialBinding} {receipt : Option StoredRelayEnvelope}
    {enabled : Option Bool}
    (h : insert_conversation_at_cursor host store routing_id self_binding state bindings receipt
      enabled = (.ok (), store')) : store.Changes host store'
    ∧ ∃ row : ConversationRow, row.conversation_id = self_binding.conversation_id
      ∧ row.replay_cursor = (receipt.map (·.cursor)).getD 0
      ∧ store.conversation.insert? row = some store'.conversation
      ∧ store'.inbox = store.inbox ∧ store'.membership_inbox = store.membership_inbox := by
  have h := transaction_ok h
  obtain ⟨hstate, h⟩ := require_ok.1 h
  obtain ⟨hreceipt, h⟩ := require_ok.1 h
  obtain ⟨_, hbnd, h⟩ := bind_ok.1 h
  obtain ⟨replay_cursor, hcur, h⟩ := bind_ok.1 h
  obtain ⟨-, rfl⟩ := to_sql_integer_ok.1 hcur
  obtain ⟨conversation, hins, h⟩ := some_or_ok.1 h
  cases receipt with
  | none =>
    cases h
    exact ⟨.single (.inserted ⟨hstate, hbnd, .inl ⟨rfl, rfl⟩⟩ hins), _, rfl, rfl, hins, rfl, rfl⟩
  | some receipt =>
    obtain ⟨⟨_, observed⟩, hobs, h⟩ := bind_ok.1 h
    cases h
    have hrouting : receipt.envelope.routing_id = routing_id := hreceipt receipt rfl
    have hchange : ReplayStore.Change host store { store with conversation } :=
      .inserted ⟨hstate, hbnd, .inr ⟨receipt, hrouting, rfl, rfl⟩⟩ hins
    obtain ⟨hreplays, hsame, -⟩ := insert_or_verify_cursor_observation_eq_ok host hobs
      (get?_insert_self hins) hrouting.symm
    refine ⟨.head hchange hreplays.updates.changes, _, rfl, rfl, hins.trans ?_, ?_, ?_⟩
    all_goals rw [hsame]

theorem record_inbox_envelope_eq_ok (host : Host σ)
    (h : record_inbox_envelope store stored = (.ok conversation_id, store')) :
    store.Replays host store' ∧ stored.envelope.delivery_class = .GroupApplication
    ∧ store'.Binds conversation_id stored
    ∧ ∃ row, store'.inbox.get? (conversation_id, stored.cursor) = some row
    ∧ row.stored = stored := by
  have h := transaction_ok h
  obtain ⟨hclass, h⟩ := require_ok.1 h
  obtain ⟨conversation, hconv, h⟩ := bind_ok.1 h
  obtain ⟨hget, hrouting⟩ := conversation_for_routing_eq_ok hconv
  obtain ⟨⟨inserted, observed⟩, hobs, h⟩ := bind_ok.1 h
  obtain ⟨hreplays, -, hbinds, hold⟩ :=
    insert_or_verify_cursor_observation_eq_ok host hobs hget hrouting
  dsimp only at h
  split at h
  · rename_i inbox hins
    obtain ⟨-, h⟩ := require_ok.1 h
    obtain ⟨-, h⟩ := require_ok.1 h
    cases h
    have hrecv : observed.Replays host { observed with inbox } :=
      ⟨.single ⟨.received hclass hbinds.observed hins, fun _ => rfl⟩, .of_eq rfl rfl rfl⟩
    exact ⟨hreplays.trans hrecv, hclass, ⟨hbinds.cursor, hbinds.conversation, hbinds.observed⟩,
      _, get?_insert_self hins, rfl⟩
  · obtain ⟨hexisted, h⟩ := require_ok.1 h
    obtain ⟨existing, hload, h⟩ := bind_ok.1 h
    obtain ⟨rfl, hpure⟩ := require_ok.1 h
    cases hpure
    obtain rfl := hold hexisted
    refine ⟨.refl _, hclass, hbinds, ?_⟩
    rw [load_conflicting_inbox] at hload
    split at hload
    · obtain ⟨-, hload⟩ := require_ok.1 hload
      obtain ⟨row, _, hmem, hstored, -, -, -, -, hrow⟩ := load_inbox_envelope_eq_ok.1 hload
      refine ⟨row, get?_iff.2 ⟨hmem, ?_⟩, hstored⟩
      rw [observed_conversation hbinds.observed hrow, hstored]
    · cases hload

theorem record_membership_inbox_envelope_eq_ok (host : Host σ)
    (h : record_membership_inbox_envelope store stored = (.ok conversation_id, store')) :
    store.Replays host store' ∧ stored.envelope.delivery_class = .GroupCommit
    ∧ store'.Binds conversation_id stored
    ∧ ∃ row, store'.membership_inbox.get? (conversation_id, stored.cursor) = some row
      ∧ row.stored = stored := by
  have h := transaction_ok h
  obtain ⟨hclass, h⟩ := require_ok.1 h
  obtain ⟨conversation, hconv, h⟩ := bind_ok.1 h
  obtain ⟨hget, hrouting⟩ := conversation_for_routing_eq_ok hconv
  obtain ⟨⟨inserted, observed⟩, hobs, h⟩ := bind_ok.1 h
  obtain ⟨hreplays, -, hbinds, hold⟩ :=
    insert_or_verify_cursor_observation_eq_ok host hobs hget hrouting
  dsimp only at h
  split at h
  · rename_i membership_inbox hins
    obtain ⟨-, h⟩ := require_ok.1 h
    cases h
    have hrecv : observed.Replays host { observed with membership_inbox } :=
      ⟨.single ⟨.membership_received hclass hbinds.observed hins, fun _ => rfl⟩, .of_eq rfl rfl rfl⟩
    exact ⟨hreplays.trans hrecv, hclass, ⟨hbinds.cursor, hbinds.conversation, hbinds.observed⟩,
      _, get?_insert_self hins, rfl⟩
  · obtain ⟨hexisted, h⟩ := require_ok.1 h
    obtain ⟨existing, hload, h⟩ := bind_ok.1 h
    obtain ⟨rfl, hpure⟩ := require_ok.1 h
    cases hpure
    obtain rfl := hold hexisted
    obtain ⟨row, _, hrow, -, -, -, -, hstored⟩ := load_membership_inbox_envelope_eq_ok.1 hload
    exact ⟨.refl _, hclass, hbinds, row, hrow, hstored.symm⟩

/-! ## Saving

A saved message or transition stands in its row, and in the history. -/

/-- What a saved message leaves: the row that holds it. -/
theorem save_inbox_message_eq_ok {sender_epoch : ℕ}
    (h : save_inbox_message host store conversation_id cursor sender sender_epoch message
      = (.ok (), store')) : store.Replays host store' ∧ ∃ row stored,
    store'.inbox.get? (conversation_id, cursor) = some row
    ∧ row.state.message = some ⟨sender, sender_epoch, message⟩
    ∧ load_inbox_envelope store row.stored.envelope.envelope_id = .ok stored
    ∧ seal_length (host.message_length ⟨cursor, row.stored.envelope.envelope_id, sender,
      sender_epoch, message⟩) = .ok ()
    ∧ ∃ before : ReplayStore σ, before.conversation = store.conversation
      ∧ before.others = store.others
      ∧ insert_or_verify_history host before conversation_id row.stored.envelope.envelope_id
        (some cursor) .Inbound sender sender_epoch message = .ok store' := by
  have h := transaction_ok h
  obtain ⟨row, hrow, h⟩ := some_or_ok.1 h
  obtain ⟨stored, hstored, h⟩ := bind_ok.1 h
  obtain ⟨-, h⟩ := require_ok.1 h
  obtain ⟨_, hlen, h⟩ := bind_ok.1 h
  obtain ⟨_, -, h⟩ := bind_ok.1 h
  obtain ⟨_, -, h⟩ := bind_ok.1 h
  have hkey : (row.conversation_id, row.stored.cursor) = (conversation_id, cursor) :=
    (get?_iff.1 hrow).2
  split at h
  · rename_i hrecv
    obtain ⟨inbox, hupd, h⟩ := some_or_ok.1 h
    obtain ⟨saved, hhist, h⟩ := bind_ok.1 h
    cases h
    have hentered := insert_or_verify_history_eq_ok hhist
    have hsaved : store.Replays host { store with inbox } := by
      rw [← hkey] at hrow hupd
      exact ⟨.single ⟨.saved hrow hrecv hupd, fun _ => rfl⟩, .of_eq rfl rfl rfl⟩
    refine ⟨hsaved.trans ⟨hentered.ledger.updates, hentered.messages rfl⟩,
      { row with state := .MessageSaved ⟨sender, sender_epoch, message⟩ }, stored, ?_, rfl,
      hstored, hlen, { store with inbox }, rfl, rfl, hhist⟩
    rw [hentered.ledger.inbox]
    dsimp only
    rw [get?_update? hupd, if_pos rfl, hrow]
    rfl
  · obtain ⟨existing, hold, h⟩ := bind_ok.1 h
    obtain ⟨⟨rfl, rfl, rfl⟩, hsaved⟩ := require_ok.1 h
    obtain ⟨saved, hhist, h⟩ := bind_ok.1 hsaved
    cases h
    have hentered := insert_or_verify_history_eq_ok hhist
    obtain ⟨found, -, read, hfound, -, hread, rfl, -⟩ := load_message_at_eq_ok.1 hold
    cases hrow.symm.trans hfound
    refine ⟨⟨hentered.ledger.updates, hentered.messages rfl⟩, row, stored, ?_, hread, hstored,
      hlen, store, rfl, rfl, hhist⟩
    rw [hentered.ledger.inbox]
    exact hrow

theorem validate_blob_length_of_seal {length : ℕ} (h : seal_length length = .ok ()) :
    validate_blob_length length = .ok () :=
  require_eq_ok.2 (require_eq_ok.1 h)

/-- A transition as the saved one is compared with it. -/
structure MembershipTransition.Same (saved transition : MembershipTransition) : Prop where
  sender : saved.sender = transition.sender
  parent_epoch : saved.parent_epoch = transition.parent_epoch
  operation_id : saved.operation_id = transition.operation_id
  control : saved.control = transition.control
  next_state : saved.next_state = transition.next_state
  bindings : same_verified_bindings saved.bindings transition.bindings

/-- A transition that was checked against a policy decodes. -/
theorem MembershipTransition.decodes_of_applies {state : ConversationState}
    (hconv : transition.control.authorization.conversation_id = conversation_id)
    (hop : transition.control.authorization.operation_id = transition.operation_id)
    (hparent : transition.control.authorization.parent_epoch = transition.parent_epoch)
    (happly : state.apply_membership_authorization transition.sender
      transition.control.authorization transition.next_state.epoch = .ok transition.next_state)
    (hbnd : validate_bindings host.suite transition.next_state self_binding
      transition.bindings = .ok ()) : transition.decodes host.suite conversation_id := by
  obtain ⟨-, hid, hepoch, hnext, -⟩ := ConversationState.apply_eq_ok.1 happly
  obtain ⟨hnonempty, hlen, -, hver, -⟩ := require_eq_ok.1 hbnd
  refine ⟨hnonempty, hlen, fun binding hbinding => (hver binding hbinding).2,
    hconv, hparent, hop, ?_, ?_⟩
  · rw [(ConversationState.apply_fields happly).2.1, ← hid, hconv]
  · rw [← hparent, hepoch]
    exact hnext

/-- What a saved transition leaves: the row that holds it. -/
theorem save_membership_inbox_transition_record_eq_ok
    (h : save_membership_inbox_transition_record host store conversation_id cursor transition
      = .ok store') : store.Replays host store' ∧ store'.conversation = store.conversation
    ∧ (transition.decodes host.suite conversation_id → ∃ stored saved state,
      MembershipRead host store' conversation_id cursor ⟨stored, saved⟩ state
        ∧ saved.Same transition
        ∧ seal_length (host.transition_length ⟨stored, transition⟩) = .ok ()
        ∧ transition.parent_epoch ≤ I64_MAX) := by
  obtain ⟨row, hrow, h⟩ := some_or_ok.1 h
  obtain ⟨stored, hstored, h⟩ := bind_ok.1 h
  obtain ⟨_, hlen, h⟩ := bind_ok.1 h
  obtain ⟨_, hparent, h⟩ := bind_ok.1 h
  have hbound := (to_sql_integer_ok.1 hparent).1
  split at h
  · rename_i hrecv
    obtain ⟨membership_inbox, hupd, h⟩ := some_or_ok.1 h
    cases h
    obtain ⟨found, conversation, hfound, -, hconv, hrouting, hclass, rfl⟩ :=
      load_membership_inbox_envelope_eq_ok.1 hstored
    cases hrow.symm.trans hfound
    obtain ⟨rfl, rfl⟩ := Prod.ext_iff.1 (key_of_get? hrow)
    refine ⟨⟨.single ⟨.membership_saved hrow hrecv hupd, fun _ => rfl⟩, .of_eq rfl rfl rfl⟩,
      rfl, fun hdec => ⟨row.stored, transition, .TransitionSaved transition, ⟨?_, rfl,
      ⟨conversation, hconv, hrouting⟩, hclass, validate_blob_length_of_seal hlen,
      hdec⟩, ⟨rfl, rfl, rfl, rfl, rfl, rfl, fun _ hbinding => hbinding⟩, hlen, hbound⟩⟩
    dsimp only
    rw [get?_update? hupd, if_pos rfl, hrow]
    rfl
  · obtain ⟨⟨stored', saved⟩, hload, h⟩ := bind_ok.1 h
    obtain ⟨⟨hsender, hepoch, hop, hcontrol, hnext, hbnd⟩, h⟩ := require_ok.1 h
    cases h
    have hread := MembershipRead.of_loads hrow hstored hload
    obtain ⟨_, _, -, -, hsaved, -⟩ := load_membership_inbox_transition_eq_ok.1 hload
    cases hsaved
    exact ⟨.refl _, rfl, fun _ => ⟨stored, saved, row.state, hread,
      ⟨hsender, hepoch, hop, hcontrol, hnext, hbnd⟩, hlen, hbound⟩⟩

/-- A transition is saved when it applies to the policy as it is. -/
theorem save_membership_inbox_transition_eq_ok
    (h : save_membership_inbox_transition host store conversation_id cursor transition
      = (.ok (), store')) : store.Replays host store' ∧ ∃ current,
    load_conversation host store conversation_id = .ok current
    ∧ (transition.control.authorization.conversation_id = conversation_id
      ∧ transition.control.authorization.operation_id = transition.operation_id
      ∧ transition.control.authorization.parent_epoch = transition.parent_epoch
      ∧ current.state.epoch = transition.parent_epoch
      ∧ current.state.apply_membership_authorization transition.sender
        transition.control.authorization transition.next_state.epoch
        = .ok transition.next_state)
    ∧ validate_bindings host.suite transition.next_state current.self_binding
      transition.bindings = .ok ()
    ∧ ∃ stored saved state, MembershipRead host store' conversation_id cursor ⟨stored, saved⟩ state
        ∧ saved.Same transition
        ∧ seal_length (host.transition_length ⟨stored, transition⟩) = .ok ()
        ∧ transition.parent_epoch ≤ I64_MAX := by
  have h := transaction_ok h
  obtain ⟨current, hcur, h⟩ := bind_ok.1 h
  obtain ⟨happlies, h⟩ := require_ok.1 h
  obtain ⟨_, hbnd, h⟩ := bind_ok.1 h
  obtain ⟨saved, hsaved, h⟩ := bind_ok.1 h
  cases h
  obtain ⟨hconv, hop, hparent, hepoch, happly⟩ := happlies
  obtain ⟨hreplays, -, hsettles⟩ := save_membership_inbox_transition_record_eq_ok hsaved
  exact ⟨hreplays, current, hcur, ⟨hconv, hop, hparent, hepoch, happly⟩,
    hbnd, hsettles (MembershipTransition.decodes_of_applies hconv hop hparent happly hbnd)⟩

/-! ## Completing

A completion answers from a completed cursor, or completes the next one. -/

/-- The next cursor of a conversation was completed. -/
structure ReplayStore.CompletesCursor (host : Host σ) (store : ReplayStore σ)
    (conversation_id : ConversationId) (cursor : ℕ) (store' : ReplayStore σ) : Prop where
  completion : ∃ completed, ReplayStore.Change host store completed ∧ completed.SameLedger store'
  next : (store.conversation.get? conversation_id).map (·.replay_cursor + 1) = some cursor
  cursors : ∀ other, (store'.conversation.get? other).map (·.replay_cursor)
    = if other = conversation_id then some cursor
      else (store.conversation.get? other).map (·.replay_cursor)

theorem ReplayStore.CompletesCursor.changes
    (h : store.CompletesCursor host conversation_id cursor store') : store.Changes host store' := by
  obtain ⟨completed, hchange, hsame⟩ := h.completion
  exact .head hchange hsame.updates.changes

theorem get?_next_cursor (hload : load_conversation host store conversation_id = .ok conversation)
    (hnext : checked_add conversation.replay_cursor 1 = some cursor) :
    (store.conversation.get? conversation_id).map (·.replay_cursor + 1) = some cursor := by
  rw [get?_of_conversation hload, (checked_add_iff.1 hnext).2]
  rfl

theorem ReplayStore.get?_complete_inbox_row (store : ReplayStore σ)
    (conversation_id : ConversationId) (cursor : ℕ) (key : ConversationId × ℕ) :
    (store.complete_inbox_row conversation_id cursor).inbox.get? key
    = if key = (conversation_id, cursor) then (store.inbox.get? key).map fun row =>
        { row with state := row.state.complete }
      else store.inbox.get? key :=
  get?_update store.inbox.toTable (conversation_id, cursor)
    (fun row => { row with state := row.state.complete }) (fun _ => rfl) key

/-- A completion answers for a cursor that was completed, or completes the next one; either way its
message is there, completed. -/
theorem complete_inbox_eq_ok
    (h : complete_inbox_with_notification_at host store conversation_id cursor notification_id now
      = (.ok reached, store')) : store.KeepsMessages store'
    ∧ (∃ message stored row, load_message_at host store conversation_id cursor = .ok message
      ∧ load_inbox_envelope store message.envelope_id = .ok stored
      ∧ store'.inbox.get? (conversation_id, cursor) = some row ∧ row.state.is_complete = true)
    ∧ ((store' = store ∧ ∃ row, store.conversation.get? conversation_id = some row
      ∧ cursor ≤ row.replay_cursor)
      ∨ store.CompletesCursor host conversation_id cursor store') := by
  have h := transaction_ok h
  obtain ⟨conversation, hload, h⟩ := bind_ok.1 h
  obtain ⟨message, hmsg, h⟩ := bind_ok.1 h
  obtain ⟨stored, hstored, h⟩ := bind_ok.1 h
  obtain ⟨⟨hnumber, -⟩, h⟩ := require_ok.1 h
  obtain ⟨_, -, h⟩ := bind_ok.1 h
  dsimp only at h
  split at h
  · rename_i hpast
    obtain ⟨⟨⟨row, hrow, hcomplete⟩, -⟩, hpure⟩ := require_ok.1 h
    cases hpure
    exact ⟨.refl _, ⟨message, stored, row, hmsg, hstored, hrow, hcomplete⟩,
      .inl ⟨rfl, conversation, get?_of_conversation hload, hpast⟩⟩
  · obtain ⟨hnext, h⟩ := require_ok.1 h
    obtain ⟨hcounter, h⟩ := require_ok.1 h
    obtain ⟨⟨found, counted⟩, hhist, h⟩ := bind_ok.1 h
    obtain ⟨-, h⟩ := require_ok.1 h
    obtain ⟨others, hothers, h⟩ := bind_ok.1 h
    obtain ⟨journal, hjournal, h⟩ := bind_ok.1 h
    obtain ⟨hincomplete, hpure⟩ := require_ok.1 h
    obtain ⟨message_history, rfl, hsame⟩ := complete_history_eq_ok hhist
    obtain rfl := conversation_id_of_load hload
    obtain ⟨row, _, saved, hrow, -, hsaved, hread, -⟩ := load_message_at_eq_ok.1 hmsg
    obtain rfl : message.cursor = cursor := congrArg StoredApplicationMessage.cursor hread
    cases hpure
    have hcomp : CompletesApplication host store conversation message stored :=
      ⟨hload, hmsg, hstored, hnumber, hnext, hcounter, hincomplete⟩
    have hpresent : (store.conversation.get? conversation.conversation_id).isSome = true := by
      rw [get?_of_conversation hload]
      rfl
    have hdone : row.state.complete.is_complete = true := by
      cases hstate : row.state with
      | Received =>
        rw [hstate] at hsaved
        cases hsaved
      | _ => rfl
    refine ⟨?_, ⟨message, stored, { row with state := row.state.complete }, hmsg, hstored, ?_,
      hdone⟩, .inr ⟨?_, get?_next_cursor hload hnext, ?_⟩⟩
    · have hkept : store.KeepsMessages { store with message_history } := (hsame store rfl).messages
      exact hkept.trans (.of_eq rfl rfl rfl)
    · refine (get?_complete_inbox_row _ _ _ _).trans ?_
      rw [if_pos rfl]
      exact congrArg (Option.map _) hrow
    · refine ⟨_, .completed hcomp hothers (?_ : journal = _ ∨ _), ?_⟩
      · rw [insert_application_event] at hjournal
        split at hjournal
        · cases hjournal
          exact .inl rfl
        · rename_i hkept
          exact .inr ⟨Bool.eq_false_iff.2 hkept, _, hjournal⟩
      rw [← hnumber]
      exact ReplayStore.Sides.ledger (hsame _ rfl)
    · exact cursors_set_conversation _ _ _ _ _ (fun _ => rfl) hpresent

theorem complete_inbox_changes :
    store.Changes host (complete_inbox_with_notification_at host store conversation_id cursor
      notification_id now).2 := by
  refine transaction_changes fun _ later h => ?_
  rcases (complete_inbox_eq_ok h).2.2 with ⟨rfl, -⟩ | hcomp
  · exact .refl
  · exact hcomp.changes

theorem ReplayStore.get?_complete_membership_inbox_row {row : MembershipInboxRow}
    (h : store.membership_inbox.get? (conversation_id, cursor) = some row) :
    (store.complete_membership_inbox_row conversation_id cursor).membership_inbox.get?
    (conversation_id, cursor) = some { row with state := row.state.complete } := by
  have hget := get?_update store.membership_inbox.toTable (conversation_id, cursor)
    (fun row => { row with state := row.state.complete }) (fun _ => rfl) (conversation_id, cursor)
  rw [if_pos rfl, h] at hget
  exact hget

theorem ReplayStore.SameLedger.complete_membership_inbox_row (h : store.SameLedger store')
    (conversation_id : ConversationId) (cursor : ℕ) :
    (store.complete_membership_inbox_row conversation_id cursor).SameLedger
    (store'.complete_membership_inbox_row conversation_id cursor) := by
  refine ⟨h.conversation, h.cursor_observation, h.inbox, ?_, h.sender_counter,
    h.membership_outbox, h.journal, h.others, h.marked⟩
  rw [ReplayStore.complete_membership_inbox_row, ReplayStore.complete_membership_inbox_row,
    h.membership_inbox]

/-- The outbox of a removed device is terminalized. -/
theorem terminalized_sides (store : ReplayStore σ) (conversation_id : ConversationId)
    (removed : Bool) :
    store.Sides (if removed then terminalize_removed_outbox store conversation_id else store) := by
  split
  · exact terminalize_removed_outbox_sides
  · exact .refl store

theorem complete_membership_inbox_eq_ok
    (h : complete_membership_inbox_with_notification host store conversation_id cursor
      notification_id = (.ok reached, store')) : store.KeepsMessages store'
    ∧ (∃ transition conversation state,
      MembershipRead host store conversation_id cursor transition state
      ∧ store'.membership_inbox.get? (conversation_id, cursor)
        = some ⟨conversation_id, transition.stored, .Complete transition.transition⟩
      ∧ transition.stored.cursor = cursor
      ∧ store.conversation.get? conversation_id = some conversation
      ∧ validate_bindings host.suite transition.transition.next_state conversation.self_binding
        (final_bindings transition.transition.next_state conversation.self_binding.device_id
          transition.transition.bindings) = .ok ()
      ∧ verify_cursor_observation store conversation_id cursor transition.stored.envelope
        = .ok ()) ∧ ((store' = store ∧ ∃ row, store.conversation.get? conversation_id = some row
        ∧ cursor ≤ row.replay_cursor)
      ∨ store.CompletesCursor host conversation_id cursor store') := by
  have h := transaction_ok h
  obtain ⟨operation, hop, h⟩ := bind_ok.1 h
  obtain ⟨⟨transition, already_complete⟩, hsaved, h⟩ := bind_ok.1 h
  obtain ⟨rfl, h⟩ := require_ok.1 h
  obtain ⟨conversation, hload, h⟩ := bind_ok.1 h
  obtain ⟨_, hbnd, h⟩ := bind_ok.1 h
  obtain ⟨_, hobs, h⟩ := bind_ok.1 h
  have hget := get?_of_conversation hload
  dsimp only at h
  split at h
  · rename_i hpast
    obtain ⟨rfl, hpure⟩ := require_ok.1 h
    cases hpure
    have hread : MembershipRead host store conversation_id transition.stored.cursor transition
        (.Complete transition.transition) := by
      cases operation with
      | Complete =>
        cases hsaved
        exact membership_inbox_operation_complete.1 hop
      | _ => cases hsaved
    exact ⟨.refl _, ⟨transition, conversation, _, hread, hread.row, rfl, hget, hbnd, hobs⟩,
      .inl ⟨rfl, conversation, hget, hpast⟩⟩
  · obtain ⟨hnext, h⟩ := require_ok.1 h
    obtain ⟨-, h⟩ := require_ok.1 h
    obtain ⟨journal, hjournal, h⟩ := bind_ok.1 h
    obtain ⟨hincomplete, hpure⟩ := require_ok.1 h
    obtain rfl := conversation_id_of_load hload
    have hop : membership_inbox_operation host store conversation.conversation_id
        transition.stored.cursor = .ok (.TransitionSaved transition) := by
      cases operation with
      | Received => cases hsaved
      | Complete =>
        cases hsaved
        cases hincomplete
      | TransitionSaved =>
        cases hsaved
        exact hop
    have hread := membership_inbox_operation_saved hop
    cases hpure
    have hsides := terminalized_sides ({ store with journal }.set_conversation
      conversation.conversation_id (conversation.complete_membership transition) (fun _ => rfl)
      fun _ => rfl) conversation.conversation_id
      (transition.transition.next_state.member conversation.self_binding.device_id).isNone
    have hsame := hsides.ledger.complete_membership_inbox_row conversation.conversation_id
      transition.stored.cursor
    have hpresent : (store.conversation.get? conversation.conversation_id).isSome = true := by
      rw [hget]
      rfl
    refine ⟨?_, ⟨transition, conversation, _, hread, ?_, rfl, hget, hbnd, hobs⟩,
      .inr ⟨⟨_, .membership_completed ⟨hload, hop, hbnd, hobs, hnext⟩ hjournal,
        hsame⟩, get?_next_cursor hload hnext, fun other => ?_⟩⟩
    · refine ReplayStore.KeepsMessages.trans (ReplayStore.KeepsMessages.trans ?_ hsides.messages) ?_
      · exact .of_eq rfl rfl rfl
      · exact .of_eq rfl rfl rfl
    · exact get?_complete_membership_inbox_row ((congrArg (fun table =>
        get? (toTable table) _) hsides.ledger.membership_inbox).trans hread.row)
    · refine Eq.trans (congrArg (fun table => (get? table other).map (·.replay_cursor))
        (congrArg toTable hsame.conversation)) ?_
      exact cursors_set_conversation _ _
        (conversation.complete_membership transition) (fun _ => rfl) (fun _ => rfl)
        (fun _ => rfl) hpresent other

theorem complete_membership_inbox_changes :
    store.Changes host (complete_membership_inbox_with_notification host store conversation_id
      cursor notification_id).2 := by
  refine transaction_changes fun _ later h => ?_
  rcases (complete_membership_inbox_eq_ok h).2.2 with ⟨rfl, -⟩ | hcomp
  · exact .refl
  · exact hcomp.changes

/-- The transition of an echo is saved, and then the completion of its cursor fails, answers for a
cursor that was completed, or completes the next one. -/
theorem complete_membership_echo_cases :
    (store.Updates host (complete_membership_echo host store stored sender).2
      ∧ ∀ operation_id, (complete_membership_echo host store stored sender).1 = .ok operation_id →
        ∃ outbox row, applied_membership_outbox store stored = .ok outbox
          ∧ store.conversation.get? outbox.conversation_id = some row
          ∧ stored.cursor ≤ row.replay_cursor)
    ∨ ∃ outbox saved, applied_membership_outbox store stored = .ok outbox ∧ store.Updates host saved
    ∧ (complete_membership_echo host store stored sender).1 = .ok outbox.operation_id
    ∧ saved.CompletesCursor host outbox.conversation_id stored.cursor
      (complete_membership_echo host store stored sender).2 := by
  rw [complete_membership_echo]
  split
  · exact .inl ⟨.refl, fun _ h => by cases h⟩
  rename_i outbox houtbox
  split
  · exact .inl ⟨.refl, fun _ h => by cases h⟩
  rename_i saved hsaved
  obtain ⟨⟨hsave, -⟩, hsame, -⟩ := save_membership_inbox_transition_record_eq_ok hsaved
  cases hdone : complete_membership_inbox_with_notification host saved
      outbox.conversation_id stored.cursor stored.envelope.envelope_id with
  | mk result completed =>
  cases result with
  | error =>
    refine .inl ⟨?_, fun _ h => by cases h⟩
    rw [show completed = saved from transaction_eq_error hdone]
    exact hsave
  | ok reached =>
    rcases (complete_membership_inbox_eq_ok hdone).2.2 with
      ⟨rfl, found, hfound, hpast⟩ | hnext
    · rw [hsame] at hfound
      exact .inl ⟨hsave, fun _ _ => ⟨outbox, found, houtbox, hfound, hpast⟩⟩
    · exact .inr ⟨outbox, saved, houtbox, hsave, rfl, hnext⟩

theorem complete_membership_echo_changes :
    store.Changes host (complete_membership_echo host store stored sender).2 := by
  rcases complete_membership_echo_cases with
    ⟨hsave, -⟩ | ⟨_, _, -, hsave, -, hcomp⟩
  · exact hsave.changes
  · exact hsave.changes.trans hcomp.changes

/-! ## The outbox

The calls on the device's own messages change the side tables only. -/

theorem reserve_outbound_application_updates {message_id : MessageId} :
    store.Updates host (reserve_outbound_application host store conversation_id message_id
      envelope_id).2 := by
  refine transaction_updates fun _ later h => ?_
  obtain ⟨_, -, h⟩ := bind_ok.1 h
  obtain ⟨-, h⟩ := require_ok.1 h
  dsimp only at h
  split at h
  · obtain ⟨-, h⟩ := require_ok.1 h
    obtain ⟨conversation, -, h⟩ := some_or_ok.1 h
    obtain ⟨sender_counter, -, h⟩ := some_or_ok.1 h
    obtain ⟨_, -, h⟩ := bind_ok.1 h
    obtain ⟨outbox, -, h⟩ := some_or_ok.1 h
    cases h
    exact (store.sameLedger_outbox outbox).updates.tail ⟨.configured conversation_id
      (fun row => { row with sender_counter }) fun _ => ⟨rfl, rfl, rfl, rfl, rfl, rfl, rfl⟩,
      sameCursors_set_conversation _ _ _ _ _ fun _ => rfl⟩
  · obtain ⟨-, h⟩ := require_ok.1 h
    obtain ⟨-, h⟩ := require_ok.1 h
    cases h
    exact .refl
  · cases h

theorem store_outbound_message_updates {routing_id : RoutingId} {epoch : ℕ} :
    store.Updates host (store_outbound_message host store reservation routing_id sender
      epoch message).2 := by
  refine transaction_updates fun _ later h => ?_
  obtain ⟨-, h⟩ := require_ok.1 h
  obtain ⟨_, -, h⟩ := some_or_ok.1 h
  obtain ⟨-, h⟩ := require_ok.1 h
  obtain ⟨-, h⟩ := require_ok.1 h
  obtain ⟨_, hhist, h⟩ := bind_ok.1 h
  cases h
  exact (insert_or_verify_history_eq_ok hhist).ledger.updates

theorem store_outbound_envelope_updates :
    store.Updates host (store_outbound_envelope store reservation envelope).2 := by
  refine transaction_updates fun _ later h => ?_
  obtain ⟨_, -, h⟩ := some_or_ok.1 h
  obtain ⟨-, h⟩ := require_ok.1 h
  obtain ⟨-, h⟩ := require_ok.1 h
  split at h
  · cases h
    exact (store.sameLedger_outbox _).updates
  · obtain ⟨_, -, h⟩ := bind_ok.1 h
    obtain ⟨-, h⟩ := require_ok.1 h
    cases h
    exact .refl

/-- A marker that is left has a message that is left. -/
theorem ReplayStore.delete_unsent_history_same
    (gone : HistoryRow → Bool) : store.SameLedger (store.delete_unsent_history gone) := by
  refine ⟨rfl, rfl, rfl, rfl, rfl, rfl, rfl, rfl, fun marker hmarker hmarked => ?_⟩
  obtain ⟨hmarker, hkept⟩ := List.mem_filter.1 hmarker
  obtain ⟨hknown, row, hrow, hint⟩ := hmarked hmarker
  rw [hrow, Option.any_some] at hkept
  refine ⟨hknown, row, ?_, hint⟩
  obtain ⟨hmem, hkey⟩ := get?_iff.1 hrow
  exact get?_iff.2 ⟨List.mem_filter.2 ⟨hmem, hkept⟩, hkey⟩

theorem foldl_set_outbox_state_same (envelope : α → EnvelopeId) (state : α → OutboxState)
    (l : List α) (store : ReplayStore σ) :
    store.SameLedger (l.foldl (fun store x => store.set_outbox_state (envelope x) (state x))
      store) := by
  induction l generalizing store with
  | nil => exact .refl store
  | cons x l ih => exact (store.sameLedger_outbox _).trans (ih _)

theorem abandon_unsealed_outbox_same : store.SameLedger (abandon_unsealed_outbox store) :=
  (foldl_set_outbox_state_same id (fun _ => .Abandoned) _ store).trans
    (delete_unsent_history_same _)

theorem abandon_outbound_application_updates :
    store.Updates host (abandon_outbound_application store reservation).2 := by
  refine transaction_updates fun _ later h => ?_
  split at h
  · cases h
    exact ((store.sameLedger_outbox _).trans (delete_unsent_history_same _)).updates
  · obtain ⟨_, -, h⟩ := some_or_ok.1 h
    obtain ⟨-, h⟩ := require_ok.1 h
    cases h
    exact .refl

theorem expire_outbound_application_updates :
    store.Updates host (expire_outbound_application store envelope).2 := by
  refine transaction_updates fun _ later h => ?_
  obtain ⟨record, -, h⟩ := bind_ok.1 h
  obtain ⟨-, h⟩ := require_ok.1 h
  obtain ⟨_, -, h⟩ := bind_ok.1 h
  obtain ⟨_, -, h⟩ := some_or_ok.1 h
  obtain ⟨-, h⟩ := require_ok.1 h
  split at h
  · obtain ⟨-, h⟩ := require_ok.1 h
    cases h
    exact (store.sameLedger_outbox _).updates
  · obtain ⟨-, h⟩ := require_ok.1 h
    cases h
    exact .refl
  · obtain ⟨-, h⟩ := require_ok.1 h
    obtain ⟨_, -, h⟩ := bind_ok.1 h
    cases h
    exact .refl
  · cases h

/-- An envelope of the outbox is one of its conversation. -/
theorem load_outbox_record_eq_ok {record : OutboxRecord}
    (h : load_outbox_record store envelope_id = .ok record) :
    store.outbox.get? envelope_id = some record.row
    ∧ record.row.state.envelope = some record.envelope
    ∧ ∃ conversation, store.conversation.get? record.row.conversation_id = some conversation
      ∧ record.envelope.routing_id = conversation.routing_id := by
  obtain ⟨row, hrow, h⟩ := some_or_ok.1 h
  obtain ⟨conversation, hconv, h⟩ := some_or_ok.1 h
  obtain ⟨envelope, henv, h⟩ := some_or_ok.1 h
  obtain ⟨⟨-, hrouting⟩, h⟩ := require_ok.1 h
  cases h
  exact ⟨hrow, henv, conversation, hconv, hrouting⟩

/-- The envelope is accepted at its cursor, and so is its message. -/
structure AcceptedOutbox (store : ReplayStore σ) (stored : StoredRelayEnvelope) (row : OutboxRow) :
    Prop where
  loaded : store.outbox.get? stored.envelope.envelope_id = some row
  state : row.state = .Accepted stored.envelope stored.cursor
  binds : store.Binds row.conversation_id stored
  history : ∃ history, load_history_record store row.conversation_id row.message_id
      = .ok (some history)
    ∧ history.envelope_id = row.envelope_id ∧ history.cursor = some stored.cursor

/-- What accepting an envelope leaves: the accepted row, with its message at the cursor. -/
theorem accept_outbox_eq_ok {record : OutboxRecord} {accept_terminal : Bool}
    (hrec : load_outbox_record store stored.envelope.envelope_id = .ok record)
    (henv : record.envelope = stored.envelope)
    (h : accept_outbox_in_transaction store record stored accept_terminal = .ok store') :
    store.Replays host store' ∧ (∃ row, row.conversation_id = record.row.conversation_id
      ∧ row.message_id = record.row.message_id ∧ AcceptedOutbox store' stored row)
    ∧ ∃ before, load_history_record store record.row.conversation_id record.row.message_id
      = .ok (some before) := by
  obtain ⟨hrow, hsealed, conversation, hconv, hrouting⟩ := load_outbox_record_eq_ok hrec
  rw [henv] at hsealed hrouting
  obtain ⟨accepted, hacc, h⟩ := bind_ok.1 h
  obtain ⟨⟨assigned, later⟩, hassign, h⟩ := bind_ok.1 h
  obtain ⟨rfl, h⟩ := require_ok.1 h
  cases h
  obtain ⟨hassigned, houtbox, hsettles⟩ := assign_history_cursor_eq_ok hassign
  obtain ⟨⟨before, hbefore⟩, hhist⟩ := hsettles rfl
  -- the row is accepted now, or was accepted at this cursor
  suffices hfound : store.Replays host accepted ∧ ∃ row : OutboxRow,
      row.conversation_id = record.row.conversation_id
      ∧ row.message_id = record.row.message_id ∧ row.envelope_id = record.row.envelope_id
      ∧ accepted.outbox.get? stored.envelope.envelope_id = some row
      ∧ row.state = .Accepted stored.envelope stored.cursor
      ∧ accepted.message_history = store.message_history
      ∧ accepted.internal_application_message = store.internal_application_message
      ∧ accepted.Binds record.row.conversation_id stored by
    obtain ⟨hreplays, row, hid, hmsg, hsame, hget, hstate, hmsgs, hmarkers, hbinds⟩ := hfound
    rw [load_history_record_eq, hmsgs, hmarkers] at hbefore
    refine ⟨hreplays.trans hassigned.replays, ⟨row, hid, hmsg, ?_, hstate,
      ⟨hbinds.cursor, ?_, ?_⟩, ?_⟩, before, load_history_record_eq.2 hbefore⟩
    · rw [houtbox]
      exact hget
    · rw [hassigned.ledger.conversation, hid]
      exact hbinds.conversation
    · rw [hassigned.ledger.cursor_observation, hid]
      exact hbinds.observed
    · rw [hid, hmsg, hsame]
      exact hhist
  have hkey : record.row.envelope_id = stored.envelope.envelope_id := key_of_get? hrow
  rw [accepted_outbox] at hacc
  dsimp only at hacc
  split at hacc
  · rename_i hready
    obtain ⟨-, hacc⟩ := require_ok.1 hacc
    obtain ⟨⟨inserted, observed⟩, hobserve, h⟩ := bind_ok.1 hacc
    cases h
    obtain ⟨hreplays, hsame, hbinds, -⟩ :=
      insert_or_verify_cursor_observation_eq_ok host hobserve hconv hrouting.symm
    have hopen : ∀ row, observed.outbox.get? record.row.envelope_id = some row →
        ∀ envelope cursor, row.state ≠ .Accepted envelope cursor := by
      intro row hget envelope cursor hacc
      rw [hsame, hkey] at hget
      cases hrow.symm.trans hget
      rw [hready] at hacc
      cases hacc
    refine ⟨hreplays.trans (ReplayStore.Sides.set_outbox_state observed hopen _).replays,
      { record.row with state := .Accepted stored.envelope stored.cursor }, rfl, rfl, rfl, ?_,
      rfl, ?_, ?_, ⟨hbinds.cursor, hbinds.conversation, hbinds.observed⟩⟩
    · rw [get?_set_outbox_state, if_pos hkey.symm, hsame, henv]
      exact congrArg (Option.map _) hrow
    all_goals
      rw [hsame]
      rfl
  · rename_i sealed cursor hstate
    obtain ⟨rfl, hver⟩ := require_ok.1 hacc
    obtain ⟨_, hverify, h⟩ := bind_ok.1 hver
    cases h
    rw [henv] at hverify
    obtain ⟨hcur, hobs⟩ := verify_cursor_observation_ok.1 hverify
    rw [hstate] at hsealed
    cases hsealed
    exact ⟨.refl _, record.row, rfl, rfl, rfl, hrow, hstate, rfl, rfl, hcur,
      ⟨conversation, hconv, hrouting.symm⟩, hobs⟩
  · cases hacc

theorem mark_outbox_accepted_eq_ok (host : Host σ)
    (h : mark_outbox_accepted store stored = (.ok (), store')) :
    store.Replays host store' ∧ ∃ row, AcceptedOutbox store' stored row := by
  have h := transaction_ok h
  obtain ⟨record, hrec, h⟩ := bind_ok.1 h
  obtain ⟨henv, h⟩ := require_ok.1 h
  obtain ⟨later, haccept, h⟩ := bind_ok.1 h
  cases h
  obtain ⟨hreplays, ⟨row, -, -, hacc⟩, -⟩ := accept_outbox_eq_ok hrec henv haccept
  exact ⟨hreplays, row, hacc⟩

/-- The device's own message of an envelope, where there is one, is accepted. -/
theorem outbound_history_message_eq_ok (host : Host σ) {history : Option HistoryRow}
    (h : outbound_history_message store conversation_id stored = (.ok history, store')) :
    store.Replays host store' ∧ (∃ conversation, store.conversation.get? conversation_id
      = some conversation)
    ∧ (((store.message_history.named? (.envelope stored.envelope.envelope_id)).filter fun row =>
        decide (row.conversation_id = conversation_id ∧ row.direction = .Outbound)) = none
      ∨ ∃ sent row, ((store.message_history.named? (.envelope stored.envelope.envelope_id)).filter
          fun row => decide (row.conversation_id = conversation_id
            ∧ row.direction = .Outbound)) = some sent
        ∧ row.conversation_id = conversation_id ∧ row.message_id = sent.message.message_id
        ∧ AcceptedOutbox store' stored row
        ∧ ∃ before, load_history_record store conversation_id sent.message.message_id
        = .ok (some before)) := by
  have h := transaction_ok h
  obtain ⟨conversation, hconv, h⟩ := some_or_ok.1 h
  dsimp only at h
  split at h
  · rename_i hnone
    cases h
    exact ⟨.refl _, ⟨conversation, hconv⟩, .inl hnone⟩
  · rename_i sent hsent
    obtain ⟨record, hrec, h⟩ := bind_ok.1 h
    obtain ⟨⟨hid, hmsg, henv⟩, h⟩ := require_ok.1 h
    obtain ⟨accepted, haccept, h⟩ := bind_ok.1 h
    obtain ⟨_, -, h⟩ := bind_ok.1 h
    obtain ⟨_, -, h⟩ := some_or_ok.1 h
    cases h
    obtain ⟨hreplays, ⟨row, hrow, hnamed, hacc⟩, before, hbefore⟩ :=
      accept_outbox_eq_ok hrec henv haccept
    rw [hid] at hrow hbefore
    rw [hmsg] at hnamed hbefore
    exact ⟨hreplays, ⟨conversation, hconv⟩, .inr ⟨sent, row, hsent, hrow, hnamed, hacc,
      before, hbefore⟩⟩

/-! ## The membership outbox

A commit of the device that is published moves the policy, and the head with it. -/

theorem load_membership_outbox_eq_ok (h : load_membership_outbox store operation_id = .ok record) :
    store.membership_outbox.get? operation_id = some record ∧ record.operation_id = operation_id
    ∧ ∃ conversation, store.conversation.get? record.conversation_id = some conversation
      ∧ record.envelope.routing_id = conversation.routing_id := by
  obtain ⟨row, hrow, h⟩ := some_or_ok.1 h
  obtain ⟨conversation, hconv, h⟩ := some_or_ok.1 h
  obtain ⟨hrouting, h⟩ := require_ok.1 h
  obtain ⟨_, -, h⟩ := bind_ok.1 h
  cases h
  exact ⟨hrow, (get?_iff.1 hrow).2, conversation, hconv, hrouting⟩

theorem set_membership_outbox_state_eq_ok
    (h : store.set_membership_outbox_state operation_id state = .ok store') :
    ∃ membership_outbox, store' = { store with membership_outbox }
    ∧ store.membership_outbox.update? operation_id (fun row => { row with state })
      (fun _ => rfl) = some membership_outbox := by
  obtain ⟨membership_outbox, hupd, h⟩ := some_or_ok.1 h
  cases h
  exact ⟨membership_outbox, rfl, hupd⟩

/-- A commit is prepared once. -/
theorem store_membership_outbox_changes (operation : MembershipOperation) :
    store.Changes host (store_membership_outbox host store operation).2
    ∧ (store_membership_outbox host store operation).2.conversation = store.conversation := by
  refine transaction_keeps (p := fun later => store.Changes host later
    ∧ later.conversation = store.conversation) ⟨.refl, rfl⟩ fun _ later h => ?_
  obtain ⟨current, -, h⟩ := bind_ok.1 h
  obtain ⟨⟨-, -, hnext, -⟩, h⟩ := require_ok.1 h
  obtain ⟨_, -, h⟩ := bind_ok.1 h
  obtain ⟨-, h⟩ := require_ok.1 h
  obtain ⟨-, h⟩ := require_ok.1 h
  obtain ⟨_, -, h⟩ := bind_ok.1 h
  split at h
  · rename_i membership_outbox hins
    cases h
    exact ⟨.single (.prepared hnext hins), rfl⟩
  · split at h
    · obtain ⟨-, hpure⟩ := require_ok.1 h
      cases hpure
      exact ⟨.refl, rfl⟩
    · cases h

theorem mark_membership_outbox_accepted_updates :
    store.Updates host (mark_membership_outbox_accepted store stored).2 := by
  refine transaction_updates fun _ later h => ?_
  obtain ⟨named, -, h⟩ := some_or_ok.1 h
  obtain ⟨record, hrec, h⟩ := bind_ok.1 h
  obtain ⟨henv, h⟩ := require_ok.1 h
  obtain ⟨-, -, conversation, hconv, hrouting⟩ := load_membership_outbox_eq_ok hrec
  rw [henv] at hrouting
  split at h
  · obtain ⟨⟨_, observed⟩, hobs, h⟩ := bind_ok.1 h
    obtain ⟨marked, hmark, h⟩ := bind_ok.1 h
    cases h
    obtain ⟨membership_outbox, rfl, hupd⟩ := set_membership_outbox_state_eq_ok hmark
    obtain ⟨hreplays, -⟩ := insert_or_verify_cursor_observation_eq_ok host hobs hconv hrouting.symm
    exact hreplays.updates.tail ⟨.marked hupd, fun _ => rfl⟩
  · obtain ⟨-, h⟩ := require_ok.1 h
    obtain ⟨_, -, h⟩ := bind_ok.1 h
    cases h
    exact .refl
  · obtain ⟨-, h⟩ := require_ok.1 h
    obtain ⟨_, -, h⟩ := bind_ok.1 h
    cases h
    exact .refl
  · cases h

theorem complete_membership_outbox_updates :
    store.Updates host (complete_membership_outbox host store operation_id).2 := by
  refine transaction_updates fun _ later h => ?_
  obtain ⟨record, hrec, h⟩ := bind_ok.1 h
  obtain ⟨hget, rfl, -⟩ := load_membership_outbox_eq_ok hrec
  split at h
  · obtain ⟨_, -, h⟩ := bind_ok.1 h
    cases h
    exact .refl
  · rename_i cursor _
    obtain ⟨current, hcur, h⟩ := bind_ok.1 h
    obtain ⟨_, hbnd, h⟩ := bind_ok.1 h
    obtain ⟨head, hhead, h⟩ := bind_ok.1 h
    obtain ⟨_, -, h⟩ := bind_ok.1 h
    obtain ⟨marked, hmark, h⟩ := bind_ok.1 h
    cases h
    obtain ⟨membership_outbox, rfl, hupd⟩ := set_membership_outbox_state_eq_ok hmark
    -- the outbox of a removed device is terminalized between the two updates
    obtain ⟨hrows, hobservations, hinbox, hmembership, hcounters, houtbox, hevents, hothers,
      hmarked⟩ := (terminalized_sides (store.set_conversation record.conversation_id
        (current.publish record head) (fun _ => rfl) fun _ => rfl) record.conversation_id
        (record.next_state.member current.self_binding.device_id).isNone).ledger
    have happlied := (congrArg (fun table => update? table record.operation_id
      (fun row : MembershipOutboxRow => { row with state := .Applied cursor }) fun _ => rfl)
      houtbox.symm).trans hupd
    refine .head ⟨.published hget hcur hbnd hhead happlied, ?_⟩ ?_
    · exact sameCursors_set_conversation _ _ _ _ _ fun _ => rfl
    · exact ReplayStore.SameLedger.updates
        ⟨hrows, hobservations, hinbox, hmembership, hcounters, rfl, hevents, hothers, hmarked⟩
  · cases h

theorem orphan_membership_outbox_updates :
    store.Updates host (orphan_membership_outbox store operation_id).2 := by
  refine transaction_updates fun _ later h => ?_
  obtain ⟨record, -, h⟩ := some_or_ok.1 h
  split at h
  · obtain ⟨marked, hmark, h⟩ := bind_ok.1 h
    cases h
    obtain ⟨membership_outbox, rfl, hupd⟩ := set_membership_outbox_state_eq_ok hmark
    exact .single ⟨.marked hupd, fun _ => rfl⟩
  · cases h
    exact .refl
  · cases h

theorem active_membership_outbox_updates :
    store.Updates host (active_membership_outbox host store conversation_id).2 := by
  refine transaction_updates fun _ later h => ?_
  obtain ⟨current, -, h⟩ := bind_ok.1 h
  split at h
  · cases h
    exact .refl
  · obtain ⟨record, -, h⟩ := bind_ok.1 h
    obtain ⟨state, -, h⟩ := bind_ok.1 h
    obtain ⟨marked, hmark, h⟩ := bind_ok.1 h
    obtain ⟨_, -, h⟩ := bind_ok.1 h
    cases h
    obtain ⟨membership_outbox, rfl, hupd⟩ := set_membership_outbox_state_eq_ok hmark
    exact .single ⟨.marked hupd, fun _ => rfl⟩

/-! ## Calls

Every call of the store is a sequence of changes. -/

namespace StoreCall

/-- The calls that replay a relay log, and those that meet its echoes. -/
def is_replay : StoreCall → Bool
  | .record_inbox_envelope _ | .save_inbox_message .. | .complete_inbox ..
  | .record_membership_inbox_envelope _ | .save_membership_inbox_transition ..
  | .complete_membership_inbox .. | .mark_outbox_accepted _ | .outbound_history_message .. => true
  | _ => false

/-- The calls that neither add a conversation, nor complete a cursor, nor prepare a commit,
nor deliver events. -/
def is_update : StoreCall → Bool
  | .insert_conversation .. | .complete_inbox .. | .complete_membership_inbox ..
  | .complete_membership_echo .. | .store_membership_outbox .. | .delivery .. => false
  | _ => true

/-- Replay, but for its completions. -/
theorem run_replays (call : StoreCall)
    (hupd : call.is_update = true) (hreplay : call.is_replay = true) :
    store.Replays host (call.run host store).2 := by
  cases call with
  | record_inbox_envelope stored =>
    exact transaction_replays fun _ _ h => (record_inbox_envelope_eq_ok host h).1
  | save_inbox_message conversation_id cursor sender sender_epoch message =>
    exact transaction_replays fun _ _ h => (save_inbox_message_eq_ok h).1
  | record_membership_inbox_envelope stored =>
    exact transaction_replays fun _ _ h => (record_membership_inbox_envelope_eq_ok host h).1
  | save_membership_inbox_transition conversation_id cursor transition =>
    exact transaction_replays fun _ _ h => (save_membership_inbox_transition_eq_ok h).1
  | mark_outbox_accepted stored =>
    exact transaction_replays fun _ _ h => (mark_outbox_accepted_eq_ok host h).1
  | outbound_history_message conversation_id stored =>
    exact transaction_replays fun _ _ h => (outbound_history_message_eq_ok host h).1
  | complete_inbox | complete_membership_inbox => cases hupd
  | _ => cases hreplay

theorem run_keepsMessages (call : StoreCall)
    (hcall : call.is_replay = true) : store.KeepsMessages (call.run host store).2 := by
  cases hupd : call.is_update with
  | true => exact (call.run_replays hupd hcall).messages
  | false =>
    cases call with
    | complete_inbox conversation_id cursor notification_id now =>
      exact transaction_keeps (p := store.KeepsMessages) (.refl store)
        fun _ _ h => (complete_inbox_eq_ok (congrArg (transaction store) h)).1
    | complete_membership_inbox conversation_id cursor notification_id =>
      exact transaction_keeps (p := store.KeepsMessages) (.refl store)
        fun _ _ h => (complete_membership_inbox_eq_ok (congrArg (transaction store) h)).1
    | insert_conversation | complete_membership_echo | store_membership_outbox
    | delivery => cases hcall
    | _ => cases hupd

theorem run_updates (call : StoreCall)
    (hcall : call.is_update = true) : store.Updates host (call.run host store).2 := by
  cases call with
  | insert_conversation | complete_inbox | complete_membership_inbox | complete_membership_echo
  | store_membership_outbox | delivery => cases hcall
  | set_adapter_delivery_enabled conversation_id enabled =>
    refine transaction_updates fun _ later h => ?_
    obtain ⟨_, -, h⟩ := some_or_ok.1 h
    cases h
    exact .single ⟨.configured conversation_id
      (fun row => { row with adapter_delivery_policy := some enabled })
      fun _ => ⟨rfl, rfl, rfl, rfl, rfl, rfl, rfl⟩,
      sameCursors_set_conversation _ _ _ _ _ fun _ => rfl⟩
  | reserve_outbound_application conversation_id message_id envelope_id =>
    exact reserve_outbound_application_updates
  | store_outbound_message reservation routing_id sender epoch message =>
    exact store_outbound_message_updates
  | store_outbound_envelope reservation envelope =>
    exact store_outbound_envelope_updates
  | abandon_outbound_application reservation =>
    exact abandon_outbound_application_updates
  | abandon_unsealed_outbox => exact abandon_unsealed_outbox_same.updates
  | expire_outbound_application envelope =>
    exact expire_outbound_application_updates
  | mark_membership_outbox_accepted stored =>
    exact mark_membership_outbox_accepted_updates
  | complete_membership_outbox operation_id =>
    exact complete_membership_outbox_updates
  | orphan_membership_outbox operation_id =>
    exact orphan_membership_outbox_updates
  | active_membership_outbox conversation_id =>
    exact active_membership_outbox_updates
  | _ => exact (run_replays _ rfl rfl).updates

/-- A call makes changes, or is one on the journal alone. -/
theorem run_changes (host : Host σ) (store : ReplayStore σ) (call : StoreCall)
    (hcall : ∀ delivery hdel, call ≠ .delivery delivery hdel) :
    store.Changes host (call.run host store).2 := by
  cases hupd : call.is_update with
  | true => exact (call.run_updates hupd).changes
  | false =>
    cases call with
    | insert_conversation routing_id self_binding state bindings replay_receipt enabled =>
      exact transaction_changes fun _ _ h => (insert_conversation_at_cursor_eq_ok h).1
    | complete_inbox conversation_id cursor notification_id now =>
      exact complete_inbox_changes
    | complete_membership_inbox conversation_id cursor notification_id =>
      exact complete_membership_inbox_changes
    | complete_membership_echo stored sender =>
      exact complete_membership_echo_changes
    | store_membership_outbox operation =>
      exact (store_membership_outbox_changes operation).1
    | delivery delivery hdel => exact absurd rfl (hcall delivery hdel)
    | _ => cases hupd

end StoreCall

end Konclave.Daemon.Replay
