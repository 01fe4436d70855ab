/-
The replay heads of the conversations.

Each completion writes the head of its conversation anew, and a commit of the device's own
moves the policy in it one epoch on. The head stays the record of the last completed cursor
and of the stored policy, whatever the calls, so a conversation that completed a cursor can
be loaded from then on.
-/
import Konclave.Daemon.ReplayLedger

set_option autoImplicit false

namespace Konclave.Daemon.Replay

open Domain Cryptographic RemoteEvents UniqueTable Table

variable {σ : Type} {host : Host σ} {store store' : ReplayStore σ}

/-! ## Where the conversations of a changed store come from

A changed row was configured, completed or published from one that was there. -/

/-- What a conversation was before a change. -/
inductive ConversationOrigin (host : Host σ) (store store' : ReplayStore σ)
    (conversation_id : ConversationId) (row' : ConversationRow) : Prop
  | inserted (hfree : store.conversation.get? conversation_id = none)
      (hstarts : row'.Starts host)
  | kept (row : ConversationRow) (hrow : store.conversation.get? conversation_id = some row)
      (hsame : row.Configures row')
  | completed (row : ConversationRow) (message : StoredApplicationMessage)
      (stored : StoredRelayEnvelope)
      (hcompletes : CompletesApplication host store row message stored)
      (hrow' : row' = row.complete_application stored row)
  | membership_completed (row : ConversationRow) (transition : StoredMembershipTransition)
      (hid : row.conversation_id = conversation_id)
      (hcompletes : CompletesMembership host store row transition)
      (hsaved : MembershipRead host store' conversation_id transition.stored.cursor transition
        (.Complete transition.transition))
      (hrow' : row' = row.complete_membership transition row)
  | published (row : ConversationRow) (record : MembershipOutboxRow) (head : Option ReplayHead)
      (hrecord : store.membership_outbox.get? record.operation_id = some record)
      (hid : record.conversation_id = conversation_id)
      (hload : load_conversation host store conversation_id = .ok row)
      (hbindings : validate_bindings host.suite record.next_state row.self_binding
        (final_bindings record.next_state row.self_binding.device_id record.bindings) = .ok ())
      (hhead : advance_replay_head_state host store row record.next_state = .ok head)
      (hrow' : row' = row.publish record head row)

theorem ConversationRow.Configures.refl (row : ConversationRow) : row.Configures row :=
  ⟨rfl, rfl, rfl, rfl, rfl, rfl, rfl⟩

variable {conversation_id : ConversationId} {routing_id : RoutingId} {cursor : ℕ}
  {stored : StoredRelayEnvelope} {head : ReplayHead} {row : ConversationRow}

variable {transition : StoredMembershipTransition} {message : StoredApplicationMessage}
  {state : ConversationState} {row' : ConversationRow}

theorem ReplayStore.Change.conversation_origin (h : ReplayStore.Change host store store')
    (hrow' : store'.conversation.get? conversation_id = some row') :
    ConversationOrigin host store store' conversation_id row' := by
  have hgrows := h.grows
  cases h with
  | sides hsame =>
    rw [hsame.conversation] at hrow'
    exact .kept row' hrow' (.refl row')
  | observed | received | membership_received | saved | membership_saved | prepared | marked =>
    exact .kept row' hrow' (.refl row')
  | inserted hstarts hins =>
    rcases get?_insert_cases hins hrow' with ⟨rfl, rfl⟩ | hold
    · exact .inserted (insert?_eq_some hins).1 hstarts
    · exact .kept row' hold (.refl row')
  | configured id set hset =>
    obtain ⟨row, hrow, rfl | ⟨-, rfl⟩⟩ := get?_update_cases set
      (fun row => (hset row).conversation_id) hrow'
    · exact .kept row' hrow (.refl row')
    · exact .kept row hrow (hset row)
  | @completed conversation message stored _ _ _ hcomp =>
    obtain ⟨row, hrow, rfl | ⟨rfl, rfl⟩⟩ := get?_update_cases
      (conversation.complete_application stored) (fun _ => rfl) hrow'
    · exact .kept row' hrow (.refl row')
    · cases (get?_of_conversation hcomp.loaded).symm.trans hrow
      exact .completed conversation message stored hcomp rfl
  | @membership_completed conversation transition _ _ hcomp _ =>
    obtain ⟨row, hrow, rfl | ⟨rfl, rfl⟩⟩ := get?_update_cases
      (conversation.complete_membership transition) (fun _ => rfl) hrow'
    · exact .kept row' hrow (.refl row')
    · cases (get?_of_conversation hcomp.loaded).symm.trans hrow
      have hsaved := membership_inbox_operation_saved hcomp.operation
      exact .membership_completed conversation transition rfl hcomp (hsaved.of_row hgrows
        (ReplayStore.get?_complete_membership_inbox_row hsaved.row) rfl) rfl
  | @published conversation record _ head _ hrec hload hbnd hhead _ =>
    obtain ⟨row, hrow, rfl | ⟨rfl, rfl⟩⟩ := get?_update_cases
      (conversation.publish record head) (fun _ => rfl) hrow'
    · exact .kept row' hrow (.refl row')
    · cases (get?_of_conversation hload).symm.trans hrow
      exact .published conversation record head hrec rfl hload hbnd hhead rfl

/-! ## Heads

The head of a conversation names the completion that moved it to its cursor. -/

/-- The head is of this position. -/
structure ReplayHead.Fits (conversation_id : ConversationId) (routing_id : RoutingId)
    (state : ConversationState) (cursor : ℕ) (head : ReplayHead) : Prop where
  position : head.cursor = cursor
  policy_state : head.policy_state = state
  completion_conversation : head.completion_state.conversation_id = conversation_id
  policy_conversation : head.policy_state.conversation_id = conversation_id
  version : head.completion_state.version = head.policy_state.version
  epoch : head.completion_state.epoch ≤ head.policy_state.epoch
  routing : head.envelope.routing_id = routing_id
  previous : head.kind ≠ .Join → checked_add head.previous_cursor 1 = some cursor
  joined : head.kind = .Join → head.previous_cursor = 0

/-- The completion the head is the record of. -/
def ReplayHead.Completes (host : Host σ) (store : ReplayStore σ)
    (conversation_id : ConversationId) (cursor : ℕ) (head : ReplayHead)
    (observed : StoredRelayEnvelope) : Prop :=
  match head.kind with
  | .Application => ∃ message, load_message_at host store conversation_id cursor = .ok message
      ∧ message.envelope_id = head.envelope.envelope_id
  | .Membership => ∃ transition,
      load_membership_inbox_transition host store conversation_id cursor observed = .ok transition
        ∧ transition.transition.next_state = head.completion_state
  | .Join => head.envelope.delivery_class = .GroupCommit
      ∧ (head.envelope.expected_parent_epoch.bind (checked_add · 1)
        = some head.completion_state.epoch)
      ∧ (store.inbox.get? (conversation_id, cursor)).isNone = true
      ∧ (store.membership_inbox.get? (conversation_id, cursor)).isNone = true

theorem load_cursor_observation_eq_ok :
    load_cursor_observation store conversation_id routing_id cursor = .ok stored
    ↔ (∃ row, store.cursor_observation.get? (conversation_id, cursor) = some row
      ∧ row.stored = stored) ∧ stored.envelope.routing_id = routing_id := by
  rw [load_cursor_observation]
  simp only [some_or_ok, require_ok]
  constructor
  · rintro ⟨row, hrow, hrouting, h⟩
    cases h
    exact ⟨⟨row, hrow, rfl⟩, hrouting⟩
  · rintro ⟨⟨row, hrow, rfl⟩, hrouting⟩
    exact ⟨row, hrow, hrouting, rfl⟩

theorem verify_replay_position_eq_ok :
    verify_replay_position host store conversation_id routing_id state cursor head = .ok ()
    ↔ head.Fits conversation_id routing_id state cursor
      ∧ ∃ observed, load_cursor_observation store conversation_id routing_id cursor = .ok observed
        ∧ observed.envelope = head.envelope
        ∧ head.Completes host store conversation_id cursor observed := by
  rw [verify_replay_position, require_ok, bind_ok]
  refine and_congr ⟨?_, ?_⟩ (exists_congr fun observed => and_congr_right fun _ => ?_)
  · rintro ⟨hcur, hpolicy, hcompletion, hconv, hver, hepoch, hrouting, hprev, hjoined⟩
    exact ⟨hcur, hpolicy, hcompletion, hconv, hver, hepoch, hrouting, hprev, hjoined⟩
  · rintro ⟨hcur, hpolicy, hcompletion, hconv, hver, hepoch, hrouting, hprev, hjoined⟩
    exact ⟨hcur, hpolicy, hcompletion, hconv, hver, hepoch, hrouting, hprev, hjoined⟩
  · rw [require_ok, ReplayHead.Completes]
    refine and_congr_right fun _ => ?_
    cases head.kind with
    | Application | Membership =>
      dsimp only
      rw [bind_ok]
      exact exists_congr fun _ => and_congr_right fun _ => require_eq_ok
    | Join => exact require_eq_ok

/-! ## What stays verified

The rows a head is verified against only grow, so a verified head stays verified. -/

theorem get?_observation_grows (h : store.Grows store') {key : ConversationId × ℕ}
    {row : ObservationRow} (hrow : store.cursor_observation.get? key = some row) :
    store'.cursor_observation.get? key = some row := by
  obtain ⟨hmem, hkey⟩ := get?_iff.1 hrow
  exact get?_iff.2 ⟨h.cursor_observation row hmem, hkey⟩

theorem load_membership_inbox_transition_grows (h : store.Grows store')
    (hload : load_membership_inbox_transition host store conversation_id cursor stored
      = .ok transition) : load_membership_inbox_transition host store' conversation_id cursor stored
    = .ok transition := by
  obtain ⟨row, saved, hrow, hsaved, rfl, hlen, hrouting, hid, hdec⟩ :=
    load_membership_inbox_transition_eq_ok.1 hload
  obtain ⟨row', hrow', hgrows⟩ := h.membership_inbox _ _ hrow
  rw [← hgrows.1] at hlen hrouting hid
  exact load_membership_inbox_transition_eq_ok.2 ⟨row', saved, hrow', hgrows.transition hsaved,
    rfl, hlen, hrouting, hid, hdec⟩

/-- A head that is not the one of a join stays verified while the ledger grows. -/
theorem verify_replay_position_grows (h : store.Grows store') (hkind : head.kind ≠ .Join)
    (hverify : verify_replay_position host store conversation_id routing_id state cursor head
      = .ok ()) :
    verify_replay_position host store' conversation_id routing_id state cursor head = .ok () := by
  obtain ⟨hfits, observed, hload, henv, hcomp⟩ := verify_replay_position_eq_ok.1 hverify
  refine verify_replay_position_eq_ok.2 ⟨hfits, observed, ?_, henv, ?_⟩
  · obtain ⟨⟨row, hrow, hstored⟩, hrouting⟩ := load_cursor_observation_eq_ok.1 hload
    exact load_cursor_observation_eq_ok.2 ⟨⟨row, get?_observation_grows h hrow, hstored⟩, hrouting⟩
  · rw [ReplayHead.Completes] at hcomp ⊢
    split at hcomp
    · obtain ⟨message, hmsg, hid⟩ := hcomp
      exact ⟨message, load_message_at_grows h hmsg, hid⟩
    · obtain ⟨transition, htr, hstate⟩ := hcomp
      exact ⟨transition, load_membership_inbox_transition_grows h htr, hstate⟩
    · rename_i hjoin
      exact absurd hjoin hkind

/-! ## Conversations

A sound conversation can be loaded. -/

/-- A conversation with a policy of its own, bindings for it and a head that fits; a head
that is not the one of a join is verified. -/
structure ConversationRow.Sound (host : Host σ) (store : ReplayStore σ) (row : ConversationRow) :
    Prop where
  state : row.state.conversation_id = row.conversation_id
  bindings : validate_bindings host.suite row.state row.self_binding row.bindings = .ok ()
  head : (row.replay_head = none ∧ row.replay_cursor = 0) ∨ ∃ head, row.replay_head = some head
    ∧ head.Fits row.conversation_id row.routing_id row.state row.replay_cursor
    ∧ (head.kind ≠ .Join → verify_replay_position host store row.conversation_id row.routing_id
      row.state row.replay_cursor head = .ok ())

theorem ConversationRow.Sound.grows (h : row.Sound host store) (hgrows : store.Grows store')
    (hsame : row.Configures row') : row'.Sound host store' := by
  obtain ⟨hid, hrouting, hself, hstate, hbnd, hcur, hhead⟩ := hsame
  refine ⟨?_, ?_, ?_⟩
  · rw [hstate, hid]
    exact h.state
  · rw [hstate, hself, hbnd]
    exact h.bindings
  · rw [hhead, hcur, hid, hrouting, hstate]
    rcases h.head with hnone | ⟨head, hsome, hfits, hver⟩
    · exact .inl hnone
    · exact .inr ⟨head, hsome, hfits, fun hkind =>
        verify_replay_position_grows hgrows hkind (hver hkind)⟩

theorem ConversationRow.Starts.sound (h : row.Starts host) : row.Sound host store := by
  refine ⟨h.state, h.bindings, ?_⟩
  rcases h.head with hnone | ⟨receipt, hrouting, hcur, hhead⟩
  · exact .inl hnone
  · exact .inr ⟨_, hhead, ⟨hcur.symm, rfl, h.state, h.state, rfl, Nat.le_refl _, hrouting,
      fun hkind => absurd rfl hkind, fun _ => rfl⟩, fun hkind => absurd rfl hkind⟩

/-- A conversation can be loaded once its head is the one of a completion. -/
theorem ConversationRow.Sound.loads (hrow : store.conversation.get? conversation_id = some row)
    (h : row.Sound host store) (hkind : ∀ head ∈ row.replay_head, head.kind ≠ .Join) :
    load_conversation host store conversation_id = .ok row := by
  obtain rfl := key_of_get? hrow
  refine load_conversation_eq_ok.2 ⟨hrow, h.state, h.bindings, ?_⟩
  rcases h.head with ⟨hnone, hzero⟩ | ⟨head, hsome, -, hver⟩
  · rw [verify_replay_head, hnone]
    exact require_eq_ok.2 hzero
  · have hverify := hver (hkind head hsome)
    have hprev := (verify_replay_position_eq_ok.1 hverify).1.previous (hkind head hsome)
    have hcur := (checked_add_iff.1 hprev).2
    rw [verify_replay_head, hsome]
    exact require_ok.2 ⟨by omega, hverify⟩

theorem ConversationRow.Sound.of_load
    (hload : load_conversation host store conversation_id = .ok row) : row.Sound host store := by
  obtain ⟨hrow, hstate, hbnd, hhead⟩ := load_conversation_eq_ok.1 hload
  obtain rfl := key_of_get? hrow
  refine ⟨hstate, hbnd, ?_⟩
  rw [verify_replay_head] at hhead
  split at hhead
  · rename_i hnone
    exact .inl ⟨hnone, require_eq_ok.1 hhead⟩
  · rename_i head hsome
    obtain ⟨-, hverify⟩ := require_ok.1 hhead
    exact .inr ⟨head, hsome, (verify_replay_position_eq_ok.1 hverify).1, fun _ => hverify⟩

/-! ## Completions

Each way to move a conversation leaves a head that fits. -/

/-- The envelope a message was read from is the observed one of its cursor. -/
theorem CompletesApplication.observed (h : CompletesApplication host store row message stored) :
    ⟨row.conversation_id, stored⟩ ∈ store.cursor_observation.rows
    ∧ stored.envelope.routing_id = row.routing_id
    ∧ stored.envelope.envelope_id = message.envelope_id := by
  obtain ⟨saved, hsaved, -, hid⟩ := h.saved
  obtain ⟨found, hfound, hrest⟩ := some_or_ok.1 h.envelope
  obtain ⟨conversation, hconv, hrest⟩ := some_or_ok.1 hrest
  obtain ⟨hrouting, hrest⟩ := require_ok.1 hrest
  obtain ⟨_, hverify, hpure⟩ := bind_ok.1 hrest
  cases hpure
  obtain ⟨hmem, hname⟩ := named?_eq_some_iff.1 hfound
  obtain ⟨hmem', hkey'⟩ := get?_iff.1 hsaved
  -- the row at the cursor is the one with the envelope
  obtain rfl : found = saved := store.inbox.eq_of_name hmem hmem' hname (by
    rw [InboxRow.names, hid]
    exact List.mem_cons_self)
  have hconversation_id : found.conversation_id = row.conversation_id := congrArg Prod.fst hkey'
  rw [hconversation_id] at hverify hconv
  cases hconv.symm.trans (get?_of_conversation h.loaded)
  exact ⟨(verify_cursor_observation_ok.1 hverify).2, hrouting, hid⟩

theorem CompletesApplication.sound (h : CompletesApplication host store row message stored)
    (hgrows : store.Grows store') : (row.complete_application stored row).Sound host store' := by
  obtain ⟨hobs, hrouting, hid⟩ := h.observed
  have hsound := ConversationRow.Sound.of_load h.loaded
  have hprev : checked_add row.replay_cursor 1 = some stored.cursor := by
    rw [h.stored_cursor]
    exact h.next
  refine ⟨hsound.state, hsound.bindings, .inr ⟨_, rfl, ?_, fun _ => ?_⟩⟩
  · exact ⟨rfl, rfl, hsound.state, hsound.state, rfl, Nat.le_refl _, hrouting, fun _ => hprev,
      nofun⟩
  · refine verify_replay_position_eq_ok.2 ⟨⟨rfl, rfl, hsound.state, hsound.state, rfl,
      Nat.le_refl _, hrouting, fun _ => hprev, nofun⟩, stored, ?_, rfl, message, ?_, hid.symm⟩
    · refine load_cursor_observation_eq_ok.2 ⟨⟨⟨row.conversation_id, stored⟩, ?_, rfl⟩, hrouting⟩
      exact get?_observation_grows hgrows (store.cursor_observation.get?_of_mem hobs)
    · refine load_message_at_grows hgrows ?_
      have hread := h.read
      rw [← h.stored_cursor] at hread
      exact hread

theorem CompletesMembership.sound (h : CompletesMembership host store row transition)
    (hgrows : store.Grows store')
    (hsaved : MembershipRead host store' row.conversation_id transition.stored.cursor transition
      (.Complete transition.transition)) :
    (row.complete_membership transition row).Sound host store' := by
  have hobs := (verify_cursor_observation_ok.1 h.observed).2
  have hrouting : transition.stored.envelope.routing_id = row.routing_id := by
    obtain ⟨found, hfound, hrouting⟩ := (membership_inbox_operation_saved h.operation).conversation
    cases hfound.symm.trans (get?_of_conversation h.loaded)
    exact hrouting
  have hstate : transition.transition.next_state.conversation_id = row.conversation_id :=
    hsaved.decodes.2.2.2.2.2.2.1
  refine ⟨hstate, h.bindings, .inr ⟨_, rfl, ?_, fun _ => ?_⟩⟩
  · exact ⟨rfl, rfl, hstate, hstate, rfl, Nat.le_refl _, hrouting, fun _ => h.next, nofun⟩
  · refine verify_replay_position_eq_ok.2 ⟨⟨rfl, rfl, hstate, hstate, rfl, Nat.le_refl _, hrouting,
      fun _ => h.next, nofun⟩, transition.stored, ?_, rfl, transition, hsaved.loads.2, rfl⟩
    refine load_cursor_observation_eq_ok.2
      ⟨⟨⟨row.conversation_id, transition.stored⟩, ?_, rfl⟩, hrouting⟩
    exact get?_observation_grows hgrows (store.cursor_observation.get?_of_mem hobs)

/-- The policy in a head moves on by one epoch; the completion it records stays. -/
theorem advance_replay_head_state_eq_ok {next_state : ConversationState} {head : Option ReplayHead}
    (h : advance_replay_head_state host store row next_state = .ok head) :
    (row.replay_cursor = 0 ∧ head = none) ∨ ∃ current, row.replay_head = some current
      ∧ head = some { current with policy_state := next_state }
      ∧ verify_replay_position host store next_state.conversation_id row.routing_id row.state
        row.replay_cursor current = .ok ()
      ∧ next_state.version = row.state.version
      ∧ next_state.conversation_id = row.state.conversation_id
      ∧ next_state.epoch = row.state.epoch + 1 := by
  rw [advance_replay_head_state] at h
  split at h
  · rename_i hzero
    cases h
    exact .inl ⟨hzero, rfl⟩
  · obtain ⟨current, hcur, h⟩ := some_or_ok.1 h
    obtain ⟨_, hverify, h⟩ := bind_ok.1 h
    obtain ⟨⟨-, hver, hid, hepoch⟩, h⟩ := require_ok.1 h
    cases h
    exact .inr ⟨current, hcur, rfl, hverify, hver, hid, (checked_add_iff.1 hepoch).2⟩

theorem published_sound {record : MembershipOutboxRow} {head : Option ReplayHead}
    (hstate : record.next_state.conversation_id = row.conversation_id)
    (hbnd : validate_bindings host.suite record.next_state row.self_binding
      (final_bindings record.next_state row.self_binding.device_id record.bindings) = .ok ())
    (hhead : advance_replay_head_state host store row record.next_state = .ok head)
    (hgrows : store.Grows store') : (row.publish record head row).Sound host store' := by
  refine ⟨hstate, hbnd, ?_⟩
  rcases advance_replay_head_state_eq_ok hhead with
    ⟨hzero, rfl⟩ | ⟨current, hcur, rfl, hverify, hver, -, hepoch⟩
  · exact .inl ⟨rfl, hzero⟩
  · right
    rw [hstate] at hverify
    obtain ⟨hfits, observed, hload, henv, hcomp⟩ := verify_replay_position_eq_ok.1 hverify
    have hver' : current.completion_state.version = record.next_state.version := by
      rw [hver, ← hfits.policy_state]
      exact hfits.version
    have hepoch' : current.completion_state.epoch ≤ record.next_state.epoch := by
      have hle := hfits.epoch
      rw [hfits.policy_state] at hle
      omega
    have hfits' : ReplayHead.Fits row.conversation_id row.routing_id record.next_state
        row.replay_cursor { current with policy_state := record.next_state } :=
      ⟨hfits.position, rfl, hfits.completion_conversation, hstate, hver', hepoch',
        hfits.routing, hfits.previous, hfits.joined⟩
    refine ⟨_, rfl, hfits', fun hkind => ?_⟩
    refine verify_replay_position_grows hgrows hkind ?_
    exact verify_replay_position_eq_ok.2 ⟨hfits', observed, hload, henv, hcomp⟩

/-! ## Runs

So every conversation of a reachable store can be loaded. -/

namespace ReplayStore

/-- Every conversation is sound, and the commits of the device's own are of theirs. -/
structure HeadsSound (host : Host σ) (store : ReplayStore σ) : Prop where
  conversation : ∀ conversation_id row,
    store.conversation.get? conversation_id = some row → row.Sound host store
  membership_outbox : ∀ row ∈ store.membership_outbox.rows,
    row.next_state.conversation_id = row.conversation_id

/-- A commit of the device's own is prepared now, or only its state was set. -/
theorem Change.outbox_origin (h : Change host store store')
    {row' : MembershipOutboxRow} (hrow' : row' ∈ store'.membership_outbox.rows) :
    row'.next_state.conversation_id = row'.conversation_id
    ∨ ∃ row ∈ store.membership_outbox.rows, row' = { row with state := row'.state } := by
  cases h with
  | sides hsame =>
    rw [hsame.membership_outbox] at hrow'
    exact .inr ⟨row', hrow', rfl⟩
  | prepared hnext hins =>
    dsimp only at hrow'
    rw [(insert?_eq_some hins).2] at hrow'
    rcases List.mem_append.1 hrow' with hold | hnew
    · exact .inr ⟨row', hold, rfl⟩
    · rw [List.mem_singleton.1 hnew]
      exact .inl hnext
  | marked hupd =>
    dsimp only at hrow'
    rw [update?_eq_some hupd] at hrow'
    obtain ⟨row, hrow, rfl⟩ := List.mem_map.1 hrow'
    refine .inr ⟨row, hrow, ?_⟩
    split <;> rfl
  | published _ _ _ _ hupd =>
    dsimp only [set_conversation] at hrow'
    rw [update?_eq_some hupd] at hrow'
    obtain ⟨row, hrow, rfl⟩ := List.mem_map.1 hrow'
    refine .inr ⟨row, hrow, ?_⟩
    split <;> rfl
  | inserted | configured | observed | received | membership_received | saved | membership_saved
  | completed | membership_completed => exact .inr ⟨row', hrow', rfl⟩

theorem HeadsSound.change (h : store.HeadsSound host)
    (hchange : Change host store store') : store'.HeadsSound host := by
  have hgrows := hchange.grows
  refine ⟨fun id row' hrow' => ?_, fun row' hrow' => ?_⟩
  · cases hchange.conversation_origin hrow' with
    | inserted _ hstarts => exact hstarts.sound
    | kept row hrow hsame => exact (h.conversation id row hrow).grows hgrows hsame
    | completed row message stored hcomp hrow' =>
      subst hrow'
      exact hcomp.sound hgrows
    | membership_completed row transition hid hcomp hsaved hrow' =>
      subst hrow' hid
      exact hcomp.sound hgrows hsaved
    | published row record head hrec hid hload hbnd hhead hrow' =>
      subst hrow'
      obtain rfl := conversation_id_of_load hload
      have hstate := (h.membership_outbox record (get?_iff.1 hrec).1).trans hid
      exact published_sound hstate hbnd hhead hgrows
  · rcases hchange.outbox_origin hrow' with hnext | ⟨row, hrow, hrow'⟩
    · exact hnext
    · rw [hrow']
      exact h.membership_outbox row hrow

/-- What is said of the heads does not speak of the journal. -/
theorem HeadsSound.journal (h : store.HeadsSound host) (journal : RemoteEventJournal) :
    HeadsSound host { store with journal } := by
  refine ⟨fun id row hrow => ?_, h.membership_outbox⟩
  exact (h.conversation id row hrow).grows (.of_eq rfl rfl rfl rfl) (.refl row)

theorem HeadsSound.after (host : Host σ) (others : σ) (calls : List StoreCall) :
    (after host others calls).HeadsSound host := by
  refine run_calls_keeps (fun _ _ h hchange => h.change hchange)
    (fun _ journal h => h.journal journal) calls ⟨?_, ?_⟩
  · exact fun _ _ hrow => by cases hrow
  · exact fun _ hrow => absurd hrow List.not_mem_nil

end ReplayStore

end Konclave.Daemon.Replay
