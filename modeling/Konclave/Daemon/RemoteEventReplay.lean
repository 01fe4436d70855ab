/-
The remote-event journal in a profile that replays its relay logs.

Completions insert the events and the adapters deliver them. An event names the inbox row
it was read from; the ledger keeps that row, so the event can be loaded with its payload
and its length never changes. With the chain and the limits of the journal this holds in
every state a profile comes to, and opening the profile verifies it.
-/
import Konclave.Daemon.ReplayGrowth
import Konclave.Daemon.ReplayCalls

set_option autoImplicit false

namespace Konclave.Daemon.Replay

open Domain Cryptographic RemoteEvents RemoteEventJournal ReplayStore Option

variable {σ : Type} {host : Host σ} {store store' : ReplayStore σ}

/-! ## Rows that stay readable

The inbox rows an event stands for are never deleted, and are read later as they were read. -/

theorem InboxRow.Grows.message {row row' : InboxRow} (h : row.Grows row') {message : InboxMessage}
    (hmsg : row.state.message = some message) : row'.state.message = some message := by
  rcases h.2 with hrecv | hsame | hcomplete
  · rw [hrecv] at hmsg
    cases hmsg
  · rw [hsame, hmsg]
  · rw [hcomplete, InboxState.complete_message, hmsg]

variable {row : MembershipInboxRow} {conversation_id : ConversationId} {cursor : ℕ}
  {event : RemoteEvents.RemoteEventRecord}

variable {payload : RemoteEventPayload} {row' : MembershipInboxRow} {kind : RemoteEventKind}

theorem MembershipInboxRow.Grows.transition (h : row.Grows row') {transition : MembershipTransition}
    (htr : row.state.transition = some transition) : row'.state.transition = some transition := by
  rcases h.2 with hrecv | hsame | hcomplete
  · rw [hrecv] at htr
    cases htr
  · rw [hsame, htr]
  · rw [hcomplete, MembershipInboxState.complete_transition, htr]

theorem MembershipInboxRow.Grows.complete (h : row.Grows row') {transition : MembershipTransition}
    (hcomplete : row.state = .Complete transition) : row'.state = .Complete transition := by
  rcases h.2 with hrecv | hsame | hdone
  · rw [hrecv] at hcomplete
    cases hcomplete
  · rw [hsame, hcomplete]
  · rw [hdone, hcomplete]
    rfl

theorem load_message_at_grows (h : store.Grows store') {message : StoredApplicationMessage}
    (hload : load_message_at host store conversation_id cursor = .ok message) :
    load_message_at host store' conversation_id cursor = .ok message := by
  obtain ⟨row, conversation, saved, hrow, hconv, hsaved, rfl, hlen, hrouting⟩ :=
    load_message_at_eq_ok.1 hload
  obtain ⟨row', hrow', hgrows⟩ := h.inbox _ _ hrow
  obtain ⟨conv', hconv', hsame⟩ := h.conversation _ _ hconv
  refine load_message_at_eq_ok.2 ⟨row', conv', saved, hrow', hconv',
    hgrows.message hsaved, ?_, hlen, ?_⟩
  · rw [hgrows.1]
  · rw [hgrows.1, hrouting, hsame.1]

/-- The row is read as before wherever it kept its transition. -/
theorem MembershipRead.of_row (h : store.Grows store') {transition : StoredMembershipTransition}
    {state state' : MembershipInboxState}
    (hread : MembershipRead host store conversation_id cursor transition state)
    (hrow : store'.membership_inbox.get? (conversation_id, cursor)
      = some ⟨conversation_id, transition.stored, state'⟩)
    (hsaved : state'.transition = some transition.transition) :
    MembershipRead host store' conversation_id cursor transition state' := by
  obtain ⟨conversation, hconv, hrouting⟩ := hread.conversation
  obtain ⟨conv', hconv', hsame⟩ := h.conversation _ _ hconv
  exact ⟨hrow, hsaved, ⟨conv', hconv', hrouting.trans hsame.1.symm⟩,
    hread.delivery_class, hread.length, hread.decodes⟩

theorem MembershipRead.grows (h : store.Grows store') {transition : StoredMembershipTransition}
    (hread : MembershipRead host store conversation_id cursor transition
      (.Complete transition.transition)) :
    MembershipRead host store' conversation_id cursor transition
      (.Complete transition.transition) := by
  obtain ⟨row', hrow', hgrows⟩ := h.membership_inbox _ _ hread.row
  have hkey : row'.conversation_id = conversation_id := congrArg Prod.fst (Table.get?_iff.1 hrow').2
  have hstored : row'.stored = transition.stored := hgrows.1
  refine hread.of_row h ?_ rfl
  rw [hrow', ← hgrows.complete rfl, ← hkey, ← hstored]

/-! ## Events

So an event keeps its payload and its length. -/

/-- What an event stands for does not change. -/
theorem load_remote_event_payload_grows (h : store.Grows store')
    (hpay : load_remote_event_payload host store event = .ok payload) :
    load_remote_event_payload host store' event = .ok payload := by
  rw [load_remote_event_payload] at hpay ⊢
  split at hpay
  · rename_i hkind
    rw [if_pos hkind]
    obtain ⟨message, hmsg, hrest⟩ := bind_ok.1 hpay
    exact bind_ok.2 ⟨message, load_message_at_grows h hmsg, hrest⟩
  · rename_i hkind
    rw [if_neg hkind]
    obtain ⟨operation, hop, hrest⟩ := bind_ok.1 hpay
    refine bind_ok.2 ⟨operation, ?_, hrest⟩
    cases operation with
    | Complete transition =>
      exact membership_inbox_operation_complete.2
        ((membership_inbox_operation_complete.1 hop).grows h)
    | Received => cases hrest
    | TransitionSaved => cases hrest

/-- Nor does the length of what it delivers. -/
theorem remote_event_delivery_length_grows (h : store.Grows store') {length : ℕ}
    (hlen : remote_event_delivery_length host store conversation_id cursor kind = some length) :
    remote_event_delivery_length host store' conversation_id cursor kind = some length := by
  rw [remote_event_delivery_length] at hlen ⊢
  split at hlen
  · rename_i hkind
    rw [if_pos hkind]
    simp only [bind_eq_bind, bind_eq_some_iff] at hlen ⊢
    obtain ⟨row, hrow, message, hmsg, hsome⟩ := hlen
    obtain ⟨row', hrow', hgrows⟩ := h.inbox _ _ hrow
    exact ⟨row', hrow', message, hgrows.message hmsg, by rw [hgrows.1]; exact hsome⟩
  · rename_i hkind
    rw [if_neg hkind]
    simp only [bind_eq_bind, bind_eq_some_iff] at hlen ⊢
    obtain ⟨row, hrow, transition, htr, hsome⟩ := hlen
    obtain ⟨row', hrow', hgrows⟩ := h.membership_inbox _ _ hrow
    exact ⟨row', hrow', transition, hgrows.transition htr, by rw [hgrows.1]; exact hsome⟩

theorem remote_event_delivery_length_of_message {row : InboxRow} {message : InboxMessage}
    (hrow : store.inbox.get? (conversation_id, cursor) = some row)
    (hmsg : row.state.message = some message) :
    remote_event_delivery_length host store conversation_id cursor .ApplicationMessage
    = some (host.message_length ⟨cursor, row.stored.envelope.envelope_id, message.sender,
      message.epoch, message.message⟩) := by
  rw [remote_event_delivery_length, if_pos rfl, hrow, bind_eq_bind, bind_some, hmsg]
  rfl

theorem remote_event_delivery_length_of_transition {transition : MembershipTransition}
    (hkind : kind ≠ .ApplicationMessage)
    (hrow : store.membership_inbox.get? (conversation_id, cursor) = some row)
    (htr : row.state.transition = some transition) :
    remote_event_delivery_length host store conversation_id cursor kind
    = some (host.transition_length ⟨row.stored, transition⟩) := by
  rw [remote_event_delivery_length, if_neg hkind, hrow, bind_eq_bind, bind_some, htr]
  rfl

/-- An event that can be loaded has a length. -/
theorem delivery_length_of_payload
    (hpay : load_remote_event_payload host store event = .ok payload) :
    ∃ length, remote_event_delivery_length host store event.conversation_id event.relay_cursor
    event.kind = some length := by
  rw [load_remote_event_payload] at hpay
  split at hpay
  · rename_i hkind
    obtain ⟨message, hmsg, -⟩ := bind_ok.1 hpay
    obtain ⟨row, -, saved, hrow, -, hsaved, -⟩ := load_message_at_eq_ok.1 hmsg
    rw [hkind]
    exact ⟨_, remote_event_delivery_length_of_message hrow hsaved⟩
  · rename_i hkind
    obtain ⟨operation, hop, hrest⟩ := bind_ok.1 hpay
    cases operation with
    | Complete transition =>
      exact ⟨_, remote_event_delivery_length_of_transition hkind
        (membership_inbox_operation_complete.1 hop).row rfl⟩
    | Received => cases hrest
    | TransitionSaved => cases hrest

/-- An adapter may be told of this. -/
def RemoteEventPayload.Shown : RemoteEventPayload → Prop
  | .ApplicationMessage message => for_daemon message.content = false
  | _ => True

/-- A stored row with what it needs to be loaded among the tables. -/
structure EventBacked (host : Host σ) (store : ReplayStore σ) (row : RemoteEvents.RemoteEventRow) :
    Prop where
  readable : row.Readable (store.around host)
  payload : ∃ payload, load_remote_event_payload host store row.event = .ok payload
    ∧ payload.Shown

theorem Readable.grows (h : store.Grows store') {row : RemoteEvents.RemoteEventRow}
    (hrow : row.Readable (store.around host)) : row.Readable (store'.around host) := by
  obtain ⟨⟨conversation, hconv, hrouting⟩, hcur, henc⟩ := hrow
  obtain ⟨found, hfound, rfl⟩ := map_eq_some_iff.1 hconv
  obtain ⟨found', hfound', hsame⟩ := h.conversation _ _ hfound
  refine ⟨⟨⟨found'.conversation_id, found'.routing_id, found'.adapter_delivery_policy⟩, ?_, ?_⟩,
    hcur, henc⟩
  · rw [around]
    dsimp only
    rw [hfound']
    rfl
  · rw [hrouting, ← hsame.1]

theorem EventBacked.grows (h : store.Grows store') {row : RemoteEvents.RemoteEventRow}
    (hrow : EventBacked host store row) : EventBacked host store' row := by
  obtain ⟨payload, hpay, hshown⟩ := hrow.payload
  exact ⟨Readable.grows h hrow.readable, payload, load_remote_event_payload_grows h hpay, hshown⟩

/-- The journal of a profile. -/
structure ReplayStore.JournalSound (host : Host σ) (store : ReplayStore σ) : Prop where
  chained : store.journal.Chained
  within : store.journal.Within (store.around host)
  backed : ∀ row ∈ store.journal.events.rows, EventBacked host store row

namespace ReplayStore.JournalSound

/-- The journal as it comes to be among tables that grow: its rows are backed afterwards,
and had their length before. -/
theorem of_rows {journal : RemoteEventJournal} (hgrows : store.Grows store')
    (hjournal : store'.journal = journal) (hchained : journal.Chained)
    (hwithin : journal.Within (store.around host))
    (hrows : ∀ row ∈ journal.events.rows, EventBacked host store' row
      ∧ ∃ length, remote_event_delivery_length host store row.event.conversation_id
        row.event.relay_cursor row.event.kind = some length) : store'.JournalSound host := by
  refine ⟨hjournal ▸ hchained, ?_, fun row hrow => (hrows row (hjournal ▸ hrow)).1⟩
  rw [hjournal]
  refine hwithin.of_lengths fun row hrow => ?_
  obtain ⟨length, hlen⟩ := (hrows row hrow).2
  show (remote_event_delivery_length host store' _ _ _).getD 0
    = (remote_event_delivery_length host store _ _ _).getD 0
  rw [remote_event_delivery_length_grows hgrows hlen, hlen]

theorem grows (h : store.JournalSound host) (hgrows : store.Grows store')
    (hjournal : store'.journal = store.journal) : store'.JournalSound host := by
  refine of_rows hgrows hjournal h.chained h.within fun row hrow => ?_
  obtain ⟨_, hpay, -⟩ := (h.backed row hrow).payload
  exact ⟨(h.backed row hrow).grows hgrows, delivery_length_of_payload hpay⟩

/-- An insertion, when the new event is backed afterwards. -/
theorem inserted (h : store.JournalSound host) (hgrows : store.Grows store')
    {source : RemoteEventSource}
    (hins : insert_remote_event (store.around host) store.journal source = .ok store'.journal)
    (hrouting : ∃ conversation, (store.around host).conversation source.conversation_id
      = some conversation ∧ source.routing_id = conversation.routing_id)
    (hlen : ∃ length, remote_event_delivery_length host store source.conversation_id
      source.relay_cursor source.kind = some length)
    (hpay : ∀ sequence previous, ∃ payload, load_remote_event_payload host store'
      (source.row sequence previous .Pending).event = .ok payload ∧ payload.Shown) :
    store'.JournalSound host := by
  refine of_rows hgrows rfl (h.chained.inserted hins) (h.within.inserted hins) fun row hrow => ?_
  rcases mem_of_insert hins hrow with hold | ⟨hcur, status, hstatus, rfl⟩
  · obtain ⟨_, hpay, -⟩ := (h.backed row hold).payload
    exact ⟨(h.backed row hold).grows hgrows, delivery_length_of_payload hpay⟩
  · refine ⟨⟨Readable.grows hgrows ⟨hrouting, hcur, ?_⟩, hpay _ _⟩, hlen⟩
    rcases hstatus with rfl | rfl <;> rfl

end ReplayStore.JournalSound

/-! ## Completions

The event of a completion is one whose payload loads. -/

theorem membership_event_kind_ne (self_device_id : DeviceId) (change : MembershipChange) :
    membership_event_kind self_device_id change ≠ .ApplicationMessage := by
  cases change with
  | Add => exact nofun
  | ChangeRole => exact nofun
  | Remove change =>
    rw [membership_event_kind]
    split <;> exact nofun

/-- The kind of a membership event is the one of its change. -/
theorem membership_payload_eq_ok (self_device_id : DeviceId) (change : MembershipChange) :
    ∃ payload, membership_payload (membership_event_kind self_device_id change) change
    = .ok payload ∧ payload.Shown := by
  cases change with
  | Add | ChangeRole => exact ⟨_, rfl, trivial⟩
  | Remove change =>
    rw [membership_event_kind]
    split <;> exact ⟨_, rfl, trivial⟩

/-- The event of a completed commit is loaded from its transition. -/
theorem payload_of_transition {transition : StoredMembershipTransition} (self_device_id : DeviceId)
    (hkind : event.kind = membership_event_kind self_device_id
      transition.transition.control.authorization.change)
    (hread : MembershipRead host store event.conversation_id event.relay_cursor transition
      (.Complete transition.transition)) (hsender : transition.transition.sender = event.sender)
    (hid : transition.transition.operation_id = event.source_identifier) :
    ∃ payload, load_remote_event_payload host store event = .ok payload ∧ payload.Shown := by
  obtain ⟨payload, hpay, hshown⟩ := membership_payload_eq_ok self_device_id
    transition.transition.control.authorization.change
  refine ⟨payload, ?_, hshown⟩
  rw [load_remote_event_payload, if_neg (hkind ▸ membership_event_kind_ne _ _)]
  refine bind_ok.2 ⟨_, membership_inbox_operation_complete.2 hread, ?_⟩
  rw [← hkind] at hpay
  exact (require_bind ⟨hsender, hid⟩).trans hpay

/-- A conversation's event is under its routing. -/
theorem around_of_load {conversation : ConversationRow}
    (h : load_conversation host store conversation.conversation_id = .ok conversation) :
    (store.around host).conversation conversation.conversation_id
    = some ⟨conversation.conversation_id, conversation.routing_id,
      conversation.adapter_delivery_policy⟩ := by
  show (store.conversation.get? _).map _ = _
  rw [get?_of_conversation h]
  rfl

namespace ReplayStore.JournalSound

theorem change (h : store.JournalSound host) (hchange : ReplayStore.Change host store store') :
    store'.JournalSound host := by
  have hgrows := hchange.grows
  cases hchange with
  | completed hcomp _ hjournal =>
    rcases hjournal with rfl | ⟨hshown, notification_id, hins⟩
    · exact h.grows hgrows rfl
    · refine h.inserted hgrows hins ⟨_, around_of_load hcomp.loaded, rfl⟩ ?_ ?_
      · obtain ⟨row, -, saved, hrow, -, hsaved, -⟩ := load_message_at_eq_ok.1 hcomp.read
        exact ⟨_, remote_event_delivery_length_of_message hrow hsaved⟩
      · intro sequence previous
        refine ⟨.ApplicationMessage _, ?_, hshown⟩
        rw [load_remote_event_payload]
        refine (if_pos rfl).trans ?_
        exact bind_ok.2 ⟨_, load_message_at_grows hgrows hcomp.read,
          require_bind ⟨rfl, rfl, (Bool.or_eq_false_iff.1 hshown).1⟩⟩
  | @membership_completed conversation transition journal notification_id hcomp hins =>
    have hsaved := membership_inbox_operation_saved hcomp.operation
    obtain ⟨found, hfound, hrouting⟩ := hsaved.conversation
    obtain rfl : found = conversation := by
      rw [get?_of_conversation hcomp.loaded] at hfound
      exact (some.inj hfound).symm
    refine h.inserted hgrows hins ⟨_, around_of_load hcomp.loaded, hrouting⟩ ?_ ?_
    · exact ⟨_, remote_event_delivery_length_of_transition (membership_event_kind_ne _ _)
        hsaved.row rfl⟩
    · intro sequence previous
      have hcomplete := hsaved.of_row hgrows (get?_complete_membership_inbox_row hsaved.row) rfl
      exact payload_of_transition found.self_binding.device_id rfl hcomplete rfl rfl
  | sides h' => exact h.grows hgrows h'.journal
  | inserted | configured | observed | received | membership_received | saved
  | membership_saved | prepared | marked | published => exact h.grows hgrows rfl

end ReplayStore.JournalSound

/-! ## Runs

Every event of every reachable store can be delivered, and the chain of events is verified. -/

namespace ReplayStore.JournalSound

theorem changes (h : store.JournalSound host) (hchanges : store.Changes host store') :
    store'.JournalSound host := by
  induction hchanges with
  | refl => exact h
  | tail _ hchange ih => exact ih.change hchange

/-- A delivery call leaves the tables around the journal as they are. -/
theorem delivered (h : store.JournalSound host) {call : DeliveryCall}
    (hcall : ∀ source, call ≠ .insert source) : ReplayStore.JournalSound host
    { store with journal := (call.run (store.around host) store.journal).2 } := by
  refine ⟨h.chained.delivered _ hcall, h.within.delivered hcall, fun row' hrow' => ?_⟩
  obtain ⟨moved, terminal, hmoves, hpruned⟩ :=
    call.run_cases (store.around host) store.journal hcall
  obtain ⟨row, hrow, hev, hdel⟩ := hmoves.backward (hpruned.mem.1 hrow').1
  obtain ⟨⟨hconv, hcur, henc⟩, hpay⟩ := h.backed row hrow
  rw [← hev] at hconv hcur hpay
  exact ⟨⟨hconv, hcur, hdel.encodable henc⟩, hpay⟩

theorem run (h : store.JournalSound host) (call : StoreCall) :
    (call.run host store).2.JournalSound host := by
  by_cases hcall : ∃ delivery hdel, call = .delivery delivery hdel
  · obtain ⟨delivery, hdel, rfl⟩ := hcall
    exact h.delivered hdel
  · exact h.changes (call.run_changes host store fun delivery hdel hequal =>
      hcall ⟨delivery, hdel, hequal⟩)

theorem after (host : Host σ) (others : σ) (calls : List StoreCall) :
    (after host others calls).JournalSound host := by
  refine List.foldlRecOn calls _ ⟨?_, ?_, fun _ hrow => absurd hrow List.not_mem_nil⟩
    fun store h call _ => h.run call
  · exact chained_empty
  · exact within_empty

end ReplayStore.JournalSound

/-- The rows a call acknowledges. -/
def StoreCall.Acknowledges (journal : RemoteEventJournal) (call : StoreCall)
    (row : RemoteEvents.RemoteEventRow) : Prop :=
  ∃ delivery hdelivery, call = .delivery delivery hdelivery
    ∧ RemoteEvents.Acknowledges journal delivery row

theorem ReplayStore.Changes.follows (h : store.Changes host store') :
    store.journal.Follows store'.journal := by
  induction h with
  | refl => exact .refl _
  | tail _ hchange ih =>
    refine ih.trans ?_
    cases hchange with
    | completed _ _ hjournal =>
      rcases hjournal with rfl | ⟨-, _, hins⟩
      · exact .refl _
      · exact follows_of_insert hins
    | membership_completed _ hins => exact follows_of_insert hins
    | sides h =>
      rw [h.journal]
      exact .refl _
    | inserted | configured | observed | received | membership_received | saved
    | membership_saved | prepared | marked | published => exact .refl _

theorem StoreCall.prunesFront (h : store.JournalSound host) (call : StoreCall) :
    store.journal.PrunesFront (call.Acknowledges store.journal)
      (call.run host store).2.journal := by
  by_cases hcall : ∃ delivery hdel, call = .delivery delivery hdel
  · obtain ⟨delivery, hdel, rfl⟩ := hcall
    obtain ⟨hfloor, hgone, hended⟩ := prunesFront_of_delivery h.chained hdel
    refine ⟨hfloor, hgone, fun row hrow hlost => ?_⟩
    rcases hended row hrow hlost with hterm | hacknowledged
    · exact .inl hterm
    · exact .inr ⟨delivery, hdel, rfl, hacknowledged⟩
  · have hchanges := call.run_changes host store fun delivery hdel hequal =>
      hcall ⟨delivery, hdel, hequal⟩
    obtain ⟨hfloor, hgone, hended⟩ := hchanges.follows.prunesFront (h.run call).chained
    exact ⟨hfloor, hgone, fun row hrow hlost => .inl ((hended row hrow hlost).resolve_right id)⟩

/-- The number of the last event, zero before the first. -/
def head_sequence (journal : RemoteEventJournal) : ℕ := (journal.head.map (·.sequence)).getD 0

/-- The journal of a profile: its numbers, its links, its limits, and that it verifies. -/
structure ReplayStore.EventChain (host : Host σ) (store : ReplayStore σ) : Prop where
  sequences : store.journal.records.map (·.sequence)
    = List.range' (store.journal.floor_sequence + 1)
      (head_sequence store.journal - store.journal.floor_sequence)
  next_sequence : store.journal.next_sequence = head_sequence store.journal + 1
  previous : ∀ event ∈ store.journal.records,
    (event.sequence = store.journal.floor_sequence + 1
      ∧ event.previous_notification_id = store.journal.floor_notification)
    ∨ ∃ before ∈ store.journal.records, before.sequence + 1 = event.sequence
      ∧ event.previous_notification_id = some before.notification_id
  within : store.journal.Within (store.around host)
  verified : verify_remote_event_journal (store.around host) store.journal = .ok ()

theorem ReplayStore.JournalSound.eventChain (h : store.JournalSound host) :
    store.EventChain host := by
  have hchained := h.chained
  have hhead : head_sequence store.journal
      = store.journal.floor_sequence + store.journal.events.rows.length := by
    rw [head_sequence, hchained.head]
    cases hlast : store.journal.last_notification with
    | some id => rfl
    | none =>
      -- nothing was ever appended
      have hfirst := hchained.last_notification_eq_none_iff.1 hlast
      have hnext := hchained.next_sequence
      show 0 = _
      omega
  refine ⟨?_, ?_, fun event hev => back_of_linked hchained.linked hev, h.within,
    hchained.verify fun row hrow => ⟨(h.backed row hrow).readable,
      (h.backed row hrow).payload.imp fun _ h => h.1⟩⟩
  · rw [linked_numbers hchained.linked, length_records, hhead, Nat.add_sub_cancel_left]
  · rw [hhead]
    exact hchained.next_sequence

/-- After any calls on a new profile, restarts among them, the journal is a chain from its
floor to its head within its limits, and it verifies; and every call prunes at most a front
of it that is acknowledged or suppressed. -/
theorem remote_event_journal_chain (host : Host σ) (others : σ) (calls : List StoreCall) :
    (after host others calls).EventChain host
    ∧ ∀ call : StoreCall, (after host others calls).journal.PrunesFront
      (call.Acknowledges (after host others calls).journal)
      (call.run host (after host others calls)).2.journal := by
  have hsound := ReplayStore.JournalSound.after host others calls
  exact ⟨hsound.eventChain, fun call => call.prunesFront hsound⟩

end Konclave.Daemon.Replay
