/-
What replay does to the stored messages.

The history is written by statements that leave the replay ledger alone. One lemma for each
says both things: the ledger, with its markers, is as it was, and every stored message keeps
its envelope, sender and content; a cursor, once assigned, stays. Only adding a message of
the device's own is not a part of replay.
-/
import Konclave.Daemon.Replay

set_option autoImplicit false

namespace Konclave.Daemon.Replay

open Domain Cryptographic RemoteEvents UniqueTable Table

variable {σ : Type} {host : Host σ} {store store' store'' : ReplayStore σ}

/-! ## What is left alone

Most statements write the side tables: history, outbox and markers. They keep the ledger, and
of the history what a repeat reads. -/

/-- The message of a marker is stored in its conversation, and internal. -/
def ReplayStore.Marked (store : ReplayStore σ) (marker : ConversationId × MessageId) : Prop :=
  (store.conversation.get? marker.1).isSome = true
    ∧ ∃ row, store.message_history.get? marker = some row ∧ row.message.content.is_internal = true

/-- Only the history with its internal markers and the outbox differ, and a marker that is
new, or was right, is right. -/
structure ReplayStore.SameLedger (store store' : ReplayStore σ) : Prop where
  conversation : store'.conversation = store.conversation
  cursor_observation : store'.cursor_observation = store.cursor_observation
  inbox : store'.inbox = store.inbox
  membership_inbox : store'.membership_inbox = store.membership_inbox
  sender_counter : store'.sender_counter = store.sender_counter
  membership_outbox : store'.membership_outbox = store.membership_outbox
  journal : store'.journal = store.journal
  others : store'.others = store.others
  marked : ∀ marker ∈ store'.internal_application_message,
    (marker ∈ store.internal_application_message → store.Marked marker) → store'.Marked marker

theorem ReplayStore.SameLedger.refl (store : ReplayStore σ) : store.SameLedger store :=
  ⟨rfl, rfl, rfl, rfl, rfl, rfl, rfl, rfl, fun _ hmarker hmarked => hmarked hmarker⟩

theorem ReplayStore.SameLedger.trans (h : store.SameLedger store')
    (h' : store'.SameLedger store'') : store.SameLedger store'' :=
  ⟨h'.conversation.trans h.conversation, h'.cursor_observation.trans h.cursor_observation,
    h'.inbox.trans h.inbox, h'.membership_inbox.trans h.membership_inbox,
    h'.sender_counter.trans h.sender_counter, h'.membership_outbox.trans h.membership_outbox,
    h'.journal.trans h.journal, h'.others.trans h.others,
    fun marker hmarker hmarked => h'.marked marker hmarker fun hmarker' =>
      h.marked marker hmarker' hmarked⟩

/-- The message keeps all but its progress, and what progress it made. -/
structure HistoryRow.Grows (row row' : HistoryRow) : Prop where
  conversation_id : row'.conversation_id = row.conversation_id
  envelope_id : row'.envelope_id = row.envelope_id
  direction : row'.direction = row.direction
  sender : row'.sender = row.sender
  epoch : row'.epoch = row.epoch
  message : row'.message = row.message
  cursor : ∀ cursor ∈ row.cursor, row'.cursor = some cursor
  complete : row.complete = true → row'.complete = true
  reply : ∀ reply, row.request_service_reply = some (.Complete reply) →
    row'.request_service_reply = some (.Complete reply)

theorem HistoryRow.Grows.refl (row : HistoryRow) : row.Grows row :=
  ⟨rfl, rfl, rfl, rfl, rfl, rfl, fun _ hcur => hcur, id, fun _ hreply => hreply⟩

theorem HistoryRow.Grows.trans {x y z : HistoryRow} (h : x.Grows y) (h' : y.Grows z) : x.Grows z :=
  ⟨h'.conversation_id.trans h.conversation_id, h'.envelope_id.trans h.envelope_id,
    h'.direction.trans h.direction, h'.sender.trans h.sender, h'.epoch.trans h.epoch,
    h'.message.trans h.message, fun cursor hcur => h'.cursor cursor (h.cursor cursor hcur),
    fun hcomplete => h'.complete (h.complete hcomplete),
    fun reply hreply => h'.reply reply (h.reply reply hreply)⟩

structure ReplayStore.KeepsMessages (store store' : ReplayStore σ) : Prop where
  history : ∀ conversation_id message_id row,
    load_history_record store conversation_id message_id = .ok (some row) →
      ∃ row', load_history_record store' conversation_id message_id = .ok (some row')
        ∧ row.Grows row'
  outbound : ∀ row' ∈ store'.message_history.rows, row'.direction = .Outbound →
    ∃ row ∈ store.message_history.rows, row.Grows row'
  outbox : ∀ envelope_id row envelope cursor, store.outbox.get? envelope_id = some row →
    row.state = .Accepted envelope cursor → store'.outbox.get? envelope_id = some row

variable {envelope_id : EnvelopeId} {row : HistoryRow} {sender : DeviceId}
  {message : ApplicationMessage} {conversation_id : ConversationId} {message_id : MessageId}
  {cursor : ℕ}
  {message_history : UniqueTable (ConversationId × MessageId) HistoryName HistoryRow
    (fun row => (row.conversation_id, row.message.message_id)) HistoryRow.names}

theorem load_history_record_eq {row : HistoryRow} :
    load_history_record store conversation_id message_id = .ok (some row)
    ↔ store.message_history.get? (conversation_id, message_id) = some row
      ∧ decide ((conversation_id, message_id) ∈ store.internal_application_message)
        = row.message.content.is_internal := by
  rw [load_history_record]
  cases hget : store.message_history.get? (conversation_id, message_id) with
  | none => exact ⟨nofun, fun h => nomatch h.1⟩
  | some found =>
    rw [require_ok]
    constructor
    · rintro ⟨hmarked, h⟩
      cases h
      exact ⟨rfl, hmarked⟩
    · rintro ⟨hfound, hmarked⟩
      cases hfound
      exact ⟨hmarked, rfl⟩

namespace ReplayStore.KeepsMessages

theorem of_eq (hhist : store'.message_history = store.message_history)
    (hmarkers : store'.internal_application_message = store.internal_application_message)
    (houtbox : store'.outbox = store.outbox) : store.KeepsMessages store' := by
  refine ⟨fun id message_id row hrow => ⟨row, ?_, .refl row⟩,
    fun row hrow _ => ⟨row, ?_, .refl row⟩,
    fun envelope_id row _ _ hrow _ => ?_⟩
  · rw [load_history_record_eq, hhist, hmarkers]
    exact load_history_record_eq.1 hrow
  · rw [← hhist]
    exact hrow
  · rw [houtbox]
    exact hrow

theorem refl (store : ReplayStore σ) : store.KeepsMessages store := of_eq rfl rfl rfl

theorem trans (h : store.KeepsMessages store') (h' : store'.KeepsMessages store'') :
    store.KeepsMessages store'' := by
  refine ⟨fun id message_id row hrow => ?_, fun row'' hrow'' hdir => ?_,
    fun envelope_id row envelope cursor hrow hacc =>
      h'.outbox _ _ _ _ (h.outbox _ _ _ _ hrow hacc) hacc⟩
  · obtain ⟨row', hrow', hgrows⟩ := h.history id message_id row hrow
    obtain ⟨row'', hrow'', hgrows'⟩ := h'.history id message_id row' hrow'
    exact ⟨row'', hrow'', hgrows.trans hgrows'⟩
  · obtain ⟨row', hrow', hgrows'⟩ := h'.outbound row'' hrow'' hdir
    obtain ⟨row, hrow, hgrows⟩ := h.outbound row' hrow' (hgrows'.direction.symm.trans hdir)
    exact ⟨row, hrow, hgrows.trans hgrows'⟩

end ReplayStore.KeepsMessages

/-- The ledger is as it was, and the messages are kept. -/
structure ReplayStore.Sides (store store' : ReplayStore σ) : Prop where
  ledger : store.SameLedger store'
  messages : store.KeepsMessages store'

theorem ReplayStore.Sides.refl (store : ReplayStore σ) : store.Sides store :=
  ⟨.refl store, .refl store⟩

theorem ReplayStore.Sides.trans (h : store.Sides store') (h' : store'.Sides store'') :
    store.Sides store'' :=
  ⟨h.ledger.trans h'.ledger, h.messages.trans h'.messages⟩

variable {set : HistoryRow → HistoryRow} {state : ConversationState} {original : HistoryRow}
  {reply : MessageId} {α : Type}

/-- A message is set to one it may become. -/
theorem ReplayStore.Sides.updated {key : ConversationId × MessageId}
    {hkey : ∀ row : HistoryRow, ((set row).conversation_id, (set row).message.message_id)
      = (row.conversation_id, row.message.message_id)}
    (hhist : message_history.toTable = store.message_history.toTable.update key set hkey)
    (hset : ∀ row, store.message_history.get? key = some row → row.Grows (set row)) :
    store.Sides { store with message_history } := by
  have hset' : ∀ row ∈ store.message_history.rows, row.Grows
      (if (row.conversation_id, row.message.message_id) = key then set row else row) := by
    intro row hrow
    split
    · rename_i hkey
      exact hset row (get?_iff.2 ⟨hrow, hkey⟩)
    · exact .refl row
  -- what was found is found again, as what it became
  have hfound : ∀ key row, store.message_history.get? key = some row →
      ∃ row', message_history.get? key = some row' ∧ row.Grows row' := by
    intro key row hget
    obtain ⟨hmem, hkey⟩ := get?_iff.1 hget
    have hgrows := hset' row hmem
    refine ⟨_, ?_, hgrows⟩
    rw [hhist]
    refine get?_iff.2 ⟨List.mem_map_of_mem hmem, ?_⟩
    rw [hgrows.conversation_id, hgrows.message]
    exact hkey
  refine ⟨⟨rfl, rfl, rfl, rfl, rfl, rfl, rfl, rfl, fun marker hmarker hmarked => ?_⟩,
    fun id message_id row hrow => ?_, fun row' hrow' _ => ?_, fun _ _ _ _ hrow _ => hrow⟩
  · obtain ⟨hknown, row, hrow, hint⟩ := hmarked hmarker
    obtain ⟨row', hrow', hgrows⟩ := hfound marker row hrow
    exact ⟨hknown, row', hrow', hgrows.message.symm ▸ hint⟩
  · obtain ⟨hget, hmarked⟩ := load_history_record_eq.1 hrow
    obtain ⟨row', hrow', hgrows⟩ := hfound _ row hget
    refine ⟨row', load_history_record_eq.2 ⟨hrow', ?_⟩, hgrows⟩
    rw [hgrows.message]
    exact hmarked
  · dsimp only at hrow'
    rw [hhist] at hrow'
    obtain ⟨row, hrow, rfl⟩ := List.mem_map.1 hrow'
    exact ⟨row, hrow, hset' row hrow⟩

/-- One message is set. -/
theorem ReplayStore.Sides.updated?
    {hset : ∀ row : HistoryRow, ((set row).conversation_id, (set row).message.message_id)
      = (row.conversation_id, row.message.message_id)}
    (hupd : store.message_history.update? (conversation_id, message_id) set hset
      = some message_history)
    (hrow : store.message_history.get? (conversation_id, message_id) = some row)
    (hgrows : row.Grows (set row)) : store.Sides { store with message_history } := by
  refine .updated (update?_eq_some hupd) fun found hfound => ?_
  cases hrow.symm.trans hfound
  exact hgrows

/-! ## The outbox

The state of a row changes, its reservation does not. -/

theorem ReplayStore.sameLedger_outbox (store : ReplayStore σ)
    (outbox : UniqueTable EnvelopeId OutboxName OutboxRow (·.envelope_id) OutboxRow.names) :
    store.SameLedger { store with outbox } :=
  ⟨rfl, rfl, rfl, rfl, rfl, rfl, rfl, rfl, fun _ hmarker hmarked => hmarked hmarker⟩

theorem ReplayStore.get?_set_outbox_state (store : ReplayStore σ) (envelope_id : EnvelopeId)
    (state : OutboxState) (other : EnvelopeId) :
    (store.set_outbox_state envelope_id state).outbox.get? other
    = if other = envelope_id then (store.outbox.get? other).map fun row => { row with state }
      else store.outbox.get? other :=
  get?_update store.outbox.toTable envelope_id (fun row => { row with state }) (fun _ => rfl) other

/-- The state of an envelope that is not accepted is set. -/
theorem ReplayStore.Sides.set_outbox_state (store : ReplayStore σ)
    (hopen : ∀ row, store.outbox.get? envelope_id = some row →
      ∀ envelope cursor, row.state ≠ .Accepted envelope cursor) (state : OutboxState) :
    store.Sides (store.set_outbox_state envelope_id state) := by
  refine ⟨store.sameLedger_outbox _, fun _ _ row hrow => ⟨row, hrow, .refl row⟩,
    fun row hrow _ => ⟨row, hrow, .refl row⟩,
    fun other found envelope cursor hfound hacc => ?_⟩
  rw [store.get?_set_outbox_state, if_neg, hfound]
  rintro rfl
  exact hopen found hfound _ _ hacc

/-- The envelopes of a list get a state, none of which is accepted before or after. -/
theorem foldl_set_outbox_state_sides (envelope : α → EnvelopeId) {state : α → OutboxState}
    (hstate : ∀ x envelope cursor, state x ≠ .Accepted envelope cursor) (l : List α)
    (store : ReplayStore σ) (hopen : ∀ x ∈ l, ∀ row, store.outbox.get? (envelope x) = some row →
      ∀ envelope cursor, row.state ≠ .Accepted envelope cursor) :
    store.Sides (l.foldl (fun store x => store.set_outbox_state (envelope x) (state x)) store) := by
  induction l generalizing store with
  | nil => exact .refl store
  | cons x l ih =>
    refine (ReplayStore.Sides.set_outbox_state store (hopen x List.mem_cons_self) _).trans
      (ih _ fun y hy row hrow => ?_)
    rw [store.get?_set_outbox_state] at hrow
    split at hrow
    · obtain ⟨_, -, rfl⟩ := Option.map_eq_some_iff.1 hrow
      exact hstate x
    · exact hopen y (List.mem_cons_of_mem _ hy) row hrow

theorem terminalize_removed_outbox_sides :
    store.Sides (terminalize_removed_outbox store conversation_id) := by
  refine foldl_set_outbox_state_sides (fun unsent : EnvelopeId × RelayEnvelope => unsent.1)
    (fun _ _ _ => by nofun) _ store fun unsent hunsent row hrow envelope cursor hacc => ?_
  -- what is terminalized was ready
  obtain ⟨found, hfound, hmatch⟩ := List.mem_filterMap.1 hunsent
  split at hmatch
  · rename_i hready
    split at hmatch
    · cases hmatch
      cases hrow.symm.trans (store.outbox.get?_of_mem hfound)
      rw [hready] at hacc
      cases hacc
    · cases hmatch
  · cases hmatch

/-! ## Markers and new messages

A marker stands for each stored message that is internal. -/

/-- Marking a message leaves the other messages marked as they were. -/
theorem mem_store_internal_application_marker (marker : ConversationId × MessageId) :
    marker ∈ (store_internal_application_marker store conversation_id
      message).internal_application_message
    ↔ if marker = (conversation_id, message.message_id) then message.content.is_internal = true
      else marker ∈ store.internal_application_message := by
  rw [store_internal_application_marker]
  by_cases hkey : marker = (conversation_id, message.message_id)
  · rw [if_pos hkey]
    split
    · rename_i hint
      split
      · rename_i hmem
        simp [hkey, hmem, hint]
      · simp [hkey, hint]
    · rename_i hint
      simp [hkey, hint]
  · rw [if_neg hkey]
    split
    · split
      · exact Iff.rfl
      · simp [hkey]
    · simp [hkey]

theorem store_internal_application_marker_history :
    (store_internal_application_marker store conversation_id message).message_history
    = store.message_history
    ∧ (store_internal_application_marker store conversation_id message).outbox = store.outbox := by
  rw [store_internal_application_marker]
  split
  · split <;> exact ⟨rfl, rfl⟩
  · exact ⟨rfl, rfl⟩

/-- A message that is marked as its content is stays so when the marker is stored again. -/
theorem store_internal_application_marker_again {row : HistoryRow}
    (hrow : load_history_record store conversation_id message.message_id = .ok (some row))
    (hmsg : row.message = message) :
    store_internal_application_marker store conversation_id message = store := by
  obtain ⟨-, hmarked⟩ := load_history_record_eq.1 hrow
  rw [hmsg] at hmarked
  rw [store_internal_application_marker]
  split
  · rename_i hint
    rw [hint, decide_eq_true_eq] at hmarked
    rw [if_pos hmarked]
  · rename_i hint
    rw [Bool.not_eq_true] at hint
    rw [hint, decide_eq_false_iff_not] at hmarked
    have hall : store.internal_application_message.filter
        (fun marker => decide (marker ≠ (conversation_id, message.message_id)))
        = store.internal_application_message := by
      refine List.filter_eq_self.2 fun marker hmarker => decide_eq_true ?_
      rintro rfl
      exact hmarked hmarker
    rw [hall]

theorem store_internal_application_marker_eq :
    store_internal_application_marker store conversation_id message
    = { store with
        internal_application_message := (store_internal_application_marker store
          conversation_id message).internal_application_message } := by
  rw [store_internal_application_marker]
  split
  · split <;> rfl
  · rfl

section

variable (hins : store.message_history.insert? row = some message_history)
include hins

/-- A new message is stored with its marker. -/
theorem new_message_same (hknown : (store.conversation.get? row.conversation_id).isSome = true) :
    store.SameLedger (store_internal_application_marker { store with message_history }
      row.conversation_id row.message) := by
  rw [store_internal_application_marker_eq]
  refine ⟨rfl, rfl, rfl, rfl, rfl, rfl, rfl, rfl, fun marker hmarker hmarked => ?_⟩
  dsimp only at hmarker
  rw [mem_store_internal_application_marker] at hmarker
  by_cases hkey : marker = (row.conversation_id, row.message.message_id)
  · rw [if_pos hkey] at hmarker
    rw [hkey]
    exact ⟨hknown, row, get?_insert_self hins, hmarker⟩
  · rw [if_neg hkey] at hmarker
    obtain ⟨hknown, found, hfound, hint⟩ := hmarked hmarker
    refine ⟨hknown, found, ?_, hint⟩
    dsimp only
    rw [get?_insert hins, if_neg fun h => hkey h.symm]
    exact hfound

/-- A new message of another device is stored with its marker. -/
theorem new_message_keeps (hdir : row.direction = .Inbound) :
    store.KeepsMessages (store_internal_application_marker { store with message_history }
      row.conversation_id row.message) := by
  obtain ⟨hhist, houtbox⟩ := store_internal_application_marker_history
  obtain ⟨hfree, hrows⟩ := insert?_eq_some hins
  refine ⟨fun id message_id old hold => ⟨old, ?_, .refl old⟩, fun row' hrow' houtbound => ?_,
    fun envelope_id found _ _ hfound _ => ?_⟩
  · obtain ⟨hget, hmarked⟩ := load_history_record_eq.1 hold
    have hkey : ¬ (row.conversation_id, row.message.message_id) = (id, message_id) := by
      intro hkey
      rw [hkey, hget] at hfree
      cases hfree
    refine load_history_record_eq.2 ⟨?_, ?_⟩
    · rw [hhist]
      dsimp only
      rw [get?_insert hins, if_neg hkey, hget]
    · rw [← hmarked, decide_eq_decide, mem_store_internal_application_marker,
        if_neg fun h => hkey h.symm]
  · rw [hhist] at hrow'
    dsimp only at hrow'
    rw [hrows] at hrow'
    rcases List.mem_append.1 hrow' with hold | hnew
    · exact ⟨row', hold, .refl row'⟩
    · rw [List.mem_singleton.1 hnew, hdir] at houtbound
      cases houtbound
  · rw [houtbox]
    exact hfound

/-- A new message is loaded with its marker. -/
theorem load_new_message :
    load_history_record (store_internal_application_marker { store with message_history }
      row.conversation_id row.message) row.conversation_id row.message.message_id
    = .ok (some row) := by
  refine load_history_record_eq.2 ⟨?_, ?_⟩
  · rw [store_internal_application_marker_history.1]
    exact get?_insert_self hins
  · rw [Bool.eq_iff_iff, decide_eq_true_eq, mem_store_internal_application_marker, if_pos rfl]

end

/-! ## Replies

A reply completes the request it answers once; after that it is a retry. -/

/-- A request is pending until its reply, and then answers for that reply only. -/
theorem complete_request_service_request_eq_ok :
    complete_request_service_request store original reply = .ok store'
    ↔ (original.request_service_reply = some (.Complete reply) ∧ store' = store)
      ∨ (original.request_service_reply = some .Pending ∧ store' = { store with
        message_history := store.message_history.update
          (original.conversation_id, original.message.message_id)
          (fun row => { row with request_service_reply := some (.Complete reply) })
          (fun _ => rfl) (fun _ => rfl) }) := by
  rw [complete_request_service_request]
  cases original.request_service_reply with
  | none => simp [previous_reply]
  | some answered =>
    cases answered with
    | Pending =>
      simp [previous_reply, classify_request_service_reply, request_service, Except.mapError,
        pure, Except.pure, eq_comm]
    | Complete previous =>
      by_cases hsame : previous = reply
      · simp [previous_reply, classify_request_service_reply, request_service,
          Except.mapError, pure, Except.pure, hsame, eq_comm]
      · simp [previous_reply, classify_request_service_reply, request_service,
          Except.mapError, hsame]

/-- The request a message of a request-service conversation answers. -/
structure AnswersRequest (store : ReplayStore σ) (channel : RequestServiceChannel)
    (state : ConversationState) (sender : DeviceId) (message : ApplicationMessage)
    (request_id : MessageId) (original : HistoryRow) : Prop where
  reply_to : message.reply_to = some request_id
  loaded : load_history_record store state.conversation_id request_id = .ok (some original)
  complete : original.complete = true
  cursor : original.cursor.isSome = true
  valid : channel.validate_application state sender message.content message.reply_to
    (some ⟨state.conversation_id, original.sender, original.message⟩) = .ok ()

theorem request_service_eq_ok {x : Except RequestServiceError α} {a : α} :
    request_service x = .ok a ↔ x = .ok a := by
  cases x <;> simp [request_service, Except.mapError]

/-- In a request-service conversation a message must fit the channel, and a text completes the
request it answers. -/
theorem commit_request_service_reply_in_eq_ok :
    commit_request_service_reply_in store state sender message = .ok store'
    ↔ match state.request_service with
      | none => store' = store
      | some channel => if answers_request message.content = true
        then ∃ request_id original,
          AnswersRequest store channel state sender message request_id original
            ∧ if is_text message.content = true
              then complete_request_service_request store original message.message_id = .ok store'
              else store' = store
        else channel.validate_application state sender message.content message.reply_to none
            = .ok () ∧ store' = store := by
  rw [commit_request_service_reply_in]
  cases state.request_service with
  | none => simp [eq_comm]
  | some channel =>
    dsimp only
    by_cases hanswers : answers_request message.content = true
    · rw [if_pos hanswers, if_pos hanswers, some_or_ok]
      refine exists_congr fun request_id => ?_
      constructor
      · rintro ⟨hreply, h⟩
        obtain ⟨found, hload, h⟩ := bind_ok.1 h
        obtain ⟨original, rfl, h⟩ := some_or_ok.1 h
        obtain ⟨⟨hcomplete, hcur⟩, h⟩ := require_ok.1 h
        obtain ⟨_, hvalid, h⟩ := bind_ok.1 h
        refine ⟨original, ⟨hreply, hload, hcomplete, hcur, request_service_eq_ok.1 hvalid⟩, ?_⟩
        by_cases htext : is_text message.content = true
        · rw [if_pos htext] at h ⊢
          exact h
        · rw [if_neg htext] at h ⊢
          cases h
          rfl
      · rintro ⟨original, hans, h⟩
        refine ⟨hans.reply_to, ?_⟩
        rw [hans.loaded, ok_bind, some_or_bind rfl, require_bind ⟨hans.complete, hans.cursor⟩,
          request_service_eq_ok.2 hans.valid, ok_bind]
        by_cases htext : is_text message.content = true
        · rw [if_pos htext] at h ⊢
          exact h
        · rw [if_neg htext] at h ⊢
          rw [h]
          rfl
    · rw [if_neg hanswers, if_neg hanswers, bind_ok]
      constructor
      · rintro ⟨⟨⟩, hvalid, h⟩
        cases h
        exact ⟨request_service_eq_ok.1 hvalid, rfl⟩
      · rintro ⟨hvalid, rfl⟩
        exact ⟨(), request_service_eq_ok.2 hvalid, rfl⟩

/-- Only the reply of a pending request is set, so its cursor is the one it had. -/
theorem complete_request_service_request_sides {request_id : MessageId}
    (horiginal : load_history_record store conversation_id request_id = .ok (some original))
    (h : complete_request_service_request store original reply = .ok store') : store.Sides store'
    ∧ (∀ key row, store.message_history.get? key = some row →
      ∃ row', store'.message_history.get? key = some row' ∧ row'.cursor = row.cursor)
    ∧ ∃ answered, load_history_record store' conversation_id request_id = .ok (some answered)
      ∧ answered.request_service_reply = some (.Complete reply) := by
  rcases complete_request_service_request_eq_ok.1 h with ⟨hreply, rfl⟩ | ⟨hpend, rfl⟩
  · exact ⟨.refl store', fun _ row hrow => ⟨row, hrow, rfl⟩, original, horiginal, hreply⟩
  · obtain ⟨hget, hmarked⟩ := load_history_record_eq.1 horiginal
    obtain ⟨hmem, hkey⟩ := get?_iff.1 hget
    have hupdated := get?_update store.message_history.toTable
      (original.conversation_id, original.message.message_id)
      (fun row => { row with request_service_reply := some (.Complete reply) }) fun _ => rfl
    refine ⟨.updated (show _ = Table.update _ _ (fun row =>
      { row with request_service_reply := some (.Complete reply) }) (fun _ => rfl) from rfl) ?_,
      fun other row hrow => ?_,
      { original with request_service_reply := some (.Complete reply) },
      load_history_record_eq.2 ⟨?_, hmarked⟩, rfl⟩
    · intro row hrow
      cases hrow.symm.trans (store.message_history.get?_of_mem hmem)
      refine ⟨rfl, rfl, rfl, rfl, rfl, rfl, fun _ hcur => hcur, id, fun previous hprev => ?_⟩
      rw [hpend] at hprev
      cases hprev
    · have hlater := hupdated other
      rw [hrow] at hlater
      by_cases hother : other = (original.conversation_id, original.message.message_id)
      · rw [if_pos hother] at hlater
        exact ⟨_, hlater, rfl⟩
      · rw [if_neg hother] at hlater
        exact ⟨row, hlater, rfl⟩
    · refine (hupdated _).trans ?_
      rw [if_pos hkey.symm, hget]
      rfl

theorem commit_request_service_reply_in_sides
    (h : commit_request_service_reply_in store state sender message = .ok store') :
    store.Sides store' ∧ ∀ key row, store.message_history.get? key = some row →
    ∃ row', store'.message_history.get? key = some row' ∧ row'.cursor = row.cursor := by
  have hsame : ∀ later : ReplayStore σ, later = store → store.Sides later
      ∧ ∀ key row, store.message_history.get? key = some row →
        ∃ row', later.message_history.get? key = some row' ∧ row'.cursor = row.cursor := by
    rintro _ rfl
    exact ⟨.refl _, fun _ row hrow => ⟨row, hrow, rfl⟩⟩
  have h := commit_request_service_reply_in_eq_ok.1 h
  split at h
  · exact hsame store' h
  · split at h
    · obtain ⟨request_id, original, hans, h⟩ := h
      split at h
      · obtain ⟨hsides, hcurs, -⟩ := complete_request_service_request_sides hans.loaded h
        exact ⟨hsides, hcurs⟩
      · exact hsame store' h
    · exact hsame store' h.2

/-! ## Cursors

The cursor of a stored message is written once. -/

/-- A verified cursor is the cursor of the message. -/
theorem verify_history_cursor_eq_ok {existing current : HistoryRow} {cursor : Option ℕ}
    (hcurrent : store.message_history.get? (existing.conversation_id, existing.message.message_id)
      = some current) (hcur : current.cursor = existing.cursor)
    (h : verify_history_cursor store existing cursor = .ok store') :
    store.Sides store' ∧ ∃ row, store'.message_history.get?
      (existing.conversation_id, existing.message.message_id) = some row
    ∧ ∀ candidate ∈ cursor, row.cursor = some candidate := by
  unfold verify_history_cursor at h
  split at h
  · rename_i found candidate hfound
    obtain ⟨hsame, h⟩ := require_ok.1 h
    cases h
    refine ⟨.refl store, current, hcurrent, ?_⟩
    rintro _ ⟨⟩
    rw [hcur, hfound, hsame]
  · rename_i candidate hnone
    obtain ⟨message_history, hupd, h⟩ := some_or_ok.1 h
    cases h
    refine ⟨.updated? hupd hcurrent ⟨rfl, rfl, rfl, rfl, rfl, rfl, ?_, id, fun _ hreply => hreply⟩,
      current.with_cursor candidate, ?_, ?_⟩
    · intro cursor hsome
      rw [hcur, hnone] at hsome
      cases hsome
    · dsimp only
      rw [get?_update? hupd, if_pos rfl, hcurrent]
      rfl
    · rintro _ ⟨⟩
      rfl
  · cases h
    refine ⟨.refl store, current, hcurrent, ?_⟩
    rintro _ ⟨⟩

/-- An assigned cursor is the cursor of the message. -/
theorem assign_history_cursor_eq_ok {assigned : Bool}
    (h : assign_history_cursor store conversation_id message_id envelope_id cursor
      = .ok (assigned, store')) :
    store.Sides store' ∧ store'.outbox = store.outbox ∧ (assigned = true →
      (∃ before, load_history_record store conversation_id message_id = .ok (some before))
        ∧ ∃ history, load_history_record store' conversation_id message_id = .ok (some history)
          ∧ history.envelope_id = envelope_id ∧ history.cursor = some cursor) := by
  obtain ⟨found, hfound, h⟩ := bind_ok.1 h
  cases found with
  | none =>
    cases h
    exact ⟨.refl store, rfl, nofun⟩
  | some history =>
    obtain ⟨⟨henv, hcur⟩, h⟩ := require_ok.1 h
    split at h
    · rename_i hcur
      cases h
      exact ⟨.refl store, rfl, fun _ => ⟨⟨history, hfound⟩, history, hfound, henv, hcur⟩⟩
    · obtain ⟨message_history, hupd, h⟩ := some_or_ok.1 h
      cases h
      obtain ⟨hget, hmarked⟩ := load_history_record_eq.1 hfound
      -- a cursor that is assigned is the one the message has, or its first
      refine ⟨.updated? hupd hget ⟨rfl, rfl, rfl, rfl, rfl, rfl, fun existing hold =>
        congrArg some (hcur existing hold).symm, id, fun _ hreply => hreply⟩, rfl, fun _ =>
        ⟨⟨history, hfound⟩, history.with_cursor cursor,
          load_history_record_eq.2 ⟨?_, hmarked⟩, henv, rfl⟩⟩
      dsimp only
      rw [get?_update? hupd, if_pos rfl, hget]
      rfl

/-- The completed message says what it said, whatever else is written with it. -/
theorem complete_history_eq_ok {found : Bool}
    (h : complete_history store conversation_id message_id envelope_id cursor
      = .ok (found, store')) : ∃ message_history, store' = { store with message_history }
    ∧ ∀ later : ReplayStore σ, later.message_history = store.message_history →
      later.Sides { later with message_history } := by
  have hsame : ∀ later : ReplayStore σ, later.message_history = store.message_history →
      later.Sides { later with message_history := store.message_history } := by
    intro later hlater
    rw [← hlater]
    exact .refl later
  obtain ⟨existing, hold, h⟩ := bind_ok.1 h
  cases existing with
  | none =>
    cases h
    exact ⟨_, rfl, hsame⟩
  | some history =>
    obtain ⟨⟨-, hcur⟩, h⟩ := require_ok.1 h
    split at h
    · cases h
      exact ⟨_, rfl, hsame⟩
    · obtain ⟨-, h⟩ := require_ok.1 h
      obtain ⟨message_history, hupd, h⟩ := some_or_ok.1 h
      cases h
      refine ⟨message_history, rfl, fun later hlater => ?_⟩
      have hget := (load_history_record_eq.1 hold).1
      rw [← hlater] at hupd hget
      exact .updated? hupd hget ⟨rfl, rfl, rfl, rfl, rfl, rfl, fun existing hold =>
        congrArg some (hcur existing hold).symm, fun _ => rfl, fun _ hreply => hreply⟩

/-! ## Entering the history

Everything a message meets on its way into the history, and what it leaves there. -/

/-- The message is stored as it was read, at its cursor. -/
structure StoredAt (store : ReplayStore σ) (conversation_id : ConversationId)
    (envelope_id : EnvelopeId) (cursor : Option ℕ) (sender : DeviceId) (epoch : ℕ)
    (message : ApplicationMessage) (row : HistoryRow) : Prop where
  loaded : load_history_record store conversation_id message.message_id = .ok (some row)
  envelope_id : row.envelope_id = envelope_id
  sender : row.sender = sender
  epoch : row.epoch = epoch
  message : row.message = message
  cursor : ∀ candidate ∈ cursor, row.cursor = some candidate

/-- What a message that entered the history leaves: its row, and a reply that was committed. -/
structure EntersHistory (host : Host σ) (store : ReplayStore σ)
    (conversation_id : ConversationId) (envelope_id : EnvelopeId) (cursor : Option ℕ)
    (direction : MessageDirection) (sender : DeviceId) (epoch : ℕ) (message : ApplicationMessage)
    (store' : ReplayStore σ) : Prop where
  ledger : store.SameLedger store'
  messages : direction = .Inbound → store.KeepsMessages store'
  stored : ∃ row, StoredAt store' conversation_id envelope_id cursor sender epoch message row
  committed : ∃ conversation before committed,
    store.conversation.get? conversation_id = some conversation
      ∧ commit_request_service_reply_in before conversation.state sender message = .ok committed
      ∧ committed.KeepsMessages store'
  unreserved : require_unreserved_message host store conversation_id envelope_id direction
    message.message_id = .ok ()
  cursor_le : cursor.getD 0 ≤ I64_MAX
  epoch_le : epoch ≤ I64_MAX
  counter_le : message.sender_counter ≤ I64_MAX

theorem insert_or_verify_history_eq_ok {cursor : Option ℕ} {direction : MessageDirection}
    {epoch : ℕ} (h : insert_or_verify_history host store conversation_id envelope_id cursor
      direction sender epoch message = .ok store') :
    EntersHistory host store conversation_id envelope_id cursor direction sender epoch message
      store' := by
  obtain ⟨_, -, h⟩ := bind_ok.1 h
  obtain ⟨conversation, hconv, h⟩ := some_or_ok.1 h
  obtain ⟨-, h⟩ := require_ok.1 h
  obtain ⟨_, hunreserved, h⟩ := bind_ok.1 h
  obtain ⟨_, hcur, h⟩ := bind_ok.1 h
  obtain ⟨_, hepoch, h⟩ := bind_ok.1 h
  obtain ⟨_, hcounter, h⟩ := bind_ok.1 h
  have hcur := (to_sql_integer_ok.1 hcur).1
  have hepoch := (to_sql_integer_ok.1 hepoch).1
  have hcounter := (to_sql_integer_ok.1 hcounter).1
  split at h
  · rename_i message_history hins
    obtain ⟨hsides, -⟩ := commit_request_service_reply_in_sides h
    refine ⟨(new_message_same hins (Option.isSome_iff_exists.2 ⟨conversation, hconv⟩)
        ).trans hsides.ledger, fun hdir => (new_message_keeps hins hdir).trans
          hsides.messages, ?_, ⟨conversation, _, store', hconv, h, .refl store'⟩,
      hunreserved, hcur, hepoch, hcounter⟩
    -- the new row is stored with its marker, and committing a reply keeps it
    obtain ⟨row, hrow, hgrows⟩ := hsides.messages.history _ _ _ (load_new_message hins)
    exact ⟨row, hrow, hgrows.envelope_id, hgrows.sender, hgrows.epoch, hgrows.message,
      hgrows.cursor⟩
  · obtain ⟨found, hfound, h⟩ := bind_ok.1 h
    obtain ⟨existing, rfl, h⟩ := some_or_ok.1 h
    obtain ⟨⟨henv, hsender, hepoch', hmsg⟩, h⟩ := require_ok.1 h
    obtain ⟨committed, hcommit, h⟩ := bind_ok.1 h
    obtain ⟨hkept, hcurs⟩ := commit_request_service_reply_in_sides hcommit
    rw [store_internal_application_marker_again hfound hmsg] at hkept hcurs
    obtain ⟨hget, -⟩ := load_history_record_eq.1 hfound
    have hkey := key_of_get? hget
    rw [← hkey] at hget
    obtain ⟨current, hcurrent, hsame⟩ := hcurs _ _ hget
    obtain ⟨hver, row, hrow, hrowcursor⟩ := verify_history_cursor_eq_ok hcurrent hsame h
    have hsides := hkept.trans hver
    refine ⟨hsides.ledger, fun _ => hsides.messages, ?_,
      ⟨conversation, _, committed, hconv, hcommit, hver.messages⟩, hunreserved,
      hcur, hepoch, hcounter⟩
    obtain ⟨row', hrow', hgrows⟩ := hsides.messages.history _ _ _ hfound
    rw [hkey] at hrow
    cases hrow.symm.trans (load_history_record_eq.1 hrow').1
    exact ⟨row, hrow', hgrows.envelope_id.trans henv, hgrows.sender.trans hsender,
      hgrows.epoch.trans hepoch', hgrows.message.trans hmsg, hrowcursor⟩

end Konclave.Daemon.Replay
