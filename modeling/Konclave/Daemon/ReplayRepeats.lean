/-
Calls of replay that are made again.

A relay may present an envelope again, and a client that lost an answer repeats its call.
Each call that succeeded leaves what it was for in the store: a row, a completed cursor, an
accepted envelope. The ledger keeps it, so the same call answers from it at any later time
and changes nothing. Two calls judge what they save by the present policy as well, and a
repeat of those is only as good as the policy it was judged by.
-/
import Konclave.Daemon.ReplayHeads
import Konclave.Daemon.ReceiptFolds

set_option autoImplicit false

namespace Konclave.Daemon.Replay

open Domain Cryptographic RemoteEvents ReplayStore UniqueTable

variable {σ : Type} {host : Host σ} {store store' now : ReplayStore σ} {state : ConversationState}

/-! ## Observations -/

variable {conversation_id : ConversationId} {stored : StoredRelayEnvelope}
  {envelope_id : EnvelopeId} {row : InboxRow} {sender : DeviceId} {message : ApplicationMessage}
  {cursor epoch reached : ℕ} {notification_id : NotificationId}

theorem insert_or_verify_cursor_observation_again (hcur : stored.cursor ≤ I64_MAX)
    (hobs : ⟨conversation_id, stored⟩ ∈ store.cursor_observation.rows) :
    insert_or_verify_cursor_observation store conversation_id stored = .ok (false, store) := by
  have htaken : store.cursor_observation.insert? ⟨conversation_id, stored⟩ = none :=
    insert?_of_get? (store.cursor_observation.get?_of_mem hobs)
  rw [insert_or_verify_cursor_observation, to_sql_integer_ok.2 ⟨hcur, rfl⟩, ok_bind, htaken]
  dsimp only
  rw [verify_cursor_observation_ok.2 ⟨hcur, hobs⟩]
  rfl

/-! ## Recorded envelopes

The observation binds the envelope to its cursor, so the repeat finds its own row. -/

theorem ReplayStore.Binds.grows (h : store.Binds conversation_id stored)
    (hgrows : store.Grows now) : now.Binds conversation_id stored := by
  obtain ⟨conversation, hconv, hrouting⟩ := h.conversation
  obtain ⟨conv', hconv', hsame⟩ := hgrows.conversation _ _ hconv
  exact ⟨h.cursor, ⟨conv', hconv', hsame.1.trans hrouting⟩, hgrows.cursor_observation _ h.observed⟩

/-- The conversation of a bound envelope is found by its route. -/
theorem ReplayStore.Binds.routes (h : store.Binds conversation_id stored) :
    ∃ conversation, conversation.conversation_id = conversation_id
    ∧ store.conversation_for_routing stored.envelope.routing_id = .ok conversation := by
  obtain ⟨conversation, hconv, hrouting⟩ := h.conversation
  have hid : conversation.conversation_id = conversation_id := Table.key_of_get? hconv
  refine ⟨conversation, hid, ?_⟩
  rw [← hrouting, conversation_for_routing]
  exact some_or_eq_ok.2 (named?_eq_some_iff.2
    ⟨(Table.get?_iff.1 hconv).1, List.mem_singleton.2 rfl⟩)

theorem load_inbox_envelope_grows (hgrows : store.Grows now)
    (h : load_inbox_envelope store envelope_id = .ok stored) :
    load_inbox_envelope now envelope_id = .ok stored := by
  obtain ⟨row, conversation, hmem, hstored, hid, hconv, hrouting, hcur, hobs⟩ :=
    load_inbox_envelope_eq_ok.1 h
  obtain ⟨row', hrow', hsame⟩ := hgrows.inbox _ _ (store.inbox.get?_of_mem hmem)
  obtain ⟨conv', hconv', hkept⟩ := hgrows.conversation _ _ hconv
  obtain ⟨hmem', hkey'⟩ := Table.get?_iff.1 hrow'
  have hconversation_id : row'.conversation_id = row.conversation_id := congrArg Prod.fst hkey'
  refine load_inbox_envelope_eq_ok.2 ⟨row', conv', hmem', hsame.1.trans hstored, hid, ?_,
    hrouting.trans hkept.1.symm, hcur, ?_⟩
  · rw [hconversation_id]
    exact hconv'
  · rw [hconversation_id]
    exact hgrows.cursor_observation _ hobs

/-- A recorded envelope is found as the one row in conflict with itself. -/
theorem load_conflicting_inbox_of_row (hbinds : store.Binds conversation_id stored)
    (hrow : store.inbox.get? (conversation_id, stored.cursor) = some row)
    (hstored : row.stored = stored) :
    load_conflicting_inbox store conversation_id stored.cursor stored.envelope.envelope_id
      = .ok stored := by
  obtain ⟨hmem, hkey⟩ := Table.get?_iff.1 hrow
  have hid : row.conversation_id = conversation_id := congrArg Prod.fst hkey
  have hfilter := store.inbox.filter_eq_singleton hmem
    (p := fun row => decide (row.stored.envelope.envelope_id = stored.envelope.envelope_id
      ∨ (row.conversation_id = conversation_id ∧ row.stored.cursor = stored.cursor))) (by
    intro other hother
    rw [decide_eq_true_eq]
    constructor
    · rintro (henv | ⟨hconv, hcur⟩)
      · refine store.inbox.eq_of_name (n := .envelope stored.envelope.envelope_id) hother hmem ?_ ?_
        · rw [InboxRow.names, henv]
          exact List.mem_cons_self
        · rw [InboxRow.names, hstored]
          exact List.mem_cons_self
      · exact store.inbox.eq_of_key_eq hother hmem ((Prod.ext hconv hcur).trans hkey.symm)
    · rintro rfl
      exact .inl (by rw [hstored]))
  obtain ⟨conversation, hconv, hrouting⟩ := hbinds.conversation
  rw [load_conflicting_inbox, hfilter]
  refine require_ok.2 ⟨by rw [hstored], load_inbox_envelope_eq_ok.2 ⟨row, conversation, hmem,
    hstored, rfl, ?_, hrouting.symm, hbinds.cursor, ?_⟩⟩
  · rw [hid]
    exact hconv
  · rw [hid]
    exact hbinds.observed

theorem record_inbox_envelope_again (host : Host σ)
    (h : record_inbox_envelope store stored = (.ok conversation_id, store'))
    (hgrows : store'.Grows now) :
    record_inbox_envelope now stored = (.ok conversation_id, now) := by
  obtain ⟨-, hclass, hbinds, row, hrow, hstored⟩ := record_inbox_envelope_eq_ok host h
  have hbinds := hbinds.grows hgrows
  obtain ⟨row', hrow', hsame⟩ := hgrows.inbox _ _ hrow
  obtain ⟨conversation, rfl, hroutes⟩ := hbinds.routes
  have htaken : now.inbox.insert? ⟨conversation.conversation_id, stored, .Received⟩ = none :=
    insert?_of_get? hrow'
  rw [record_inbox_envelope, require_bind hclass, hroutes, ok_bind]
  dsimp only
  rw [insert_or_verify_cursor_observation_again hbinds.cursor hbinds.observed, ok_bind]
  dsimp only
  rw [htaken]
  dsimp only
  rw [require_bind rfl, load_conflicting_inbox_of_row hbinds hrow' (hsame.1.trans hstored), ok_bind,
    require_bind rfl]
  rfl

theorem record_membership_inbox_envelope_again (host : Host σ)
    (h : record_membership_inbox_envelope store stored = (.ok conversation_id, store'))
    (hgrows : store'.Grows now) :
    record_membership_inbox_envelope now stored = (.ok conversation_id, now) := by
  obtain ⟨-, hclass, hbinds, row, hrow, hstored⟩ := record_membership_inbox_envelope_eq_ok host h
  have hbinds := hbinds.grows hgrows
  obtain ⟨row', hrow', hsame⟩ := hgrows.membership_inbox _ _ hrow
  have hstored' : row'.stored = stored := hsame.1.trans hstored
  have hload : load_membership_inbox_envelope now conversation_id stored.cursor
      stored.envelope.envelope_id = .ok stored := by
    obtain ⟨conversation, hconv, hrouting⟩ := hbinds.conversation
    refine load_membership_inbox_envelope_eq_ok.2 ⟨row', conversation, hrow', ?_, hconv, ?_,
      ?_, hstored'.symm⟩
    · rw [hstored']
    · rw [hstored', hrouting]
    · rw [hstored', hclass]
  obtain ⟨conversation, rfl, hroutes⟩ := hbinds.routes
  have htaken : now.membership_inbox.insert? ⟨conversation.conversation_id, stored, .Received⟩
      = none := insert?_of_get? hrow'
  rw [record_membership_inbox_envelope, require_bind hclass, hroutes, ok_bind]
  dsimp only
  rw [insert_or_verify_cursor_observation_again hbinds.cursor hbinds.observed, ok_bind]
  dsimp only
  rw [htaken]
  dsimp only
  rw [require_bind rfl, hload, ok_bind, require_bind rfl]
  rfl

/-! ## Stored messages

A message in the history is found again; receipts and replies are judged anew. -/

theorem AnswersRequest.grows {channel : RequestServiceChannel}
    {request_id : MessageId} {original current : HistoryRow}
    (h : AnswersRequest store channel state sender message request_id original)
    (hcurrent : load_history_record now state.conversation_id request_id = .ok (some current))
    (hgrows : original.Grows current) :
    AnswersRequest now channel state sender message request_id current := by
  refine ⟨h.reply_to, hcurrent, hgrows.complete h.complete, ?_, ?_⟩
  · obtain ⟨cursor, hcur⟩ := Option.isSome_iff_exists.1 h.cursor
    rw [hgrows.cursor cursor hcur]
    rfl
  · rw [hgrows.sender, hgrows.message]
    exact h.valid

/-- A reply that completed its request is a retry of itself from then on. -/
theorem commit_request_service_reply_in_again
    (h : commit_request_service_reply_in store state sender message = .ok store')
    (hkeeps : store'.KeepsMessages now) :
    commit_request_service_reply_in now state sender message = .ok now := by
  have h := commit_request_service_reply_in_eq_ok.1 h
  refine commit_request_service_reply_in_eq_ok.2 ?_
  cases hservice : state.request_service with
  | none => rfl
  | some channel =>
    rw [hservice] at h
    dsimp only at h ⊢
    by_cases hanswers : answers_request message.content = true
    · rw [if_pos hanswers] at h ⊢
      obtain ⟨request_id, original, hans, h⟩ := h
      by_cases htext : is_text message.content = true
      · rw [if_pos htext] at h
        obtain ⟨hkept, -, answered, hanswered, hreply⟩ :=
          complete_request_service_request_sides hans.loaded h
        obtain ⟨found, hfound, hgrows⟩ := hkept.messages.history _ _ _ hans.loaded
        cases hanswered.symm.trans hfound
        obtain ⟨current, hcur, hgrows'⟩ := hkeeps.history _ _ _ hanswered
        refine ⟨request_id, current, hans.grows hcur (hgrows.trans hgrows'), ?_⟩
        rw [if_pos htext]
        exact complete_request_service_request_eq_ok.2 (.inl ⟨hgrows'.reply _ hreply, rfl⟩)
      · rw [if_neg htext] at h
        subst h
        obtain ⟨current, hcur, hgrows⟩ := hkeeps.history _ _ _ hans.loaded
        refine ⟨request_id, current, hans.grows hcur hgrows, ?_⟩
        rw [if_neg htext]
    · rw [if_neg hanswers] at h ⊢
      exact ⟨h.1, rfl⟩

theorem require_unreserved_message_again {message_id : MessageId}
    (h : require_unreserved_message host store conversation_id envelope_id .Inbound message_id
      = .ok ()) (hkeeps : store.KeepsMessages now)
    (hreserved : host.collaboration_policy_operation_reserves_message_id now.others
        conversation_id message_id
      = host.collaboration_policy_operation_reserves_message_id store.others conversation_id
        message_id) :
    require_unreserved_message host now conversation_id envelope_id .Inbound message_id
      = .ok () := by
  rw [require_unreserved_message, if_pos rfl] at h ⊢
  obtain ⟨reserved, hans, h⟩ := bind_ok.1 h
  rw [hreserved, hans, ok_bind]
  cases reserved with
  | false => exact h
  | true =>
    obtain ⟨existing, hload, h⟩ := bind_ok.1 h
    obtain ⟨row, hsome, hdir, henv⟩ := require_eq_ok.1 h
    cases hsome
    obtain ⟨row', hrow', hgrows⟩ := hkeeps.history _ _ _ hload
    rw [if_pos rfl]
    refine bind_ok.2 ⟨some row', hrow', require_eq_ok.2 ⟨row', rfl, ?_, ?_⟩⟩
    · exact hgrows.direction.trans hdir
    · exact hgrows.envelope_id.trans henv

theorem StoredAt.keeps {row : HistoryRow} {cursor : Option ℕ}
    (h : StoredAt store conversation_id envelope_id cursor sender epoch message row)
    (hkeeps : store.KeepsMessages now) :
    ∃ row', StoredAt now conversation_id envelope_id cursor sender epoch message row' := by
  obtain ⟨row', hrow', hgrows⟩ := hkeeps.history _ _ _ h.loaded
  exact ⟨row', hrow', hgrows.envelope_id.trans h.envelope_id, hgrows.sender.trans h.sender,
    hgrows.epoch.trans h.epoch, hgrows.message.trans h.message,
    fun candidate hcandidate => hgrows.cursor candidate (h.cursor candidate hcandidate)⟩

/-- The messages under these identifiers, where there are any, are receipts for the request,
with these outcomes. -/
inductive Reported (store : ReplayStore σ) (conversation_id : ConversationId)
    (original : ApplicationMessage) : List MessageId → List RequestDeliveryOutcome → Prop
  | nil : Reported store conversation_id original [] []
  | absent {message_id : MessageId} {ids : List MessageId} {outcomes : List RequestDeliveryOutcome}
      (hload : load_history_record store conversation_id message_id = .ok none)
      (hrest : Reported store conversation_id original ids outcomes) :
      Reported store conversation_id original (message_id :: ids) outcomes
  | receipt {message_id : MessageId} {ids : List MessageId} {outcome : RequestDeliveryOutcome}
      {outcomes : List RequestDeliveryOutcome} {row : HistoryRow}
      (hload : load_history_record store conversation_id message_id = .ok (some row))
      (hcontent : row.message.content = .RequestDeliveryOutcome outcome)
      (hvalid : validate_request_delivery_receipt original row.sender row.message = .ok ())
      (hrest : Reported store conversation_id original ids outcomes) :
      Reported store conversation_id original (message_id :: ids) (outcome :: outcomes)

theorem Reported.observe {original : ApplicationMessage} {ids : List MessageId}
    {outcomes : List RequestDeliveryOutcome}
    (h : Reported store conversation_id original ids outcomes)
    {current next : Option RequestDeliveryOutcome}
    (hfold : observe_all current outcomes = .ok next) :
    observe_stored_outcomes store conversation_id original current ids = .ok next := by
  induction h generalizing current with
  | nil =>
    cases hfold
    rfl
  | absent hload _ ih =>
    rw [observe_stored_outcomes, hload]
    exact ih hfold
  | receipt hload hcontent hvalid _ ih =>
    rw [observe_all_cons] at hfold
    obtain ⟨settled, hsettled, hfold⟩ := bind_ok.1 hfold
    rw [observe_stored_outcomes, hload, ok_bind]
    dsimp only
    rw [hcontent]
    dsimp only
    rw [hvalid]
    dsimp only
    rw [hsettled]
    exact ih hfold

/-- What is stored under the two identifiers of the request's receipts are receipts that agree
with this one, and there is no expiry beside an admission. -/
def ReplayStore.ReceiptsAgree (host : Host σ) (store : ReplayStore σ)
    (conversation_id : ConversationId) (sender : DeviceId) (message : ApplicationMessage)
    (outcome : RequestDeliveryOutcome) : Prop :=
  ∀ request_id original, message.reply_to = some request_id →
    load_history_record store conversation_id request_id = .ok (some original) →
    ∃ outcomes, Reported store conversation_id original.message
        [host.derive_request_delivery_identifiers conversation_id original.message.message_id sender
            .Admitted,
          host.derive_request_delivery_identifiers conversation_id original.message.message_id
            sender .EndedWithoutResponse] outcomes
      ∧ Agree (outcomes ++ [outcome]) ∧ ¬ Mixed (outcomes ++ [outcome])

/-- A receipt fits its request again when the receipts that are stored by then agree. -/
theorem verify_history_receipt_again
    (h : verify_history_receipt host store conversation_id sender message = .ok ())
    (hkeeps : store.KeepsMessages now)
    (hagree : ∀ outcome, message.content = .RequestDeliveryOutcome outcome →
      now.ReceiptsAgree host conversation_id sender message outcome) :
    verify_history_receipt host now conversation_id sender message = .ok () := by
  rw [verify_history_receipt] at h ⊢
  split at h
  · rename_i outcome hcontent
    obtain ⟨request_id, hreply, h⟩ := some_or_ok.1 h
    obtain ⟨found, hload, h⟩ := bind_ok.1 h
    obtain ⟨original, rfl, h⟩ := some_or_ok.1 h
    obtain ⟨hcomplete, h⟩ := require_ok.1 h
    obtain ⟨current, hcurrent, hgrows⟩ := hkeeps.history _ _ _ hload
    cases hvalid : validate_request_delivery_receipt original.message sender message with
    | error error =>
      rw [hvalid] at h
      cases h
    | ok _ =>
      rw [hvalid] at h
      obtain ⟨hid, -⟩ := require_ok.1 h
      obtain ⟨outcomes, hreported, hends, happart⟩ :=
        hagree outcome hcontent request_id current hreply hcurrent
      obtain ⟨last, hfold⟩ : ∃ last, observe_all none (outcomes ++ [outcome]) = .ok last :=
        observe_all_ok hends happart
      rw [observe_all_append] at hfold
      obtain ⟨observed, hobserved, hlast⟩ := bind_ok.1 hfold
      rw [observe_all_cons] at hlast
      obtain ⟨settled, hsettled, -⟩ := bind_ok.1 hlast
      rw [verify_request_delivery_receipt, some_or_bind hreply, hcurrent, ok_bind,
        some_or_bind rfl, require_bind (hgrows.complete hcomplete), hgrows.message, hvalid]
      dsimp only
      rw [hgrows.message] at hreported
      rw [require_bind hid, hreported.observe hobserved, ok_bind, hsettled]
      rfl
  · rfl

/-- The policy of a conversation. -/
def ReplayStore.policy (store : ReplayStore σ) (conversation_id : ConversationId) :
    Option ConversationState :=
  (store.conversation.get? conversation_id).map (·.state)

/-- A message enters the history once. A delivery receipt is judged by the receipts stored
since, and a reply by the policy, so those must agree and this must be unchanged. -/
theorem insert_or_verify_history_again {conversation : ConversationRow}
    (h : insert_or_verify_history host store conversation_id envelope_id (some cursor) .Inbound
      sender epoch message = .ok store') (hkeeps : store'.KeepsMessages now)
    (hconv : now.conversation.get? conversation_id = some conversation)
    (hstate : conversation.state.conversation_id = conversation_id)
    (hreceipt : ∀ outcome, message.content = .RequestDeliveryOutcome outcome →
      now.ReceiptsAgree host conversation_id sender message outcome)
    (hpolicy : now.policy conversation_id = store.policy conversation_id
      ∨ ∀ state ∈ now.policy conversation_id, state.request_service = none)
    (hreserved : host.collaboration_policy_operation_reserves_message_id now.others conversation_id
        message.message_id
      = host.collaboration_policy_operation_reserves_message_id store.others conversation_id
        message.message_id) :
    insert_or_verify_history host now conversation_id envelope_id (some cursor) .Inbound sender
    epoch message = .ok now := by
  obtain ⟨_, hverified, -⟩ := bind_ok.1 h
  have hentered := insert_or_verify_history_eq_ok h
  obtain ⟨conversation₀, before, committed, hconv₀, hcommit, hcommitted⟩ := hentered.committed
  obtain ⟨row, hrow⟩ := hentered.stored
  obtain ⟨row, hrow⟩ := hrow.keeps hkeeps
  have hver : verify_history_receipt host now conversation_id sender message = .ok () :=
    verify_history_receipt_again hverified ((hentered.messages rfl).trans hkeeps) hreceipt
  have hreply : commit_request_service_reply_in now conversation.state sender message
      = .ok now := by
    rcases hpolicy with hsame | hnone
    · rw [policy, policy, hconv, hconv₀] at hsame
      rw [show conversation.state = conversation₀.state from Option.some.inj hsame]
      exact commit_request_service_reply_in_again hcommit (hcommitted.trans hkeeps)
    · have hservice := hnone conversation.state (by rw [policy, hconv]; rfl)
      exact commit_request_service_reply_in_eq_ok.2 (by rw [hservice])
  have hget := (load_history_record_eq.1 hrow.loaded).1
  rw [insert_or_verify_history, hver, ok_bind, some_or_bind hconv]
  dsimp only
  rw [require_bind hstate, require_unreserved_message_again hentered.unreserved
      ((hentered.messages rfl).trans hkeeps) hreserved, ok_bind,
    to_sql_integer_ok.2 ⟨hentered.cursor_le, rfl⟩, ok_bind,
    to_sql_integer_ok.2 ⟨hentered.epoch_le, rfl⟩, ok_bind,
    to_sql_integer_ok.2 ⟨hentered.counter_le, rfl⟩, ok_bind, insert?_of_get? hget]
  dsimp only
  rw [hrow.loaded, ok_bind, some_or_bind rfl,
    require_bind ⟨hrow.envelope_id, hrow.sender, hrow.epoch, hrow.message⟩,
    store_internal_application_marker_again hrow.loaded hrow.message, hreply, ok_bind]
  unfold verify_history_cursor
  rw [hrow.cursor cursor rfl]
  exact require_bind rfl

/-! ## Saved messages

The repeat goes through the inbox row and the history, both of which hold the message. -/

/-- The row at a cursor is the one its envelope is loaded from. -/
theorem load_inbox_envelope_row (hrow : store.inbox.get? (conversation_id, cursor) = some row)
    (hload : load_inbox_envelope store row.stored.envelope.envelope_id = .ok stored) :
    row.stored = stored ∧ stored.cursor = cursor ∧ store.Binds conversation_id stored := by
  obtain ⟨found, conversation, hmem, rfl, hid, hconv, hrouting, hcur, hobs⟩ :=
    load_inbox_envelope_eq_ok.1 hload
  obtain ⟨hmem', hkey⟩ := Table.get?_iff.1 hrow
  obtain rfl : found = row := by
    refine store.inbox.eq_of_name (n := .envelope row.stored.envelope.envelope_id) hmem hmem' ?_ ?_
    · rw [InboxRow.names, hid]
      exact List.mem_cons_self
    · exact List.mem_cons_self
  cases hkey
  exact ⟨rfl, rfl, hcur, ⟨conversation, hconv, hrouting.symm⟩, hobs⟩

theorem save_inbox_message_again {sender_epoch : ℕ}
    (h : save_inbox_message host store conversation_id cursor sender sender_epoch message
      = (.ok (), store'))
    (hgrows : store'.Grows now) (hkeeps : store'.KeepsMessages now) (hheads : now.HeadsSound host)
    (hreceipt : ∀ outcome, message.content = .RequestDeliveryOutcome outcome →
      now.ReceiptsAgree host conversation_id sender message outcome)
    (hpolicy : now.policy conversation_id = store.policy conversation_id
      ∨ ∀ state ∈ now.policy conversation_id, state.request_service = none)
    (hreserved : host.collaboration_policy_operation_reserves_message_id now.others conversation_id
        message.message_id
      = host.collaboration_policy_operation_reserves_message_id store.others conversation_id
        message.message_id) :
    save_inbox_message host now conversation_id cursor sender sender_epoch message
      = (.ok (), now) := by
  obtain ⟨hreplays, row, stored, hrow, hmsg, hstored, hlen, before, hconv, hothers,
    hhist⟩ := save_inbox_message_eq_ok h
  have hentered := insert_or_verify_history_eq_ok hhist
  obtain ⟨row', hrow', hsame⟩ := hgrows.inbox _ _ hrow
  have hmsg' := hsame.message hmsg
  rw [← hsame.1] at hstored hlen hhist
  have hstored' := load_inbox_envelope_grows (hreplays.updates.changes.grows.trans hgrows) hstored
  obtain ⟨hstored_row, hnumber, hbinds⟩ := load_inbox_envelope_row hrow' hstored'
  obtain ⟨conversation, hget, hrouting⟩ := hbinds.conversation
  have hread := load_message_at_eq_ok.2 ⟨row', conversation, _, hrow', hget, hmsg', rfl,
    validate_blob_length_of_seal hlen, by rw [hstored_row, hrouting]⟩
  have hstate : conversation.state.conversation_id = conversation_id :=
    (hheads.conversation _ _ hget).state.trans (Table.key_of_get? hget)
  have hagain := insert_or_verify_history_again hhist hkeeps hget hstate hreceipt
    (by rw [show before.policy conversation_id = store.policy conversation_id by
      rw [policy, policy, hconv]]; exact hpolicy)
    (by rw [hothers]; exact hreserved)
  rw [save_inbox_message, some_or_bind hrow']
  dsimp only
  rw [hstored', ok_bind, require_bind hnumber, hlen, ok_bind,
    to_sql_integer_ok.2 ⟨hentered.epoch_le, rfl⟩, ok_bind,
    to_sql_integer_ok.2 ⟨hentered.counter_le, rfl⟩, ok_bind]
  split
  · rename_i hrecv
    rw [hrecv] at hmsg'
    cases hmsg'
  · rw [hread, ok_bind, require_bind ⟨rfl, rfl, rfl⟩, hagain]
    rfl

/-! ## Completions

A completed cursor answers from the replay cursor of its conversation. -/

namespace ReplayStore

/-- A conversation that completed a cursor has the head of a completion. -/
def Replayed (store : ReplayStore σ) : Prop :=
  ∀ conversation_id cursor, store.completed conversation_id cursor = true →
    ∃ row, store.conversation.get? conversation_id = some row
      ∧ ∀ head ∈ row.replay_head, head.kind ≠ .Join

theorem Replayed.change (h : store.Replayed)
    (hchange : Change host store store') : store'.Replayed := by
  intro conversation_id cursor hdone
  -- the cursor was completed before, or its conversation moves to it now
  have hbefore : (∃ row, store.conversation.get? conversation_id = some row
      ∧ ∃ row', store'.conversation.get? conversation_id = some row'
        ∧ (row'.replay_cursor = row.replay_cursor →
          ∀ head ∈ row.replay_head, head.kind ≠ .Join)) := by
    have hold : store.completed conversation_id cursor = true →
        ∃ row, store.conversation.get? conversation_id = some row
          ∧ ∃ row', store'.conversation.get? conversation_id = some row'
            ∧ (row'.replay_cursor = row.replay_cursor →
              ∀ head ∈ row.replay_head, head.kind ≠ .Join) := by
      intro hdone
      obtain ⟨row, hrow, hhead⟩ := h conversation_id cursor hdone
      obtain ⟨row', hrow', -⟩ := hchange.grows.conversation _ _ hrow
      exact ⟨row, hrow, row', hrow', fun _ => hhead⟩
    cases hchange.progress with
    | none _ hsame =>
      rw [hsame] at hdone
      exact hold hdone
    | next conversation number hrow hnext hcurs hsame =>
      rw [hsame, Bool.or_eq_true, decide_eq_true_eq] at hdone
      rcases hdone with hthis | hdone
      · cases hthis
        obtain ⟨row', hrow', hcur'⟩ := hcurs _ _ hrow
        rw [if_pos rfl, hnext] at hcur'
        exact ⟨conversation, hrow, row', hrow', fun hsame => by omega⟩
      · exact hold hdone
  obtain ⟨row, hrow, row', hrow', hhead⟩ := hbefore
  refine ⟨row', hrow', ?_⟩
  cases hchange.conversation_origin hrow' with
  | inserted hfree =>
    rw [hrow] at hfree
    cases hfree
  | kept found hfound hsame =>
    cases hrow.symm.trans hfound
    rw [hsame.replay_head]
    exact hhead hsame.replay_cursor
  | completed found message stored _ hrow' | membership_completed found transition _ _ _ hrow' =>
    subst hrow'
    rintro head ⟨⟩
    nofun
  | published found record head _ _ hload _ hadvance hrow' =>
    cases hrow.symm.trans (get?_of_conversation hload)
    subst hrow'
    rcases advance_replay_head_state_eq_ok hadvance with ⟨-, rfl⟩ | ⟨current, hcurrent, rfl, -⟩
    · rintro _ ⟨⟩
    · rintro _ ⟨⟩
      exact hhead rfl current hcurrent

theorem Replayed.after (host : Host σ) (others : σ) (calls : List StoreCall) :
    (after host others calls).Replayed := by
  refine run_calls_keeps (fun _ _ h hchange => h.change hchange) (fun _ _ h => h) calls ?_
  intro _ _ hdone
  cases hdone

/-- What is known of the store after any calls. -/
structure Reached (host : Host σ) (store : ReplayStore σ) : Prop where
  heads : store.HeadsSound host
  replayed : store.Replayed
  counted : store.Counted
  completed : ∀ conversation_id cursor, store.completed conversation_id cursor = true →
    ∃ row, store.conversation.get? conversation_id = some row ∧ cursor ≤ row.replay_cursor

theorem Reached.after (host : Host σ) (others : σ) (calls : List StoreCall) :
    (after host others calls).Reached host := by
  refine ⟨.after host others calls, .after host others calls, .after host others calls,
    fun conversation_id cursor hdone => ?_⟩
  obtain ⟨row, hrow, -⟩ := Replayed.after host others calls _ _ hdone
  obtain ⟨baseline, -, row', hrow', -, hiff⟩ := CompletedFrom.after host others calls hrow
  exact ⟨row', hrow', ((hiff cursor).1 hdone).2⟩

/-- A conversation can be loaded once it completed a cursor. -/
theorem Reached.loads (h : store.Reached host)
    (hdone : store.completed conversation_id cursor = true) :
    ∃ row, load_conversation host store conversation_id = .ok row ∧ cursor ≤ row.replay_cursor := by
  obtain ⟨row, hrow, hkind⟩ := h.replayed _ _ hdone
  obtain ⟨row', hrow', hcur⟩ := h.completed _ _ hdone
  cases hrow.symm.trans hrow'
  exact ⟨row, (h.heads.conversation _ _ hrow).loads hrow hkind, hcur⟩

end ReplayStore

theorem InboxRow.Grows.complete {row' : InboxRow} (h : row.Grows row')
    (hcomplete : row.state.is_complete = true) : row'.state.is_complete = true := by
  rcases h.2 with hrecv | hsame | hdone
  · rw [hrecv] at hcomplete
    cases hcomplete
  · rw [hsame]
    exact hcomplete
  · rw [hdone]
    cases hstate : row.state with
    | Complete message => rfl
    | _ =>
      rw [hstate] at hcomplete
      cases hcomplete

theorem complete_inbox_again {seconds : ℕ}
    (h : complete_inbox_with_notification_at host store conversation_id cursor notification_id
      seconds = (.ok reached, store'))
    (hstore : store.Grows store') (hgrows : store'.Grows now) (hreached : now.Reached host) :
    ∃ current, complete_inbox_with_notification_at host now conversation_id cursor notification_id
    seconds = (.ok current, now) := by
  obtain ⟨-, ⟨message, stored, row, hmsg, hstored, hrow, hcomplete⟩, -⟩ := complete_inbox_eq_ok h
  have hmsg := load_message_at_grows (hstore.trans hgrows) hmsg
  have hstored := load_inbox_envelope_grows (hstore.trans hgrows) hstored
  obtain ⟨row', hrow', hsame⟩ := hgrows.inbox _ _ hrow
  have hcomplete' := hsame.complete hcomplete
  have hdone : now.completed conversation_id cursor = true := by
    rw [completed, hrow', Option.any_some, hcomplete', Bool.true_or]
  obtain ⟨conversation, hload, hpast⟩ := hreached.loads hdone
  obtain ⟨found, -, saved, hfound, -, hsaved, rfl, -⟩ := load_message_at_eq_ok.1 hmsg
  cases hrow'.symm.trans hfound
  obtain ⟨-, hnumber, hbinds⟩ := load_inbox_envelope_row hrow' hstored
  obtain ⟨found, hfound, hrouting⟩ := hbinds.conversation
  cases (get?_of_conversation hload).symm.trans hfound
  have hverify : verify_cursor_observation now conversation_id cursor stored.envelope = .ok () := by
    rw [← hnumber]
    exact verify_cursor_observation_ok.2 ⟨hbinds.cursor, hbinds.observed⟩
  have hmessage_complete : now.CompletedMessage conversation_id cursor saved := by
    refine ⟨row', hrow', ?_⟩
    cases hstate : row'.state with
    | Complete message =>
      rw [hstate] at hsaved
      rw [Option.some.inj hsaved]
    | _ =>
      rw [hstate] at hcomplete'
      cases hcomplete'
  obtain ⟨highest, hhighest, hle⟩ := hreached.counted.high_water _ _ _ hmessage_complete
  refine ⟨conversation.replay_cursor, ?_⟩
  rw [complete_inbox_with_notification_at, hload, ok_bind, hmsg, ok_bind]
  dsimp only
  rw [hstored, ok_bind, require_bind ⟨hnumber, hrouting.symm⟩, hverify, ok_bind, if_pos hpast,
    require_bind ⟨⟨row', hrow', hcomplete'⟩, highest, hhighest, hle⟩]
  rfl

theorem complete_membership_inbox_again
    (h : complete_membership_inbox_with_notification host store conversation_id cursor
      notification_id = (.ok reached, store'))
    (hstore : store.Grows store') (hgrows : store'.Grows now) (hreached : now.Reached host) :
    ∃ current, complete_membership_inbox_with_notification host now conversation_id cursor
    notification_id = (.ok current, now) := by
  obtain ⟨-, ⟨transition, before, _, hread, hrow, rfl, hbefore, hbnd, hobs⟩, -⟩ :=
    complete_membership_inbox_eq_ok h
  have hread := (hread.of_row hstore hrow rfl).grows hgrows
  have hdone : now.completed conversation_id transition.stored.cursor = true := by
    rw [completed, hread.row, Option.any_some, Bool.or_eq_true]
    exact .inr rfl
  obtain ⟨conversation, hload, hpast⟩ := hreached.loads hdone
  obtain ⟨found, hfound, -, hself⟩ := (hstore.trans hgrows).conversation _ _ hbefore
  cases (get?_of_conversation hload).symm.trans hfound
  rw [← hself] at hbnd
  have hverify : verify_cursor_observation now conversation_id transition.stored.cursor
      transition.stored.envelope = .ok () := by
    obtain ⟨hcur, hmem⟩ := verify_cursor_observation_ok.1 hobs
    exact verify_cursor_observation_ok.2 ⟨hcur, (hstore.trans hgrows).cursor_observation _ hmem⟩
  obtain ⟨stored, transition⟩ := transition
  refine ⟨conversation.replay_cursor, ?_⟩
  rw [complete_membership_inbox_with_notification, membership_inbox_operation_complete.2 hread,
    ok_bind, MembershipInboxOperation.saved, ok_bind]
  dsimp only at hbnd hverify hpast ⊢
  rw [require_bind rfl, hload, ok_bind, hbnd, ok_bind, hverify, ok_bind, if_pos hpast,
    require_bind rfl]
  rfl

end Konclave.Daemon.Replay
