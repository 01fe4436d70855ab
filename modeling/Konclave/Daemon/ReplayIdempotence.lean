/-
The inbound replay ledger against an arbitrary relay.

The remaining calls of replay are repeated here: a saved membership transition, and an
accepted envelope of the device's own. Together with what a run of calls keeps this is the
ledger: observations are a partial injection, every cursor past the baseline is completed
once and in order, the counters of a sender grow, and a call that succeeded answers again.
-/
import Konclave.Daemon.ReplayRepeats

set_option autoImplicit false

namespace Konclave.Daemon.Replay

open Domain Cryptographic RemoteEvents ReplayStore FixedBytes Option

variable {σ : Type} {host : Host σ} {store store' now : ReplayStore σ}

section

/-! ## Saved transitions

A transition is judged by the policy before the saved row is looked at. -/

variable {conversation_id : ConversationId} {cursor : ℕ} {transition : MembershipTransition}
  {stored : StoredRelayEnvelope} {row : OutboxRow}

/-- A transition that was read can be read again after whatever came later. -/
theorem MembershipRead.stays (h : store.Grows now)
    {transition : StoredMembershipTransition} {state : MembershipInboxState}
    (hread : MembershipRead host store conversation_id cursor transition state) :
    ∃ state', MembershipRead host now conversation_id cursor transition state' := by
  obtain ⟨row', hrow', hgrows⟩ := h.membership_inbox _ _ hread.row
  have hkey : row'.conversation_id = conversation_id := congrArg Prod.fst (Table.get?_iff.1 hrow').2
  have hstored : row'.stored = transition.stored := hgrows.1
  refine ⟨row'.state, hread.of_row h ?_ (hgrows.transition hread.saved)⟩
  rw [hrow', ← hkey, ← hstored]

theorem save_membership_inbox_transition_record_again
    {saved : MembershipTransition} {state : MembershipInboxState}
    (hread : MembershipRead host now conversation_id cursor ⟨stored, saved⟩ state)
    (hsame : saved.Same transition)
    (hlen : seal_length (host.transition_length ⟨stored, transition⟩) = .ok ())
    (hparent : transition.parent_epoch ≤ I64_MAX) :
    save_membership_inbox_transition_record host now conversation_id cursor transition
      = .ok now := by
  obtain ⟨henv, htr⟩ := hread.loads
  rw [save_membership_inbox_transition_record, some_or_bind hread.row]
  dsimp only at henv htr ⊢
  rw [henv, ok_bind, hlen, ok_bind, to_sql_integer_ok.2 ⟨hparent, rfl⟩, ok_bind]
  split
  · have hsaved := hread.saved
    cases hsaved
  · rw [htr, ok_bind]
    exact require_bind ⟨hsame.sender, hsame.parent_epoch, hsame.operation_id, hsame.control,
      hsame.next_state, hsame.bindings⟩

/-- A transition is saved again while the policy is the one it was checked against. -/
theorem save_membership_inbox_transition_again {row : ConversationRow}
    (h : save_membership_inbox_transition host store conversation_id cursor transition
      = (.ok (), store')) (hgrows : store'.Grows now)
    (hload : load_conversation host now conversation_id = .ok row)
    (hpolicy : store.policy conversation_id = some row.state) :
    save_membership_inbox_transition host now conversation_id cursor transition
      = (.ok (), now) := by
  obtain ⟨hreplays, current, hcur, ⟨hconv, hop, hparent, hepoch, happly⟩,
    hbnd, stored, kept, state, hread, hsame, hlen, hbound⟩ :=
    save_membership_inbox_transition_eq_ok h
  -- the conversation is the same one, under the same policy
  have hget := get?_of_conversation hcur
  have hstate : row.state = current.state := by
    rw [policy, hget] at hpolicy
    exact (some.inj hpolicy).symm
  obtain ⟨found, hfound, -, hself⟩ :=
    (hreplays.updates.changes.grows.trans hgrows).conversation _ _ hget
  cases (get?_of_conversation hload).symm.trans hfound
  obtain ⟨state', hread'⟩ := hread.stays hgrows
  rw [← hstate] at hepoch happly
  rw [← hself] at hbnd
  rw [save_membership_inbox_transition]
  dsimp only
  rw [hload, ok_bind, require_bind ⟨hconv, hop, hparent, hepoch, happly⟩, hbnd,
    ok_bind, save_membership_inbox_transition_record_again hread' hsame hlen hbound]
  rfl

/-! ## Accepted envelopes

What was accepted at a cursor is accepted there again. -/

theorem AcceptedOutbox.grows (h : AcceptedOutbox store stored row) (hgrows : store.Grows now)
    (hkeeps : store.KeepsMessages now) : AcceptedOutbox now stored row := by
  refine ⟨hkeeps.outbox _ _ _ _ h.loaded h.state, h.state, h.binds.grows hgrows, ?_⟩
  obtain ⟨history, hhist, henv, hcur⟩ := h.history
  obtain ⟨history', hhist', hkept⟩ := hkeeps.history _ _ _ hhist
  exact ⟨history', hhist', hkept.envelope_id.trans henv, hkept.cursor _ hcur⟩

theorem AcceptedOutbox.loads (h : AcceptedOutbox store stored row) :
    load_outbox_record store stored.envelope.envelope_id = .ok ⟨row, stored.envelope⟩ := by
  obtain ⟨conversation, hconv, hrouting⟩ := h.binds.conversation
  have henv : row.state.envelope = some stored.envelope := by
    rw [h.state]
    rfl
  rw [load_outbox_record, some_or_bind h.loaded, some_or_bind hconv,
    some_or_bind henv, require_bind ⟨rfl, hrouting.symm⟩]
  rfl

/-- An accepted envelope is accepted again at its cursor. -/
theorem AcceptedOutbox.accepts (h : AcceptedOutbox store stored row) (accept_terminal : Bool) :
    accept_outbox_in_transaction store ⟨row, stored.envelope⟩ stored accept_terminal
    = .ok store := by
  obtain ⟨history, hhist, henv, hcur⟩ := h.history
  have hacc : accepted_outbox store ⟨row, stored.envelope⟩ stored accept_terminal = .ok store := by
    rw [accepted_outbox]
    dsimp only
    rw [h.state]
    dsimp only
    rw [require_bind rfl, verify_cursor_observation_ok.2 ⟨h.binds.cursor, h.binds.observed⟩]
    rfl
  have hassign : assign_history_cursor store row.conversation_id row.message_id row.envelope_id
      stored.cursor = .ok (true, store) := by
    have hsame : ∀ existing ∈ history.cursor, existing = stored.cursor := by
      rw [hcur]
      rintro _ ⟨⟩
      rfl
    rw [assign_history_cursor, hhist, ok_bind]
    dsimp only
    rw [require_bind ⟨henv, hsame⟩, if_pos hcur]
    rfl
  rw [accept_outbox_in_transaction, hacc, ok_bind]
  dsimp only
  rw [hassign, ok_bind]
  exact require_bind rfl

/-- The device's own message of an envelope. -/
theorem outbound_named_eq_some {envelope_id : EnvelopeId}
    {row : HistoryRow} : ((store.message_history.named? (.envelope envelope_id)).filter fun row =>
        decide (row.conversation_id = conversation_id ∧ row.direction = .Outbound)) = some row
    ↔ row ∈ store.message_history.rows ∧ row.envelope_id = envelope_id
      ∧ row.conversation_id = conversation_id ∧ row.direction = .Outbound := by
  have hname : HistoryName.envelope envelope_id ∈ row.names ↔ row.envelope_id = envelope_id := by
    simp [HistoryRow.names, eq_comm]
  rw [filter_eq_some_iff, UniqueTable.named?_eq_some_iff, hname, decide_eq_true_eq, and_assoc]

/-- The history row of an own message is found again. -/
theorem outbound_history_message_again (host : Host σ)
    {history : Option HistoryRow}
    (h : outbound_history_message store conversation_id stored = (.ok history, store'))
    (hgrows : store'.Grows now) (hkeeps : store'.KeepsMessages now) :
    ∃ current, outbound_history_message now conversation_id stored = (.ok current, now) := by
  obtain ⟨hreplays, ⟨conversation, hconv⟩, hsent⟩ := outbound_history_message_eq_ok host h
  obtain ⟨conv', hconv', -⟩ := (hreplays.updates.changes.grows.trans hgrows).conversation _ _ hconv
  have hkept := hreplays.messages.trans hkeeps
  rcases hsent with hnone | ⟨sent, row, hsent, hrow, hnamed, hacc, before, hbefore⟩
  · refine ⟨none, ?_⟩
    -- a message of the device's own that is there now was there before
    have hnone' : ((now.message_history.named? (.envelope stored.envelope.envelope_id)).filter
        fun row => decide (row.conversation_id = conversation_id ∧ row.direction = .Outbound))
        = none := by
      refine eq_none_iff_forall_not_mem.2 fun row' hrow' => ?_
      obtain ⟨hmem', hid', hconv', hdir'⟩ := outbound_named_eq_some.1 hrow'
      obtain ⟨row, hmem, hsame⟩ := hkept.outbound row' hmem' hdir'
      have hrow := outbound_named_eq_some.2 ⟨hmem, hsame.envelope_id.symm.trans hid',
        hsame.conversation_id.symm.trans hconv', hsame.direction.symm.trans hdir'⟩
      rw [hnone] at hrow
      cases hrow
    rw [outbound_history_message, some_or_bind hconv']
    dsimp only
    rw [hnone']
    rfl
  · obtain ⟨hmem, hid, hsent_conversation, hdir⟩ := outbound_named_eq_some.1 hsent
    have hacc := hacc.grows hgrows hkeeps
    -- the stored message is the one that was sent, and the envelope still names it
    obtain rfl : sent = before := by
      have hget := store.message_history.get?_of_mem hmem
      rw [hsent_conversation] at hget
      exact some.inj (hget.symm.trans (load_history_record_eq.1 hbefore).1)
    obtain ⟨current, hcur, hsame⟩ := hkept.history _ _ _ hbefore
    obtain ⟨hcurrent_mem, -⟩ := Table.get?_iff.1 (load_history_record_eq.1 hcur).1
    have hnow := outbound_named_eq_some.2 ⟨hcurrent_mem, hsame.envelope_id.trans hid,
      hsame.conversation_id.trans hsent_conversation, hsame.direction.trans hdir⟩
    refine ⟨some current, ?_⟩
    rw [outbound_history_message, some_or_bind hconv']
    dsimp only
    rw [hnow]
    dsimp only
    rw [hacc.loads, ok_bind, hsame.message, require_bind ⟨hrow, hnamed, rfl⟩,
      hacc.accepts, ok_bind, hcur, ok_bind, some_or_bind rfl]
    rfl

/-! ## Repeated calls

One condition for all calls, and the repeat of each under it. -/

/-- What a repeated call is judged by besides the ledger. A delivery receipt is judged by the
receipts stored since, which must agree with it; a message of a request-service conversation
and a membership transition are judged by the policy, which must be as it was. -/
def StoreCall.Repeatable (host : Host σ) (store now : ReplayStore σ) : StoreCall → Prop
  | .save_inbox_message conversation_id _ sender _ message =>
    (∀ outcome, message.content = .RequestDeliveryOutcome outcome →
        now.ReceiptsAgree host conversation_id sender message outcome)
      ∧ (now.policy conversation_id = store.policy conversation_id
        ∨ ∀ state ∈ now.policy conversation_id, state.request_service = none)
      ∧ host.collaboration_policy_operation_reserves_message_id now.others conversation_id
          message.message_id
        = host.collaboration_policy_operation_reserves_message_id store.others conversation_id
          message.message_id
  | .save_membership_inbox_transition conversation_id _ _ =>
    ∃ row, load_conversation host now conversation_id = .ok row
      ∧ store.policy conversation_id = some row.state
  | _ => True

theorem answered_eq_ok {α : Type} {result : Except ProfileStoreError α × ReplayStore σ}
    (h : (answered result).1 = .ok ()) : ∃ a, result = (.ok a, (answered result).2) := by
  obtain ⟨a, ha, -⟩ := map_eq_ok.1 h
  exact ⟨a, Prod.ext ha rfl⟩

/-- A replayed call that succeeded succeeds again and changes nothing. -/
theorem StoreCall.run_again (call : StoreCall) (hcall : call.is_replay = true)
    (hok : (call.run host store).1 = .ok ()) (hgrows : (call.run host store).2.Grows now)
    (hkeeps : (call.run host store).2.KeepsMessages now) (hreached : now.Reached host)
    (hrepeat : call.Repeatable host store now) : call.run host now = (.ok (), now) := by
  have hstore : store.Grows (call.run host store).2 := ReplayStore.Grows.run_calls host store [call]
  cases call with
  | record_inbox_envelope stored =>
    obtain ⟨id, h⟩ := answered_eq_ok hok
    exact congrArg answered (record_inbox_envelope_again host h hgrows)
  | record_membership_inbox_envelope stored =>
    obtain ⟨id, h⟩ := answered_eq_ok hok
    exact congrArg answered (record_membership_inbox_envelope_again host h hgrows)
  | save_inbox_message id cursor sender sender_epoch message =>
    obtain ⟨hreceipt, hpolicy, hreserved⟩ := hrepeat
    exact save_inbox_message_again (Prod.ext hok rfl) hgrows hkeeps hreached.heads hreceipt
      hpolicy hreserved
  | complete_inbox id cursor notification_id seconds =>
    obtain ⟨reached, h⟩ := answered_eq_ok hok
    obtain ⟨current, hagain⟩ := complete_inbox_again h hstore hgrows hreached
    exact congrArg answered hagain
  | save_membership_inbox_transition id cursor transition =>
    obtain ⟨row, hload, hpolicy⟩ := hrepeat
    exact save_membership_inbox_transition_again (Prod.ext hok rfl) hgrows hload hpolicy
  | complete_membership_inbox id cursor notification_id =>
    obtain ⟨reached, h⟩ := answered_eq_ok hok
    obtain ⟨current, hagain⟩ := complete_membership_inbox_again h hstore hgrows hreached
    exact congrArg answered hagain
  | mark_outbox_accepted stored =>
    obtain ⟨-, row, hacc⟩ := mark_outbox_accepted_eq_ok host (Prod.ext hok rfl)
    have hacc := hacc.grows hgrows hkeeps
    show Replay.mark_outbox_accepted now stored = _
    rw [Replay.mark_outbox_accepted, hacc.loads, ok_bind, require_bind rfl, hacc.accepts, ok_bind]
    rfl
  | outbound_history_message id stored =>
    obtain ⟨history, h⟩ := answered_eq_ok hok
    obtain ⟨current, hagain⟩ := outbound_history_message_again host h hgrows hkeeps
    exact congrArg answered hagain
  | _ => cases hcall

namespace ReplayStore

/-- Replays do not take messages away. -/
theorem KeepsMessages.run_calls (host : Host σ) (store : ReplayStore σ)
    (calls : List StoreCall) (hcalls : ∀ call ∈ calls, call.is_replay = true) :
    store.KeepsMessages (store.run_calls host calls) :=
  List.foldlRecOn calls _ (.refl store) fun _ h call hcall =>
    h.trans (call.run_keepsMessages (hcalls call hcall))

/-! ## The ledger

The clauses about every run, each from its invariant. -/

/-- The envelopes of the completed records of a cursor. -/
def completed_records (store : ReplayStore σ) (conversation_id : ConversationId)
    (cursor : ℕ) : List StoredRelayEnvelope :=
  ((store.inbox.get? (conversation_id, cursor)).filter (·.state.is_complete)).toList.map (·.stored)
    ++ ((store.membership_inbox.get? (conversation_id, cursor)).filter
      (·.state.is_complete)).toList.map (·.stored)

theorem completed_records_of_not (h : store.completed conversation_id cursor = false) :
    store.completed_records conversation_id cursor = [] := by
  rw [completed, Bool.or_eq_false_iff] at h
  rw [completed_records]
  cases hinbox : store.inbox.get? (conversation_id, cursor) <;>
    cases hmembership : store.membership_inbox.get? (conversation_id, cursor) <;>
    simp_all

/-- A completed cursor has one record, and its envelope is the observed one: the two inboxes
hold envelopes of different delivery classes. -/
theorem Recorded.completed_records_of_completed (hrec : store.Recorded)
    (h : store.completed conversation_id cursor = true) :
    ∃ observed ∈ store.cursor_observation.rows, observed.conversation_id = conversation_id
    ∧ observed.stored.cursor = cursor ∧ store.completed_records conversation_id cursor
    = [observed.stored] := by
  have hother : ∀ row row', store.inbox.get? (conversation_id, cursor) = some row →
      store.membership_inbox.get? (conversation_id, cursor) = some row' → False := by
    intro row row' hrow hrow'
    obtain ⟨hobs, hclass⟩ := hrec.inbox _ _ _ hrow
    obtain ⟨hobs', hclass'⟩ := hrec.membership_inbox _ _ _ hrow'
    have hcur : row.stored.cursor = cursor := congrArg Prod.snd (Table.key_of_get? hrow)
    have hcur' : row'.stored.cursor = cursor := congrArg Prod.snd (Table.key_of_get? hrow')
    have hsame := store.cursor_observation.eq_of_key_eq hobs hobs'
      (Prod.ext rfl (hcur.trans hcur'.symm))
    rw [show row.stored = row'.stored from congrArg ObservationRow.stored hsame, hclass'] at hclass
    cases hclass
  rw [completed, Bool.or_eq_true] at h
  rw [completed_records]
  rcases h with h | h
  · cases hrow : store.inbox.get? (conversation_id, cursor) with
    | none =>
      rw [hrow] at h
      cases h
    | some row =>
      rw [hrow, any_some] at h
      have hnone : store.membership_inbox.get? (conversation_id, cursor) = none :=
        eq_none_iff_forall_not_mem.2 fun row' hrow' => hother row row' hrow hrow'
      refine ⟨⟨conversation_id, row.stored⟩, (hrec.inbox _ _ _ hrow).1, rfl,
        congrArg Prod.snd (Table.key_of_get? hrow), ?_⟩
      simp [hnone, h]
  · cases hrow : store.membership_inbox.get? (conversation_id, cursor) with
    | none =>
      rw [hrow] at h
      cases h
    | some row =>
      rw [hrow, any_some] at h
      have hnone : store.inbox.get? (conversation_id, cursor) = none :=
        eq_none_iff_forall_not_mem.2 fun row' hrow' => hother row' row hrow' hrow
      refine ⟨⟨conversation_id, row.stored⟩, (hrec.membership_inbox _ _ _ hrow).1, rfl,
        congrArg Prod.snd (Table.key_of_get? hrow), ?_⟩
      simp [hnone, h]

end ReplayStore

/-- The replay ledger of a profile that any calls led to. -/
structure ReplayLedger (host : Host σ) (others : σ) (calls : List StoreCall) : Prop where
  /-- A cursor is bound to one envelope, and an envelope to one cursor of one conversation. -/
  observed_once : ∀ row ∈ (after host others calls).cursor_observation.rows,
    ∀ row' ∈ (after host others calls).cursor_observation.rows,
      (row.conversation_id = row'.conversation_id ∧ row.stored.cursor = row'.stored.cursor)
        ∨ row.stored.envelope.envelope_id = row'.stored.envelope.envelope_id → row = row'
  /-- Once bound it stays bound. -/
  observed : ∀ later, ∀ row ∈ (after host others calls).cursor_observation.rows,
    row ∈ (after host others (calls ++ later)).cursor_observation.rows
  /-- A call leaves the replay cursor of a conversation, or completes the next one. -/
  replay_cursor : ∀ (call : StoreCall) conversation_id row,
    (after host others calls).conversation.get? conversation_id = some row →
      ∃ row', (after host others (calls ++ [call])).conversation.get? conversation_id
          = some row'
        ∧ ((row'.replay_cursor = row.replay_cursor
            ∧ ((call.run host (after host others calls)).1 = .ok () → ∀ cursor,
              call.Completes (after host others calls) conversation_id cursor →
                cursor ≤ row.replay_cursor))
          ∨ (row'.replay_cursor = row.replay_cursor + 1
            ∧ (call.run host (after host others calls)).1 = .ok ()
            ∧ call.Completes (after host others calls) conversation_id
              (row.replay_cursor + 1)))
  /-- The completed cursors are those past the baseline, each by one record of the observed
  envelope. -/
  completed : ∀ conversation_id row,
    (after host others calls).conversation.get? conversation_id = some row →
      ∃ baseline, InsertedAt host others calls conversation_id baseline
        ∧ baseline ≤ row.replay_cursor ∧ ∀ cursor,
          (baseline < cursor ∧ cursor ≤ row.replay_cursor →
            ∃ observed ∈ (after host others calls).cursor_observation.rows,
              observed.conversation_id = conversation_id ∧ observed.stored.cursor = cursor
                ∧ (after host others calls).completed_records conversation_id cursor
                  = [observed.stored])
          ∧ (¬ (baseline < cursor ∧ cursor ≤ row.replay_cursor) →
            (after host others calls).completed_records conversation_id cursor = [])
  /-- The counters of a sender in an epoch grow with the cursors. -/
  counters : ∀ conversation_id cursor cursor' message message',
    (after host others calls).CompletedMessage conversation_id cursor message →
    (after host others calls).CompletedMessage conversation_id cursor' message' →
    message.sender = message'.sender → message.epoch = message'.epoch → cursor < cursor' →
      message.message.sender_counter < message'.message.sender_counter
  /-- A call that succeeded answers again, and changes nothing. -/
  repeats : ∀ (call : StoreCall) later, call.is_replay = true →
    (∀ other ∈ later, other.is_replay = true) →
    (call.run host (after host others calls)).1 = .ok () →
    call.Repeatable host (after host others calls)
      (after host others (calls ++ call :: later)) →
    call.run host (after host others (calls ++ call :: later))
      = (.ok (), after host others (calls ++ call :: later))

/-- Whatever the relay presents and in whatever order, the calls on a profile keep its
replay ledger. -/
theorem inbound_replay_ledger (host : Host σ) (others : σ) (calls : List StoreCall) :
    ReplayLedger host others calls where
  observed_once row hrow row' hrow' hsame := by
    rcases hsame with ⟨hid, hcursor⟩ | hname
    · exact (after host others calls).cursor_observation.eq_of_key_eq hrow hrow'
        (Prod.ext hid hcursor)
    · exact (after host others calls).cursor_observation.eq_of_name hrow hrow'
        (List.mem_singleton.2 rfl) (List.mem_singleton.2 hname)
  observed later row hrow := by
    rw [after_append]
    exact (ReplayStore.Grows.run_calls host _ later).cursor_observation row hrow
  replay_cursor call conversation_id row hrow := by
    rw [after_append]
    exact call.run_cursor hrow
  completed conversation_id row hrow := by
    obtain ⟨baseline, hinserted, found, hfound, hle, hiff⟩ :=
      ReplayStore.CompletedFrom.after host others calls hrow
    cases hrow.symm.trans hfound
    refine ⟨baseline, hinserted, hle, fun cursor => ⟨fun hbetween => ?_, fun hout => ?_⟩⟩
    · exact (ReplayStore.Recorded.after host others calls).completed_records_of_completed
        ((hiff cursor).2 hbetween)
    · refine completed_records_of_not ?_
      rw [Bool.eq_false_iff]
      exact fun hcompleted => hout ((hiff cursor).1 hcompleted)
  counters := (ReplayStore.Counted.after host others calls).increasing
  repeats call later hcall hlater hok hrepeat := by
    have hafter : after host others (calls ++ call :: later)
        = (call.run host (after host others calls)).2.run_calls host later := by
      rw [after_append]
      rfl
    refine call.run_again hcall hok ?_ ?_ (.after host others _) hrepeat
    · rw [hafter]
      exact ReplayStore.Grows.run_calls host _ later
    · rw [hafter]
      exact ReplayStore.KeepsMessages.run_calls host _ later hlater

end

/-! ## A receipt that is not saved again

A device reports that a request expired and then, of an earlier time, that it was admitted.
The second report is taken as late. Once both are stored their outcomes are folded the
other way round, the admission first, and neither can be saved again. -/

namespace LateAdmission

def conversation_id : ConversationId := repeated 32 1
def routing_id : RoutingId := repeated 32 2
def device : DeviceId := repeated 32 3
def target : DeviceId := repeated 32 4
def request_id : MessageId := repeated 16 5
def admitted_id : MessageId := repeated 16 6
def terminal_id : MessageId := repeated 16 7

def profile_host : Host Unit where
  suite := ⟨id, fun _ _ _ => true, fun _ _ => repeated 32 8⟩
  derive_request_delivery_identifiers _ _ _ outcome :=
    if outcome = .Admitted then admitted_id else terminal_id
  message_length _ := 1
  transition_length _ := 1
  collaboration_policy_operation_reserves_message_id _ _ _ := .ok false
  index_collaboration_policy_exchange_in _ _ _ _ := .ok ()
  record_repeat_pairing_content_in _ _ _ _ _ _ _ := .ok ()

def binding : DeviceCredentialBinding :=
  ⟨.application_v1, device, conversation_id, .Ed25519, device, device, repeated 64 9, 0,
    none, no_capabilities⟩

def state : ConversationState :=
  ⟨.application_v1, conversation_id, 0, [⟨device, .Administrator, 0⟩], [], none, by decide,
    none_consumed_le, by decide, none_consumed_nodup, by decide, by decide, by decide⟩

def envelope (id : UInt8) : RelayEnvelope :=
  ⟨.application_v1, routing_id, repeated 16 id, .GroupApplication, none, 1, [0],
    byte_fits, Nat.one_pos, application_epoch⟩

def request : ApplicationMessage :=
  ⟨.application_v1, request_id, 1, 0, none, .DirectedRequest ⟨target, "a", some ⟨some
    ⟨1000, by decide, by decide⟩⟩⟩, Nat.one_pos⟩

def expired : ApplicationMessage :=
  ⟨.application_v1, terminal_id, 1, 1000, some request_id,
    .RequestDeliveryOutcome .ExpiredBeforeAdmission, Nat.one_pos⟩

def admitted : ApplicationMessage :=
  ⟨.application_v1, admitted_id, 2, 0, some request_id, .RequestDeliveryOutcome .Admitted,
    Nat.two_pos⟩

/-- The request is replayed, and the first report recorded. -/
def calls : List StoreCall :=
  [.insert_conversation routing_id binding state [binding] none none,
    .record_inbox_envelope ⟨envelope 1, 1, Nat.one_pos⟩,
    .save_inbox_message conversation_id 1 device 0 request,
    .complete_inbox conversation_id 1 (repeated 16 1) 0,
    .record_inbox_envelope ⟨envelope 2, 2, Nat.two_pos⟩]

def save_expired : StoreCall := .save_inbox_message conversation_id 2 target 0 expired

theorem three_pos : 0 < 3 := by decide

def later : List StoreCall :=
  [.record_inbox_envelope ⟨envelope 3, 3, three_pos⟩,
    .save_inbox_message conversation_id 3 target 0 admitted]

end LateAdmission

open LateAdmission

theorem expired_receipt_not_saved_again : (save_expired.run profile_host
        (after profile_host () calls)).1 = .ok ()
    ∧ (∀ call ∈ save_expired :: later, call.is_replay = true)
    ∧ save_expired.run profile_host (after profile_host () (calls ++ save_expired :: later))
      = (.error .InvalidTransition, after profile_host () (calls ++ save_expired :: later)) := by
  refine ⟨by decide +kernel, by decide +kernel, ?_⟩
  have herror : (save_expired.run profile_host (after profile_host () (calls ++ save_expired
        :: later))).1 = .error .InvalidTransition := by decide +kernel
  exact Prod.ext herror (transaction_eq_error (Prod.ext herror rfl))

/-- As long as no admission is stored, the expiry is saved again. -/
example : save_expired.run profile_host (after profile_host () (calls ++ [save_expired]))
    = (.ok (), after profile_host () (calls ++ [save_expired])) := by
  refine save_expired.run_again rfl (by decide +kernel) (.refl _) (.refl _) (.after _ _ _)
    ⟨?_, .inl rfl, rfl⟩
  rintro _ ⟨⟩ _ original ⟨⟩ hload
  have hrequest : load_history_record (after profile_host () (calls ++ [save_expired]))
      conversation_id request_id = .ok (some ⟨conversation_id, repeated 16 1, some 1, .Inbound,
        true, device, 0, request, none⟩) := by decide +kernel
  cases hrequest.symm.trans hload
  have hexpired : load_history_record (after profile_host () (calls ++ [save_expired]))
      conversation_id terminal_id = .ok (some ⟨conversation_id, repeated 16 2, some 2, .Inbound,
        false, target, 0, expired, none⟩) := by decide +kernel
  refine ⟨[.ExpiredBeforeAdmission], .absent (by decide +kernel)
    (.receipt hexpired rfl (by decide +kernel) .nil), ?_, ?_⟩
  · simp [Agree]
  · simp [Mixed]

/-! ## Reopening

A completed cursor is never lost, and its conversation loads. -/

section

variable {conversation_id : ConversationId} {cursor : ℕ}

theorem MembershipInboxRow.Grows.is_complete {row row' : MembershipInboxRow} (h : row.Grows row')
    (hcomplete : row.state.is_complete = true) : row'.state.is_complete = true := by
  cases hstate : row.state with
  | Complete transition =>
    rw [h.complete hstate]
    rfl
  | _ =>
    rw [hstate] at hcomplete
    cases hcomplete

/-- A cursor stays completed. -/
theorem ReplayStore.Grows.completed (h : store.Grows now)
    (hdone : store.completed conversation_id cursor = true) :
    now.completed conversation_id cursor = true := by
  rw [ReplayStore.completed, Bool.or_eq_true, Option.any_eq_true, Option.any_eq_true] at hdone ⊢
  rcases hdone with ⟨row, hrow, hcomplete⟩ | ⟨row, hrow, hcomplete⟩
  · obtain ⟨row', hrow', hgrows⟩ := h.inbox _ _ hrow
    exact .inl ⟨row', hrow', hgrows.complete hcomplete⟩
  · obtain ⟨row', hrow', hgrows⟩ := h.membership_inbox _ _ hrow
    exact .inr ⟨row', hrow', hgrows.is_complete hcomplete⟩

/-- A conversation that has completed a cursor can be loaded after whatever calls follow, and
never stands before that cursor again. -/
theorem completed_conversation_reopens (host : Host σ) (others : σ) (calls later : List StoreCall)
    (h : (after host others calls).completed conversation_id cursor = true) :
    ∃ row, load_conversation host (after host others (calls ++ later)) conversation_id = .ok row
      ∧ cursor ≤ row.replay_cursor := by
  refine (ReplayStore.Reached.after host others (calls ++ later)).loads ?_
  rw [after_append]
  exact (ReplayStore.Grows.run_calls host _ later).completed h

end

theorem completed_conversation_reopens_sample : ∃ row,
    load_conversation profile_host (after profile_host () (calls ++ save_expired :: later))
      conversation_id = .ok row ∧ 1 ≤ row.replay_cursor :=
  completed_conversation_reopens profile_host () calls (save_expired :: later) (by decide +kernel)

end Konclave.Daemon.Replay
