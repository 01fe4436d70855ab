/-
The order in which delivery receipts arrive.

Receipts for one request come from the network in any order, and their outcomes are folded.
The fold depends on the order only through an expiry that meets an admission: first, it
settles the outcome and the admission is late; second, it is refused. The history folds the
outcomes it has stored, so it accepts such receipts in one order and not in the other.
-/
import Konclave.Daemon.ReplayIdempotence

set_option autoImplicit false

namespace Konclave.Daemon.Replay

open Domain LateAdmission List

variable {current next : Option RequestDeliveryOutcome} {outcome : RequestDeliveryOutcome}
  {outcomes outcomes' : List RequestDeliveryOutcome}

/-! ## Receipts that enter the history

Receipts of one request come from its target. What entering one can do is said for a store
that is an earlier one with the receipts entered since (`Heard`): it succeeds exactly when the
earlier store would take the receipt, it is one of those entered or shares nothing with them,
and the outcomes can be folded. None of this depends on the order of what was entered. -/

/-- A delivery receipt, with what its envelope says. -/
structure Receipt where
  envelope_id : EnvelopeId
  cursor : ℕ
  epoch : ℕ
  message : ApplicationMessage
  outcome : RequestDeliveryOutcome
  content : message.content = .RequestDeliveryOutcome outcome
deriving DecidableEq

theorem Receipt.ext {x y : Receipt} (henvelope : x.envelope_id = y.envelope_id)
    (hcursor : x.cursor = y.cursor) (hepoch : x.epoch = y.epoch)
    (hmessage : x.message = y.message) : x = y := by
  obtain ⟨_, _, _, _, _, hx⟩ := x
  obtain ⟨_, _, _, _, _, hy⟩ := y
  cases henvelope
  cases hcursor
  cases hepoch
  cases hmessage
  cases hx.symm.trans hy
  rfl

/-- No reply is owed to a receipt. -/
theorem Receipt.reply (receipt : Receipt) (state : ConversationState) :
    request_service_reply state receipt.message.content = none := by
  unfold request_service_reply
  rw [receipt.content]
  cases state.request_service <;> rfl

/-- The row a receipt is stored in. -/
def Receipt.row (conversation_id : ConversationId) (sender : DeviceId) (receipt : Receipt) :
    HistoryRow :=
  ⟨conversation_id, receipt.envelope_id, some receipt.cursor, .Inbound, false, sender,
    receipt.epoch, receipt.message, none⟩

section

variable {σ : Type} (host : Host σ) (conversation_id : ConversationId) (sender : DeviceId)

def enter (store : ReplayStore σ) (receipt : Receipt) : Except ProfileStoreError (ReplayStore σ) :=
  insert_or_verify_history host store conversation_id receipt.envelope_id (some receipt.cursor)
    .Inbound sender receipt.epoch receipt.message

/-- Enters receipts in the order they arrive. -/
def enter_all (store : ReplayStore σ) (receipts : List Receipt) :
    Except ProfileStoreError (ReplayStore σ) :=
  receipts.foldlM (enter host conversation_id sender) store

end

section

variable {σ : Type} {host : Host σ} {conversation_id : ConversationId} {sender : DeviceId}
  {request : MessageId} {base store store' : ReplayStore σ} {known : List Receipt}
  {receipt : Receipt}

/-- The store has heard these receipts, beside what the earlier one had. -/
structure Heard (conversation_id : ConversationId) (sender : DeviceId) (base : ReplayStore σ)
    (known : List Receipt) (store : ReplayStore σ) : Prop where
  conversation : store.conversation = base.conversation
  others : store.others = base.others
  rows : store.message_history.rows
    = base.message_history.rows ++ known.map (Receipt.row conversation_id sender)
  markers : ∀ message_id, (conversation_id, message_id) ∈ store.internal_application_message
    ↔ (conversation_id, message_id) ∈ base.internal_application_message
      ∧ ∀ receipt ∈ known, receipt.message.message_id ≠ message_id

/-- The receipts of a request have two identifiers, and nothing was stored under them. -/
structure Unheard (host : Host σ) (conversation_id : ConversationId) (sender : DeviceId)
    (request : MessageId) (base : ReplayStore σ) : Prop where
  terminal : ∀ outcome, outcome ≠ .Admitted →
    host.derive_request_delivery_identifiers conversation_id request sender outcome
      = host.derive_request_delivery_identifiers conversation_id request sender
        .EndedWithoutResponse
  unheard : ∀ outcome, base.message_history.get? (conversation_id,
    host.derive_request_delivery_identifiers conversation_id request sender outcome) = none

/-- The receipt is of the target of a completed request. -/
def OfTarget (conversation_id : ConversationId) (sender : DeviceId) (request : MessageId)
    (base : ReplayStore σ) (receipt : Receipt) : Prop :=
  ∃ original, load_history_record base conversation_id request = .ok (some original)
    ∧ original.complete = true
    ∧ validate_request_delivery_receipt original.message sender receipt.message = .ok ()

/-- The earlier store takes the receipt: it is of the target of a completed request, its
identifier is not reserved, and its columns are free and have room. -/
structure Takes (host : Host σ) (conversation_id : ConversationId) (sender : DeviceId)
    (request : MessageId) (base : ReplayStore σ) (receipt : Receipt) : Prop where
  original : OfTarget conversation_id sender request base receipt
  identifier : host.derive_request_delivery_identifiers conversation_id request sender
    receipt.outcome = receipt.message.message_id
  conversation : ∃ conversation, base.conversation.get? conversation_id = some conversation
    ∧ conversation.state.conversation_id = conversation_id
    ∧ commit_request_service_reply_in base conversation.state sender receipt.message = .ok base
  unreserved : host.collaboration_policy_operation_reserves_message_id base.others conversation_id
    receipt.message.message_id = .ok false
  bounded : receipt.cursor ≤ I64_MAX ∧ receipt.epoch ≤ I64_MAX
    ∧ receipt.message.sender_counter ≤ I64_MAX
  free : ∀ name ∈ (receipt.row conversation_id sender).names,
    base.message_history.named? name = none

/-- Two receipts are one or share no column that is unique. -/
def Receipt.Apart (conversation_id : ConversationId) (sender : DeviceId) (x y : Receipt) : Prop :=
  x.message.message_id ≠ y.message.message_id
    ∧ (x.row conversation_id sender).names.Disjoint (y.row conversation_id sender).names

theorem validate_receipt_ok {original : ApplicationMessage}
    (h : validate_request_delivery_receipt original sender receipt.message = .ok ()) :
    receipt.message.message_id ≠ original.message_id ∧ receipt.outcome ≠ .Responded := by
  unfold validate_request_delivery_receipt at h
  rw [receipt.content] at h
  split at h
  · rename_i hcontent
    cases hcontent
    split at h
    · cases h
    · split at h
      · cases h
      · rename_i hvalid
        simp only [not_or] at hvalid
        exact ⟨hvalid.2.2.1, hvalid.2.2.2.1⟩
  · cases h

theorem OfTarget.ne_request (h : OfTarget conversation_id sender request base receipt) :
    receipt.message.message_id ≠ request := by
  obtain ⟨original, hload, -, hvalid⟩ := h
  have hkey := congrArg Prod.snd (Table.key_of_get? (load_history_record_eq.1 hload).1)
  exact fun hid => (validate_receipt_ok hvalid).1 (hid.trans hkey.symm)

namespace Heard

variable (h : Heard conversation_id sender base known store)
include h

theorem load_known (hreceipt : receipt ∈ known) :
    load_history_record store conversation_id receipt.message.message_id
    = .ok (some (receipt.row conversation_id sender)) := by
  refine load_history_record_eq.2 ⟨Table.get?_iff.2 ⟨?_, rfl⟩, ?_⟩
  · rw [h.rows]
    exact mem_append_right _ (mem_map_of_mem hreceipt)
  · rw [show (receipt.row conversation_id sender).message = receipt.message from rfl,
      receipt.content]
    exact decide_eq_false fun hmarked => ((h.markers _).1 hmarked).2 receipt hreceipt rfl

theorem get?_other {message_id : MessageId}
    (hother : ∀ receipt ∈ known, receipt.message.message_id ≠ message_id) :
    store.message_history.get? (conversation_id, message_id)
    = base.message_history.get? (conversation_id, message_id) := by
  refine Option.ext fun row => ?_
  simp only [Table.get?_iff, h.rows, mem_append, mem_map]
  constructor
  · rintro ⟨hrow | ⟨receipt, hreceipt, rfl⟩, hkey⟩
    · exact ⟨hrow, hkey⟩
    · exact absurd (congrArg Prod.snd hkey) (hother receipt hreceipt)
  · rintro ⟨hrow, hkey⟩
    exact ⟨.inl hrow, hkey⟩

theorem load_other {message_id : MessageId}
    (hother : ∀ receipt ∈ known, receipt.message.message_id ≠ message_id) :
    load_history_record store conversation_id message_id
    = load_history_record base conversation_id message_id := by
  have hmarked : (conversation_id, message_id) ∈ store.internal_application_message
      ↔ (conversation_id, message_id) ∈ base.internal_application_message := by
    rw [h.markers]
    exact and_iff_left hother
  rw [load_history_record, load_history_record, h.get?_other hother]
  simp only [hmarked]

theorem load_request (hknown : ∀ receipt ∈ known,
      OfTarget conversation_id sender request base receipt) :
    load_history_record store conversation_id request
    = load_history_record base conversation_id request :=
  h.load_other fun receipt hreceipt => (hknown receipt hreceipt).ne_request

end Heard

/-- The outcome that is stored under an identifier. -/
def stored_outcome (known : List Receipt) (message_id : MessageId) :
    Option RequestDeliveryOutcome :=
  (known.find? (·.message.message_id = message_id)).map (·.outcome)

theorem stored_outcome_mem {message_id : MessageId}
    (h : stored_outcome known message_id = some outcome) :
    ∃ receipt ∈ known, receipt.outcome = outcome := by
  obtain ⟨receipt, hfind, rfl⟩ := Option.map_eq_some_iff.1 h
  exact ⟨receipt, mem_of_find?_eq_some hfind, rfl⟩

/-- The stored outcomes are folded, those of the entered receipts. -/
theorem Heard.observe_iff (h : Heard conversation_id sender base known store)
    {original : ApplicationMessage} (hvalid : ∀ receipt ∈ known,
      validate_request_delivery_receipt original sender receipt.message = .ok ())
    {ids : List MessageId}
    (hnone : ∀ id ∈ ids, base.message_history.get? (conversation_id, id) = none) :
    observe_stored_outcomes store conversation_id original current ids = .ok next
    ↔ observe_all current (ids.filterMap (stored_outcome known)) = .ok next := by
  induction ids generalizing current with
  | nil =>
    simp only [observe_stored_outcomes, Except.ok.injEq]
    exact (Except.ok.injEq ..).symm.to_iff
  | cons id ids ih =>
    have ih := fun current => @ih current fun id hid => hnone id (mem_cons_of_mem _ hid)
    rw [observe_stored_outcomes]
    cases hfind : known.find? (·.message.message_id = id) with
    | none =>
      have hload : load_history_record store conversation_id id = .ok none := by
        rw [h.load_other fun receipt hreceipt hid =>
          find?_eq_none.1 hfind receipt hreceipt (decide_eq_true hid), load_history_record,
          hnone id mem_cons_self]
      rw [hload, filterMap_cons_none (by rw [stored_outcome, hfind]; rfl)]
      exact ih current
    | some receipt =>
      have hmem := mem_of_find?_eq_some hfind
      have hid : receipt.message.message_id = id := by simpa using find?_some hfind
      rw [← hid, h.load_known hmem, filterMap_cons_some (b := receipt.outcome)
        (by rw [stored_outcome, hid, hfind]; rfl), observe_all_cons]
      simp only [ok_bind, Receipt.row, receipt.content, hvalid receipt hmem]
      cases observe_request_delivery current receipt.outcome with
      | error error => simp only [error_bind, reduceCtorEq]
      | ok settled => exact ih (some settled)

/-- The two identifiers, and the outcomes under them with that of the receipt. -/
abbrev receipt_ids (host : Host σ) (conversation_id : ConversationId) (sender : DeviceId)
    (request : MessageId) : List MessageId :=
  [host.derive_request_delivery_identifiers conversation_id request sender .Admitted,
    host.derive_request_delivery_identifiers conversation_id request sender .EndedWithoutResponse]

def folded (host : Host σ) (conversation_id : ConversationId) (sender : DeviceId)
    (request : MessageId) (known : List Receipt) (receipt : Receipt) :
    List RequestDeliveryOutcome :=
  (receipt_ids host conversation_id sender request).filterMap (stored_outcome known)
    ++ [receipt.outcome]

theorem Heard.verify_iff (h : Heard conversation_id sender base known store)
    (hbase : Unheard host conversation_id sender request base)
    (hknown : ∀ receipt ∈ known, Takes host conversation_id sender request base receipt)
    (hreply : receipt.message.reply_to = some request) :
    verify_history_receipt host store conversation_id sender receipt.message = .ok ()
    ↔ OfTarget conversation_id sender request base receipt
      ∧ host.derive_request_delivery_identifiers conversation_id request sender receipt.outcome
        = receipt.message.message_id
      ∧ ∃ next, observe_all none (folded host conversation_id sender request known receipt)
        = .ok next := by
  have hload := h.load_request fun receipt hreceipt => (hknown receipt hreceipt).original
  have hids : ∀ id ∈ receipt_ids host conversation_id sender request,
      base.message_history.get? (conversation_id, id) = none := by
    simp [hbase.unheard]
  have hfold : ∀ original, load_history_record base conversation_id request = .ok (some original) →
      original.message.message_id = request ∧ ∀ observed, observe_stored_outcomes store
          conversation_id original.message none (receipt_ids host conversation_id sender request)
          = .ok observed
        ↔ observe_all none ((receipt_ids host conversation_id sender request).filterMap
          (stored_outcome known)) = .ok observed := by
    intro original hrow
    refine ⟨congrArg Prod.snd (Table.key_of_get? (load_history_record_eq.1 hrow).1),
      fun observed => h.observe_iff (fun receipt hreceipt => ?_) hids⟩
    obtain ⟨other, hother, -, hvalid⟩ := (hknown receipt hreceipt).original
    cases hrow.symm.trans hother
    exact hvalid
  rw [verify_history_receipt, receipt.content]
  dsimp only
  rw [verify_request_delivery_receipt, hreply, some_or_bind rfl, hload, folded, observe_all_append]
  constructor
  · intro hverified
    obtain ⟨_, hrow, hverified⟩ := bind_ok.1 hverified
    obtain ⟨original, rfl, hverified⟩ := some_or_ok.1 hverified
    obtain ⟨hcomplete, hverified⟩ := require_ok.1 hverified
    obtain ⟨hkey, hobserve⟩ := hfold original hrow
    rw [hkey] at hverified
    split at hverified
    · cases hverified
    · rename_i hvalid
      obtain ⟨hid, hverified⟩ := require_ok.1 hverified
      obtain ⟨observed, hobserved, hverified⟩ := bind_ok.1 hverified
      split at hverified
      · cases hverified
      · rename_i next hnext
        refine ⟨⟨original, hrow, hcomplete, hvalid⟩, hid, some next, ?_⟩
        rw [(hobserve observed).1 hobserved, ok_bind, observe_all_cons, hnext]
        rfl
  · rintro ⟨⟨original, hrow, hcomplete, hvalid⟩, hid, next, hnext⟩
    obtain ⟨hkey, hobserve⟩ := hfold original hrow
    obtain ⟨observed, hobserved, hnext⟩ := bind_ok.1 hnext
    rw [observe_all_cons] at hnext
    obtain ⟨settled, hsettled, -⟩ := bind_ok.1 hnext
    rw [hrow, ok_bind, some_or_bind rfl, require_bind hcomplete, hvalid, hkey]
    dsimp only
    rw [require_bind hid, (hobserve observed).2 hobserved, ok_bind, hsettled]
    rfl

/-- Committing a receipt reads only the request it is for. -/
theorem commit_receipt_iff {state : ConversationState} {before : ReplayStore σ}
    (hstate : state.conversation_id = conversation_id)
    (hreply : receipt.message.reply_to = some request)
    (hload : load_history_record before conversation_id request
      = load_history_record base conversation_id request) :
    commit_request_service_reply_in before state sender receipt.message = .ok store'
    ↔ store' = before
      ∧ commit_request_service_reply_in base state sender receipt.message = .ok base := by
  have hanswers : ∀ channel request_id original,
      AnswersRequest before channel state sender receipt.message request_id original
      ↔ AnswersRequest base channel state sender receipt.message request_id original := by
    intro channel request_id original
    constructor <;> rintro ⟨hreplies, hloaded, hcomplete, hcursor, hvalid⟩ <;>
      cases hreplies.symm.trans hreply <;> subst hstate
    · exact ⟨hreplies, hload ▸ hloaded, hcomplete, hcursor, hvalid⟩
    · exact ⟨hreplies, hload.symm ▸ hloaded, hcomplete, hcursor, hvalid⟩
  simp only [commit_request_service_reply_in_eq_ok, receipt.content, answers_request, is_text,
    hanswers]
  cases state.request_service with
  | none => simp
  | some channel => simp; grind

variable {message_history : UniqueTable (ConversationId × MessageId) HistoryName HistoryRow
  (fun row => (row.conversation_id, row.message.message_id)) HistoryRow.names}

/-- A new receipt is appended, and it is not for the daemon alone. -/
theorem Heard.inserted (h : Heard conversation_id sender base known store)
    (hinsert : store.message_history.insert? (receipt.row conversation_id sender)
      = some message_history) :
    Heard conversation_id sender base (known ++ [receipt])
      (store_internal_application_marker { store with message_history } conversation_id
        receipt.message) := by
  rw [store_internal_application_marker_eq]
  refine ⟨h.conversation, h.others, ?_, fun message_id => ?_⟩
  · dsimp only
    rw [(UniqueTable.insert?_eq_some hinsert).2, h.rows, map_append, append_assoc]
    rfl
  · dsimp only
    rw [mem_store_internal_application_marker, receipt.content]
    have hbefore := h.markers message_id
    grind [ApplicationContent.is_internal]

/-- It shares no unique column with what was there. -/
theorem Heard.apart_of_insert (h : Heard conversation_id sender base known store)
    (hinsert : store.message_history.insert? (receipt.row conversation_id sender)
      = some message_history) :
    (∀ name ∈ (receipt.row conversation_id sender).names,
      base.message_history.named? name = none)
    ∧ ∀ other ∈ known, receipt.Apart conversation_id sender other := by
  have hfree : ∀ old ∈ base.message_history.rows ++ known.map (·.row conversation_id sender), _ :=
    fun old hold => UniqueTable.insert?_apart hinsert (h.rows ▸ hold)
  refine ⟨fun name hname => UniqueTable.named?_eq_none_iff.2 fun old hold hold' => ?_,
    fun other hother => ?_⟩
  · exact (hfree old (mem_append_left _ hold)).2 hname hold'
  · obtain ⟨hkey, hnames⟩ := hfree _ (mem_append_right _ (mem_map_of_mem hother))
    exact ⟨fun hsame => hkey (congrArg (Prod.mk conversation_id) hsame), hnames⟩

theorem Heard.load_receipt (h : Heard conversation_id sender base known store)
    (hbase : Unheard host conversation_id sender request base)
    (hid : host.derive_request_delivery_identifiers conversation_id request sender receipt.outcome
      = receipt.message.message_id) {row : HistoryRow}
    (hload : load_history_record store conversation_id receipt.message.message_id
      = .ok (some row)) : ∃ other ∈ known, row = other.row conversation_id sender := by
  by_cases hheard : ∃ other ∈ known, other.message.message_id = receipt.message.message_id
  · obtain ⟨other, hother, hsame⟩ := hheard
    rw [← hsame, h.load_known hother] at hload
    cases hload
    exact ⟨other, hother, rfl⟩
  · have hnone := h.get?_other fun other hother hsame => hheard ⟨other, hother, hsame⟩
    rw [← hid, hbase.unheard, hid, (load_history_record_eq.1 hload).1] at hnone
    cases hnone

/-- What is not reserved is so in every store that has heard receipts only. -/
theorem Heard.unreserved_iff (h : Heard conversation_id sender base known store)
    (hbase : Unheard host conversation_id sender request base)
    (hid : host.derive_request_delivery_identifiers conversation_id request sender receipt.outcome
      = receipt.message.message_id) :
    require_unreserved_message host store conversation_id receipt.envelope_id .Inbound
      receipt.message.message_id = .ok ()
    ↔ host.collaboration_policy_operation_reserves_message_id base.others conversation_id
      receipt.message.message_id = .ok false := by
  rw [require_unreserved_message, if_pos rfl, h.others, bind_ok]
  constructor
  · rintro ⟨reserved, hreserved, hrequired⟩
    cases reserved with
    | false => exact hreserved
    | true =>
      obtain ⟨existing, hload, hrequired⟩ := bind_ok.1 hrequired
      obtain ⟨row, rfl, hdirection, -⟩ := require_eq_ok.1 hrequired
      obtain ⟨other, -, rfl⟩ := h.load_receipt hbase hid hload
      cases hdirection
  · exact fun hreserved => ⟨false, hreserved, rfl⟩

/-- Entering a receipt, where others of the request may have been entered before. -/
theorem Heard.enter_iff (h : Heard conversation_id sender base known store)
    (hbase : Unheard host conversation_id sender request base)
    (hknown : ∀ receipt ∈ known, Takes host conversation_id sender request base receipt)
    (hreply : receipt.message.reply_to = some request) :
    enter host conversation_id sender store receipt = .ok store'
    ↔ Takes host conversation_id sender request base receipt
      ∧ (∃ next, observe_all none (folded host conversation_id sender request known receipt)
        = .ok next)
      ∧ ((receipt ∈ known ∧ store' = store)
        ∨ ((∀ other ∈ known, receipt.Apart conversation_id sender other)
          ∧ ∃ message_history, store.message_history.insert? (receipt.row conversation_id sender)
              = some message_history
            ∧ store' = store_internal_application_marker { store with message_history }
              conversation_id receipt.message)) := by
  have hrequest := h.load_request fun receipt hreceipt => (hknown receipt hreceipt).original
  have hreceipts : OfTarget conversation_id sender request base receipt →
      ∀ other ∈ known ++ [receipt], OfTarget conversation_id sender request base other := by
    intro hreceipt other hother
    rcases mem_append.1 hother with hother | hother
    · exact (hknown other hother).original
    · exact mem_singleton.1 hother ▸ hreceipt
  rw [enter, insert_or_verify_history]
  constructor
  · intro hentered
    obtain ⟨_, hverified, hentered⟩ := bind_ok.1 hentered
    obtain ⟨conversation, hconversation, hentered⟩ := some_or_ok.1 hentered
    obtain ⟨hstate, hentered⟩ := require_ok.1 hentered
    obtain ⟨_, hunreserved, hentered⟩ := bind_ok.1 hentered
    obtain ⟨_, hcursor, hentered⟩ := bind_ok.1 hentered
    obtain ⟨_, hepoch, hentered⟩ := bind_ok.1 hentered
    obtain ⟨_, hcounter, hentered⟩ := bind_ok.1 hentered
    obtain ⟨horiginal, hid, hfold⟩ := (h.verify_iff hbase hknown hreply).1 hverified
    rw [h.conversation] at hconversation
    rw [h.unreserved_iff hbase hid] at hunreserved
    have htakes : ∀ hcommit hfree, Takes host conversation_id sender request base receipt :=
      fun hcommit hfree => ⟨horiginal, hid, ⟨conversation, hconversation, hstate, hcommit⟩,
        hunreserved, ⟨(to_sql_integer_ok.1 hcursor).1, (to_sql_integer_ok.1 hepoch).1,
          (to_sql_integer_ok.1 hcounter).1⟩, hfree⟩
    rw [receipt.reply] at hentered
    split at hentered
    · rename_i message_history hinsert
      have hrequest' := (h.inserted hinsert).load_request (hreceipts horiginal)
      obtain ⟨rfl, hcommit⟩ := (commit_receipt_iff hstate hreply hrequest').1 hentered
      obtain ⟨hfree, hapart⟩ := h.apart_of_insert hinsert
      exact ⟨htakes hcommit hfree, hfold, .inr ⟨hapart, message_history, hinsert, rfl⟩⟩
    · obtain ⟨_, hload, hentered⟩ := bind_ok.1 hentered
      obtain ⟨existing, rfl, hentered⟩ := some_or_ok.1 hentered
      obtain ⟨⟨henvelope, -, hepoch', hmessage⟩, hentered⟩ := require_ok.1 hentered
      obtain ⟨other, hother, rfl⟩ := h.load_receipt hbase hid hload
      obtain ⟨after, hcommit, hverify⟩ := bind_ok.1 hentered
      rw [store_internal_application_marker_again hload hmessage,
        commit_receipt_iff hstate hreply hrequest] at hcommit
      obtain ⟨rfl, hcommit⟩ := hcommit
      obtain ⟨hcursor', hafter⟩ := require_ok.1 hverify
      obtain rfl : other = receipt := Receipt.ext henvelope hcursor' hepoch' hmessage
      cases hafter
      exact ⟨hknown _ hother, hfold, .inl ⟨hother, rfl⟩⟩
  · rintro ⟨htakes, hfold, hcase⟩
    obtain ⟨conversation, hconversation, hstate, hcommit⟩ := htakes.conversation
    have hverified := (h.verify_iff hbase hknown hreply).2
        ⟨htakes.original, htakes.identifier, hfold⟩
    rw [hverified, ok_bind, some_or_bind (h.conversation ▸ hconversation)]
    dsimp only
    rw [require_bind hstate, (h.unreserved_iff hbase htakes.identifier).2 htakes.unreserved,
      ok_bind,
      Option.getD_some, to_sql_integer_ok.2 ⟨htakes.bounded.1, rfl⟩, ok_bind,
      to_sql_integer_ok.2 ⟨htakes.bounded.2.1, rfl⟩, ok_bind,
      to_sql_integer_ok.2 ⟨htakes.bounded.2.2, rfl⟩, ok_bind, receipt.reply]
    rcases hcase with ⟨hheard, rfl⟩ | ⟨-, message_history, hinsert, rfl⟩
    · have hload := h.load_known hheard
      rw [UniqueTable.insert?_of_get? (load_history_record_eq.1 hload).1]
      dsimp only
      rw [hload, ok_bind, some_or_bind rfl, require_bind ⟨rfl, rfl, rfl, rfl⟩,
        store_internal_application_marker_again hload rfl,
        (commit_receipt_iff hstate hreply hrequest).2 ⟨rfl, hcommit⟩, ok_bind]
      exact require_bind rfl
    · have hrequest' := (h.inserted hinsert).load_request (hreceipts htakes.original)
      have hrow := hinsert
      rw [Receipt.row] at hrow
      rw [hrow]
      exact (commit_receipt_iff hstate hreply hrequest').2 ⟨rfl, hcommit⟩

/-! ## Receipts in any order

What is accepted is what fits together, if the outcomes can be folded; neither depends on the
order, unless an admission meets an expiry. -/

/-- The earlier store takes each of the receipts, and no two of them collide. -/
structure Fits (host : Host σ) (conversation_id : ConversationId) (sender : DeviceId)
    (request : MessageId) (base : ReplayStore σ) (receipts : List Receipt) : Prop where
  takes : ∀ receipt ∈ receipts, Takes host conversation_id sender request base receipt
  apart : ∀ x ∈ receipts, ∀ y ∈ receipts, x = y ∨ x.Apart conversation_id sender y

variable {receipts receipts' : List Receipt}

theorem Fits.subset (h : Fits host conversation_id sender request base receipts)
    (hsub : receipts' ⊆ receipts) : Fits host conversation_id sender request base receipts' :=
  ⟨fun x hx => h.takes x (hsub hx), fun x hx y hy => h.apart x (hsub hx) y (hsub hy)⟩

theorem Fits.snoc (h : Fits host conversation_id sender request base known)
    (htakes : Takes host conversation_id sender request base receipt)
    (hapart : ∀ other ∈ known, receipt.Apart conversation_id sender other) :
    Fits host conversation_id sender request base (known ++ [receipt]) := by
  have hsymm : ∀ other ∈ known, other.Apart conversation_id sender receipt := fun other hother =>
    ⟨(hapart other hother).1.symm, disjoint_left.2 fun _ hx hy => (hapart other hother).2 hy hx⟩
  refine ⟨fun x hx => ?_, fun x hx y hy => ?_⟩
  · rcases mem_append.1 hx with hx | hx
    · exact h.takes x hx
    · exact mem_singleton.1 hx ▸ htakes
  · simp only [mem_append, mem_singleton] at hx hy
    rcases hx with hx | rfl <;> rcases hy with hy | rfl
    · exact h.apart x hx y hy
    · exact .inr (hsymm x hx)
    · exact .inr (hapart y hy)
    · exact .inl rfl

/-- Receipts that fit end the request in one way: those that end it have one identifier. -/
theorem Fits.agree (h : Fits host conversation_id sender request base receipts)
    (hbase : Unheard host conversation_id sender request base) :
    Agree (receipts.map (·.outcome)) := by
  simp only [Agree, mem_map, forall_exists_index, and_imp, forall_apply_eq_imp_iff₂]
  intro x hx y hy hxne hyne
  rcases h.apart x hx y hy with rfl | hapart
  · rfl
  · refine absurd ?_ hapart.1
    rw [← (h.takes x hx).identifier, ← (h.takes y hy).identifier, hbase.terminal _ hxne,
      hbase.terminal _ hyne]

theorem folded_subset : folded host conversation_id sender request known receipt
    ⊆ (known ++ [receipt]).map (·.outcome) := by
  intro outcome houtcome
  rw [map_append, mem_append]
  rcases mem_append.1 houtcome with hstored | hlast
  · obtain ⟨_, -, hstored⟩ := mem_filterMap.1 hstored
    obtain ⟨receipt, hreceipt, rfl⟩ := stored_outcome_mem hstored
    exact .inl (mem_map_of_mem hreceipt)
  · exact .inr hlast

theorem Heard.insert?_of_apart (h : Heard conversation_id sender base known store)
    (hbase : Unheard host conversation_id sender request base)
    (htakes : Takes host conversation_id sender request base receipt)
    (hapart : ∀ other ∈ known, receipt.Apart conversation_id sender other) :
    ∃ message_history, store.message_history.insert? (receipt.row conversation_id sender)
      = some message_history := by
  refine UniqueTable.insert?_of_free ?_ (fun name hname => ?_) ?_
  · exact (h.get?_other fun other hother => (hapart other hother).1.symm).trans
      (htakes.identifier ▸ hbase.unheard _)
  · refine UniqueTable.named?_eq_none_iff.2 fun row hrow hin => ?_
    rw [h.rows] at hrow
    rcases mem_append.1 hrow with hrow | hrow
    · exact UniqueTable.named?_eq_none_iff.1 (htakes.free name hname) row hrow hin
    · obtain ⟨other, hother, rfl⟩ := mem_map.1 hrow
      exact (hapart other hother).2 hname hin
  · simp [Receipt.row, HistoryRow.names]

theorem enter_all_cons : enter_all host conversation_id sender store (receipt :: receipts)
    = enter host conversation_id sender store receipt >>= fun store =>
      enter_all host conversation_id sender store receipts := by
  rw [enter_all, foldlM_cons]
  rfl

/-- Receipts that are accepted fit. -/
theorem Heard.fits (h : Heard conversation_id sender base known store)
    (hbase : Unheard host conversation_id sender request base)
    (hknown : Fits host conversation_id sender request base known)
    (hreply : ∀ receipt ∈ receipts, receipt.message.reply_to = some request)
    (hentered : enter_all host conversation_id sender store receipts = .ok store') :
    Fits host conversation_id sender request base (known ++ receipts) := by
  induction receipts generalizing known store with
  | nil => rwa [append_nil]
  | cons receipt receipts ih =>
    rw [enter_all_cons] at hentered
    obtain ⟨store₁, hfirst, hrest⟩ := bind_ok.1 hentered
    have hreply' := fun r hr => hreply r (mem_cons_of_mem receipt hr)
    obtain ⟨htakes, -, ⟨hheard, rfl⟩ | ⟨hapart, message_history, hinsert, rfl⟩⟩ :=
      (h.enter_iff hbase hknown.takes (hreply receipt mem_cons_self)).1 hfirst
    · refine (ih h hknown hreply' hrest).subset ?_
      intro x hx
      simp only [mem_append, mem_cons] at hx ⊢
      rcases hx with hx | rfl | hx
      exacts [.inl hx, .inl hheard, .inr hx]
    · have hfits := ih (h.inserted hinsert) (hknown.snoc htakes hapart) hreply' hrest
      rwa [append_assoc, singleton_append] at hfits

/-- Receipts that fit are accepted, in every order, unless an admission meets an expiry. -/
theorem Heard.accepts (h : Heard conversation_id sender base known store)
    (hbase : Unheard host conversation_id sender request base)
    (hfits : Fits host conversation_id sender request base (known ++ receipts))
    (hmixed : ¬ Mixed ((known ++ receipts).map (·.outcome)))
    (hreply : ∀ receipt ∈ receipts, receipt.message.reply_to = some request) :
    ∃ store', enter_all host conversation_id sender store receipts = .ok store' := by
  induction receipts generalizing known store with
  | nil => exact ⟨store, rfl⟩
  | cons receipt receipts ih =>
    rw [enter_all_cons]
    have hsub : known ++ [receipt] ⊆ known ++ receipt :: receipts :=
      append_subset.2 ⟨subset_append_left _ _, by simp⟩
    have htakes := hfits.takes receipt (by simp)
    have hfolded : folded host conversation_id sender request known receipt ⊆ _ := folded_subset
    have hfold : ∃ next, observe_all none _ = .ok next :=
      observe_all_ok (((hfits.subset hsub).agree hbase).subset hfolded)
        fun hm => hmixed (Mixed.subset (Mixed.subset hm hfolded) (map_subset _ hsub))
    have hknown := hfits.subset (subset_append_left known _)
    have henter : ∀ after, _ → enter host conversation_id sender store receipt = .ok after :=
      fun after hcase => (h.enter_iff hbase hknown.takes (hreply receipt mem_cons_self)).2
        ⟨htakes, hfold, hcase⟩
    have hreply' := fun r hr => hreply r (mem_cons_of_mem receipt hr)
    by_cases hheard : receipt ∈ known
    · rw [henter store (.inl ⟨hheard, rfl⟩), ok_bind]
      have hrest : known ++ receipts ⊆ known ++ receipt :: receipts :=
        append_subset.2 ⟨subset_append_left _ _, fun x hx => by simp [hx]⟩
      exact ih h (hfits.subset hrest) (fun hm => hmixed (hm.subset (map_subset _ hrest))) hreply'
    · have hapart : ∀ other ∈ known, receipt.Apart conversation_id sender other :=
        fun other hother => (hfits.apart receipt (by simp) other (by simp [hother])).resolve_left
          fun hsame => hheard (hsame ▸ hother)
      obtain ⟨message_history, hinsert⟩ := h.insert?_of_apart hbase htakes hapart
      rw [henter _ (.inr ⟨hapart, message_history, hinsert, rfl⟩), ok_bind]
      rw [← singleton_append, ← append_assoc] at hfits hmixed
      exact ih (h.inserted hinsert) hfits hmixed hreply'

theorem Heard.start : Heard conversation_id sender store [] store :=
  ⟨rfl, rfl, by simp, by simp⟩

/-- An expiry is refused after an admission. -/
theorem expired_after_admitted {admitted expired : Receipt}
    (hbase : Unheard host conversation_id sender request base)
    (hreply : ∀ receipt ∈ admitted :: expired :: receipts, receipt.message.reply_to = some request)
    (hadmitted : admitted.outcome = .Admitted)
    (hexpired : expired.outcome = .ExpiredBeforeAdmission) :
    enter_all host conversation_id sender base (admitted :: expired :: receipts) ≠ .ok store' := by
  intro hentered
  rw [enter_all_cons] at hentered
  obtain ⟨store, hfirst, hrest⟩ := bind_ok.1 hentered
  rw [enter_all_cons] at hrest
  obtain ⟨_, hsecond, -⟩ := bind_ok.1 hrest
  obtain ⟨htakes, -, ⟨hheard, -⟩ | ⟨-, message_history, hinsert, rfl⟩⟩ :=
    (Heard.start.enter_iff hbase (by simp) (hreply admitted (by simp))).1 hfirst
  · cases hheard
  obtain ⟨-, ⟨next, hnext⟩, -⟩ := ((Heard.start.inserted hinsert).enter_iff hbase
    (by simpa using htakes) (hreply expired (by simp))).1 hsecond
  have hid := htakes.identifier
  rw [hadmitted] at hid
  rw [folded, hexpired, filterMap_cons_some (b := RequestDeliveryOutcome.Admitted)
    (by simp [stored_outcome, hid, hadmitted])] at hnext
  -- under the other identifier there is nothing, or the admission once more
  cases hother : stored_outcome ([] ++ [admitted])
      (host.derive_request_delivery_identifiers conversation_id request sender
        .EndedWithoutResponse) with
  | none =>
    rw [filterMap_cons_none hother] at hnext
    cases hnext
  | some outcome =>
    obtain ⟨receipt, hreceipt, rfl⟩ := stored_outcome_mem hother
    rw [filterMap_cons_some hother, mem_singleton.1 hreceipt, hadmitted] at hnext
    cases hnext

end

/-- The fold of some outcomes is the same in every order, unless they are admissions and
expiries, both. So it is with the receipts of a request that nothing was heard of: if the
history takes them in one order, it takes them in every order, unless they are contested; and
contested receipts that are taken in some order are refused in another. -/
theorem receipts_folded_in_any_order :
    (∀ outcomes, (∀ outcomes', outcomes.Perm outcomes' →
        observe_all none outcomes' = observe_all none outcomes) ↔ ¬ Contested outcomes)
    ∧ ∀ {σ : Type} (host : Host σ) (conversation_id : ConversationId) (sender : DeviceId)
      (request : MessageId) (store : ReplayStore σ) (receipts : List Receipt),
      Unheard host conversation_id sender request store →
      (∀ receipt ∈ receipts, receipt.message.reply_to = some request) →
      ((∀ receipts', receipts.Perm receipts' →
          (enter_all host conversation_id sender store receipts').isOk
          = (enter_all host conversation_id sender store receipts).isOk)
        ↔ ¬ (Contested (receipts.map (·.outcome)) ∧ ∃ receipts', receipts.Perm receipts'
          ∧ (enter_all host conversation_id sender store receipts').isOk = true)) := by
  refine ⟨observe_all_perm_iff, fun {σ} host conversation_id sender request store receipts hbase
    hreply => ⟨?_, fun hapart => ?_⟩⟩
  · rintro horder ⟨⟨⟨hadmitted, hexpired⟩, -⟩, receipts', hperm, hok⟩
    obtain ⟨admitted, hadmitted, hadmitted'⟩ := mem_map.1 hadmitted
    obtain ⟨expired, hexpired, hexpired'⟩ := mem_map.1 hexpired
    have hne : expired ≠ admitted := by
      rintro rfl
      cases hadmitted'.symm.trans hexpired'
    have hfirst := (perm_cons_erase hadmitted).trans
      ((perm_cons_erase ((mem_erase_of_ne hne).2 hexpired)).cons _)
    rw [horder receipts' hperm, ← horder _ hfirst] at hok
    obtain ⟨after, hentered⟩ := isOk_iff.1 hok
    exact expired_after_admitted hbase (fun r hr => hreply r (hfirst.symm.subset hr)) hadmitted'
      hexpired' hentered
  · have hstart : Fits host conversation_id sender request store [] := ⟨by simp, by simp⟩
    -- what is accepted in one order fits, and is accepted in every order
    have hmoves : ∀ xs ys, receipts.Perm xs → receipts.Perm ys →
        (enter_all host conversation_id sender store xs).isOk = true →
        (enter_all host conversation_id sender store ys).isOk = true := by
      intro xs ys hxs hys hok
      obtain ⟨after, hentered⟩ := isOk_iff.1 hok
      have hfits := (Heard.start.fits hbase hstart (fun x hx => hreply x (hxs.symm.subset hx))
        hentered).subset hxs.subset
      have hmixed : ¬ Mixed (receipts.map (·.outcome)) := by
        refine fun hmixed => hapart ⟨⟨hmixed, fun h => ?_, fun h => ?_⟩, xs, hxs, hok⟩
        · cases hfits.agree hbase _ h _ hmixed.2 (by decide) (by decide)
        · cases hfits.agree hbase _ h _ hmixed.2 (by decide) (by decide)
      exact isOk_iff.2 (Heard.start.accepts hbase (hfits.subset hys.symm.subset)
        (fun h => hmixed (h.subset (map_subset _ hys.symm.subset)))
        fun y hy => hreply y (hys.symm.subset hy))
    exact fun receipts' hperm => Bool.eq_iff_iff.2
      ⟨hmoves receipts' receipts hperm (.refl _), hmoves receipts receipts' (.refl _) hperm⟩

namespace LateAdmission

/-- The request was replayed, and nothing was heard of it. -/
def waiting : ReplayStore Unit := ReplayStore.after profile_host () (calls.take 4)

/-- The target admitted the request in time, found it expired, or ended it. -/
def admitted_receipt : Receipt := ⟨FixedBytes.repeated 16 3, 3, 0, admitted, .Admitted, rfl⟩
def expired_receipt : Receipt :=
  ⟨FixedBytes.repeated 16 2, 2, 0, expired, .ExpiredBeforeAdmission, rfl⟩
def ended_receipt : Receipt :=
  ⟨FixedBytes.repeated 16 2, 2, 0, ⟨.application_v1, terminal_id, 1, 1000, some request_id,
    .RequestDeliveryOutcome .EndedWithoutResponse, Nat.one_pos⟩, .EndedWithoutResponse, rfl⟩

theorem waiting_unheard : Unheard profile_host conversation_id target request_id waiting :=
  ⟨fun _ hne => if_neg hne, fun outcome => by cases outcome <;> decide +kernel⟩

end LateAdmission

theorem receipts_folded_in_any_order_ended :
    (enter_all profile_host conversation_id target waiting [admitted_receipt, ended_receipt]).isOk
      = true
    ∧ (enter_all profile_host conversation_id target waiting [ended_receipt, admitted_receipt]).isOk
      = true := by
  have haccepted : (enter_all profile_host conversation_id target waiting
    [admitted_receipt, ended_receipt]).isOk = true := by decide +kernel
  refine ⟨haccepted, ((receipts_folded_in_any_order.2 profile_host conversation_id target request_id
    waiting [admitted_receipt, ended_receipt] waiting_unheard ?_).2 ?_ _ (.swap _ _ _)).trans
      haccepted⟩
  · decide +kernel
  · rintro ⟨⟨⟨-, hexpired⟩, -⟩, -⟩
    revert hexpired
    decide

/-- An expiry and an admission are accepted in one order and refused in the other. -/
theorem receipts_refused_in_other_order :
    observe_all none [.ExpiredBeforeAdmission, .Admitted] = .ok (some .ExpiredBeforeAdmission)
    ∧ observe_all none [.Admitted, .ExpiredBeforeAdmission] = .error .ConflictingOutcome
    ∧ (enter_all profile_host conversation_id target waiting
      [expired_receipt, admitted_receipt]).isOk = true
    ∧ (enter_all profile_host conversation_id target waiting
      [admitted_receipt, expired_receipt]).isOk = false := by
  decide +kernel

end Konclave.Daemon.Replay
