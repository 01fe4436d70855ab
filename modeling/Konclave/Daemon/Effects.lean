/-
What each call of the handling journal can do.

One lemma for each call says everything a successful call does to the record it is about
(`claim_cases`, `resume_cases`, `renew_cases`, `complete_cases`, `respond_cases`) and that
the outbox keeps its reservations. The statements that write neither table of the journal
are `OtherWork`, and are chained as such.
-/
import Konclave.Daemon.Turns

set_option autoImplicit false

namespace Konclave.Daemon

open Domain RemoteEvents List

variable {derive : DeliveryIdentifiers} {store store' : ProfileStore}
  {conversation_id : ConversationId}

/-! ## Reading and writing records

A record that loads is the one that is stored, and a write puts the record it is given. -/

variable {handling : DirectedRequestHandling} {reservation : OutboundReservation}
  {claim : DirectedRequestClaim} {now expires_at : ℕ} {consumer_id : AdapterConsumerId}
  {lease_id : AdapterLeaseId} {request : ClaimDirectedRequest} {expired : Bool}
  {response : ResponseContent}

variable {delivery_options : Option RequestDeliveryOptions}
  {result : DirectedRequestClaimOutcome ⊕ ℕ} {receipts : List RequestDeliveryReceipt}
  {existing row : DirectedRequestHandling} {envelope_id : EnvelopeId} {store'' : ProfileStore}
  {message_id : MessageId} {key : HandlingKey}

theorem decode_directed_request_handling_eq_ok
    (h : decode_directed_request_handling row = .ok handling) : handling = row := by
  unfold decode_directed_request_handling at h
  simp only [ite_ok] at h
  obtain ⟨_, _, _, _, _, h⟩ := h
  split at h
  · cases h
    rfl
  · cases h

/-- Opening a record changes nothing of it. -/
theorem load_directed_request_handling_eq_ok {found : Option DirectedRequestHandling}
    (h : load_directed_request_handling store key = .ok found) :
    store.directed_request_handling.get? key = found := by
  unfold load_directed_request_handling at h
  split at h
  · rename_i hnone
    cases h
    exact hnone
  · rename_i row hsome
    obtain ⟨handling, hdec, hrest⟩ := bind_ok.1 h
    obtain ⟨_, _, hfound⟩ := bind_ok.1 hrest
    cases hfound
    rw [hsome, decode_directed_request_handling_eq_ok hdec]

theorem require_directed_request_handling_eq_ok
    (h : require_directed_request_handling store key = .ok handling) :
    store.directed_request_handling.get? key = some handling := by
  obtain ⟨found, hload, hfound⟩ := bind_ok.1 h
  cases found with
  | none => cases hfound
  | some found =>
    cases hfound
    exact load_directed_request_handling_eq_ok hload

@[simp] theorem without_response_key (claim : DirectedRequestClaim) (state : HandlingState)
    (receipts : List RequestDeliveryReceipt) :
    (DirectedRequestHandling.without_response claim state receipts).key = claim.key := rfl

theorem handling_row_eq_ok (h : handling_row handling = .ok row) : row = handling := by
  obtain ⟨sealed_handling, hseal, h⟩ := bind_ok.1 h
  obtain ⟨_, _, h⟩ := bind_ok.1 h
  obtain ⟨_, _, h⟩ := bind_ok.1 h
  obtain ⟨_, hrow⟩ := ite_ok.1 h
  unfold seal_directed_request_handling at hseal
  simp only [ite_ok] at hseal
  obtain ⟨_, _, _, hseal⟩ := hseal
  cases hseal
  cases hrow
  rfl

/-- An update replaces the record of its key. -/
theorem update_directed_request_handling_eq_ok
    (h : update_directed_request_handling store handling = .ok store') :
    store'.directed_request_handling = store.directed_request_handling.put handling
    ∧ store'.outbox = store.outbox := by
  obtain ⟨row, hrow, hwrite⟩ := bind_ok.1 h
  obtain ⟨_, hwrite⟩ := ite_ok.1 hwrite
  obtain ⟨_, hstore⟩ := ite_ok.1 hwrite
  rw [handling_row_eq_ok hrow] at hstore
  cases hstore
  exact ⟨rfl, rfl⟩

theorem insert_directed_request_handling_eq_ok
    (h : insert_directed_request_handling store handling = .ok store') :
    store.directed_request_handling.insert? handling = some store'.directed_request_handling
    ∧ store'.outbox = store.outbox := by
  obtain ⟨row, hrow, hwrite⟩ := bind_ok.1 h
  obtain ⟨_, hins⟩ := ite_ok.1 hwrite
  rw [handling_row_eq_ok hrow] at hins
  split at hins
  · cases hins
  · rename_i hjournal
    cases hins
    exact ⟨hjournal, rfl⟩

/-! ## What leaves the journal alone

Reservations are only added, so what an outbox row reserves stays reserved. -/

theorem ProfileStore.ReservationsKept.of_eq (h : store'.outbox = store.outbox) :
    store.ReservationsKept store' :=
  fun row hrow => ⟨row, h ▸ hrow, rfl⟩

theorem ProfileStore.ReservationsKept.trans (h : store.ReservationsKept store')
    (h' : store'.ReservationsKept store'') : store.ReservationsKept store'' := by
  intro row hrow
  obtain ⟨row', hrow', heq⟩ := h row hrow
  obtain ⟨row'', hrow'', heq'⟩ := h' row' hrow'
  exact ⟨row'', hrow'', heq'.trans heq⟩

theorem ProfileStore.OtherWork.of_eq
    (hjournal : store'.directed_request_handling = store.directed_request_handling)
    (hstate : store'.directed_request_handling_state = store.directed_request_handling_state)
    (houtbox : store'.outbox = store.outbox) : store.OtherWork store' :=
  ⟨hjournal, hstate, .of_eq houtbox⟩

theorem ProfileStore.OtherWork.trans (h : store.OtherWork store') (h' : store'.OtherWork store'') :
    store.OtherWork store'' :=
  ⟨h'.journal.trans h.journal, h'.journal_state.trans h.journal_state,
    ProfileStore.ReservationsKept.trans h.reserved h'.reserved⟩

/-- A new reservation is one more outbox row. -/
theorem reserve_new_outbound_application_eq_ok
    (h : reserve_new_outbound_application store conversation_id message_id envelope_id
      = .ok (reservation, store')) : store.OtherWork store' ∧ reservation.envelope_id = envelope_id
    ∧ ∃ row ∈ store'.outbox.rows, row.reservation = reservation := by
  unfold reserve_new_outbound_application at h
  obtain ⟨_, h⟩ := ite_ok.1 h
  split at h
  · cases h
  · split at h
    · cases h
    · obtain ⟨_, _, h⟩ := bind_ok.1 h
      obtain ⟨_, h⟩ := ite_ok.1 h
      dsimp only at h
      split at h
      · cases h
      · rename_i outbox hins
        cases h
        have hrows := (Table.insert?_iff.1 hins).2
        refine ⟨⟨rfl, rfl, fun row hrow => ⟨row, ?_, rfl⟩⟩, rfl,
          ⟨envelope_id, conversation_id, message_id, _, 1, none⟩, ?_, rfl⟩
        · rw [hrows]
          exact mem_append_left _ hrow
        · rw [hrows]
          exact mem_append_right _ (mem_singleton_self _)

theorem reserve_request_delivery_receipt_eq_ok {outcome : RequestDeliveryOutcome}
    {receipt : RequestDeliveryReceipt}
    (h : reserve_request_delivery_receipt derive store claim outcome now
      = .ok (receipt, store')) : receipt.outcome = outcome ∧ store.OtherWork store' := by
  obtain ⟨⟨reservation, middle⟩, hreserve, h⟩ := bind_ok.1 h
  -- the sum itself is not looked at: only whether it overflowed
  generalize checked_add (now / 1000) DELIVERY_RECEIPT_RETENTION_SECONDS = expires_at at h
  cases expires_at with
  | none => cases h
  | some expires_at =>
    cases h
    exact ⟨rfl, (reserve_new_outbound_application_eq_ok hreserve).1⟩

/-! ## What a claim can do

A claim answers from the record it finds, or makes the next attempt. -/

/-- The record says that the request had expired before it was admitted. -/
def DirectedRequestHandling.Expired (handling : DirectedRequestHandling) : Prop :=
  ∃ receipt ∈ handling.delivery_receipts, receipt.outcome = .ExpiredBeforeAdmission

/-- The answer a claim reads off a record without changing it. -/
def DirectedRequestHandling.Answers (handling : DirectedRequestHandling) :
    DirectedRequestClaimOutcome → Prop
  | .Claimed claim => handling.state = .Claimed ∧ claim = handling.claim
  | .Busy | .AttemptsExhausted => handling.state = .Claimed
  | .CompletedResponse => handling.state = .CompletedResponse
  | .CompletedNoResponse => handling.state = .CompletedNoResponse ∧ ¬ handling.Expired
  | .ExpiredBeforeAdmission => handling.state = .CompletedNoResponse ∧ handling.Expired

/-- Everything a successful claim can do. -/
inductive ClaimEffect (store : ProfileStore) (request : ClaimDirectedRequest)
    (continuation_message_id : Option MessageId) :
    DirectedRequestClaimOutcome → ProfileStore → Prop
  | answered {outcome : DirectedRequestClaimOutcome} (handling : DirectedRequestHandling)
      (hget : store.directed_request_handling.get? request.key = some handling)
      (hanswer : handling.Answers outcome) :
      ClaimEffect store request continuation_message_id outcome store
  | busy (hget : store.directed_request_handling.get? request.key = none) :
      ClaimEffect store request continuation_message_id .Busy store
  | reclaimed {store' : ProfileStore} (handling : DirectedRequestHandling)
      (claim : DirectedRequestClaim)
      (hget : store.directed_request_handling.get? request.key = some handling)
      (hstate : handling.state = .Claimed)
      (hexpired : handling.claim.claim_expires_at_unix_milliseconds
        ≤ request.now_unix_milliseconds)
      (hkey : claim.key = request.key)
      (hattempt : claim.attempt = handling.claim.attempt + 1)
      (hlimit : claim.attempt ≤ MAX_DIRECTED_REQUEST_HANDLING_ATTEMPTS)
      (hstore : store'.directed_request_handling = store.directed_request_handling.put
        (.without_response claim .Claimed handling.delivery_receipts)) :
      ClaimEffect store request continuation_message_id (.Claimed claim) store'
  | admitted {store' : ProfileStore} (claim : DirectedRequestClaim)
      (receipts : List RequestDeliveryReceipt)
      (delivery_options : Option RequestDeliveryOptions)
      (hoptions : claim_delivery_options store request continuation_message_id
        = .ok delivery_options)
      (hopen : cutoff_passed delivery_options request.now_unix_milliseconds = false)
      (hkey : claim.key = request.key) (hattempt : claim.attempt = 1)
      (hreceipts : ∀ receipt ∈ receipts, receipt.outcome = .Admitted)
      (hstore : store.directed_request_handling.insert?
        (.without_response claim .Claimed receipts) = some store'.directed_request_handling) :
      ClaimEffect store request continuation_message_id (.Claimed claim) store'
  | expired {store' : ProfileStore} (claim : DirectedRequestClaim)
      (receipt : RequestDeliveryReceipt) (delivery_options : Option RequestDeliveryOptions)
      (hoptions : claim_delivery_options store request continuation_message_id
        = .ok delivery_options)
      (hpassed : cutoff_passed delivery_options request.now_unix_milliseconds = true)
      (hkey : claim.key = request.key) (hattempt : claim.attempt = 1)
      (hreceipt : receipt.outcome = .ExpiredBeforeAdmission)
      (hstore : store.directed_request_handling.insert?
        (.without_response claim .CompletedNoResponse [receipt])
          = some store'.directed_request_handling) :
      ClaimEffect store request continuation_message_id .ExpiredBeforeAdmission store'

/-- A claim that finds a record answers from it, or makes the next attempt after the previous one
expired. -/
theorem claim_attempt_some (h : claim_attempt store request (some existing) expired = .ok result) :
    (∃ outcome, result = .inl outcome ∧ existing.Answers outcome)
    ∨ (result = .inr (existing.claim.attempt + 1) ∧ existing.state = .Claimed
      ∧ existing.claim.claim_expires_at_unix_milliseconds ≤ request.now_unix_milliseconds
      ∧ existing.claim.attempt < MAX_DIRECTED_REQUEST_HANDLING_ATTEMPTS) := by
  unfold claim_attempt at h
  dsimp only at h
  split at h
  · rename_i hstate
    cases h
    exact .inl ⟨_, rfl, hstate⟩
  · rename_i hstate
    split at h
    · rename_i hany
      cases h
      obtain ⟨receipt, hmem, hout⟩ := any_eq_true.1 hany
      exact .inl ⟨_, rfl, hstate, receipt, hmem, of_decide_eq_true hout⟩
    · rename_i hany
      cases h
      refine .inl ⟨_, rfl, hstate, ?_⟩
      rintro ⟨receipt, hmem, hout⟩
      exact hany (any_eq_true.2 ⟨receipt, hmem, decide_eq_true hout⟩)
  · rename_i hstate
    split at h
    · cases h
      exact .inl ⟨_, rfl, hstate, rfl⟩
    · split at h
      · cases h
        exact .inl ⟨_, rfl, hstate⟩
      · rename_i hlate
        split at h
        · cases h
          exact .inl ⟨_, rfl, hstate⟩
        · rename_i hlimit
          have hnext : existing.claim.claim_expires_at_unix_milliseconds
                ≤ request.now_unix_milliseconds
              ∧ existing.claim.attempt < MAX_DIRECTED_REQUEST_HANDLING_ATTEMPTS := by omega
          split at h
          · cases h
            exact .inr ⟨rfl, hstate, hnext⟩
          · obtain ⟨active, _, h⟩ := bind_ok.1 h
            split at h
            · cases h
              exact .inl ⟨_, rfl, hstate⟩
            · cases h
              exact .inr ⟨rfl, hstate, hnext⟩

/-- A claim that finds no record makes the first attempt, unless its consumer is busy. -/
theorem claim_attempt_none (h : claim_attempt store request none expired = .ok result) :
    result = .inl .Busy ∨ result = .inr 1 := by
  unfold claim_attempt at h
  dsimp only at h
  split at h
  · cases h
    exact .inr rfl
  · obtain ⟨active, _, h⟩ := bind_ok.1 h
    split at h
    · cases h
      exact .inl rfl
    · cases h
      exact .inr rfl

/-- The receipt of a new record says whether the request was admitted. -/
theorem admission_receipts_eq_ok
    (h : admission_receipts derive store claim delivery_options expired now
      = .ok (receipts, store')) : (∀ receipt ∈ receipts,
        receipt.outcome = if expired then .ExpiredBeforeAdmission else .Admitted)
    ∧ receipts.length = (if delivery_options.isSome then 1 else 0) ∧ store.OtherWork store' := by
  unfold admission_receipts at h
  split at h
  · rename_i hsome
    obtain ⟨⟨receipt, reserved⟩, hreserve, hpair⟩ := map_eq_ok.1 h
    cases hpair
    obtain ⟨hout, hother⟩ := reserve_request_delivery_receipt_eq_ok hreserve
    refine ⟨?_, by rw [if_pos hsome]; rfl, hother⟩
    intro other hmem
    rw [mem_singleton] at hmem
    rw [hmem, hout]
  · rename_i hnone
    cases h
    exact ⟨fun _ hmem => absurd hmem not_mem_nil, by rw [if_neg hnone]; rfl, .of_eq rfl rfl rfl⟩

/-- The first attempt inserts a record with the receipt of its admission. -/
theorem write_claim_none
    (h : write_claim derive store claim none delivery_options expired now = .ok store') :
    ∃ receipts,
    (∀ receipt ∈ receipts, receipt.outcome = if expired then .ExpiredBeforeAdmission else .Admitted)
    ∧ receipts.length = (if delivery_options.isSome then 1 else 0)
    ∧ store.directed_request_handling.insert? (.without_response claim
        (if expired then .CompletedNoResponse else .Claimed) receipts)
      = some store'.directed_request_handling ∧ store.ReservationsKept store' := by
  obtain ⟨⟨receipts, middle⟩, hreceipts, h⟩ := bind_ok.1 h
  obtain ⟨_, _, h⟩ := bind_ok.1 h
  obtain ⟨_, _, h⟩ := bind_ok.1 h
  obtain ⟨last, hwrite, hstore⟩ := bind_ok.1 h
  cases hstore
  obtain ⟨houtcomes, hcount, hother⟩ := admission_receipts_eq_ok hreceipts
  obtain ⟨hins, houtbox⟩ := insert_directed_request_handling_eq_ok hwrite
  rw [hother.journal] at hins
  exact ⟨receipts, houtcomes, hcount, hins, hother.reserved.trans (.of_eq houtbox)⟩

theorem claim_cases {continuation : Option MessageId} {outcome : DirectedRequestClaimOutcome}
    (h : claim_collaboration_turn derive store request continuation
      = (.ok outcome, store')) : ClaimEffect store request continuation outcome store'
    ∧ store.ReservationsKept store' := by
  have h := transaction_ok h
  obtain ⟨_, _, h⟩ := bind_ok.1 h
  obtain ⟨_, _, h⟩ := bind_ok.1 h
  obtain ⟨_, _, h⟩ := bind_ok.1 h
  obtain ⟨claim_expiry, _, h⟩ := bind_ok.1 h
  obtain ⟨existing, hload, h⟩ := bind_ok.1 h
  obtain ⟨delivery_options, hoptions, h⟩ := bind_ok.1 h
  obtain ⟨_, h⟩ := ite_ok.1 h
  obtain ⟨result, hres, h⟩ := bind_ok.1 h
  have hget := load_directed_request_handling_eq_ok hload
  cases existing with
  | some existing =>
    rcases claim_attempt_some hres with ⟨outcome, rfl, hans⟩ | ⟨rfl, hstate, hlate, hlimit⟩
    · cases h
      exact ⟨.answered existing hget hans, .of_eq rfl⟩
    · obtain ⟨last, hwrite, hlast⟩ := bind_ok.1 h
      cases hlast
      obtain ⟨hput, houtbox⟩ := update_directed_request_handling_eq_ok hwrite
      exact ⟨.reclaimed existing _ hget hstate hlate rfl rfl hlimit hput, .of_eq houtbox⟩
  | none =>
    rcases claim_attempt_none hres with rfl | rfl
    · cases h
      exact ⟨.busy hget, .of_eq rfl⟩
    · obtain ⟨last, hwrite, hlast⟩ := bind_ok.1 h
      cases hlast
      obtain ⟨receipts, houtcomes, hcount, hins, hreserved⟩ := write_claim_none hwrite
      refine ⟨?_, hreserved⟩
      cases hpassed : cutoff_passed delivery_options request.now_unix_milliseconds with
      | false =>
        simp only [hpassed, Option.isNone_none, Bool.and_false, Bool.false_eq_true,
          if_false] at houtcomes hins ⊢
        exact .admitted _ receipts delivery_options hoptions hpassed rfl rfl houtcomes hins
      | true =>
        simp only [hpassed, Option.isNone_none, Bool.and_true, if_true] at houtcomes hins ⊢
        -- a cutoff can only have passed where there are options, so there is a receipt
        have hsome : delivery_options.isSome = true := by
          cases delivery_options with
          | none => cases hpassed
          | some options => rfl
        rw [if_pos hsome, length_eq_one_iff] at hcount
        obtain ⟨receipt, rfl⟩ := hcount
        exact .expired _ receipt delivery_options hoptions hpassed rfl rfl
          (houtcomes receipt (mem_singleton_self receipt)) hins

/-! ## What the other calls can do

Each names an attempt, and succeeds only if the record is at that attempt. -/

/-- Resuming moves a live attempt to a new lease. -/
theorem resume_cases {request : ActiveDirectedRequestClaim}
    (h : resume_directed_request_delivery store request lease_id expires_at = (.ok claim, store')) :
    (∃ handling, store.directed_request_handling.get? request.key = some handling
      ∧ handling.state = .Claimed ∧ handling.claim.attempt = request.attempt
      ∧ store'.directed_request_handling = store.directed_request_handling.put
        { handling with claim := { handling.claim with
            lease_id := lease_id, claim_expires_at_unix_milliseconds := expires_at } })
    ∧ store.ReservationsKept store' := by
  have h := transaction_ok h
  obtain ⟨_, _, h⟩ := bind_ok.1 h
  obtain ⟨_, _, h⟩ := bind_ok.1 h
  obtain ⟨_, _, h⟩ := bind_ok.1 h
  obtain ⟨handling, hload, h⟩ := bind_ok.1 h
  obtain ⟨hmatches, h⟩ := ite_ok.1 h
  obtain ⟨_, h⟩ := ite_ok.1 h
  obtain ⟨⟨event, state⟩, _, h⟩ := bind_ok.1 h
  obtain ⟨_, h⟩ := ite_ok.1 h
  obtain ⟨_, _, h⟩ := bind_ok.1 h
  obtain ⟨leased, hleased, h⟩ := bind_ok.1 h
  obtain ⟨_, _, h⟩ := bind_ok.1 h
  obtain ⟨last, hwrite, hlast⟩ := bind_ok.1 h
  cases hlast
  obtain ⟨hput, houtbox⟩ := update_directed_request_handling_eq_ok hwrite
  have hlive : handling.state = .Claimed ∧ handling.claim.attempt = request.attempt := by
    have hmatches := of_decide_eq_true (Bool.of_not_eq_false hmatches)
    exact ⟨hmatches.1, hmatches.2.2.2.2.2.1⟩
  exact ⟨⟨handling, require_directed_request_handling_eq_ok hload, hlive.1, hlive.2, hput⟩,
    .of_eq houtbox⟩

/-- Renewing extends a live attempt, and changes no record otherwise. -/
theorem renew_cases {request : ActiveDirectedRequestClaim}
    (h : heartbeat_adapter_consumer store consumer_id lease_id now expires_at (some request)
      = (.ok (), store')) :
    (∃ handling, store.directed_request_handling.get? request.key = some handling
      ∧ handling.claim.attempt = request.attempt
      ∧ (store'.directed_request_handling = store.directed_request_handling
        ∨ (handling.state = .Claimed
          ∧ store'.directed_request_handling = store.directed_request_handling.put
            { handling with claim := { handling.claim with
                claim_expires_at_unix_milliseconds := expires_at } })))
    ∧ store.ReservationsKept store' := by
  obtain ⟨⟨renewed, last⟩, hrun, hstore⟩ := bind_ok.1 (transaction_ok h)
  cases hstore
  obtain ⟨_, _, hrun⟩ := bind_ok.1 hrun
  obtain ⟨_, _, hrun⟩ := bind_ok.1 hrun
  obtain ⟨journal, _, hrun⟩ := bind_ok.1 hrun
  obtain ⟨_, hrenewed, hrun⟩ := bind_ok.1 hrun
  obtain ⟨_, _, hrun⟩ := bind_ok.1 hrun
  cases hrun
  obtain ⟨handling, hload, hrenewed⟩ := bind_ok.1 hrenewed
  obtain ⟨hmatches, hrenewed⟩ := ite_ok.1 hrenewed
  have hget : store.directed_request_handling.get? request.key = some handling :=
    require_directed_request_handling_eq_ok hload
  have hatt : handling.claim.attempt = request.attempt := by
    by_contra hne
    exact hmatches (.inr (.inr (.inl hne)))
  split at hrenewed
  · cases hrenewed
    exact ⟨⟨handling, hget, hatt, .inl rfl⟩, .of_eq rfl⟩
  · rename_i hstate
    obtain ⟨_, hrenewed⟩ := ite_ok.1 hrenewed
    obtain ⟨_, hrenewed⟩ := ite_ok.1 hrenewed
    obtain ⟨⟨event, state⟩, _, hrenewed⟩ := bind_ok.1 hrenewed
    obtain ⟨_, hwrite⟩ := ite_ok.1 hrenewed
    obtain ⟨hput, houtbox⟩ := update_directed_request_handling_eq_ok hwrite
    exact ⟨⟨handling, hget, hatt, .inr ⟨not_not.1 hstate, hput⟩⟩, .of_eq houtbox⟩

theorem terminal_receipts_eq_ok
    (h : terminal_receipts derive store existing now = .ok (receipts, store')) :
    (∀ receipt ∈ receipts, receipt ∈ existing.delivery_receipts
        ∨ receipt.outcome = .EndedWithoutResponse) ∧ store.OtherWork store' := by
  unfold terminal_receipts at h
  split at h
  · obtain ⟨⟨receipt, reserved⟩, hreserve, hpair⟩ := map_eq_ok.1 h
    cases hpair
    obtain ⟨hout, hother⟩ := reserve_request_delivery_receipt_eq_ok hreserve
    refine ⟨?_, hother⟩
    intro other hmem
    rcases mem_append.1 hmem with hold | hnew
    · exact .inl hold
    · rw [mem_singleton] at hnew
      exact .inr (hnew ▸ hout)
  · cases h
    exact ⟨fun _ hmem => .inl hmem, .of_eq rfl rfl rfl⟩

/-- Completing ends a live attempt, and leaves a terminal record as it is. -/
theorem complete_cases {request : CompleteDirectedRequest}
    {outcome : DirectedRequestCompletionOutcome}
    (h : complete_directed_request_without_response derive store request now
      = (.ok outcome, store')) :
    (∃ handling, store.directed_request_handling.get? request.key = some handling
      ∧ handling.claim.attempt = request.attempt
      ∧ (store' = store ∨ (handling.state = .Claimed ∧ ∃ receipts,
          (∀ receipt ∈ receipts, receipt ∈ handling.delivery_receipts
            ∨ receipt.outcome = .EndedWithoutResponse)
          ∧ store'.directed_request_handling = store.directed_request_handling.put
            (.without_response handling.claim .CompletedNoResponse receipts))))
    ∧ store.ReservationsKept store' := by
  have h := transaction_ok h
  obtain ⟨handling, hload, h⟩ := bind_ok.1 h
  obtain ⟨hmatches, h⟩ := ite_ok.1 h
  have hget := require_directed_request_handling_eq_ok hload
  have hatt : handling.claim.attempt = request.attempt :=
    (of_decide_eq_true (Bool.of_not_eq_false hmatches)).2.2.2.2.1
  split at h
  · cases h
    exact ⟨⟨handling, hget, hatt, .inl rfl⟩, .of_eq rfl⟩
  · rename_i hopen
    split at h
    · cases h
      exact ⟨⟨handling, hget, hatt, .inl rfl⟩, .of_eq rfl⟩
    · rename_i hunanswered
      obtain ⟨⟨receipts, middle⟩, hreceipts, h⟩ := bind_ok.1 h
      obtain ⟨last, hwrite, hlast⟩ := bind_ok.1 h
      cases hlast
      obtain ⟨hput, houtbox⟩ := update_directed_request_handling_eq_ok hwrite
      obtain ⟨houtcomes, hother⟩ := terminal_receipts_eq_ok hreceipts
      rw [hother.journal] at hput
      have hstate : handling.state = .Claimed := by
        cases hstate : handling.state with
        | Claimed => rfl
        | CompletedResponse => exact absurd hstate hunanswered
        | CompletedNoResponse => exact absurd hstate hopen
      exact ⟨⟨handling, hget, hatt, .inr ⟨hstate, receipts, houtcomes, hput⟩⟩,
        hother.reserved.trans (.of_eq houtbox)⟩

/-- The record was completed with this reservation. -/
def DirectedRequestHandling.Responded (handling : DirectedRequestHandling)
    (reservation : OutboundReservation) : Prop :=
  handling.response_message_id = some reservation.message_id
    ∧ handling.response_envelope_id = some reservation.envelope_id
    ∧ handling.response_sender_counter = some reservation.sender_counter

/-- The journal's part of a response: it repeats the one there is, or completes the live attempt it
names. -/
theorem reserve_directed_request_response_cases {inserted_outbox : Bool}
    (h : reserve_directed_request_response store claim reservation inserted_outbox response now
      = .ok store') : ∃ handling, store.directed_request_handling.get? claim.key = some handling
    ∧ handling.claim = claim
    ∧ ((handling.state = .CompletedResponse ∧ handling.Responded reservation ∧ store' = store)
      ∨ (handling.state = .Claimed ∧ inserted_outbox = true ∧ store'.outbox = store.outbox
        ∧ ∃ text, store'.directed_request_handling = store.directed_request_handling.put
          (handling.with_response reservation text response))) := by
  unfold reserve_directed_request_response at h
  split at h
  · rename_i text _
    obtain ⟨_, h⟩ := ite_ok.1 h
    obtain ⟨handling, hload, h⟩ := bind_ok.1 h
    have hget := require_directed_request_handling_eq_ok hload
    refine ⟨handling, hget, ?_⟩
    split at h
    · rename_i hexact
      cases h
      obtain ⟨hstate, hclaim, hmsg, henv, hcounter, _⟩ := hexact
      exact ⟨hclaim, .inl ⟨hstate, ⟨hmsg, henv, hcounter⟩, rfl⟩⟩
    · obtain ⟨hlive, h⟩ := ite_ok.1 h
      rw [not_or, not_not, not_not] at hlive
      obtain ⟨hins, h⟩ := ite_ok.1 h
      obtain ⟨_, _, h⟩ := bind_ok.1 h
      obtain ⟨_, hwrite⟩ := ite_ok.1 h
      obtain ⟨hput, houtbox⟩ := update_directed_request_handling_eq_ok hwrite
      exact ⟨hlive.2, .inr ⟨hlive.1, Bool.of_not_eq_false hins, houtbox, text, hput⟩⟩
  · cases h

/-- Everything a successful response can do. -/
inductive RespondEffect (store : ProfileStore) (claim : DirectedRequestClaim)
    (response : ResponseContent) : OutboundReservation → ProfileStore → Prop
  | replayed {reservation : OutboundReservation} (handling : DirectedRequestHandling)
      (hget : store.directed_request_handling.get? claim.key = some handling)
      (hclaim : handling.claim = claim) (hstate : handling.state = .CompletedResponse)
      (hresponded : handling.Responded reservation) (row : OutboxRow)
      (hrow : row ∈ store.outbox.rows) (hreservation : row.reservation = reservation)
      (honly : ∀ other ∈ store.outbox.rows, other.envelope_id = reservation.envelope_id →
        other = row) :
      RespondEffect store claim response reservation store
  | reinserted {reservation : OutboundReservation} {store' : ProfileStore}
      (handling : DirectedRequestHandling)
      (hget : store.directed_request_handling.get? claim.key = some handling)
      (hclaim : handling.claim = claim) (hstate : handling.state = .CompletedResponse)
      (hresponded : handling.Responded reservation)
      (hfree : ∀ row ∈ store.outbox.rows, row.envelope_id ≠ reservation.envelope_id)
      (row : OutboxRow) (hrow : row ∈ store'.outbox.rows)
      (hreservation : row.reservation = reservation)
      (hjournal : store'.directed_request_handling = store.directed_request_handling) :
      RespondEffect store claim response reservation store'
  | responded {reservation : OutboundReservation} {store' : ProfileStore}
      (handling : DirectedRequestHandling) (text : String)
      (hget : store.directed_request_handling.get? claim.key = some handling)
      (hclaim : handling.claim = claim) (hstate : handling.state = .Claimed)
      (row : OutboxRow) (hrow : row ∈ store'.outbox.rows)
      (hreservation : row.reservation = reservation)
      (hjournal : store'.directed_request_handling = store.directed_request_handling.put
        (handling.with_response reservation text response)) :
      RespondEffect store claim response reservation store'

theorem respond_cases {authorization : CollaborationActionAuthorization}
    (h : reserve_outbound_collaboration_action store conversation_id message_id envelope_id
      authorization response now = (.ok reservation, store')) :
    RespondEffect store authorization.directed_request_claim response reservation store'
    ∧ store.ReservationsKept store' := by
  have h := transaction_ok h
  obtain ⟨_, _, h⟩ := bind_ok.1 h
  obtain ⟨_, _, h⟩ := bind_ok.1 h
  obtain ⟨_, h⟩ := ite_ok.1 h
  split at h
  · rename_i hfree
    obtain ⟨⟨reserved, middle⟩, hreserve, h⟩ := bind_ok.1 h
    obtain ⟨last, hrec, hlast⟩ := bind_ok.1 h
    cases hlast
    obtain ⟨hother, henv, row, hrow, hres⟩ := reserve_new_outbound_application_eq_ok hreserve
    obtain ⟨handling, hget, hclaim, hcases⟩ := reserve_directed_request_response_cases hrec
    rw [hother.journal] at hget
    rcases hcases with ⟨hstate, hresp, rfl⟩ | ⟨hstate, _, houtbox, text, hput⟩
    · refine ⟨.reinserted handling hget hclaim hstate hresp ?_ row hrow hres
        hother.journal, hother.reserved⟩
      intro old hold hsame
      have hnone := filter_eq_nil_iff.1 hfree old hold
      exact hnone (decide_eq_true (.inl (hsame.trans henv)))
    · rw [hother.journal] at hput
      exact ⟨.responded handling text hget hclaim hstate row (houtbox ▸ hrow) hres hput,
        hother.reserved.trans (.of_eq houtbox)⟩
  · rename_i row hrows
    obtain ⟨hsame, h⟩ := ite_ok.1 h
    obtain ⟨_, h⟩ := ite_ok.1 h
    obtain ⟨last, hrec, hlast⟩ := bind_ok.1 h
    cases hlast
    simp only [not_or, not_not] at hsame
    have honly : ∀ other ∈ store.outbox.rows, other.envelope_id = envelope_id → other = row := by
      intro other hother henv
      have hmem : other ∈ store.outbox.rows.filter (fun row => row.envelope_id = envelope_id
          ∨ (row.conversation_id = conversation_id ∧ row.message_id = message_id)) :=
        mem_filter.2 ⟨hother, decide_eq_true (.inl henv)⟩
      rw [hrows] at hmem
      exact mem_singleton.1 hmem
    have hrow : row ∈ store.outbox.rows := (mem_filter.1 (hrows ▸ mem_singleton_self row)).1
    obtain ⟨handling, hget, hclaim, hcases⟩ := reserve_directed_request_response_cases hrec
    rcases hcases with ⟨hstate, hresp, _⟩ | ⟨_, hins, _⟩
    · refine ⟨.replayed handling hget hclaim hstate hresp row hrow ?_ honly, .of_eq rfl⟩
      rw [OutboxRow.reservation, hsame.1, hsame.2.1, hsame.2.2]
    · cases hins
  · cases h

/-- A successful response names the claim on record. -/
theorem RespondEffect.current (h : RespondEffect store claim response reservation store') :
    ∃ handling, store.directed_request_handling.get? claim.key = some handling
    ∧ handling.claim = claim := by
  cases h with
  | replayed handling hget hclaim
  | reinserted handling hget hclaim
  | responded handling text hget hclaim => exact ⟨handling, hget, hclaim⟩

/-- After a successful response the record names its reservation, and the outbox holds it. -/
theorem RespondEffect.reserved (h : RespondEffect store claim response reservation store') :
    (∃ handling, store'.directed_request_handling.get? claim.key = some handling
      ∧ handling.state = .CompletedResponse ∧ handling.Responded reservation)
    ∧ ∃ row ∈ store'.outbox.rows, row.reservation = reservation := by
  cases h with
  | replayed handling hget _ hstate hresp row hrow hres =>
    exact ⟨⟨handling, hget, hstate, hresp⟩, row, hrow, hres⟩
  | reinserted handling hget _ hstate hresp _ row hrow hres hjournal =>
    exact ⟨⟨handling, hjournal ▸ hget, hstate, hresp⟩, row, hrow, hres⟩
  | responded handling text hget _ _ row hrow hres hjournal =>
    refine ⟨⟨handling.with_response reservation text response, ?_, rfl, rfl, rfl, rfl⟩, row,
      hrow, hres⟩
    have hkey : handling.key = claim.key := Table.key_of_get? hget
    rw [hjournal, Table.get?_put]
    exact if_pos hkey

end Konclave.Daemon
