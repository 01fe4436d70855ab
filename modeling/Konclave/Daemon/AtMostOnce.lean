/-
A directed request is handled at most once.

A step evolves the journal (`ProfileStore.Step.keeps`): a record only moves forward
(`Advances`), so a terminal record stays as it is, the attempt number never drops, and a
record is marked as expired before admission when it is created or never. From that come
the guarantees over whole runs.
-/
import Konclave.Daemon.Effects
import Konclave.Journal

set_option autoImplicit false

namespace Konclave.Daemon

open Domain Call Table

variable {derive : DeliveryIdentifiers} {store store' : ProfileStore}

/-! ## How a record moves

A record keeps its key, its attempts grow, and an ended one stays as it ended. -/

/-- A record only moves forward. -/
structure DirectedRequestHandling.Advances (handling handling' : DirectedRequestHandling) :
    Prop where
  terminal : handling.state ≠ .Claimed → handling' = handling
  attempt : handling.claim.attempt ≤ handling'.claim.attempt
  limit : handling'.claim.attempt = handling.claim.attempt
    ∨ handling'.claim.attempt ≤ MAX_DIRECTED_REQUEST_HANDLING_ATTEMPTS
  expired : handling'.Expired → handling.Expired

open DirectedRequestHandling.Advances

/-- A record starts with the first attempt, or ends before it. -/
def DirectedRequestHandling.Fresh (handling : DirectedRequestHandling) : Prop :=
  handling.claim.attempt = 1
    ∧ ((handling.state = .Claimed ∧ ¬ handling.Expired)
      ∨ (handling.state = .CompletedNoResponse ∧ handling.Expired))

namespace DirectedRequestHandling.Advances

variable {x y z : DirectedRequestHandling}

theorem refl (x : DirectedRequestHandling) : x.Advances x := ⟨fun _ => rfl, le_refl _, .inl rfl, id⟩

theorem trans (h : x.Advances y) (h' : y.Advances z) : x.Advances z where
  terminal hstate := by
    have hxy := h.terminal hstate
    rw [← hxy] at hstate
    exact (h'.terminal hstate).trans hxy
  attempt := h.attempt.trans h'.attempt
  limit := by
    rcases h'.limit with heq | hle
    · rw [heq]
      exact h.limit
    · exact .inr hle
  expired hz := h.expired (h'.expired hz)

end DirectedRequestHandling.Advances

/-- A journal whose records move forward. -/
abbrev ProfileStore.Evolves (store store' : ProfileStore) : Prop :=
  Journal.Evolves DirectedRequestHandling.Advances DirectedRequestHandling.Fresh
    store.directed_request_handling store'.directed_request_handling

theorem ProfileStore.Evolves.of_eq
    (h : store'.directed_request_handling = store.directed_request_handling) :
    store.Evolves store' := by
  rw [ProfileStore.Evolves, h]
  exact Journal.Evolves.refl refl _

variable {key : HandlingKey} {handling : DirectedRequestHandling}
  {outcome : DirectedRequestClaimOutcome} {reservation : OutboundReservation}

/-! ## Steps and runs

Every call moves one record or none, so every run moves each record. -/

section

variable {call : Call} {reply : Reply}

/-- The call a reply came from returned it with the same state. -/
theorem map_reply_eq_ok {α : Type} {result : Except ProfileStoreError α × ProfileStore}
    {wrap : α → Reply} (h : (result.map (·.map wrap) id).1 = .ok reply) :
    ∃ a, result = (.ok a, (result.map (·.map wrap) id).2) ∧ wrap a = reply := by
  obtain ⟨value, state⟩ := result
  cases value with
  | error e => cases h
  | ok a => exact ⟨a, rfl, by simpa [Except.map] using h⟩

/-- A call that fails changes nothing. -/
theorem Call.run_error {e : ProfileStoreError} (h : (call.run derive store).1 = .error e) :
    (call.run derive store).2 = store := by
  have hrolled {α : Type} {body : Except ProfileStoreError (α × ProfileStore)}
      {wrap : α → Reply} (hbody : ((transaction store body).map (·.map wrap) id).1 = .error e) :
      ((transaction store body).map (·.map wrap) id).2 = store := by
    cases body with
    | ok result => cases hbody
    | error e => rfl
  cases call <;> exact hrolled h

/-- The call claimed the next attempt, after the previous one had expired. -/
def Call.Reclaims (call : Call) (reply : Reply) (handling row : DirectedRequestHandling) : Prop :=
  ∃ request continuation_message_id, call = .claim request continuation_message_id
    ∧ reply = .claim (.Claimed row.claim)
    ∧ handling.claim.claim_expires_at_unix_milliseconds ≤ request.now_unix_milliseconds
    ∧ row.claim.attempt = handling.claim.attempt + 1
    ∧ row.claim.attempt ≤ MAX_DIRECTED_REQUEST_HANDLING_ATTEMPTS

/-- What a successful call does to the journal: nothing, or it moves the live record it is
about, or it creates that record. -/
inductive CallEffect (store : ProfileStore) (call : Call) (reply : Reply)
    (store' : ProfileStore) : Prop
  | unchanged (h : store'.directed_request_handling = store.directed_request_handling)
  | moved (handling row : DirectedRequestHandling)
      (hput : store'.directed_request_handling = store.directed_request_handling.put row)
      (hget : store.directed_request_handling.get? call.key = some handling)
      (hkey : row.key = handling.key) (hstate : handling.state = .Claimed)
      (hattempt : row.claim.attempt = handling.claim.attempt ∨ call.Reclaims reply handling row)
      (hexpired : row.Expired → handling.Expired)
  | created (row : DirectedRequestHandling)
      (hinsert : store.directed_request_handling.insert? row
        = some store'.directed_request_handling)
      (hfresh : row.Fresh)

theorem ClaimEffect.call_effect {request : ClaimDirectedRequest} {continuation : Option MessageId}
    (h : ClaimEffect store request continuation outcome store') :
    CallEffect store (.claim request continuation) (.claim outcome) store' := by
  cases h with
  | answered | busy => exact .unchanged rfl
  | reclaimed handling claim hget hstate hlate hkey hatt hlimit hstore =>
    exact .moved handling _ hstore hget (hkey.trans (key_of_get? hget).symm) hstate
      (.inr ⟨request, continuation, rfl, rfl, hlate, hatt, hlimit⟩) id
  | admitted claim receipts _ _ _ _ hatt hreceipts hstore =>
    refine .created _ hstore ⟨hatt, .inl ⟨rfl, ?_⟩⟩
    rintro ⟨receipt, hmem, hexp⟩
    cases (hreceipts receipt hmem).symm.trans hexp
  | expired claim receipt _ _ _ _ hatt hreceipt hstore =>
    exact .created _ hstore ⟨hatt, .inr ⟨rfl, receipt, List.mem_singleton_self receipt, hreceipt⟩⟩

theorem RespondEffect.call_effect {conversation_id : ConversationId} {message_id : MessageId}
    {envelope_id : EnvelopeId} {authorization : CollaborationActionAuthorization}
    {response : ResponseContent} {now : ℕ}
    (h : RespondEffect store authorization.directed_request_claim response reservation store') :
    CallEffect store (.respond conversation_id message_id envelope_id authorization response now)
    (.respond reservation) store' := by
  cases h with
  | replayed => exact .unchanged rfl
  | reinserted _ _ _ _ _ _ _ _ _ hjournal => exact .unchanged hjournal
  | responded handling text hget hclaim hstate _ _ _ hjournal =>
    exact .moved handling _ hjournal hget rfl hstate (.inl rfl) id

/-- Everything a successful call can do: to the journal, to the outbox, and which attempt
it can have named. -/
theorem Call.run_ok (h : (call.run derive store).1 = .ok reply) :
    CallEffect store call reply (call.run derive store).2
    ∧ store.ReservationsKept (call.run derive store).2 ∧ ∀ attempt, call.attempt = some attempt →
      ∃ handling, store.directed_request_handling.get? call.key = some handling
        ∧ handling.claim.attempt = attempt := by
  cases call with
  | claim request continuation =>
    obtain ⟨outcome, hrun, rfl⟩ := map_reply_eq_ok h
    obtain ⟨heffect, hreserved⟩ := claim_cases hrun
    exact ⟨heffect.call_effect, hreserved, fun _ hnone => by cases hnone⟩
  | resume request lease_id expires_at =>
    obtain ⟨claim, hrun, rfl⟩ := map_reply_eq_ok h
    obtain ⟨⟨handling, hget, hstate, hatt, hput⟩, hreserved⟩ := resume_cases hrun
    refine ⟨.moved handling _ hput hget rfl hstate (.inl rfl) id, hreserved, ?_⟩
    rintro _ ⟨⟩
    exact ⟨handling, hget, hatt⟩
  | renew consumer_id lease_id now expires_at request =>
    obtain ⟨_, hrun, rfl⟩ := map_reply_eq_ok h
    obtain ⟨⟨handling, hget, hatt, hjournal⟩, hreserved⟩ := renew_cases hrun
    refine ⟨?_, hreserved, ?_⟩
    · rcases hjournal with hsame | ⟨hstate, hput⟩
      · exact .unchanged hsame
      · exact .moved handling _ hput hget rfl hstate (.inl rfl) id
    · rintro _ ⟨⟩
      exact ⟨handling, hget, hatt⟩
  | complete request now =>
    obtain ⟨outcome, hrun, rfl⟩ := map_reply_eq_ok h
    obtain ⟨⟨handling, hget, hatt, hjournal⟩, hreserved⟩ := complete_cases hrun
    refine ⟨?_, hreserved, ?_⟩
    · rcases hjournal with hsame | ⟨hstate, receipts, hreceipts, hput⟩
      · exact .unchanged (congrArg _ hsame)
      · refine .moved handling _ hput hget rfl hstate (.inl rfl) ?_
        rintro ⟨receipt, hmem, hexp⟩
        rcases hreceipts receipt hmem with hold | hended
        · exact ⟨receipt, hold, hexp⟩
        · rw [hexp] at hended
          cases hended
    · rintro _ ⟨⟩
      exact ⟨handling, hget, hatt⟩
  | respond conversation_id message_id envelope_id authorization response now =>
    obtain ⟨reservation, hrun, rfl⟩ := map_reply_eq_ok h
    obtain ⟨heffect, hreserved⟩ := respond_cases hrun
    refine ⟨heffect.call_effect, hreserved, ?_⟩
    rintro _ ⟨⟩
    obtain ⟨handling, hget, hclaim⟩ := heffect.current
    exact ⟨handling, hget, congrArg DirectedRequestClaim.attempt hclaim⟩

theorem CallEffect.evolves (h : CallEffect store call reply store') : store.Evolves store' := by
  cases h with
  | unchanged h => exact .of_eq h
  | moved handling row hput hget hkey hstate hatt hexp =>
    have hatt := hatt.imp_right fun ⟨_, _, _, _, _, hnext, hlimit⟩ => And.intro hnext hlimit
    rw [ProfileStore.Evolves, hput]
    refine Journal.Evolves.put refl ?_
      ⟨fun hne => absurd hstate hne, by omega, hatt.imp_right And.right, hexp⟩
    rw [hkey, key_of_get? hget]
    exact hget
  | created row hins hfresh =>
    exact Journal.Evolves.insert refl hins hfresh

/-- Only a claim of the next attempt changes an attempt number. -/
theorem CallEffect.attempt (h : CallEffect store call reply store')
    (hget : store.directed_request_handling.get? key = some handling) :
    ∃ handling', store'.directed_request_handling.get? key = some handling'
    ∧ (handling'.claim.attempt = handling.claim.attempt
      ∨ (call.key = key ∧ call.Reclaims reply handling handling')) := by
  cases h with
  | unchanged h => exact ⟨handling, h ▸ hget, .inl rfl⟩
  | moved old row hput hold hkey hstate hatt hexp =>
    rw [hput, get?_put]
    have hrow : row.key = call.key := hkey.trans (key_of_get? hold)
    by_cases hsame : row.key = key
    · rw [if_pos hsame]
      have hcall : call.key = key := hrow.symm.trans hsame
      rw [hcall, hget] at hold
      cases hold
      exact ⟨row, rfl, hatt.imp_right fun hnext => ⟨hcall, hnext⟩⟩
    · rw [if_neg hsame]
      exact ⟨handling, hget, .inl rfl⟩
  | created row hins hfresh =>
    rw [get?_insert hins]
    by_cases hsame : row.key = key
    · rw [← hsame, (insert?_iff.1 hins).1] at hget
      cases hget
    · rw [if_neg hsame]
      exact ⟨handling, hget, .inl rfl⟩

end

namespace ProfileStore

/-- A step evolves the journal and keeps the reservations. -/
theorem Step.keeps (hstep : Step derive store store') :
    store.Evolves store' ∧ store.ReservationsKept store' := by
  cases hstep with
  | call call =>
    cases h : (call.run derive store).1 with
    | ok reply => exact ⟨(run_ok h).1.evolves, (run_ok h).2.1⟩
    | error e =>
      rw [run_error h]
      exact ⟨.of_eq rfl, .of_eq rfl⟩
  | other hother => exact ⟨.of_eq hother.journal, hother.reserved⟩

/-- A record moves forward over a whole run. -/
theorem Steps.advances (hsteps : Steps derive store store')
    (hget : store.directed_request_handling.get? key = some handling) :
    ∃ handling', store'.directed_request_handling.get? key = some handling'
    ∧ handling.Advances handling' :=
  Journal.kept_of_steps (t := directed_request_handling)
    refl (fun _ _ _ => .trans) (fun _ _ hstep => hstep.keeps.1)
    hsteps hget

theorem Steps.reserved (hsteps : Steps derive store store') : store.ReservationsKept store' := by
  induction hsteps with
  | refl => exact .of_eq rfl
  | tail _ hstep ih => exact ih.trans hstep.keeps.2

/-- The attempt numbers of every run stay within the limit. -/
theorem Reachable.attempt_le (hreach : store.Reachable derive)
    (hget : store.directed_request_handling.get? key = some handling) : 1 ≤ handling.claim.attempt
    ∧ handling.claim.attempt ≤ MAX_DIRECTED_REQUEST_HANDLING_ATTEMPTS := by
  obtain ⟨initial, hempty, hsteps⟩ := hreach
  refine Journal.forall_of_steps (t := directed_request_handling)
    (I := fun handling => 1 ≤ handling.claim.attempt
      ∧ handling.claim.attempt ≤ MAX_DIRECTED_REQUEST_HANDLING_ATTEMPTS)
    ?_ ?_ (fun _ _ hstep => hstep.keeps.1) hsteps ?_ hget
  · rintro handling ⟨hone, _⟩
    rw [hone]
    decide
  · rintro handling handling' hmove ⟨hpos, hle⟩
    refine ⟨hpos.trans hmove.attempt, ?_⟩
    rcases hmove.limit with hsame | hlimit
    · exact hsame.trans_le hle
    · exact hlimit
  · intro k row hrow
    rw [hempty, get?_empty] at hrow
    cases hrow

end ProfileStore

/-! ## At most once

Three facts: responses agree, a superseded attempt cannot end, the first claim decides. -/

/-- A call that returned a reservation was a response. -/
theorem Call.run_respond {call : Call}
    (h : (call.run derive store).1 = .ok (.respond reservation)) :
    ∃ claim response, claim.key = call.key
    ∧ RespondEffect store claim response reservation (call.run derive store).2 := by
  cases call with
  | respond conversation_id message_id envelope_id authorization response now =>
    obtain ⟨_, hrun, ⟨⟩⟩ := map_reply_eq_ok h
    exact ⟨authorization.directed_request_claim, response, rfl, (respond_cases hrun).1⟩
  | claim request continuation | resume request lease_id expires_at
  | renew consumer_id lease_id now expires_at request | complete request now =>
    obtain ⟨_, _, ⟨⟩⟩ := map_reply_eq_ok h

/-- Once a request is answered, every later response to it repeats the first reservation
and changes nothing. -/
theorem responses_agree {call call' : Call} {reservation' : OutboundReservation}
    {middle : ProfileStore} (hkey : call'.key = call.key)
    (hfirst : (call.run derive store).1 = .ok (.respond reservation))
    (hsteps : ProfileStore.Steps derive (call.run derive store).2 middle)
    (hsecond : (call'.run derive middle).1 = .ok (.respond reservation')) :
    reservation' = reservation ∧ (call'.run derive middle).2 = middle := by
  obtain ⟨claim, _, hclaim, heffect⟩ := run_respond hfirst
  obtain ⟨⟨answered, hget, hstate, hresp⟩, row, hrow, hres⟩ := heffect.reserved
  -- the record is terminal and the outbox row stays, so both are still there at `middle`
  obtain ⟨later, hlater, hmove⟩ := hsteps.advances hget
  have hsame : later = answered := hmove.terminal (by rw [hstate]; decide)
  obtain ⟨kept, hkept, hkept_reservation⟩ := hsteps.reserved row hrow
  have henv : kept.envelope_id = reservation.envelope_id :=
    congrArg OutboundReservation.envelope_id (hkept_reservation.trans hres)
  obtain ⟨claim', _, hclaim', heffect'⟩ := run_respond hsecond
  have hkeys : claim'.key = claim.key := by rw [hclaim', hkey, hclaim]
  rw [hsame, ← hkeys] at hlater
  have hagree : answered.Responded reservation' →
      reservation'.envelope_id = reservation.envelope_id := by
    rintro ⟨_, henv', _⟩
    rw [hresp.2.1] at henv'
    exact (Option.some.inj henv').symm
  generalize hlast : (call'.run derive middle).2 = last at heffect' ⊢
  cases heffect' with
  | replayed handling hget' _ _ hresp' row' _ hres' honly =>
    rw [hlater] at hget'
    cases hget'
    have hrows : kept = row' := honly kept hkept (henv.trans (hagree hresp').symm)
    refine ⟨?_, rfl⟩
    rw [← hres', ← hrows, hkept_reservation, hres]
  | reinserted handling hget' _ _ hresp' hfree =>
    rw [hlater] at hget'
    cases hget'
    exact absurd (henv.trans (hagree hresp').symm) (hfree kept hkept)
  | responded handling text hget' _ hlive =>
    rw [hlater] at hget'
    cases hget'
    rw [hstate] at hlive
    cases hlive

/-- A call that names an attempt before the current one fails. -/
theorem superseded_attempt_fails (hget : store.directed_request_handling.get? key = some handling)
    (hsteps : ProfileStore.Steps derive store store') {call : Call} {attempt : ℕ}
    (hkey : call.key = key) (hatt : call.attempt = some attempt)
    (hold : attempt < handling.claim.attempt) : ∃ e, (call.run derive store').1 = .error e := by
  obtain ⟨current, hcur, hmove⟩ := hsteps.advances hget
  cases h : (call.run derive store').1 with
  | error e => exact ⟨e, rfl⟩
  | ok reply =>
    obtain ⟨named, hnamed, hsame⟩ := (run_ok h).2.2 attempt hatt
    rw [hkey, hcur] at hnamed
    cases hnamed
    have := hmove.attempt
    omega

section

variable {request : ClaimDirectedRequest} {continuation : Option MessageId}
  {recorded : DirectedRequestHandling}

theorem Call.run_claim (h : ((claim request continuation).run derive store).1
      = .ok (.claim outcome)) : ClaimEffect store request continuation outcome
    ((claim request continuation).run derive store).2 := by
  obtain ⟨_, hclaim, ⟨⟩⟩ := map_reply_eq_ok h
  exact (claim_cases hclaim).1

/-- The claim that creates a record decides admission by the request's cutoff. -/
theorem first_claim_decides (hnone : store.directed_request_handling.get? request.key = none)
    (hrec : (((claim request continuation).run derive
      store).2.directed_request_handling.get? request.key) = some recorded) : ∃ delivery_options,
    claim_delivery_options store request continuation = .ok delivery_options
    ∧ recorded.claim.attempt = 1
    ∧ if cutoff_passed delivery_options request.now_unix_milliseconds then
        recorded.state = .CompletedNoResponse ∧ recorded.Expired
          ∧ ∀ receipt ∈ recorded.delivery_receipts, receipt.outcome = .ExpiredBeforeAdmission
      else recorded.state = .Claimed
          ∧ ∀ receipt ∈ recorded.delivery_receipts, receipt.outcome = .Admitted := by
  cases h : ((claim request continuation).run derive store).1 with
  | error e =>
    rw [run_error h, hnone] at hrec
    cases hrec
  | ok reply =>
    obtain ⟨outcome, _, rfl⟩ := map_reply_eq_ok h
    have heffect := run_claim h
    generalize ((claim request continuation).run derive store).2 = after at heffect hrec
    cases heffect with
    | answered handling hget =>
      rw [hnone] at hget
      cases hget
    | busy =>
      rw [hnone] at hrec
      cases hrec
    | reclaimed handling claim hget =>
      rw [hnone] at hget
      cases hget
    | admitted claim receipts delivery_options hoptions hopen hkey hatt hreceipts hstore =>
      rw [get?_insert hstore, without_response_key, if_pos hkey] at hrec
      cases hrec
      refine ⟨delivery_options, hoptions, hatt, ?_⟩
      rw [hopen]
      exact ⟨rfl, hreceipts⟩
    | expired claim receipt delivery_options hoptions hpassed hkey hatt hreceipt hstore =>
      rw [get?_insert hstore, without_response_key, if_pos hkey] at hrec
      cases hrec
      refine ⟨delivery_options, hoptions, hatt, ?_⟩
      rw [hpassed]
      refine ⟨rfl, ⟨receipt, List.mem_singleton_self receipt, hreceipt⟩, ?_⟩
      intro other hother
      rw [List.mem_singleton.1 hother]
      exact hreceipt

/-- A claim on a record answers it or makes its next attempt. -/
theorem later_claim_answers
    (hget : store.directed_request_handling.get? request.key = some recorded)
    (h : ((claim request continuation).run derive store).1 = .ok (.claim outcome)) :
    (recorded.Answers outcome ∧ ((claim request continuation).run derive store).2 = store)
    ∨ (recorded.state = .Claimed ∧ ∃ claim, outcome = .Claimed claim
      ∧ claim.attempt = recorded.claim.attempt + 1
      ∧ recorded.claim.claim_expires_at_unix_milliseconds ≤ request.now_unix_milliseconds) := by
  have heffect := run_claim h
  generalize ((claim request continuation).run derive store).2 = after at heffect ⊢
  cases heffect with
  | answered handling hget' hans =>
    rw [hget] at hget'
    cases hget'
    exact .inl ⟨hans, rfl⟩
  | busy hnone =>
    rw [hget] at hnone
    cases hnone
  | reclaimed handling claim hget' hstate hlate _ hatt =>
    rw [hget] at hget'
    cases hget'
    exact .inr ⟨hstate, claim, rfl, hatt, hlate⟩
  | admitted claim receipts _ _ _ hkey _ _ hstore | expired claim receipt _ _ _ hkey _ _ hstore =>
    have hfree := (insert?_iff.1 hstore).1
    rw [without_response_key, hkey, hget] at hfree
    cases hfree

end

/-- Directed-request handling is at most once, for every record, in every run. -/
theorem handling_at_most_once (hreach : store.Reachable derive) (key : HandlingKey) :
    -- a record stays, and a terminal one never changes again
    (∀ handling, store.directed_request_handling.get? key = some handling →
      ∀ later, ProfileStore.Steps derive store later →
        ∃ handling', later.directed_request_handling.get? key = some handling'
          ∧ (handling.state = .Claimed ∨ handling' = handling))
    -- the first response creates the only reservation
    ∧ (∀ call call' : Call, call.key = key → call'.key = key → ∀ reservation reservation',
      (call.run derive store).1 = .ok (.respond reservation) →
      ∀ later, ProfileStore.Steps derive (call.run derive store).2 later →
        (call'.run derive later).1 = .ok (.respond reservation') →
          reservation' = reservation ∧ (call'.run derive later).2 = later)
    -- attempts are numbered from 1 to at most 16, one more for each claim made after the
    -- previous attempt expired, and no other call changes the number
    ∧ (∀ handling, store.directed_request_handling.get? key = some handling →
      1 ≤ handling.claim.attempt ∧ handling.claim.attempt ≤ 16
      ∧ (∀ call : Call, ∃ handling',
        (call.run derive store).2.directed_request_handling.get? key = some handling'
        ∧ (handling'.claim.attempt = handling.claim.attempt
          ∨ ∃ request continuation_message_id, call = .claim request continuation_message_id
            ∧ request.key = key
            ∧ (call.run derive store).1 = .ok (.claim (.Claimed handling'.claim))
            ∧ handling.claim.claim_expires_at_unix_milliseconds ≤ request.now_unix_milliseconds
            ∧ handling'.claim.attempt = handling.claim.attempt + 1))
      ∧ (∀ request continuation_message_id claim, request.key = key →
        ((Call.claim request continuation_message_id).run derive store).1
          = .ok (.claim (.Claimed claim)) →
        claim = handling.claim ∨ claim.attempt = handling.claim.attempt + 1))
    -- a superseded attempt can do nothing any more
    ∧ (∀ handling attempt, store.directed_request_handling.get? key = some handling →
      attempt + 1 ≤ handling.claim.attempt →
      ∀ later, ProfileStore.Steps derive store later →
        ∀ call : Call, call.key = key → ∀ named, call.attempt = some named → named ≤ attempt →
          ∃ e, (call.run derive later).1 = .error e)
    -- the first claim decides for ever whether the request is admitted or expired
    ∧ (∀ request continuation_message_id recorded, request.key = key →
      store.directed_request_handling.get? key = none →
      ((claim request continuation_message_id).run derive
        store).2.directed_request_handling.get? key = some recorded →
      ∃ delivery_options,
        claim_delivery_options store request continuation_message_id = .ok delivery_options
        ∧ recorded.claim.attempt = 1
        ∧ ∀ later, ProfileStore.Steps derive
            ((claim request continuation_message_id).run derive store).2 later →
          if cutoff_passed delivery_options request.now_unix_milliseconds then
            (∃ handling', later.directed_request_handling.get? key = some handling'
              ∧ handling'.state = .CompletedNoResponse
              ∧ ∀ receipt ∈ handling'.delivery_receipts, receipt.outcome = .ExpiredBeforeAdmission)
            ∧ ∀ request' continuation' claim, request'.key = key →
              ((Call.claim request' continuation').run derive later).1
                ≠ .ok (.claim (.Claimed claim))
          else
            recorded.state = .Claimed
            ∧ (∃ handling', later.directed_request_handling.get? key = some handling'
              ∧ ∀ receipt ∈ handling'.delivery_receipts, receipt.outcome ≠ .ExpiredBeforeAdmission)
            ∧ ∀ request' continuation', request'.key = key →
              ((claim request' continuation').run derive later).1
                ≠ .ok (.claim .ExpiredBeforeAdmission)) := by
  refine ⟨?_, ?_, ?_, ?_, ?_⟩
  · intro handling hget later hsteps
    obtain ⟨handling', hget', hmove⟩ := hsteps.advances hget
    refine ⟨handling', hget', ?_⟩
    by_cases hstate : handling.state = .Claimed
    · exact .inl hstate
    · exact .inr (hmove.terminal hstate)
  · intro call call' hkey hkey' reservation reservation' hfirst later hsteps hsecond
    exact responses_agree (hkey'.trans hkey.symm) hfirst hsteps hsecond
  · intro handling hget
    obtain ⟨hpos, hle⟩ := hreach.attempt_le hget
    refine ⟨hpos, hle, ?_, ?_⟩
    · intro call
      cases h : (call.run derive store).1 with
      | error e =>
        rw [run_error h]
        exact ⟨handling, hget, .inl rfl⟩
      | ok reply =>
        obtain ⟨handling', hget', hattempt⟩ := (run_ok h).1.attempt hget
        refine ⟨handling', hget', hattempt.imp_right ?_⟩
        rintro ⟨hkey, request, continuation_message_id, rfl, rfl, hlate, hnext, _⟩
        exact ⟨request, continuation_message_id, rfl, hkey, rfl, hlate, hnext⟩
    · intro request continuation_message_id claim hkey h
      rcases later_claim_answers (hkey ▸ hget) h with ⟨hanswer, _⟩ | ⟨_, _, ⟨⟩, hnext, _⟩
      · exact .inl hanswer.2
      · exact .inr hnext
  · intro handling attempt hget hlater later hsteps call hkey named hnamed hle
    exact superseded_attempt_fails hget hsteps hkey hnamed (by omega)
  · rintro request continuation_message_id recorded rfl hnone hrecorded
    obtain ⟨delivery_options, hoptions, hfirst, hdecided⟩ := first_claim_decides hnone hrecorded
    refine ⟨delivery_options, hoptions, hfirst, ?_⟩
    intro later hsteps
    obtain ⟨handling', hget', hmove⟩ := hsteps.advances hrecorded
    split
    · rename_i hpassed
      rw [if_pos hpassed] at hdecided
      obtain ⟨hstate, _, hreceipts⟩ := hdecided
      -- an expired record is terminal, so it answers every later claim
      have hsame : handling' = recorded := hmove.terminal (by rw [hstate]; decide)
      rw [hsame] at hget'
      refine ⟨⟨recorded, hget', hstate, hreceipts⟩, ?_⟩
      intro request' continuation' claim hkey' h
      rcases later_claim_answers (hkey' ▸ hget') h with ⟨hanswer, _⟩ | ⟨hlive, _⟩
      · rw [hanswer.1] at hstate
        cases hstate
      · rw [hlive] at hstate
        cases hstate
    · rename_i hopen
      rw [if_neg hopen] at hdecided
      have hadmitted : ¬ handling'.Expired := by
        intro hexpired
        obtain ⟨receipt, hmem, houtcome⟩ := hmove.expired hexpired
        have := hdecided.2 receipt hmem
        rw [houtcome] at this
        cases this
      refine ⟨hdecided.1, ⟨handling', hget', fun receipt hmem houtcome =>
        hadmitted ⟨receipt, hmem, houtcome⟩⟩, ?_⟩
      intro request' continuation' hkey' h
      rcases later_claim_answers (hkey' ▸ hget') h with ⟨hanswer, _⟩ | ⟨_, _, ⟨⟩, _⟩
      exact hadmitted hanswer.2

/-! A run of one request: claimed by its consumer, then answered twice. -/

/-- Identifiers that only tell the two phases of a request apart. -/
def sample_identifiers : DeliveryIdentifiers := fun _ _ _ outcome =>
  if outcome = .Admitted then (.repeated 16 20, .repeated 16 21)
  else (.repeated 16 22, .repeated 16 23)

def sample_request : ApplicationMessage :=
  ⟨.application_v1, .repeated 16 2, 1, 100, none,
    .DirectedRequest ⟨.repeated 32 3, "task", some ⟨none⟩⟩, Nat.one_pos⟩

/-- A profile with one delivered request and a live consumer. -/
def sample_profile : ProfileStore where
  conversation := ⟨[⟨.repeated 32 1, .repeated 32 9, 0⟩], List.nodup_singleton _⟩
  conversation_binding := [(.repeated 32 1, .repeated 32 3)]
  collaboration_policy_binding := ⟨[⟨.repeated 32 1, .repeated 32 8⟩], List.nodup_singleton _⟩
  collaboration_policy_operation := []
  internal_application_message := []
  journal :=
    { next_sequence := 2
      head := some ⟨1, .repeated 16 5⟩
      floor_sequence := 0
      floor := none
      events := ⟨[⟨⟨1, .repeated 16 5, .repeated 32 1, .repeated 32 9, 1, .ApplicationMessage,
          .repeated 32 4, .repeated 16 2, none⟩,
          ⟨.Claimed, some (.repeated 16 6), some (.repeated 16 7), 1, some 10000⟩⟩],
        List.nodup_singleton _⟩
      notifications := List.nodup_singleton _
      cursors := List.nodup_singleton _
      consumer := some ⟨.repeated 16 6, .repeated 16 7, 10000⟩ }
  message_history := ⟨[⟨.repeated 32 1, ⟨some 1, .Inbound, .repeated 32 4, sample_request, true⟩⟩],
    List.nodup_singleton _⟩
  outbox := .empty
  directed_request_handling := .empty
  directed_request_handling_state := 0

def sample_claim : Call :=
  .claim ⟨.repeated 32 1, .repeated 16 2, .repeated 32 3, .repeated 16 5, .repeated 16 6,
    .repeated 16 7, 1, .repeated 32 8, 1000⟩ none

def sample_response : Call :=
  .respond (.repeated 32 1) (.repeated 16 30) (.repeated 16 31)
    ⟨.repeated 32 8, .repeated 16 6, 9000,
      ⟨.repeated 32 1, .repeated 16 2, none, .repeated 32 3, .repeated 16 5, .repeated 16 6,
        .repeated 16 7, 1, 10000, 1, .repeated 32 8⟩⟩
    ⟨.Text "done", some (.repeated 16 2), 2000, 60⟩ 2000

def sample_claimed : ProfileStore := (sample_claim.run sample_identifiers sample_profile).2

def sample_answered : ProfileStore := (sample_response.run sample_identifiers sample_claimed).2

theorem sample_claimed_reachable : sample_claimed.Reachable sample_identifiers :=
  ⟨sample_profile, rfl, .single (.call sample_profile sample_claim)⟩

theorem handling_at_most_once_sample : (sample_response.run sample_identifiers sample_claimed).1
    = .ok (.respond ⟨.repeated 32 1, .repeated 16 30, .repeated 16 31, 2⟩)
    ∧ (sample_response.run sample_identifiers sample_answered).2 = sample_answered :=
  have hfirst : (sample_response.run sample_identifiers sample_claimed).1
      = .ok (.respond ⟨.repeated 32 1, .repeated 16 30, .repeated 16 31, 2⟩) := by decide +kernel
  have hsecond : (sample_response.run sample_identifiers sample_answered).1
      = .ok (.respond ⟨.repeated 32 1, .repeated 16 30, .repeated 16 31, 2⟩) := by decide +kernel
  ⟨hfirst, ((handling_at_most_once sample_claimed_reachable sample_response.key).2.1
    sample_response sample_response rfl rfl _ _ hfirst sample_answered .refl hsecond).2⟩

end Konclave.Daemon
