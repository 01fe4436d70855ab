/-
Safety of short-code attempts over every run of the relay.

A run is any sequence of calls by any principals at any clock readings. The life of an
attempt starts with the publication that inserts its row and lasts as long as the row is
there; the events of a life are the calls made since, with their answers. What an attempt
is in its life is read off these events: who claimed it, who wrote which stage, and to
whom the capability went.
-/
import Konclave.Relay.ShortCodeCalls

set_option autoImplicit false

namespace Konclave.Relay

open Protobuf Domain ShortCodeAttemptRow ShortCodeStore Table FixedBytes List

/-! ## Steps of one attempt

What any call does to one row: nothing, or one move. -/

/-- What a call with this answer may do to a row that stays. -/
inductive AttemptStep (call : ShortCodeCall) (answer : Except RelayError ShortCodeReply) :
    ShortCodeAttemptRow → ShortCodeAttemptRow → Prop
  | kept (row : ShortCodeAttemptRow) : AttemptStep call answer row row
  | claimed {row : ShortCodeAttemptRow} {principal : RelayPrincipalId}
      {request : ShortCodeAttemptClaimRequest} {now : ℕ} {snapshot : ShortCodeAttemptSnapshot}
      {messages : ShortCodeMessages} (hcall : call = .claim principal request now)
      (hanswer : answer = .ok (.snapshot snapshot))
      (hlocator : request.locator = row.publish.locator)
      (hclaimant : row.claimant_principal_id = none) (howner : row.owner_principal_id ≠ principal)
      (hmessages : row.messages.insert? ⟨.CredentialRequest, request.payload⟩ = some messages) :
      AttemptStep call answer row
        { row with claimant_principal_id := some principal, messages }
  | wrote {row : ShortCodeAttemptRow} {principal : RelayPrincipalId}
      {request : ShortCodeAttemptMessageRequest} {now : ℕ} {messages : ShortCodeMessages}
      (hcall : call = .message principal request now)
      (hanswer : answer = .ok (.message .Published))
      (hattempt : request.attempt_id = row.publish.attempt_id)
      (howner : row.stored.stage_owner request.stage = principal)
      (hstage : stage_dependencies_satisfied row.stored request.stage = true)
      (hmessages : row.messages.insert? ⟨request.stage, request.payload⟩ = some messages) :
      AttemptStep call answer row { row with messages }
  | cancelled (row : ShortCodeAttemptRow) :
      AttemptStep call answer row { row with cancelled := true }
  | took {row : ShortCodeAttemptRow} (take_id : ShortCodeCapabilityTakeId)
      (hfirst : row.capability_take_id = none) :
      AttemptStep call answer row
        { row with capability_consumed := true, capability_take_id := some take_id }

open AttemptStep

/-- The call inserted the attempt. -/
def Publishes (attempt_id : ShortCodePairingAttemptId) (call : ShortCodeCall)
    (answer : Except RelayError ShortCodeReply) : Prop :=
  ∃ principal request now, call = .publish principal request now
    ∧ answer = .ok (.published .Published) ∧ request.attempt_id = attempt_id

section

variable {store store' : ShortCodeStore} {call : ShortCodeCall}
  {answer : Except RelayError ShortCodeReply} {attempt_id : ShortCodePairingAttemptId}
  {row row' : ShortCodeAttemptRow} {stage : ShortCodeRelayStage} {principal : RelayPrincipalId}
  {payload : ShortCodePayload} {take_id : ShortCodeCapabilityTakeId}

/-- A row that a call found after its cleanup was in the store before. -/
theorem AttemptStep.of_kept {now : ℕ}
    (h : (store.at_time now).attempts.get? attempt_id = some row') :
    ∃ row, store.attempts.get? attempt_id = some row ∧ AttemptStep call answer row row' :=
  ⟨row', (get?_at_time_eq_some.1 h).1, .kept row'⟩

/-- Where a call changes the one row it found, each row made a step. -/
theorem AttemptStep.of_updated {now : ℕ} {found : ShortCodePairingAttemptId}
    {new : ShortCodeAttemptRow} (hrow : (store.at_time now).attempts.get? found = some row)
    (hget : ∀ other, store'.attempts.get? other
      = if other = found then some new else (store.at_time now).attempts.get? other)
    (hstep : AttemptStep call answer row new)
    (hrow' : store'.attempts.get? attempt_id = some row') :
    ∃ row, store.attempts.get? attempt_id = some row ∧ AttemptStep call answer row row' := by
  rw [hget] at hrow'
  by_cases heq : attempt_id = found
  · rw [if_pos heq, Option.some.injEq] at hrow'
    rw [heq, ← hrow']
    exact ⟨row, (get?_at_time_eq_some.1 hrow).1, hstep⟩
  · rw [if_neg heq] at hrow'
    exact of_kept hrow'

/-- A row after a call was there before and made one step, or the call inserted it. -/
theorem ShortCodeCall.run_rows (h : store.WellFormed) (hrun : call.run store = (answer, store'))
    (hrow' : store'.attempts.get? attempt_id = some row') :
    (∃ row, store.attempts.get? attempt_id = some row ∧ AttemptStep call answer row row')
    ∨ (Publishes attempt_id call answer ∧ ∃ principal request, row' = new principal request) := by
  have hsame : store'.attempts = store.attempts →
      ∃ row, store.attempts.get? attempt_id = some row ∧ AttemptStep call answer row row' :=
    fun heq => ⟨row', heq ▸ hrow', .kept row'⟩
  cases call with
  | publish principal request now =>
    rcases reply_eq hrun with ⟨outcome, hres, rfl⟩ | ⟨error, hres, rfl⟩
    · rcases (publish_eq_ok hres).2 with ⟨rfl, rfl⟩ | ⟨rfl, hrows⟩
      · exact .inl (of_kept hrow')
      · obtain ⟨hmem, hkey⟩ := get?_iff.1 hrow'
        rw [hrows, mem_append, mem_singleton] at hmem
        rcases hmem with hold | rfl
        · exact .inl (of_kept (get?_iff.2 ⟨hold, hkey⟩))
        · exact .inr ⟨⟨principal, request, now, rfl, rfl, hkey⟩, principal, request, rfl⟩
    · exact .inl (hsame (congrArg _ (transaction_eq_error hres)))
  | claim principal request now =>
    rcases reply_eq hrun with ⟨snapshot, hres, rfl⟩ | ⟨error, hres, rfl⟩
    · obtain ⟨-, row, _, hrow, -, -, hcases⟩ := claim_eq_ok h hres
      rcases hcases with ⟨rfl, -⟩ | ⟨-, hclt, howner, messages, hmsgs, hget⟩
      · exact .inl (of_kept hrow')
      · obtain ⟨hmem, hloc⟩ := at_locator_eq_some.1 hrow
        exact .inl (of_updated (get?_of_mem _ hmem) hget
          (.claimed rfl rfl hloc.symm hclt howner hmsgs) hrow')
    · rcases claim_eq_error hres with heq | heq
      · exact .inl (hsame heq)
      · rw [heq] at hrow'
        exact .inl (of_kept hrow')
  | message principal request now =>
    rcases reply_eq hrun with ⟨outcome, hres, rfl⟩ | ⟨error, hres, rfl⟩
    · obtain ⟨-, row, hrow, -, howner, hcases⟩ := message_eq_ok h hres
      rcases hcases with ⟨rfl, rfl, -⟩ | ⟨rfl, hstage, messages, hmsgs, hget⟩
      · exact .inl (of_kept hrow')
      · exact .inl (of_updated hrow hget
          (.wrote rfl rfl (key_of_get? hrow).symm howner hstage hmsgs) hrow')
    · exact .inl (hsame (congrArg _ (transaction_eq_error hres)))
  | read principal request now =>
    rcases reply_eq hrun with ⟨snapshot, hres, rfl⟩ | ⟨error, hres, rfl⟩
    · obtain ⟨rfl, -⟩ := read_eq_ok h hres
      exact .inl (of_kept hrow')
    · exact .inl (hsame (congrArg _ (transaction_eq_error hres)))
  | cancel principal request now =>
    rcases reply_eq hrun with ⟨_, hres, rfl⟩ | ⟨error, hres, rfl⟩
    · obtain ⟨-, row, hrow, hget⟩ := cancel_eq_ok h hres
      exact .inl (of_updated hrow hget (.cancelled row) hrow')
    · exact .inl (hsame (congrArg _ (transaction_eq_error hres)))
  | take principal request now =>
    rcases reply_eq hrun with ⟨payload, hres, rfl⟩ | ⟨error, hres, rfl⟩
    · obtain ⟨-, row, hrow, -, -, -, -, -, hcases⟩ := take_eq_ok h hres
      rcases hcases with ⟨-, rfl⟩ | ⟨hfirst, hget⟩
      · exact .inl (of_kept hrow')
      · exact .inl (of_updated hrow hget (.took request.take_id hfirst) hrow')
    · exact .inl (hsame (congrArg _ (transaction_eq_error hres)))

/-! ## Consistency

The moves keep the row consistent, and what was set stays set. -/

theorem ShortCodeAttemptRow.message_insert {message : ShortCodeRelayMessage}
    {messages : ShortCodeMessages} (h : row.messages.insert? message = some messages)
    (stage : ShortCodeRelayStage) : (messages.get? stage).map (·.payload)
    = if message.stage = stage then some message.payload else row.message stage := by
  rw [get?_insert h]
  by_cases heq : message.stage = stage
  · rw [if_pos heq, if_pos heq, Option.map_some]
  · rw [if_neg heq, if_neg heq, ShortCodeAttemptRow.message]

namespace AttemptStep

section

variable (h : AttemptStep call answer row row')
include h

/-- A stored stage is never overwritten. -/
theorem message_kept
    (hstage : row.message stage = some payload) : row'.message stage = some payload := by
  have hins : ∀ {message : ShortCodeRelayMessage} {messages : ShortCodeMessages},
      row.messages.insert? message = some messages →
        (messages.get? stage).map (·.payload) = some payload := by
    intro message messages hmsgs
    rw [message_insert hmsgs, if_neg, hstage]
    rintro rfl
    rw [ShortCodeAttemptRow.message, (insert?_iff.1 hmsgs).1] at hstage
    cases hstage
  cases h with
  | kept => exact hstage
  | claimed _ _ _ _ _ hmsgs | wrote _ _ _ _ _ hmsgs => exact hins hmsgs
  | cancelled => exact hstage
  | took => exact hstage

/-- A claimant, once set, stays. -/
theorem claimant_kept (hclt : row.claimant_principal_id = some principal) :
    row'.claimant_principal_id = some principal := by
  cases h with
  | claimed _ _ _ hnone _ _ =>
    rw [hnone] at hclt
    cases hclt
  | kept | wrote | cancelled | took => exact hclt

theorem published_kept :
    row'.publish = row.publish ∧ row'.owner_principal_id = row.owner_principal_id := by
  cases h <;> exact ⟨rfl, rfl⟩

theorem cancelled_kept (hcanc : row.cancelled = true) : row'.cancelled = true := by
  cases h with
  | cancelled => rfl
  | kept | claimed | wrote | took => exact hcanc

theorem take_kept
    (htake : row.capability_take_id = some take_id) : row'.capability_take_id = some take_id := by
  cases h with
  | took _ hfirst =>
    rw [hfirst] at htake
    cases htake
  | kept => exact htake
  | claimed => exact htake
  | wrote => exact htake
  | cancelled => exact htake

theorem consistent (hrow : row.Consistent) : row'.Consistent := by
  cases h with
  | kept => exact hrow
  | cancelled => exact ⟨hrow.consumed, hrow.claimed, hrow.claimant_ne, hrow.ordered⟩
  | took => exact ⟨rfl, hrow.claimed, hrow.claimant_ne, hrow.ordered⟩
  | @claimed principal request _ _ messages hcall hans hloc hclt howner hmsgs =>
    have hmsg := message_insert hmsgs
    refine ⟨hrow.consumed, ?_, fun heq => howner (Option.some.inj heq).symm, ?_⟩
    · rw [message, hmsg, if_pos rfl]
      rfl
    · intro stage hstage earlier hearlier
      rw [message, hmsg] at hstage ⊢
      by_cases hnew : ShortCodeRelayStage.CredentialRequest = stage
      · subst hnew
        cases hearlier
      · rw [if_neg hnew] at hstage
        have hold := hrow.ordered stage hstage earlier hearlier
        split
        · rfl
        · exact hold
  | @wrote principal request _ messages hcall hans hatt howner hdependencies hmsgs =>
    have hmsg := message_insert hmsgs
    simp only [stage_dependencies_satisfied, Bool.decide_and, Bool.and_eq_true,
      decide_eq_true_eq, all_eq_true, message_stored] at hdependencies
    obtain ⟨hlater, hdependencies⟩ := hdependencies
    refine ⟨hrow.consumed, ?_, hrow.claimant_ne, ?_⟩
    · rw [message, hmsg, if_neg hlater]
      exact hrow.claimed
    · intro stage hstage earlier hearlier
      rw [message, hmsg] at hstage ⊢
      have hold : (row.message earlier).isSome := by
        by_cases hnew : request.stage = stage
        · subst hnew
          exact hdependencies earlier hearlier
        · rw [if_neg hnew] at hstage
          exact hrow.ordered stage hstage earlier hearlier
      split
      · rfl
      · exact hold

end

end AttemptStep

/-- A stage other than the credential request follows one that is already stored, so every
stored stage has a claimant. -/
theorem ShortCodeAttemptRow.Consistent.claimed_of_message (h : row.Consistent)
    (hstage : (row.message stage).isSome) : row.claimant_principal_id.isSome := by
  rw [h.claimed]
  have hback : ∀ {stage earlier : ShortCodeRelayStage}, (row.message stage).isSome →
      earlier ∈ stage_dependencies stage → (row.message earlier).isSome :=
    fun hstage hearlier => h.ordered _ hstage _ hearlier
  -- walk the order back to its start
  have hresp : (row.message .CredentialResponse).isSome →
      (row.message .CredentialRequest).isSome := fun hs => hback hs (by decide)
  have hfinal : (row.message .ClaimantFinalization).isSome →
      (row.message .CredentialRequest).isSome := fun hs => hresp (hback hs (by decide))
  have hident : (row.message .CreatorIdentity).isSome →
      (row.message .CredentialRequest).isSome := fun hs => hfinal (hback hs (by decide))
  cases stage with
  | CredentialRequest => exact hstage
  | CredentialResponse => exact hresp hstage
  | ClaimantFinalization => exact hfinal hstage
  | CreatorIdentity => exact hident hstage
  | CreatorConfirmation | ClaimantConfirmation => exact hident (hback hstage (by decide))
  | Capability =>
    have hconfirmation : (row.message .CreatorConfirmation).isSome := hback hstage (by decide)
    exact hident (hback hconfirmation (by decide))

theorem ShortCodeAttemptRow.new_consistent (request : ShortCodeAttemptPublishRequest) :
    (new principal request).Consistent where
  consumed := rfl
  claimed := rfl
  claimant_ne := by rintro ⟨⟩
  ordered := by rintro _ ⟨⟩

/-! ## Runs -/

namespace ShortCodeStore

/-- One call of a run. -/
def Step (store store' : ShortCodeStore) : Prop :=
  ∃ call : ShortCodeCall, (call.run store).2 = store'

/-- The stores of every run from an empty relay. -/
def Reachable (store : ShortCodeStore) : Prop :=
  Relation.ReflTransGen Step empty store

theorem WellFormed.run (h : store.WellFormed)
    (hrun : call.run store = (answer, store')) : store'.WellFormed := by
  intro row' hmem
  have hrow' := get?_of_mem _ hmem
  rcases ShortCodeCall.run_rows h hrun hrow' with ⟨row, hrow, hstep⟩ | ⟨-, principal, request, rfl⟩
  · exact hstep.consistent (h row (get?_iff.1 hrow).1)
  · exact new_consistent request

theorem Reachable.wellFormed (h : store.Reachable) : store.WellFormed := by
  induction h with
  | refl =>
    intro row hrow
    cases hrow
  | tail _ hstep ih =>
    obtain ⟨call, rfl⟩ := hstep
    exact ih.run rfl

end ShortCodeStore

/-! ## Lives

The calls that concerned one attempt since its publication, and what of them the row records. -/

/-- A call and its answer. -/
structure ShortCodeEvent where
  call : ShortCodeCall
  answer : Except RelayError ShortCodeReply
  deriving DecidableEq

variable {events : List ShortCodeEvent}

/-- The events since an attempt's row was inserted, as long as the row is there. -/
inductive ShortCodeLife (attempt_id : ShortCodePairingAttemptId) :
    ShortCodeStore → List ShortCodeEvent → Prop
  | inserted {store store' : ShortCodeStore} {call : ShortCodeCall}
      {answer : Except RelayError ShortCodeReply} (hreachable : store.Reachable)
      (hrun : call.run store = (answer, store')) (hpublish : Publishes attempt_id call answer) :
      ShortCodeLife attempt_id store' [⟨call, answer⟩]
  | continued {store store' : ShortCodeStore} {events : List ShortCodeEvent}
      {call : ShortCodeCall} {answer : Except RelayError ShortCodeReply}
      (hlife : ShortCodeLife attempt_id store events) (hrun : call.run store = (answer, store'))
      (hsame : ¬ Publishes attempt_id call answer)
      (hrow : (store'.attempts.get? attempt_id).isSome) :
      ShortCodeLife attempt_id store' (events ++ [⟨call, answer⟩])

namespace ShortCodeEvent

/-- A principal's accepted write of a stage: a claim writes the credential request. -/
def Writes (event : ShortCodeEvent) (publish : ShortCodeAttemptPublishRequest)
    (principal : RelayPrincipalId) (stage : ShortCodeRelayStage) (payload : ShortCodePayload) :
    Prop :=
  (∃ request now snapshot, event = ⟨.claim principal request now, .ok (.snapshot snapshot)⟩
      ∧ request.locator = publish.locator ∧ stage = .CredentialRequest
      ∧ request.payload = payload)
    ∨ ∃ request now outcome, event = ⟨.message principal request now, .ok (.message outcome)⟩
      ∧ request.attempt_id = publish.attempt_id ∧ request.stage = stage
      ∧ request.payload = payload

/-- The relay gave the capability to a principal. -/
def Takes (event : ShortCodeEvent) (attempt_id : ShortCodePairingAttemptId)
    (principal : RelayPrincipalId) (take_id : ShortCodeCapabilityTakeId)
    (payload : ShortCodePayload) : Prop :=
  ∃ request now, event = ⟨.take principal request now, .ok (.capability payload)⟩
    ∧ request.attempt_id = attempt_id ∧ request.take_id = take_id

end ShortCodeEvent

/-- The row holds what the events wrote, and they wrote what it holds. -/
structure ShortCodeAttemptRow.Traced (row : ShortCodeAttemptRow) (events : List ShortCodeEvent) :
    Prop where
  written : ∀ event ∈ events, ∀ principal stage payload,
    event.Writes row.publish principal stage payload →
      row.message stage = some payload ∧ row.stored.stage_owner stage = principal
  origin : ∀ stage payload, row.message stage = some payload →
    ∃ event ∈ events, event.Writes row.publish (row.stored.stage_owner stage) stage payload
  taken : ∀ event ∈ events, ∀ principal take_id payload,
    event.Takes row.publish.attempt_id principal take_id payload →
      row.claimant_principal_id = some principal ∧ row.capability_take_id = some take_id
        ∧ row.message .Capability = some payload
        ∧ (row.message .CreatorConfirmation).isSome ∧ (row.message .ClaimantConfirmation).isSome

/-- What an accepted write leaves in the row. -/
theorem new_event_written (h : store.WellFormed) (hrun : call.run store = (answer, store'))
    (hrow' : store'.attempts.get? attempt_id = some row')
    (hwrites : (⟨call, answer⟩ : ShortCodeEvent).Writes row'.publish principal stage payload) :
    row'.message stage = some payload ∧ row'.stored.stage_owner stage = principal := by
  obtain ⟨hmem', hkey'⟩ := get?_iff.1 hrow'
  rcases hwrites with ⟨request, now, snapshot, hev, hloc, rfl, rfl⟩
    | ⟨request, now, outcome, hev, hatt, rfl, rfl⟩
  · cases hev
    obtain ⟨_, hres, -⟩ := reply_eq_ok hrun
    obtain ⟨-, found, _, hfound, -, -, hcases⟩ := claim_eq_ok h hres
    obtain ⟨hmem, hfound_locator⟩ := at_locator_eq_some.1 hfound
    rcases hcases with ⟨rfl, hclt, hpay⟩ | ⟨-, -, -, messages, hmsgs, hget⟩
    · -- the claimant's retry: the row is the one found at the locator
      have heq := inj_on_of_nodup_map (store.at_time now).locators hmem hmem'
        (hfound_locator.trans hloc)
      subst heq
      rw [message_stored] at hpay
      refine ⟨hpay, ?_⟩
      have hstored : found.stored.claimant = some principal := hclt
      rw [StoredShortCodeAttempt.stage_owner, hstored, Option.getD_some]
    · -- the first claim: the row is the updated one, which keeps its locator
      have hnew := hget found.publish.attempt_id
      rw [if_pos rfl] at hnew
      have heq := inj_on_of_nodup_map store'.locators (get?_iff.1 hnew).1 hmem'
        (hfound_locator.trans hloc)
      subst heq
      refine ⟨?_, rfl⟩
      rw [message, message_insert hmsgs, if_pos rfl]
  · cases hev
    obtain ⟨_, hres, -⟩ := reply_eq_ok hrun
    obtain ⟨-, found, hfound, -, howner, hcases⟩ := message_eq_ok h hres
    rw [hkey'] at hatt
    rcases hcases with ⟨-, rfl, hpay⟩ | ⟨-, -, messages, hmsgs, hget⟩
    · rw [hatt, hrow', Option.some.injEq] at hfound
      subst hfound
      exact ⟨hpay, howner⟩
    · rw [hget, if_pos hatt.symm, Option.some.injEq] at hrow'
      subst hrow'
      refine ⟨?_, howner⟩
      rw [message, message_insert hmsgs, if_pos rfl]

/-- What an answered take leaves in the row. -/
theorem new_event_taken (h : store.WellFormed) (hrun : call.run store = (answer, store'))
    (hrow' : store'.attempts.get? attempt_id = some row')
    (htakes : (⟨call, answer⟩ : ShortCodeEvent).Takes row'.publish.attempt_id principal take_id
      payload) :
    row'.claimant_principal_id = some principal ∧ row'.capability_take_id = some take_id
    ∧ row'.message .Capability = some payload ∧ (row'.message .CreatorConfirmation).isSome
    ∧ (row'.message .ClaimantConfirmation).isSome := by
  obtain ⟨request, now, hev, hatt, rfl⟩ := htakes
  cases hev
  rw [key_of_get? hrow'] at hatt
  obtain ⟨_, hres, hans⟩ := reply_eq_ok hrun
  cases hans
  obtain ⟨-, found, hfound, -, hclt, hcreator, hconfirmed, hcap, hcases⟩ := take_eq_ok h hres
  rcases hcases with ⟨htake, rfl⟩ | ⟨-, hget⟩
  · rw [hatt, hrow', Option.some.injEq] at hfound
    subst hfound
    exact ⟨hclt, htake, hcap, hcreator, hconfirmed⟩
  · rw [hget, if_pos hatt.symm, Option.some.injEq] at hrow'
    subst hrow'
    exact ⟨hclt, rfl, hcap, hcreator, hconfirmed⟩

/-- A stage that a step stored was written by the event of that step. -/
theorem AttemptStep.new_stage (h : AttemptStep call answer row row')
    (hstage : row'.message stage = some payload) : row.message stage = some payload
    ∨ (⟨call, answer⟩ : ShortCodeEvent).Writes row'.publish (row'.stored.stage_owner stage) stage
      payload := by
  cases h with
  | kept | cancelled | took => exact .inl hstage
  | @claimed principal request now snapshot messages hcall hans hloc _ _ hmsgs =>
    rw [message, message_insert hmsgs] at hstage
    by_cases heq : ShortCodeRelayStage.CredentialRequest = stage
    · rw [if_pos heq, Option.some.injEq] at hstage
      subst heq
      subst hcall
      subst hans
      exact .inr (.inl ⟨request, now, snapshot, rfl, hloc, rfl, hstage⟩)
    · rw [if_neg heq] at hstage
      exact .inl hstage
  | @wrote principal request now messages hcall hans hatt howner _ hmsgs =>
    rw [message, message_insert hmsgs] at hstage
    by_cases heq : request.stage = stage
    · rw [if_pos heq, Option.some.injEq] at hstage
      subst heq
      subst hcall
      subst hans
      subst howner
      exact .inr (.inr ⟨request, now, .Published, rfl, hatt, rfl, hstage⟩)
    · rw [if_neg heq] at hstage
      exact .inl hstage

theorem ShortCodeLife.reachable (h : ShortCodeLife attempt_id store events) : store.Reachable := by
  induction h with
  | inserted hreach h _ => exact hreach.tail ⟨_, congrArg Prod.snd h⟩
  | continued _ h _ _ ih => exact ih.tail ⟨_, congrArg Prod.snd h⟩

/-- One more event of a life. -/
theorem ShortCodeAttemptRow.Traced.step (h : row.Traced events) (hstore : store.WellFormed)
    (hrow : row.Consistent) (hrun : call.run store = (answer, store'))
    (hrow' : store'.attempts.get? attempt_id = some row')
    (hstep : AttemptStep call answer row row') :
    row'.Traced (events ++ [⟨call, answer⟩]) := by
  have hpublish := hstep.published_kept.1
  have hkept : ∀ {stage payload}, row.message stage = some payload →
      row'.message stage = some payload ∧
        row'.stored.stage_owner stage = row.stored.stage_owner stage := by
    intro stage payload hstage
    refine ⟨hstep.message_kept hstage, ?_⟩
    -- who writes a stage of a claimed attempt is settled
    obtain ⟨principal, hprin⟩ := Option.isSome_iff_exists.1
      (hrow.claimed_of_message (by rw [hstage]; rfl))
    have hclt := hstep.claimant_kept hprin
    have howner := hstep.published_kept.2
    cases stage <;>
      simp only [StoredShortCodeAttempt.stage_owner, stored, hprin, hclt, howner]
  have hsome : ∀ {stage}, (row.message stage).isSome → (row'.message stage).isSome := by
    intro stage hstage
    obtain ⟨payload, hpay⟩ := Option.isSome_iff_exists.1 hstage
    rw [(hkept hpay).1]
    rfl
  constructor
  · intro event hev principal stage payload hwrites
    rcases mem_append.1 hev with hold | hnew
    · rw [hpublish] at hwrites
      obtain ⟨hmsg, howner⟩ := h.written event hold principal stage payload hwrites
      exact ⟨(hkept hmsg).1, (hkept hmsg).2.trans howner⟩
    · rw [mem_singleton.1 hnew] at hwrites
      exact new_event_written hstore hrun hrow' hwrites
  · intro stage payload hstage
    rcases hstep.new_stage hstage with hold | hnew
    · obtain ⟨event, hev, hwrites⟩ := h.origin stage payload hold
      rw [hpublish, (hkept hold).2]
      exact ⟨event, mem_append_left _ hev, hwrites⟩
    · exact ⟨_, mem_append_right _ (mem_singleton.2 rfl), hnew⟩
  · intro event hev principal take_id payload htakes
    rcases mem_append.1 hev with hold | hnew
    · rw [hpublish] at htakes
      obtain ⟨hclt, htake, hcap, hcreator, hconfirmed⟩ :=
        h.taken event hold principal take_id payload htakes
      exact ⟨hstep.claimant_kept hclt, hstep.take_kept htake, hstep.message_kept hcap,
        hsome hcreator, hsome hconfirmed⟩
    · rw [mem_singleton.1 hnew] at htakes
      exact new_event_taken hstore hrun hrow' htakes

/-- A row that was just inserted holds nothing, and the publication wrote nothing. -/
theorem ShortCodeAttemptRow.Traced.new (h : Publishes attempt_id call answer)
    (principal : RelayPrincipalId) (request : ShortCodeAttemptPublishRequest) :
    (new principal request).Traced [⟨call, answer⟩] := by
  obtain ⟨_, _, _, rfl, rfl, -⟩ := h
  constructor
  · intro event hev _ _ _ hwrites
    rw [mem_singleton.1 hev] at hwrites
    rcases hwrites with ⟨_, _, _, ⟨⟩, _⟩ | ⟨_, _, _, ⟨⟩, _⟩
  · rintro _ _ ⟨⟩
  · intro event hev _ _ _ htakes
    rw [mem_singleton.1 hev] at htakes
    obtain ⟨_, _, ⟨⟩, _⟩ := htakes

/-- One more call, after which the attempt's row is still the same attempt's. -/
def ShortCodeStore.Continues (attempt_id : ShortCodePairingAttemptId)
    (store store' : ShortCodeStore) : Prop :=
  ∃ call answer, ShortCodeCall.run store call = (answer, store')
    ∧ ¬ Publishes attempt_id call answer ∧ (store'.attempts.get? attempt_id).isSome

/-- What a row keeps for the rest of its life. -/
structure ShortCodeAttemptRow.Keeps (row row' : ShortCodeAttemptRow) : Prop where
  publish : row'.publish = row.publish
  owner : row'.owner_principal_id = row.owner_principal_id
  claimant : ∀ principal, row.claimant_principal_id = some principal →
    row'.claimant_principal_id = some principal
  messages : ∀ stage payload, row.message stage = some payload → row'.message stage = some payload
  take : ∀ take_id, row.capability_take_id = some take_id →
    row'.capability_take_id = some take_id
  cancelled : row.cancelled = true → row'.cancelled = true

namespace ShortCodeAttemptRow.Keeps

theorem refl (row : ShortCodeAttemptRow) : row.Keeps row :=
  ⟨rfl, rfl, fun _ h => h, fun _ _ h => h, fun _ h => h, fun h => h⟩

theorem step {row'' : ShortCodeAttemptRow} (h : row.Keeps row')
    (hstep : AttemptStep call answer row' row'') : row.Keeps row'' where
  publish := hstep.published_kept.1.trans h.publish
  owner := hstep.published_kept.2.trans h.owner
  claimant principal hclt := hstep.claimant_kept (h.claimant principal hclt)
  messages stage payload hstage := hstep.message_kept (h.messages stage payload hstage)
  take take_id htake := hstep.take_kept (h.take take_id htake)
  cancelled hcanc := hstep.cancelled_kept (h.cancelled hcanc)

end ShortCodeAttemptRow.Keeps

/-- A row keeps what it has, whatever is called, as long as it is there. -/
theorem ShortCodeStore.Reachable.keeps {later : ShortCodeStore} (h : store.Reachable)
    (hrow : store.attempts.get? attempt_id = some row)
    (hlater : Relation.ReflTransGen (ShortCodeStore.Continues attempt_id) store later) :
    later.Reachable ∧ ∃ row', later.attempts.get? attempt_id = some row' ∧ row.Keeps row' := by
  induction hlater with
  | refl => exact ⟨h, row, hrow, .refl row⟩
  | tail _ hcontinues ih =>
    obtain ⟨hreach, row', hrow', hkeeps⟩ := ih
    obtain ⟨call, answer, h, hsame, hsome⟩ := hcontinues
    obtain ⟨row'', hrow''⟩ := Option.isSome_iff_exists.1 hsome
    refine ⟨hreach.tail ⟨call, congrArg Prod.snd h⟩, row'', hrow'', ?_⟩
    rcases ShortCodeCall.run_rows hreach.wellFormed h hrow'' with
      ⟨before, hbefore, hstep⟩ | ⟨hpublishes, -⟩
    · rw [hrow', Option.some.injEq] at hbefore
      subst hbefore
      exact hkeeps.step hstep
    · exact absurd hpublishes hsame

namespace ShortCodeStore

/-- The calls one after the other, with their answers. -/
def play (store : ShortCodeStore) : List ShortCodeCall → ShortCodeStore × List ShortCodeEvent
  | [] => (store, [])
  | call :: calls =>
    let later := play (call.run store).2 calls
    (later.1, ⟨call, (call.run store).1⟩ :: later.2)

theorem Reachable.play (h : store.Reachable) (calls : List ShortCodeCall) :
    (store.play calls).1.Reachable := by
  induction calls generalizing store with
  | nil => exact h
  | cons call calls ih => exact ih (h.tail ⟨call, rfl⟩)

/-- The calls publish nothing and the attempt's row is there after each. -/
def stays (attempt_id : ShortCodePairingAttemptId) (store : ShortCodeStore) :
    List ShortCodeCall → Bool
  | [] => true
  | .publish _ _ _ :: _ => false
  | call :: calls => ((call.run store).2.attempts.get? attempt_id).isSome
      && stays attempt_id (call.run store).2 calls

end ShortCodeStore

theorem ShortCodeLife.play (h : ShortCodeLife attempt_id store events) {calls : List ShortCodeCall}
    (hstays : store.stays attempt_id calls = true) :
    ShortCodeLife attempt_id (store.play calls).1 (events ++ (store.play calls).2) := by
  induction calls generalizing store events with
  | nil => rwa [play, append_nil]
  | cons call calls ih =>
    have hnext : ((call.run store).2.attempts.get? attempt_id).isSome = true
        ∧ (call.run store).2.stays attempt_id calls = true
        ∧ ¬ Publishes attempt_id call (call.run store).1 := by
      cases call with
      | publish => cases hstays
      | _ =>
        obtain ⟨hrow, hlater⟩ := (Bool.and_eq_true _ _).mp hstays
        refine ⟨hrow, hlater, ?_⟩
        rintro ⟨_, _, _, ⟨⟩, _⟩
    have hlife := ShortCodeLife.continued h rfl hnext.2.2 hnext.1
    have hlater := ih hlife hnext.2.1
    rwa [append_assoc] at hlater

end

namespace Exchange

def creator : RelayPrincipalId := repeated 32 1
def claimant : RelayPrincipalId := repeated 32 2
def locator : ShortCodePairingLocator := repeated 32 3
def attempt_id : ShortCodePairingAttemptId := repeated 16 4
def take_id : ShortCodeCapabilityTakeId := repeated 16 5
def payload (value : UInt8) : ShortCodePayload :=
  ⟨[value], by rw [length_singleton]; decide⟩

def publish : ShortCodeAttemptPublishRequest :=
  ⟨.application_v1, locator, attempt_id, 600, by decide⟩

def claim : ShortCodeAttemptClaimRequest := ⟨.application_v1, locator, payload 1⟩

def write (principal : RelayPrincipalId) (stage : ShortCodeRelayStage) (value : UInt8) :
    ShortCodeCall :=
  .message principal ⟨.application_v1, attempt_id, stage, payload value⟩ 10

/-- A claim, every stage in its order, and a take. -/
def calls : List ShortCodeCall :=
  [.claim claimant claim 10, write creator .CredentialResponse 2,
    write claimant .ClaimantFinalization 3, write creator .CreatorIdentity 4,
    write creator .CreatorConfirmation 5, write claimant .ClaimantConfirmation 6,
    write creator .Capability 7, .take claimant ⟨.application_v1, attempt_id, take_id⟩ 10]

/-- The relay after the creator published the attempt. -/
def published : ShortCodeStore :=
  (ShortCodeCall.run empty (.publish creator publish 0)).2

def events : List ShortCodeEvent :=
  ⟨.publish creator publish 0, .ok (.published .Published)⟩ :: (published.play calls).2

end Exchange

open Exchange

end Konclave.Relay
