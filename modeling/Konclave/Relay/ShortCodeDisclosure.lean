/-
What the relay tells about a short-code attempt that is no longer open.

A claim looks at the version and at the claimant's own retry before it looks at the
limits and at the state of the attempt. The order is visible from outside: a cancelled
attempt still answers the exact retry of its claimant, and an attempt of another version
answers a principal that has used up its claims otherwise than an unused locator does.
-/
import Konclave.Relay.ShortCodeSafety

set_option autoImplicit false

namespace Konclave.Relay

open Protobuf Domain ShortCodeStore Exchange ShortCodeAttemptRow ShortCodeStore.Reachable
  ShortCodeCall Table

/-! ## Retries of a claim

A claim that comes again from its claimant is answered without being counted. -/

/-- Every consistent row has a snapshot. -/
theorem short_code_snapshot_of_row (row : ShortCodeAttemptRow) :
    ∃ snapshot, short_code_snapshot row.stored = .ok snapshot := by
  have hsorted := (ShortCodeMessages.in_order_sorted row.stored.messages).filter
    (fun message => decide (message.stage ≠ .Capability))
  have hlen := Nat.le_trans (List.length_filter_le
    (fun message => decide (message.stage ≠ .Capability)) row.stored.messages.in_order)
    (ShortCodeMessages.in_order_length row.stored.messages)
  have hdue : 0 < row.stored.publish.deadline_unix_seconds := row.publish.deadline_pos
  rw [short_code_snapshot, ShortCodeAttemptSnapshot.new_of_sorted hdue hlen hsorted]
  exact ⟨_, rfl⟩

section

variable {store : ShortCodeStore} {principal : RelayPrincipalId}
  {request : ShortCodeAttemptClaimRequest} {now : ℕ} {row : ShortCodeAttemptRow}

namespace ShortCodeStore

/-- The claims counted for the principal and for the locator at a clock reading. -/
def counts (store : ShortCodeStore) (principal : RelayPrincipalId)
    (locator : ShortCodePairingLocator) (now : ℕ) : ℕ × ℕ :=
  claim_counts store.claim_rates principal locator (claim_window now)

/-- Deleting the counts of earlier windows changes no count of this one. -/
theorem counts_at_time (locator : ShortCodePairingLocator) :
    (store.at_time now).counts principal locator now = store.counts principal locator now := by
  have hrows : (store.at_time now).claim_rates.rows.filter
        (fun row => row.window_start = claim_window now)
      = store.claim_rates.rows.filter (fun row => row.window_start = claim_window now) := by
    show (store.claim_rates.rows.filter _).filter _ = _
    rw [List.filter_filter]
    refine List.filter_congr fun row _ => ?_
    by_cases h : row.window_start = claim_window now
    · simp [h]
    · simp [h]
  simp only [counts, claim_counts, hrows]

/-- What a claim finds at its locator. -/
def found (store : ShortCodeStore) (locator : ShortCodePairingLocator) (now : ℕ) :
    Option StoredShortCodeAttempt :=
  ((store.at_time now).at_locator locator).map (·.stored)

/-- What a claim decides. -/
def claim_decision (store : ShortCodeStore) (principal : RelayPrincipalId)
    (request : ShortCodeAttemptClaimRequest) (now : ℕ) : Except RelayError ShortCodeClaimDecision :=
  decide_short_code_claim principal request (store.found request.locator now) now
    (store.counts principal request.locator now).1 (store.counts principal request.locator now).2

end ShortCodeStore

/-- A claim, up to its decision. -/
theorem claim_transaction_eq (h : store.WellFormed) (hnow : now ≤ I64_MAX) :
    claim_transaction store principal request now =
    (match store.claim_decision principal request now with
    | .error error =>
      if claim_is_counted error (store.counts principal request.locator now) then do
        let store ← record_short_code_claim (store.at_time now) principal request.locator now
        pure (.error error, store)
      else .error error
    | .ok decision => do
      let later ← apply_short_code_claim (store.at_time now) principal request now
        (store.found request.locator now) decision
      let attempt ← some_or (store.found request.locator now) .ShortCodeAttemptUnavailable
      let stored ← load_short_code_attempt later none (some attempt.publish.attempt_id)
      let stored ← some_or stored .InvalidStoredData
      let snapshot ← short_code_snapshot stored
      pure (.ok snapshot, later)) := by
  have hwin : claim_window now ≤ I64_MAX := Nat.le_trans (Nat.sub_le _ _) hnow
  have hcounts : short_code_claim_counts (store.at_time now) principal request.locator now
      = .ok (store.counts principal request.locator now) := by
    rw [short_code_claim_counts, short_code_claim_window, to_sql_integer, if_pos hwin, ok_bind,
      ← counts_at_time]
    rfl
  rw [claim_transaction, cleanup_eq, if_pos hnow, ok_bind,
    load_by_locator (h.at_time now), ok_bind, hcounts, ok_bind]
  rfl

/-- The claimant's exact retry is answered, whatever the limits and the state are. -/
theorem claim_retry (h : store.WellFormed) (hnow : now ≤ I64_MAX)
    (hrow : (store.at_time now).at_locator request.locator = some row)
    (hver : row.publish.version = request.version)
    (hretry : row.stored.claimed_by principal request) :
    ∃ snapshot, claim_short_code_attempt store principal request now
    = (.ok snapshot, store.at_time now) := by
  obtain ⟨snapshot, hsnap⟩ := short_code_snapshot_of_row row
  refine ⟨snapshot, ?_⟩
  have hfound : store.found request.locator now = some row.stored := by
    rw [found, hrow, Option.map_some]
  have hdecide : store.claim_decision principal request now = .ok .Identical := by
    rw [claim_decision, hfound, decide_short_code_claim, if_neg, if_pos]
    · exact ⟨row.stored, rfl, hretry⟩
    · rintro ⟨_, ⟨⟩, hne⟩
      exact hne hver
  have hget := get?_of_mem (store.at_time now).attempts (at_locator_eq_some.1 hrow).1
  rw [claim_short_code_attempt, claim_transaction_eq h hnow, hfound, hdecide]
  simp only [apply_short_code_claim, ok_bind, some_or_bind rfl, load_by_id (h.at_time now)]
  have hstored : row.stored.publish.attempt_id = row.publish.attempt_id := rfl
  rw [hstored, hget, Option.map_some, some_or_bind rfl, hsnap]
  rfl

end

/-! ## Cancelled attempts

After a cancellation only retries are answered. -/

/-- The call is about the attempt: a claim by its locator, the others by its identifier. -/
def ShortCodeCall.Concerns (publish : ShortCodeAttemptPublishRequest) : ShortCodeCall → Prop
  | .publish _ _ _ => False
  | .claim _ request _ => request.locator = publish.locator
  | .message _ request _ => request.attempt_id = publish.attempt_id
  | .read _ request _ => request.attempt_id = publish.attempt_id
  | .cancel _ _ _ => False
  | .take _ request _ => request.attempt_id = publish.attempt_id

/-- The claimant's claim once more, with the version and payload it was made with and
before the deadline. -/
def ShortCodeAttemptRow.RetriedBy (row : ShortCodeAttemptRow) (call : ShortCodeCall) : Prop :=
  ∃ principal request now, call = .claim principal request now
    ∧ row.publish.version = request.version ∧ row.claimant_principal_id = some principal
    ∧ row.message .CredentialRequest = some request.payload
    ∧ now < row.publish.deadline_unix_seconds ∧ now ≤ I64_MAX

section

variable {store store' : ShortCodeStore} {row : ShortCodeAttemptRow} {call : ShortCodeCall}

/-- A call about a cancelled attempt that is answered is the claimant's retry. -/
theorem retried_of_answered (h : store.WellFormed)
    (hrow : store.attempts.get? row.publish.attempt_id = some row)
    (hcanc : row.cancelled = true) (hconcerns : call.Concerns row.publish)
    {answer : ShortCodeReply} (hrun : call.run store = (.ok answer, store')) :
    row.RetriedBy call := by
  -- every call but the retry looks at the cancelled flag
  have hrefused : ∀ {found : ShortCodeAttemptRow} {aid : ShortCodePairingAttemptId} {now : ℕ},
      aid = row.publish.attempt_id →
        (store.at_time now).attempts.get? aid = some found → found.cancelled ≠ false := by
    rintro found _ now rfl hfound
    cases hrow.symm.trans (get?_at_time_eq_some.1 hfound).1
    rw [hcanc]
    exact Bool.noConfusion
  cases call with
  | publish | cancel => exact hconcerns.elim
  | claim principal request now =>
    obtain ⟨_, hres, -⟩ := reply_eq_ok hrun
    obtain ⟨hnow, found, _, hfound, hver, -, hcases⟩ := claim_eq_ok h hres
    obtain ⟨hmem, hloc⟩ := at_locator_eq_some.1 hfound
    have hfound_row := get?_at_time_eq_some.1 (get?_of_mem _ hmem)
    have heq : found = row := List.inj_on_of_nodup_map store.locators
      (get?_iff.1 hfound_row.1).1 (get?_iff.1 hrow).1
      (hloc.trans hconcerns)
    subst heq
    rcases hcases with ⟨-, hclt, hpay⟩ | ⟨hopen, -⟩
    · rw [message_stored] at hpay
      exact ⟨principal, request, now, rfl, hver, hclt, hpay, hfound_row.2, hnow⟩
    · rw [hcanc] at hopen
      cases hopen
  | message principal request now =>
    obtain ⟨_, hres, -⟩ := reply_eq_ok hrun
    obtain ⟨-, _, hfound, hopen, -⟩ := message_eq_ok h hres
    exact absurd hopen (hrefused hconcerns hfound)
  | read principal request now =>
    obtain ⟨_, hres, -⟩ := reply_eq_ok hrun
    obtain ⟨-, _, hfound, hopen, -⟩ := read_eq_ok h hres
    exact absurd hopen (hrefused hconcerns hfound)
  | take principal request now =>
    obtain ⟨_, hres, -⟩ := reply_eq_ok hrun
    obtain ⟨-, _, hfound, hopen, -⟩ := take_eq_ok h hres
    exact absurd hopen (hrefused hconcerns hfound)

/-- The claimant's retry is answered. -/
theorem answered_of_retried (h : store.WellFormed)
    (hrow : store.attempts.get? row.publish.attempt_id = some row)
    (hconcerns : call.Concerns row.publish) (hretried : row.RetriedBy call) :
    ∃ answer, (call.run store).1 = .ok answer := by
  obtain ⟨principal, request, now, rfl, hver, hclt, hpay, hdue, hnow⟩ := hretried
  have hfound : (store.at_time now).at_locator request.locator = some row := by
    rw [at_locator_eq_some]
    exact ⟨(get?_iff.1 (get?_at_time_eq_some.2 ⟨hrow, hdue⟩)).1, Eq.symm hconcerns⟩
  have hretry : row.stored.claimed_by principal request := ⟨hclt, by rwa [message_stored]⟩
  obtain ⟨snapshot, hclaim⟩ := claim_retry h hnow hfound hver hretry
  refine ⟨.snapshot snapshot, ?_⟩
  rw [run, hclaim]
  rfl

end

/-- From the moment an attempt is cancelled until its row is deleted it stays cancelled,
and a claim, message, read or take of it fails exactly if it is not the retry of its claim. -/
theorem cancelled_attempt_refuses {store later : ShortCodeStore} (h : store.Reachable)
    {attempt_id : ShortCodePairingAttemptId} {row : ShortCodeAttemptRow}
    (hrow : store.attempts.get? attempt_id = some row) (hcancelled : row.cancelled = true)
    (hlater : Relation.ReflTransGen (ShortCodeStore.Continues attempt_id) store later) :
    ∃ row', later.attempts.get? attempt_id = some row' ∧ row'.cancelled = true
    ∧ ∀ call : ShortCodeCall, call.Concerns row.publish →
      ((∃ error, (call.run later).1 = .error error) ↔ ¬ row'.RetriedBy call) := by
  obtain ⟨hreachable, row', hrow', hkeeps⟩ := h.keeps hrow hlater
  refine ⟨row', hrow', hkeeps.cancelled hcancelled, fun call hconcerns => ?_⟩
  have hkey : row'.publish.attempt_id = attempt_id := (get?_iff.1 hrow').2
  rw [← hkey] at hrow'
  rw [← hkeeps.publish] at hconcerns
  constructor
  · rintro ⟨error, herror⟩ hretried
    obtain ⟨answer, hanswer⟩ := answered_of_retried hreachable.wellFormed hrow' hconcerns hretried
    rw [herror] at hanswer
    cases hanswer
  · intro hnot
    cases hanswer : (call.run later).1 with
    | error error => exact ⟨error, rfl⟩
    | ok answer =>
      exact absurd (retried_of_answered hreachable.wellFormed hrow'
        (hkeeps.cancelled hcancelled) hconcerns (Prod.ext hanswer rfl)) hnot

namespace Exchange

/-- The claimant claims the attempt and the creator cancels it. -/
def cancelled : ShortCodeStore :=
  (published.play [.claim claimant claim 10, .cancel creator ⟨.application_v1, attempt_id⟩ 20]).1

theorem cancelled_reachable : cancelled.Reachable := play (.tail .refl ⟨_, rfl⟩) _

end Exchange

/-- The claimant's retry after the cancellation returns the stage it stored. -/
theorem cancelled_attempt_answers_retry : cancelled.Reachable
    ∧ (∃ row ∈ cancelled.attempts.get? attempt_id, row.cancelled = true)
    ∧ (run cancelled (.claim claimant claim 30)).1
      = .ok (.snapshot ⟨.application_v1, attempt_id, 600, true, false,
        [⟨.CredentialRequest, payload 1⟩]⟩) :=
  ⟨cancelled_reachable, by decide +kernel, by decide +kernel⟩

theorem cancelled_attempt_refuses_read : ∃ error, (run cancelled (.read creator
      ⟨.application_v1, attempt_id⟩ 30)).1 = .error error := by
  have hrow : ∃ row, cancelled.attempts.get? attempt_id = some row
      ∧ row.cancelled = true ∧ row.publish.attempt_id = attempt_id := by
    decide +kernel
  obtain ⟨row, hrow, hcancelled, hid⟩ := hrow
  obtain ⟨row', -, -, hrefuses⟩ :=
    cancelled_attempt_refuses cancelled_reachable hrow hcancelled .refl
  have hconcerns : (read creator ⟨.application_v1, attempt_id⟩ 30).Concerns row.publish := hid.symm
  refine (hrefuses _ hconcerns).2 ?_
  rintro ⟨_, _, _, ⟨⟩, _⟩

/-! ## Hidden attempts

When a claim of a closed attempt, by anyone else, is refused as if there were none. -/

section

variable {store other : ShortCodeStore} {principal : RelayPrincipalId}
  {request : ShortCodeAttemptClaimRequest} {now : ℕ} {row : ShortCodeAttemptRow}

/-- The attempt as a principal that neither owns nor claimed it finds it: expired,
cancelled, consumed, claimed, or of another version. -/
structure ShortCodeAttemptRow.HiddenFrom (row : ShortCodeAttemptRow) (principal : RelayPrincipalId)
    (request : ShortCodeAttemptClaimRequest) (now : ℕ) : Prop where
  owner : row.owner_principal_id ≠ principal
  claimant : row.claimant_principal_id ≠ some principal
  closed : row.publish.deadline_unix_seconds ≤ now ∨ row.cancelled = true
    ∨ row.capability_take_id.isSome ∨ row.claimant_principal_id.isSome
    ∨ row.publish.version ≠ request.version

/-- An expired attempt is not found at its locator. -/
theorem ShortCodeStore.at_locator_at_time
    (locator : ShortCodePairingLocator) : (store.at_time now).at_locator locator
    = (store.at_locator locator).filter
      fun row => decide (now < row.publish.deadline_unix_seconds) := by
  have hmem : ∀ row, row ∈ (store.at_time now).attempts.rows
      ↔ row ∈ store.attempts.rows ∧ now < row.publish.deadline_unix_seconds := by
    intro row
    show row ∈ List.filter _ _ ↔ _
    simp
  refine Option.ext fun row => ?_
  rw [at_locator_eq_some, Option.filter_eq_some_iff,
    at_locator_eq_some, hmem, decide_eq_true_eq, and_right_comm]

/-- What a claim of a locator decides where there is no attempt. -/
theorem claim_decision_unused (h : store.found request.locator now = none) :
    store.claim_decision principal request now
    = .error (if MAX_SHORT_CODE_CLAIMS_PER_PRINCIPAL_WINDOW
        ≤ (store.counts principal request.locator now).1
      then .ShortCodeClaimRateLimited else .ShortCodeAttemptUnavailable) := by
  rw [claim_decision, h]
  simp only [decide_short_code_claim, Option.not_mem_none, false_and, exists_false, if_false]
  split
  · rfl
  · split <;> rfl

/-- What a claim of a hidden attempt decides: another version comes before the limit. -/
theorem claim_decision_hidden (h : row.HiddenFrom principal request now)
    (hfound : store.found request.locator now = some row.stored) :
    store.claim_decision principal request now
    = .error (if row.publish.version = request.version ∧ MAX_SHORT_CODE_CLAIMS_PER_PRINCIPAL_WINDOW
          ≤ (store.counts principal request.locator now).1
      then .ShortCodeClaimRateLimited else .ShortCodeAttemptUnavailable) := by
  rw [claim_decision, hfound]
  by_cases hver : row.publish.version = request.version
  · have hretry : ¬ ∃ attempt ∈ some row.stored, attempt.claimed_by principal request := by
      rintro ⟨_, ⟨⟩, hclt, -⟩
      exact h.claimant hclt
    have hother : ¬ ∃ attempt ∈ some row.stored, attempt.publish.version ≠ request.version := by
      rintro ⟨_, ⟨⟩, hne⟩
      exact hne hver
    -- with the version right, one of the other reasons closes the attempt
    have hclosed : row.stored.publish.deadline_unix_seconds ≤ now ∨ row.stored.cancelled = true
        ∨ row.stored.capability_consumed = true ∨ row.stored.owner = principal
        ∨ row.stored.claimant.isSome := by
      rcases h.closed with hexp | hcanc | hconsumed | hclaimed | hne
      · exact .inl hexp
      · exact .inr (.inl hcanc)
      · exact .inr (.inr (.inl hconsumed))
      · exact .inr (.inr (.inr (.inr hclaimed)))
      · exact absurd hver hne
    simp only [decide_short_code_claim, hother, hretry, if_false, hver, true_and, hclosed, if_true]
    split
    · rfl
    · split <;> rfl
  · have hother : ∃ attempt ∈ some row.stored, attempt.publish.version ≠ request.version :=
      ⟨row.stored, rfl, hver⟩
    rw [decide_short_code_claim, if_pos hother, if_neg (fun hboth => hver hboth.1)]

/-- A claim at a clock reading no column holds fails before it looks at anything. -/
theorem claim_late (hnow : ¬ now ≤ I64_MAX) :
    claim_short_code_attempt store principal request now = (.error .SequenceExhausted, store) := by
  rw [claim_short_code_attempt, claim_transaction, cleanup_eq, if_neg hnow, error_bind]

/-- Two relays refuse a claim alike: with the same error, and the same counts after it. -/
def RefuseAlike (store other : ShortCodeStore) (principal : RelayPrincipalId)
    (request : ShortCodeAttemptClaimRequest) (now : ℕ) : Prop :=
  (∃ error, (claim_short_code_attempt store principal request now).1 = .error error)
    ∧ (claim_short_code_attempt store principal request now).1
      = (claim_short_code_attempt other principal request now).1
    ∧ (claim_short_code_attempt store principal request now).2.claim_rates
      = (claim_short_code_attempt other principal request now).2.claim_rates

/-- Relays with the same counts that decide the same refusal refuse alike. -/
theorem refuseAlike_of_decision (h : store.WellFormed) (hother : other.WellFormed)
    (hrates : store.claim_rates = other.claim_rates) (hnow : now ≤ I64_MAX) {error : RelayError}
    (hdecide : store.claim_decision principal request now = .error error)
    (hdecide_other : other.claim_decision principal request now = .error error) :
    RefuseAlike store other principal request now := by
  have hcounts : other.counts principal request.locator now
      = store.counts principal request.locator now := by
    rw [counts, counts, hrates]
  have hcleaned : (store.at_time now).claim_rates = (other.at_time now).claim_rates :=
    congrArg (fun rates : ShortCodeClaimRates => rates.delete fun row =>
      row.window_start < claim_window now) hrates
  rw [RefuseAlike, claim_short_code_attempt, claim_short_code_attempt, claim_transaction_eq h hnow,
    claim_transaction_eq hother hnow, hcounts, hdecide, hdecide_other]
  by_cases hcounted : claim_is_counted error (store.counts principal request.locator now)
  · simp only [hcounted, if_true, record_short_code_claim, hcleaned]
    cases hwin : short_code_claim_window now with
    | error e => exact ⟨⟨e, rfl⟩, rfl, hrates⟩
    | ok window =>
      simp only [ok_bind]
      by_cases hroom : (((other.at_time now).claim_rates.get?
          (request.locator, principal, window)).map (·.attempts)).getD 0 + 1 ≤ 5
      · simp only [require_bind hroom]
        exact ⟨⟨error, rfl⟩, rfl, rfl⟩
      · simp only [require_bind_of_not hroom]
        exact ⟨⟨_, rfl⟩, rfl, hrates⟩
  · simp only [hcounted, if_false]
    exact ⟨⟨error, rfl⟩, trivial, hrates⟩

/-- A refusal of a principal that has used up its claims is not counted. -/
theorem claim_error_of_limited (h : store.WellFormed) (hnow : now ≤ I64_MAX) {error : RelayError}
    (hdecide : store.claim_decision principal request now = .error error)
    (hlimited : MAX_SHORT_CODE_CLAIMS_PER_PRINCIPAL_WINDOW
      ≤ (store.counts principal request.locator now).1) :
    (claim_short_code_attempt store principal request now).1 = .error error := by
  have huncounted : ¬ claim_is_counted error (store.counts principal request.locator now) :=
    fun hcounted => absurd hcounted.2.1 (Nat.not_lt.2 hlimited)
  rw [claim_short_code_attempt, claim_transaction_eq h hnow, hdecide]
  simp only [huncounted, if_false]

end

/-- Two relays with the same counted claims, of which one has nothing at a locator and the
other a hidden attempt, answer a claim alike and count it alike, exactly if the attempt has
the version of the claim or is expired, or the principal has claims left in this window, or
the clock is out of range. -/
theorem hidden_attempt_claim {unused held : ShortCodeStore} (hunused : unused.Reachable)
    (hheld : held.Reachable) (hrates : unused.claim_rates = held.claim_rates)
    {principal : RelayPrincipalId} {request : ShortCodeAttemptClaimRequest} {now : ℕ}
    {row : ShortCodeAttemptRow} (hnone : unused.at_locator request.locator = none)
    (hrow : held.at_locator request.locator = some row)
    (hhidden : row.HiddenFrom principal request now) : RefuseAlike unused held principal request now
    ↔ (row.publish.version = request.version ∨ row.publish.deadline_unix_seconds ≤ now
      ∨ (held.counts principal request.locator now).1 < MAX_SHORT_CODE_CLAIMS_PER_PRINCIPAL_WINDOW
      ∨ I64_MAX < now) := by
  by_cases hnow : now ≤ I64_MAX
  · have hcounts : held.counts principal request.locator now
        = unused.counts principal request.locator now := by
      rw [counts, counts, hrates]
    have hunused_found : unused.found request.locator now = none := by
      rw [found, at_locator_at_time, hnone]
      rfl
    have hstart := @claim_decision_unused _ principal _ _ hunused_found
    have hfound : held.found request.locator now
        = if now < row.publish.deadline_unix_seconds then some row.stored else none := by
      rw [found, at_locator_at_time, hrow]
      by_cases hlive : now < row.publish.deadline_unix_seconds
      · simp [hlive]
      · simp [hlive, Nat.not_lt.1 hlive]
    by_cases hlive : now < row.publish.deadline_unix_seconds
    · rw [if_pos hlive] at hfound
      have hend := claim_decision_hidden hhidden hfound
      rw [hcounts] at hend
      by_cases hagree : row.publish.version = request.version
          ∨ (held.counts principal request.locator now).1
            < MAX_SHORT_CODE_CLAIMS_PER_PRINCIPAL_WINDOW
      · -- both decide the same refusal
        have hsame : (row.publish.version = request.version
            ∧ MAX_SHORT_CODE_CLAIMS_PER_PRINCIPAL_WINDOW
              ≤ (unused.counts principal request.locator now).1)
            ↔ MAX_SHORT_CODE_CLAIMS_PER_PRINCIPAL_WINDOW
              ≤ (unused.counts principal request.locator now).1 := by
          rw [← hcounts]
          refine ⟨And.right, fun hlimited => ⟨?_, hlimited⟩⟩
          exact hagree.resolve_right (Nat.not_lt.2 hlimited)
        simp only [hsame] at hend
        exact iff_of_true (refuseAlike_of_decision hunused.wellFormed hheld.wellFormed hrates hnow
          hstart hend) (by tauto)
      · -- the version hides the limit
        simp only [not_or, Nat.not_lt] at hagree
        refine iff_of_false ?_ ?_
        swap
        · rintro (hversion | hexpired | hroom | hlate)
          · exact hagree.1 hversion
          · exact Nat.not_lt.2 hexpired hlive
          · exact Nat.not_lt.2 hagree.2 hroom
          · exact Nat.not_lt.2 hnow hlate
        rintro ⟨-, hsame, -⟩
        have hlimited := hagree.2
        rw [if_neg (fun hboth => hagree.1 hboth.1)] at hend
        rw [claim_error_of_limited hheld.wellFormed hnow hend hlimited] at hsame
        rw [hcounts] at hlimited
        rw [if_pos hlimited] at hstart
        rw [claim_error_of_limited hunused.wellFormed hnow hstart hlimited] at hsame
        cases hsame
    · -- an expired attempt is deleted before the claim looks
      rw [if_neg hlive] at hfound
      have hend := @claim_decision_unused _ principal _ _ hfound
      rw [hcounts] at hend
      exact iff_of_true (refuseAlike_of_decision hunused.wellFormed hheld.wellFormed hrates hnow
        hstart hend) (.inr (.inl (Nat.not_lt.1 hlive)))
  · rw [RefuseAlike, claim_late hnow, claim_late hnow]
    exact iff_of_true ⟨⟨_, rfl⟩, rfl, hrates⟩ (.inr (.inr (.inr (Nat.not_le.1 hnow))))

namespace Exchange

/-- A locator at which nothing is published. -/
def elsewhere (value : UInt8) : ShortCodeAttemptClaimRequest :=
  ⟨.application_v1, FixedBytes.repeated 32 value, payload 1⟩

/-- Five counted guesses at each of two unused locators. -/
def guesses : List ShortCodeCall :=
  List.replicate 5 (.claim claimant (elsewhere 8) 10)
    ++ List.replicate 5 (.claim claimant (elsewhere 9) 10)

/-- A claim of the published attempt under another version. -/
def other_version : ShortCodeAttemptClaimRequest := ⟨⟨1, 1, Nat.one_pos⟩, locator, payload 1⟩

/-- The relay without and with the published attempt, after the guesses. -/
def limited : ShortCodeStore := (empty.play guesses).1
def limited_held : ShortCodeStore := (published.play guesses).1

end Exchange

/-- A principal that has used up its claims learns whether a locator is in use. -/
theorem hidden_attempt_claim_limited : limited.Reachable ∧ limited_held.Reachable
    ∧ limited.claim_rates.rows = limited_held.claim_rates.rows
    ∧ limited.attempts.rows = [] ∧ limited_held.attempts.rows = [new creator publish]
    ∧ (new creator publish).HiddenFrom claimant other_version 10
    ∧ (claim_short_code_attempt limited claimant other_version 10).1
      = .error .ShortCodeClaimRateLimited
    ∧ (claim_short_code_attempt limited_held claimant other_version
      10).1 = .error .ShortCodeAttemptUnavailable := by
  refine ⟨play .refl _, play (.tail .refl ⟨_, rfl⟩) _, by decide +kernel, by decide +kernel,
    by decide +kernel, ⟨by decide +kernel, by decide +kernel, by decide +kernel⟩,
    by decide +kernel, by decide +kernel⟩

theorem hidden_attempt_claim_first_guess : RefuseAlike empty published claimant other_version
    10 := by
  have hrates : empty.claim_rates = published.claim_rates :=
    ext (by decide +kernel)
  have hrow : published.at_locator other_version.locator = some (new creator publish) := by
    decide +kernel
  refine (hidden_attempt_claim .refl (.tail .refl ⟨_, rfl⟩) hrates rfl hrow
    ⟨by decide +kernel, by decide +kernel, by decide +kernel⟩).2 ?_
  exact .inr (.inr (.inl (by decide +kernel)))

/-! ## Stored attempts

Every stored attempt loads, by its identifier and by its locator. -/

/-- In every run the attempts that are stored can be loaded, by identifier and by locator,
and shown; no load finds them invalid. -/
theorem stored_attempts_load {store : ShortCodeStore} (h : store.Reachable) :
    (∀ locator attempt_id, load_short_code_attempt store locator attempt_id
      ≠ .error .InvalidStoredData)
    ∧ ∀ row ∈ store.attempts.rows,
      load_short_code_attempt store none (some row.publish.attempt_id) = .ok (some row.stored)
      ∧ load_short_code_attempt store (some row.publish.locator) none = .ok (some row.stored)
      ∧ ∃ snapshot, short_code_snapshot row.stored = .ok snapshot := by
  have hwf := h.wellFormed
  refine ⟨fun locator attempt_id => ?_, fun row hrow => ⟨?_, ?_, short_code_snapshot_of_row row⟩⟩
  · rw [load_short_code_attempt]
    split
    · rintro ⟨⟩
    · rename_i row hfilter
      have hrow : row ∈ store.attempts.rows :=
        List.mem_of_mem_filter (hfilter ▸ List.mem_singleton_self row)
      rw [decode_short_code_attempt_of_consistent (hwf row hrow)]
      rintro ⟨⟩
    · rintro ⟨⟩
  · rw [load_by_id hwf, get?_of_mem _ hrow]
    rfl
  · rw [load_by_locator hwf, at_locator_eq_some.2 ⟨hrow, rfl⟩]
    rfl

theorem stored_attempts_load_cancelled : ∃ row ∈ cancelled.attempts.rows,
    load_short_code_attempt cancelled none (some row.publish.attempt_id)
      = .ok (some row.stored) := by
  obtain ⟨row, hrow⟩ := List.exists_mem_of_ne_nil cancelled.attempts.rows (by decide +kernel)
  exact ⟨row, hrow, ((stored_attempts_load cancelled_reachable).2 row hrow).1⟩

end Konclave.Relay
