/-
How many claims of short codes a relay answers in ten minutes.

The accounting window is documented as sliding. The rate table counts by windows that
start at the multiples of ten minutes, and a call deletes the counts of the windows before
its own, so that what is bounded is the number of recorded claims in each of those windows.
Any ten minutes meet two of them, which doubles the bound. A claim that meets an attempt of
another version, or a locator with five claims, is answered and not recorded at all.
-/
import Konclave.Relay.ShortCodeDisclosure
import Mathlib.Algebra.Order.BigOperators.Group.List
import Mathlib.Algebra.Order.Group.Nat

set_option autoImplicit false

namespace Konclave.Relay

open Protobuf Domain ShortCodeCall ShortCodeStore Exchange Table List

/-! ## Totals of the rate table

Counts are kept for a locator, a principal and a window, and are summed either way. -/

/-- The claims that the table counts in a window, over the locators and principals that `p`
selects. -/
def claims_in (rates : ShortCodeClaimRates) (p : ShortCodePairingLocator → RelayPrincipalId → Bool)
    (window : ℕ) : ℕ :=
  (rates.rows.map fun row =>
    if row.window_start = window ∧ p row.locator row.principal_id = true then row.attempts
    else 0).sum

theorem sum_map_filter {α : Type} (l : List α) (p : α → Bool) (f : α → ℕ) :
    ((l.filter p).map f).sum = (l.map fun x => if p x = true then f x else 0).sum := by
  induction l with
  | nil => rfl
  | cons x l ih =>
    by_cases hx : p x = true
    · simp only [filter_cons, hx, if_true, map_cons, sum_cons, ih]
    · simp only [filter_cons, hx, map_cons, sum_cons, ih, Bool.false_eq_true,
        if_false, Nat.zero_add]

/-- The two sums of the claim query. -/
theorem claim_counts_eq (rates : ShortCodeClaimRates) (principal : RelayPrincipalId)
    (locator : ShortCodePairingLocator) (window : ℕ) : claim_counts rates principal locator window
    = (claims_in rates (fun _ other => decide (other = principal)) window,
      claims_in rates (fun other _ => decide (other = locator)) window) := by
  simp only [claim_counts, claims_in, filter_filter, sum_map_filter, Bool.and_eq_true,
    decide_eq_true_eq, and_comm]

/-- Deleting the counts of the windows before another changes no total from there on. -/
theorem claims_in_delete (rates : ShortCodeClaimRates)
    (p : ShortCodePairingLocator → RelayPrincipalId → Bool) {window from_window : ℕ}
    (h : from_window ≤ window) :
    claims_in (rates.delete fun row => row.window_start < from_window) p window
    = claims_in rates p window := by
  rw [claims_in, claims_in, delete, sum_map_filter]
  refine congrArg sum (map_congr_left fun row _ => ?_)
  by_cases hrow : row.window_start = window
  · have hkept : ¬ row.window_start < from_window := by omega
    simp [hkept]
  · simp [hrow]

/-- One more claim in a row is one more in each total that includes the row. -/
theorem claims_in_put (rates : ShortCodeClaimRates)
    (p : ShortCodePairingLocator → RelayPrincipalId → Bool) (window : ℕ)
    (locator : ShortCodePairingLocator) (principal : RelayPrincipalId) (start attempts : ℕ)
    (hold : ((rates.get? (locator, principal, start)).map (·.attempts)).getD 0 = attempts) :
    claims_in (rates.put ⟨locator, principal, start, attempts + 1⟩) p window
    = claims_in rates p window + if start = window ∧ p locator principal = true then 1 else 0 := by
  have hsum := rates.sum_put ⟨locator, principal, start, attempts + 1⟩ fun row =>
    if row.window_start = window ∧ p row.locator row.principal_id = true then row.attempts else 0
  dsimp only at hsum
  by_cases hmeets : start = window ∧ p locator principal = true
  · rw [if_pos hmeets] at hsum ⊢
    cases hrow : rates.get? (locator, principal, start) with
    | none =>
      rw [hrow] at hold hsum
      simp only [Option.map_none, Option.getD_none] at hold hsum
      rw [claims_in, claims_in]
      omega
    | some row =>
      have hkey := key_of_get? hrow
      simp only [Prod.mk.injEq] at hkey
      rw [hrow] at hold hsum
      simp only [Option.map_some, Option.getD_some, hkey.1, hkey.2.1, hkey.2.2,
        if_pos hmeets] at hold hsum
      rw [claims_in, claims_in]
      omega
  · rw [if_neg hmeets] at hsum ⊢
    have hzero : ((rates.get? (locator, principal, start)).map fun row =>
        if row.window_start = window ∧ p row.locator row.principal_id = true then row.attempts
        else 0).getD 0 = 0 := by
      cases hrow : rates.get? (locator, principal, start) with
      | none => rfl
      | some row =>
        have hkey := key_of_get? hrow
        simp only [Prod.mk.injEq] at hkey
        simp only [Option.map_some, Option.getD_some, hkey.1, hkey.2.1, hkey.2.2, if_neg hmeets]
    rw [hzero] at hsum
    exact hsum

/-! ## What a call does to the counts

A counted claim adds one to its window and finds the totals below the limits. -/

/-- The clock reading of a call. -/
def ShortCodeCall.now : ShortCodeCall → ℕ
  | .publish _ _ now => now
  | .claim _ _ now => now
  | .message _ _ now => now
  | .read _ _ now => now
  | .cancel _ _ now => now
  | .take _ _ now => now

/-- The claims counted for a locator and a principal in a window. -/
def ShortCodeStore.claims (store : ShortCodeStore) (locator : ShortCodePairingLocator)
    (principal : RelayPrincipalId) (window : ℕ) : ℕ :=
  ((store.claim_rates.get? (locator, principal, window)).map (·.attempts)).getD 0

/-- A call keeps the counts, deletes those of earlier windows, or records a claim for which
both limits have room. -/
inductive RateStep (store : ShortCodeStore) (call : ShortCodeCall) (store' : ShortCodeStore) : Prop
  | kept (hrates : store'.claim_rates = store.claim_rates)
  | cleaned (hrates : store'.claim_rates = (store.at_time call.now).claim_rates)
  | recorded (principal : RelayPrincipalId) (request : ShortCodeAttemptClaimRequest) (now : ℕ)
      (hcall : call = .claim principal request now)
      (hprincipal : (store.counts principal request.locator now).1
        < MAX_SHORT_CODE_CLAIMS_PER_PRINCIPAL_WINDOW)
      (hlocator : (store.counts principal request.locator now).2
        < MAX_SHORT_CODE_CLAIMS_PER_LOCATOR_WINDOW)
      (hrates : store'.claim_rates = (store.at_time now).claim_rates.put
        ⟨request.locator, principal, claim_window now,
          store.claims request.locator principal (claim_window now) + 1⟩)

section

variable {store store' : ShortCodeStore} {principal : RelayPrincipalId} {now : ℕ}

theorem ShortCodeStore.get?_at_time_rates (store : ShortCodeStore)
    (locator : ShortCodePairingLocator) (principal : RelayPrincipalId) (now : ℕ) :
    (store.at_time now).claim_rates.get? (locator, principal, claim_window now)
    = store.claim_rates.get? (locator, principal, claim_window now) := by
  have hdelete := get?_delete store.claim_rates
    (fun row => decide (row.window_start < claim_window now))
    (locator, principal, claim_window now)
  refine hdelete.trans ?_
  cases hrow : store.claim_rates.get? (locator, principal, claim_window now) with
  | none => rfl
  | some row =>
    have hkey := key_of_get? hrow
    simp only [Prod.mk.injEq] at hkey
    simp [Option.filter_some, hkey.2.2]

/-- A claim is recorded as long as its row has fewer than five. -/
theorem record_short_code_claim_eq (hnow : now ≤ I64_MAX) (locator : ShortCodePairingLocator) :
    record_short_code_claim (store.at_time now) principal locator now
    = if store.claims locator principal (claim_window now) + 1 ≤ 5 then
        .ok { store.at_time now with
          claim_rates := (store.at_time now).claim_rates.put ⟨locator, principal, claim_window now,
              store.claims locator principal (claim_window now) + 1⟩ }
      else .error (.StorageFailure "short-code claim rate update") := by
  have hwin : claim_window now ≤ I64_MAX := Nat.le_trans (Nat.sub_le _ _) hnow
  rw [record_short_code_claim, short_code_claim_window, to_sql_integer, if_pos hwin, ok_bind,
    store.get?_at_time_rates]
  by_cases hroom : store.claims locator principal (claim_window now) + 1 ≤ 5
  · rw [if_pos hroom]
    exact require_bind hroom
  · rw [if_neg hroom]
    exact require_bind_of_not hroom

/-- The row of a claim is part of the count of its locator. -/
theorem ShortCodeStore.claims_le_counts (store : ShortCodeStore)
    (locator : ShortCodePairingLocator) : store.claims locator principal (claim_window now)
    ≤ (store.counts principal locator now).2 := by
  rw [counts, claim_counts_eq, claims]
  cases hrow : store.claim_rates.get? (locator, principal, claim_window now) with
  | none => exact Nat.zero_le _
  | some row =>
    obtain ⟨hmem, hkey⟩ := get?_iff.1 hrow
    simp only [Prod.mk.injEq] at hkey
    refine single_le_sum (fun _ _ => Nat.zero_le _) _ (mem_map.2 ⟨row, hmem, ?_⟩)
    simp [hkey.1, hkey.2.2]

/-- A first claim was decided with room under both limits. -/
theorem claim_decision_room {request : ShortCodeAttemptClaimRequest}
    (h : store.claim_decision principal request now = .ok .Claim) :
    (store.counts principal request.locator now).1 < MAX_SHORT_CODE_CLAIMS_PER_PRINCIPAL_WINDOW
    ∧ (store.counts principal request.locator now).2
      < MAX_SHORT_CODE_CLAIMS_PER_LOCATOR_WINDOW := by
  rw [claim_decision] at h
  unfold decide_short_code_claim at h
  obtain ⟨-, h⟩ := ite_ok.1 h
  split at h
  · cases h
  · obtain ⟨hprin, h⟩ := ite_ok.1 h
    obtain ⟨hloc, -⟩ := ite_ok.1 h
    exact ⟨Nat.not_le.1 hprin, Nat.not_le.1 hloc⟩

theorem update_short_code_claim_rates {aid : ShortCodePairingAttemptId} {payload : ShortCodePayload}
    (h : update_short_code_claim store aid principal payload = .ok store') :
    store'.claim_rates = store.claim_rates := by
  rw [update_short_code_claim] at h
  obtain ⟨_, -, h⟩ := some_or_ok.1 h
  obtain ⟨-, h⟩ := require_ok.1 h
  obtain ⟨_, -, h⟩ := some_or_ok.1 h
  cases h
  rfl

/-- A first claim of an open attempt is stored and answered. -/
theorem claim_of_decision {request : ShortCodeAttemptClaimRequest} (h : store.WellFormed)
    (hnow : now ≤ I64_MAX) (hdcn : store.claim_decision principal request now = .ok .Claim) :
    ∃ snapshot later, claim_transaction store principal request now = .ok (.ok snapshot, later)
    ∧ later.claim_rates = (store.at_time now).claim_rates.put
      ⟨request.locator, principal, claim_window now,
        store.claims request.locator principal (claim_window now) + 1⟩ := by
  have hroom : store.claims request.locator principal (claim_window now) + 1 ≤ 5 :=
    Nat.lt_of_le_of_lt (store.claims_le_counts _) (claim_decision_room hdcn).2
  cases hrow : (store.at_time now).at_locator request.locator with
  | none =>
    have hfound : store.found request.locator now = none := by
      rw [found, hrow, Option.map_none]
    rw [claim_decision_unused hfound] at hdcn
    split at hdcn <;> cases hdcn
  | some row =>
    have hfound : store.found request.locator now = some row.stored := by
      rw [found, hrow, Option.map_some]
    have hdecide := hdcn
    rw [claim_decision, hfound] at hdecide
    obtain ⟨-, hcases⟩ := decide_short_code_claim_eq_ok hdecide
    obtain ⟨hclt, howner⟩ : row.claimant_principal_id = none
        ∧ row.owner_principal_id ≠ principal := by
      rcases hcases with ⟨⟨⟩, -⟩ | ⟨-, -, hclt, howner⟩
      exact ⟨hclt, howner⟩
    obtain ⟨hmem, hloc⟩ := at_locator_eq_some.1 hrow
    have hcons := h.at_time now row hmem
    have hget := get?_of_mem (store.at_time now).attempts hmem
    -- an attempt without a claimant has no credential request yet
    have hfresh : row.messages.get? .CredentialRequest = none := by
      have hclaimed := hcons.claimed
      rw [hclt, ShortCodeAttemptRow.message, Option.isSome_map] at hclaimed
      exact Option.isNone_iff_eq_none.1 (by simpa using hclaimed.symm)
    obtain ⟨messages, hmsgs⟩ : ∃ messages,
        row.messages.insert? ⟨.CredentialRequest, request.payload⟩ = some messages :=
      insert?_of_get?_none hfresh
    set claimed : ShortCodeAttemptRow :=
      { row with claimant_principal_id := some principal, messages } with hclaimed
    obtain ⟨snapshot, hsnap⟩ := short_code_snapshot_of_row claimed
    have hstep : AttemptStep (.claim principal request now) (.ok (.snapshot snapshot)) row
        claimed := .claimed rfl rfl hloc.symm hclt howner hmsgs
    set counted : ShortCodeStore := { store.at_time now with
      claim_rates := (store.at_time now).claim_rates.put
        ⟨request.locator, principal, claim_window now,
          store.claims request.locator principal (claim_window now) + 1⟩ } with hcounted
    have hget' : counted.attempts.get? row.publish.attempt_id = some row := hget
    obtain ⟨later, hlater⟩ : ∃ later, update_short_code_claim counted row.publish.attempt_id
        principal request.payload = .ok later := by
      rw [update_short_code_claim, some_or_bind hget', require_bind hclt, some_or_bind hmsgs]
      exact ⟨_, rfl⟩
    have hrows : ∀ other, later.attempts.get? other = if other = row.publish.attempt_id
        then some claimed else (store.at_time now).attempts.get? other := by
      obtain ⟨messages', hmsgs', hother⟩ := update_short_code_claim_eq_ok hget' hlater
      rw [hmsgs, Option.some.injEq] at hmsgs'
      subst hmsgs'
      exact hother
    have hwell : later.WellFormed := by
      intro other hother
      have hgot := get?_of_mem _ hother
      rw [hrows] at hgot
      split at hgot
      · cases hgot
        exact hstep.consistent hcons
      · exact h.at_time now other (get?_iff.1 hgot).1
    have hloaded : load_short_code_attempt later none (some row.publish.attempt_id)
        = .ok (some claimed.stored) := by
      rw [load_by_id hwell, hrows, if_pos rfl, Option.map_some]
    refine ⟨snapshot, later, ?_, update_short_code_claim_rates hlater⟩
    have hstored : row.stored.publish.attempt_id = row.publish.attempt_id := rfl
    rw [claim_transaction_eq h hnow, hdcn, hfound]
    simp only [apply_short_code_claim, record_short_code_claim_eq hnow, hroom, if_true, ok_bind,
      some_or_bind rfl, hstored, ← hcounted, hlater, hloaded, hsnap]
    rfl

theorem claim_rateStep (h : store.WellFormed) (request : ShortCodeAttemptClaimRequest) :
    RateStep store (.claim principal request now)
    (claim_short_code_attempt store principal request now).2 := by
  by_cases hnow : now ≤ I64_MAX
  swap
  · rw [claim_late hnow]
    exact .kept rfl
  rw [claim_short_code_attempt]
  cases hdcn : store.claim_decision principal request now with
  | error error =>
    rw [claim_transaction_eq h hnow, hdcn]
    by_cases hcounted : claim_is_counted error (store.counts principal request.locator now)
    · simp only [hcounted, if_true, record_short_code_claim_eq hnow]
      by_cases hroom : store.claims request.locator principal (claim_window now) + 1 ≤ 5
      · simp only [hroom, if_true, ok_bind]
        exact .recorded principal request now rfl hcounted.2.1 hcounted.2.2 rfl
      · simp only [hroom, if_false, error_bind]
        exact .kept rfl
    · simp only [hcounted, if_false]
      exact .kept rfl
  | ok decision =>
    cases decision with
    | Claim =>
      obtain ⟨hprin, hloc⟩ := claim_decision_room hdcn
      obtain ⟨snapshot, later, hcommitted, hrates⟩ := claim_of_decision h hnow hdcn
      rw [hcommitted]
      exact .recorded principal request now rfl hprin hloc hrates
    | Identical =>
      rw [claim_transaction_eq h hnow, hdcn]
      simp only [apply_short_code_claim, ok_bind]
      split
      · rename_i committed h
        obtain ⟨_, -, h⟩ := some_or_ok.1 h
        obtain ⟨_, -, h⟩ := bind_ok.1 h
        obtain ⟨_, -, h⟩ := some_or_ok.1 h
        obtain ⟨_, -, h⟩ := bind_ok.1 h
        cases h
        exact .cleaned rfl
      · exact .kept rfl

/-- A transaction that only cleans up the counts. -/
theorem rateStep_of_transaction {α : Type} {call : ShortCodeCall} {f : α → ShortCodeReply}
    {body : Except RelayError (α × ShortCodeStore)} (hok : ∀ a, (transaction store body).1 = .ok a →
      (transaction store body).2.claim_rates = (store.at_time call.now).claim_rates) :
    RateStep store call (reply f (transaction store body)).2 := by
  cases hres : (transaction store body).1 with
  | ok a => exact .cleaned (hok a hres)
  | error e => exact .kept (congrArg _ (transaction_eq_error (Prod.ext hres rfl)))

theorem ShortCodeCall.run_rateStep (h : store.WellFormed) (call : ShortCodeCall) :
    RateStep store call (call.run store).2 := by
  cases call with
  | claim principal request now => exact claim_rateStep h request
  | publish principal request now =>
    exact rateStep_of_transaction fun _ hok => (publish_eq_ok (Prod.ext hok rfl)).1
  | message principal request now =>
    exact rateStep_of_transaction fun _ hok => (message_eq_ok h (Prod.ext hok rfl)).1
  | read principal request now =>
    exact rateStep_of_transaction fun _ hok =>
      congrArg _ (read_eq_ok h (Prod.ext hok rfl)).1
  | cancel principal request now =>
    exact rateStep_of_transaction fun _ hok => (cancel_eq_ok h (Prod.ext hok rfl)).1
  | take principal request now =>
    exact rateStep_of_transaction fun _ hok => (take_eq_ok h (Prod.ext hok rfl)).1

end

/-! ## Runs

The claims of a run are counted in the windows of their times. -/

/-- The calls of a run, each with the store it found. -/
def ShortCodeStore.trace (store : ShortCodeStore) :
    List ShortCodeCall → List (ShortCodeStore × ShortCodeCall)
  | [] => []
  | call :: calls => (store, call) :: trace (call.run store).2 calls

theorem ShortCodeStore.mem_trace {store : ShortCodeStore} {calls : List ShortCodeCall}
    {event : ShortCodeStore × ShortCodeCall} (h : event ∈ store.trace calls) : event.2 ∈ calls := by
  induction calls generalizing store with
  | nil => cases h
  | cons call calls ih =>
    rcases mem_cons.1 h with rfl | hlater
    · exact mem_cons_self
    · exact mem_cons_of_mem _ (ih hlater)

theorem ShortCodeStore.Reachable.trace {store : ShortCodeStore} (h : store.Reachable)
    {calls : List ShortCodeCall} {event : ShortCodeStore × ShortCodeCall}
    (hev : event ∈ store.trace calls) : event.1.Reachable := by
  induction calls generalizing store with
  | nil => cases hev
  | cons call calls ih =>
    rcases mem_cons.1 hev with rfl | hlater
    · exact h
    · exact ih (h.tail ⟨call, rfl⟩) hlater

/-- The call is a claim, by a principal at a locator that `p` selects. -/
def ShortCodeCall.claims (p : ShortCodePairingLocator → RelayPrincipalId → Bool) :
    ShortCodeCall → Bool
  | .claim principal request _ => p request.locator principal
  | _ => false

/-- The rate table counts one claim more after the call. -/
def ShortCodeCall.recorded (store : ShortCodeStore) (call : ShortCodeCall) : Bool :=
  match call with
  | .claim principal request now =>
    decide (store.claims request.locator principal (claim_window now)
      < (call.run store).2.claims request.locator principal (claim_window now))
  | _ => false

/-- The call is recorded, as a claim that `p` selects, in the window that starts there. -/
def ShortCodeCall.recorded_in (p : ShortCodePairingLocator → RelayPrincipalId → Bool) (window : ℕ)
    (event : ShortCodeStore × ShortCodeCall) : Bool :=
  event.2.claims p && event.2.recorded event.1 && decide (claim_window event.2.now = window)

/-- A claim whose row is put back with one more is recorded. -/
theorem recorded_of_put {store : ShortCodeStore} {principal : RelayPrincipalId}
    {request : ShortCodeAttemptClaimRequest} {now : ℕ}
    (hrates : (run store (.claim principal request now)).2.claim_rates
      = (store.at_time now).claim_rates.put ⟨request.locator, principal, claim_window now,
        store.claims request.locator principal (claim_window now) + 1⟩) :
    recorded store (.claim principal request now) = true := by
  have hget := get?_put (store.at_time now).claim_rates
    ⟨request.locator, principal, claim_window now,
      store.claims request.locator principal (claim_window now) + 1⟩
    (request.locator, principal, claim_window now)
  rw [if_pos rfl, ← hrates] at hget
  have hnew : ((claim principal request now).run store).2.claims request.locator
      principal (claim_window now)
      = store.claims request.locator principal (claim_window now) + 1 :=
    congrArg (fun row => (row.map ShortCodeClaimRate.attempts).getD 0) hget
  refine decide_eq_true ?_
  rw [hnew]
  exact Nat.lt_succ_self _

section

variable {store : ShortCodeStore} {call : ShortCodeCall}
  {p : ShortCodePairingLocator → RelayPrincipalId → Bool}

/-- A call that keeps the counts, or only cleans them up, is not recorded. -/
theorem unrecorded_of_rates (hrates : (call.run store).2.claim_rates = store.claim_rates
      ∨ (call.run store).2.claim_rates = (store.at_time call.now).claim_rates) :
    call.recorded store = false := by
  cases call with
  | claim principal request now =>
    have hsame : (run store (.claim principal request now)).2.claim_rates.get?
        (request.locator, principal, claim_window now)
        = store.claim_rates.get? (request.locator, principal, claim_window now) := by
      rcases hrates with hrates | hrates
      · rw [hrates]
      · rw [hrates]
        exact store.get?_at_time_rates request.locator principal now
    exact decide_eq_false (Nat.not_lt.2 (Nat.le_of_eq
      (congrArg (fun row => (row.map ShortCodeClaimRate.attempts).getD 0) hsame)))
  | _ => rfl

/-- In a window that is not over, a total grows by the claim that a call records. -/
theorem claims_in_run (h : store.WellFormed) (call : ShortCodeCall) {window : ℕ}
    (hwin : claim_window call.now ≤ window) :
    claims_in (call.run store).2.claim_rates p window = claims_in store.claim_rates p window
    + if recorded_in p window (store, call) = true then 1 else 0 := by
  rcases call.run_rateStep h with hrates | hrates | ⟨principal, request, now, rfl, -, -, hrates⟩
  · have hnot := unrecorded_of_rates (.inl hrates)
    simp [recorded_in, hnot, hrates]
  · have hnot := unrecorded_of_rates (.inr hrates)
    have hdeleted : claims_in (store.at_time call.now).claim_rates p window
        = claims_in store.claim_rates p window := claims_in_delete _ p hwin
    simp [recorded_in, hnot, hrates, hdeleted]
  · have hrec := recorded_of_put hrates
    have hold : (((store.at_time now).claim_rates.get?
        (request.locator, principal, claim_window now)).map (·.attempts)).getD 0
        = store.claims request.locator principal (claim_window now) := by
      rw [store.get?_at_time_rates]
      rfl
    have hdeleted : claims_in (store.at_time now).claim_rates p window
        = claims_in store.claim_rates p window := claims_in_delete _ p hwin
    rw [hrates, claims_in_put _ p window _ _ _ _ hold, hdeleted]
    have hev : recorded_in p window (store, .claim principal request now) = true
        ↔ claim_window now = window ∧ p request.locator principal = true := by
      rw [recorded_in, hrec, Bool.and_true, Bool.and_eq_true, and_comm]
      exact and_congr decide_eq_true_iff Iff.rfl
    simp only [hev]

theorem claim_window_mono {now later : ℕ} (h : now ≤ later) :
    claim_window now ≤ claim_window later := by
  simp only [claim_window, SHORT_CODE_CLAIM_WINDOW_SECONDS]
  omega

/-- A total that every recorded claim finds below its limit bounds the claims recorded in a
window. -/
theorem recorded_in_window {limit window : ℕ}
    (hlimit : ∀ (store : ShortCodeStore) (call : ShortCodeCall), store.WellFormed →
      call.claims p = true → call.recorded store = true →
      claims_in store.claim_rates p (claim_window call.now) < limit)
    {calls : List ShortCodeCall} (hclock : calls.Pairwise fun call later => call.now ≤ later.now)
    (h : store.WellFormed) (hstart : claims_in store.claim_rates p window ≤ limit) :
    (store.trace calls).countP (recorded_in p window)
    + claims_in store.claim_rates p window ≤ limit := by
  -- on the calls from the front: while the window is not over, a recorded claim moves one
  -- unit from the count into the total
  induction calls generalizing store with
  | nil => simpa [trace] using hstart
  | cons call calls ih =>
    obtain ⟨hlater, hclock'⟩ := pairwise_cons.1 hclock
    by_cases hover : claim_window call.now ≤ window
    · have hrun := @claims_in_run store p h call window hover
      have hnext : claims_in (call.run store).2.claim_rates p window ≤ limit := by
        by_cases hrec : recorded_in p window (store, call) = true
        · have hparts := hrec
          simp only [recorded_in, Bool.and_eq_true, decide_eq_true_eq] at hparts
          have hroom := hlimit store call h hparts.1.1 hparts.1.2
          rw [hparts.2] at hroom
          rw [hrun, if_pos hrec]
          exact hroom
        · rw [hrun, if_neg hrec]
          exact hstart
      have hwell : (call.run store).2.WellFormed := h.run rfl
      have hrest := ih hclock' hwell hnext
      rw [trace, countP_cons]
      omega
    · have hnone : (store.trace (call :: calls)).countP (recorded_in p window) = 0 := by
        rw [countP_eq_zero]
        intro event hev hrec
        have hnow : call.now ≤ event.2.now := by
          rcases mem_cons.1 (mem_trace hev) with heq | hmem
          · rw [heq]
          · exact hlater _ hmem
        have hwin := claim_window_mono hnow
        simp only [recorded_in, Bool.and_eq_true, decide_eq_true_eq] at hrec
        omega
      omega

/-- The principal's total is below ten where one of its claims is recorded, the locator's
below five. -/
theorem recorded_room (h : store.WellFormed) (hrec : call.recorded store = true) :
    ∃ principal request now, call = .claim principal request now
    ∧ claims_in store.claim_rates (fun _ other => decide (other = principal))
        (claim_window now) < MAX_SHORT_CODE_CLAIMS_PER_PRINCIPAL_WINDOW
    ∧ claims_in store.claim_rates (fun other _ => decide (other = request.locator))
        (claim_window now) < MAX_SHORT_CODE_CLAIMS_PER_LOCATOR_WINDOW := by
  rcases call.run_rateStep h with hrates | hrates | ⟨principal, request, now, rfl, hprin, hloc, -⟩
  · rw [unrecorded_of_rates (.inl hrates)] at hrec
    cases hrec
  · rw [unrecorded_of_rates (.inr hrates)] at hrec
    cases hrec
  · rw [counts, claim_counts_eq] at hprin hloc
    exact ⟨principal, request, now, rfl, hprin, hloc⟩

end

/-! ## Ten minutes

Ten minutes meet two windows, so twice the limit bounds them. -/

/-- The call is made in the ten minutes that start at a clock reading. -/
def ShortCodeCall.within (start : ℕ) (call : ShortCodeCall) : Bool :=
  decide (start ≤ call.now ∧ call.now < start + SHORT_CODE_CLAIM_WINDOW_SECONDS)

/-- The call repeats the claim that its principal made of the attempt. -/
def ShortCodeCall.retries (store : ShortCodeStore) : ShortCodeCall → Prop
  | .claim principal request now => ∃ row ∈ (store.at_time now).at_locator request.locator,
      row.publish.version = request.version ∧ row.stored.claimed_by principal request
  | _ => False

instance (store : ShortCodeStore) (call : ShortCodeCall) : Decidable (call.retries store) :=
  match call with
  | .claim _ _ _ => inferInstanceAs (Decidable (∃ row ∈ _, _))
  | .publish _ _ _ | .message _ _ _ | .read _ _ _ | .cancel _ _ _ | .take _ _ _ =>
    inferInstanceAs (Decidable False)

def claims_by (principal : RelayPrincipalId) : ShortCodePairingLocator → RelayPrincipalId → Bool :=
  fun _ other => decide (other = principal)

def claims_at (locator : ShortCodePairingLocator) :
    ShortCodePairingLocator → RelayPrincipalId → Bool :=
  fun other _ => decide (other = locator)

/-- In the ten minutes, a claim of the principal that is no retry is answered, and not by the
limit. -/
def ShortCodeCall.answered_within (principal : RelayPrincipalId) (start : ℕ)
    (event : ShortCodeStore × ShortCodeCall) : Bool :=
  event.2.claims (claims_by principal) && event.2.within start
    && decide ((event.2.run event.1).1 ≠ .error .ShortCodeClaimRateLimited)
    && !decide (event.2.retries event.1)

/-- In the ten minutes, a claim that `p` selects is recorded. -/
def ShortCodeCall.recorded_within (p : ShortCodePairingLocator → RelayPrincipalId → Bool)
    (start : ℕ) (event : ShortCodeStore × ShortCodeCall) : Bool :=
  event.2.claims p && event.2.recorded event.1 && event.2.within start

/-- The claim can be recorded: its clock reading fits a column, what is published at its
locator has its version, and the locator has claims left in the window. -/
def ShortCodeCall.Metered (store : ShortCodeStore) : ShortCodeCall → Prop
  | .claim principal request now => now ≤ I64_MAX
      ∧ (∀ row ∈ (store.at_time now).at_locator request.locator,
        row.publish.version = request.version)
      ∧ (store.counts principal request.locator now).2 < MAX_SHORT_CODE_CLAIMS_PER_LOCATOR_WINDOW
  | _ => True

instance (store : ShortCodeStore) (call : ShortCodeCall) : Decidable (call.Metered store) :=
  match call with
  | .claim _ _ _ => inferInstanceAs (Decidable (_ ∧ _ ∧ _))
  | .publish _ _ _ | .message _ _ _ | .read _ _ _ | .cancel _ _ _ | .take _ _ _ =>
    inferInstanceAs (Decidable True)

/-- The claims of the ten minutes that `p` selects are in one window of the rate table. -/
def OneWindow (p : ShortCodePairingLocator → RelayPrincipalId → Bool) (start : ℕ)
    (calls : List ShortCodeCall) : Prop :=
  ∀ call ∈ calls, ∀ other ∈ calls, call.claims p = true → other.claims p = true →
    call.within start = true → other.within start = true →
    claim_window call.now = claim_window other.now

instance (p : ShortCodePairingLocator → RelayPrincipalId → Bool) (start : ℕ)
    (calls : List ShortCodeCall) : Decidable (OneWindow p start calls) :=
  inferInstanceAs (Decidable (∀ call ∈ calls, ∀ other ∈ calls, _))

section

variable {store : ShortCodeStore} {principal : RelayPrincipalId}
  {request : ShortCodeAttemptClaimRequest} {now : ℕ}

/-- The attempt takes no first claim of the principal. -/
def StoredShortCodeAttempt.closed_to (attempt : StoredShortCodeAttempt)
    (principal : RelayPrincipalId) (now : ℕ) : Prop :=
  attempt.publish.deadline_unix_seconds ≤ now ∨ attempt.cancelled = true
    ∨ attempt.capability_consumed = true ∨ attempt.owner = principal
    ∨ attempt.claimant.isSome = true

instance (attempt : StoredShortCodeAttempt) (principal : RelayPrincipalId) (now : ℕ) :
    Decidable (attempt.closed_to principal now) :=
  inferInstanceAs (Decidable (_ ∨ _))

/-- The decision of a claim of the attempt's version that is no retry. -/
theorem ShortCodeStore.claim_decision_eq (store : ShortCodeStore)
    (hver : ¬ ∃ attempt ∈ store.found request.locator now,
      attempt.publish.version ≠ request.version)
    (hretry : ¬ ∃ attempt ∈ store.found request.locator now,
      attempt.claimed_by principal request) : store.claim_decision principal request now =
    if MAX_SHORT_CODE_CLAIMS_PER_PRINCIPAL_WINDOW
        ≤ (store.counts principal request.locator now).1 then .error .ShortCodeClaimRateLimited
    else if MAX_SHORT_CODE_CLAIMS_PER_LOCATOR_WINDOW
        ≤ (store.counts principal request.locator now).2 then .error .ShortCodeAttemptUnavailable
    else if ∃ attempt ∈ store.found request.locator now, ¬ attempt.closed_to principal now then
      .ok .Claim else .error .ShortCodeAttemptUnavailable := by
  rw [claim_decision]
  unfold decide_short_code_claim
  rw [if_neg hver, if_neg hretry]
  cases store.found request.locator now with
  | none => simp
  | some attempt =>
    simp only [Option.mem_def, Option.some.injEq, exists_eq_left',
      StoredShortCodeAttempt.closed_to, ite_not]

/-- What is recorded of a claim that is answered, is no retry, and can be recorded. -/
theorem recorded_of_answered (h : store.WellFormed)
    (hmetered : ShortCodeCall.Metered store (.claim principal request now))
    (hlimit : (run store (.claim principal request now)).1 ≠ .error .ShortCodeClaimRateLimited)
    (hretry : ¬ retries store (.claim principal request now)) :
    recorded store (.claim principal request now) = true := by
  obtain ⟨hnow, hver, hloc⟩ := hmetered
  have hroom : store.claims request.locator principal (claim_window now) + 1 ≤ 5 :=
    Nat.lt_of_le_of_lt (store.claims_le_counts _) hloc
  have hothers : ¬ ∃ attempt ∈ store.found request.locator now,
      attempt.publish.version ≠ request.version := by
    rintro ⟨attempt, hatt, hne⟩
    obtain ⟨row, hrow, rfl⟩ := Option.map_eq_some_iff.1 hatt
    exact hne (hver row hrow)
  have hnew : ¬ ∃ attempt ∈ store.found request.locator now,
      attempt.claimed_by principal request := by
    rintro ⟨attempt, hatt, hclaimed⟩
    obtain ⟨row, hrow, rfl⟩ := Option.map_eq_some_iff.1 hatt
    exact hretry ⟨row, hrow, hver row hrow, hclaimed⟩
  -- a claim of its version that is no retry gets to the limits
  have hdcn := store.claim_decision_eq hothers hnew
  by_cases hfull : MAX_SHORT_CODE_CLAIMS_PER_PRINCIPAL_WINDOW
      ≤ (store.counts principal request.locator now).1
  · rw [if_pos hfull] at hdcn
    have hans := claim_error_of_limited h hnow hdcn hfull
    refine absurd ?_ hlimit
    rw [run, reply, hans]
    rfl
  · rw [if_neg hfull, if_neg (Nat.not_le.2 hloc)] at hdcn
    apply recorded_of_put
    by_cases hopen : ∃ attempt ∈ store.found request.locator now, ¬ attempt.closed_to principal now
    · rw [if_pos hopen] at hdcn
      obtain ⟨snapshot, later, hcommitted, hrates⟩ := claim_of_decision h hnow hdcn
      rw [run, reply, claim_short_code_attempt, hcommitted]
      exact hrates
    · rw [if_neg hopen] at hdcn
      have hcounted : claim_is_counted .ShortCodeAttemptUnavailable
          (store.counts principal request.locator now) := ⟨rfl, Nat.not_le.1 hfull, hloc⟩
      rw [run, reply, claim_short_code_attempt, claim_transaction_eq h hnow, hdcn]
      simp only [hcounted, if_true, record_short_code_claim_eq hnow, hroom, ok_bind]
      rfl

end

section

variable {calls : List ShortCodeCall}
  {p : ShortCodePairingLocator → RelayPrincipalId → Bool} {start : ℕ}

/-- The two limits, over the claims recorded in one window of a run. -/
theorem recorded_in_window_le
    (hclock : calls.Pairwise fun call later => call.now ≤ later.now) (window : ℕ) :
    (∀ principal, (empty.trace calls).countP (recorded_in (claims_by principal) window)
        ≤ MAX_SHORT_CODE_CLAIMS_PER_PRINCIPAL_WINDOW)
    ∧ ∀ locator, (empty.trace calls).countP (recorded_in (claims_at locator) window)
      ≤ MAX_SHORT_CODE_CLAIMS_PER_LOCATOR_WINDOW := by
  have hempty : empty.WellFormed := ShortCodeStore.Reachable.wellFormed .refl
  constructor
  · intro principal
    refine Nat.le_of_add_right_le (recorded_in_window ?_ hclock hempty (Nat.zero_le _))
    intro store call h hclaims hrec
    obtain ⟨other, request, now, rfl, hroom, -⟩ := recorded_room h hrec
    have heq : other = principal := of_decide_eq_true hclaims
    rw [← heq]
    exact hroom
  · intro locator
    refine Nat.le_of_add_right_le (recorded_in_window ?_ hclock hempty (Nat.zero_le _))
    intro store call h hclaims hrec
    obtain ⟨other, request, now, rfl, -, hroom⟩ := recorded_room h hrec
    have heq : request.locator = locator := of_decide_eq_true hclaims
    rw [← heq]
    exact hroom

/-- Claims of ten minutes that are in one window have a window in common. -/
theorem exists_window (hwin : OneWindow p start calls) :
    ∃ window, ∀ call ∈ calls, call.claims p = true → call.within start = true →
    claim_window call.now = window := by
  by_cases hsome : ∃ call ∈ calls, call.claims p = true ∧ call.within start = true
  · obtain ⟨first, hfirst, hclaims, hwithin⟩ := hsome
    exact ⟨claim_window first.now, fun call hcall hclaim hcall_within =>
      hwin call hcall first hfirst hclaim hclaims hcall_within hwithin⟩
  · exact ⟨0, fun call hcall hclaim hwithin => absurd ⟨call, hcall, hclaim, hwithin⟩ hsome⟩

end

/-- In ten minutes in which a principal's claims are in one window of the rate table and each
of them could be recorded, at most ten of them are answered otherwise than by the limit. In
ten minutes in which the claims on a locator are in one window, at most five of them are
recorded. -/
theorem short_code_claim_rate {calls : List ShortCodeCall}
    (hclock : calls.Pairwise fun call later => call.now ≤ later.now) (start : ℕ) :
    (∀ principal, OneWindow (claims_by principal) start calls →
        (∀ event ∈ empty.trace calls, event.2.claims (claims_by principal) = true →
          event.2.within start = true → event.2.Metered event.1) →
        (empty.trace calls).countP (answered_within principal start)
          ≤ MAX_SHORT_CODE_CLAIMS_PER_PRINCIPAL_WINDOW)
    ∧ ∀ locator, OneWindow (claims_at locator) start calls →
      (empty.trace calls).countP (recorded_within (claims_at locator) start)
        ≤ MAX_SHORT_CODE_CLAIMS_PER_LOCATOR_WINDOW := by
  constructor
  · intro principal hwindow hmetered
    obtain ⟨window, hone⟩ := exists_window hwindow
    refine Nat.le_trans (countP_mono_left fun event hevent hanswered => ?_)
      ((recorded_in_window_le hclock window).1 principal)
    simp only [answered_within, Bool.and_eq_true, decide_eq_true_eq,
      Bool.not_eq_true', decide_eq_false_iff_not] at hanswered
    obtain ⟨⟨⟨hclaims, hwithin⟩, hanswer⟩, hretry⟩ := hanswered
    have hcall := hone event.2 (mem_trace hevent) hclaims hwithin
    have hwell := (ShortCodeStore.Reachable.trace .refl hevent).wellFormed
    have hrecorded : event.2.recorded event.1 = true := by
      have hcan := hmetered event hevent hclaims hwithin
      obtain ⟨store, call⟩ := event
      cases call with
      | claim => exact recorded_of_answered hwell hcan hanswer hretry
      | _ => cases hclaims
    simp only [recorded_in, hclaims, hrecorded, hcall, decide_true, Bool.and_self]
  · intro locator hwindow
    obtain ⟨window, hone⟩ := exists_window hwindow
    refine Nat.le_trans (countP_mono_left fun event hevent hrecorded => ?_)
      ((recorded_in_window_le hclock window).2 locator)
    simp only [recorded_within, Bool.and_eq_true] at hrecorded
    obtain ⟨⟨hclaims, hrecorded⟩, hwithin⟩ := hrecorded
    have hcall := hone event.2 (mem_trace hevent) hclaims hwithin
    simp only [recorded_in, hclaims, hrecorded, hcall, decide_true, Bool.and_self]

namespace Exchange

/-- Guesses of one principal at ten unused locators. -/
def ten_guesses (from_value : UInt8) (now : ℕ) : List ShortCodeCall :=
  (range 10).map fun i => .claim claimant (elsewhere (from_value + UInt8.ofNat i)) now

/-- Guesses of five principals at one unused locator. -/
def five_guesses (now : ℕ) : List ShortCodeCall :=
  (range 5).map fun i => .claim (FixedBytes.repeated 32 (UInt8.ofNat i)) (elsewhere 8) now

/-- Ten guesses that use up the principal's claims, and claims under another version. -/
def versions : List ShortCodeCall :=
  .publish creator publish 0
    :: (ten_guesses 20 10 ++ replicate 10 (.claim claimant other_version 10))

/-- Five guesses that use up a locator's claims, and claims of a principal at it. -/
def exhausted : List ShortCodeCall :=
  five_guesses 10 ++ replicate 11 (.claim (FixedBytes.repeated 32 9) (elsewhere 8) 10)

end Exchange

theorem short_code_claim_rate_guesses : (empty.trace (ten_guesses 20 10)).countP
      (answered_within claimant 0) = 10
    ∧ (empty.trace (ten_guesses 20 10)).countP (answered_within claimant 0)
      ≤ MAX_SHORT_CODE_CLAIMS_PER_PRINCIPAL_WINDOW := by
  refine ⟨by decide +kernel, ?_⟩
  exact (@short_code_claim_rate (ten_guesses 20 10) (by decide +kernel) 0).1 _
    (by decide +kernel) (by decide +kernel)

/-- Within two seconds a principal is answered twenty claims and ten are recorded on one
locator, on either side of a multiple of ten minutes; and within one second a principal is
answered twenty or eleven claims, of another version or at a locator that has none left. -/
theorem claim_rate_exceeded : (ten_guesses 20 599 ++ ten_guesses 30 600).Pairwise
      (fun call later => call.now ≤ later.now)
    ∧ (empty.trace (ten_guesses 20 599 ++ ten_guesses 30 600)).countP
      (answered_within claimant 599) = 20
    ∧ (empty.trace (five_guesses 599 ++ five_guesses 600)).countP
      (recorded_within (claims_at (elsewhere 8).locator) 599) = 10
    ∧ (empty.trace versions).countP (answered_within claimant 0) = 20
    ∧ (empty.trace exhausted).countP (answered_within (FixedBytes.repeated 32 9) 0) = 11 := by
  refine ⟨by decide +kernel, by decide +kernel, by decide +kernel, by decide +kernel,
    by decide +kernel⟩

end Konclave.Relay
