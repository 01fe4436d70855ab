/-
`Konclave.RelayCore`: short-code attempts and their repository.

The decisions are pure functions of a stored attempt, a request and the clock; each
repository call is one transaction that first deletes expired attempts, loads the attempt,
decides and writes. A failing call rolls back, with one exception: a claim refused as
unavailable is counted, and that count is committed.

The messages of an attempt are a table of their own in the database, whose foreign key
deletes them with the attempt; here they are part of the attempt's row.
-/
import Konclave.Domain.ShortCode
import Konclave.Relay.Store

set_option autoImplicit false

namespace Konclave.Relay

open Protobuf Domain

/-! ## Limits -/

def MAX_ACTIVE_SHORT_CODE_ATTEMPTS : ℕ := 1000
def MAX_ACTIVE_SHORT_CODE_ATTEMPTS_PER_CREATOR : ℕ := 8
def MAX_SHORT_CODE_CLAIMS_PER_PRINCIPAL_WINDOW : ℕ := 10
def MAX_SHORT_CODE_CLAIMS_PER_LOCATOR_WINDOW : ℕ := 5
def SHORT_CODE_CLAIM_WINDOW_SECONDS : ℕ := 10 * 60
def SHORT_CODE_ATTEMPT_LIFETIME_SECONDS : ℕ := 10 * 60

/-- `u64::saturating_add`. -/
def saturating_add (x y : ℕ) : ℕ := min (x + y) (2 ^ 64 - 1)

/-! ## Stored attempts

An attempt with the messages of its stages, at most one of each. -/

/-- Opaque stages by stage. -/
abbrev ShortCodeMessages := Table ShortCodeRelayStage ShortCodeRelayMessage (·.stage)

/-- The stages in order, as a `BTreeMap` or `ORDER BY stage` yields them. -/
def ShortCodeMessages.in_order (messages : ShortCodeMessages) : List ShortCodeRelayMessage :=
  ShortCodeRelayStage.all.filterMap messages.get?

structure StoredShortCodeAttempt where
  owner : RelayPrincipalId
  claimant : Option RelayPrincipalId
  publish : ShortCodeAttemptPublishRequest
  messages : ShortCodeMessages
  cancelled : Bool
  capability_take_id : Option ShortCodeCapabilityTakeId

namespace StoredShortCodeAttempt

def new (owner : RelayPrincipalId) (publish : ShortCodeAttemptPublishRequest) :
    StoredShortCodeAttempt :=
  ⟨owner, none, publish, Table.empty, false, none⟩

def message (attempt : StoredShortCodeAttempt) (stage : ShortCodeRelayStage) :
    Option ShortCodePayload :=
  (attempt.messages.get? stage).map (·.payload)

def capability_consumed (attempt : StoredShortCodeAttempt) : Bool :=
  attempt.capability_take_id.isSome

/-- Records the one claimant and its credential request. -/
def set_claim (attempt : StoredShortCodeAttempt) (claimant : RelayPrincipalId)
    (payload : ShortCodePayload) : Except RelayError StoredShortCodeAttempt := do
  require (attempt.claimant = none) .InvalidStoredData
  let messages ← some_or (attempt.messages.insert? ⟨.CredentialRequest, payload⟩)
    .InvalidStoredData
  pure { attempt with messages, claimant := some claimant }

/-- Records one later stage. -/
def insert_message (attempt : StoredShortCodeAttempt) (stage : ShortCodeRelayStage)
    (payload : ShortCodePayload) : Except RelayError StoredShortCodeAttempt := do
  require (stage ≠ .CredentialRequest) .InvalidStoredData
  let messages ← some_or (attempt.messages.insert? ⟨stage, payload⟩) .InvalidStoredData
  pure { attempt with messages }

/-- Who writes a stage. -/
def stage_owner (attempt : StoredShortCodeAttempt) : ShortCodeRelayStage → RelayPrincipalId
  | .CredentialRequest | .ClaimantFinalization | .ClaimantConfirmation =>
    attempt.claimant.getD attempt.owner
  | .CredentialResponse | .CreatorIdentity | .CreatorConfirmation | .Capability => attempt.owner

end StoredShortCodeAttempt

/-- The stages that must be stored before a stage. A credential request is stored by a
claim, never after another stage. -/
def stage_dependencies : ShortCodeRelayStage → List ShortCodeRelayStage
  | .CredentialRequest => []
  | .CredentialResponse => [.CredentialRequest]
  | .ClaimantFinalization => [.CredentialResponse]
  | .CreatorIdentity => [.ClaimantFinalization]
  | .CreatorConfirmation | .ClaimantConfirmation => [.CreatorIdentity]
  | .Capability => [.CreatorConfirmation, .ClaimantConfirmation]

def stage_dependencies_satisfied (attempt : StoredShortCodeAttempt)
    (stage : ShortCodeRelayStage) : Bool :=
  stage ≠ .CredentialRequest
    ∧ (stage_dependencies stage).all (fun earlier => (attempt.message earlier).isSome) = true

/-! ## Decisions

What a call would do is decided on the attempt alone; the statements follow. -/

inductive ShortCodePublishDecision
  | Insert
  | Identical
  deriving DecidableEq

inductive ShortCodeClaimDecision
  | Claim
  | Identical
  deriving DecidableEq

inductive ShortCodeMessageDecision
  | Insert
  | Identical
  deriving DecidableEq

inductive ShortCodeCapabilityDecision
  | Consume
  | Identical
  deriving DecidableEq

def decide_short_code_publish (principal : RelayPrincipalId)
    (request : ShortCodeAttemptPublishRequest) (existing : Option StoredShortCodeAttempt)
    (now_unix_seconds active_global_count active_creator_count : ℕ) :
    Except RelayError ShortCodePublishDecision :=
  if request.deadline_unix_seconds ≤ now_unix_seconds then .error .ExpiredShortCodeAttempt
  else if saturating_add now_unix_seconds SHORT_CODE_ATTEMPT_LIFETIME_SECONDS
      < request.deadline_unix_seconds then .error .InvalidShortCodeDeadline
  else match existing with
    | some existing =>
      if existing.owner = principal ∧ existing.publish = request then .ok .Identical
      else .error .ShortCodeAttemptConflict
    | none =>
      if MAX_ACTIVE_SHORT_CODE_ATTEMPTS ≤ active_global_count then
        .error .ShortCodeGlobalCapacityExceeded
      else if MAX_ACTIVE_SHORT_CODE_ATTEMPTS_PER_CREATOR ≤ active_creator_count then
        .error .ShortCodeCreatorCapacityExceeded
      else .ok .Insert

/-- The claim is for this attempt, by its claimant, with the request it was made with. -/
def StoredShortCodeAttempt.claimed_by (attempt : StoredShortCodeAttempt)
    (principal : RelayPrincipalId) (request : ShortCodeAttemptClaimRequest) : Prop :=
  attempt.claimant = some principal ∧ attempt.message .CredentialRequest = some request.payload

instance (attempt : StoredShortCodeAttempt) (principal : RelayPrincipalId)
    (request : ShortCodeAttemptClaimRequest) : Decidable (attempt.claimed_by principal request) :=
  inferInstanceAs (Decidable (_ ∧ _))

/-- The version check and the retry check come before the limits. -/
def decide_short_code_claim (principal : RelayPrincipalId)
    (request : ShortCodeAttemptClaimRequest) (existing : Option StoredShortCodeAttempt)
    (now_unix_seconds principal_window_count locator_window_count : ℕ) :
    Except RelayError ShortCodeClaimDecision :=
  if ∃ attempt ∈ existing, attempt.publish.version ≠ request.version then
    .error .ShortCodeAttemptUnavailable
  else if ∃ attempt ∈ existing, attempt.claimed_by principal request then .ok .Identical
  else if MAX_SHORT_CODE_CLAIMS_PER_PRINCIPAL_WINDOW ≤ principal_window_count then
    .error .ShortCodeClaimRateLimited
  else if MAX_SHORT_CODE_CLAIMS_PER_LOCATOR_WINDOW ≤ locator_window_count then
    .error .ShortCodeAttemptUnavailable
  else match existing with
    | none => .error .ShortCodeAttemptUnavailable
    | some existing =>
      if existing.publish.deadline_unix_seconds ≤ now_unix_seconds
          ∨ existing.cancelled = true ∨ existing.capability_consumed = true
          ∨ existing.owner = principal ∨ existing.claimant.isSome then
        .error .ShortCodeAttemptUnavailable
      else .ok .Claim

def decide_short_code_message (principal : RelayPrincipalId)
    (request : ShortCodeAttemptMessageRequest) (existing : StoredShortCodeAttempt)
    (now_unix_seconds : ℕ) : Except RelayError ShortCodeMessageDecision :=
  if existing.publish.version ≠ request.version
      ∨ existing.publish.deadline_unix_seconds ≤ now_unix_seconds
      ∨ existing.cancelled = true then .error .ShortCodeAttemptUnavailable
  else match existing.message request.stage with
    | some payload =>
      if payload = request.payload ∧ existing.stage_owner request.stage = principal then
        .ok .Identical
      else .error .ShortCodeAttemptConflict
    | none =>
      if existing.capability_consumed = true then .error .ShortCodeAttemptUnavailable
      else if existing.stage_owner request.stage ≠ principal
          ∨ stage_dependencies_satisfied existing request.stage = false then
        .error .InvalidShortCodeStage
      else .ok .Insert

def authorize_short_code_read (principal : RelayPrincipalId)
    (request : ShortCodeAttemptReadRequest) (existing : StoredShortCodeAttempt)
    (now_unix_seconds : ℕ) : Except RelayError Unit :=
  if existing.publish.version ≠ request.version
      ∨ existing.publish.deadline_unix_seconds ≤ now_unix_seconds
      ∨ existing.cancelled = true
      ∨ (principal ≠ existing.owner ∧ some principal ≠ existing.claimant) then
    .error .ShortCodeAttemptUnavailable
  else .ok ()

def authorize_short_code_cancel (principal : RelayPrincipalId)
    (request : ShortCodeAttemptReadRequest) (existing : StoredShortCodeAttempt) :
    Except RelayError Unit :=
  if existing.publish.version = request.version
      ∧ (principal = existing.owner ∨ some principal = existing.claimant) then .ok ()
  else .error .ShortCodeAttemptUnavailable

def decide_short_code_capability_take (principal : RelayPrincipalId)
    (request : ShortCodeCapabilityTakeRequest) (existing : StoredShortCodeAttempt)
    (now_unix_seconds : ℕ) : Except RelayError ShortCodeCapabilityDecision :=
  if existing.publish.version ≠ request.version
      ∨ existing.publish.deadline_unix_seconds ≤ now_unix_seconds
      ∨ existing.cancelled = true
      ∨ some principal ≠ existing.claimant
      ∨ existing.message .CreatorConfirmation = none
      ∨ existing.message .ClaimantConfirmation = none
      ∨ existing.message .Capability = none then .error .ShortCodeAttemptUnavailable
  else match existing.capability_take_id with
    | none => .ok .Consume
    | some take_id =>
      if take_id = request.take_id then .ok .Identical
      else .error .ShortCodeAttemptUnavailable

/-! ## Tables -/

/-- `relay_short_code_attempt`, with the attempt's rows of `relay_short_code_message`. -/
structure ShortCodeAttemptRow where
  publish : ShortCodeAttemptPublishRequest
  owner_principal_id : RelayPrincipalId
  claimant_principal_id : Option RelayPrincipalId
  cancelled : Bool
  capability_consumed : Bool
  capability_take_id : Option ShortCodeCapabilityTakeId
  messages : ShortCodeMessages
  deriving DecidableEq

/-- `relay_short_code_claim_rate`. -/
structure ShortCodeClaimRate where
  locator : ShortCodePairingLocator
  principal_id : RelayPrincipalId
  window_start : ℕ
  attempts : ℕ
  deriving DecidableEq

abbrev ShortCodeClaimRates := Table (ShortCodePairingLocator × RelayPrincipalId × ℕ)
  ShortCodeClaimRate (fun row => (row.locator, row.principal_id, row.window_start))

/-- The short-code tables; attempt identifiers and locators are both unique. -/
structure ShortCodeStore where
  attempts : Table ShortCodePairingAttemptId ShortCodeAttemptRow (·.publish.attempt_id)
  locators : (attempts.rows.map (·.publish.locator)).Nodup
  claim_rates : ShortCodeClaimRates

variable (store : ShortCodeStore) (principal : RelayPrincipalId) (now_unix_seconds : ℕ)

namespace ShortCodeStore

def empty : ShortCodeStore := ⟨Table.empty, List.nodup_nil, Table.empty⟩

/-- `UPDATE relay_short_code_attempt … WHERE attempt_id`, which keeps what was published. -/
def update_attempt (attempt_id : ShortCodePairingAttemptId)
    (set : ShortCodeAttemptRow → ShortCodeAttemptRow)
    (hset : ∀ row, (set row).publish = row.publish) : ShortCodeStore where
  attempts := store.attempts.update attempt_id set fun row => by rw [hset]
  locators := by
    have hmap : (store.attempts.update attempt_id set fun row => by rw [hset]).rows.map
        (·.publish.locator) = store.attempts.rows.map (·.publish.locator) := by
      rw [Table.update, List.map_map]
      refine List.map_congr_left fun row _ => ?_
      by_cases h : row.publish.attempt_id = attempt_id <;> simp [h, hset]
    rw [hmap]
    exact store.locators
  claim_rates := store.claim_rates

end ShortCodeStore

/-! ## Statements -/

/-- The start of the window that a time is in. -/
def claim_window : ℕ :=
  now_unix_seconds - now_unix_seconds % SHORT_CODE_CLAIM_WINDOW_SECONDS

def short_code_claim_window : Except RelayError ℕ :=
  to_sql_integer (claim_window now_unix_seconds)

/-- The two `DELETE`s: the expired attempts and the counts of earlier windows. -/
def ShortCodeStore.without_expired (now window : ℕ) : ShortCodeStore where
  attempts := store.attempts.delete fun row => row.publish.deadline_unix_seconds ≤ now
  locators := store.locators.sublist (store.attempts.delete_sublist.map _)
  claim_rates := store.claim_rates.delete fun row => row.window_start < window

def cleanup_short_code_state : Except RelayError ShortCodeStore := do
  let now ← to_sql_integer now_unix_seconds
  let window ← short_code_claim_window now_unix_seconds
  pure (store.without_expired now window)

def active_short_code_counts : Except RelayError (ℕ × ℕ) := do
  let now ← to_sql_integer now_unix_seconds
  let active := store.attempts.rows.filter fun row =>
    now < row.publish.deadline_unix_seconds ∧ row.cancelled = false
  pure (active.length, (active.filter fun row => row.owner_principal_id = principal).length)

/-- The claims counted for a principal, and for a locator, in a window. -/
def claim_counts (rates : ShortCodeClaimRates) (principal : RelayPrincipalId)
    (locator : ShortCodePairingLocator) (window : ℕ) : ℕ × ℕ :=
  let rows := rates.rows.filter fun row => row.window_start = window
  (((rows.filter fun row => row.principal_id = principal).map (·.attempts)).sum,
    ((rows.filter fun row => row.locator = locator).map (·.attempts)).sum)

def short_code_claim_counts (locator : ShortCodePairingLocator) (now_unix_seconds : ℕ) :
    Except RelayError (ℕ × ℕ) := do
  let window ← short_code_claim_window now_unix_seconds
  pure (claim_counts store.claim_rates principal locator window)

/-- The column's `CHECK` keeps a count from one to five. -/
def record_short_code_claim (locator : ShortCodePairingLocator) (now_unix_seconds : ℕ) :
    Except RelayError ShortCodeStore := do
  let window ← short_code_claim_window now_unix_seconds
  let attempts := ((store.claim_rates.get? (locator, principal, window)).map (·.attempts)).getD 0
  require (attempts + 1 ≤ 5) (.StorageFailure "short-code claim rate update")
  pure { store with
    claim_rates := store.claim_rates.put ⟨locator, principal, window, attempts + 1⟩ }

/-- The row of a new attempt. -/
def ShortCodeAttemptRow.new (request : ShortCodeAttemptPublishRequest) : ShortCodeAttemptRow :=
  ⟨request, principal, none, false, false, none, Table.empty⟩

/-- `INSERT INTO relay_short_code_attempt`. -/
def insert_short_code_attempt (request : ShortCodeAttemptPublishRequest) :
    Except RelayError ShortCodeStore := do
  let _ ← to_sql_integer request.deadline_unix_seconds
  match h : store.attempts.insert? (ShortCodeAttemptRow.new principal request) with
  | none => .error (.StorageFailure "short-code attempt insert")
  | some attempts =>
    if hlocator : request.locator ∉ store.attempts.rows.map (·.publish.locator) then
      pure { store with
        attempts
        locators := by
          rw [(Table.insert?_iff.1 h).2, List.map_append, List.map_singleton,
            List.nodup_append]
          refine ⟨store.locators, List.nodup_singleton _, ?_⟩
          rintro _ hmem _ hnew rfl
          rw [List.mem_singleton] at hnew
          exact hlocator (hnew ▸ hmem) }
    else .error (.StorageFailure "short-code attempt insert")

/-- The two statements of `update_short_code_claim`: the claimant where there is none, and
its credential request. -/
def update_short_code_claim (attempt_id : ShortCodePairingAttemptId) (claimant : RelayPrincipalId)
    (payload : ShortCodePayload) : Except RelayError ShortCodeStore := do
  let row ← some_or (store.attempts.get? attempt_id)
    (.StorageFailure "short-code claimant outcome")
  require (row.claimant_principal_id = none) (.StorageFailure "short-code claimant outcome")
  let messages ← some_or (row.messages.insert? ⟨.CredentialRequest, payload⟩)
    (.StorageFailure "short-code credential request insert")
  pure (store.update_attempt attempt_id
    (fun row => { row with claimant_principal_id := some claimant, messages }) fun _ => rfl)

/-- `INSERT INTO relay_short_code_message`. -/
def insert_short_code_message (request : ShortCodeAttemptMessageRequest) :
    Except RelayError ShortCodeStore := do
  let row ← some_or (store.attempts.get? request.attempt_id)
    (.StorageFailure "short-code message insert")
  let messages ← some_or (row.messages.insert? ⟨request.stage, request.payload⟩)
    (.StorageFailure "short-code message insert")
  pure (store.update_attempt request.attempt_id (fun row => { row with messages }) fun _ => rfl)

/-- One message row of `load_short_code_attempt`. -/
def load_short_code_message (claimant : Option RelayPrincipalId)
    (stored : StoredShortCodeAttempt) (message : ShortCodeRelayMessage) :
    Except RelayError StoredShortCodeAttempt :=
  if message.stage = .CredentialRequest then do
    let claimant ← some_or claimant .InvalidStoredData
    stored.set_claim claimant message.payload
  else stored.insert_message message.stage message.payload

/-- The stored attempt of a row; a row whose columns disagree is invalid. -/
def decode_short_code_attempt (row : ShortCodeAttemptRow) :
    Except RelayError StoredShortCodeAttempt := do
  require (row.capability_consumed = row.capability_take_id.isSome) .InvalidStoredData
  let stored ← row.messages.in_order.foldlM (load_short_code_message row.claimant_principal_id)
    (StoredShortCodeAttempt.new row.owner_principal_id row.publish)
  require (row.claimant_principal_id.isSome = (stored.message .CredentialRequest).isSome)
    .InvalidStoredData
  pure { stored with cancelled := row.cancelled, capability_take_id := row.capability_take_id }

/-- The attempt with the locator or the identifier; two different ones conflict. -/
def load_short_code_attempt (locator : Option ShortCodePairingLocator)
    (attempt_id : Option ShortCodePairingAttemptId) :
    Except RelayError (Option StoredShortCodeAttempt) :=
  match store.attempts.rows.filter (fun row => some row.publish.locator = locator
      ∨ some row.publish.attempt_id = attempt_id) with
  | [] => .ok none
  | [row] => (decode_short_code_attempt row).map some
  | _ => .error .ShortCodeAttemptConflict

/-- What a participant sees: every stage but the capability. -/
def short_code_snapshot (stored : StoredShortCodeAttempt) :
    Except RelayError ShortCodeAttemptSnapshot :=
  (ShortCodeAttemptSnapshot.new stored.publish.version stored.publish.attempt_id
    stored.publish.deadline_unix_seconds stored.cancelled stored.capability_consumed
    (stored.messages.in_order.filter fun message => message.stage ≠ .Capability)).mapError .Domain

/-! ## Calls -/

inductive ShortCodeAttemptPublishOutcome
  | Published
  | AlreadyPublished
  deriving DecidableEq

inductive ShortCodeAttemptMessageOutcome
  | Published
  | AlreadyPublished
  deriving DecidableEq

def publish_short_code_attempt (request : ShortCodeAttemptPublishRequest) (now_unix_seconds : ℕ) :
    Except RelayError ShortCodeAttemptPublishOutcome × ShortCodeStore := transaction store do
  require (now_unix_seconds < request.deadline_unix_seconds) .ExpiredShortCodeAttempt
  let store ← cleanup_short_code_state store now_unix_seconds
  let existing ← load_short_code_attempt store (some request.locator) (some request.attempt_id)
  let counts ← active_short_code_counts store principal now_unix_seconds
  let decision ← decide_short_code_publish principal request existing now_unix_seconds
    counts.1 counts.2
  match decision with
  | .Identical => pure (.AlreadyPublished, store)
  | .Insert => do
    let store ← insert_short_code_attempt store principal request
    pure (.Published, store)

/-- A refusal that is counted: unavailable, with room under both limits. -/
def claim_is_counted (error : RelayError) (counts : ℕ × ℕ) : Prop :=
  error = .ShortCodeAttemptUnavailable
    ∧ counts.1 < MAX_SHORT_CODE_CLAIMS_PER_PRINCIPAL_WINDOW
    ∧ counts.2 < MAX_SHORT_CODE_CLAIMS_PER_LOCATOR_WINDOW

instance (error : RelayError) (counts : ℕ × ℕ) : Decidable (claim_is_counted error counts) :=
  inferInstanceAs (Decidable (_ ∧ _))

/-- What a claim does to the attempt it found. -/
def apply_short_code_claim (request : ShortCodeAttemptClaimRequest) (now_unix_seconds : ℕ)
    (existing : Option StoredShortCodeAttempt) :
    ShortCodeClaimDecision → Except RelayError ShortCodeStore
  | .Identical => .ok store
  | .Claim => do
    let store ← record_short_code_claim store principal request.locator now_unix_seconds
    let attempt ← some_or existing .ShortCodeAttemptUnavailable
    update_short_code_claim store attempt.publish.attempt_id principal request.payload

/-- The transaction of a claim: what it commits, with the error it returns when the
refusal is counted. -/
def claim_transaction (request : ShortCodeAttemptClaimRequest) (now_unix_seconds : ℕ) :
    Except RelayError (Except RelayError ShortCodeAttemptSnapshot × ShortCodeStore) := do
  let store ← cleanup_short_code_state store now_unix_seconds
  let existing ← load_short_code_attempt store (some request.locator) none
  let counts ← short_code_claim_counts store principal request.locator now_unix_seconds
  match decide_short_code_claim principal request existing now_unix_seconds counts.1 counts.2 with
  | .error error =>
    if claim_is_counted error counts then do
      let store ← record_short_code_claim store principal request.locator now_unix_seconds
      pure (.error error, store)
    else .error error
  | .ok decision => do
    let store ← apply_short_code_claim store principal request now_unix_seconds existing decision
    let attempt ← some_or existing .ShortCodeAttemptUnavailable
    let stored ← load_short_code_attempt store none (some attempt.publish.attempt_id)
    let stored ← some_or stored .InvalidStoredData
    let snapshot ← short_code_snapshot stored
    pure (.ok snapshot, store)

def claim_short_code_attempt (request : ShortCodeAttemptClaimRequest) (now_unix_seconds : ℕ) :
    Except RelayError ShortCodeAttemptSnapshot × ShortCodeStore :=
  match claim_transaction store principal request now_unix_seconds with
  | .ok committed => committed
  | .error error => (.error error, store)

/-- Every call that names an attempt cleans up and loads it. -/
def load_named_short_code_attempt (attempt_id : ShortCodePairingAttemptId) (now_unix_seconds : ℕ) :
    Except RelayError (StoredShortCodeAttempt × ShortCodeStore) := do
  let store ← cleanup_short_code_state store now_unix_seconds
  let existing ← load_short_code_attempt store none (some attempt_id)
  let existing ← some_or existing .ShortCodeAttemptUnavailable
  pure (existing, store)

def publish_short_code_message (request : ShortCodeAttemptMessageRequest) (now_unix_seconds : ℕ) :
    Except RelayError ShortCodeAttemptMessageOutcome × ShortCodeStore := transaction store do
  let (existing, store) ← load_named_short_code_attempt store request.attempt_id now_unix_seconds
  let decision ← decide_short_code_message principal request existing now_unix_seconds
  match decision with
  | .Identical => pure (.AlreadyPublished, store)
  | .Insert => do
    let store ← insert_short_code_message store request
    pure (.Published, store)

def read_short_code_attempt (request : ShortCodeAttemptReadRequest) (now_unix_seconds : ℕ) :
    Except RelayError ShortCodeAttemptSnapshot × ShortCodeStore := transaction store do
  let (stored, store) ← load_named_short_code_attempt store request.attempt_id now_unix_seconds
  authorize_short_code_read principal request stored now_unix_seconds
  let snapshot ← short_code_snapshot stored
  pure (snapshot, store)

def cancel_short_code_attempt (request : ShortCodeAttemptReadRequest) (now_unix_seconds : ℕ) :
    Except RelayError Unit × ShortCodeStore := transaction store do
  let (stored, store) ← load_named_short_code_attempt store request.attempt_id now_unix_seconds
  authorize_short_code_cancel principal request stored
  pure ((), store.update_attempt request.attempt_id (fun row => { row with cancelled := true })
    fun _ => rfl)

/-- The `UPDATE` of a first take, which changes one row that is not consumed. -/
def consume_short_code_capability (request : ShortCodeCapabilityTakeRequest) :
    Except RelayError ShortCodeStore := do
  let row ← some_or (store.attempts.get? request.attempt_id)
    (.StorageFailure "short-code capability outcome")
  require (row.capability_consumed = false ∧ row.capability_take_id = none)
    (.StorageFailure "short-code capability outcome")
  pure (store.update_attempt request.attempt_id (fun row =>
    { row with capability_consumed := true, capability_take_id := some request.take_id })
    fun _ => rfl)

def take_short_code_capability (request : ShortCodeCapabilityTakeRequest) (now_unix_seconds : ℕ) :
    Except RelayError ShortCodePayload × ShortCodeStore := transaction store do
  let (stored, store) ← load_named_short_code_attempt store request.attempt_id now_unix_seconds
  let decision ← decide_short_code_capability_take principal request stored now_unix_seconds
  let payload ← some_or (stored.message .Capability) .InvalidStoredData
  match decision with
  | .Identical => pure (payload, store)
  | .Consume => do
    let store ← consume_short_code_capability store request
    pure (payload, store)

end Konclave.Relay
