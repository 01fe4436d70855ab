/-
What a short-code call does to the stored attempts.

A row is consistent when its columns agree with each other and its stages are stored in
their order; every row a run stores is. On consistent rows loading never fails, and each
call reads back as one case: nothing changed, or one attempt made one step of the
exchange.
-/
import Konclave.Relay.ShortCode

set_option autoImplicit false

namespace Konclave.Relay

open Protobuf Domain ShortCodeStore ShortCodeAttemptRow Table ShortCodeMessages List

/-! ## Messages in order

Messages are read by stage, and a stage is written once. -/

variable (messages : ShortCodeMessages)

namespace ShortCodeMessages

theorem in_order_sorted :
    messages.in_order.Pairwise (fun x y => x.stage.number < y.stage.number) := by
  refine List.Pairwise.filterMap messages.get? ?_ ShortCodeRelayStage.all_sorted
  intro x y hlt x' hx y' hy
  rw [key_of_get? hx, key_of_get? hy]
  exact hlt

theorem mem_in_order {messages : ShortCodeMessages} {message : ShortCodeRelayMessage} :
    message ∈ messages.in_order ↔ messages.get? message.stage = some message := by
  rw [in_order, mem_filterMap]
  constructor
  · rintro ⟨stage, -, h⟩
    rwa [key_of_get? h]
  · intro h
    exact ⟨message.stage, ShortCodeRelayStage.mem_all _, h⟩

theorem in_order_nodup : (messages.in_order.map (·.stage)).Nodup := by
  refine pairwise_map.2 (messages.in_order_sorted.imp fun hlt heq => ?_)
  rw [heq] at hlt
  exact Nat.lt_irrefl _ hlt

theorem in_order_length : messages.in_order.length ≤ MAX_SHORT_CODE_RELAY_STAGES :=
  length_filterMap_le _ _

/-- The same stages, held in their order. -/
def sorted : ShortCodeMessages :=
  ⟨messages.in_order, messages.in_order_nodup⟩

theorem get?_sorted (stage : ShortCodeRelayStage) :
    messages.sorted.get? stage = messages.get? stage := by
  cases h : messages.get? stage with
  | none =>
    rw [get?_eq_none_iff]
    rintro message hmem rfl
    rw [mem_in_order.1 hmem] at h
    cases h
  | some message =>
    have hstage : message.stage = stage := key_of_get? h
    rw [get?_iff]
    exact ⟨mem_in_order.2 (by rwa [hstage]), hstage⟩

end ShortCodeMessages

/-! ## Rows

A consistent row decodes to the attempt it stores. -/

namespace ShortCodeAttemptRow

def message (row : ShortCodeAttemptRow) (stage : ShortCodeRelayStage) : Option ShortCodePayload :=
  (row.messages.get? stage).map (·.payload)

/-- The attempt that loading a consistent row yields. -/
def stored (row : ShortCodeAttemptRow) : StoredShortCodeAttempt :=
  ⟨row.owner_principal_id, row.claimant_principal_id, row.publish, row.messages.sorted,
    row.cancelled, row.capability_take_id⟩

@[simp] theorem message_stored (row : ShortCodeAttemptRow) (stage : ShortCodeRelayStage) :
    row.stored.message stage = row.message stage := by
  rw [StoredShortCodeAttempt.message, stored, get?_sorted, message]

/-- The columns agree, the claimant is another principal than the owner, and the stages
are stored in their order. -/
structure Consistent (row : ShortCodeAttemptRow) : Prop where
  consumed : row.capability_consumed = row.capability_take_id.isSome
  claimed : row.claimant_principal_id.isSome = (row.message .CredentialRequest).isSome
  claimant_ne : row.claimant_principal_id ≠ some row.owner_principal_id
  ordered : ∀ stage, (row.message stage).isSome →
    ∀ earlier ∈ stage_dependencies stage, (row.message earlier).isSome

end ShortCodeAttemptRow

/-- Loading messages one after the other collects them, and takes the claimant with the
credential request. -/
theorem load_short_code_messages {claimant : Option RelayPrincipalId}
    {attempt : StoredShortCodeAttempt} {messages : List ShortCodeRelayMessage}
    (hnodup : ((attempt.messages.rows ++ messages).map (·.stage)).Nodup)
    (hclt : ShortCodeRelayStage.CredentialRequest ∈ messages.map (·.stage) →
      attempt.claimant = none ∧ claimant.isSome) :
    messages.foldlM (load_short_code_message claimant) attempt = .ok { attempt with
      messages := ⟨attempt.messages.rows ++ messages, hnodup⟩
      claimant := if ShortCodeRelayStage.CredentialRequest ∈ messages.map (·.stage)
        then claimant else attempt.claimant } := by
  -- the stages loaded so far are those of `attempt`; the rest are distinct from them
  induction messages generalizing attempt with
  | nil => simp [pure, Except.pure]
  | cons message messages ih =>
    have hfresh : attempt.messages.get? message.stage = none := by
      rw [get?_eq_none_iff]
      intro other hother heq
      rw [map_append, nodup_append] at hnodup
      exact hnodup.2.2 _ (mem_map_of_mem hother) _ (mem_map_of_mem mem_cons_self) heq
    obtain ⟨table, htable⟩ := insert?_of_get?_none hfresh
    have hrows : table.rows = attempt.messages.rows ++ [message] := (insert?_iff.1 htable).2
    have happend : attempt.messages.rows ++ message :: messages = table.rows ++ messages := by
      rw [hrows, append_assoc, singleton_append]
    have hrest : ((table.rows ++ messages).map (·.stage)).Nodup := happend ▸ hnodup
    rw [foldlM_cons, load_short_code_message]
    by_cases hstage : message.stage = .CredentialRequest
    · obtain ⟨hnone, hsome⟩ := hclt (by rw [map_cons, hstage]; exact mem_cons_self)
      obtain ⟨principal, rfl⟩ := Option.isSome_iff_exists.1 hsome
      have hmsg : (⟨.CredentialRequest, message.payload⟩ : ShortCodeRelayMessage) = message := by
        rw [← hstage]
      have hlater : ShortCodeRelayStage.CredentialRequest ∉ messages.map (·.stage) := by
        rw [map_append, nodup_append, map_cons, nodup_cons] at hnodup
        rw [← hstage]
        exact hnodup.2.1.1
      rw [if_pos hstage, some_or_bind rfl, StoredShortCodeAttempt.set_claim, require_bind hnone,
        hmsg, some_or_bind htable, pure_bind, ih hrest (fun h => absurd h hlater)]
      simp only [hlater, if_false, map_cons, hstage, mem_cons, true_or, if_true, happend]
    · have hloaded := @ih { attempt with messages := table } hrest
        (fun h => hclt (mem_cons_of_mem _ h))
      rw [if_neg hstage, StoredShortCodeAttempt.insert_message, require_bind hstage,
        some_or_bind htable, pure_bind, hloaded]
      simp only [map_cons, mem_cons, Ne.symm hstage, false_or, happend]

variable {row : ShortCodeAttemptRow} {α : Type} {aid : ShortCodePairingAttemptId}
  {request : ShortCodeAttemptClaimRequest}

theorem decode_short_code_attempt_of_consistent (h : row.Consistent) :
    decode_short_code_attempt row = .ok row.stored := by
  have hmem : ShortCodeRelayStage.CredentialRequest ∈ row.messages.in_order.map (·.stage)
      ↔ row.claimant_principal_id.isSome = true := by
    rw [h.claimed, message, Option.isSome_map, mem_map]
    constructor
    · rintro ⟨message, hmsg, hstage⟩
      rw [← hstage, mem_in_order.1 hmsg]
      rfl
    · intro hsome
      obtain ⟨message, hmsg⟩ := Option.isSome_iff_exists.1 hsome
      have hstage := key_of_get? hmsg
      exact ⟨message, mem_in_order.2 (by rwa [hstage]), hstage⟩
  have hnodup : ((([] : List ShortCodeRelayMessage) ++ row.messages.in_order).map
      (·.stage)).Nodup := row.messages.in_order_nodup
  rw [decode_short_code_attempt, require_bind h.consumed,
    @load_short_code_messages _ (StoredShortCodeAttempt.new row.owner_principal_id row.publish) _
      hnodup (fun hin => ⟨rfl, hmem.1 hin⟩), ok_bind]
  have hclt : (if ShortCodeRelayStage.CredentialRequest ∈ row.messages.in_order.map (·.stage)
      then row.claimant_principal_id else none) = row.claimant_principal_id := by
    by_cases hin : ShortCodeRelayStage.CredentialRequest ∈ row.messages.in_order.map (·.stage)
    · rw [if_pos hin]
    · rw [if_neg hin]
      rw [hmem, Bool.not_eq_true, Option.isSome_eq_false_iff, Option.isNone_iff_eq_none] at hin
      exact hin.symm
  rw [require_bind]
  · simp only [StoredShortCodeAttempt.new, hclt]
    rfl
  · rw [h.claimed]
    exact congrArg Option.isSome (message_stored row .CredentialRequest).symm

/-! ## Finding an attempt

Locators and identifiers each name one row. -/

/-- Where at most one element satisfies `p`, filtering finds it. -/
theorem filter_eq_find? {l : List α} {p : α → Bool} (hnodup : l.Nodup)
    (hunique : ∀ x ∈ l, ∀ y ∈ l, p x = true → p y = true → x = y) :
    l.filter p = (l.find? p).toList := by
  induction l with
  | nil => rfl
  | cons x l ih =>
    rw [nodup_cons] at hnodup
    cases hp : p x with
    | true =>
      have hrest : l.filter p = [] := by
        rw [filter_eq_nil_iff]
        intro y hy hpy
        have heq := hunique x mem_cons_self y (mem_cons_of_mem _ hy) hp hpy
        exact hnodup.1 (heq ▸ hy)
      rw [filter_cons_of_pos hp, find?_cons_of_pos hp, hrest]
      rfl
    | false =>
      rw [filter_cons_of_neg (by simp [hp]), find?_cons_of_neg (by simp [hp])]
      exact ih hnodup.2 fun x hx y hy =>
        hunique x (mem_cons_of_mem _ hx) y (mem_cons_of_mem _ hy)

variable {result : Except RelayError α × ShortCodeStore} {snapshot : ShortCodeAttemptSnapshot}
  {locator : ShortCodePairingLocator} {payload : ShortCodePayload} {store store' : ShortCodeStore}

namespace ShortCodeStore

/-- Every stored row is consistent. -/
def WellFormed (store : ShortCodeStore) : Prop := ∀ row ∈ store.attempts.rows, row.Consistent

/-- The attempt that holds a locator. -/
def at_locator (store : ShortCodeStore) (locator : ShortCodePairingLocator) :
    Option ShortCodeAttemptRow :=
  store.attempts.rows.find? fun row => row.publish.locator = locator

theorem rows_nodup (store : ShortCodeStore) : store.attempts.rows.Nodup :=
  store.attempts.nodup.of_map _

theorem at_locator_eq_some : store.at_locator locator = some row
    ↔ row ∈ store.attempts.rows ∧ row.publish.locator = locator :=
  find?_iff fun _ hx _ hy hlx hly =>
    inj_on_of_nodup_map store.locators hx hy (hlx.trans hly.symm)

/-- Loading one consistent row, or none. -/
theorem load_of_find? (h : store.WellFormed)
    {locator : Option ShortCodePairingLocator} {aid : Option ShortCodePairingAttemptId}
    (hunique : ∀ x ∈ store.attempts.rows, ∀ y ∈ store.attempts.rows,
      some x.publish.locator = locator ∨ some x.publish.attempt_id = aid →
      some y.publish.locator = locator ∨ some y.publish.attempt_id = aid → x = y) :
    load_short_code_attempt store locator aid = .ok
    ((store.attempts.rows.find? fun row => some row.publish.locator = locator
      ∨ some row.publish.attempt_id = aid).map (·.stored)) := by
  rw [load_short_code_attempt, filter_eq_find? store.rows_nodup fun x hx y hy hpx hpy =>
    hunique x hx y hy (of_decide_eq_true hpx) (of_decide_eq_true hpy)]
  cases hfind : store.attempts.rows.find? fun row => some row.publish.locator = locator
      ∨ some row.publish.attempt_id = aid with
  | none => rfl
  | some row =>
    have hcons := h row (mem_of_find?_eq_some hfind)
    rw [Option.toList_some, Option.map_some]
    show (decode_short_code_attempt row).map some = _
    rw [decode_short_code_attempt_of_consistent hcons]
    rfl

theorem load_by_id (h : store.WellFormed) :
    load_short_code_attempt store none (some aid)
    = .ok ((store.attempts.get? aid).map (·.stored)) := by
  rw [load_of_find? h]
  · simp only [reduceCtorEq, Option.some.injEq, false_or]
    rfl
  · intro x hx y hy hpx hpy
    simp only [reduceCtorEq, Option.some.injEq, false_or] at hpx hpy
    exact store.attempts.eq_of_key_eq hx hy (hpx.trans hpy.symm)

theorem load_by_locator (h : store.WellFormed) :
    load_short_code_attempt store (some locator) none
    = .ok ((store.at_locator locator).map (·.stored)) := by
  rw [load_of_find? h]
  · simp only [reduceCtorEq, Option.some.injEq, or_false]
    rfl
  · intro x hx y hy hpx hpy
    simp only [reduceCtorEq, Option.some.injEq, or_false] at hpx hpy
    exact inj_on_of_nodup_map store.locators hx hy (hpx.trans hpy.symm)

/-! ## Cleaning up

Every call begins by removing what has expired. -/

/-- The store as a call finds it. -/
def at_time (store : ShortCodeStore) (now : ℕ) : ShortCodeStore :=
  store.without_expired now (claim_window now)

theorem get?_at_time_eq_some {now : ℕ} :
    (store.at_time now).attempts.get? aid = some row
    ↔ store.attempts.get? aid = some row ∧ now < row.publish.deadline_unix_seconds := by
  have hget : (store.at_time now).attempts.get? aid = _ := get?_delete _ _ _
  rw [hget, Option.filter_eq_some_iff]
  simp

theorem WellFormed.at_time (h : store.WellFormed) (now : ℕ) :
    (store.at_time now).WellFormed :=
  fun row hrow => h row (mem_of_mem_filter hrow)

theorem cleanup_eq (store : ShortCodeStore) (now : ℕ) : cleanup_short_code_state store now
    = if now ≤ I64_MAX then .ok (store.at_time now) else .error .SequenceExhausted := by
  rw [cleanup_short_code_state, short_code_claim_window, to_sql_integer]
  split
  · rename_i h
    have hwin : claim_window now ≤ I64_MAX := Nat.le_trans (Nat.sub_le _ _) h
    rw [ok_bind, to_sql_integer, if_pos hwin, ok_bind]
    rfl
  · rfl

theorem cleanup_eq_ok {store cleaned : ShortCodeStore} {now : ℕ} :
    cleanup_short_code_state store now = .ok cleaned
    ↔ now ≤ I64_MAX ∧ cleaned = store.at_time now := by
  rw [cleanup_eq]
  split
  · rename_i h
    rw [Except.ok.injEq, eq_comm, and_iff_right h]
  · rename_i h
    constructor
    · rintro ⟨⟩
    · rintro ⟨hle, _⟩
      exact absurd hle h

end ShortCodeStore

/-! ## Calls -/

/-- A call of the repository, with its principal and clock reading. -/
inductive ShortCodeCall
  | publish (principal : RelayPrincipalId) (request : ShortCodeAttemptPublishRequest) (now : ℕ)
  | claim (principal : RelayPrincipalId) (request : ShortCodeAttemptClaimRequest) (now : ℕ)
  | message (principal : RelayPrincipalId) (request : ShortCodeAttemptMessageRequest) (now : ℕ)
  | read (principal : RelayPrincipalId) (request : ShortCodeAttemptReadRequest) (now : ℕ)
  | cancel (principal : RelayPrincipalId) (request : ShortCodeAttemptReadRequest) (now : ℕ)
  | take (principal : RelayPrincipalId) (request : ShortCodeCapabilityTakeRequest) (now : ℕ)
  deriving DecidableEq

inductive ShortCodeReply
  | published (outcome : ShortCodeAttemptPublishOutcome)
  | snapshot (snapshot : ShortCodeAttemptSnapshot)
  | message (outcome : ShortCodeAttemptMessageOutcome)
  | cancelled
  | capability (payload : ShortCodePayload)
  deriving DecidableEq

/-- A call's answer under a reply constructor. -/
def reply {α : Type} (f : α → ShortCodeReply) (result : Except RelayError α × ShortCodeStore) :
    Except RelayError ShortCodeReply × ShortCodeStore :=
  (result.1.map f, result.2)

theorem reply_eq {f : α → ShortCodeReply} {answer : Except RelayError ShortCodeReply}
    (h : reply f result = (answer, store)) :
    (∃ a, result = (.ok a, store) ∧ answer = .ok (f a))
    ∨ (∃ e, result = (.error e, store) ∧ answer = .error e) := by
  obtain ⟨value, store'⟩ := result
  cases value with
  | ok a =>
    cases h
    exact .inl ⟨a, rfl, rfl⟩
  | error e =>
    cases h
    exact .inr ⟨e, rfl, rfl⟩

theorem reply_eq_ok {f : α → ShortCodeReply} {answer : ShortCodeReply}
    (h : reply f result = (.ok answer, store)) : ∃ a, result = (.ok a, store) ∧ f a = answer := by
  rcases reply_eq h with ⟨a, hres, hans⟩ | ⟨e, -, hans⟩
  · exact ⟨a, hres, (Except.ok.inj hans).symm⟩
  · cases hans

def ShortCodeCall.run (store : ShortCodeStore) :
    ShortCodeCall → Except RelayError ShortCodeReply × ShortCodeStore
  | .publish principal request now =>
    reply .published (publish_short_code_attempt store principal request now)
  | .claim principal request now =>
    reply .snapshot (claim_short_code_attempt store principal request now)
  | .message principal request now =>
    reply .message (publish_short_code_message store principal request now)
  | .read principal request now =>
    reply .snapshot (read_short_code_attempt store principal request now)
  | .cancel principal request now =>
    reply (fun _ => .cancelled) (cancel_short_code_attempt store principal request now)
  | .take principal request now =>
    reply .capability (take_short_code_capability store principal request now)

/-! ## What a successful call found

One inversion for each call, with the row it found and the row it left. -/

section

variable {principal : RelayPrincipalId} {now : ℕ}

theorem load_named_eq_ok (h : store.WellFormed) {result : StoredShortCodeAttempt × ShortCodeStore}
    (hload : load_named_short_code_attempt store aid now = .ok result) :
    ∃ row, (store.at_time now).attempts.get? aid = some row
    ∧ result = (row.stored, store.at_time now) := by
  obtain ⟨cleaned, hcleaned, hrest⟩ := bind_ok.1 hload
  obtain ⟨-, rfl⟩ := cleanup_eq_ok.1 hcleaned
  rw [load_by_id (h.at_time now), ok_bind, some_or_ok] at hrest
  obtain ⟨stored, hstored, hres⟩ := hrest
  obtain ⟨row, hrow, rfl⟩ := Option.map_eq_some_iff.1 hstored
  cases hres
  exact ⟨row, hrow, rfl⟩

/-- A publication finds its attempt published, or adds it. -/
theorem publish_eq_ok {request : ShortCodeAttemptPublishRequest}
    {outcome : ShortCodeAttemptPublishOutcome}
    (h : publish_short_code_attempt store principal request now = (.ok outcome, store')) :
    store'.claim_rates = (store.at_time now).claim_rates
    ∧ ((outcome = .AlreadyPublished ∧ store' = store.at_time now) ∨ (outcome = .Published
        ∧ store'.attempts.rows = (store.at_time now).attempts.rows
          ++ [new principal request])) := by
  have h := transaction_ok h
  rw [require_ok] at h
  obtain ⟨-, h⟩ := h
  obtain ⟨cleaned, hcleaned, h⟩ := bind_ok.1 h
  obtain ⟨-, rfl⟩ := cleanup_eq_ok.1 hcleaned
  obtain ⟨existing, -, h⟩ := bind_ok.1 h
  obtain ⟨counts, -, h⟩ := bind_ok.1 h
  obtain ⟨decision, -, h⟩ := bind_ok.1 h
  cases decision with
  | Identical =>
    cases h
    exact ⟨rfl, .inl ⟨rfl, rfl⟩⟩
  | Insert =>
    obtain ⟨inserted, hins, h⟩ := bind_ok.1 h
    cases h
    rw [insert_short_code_attempt] at hins
    obtain ⟨_, -, hins⟩ := bind_ok.1 hins
    split at hins
    · cases hins
    · rename_i attempts hattempts
      split at hins
      · cases hins
        exact ⟨rfl, .inr ⟨rfl, (insert?_iff.1 hattempts).2⟩⟩
      · cases hins

/-- A claim is admitted as the claimant's retry, or as the first of an open attempt. -/
theorem decide_short_code_claim_eq_ok {attempt : StoredShortCodeAttempt}
    {principal_count locator_count : ℕ} {decision : ShortCodeClaimDecision}
    (h : decide_short_code_claim principal request (some attempt) now principal_count
      locator_count = .ok decision) : attempt.publish.version = request.version
    ∧ ((decision = .Identical ∧ attempt.claimed_by principal request)
      ∨ (decision = .Claim ∧ attempt.cancelled = false ∧ attempt.claimant = none
        ∧ attempt.owner ≠ principal)) := by
  rw [decide_short_code_claim] at h
  obtain ⟨hver, h⟩ := ite_ok.1 h
  simp only [Option.mem_def, Option.some.injEq, exists_eq_left', Decidable.not_not, ne_eq] at hver
  refine ⟨hver, ?_⟩
  split at h
  · rename_i hretry
    simp only [Option.mem_def, Option.some.injEq, exists_eq_left'] at hretry
    cases h
    exact .inl ⟨rfl, hretry⟩
  · obtain ⟨-, h⟩ := ite_ok.1 h
    obtain ⟨-, h⟩ := ite_ok.1 h
    obtain ⟨hopen, h⟩ := ite_ok.1 h
    cases h
    simp only [not_or, Bool.not_eq_true, Option.isSome_eq_false_iff,
      Option.isNone_iff_eq_none] at hopen
    exact .inr ⟨rfl, hopen.2.1, hopen.2.2.2.2, hopen.2.2.2.1⟩

theorem record_short_code_claim_attempts
    (h : record_short_code_claim store principal locator now = .ok store') :
    store'.attempts = store.attempts := by
  rw [record_short_code_claim] at h
  obtain ⟨_, -, h⟩ := bind_ok.1 h
  obtain ⟨-, h⟩ := require_ok.1 h
  cases h
  rfl

/-- Changing the one row that a statement found. -/
theorem ShortCodeStore.get?_update_found (h : store.attempts.get? aid = some row)
    (set : ShortCodeAttemptRow → ShortCodeAttemptRow)
    (hset : ∀ row, (set row).publish = row.publish) (other : ShortCodePairingAttemptId) :
    (store.update_attempt aid set hset).attempts.get? other
    = if other = aid then some (set row) else store.attempts.get? other := by
  refine (get?_update _ _ _ (fun row => by rw [hset]) _).trans ?_
  by_cases heq : other = aid
  · rw [if_pos heq, if_pos heq, heq, h, Option.map_some]
  · rw [if_neg heq, if_neg heq]

theorem update_short_code_claim_eq_ok (hrow : store.attempts.get? aid = some row)
    (h : update_short_code_claim store aid principal payload = .ok store') :
    ∃ messages, row.messages.insert? ⟨.CredentialRequest, payload⟩ = some messages
    ∧ ∀ other, store'.attempts.get? other = if other = aid
      then some { row with claimant_principal_id := some principal, messages }
      else store.attempts.get? other := by
  rw [update_short_code_claim, some_or_bind hrow] at h
  obtain ⟨-, h⟩ := require_ok.1 h
  obtain ⟨messages, hmsgs, h⟩ := some_or_ok.1 h
  cases h
  exact ⟨messages, hmsgs, fun other => get?_update_found hrow _ _ other⟩

/-- A claim that succeeded: the claimant's retry, or the first claim of an open attempt. -/
theorem claim_eq_ok (h : store.WellFormed)
    (hclaim : claim_short_code_attempt store principal request now = (.ok snapshot, store')) :
    now ≤ I64_MAX ∧ ∃ row stored, (store.at_time now).at_locator request.locator = some row
    ∧ row.publish.version = request.version ∧ short_code_snapshot stored = .ok snapshot
    ∧ ((store' = store.at_time now ∧ row.stored.claimed_by principal request)
      ∨ (row.cancelled = false ∧ row.claimant_principal_id = none
        ∧ row.owner_principal_id ≠ principal
        ∧ ∃ messages, row.messages.insert? ⟨.CredentialRequest, request.payload⟩ = some messages
          ∧ ∀ other, store'.attempts.get? other = if other = row.publish.attempt_id
            then some { row with claimant_principal_id := some principal, messages }
            else (store.at_time now).attempts.get? other)) := by
  rw [claim_short_code_attempt] at hclaim
  split at hclaim
  · rename_i committed hbody
    subst hclaim
    rw [claim_transaction] at hbody
    obtain ⟨cleaned, hcleaned, hbody⟩ := bind_ok.1 hbody
    obtain ⟨hnow, rfl⟩ := cleanup_eq_ok.1 hcleaned
    rw [load_by_locator (h.at_time now), ok_bind] at hbody
    obtain ⟨counts, -, hbody⟩ := bind_ok.1 hbody
    split at hbody
    · -- a refusal commits an error, never a snapshot
      split at hbody
      · obtain ⟨_, -, h⟩ := bind_ok.1 hbody
        cases h
      · cases hbody
    · rename_i decision hdcn
      obtain ⟨applied, happlied, hbody⟩ := bind_ok.1 hbody
      obtain ⟨attempt, hatt, hbody⟩ := some_or_ok.1 hbody
      obtain ⟨row, hrow, rfl⟩ := Option.map_eq_some_iff.1 hatt
      obtain ⟨_, -, hbody⟩ := bind_ok.1 hbody
      obtain ⟨stored, -, hbody⟩ := some_or_ok.1 hbody
      obtain ⟨_, hsnap, hbody⟩ := bind_ok.1 hbody
      cases hbody
      rw [hatt] at hdcn happlied
      obtain ⟨hver, hcases⟩ := decide_short_code_claim_eq_ok hdcn
      refine ⟨hnow, row, stored, hrow, hver, hsnap, ?_⟩
      rcases hcases with ⟨rfl, hretry⟩ | ⟨rfl, hcanc, hclt, howner⟩
      · cases happlied
        exact .inl ⟨rfl, hretry⟩
      · obtain ⟨counted, hcounted, happlied⟩ := bind_ok.1 happlied
        rw [some_or_bind rfl] at happlied
        have hattempts := record_short_code_claim_attempts hcounted
        have hget : counted.attempts.get? row.publish.attempt_id = some row := by
          rw [hattempts]
          exact get?_of_mem _ (at_locator_eq_some.1 hrow).1
        obtain ⟨messages, hmsgs, hget'⟩ := update_short_code_claim_eq_ok hget happlied
        rw [hattempts] at hget'
        exact .inr ⟨hcanc, hclt, howner, messages, hmsgs, hget'⟩
  · cases hclaim

/-- A claim that failed left the attempts as they were, or only cleaned up. -/
theorem claim_eq_error {error : RelayError}
    (h : claim_short_code_attempt store principal request now = (.error error, store')) :
    store'.attempts = store.attempts ∨ store'.attempts = (store.at_time now).attempts := by
  rw [claim_short_code_attempt] at h
  split at h
  · rename_i committed hbody
    subst h
    rw [claim_transaction] at hbody
    obtain ⟨cleaned, hcleaned, hbody⟩ := bind_ok.1 hbody
    obtain ⟨-, rfl⟩ := cleanup_eq_ok.1 hcleaned
    obtain ⟨existing, -, hbody⟩ := bind_ok.1 hbody
    obtain ⟨counts, -, hbody⟩ := bind_ok.1 hbody
    split at hbody
    · split at hbody
      · obtain ⟨counted, hcounted, hpure⟩ := bind_ok.1 hbody
        cases hpure
        exact .inr (record_short_code_claim_attempts hcounted)
      · cases hbody
    · obtain ⟨_, -, hbody⟩ := bind_ok.1 hbody
      obtain ⟨_, -, hbody⟩ := some_or_ok.1 hbody
      obtain ⟨_, -, hbody⟩ := bind_ok.1 hbody
      obtain ⟨_, -, hbody⟩ := some_or_ok.1 hbody
      obtain ⟨_, -, hbody⟩ := bind_ok.1 hbody
      cases hbody
  · cases h
    exact .inl rfl

/-- A stage is new for its owner after the stages before it, or it is its owner's retry. -/
theorem message_eq_ok (h : store.WellFormed) {request : ShortCodeAttemptMessageRequest}
    {outcome : ShortCodeAttemptMessageOutcome}
    (hmsg : publish_short_code_message store principal request now = (.ok outcome, store')) :
    store'.claim_rates = (store.at_time now).claim_rates
    ∧ ∃ row, (store.at_time now).attempts.get? request.attempt_id = some row ∧ row.cancelled = false
    ∧ row.stored.stage_owner request.stage = principal
    ∧ ((outcome = .AlreadyPublished ∧ store' = store.at_time now
        ∧ row.message request.stage = some request.payload)
      ∨ (outcome = .Published ∧ stage_dependencies_satisfied row.stored request.stage = true
        ∧ ∃ messages, row.messages.insert? ⟨request.stage, request.payload⟩ = some messages
          ∧ ∀ other, store'.attempts.get? other = if other = request.attempt_id
            then some { row with messages } else (store.at_time now).attempts.get? other)) := by
  have hbody := transaction_ok hmsg
  obtain ⟨_, hload, hbody⟩ := bind_ok.1 hbody
  obtain ⟨row, hrow, rfl⟩ := load_named_eq_ok h hload
  obtain ⟨decision, hdcn, hbody⟩ := bind_ok.1 hbody
  rw [decide_short_code_message] at hdcn
  obtain ⟨hlive, hdcn⟩ := ite_ok.1 hdcn
  simp only [not_or, Bool.not_eq_true] at hlive
  split at hdcn
  · rename_i payload hpay
    split at hdcn
    · rename_i hretry
      cases hdcn
      cases hbody
      rw [message_stored, hretry.1] at hpay
      exact ⟨rfl, row, hrow, hlive.2.2, hretry.2, .inl ⟨rfl, rfl, hpay⟩⟩
    · cases hdcn
  · obtain ⟨-, hdcn⟩ := ite_ok.1 hdcn
    obtain ⟨hstage, hdcn⟩ := ite_ok.1 hdcn
    cases hdcn
    simp only [not_or, Decidable.not_not, ne_eq, Bool.not_eq_false] at hstage
    obtain ⟨inserted, hins, h⟩ := bind_ok.1 hbody
    cases h
    rw [insert_short_code_message, some_or_bind hrow] at hins
    obtain ⟨messages, hmsgs, hins⟩ := some_or_ok.1 hins
    cases hins
    exact ⟨rfl, row, hrow, hlive.2.2, hstage.1, .inr ⟨rfl, hstage.2, messages, hmsgs,
      fun other => get?_update_found hrow _ _ other⟩⟩

theorem read_eq_ok (h : store.WellFormed) {request : ShortCodeAttemptReadRequest}
    (hread : read_short_code_attempt store principal request now = (.ok snapshot, store')) :
    store' = store.at_time now
    ∧ ∃ row, (store.at_time now).attempts.get? request.attempt_id = some row
      ∧ row.cancelled = false ∧ short_code_snapshot row.stored = .ok snapshot := by
  have hbody := transaction_ok hread
  obtain ⟨_, hload, hbody⟩ := bind_ok.1 hbody
  obtain ⟨row, hrow, rfl⟩ := load_named_eq_ok h hload
  obtain ⟨_, hauthorized, hbody⟩ := bind_ok.1 hbody
  obtain ⟨_, hsnap, h⟩ := bind_ok.1 hbody
  cases h
  rw [authorize_short_code_read] at hauthorized
  obtain ⟨hlive, -⟩ := ite_ok.1 hauthorized
  simp only [not_or, Bool.not_eq_true] at hlive
  exact ⟨rfl, row, hrow, hlive.2.2.1, hsnap⟩

theorem cancel_eq_ok (h : store.WellFormed) {request : ShortCodeAttemptReadRequest}
    (hcancel : cancel_short_code_attempt store principal request now = (.ok (), store')) :
    store'.claim_rates = (store.at_time now).claim_rates
    ∧ ∃ row, (store.at_time now).attempts.get? request.attempt_id = some row
    ∧ ∀ other, store'.attempts.get? other = if other = request.attempt_id
      then some { row with cancelled := true }
      else (store.at_time now).attempts.get? other := by
  have hbody := transaction_ok hcancel
  obtain ⟨_, hload, hbody⟩ := bind_ok.1 hbody
  obtain ⟨row, hrow, rfl⟩ := load_named_eq_ok h hload
  obtain ⟨_, -, h⟩ := bind_ok.1 hbody
  cases h
  exact ⟨rfl, row, hrow, fun other => get?_update_found hrow _ _ other⟩

/-- The capability goes to the claimant after both confirmations, under one identifier. -/
theorem take_eq_ok (h : store.WellFormed) {request : ShortCodeCapabilityTakeRequest}
    (htake : take_short_code_capability store principal request now = (.ok payload, store')) :
    store'.claim_rates = (store.at_time now).claim_rates
    ∧ ∃ row, (store.at_time now).attempts.get? request.attempt_id = some row
    ∧ row.cancelled = false ∧ row.claimant_principal_id = some principal
    ∧ (row.message .CreatorConfirmation).isSome ∧ (row.message .ClaimantConfirmation).isSome
    ∧ row.message .Capability = some payload
    ∧ ((row.capability_take_id = some request.take_id ∧ store' = store.at_time now)
      ∨ (row.capability_take_id = none
        ∧ ∀ other, store'.attempts.get? other = if other = request.attempt_id
          then some { row with
            capability_consumed := true
            capability_take_id := some request.take_id }
          else (store.at_time now).attempts.get? other)) := by
  have hbody := transaction_ok htake
  obtain ⟨_, hload, hbody⟩ := bind_ok.1 hbody
  obtain ⟨row, hrow, rfl⟩ := load_named_eq_ok h hload
  obtain ⟨decision, hdcn, hbody⟩ := bind_ok.1 hbody
  obtain ⟨capability, hcap, hbody⟩ := some_or_ok.1 hbody
  rw [message_stored] at hcap
  rw [decide_short_code_capability_take] at hdcn
  obtain ⟨hlive, hdcn⟩ := ite_ok.1 hdcn
  simp only [not_or, Bool.not_eq_true, Decidable.not_not, ne_eq,
    message_stored, ← Option.isSome_iff_ne_none] at hlive
  obtain ⟨-, -, hcanc, hclt, hcreator, hconfirmed, -⟩ := hlive
  split at hdcn
  · rename_i hnone
    cases hdcn
    obtain ⟨consumed, hconsumed, h⟩ := bind_ok.1 hbody
    cases h
    rw [consume_short_code_capability, some_or_bind hrow] at hconsumed
    obtain ⟨-, hconsumed⟩ := require_ok.1 hconsumed
    cases hconsumed
    exact ⟨rfl, row, hrow, hcanc, hclt.symm, hcreator, hconfirmed, hcap,
      .inr ⟨hnone, fun other => get?_update_found hrow _ _ other⟩⟩
  · rename_i take_id hsome
    split at hdcn
    · rename_i heq
      cases hdcn
      cases hbody
      exact ⟨rfl, row, hrow, hcanc, hclt.symm, hcreator, hconfirmed, hcap, .inl ⟨heq ▸ hsome, rfl⟩⟩
    · cases hdcn

end

end Konclave.Relay
