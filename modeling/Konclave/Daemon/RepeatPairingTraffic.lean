/-
Repeat-pairing messages and the profile they arrive at.

The journal of repeat pairings is one of the tables beside the replay ledger, and a
completed message may write to it in the transaction that advances its conversation. Over
every run of the profile store the journal stays sound and every marker of an internal
message has its message, so that two things alone can go wrong: a request that finds no
room keeps its cursor from being completed, and the markers, which no statement prunes,
may come to be more than the profile is opened with.
-/
import Konclave.Daemon.RepeatPairingJournal
import Konclave.Daemon.ReplayGrowth
import Konclave.Daemon.ReplayCalls

set_option autoImplicit false

namespace Konclave.Daemon.Replay

open Domain Cryptographic RemoteEvents FixedBytes

variable {τ : Type} {others : τ × RepeatPairings}

/-! ## The profile

The journal beside the replay ledger, and the step of opening a profile that checks both. -/

/-- The tables beside the ledger are the repeat pairings and the others. -/
def Host.with_repeat_pairings (base : Host τ) : Host (τ × RepeatPairings) where
  suite := base.suite
  derive_request_delivery_identifiers := base.derive_request_delivery_identifiers
  message_length := base.message_length
  transition_length := base.transition_length
  collaboration_policy_operation_reserves_message_id others :=
    base.collaboration_policy_operation_reserves_message_id others.1
  index_collaboration_policy_exchange_in others conversation_id cursor message := do
    let rest ← base.index_collaboration_policy_exchange_in others.1 conversation_id cursor message
    pure (rest, others.2)
  record_repeat_pairing_content_in others conversation_id sender sender_root local_device content
      now := do
    let pairings ← Daemon.record_repeat_pairing_content_in others.2 conversation_id sender
      sender_root local_device content now
    pure (others.1, pairings)

/-- The same profile with a journal that refuses nothing. -/
def Host.with_patient_journal {σ : Type} (host : Host σ) : Host σ :=
  { host with record_repeat_pairing_content_in := fun others _ _ _ _ _ _ => .ok others }

/-- A marker must be of a stored internal message. -/
def verify_internal_application_marker {σ : Type} (store : ReplayStore σ)
    (marker : ConversationId × MessageId) : Except ProfileStoreError Unit := do
  let _ ← some_or (store.conversation.get? marker.1) .Storage
  let history ← load_history_record store marker.1 marker.2
  let history ← some_or history .CorruptData
  require (history.message.content.is_internal = true) .CorruptData

def verify_internal_application_markers {σ : Type} (store : ReplayStore σ) :
    Except ProfileStoreError Unit := do
  require (store.internal_application_message.length ≤ MAX_INTERNAL_REPEAT_PAIRING_MESSAGES)
    .CorruptData
  (store.internal_application_message.mergeSort fun x y =>
    decide (x.1.bytes ++ x.2.bytes ≤ y.1.bytes ++ y.2.bytes)).forM
      (verify_internal_application_marker store)

/-- The row of an operation that was listed must still load. -/
def verify_repeat_pairing (pairings : RepeatPairings) (operation_id : RepeatPairingOperationId) :
    Except ProfileStoreError Unit := do
  let row ← load_repeat_pairing_from pairings operation_id
  let _ ← some_or row .CorruptData

/-- The step of opening a profile that checks the internal messages and the journal. -/
def verify_repeat_pairings (store : ReplayStore (τ × RepeatPairings)) :
    Except ProfileStoreError Unit := do
  verify_internal_application_markers store
  let pairings := store.others.2
  require (repeat_pairing_count pairings.operations = pairings.count
    ∧ repeat_pairing_count pairings.operations ≤ MAX_REPEAT_PAIRING_RECORDS
    ∧ active_repeat_pairing_count pairings.operations ≤ MAX_ACTIVE_REPEAT_PAIRINGS) .CorruptData
  ((pairings.operations.rows.map (·.state.operation_id)).mergeSort fun x y =>
    decide (x.bytes ≤ y.bytes)).forM (verify_repeat_pairing pairings)

/-- A call on the store, or a write of the pairing service to the journal: the start of an
operation, or the checkpoint of a sync or a cancellation. -/
inductive ProfileCall
  | store (call : StoreCall)
  | start_repeat_pairing (operation_id : RepeatPairingOperationId)
      (bootstrap_conversation_id new_conversation_id : ConversationId) (new_routing_id : RoutingId)
      (peer_device_id : DeviceId) (peer_root_public_key : Ed25519PublicKey)
      (expires_at_unix_seconds now_unix_seconds : ℕ)
  | checkpoint_repeat_pairing (checkpoint : RepeatPairingCheckpoint)

/-- A transaction on the journal alone. -/
def ReplayStore.write_repeat_pairings (store : ReplayStore (τ × RepeatPairings))
    (pairings : Except ProfileStoreError RepeatPairings) :
    Except ProfileStoreError Unit × ReplayStore (τ × RepeatPairings) := transaction store do
  let pairings ← pairings
  pure ((), { store with others := (store.others.1, pairings) })

def ProfileCall.run (base : Host τ) (store : ReplayStore (τ × RepeatPairings)) :
    ProfileCall → Except ProfileStoreError Unit × ReplayStore (τ × RepeatPairings)
  | .store call => call.run base.with_repeat_pairings store
  | .start_repeat_pairing operation_id bootstrap_conversation_id new_conversation_id new_routing_id
      peer_device_id peer_root_public_key expires_at now =>
      store.write_repeat_pairings (reserve_repeat_pairing store.others.2
        (.initiator operation_id bootstrap_conversation_id new_conversation_id new_routing_id
          peer_device_id peer_root_public_key expires_at) now)
  | .checkpoint_repeat_pairing checkpoint =>
    store.write_repeat_pairings (Daemon.checkpoint_repeat_pairing store.others.2 checkpoint)

/-- The profile after the calls, from one that holds nothing. -/
def profile_after (base : Host τ) (others : τ) (calls : List ProfileCall) :
    ReplayStore (τ × RepeatPairings) :=
  calls.foldl (fun store call => (call.run base store).2) (.empty (others, .empty))

/-! ## Every run

What one change of the store keeps, and with it every run of calls. -/

variable {base : Host τ} {store store' : ReplayStore (τ × RepeatPairings)}

/-- The journal is sound, and every marker has its message. -/
structure ReplayStore.TrafficSound (store : ReplayStore (τ × RepeatPairings)) : Prop where
  pairings : store.others.2.Sound
  marked : ∀ marker ∈ store.internal_application_message, store.Marked marker

variable {message : StoredApplicationMessage} {marker : ConversationId × MessageId}
  {conversation : ConversationRow} {cursor now : ℕ}

/-- Where the messages and their markers are left alone, the markers stay right. -/
theorem marked_of_grows {σ : Type} {store store' : ReplayStore σ} (hgrows : store.Grows store')
    (hhist : store'.message_history = store.message_history) (h : store.Marked marker) :
    store'.Marked marker := by
  obtain ⟨hknown, row, hrow, hint⟩ := h
  obtain ⟨conversation, hconv⟩ := Option.isSome_iff_exists.1 hknown
  obtain ⟨conversation', hconv', -⟩ := hgrows.conversation _ _ hconv
  refine ⟨Option.isSome_iff_exists.2 ⟨conversation', hconv'⟩, row, ?_, hint⟩
  rw [hhist]
  exact hrow

namespace ReplayStore

theorem TrafficSound.change (h : store.TrafficSound)
    (hchange : Change base.with_repeat_pairings store store') : store'.TrafficSound := by
  have hgrows := hchange.grows
  cases hchange with
  | sides hsame =>
    refine ⟨?_, fun marker hmarker => hsame.marked marker hmarker (h.marked marker)⟩
    rw [hsame.others]
    exact h.pairings
  | completed _ hothers =>
    refine ⟨?_, fun marker hmarker => marked_of_grows hgrows rfl (h.marked marker hmarker)⟩
    obtain ⟨indexed, hindexed, hothers⟩ := bind_ok.1 hothers
    obtain ⟨_, -, hpure⟩ := bind_ok.1 hindexed
    cases hpure
    split at hothers
    · obtain ⟨_, -, hothers⟩ := some_or_ok.1 hothers
      obtain ⟨pairings, hrec, hpure⟩ := bind_ok.1 hothers
      cases hpure
      exact h.pairings.record hrec
    · cases hothers
      exact h.pairings
  | inserted | configured | observed | received | membership_received | saved | membership_saved
  | membership_completed | prepared | marked | published =>
    exact ⟨h.pairings, fun marker hmarker => marked_of_grows hgrows rfl (h.marked marker hmarker)⟩

theorem TrafficSound.changes (h : store.TrafficSound)
    (hchanges : store.Changes base.with_repeat_pairings store') : store'.TrafficSound := by
  induction hchanges with
  | refl => exact h
  | tail _ hchange ih => exact ih.change hchange

theorem TrafficSound.run_store (h : store.TrafficSound) (call : StoreCall) :
    (call.run base.with_repeat_pairings store).2.TrafficSound := by
  by_cases hdel : ∃ delivery hdel, call = .delivery delivery hdel
  · obtain ⟨delivery, hcall, rfl⟩ := hdel
    exact ⟨h.pairings, h.marked⟩
  · exact h.changes (call.run_changes base.with_repeat_pairings store
      fun delivery hcall heq => hdel ⟨delivery, hcall, heq⟩)

theorem TrafficSound.write (h : store.TrafficSound)
    {pairings : Except ProfileStoreError RepeatPairings}
    (hpairings : ∀ pairings', pairings = .ok pairings' → pairings'.Sound) :
    (store.write_repeat_pairings pairings).2.TrafficSound := by
  refine transaction_keeps h fun _ later hbody => ?_
  obtain ⟨written, hwritten, hpure⟩ := bind_ok.1 hbody
  cases hpure
  exact ⟨hpairings written hwritten, h.marked⟩

theorem TrafficSound.run (h : store.TrafficSound) (call : ProfileCall) :
    (call.run base store).2.TrafficSound := by
  cases call with
  | store call => exact h.run_store call
  | start_repeat_pairing => exact h.write fun _ hreserve => h.pairings.reserve hreserve
  | checkpoint_repeat_pairing => exact h.write fun _ hwritten => h.pairings.checkpoint hwritten

end ReplayStore

theorem profile_after_sound (base : Host τ) (others : τ) (calls : List ProfileCall) :
    (profile_after base others calls).TrafficSound := by
  have hempty : (ReplayStore.empty (others, RepeatPairings.empty)).TrafficSound :=
    ⟨.empty, fun _ hmarker => nomatch hmarker⟩
  rw [profile_after]
  generalize ReplayStore.empty (others, RepeatPairings.empty) = store at hempty
  induction calls generalizing store with
  | nil => exact hempty
  | cons call calls ih => exact ih _ (hempty.run call)

/-! ## Opening the profile

On a sound store every check but the one on the number of markers succeeds. -/

theorem ReplayStore.TrafficSound.verify_marker (h : store.TrafficSound)
    (hmarker : marker ∈ store.internal_application_message) :
    verify_internal_application_marker store marker = .ok () := by
  obtain ⟨hknown, row, hrow, hint⟩ := h.marked marker hmarker
  obtain ⟨conversation, hconv⟩ := Option.isSome_iff_exists.1 hknown
  have hload : load_history_record store marker.1 marker.2 = .ok (some row) :=
    load_history_record_eq.2 ⟨hrow, by rw [hint, decide_eq_true_eq]; exact hmarker⟩
  rw [verify_internal_application_marker, some_or_bind hconv, hload, ok_bind, some_or_bind rfl]
  exact require_eq_ok.2 hint

/-- The profile opens when its markers are not too many. -/
theorem ReplayStore.TrafficSound.verify_repeat_pairings (h : store.TrafficSound) :
    Replay.verify_repeat_pairings store = .ok ()
    ↔ store.internal_application_message.length ≤ MAX_INTERNAL_REPEAT_PAIRING_MESSAGES := by
  constructor
  · intro hverify
    obtain ⟨_, hmarkers, -⟩ := bind_ok.1 hverify
    exact (require_ok.1 hmarkers).1
  · intro hmarkers
    have hverify : verify_internal_application_markers store = .ok () := by
      rw [verify_internal_application_markers, require_bind hmarkers, forM_eq_ok]
      intro marker hmarker
      exact h.verify_marker (List.mem_mergeSort.1 hmarker)
    rw [Replay.verify_repeat_pairings, hverify, ok_bind]
    refine (require_bind ⟨h.pairings.count.symm, h.pairings.count ▸ h.pairings.records,
      h.pairings.active⟩).trans ?_
    rw [forM_eq_ok]
    intro operation_id hid
    obtain ⟨row, hrow, rfl⟩ := List.mem_map.1 (List.mem_mergeSort.1 hid)
    rw [verify_repeat_pairing, h.pairings.load, ok_bind, Table.get?_of_mem _ hrow]
    rfl

/-! ## Completing a cursor

A completion with the journal is compared with one whose journal refuses nothing. -/

/-- If the message at a new cursor opens an operation, the journal has room for it. -/
def ReplayStore.RoomAt (base : Host τ) (store : ReplayStore (τ × RepeatPairings))
    (conversation_id : ConversationId) (cursor now : ℕ) : Prop :=
  ∀ conversation message request,
    load_conversation base.with_repeat_pairings store conversation_id = .ok conversation →
    load_message_at base.with_repeat_pairings store conversation_id cursor = .ok message →
    conversation.replay_cursor < cursor →
    store.others.2.Opens message.sender conversation.self_binding.device_id message.message.content
      now request → store.others.2.Admits request now

theorem complete_inbox_others_isOk {others ignored : τ × RepeatPairings} (hsound : others.2.Sound)
    (hint : message.message.content.is_internal = true)
    (hignored : complete_inbox_others base.with_repeat_pairings.with_patient_journal conversation
      cursor message now others = .ok ignored) :
    (∃ others', complete_inbox_others base.with_repeat_pairings conversation cursor message now
        others = .ok others')
    ↔ ∀ request, others.2.Opens message.sender conversation.self_binding.device_id
      message.message.content now request → others.2.Admits request now := by
  obtain ⟨indexed, hindexed, hignored⟩ := bind_ok.1 hignored
  obtain ⟨rest, -, hpure⟩ := bind_ok.1 hindexed
  cases hpure
  rw [if_pos hint] at hignored
  obtain ⟨binding, hbinding, -⟩ := some_or_ok.1 hignored
  have h : complete_inbox_others base.with_repeat_pairings conversation cursor message now
      others = (Daemon.record_repeat_pairing_content_in others.2 conversation.conversation_id
        message.sender binding.device_root_public_key conversation.self_binding.device_id
        message.message.content now >>= fun pairings => pure (rest, pairings)) := by
    rw [complete_inbox_others]
    refine (congrArg (· >>= _) hindexed).trans ?_
    rw [ok_bind, if_pos hint, some_or_bind hbinding]
    rfl
  rw [h, ← record_content_isOk hsound]
  constructor
  · rintro ⟨_, hrec⟩
    obtain ⟨pairings, hrec, -⟩ := bind_ok.1 hrec
    exact ⟨pairings, hrec⟩
  · rintro ⟨pairings, hrec⟩
    exact ⟨(rest, pairings), bind_ok.2 ⟨pairings, hrec, rfl⟩⟩

/-- A completion fails for the journal only when the message opens an operation that finds
no room. -/
theorem complete_inbox_isOk (h : store.TrafficSound) {conversation_id : ConversationId}
    {notification_id : NotificationId} {reached : ℕ}
    (hpatient : (complete_inbox_with_notification_at
      base.with_repeat_pairings.with_patient_journal store conversation_id cursor notification_id
      now).1 = .ok reached) :
    (∃ reached, (complete_inbox_with_notification_at base.with_repeat_pairings store
        conversation_id cursor notification_id now).1 = .ok reached)
    ↔ store.RoomAt base conversation_id cursor now := by
  obtain ⟨conversation, hload, hbody⟩ := bind_ok.1 (transaction_ok (Prod.ext hpatient rfl))
  obtain ⟨message, hmsg, hbody⟩ := bind_ok.1 hbody
  obtain ⟨stored, hstored, hbody⟩ := bind_ok.1 hbody
  obtain ⟨hplace, hbody⟩ := require_ok.1 hbody
  obtain ⟨_, hobs, hbody⟩ := bind_ok.1 hbody
  -- both profiles read the same rows
  have hload' : load_conversation base.with_repeat_pairings store conversation_id
      = .ok conversation := hload
  have hmsg' : load_message_at base.with_repeat_pairings store conversation_id cursor
      = .ok message := hmsg
  have hroom : store.RoomAt base conversation_id cursor now ↔ (conversation.replay_cursor < cursor →
      ∀ request, store.others.2.Opens message.sender conversation.self_binding.device_id
        message.message.content now request → store.others.2.Admits request now) := by
    constructor
    · intro hroom hnext request hopens
      exact hroom conversation message request hload' hmsg' hnext hopens
    · intro hroom found read request hfound hread hnext hopens
      cases hload'.symm.trans hfound
      cases hmsg'.symm.trans hread
      exact hroom hnext request hopens
  rw [hroom, complete_inbox_with_notification_at, hload', ok_bind, hmsg', ok_bind, hstored, ok_bind]
  dsimp only at hbody ⊢
  rw [require_bind hplace, hobs, ok_bind]
  by_cases hpast : cursor ≤ conversation.replay_cursor
  · rw [if_pos hpast] at hbody ⊢
    exact ⟨fun _ hnext => absurd hpast (Nat.not_le.2 hnext), fun _ => ⟨_, congrArg
      (fun body => (transaction store body).1) hbody⟩⟩
  · rw [if_neg hpast] at hbody ⊢
    obtain ⟨hnext, hbody⟩ := require_ok.1 hbody
    obtain ⟨hcounter, hbody⟩ := require_ok.1 hbody
    obtain ⟨⟨found, counted⟩, hhist, hbody⟩ := bind_ok.1 hbody
    obtain ⟨hfound, hbody⟩ := require_ok.1 hbody
    obtain ⟨ignored, hignored, hbody⟩ := bind_ok.1 hbody
    obtain ⟨journal, hjournal, hbody⟩ := bind_ok.1 hbody
    obtain ⟨hincomplete, hbody⟩ := require_ok.1 hbody
    obtain ⟨message_history, rfl, -⟩ := complete_history_eq_ok hhist
    rw [require_bind hnext, require_bind hcounter, hhist, ok_bind]
    dsimp only
    rw [require_bind hfound, transaction_isOk]
    by_cases hint : message.message.content.is_internal = true
    · rw [← complete_inbox_others_isOk h.pairings hint hignored]
      constructor
      · rintro ⟨_, hreal⟩ -
        obtain ⟨others, hothers, -⟩ := bind_ok.1 hreal
        exact ⟨others, hothers⟩
      · intro hroom
        obtain ⟨others, hothers⟩ := hroom (Nat.not_le.1 hpast)
        -- an internal message is no event, so the journal of events is not written
        refine ⟨_, bind_ok.2 ⟨others, hothers, bind_ok.2 ⟨store.journal, ?_,
          require_ok.2 ⟨hincomplete, rfl⟩⟩⟩⟩
        rw [insert_application_event, hint]
        rfl
    · rw [Bool.not_eq_true] at hint
      constructor
      · intro _ _ request hopens
        rw [hopens.content] at hint
        cases hint
      · refine fun _ => ⟨_, bind_ok.2 ⟨ignored, ?_, bind_ok.2 ⟨journal, hjournal,
          require_ok.2 ⟨hincomplete, rfl⟩⟩⟩⟩
        -- the journal is asked for internal messages only
        rw [complete_inbox_others] at hignored ⊢
        simp only [hint] at hignored ⊢
        exact hignored

/-! ## Traffic -/

/-- What repeat-pairing messages can do to a profile: a cursor whose completion does not
fail for another reason is completed exactly when there is room for the operation its
message opens, and the profile opens exactly when its markers are within their bound. -/
structure ReplayStore.BearsTraffic (base : Host τ) (store : ReplayStore (τ × RepeatPairings)) :
    Prop where
  completes : ∀ conversation_id cursor notification_id now,
    (∃ reached, (complete_inbox_with_notification_at
      base.with_repeat_pairings.with_patient_journal store conversation_id cursor notification_id
      now).1 = .ok reached) →
    ((∃ reached, (complete_inbox_with_notification_at base.with_repeat_pairings store
        conversation_id cursor notification_id now).1 = .ok reached)
      ↔ store.RoomAt base conversation_id cursor now)
  reopens : Replay.verify_repeat_pairings store = .ok ()
    ↔ store.internal_application_message.length ≤ MAX_INTERNAL_REPEAT_PAIRING_MESSAGES

/-- Whatever calls a profile saw, the two bounds are all that repeat-pairing messages run
into. -/
theorem repeat_pairing_traffic (base : Host τ) (others : τ) (calls : List ProfileCall) :
    (profile_after base others calls).BearsTraffic base := by
  have hsound := profile_after_sound base others calls
  refine ⟨?_, hsound.verify_repeat_pairings⟩
  rintro conversation_id cursor notification_id now ⟨reached, hpatient⟩
  exact complete_inbox_isOk hsound hpatient

/-! ## Requests without room

A member that asks seventeen times in one window. -/

namespace CrowdedJournal

def conversation_id : ConversationId := repeated 32 1
def routing_id : RoutingId := repeated 32 2
def device : DeviceId := repeated 32 3
def peer : DeviceId := repeated 32 4

def profile_host : Host Unit where
  suite := ⟨id, fun _ _ _ => true, fun _ _ => repeated 32 8⟩
  derive_request_delivery_identifiers _ _ _ _ := repeated 16 9
  message_length _ := 1
  transition_length _ := 1
  collaboration_policy_operation_reserves_message_id _ _ _ := .ok false
  index_collaboration_policy_exchange_in _ _ _ _ := .ok ()
  record_repeat_pairing_content_in _ _ _ _ _ _ _ := .ok ()

def binding (member : DeviceId) : DeviceCredentialBinding :=
  ⟨.application_v1, member, conversation_id, .Ed25519, member, member, repeated 64 9, 0,
    none, no_capabilities⟩

def state : ConversationState :=
  ⟨.application_v1, conversation_id, 0, [⟨device, .Administrator, 0⟩, ⟨peer, .Member, 0⟩], [], none,
    by decide, none_consumed_le, by decide, none_consumed_nodup, by decide, by decide, by decide⟩

def envelope (number : ℕ) : RelayEnvelope :=
  ⟨.application_v1, routing_id, repeated 16 (UInt8.ofNat number), .GroupApplication, none,
    1, [0], byte_fits, Nat.one_pos, application_epoch⟩

/-- A request of the peer, with an operation of its own. -/
def request (number : ℕ) : ApplicationMessage :=
  ⟨.application_v1, repeated 16 (UInt8.ofNat number), number + 1, 0, none,
    .RepeatPairingRequest ⟨repeated 16 (UInt8.ofNat number), device, conversation_id, 900,
      by decide⟩, Nat.succ_pos number⟩

/-- The request of a number arrives at the cursor after it. -/
def arrives (number : ℕ) : List ProfileCall :=
  [.store (.record_inbox_envelope ⟨envelope number, number + 1, Nat.succ_pos number⟩),
    .store (.save_inbox_message conversation_id (number + 1) peer 0 (request number))]

def completes (number : ℕ) : ProfileCall :=
  .store (.complete_inbox conversation_id (number + 1) (repeated 16 (UInt8.ofNat number))
    0)

/-- Sixteen requests are answered for, and a further one has arrived. -/
def calls : List ProfileCall :=
  .store (.insert_conversation routing_id (binding device) state [binding device, binding peer] none
    none) :: ((List.range 16).flatMap fun number => arrives number ++ [completes number])
    ++ arrives 16

end CrowdedJournal

open CrowdedJournal

theorem seventeenth_request_not_completed : (complete_inbox_with_notification_at
        profile_host.with_repeat_pairings.with_patient_journal
        (profile_after profile_host () calls)
        conversation_id 17 (repeated 16 16) 0).1 = .ok 17
    ∧ (complete_inbox_with_notification_at profile_host.with_repeat_pairings
      (profile_after profile_host () calls)
      conversation_id 17 (repeated 16 16) 0).1
      = .error .RepeatPairingCapacityExceeded := by
  decide +kernel

end Konclave.Daemon.Replay
