/-
`Konclave.LocalDaemon`: what a replay may do to a row.

Each checkpoint of a replay continues the row that was read. It keeps the capability and the
records, gives own records their cursors, and moves the replay cursor only past the next
record of the log, which it echoes, has observed before or observes now. No checkpoint opens
the phase to a stage that it was closed to. Everything else about replays is read off that.
-/
import Konclave.Daemon.PairingRecords
import Konclave.Daemon.PairingService
import Mathlib.Logic.Relation

set_option autoImplicit false

namespace Konclave.Daemon.Pairing

open Protobuf Domain Relay Cryptographic Hosted PairingOperationState Relation

/-- The stages that a replay may still take from the peer, the phases it leads to included. -/
def takes : PairingPhase → PairingStage → Bool
  | .JoinerAwaitingInvitation, .Invitation | .JoinerAwaitingInvitation, .Cancellation
  | .JoinerAwaitingInviterAuthorization, .Cancellation
  | .JoinerAwaitingWelcome, .Welcome | .JoinerAwaitingWelcome, .Cancellation
  | .InviterAwaitingJoinProof, .JoinProof | .InviterAwaitingJoinProof, .Completion
  | .InviterAwaitingJoinProof, .Cancellation
  | .InviterAwaitingCompletion, .Completion | .InviterAwaitingCompletion, .Cancellation => true
  | _, _ => false

/-- The log of each route, by cursor. -/
abbrev RouteLogs : Type := RoutingId → ℕ → Option StoredRelayEnvelope

section

variable {ω : Type} (service : PairingService ω) (log : RouteLogs) (times : ℕ → Prop)

/-- The relay answers from one log for each route, which it does not rewrite. -/
structure PairingService.Answers : Prop where
  replayed : ∀ request w page, (service.replay request w).1 = .ok page →
    ∀ stored ∈ page.envelopes, log request.routing_id stored.cursor = some stored
  submitted : ∀ envelope w stored, (service.submit envelope w).1 = .ok stored →
    log envelope.routing_id stored.cursor = some stored

/-- The random source may give a new record this identifier. -/
def PairingService.Draws (envelope_id : EnvelopeId) : Prop :=
  ∃ w nonce, (service.fill_random w).1 = .ok (nonce, envelope_id)

/-! ## Moves -/

/-- A record of the log past which the replay cursor moves: it is the next one, it opens, and
it was not expired at the time of a call. -/
structure Passes (row row' : PairingCheckpoint) (stored : StoredRelayEnvelope)
    (pairing : PairingEnvelope) : Prop where
  logged : log row.routing_id stored.cursor = some stored
  next : stored.cursor = row.replay_cursor + 1
  cursor : row'.replay_cursor = stored.cursor
  seals : Seals service.suite row.state.capability stored.envelope pairing
  unexpired : ∃ now, times now ∧ now < pairing.expires_at_unix_seconds

/-- What becomes of a record that is passed: it is one of the row's own, it repeats one that was
observed, or it is observed now. -/
inductive Taken (row row' : PairingCheckpoint) (stored : StoredRelayEnvelope)
    (pairing : PairingEnvelope) : Prop
  | echoes (own : pairing.sender = local_sender row.state.role)
      (outbound : ∃ outbound ∈ row.state.outbounds, outbound.envelope = stored.envelope)
      (observations : row'.state.observations = row.state.observations)
  | repeats (peer : pairing.sender ≠ local_sender row.state.role)
      (copies : ∃ observed ∈ row.state.observations,
        Copies service.suite row.state.role stored observed)
      (unique : ∀ observed ∈ row.state.observations, ∀ existing,
        service.suite.pairing_envelope.decode observed.envelope.payload = .ok existing →
        existing.message_id = pairing.message_id ∨ existing.stage = pairing.stage →
        existing = pairing)
      (observations : row'.state.observations = row.state.observations)
  | adds (peer : pairing.sender ≠ local_sender row.state.role)
      (apart : ∀ observed ∈ row.state.observations, ∀ existing,
        service.suite.pairing_envelope.decode observed.envelope.payload = .ok existing →
        existing.message_id ≠ pairing.message_id ∧ existing.stage ≠ pairing.stage)
      (expected : takes row.phase pairing.stage = true)
      (observations : row'.state.observations = row.state.observations ++ [stored])

/-- How far a checkpoint gets in the log: by one record at most. -/
inductive Advances (row row' : PairingCheckpoint) : Prop
  | stays (cursor : row'.replay_cursor = row.replay_cursor)
      (observations : row'.state.observations = row.state.observations)
  | takes {stored : StoredRelayEnvelope} {pairing : PairingEnvelope}
      (passes : Passes service log times row row' stored pairing)
      (taken : Taken service row row' stored pairing)

/-- What any call of the service may do to a row. -/
structure Moves (row row' : PairingCheckpoint) : Prop where
  routing_id : row'.routing_id = row.routing_id
  continues : Continues service.Draws (log row.routing_id) row.state row'.state
  advances : Advances service log times row row'

/-- What a replay may do to a row: it takes no stage that it would not have taken before. -/
structure Replays (row row' : PairingCheckpoint) : Prop extends
    Moves service log times row row' where
  narrows : ∀ stage, takes row'.phase stage = true → takes row.phase stage = true

end

/-- Every row of the later journal was there before, and has moved as `R` allows. -/
def Evolves (R : PairingCheckpoint → PairingCheckpoint → Prop) (before after : PairingTable) :
    Prop :=
  after.toTable.Keeps (fun row' row => ReflTransGen R row row') before.toTable

namespace Evolves

variable {R R' : PairingCheckpoint → PairingCheckpoint → Prop}
  {before middle after : PairingTable} {row row' : PairingCheckpoint}

theorem refl (pairings : PairingTable) : Evolves R pairings pairings :=
  Table.Keeps.refl (fun _ => .refl) _

theorem trans (h : Evolves R before middle) (h' : Evolves R middle after) :
    Evolves R before after :=
  Table.Keeps.trans (fun _ _ _ hxy hyz => hyz.trans hxy) h' h

theorem mono (hR : ∀ row row', R row row' → R' row row') (h : Evolves R before after) :
    Evolves R' before after := by
  intro id row hrow
  obtain ⟨row', hrow', hchain⟩ := h id row hrow
  exact ⟨row', hrow', ReflTransGen.mono hR _ _ hchain⟩

/-- One row is written, the others stay. -/
theorem write (hrow : before.get? row.pairing_id = some row) (hR : R row row')
    (h : ∀ id, after.get? id = if id = row.pairing_id then some row' else before.get? id) :
    Evolves R before after := by
  intro id found hfound
  have hget := h id
  rw [hfound] at hget
  split at hget
  · rename_i hid
    cases hget
    exact ⟨row, hid ▸ hrow, .single hR⟩
  · exact ⟨found, hget.symm, .refl⟩

/-- What each step keeps of a row holds of all rows as long as it held of all. -/
theorem invariant {K : PairingCheckpoint → Prop} (hK : ∀ row row', R row row' → K row → K row')
    (h : Evolves R before after) {id : PairingId}
    (hbefore : ∀ row, before.get? id = some row → K row)
    (hrow' : after.get? id = some row') : K row' := by
  obtain ⟨row, hrow, hchain⟩ := h id row' hrow'
  clear hrow'
  induction hchain with
  | refl => exact hbefore row hrow
  | tail _ hstep ih => exact hK _ _ hstep ih

end Evolves

/-! ## Steps of a replay

`Reads` is what a call knows after it has read a row: nobody else writes it, so that it is
still there when the call writes the next one. -/

def Reads (row : PairingCheckpoint) (pairings : PairingTable) : Prop :=
  pairings.get? row.pairing_id = some row

section

variable {ω α : Type} {service : PairingService ω} {log : RouteLogs} {times : ℕ → Prop}
  {R : PairingCheckpoint → PairingCheckpoint → Prop} {start : PairingTable}
  {P : PairingTable → Prop} {Q : α → PairingTable → Prop} {pairing_id : PairingId}
  {row : PairingCheckpoint} {state state' : PairingOperationState} {phase : PairingPhase}
  {deadline : Option ℕ} {cursor : ℕ} {stage : PairingStage} {pairing : PairingEnvelope}
  {plaintext : Bytes} {stored : StoredRelayEnvelope} {now : ℕ}

/-- A row that is read came from one of the start. -/
theorem load_keeps {f : PairingCheckpoint → Service ω α}
    (h : ∀ row, row.pairing_id = pairing_id →
      (∃ first, start.get? pairing_id = some first ∧ ReflTransGen R first row) →
      Keeps (Evolves R start) (fun pairings => P pairings ∧ Reads row pairings) (f row) Q) :
    Keeps (Evolves R start) P (PairingService.load_checkpoint pairing_id >>= f) Q := by
  refine Keeps.bind (R := fun row pairings => (P pairings ∧ Reads row pairings)
    ∧ row.pairing_id = pairing_id
    ∧ ∃ first, start.get? pairing_id = some first ∧ ReflTransGen R first row) ?_ fun row =>
    Keeps.of_pre (fun _ hrow => hrow.2) fun hfirst =>
      (h row hfirst.1 hfirst.2).weaken fun _ hrow => hrow.1
  refine Keeps.store fun pairings hI hP => ⟨hI, fun row hload => ?_⟩
  have hrow := load_pairing_eq_ok (mapError_eq_ok.1 hload)
  have hid := Table.key_of_get? hrow
  refine ⟨⟨hP, ?_⟩, hid, hI pairing_id row hrow⟩
  rw [Reads, hid]
  exact hrow

/-- A checkpoint that returns has written its row, whose state has room for its records. -/
theorem checkpoint_writes (hP : ∀ pairings, P pairings → Reads row pairings)
    (h : R row (row.next phase deadline cursor state)) :
    Keeps (Evolves R start) P
      (service.checkpoint_state row state phase deadline cursor) fun _ pairings =>
        pairings.get? row.pairing_id = some (row.next phase deadline cursor state)
        ∧ state.outbounds.length ≤ MAX_OUTBOUNDS := by
  refine Keeps.lift_bind fun encoded hencoded => ?_
  have hsame : encoded = state ∧ state.outbounds.length ≤ MAX_OUTBOUNDS := by
    rw [encode] at hencoded
    obtain ⟨_, hvalid, hencoded⟩ := bind_ok.1 hencoded
    obtain ⟨_, -, hencoded⟩ := bind_ok.1 hencoded
    obtain ⟨-, hencoded⟩ := require_ok.1 hencoded
    cases hencoded
    rw [validate_loaded_state] at hvalid
    exact ⟨rfl, (require_ok.1 hvalid).1.2⟩
  rw [hsame.1]
  refine Keeps.bind (R := fun _ pairings => pairings.get? row.pairing_id
    = some (row.next phase deadline cursor state)) (Keeps.store fun pairings hI hpre => ?_)
    fun _ => Keeps.pure fun _ hwritten => ⟨hwritten, hsame.2⟩
  have hrow := hP pairings hpre
  cases hwrite : (checkpoint_pairing pairings row.pairing_id row.generation phase deadline cursor
    state).mapError PairingServiceError.Persistence with
  | error e =>
    refine ⟨hI, fun written hwritten => ?_⟩
    cases hwritten
  | ok result =>
    have hget := checkpoint_pairing_eq_ok hrow (mapError_eq_ok.1 hwrite)
    exact ⟨hI.trans (.write hrow h hget), fun _ _ => (hget _).trans (if_pos rfl)⟩

theorem checkpoint_keeps (hP : ∀ pairings, P pairings → Reads row pairings)
    (h : R row (row.next phase deadline cursor state)) :
    Keeps (Evolves R start) P
      (service.checkpoint_state row state phase deadline cursor) fun _ => Any :=
  (checkpoint_writes hP h).post fun _ _ _ => trivial

/-! ## Own records and deadlines

These steps leave the log where it is. -/

/-- A checkpoint that leaves the log where it is. -/
theorem Replays.stays (hcontinues : Continues service.Draws (log row.routing_id) row.state state)
    (hobservations : state.observations = row.state.observations)
    (hphase : ∀ stage, takes phase stage = true → takes row.phase stage = true) :
    Replays service log times row (row.next phase deadline row.replay_cursor state) :=
  ⟨⟨rfl, hcontinues, .stays rfl hobservations⟩, hphase⟩

/-- A phase that is past its exchange takes nothing. -/
theorem narrows_of_closed (row : PairingCheckpoint)
    (h : phase = .Compensating ∨ phase = .Completed ∨ phase = .Cancelled) :
    ∀ stage, takes phase stage = true → takes row.phase stage = true := by
  intro stage htakes
  rcases h with rfl | rfl | rfl <;> cases stage <;> cases htakes

theorem narrows_terminal (suite : PairingSuite) (row : PairingCheckpoint)
    (state : PairingOperationState) : ∀ stage,
    takes (terminal_after_submission suite row state) stage = true →
    takes row.phase stage = true := by
  rw [terminal_after_submission]
  split
  · split
    · exact narrows_of_closed row (.inl rfl)
    · exact narrows_of_closed row (.inr (.inr rfl))
  · split
    · exact narrows_of_closed row (.inr (.inl rfl))
    · exact fun _ h => h

/-- A row that is closed as it is. -/
theorem Replays.closes (h : phase = .Compensating ∨ phase = .Completed ∨ phase = .Cancelled) :
    Replays service log times row (row.next phase deadline row.replay_cursor row.state) :=
  .stays (.of_outbounds rfl rfl rfl) rfl (narrows_of_closed row h)

theorem from_checkpoint_keeps {I : PairingTable → Prop} {f : PairingOperationState → Service ω α}
    (h : Loaded service.suite row → Keeps I P (f row.state) Q) :
    Keeps I P (service.from_checkpoint row >>= f) Q := by
  refine Keeps.lift_bind fun opened hopened => ?_
  obtain ⟨rfl, hloaded⟩ := from_checkpoint_eq_ok hopened
  exact h hloaded

theorem prepare_outbound_with_id_keeps {I : PairingTable → Prop}
    {message_id : PairingMessageId} {in_reply_to : Option PairingMessageId} {expires : ℕ}
    (log : ℕ → Option StoredRelayEnvelope) :
    Keeps I P (service.prepare_outbound_with_id state message_id stage in_reply_to expires
      plaintext) fun state' pairings => P pairings
        ∧ Continues service.Draws log state state'
        ∧ state'.observations = state.observations := by
  refine Keeps.ask_bind fun random w hrandom => Keeps.lift fun state' h pairings hP => ?_
  exact ⟨hP, prepare_outbound_with_id_eq_ok ⟨w, random.1, hrandom⟩ h⟩

theorem cleanup_terminal_join_keeps {I : PairingTable → Prop} :
    Keeps I P (service.cleanup_terminal_join row) fun _ => Any := by
  unfold PairingService.cleanup_terminal_join
  refine Keeps.ite (fun _ => Keeps.pure fun _ _ => trivial) fun _ => ?_
  refine from_checkpoint_keeps fun _ => ?_
  split
  · exact Keeps.check
  · exact Keeps.ask

theorem local_record_if_keeps {I : PairingTable → Prop} {p : Prop} [Decidable p]
    {f : Option OpenedPairingRecord → Service ω α} (h : ∀ record, Keeps I P (f record) Q) :
    Keeps I P (service.local_record_if state stage p >>= f) Q := by
  unfold PairingService.local_record_if
  split
  · exact Keeps.lift_bind fun record _ => h record
  · exact h none

theorem checkpoint_welcome_keeps {conversation_id : ConversationId}
    {join_proof : OpenedPairingRecord} {sent : SentMembership}
    (hP : ∀ pairings, P pairings → Reads row pairings) :
    Keeps (Evolves (Replays service log times) start) P
      (service.checkpoint_welcome row row.state conversation_id join_proof sent) fun _ => Any := by
  unfold PairingService.checkpoint_welcome
  refine Keeps.value_or_bind fun welcome _ => Keeps.lift_bind fun payload _ =>
    Keeps.value_or_bind fun deadline _ => Keeps.lift_bind fun encoded _ => ?_
  refine Keeps.bind (Keeps.ask_bind fun message_id _ _ =>
    prepare_outbound_with_id_keeps (log row.routing_id)) fun state' => ?_
  refine Keeps.of_pre (fun _ h => h.2) fun ⟨hcontinues, hobservations⟩ => ?_
  exact checkpoint_keeps (fun pairings h => hP pairings h.1)
    (.stays hcontinues hobservations fun _ h => h)

/-- A commit that is resumed seals its Welcome; one that is not leaves the journal. -/
theorem resume_inviter_commit_keeps {create_if_missing : Bool} :
    Keeps (Evolves (Replays service log times) start) P
      (service.resume_inviter_commit_if_required pairing_id now create_if_missing)
      fun resumed pairings => resumed = false → P pairings := by
  unfold PairingService.resume_inviter_commit_if_required
  refine load_keeps fun row _ _ => Keeps.ite (fun _ => Keeps.pure fun _ _ => nofun) fun _ => ?_
  refine from_checkpoint_keeps fun _ => Keeps.lift_bind fun welcome _ => ?_
  refine Keeps.ite (fun _ => Keeps.pure fun _ _ => nofun) fun _ => ?_
  refine Keeps.of_bind fun join_proof _ => Keeps.of_bind fun proof _ =>
    Keeps.value_or_bind fun conversation_id _ => Keeps.ask_bind fun resumed _ _ => ?_
  cases resumed with
  | some sent =>
    exact Keeps.bind (checkpoint_welcome_keeps fun _ h => h.2) fun _ =>
      Keeps.pure fun _ _ => nofun
  | none =>
    refine Keeps.ite (fun _ => Keeps.ask_bind fun sent _ _ => ?_) fun _ =>
      Keeps.pure fun _ h _ => h.1
    exact Keeps.bind (checkpoint_welcome_keeps fun _ h => h.2) fun _ =>
      Keeps.pure fun _ _ => nofun

theorem remove_and_cancel_keeps (hP : ∀ pairings, P pairings → Reads row pairings) :
    Keeps (Evolves (Replays service log times) start) P (service.remove_and_cancel row now)
      fun _ => Any := by
  unfold PairingService.remove_and_cancel
  refine from_checkpoint_keeps fun _ => Keeps.value_or_bind fun conversation_id _ =>
    Keeps.ask_bind fun _ _ _ => ?_
  exact Keeps.bind (checkpoint_keeps hP (.closes (.inr (.inr rfl)))) fun _ =>
    Keeps.pure fun _ _ => trivial

theorem compensate_commit_keeps {requested : Bool}
    (hP : ∀ pairings, P pairings → Reads row pairings) :
    Keeps (Evolves (Replays service log times) start) P
      (service.compensate_commit pairing_id row row.state now requested) fun _ => Any := by
  have hdone : ∀ {P : PairingTable → Prop} {result : Bool},
      Keeps (Evolves (Replays service log times) start) P
        (pure result : Service ω Bool) fun _ => Any := Keeps.pure fun _ _ => trivial
  unfold PairingService.compensate_commit
  refine Keeps.ite (fun _ => hdone) fun _ => Keeps.ite (fun _ => ?_) fun _ =>
    Keeps.ite (fun _ => hdone) fun _ => remove_and_cancel_keeps hP
  refine Keeps.value_or_bind fun deadline _ => Keeps.ite (fun _ => hdone) fun _ => ?_
  refine Keeps.bind (checkpoint_keeps hP (.closes (.inl rfl))) fun _ =>
    load_keeps fun row' _ _ => ?_
  exact Keeps.ite (fun _ => hdone) fun _ => remove_and_cancel_keeps fun _ h => h.2

theorem cancel_if_expired_keeps {requested : Bool}
    (hP : ∀ pairings, P pairings → Reads row pairings) :
    Keeps (Evolves (Replays service log times) start) P
      (service.cancel_if_expired pairing_id row row.state now requested) fun _ => Any := by
  unfold PairingService.cancel_if_expired
  refine local_record_if_keeps fun completion => Keeps.ite (fun _ => ?_) fun _ =>
    compensate_commit_keeps hP
  refine Keeps.bind (checkpoint_keeps hP (.closes (.inr (.inr rfl)))) fun _ =>
    load_keeps fun row' _ _ => ?_
  exact Keeps.bind cleanup_terminal_join_keeps fun _ => Keeps.pure fun _ _ => trivial

theorem resume_or_cancel_keeps {requested must_cancel : Bool} {deadline : ℕ}
    (hP : ∀ pairings, P pairings → Reads row pairings) :
    Keeps (Evolves (Replays service log times) start) P
      (service.resume_or_cancel pairing_id row row.state now requested deadline must_cancel)
      fun _ => Any := by
  unfold PairingService.resume_or_cancel
  refine Keeps.bind resume_inviter_commit_keeps fun resumed =>
    Keeps.ite (fun _ => ?_) fun hnot => ?_
  · refine load_keeps fun row' _ _ => from_checkpoint_keeps fun _ => ?_
    exact cancel_if_expired_keeps fun _ h => h.2
  · refine Keeps.ite (fun _ => Keeps.pure fun _ _ => trivial) fun _ => ?_
    exact Keeps.bind (checkpoint_keeps (fun pairings h => hP pairings
      (h (Bool.eq_false_of_not_eq_true hnot))) (.closes (.inr (.inr rfl)))) fun _ =>
      Keeps.pure fun _ _ => trivial

theorem compensate_if_required_keeps {requested : Bool} :
    Keeps (Evolves (Replays service log times) start) P
      (service.compensate_if_required pairing_id now requested) fun _ => Any := by
  unfold PairingService.compensate_if_required
  refine load_keeps fun row _ _ => from_checkpoint_keeps fun _ => local_record_if_keeps fun _ => ?_
  refine Keeps.ite (fun _ => ?_) fun _ => cancel_if_expired_keeps fun _ h => h.2
  refine Keeps.value_or_bind fun deadline _ => Keeps.ite (fun _ => ?_) fun _ =>
    resume_or_cancel_keeps fun _ h => h.2
  refine Keeps.bind (checkpoint_keeps (fun _ h => h.2) (.closes (.inl rfl))) fun _ =>
    load_keeps fun row' _ _ => from_checkpoint_keeps fun _ => ?_
  exact resume_or_cancel_keeps fun _ h => h.2

theorem next_pending_mem {outbound : PairingOutbound}
    (h : service.next_pending state = some outbound) :
    outbound ∈ state.outbounds ∧ PairingService.is_pending outbound = true := by
  rw [PairingService.next_pending, Option.or_eq_some_iff, Option.or_eq_some_iff] at h
  rcases h with (h | ⟨-, h⟩) | ⟨-, h⟩
  · obtain ⟨_, -, h⟩ := Option.bind_eq_some_iff.1 h
    have hboth := List.find?_some h
    exact ⟨List.mem_of_find?_eq_some h, (Bool.and_eq_true_iff.1 hboth).1⟩
  · exact List.mem_filter.1 (List.mem_of_find?_eq_some h)
  · exact ⟨List.mem_of_find?_eq_some h, List.find?_some h⟩

/-- How many own records of a pairing have their cursors. -/
def accepted_in (pairing_id : PairingId) (pairings : PairingTable) : ℕ :=
  (pairings.get? pairing_id).elim 0 fun row => row.state.accepted_count

theorem accepted_of_replays {row' : PairingCheckpoint}
    (h : ReflTransGen (Replays service log times) row row') :
    row.state.accepted_count ≤ row'.state.accepted_count := by
  induction h with
  | refl => exact le_rfl
  | tail _ hstep ih => exact ih.trans hstep.continues.accepted

/-- The relay gives a record that is submitted a cursor of the log. A turn that is not the
last has done that for one more record, and there is room for few. -/
theorem retry_outbound_keeps (hrelay : service.Answers log) :
    Keeps (Evolves (Replays service log times) start) P (service.retry_outbound pairing_id now)
      fun again pairings => again = true →
        accepted_in pairing_id start < accepted_in pairing_id pairings
        ∧ accepted_in pairing_id pairings ≤ MAX_OUTBOUNDS := by
  unfold PairingService.retry_outbound
  refine Keeps.bind compensate_if_required_keeps fun compensated => ?_
  refine Keeps.ite (fun _ => Keeps.pure fun _ _ => nofun) fun _ =>
    load_keeps fun row hid ⟨first, hfirst, hchain⟩ => ?_
  refine Keeps.ite (fun _ => Keeps.bind cleanup_terminal_join_keeps fun _ =>
    Keeps.pure fun _ _ => nofun) fun _ => from_checkpoint_keeps fun hloaded => ?_
  cases hnext : service.next_pending row.state with
  | none => exact Keeps.pure fun _ _ => nofun
  | some outbound =>
    obtain ⟨hmem, hpending⟩ := next_pending_mem hnext
    refine Keeps.lift_bind fun pairing hpairing => Keeps.of_bind fun _ _ =>
      Keeps.ask_bind fun stored w hstored => Keeps.check_bind fun henvelope =>
      Keeps.lift_bind fun state hstate => ?_
    -- the outbound is on the pairing's route, so that the log is the row's
    have hlog : log row.routing_id stored.cursor = some stored := by
      obtain ⟨taken, taken', hvalid⟩ := hloaded.outbounds
      obtain ⟨_, -, -, hroute, -⟩ := validate_outbounds_mem hvalid hmem
      rw [← hloaded.route, ← hroute]
      exact hrelay.submitted _ w stored hstored
    obtain ⟨hcontinues, hobservations, haccepted⟩ := mark_outbound_accepted_eq_ok hloaded hmem
      (of_protocol_eq_ok.1 hpairing) hlog henvelope hstate
    refine Keeps.bind (checkpoint_writes (fun _ h => h.2) (.stays hcontinues hobservations
      (narrows_terminal _ _ _))) fun _ => Keeps.pure fun pairings ⟨hwritten, hroom⟩ _ => ?_
    rw [hid] at hwritten
    rw [accepted_in, accepted_in, hfirst, hwritten]
    exact ⟨(accepted_of_replays hchain).trans_lt (haccepted (Option.isNone_iff_eq_none.1 hpending)),
      List.countP_le_length.trans hroom⟩

/-- The loop ends on its own: more turns than `retry_outbounds_serialized` has are not taken. -/
theorem retry_outbounds_loop_ends (hrelay : service.Answers log) (turns : ℕ)
    (pairings : PairingTable) (w : ω) :
    (service.retry_outbounds_loop pairing_id now (MAX_OUTBOUNDS + 1 + turns)).exec pairings w
    = (service.retry_outbounds_serialized pairing_id now).exec pairings w := by
  suffices hloop : ∀ fuel pairings w, MAX_OUTBOUNDS < fuel + accepted_in pairing_id pairings →
      0 < fuel → (service.retry_outbounds_loop pairing_id now (fuel + turns)).exec pairings w
      = (service.retry_outbounds_loop pairing_id now fuel).exec pairings w from
    hloop _ pairings w (by omega) (Nat.succ_pos _)
  intro fuel
  induction fuel with
  | zero => exact fun _ _ _ hpos => absurd hpos (Nat.lt_irrefl 0)
  | succ fuel ih =>
    intro pairings w hfuel _
    have hkeeps : Keeps (Evolves (Replays service log fun _ => True) pairings) Any
      (service.retry_outbound pairing_id now) _ := retry_outbound_keeps hrelay
    have hturn := (hkeeps pairings w (.refl _) trivial).2
    rw [Nat.succ_add, PairingService.retry_outbounds_loop, PairingService.retry_outbounds_loop,
      exec_bind, exec_bind]
    split
    · rename_i again later w' hrun
      simp only [hrun] at hturn
      cases again with
      | false => rfl
      | true =>
        -- one more record has its cursor, which pays for the turn
        obtain ⟨hmore, hroom⟩ := hturn true rfl rfl
        exact ih later w' (by omega) (by omega)
    · rfl

/-! ## The peer's records

A stage is taken only in a phase that takes it, and leads to a phase that takes no other. -/

/-- What the peer's record makes of a state: the conversation becomes known, or a record of
the daemon's own is added. -/
def Answered (service : PairingService ω) (log : RouteLogs) (row : PairingCheckpoint)
    (state : PairingOperationState) (stage : PairingStage) (phase : PairingPhase)
    (state' : PairingOperationState) : Prop :=
  Continues service.Draws (log row.routing_id) state state'
    ∧ state'.observations = state.observations ∧ takes row.phase stage = true
    ∧ ∀ stage, takes phase stage = true → takes row.phase stage = true

end

end Konclave.Daemon.Pairing
