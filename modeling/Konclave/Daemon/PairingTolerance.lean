/-
`Konclave.LocalDaemon`: records that do not belong to an exchange.

Whoever can write to the route of a pairing can put records between those of the two sides.
A replay takes the records in the order of their cursors, and a record it cannot use is an
error: the row stays where it is, and the next replay meets the same record. The one record
it passes over is a copy of a record of the peer. With copies only, replays and sweeps go as
those of a service that is told which records to pass over.
-/
import Konclave.Daemon.PairingMoves

set_option autoImplicit false

namespace Konclave.Daemon.Pairing

open Protobuf Domain Relay Cryptographic Hosted PairingOperationState Relation

/-! ## Passing over records -/

section

variable {ω : Type} (service : PairingService ω) (log : RouteLogs) (times : ℕ → Prop)
  (inserted : StoredRelayEnvelope → Bool)

/-- Every inserted record that the row has not come to is a copy of a record of the peer: of
one the row has observed, or of one that is before it in the log. It does not expire at the
times in question, and what the row believes about its own cursors is what the log says. -/
structure Copied (row : PairingCheckpoint) : Prop where
  accepted : ∀ outbound ∈ row.state.outbounds, ∀ cursor ∈ outbound.accepted_cursor,
    ∃ stored, log row.routing_id cursor = some stored ∧ stored.envelope = outbound.envelope
  unexpired : ∀ stored, log row.routing_id stored.cursor = some stored →
    row.replay_cursor < stored.cursor → inserted stored = true →
    ∀ now, times now → now < stored.envelope.expires_at_unix_seconds
  copies : ∀ stored, log row.routing_id stored.cursor = some stored →
    row.replay_cursor < stored.cursor → inserted stored = true →
    (∃ observed ∈ row.state.observations,
      Copies service.suite row.state.role stored observed)
    ∨ ∃ original, log row.routing_id original.cursor = some original
      ∧ row.replay_cursor < original.cursor ∧ original.cursor < stored.cursor
      ∧ Copies service.suite row.state.role stored original

/-- The records that stop a row: those it cannot open, that are expired, that use its own name
without being its own, that it has no use for, or that repeat an identifier or a stage of
another record. -/
inductive Refused (row : PairingCheckpoint) (stored : StoredRelayEnvelope) : Prop
  | unopened (closed : ∀ pairing,
      ¬ Seals service.suite row.state.capability stored.envelope pairing)
  | expired {pairing : PairingEnvelope}
      (decodes : service.suite.pairing_envelope.decode stored.envelope.payload = .ok pairing)
      (late : ∀ now, times now → pairing.expires_at_unix_seconds ≤ now)
  | own_name {pairing : PairingEnvelope}
      (decodes : service.suite.pairing_envelope.decode stored.envelope.payload = .ok pairing)
      (own : pairing.sender = local_sender row.state.role)
      (unsent : ∀ outbound ∈ row.state.outbounds, outbound.envelope ≠ stored.envelope)
      (undrawn : ¬ service.Draws stored.envelope.envelope_id)
  | unexpected {pairing : PairingEnvelope}
      (decodes : service.suite.pairing_envelope.decode stored.envelope.payload = .ok pairing)
      (peer : pairing.sender ≠ local_sender row.state.role)
      (untaken : takes row.phase pairing.stage = false)
      (unobserved : ∀ observed ∈ row.state.observations,
        service.suite.pairing_envelope.decode observed.envelope.payload ≠ .ok pairing)
  | repeated {pairing existing : PairingEnvelope} {observed : StoredRelayEnvelope}
      (decodes : service.suite.pairing_envelope.decode stored.envelope.payload = .ok pairing)
      (peer : pairing.sender ≠ local_sender row.state.role)
      (mem : observed ∈ row.state.observations)
      (exists_decodes :
        service.suite.pairing_envelope.decode observed.envelope.payload = .ok existing)
      (shares : existing.message_id = pairing.message_id ∨ existing.stage = pairing.stage)
      (differs : existing ≠ pairing)

end

section

variable {ω : Type} {service : PairingService ω} {log : RouteLogs} {times : ℕ → Prop}
  {inserted : StoredRelayEnvelope → Bool} {row row' : PairingCheckpoint}
  {stored : StoredRelayEnvelope} {pairing_id : PairingId} {now : ℕ}
  {pairings : PairingTable}

/-! ## Copies are passed over -/

/-- One record is passed at a time: the one that the log has at the next cursor. -/
theorem Passes.unique {stored' : StoredRelayEnvelope} {pairing pairing' : PairingEnvelope}
    (h : Passes service log times row row' stored pairing)
    (h' : Passes service log times row row' stored' pairing') :
    stored' = stored ∧ pairing' = pairing := by
  have hlogged := h'.logged
  rw [h'.next, ← h.next, h.logged] at hlogged
  cases hlogged
  have hdec := h'.seals.decodes
  rw [h.seals.decodes] at hdec
  cases hdec
  exact ⟨rfl, rfl⟩

/-- What was observed stays observed. -/
theorem Moves.observed (h : Moves service log times row row') {observed : StoredRelayEnvelope}
    (hmem : observed ∈ row.state.observations) : observed ∈ row'.state.observations := by
  rcases h.advances with ⟨-, hobservations⟩ | ⟨-, ⟨-, -, hobservations⟩ | ⟨-, -, -, hobservations⟩
    | ⟨-, -, -, hobservations⟩⟩ <;> rw [hobservations]
  · exact hmem
  · exact hmem
  · exact hmem
  · exact List.mem_append_left _ hmem

/-- A row moves by one record at most. -/
theorem Moves.cursor (h : Moves service log times row row') :
    row'.replay_cursor = row.replay_cursor ∨ ∃ stored pairing,
      Passes service log times row row' stored pairing := by
  cases h.advances with
  | stays hcursor => exact .inl hcursor
  | takes hpasses => exact .inr ⟨_, _, hpasses⟩

/-- The next record is passed as soon as the cursor is not before it. -/
theorem Moves.passes (h : Moves service log times row row')
    (hlog : log row.routing_id stored.cursor = some stored)
    (hcursor : row.replay_cursor < stored.cursor) (hpast : stored.cursor ≤ row'.replay_cursor) :
    ∃ pairing, Passes service log times row row' stored pairing := by
  rcases h.cursor with hsame | ⟨passed, pairing, hpasses⟩
  · omega
  · have hat : passed.cursor = stored.cursor := by
      have := hpasses.next
      have := hpasses.cursor
      omega
    have hlogged := hpasses.logged
    rw [hat, hlog] at hlogged
    cases hlogged
    exact ⟨pairing, hpasses⟩

theorem Moves.taken (h : Moves service log times row row') {pairing : PairingEnvelope}
    (hpasses : Passes service log times row row' stored pairing) :
    Taken service row row' stored pairing := by
  cases h.advances with
  | stays hstays =>
    have := hpasses.next
    have := hpasses.cursor
    omega
  | takes hpasses' htaken =>
    obtain ⟨rfl, rfl⟩ := hpasses'.unique hpasses
    exact htaken

/-- The record of the peer that a row moves past is among its observations, or a copy is. -/
theorem Moves.passed (h : Moves service log times row row') {pairing : PairingEnvelope}
    (hpasses : Passes service log times row row' stored pairing)
    (hpeer : pairing.sender ≠ local_sender row.state.role) :
    ∃ observed ∈ row'.state.observations,
      Copies service.suite row.state.role stored observed := by
  cases h.taken hpasses with
  | echoes hown => exact absurd hown hpeer
  | repeats _ hcopies _ hobservations =>
    rw [hobservations]
    exact hcopies
  | adds _ _ _ hobservations =>
    rw [hobservations]
    have hdec := hpasses.seals.decodes
    exact ⟨_, List.mem_append_right _ List.mem_cons_self, rfl, _, hdec, hdec, hpeer⟩

theorem Copied.moves (h : Copied service log times inserted row)
    (hmoves : Moves service log times row row') : Copied service log times inserted row' := by
  have hroute := hmoves.routing_id
  have hrole := hmoves.continues.role
  have hle : row.replay_cursor ≤ row'.replay_cursor := by
    rcases hmoves.cursor with hcursor | ⟨passed, _, hpasses⟩
    · exact hcursor.ge
    · have := hpasses.next
      have := hpasses.cursor
      omega
  constructor
  · intro outbound hmem cursor hcursor
    rw [hroute]
    rcases hmoves.continues.outbounds outbound hmem with
      ⟨before, hbefore, henvelope, hsame | ⟨stored, hlog, hstored, haccepted⟩⟩ | ⟨hnone, -⟩
    · rw [hsame] at hcursor
      rw [← henvelope]
      exact h.accepted before hbefore cursor hcursor
    · rw [haccepted] at hcursor
      cases hcursor
      exact ⟨stored, hlog, hstored⟩
    · rw [hnone] at hcursor
      cases hcursor
  · intro stored hlog hcursor
    rw [hroute] at hlog
    exact h.unexpired stored hlog (by omega)
  · intro stored hlog hcursor hinserted
    rw [hroute] at hlog
    rw [hroute, hrole]
    rcases h.copies stored hlog (by omega) hinserted with
      ⟨observed, hmem, hcopies⟩ | ⟨original, horiginal, hafter, hbefore, hcopies⟩
    · exact .inl ⟨observed, hmoves.observed hmem, hcopies⟩
    · by_cases hpassed : original.cursor ≤ row'.replay_cursor
      · -- the original is what the row has just moved past
        obtain ⟨pairing, hpasses⟩ := hmoves.passes horiginal hafter hpassed
        obtain ⟨pairing', -, hdec, hpeer⟩ := hcopies.pairing_eq
        rw [hpasses.seals.decodes] at hdec
        cases hdec
        obtain ⟨observed, hmem, hcopies'⟩ := hmoves.passed hpasses hpeer
        exact .inl ⟨observed, hmem, hcopies.trans hcopies'⟩
      · exact .inr ⟨original, horiginal, by omega, hbefore, hcopies⟩

/-- The rows of a journal whose inserted records are copies. -/
def AllCopied (service : PairingService ω) (log : RouteLogs) (times : ℕ → Prop)
    (inserted : StoredRelayEnvelope → Bool) (pairings : PairingTable) : Prop :=
  ∀ id row, pairings.get? id = some row → Copied service log times inserted row

theorem AllCopied.evolves {later : PairingTable}
    (h : AllCopied service log times inserted pairings)
    (hevolves : Evolves (Moves service log times) pairings later) :
    AllCopied service log times inserted later := fun id _ hrow =>
  hevolves.invariant (fun _ _ hmoves hcopied => hcopied.moves hmoves) (h id) hrow

/-- The journal during a page of one pairing. -/
def OnRoute (service : PairingService ω) (log : RouteLogs) (times : ℕ → Prop)
    (inserted : StoredRelayEnvelope → Bool) (pairing_id : PairingId) (route : RoutingId)
    (pairings : PairingTable) : Prop :=
  AllCopied service log times inserted pairings
    ∧ ∀ row, pairings.get? pairing_id = some row → row.routing_id = route

theorem OnRoute.evolves {later : PairingTable} {route : RoutingId}
    (hevolves : Evolves (Replays service log times) pairings later)
    (h : OnRoute service log times inserted pairing_id route pairings) :
    OnRoute service log times inserted pairing_id route later := by
  have hmoves := hevolves.mono fun _ _ hstep => hstep.toMoves
  refine ⟨h.1.evolves hmoves, fun row hrow => ?_⟩
  exact hmoves.invariant (fun _ _ hstep heq => hstep.routing_id.trans heq) h.2 hrow

/-- A record that is refused goes on being refused, whatever else is replayed before it. -/
theorem Refused.replays (h : Refused service times row stored)
    (hreplays : Replays service log times row row') : Refused service times row' stored := by
  have hcontinues := hreplays.continues
  cases h with
  | unopened hclosed =>
    refine .unopened fun pairing hseals => hclosed pairing ?_
    rwa [hcontinues.capability] at hseals
  | expired hdec hlate => exact .expired hdec hlate
  | own_name hdec hown hunsent hundrawn =>
    refine .own_name hdec (hcontinues.role ▸ hown) (fun outbound hmem heq => ?_) hundrawn
    rcases hcontinues.outbounds outbound hmem with ⟨before, hbefore, hsame, -⟩ | ⟨-, hdrawn⟩
    · exact hunsent before hbefore (hsame.trans heq)
    · exact hundrawn (heq ▸ hdrawn)
  | @unexpected pairing hdec hpeer huntaken hunobserved =>
    refine .unexpected hdec (hcontinues.role ▸ hpeer) ?_ fun observed hmem hobserved => ?_
    · cases htakes : takes row'.phase pairing.stage with
      | false => rfl
      | true =>
        rw [hreplays.narrows _ htakes] at huntaken
        cases huntaken
    · rcases hreplays.advances with ⟨-, hsame⟩ | ⟨hpasses, ⟨-, -, hsame⟩ | ⟨-, -, -, hsame⟩
        | ⟨-, -, hexpected, hadded⟩⟩
      · exact hunobserved observed (hsame ▸ hmem) hobserved
      · exact hunobserved observed (hsame ▸ hmem) hobserved
      · exact hunobserved observed (hsame ▸ hmem) hobserved
      · rw [hadded] at hmem
        rcases List.mem_append.1 hmem with hold | hnew
        · exact hunobserved observed hold hobserved
        · -- what is added is of a stage that is taken
          rw [List.mem_singleton.1 hnew, hpasses.seals.decodes] at hobserved
          cases hobserved
          rw [huntaken] at hexpected
          cases hexpected
  | repeated hdec hpeer hmem hexisting hshares hdiffers =>
    exact .repeated hdec (hcontinues.role ▸ hpeer) (hreplays.toMoves.observed hmem) hexisting
      hshares hdiffers

/-! ## Runs

Replays and sweeps at any times, with whatever the daemon does to its pairings between. -/

inductive ReplayCall (ω : Type)
  | replay_once (pairing_id : PairingId) (now_unix_seconds : ℕ)
  | sync_active_once (now_unix_seconds : ℕ)
  | elsewhere (change : PairingTable → ω → PairingTable × ω)

/-- The call is at one of the times in question, or a change that moves rows as `R` allows. -/
def ReplayCall.Within (times : ℕ → Prop) (R : PairingCheckpoint → PairingCheckpoint → Prop) :
    ReplayCall ω → Prop
  | .replay_once _ now | .sync_active_once now => times now
  | .elsewhere change => ∀ pairings w, Evolves R pairings (change pairings w).1

section

variable (service) (process : ℕ → PairingId → StoredRelayEnvelope → Service ω Unit)

/-- What a call answers and leaves, when records are processed so. -/
def ReplayCall.run (pairings : PairingTable) (w : ω) :
    ReplayCall ω → Except PairingServiceError ℕ × PairingTable × ω
  | .replay_once pairing_id now =>
    (service.replay_through pairing_id now (process now pairing_id)).exec pairings w
  | .sync_active_once now => (service.sync_through now (process now)).exec pairings w
  | .elsewhere change => (.ok 0, change pairings w)

def run_calls (pairings : PairingTable) (w : ω) :
    List (ReplayCall ω) → List (Except PairingServiceError ℕ) × PairingTable × ω
  | [] => ([], pairings, w)
  | call :: rest =>
    let step := call.run service process pairings w
    let later := run_calls step.2.1 step.2.2 rest
    (step.1 :: later.1, later.2)

end

/-- The calls of the service itself. -/
def PairingService.run (service : PairingService ω) (pairings : PairingTable) (w : ω)
    (calls : List (ReplayCall ω)) : List (Except PairingServiceError ℕ) × PairingTable × ω :=
  run_calls service (fun now pairing_id => service.process_stored pairing_id now) pairings w calls

example (service : PairingService ω) (pairings : PairingTable) (w : ω) (pairing_id : PairingId)
    (now : ℕ) : service.run pairings w [.replay_once pairing_id now, .sync_active_once now]
    = let replayed := (service.replay_once pairing_id now).exec pairings w
      let swept := (service.sync_active_once now).exec replayed.2.1 replayed.2.2
      ([replayed.1, swept.1], swept.2) := rfl

variable {calls : List (ReplayCall ω)} {w : ω} {call : ReplayCall ω}
  {R : PairingCheckpoint → PairingCheckpoint → Prop}

end

/-! ## A joiner that waits for invitations

The relay has one list of records for each route. The joiner has shared two capabilities, and
one inviter has answered each. Encodings name a value by its place in a list. -/

namespace Scene

/-- As many zeros as the place of the value says. -/
def enumerated {α : Type} [DecidableEq α] (values : List α) : Codec α where
  encode value := match values.findIdx? (· = value) with
    | some place => .ok (List.replicate (place + 1) 0)
    | none => .error (.MissingField "value")
  decode bytes := some_or values[bytes.length - 1]? (.MissingField "value")
  decode_encode value bytes h := by
    split at h
    · rename_i place hplace
      cases h
      obtain ⟨hlt, hvalue, -⟩ := List.findIdx?_eq_some_iff_getElem.1 hplace
      rw [List.length_replicate, Nat.add_sub_cancel, List.getElem?_eq_getElem hlt]
      exact congrArg _ (of_decide_eq_true hvalue)
    · cases h

def joiner : DeviceId := .repeated 32 1
def inviter : DeviceId := .repeated 32 2
def conversation_id : ConversationId := .repeated 32 3
def DEADLINE : ℕ := 600

/-- The two pairings, in the order of their identifiers. -/
def first : PairingId := .repeated 16 4
def second : PairingId := .repeated 16 5

def route (pairing_id : PairingId) : RoutingId :=
  ⟨pairing_id.bytes ++ pairing_id.bytes, by rw [List.length_append, pairing_id.length_eq]⟩

def capability (pairing_id : PairingId) : PairingCapability where
  offer := ⟨.application_v1, pairing_id, joiner, joiner, .Member, DEADLINE, .repeated 32 0,
    .repeated 64 0, by decide⟩
  secret := .repeated 32 0
  relay_endpoint := "relay"

def invitation_payload : PairingInvitationPayload where
  invitation := ⟨.application_v1, .repeated 16 0, conversation_id, some (.repeated 32 0), joiner,
    .Member, DEADLINE, .repeated 32 0, inviter, .repeated 64 0, none, by decide, nofun⟩
  issuer_public_key := inviter
  peer_bindings := [⟨.application_v1, inviter, conversation_id, .Ed25519, inviter, inviter,
    .repeated 64 0, 0, none, no_capabilities⟩]
  routed := rfl
  peers_range := by decide
  peers_nodup := by decide
  peers := by decide
  issuer := ⟨_, List.mem_cons_self, rfl, rfl⟩

/-- The payload is one zero, and its tag sixteen. -/
def invitation (pairing_id : PairingId) : PairingEnvelope :=
  ⟨.application_v1, pairing_id, .repeated 16 0, .Inviter, .Invitation, none, DEADLINE,
    .repeated 12 0, List.replicate 17 0, by decide, by decide, by decide, rfl⟩

def suite : PairingSuite where
  identity := ⟨id, fun _ _ _ => true, fun _ _ => .repeated 32 0⟩
  routing_id pairing_id _ := route pairing_id
  pairing_context_hash _ _ _ := .repeated 32 0
  cipher_seal _ _ plaintext := .ok (plaintext ++ List.replicate 16 0)
  cipher_open _ _ ciphertext := .ok (ciphertext.take (ciphertext.length - 16))
  cipher_open_seal _ _ plaintext ciphertext h := by
    cases h
    rw [List.length_append, List.length_replicate, Nat.add_sub_cancel, List.take_left]
  pairing_envelope := enumerated [invitation first, invitation second]
  pairing_invitation := enumerated [invitation_payload]
  join_proof := enumerated []
  invitation := enumerated [invitation_payload.invitation]
  pairing_welcome := enumerated []
  pairing_control := enumerated []
  parse_capability text := .ok (capability (if text = "first" then first else second))
  encode_capability other :=
    if other = capability first then .ok "first"
    else if other = capability second then .ok "second"
    else .error .InvalidPairingCapability
  parse_encode_capability other text h := by
    split at h
    · rename_i heq
      cases h
      rw [heq, if_pos rfl]
    · split at h
      · rename_i heq
        cases h
        rw [heq, if_neg (by decide)]
      · cases h
  state_length _ _ _ := 0

/-- The records of each route, in the order of their cursors. -/
abbrev Records : Type := RoutingId → List StoredRelayEnvelope

def replay (records : Records) (request : ReplayRequest) : Except KonclaveClientError ReplayPage :=
  let later := (records request.routing_id).filter (request.after_cursor < ·.cursor)
  let page := later.take request.limit
  let next_cursor := page.getLast?.elim request.after_cursor (·.cursor)
  (ReplayPage.new page next_cursor (decide (request.limit < later.length))).mapError
    fun _ => .InvalidResponse

/-- The joiner's daemon; nothing but records of its peers is to come. -/
def daemon (records : Records) : PairingService Unit where
  suite := suite
  root := .ledger [] nofun
  mls_welcome := .ok
  generate_pairing_message_id w := (.error .PairingAuthenticationFailed, w)
  fill_random w := (.error .PairingAuthenticationFailed, w)
  try_begin w := (.ok (), w)
  device_id w := (.ok joiner, w)
  sign_pairing_control _ _ _ _ _ w := (.error .StateUnavailable, w)
  complete_pairing_join _ w := (.ok (), w)
  accept_pairing_welcome _ _ _ w := (.error .Task, w)
  resume_add_member _ _ _ w := (.error .Task, w)
  add_member _ _ _ _ w := (.error .Task, w)
  remove_member _ _ _ _ w := (.error .Task, w)
  submit _ w := (.error .TransportUnavailable, w)
  replay request w := (replay records request, w)
  acknowledge request w := (.ok request, w)

def log (records : Records) : RouteLogs := fun routing_id cursor =>
  (records routing_id).find? fun stored => stored.cursor = cursor

/-- A record on the route of a pairing, with the place of what it carries. -/
def relayed (pairing_id : PairingId) (envelope_id : UInt8) (place : Fin 3) : RelayEnvelope where
  version := .application_v1
  routing_id := route pairing_id
  envelope_id := .repeated 16 envelope_id
  delivery_class := .Pairing
  expected_parent_epoch := none
  expires_at_unix_seconds := DEADLINE
  payload := List.replicate (place + 1) 0
  payload_range := by
    have hmax : 4 ≤ MAX_RELAY_PAYLOAD_BYTES := by decide
    rw [List.length_replicate]
    omega
  expires_pos := by decide
  epoch_presence := rfl

def row (pairing_id : PairingId) : PairingCheckpoint :=
  ⟨pairing_id, route pairing_id, .Joiner, .JoinerAwaitingInvitation, DEADLINE, none, 0, 1,
    ⟨.Joiner, capability pairing_id, none, [], []⟩⟩

def pairings : PairingTable := ⟨⟨[row first, row second], by decide⟩, by decide⟩

/-- The invitation of the second pairing is all its route has. -/
def on_routes (records : List StoredRelayEnvelope) : Records := fun routing_id =>
  if routing_id = route first then records
  else if routing_id = route second then [⟨relayed second 1 1, 1, Nat.one_pos⟩]
  else []

/-- How far both pairings come with some records on the first route. -/
def reached (records : List StoredRelayEnvelope) (calls : List (ReplayCall Unit)) :
    List (Option (PairingPhase × ℕ)) :=
  let later := ((daemon (on_routes records)).run pairings () calls).2.1
  [first, second].map fun pairing_id =>
    (later.get? pairing_id).map fun row => (row.phase, row.replay_cursor)

end Scene

/-! ## What inserted records do to a run -/

open Scene

end Konclave.Daemon.Pairing
