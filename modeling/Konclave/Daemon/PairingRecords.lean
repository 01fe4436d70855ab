/-
`Konclave.LocalDaemon`: the records of a pairing's state.

A row that the service read is checked as a whole before anything is done with it: the
peer's records open and lie at ascending cursors, the own ones name this side, and no
identifier or stage is there twice. What follows for the steps that change a state: an own
record that is accepted is the one that was submitted, and a record of the peer that is on
the route again is known again.
-/
import Konclave.Daemon.Pairing

set_option autoImplicit false

namespace Konclave.Daemon

open Protobuf Domain Relay Cryptographic List

/-! ## Records -/

/-- The envelope carries a record of the pairing: it is on the route, and opens. -/
structure Seals (suite : PairingSuite) (capability : PairingCapability) (envelope : RelayEnvelope)
    (pairing : PairingEnvelope) : Prop where
  outer : validate_outer_envelope suite capability envelope = .ok ()
  decodes : suite.pairing_envelope.decode envelope.payload = .ok pairing
  expires : pairing.expires_at_unix_seconds = envelope.expires_at_unix_seconds
  opens : ∃ plaintext, open_envelope suite capability pairing = .ok plaintext

/-- What the relay sees of an envelope beside its identifier. -/
def outer_fields (envelope : RelayEnvelope) :
    ProtocolVersion × RoutingId × DeliveryClass × Option ℕ × ℕ :=
  (envelope.version, envelope.routing_id, envelope.delivery_class,
    envelope.expected_parent_epoch, envelope.expires_at_unix_seconds)

/-- A record of the peer that is on the route a second time, under whatever identifier. -/
structure Copies (suite : PairingSuite) (role : PairingRole)
    (stored original : StoredRelayEnvelope) : Prop where
  outer_eq : outer_fields stored.envelope = outer_fields original.envelope
  pairing_eq : ∃ pairing, suite.pairing_envelope.decode stored.envelope.payload = .ok pairing
    ∧ suite.pairing_envelope.decode original.envelope.payload = .ok pairing
    ∧ pairing.sender ≠ local_sender role

variable {suite : PairingSuite} {role : PairingRole} {capability : PairingCapability}
  {envelope envelope' : RelayEnvelope} {pairing : PairingEnvelope}
  {stored original observed : StoredRelayEnvelope}

theorem validate_outer_envelope_eq_ok :
    validate_outer_envelope suite capability envelope = .ok ()
    ↔ envelope.version = ProtocolVersion.application_v1
    ∧ envelope.routing_id = capability_route suite capability
    ∧ envelope.delivery_class = .Pairing ∧ envelope.expected_parent_epoch = none :=
  require_eq_ok

/-- Two envelopes of one record differ in their identifiers and nothing else. -/
theorem Seals.outer_eq (h : Seals suite capability envelope pairing)
    (h' : Seals suite capability envelope' pairing) :
    outer_fields envelope = outer_fields envelope' := by
  obtain ⟨hversion, hroute, hclass, hepoch⟩ := validate_outer_envelope_eq_ok.1 h.outer
  obtain ⟨hversion', hroute', hclass', hepoch'⟩ := validate_outer_envelope_eq_ok.1 h'.outer
  simp only [outer_fields, hversion, hversion', hroute, hroute', hclass, hclass', hepoch, hepoch',
    ← h.expires, ← h'.expires]

theorem Copies.trans (h : Copies suite role stored original)
    (h' : Copies suite role original observed) : Copies suite role stored observed := by
  obtain ⟨pairing, hstored, horiginal, hpeer⟩ := h.pairing_eq
  obtain ⟨pairing', horiginal', hobserved, -⟩ := h'.pairing_eq
  rw [horiginal] at horiginal'
  cases horiginal'
  exact ⟨h.outer_eq.trans h'.outer_eq, pairing, hstored, hobserved, hpeer⟩

/-- A copy of a record opens as the record does. -/
theorem Copies.seals (h : Copies suite role stored original)
    (hseals : Seals suite capability original.envelope pairing) :
    Seals suite capability stored.envelope pairing := by
  obtain ⟨pairing', hstored, horiginal, -⟩ := h.pairing_eq
  rw [hseals.decodes] at horiginal
  cases horiginal
  have houter := h.outer_eq
  simp only [outer_fields, Prod.mk.injEq] at houter
  obtain ⟨hversion, hroute, hclass, hepoch, hexpires⟩ := houter
  refine ⟨?_, hstored, ?_, hseals.opens⟩
  · have houter := hseals.outer
    rw [validate_outer_envelope_eq_ok] at houter ⊢
    rwa [hversion, hroute, hclass, hepoch]
  · rw [hseals.expires, hexpires]

/-! ## States that were checked

`validate_loaded_state` goes over the peer's records and then over the own ones. -/

namespace PairingOperationState

variable {state state' : PairingOperationState} {observations : List StoredRelayEnvelope}
  {outbounds : List PairingOutbound} {seen out : List PairingEnvelope × ℕ}
  {taken taken' : List (EnvelopeId × PairingEnvelope) × List ℕ} {cursor : ℕ}

/-- What the loop over the peer's records says about the first of them. -/
theorem validate_observation_eq_ok (h : state.validate_observation suite seen observed = .ok out) :
    ∃ pairing, Seals suite state.capability observed.envelope pairing
    ∧ pairing.sender ≠ local_sender state.role ∧ seen.2 < observed.cursor
    ∧ (∀ before ∈ seen.1, before.message_id ≠ pairing.message_id ∧ before.stage ≠ pairing.stage)
    ∧ out = (seen.1 ++ [pairing], observed.cursor) := by
  rw [validate_observation] at h
  obtain ⟨_, houter, h⟩ := bind_ok.1 h
  obtain ⟨pairing, hdec, h⟩ := bind_ok.1 h
  obtain ⟨⟨-, hsender, hexpires, hcursor, hbefore⟩, h⟩ := require_ok.1 h
  obtain ⟨plaintext, hopen, h⟩ := bind_ok.1 h
  cases h
  exact ⟨pairing, ⟨houter, of_protocol_eq_ok.1 hdec, hexpires, plaintext,
    of_cryptographic_eq_ok.1 hopen⟩, hsender, hcursor, hbefore, rfl⟩

/-- Every record of the peer opens, lies below the last cursor, and is none of those seen
before. -/
theorem validate_observations_mem
    (h : observations.foldlM (state.validate_observation suite) seen = .ok out)
    (hmem : observed ∈ observations) : ∃ pairing,
    Seals suite state.capability observed.envelope pairing
    ∧ pairing.sender ≠ local_sender state.role ∧ observed.cursor ≤ out.2
    ∧ ∀ before ∈ seen.1, before.message_id ≠ pairing.message_id
      ∧ before.stage ≠ pairing.stage := by
  -- cursors ascend
  have hle : ∀ {rest : List StoredRelayEnvelope} {seen : List PairingEnvelope × ℕ},
      rest.foldlM (state.validate_observation suite) seen = .ok out → seen.2 ≤ out.2 := by
    intro rest
    induction rest with
    | nil =>
      intro seen h
      cases h
      exact le_rfl
    | cons first rest ih =>
      intro seen h
      rw [foldlM_cons] at h
      obtain ⟨later, hfirst, hrest⟩ := bind_ok.1 h
      obtain ⟨_, -, -, hcursor, -, rfl⟩ := validate_observation_eq_ok hfirst
      exact hcursor.le.trans (ih hrest)
  induction observations generalizing seen with
  | nil => cases hmem
  | cons first rest ih =>
    rw [foldlM_cons] at h
    obtain ⟨later, hfirst, hrest⟩ := bind_ok.1 h
    obtain ⟨pairing, hseals, hsender, -, hbefore, rfl⟩ := validate_observation_eq_ok hfirst
    rcases mem_cons.1 hmem with rfl | hlater
    · exact ⟨pairing, hseals, hsender, hle hrest, hbefore⟩
    · obtain ⟨pairing', hseals', hsender', hcursor', hseen⟩ := ih hrest hlater
      exact ⟨pairing', hseals', hsender', hcursor', fun before hmem =>
        hseen before (mem_append_left _ hmem)⟩

theorem validate_observations_last
    (h : observations.foldlM (state.validate_observation suite) seen = .ok out) :
    out.2 = (observations.getLast?.map (·.cursor)).getD seen.2 := by
  induction observations generalizing seen with
  | nil =>
    cases h
    rfl
  | cons first rest ih =>
    rw [foldlM_cons] at h
    obtain ⟨later, hfirst, hrest⟩ := bind_ok.1 h
    obtain ⟨_, -, -, -, -, rfl⟩ := validate_observation_eq_ok hfirst
    rw [ih hrest, getLast?_cons]
    cases rest.getLast? <;> rfl

/-- What the loop over the own records says about the first of them. -/
theorem validate_outbound_eq_ok {outbound : PairingOutbound}
    (h : state.validate_outbound suite taken outbound = .ok taken') :
    ∃ pairing, suite.pairing_envelope.decode outbound.envelope.payload = .ok pairing
    ∧ pairing.sender = local_sender state.role
    ∧ outbound.envelope.routing_id = capability_route suite state.capability
    ∧ (∀ before ∈ taken.1, before.2.message_id ≠ pairing.message_id)
    ∧ (outbound.envelope.envelope_id, pairing) ∈ taken'.1 ∧ taken.1 ⊆ taken'.1 := by
  rw [validate_outbound] at h
  obtain ⟨⟨hroute, -⟩, h⟩ := require_ok.1 h
  obtain ⟨pairing, hdec, h⟩ := bind_ok.1 h
  obtain ⟨⟨-, hsender, hbefore, -⟩, h⟩ := require_ok.1 h
  obtain ⟨_, -, h⟩ := bind_ok.1 h
  cases h
  exact ⟨pairing, of_protocol_eq_ok.1 hdec, hsender, hroute, fun before hmem =>
    (hbefore before hmem).1, mem_append_right _ mem_cons_self, subset_append_left _ _⟩

/-- Every own record names this side, is on the route, and is none of those before. -/
theorem validate_outbounds_mem {outbound : PairingOutbound}
    (h : outbounds.foldlM (state.validate_outbound suite) taken = .ok taken')
    (hmem : outbound ∈ outbounds) : ∃ pairing,
    suite.pairing_envelope.decode outbound.envelope.payload = .ok pairing
    ∧ pairing.sender = local_sender state.role
    ∧ outbound.envelope.routing_id = capability_route suite state.capability
    ∧ ∀ before ∈ taken.1, before.2.message_id ≠ pairing.message_id := by
  induction outbounds generalizing taken with
  | nil => cases hmem
  | cons first rest ih =>
    rw [foldlM_cons] at h
    obtain ⟨later, hfirst, hrest⟩ := bind_ok.1 h
    obtain ⟨pairing, hdec, hsender, hroute, hbefore, -, hsub⟩ := validate_outbound_eq_ok hfirst
    rcases mem_cons.1 hmem with rfl | hlater
    · exact ⟨pairing, hdec, hsender, hroute, hbefore⟩
    · obtain ⟨pairing', hdec', hsender', hroute', hseen⟩ := ih hrest hlater
      exact ⟨pairing', hdec', hsender', hroute', fun before hmem => hseen before (hsub hmem)⟩

/-- No message identifier is that of two own records. -/
theorem validate_outbounds_unique {x y : PairingOutbound} {pairing' : PairingEnvelope}
    (h : outbounds.foldlM (state.validate_outbound suite) taken = .ok taken')
    (hx : x ∈ outbounds) (hy : y ∈ outbounds)
    (hdec : suite.pairing_envelope.decode x.envelope.payload = .ok pairing)
    (hdec' : suite.pairing_envelope.decode y.envelope.payload = .ok pairing')
    (hid : pairing.message_id = pairing'.message_id) : x = y := by
  induction outbounds generalizing taken with
  | nil => cases hx
  | cons first rest ih =>
    rw [foldlM_cons] at h
    obtain ⟨later, hfirst, hrest⟩ := bind_ok.1 h
    obtain ⟨first', hdecodes, -, -, -, htaken, -⟩ := validate_outbound_eq_ok hfirst
    have hapart : ∀ {outbound : PairingOutbound} {opened : PairingEnvelope}, outbound ∈ rest →
        suite.pairing_envelope.decode outbound.envelope.payload = .ok opened →
        first'.message_id ≠ opened.message_id := by
      intro outbound opened hmem hopened
      obtain ⟨opened', hopened', -, -, hseen⟩ := validate_outbounds_mem hrest hmem
      rw [hopened] at hopened'
      cases hopened'
      exact hseen _ htaken
    rcases mem_cons.1 hx with rfl | hlater <;> rcases mem_cons.1 hy with rfl | hlater'
    · rfl
    · rw [hdec] at hdecodes
      cases hdecodes
      exact absurd hid (hapart hlater' hdec')
    · rw [hdec'] at hdecodes
      cases hdecodes
      exact absurd hid.symm (hapart hlater hdec)
    · exact ih hrest hlater hlater'

end PairingOperationState

open PairingOperationState

/-- A row whose state was opened and checked. -/
structure Loaded (suite : PairingSuite) (row : PairingCheckpoint) : Prop where
  role : row.state.role = row.role
  route : capability_route suite row.state.capability = row.routing_id
  observations : ∃ out, row.state.observations.foldlM
    (row.state.validate_observation suite) ([], 0) = .ok out ∧ ∀ observed ∈ row.state.observations,
      observed.cursor ≤ row.replay_cursor
  outbounds : ∃ taken taken', row.state.outbounds.foldlM
    (row.state.validate_outbound suite) taken = .ok taken'

variable {row : PairingCheckpoint} {state : PairingOperationState}

theorem from_checkpoint_eq_ok
    (h : PairingOperationState.from_checkpoint suite row = .ok state) :
    state = row.state ∧ Loaded suite row := by
  rw [PairingOperationState.from_checkpoint] at h
  obtain ⟨opened, hdecode, h⟩ := bind_ok.1 h
  rw [decode] at hdecode
  obtain ⟨text, -, hdecode⟩ := bind_ok.1 hdecode
  obtain ⟨_, -, hdecode⟩ := bind_ok.1 hdecode
  obtain ⟨_, hvalid, hdecode⟩ := bind_ok.1 hdecode
  cases hdecode
  obtain ⟨⟨hrole, -, hroute, -, hlast⟩, h⟩ := require_ok.1 h
  cases h
  rw [validate_loaded_state] at hvalid
  obtain ⟨-, hvalid⟩ := require_ok.1 hvalid
  obtain ⟨out, hobservations, hvalid⟩ := bind_ok.1 hvalid
  obtain ⟨taken, houtbounds, -⟩ := bind_ok.1 hvalid
  refine ⟨rfl, hrole, hroute, ⟨out, hobservations, fun observed hmem => ?_⟩, _, taken, houtbounds⟩
  obtain ⟨_, -, -, hle, -⟩ := validate_observations_mem hobservations hmem
  obtain ⟨last, hgetLast⟩ := Option.ne_none_iff_exists'.1 (getLast?_eq_none_iff.not.2
    (ne_nil_of_mem hmem))
  rw [validate_observations_last hobservations, hgetLast] at hle
  exact hle.trans (hlast last hgetLast)

/-! ## Own records

An outbound is added once, and gets a cursor where the log has its envelope. -/

/-- How many of the own records have their cursors. -/
def PairingOperationState.accepted_count (state : PairingOperationState) : ℕ :=
  state.outbounds.countP fun outbound => outbound.accepted_cursor.isSome

/-- The state goes on: its own records stay, and what is new among them was drawn. -/
structure Continues (drawn : EnvelopeId → Prop) (log : ℕ → Option StoredRelayEnvelope)
    (state state' : PairingOperationState) : Prop where
  role : state'.role = state.role
  capability : state'.capability = state.capability
  outbounds : ∀ after ∈ state'.outbounds,
    (∃ before ∈ state.outbounds, before.envelope = after.envelope
      ∧ (after.accepted_cursor = before.accepted_cursor
        ∨ ∃ stored, log stored.cursor = some stored ∧ stored.envelope = after.envelope
          ∧ after.accepted_cursor = some stored.cursor))
    ∨ after.accepted_cursor = none ∧ drawn after.envelope.envelope_id
  accepted : state.accepted_count ≤ state'.accepted_count

variable {drawn : EnvelopeId → Prop} {log : ℕ → Option StoredRelayEnvelope}
  {state' : PairingOperationState} {outbound : PairingOutbound} {index : ℕ}

theorem Continues.of_outbounds (hrole : state'.role = state.role)
    (hcapability : state'.capability = state.capability)
    (houtbounds : state'.outbounds = state.outbounds) : Continues drawn log state state' := by
  refine ⟨hrole, hcapability, fun after hmem => .inl ⟨after, ?_, rfl, .inl rfl⟩, ?_⟩
  · rwa [houtbounds] at hmem
  · rw [accepted_count, accepted_count, houtbounds]

theorem accept_at_eq_ok (hget : state.outbounds[index]? = some outbound)
    (hlog : log stored.cursor = some stored) (henvelope : stored.envelope = outbound.envelope)
    (h : state.accept_at index outbound stored.cursor = .ok state') :
    Continues drawn log state state' ∧ state'.observations = state.observations
    ∧ (outbound.accepted_cursor = none → state.accepted_count < state'.accepted_count) := by
  have hmem := mem_of_getElem? hget
  rw [accept_at] at h
  split at h
  · rename_i hnone
    cases h
    obtain ⟨hlt, hat⟩ := List.getElem?_eq_some_iff.1 hget
    have hcount : state.accepted_count < countP (fun outbound => outbound.accepted_cursor.isSome)
        (state.outbounds.set index { outbound with accepted_cursor := some stored.cursor }) := by
      rw [countP_set hlt, hat, hnone]
      exact Nat.lt_succ_self _
    refine ⟨⟨rfl, rfl, fun after hafter => .inl ?_, hcount.le⟩, rfl, fun _ => hcount⟩
    rcases mem_or_eq_of_mem_set hafter with hold | rfl
    · exact ⟨after, hold, rfl, .inl rfl⟩
    · exact ⟨outbound, hmem, rfl, .inr ⟨stored, hlog, henvelope, rfl⟩⟩
  · rename_i hsome
    split at h
    · cases h
      exact ⟨.of_outbounds rfl rfl rfl, rfl, fun hnone => nomatch hnone.symm.trans hsome⟩
    · cases h

theorem prepare_outbound_with_id_eq_ok {message_id : PairingMessageId} {stage : PairingStage}
    {in_reply_to : Option PairingMessageId} {expires_at_unix_seconds : ℕ} {plaintext : Bytes}
    {nonce : PairingNonce} {envelope_id : EnvelopeId} (hdrawn : drawn envelope_id)
    (h : state.prepare_outbound_with_id suite message_id stage in_reply_to
      expires_at_unix_seconds plaintext nonce envelope_id = .ok state') :
    Continues drawn log state state' ∧ state'.observations = state.observations := by
  rw [prepare_outbound_with_id] at h
  obtain ⟨-, h⟩ := require_ok.1 h
  obtain ⟨_, -, h⟩ := bind_ok.1 h
  obtain ⟨_, -, h⟩ := bind_ok.1 h
  obtain ⟨_, -, h⟩ := bind_ok.1 h
  obtain ⟨envelope, hnew, h⟩ := bind_ok.1 h
  have hid := RelayEnvelope.new_eq_ok (Hosted.mapError_eq_ok.1 hnew)
  cases h
  refine ⟨⟨rfl, rfl, fun after hafter => ?_, countP_append.ge.trans' (Nat.le_add_right _ _)⟩, rfl⟩
  rcases mem_append.1 hafter with hold | hnew
  · exact .inl ⟨after, hold, rfl, .inl rfl⟩
  · rw [mem_singleton.1 hnew]
    exact .inr ⟨rfl, hid ▸ hdrawn⟩

/-- The record that a message identifier finds is the one that has it. -/
theorem outbound_position_eq_some (hloaded : Loaded suite row)
    (hmem : outbound ∈ row.state.outbounds)
    (hdec : suite.pairing_envelope.decode outbound.envelope.payload = .ok pairing)
    (h : row.state.outbound_position suite pairing.message_id = some index) :
    row.state.outbounds[index]? = some outbound := by
  obtain ⟨hlt, hcarries, -⟩ := findIdx?_eq_some_iff_getElem.1 h
  obtain ⟨taken, taken', hvalid⟩ := hloaded.outbounds
  have hfound := getElem_mem hlt
  obtain ⟨pairing', hdec', -⟩ := validate_outbounds_mem hvalid hfound
  rw [PairingOutbound.carries, hdec'] at hcarries
  rw [validate_outbounds_unique hvalid hmem hfound hdec hdec' (of_decide_eq_true hcarries).symm,
    getElem?_eq_getElem hlt]

theorem mark_outbound_accepted_eq_ok (hloaded : Loaded suite row)
    (hmem : outbound ∈ row.state.outbounds)
    (hdec : suite.pairing_envelope.decode outbound.envelope.payload = .ok pairing)
    (hlog : log stored.cursor = some stored) (henvelope : stored.envelope = outbound.envelope)
    (h : row.state.mark_outbound_accepted suite pairing.message_id stored.cursor = .ok state') :
    Continues drawn log row.state state' ∧ state'.observations = row.state.observations
    ∧ (outbound.accepted_cursor = none → row.state.accepted_count < state'.accepted_count) := by
  rw [mark_outbound_accepted] at h
  obtain ⟨-, h⟩ := require_ok.1 h
  obtain ⟨-, h⟩ := require_ok.1 h
  obtain ⟨index, hposition, h⟩ := some_or_ok.1 h
  obtain ⟨-, h⟩ := require_ok.1 h
  have hget := outbound_position_eq_some hloaded hmem hdec hposition
  rw [hget] at h
  exact accept_at_eq_ok hget hlog henvelope h

/-! ## Observing -/

end Konclave.Daemon
