/-
What the statements on the repeat-pairing journal keep.

The sealed count is the number of rows, the rows and those that are active are bounded,
and every row can be read. With that, a message for the journal is recorded unless it
opens an operation that finds no room.
-/
import Konclave.Daemon.RepeatPairing
import Konclave.Daemon.ReplayChanges
import Mathlib.Data.List.Count

set_option autoImplicit false

namespace Konclave.Daemon

open Domain RepeatPairingOperationState RepeatPairingTable Table List

variable {pairings pairings' : RepeatPairings} {operation_id : RepeatPairingOperationId}
  {current : RepeatPairingPhase} {operations : RepeatPairingTable}

/-! ## Soundness

What every statement on the journal may rely on and keeps. -/

/-- The row can be read. An initiator that waits has made few steps, so that its next
generation is a column's value. -/
structure RepeatPairingCheckpoint.Sound (row : RepeatPairingCheckpoint) : Prop where
  state : seal_repeat_pairing row.state = .ok ()
  sending : row.state.phase = .InitiatorSendingRequest → row.generation ≤ 1
  awaiting : row.state.phase = .InitiatorAwaitingResponse → row.generation ≤ 2

namespace RepeatPairings

structure Sound (pairings : RepeatPairings) : Prop where
  count : pairings.count = repeat_pairing_count pairings.operations
  records : pairings.count ≤ MAX_REPEAT_PAIRING_RECORDS
  active : active_repeat_pairing_count pairings.operations ≤ MAX_ACTIVE_REPEAT_PAIRINGS
  rows : ∀ row ∈ pairings.operations.rows, row.Sound

theorem Sound.empty : empty.Sound := ⟨rfl, by decide, by decide, fun _ hrow => nomatch hrow⟩

theorem Sound.load (h : pairings.Sound) (operation_id : RepeatPairingOperationId) :
    load_repeat_pairing_from pairings operation_id
    = .ok (pairings.operations.get? operation_id) := by
  rw [load_repeat_pairing_from]
  cases hget : pairings.operations.get? operation_id with
  | none => rfl
  | some row =>
    dsimp only
    rw [(h.rows row (get?_iff.1 hget).1).state]
    rfl

/-! ## Reserving

A row is inserted when there is room for it, after the expired rows are gone. -/

/-- After the expired rows are pruned there is room for one more operation. -/
def HasRoom (pairings : RepeatPairings) (operation_id : RepeatPairingOperationId)
    (now : ℕ) : Prop :=
  let operations := without_expired pairings.operations operation_id now
  repeat_pairing_count operations < MAX_REPEAT_PAIRING_RECORDS
    ∧ active_repeat_pairing_count operations < MAX_ACTIVE_REPEAT_PAIRINGS

end RepeatPairings

instance (pairings : RepeatPairings) (operation_id : RepeatPairingOperationId) (now : ℕ) :
    Decidable (pairings.HasRoom operation_id now) := inferInstanceAs (Decidable (_ ∧ _))

variable {state : RepeatPairingOperationState} {now : ℕ} {conversation_id : ConversationId}
  {sender : DeviceId} {sender_root : Ed25519PublicKey}

theorem insert_repeat_pairing_eq_ok : insert_repeat_pairing pairings state now = .ok pairings'
    ↔ now ≤ I64_MAX ∧ pairings.HasRoom state.operation_id now
      ∧ seal_repeat_pairing state = .ok () ∧ state.deadline_unix_seconds ≤ I64_MAX
      ∧ ∃ operations, (without_expired pairings.operations state.operation_id now).insert?
          ⟨1, state⟩ = some operations
        ∧ pairings' = ⟨operations, repeat_pairing_count
          (without_expired pairings.operations state.operation_id now) + 1⟩ := by
  rw [insert_repeat_pairing]
  constructor
  · intro hins
    obtain ⟨_, hnow, h⟩ := bind_ok.1 hins
    obtain ⟨hbound, rfl⟩ := to_sql_integer_ok.1 hnow
    obtain ⟨hroom, h⟩ := require_ok.1 h
    obtain ⟨_, hseal, h⟩ := bind_ok.1 h
    obtain ⟨_, hdue, h⟩ := bind_ok.1 h
    obtain ⟨operations, hinserted, h⟩ := some_or_ok.1 h
    cases h
    exact ⟨hbound, hroom, hseal, (to_sql_integer_ok.1 hdue).1, operations, hinserted, rfl⟩
  · rintro ⟨hnow, hroom, hseal, hdue, operations, hins, rfl⟩
    rw [to_sql_integer_ok.2 ⟨hnow, rfl⟩, ok_bind]
    refine (require_bind hroom).trans ?_
    rw [hseal, ok_bind, to_sql_integer_ok.2 ⟨hdue, rfl⟩, ok_bind, some_or_bind hins]
    rfl

theorem RepeatPairings.Sound.insert (h : pairings.Sound)
    (hins : insert_repeat_pairing pairings state now = .ok pairings') : pairings'.Sound := by
  obtain ⟨-, ⟨hcount, hactive⟩, hseal, -, operations, hinserted, rfl⟩ :=
    insert_repeat_pairing_eq_ok.1 hins
  obtain ⟨-, hrows⟩ := UniqueTable.insert?_eq_some hinserted
  refine ⟨?_, ?_, ?_, fun row hrow => ?_⟩
  · dsimp only
    rw [repeat_pairing_count, repeat_pairing_count, hrows, length_append]
    rfl
  · exact hcount
  · dsimp only
    rw [active_repeat_pairing_count, hrows, filter_append, length_append]
    refine (Nat.add_le_add_left (length_filter_le _ _) _).trans ?_
    exact hactive
  · dsimp only at hrow
    rw [hrows] at hrow
    rcases mem_append.1 hrow with hold | hnew
    · exact h.rows row (delete_sublist.subset hold)
    · rw [mem_singleton.1 hnew]
      exact ⟨hseal, fun _ => le_rfl, fun _ => Nat.le_succ 1⟩

theorem RepeatPairings.Sound.reserve (h : pairings.Sound)
    (hreserve : reserve_repeat_pairing_in pairings state now = .ok pairings') :
    pairings'.Sound := by
  obtain ⟨-, hreserve⟩ := require_ok.1 hreserve
  obtain ⟨existing, -, hreserve⟩ := bind_ok.1 hreserve
  cases existing with
  | none => exact h.insert hreserve
  | some row =>
    obtain ⟨-, hreserve⟩ := require_ok.1 hreserve
    obtain ⟨_, -, hreserve⟩ := bind_ok.1 hreserve
    obtain ⟨-, hreserve⟩ := require_ok.1 hreserve
    cases hreserve
    exact h

/-! ## Advancing

A checkpoint moves one row along its phases, and leaves the rest of the journal. -/

variable {request : RepeatPairingRequest} {row : RepeatPairingCheckpoint}
  {content : ApplicationContent} {role : RepeatPairingRole} {local_device : DeviceId}
  {generation : ℕ}

/-- No operation goes back to sending its request. -/
theorem not_transition_allowed_sending :
    repeat_pairing_transition_allowed role current .InitiatorSendingRequest = false := by
  cases role <;> cases current <;> rfl

theorem phase_of_transition_allowed_awaiting
    (h : repeat_pairing_transition_allowed role current .InitiatorAwaitingResponse = true) :
    current = .InitiatorSendingRequest := by
  cases role <;> cases current <;> first | rfl | cases h

theorem load_repeat_pairing_eq_ok (h : load_repeat_pairing pairings operation_id = .ok row) :
    pairings.operations.get? operation_id = some row := by
  obtain ⟨existing, hload, h⟩ := bind_ok.1 h
  cases some_or_eq_ok.1 h
  rw [load_repeat_pairing_from] at hload
  split at hload
  · cases hload
  · rename_i hget
    obtain ⟨_, -, hload⟩ := bind_ok.1 hload
    cases hload
    exact hget

/-- The rows after one was advanced. -/
theorem advance?_rows {operations operations' : RepeatPairingTable}
    (h : advance? operations generation state = some operations') :
    operations'.rows = operations.rows.map fun row =>
    if row.state.operation_id = state.operation_id then ⟨generation, state⟩ else row := by
  have hrows := congrArg rows (UniqueTable.update?_eq_some h)
  rw [hrows, update]
  refine map_congr_left fun row _ => ?_
  by_cases hrow : row.state.operation_id = state.operation_id
  · rw [if_pos hrow, if_pos hrow]
  · rw [if_neg hrow, if_neg hrow]

/-- A row that keeps its pairing can be advanced. -/
theorem advance?_of_pairing (hpair : ∀ row, operations.get? state.operation_id = some row →
      state.pairing_id = row.state.pairing_id) :
    ∃ operations', advance? operations generation state = some operations' := by
  refine UniqueTable.update?_of_names fun row hrow => ?_
  rw [if_pos (get?_iff.1 hrow).2]
  exact congrArg Option.toList (hpair row hrow)

/-- A step the table allows succeeds where its generation and names are free to be written. -/
theorem checkpoint_repeat_pairing_in_isOk (h : pairings.Sound)
    (hget : pairings.operations.get? state.operation_id = some row)
    (hall : repeat_pairing_transition_allowed row.state.role row.state.phase state.phase = true)
    (hident : repeat_pairing_identity_equal row.state state) (hgen : row.generation ≤ 2)
    (hseal : seal_repeat_pairing state = .ok ()) (hpair : state.pairing_id = row.state.pairing_id) :
    ∃ pairings', checkpoint_repeat_pairing_in pairings row.generation state = .ok pairings' := by
  have hbound : row.generation + 1 ≤ I64_MAX := by
    rw [I64_MAX]
    omega
  have hnext : checked_add row.generation 1 = some (row.generation + 1) :=
    checked_add_iff.2 ⟨hbound.trans_lt (by decide), rfl⟩
  obtain ⟨operations, hadvance⟩ := advance?_of_pairing fun found hfound => by
      cases hget.symm.trans hfound
      exact hpair
  refine ⟨{ pairings with operations }, ?_⟩
  rw [checkpoint_repeat_pairing_in, load_repeat_pairing, h.load, ok_bind, hget]
  refine (require_bind ⟨rfl, hall, hident⟩).trans ?_
  rw [some_or_bind hnext, hseal, ok_bind, to_sql_integer_ok.2 ⟨hbound, rfl⟩, ok_bind,
    some_or_bind hadvance]
  rfl

namespace RepeatPairings

theorem Sound.checkpoint (h : pairings.Sound)
    (hchk : checkpoint_repeat_pairing_in pairings generation state = .ok pairings') :
    pairings'.Sound := by
  obtain ⟨existing, hload, hchk⟩ := bind_ok.1 hchk
  obtain ⟨⟨rfl, hall, -⟩, hchk⟩ := require_ok.1 hchk
  obtain ⟨next_generation, hgen, hchk⟩ := some_or_ok.1 hchk
  obtain ⟨_, hseal, hchk⟩ := bind_ok.1 hchk
  obtain ⟨_, -, hchk⟩ := bind_ok.1 hchk
  obtain ⟨operations, hadvance, hchk⟩ := some_or_ok.1 hchk
  cases hchk
  have hget := load_repeat_pairing_eq_ok hload
  have hnext : next_generation = existing.generation + 1 := (checked_add_iff.1 hgen).2
  have hrows := advance?_rows hadvance
  have hcount : repeat_pairing_count operations = repeat_pairing_count pairings.operations := by
    rw [repeat_pairing_count, repeat_pairing_count, hrows, length_map]
  refine ⟨h.count.trans hcount.symm, h.records, le_trans ?_ h.active, fun row hrow => ?_⟩
  · -- the advanced row is active only if it was
    dsimp only
    rw [active_repeat_pairing_count, active_repeat_pairing_count, hrows,
      ← countP_eq_length_filter, ← countP_eq_length_filter, countP_map]
    refine countP_mono_left fun row hrow hactive => ?_
    rw [Function.comp_apply] at hactive
    by_cases hkey : row.state.operation_id = state.operation_id
    · rw [if_pos hkey] at hactive
      have hsame : existing = row := by
        rw [← hkey, pairings.operations.get?_of_mem hrow] at hget
        exact (Option.some.inj hget).symm
      subst hsame
      by_contra hterm
      rw [Bool.not_eq_true, Bool.not_eq_false'] at hterm
      -- a terminal operation stays as it is
      unfold repeat_pairing_transition_allowed at hall
      rw [if_pos hterm, decide_eq_true_eq] at hall
      rw [← hall, hterm] at hactive
      cases hactive
    · rw [if_neg hkey] at hactive
      exact hactive
  · dsimp only at hrow
    rw [hrows] at hrow
    obtain ⟨old, hold, rfl⟩ := mem_map.1 hrow
    by_cases hkey : old.state.operation_id = state.operation_id
    · rw [if_pos hkey]
      refine ⟨hseal, fun hphase => ?_, fun hphase => ?_⟩
      · dsimp only at hphase
        rw [hphase, not_transition_allowed_sending] at hall
        cases hall
      · dsimp only at hphase ⊢
        rw [hphase] at hall
        have hsending := (h.rows existing (get?_iff.1 hget).1).sending
          (phase_of_transition_allowed_awaiting hall)
        omega
    · rw [if_neg hkey]
      exact h.rows old hold

/-! ## Messages -/

theorem Sound.record_request (h : pairings.Sound)
    (hrec : record_repeat_pairing_request_in pairings conversation_id sender sender_root request
      now = .ok pairings') : pairings'.Sound := by
  rw [record_repeat_pairing_request_in] at hrec
  split at hrec
  · cases hrec
    exact h
  · obtain ⟨existing, -, hrec⟩ := bind_ok.1 hrec
    cases existing with
    | none => exact h.reserve hrec
    | some row =>
      cases hrec
      exact h

theorem Sound.record_response (h : pairings.Sound) {response : RepeatPairingResponse}
    (hrec : record_repeat_pairing_response_in pairings conversation_id sender sender_root response
      = .ok pairings') : pairings'.Sound := by
  obtain ⟨existing, -, hrec⟩ := bind_ok.1 hrec
  cases existing with
  | none =>
    cases hrec
    exact h
  | some row =>
    dsimp only at hrec
    split at hrec
    · exact h.checkpoint hrec
    · cases hrec
      exact h

theorem Sound.record (h : pairings.Sound)
    (hrec : record_repeat_pairing_content_in pairings conversation_id sender sender_root
      local_device content now = .ok pairings') : pairings'.Sound := by
  unfold record_repeat_pairing_content_in at hrec
  split at hrec
  · split at hrec
    · exact h.record_request hrec
    · cases hrec
      exact h
  · split at hrec
    · exact h.record_response hrec
    · cases hrec
      exact h
  · cases hrec
    exact h

/-! ## When a message is recorded

The exact condition, for either kind of message. -/

/-- The content is another member's request to this device that opens an operation. -/
structure Opens (pairings : RepeatPairings) (sender local_device : DeviceId)
    (content : ApplicationContent) (now : ℕ) (request : RepeatPairingRequest) : Prop where
  content : content = .RepeatPairingRequest request
  sender : sender ≠ local_device
  target : request.target_device_id = local_device
  deadline : repeat_pairing_deadline_valid now request.expires_at_unix_seconds = true
  unknown : pairings.operations.get? request.operation_id = none

/-- There is room, and the times are columns' values. -/
structure Admits (pairings : RepeatPairings) (request : RepeatPairingRequest) (now : ℕ) : Prop where
  room : pairings.HasRoom request.operation_id now
  now : now ≤ I64_MAX
  deadline : request.expires_at_unix_seconds ≤ I64_MAX

end RepeatPairings

/-- A request opens an operation when there is room for it. -/
theorem record_request_isOk (h : pairings.Sound) :
    (∃ pairings', record_repeat_pairing_request_in pairings conversation_id sender sender_root
        request now = .ok pairings')
    ↔ (repeat_pairing_deadline_valid now request.expires_at_unix_seconds = true →
      pairings.operations.get? request.operation_id = none → pairings.Admits request now) := by
  rw [record_repeat_pairing_request_in]
  by_cases hvalid : repeat_pairing_deadline_valid now request.expires_at_unix_seconds = true
  · rw [if_neg (by simp [hvalid]), h.load]
    cases hget : pairings.operations.get? request.operation_id with
    | some row => exact ⟨fun _ _ hnone => (nomatch hnone), fun _ => ⟨pairings, rfl⟩⟩
    | none =>
      rw [ok_bind]
      dsimp only
      rw [reserve_repeat_pairing_in, require_bind h.count]
      have hload : load_repeat_pairing_from pairings request.operation_id = .ok none := by
        rw [h.load, hget]
      have hstate : (responder request.operation_id conversation_id
        request.new_conversation_id sender sender_root
        request.expires_at_unix_seconds).operation_id = request.operation_id := rfl
      rw [hstate, hload, ok_bind]
      dsimp only
      simp only [insert_repeat_pairing_eq_ok]
      constructor
      · rintro ⟨_, hnow, hroom, -, hdue, -⟩ - -
        exact ⟨hroom, hnow, hdue⟩
      · intro hadmits
        obtain ⟨hroom, hnow, hdue⟩ := hadmits hvalid trivial
        have hfree : (without_expired pairings.operations
            request.operation_id now).get? request.operation_id = none := by
          rw [without_expired]
          refine (get?_delete _ _ _).trans ?_
          rw [hget]
          rfl
        -- a responder has no pairing yet, so only the key must be free
        obtain ⟨operations, hins⟩ : ∃ operations, (without_expired
            pairings.operations request.operation_id now).insert? ⟨1,
              .responder request.operation_id conversation_id request.new_conversation_id sender
                sender_root request.expires_at_unix_seconds⟩ = some operations :=
          UniqueTable.insert?_of_free hfree (fun _ hname => nomatch hname) nodup_nil
        refine ⟨_, hnow, hroom, ?_, hdue, operations, hins, rfl⟩
        have hne := request.expires_pos.ne'
        simp [seal_repeat_pairing, validate_state, responder,
          shape_valid, require, hne, Except.mapError]
  · rw [if_pos (by simpa using hvalid)]
    exact ⟨fun _ hvalid' => absurd hvalid' hvalid, fun _ => ⟨pairings, rfl⟩⟩

/-- An initiator that waits for a response has its routing, and no pairing. -/
theorem waiting_of_seal (hseal : seal_repeat_pairing state = .ok ())
    (hrole : state.role = .Initiator)
    (hphase : state.phase = .InitiatorSendingRequest ∨ state.phase = .InitiatorAwaitingResponse) :
    state.deadline_unix_seconds ≠ 0 ∧ state.new_routing_id.isSome = true
    ∧ state.pairing_id.isNone = true := by
  have hvalid : validate_state state = .ok () := by
    rw [seal_repeat_pairing] at hseal
    cases hvalidate : validate_state state with
    | ok => rfl
    | error =>
      rw [hvalidate] at hseal
      cases hseal
  obtain ⟨hdue, hshape⟩ := require_ok.1 hvalid
  have hshape := require_eq_ok.1 hshape
  unfold shape_valid at hshape
  rcases hphase with hphase | hphase <;> rw [hrole, hphase] at hshape <;>
    simp only [Bool.and_eq_true] at hshape <;> exact ⟨hdue, hshape.1.1, hshape.1.2⟩

/-- A response is stored with an operation that waits for it, or ignored. -/
theorem record_response_isOk (h : pairings.Sound) (response : RepeatPairingResponse) :
    ∃ pairings', record_repeat_pairing_response_in pairings conversation_id sender sender_root
    response = .ok pairings' := by
  rw [record_repeat_pairing_response_in, h.load, ok_bind]
  cases hget : pairings.operations.get? response.operation_id with
  | none => exact ⟨pairings, rfl⟩
  | some row =>
    dsimp only
    split
    · rename_i hwaits
      obtain ⟨⟨hrole, -⟩, -, hphase⟩ := hwaits
      have hsound := h.rows row (get?_iff.1 hget).1
      obtain ⟨hdue, hrouting, hpair⟩ := waiting_of_seal hsound.state hrole hphase
      have hgen : row.generation ≤ 2 := by
        rcases hphase with hphase | hphase
        · exact (hsound.sending hphase).trans (Nat.le_succ 1)
        · exact hsound.awaiting hphase
      refine checkpoint_repeat_pairing_in_isOk h ?_ ?_ ⟨rfl, rfl, rfl, rfl, rfl, rfl, rfl, rfl⟩
        hgen ?_ rfl
      · dsimp only
        rw [(get?_iff.1 hget).2, hget]
      · rcases hphase with hphase | hphase <;> rw [hrole, hphase] <;> rfl
      · simp [seal_repeat_pairing, validate_state, shape_valid,
          has_capability, require, hdue, hrole, hrouting,
          hpair, response.capability_fits, Except.mapError]
    · exact ⟨pairings, rfl⟩

/-- A message is recorded unless it opens an operation that is not admitted. -/
theorem record_content_isOk (h : pairings.Sound) :
    (∃ pairings', record_repeat_pairing_content_in pairings conversation_id sender sender_root
        local_device content now = .ok pairings')
    ↔ ∀ request, pairings.Opens sender local_device content now request →
      pairings.Admits request now := by
  unfold record_repeat_pairing_content_in
  split
  · rename_i request
    split
    · rename_i haddressed
      rw [record_request_isOk h]
      constructor
      · rintro hadmits _ ⟨hbody, -, -, hdue, hunknown⟩
        cases hbody
        exact hadmits hdue hunknown
      · intro hadmits hdue hunknown
        exact hadmits request ⟨rfl, haddressed.1, haddressed.2, hdue, hunknown⟩
    · rename_i hignored
      refine ⟨?_, fun _ => ⟨pairings, rfl⟩⟩
      rintro - _ ⟨hbody, hsender, htarget, -, -⟩
      cases hbody
      exact absurd ⟨hsender, htarget⟩ hignored
  · rename_i response
    refine ⟨fun _ request hopens => (nomatch hopens.content), fun _ => ?_⟩
    split
    · exact record_response_isOk h response
    · exact ⟨pairings, rfl⟩
  · rename_i hother _
    exact ⟨fun _ request hopens => absurd hopens.content (hother request), fun _ => ⟨pairings, rfl⟩⟩

end Konclave.Daemon
