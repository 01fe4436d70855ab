/-
How far the principals of a route have acknowledged.

An `acknowledge` call is two statements, and the statements of other clients may run in
between. A run is a list of statements from the empty database, and it remembers the calls
that succeeded. A cursor that was assigned stays assigned (`submit_routes`), so what the
first statement of a call checked still holds when its second one writes.
-/
import Konclave.Relay.Log

set_option autoImplicit false

namespace Konclave.Relay

open Protobuf Domain RelayStore

/-- One statement of a client. -/
inductive Statement
  | submit (envelope : RelayEnvelope) (encoded_envelope : Bytes) (now : ℕ)
  | acknowledge_check (principal : RelayPrincipalId) (request : AcknowledgeRequest)
  | acknowledge_write (principal : RelayPrincipalId) (request : AcknowledgeRequest)

/-- A repository, with the successful `acknowledge` calls of each principal on each route,
the last first: the cursor that was asked for and the one that was returned. -/
structure Progress where
  relay : Repository
  succeeded : RoutingId × RelayPrincipalId → List (ℕ × ℕ)
  /-- What the call returned that the last statement ended. -/
  result : Option (Except RelayError ℕ)

namespace Progress

/-- One statement runs; a second one is of a call whose first has passed. -/
def perform (run : Progress) : Statement → Progress
  | .submit envelope encoded_envelope now =>
    { run with
      relay.store := (submit_encoded run.relay.store envelope encoded_envelope now).2
      result := none }
  | .acknowledge_check principal request =>
    match acknowledge_check run.relay.store request with
    | .ok () =>
      { run with
        relay.acknowledging := (principal, request) :: run.relay.acknowledging
        result := none }
    | .error error => { run with result := some (.error error) }
  | .acknowledge_write principal request =>
    let key := (request.routing_id, principal)
    let acknowledging := run.relay.acknowledging.erase (principal, request)
    if (principal, request) ∈ run.relay.acknowledging then
      match acknowledge_write run.relay.store principal request with
      | (.error error, store) => ⟨⟨store, acknowledging⟩, run.succeeded, some (.error error)⟩
      | (.ok cursor, store) =>
        ⟨⟨store, acknowledging⟩, Function.update run.succeeded key
          ((request.cursor, cursor) :: run.succeeded key), some (.ok cursor)⟩
    else { run with result := none }

def after (run : Progress) (statements : List Statement) : Progress := statements.foldl perform run

def initial : Progress := ⟨.initial, fun _ => [], none⟩

/-- The stored progress of a principal on a route. -/
def acknowledged (run : Progress) (key : RoutingId × RelayPrincipalId) : Option ℕ :=
  (run.relay.store.relay_acknowledgment.get? key).map (·.cursor)

end Progress

/-! ## What a statement does

An acknowledgment moves one row forward; a submission leaves them all. -/

/-- The highest cursor a route has assigned. -/
def RelayStore.highest (store : RelayStore) (routing_id : RoutingId) : ℕ :=
  (store.relay_route.get? routing_id).elim 0 (·.next_cursor - 1)

variable {store : RelayStore} {request : AcknowledgeRequest} {run run' : Progress}
  {key : RoutingId × RelayPrincipalId}

theorem acknowledge_check_eq_ok (h : acknowledge_check store request = .ok ()) :
    request.cursor ≤ store.highest request.routing_id := by
  unfold acknowledge_check at h
  have hle := Nat.le_of_not_lt (ite_ok.1 h).1
  unfold highest
  cases hroute : store.relay_route.get? request.routing_id with
  | none | some route =>
    rw [hroute] at hle
    exact hle

/-- A submission acknowledges nothing, and what was assigned stays assigned. -/
theorem submit_routes (envelope : RelayEnvelope) (encoded_envelope : Bytes) (now : ℕ) :
    (submit_encoded store envelope encoded_envelope now).2.relay_acknowledgment
      = store.relay_acknowledgment ∧ ∀ routing_id, store.highest routing_id
      ≤ (submit_encoded store envelope encoded_envelope now).2.highest routing_id := by
  rcases submit_encoded_cases with
    ⟨_, hres⟩ | ⟨_, _, _, _, hres⟩ | ⟨store', route, hacc, hres⟩
  · rw [hres]
    exact ⟨rfl, fun _ => le_rfl⟩
  · rw [hres]
    refine ⟨initialize_route_relay_acknowledgment store _, fun routing_id => ?_⟩
    dsimp only [highest]
    rw [initialize_route_get?]
    split
    · cases store.relay_route.get? routing_id <;> exact le_rfl
    · exact le_rfl
  · rw [hres]
    refine ⟨hacc.acknowledgments, fun routing_id => ?_⟩
    dsimp only [highest]
    rw [hacc.routes]
    split
    · rename_i hrouting
      rw [← hacc.route_eq, hrouting]
      cases store.relay_route.get? envelope.routing_id with
      | none => exact Nat.zero_le _
      | some route => exact Nat.sub_le_sub_right (Nat.le_succ _) 1
    · exact le_rfl

namespace Progress

/-- A statement stores no acknowledgment, or it ends a call whose check has passed and
stores what it returns: the greater of what was stored and what is asked for. -/
theorem perform_cases {statement : Statement} (h : run.perform statement = run') :
    (run'.acknowledged = run.acknowledged ∧ run'.succeeded = run.succeeded
        ∧ (∀ routing_id, run.relay.store.highest routing_id ≤ run'.relay.store.highest routing_id)
        ∧ (∀ call ∈ run'.relay.acknowledging, call ∈ run.relay.acknowledging
          ∨ call.2.cursor ≤ run'.relay.store.highest call.2.routing_id)
        ∧ ∀ error, run'.result = some (.error error) → run'.relay.store = run.relay.store)
    ∨ ∃ principal request cursor, statement = .acknowledge_write principal request
      ∧ run'.result = some (.ok cursor) ∧ (principal, request) ∈ run.relay.acknowledging
      ∧ run'.relay.acknowledging ⊆ run.relay.acknowledging
      ∧ run'.relay.store.relay_route = run.relay.store.relay_route
      ∧ cursor = (run.acknowledged (request.routing_id, principal)).elim request.cursor
        (max request.cursor)
      ∧ run'.acknowledged
        = Function.update run.acknowledged (request.routing_id, principal) (some cursor)
      ∧ run'.succeeded = Function.update run.succeeded (request.routing_id, principal)
        ((request.cursor, cursor) :: run.succeeded (request.routing_id, principal)) := by
  cases statement with
  | submit envelope encoded_envelope now =>
    subst h
    obtain ⟨htable, hhighest⟩ := submit_routes envelope encoded_envelope now
    refine .inl ⟨?_, rfl, hhighest, fun call hcall => .inl hcall, by rintro _ ⟨⟩⟩
    funext key
    exact congrArg (fun table => (table.get? key).map (·.cursor)) htable
  | acknowledge_check principal request =>
    left
    simp only [perform] at h
    split at h <;> subst h
    · rename_i hcheck
      refine ⟨rfl, rfl, fun _ => le_rfl, fun call hcall => ?_, by rintro _ ⟨⟩⟩
      rcases List.mem_cons.1 hcall with rfl | hold
      · exact .inr (acknowledge_check_eq_ok hcheck)
      · exact .inl hold
    · exact ⟨rfl, rfl, fun _ => le_rfl, fun call hcall => .inl hcall, fun _ _ => rfl⟩
  | acknowledge_write principal request =>
    simp only [perform] at h
    split at h
    · rename_i hpassed
      rcases acknowledge_write_cases principal request with
        ⟨error, hwrite⟩ | ⟨cursor, table, hwrite, hcur, hget⟩
      · rw [hwrite] at h
        subst h
        exact .inl ⟨rfl, rfl, fun _ => le_rfl, fun call hcall => .inl (List.mem_of_mem_erase hcall),
          fun _ _ => rfl⟩
      · rw [hwrite] at h
        subst h
        refine .inr ⟨principal, request, cursor, rfl, rfl, hpassed, List.erase_subset, rfl,
          hcur, ?_, rfl⟩
        funext key
        refine (hget key).trans ?_
        rw [Function.update_apply]
        simp only [eq_comm]
        rfl
    · subst h
      exact .inl ⟨rfl, rfl, fun _ => le_rfl, fun call hcall => .inl hcall, by rintro _ ⟨⟩⟩

/-- The cursors that passed the check were assigned, and so was all stored progress, which
is the greatest cursor asked for and what the last call was told. -/
structure Sound (run : Progress) : Prop where
  checked : ∀ call ∈ run.relay.acknowledging,
    call.2.cursor ≤ run.relay.store.highest call.2.routing_id
  assigned : ∀ key, ∀ cursor ∈ run.acknowledged key,
    0 < cursor ∧ cursor ≤ run.relay.store.highest key.1
  greatest : ∀ key, run.acknowledged key = ((run.succeeded key).map Prod.fst).max?
  last : ∀ key, run.acknowledged key = ((run.succeeded key).map Prod.snd).head?

theorem Sound.perform (h : run.Sound) (statement : Statement) : (run.perform statement).Sound := by
  rcases perform_cases (Eq.refl (run.perform statement)) with
    ⟨hack, hsucceeded, hhighest, hchecked, -⟩
    | ⟨principal, request, told, -, -, hpassed, hsub, hroutes, htold, hack, hsucceeded⟩
  · constructor
    · intro call hcall
      rcases hchecked call hcall with hold | hnew
      · exact (h.checked call hold).trans (hhighest _)
      · exact hnew
    · intro key cursor hcur
      rw [hack] at hcur
      obtain ⟨hpos, hle⟩ := h.assigned key cursor hcur
      exact ⟨hpos, hle.trans (hhighest key.1)⟩
    · rw [hack, hsucceeded]
      exact h.greatest
    · rw [hack, hsucceeded]
      exact h.last
  · constructor
    · intro call hcall
      rw [highest, hroutes]
      exact h.checked call (hsub hcall)
    · intro key cursor hcur
      rw [highest, hroutes]
      rw [hack, Function.update_apply] at hcur
      split at hcur
      · rename_i hkey
        subst hkey
        cases hcur
        rw [htold]
        cases hold : run.acknowledged (request.routing_id, principal) with
        | none => exact ⟨request.cursor_pos, h.checked _ hpassed⟩
        | some old =>
          exact ⟨request.cursor_pos.trans_le (Nat.le_max_left _ _),
            max_le (h.checked _ hpassed) (h.assigned _ old hold).2⟩
      · exact h.assigned key cursor hcur
    · intro key
      rw [hack, hsucceeded, Function.update_apply, Function.update_apply]
      split
      · rw [List.map_cons, List.max?_cons, ← h.greatest, htold]
      · exact h.greatest key
    · intro key
      rw [hack, hsucceeded, Function.update_apply, Function.update_apply]
      split
      · rfl
      · exact h.last key

theorem Sound.after (h : run.Sound) (statements : List Statement) :
    (run.after statements).Sound := by
  induction statements generalizing run with
  | nil => exact h
  | cons statement rest ih => exact ih (h.perform statement)

/-- Stored progress is kept or raised. -/
theorem acknowledged_le (run : Progress) (statements : List Statement) :
    ∀ cursor ∈ run.acknowledged key,
    ∃ cursor' ∈ (run.after statements).acknowledged key, cursor ≤ cursor' := by
  induction statements generalizing run with
  | nil => exact fun cursor hcur => ⟨cursor, hcur, le_rfl⟩
  | cons statement rest ih =>
    intro cursor hcur
    have hstep : ∃ cursor' ∈ (run.perform statement).acknowledged key, cursor ≤ cursor' := by
      rcases perform_cases (Eq.refl (run.perform statement)) with ⟨hack, -⟩
        | ⟨principal, request, told, -, -, -, -, -, htold, hack, -⟩
      · exact ⟨cursor, hack ▸ hcur, le_rfl⟩
      · rw [hack, Function.update_apply]
        split
        · rename_i hkey
          subst hkey
          rw [htold, Option.mem_def.1 hcur]
          exact ⟨_, rfl, Nat.le_max_right _ _⟩
        · exact ⟨cursor, hcur, le_rfl⟩
    obtain ⟨between, hbetween, hle⟩ := hstep
    obtain ⟨cursor', hcur', hle'⟩ := ih _ between hbetween
    exact ⟨cursor', hcur', hle.trans hle'⟩

end Progress

/-- After any interleaving of statements, the stored progress of a principal on a route is
the greatest cursor its successful calls asked for and what the last of them was told. It
is a cursor the route has assigned, so its row has a route; it never decreases; no
statement but the principal's own write on the route touches it; and a call that fails
changes nothing. No request is for cursor zero. -/
theorem acknowledgment_progress (statements : List Statement) (routing_id : RoutingId)
    (principal : RelayPrincipalId) : let run := Progress.initial.after statements
    let key := (routing_id, principal)
    run.acknowledged key = ((run.succeeded key).map Prod.fst).max?
      ∧ run.acknowledged key = ((run.succeeded key).map Prod.snd).head?
      ∧ (∀ cursor ∈ run.acknowledged key, ∃ route,
        run.relay.store.relay_route.get? routing_id = some route ∧ cursor ≤ route.next_cursor - 1)
      ∧ (∀ later, ∀ cursor ∈ run.acknowledged key,
        ∃ cursor' ∈ (run.after later).acknowledged key, cursor ≤ cursor')
      ∧ (∀ statement, (∀ request, statement = .acknowledge_write principal request
          → request.routing_id ≠ routing_id) →
        (run.perform statement).acknowledged key = run.acknowledged key)
      ∧ (∀ statement error, (run.perform statement).result = some (.error error) →
        (run.perform statement).relay.store = run.relay.store)
      ∧ AcknowledgeRequest.new routing_id 0 = .error (.ZeroValue "cursor") := by
  intro run key
  have hsound : run.Sound :=
    Progress.Sound.after ⟨by nofun, by nofun, fun _ => rfl, fun _ => rfl⟩ statements
  refine ⟨hsound.greatest key, hsound.last key, fun cursor hcursor => ?_,
    fun later => run.acknowledged_le later, fun statement hother => ?_,
    fun statement error hfailed => ?_, rfl⟩
  · obtain ⟨hpos, hle⟩ := hsound.assigned key cursor hcursor
    unfold highest at hle
    cases hroute : run.relay.store.relay_route.get? routing_id with
    | none =>
      rw [hroute] at hle
      exact absurd hle (Nat.not_le.2 hpos)
    | some route =>
      rw [hroute] at hle
      exact ⟨route, rfl, hle⟩
  · rcases Progress.perform_cases (Eq.refl (run.perform statement)) with ⟨hack, -⟩
      | ⟨writer, request, told, rfl, -, -, -, -, -, hack, -⟩
    · rw [hack]
    · rw [hack, Function.update_of_ne]
      intro (hkey : (routing_id, principal) = (request.routing_id, writer))
      cases hkey
      exact hother request rfl rfl
  · rcases Progress.perform_cases (Eq.refl (run.perform statement)) with ⟨-, -, -, -, hstore⟩
      | ⟨writer, request, told, -, hresult, -⟩
    · exact hstore error hfailed
    · cases hresult.symm.trans hfailed

/-- A call for cursor 2 checks before the call for cursor 1 and writes before it: the second
is told 2. -/
example : let principal : RelayPrincipalId := .repeated 32 9
    let ahead : AcknowledgeRequest := ⟨.repeated 32 7, 2, by decide⟩
    let behind : AcknowledgeRequest := ⟨.repeated 32 7, 1, by decide⟩
    let run := Progress.initial.after [.submit (sample_commit 3) (sample_bytes 3) 5,
      .submit sample_proposal (relay_to_wire sample_proposal).encode 6,
      .acknowledge_check principal ahead, .acknowledge_check principal behind,
      .acknowledge_write principal ahead, .acknowledge_write principal behind]
    run.acknowledged (.repeated 32 7, principal) = some 2
      ∧ run.succeeded (.repeated 32 7, principal) = [(1, 2), (2, 2)]
      ∧ run.result = some (.ok 2) := by
  decide +kernel

end Konclave.Relay
