/-
The route log invariant of the relay.

`submit_encoded_cases` says once what a submission can do: leave the store as it was, or
append one row under the next cursor of its route. Every invariant below is kept because
of that lemma: the rows of a route are a numbered, sequenced log (`Konclave.Sequencer`),
every row still decodes to the envelope its columns describe, and every row has a route.
From it follow the shape of a route's log in every reachable state, and that a stored
envelope answers every later submission under its identifier.
-/
import Konclave.Relay.Store
import Konclave.Numbered
import Konclave.Sequencer
import Mathlib.Data.List.Infix

set_option autoImplicit false

namespace Konclave.Relay

open Protobuf Domain Sequencer RelayStore Table List Option

/-! ## What a statement does

The inverses of the small conversions, and what initialising a route does to each table. -/

/-- The row `insert_envelope` writes. -/
def EnvelopeRow.of (envelope : RelayEnvelope) (encoded_envelope : Bytes) (cursor : ℕ) :
    EnvelopeRow :=
  ⟨envelope.routing_id, cursor, envelope.envelope_id, envelope.version.major,
    envelope.version.minor, delivery_class_to_sql envelope.delivery_class,
    envelope.expected_parent_epoch, envelope.expires_at_unix_seconds, encoded_envelope⟩

variable {value cursor now : ℕ} {store store' : RelayStore} {envelope : RelayEnvelope}
  {bytes : Bytes} {row : EnvelopeRow} {relay relay' : Repository} {routing_id : RoutingId}
  {result : ℕ}
  {route : RouteRow}

theorem to_sql_integer_ok :
    to_sql_integer value = .ok result ↔ value ≤ I64_MAX ∧ result = value := by
  rw [to_sql_integer]
  split
  · rename_i h
    simp [h, eq_comm]
  · rename_i h
    simp [h]

theorem to_sql_option_eq_ok {value result : Option ℕ} (h : to_sql_option value = .ok result) :
    result = value := by
  cases value with
  | none => exact (Except.ok.inj h).symm
  | some x =>
    obtain ⟨_, hx, rfl⟩ := map_eq_ok.1 h
    rw [(to_sql_integer_ok.1 hx).2]

theorem from_protocol_eq_ok {α : Type} {x : Except KonclaveProtocolError α} {a : α} :
    from_protocol x = .ok a ↔ x = .ok a := by
  cases x <;> simp [from_protocol]

theorem or_invalid_stored_eq_ok {ε α : Type} {x : Except ε α} {a : α} :
    or_invalid_stored x = .ok a ↔ x = .ok a := by
  cases x <;> simp [or_invalid_stored]

/-- Initializing a route leaves every other route, and an existing one, alone. -/
theorem initialize_route_get? (routing_id k : RoutingId) :
    (store.initialize_route routing_id).relay_route.get? k
    = if k = routing_id then some ((store.relay_route.get? k).getD ⟨routing_id, 1, 0⟩)
      else store.relay_route.get? k := by
  rw [initialize_route]
  split
  · rename_i relay_route h
    have hfresh := (insert?_iff.1 h).1
    rw [get?_insert h]
    by_cases hk : k = routing_id
    · subst hk
      simp [hfresh]
    · rw [if_neg (fun heq => hk heq.symm), if_neg hk]
  · rename_i h
    have htaken : store.relay_route.get? routing_id ≠ none := by
      intro hnone
      obtain ⟨table, htable⟩ := insert?_of_get?_none
        (show store.relay_route.get? (RouteRow.routing_id ⟨routing_id, 1, 0⟩) = none from hnone)
      rw [h] at htable
      cases htable
    by_cases hk : k = routing_id
    · subst hk
      obtain ⟨row, hrow⟩ := ne_none_iff_exists'.1 htaken
      simp [hrow]
    · rw [if_neg hk]

@[simp] theorem initialize_route_relay_envelope (store : RelayStore) (routing_id : RoutingId) :
    (store.initialize_route routing_id).relay_envelope = store.relay_envelope := by
  rw [initialize_route]
  split <;> rfl

@[simp] theorem initialize_route_relay_acknowledgment (store : RelayStore)
    (routing_id : RoutingId) :
    (store.initialize_route routing_id).relay_acknowledgment = store.relay_acknowledgment := by
  rw [initialize_route]
  split <;> rfl

/-- A route that exists is left as it is. -/
theorem initialize_route_of_isSome (h : (store.relay_route.get? routing_id).isSome) :
    store.initialize_route routing_id = store := by
  rw [initialize_route]
  split
  · rename_i relay_route hins
    have hfresh := (insert?_iff.1 hins).1
    rw [show store.relay_route.get? routing_id = none from hfresh] at h
    cases h
  · rfl

/-- The three `UPDATE`s of a cursor allocation in one: the route exists and is not
exhausted, a gated envelope names its epoch, and the row advances. -/
theorem allocate_cursor_eq_ok (h : allocate_cursor store envelope = .ok (cursor, store')) :
    ∃ route, store.relay_route.get? envelope.routing_id = some route ∧ cursor = route.next_cursor
    ∧ route.next_cursor < I64_MAX
    ∧ (∀ parent, envelope.expected_parent_epoch = some parent → parent = route.current_epoch)
    ∧ store' = { store with
        relay_route := store.relay_route.update envelope.routing_id
          (RouteRow.advance (envelope.delivery_class = .GroupCommit)) (fun _ => rfl) } := by
  rw [allocate_cursor] at h
  obtain ⟨expected, hexpected, hupdates⟩ := bind_ok.1 h
  obtain rfl := to_sql_option_eq_ok hexpected
  obtain ⟨allocated, hallocated, hres⟩ := bind_ok.1 hupdates
  unfold update_route_for at hallocated
  have hpresence := envelope.epoch_presence
  -- every branch is an `update_route`, at its own condition
  suffices hupd : ∃ condition : RouteRow → Bool,
      allocated = store.update_route envelope.routing_id condition
          (envelope.delivery_class = .GroupCommit)
        ∧ ∀ row, condition row = true → row.next_cursor < I64_MAX
          ∧ ∀ parent, envelope.expected_parent_epoch = some parent → parent = row.current_epoch by
    obtain ⟨condition, rfl, hcondition⟩ := hupd
    rw [update_route] at hres
    cases hroute : store.relay_route.get? envelope.routing_id with
    | none => simp [hroute] at hres
    | some route =>
      rw [hroute] at hres
      by_cases hcond : condition route = true
      · simp only [hcond, if_true, Except.ok.injEq, Prod.mk.injEq] at hres
        obtain ⟨hlt, hgate⟩ := hcondition route hcond
        exact ⟨route, rfl, hres.1.symm, hlt, hgate, hres.2.symm⟩
      · simp [hcond] at hres
  cases hclass : envelope.delivery_class with
  | GroupCommit | GroupProposal =>
    rw [hclass] at hpresence hallocated
    cases hepoch : envelope.expected_parent_epoch with
    | none => simp [hepoch, DeliveryClass.requires_parent_epoch] at hpresence
    | some epoch =>
      simp only [hepoch, Except.ok.injEq] at hallocated
      refine ⟨_, hallocated.symm, ?_⟩
      intro row hrow
      simp only [decide_eq_true_eq] at hrow
      exact ⟨by omega, fun parent hparent => by cases hparent; exact hrow.1.symm⟩
  | KeyPackage | Welcome | GroupApplication | Pairing =>
    rw [hclass] at hpresence hallocated
    cases hepoch : envelope.expected_parent_epoch with
    | some epoch => simp [hepoch, DeliveryClass.requires_parent_epoch] at hpresence
    | none =>
      simp only [Except.ok.injEq] at hallocated
      refine ⟨_, hallocated.symm, ?_⟩
      intro row hrow
      exact ⟨of_decide_eq_true hrow, by simp⟩

theorem insert_envelope_eq_ok (h : insert_envelope store envelope bytes cursor = .ok store') :
    (EnvelopeRow.of envelope bytes cursor).check = true ∧ cursor ≤ I64_MAX
    ∧ ∃ relay_envelope, store.relay_envelope.insert?
          (EnvelopeRow.of envelope bytes cursor) = some relay_envelope
        ∧ store' = { store with relay_envelope := relay_envelope } := by
  rw [insert_envelope] at h
  obtain ⟨_, hcur, hbound⟩ := bind_ok.1 h
  obtain ⟨hcursor_le, rfl⟩ := to_sql_integer_ok.1 hcur
  obtain ⟨_, hepoch, hbound⟩ := bind_ok.1 hbound
  obtain rfl := to_sql_option_eq_ok hepoch
  obtain ⟨_, hexpires, hbound⟩ := bind_ok.1 hbound
  obtain ⟨-, rfl⟩ := to_sql_integer_ok.1 hexpires
  split at hbound
  · rename_i store'' hins
    simp only [Except.ok.injEq] at hbound
    subst hbound
    rw [insert_row] at hins
    split at hins
    · rename_i hchecks
      obtain ⟨relay_envelope, htable, rfl⟩ := map_eq_some_iff.1 hins
      exact ⟨hchecks.1, hcursor_le, relay_envelope, htable, rfl⟩
    · cases hins
  · cases hbound

/-! ## Rows that decode to their columns

A row is accepted when its bytes decode to what its columns say. -/

theorem delivery_class_from_sql_eq_ok {delivery_class : DeliveryClass} :
    delivery_class_from_sql value = .ok delivery_class
    ↔ value = delivery_class_to_sql delivery_class := by
  constructor
  · intro h
    unfold delivery_class_from_sql at h
    split at h <;> cases h <;> rfl
  · rintro rfl
    cases delivery_class <;> rfl

theorem from_sql_u32_eq_ok : from_sql_u32 value = .ok result ↔ value < 2 ^ 32 ∧ result = value := by
  rw [from_sql_u32]
  split
  · rename_i h
    simp only [Except.ok.injEq, h, true_and, eq_comm]
  · rename_i h
    simp only [h, false_and, reduceCtorEq]

/-- The columns match exactly when the row is the one `insert_envelope` writes. -/
theorem row_metadata_matches_eq_true : row_metadata_matches row envelope = .ok true
    ↔ row = EnvelopeRow.of envelope row.encoded_envelope row.cursor
      ∧ row.version_major < 2 ^ 32 ∧ row.version_minor < 2 ^ 32 := by
  obtain ⟨routing_id, cursor, envelope_id, major, minor, delivery_class, epoch, expires, bytes⟩ :=
    row
  simp only [EnvelopeRow.of, EnvelopeRow.mk.injEq, true_and, and_true]
  constructor
  · intro h
    unfold row_metadata_matches at h
    split at h
    · rename_i hids
      obtain ⟨_, hmajor, h⟩ := bind_ok.1 h
      obtain ⟨hmajor_lt, rfl⟩ := from_sql_u32_eq_ok.1 hmajor
      split at h
      · rename_i hmajor_eq
        obtain ⟨_, hminor, h⟩ := bind_ok.1 h
        obtain ⟨hminor_lt, rfl⟩ := from_sql_u32_eq_ok.1 hminor
        split at h
        · rename_i hminor_eq
          obtain ⟨_, hclass, h⟩ := bind_ok.1 h
          have hclass_eq := delivery_class_from_sql_eq_ok.1 hclass
          split at h
          · rename_i hsame
            subst hsame
            have hlast := of_decide_eq_true (Except.ok.inj h)
            exact ⟨⟨hids.1, hids.2, hmajor_eq, hminor_eq, hclass_eq, hlast.1, hlast.2⟩,
              hmajor_lt, hminor_lt⟩
          · cases h
        · cases h
      · cases h
    · cases h
  · rintro ⟨⟨rfl, rfl, rfl, rfl, rfl, rfl, rfl⟩, hmajor, hminor⟩
    unfold row_metadata_matches
    simp only [and_self, if_true, from_sql_u32_eq_ok.2 ⟨hmajor, rfl⟩,
      from_sql_u32_eq_ok.2 ⟨hminor, rfl⟩, delivery_class_from_sql_eq_ok.2 rfl, ok_bind]
    rfl

/-- A sound row: its bytes decode to the envelope its columns describe. -/
theorem envelope_from_row_eq_ok : envelope_from_row row = .ok envelope
    ↔ (1 ≤ row.encoded_envelope.length ∧ row.encoded_envelope.length ≤ MAX_RELAY_ENVELOPE_BYTES)
      ∧ decode_relay_envelope row.encoded_envelope = .ok envelope
      ∧ row = EnvelopeRow.of envelope row.encoded_envelope row.cursor
      ∧ row.version_major < 2 ^ 32 ∧ row.version_minor < 2 ^ 32 := by
  unfold envelope_from_row
  split
  · rename_i hlen
    rw [bind_ok]
    constructor
    · rintro ⟨decoded, hdecoded, h⟩
      obtain ⟨matched, hmatched, h⟩ := bind_ok.1 h
      cases matched with
      | false => cases h
      | true =>
        cases h
        refine ⟨hlen, ?_, row_metadata_matches_eq_true.1 hmatched⟩
        exact or_invalid_stored_eq_ok.1 hdecoded
    · rintro ⟨-, hdec, hmatches⟩
      refine ⟨envelope, or_invalid_stored_eq_ok.2 hdec, ?_⟩
      rw [row_metadata_matches_eq_true.2 hmatches]
      rfl
  · rename_i hlen
    constructor
    · intro h
      cases h
    · rintro ⟨h, -⟩
      exact absurd h hlen

/-- A row that passes the schema's checks is sound if its bytes decode. -/
theorem envelope_from_row_of (hdec : decode_relay_envelope bytes = .ok envelope)
    (hcheck : (EnvelopeRow.of envelope bytes cursor).check = true) :
    envelope_from_row (EnvelopeRow.of envelope bytes cursor) = .ok envelope := by
  rw [EnvelopeRow.check, decide_eq_true_eq] at hcheck
  obtain ⟨-, ⟨-, hmajor⟩, hminor, -, -, hlen, -⟩ := hcheck
  exact envelope_from_row_eq_ok.2 ⟨hlen, hdec, rfl, by omega, by omega⟩

/-! ## What a submission does

It answers from a stored row, refuses, or appends a row. -/

/-- A submission that was given the next cursor of `route`. -/
structure Accepted (store store' : RelayStore) (envelope : RelayEnvelope)
    (encoded_envelope : Bytes) (now : ℕ) (route : RouteRow) : Prop where
  decoded : decode_relay_envelope encoded_envelope = .ok envelope
  fresh : store.relay_envelope.get? envelope.envelope_id = none
  live : now < envelope.expires_at_unix_seconds
  route_eq : (store.relay_route.get? envelope.routing_id).getD ⟨envelope.routing_id, 1, 0⟩ = route
  next_lt : route.next_cursor < I64_MAX
  gate : ∀ parent, envelope.expected_parent_epoch = some parent → parent = route.current_epoch
  check : (EnvelopeRow.of envelope encoded_envelope route.next_cursor).check = true
  rows : store'.relay_envelope.rows
    = store.relay_envelope.rows ++ [EnvelopeRow.of envelope encoded_envelope route.next_cursor]
  routes : ∀ k, store'.relay_route.get? k
    = if k = envelope.routing_id then
        some (route.advance (envelope.delivery_class = .GroupCommit))
      else store.relay_route.get? k
  acknowledgments : store'.relay_acknowledgment = store.relay_acknowledgment

/-- The lookup by identifier: the row is sound, and identity is of envelope and bytes. -/
theorem find_existing_eq_some {existing : ExistingSubmission}
    (h : find_existing store envelope bytes = .ok (some existing)) :
    ∃ row stored, store.relay_envelope.get? envelope.envelope_id = some row
    ∧ envelope_from_row row = .ok stored
    ∧ existing = ⟨row.cursor, stored = envelope ∧ row.encoded_envelope = bytes⟩ := by
  unfold find_existing at h
  split at h
  · cases h
  · rename_i row hrow
    obtain ⟨stored, hstored, h⟩ := bind_ok.1 h
    cases h
    exact ⟨row, stored, hrow, hstored, rfl⟩

theorem find_existing_eq_none (h : find_existing store envelope bytes = .ok none) :
    store.relay_envelope.get? envelope.envelope_id = none := by
  unfold find_existing at h
  split at h
  · assumption
  · obtain ⟨_, _, h⟩ := bind_ok.1 h
    cases h

/-- An allocated cursor and an inserted row are an accepted submission. -/
theorem accepted_of_allocate {store₁ : RelayStore}
    (hdec : decode_relay_envelope bytes = .ok envelope)
    (hfresh : store.relay_envelope.get? envelope.envelope_id = none)
    (hlive : now < envelope.expires_at_unix_seconds)
    (hallocate : allocate_cursor (store.initialize_route envelope.routing_id) envelope
      = .ok (cursor, store₁)) (hins : insert_envelope store₁ envelope bytes cursor = .ok store') :
    ∃ route, cursor = route.next_cursor ∧ Accepted store store' envelope bytes now route := by
  obtain ⟨route, hroute, rfl, hlt, hgate, rfl⟩ := allocate_cursor_eq_ok hallocate
  obtain ⟨hcheck, -, relay_envelope, htable, rfl⟩ := insert_envelope_eq_ok hins
  rw [initialize_route_get?, if_pos rfl, some.injEq] at hroute
  refine ⟨route, rfl, hdec, hfresh, hlive, hroute, hlt, hgate, hcheck, ?_, ?_,
    initialize_route_relay_acknowledgment store _⟩
  · have hrows := (insert?_iff.1 htable).2
    simpa using hrows
  · intro k
    refine (get?_update (store.initialize_route envelope.routing_id).relay_route
      envelope.routing_id (RouteRow.advance (envelope.delivery_class = .GroupCommit))
      (fun _ => rfl) k).trans ?_
    rw [initialize_route_get?]
    by_cases hk : k = envelope.routing_id
    · subst hk
      rw [if_pos rfl, if_pos rfl, if_pos rfl, hroute, map_some]
    · rw [if_neg hk, if_neg hk, if_neg hk]

/-- A submission fails and changes nothing, finds itself stored, or is appended. -/
theorem submit_encoded_cases : (∃ e, submit_encoded store envelope bytes now = (.error e, store))
    ∨ (∃ row, store.relay_envelope.get? envelope.envelope_id = some row
        ∧ envelope_from_row row = .ok envelope
        ∧ row.encoded_envelope = bytes
        ∧ submit_encoded store envelope bytes now
          = (.ok ⟨row.cursor, true⟩, store.initialize_route envelope.routing_id))
    ∨ ∃ store' route, Accepted store store' envelope bytes now route
      ∧ submit_encoded store envelope bytes now = (.ok ⟨route.next_cursor, false⟩, store') := by
  rw [submit_encoded]
  cases h : submit_transaction store envelope bytes now with
  | error e => exact .inl ⟨e, rfl⟩
  | ok out =>
    refine .inr ?_
    unfold submit_transaction at h
    obtain ⟨decoded, hdec, h⟩ := bind_ok.1 h
    rw [from_protocol_eq_ok] at hdec
    obtain ⟨hsame, h⟩ := ite_ok.1 h
    rw [not_not] at hsame
    subst hsame
    obtain ⟨existing, hold, h⟩ := bind_ok.1 h
    cases existing with
    | some existing =>
      obtain ⟨row, stored, hrow, hsound, rfl⟩ := find_existing_eq_some hold
      rw [initialize_route_relay_envelope] at hrow
      dsimp only at h
      split at h
      · rename_i hidentical
        obtain ⟨rfl, hbytes⟩ := of_decide_eq_true hidentical
        cases h
        exact .inl ⟨row, hrow, hsound, hbytes, rfl⟩
      · cases h
    | none =>
      have hfresh := find_existing_eq_none hold
      rw [initialize_route_relay_envelope] at hfresh
      obtain ⟨hlive, h⟩ := ite_ok.1 h
      rw [Nat.not_le] at hlive
      obtain ⟨⟨cursor, store₁⟩, hallocate, h⟩ := bind_ok.1 h
      obtain ⟨store', hins, h⟩ := bind_ok.1 h
      cases h
      obtain ⟨route, rfl, hacc⟩ := accepted_of_allocate hdec hfresh hlive hallocate hins
      exact .inr ⟨store', route, hacc, rfl⟩

/-! ## The invariant

A route and its rows are a numbered log, sequenced by the Commits in it. -/

/-- The stored envelopes of a route, in cursor order. -/
def RelayStore.log (store : RelayStore) (routing_id : RoutingId) : List EnvelopeRow :=
  (store.relay_envelope.rows.filter (fun row => row.routing_id = routing_id)).insertionSort
    (fun x y => x.cursor ≤ y.cursor)

/-- The same in the order they were stored. -/
def RelayStore.route_rows (store : RelayStore) (routing_id : RoutingId) : List EnvelopeRow :=
  store.relay_envelope.rows.filter (fun row => row.routing_id = routing_id)

def EnvelopeRow.is_commit (row : EnvelopeRow) : Bool :=
  row.delivery_class = delivery_class_to_sql .GroupCommit

/-- A route row and its log tell the same story. -/
structure RouteLog (route : RouteRow) (log : List EnvelopeRow) : Prop where
  numbered : Numbered EnvelopeRow.cursor 1 log
  sequenced : Sequenced EnvelopeRow.is_commit EnvelopeRow.expected_parent_epoch log
  next_cursor : route.next_cursor = log.length + 1
  current_epoch : route.current_epoch = epoch EnvelopeRow.is_commit log
  next_le : route.next_cursor ≤ I64_MAX

structure RelayStore.WellFormed (store : RelayStore) : Prop where
  rows_check : ∀ row ∈ store.relay_envelope.rows, row.check = true
  rows_sound : ∀ row ∈ store.relay_envelope.rows, ∃ envelope, envelope_from_row row = .ok envelope
  rows_routed : ∀ row ∈ store.relay_envelope.rows,
    (store.relay_route.get? row.routing_id).isSome
  logs : ∀ routing_id route, store.relay_route.get? routing_id = some route →
    RouteLog route (store.route_rows routing_id)

theorem RelayStore.WellFormed.empty : RelayStore.empty.WellFormed where
  rows_check := by simp [RelayStore.empty, Table.empty]
  rows_sound := by simp [RelayStore.empty, Table.empty]
  rows_routed := by simp [RelayStore.empty, Table.empty]
  logs := by simp [RelayStore.empty]

/-- A route that has not been initialized has no rows, so it may start at cursor one. -/
theorem RelayStore.WellFormed.route_log (h : store.WellFormed) (routing_id : RoutingId) :
    RouteLog ((store.relay_route.get? routing_id).getD ⟨routing_id, 1, 0⟩)
      (store.route_rows routing_id) := by
  cases hroute : store.relay_route.get? routing_id with
  | some route => exact h.logs routing_id route hroute
  | none =>
    have hempty : store.route_rows routing_id = [] := by
      rw [route_rows, filter_eq_nil_iff]
      intro row hrow hsame
      have hsome := h.rows_routed row hrow
      rw [of_decide_eq_true hsame, hroute] at hsome
      cases hsome
    rw [hempty]
    exact ⟨Numbered.nil, .nil, rfl, rfl, show 1 ≤ I64_MAX by decide⟩

/-- Initializing a route keeps the invariant. -/
theorem RelayStore.WellFormed.initialize_route (h : store.WellFormed) (routing_id : RoutingId) :
    (store.initialize_route routing_id).WellFormed where
  rows_check := by
    rw [initialize_route_relay_envelope]
    exact h.rows_check
  rows_sound := by
    rw [initialize_route_relay_envelope]
    exact h.rows_sound
  rows_routed := by
    intro row hrow
    rw [initialize_route_relay_envelope] at hrow
    rw [initialize_route_get?]
    split
    · rfl
    · exact h.rows_routed row hrow
  logs := by
    intro k route hroute
    rw [route_rows, initialize_route_relay_envelope, ← route_rows]
    rw [initialize_route_get?] at hroute
    split at hroute
    · rename_i hk
      subst hk
      rw [← some.inj hroute]
      exact h.route_log k
    · exact h.logs k route hroute

/-- One accepted row extends the log of its route by one entry. -/
theorem RouteLog.snoc {log : List EnvelopeRow} (h : RouteLog route log)
    (hlt : route.next_cursor < I64_MAX)
    (hgate : ∀ parent, envelope.expected_parent_epoch = some parent
      → parent = route.current_epoch) :
    RouteLog (route.advance (envelope.delivery_class = .GroupCommit))
    (log ++ [EnvelopeRow.of envelope bytes route.next_cursor]) where
  numbered := Numbered.concat_iff.2 ⟨h.numbered, h.next_cursor.trans (Nat.add_comm _ _)⟩
  sequenced := .snoc h.sequenced (fun parent hparent => by
    rw [← h.current_epoch]
    exact hgate parent hparent)
  next_cursor := by
    rw [length_append, length_singleton, ← h.next_cursor]
    rfl
  current_epoch := by
    have hcommit : (EnvelopeRow.of envelope bytes route.next_cursor).is_commit
        = decide (envelope.delivery_class = .GroupCommit) := by
      cases hclass : envelope.delivery_class <;>
        simp [EnvelopeRow.is_commit, EnvelopeRow.of, delivery_class_to_sql, hclass]
    rw [epoch_snoc, hcommit, ← h.current_epoch]
    rfl
  next_le := hlt

/-- An accepted submission keeps the invariant. -/
theorem RelayStore.WellFormed.accepted (h : store.WellFormed)
    (hacc : Accepted store store' envelope bytes now route) : store'.WellFormed where
  rows_check := by
    intro row hrow
    rw [hacc.rows, mem_append, mem_singleton] at hrow
    rcases hrow with hrow | rfl
    · exact h.rows_check row hrow
    · exact hacc.check
  rows_sound := by
    intro row hrow
    rw [hacc.rows, mem_append, mem_singleton] at hrow
    rcases hrow with hrow | rfl
    · exact h.rows_sound row hrow
    · exact ⟨envelope, envelope_from_row_of hacc.decoded hacc.check⟩
  rows_routed := by
    intro row hrow
    rw [hacc.routes]
    split
    · rfl
    · rename_i hother
      rw [hacc.rows, mem_append, mem_singleton] at hrow
      rcases hrow with hrow | rfl
      · exact h.rows_routed row hrow
      · exact absurd rfl hother
  logs := by
    intro k route' hroute'
    rw [hacc.routes] at hroute'
    rw [route_rows, hacc.rows, filter_append, ← route_rows]
    by_cases hk : k = envelope.routing_id
    · subst hk
      rw [if_pos rfl, some.injEq] at hroute'
      rw [filter_singleton, decide_eq_true (show (EnvelopeRow.of envelope bytes
        route.next_cursor).routing_id = envelope.routing_id from rfl), ← hroute']
      exact (hacc.route_eq ▸ h.route_log _).snoc hacc.next_lt hacc.gate
    · rw [if_neg hk] at hroute'
      rw [filter_singleton, decide_eq_false (show ¬ (EnvelopeRow.of envelope
        bytes route.next_cursor).routing_id = k from fun heq => hk heq.symm)]
      simpa using h.logs k route' hroute'

/-- Every submission keeps the invariant. -/
theorem RelayStore.WellFormed.submit_encoded (h : store.WellFormed) (envelope : RelayEnvelope)
    (bytes : Bytes) (now : ℕ) : (Relay.submit_encoded store envelope bytes now).2.WellFormed := by
  rcases submit_encoded_cases with
    ⟨_, hres⟩ | ⟨_, _, _, _, hres⟩ | ⟨store', route, hacc, hres⟩
  · rw [hres]
    exact h
  · rw [hres]
    exact h.initialize_route _
  · rw [hres]
    exact h.accepted hacc

/-- The upsert fails and changes nothing, or stores and returns the greater cursor. -/
theorem acknowledge_write_cases (principal : RelayPrincipalId) (request : AcknowledgeRequest) :
    (∃ error, acknowledge_write store principal request = (.error error, store))
    ∨ ∃ cursor relay_acknowledgment, acknowledge_write store principal request
        = (.ok cursor, { store with relay_acknowledgment })
      ∧ cursor = ((store.relay_acknowledgment.get? (request.routing_id, principal)).map
          (·.cursor)).elim request.cursor (max request.cursor)
      ∧ ∀ key, (relay_acknowledgment.get? key).map (·.cursor)
        = if (request.routing_id, principal) = key then some cursor
          else (store.relay_acknowledgment.get? key).map (·.cursor) := by
  rw [acknowledge_write]
  cases hcur : to_sql_integer request.cursor with
  | error error => exact .inl ⟨error, rfl⟩
  | ok cursor =>
    obtain ⟨-, rfl⟩ := to_sql_integer_ok.1 hcur
    rw [ok_bind]
    split
    · refine .inr ⟨_, _, rfl, ?_, fun key => ?_⟩
      · cases store.relay_acknowledgment.get? (request.routing_id, principal) with
        | none => rfl
        | some row => exact Nat.max_comm _ _
      · rw [get?_put]
        by_cases hkey : (request.routing_id, principal) = key
        · rw [if_pos hkey, if_pos hkey, map_some]
        · rw [if_neg hkey, if_neg hkey]
    · exact .inl ⟨_, rfl⟩

/-- One step keeps the invariant. -/
theorem Repository.Step.wellFormed (hstep : relay.Step relay') (h : relay.store.WellFormed) :
    relay'.store.WellFormed := by
  cases hstep with
  | submit envelope bytes now => exact h.submit_encoded envelope bytes now
  | replay request => exact h
  | acknowledge_check principal request hcheck => exact h
  | acknowledge_refused principal request => exact h
  | acknowledge_write principal request hmem =>
    rcases acknowledge_write_cases principal request with
      ⟨_, hstore⟩ | ⟨_, table, hstore, -⟩
    · rw [hstore]
      exact h
    · rw [hstore]
      exact ⟨h.rows_check, h.rows_sound, h.rows_routed, h.logs⟩

/-- Every reachable state satisfies it. -/
theorem Repository.Reachable.wellFormed (h : relay.Reachable) : relay.store.WellFormed := by
  induction h with
  | refl => exact RelayStore.WellFormed.empty
  | tail _ hstep ih => exact hstep.wellFormed ih

/-! ## The log of a route

What the invariant says of the log that a client replays. -/

/-- Rows are stored in cursor order, so sorting them changes nothing. -/
theorem RelayStore.WellFormed.log_eq (h : store.WellFormed) (routing_id : RoutingId) :
    store.log routing_id = store.route_rows routing_id :=
  (h.route_log routing_id).numbered.order_by_eq

/-- In every reachable state the log of a route is numbered without gaps, its epoch
counts its Commits, every Commit and Proposal names the number of Commits before it, and
no envelope identifier is stored twice on any routes. -/
theorem relay_route_log {relay : Repository} (h : relay.Reachable) :
    (∀ route ∈ relay.store.relay_route.rows, (relay.store.log route.routing_id).map (·.cursor)
          = range' 1 (route.next_cursor - 1)
      ∧ route.current_epoch = (relay.store.log route.routing_id).countP (·.is_commit)
      ∧ ((relay.store.log route.routing_id).filter (·.is_commit)).map (·.expected_parent_epoch)
          = (range route.current_epoch).map some
      ∧ (∀ row ∈ relay.store.log route.routing_id,
          row.delivery_class = delivery_class_to_sql .GroupProposal →
          row.expected_parent_epoch = some ((relay.store.log route.routing_id).countP
            (fun other => other.is_commit && decide (other.cursor < row.cursor))))
      ∧ route.current_epoch < route.next_cursor)
    ∧ (relay.store.relay_envelope.rows.map (·.envelope_id)).Nodup
    ∧ ∀ row ∈ relay.store.relay_envelope.rows,
      (∃ route ∈ relay.store.relay_route.rows, route.routing_id = row.routing_id)
      ∧ ∃ envelope, decode_relay_envelope row.encoded_envelope = .ok envelope
        ∧ row = EnvelopeRow.of envelope row.encoded_envelope row.cursor := by
  have hwf := h.wellFormed
  refine ⟨?_, relay.store.relay_envelope.nodup, ?_⟩
  · intro route hroute
    have hlog := hwf.logs route.routing_id route (relay.store.relay_route.get?_of_mem hroute)
    rw [hwf.log_eq]
    have hgated : ∀ row ∈ relay.store.route_rows route.routing_id, row.expected_parent_epoch.isSome
          = decide (row.delivery_class = 3 ∨ row.delivery_class = 4) := by
      intro row hrow
      have hcheck := hwf.rows_check row (mem_of_mem_filter hrow)
      rw [EnvelopeRow.check, decide_eq_true_eq] at hcheck
      simp [hcheck.2.2.2.2.2.2]
    refine ⟨?_, hlog.current_epoch, ?_, ?_, ?_⟩
    · rw [hlog.next_cursor, Nat.add_sub_cancel]
      exact hlog.numbered
    · rw [hlog.current_epoch]
      refine hlog.sequenced.advancing_gates (fun row hrow hcommit => ?_)
      rw [hgated row hrow]
      exact decide_eq_true (.inr (of_decide_eq_true hcommit))
    · intro row hrow hproposal
      obtain ⟨parent, hparent⟩ := isSome_iff_exists.1
        ((hgated row hrow).trans (decide_eq_true (.inl hproposal)))
      obtain ⟨before, after, hsplit⟩ := append_of_mem hrow
      have hnumbered : Numbered EnvelopeRow.cursor 1 (before ++ row :: after) :=
        hsplit ▸ hlog.numbered
      -- the gate counts the Commits in the part of the log before the Proposal
      rw [hparent, hlog.sequenced.gate_eq hsplit hparent, hsplit, ← countP_filter,
        hnumbered.filter_before]
      rfl
    · have hle : epoch EnvelopeRow.is_commit (relay.store.route_rows route.routing_id)
          ≤ (relay.store.route_rows route.routing_id).length := epoch_le_length
      rw [hlog.current_epoch, hlog.next_cursor]
      omega
  · intro row hrow
    constructor
    · obtain ⟨route, hroute⟩ := isSome_iff_exists.1 (hwf.rows_routed row hrow)
      obtain ⟨hmem, hid⟩ := get?_iff.1 hroute
      exact ⟨route, hmem, hid⟩
    · obtain ⟨envelope, hsound⟩ := hwf.rows_sound row hrow
      obtain ⟨-, hdecoded, hcolumns, -⟩ := envelope_from_row_eq_ok.1 hsound
      exact ⟨envelope, hdecoded, hcolumns⟩

/-- A Commit for epoch zero with one byte of payload, and its canonical bytes. -/
def sample_commit (payload : UInt8) : RelayEnvelope where
  version := .application_v1
  routing_id := .repeated 32 7
  envelope_id := .repeated 16 1
  delivery_class := .GroupCommit
  expected_parent_epoch := some 0
  expires_at_unix_seconds := 100
  payload := [payload]
  payload_range := show 1 ≤ 1 ∧ 1 ≤ MAX_RELAY_PAYLOAD_BYTES by decide
  expires_pos := by decide
  epoch_presence := rfl

def sample_bytes (payload : UInt8) : Bytes := (relay_to_wire (sample_commit payload)).encode

/-- The relay after it has accepted `sample_commit 3`. -/
def sample_relay : Repository :=
  { Repository.initial with
    store := (submit_encoded Repository.initial.store (sample_commit 3) (sample_bytes 3) 5).2 }

theorem sample_relay_reachable : sample_relay.Reachable :=
  Relation.ReflTransGen.single (.submit _ _ _ _)

/-- A Proposal for the epoch that `sample_commit 3` began, and the Commit that ends it. -/
def sample_proposal : RelayEnvelope :=
  { sample_commit 3 with
    envelope_id := .repeated 16 2
    delivery_class := .GroupProposal
    expected_parent_epoch := some 1
    epoch_presence := rfl }

def sample_next : RelayEnvelope :=
  { sample_commit 4 with
    envelope_id := .repeated 16 3
    expected_parent_epoch := some 1
    epoch_presence := rfl }

/-- `sample_relay` after the Proposal, and after the second Commit. -/
def proposed_relay : Repository :=
  { sample_relay with
    store := (submit_encoded sample_relay.store sample_proposal
      (relay_to_wire sample_proposal).encode 6).2 }

def sample_log : Repository :=
  { proposed_relay with
    store := (submit_encoded proposed_relay.store sample_next
      (relay_to_wire sample_next).encode 7).2 }

theorem sample_log_steps : proposed_relay.Steps sample_log :=
  Relation.ReflTransGen.single (.submit _ _ _ _)

theorem sample_log_reachable : sample_log.Reachable :=
  (sample_relay_reachable.tail (.submit _ _ _ _)).trans sample_log_steps

theorem relay_route_log_sample :
    (⟨.repeated 32 7, 4, 2⟩ : RouteRow) ∈ sample_log.store.relay_route.rows
    ∧ (sample_log.store.log (.repeated 32 7)).map (·.cursor) = [1, 2, 3]
    ∧ ((sample_log.store.log (.repeated 32 7)).filter (·.is_commit)).map
      (·.expected_parent_epoch) = [some 0, some 1] :=
  have hmem : (⟨.repeated 32 7, 4, 2⟩ : RouteRow) ∈ sample_log.store.relay_route.rows := by
    decide +kernel
  have hlog := (relay_route_log sample_log_reachable).1 _ hmem
  ⟨hmem, hlog.1, hlog.2.2.1⟩

/-! ## Retries

Rows are never removed, so a stored envelope answers ever after. -/

/-- A step only ever appends rows. -/
theorem Repository.Step.rows_grow (hstep : relay.Step relay') :
    relay.store.relay_envelope.rows <+: relay'.store.relay_envelope.rows := by
  cases hstep with
  | submit envelope bytes now =>
    rcases submit_encoded_cases with
      ⟨_, hres⟩ | ⟨_, _, _, _, hres⟩ | ⟨store', route, hacc, hres⟩
    · rw [hres]
    · rw [hres, initialize_route_relay_envelope]
    · rw [hres]
      exact ⟨_, hacc.rows.symm⟩
  | replay request | acknowledge_check principal request hcheck
  | acknowledge_refused principal request => exact prefix_refl _
  | acknowledge_write principal request hmem =>
    rcases acknowledge_write_cases principal request with
      ⟨_, hstore⟩ | ⟨_, _, hstore, -⟩ <;> rw [hstore]

theorem Repository.Steps.rows_grow (hsteps : relay.Steps relay') :
    relay.store.relay_envelope.rows <+: relay'.store.relay_envelope.rows := by
  induction hsteps with
  | refl => exact prefix_refl _
  | tail _ hstep ih => exact ih.trans hstep.rows_grow

/-- A successful submission is in the table afterwards, at the cursor it returned. -/
theorem stored_of_submit_encoded {result : SubmitResult}
    (h : (submit_encoded store envelope bytes now).1 = .ok result) :
    ∃ row ∈ (submit_encoded store envelope bytes now).2.relay_envelope.rows,
    row.cursor = result.cursor ∧ row.encoded_envelope = bytes
    ∧ envelope_from_row row = .ok envelope := by
  rcases submit_encoded_cases with
    ⟨_, hres⟩ | ⟨row, hrow, hsound, hbytes, hres⟩ | ⟨store', route, hacc, hres⟩
  · rw [hres] at h
    cases h
  · rw [hres] at h ⊢
    cases h
    rw [initialize_route_relay_envelope]
    exact ⟨row, (get?_iff.1 hrow).1, rfl, hbytes, hsound⟩
  · rw [hres] at h ⊢
    cases h
    exact ⟨EnvelopeRow.of envelope bytes route.next_cursor, by rw [hacc.rows]; simp, rfl, rfl,
      envelope_from_row_of hacc.decoded hacc.check⟩

/-- How a submission under a stored identifier is answered, whatever the time, the epoch
and the cursors: the store is only read. -/
theorem submit_encoded_of_stored (hwf : store.WellFormed) (hrow : row ∈ store.relay_envelope.rows)
    {stored : RelayEnvelope} (hsound : envelope_from_row row = .ok stored)
    (hid : envelope.envelope_id = stored.envelope_id) : submit_encoded store envelope bytes now
    = (match decode_relay_envelope bytes with
        | .error e => .error (.Protocol e)
        | .ok decoded =>
          if decoded = envelope then
            if row.encoded_envelope = bytes then .ok ⟨row.cursor, true⟩
            else .error .IdempotencyConflict
          else .error .EnvelopeEncodingMismatch,
      store) := by
  obtain ⟨-, hdec, hcolumns, -⟩ := envelope_from_row_eq_ok.1 hsound
  have hrow_id : row.envelope_id = envelope.envelope_id := by
    rw [hid, hcolumns]
    rfl
  have hroute_id : row.routing_id = stored.routing_id := by
    rw [hcolumns]
    rfl
  rw [submit_encoded, submit_transaction]
  cases hdecoded : decode_relay_envelope bytes with
  | error e => rfl
  | ok decoded =>
    by_cases hsame : decoded = envelope
    · subst hsame
      have hold : find_existing (store.initialize_route decoded.routing_id) decoded
          bytes = .ok (some ⟨row.cursor, stored = decoded ∧ row.encoded_envelope = bytes⟩) := by
        unfold find_existing
        rw [initialize_route_relay_envelope, ← hrow_id, store.relay_envelope.get?_of_mem hrow]
        simp only [hsound, ok_bind]
        rfl
      by_cases hbytes : row.encoded_envelope = bytes
      · -- equal bytes decode to equal envelopes, so the route exists
        have hstored : stored = decoded := by
          rw [hbytes, hdecoded] at hdec
          exact (Except.ok.inj hdec).symm
        have hinit : store.initialize_route decoded.routing_id = store := by
          apply initialize_route_of_isSome
          rw [← hstored, ← hroute_id]
          exact hwf.rows_routed row hrow
        rw [hinit] at hold
        simp [from_protocol, hinit, hold, hstored, hbytes, transaction]
      · simp [from_protocol, hold, hbytes, transaction]
    · simp [from_protocol, hsame, transaction]

/-- Once a submission has succeeded, its retry returns its cursor as a duplicate at any
later time and state. Another submission under its identifier conflicts if its bytes are
those of its envelope, and is refused for its bytes if they are not. Neither changes the
store. -/
theorem submission_idempotent {relay relay' : Repository} (h : relay.Reachable)
    {envelope : RelayEnvelope} {encoded_envelope : Bytes} {now : ℕ} {result : SubmitResult}
    (hfirst : (submit_encoded relay.store envelope encoded_envelope now).1 = .ok result)
    (hlater : Repository.Steps
      { relay with store := (submit_encoded relay.store envelope encoded_envelope now).2 } relay') :
    (∀ now', submit_encoded relay'.store envelope encoded_envelope now'
      = (.ok ⟨result.cursor, true⟩, relay'.store))
    ∧ ∀ (envelope' : RelayEnvelope) (encoded_envelope' : Bytes) (now' : ℕ),
      envelope'.envelope_id = envelope.envelope_id →
      (envelope' ≠ envelope ∨ encoded_envelope' ≠ encoded_envelope) →
      submit_encoded relay'.store envelope' encoded_envelope' now'
        = (match decode_relay_envelope encoded_envelope' with
            | .error e => .error (.Protocol e)
            | .ok decoded =>
              if decoded = envelope' then .error .IdempotencyConflict
              else .error .EnvelopeEncodingMismatch,
          relay'.store) := by
  obtain ⟨row, hrow, hcursor, hbytes, hsound⟩ := stored_of_submit_encoded hfirst
  have hstored := hlater.rows_grow.subset hrow
  have hwf : relay'.store.WellFormed :=
    Repository.Reachable.wellFormed ((h.tail (.submit _ _ _ _)).trans hlater)
  have hdecode : decode_relay_envelope encoded_envelope = .ok envelope :=
    hbytes ▸ (envelope_from_row_eq_ok.1 hsound).2.1
  constructor
  · intro now'
    rw [submit_encoded_of_stored hwf hstored hsound rfl, hdecode]
    simp [hbytes, hcursor]
  · intro envelope' encoded_envelope' now' hid hdifferent
    rw [submit_encoded_of_stored hwf hstored hsound hid]
    cases hdecoded : decode_relay_envelope encoded_envelope' with
    | error e => rfl
    | ok decoded =>
      by_cases hsame : decoded = envelope'
      · -- the same bytes would be the same envelope
        have hother : ¬ row.encoded_envelope = encoded_envelope' := by
          rw [hbytes]
          rintro rfl
          rw [hdecode] at hdecoded
          rcases hdifferent with hdifferent | hdifferent
          · exact hdifferent (hsame ▸ (Except.ok.inj hdecoded).symm)
          · exact hdifferent rfl
        simp [hsame, hother]
      · simp [hsame]

theorem submission_idempotent_sample :
    submit_encoded sample_relay.store (sample_commit 3) (sample_bytes 3) 200
      = (.ok ⟨1, true⟩, sample_relay.store)
    ∧ (submit_encoded sample_relay.store (sample_commit 4) (sample_bytes 4) 6).1
      = .error .IdempotencyConflict :=
  have hfirst : (submit_encoded Repository.initial.store (sample_commit 3) (sample_bytes 3) 5).1
      = .ok ⟨1, false⟩ := by decide +kernel
  have hconflict := (submission_idempotent .refl hfirst .refl).2 (sample_commit 4)
    (sample_bytes 4) 6 rfl (.inl (by decide))
  ⟨(submission_idempotent .refl hfirst .refl).1 200,
    (congrArg Prod.fst hconflict).trans (by decide +kernel)⟩

/-- A call that passes the bytes of another envelope is refused before its identifier is
looked up: no conflict is reported. -/
theorem submission_conflict_needs_matching_bytes :
    (submit_encoded Repository.initial.store (sample_commit 3) (sample_bytes 3) 5).1
      = .ok ⟨1, false⟩ ∧ (sample_commit 4).envelope_id = (sample_commit 3).envelope_id
    ∧ (sample_commit 4).payload ≠ (sample_commit 3).payload
    ∧ (submit_encoded sample_relay.store (sample_commit 4) (sample_bytes 3) 6).1
      = .error .EnvelopeEncodingMismatch := by
  decide +kernel

end Konclave.Relay
