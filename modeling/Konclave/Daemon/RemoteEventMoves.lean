/-
What each statement of the remote-event journal does to its rows.

A statement either moves delivery states and keeps every event (`Moves`), or prunes a
terminal start of the journal (`Pruned`), or appends one event (`Appended`). Every call is
a sequence of these, so what a call keeps is proved of the three once.
-/
import Konclave.Daemon.RemoteEvents
import Konclave.Linked

set_option autoImplicit false

namespace Konclave.Daemon.RemoteEvents

open Domain List

variable {π : Type} {around : Surroundings π} {journal journal' journal'' : RemoteEventJournal}
  {x : RemoteEventRow} {y : RemoteEventRow} {z : RemoteEventRow}

/-! ## Moving delivery states

The statements of the journal rewrite delivery states and nothing else of a row. -/

/-- The same events with their states moved along `R`, and nothing else changed but the
delivery lease. -/
structure RemoteEventJournal.Moves (R : RemoteEventRow → RemoteEventRow → Prop)
    (journal journal' : RemoteEventJournal) : Prop where
  rows : List.Forall₂ (fun row row' => row'.event = row.event ∧ R row row')
    journal.events.rows journal'.events.rows
  next_sequence : journal'.next_sequence = journal.next_sequence
  head : journal'.head = journal.head
  floor_sequence : journal'.floor_sequence = journal.floor_sequence
  floor : journal'.floor = journal.floor

variable {row : RemoteEventRow} {state : RemoteEventDeliveryState} {sequences : List ℕ}
  {now expires_at : ℕ} {consumer_id : AdapterConsumerId} {lease_id : AdapterLeaseId}
  {terminal : List RemoteEventRecord}

namespace RemoteEventJournal.Moves

variable {R S T : RemoteEventRow → RemoteEventRow → Prop}

theorem refl (hrefl : ∀ row, R row row) (journal : RemoteEventJournal) : journal.Moves R journal :=
  ⟨forall₂_same.2 fun row _ => ⟨rfl, hrefl row⟩, rfl, rfl, rfl, rfl⟩

/-- Moves compose along any relation that two steps stay in. -/
theorem comp (hcomp : ∀ x y z, R x y → S y z → T x z) (h : journal.Moves R journal')
    (h' : journal'.Moves S journal'') : journal.Moves T journal'' where
  rows := by
    have hrows := h.rows
    have hrows' := h'.rows
    generalize journal.events.rows = rows at hrows
    generalize journal'.events.rows = rows' at hrows hrows'
    generalize journal''.events.rows = rows'' at hrows'
    induction hrows generalizing rows'' with
    | nil =>
      cases hrows'
      exact .nil
    | cons hstep _ ih =>
      cases hrows' with
      | cons hstep' hrest' =>
        exact .cons ⟨hstep'.1.trans hstep.1, hcomp _ _ _ hstep.2 hstep'.2⟩ (ih _ hrest')
  next_sequence := h'.next_sequence.trans h.next_sequence
  head := h'.head.trans h.head
  floor_sequence := h'.floor_sequence.trans h.floor_sequence
  floor := h'.floor.trans h.floor

theorem imp (himp : ∀ x y, R x y → S x y) (h : journal.Moves R journal') :
    journal.Moves S journal' :=
  ⟨h.rows.imp fun _ _ hstep => ⟨hstep.1, himp _ _ hstep.2⟩, h.next_sequence, h.head,
    h.floor_sequence, h.floor⟩

/-- The lease is not part of a move. -/
theorem with_consumer (h : journal.Moves R journal') (consumer : Option AdapterConsumerRow) :
    journal.Moves R { journal' with consumer } :=
  ⟨h.rows, h.next_sequence, h.head, h.floor_sequence, h.floor⟩

theorem of_consumer {consumer : Option AdapterConsumerRow}
    (h : RemoteEventJournal.Moves R { journal with consumer } journal') :
    journal.Moves R journal' :=
  ⟨h.rows, h.next_sequence, h.head, h.floor_sequence, h.floor⟩

theorem events_eq (h : journal.Moves R journal') :
    journal'.events.rows.map (·.event) = journal.events.rows.map (·.event) := by
  have hrows := h.rows
  generalize journal.events.rows = rows at hrows
  generalize journal'.events.rows = rows' at hrows
  induction hrows with
  | nil => rfl
  | cons hstep _ ih => rw [map_cons, map_cons, hstep.1, ih]

theorem forward (h : journal.Moves R journal') (hrow : row ∈ journal.events.rows) :
    ∃ row' ∈ journal'.events.rows, row'.event = row.event ∧ R row row' :=
  exists_right_of_forall₂ h.rows hrow

theorem backward (h : journal.Moves R journal') {row' : RemoteEventRow}
    (hrow' : row' ∈ journal'.events.rows) :
    ∃ row ∈ journal.events.rows, row'.event = row.event ∧ R row row' :=
  exists_left_of_forall₂ h.rows hrow'

end RemoteEventJournal.Moves

/-- Storing a state the row may move to. -/
theorem RemoteEventJournal.set_state_moves {R : RemoteEventRow → RemoteEventRow → Prop}
    (hrefl : ∀ row, R row row) (hrow : row ∈ journal.events.rows)
    (hmove : R row ⟨row.event, state⟩) :
    journal.Moves R (journal.set_state row.event.sequence state) := by
  refine ⟨?_, rfl, rfl, rfl, rfl⟩
  show List.Forall₂ _ journal.events.rows (journal.events.rows.map _)
  rw [forall₂_map_right_iff, forall₂_same]
  intro other hother
  by_cases hkey : other.event.sequence = row.event.sequence
  · rw [if_pos hkey, journal.events.eq_of_key_eq hother hrow hkey]
    exact ⟨rfl, hmove⟩
  · rw [if_neg hkey]
    exact ⟨rfl, hrefl other⟩

/-! ## Loading and storing

The loop that the statements share moves each state it visits. -/

/-- The row can be opened: its conversation is there under the row's routing, and its
delivery state is one the store writes. -/
structure RemoteEventRow.Readable (around : Surroundings π) (row : RemoteEventRow) : Prop where
  conversation : ∃ conversation, around.conversation row.event.conversation_id = some conversation
    ∧ row.event.routing_id = conversation.routing_id
  relay_cursor : 0 < row.event.relay_cursor
  encodable : row.state.encodable = true

variable {p : RemoteEventDeliveryState → Bool} {state' : RemoteEventDeliveryState}
  {before : RemoteEventJournal} {source : RemoteEventSource} {sequence : ℕ}

theorem load_remote_event_record_eq_ok : load_remote_event_record around journal sequence = .ok row
    ↔ journal.events.get? sequence = some row ∧ row.Readable around := by
  simp only [load_remote_event_record, some_or_ok, require_ok]
  constructor
  · rintro ⟨found, hfound, conversation, hconv, hrouting, hcur, henc, h⟩
    cases h
    exact ⟨hfound, ⟨conversation, hconv, hrouting⟩, hcur, henc⟩
  · rintro ⟨hfound, ⟨conversation, hconv, hrouting⟩, hcur, henc⟩
    exact ⟨row, hfound, conversation, hconv, hrouting, hcur, henc, rfl⟩

theorem store_remote_event_delivery_state_eq_ok {event : RemoteEventRecord}
    (h : store_remote_event_delivery_state journal event state = .ok journal') :
    state.encodable = true ∧ journal' = journal.set_state event.sequence state := by
  rw [store_remote_event_delivery_state, require_ok] at h
  obtain ⟨henc, h⟩ := h
  obtain ⟨_, -, h⟩ := bind_ok.1 h
  obtain ⟨_, -, h⟩ := bind_ok.1 h
  obtain ⟨-, h⟩ := require_ok.1 h
  cases h
  exact ⟨henc, rfl⟩

/-- Loading a row and storing a state it may move to, which is one the store can read. -/
theorem load_store_moves {R : RemoteEventRow → RemoteEventRow → Prop} (hrefl : ∀ row, R row row)
    (hload : load_remote_event_record around journal sequence = .ok row)
    (hstore : store_remote_event_delivery_state journal row.event state = .ok journal')
    (hmove : state.encodable = true → R row ⟨row.event, state⟩) : journal.Moves R journal' := by
  obtain ⟨hget, -⟩ := load_remote_event_record_eq_ok.1 hload
  obtain ⟨henc, rfl⟩ := store_remote_event_delivery_state_eq_ok hstore
  exact RemoteEventJournal.set_state_moves hrefl (Table.get?_iff.1 hget).1 (hmove henc)

/-- The loop over events moves each along any relation that its step stays in. -/
theorem rewrite_events_moves {R : RemoteEventRow → RemoteEventRow → Prop} (hrefl : ∀ row, R row row)
    (htrans : ∀ x y z, R x y → R y z → R x z)
    {next : RemoteEventDeliveryState → Except ProfileStoreError RemoteEventDeliveryState}
    (hnext : ∀ row state, next row.state = .ok state → state.encodable = true →
      R row ⟨row.event, state⟩)
    (h : rewrite_events around next journal sequences = .ok journal') :
    journal.Moves R journal' := by
  refine foldlM_keeps (p := journal.Moves R) ?_ (.refl hrefl journal) h
  intro later sequence later' hmoves hstep
  obtain ⟨row, hload, hstep⟩ := bind_ok.1 hstep
  obtain ⟨state, hstate, hstore⟩ := bind_ok.1 hstep
  exact hmoves.comp htrans (load_store_moves hrefl hload hstore (hnext row state hstate))

/-! ## The moves of the statements

What reclaiming, renewing and claiming do to a state. -/

/-- A claim that ended without an acknowledgment. -/
def Unclaims (row row' : RemoteEventRow) : Prop :=
  row' = row ∨ (row.state.status = .Claimed
    ∧ row' = ⟨row.event, unclaimed .Pending row.state.lease_generation⟩)

theorem Unclaims.refl (row : RemoteEventRow) : Unclaims row row := .inl rfl

theorem Unclaims.trans (x y z : RemoteEventRow) (h : Unclaims x y) (h' : Unclaims y z) :
    Unclaims x z := by
  rcases h' with rfl | ⟨hclaimed, rfl⟩
  · exact h
  · rcases h with rfl | ⟨-, rfl⟩
    · exact .inr ⟨hclaimed, rfl⟩
    · cases hclaimed

theorem rewrite_make_pending
    (h : rewrite_events around (make_pending p) journal sequences = .ok journal') :
    journal.Moves Unclaims journal' :=
  rewrite_events_moves .refl .trans (fun _ _ hstate _ => by
    obtain ⟨hclaimed, hstate⟩ := require_ok.1 hstate
    cases hstate
    exact .inr ⟨hclaimed.1, rfl⟩) h

theorem reclaim_expired_remote_events_eq_ok
    (h : reclaim_expired_remote_events around journal now = .ok journal') :
    journal.Moves Unclaims journal' := by
  obtain ⟨_, -, h⟩ := bind_ok.1 h
  exact rewrite_make_pending h

/-- The renewal of a claim. -/
def Renews (expires_at : ℕ) (row row' : RemoteEventRow) : Prop :=
  row' = row ∨ (row.state.status = .Claimed
    ∧ row' = ⟨row.event, { row.state with lease_expires_at_unix_milliseconds := some expires_at }⟩
    ∧ row'.state.encodable = true)

theorem Renews.trans (x y z : RemoteEventRow) (h : Renews expires_at x y)
    (h' : Renews expires_at y z) : Renews expires_at x z := by
  rcases h with rfl | ⟨hclaimed, rfl, henc⟩
  · exact h'
  · rcases h' with rfl | ⟨-, rfl, -⟩
    · exact .inr ⟨hclaimed, rfl, henc⟩
    · exact .inr ⟨hclaimed, rfl, henc⟩

theorem renew_claimed_remote_events_eq_ok
    (h : renew_claimed_remote_events around journal consumer_id lease_id now expires_at
      = .ok journal') : journal.Moves (Renews expires_at) journal' := by
  obtain ⟨_, -, h⟩ := bind_ok.1 h
  obtain ⟨-, h⟩ := require_ok.1 h
  refine rewrite_events_moves (fun row => .inl rfl) Renews.trans ?_ h
  intro row state hstate henc
  obtain ⟨hclaimed, hstate⟩ := require_ok.1 hstate
  cases hstate
  exact .inr ⟨hclaimed.1, rfl, henc⟩

/-- A new claim of a pending event. -/
def Claims (consumer_id : AdapterConsumerId) (lease_id : AdapterLeaseId) (expires_at : ℕ)
    (row row' : RemoteEventRow) : Prop :=
  row' = row ∨ (row.state.status = .Pending
    ∧ row' = ⟨row.event, ⟨.Claimed, some consumer_id, some lease_id,
      row.state.lease_generation + 1, some expires_at⟩⟩ ∧ row'.state.encodable = true)

theorem Claims.trans (x y z : RemoteEventRow) (h : Claims consumer_id lease_id expires_at x y)
    (h' : Claims consumer_id lease_id expires_at y z) :
    Claims consumer_id lease_id expires_at x z := by
  rcases h with rfl | ⟨hpend, rfl, henc⟩
  · exact h'
  · rcases h' with rfl | ⟨hpend', -⟩
    · exact .inr ⟨hpend, rfl, henc⟩
    · cases hpend'

/-- What a claim selected: an event of `before`, now claimed under the next generation. -/
def Selected (consumer_id : AdapterConsumerId) (lease_id : AdapterLeaseId) (expires_at : ℕ)
    (before later : RemoteEventJournal) (claimed : ℕ × ℕ) : Prop :=
  ∃ row ∈ before.events.rows, row.event.sequence = claimed.1
    ∧ row.state.lease_generation + 1 = claimed.2
    ∧ ⟨row.event, ⟨.Claimed, some consumer_id, some lease_id, claimed.2, some expires_at⟩⟩
      ∈ later.events.rows

/-- A later claim of the same batch does not touch it. -/
theorem Selected.claims {claimed : ℕ × ℕ}
    (h : Selected consumer_id lease_id expires_at before journal claimed)
    (hmoves : journal.Moves (Claims consumer_id lease_id expires_at) journal') :
    Selected consumer_id lease_id expires_at before journal' claimed := by
  obtain ⟨row, hrow, hnumber, hgen, hclaimed⟩ := h
  obtain ⟨row', hrow', -, heq | ⟨hpend, -⟩⟩ := hmoves.forward hclaimed
  · exact ⟨row, hrow, hnumber, hgen, heq ▸ hrow'⟩
  · cases hpend

/-- The loop claims the first candidates, as many as the bytes of a batch hold. -/
theorem claim_selected_eq_ok {candidates : List (ℕ × ℕ)} {selected claimed : List (ℕ × ℕ)}
    {bytes : ℕ}
    (h : claim_selected around (claim_state consumer_id lease_id expires_at) journal selected bytes
      candidates = .ok (claimed, journal'))
    (hbefore : before.Moves (Claims consumer_id lease_id expires_at) journal)
    (hbytes : bytes ≤ MAX_REMOTE_EVENT_BATCH_BYTES)
    (hselected : ∀ x ∈ selected, Selected consumer_id lease_id expires_at before journal x) :
    before.Moves (Claims consumer_id lease_id expires_at) journal'
    ∧ (∃ k, claimed.map Prod.fst = (selected ++ candidates.take k).map Prod.fst
      ∧ bytes + ((candidates.take k).map Prod.snd).sum ≤ MAX_REMOTE_EVENT_BATCH_BYTES)
    ∧ ∀ x ∈ claimed, Selected consumer_id lease_id expires_at before journal' x := by
  induction candidates generalizing journal selected bytes with
  | nil =>
    cases h
    exact ⟨hbefore, ⟨0, by simp, hbytes⟩, hselected⟩
  | cons candidate candidates ih =>
    obtain ⟨sequence, length⟩ := candidate
    rw [claim_selected] at h
    obtain ⟨_, -, h⟩ := bind_ok.1 h
    split at h
    · obtain ⟨-, h⟩ := require_ok.1 h
      cases h
      exact ⟨hbefore, ⟨0, by simp, hbytes⟩, hselected⟩
    · rename_i hroom
      obtain ⟨row, hload, h⟩ := bind_ok.1 h
      obtain ⟨state, hstate, h⟩ := bind_ok.1 h
      obtain ⟨stored, hstore, h⟩ := bind_ok.1 h
      obtain ⟨hpend, hstate⟩ := require_ok.1 hstate
      obtain ⟨generation, hgen, hstate⟩ := some_or_ok.1 hstate
      obtain ⟨-, rfl⟩ := checked_add_iff.1 hgen
      cases hstate
      obtain ⟨hget, -⟩ := load_remote_event_record_eq_ok.1 hload
      obtain ⟨hrow, hkey⟩ := Table.get?_iff.1 hget
      have hmoves := load_store_moves (R := Claims consumer_id lease_id expires_at)
        (fun row => .inl rfl) hload hstore fun henc => .inr ⟨hpend, rfl, henc⟩
      -- a row still pending here was pending before the loop
      obtain ⟨old, hold, -, hold_claims⟩ := hbefore.backward hrow
      have hunmoved : row = old := by
        rcases hold_claims with heq | ⟨-, rfl, -⟩
        · exact heq
        · cases hpend
      subst hunmoved
      have hselected' : ∀ x ∈ selected ++ [(sequence, row.state.lease_generation + 1)],
          Selected consumer_id lease_id expires_at before stored x := by
        intro x hx
        rcases mem_append.1 hx with hx | hx
        · exact (hselected x hx).claims hmoves
        · rw [mem_singleton] at hx
          subst hx
          obtain ⟨-, rfl⟩ := store_remote_event_delivery_state_eq_ok hstore
          exact ⟨row, hold, hkey, rfl, mem_map.2 ⟨row, hrow, if_pos rfl⟩⟩
      obtain ⟨hclaims, ⟨k, hsequences, hsum⟩, hall⟩ :=
        ih h (hbefore.comp Claims.trans hmoves) (Nat.le_of_not_lt hroom) hselected'
      refine ⟨hclaims, ⟨k + 1, ?_, ?_⟩, hall⟩
      · simpa using hsequences
      · rw [take_succ_cons, map_cons, sum_cons, ← Nat.add_assoc]
        exact hsum

theorem renew_active_adapter_lease_eq_ok
    (h : renew_active_adapter_lease journal consumer_id lease_id now expires_at = .ok journal') :
    ∃ consumer, journal' = { journal with consumer } := by
  obtain ⟨_, -, h⟩ := bind_ok.1 h
  obtain ⟨row, -, h⟩ := some_or_ok.1 h
  obtain ⟨-, h⟩ := require_ok.1 h
  split at h
  · obtain ⟨_, -, h⟩ := bind_ok.1 h
    cases h
    exact ⟨_, rfl⟩
  · cases h
    exact ⟨_, rfl⟩

theorem candidates_eq {candidates : List (ℕ × ℕ)} {limit : ℕ}
    (h : claim_candidates around journal limit = .ok candidates) :
    candidates = ((claim_order journal).take limit).map fun row =>
      (row.event.sequence, around.event_length row.event) := by
  have hrows := mapM_eq_ok.1 h
  refine (forall₂_eq_eq_eq ▸ forall₂_map_left_iff.2 (hrows.imp fun row candidate hrow => ?_)).symm
  obtain ⟨length, hlength, hrow⟩ := some_or_ok.1 hrow
  cases hrow
  rw [Surroundings.event_length, hlength]
  rfl

/-- A claim fails and changes nothing, or it claims rows that were there once expired claims
were given back: at most as many, and as many bytes, as a batch holds. -/
theorem claim_transaction_cases (now expires_at limit : ℕ) :
    (∃ e, claim_transaction around journal consumer_id lease_id now expires_at limit
        = (.error e, journal)) ∨ ∃ selected reclaimed journal',
      claim_transaction around journal consumer_id lease_id now expires_at limit
        = (.ok selected, journal')
      ∧ journal.Moves Unclaims reclaimed
      ∧ reclaimed.Moves (Claims consumer_id lease_id expires_at) journal'
      ∧ now < expires_at
      ∧ (∃ rows : List RemoteEventRow, rows ⊆ reclaimed.events.rows
        ∧ rows.length ≤ MAX_REMOTE_EVENT_BATCH
        ∧ selected.map Prod.fst = rows.map (·.event.sequence)
        ∧ (rows.map fun row => around.event_length row.event).sum ≤ MAX_REMOTE_EVENT_BATCH_BYTES)
      ∧ ∀ x ∈ selected, Selected consumer_id lease_id expires_at reclaimed journal' x := by
  rw [claim_transaction]
  rcases transaction_result with ⟨e, hrun⟩ | ⟨selected, journal', h, hrun⟩
  · exact .inl ⟨e, hrun⟩
  · obtain ⟨⟨-, hlimit⟩, hwin⟩ := require_ok.1 h
    obtain ⟨_, hvalid, hrenew⟩ := bind_ok.1 hwin
    obtain ⟨hvalid, -⟩ := ite_ok.1 hvalid
    obtain ⟨renewed, hrenewed, hreclaim⟩ := bind_ok.1 hrenew
    obtain ⟨reclaimed, hreclaimed, hselect⟩ := bind_ok.1 hreclaim
    obtain ⟨candidates, hcandidates, hselected⟩ := bind_ok.1 hselect
    obtain ⟨consumer, heq⟩ := renew_active_adapter_lease_eq_ok hrenewed
    obtain ⟨hclaims, ⟨k, hsequences, hsum⟩, hall⟩ := claim_selected_eq_ok hselected
      (.refl (fun _ => .inl rfl) reclaimed) (Nat.zero_le _) (fun _ hx => absurd hx not_mem_nil)
    rw [heq] at hreclaimed
    refine .inr ⟨selected, reclaimed, journal', hrun,
      (reclaim_expired_remote_events_eq_ok hreclaimed).of_consumer, hclaims,
      Nat.lt_of_not_le fun hle => hvalid (.inl hle),
      ⟨((claim_order reclaimed).take limit).take k, ?_, ?_, ?_, ?_⟩, hall⟩
    · intro row hrow
      have hmem := (perm_insertionSort _ _).subset (mem_of_mem_take (mem_of_mem_take hrow))
      exact mem_of_mem_filter ((perm_insertionSort _ _).subset hmem)
    · exact (length_take_le' k _).trans ((length_take_le limit _).trans hlimit)
    · rw [hsequences, candidates_eq hcandidates, nil_append, map_take, map_map, ← map_take]
      rfl
    · rw [candidates_eq hcandidates, Nat.zero_add, map_take, map_map, ← map_take] at hsum
      exact hsum

/-! ## Pruning

A pruning takes the longest terminal prefix within its limit, and moves the floor to its end. -/

def RemoteEventRow.Terminal (row : RemoteEventRow) : Prop :=
  row.state.status = .Acknowledged ∨ row.state.status = .Suppressed

/-- Events that continue a number and a notification. -/
abbrev LinkedEvents (after : ℕ) (previous : Option NotificationId)
    (events : List RemoteEventRecord) : Prop :=
  Linked RemoteEventRecord.sequence RemoteEventRecord.notification_id
    RemoteEventRecord.previous_notification_id after previous events

/-- The journal's floor, as a number and a notification. -/
def RemoteEventJournal.floor_notification (journal : RemoteEventJournal) : Option NotificationId :=
  journal.floor.map (·.notification_id)

theorem terminal_prefix_eq_ok {after : ℕ} {previous : Option NotificationId}
    (h : terminal_prefix around journal after previous sequences = .ok terminal) :
    LinkedEvents after previous terminal
    ∧ ∀ event ∈ terminal, ∃ row ∈ journal.events.rows, row.event = event ∧ row.Terminal := by
  induction sequences generalizing after previous terminal with
  | nil =>
    cases h
    exact ⟨trivial, fun _ hmem => absurd hmem not_mem_nil⟩
  | cons sequence sequences ih =>
    rw [ terminal_prefix] at h
    obtain ⟨row, hload, h⟩ := bind_ok.1 h
    obtain ⟨⟨hnumber, hprev⟩, h⟩ := require_ok.1 h
    obtain ⟨-, hnumber⟩ := checked_add_iff.1 hnumber
    split at h
    · rename_i hterm
      obtain ⟨later, hlater, h⟩ := bind_ok.1 h
      cases h
      rw [hnumber] at hlater
      obtain ⟨hlinked, hall⟩ := ih hlater
      refine ⟨⟨hnumber, hprev, hlinked⟩, ?_⟩
      intro event hev
      rcases mem_cons.1 hev with rfl | hrest
      · obtain ⟨hget, -⟩ := load_remote_event_record_eq_ok.1 hload
        exact ⟨row, (Table.get?_iff.1 hget).1, rfl, hterm⟩
      · exact hall event hrest
    · cases h
      exact ⟨trivial, fun _ hmem => absurd hmem not_mem_nil⟩

/-- The journal without a terminal start: the events from the floor to the new one. -/
structure RemoteEventJournal.Pruned (journal journal' : RemoteEventJournal)
    (terminal : List RemoteEventRecord) : Prop where
  linked : LinkedEvents journal.floor_sequence journal.floor_notification terminal
  all_terminal : ∀ event ∈ terminal, ∃ row ∈ journal.events.rows,
    row.event = event ∧ row.Terminal
  rows : journal'.events.rows = journal.events.rows.filter fun row => row.event ∉ terminal
  floor_sequence : journal'.floor_sequence = journal.floor_sequence + terminal.length
  floor : journal'.floor = match terminal.getLast? with
    | none => journal.floor
    | some last => some ⟨last.sequence, last.notification_id⟩
  next_sequence : journal'.next_sequence = journal.next_sequence
  head : journal'.head = journal.head

theorem RemoteEventJournal.Pruned.refl (journal : RemoteEventJournal) : journal.Pruned journal [] :=
  ⟨trivial, fun _ h => absurd h not_mem_nil, by simp, rfl, rfl, rfl, rfl⟩

theorem RemoteEventJournal.Pruned.mem (h : journal.Pruned journal' terminal) :
    row ∈ journal'.events.rows ↔ row ∈ journal.events.rows ∧ row.event ∉ terminal := by
  rw [h.rows, mem_filter, decide_eq_true_eq]

/-- Only a terminal row is pruned. -/
theorem RemoteEventJournal.Pruned.kept (h : journal.Pruned journal' terminal)
    (hrow : row ∈ journal.events.rows) : row ∈ journal'.events.rows ∨ row.Terminal := by
  by_cases hev : row.event ∈ terminal
  · obtain ⟨other, hother, heq, hterm⟩ := h.all_terminal _ hev
    have hsame : other = row := journal.events.eq_of_key_eq hother hrow (congrArg _ heq)
    exact .inr (hsame ▸ hterm)
  · exact .inl (h.mem.2 ⟨hrow, hev⟩)

/-- Deleting the terminal events one after the other. -/
theorem delete_remote_events_eq_ok (h : terminal.foldlM delete_remote_event journal = .ok journal')
    (hrows : ∀ event ∈ terminal, ∃ row ∈ journal.events.rows, row.event = event)
    (hnodup : terminal.Nodup) :
    journal'.events.rows = (journal.events.rows.filter fun row => row.event ∉ terminal)
    ∧ journal'.next_sequence = journal.next_sequence ∧ journal'.head = journal.head := by
  induction terminal generalizing journal with
  | nil =>
    cases h
    exact ⟨by simp, rfl, rfl⟩
  | cons event terminal ih =>
    rw [foldlM_cons] at h
    obtain ⟨deleted, hdelete, h⟩ := bind_ok.1 h
    obtain ⟨-, hdelete⟩ := require_ok.1 hdelete
    cases hdelete
    rw [nodup_cons] at hnodup
    obtain ⟨row, hrow, rfl⟩ := hrows event mem_cons_self
    -- the key picks the one row of this event
    have hgone : (journal.delete_event row.event).events.rows
        = journal.events.rows.filter fun other => other.event ≠ row.event := by
      show journal.events.rows.filter _ = _
      refine filter_congr fun other hother => ?_
      by_cases heq : other.event = row.event
      · simp [heq]
      · have hkey : other.event.sequence ≠ row.event.sequence := fun hkey =>
          heq (congrArg _ (journal.events.eq_of_key_eq hother hrow hkey))
        simp [heq, hkey]
    have hrest : ∀ event ∈ terminal,
        ∃ row' ∈ (journal.delete_event row.event).events.rows, row'.event = event := by
      intro event hev
      obtain ⟨other, hother, rfl⟩ := hrows event (mem_cons_of_mem _ hev)
      refine ⟨other, ?_, rfl⟩
      rw [hgone, mem_filter, decide_eq_true_eq]
      exact ⟨hother, fun heq => hnodup.1 (heq ▸ hev)⟩
    obtain ⟨hfiltered, hsame⟩ := ih h hrest hnodup.2
    refine ⟨?_, hsame⟩
    rw [hfiltered, hgone, filter_filter]
    refine filter_congr fun other _ => ?_
    simp only [mem_cons, not_or, Bool.decide_and, ne_eq, Bool.and_comm]

theorem load_remote_event_floor_eq_ok {floor : Option RemoteEventHead}
    (h : load_remote_event_floor journal = .ok floor) :
    floor = journal.floor ∧ journal.floor_sequence = (journal.floor.map (·.sequence)).getD 0 := by
  rw [load_remote_event_floor] at h
  split at h
  · rename_i hnone
    obtain ⟨hzero, h⟩ := require_ok.1 h
    cases h
    rw [hnone]
    exact ⟨rfl, hzero⟩
  · rename_i found hsome
    obtain ⟨-, h⟩ := require_ok.1 h
    obtain ⟨heq, h⟩ := require_ok.1 h
    cases h
    rw [hsome]
    exact ⟨rfl, heq.symm⟩

theorem prune_terminal_remote_events_in_eq_ok {limit count : ℕ}
    (h : prune_terminal_remote_events_in around journal limit = .ok (count, journal')) :
    ∃ terminal, journal.Pruned journal' terminal := by
  obtain ⟨floor, hfloor, h⟩ := bind_ok.1 h
  obtain ⟨rfl, hnumber⟩ := load_remote_event_floor_eq_ok hfloor
  dsimp only at h
  obtain ⟨terminal, hterm, h⟩ := bind_ok.1 h
  obtain ⟨hlinked, hall⟩ := terminal_prefix_eq_ok hterm
  rw [← hnumber] at hlinked
  refine ⟨terminal, ?_⟩
  split at h
  · rename_i hlast
    rw [getLast?_eq_none_iff] at hlast
    subst hlast
    cases h
    exact .refl journal
  · rename_i last hlast
    obtain ⟨pruned, hpruned, h⟩ := bind_ok.1 h
    cases h
    have hnodup : terminal.Nodup := by
      have hsorted := linked_sorted hlinked
      exact hsorted.imp fun hlt heq => by rw [heq] at hlt; exact Nat.lt_irrefl _ hlt
    obtain ⟨hrows, hnext, hhead⟩ := delete_remote_events_eq_ok hpruned
      (fun event hev => (hall event hev).imp fun _ hrow => ⟨hrow.1, hrow.2.1⟩) hnodup
    refine ⟨hlinked, hall, hrows, ?_, ?_, hnext, hhead⟩
    · -- the last of the linked events has the number of their count
      have hnumbers := linked_numbers hlinked
      have hmap := congrArg getLast? hnumbers
      rw [getLast?_map, hlast, Option.map_some, getLast?_range'] at hmap
      split at hmap
      · cases hmap
      · simp only [Option.some.injEq] at hmap
        show last.sequence = _
        omega
    · simp only [hlast]

theorem prune_excess_eq_ok (h : prune_excess_terminal_remote_events around journal = .ok journal') :
    ∃ terminal, journal.Pruned journal' terminal := by
  rw [prune_excess_terminal_remote_events] at h
  split at h
  · obtain ⟨⟨count, pruned⟩, hprune, h⟩ := bind_ok.1 h
    cases h
    exact prune_terminal_remote_events_in_eq_ok hprune
  · cases h
    exact ⟨[], .refl _⟩

/-! ## Appending

An insertion prunes, appends one row after the head, and may prune again. -/

/-- The journal with one more event after its head. -/
structure RemoteEventJournal.Appended (source : RemoteEventSource) (status : RemoteEventStatus)
    (journal journal' : RemoteEventJournal) : Prop where
  relay_cursor : 1 ≤ source.relay_cursor
  rows : journal'.events.rows = journal.events.rows ++ [source.row journal.next_sequence
    (journal.head.map (·.notification_id)) status]
  head : journal'.head = some ⟨journal.next_sequence, source.notification_id⟩
  next_sequence : journal'.next_sequence = journal.next_sequence + 1
  bounded : journal'.next_sequence ≤ I64_MAX
  floor_sequence : journal'.floor_sequence = journal.floor_sequence
  floor : journal'.floor = journal.floor

theorem load_remote_event_head_eq_ok {result : ℕ × Option RemoteEventHead}
    (h : load_remote_event_head journal = .ok result) :
    result = (journal.next_sequence, journal.head) := by
  rw [load_remote_event_head] at h
  split at h
  · rename_i hnone
    cases h
    rw [hnone]
  · rename_i head hsome
    obtain ⟨-, h⟩ := require_ok.1 h
    obtain ⟨-, h⟩ := require_ok.1 h
    cases h
    rw [hsome]

theorem append_event_eq_ok {status : RemoteEventStatus}
    (h : append_event around journal source status = .ok journal') :
    journal.Appended source status journal' := by
  obtain ⟨_, hhead, h⟩ := bind_ok.1 h
  cases load_remote_event_head_eq_ok hhead
  dsimp only at h
  obtain ⟨-, h⟩ := require_ok.1 h
  obtain ⟨next, hnext, h⟩ := some_or_ok.1 h
  obtain ⟨-, rfl⟩ := checked_add_iff.1 hnext
  obtain ⟨_, -, h⟩ := bind_ok.1 h
  obtain ⟨_, -, h⟩ := bind_ok.1 h
  obtain ⟨⟨-, hcur, -⟩, h⟩ := require_ok.1 h
  obtain ⟨inserted, hins, h⟩ := some_or_ok.1 h
  obtain ⟨next', hnext', h⟩ := bind_ok.1 h
  obtain ⟨hbounded, rfl⟩ := to_sql_integer_ok.1 hnext'
  cases h
  rw [RemoteEventJournal.insert_event?] at hins
  split at hins
  · cases hins
  · rename_i events hevents
    split at hins
    · cases hins
      exact ⟨hcur, (Table.insert?_iff.1 hevents).2, rfl, rfl, hbounded, rfl, rfl⟩
    · cases hins

/-- An insertion: nothing for the device's own records; otherwise the journal is pruned, the event
appended, and the journal pruned again where the event is suppressed. -/
theorem insert_remote_event_eq_ok (h : insert_remote_event around journal source = .ok journal') :
    (source.sender = source.self_device_id ∧ journal' = journal)
    ∨ ∃ terminal pruned enabled, source.sender ≠ source.self_device_id
      ∧ journal.Pruned pruned terminal
      ∧ pruned.events.rows.length < MAX_REMOTE_EVENT_RECORDS
      ∧ adapter_delivery_enabled_in around source.conversation_id source.routing_id = .ok enabled
      ∧ ((enabled = true ∧ (∃ length, around.delivery_length source.conversation_id
            source.relay_cursor source.kind = some length
            ∧ require_pending_capacity around pruned source.conversation_id length = .ok ())
          ∧ pruned.Appended source .Pending journal')
        ∨ (enabled = false ∧ ∃ appended terminal', pruned.Appended source .Suppressed appended
            ∧ appended.Pruned journal' terminal')) := by
  rw [insert_remote_event] at h
  split at h
  · rename_i hself
    cases h
    exact .inl ⟨hself, rfl⟩
  · rename_i hself
    right
    obtain ⟨pruned, hpruned, h⟩ := bind_ok.1 h
    obtain ⟨terminal, hpruned⟩ := prune_excess_eq_ok hpruned
    obtain ⟨hroom, h⟩ := require_ok.1 h
    obtain ⟨enabled, henabled, h⟩ := bind_ok.1 h
    refine ⟨terminal, pruned, enabled, hself, hpruned, hroom, henabled, ?_⟩
    split at h
    · rename_i htrue
      obtain ⟨length, hlen, h⟩ := bind_ok.1 h
      obtain ⟨_, hcap, h⟩ := bind_ok.1 h
      obtain ⟨found, hfound, hlen⟩ := some_or_ok.1 hlen
      obtain ⟨_, -, hlen⟩ := bind_ok.1 hlen
      cases hlen
      exact .inl ⟨htrue, ⟨_, hfound, hcap⟩, append_event_eq_ok h⟩
    · rename_i hfalse
      obtain ⟨appended, happ, h⟩ := bind_ok.1 h
      obtain ⟨terminal', hpruned'⟩ := prune_excess_eq_ok h
      exact .inr ⟨Bool.eq_false_iff.2 hfalse, appended, terminal', append_event_eq_ok happ,
        hpruned'⟩

end Konclave.Daemon.RemoteEvents
