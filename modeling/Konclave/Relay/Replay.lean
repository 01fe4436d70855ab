/-
Paged replay of a route.

`load_replay_entries` reads the lengths of the rows after a cursor, selects a prefix of
them that fits the page, and reads the selected rows again. `load_replay_entries_eq` says
which prefix that is: the pages it serves are windows of the route's log
(`Konclave.Paging`), so a client that asks for page after page reads the log once, in
order, and to its end, whatever limits it asks for and whatever is submitted in between.
-/
import Konclave.Relay.Log
import Konclave.Paging

set_option autoImplicit false

namespace Konclave.Relay

open Protobuf Domain Sequencer Paging ReplayEntry List

/-! ## Selecting rows

The selection is the longest prefix within the limit and the budget of bytes, and not empty. -/

/-- The part of the page budget that rows of the given lengths take. -/
def rows_budget (rows : List (ℕ × ℕ)) : ℕ :=
  (rows.map (fun row => row.2 + STORED_ENVELOPE_WIRE_OVERHEAD_BUDGET)).sum

/-- A row whose length the schema allows. -/
def valid_length (row : ℕ × ℕ) : Prop := 1 ≤ row.2 ∧ row.2 ≤ MAX_RELAY_ENVELOPE_BYTES

/-- The loop selects a prefix: it stops at the end, at the limit or at the budget. -/
theorem select_replay_loop_eq (limit : ℕ) : ∀ (rows : List (ℕ × ℕ)) (used : ℕ)
    (last : Option ℕ) (count : ℕ), (∀ row ∈ rows, valid_length row) → count ≤ limit →
    used ≤ MAX_REPLAY_PAGE_BYTES → ∃ k ≤ rows.length, select_replay_loop limit rows used last count
      = .ok ⟨((rows.take k).getLast?.map Prod.fst).or last, count + k, k < rows.length⟩
    ∧ count + k ≤ limit ∧ used + rows_budget (rows.take k) ≤ MAX_REPLAY_PAGE_BYTES
    ∧ (k = 0 → rows = [] ∨ count = limit ∨ ∃ row ∈ rows.head?, MAX_REPLAY_PAGE_BYTES
            < used + (row.2 + STORED_ENVELOPE_WIRE_OVERHEAD_BUDGET)) := by
  intro rows
  induction rows with
  | nil =>
    intro used last count _ hcount hused
    exact ⟨0, Nat.le_refl _, rfl, hcount, hused, fun _ => .inl rfl⟩
  | cons row rows ih =>
    intro used last count hvalid hcount hused
    obtain ⟨cursor, length⟩ := row
    have hlen : 1 ≤ length ∧ length ≤ MAX_RELAY_ENVELOPE_BYTES := hvalid (cursor, length) (by simp)
    rw [select_replay_loop, if_pos hlen]
    dsimp only
    by_cases hstop : count = limit
        ∨ MAX_REPLAY_PAGE_BYTES < used + (length + STORED_ENVELOPE_WIRE_OVERHEAD_BUDGET)
    · refine ⟨0, Nat.zero_le _, ?_, hcount, hused, fun _ => ?_⟩
      · rw [if_pos hstop]
        simp
      · rcases hstop with hstop | hstop
        · exact .inr (.inl hstop)
        · exact .inr (.inr ⟨_, rfl, hstop⟩)
    · rw [not_or, Nat.not_lt] at hstop
      obtain ⟨k, hk, heq, hlimit, hbudget, _⟩ := ih
        (used + (length + STORED_ENVELOPE_WIRE_OVERHEAD_BUDGET)) (some cursor) (count + 1)
        (fun row hrow => hvalid row (mem_cons_of_mem _ hrow)) (by omega) hstop.2
      refine ⟨k + 1, Nat.succ_le_succ hk, ?_, by omega, ?_, by omega⟩
      · rw [if_neg (by rw [not_or, Nat.not_lt]; exact hstop), heq]
        -- the last selected row is in the tail, or it is this one
        cases htail : rows.take k with
        | nil => simp [htail, Nat.add_comm, Nat.add_left_comm]
        | cons next tail =>
          simp [htail, getLast?_cons, Nat.add_comm, Nat.add_left_comm]
      · rw [take_succ_cons, rows_budget, map_cons, sum_cons]
        rw [rows_budget] at hbudget
        omega

/-- The first row always fits, so a page of a log with more rows is not empty. -/
theorem select_replay_rows_eq {rows : List (ℕ × ℕ)} {limit : ℕ}
    (hvalid : ∀ row ∈ rows, valid_length row) (hlimit : 1 ≤ limit) : ∃ k ≤ rows.length,
    select_replay_rows rows limit = .ok ⟨(rows.take k).getLast?.map Prod.fst, k, k < rows.length⟩
    ∧ k ≤ limit ∧ REPLAY_PAGE_FIXED_WIRE_BUDGET + rows_budget (rows.take k) ≤ MAX_REPLAY_PAGE_BYTES
    ∧ (rows ≠ [] → 0 < k) := by
  obtain ⟨k, hk, heq, hle, hbudget, hzero⟩ := select_replay_loop_eq limit rows
    REPLAY_PAGE_FIXED_WIRE_BUDGET none 0 hvalid (Nat.zero_le _) (by decide)
  have hpos : rows ≠ [] → 0 < k := by
    intro hne
    rcases Nat.eq_zero_or_pos k with hk0 | hk0
    · rcases hzero hk0 with hnil | hlim | ⟨row, hrow, hbig⟩
      · exact absurd hnil hne
      · omega
      · have hlen := (hvalid row (mem_of_mem_head? hrow)).2
        simp only [MAX_REPLAY_PAGE_BYTES, MAX_RELAY_ENVELOPE_BYTES, REPLAY_PAGE_FIXED_WIRE_BUDGET,
          STORED_ENVELOPE_WIRE_OVERHEAD_BUDGET] at hbig hlen
        omega
    · exact hk0
  refine ⟨k, hk, ?_, by omega, hbudget, hpos⟩
  rw [select_replay_rows, heq, Option.or_none, Nat.zero_add]
  dsimp only
  rw [if_neg]
  rintro ⟨hnone, hne⟩
  have hk0 := hpos hne
  rw [Option.map_eq_none_iff, getLast?_eq_none_iff, take_eq_nil_iff] at hnone
  rcases hnone with hnone | hnone
  · omega
  · exact hne hnone

/-! ## One page

A page is the selected window of the log after the cursor. -/

variable {store : RelayStore} {row : EnvelopeRow} {routing_id : RoutingId}

theorem RelayStore.WellFormed.numbered_after (h : store.WellFormed) (routing_id : RoutingId)
    (after : ℕ) :
    Numbered EnvelopeRow.cursor (after + 1) ((store.route_rows routing_id).drop after) := by
  rw [Nat.add_comm]
  exact (h.route_log routing_id).numbered.drop after

/-- The rows a page reads from are the log after the cursor. -/
theorem RelayStore.WellFormed.rows_after_eq (h : store.WellFormed) (routing_id : RoutingId)
    (after : ℕ) :
    store.rows_after routing_id after = (store.route_rows routing_id).drop after := by
  have hnum := (h.route_log routing_id).numbered
  have hfilter : store.relay_envelope.rows.filter (fun row =>
        row.routing_id = routing_id ∧ after < row.cursor)
      = (store.route_rows routing_id).drop after := by
    have hdrop := hnum.filter_lt after
    rw [Nat.add_sub_cancel] at hdrop
    rw [← hdrop, RelayStore.route_rows, filter_filter]
    congr 1
    funext row
    rw [Bool.and_comm, Bool.decide_and]
  rw [RelayStore.rows_after, hfilter]
  exact (h.numbered_after routing_id after).order_by_eq

/-- The entry a row is served as. -/
def ReplayEntry.of (row : EnvelopeRow) : ReplayEntry := ⟨row.encoded_envelope, row.cursor⟩

/-- The column pair the sizing query reads. -/
def EnvelopeRow.size (row : EnvelopeRow) : ℕ × ℕ := (row.cursor, row.encoded_envelope.length)

theorem RelayStore.WellFormed.replay_entry (h : store.WellFormed)
    (hrow : row ∈ store.relay_envelope.rows) :
    replay_entry_from_row row = .ok (of row) := by
  obtain ⟨envelope, hsound⟩ := h.rows_sound row hrow
  rw [replay_entry_from_row, hsound]
  rfl

theorem RelayStore.WellFormed.valid_length (h : store.WellFormed)
    (hrow : row ∈ store.relay_envelope.rows) : valid_length row.size := by
  obtain ⟨envelope, hsound⟩ := h.rows_sound row hrow
  exact (envelope_from_row_eq_ok.1 hsound).1

theorem RelayStore.WellFormed.log_length_lt (h : store.WellFormed) (routing_id : RoutingId) :
    (store.route_rows routing_id).length < I64_MAX := by
  have hlog := h.route_log routing_id
  have hnext := hlog.next_cursor
  have hle := hlog.next_le
  omega

/-- A page is a window of the log right after the cursor, of at most `limit` rows and
within the byte budget, and empty only at the end of the log. -/
theorem load_replay_entries_eq (h : store.WellFormed) (request : ReplayRequest)
    (hafter : request.after_cursor ≤ I64_MAX) : ∃ k ≤ request.limit,
    k ≤ ((store.route_rows request.routing_id).drop request.after_cursor).length
    ∧ (((store.route_rows request.routing_id).drop request.after_cursor) ≠ [] → 0 < k)
    ∧ REPLAY_PAGE_FIXED_WIRE_BUDGET + rows_budget ((((store.route_rows request.routing_id).drop
            request.after_cursor).take k).map EnvelopeRow.size) ≤ MAX_REPLAY_PAGE_BYTES
    ∧ load_replay_entries store request
      = .ok ⟨(((store.route_rows request.routing_id).drop request.after_cursor).take k).map
            of, request.after_cursor + k,
          k < ((store.route_rows request.routing_id).drop request.after_cursor).length⟩ := by
  have hmem : ∀ row ∈ (store.route_rows request.routing_id).drop request.after_cursor,
      row ∈ store.relay_envelope.rows :=
    fun row hrow => mem_of_mem_filter (mem_of_mem_drop hrow)
  rw [load_replay_entries, to_sql_integer_ok.2 ⟨hafter, rfl⟩, ok_bind, h.rows_after_eq]
  have hnum := h.numbered_after request.routing_id request.after_cursor
  have hlen := h.log_length_lt request.routing_id
  have hdrop := length_drop (l := store.route_rows request.routing_id) (i := request.after_cursor)
  revert hmem hnum hdrop
  generalize (store.route_rows request.routing_id).drop request.after_cursor = rest
  intro hmem hnum hdrop
  have hvalid : ∀ size ∈ (rest.take (request.limit + 1)).map EnvelopeRow.size,
      Relay.valid_length size := by
    intro size hsize
    obtain ⟨row, hrow, rfl⟩ := mem_map.1 hsize
    exact h.valid_length (hmem row (mem_of_mem_take hrow))
  obtain ⟨k, hk, hselect, hlimit, hbudget, hpos⟩ :=
    select_replay_rows_eq hvalid request.limit_range.1
  rw [length_map, length_take] at hk
  have hsizes : ((rest.take (request.limit + 1)).map EnvelopeRow.size).take k
      = (rest.take k).map EnvelopeRow.size := by
    rw [← map_take, take_take, Nat.min_eq_left (by omega)]
  rw [hsizes] at hselect hbudget
  have hpos' : rest ≠ [] → 0 < k := by
    intro hne
    refine hpos (fun hnil => hne ?_)
    rw [map_eq_nil_iff, take_eq_nil_iff] at hnil
    exact hnil.resolve_left (by omega)
  -- the look-ahead row tells whether the log goes on
  have hmore : (k < ((rest.take (request.limit + 1)).map EnvelopeRow.size).length)
      ↔ k < rest.length := by
    rw [length_map, length_take]
    omega
  refine ⟨k, hlimit, by omega, hpos', hbudget, ?_⟩
  change (select_replay_rows ((rest.take (request.limit + 1)).map EnvelopeRow.size)
    request.limit >>= _) = _
  rw [hselect, ok_bind]
  rcases Nat.eq_zero_or_pos k with rfl | hk0
  · have hnil : rest = [] := by
      by_contra hne
      exact absurd (hpos' hne) (Nat.lt_irrefl 0)
    subst hnil
    rfl
  · have hlast_cursor : ((rest.take k).map EnvelopeRow.size).getLast?.map Prod.fst
        = some (request.after_cursor + k) := by
      rw [getLast?_map, Option.map_map]
      exact hnum.last_take hk0 (by omega)
    rw [hlast_cursor]
    simp only [hmore]
    have hfilter : rest.filter (fun row => row.cursor ≤ request.after_cursor + k)
        = rest.take k := by
      rw [← hnum.filter_lt_add]
      exact filter_congr fun row _ => decide_eq_decide.2 (by omega)
    rw [to_sql_integer_ok.2 ⟨by omega, rfl⟩, ok_bind, hfilter, take_take, Nat.min_self]
    rw [mapM_ok (fun row hrow => h.replay_entry (hmem row (mem_of_mem_take hrow))), ok_bind]
    rw [getLast?_map, Option.map_map, show ((·.cursor) ∘ of)
      = EnvelopeRow.cursor from rfl, hnum.last_take hk0 (by omega)]
    rfl

/-! ## The decoded page

Its rows decode to the envelopes that were submitted. -/

/-- A decoded envelope stands for a stored row's entry. -/
def Decodes (entry : ReplayEntry) (stored : StoredRelayEnvelope) : Prop :=
  decode_relay_envelope entry.encoded_envelope = .ok stored.envelope
    ∧ stored.cursor = entry.cursor

theorem stored_from_entry_eq_ok {entry : ReplayEntry} {stored : StoredRelayEnvelope}
    (h : stored_from_entry entry = .ok stored) : Decodes entry stored := by
  rw [stored_from_entry] at h
  obtain ⟨envelope, hdec, hnew⟩ := bind_ok.1 h
  rw [or_invalid_stored_eq_ok] at hdec
  rw [StoredRelayEnvelope.new] at hnew
  split at hnew
  · rename_i stored' hstored
    split at hstored
    · cases hstored
    · cases hstored
      cases hnew
      exact ⟨hdec, rfl⟩
  · cases hnew

/-- A stored row has a decoded envelope. -/
theorem RelayStore.WellFormed.stored_from_entry (h : store.WellFormed)
    (hrow : row ∈ store.relay_envelope.rows) :
    ∃ stored, Relay.stored_from_entry (of row) = .ok stored := by
  obtain ⟨envelope, hsound⟩ := h.rows_sound row hrow
  have hcheck := h.rows_check row hrow
  rw [EnvelopeRow.check, decide_eq_true_eq] at hcheck
  have hcur : ¬ row.cursor = 0 := by omega
  refine ⟨⟨envelope, row.cursor, Nat.pos_of_ne_zero hcur⟩, ?_⟩
  rw [Relay.stored_from_entry, of,
    or_invalid_stored_eq_ok.2 (envelope_from_row_eq_ok.1 hsound).2.1, ok_bind,
    StoredRelayEnvelope.new, dif_neg hcur]

theorem mapM_stored_from_entry (h : store.WellFormed) {rows : List EnvelopeRow}
    (hrows : ∀ row ∈ rows, row ∈ store.relay_envelope.rows) :
    ∃ envelopes, (rows.map of).mapM stored_from_entry = .ok envelopes
    ∧ List.Forall₂ Decodes (rows.map of) envelopes := by
  induction rows with
  | nil => exact ⟨[], rfl, .nil⟩
  | cons row rows ih =>
    obtain ⟨envelopes, hmap, hdec⟩ :=
      ih (fun other hother => hrows other (mem_cons_of_mem _ hother))
    obtain ⟨stored, hstored⟩ := h.stored_from_entry (hrows row (by simp))
    refine ⟨stored :: envelopes, ?_, .cons (stored_from_entry_eq_ok hstored) hdec⟩
    rw [map_cons, mapM_cons, hstored, ok_bind, hmap]
    rfl

variable {envelopes : List StoredRelayEnvelope} {entries : List ReplayEntry} {after : ℕ}

theorem map_cursor_of_decodes (h : List.Forall₂ Decodes entries envelopes) :
    envelopes.map (·.cursor) = entries.map (·.cursor) := by
  induction h with
  | nil => rfl
  | cons hhead _ ih => rw [map_cons, map_cons, ih, hhead.2]

/-- A window of the log makes a valid page. -/
theorem replay_order_of_numbered {next_cursor : ℕ} (hnum : Numbered cursor (after + 1) entries)
    (hdec : List.Forall₂ Decodes entries envelopes)
    (hnext : after + entries.length ≤ next_cursor) : replay_order envelopes next_cursor := by
  have hcurs := map_cursor_of_decodes hdec
  constructor
  · rw [hcurs, isChain_iff_pairwise]
    exact pairwise_map.2 hnum.pairwise_lt
  · intro stored hlast
    have hmem : stored.cursor ∈ entries.map (·.cursor) := by
      rw [← hcurs]
      exact mem_map_of_mem (mem_of_getLast? hlast)
    rw [show entries.map (·.cursor) = _ from hnum, mem_range'_1] at hmem
    omega

/-- A page of the source as a page of the reader. -/
def ReplayEntries.to_page (page : ReplayEntries) : Page ReplayEntry :=
  ⟨page.entries, page.next_cursor, page.has_more⟩

def to_page (page : ReplayPage) : Page StoredRelayEnvelope :=
  ⟨page.envelopes, page.next_cursor, page.has_more⟩

/-- `replay` returns the page of `load_replay_entries`, decoded. -/
theorem replay_related (h : store.WellFormed) (request : ReplayRequest) :
    Related Decodes ((load_replay_entries store request).map ReplayEntries.to_page)
    ((replay store request).map to_page) := by
  by_cases hafter : request.after_cursor ≤ I64_MAX
  · obtain ⟨k, hlimit, -, -, -, hload⟩ := load_replay_entries_eq h request hafter
    have hnum := h.numbered_after request.routing_id request.after_cursor
    have hmem : ∀ row ∈ ((store.route_rows request.routing_id).drop request.after_cursor).take k,
        row ∈ store.relay_envelope.rows :=
      fun row hrow => mem_of_mem_filter (mem_of_mem_drop (mem_of_mem_take hrow))
    obtain ⟨envelopes, hmap, hdec⟩ := mapM_stored_from_entry h hmem
    have hcount : envelopes.length ≤ MAX_REPLAY_PAGE_SIZE := by
      have hlen := hdec.length_eq
      have hmax := request.limit_range.2
      rw [length_map, length_take] at hlen
      omega
    have horder : replay_order envelopes (request.after_cursor + k) := by
      refine replay_order_of_numbered ((hnum.take k).map fun _ => rfl) hdec ?_
      rw [length_map, length_take]
      omega
    rw [replay, hload, ok_bind, hmap, ok_bind, ReplayPage.new, dif_pos hcount, dif_pos horder]
    exact .ok hdec _ _
  · have herror : to_sql_integer request.after_cursor = .error .SequenceExhausted := by
      rw [to_sql_integer, if_neg hafter]
    rw [replay, load_replay_entries, herror, error_bind, error_bind]
    exact .error _

theorem replay_of_load (h : store.WellFormed) {request : ReplayRequest} {loaded : ReplayEntries}
    (hload : load_replay_entries store request = .ok loaded) :
    ∃ page, replay store request = .ok page
    ∧ List.Forall₂ Decodes loaded.entries page.envelopes
    ∧ page.next_cursor = loaded.next_cursor ∧ page.has_more = loaded.has_more := by
  have hrelated := replay_related h request
  rw [hload] at hrelated
  generalize hleft : Except.map ReplayEntries.to_page (Except.ok loaded) = left at hrelated
  generalize hright : Except.map to_page (replay store request) = right at hrelated
  cases hrelated with
  | error e => cases hleft
  | ok hdecodes next_cursor has_more =>
    cases hleft
    obtain ⟨page, hreplay, hpage⟩ := map_eq_ok.1 hright
    rw [to_page, Page.mk.injEq] at hpage
    obtain ⟨rfl, hcursor, hmore⟩ := hpage
    exact ⟨page, hreplay, hdecodes, hcursor, hmore⟩

/-! ## Page after page

Windows that begin where the last one ended cover the log. -/

/-- The page size a client asks for. -/
abbrev PageLimit := { limit : ℕ // 1 ≤ limit ∧ limit ≤ MAX_REPLAY_PAGE_SIZE }

/-- Page `i` of a client: from the `i`-th store, at its `i`-th limit. -/
def request_at (routing_id : RoutingId) (limits : ℕ → PageLimit) (i after_cursor : ℕ) :
    ReplayRequest :=
  ⟨routing_id, after_cursor, (limits i).1, (limits i).2⟩

theorem load_replay_entries_serves (h : store.WellFormed) (routing_id : RoutingId)
    (limits : ℕ → PageLimit) (i : ℕ) (hafter : after ≤ I64_MAX) :
    Serves (fun after => (load_replay_entries store
        (request_at routing_id limits i after)).map ReplayEntries.to_page)
    ((store.route_rows routing_id).map of) after := by
  obtain ⟨k, -, -, hpos, -, hload⟩ :=
    load_replay_entries_eq h (request_at routing_id limits i after) hafter
  change (((store.route_rows routing_id).drop after) ≠ [] → 0 < k) at hpos
  refine ⟨k, ?_, ?_⟩
  · rw [← map_drop]
    intro hne
    exact hpos (fun hnil => hne (by rw [hnil, map_nil]))
  · rw [← map_drop, ← map_take, length_map]
    dsimp only
    rw [hload]
    rfl

/-- Asking for page after page, at any page sizes and with any calls between the pages,
ends and has read every envelope after the first cursor that is stored when the last page
is read: once, in cursor order, with its stored bytes. Every page that has more is not
empty and advances the cursor. A cursor beyond an SQLite integer is refused. -/
theorem paged_replay_lossless {relays : ℕ → Repository} (hfirst : (relays 0).Reachable)
    (hsteps : ∀ i, (relays i).Steps (relays (i + 1))) (routing_id : RoutingId)
    (limits : ℕ → PageLimit) {after_cursor : ℕ} (hafter : after_cursor ≤ I64_MAX) :
    (∃ fuel last entries envelopes,
      drain (fun i after_cursor => (load_replay_entries (relays i).store
          (request_at routing_id limits i after_cursor)).map ReplayEntries.to_page)
        fuel 0 after_cursor = .ok (some (entries, last))
      ∧ drain (fun i after_cursor => (replay (relays i).store
          (request_at routing_id limits i after_cursor)).map to_page)
        fuel 0 after_cursor = .ok (some (envelopes, last))
      ∧ entries = (((relays last).store.log routing_id).filter
          (fun row => after_cursor < row.cursor)).map of
      ∧ (entries.map (·.cursor)).Pairwise (· < ·)
      ∧ List.Forall₂ Decodes entries envelopes)
    ∧ (∀ (i after_cursor' : ℕ), after_cursor' ≤ I64_MAX →
      ∃ page, replay (relays i).store (request_at routing_id limits i after_cursor') = .ok page
        ∧ (page.has_more = true → page.envelopes ≠ [] ∧ after_cursor' < page.next_cursor))
    ∧ ∀ (i : ℕ) (request : ReplayRequest), I64_MAX < request.after_cursor →
      replay (relays i).store request = .error .SequenceExhausted := by
  have hreachable : ∀ i, (relays i).Reachable := by
    intro i
    induction i with
    | zero => exact hfirst
    | succ i ih => exact Relation.ReflTransGen.trans ih (hsteps i)
  have hwf := fun i => (hreachable i).wellFormed
  have hserves : ∀ i after_cursor, after_cursor ≤ I64_MAX → Serves _ _ after_cursor :=
    fun i _ h => load_replay_entries_serves (hwf i) routing_id limits i h
  have hrelated := fun i after_cursor =>
    replay_related (hwf i) (request_at routing_id limits i after_cursor)
  refine ⟨?_, ?_, fun i request hlarge => ?_⟩
  · obtain ⟨last, -, hdrain⟩ := drain_eq hserves (fun i => ((hsteps i).rows_grow.filter _).map of)
      (fun i => by
        rw [length_map]
        exact Nat.le_of_lt ((hwf i).log_length_lt routing_id))
      (I64_MAX + 1) 0 after_cursor hafter (by omega)
    obtain ⟨envelopes, hdecodes, hdrain'⟩ := drain_related hrelated _ _ _ hdrain
    have hnumbered := ((hwf last).route_log routing_id).numbered
    refine ⟨_, last, _, envelopes, hdrain, hdrain', ?_, ?_, hdecodes⟩
    · rw [(hwf last).log_eq, hnumbered.filter_lt, Nat.add_sub_cancel, map_drop]
    · rw [← map_drop, map_map]
      exact pairwise_map.2 (hnumbered.drop after_cursor).pairwise_lt
  · intro i after_cursor' hafter'
    obtain ⟨page, hpage, hadvances⟩ := (hserves i after_cursor' hafter').advances
    have hpages := hrelated i after_cursor'
    rw [hpage] at hpages
    cases hreplay : replay (relays i).store (request_at routing_id limits i after_cursor') with
    | error e =>
      rw [hreplay] at hpages
      cases hpages
    | ok decoded =>
      rw [hreplay] at hpages
      refine ⟨decoded, rfl, ?_⟩
      generalize hdecoded : Except.map to_page (Except.ok decoded) = result at hpages
      cases hpages with
      | ok hentries next_cursor has_more =>
        cases hdecoded
        intro hmore
        obtain ⟨hne, hlt⟩ := hadvances hmore
        refine ⟨fun hnil => hne ?_, hlt⟩
        rw [hnil] at hentries
        exact forall₂_nil_right_iff.1 hentries
  · rw [replay, load_replay_entries, to_sql_integer, if_neg (Nat.not_le.2 hlarge), error_bind,
      error_bind]

theorem paged_replay_lossless_sample : ∃ fuel last envelopes,
    drain (fun i after_cursor => (replay sample_log.store
        (request_at (.repeated 32 7) (fun _ => ⟨2, by decide⟩) i after_cursor)).map to_page)
      fuel 0 0 = .ok (some (envelopes, last))
    ∧ envelopes.map (·.envelope) = [sample_commit 3, sample_proposal, sample_next] := by
  obtain ⟨fuel, last, entries, envelopes, -, hdrain, hentries, -, hdecodes⟩ :=
    (@paged_replay_lossless (fun _ => sample_log) sample_log_reachable (fun _ => .refl)
      (.repeated 32 7) (fun _ => ⟨2, by decide⟩) 0 (Nat.zero_le I64_MAX)).1
  have hread : entries.mapM (fun entry => decode_relay_envelope entry.encoded_envelope)
      = .ok (envelopes.map (·.envelope)) :=
    mapM_eq_ok.2 (forall₂_map_right_iff.2 (hdecodes.imp fun _ _ h => h.1))
  rw [hentries] at hread
  exact ⟨fuel, last, envelopes, hdrain, Except.ok.inj (hread.symm.trans (by decide +kernel))⟩

/-- A cursor beyond the range of an SQLite integer is refused, not answered with an empty
page. -/
theorem replay_refuses_large_cursor :
    (replay sample_relay.store ⟨.repeated 32 7, I64_MAX + 1, 1, by decide⟩).map to_page
    = .error .SequenceExhausted := by
  decide +kernel

/-! ## Delivery

An accepted envelope is replayed to whoever asks from before it. -/

/-- An accepted envelope is the first that a client reads from right before its cursor on,
whatever was called since and whatever page size is asked for. -/
theorem accepted_envelope_replayed {relay later : Repository} (h : relay.Reachable)
    {envelope : RelayEnvelope} {bytes : Bytes} {now : ℕ} {result : SubmitResult}
    (hsubmit : (submit_encoded relay.store envelope bytes now).1 = .ok result)
    (hsteps : Repository.Steps
      { relay with store := (submit_encoded relay.store envelope bytes now).2 } later)
    (limit : PageLimit) : ∃ page stored rest, replay later.store
        ⟨envelope.routing_id, result.cursor - 1, limit.1, limit.2⟩ = .ok page
      ∧ page.envelopes = stored :: rest ∧ stored.envelope = envelope
      ∧ stored.cursor = result.cursor := by
  have hwf : later.store.WellFormed :=
    Repository.Reachable.wellFormed ((h.tail (.submit relay envelope bytes now)).trans hsteps)
  obtain ⟨row, hrow, hcursor, -, hsound⟩ := stored_of_submit_encoded hsubmit
  obtain ⟨-, hdecoded, hcolumns, -⟩ := envelope_from_row_eq_ok.1 hsound
  have hroute : row ∈ later.store.route_rows envelope.routing_id :=
    mem_filter.2 ⟨hsteps.rows_grow.subset hrow, decide_eq_true (congrArg (·.routing_id) hcolumns)⟩
  -- the row of cursor `i + 1` is at position `i` of its route
  obtain ⟨i, hi, hget⟩ := getElem_of_mem hroute
  have hnumber := (hwf.route_log envelope.routing_id).numbered.getElem hi
  have hlt := hwf.log_length_lt envelope.routing_id
  rw [hget, hcursor] at hnumber
  rw [show result.cursor - 1 = i by omega]
  obtain ⟨k, -, -, hpos, -, hload⟩ := load_replay_entries_eq hwf
    ⟨envelope.routing_id, i, limit.1, limit.2⟩ (by dsimp only; omega)
  dsimp only at hpos hload
  rw [drop_eq_getElem_cons hi, hget] at hpos hload
  obtain ⟨k, rfl⟩ := Nat.exists_eq_add_one_of_ne_zero (Nat.ne_of_gt (hpos (by simp)))
  obtain ⟨page, hreplay, hdecodes, -⟩ := replay_of_load hwf hload
  obtain ⟨stored, rest, hfirst, -, hpage⟩ := forall₂_cons_left_iff.1 hdecodes
  refine ⟨page, stored, rest, hreplay, hpage, ?_, hfirst.2.trans hcursor⟩
  exact Except.ok.inj (hfirst.1.symm.trans hdecoded)

theorem accepted_envelope_replayed_sample : ∃ page stored rest,
    replay sample_log.store ⟨.repeated 32 7, 1, 2, by decide⟩ = .ok page
    ∧ page.envelopes = stored :: rest ∧ stored.envelope = sample_proposal ∧ stored.cursor = 2 :=
  @accepted_envelope_replayed sample_relay sample_log sample_relay_reachable sample_proposal
    (relay_to_wire sample_proposal).encode 6 ⟨2, false⟩ (by decide +kernel) sample_log_steps
    ⟨2, by decide⟩

end Konclave.Relay
