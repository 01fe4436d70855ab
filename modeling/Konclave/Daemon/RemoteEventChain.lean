/-
The chain of the remote-event journal.

The stored events continue the floor and end at the head, each linked to the one before
it. A call moves delivery states, cuts terminal events off the front and appends at the
end; each of the three keeps the chain, and none lets the journal outgrow its limits.
-/
import Konclave.Daemon.RemoteEventDelivery
import Mathlib.Algebra.Order.BigOperators.Group.List
import Mathlib.Algebra.Order.Group.Nat

set_option autoImplicit false

namespace Konclave.Daemon.RemoteEvents

open Domain RemoteEventJournal List

variable {π : Type} {around : Surroundings π} {journal journal' : RemoteEventJournal}
  {conversation_id : Option ConversationId}

variable {terminal : List RemoteEventRecord} {source : RemoteEventSource}
  {status : RemoteEventStatus} {call : DeliveryCall}

variable {R : RemoteEventRow → RemoteEventRow → Prop} {row : RemoteEventRow}

namespace RemoteEventJournal

/-! ## The chain

The rows and what was pruned before them are one chain: numbered without a gap, each event
naming the one before it. -/

/-- The stored events, in the order they were appended. -/
def records (journal : RemoteEventJournal) : List RemoteEventRecord :=
  journal.events.rows.map (·.event)

/-- The notification of the last event ever appended. -/
def last_notification (journal : RemoteEventJournal) : Option NotificationId :=
  last_name RemoteEventRecord.notification_id journal.floor_notification journal.records

/-- The rows follow the floor without a gap, up to the head. -/
structure Chained (journal : RemoteEventJournal) : Prop where
  linked : LinkedEvents journal.floor_sequence journal.floor_notification journal.records
  next_sequence : journal.next_sequence
    = journal.floor_sequence + journal.events.rows.length + 1
  bounded : journal.next_sequence ≤ I64_MAX
  head : journal.head = journal.last_notification.map
    fun id => ⟨journal.floor_sequence + journal.events.rows.length, id⟩
  floor_sequence : journal.floor_sequence = (journal.floor.map (·.sequence)).getD 0
  floor : journal.floor = none ↔ journal.floor_sequence = 0

theorem chained_empty : empty.Chained :=
  ⟨trivial, rfl, by decide, rfl, rfl, Iff.rfl.trans ⟨fun _ => rfl, fun _ => rfl⟩⟩

theorem records_nodup (journal : RemoteEventJournal) : journal.records.Nodup := by
  refine List.Nodup.of_map (·.notification_id) ?_
  rw [records, map_map]
  exact journal.notifications

theorem length_records : journal.records.length = journal.events.rows.length := length_map _

namespace Chained

/-- Changes of delivery states keep the chain. -/
theorem moves (h : journal.Chained) (hmoves : journal.Moves R journal') : journal'.Chained := by
  have hrecords : journal'.records = journal.records := hmoves.events_eq
  have hlen : journal'.events.rows.length = journal.events.rows.length := by
    rw [← length_records, ← length_records, hrecords]
  have hfloor : journal'.floor_notification = journal.floor_notification := by
    rw [floor_notification, floor_notification, hmoves.floor]
  refine ⟨?_, ?_, ?_, ?_, ?_, ?_⟩
  · rw [hmoves.floor_sequence, hfloor, hrecords]
    exact h.linked
  · rw [hmoves.next_sequence, hmoves.floor_sequence, hlen, h.next_sequence]
  · rw [hmoves.next_sequence]
    exact h.bounded
  · rw [hmoves.head, last_notification, hfloor, hrecords, hmoves.floor_sequence, hlen]
    exact h.head
  · rw [hmoves.floor_sequence, hmoves.floor]
    exact h.floor_sequence
  · rw [hmoves.floor_sequence, hmoves.floor]
    exact h.floor

/-- What is pruned is the front of the chain. -/
theorem records_of_pruned (h : journal.Chained) (hpruned : journal.Pruned journal' terminal) :
    journal.records = terminal ++ journal'.records := by
  have hmem : ∀ event ∈ terminal, event ∈ journal.records := by
    intro event hev
    obtain ⟨row, hrow, rfl, -⟩ := hpruned.all_terminal event hev
    exact mem_map_of_mem hrow
  have hfront := take_of_linked h.linked hpruned.linked hmem
  have hrows : journal'.events.rows = journal.events.rows.drop terminal.length := by
    rw [hpruned.rows, ← filter_notMem_take RemoteEventRow.event journal.records_nodup,
      ← records, ← hfront]
  rw [records, records, hrows, map_drop, ← records]
  conv_lhs => rw [← take_append_drop terminal.length journal.records]
  rw [← hfront]

theorem floor_notification_of_pruned (hpruned : journal.Pruned journal' terminal) :
    journal'.floor_notification
    = last_name RemoteEventRecord.notification_id journal.floor_notification terminal := by
  rw [last_name_eq_getLast?, floor_notification, hpruned.floor]
  cases terminal.getLast? with
  | none => rfl
  | some last => rfl

/-- Pruning from the front moves the floor along the chain. -/
theorem pruned (h : journal.Chained) (hpruned : journal.Pruned journal' terminal) :
    journal'.Chained := by
  have hrecords := h.records_of_pruned hpruned
  have hlen : journal.events.rows.length = terminal.length + journal'.events.rows.length := by
    rw [← length_records, hrecords, length_append, length_records]
  have hlinked := h.linked
  rw [hrecords] at hlinked
  refine ⟨?_, ?_, ?_, ?_, ?_, ?_⟩
  · rw [hpruned.floor_sequence, floor_notification_of_pruned hpruned]
    exact (linked_append.1 hlinked).2
  · rw [hpruned.next_sequence, hpruned.floor_sequence, h.next_sequence, hlen]
    omega
  · rw [hpruned.next_sequence]
    exact h.bounded
  · have hlast : journal'.last_notification = journal.last_notification := by
      rw [last_notification, last_notification, hrecords, last_name_append,
        floor_notification_of_pruned hpruned]
    rw [hpruned.head, h.head, hlast, hpruned.floor_sequence, hlen, Nat.add_assoc]
  · rw [hpruned.floor_sequence, hpruned.floor]
    cases hterm : terminal.getLast? with
    | none =>
      rw [getLast?_eq_none_iff.1 hterm]
      exact h.floor_sequence
    | some last =>
      -- the last pruned event has the number of the new floor
      obtain ⟨front, rfl⟩ := getLast?_eq_some_iff.1 hterm
      have hlast := (linked_append.1 hpruned.linked).2.1
      rw [length_append, length_singleton]
      show _ = last.sequence
      omega
  · rw [hpruned.floor_sequence, hpruned.floor]
    cases hterm : terminal.getLast? with
    | none =>
      rw [getLast?_eq_none_iff.1 hterm]
      exact h.floor
    | some last =>
      have hne : terminal ≠ [] := by
        rintro rfl
        cases hterm
      have hpos := length_pos_iff.2 hne
      constructor
      · intro hnone
        cases hnone
      · intro hzero
        omega

/-- A new row is linked to the head. -/
theorem appended (h : journal.Chained) (happ : journal.Appended source status journal') :
    journal'.Chained := by
  have hrecords : journal'.records = journal.records ++ [(source.row journal.next_sequence
      (journal.head.map (·.notification_id)) status).event] := by
    rw [records, happ.rows, map_append, map_singleton, records]
  have hlen : journal'.events.rows.length = journal.events.rows.length + 1 := by
    rw [happ.rows, length_append, length_singleton]
  have hfloor : journal'.floor_notification = journal.floor_notification := by
    rw [floor_notification, floor_notification, happ.floor]
  refine ⟨?_, ?_, happ.bounded, ?_, ?_, ?_⟩
  · rw [happ.floor_sequence, hfloor, hrecords]
    refine linked_append.2 ⟨h.linked, ?_, ?_, trivial⟩
    · rw [length_records]
      exact h.next_sequence
    · show journal.head.map (·.notification_id) = journal.last_notification
      rw [h.head, Option.map_map]
      exact Option.map_id'
  · rw [happ.next_sequence, happ.floor_sequence, hlen, h.next_sequence]
    omega
  · rw [happ.head, last_notification, hrecords, last_name_concat, happ.floor_sequence,
      hlen, h.next_sequence]
    rfl
  · rw [happ.floor_sequence, happ.floor]
    exact h.floor_sequence
  · rw [happ.floor_sequence, happ.floor]
    exact h.floor

end Chained

end RemoteEventJournal

/-! ## Inserting and delivering

Insertions extend the chain at its end, deliveries change nothing of it. -/

theorem RemoteEventJournal.Chained.inserted (h : journal.Chained)
    (hins : insert_remote_event around journal source = .ok journal') : journal'.Chained := by
  rcases insert_remote_event_eq_ok hins with ⟨-, rfl⟩ | ⟨_, pruned, _, -, hpruned, -, -, hcase⟩
  · exact h
  · rcases hcase with ⟨-, -, happ⟩ | ⟨-, appended, _, happ, hpruned'⟩
    · exact (h.pruned hpruned).appended happ
    · exact ((h.pruned hpruned).appended happ).pruned hpruned'

theorem RemoteEventJournal.Chained.delivered (h : journal.Chained) (around : Surroundings π)
    (hcall : ∀ source, call ≠ .insert source) : (call.run around journal).2.Chained := by
  obtain ⟨moved, terminal, hmoves, hpruned⟩ := call.run_cases around journal hcall
  exact (h.moves hmoves).pruned hpruned

/-- A row after an insertion was there before, or is the new event. -/
theorem mem_of_insert (h : insert_remote_event around journal source = .ok journal')
    (hrow : row ∈ journal'.events.rows) : row ∈ journal.events.rows ∨ (1 ≤ source.relay_cursor
      ∧ ∃ status, (status = .Pending ∨ status = .Suppressed)
        ∧ row = source.row journal.next_sequence (journal.head.map (·.notification_id))
          status) := by
  rcases insert_remote_event_eq_ok h with ⟨-, rfl⟩ | ⟨_, pruned, _, -, hpruned, -, -, hcase⟩
  · exact .inl hrow
  · have happ : ∀ {status : RemoteEventStatus} {appended : RemoteEventJournal},
        status = .Pending ∨ status = .Suppressed → pruned.Appended source status appended →
        row ∈ appended.events.rows → row ∈ journal.events.rows ∨ (1 ≤ source.relay_cursor
          ∧ ∃ status, (status = .Pending ∨ status = .Suppressed) ∧ row = source.row
            journal.next_sequence (journal.head.map (·.notification_id)) status) := by
      intro status appended hstatus happ hmem
      rw [happ.rows, mem_append, mem_singleton] at hmem
      rcases hmem with hold | rfl
      · exact .inl (hpruned.mem.1 hold).1
      · rw [hpruned.next_sequence, hpruned.head]
        exact .inr ⟨happ.relay_cursor, status, hstatus, rfl⟩
    rcases hcase with ⟨-, -, hpend⟩ | ⟨-, appended, _, hsuppressed, hpruned'⟩
    · exact happ (.inl rfl) hpend hrow
    · exact happ (.inr rfl) hsuppressed (hpruned'.mem.1 hrow).1

/-! ## What is pruned

Pruning removes rows from the front only, and only terminal ones. -/

/-- The events numbered up to the new floor are gone, and only those; each of them was
terminal, or acknowledged meanwhile. -/
structure RemoteEventJournal.PrunesFront (Acknowledged : RemoteEventRow → Prop)
    (journal journal' : RemoteEventJournal) : Prop where
  floor_sequence : journal.floor_sequence ≤ journal'.floor_sequence
  gone : ∀ row ∈ journal.events.rows,
    (row.event ∉ journal'.records ↔ row.event.sequence ≤ journal'.floor_sequence)
  ended : ∀ row ∈ journal.events.rows, row.event ∉ journal'.records →
    row.Terminal ∨ Acknowledged row

/-- No row is lost but terminal ones, and those are below the floor. -/
structure RemoteEventJournal.Follows (journal journal' : RemoteEventJournal) : Prop where
  floor_sequence : journal.floor_sequence ≤ journal'.floor_sequence
  kept : ∀ row ∈ journal.events.rows, row ∈ journal'.events.rows
    ∨ (row.Terminal ∧ row.event.sequence ≤ journal'.floor_sequence)

namespace RemoteEventJournal

theorem Follows.refl (journal : RemoteEventJournal) : journal.Follows journal :=
  ⟨Nat.le_refl _, fun _ hrow => .inl hrow⟩

theorem Follows.trans {journal'' : RemoteEventJournal} (h : journal.Follows journal')
    (h' : journal'.Follows journal'') : journal.Follows journal'' := by
  refine ⟨h.floor_sequence.trans h'.floor_sequence, fun row hrow => ?_⟩
  rcases h.kept row hrow with hkept | ⟨hterm, hbelow⟩
  · exact h'.kept row hkept
  · exact .inr ⟨hterm, hbelow.trans h'.floor_sequence⟩

theorem Pruned.follows (h : journal.Pruned journal' terminal) : journal.Follows journal' := by
  refine ⟨?_, fun row hrow => ?_⟩
  · rw [h.floor_sequence]
    exact Nat.le_add_right _ _
  · by_cases hev : row.event ∈ terminal
    · obtain ⟨other, hother, heq, hterm⟩ := h.all_terminal _ hev
      have hsame : other = row := journal.events.eq_of_key_eq hother hrow (congrArg _ heq)
      rw [h.floor_sequence]
      exact .inr ⟨hsame ▸ hterm, (lt_of_linked h.linked hev).2⟩
    · exact .inl (h.mem.2 ⟨hrow, hev⟩)

theorem Appended.follows (h : journal.Appended source status journal') :
    journal.Follows journal' := by
  refine ⟨h.floor_sequence.ge, fun row hrow => .inl ?_⟩
  rw [h.rows]
  exact mem_append_left _ hrow

theorem follows_of_insert (h : insert_remote_event around journal source = .ok journal') :
    journal.Follows journal' := by
  rcases insert_remote_event_eq_ok h with ⟨-, rfl⟩ | ⟨_, pruned, _, -, hpruned, -, -, hcase⟩
  · exact .refl _
  · rcases hcase with ⟨-, -, happ⟩ | ⟨-, appended, _, happ, hpruned'⟩
    · exact hpruned.follows.trans happ.follows
    · exact (hpruned.follows.trans happ.follows).trans hpruned'.follows

/-- In a chain, a record that is stored is above the floor. -/
theorem Chained.floor_lt (h : journal.Chained) {event : RemoteEventRecord}
    (hev : event ∈ journal.records) : journal.floor_sequence < event.sequence :=
  (lt_of_linked h.linked hev).1

theorem Follows.prunesFront (h : journal.Follows journal') (hchained : journal'.Chained) :
    journal.PrunesFront (fun _ => False) journal' := by
  have hbelow : ∀ row ∈ journal.events.rows, row.event ∉ journal'.records →
      row.Terminal ∧ row.event.sequence ≤ journal'.floor_sequence := by
    intro row hrow hgone
    rcases h.kept row hrow with hkept | hbelow
    · exact absurd (mem_map_of_mem hkept) hgone
    · exact hbelow
  refine ⟨h.floor_sequence, fun row hrow => ⟨fun hgone => (hbelow row hrow hgone).2, ?_⟩,
    fun row hrow hgone => .inl (hbelow row hrow hgone).1⟩
  intro hle hmem
  exact absurd (hchained.floor_lt hmem) (by omega)

theorem prunesFront_of_delivery (h : journal.Chained) (hcall : ∀ source, call ≠ .insert source) :
    journal.PrunesFront (Acknowledges journal call) (call.run around journal).2 := by
  obtain ⟨moved, terminal, hmoves, hpruned⟩ := call.run_cases around journal hcall
  have hfront := hpruned.follows.prunesFront ((h.moves hmoves).pruned hpruned)
  refine ⟨hmoves.floor_sequence ▸ hfront.floor_sequence, fun row hrow => ?_,
    fun row hrow hgone => ?_⟩
  · obtain ⟨row', hrow', heq, -⟩ := hmoves.forward hrow
    rw [← heq]
    exact hfront.gone row' hrow'
  · obtain ⟨row', hrow', heq, hdel⟩ := hmoves.forward hrow
    rw [← heq] at hgone
    rcases hfront.ended row' hrow' hgone with hterm | hfalse
    · -- a row that ended was terminal before, or this call acknowledged it
      rcases row.open_or_terminal with hopen | hbefore
      · rcases hdel.open_or_acknowledges hopen with hopen' | hack
        · exact absurd hterm (RemoteEventRow.not_terminal_of_open hopen')
        · exact .inr hack
      · exact .inl hbefore
    · exact hfalse.elim

end RemoteEventJournal

/-! ## Verifying

The check of the chain that opens a profile succeeds on every chained journal. -/

/-- Every stored event can be loaded with what it stands for. -/
def RemoteEventJournal.Loadable (around : Surroundings π) (journal : RemoteEventJournal) : Prop :=
  ∀ row ∈ journal.events.rows, row.Readable around
    ∧ ∃ payload, around.payload row.event = .ok payload

theorem verify_chain_of_linked (hloadable : journal.Loadable around) {rows : List RemoteEventRow}
    {after : ℕ} {previous : Option NotificationId} (hrows : ∀ row ∈ rows, row ∈ journal.events.rows)
    (hlinked : LinkedEvents after previous (rows.map (·.event)))
    (hbounded : after + rows.length < 2 ^ 64) :
    verify_chain around journal after previous (rows.map (·.event.sequence))
    = .ok (after + rows.length, last_name RemoteEventRecord.notification_id previous
      (rows.map (·.event))) := by
  induction rows generalizing after previous with
  | nil => rfl
  | cons row rows ih =>
    obtain ⟨hnumber, hprev, hrest⟩ := hlinked
    have hrow := hrows row mem_cons_self
    obtain ⟨hread, payload, hpay⟩ := hloadable row hrow
    have hload : load_remote_event_record around journal row.event.sequence = .ok row :=
      load_remote_event_record_eq_ok.2 ⟨journal.events.get?_of_mem hrow, hread⟩
    have hnext : checked_add after 1 = some row.event.sequence := by
      rw [length_cons] at hbounded
      exact checked_add_iff.2 ⟨by omega, hnumber⟩
    have hpaid : load_remote_event_by_sequence around journal row.event.sequence
        = .ok (row.event, payload) := by
      rw [load_remote_event_by_sequence, hload, ok_bind, hpay, ok_bind]
      rfl
    rw [map_cons, verify_chain, hload, ok_bind, require_bind ⟨hnext, hprev⟩, hpaid,
      ok_bind, hnumber]
    rw [ih (fun other hother => hrows other (mem_cons_of_mem _ hother)) hrest
      (by rw [length_cons] at hbounded; omega)]
    rw [length_cons, Nat.add_assoc, Nat.add_comm 1]
    rfl

namespace RemoteEventJournal.Chained

variable (h : journal.Chained)
include h

/-- There is a last event, stored or pruned, from the first one on. -/
theorem last_notification_eq_none_iff :
    journal.last_notification = none ↔ journal.next_sequence = 1 := by
  rw [last_notification, last_name_eq_getLast?, Option.or_eq_none_iff, Option.map_eq_none_iff,
    getLast?_eq_none_iff, records, map_eq_nil_iff, floor_notification,
    Option.map_eq_none_iff, h.floor, h.next_sequence, ← length_eq_zero_iff]
  omega

theorem load_head :
    load_remote_event_head journal = .ok (journal.next_sequence, journal.head) := by
  rw [load_remote_event_head]
  cases hhead : journal.head with
  | none => rfl
  | some head =>
    have hseq : head.sequence + 1 = journal.next_sequence := by
      have hlast := h.head
      rw [hhead] at hlast
      obtain ⟨id, -, hid⟩ := Option.map_eq_some_iff.1 hlast.symm
      rw [← hid, h.next_sequence]
    have hbounded := h.bounded
    have hpos : 0 < head.sequence := by
      by_contra hzero
      have hnone := h.last_notification_eq_none_iff.2 (by omega)
      rw [h.head, hnone] at hhead
      cases hhead
    dsimp only
    rw [require_bind hpos, require_bind (checked_add_iff.2
      ⟨by rw [I64_MAX] at hbounded; omega, hseq.symm⟩)]
    rfl

theorem load_floor : load_remote_event_floor journal = .ok journal.floor := by
  rw [load_remote_event_floor]
  have hseq := h.floor_sequence
  have hnone := h.floor
  cases hfloor : journal.floor with
  | none => exact require_bind (hnone.1 hfloor)
  | some floor =>
    have hne : journal.floor_sequence ≠ 0 := by
      intro hzero
      rw [hnone.2 hzero] at hfloor
      cases hfloor
    rw [hfloor, Option.map_some, Option.getD_some] at hseq
    dsimp only
    rw [require_bind hne, require_bind hseq.symm]
    rfl

theorem in_order_rows : in_order (journal.events.rows.filter fun row =>
      (journal.floor.map (·.sequence)).getD 0 < row.event.sequence) = journal.events.rows := by
  have hall : (journal.events.rows.filter fun row =>
      (journal.floor.map (·.sequence)).getD 0 < row.event.sequence) = journal.events.rows := by
    rw [filter_eq_self]
    intro row hrow
    rw [← h.floor_sequence, decide_eq_true_eq]
    exact h.floor_lt (mem_map_of_mem hrow)
  rw [hall, in_order]
  refine List.Pairwise.insertionSort_eq ?_
  have hsorted := linked_sorted h.linked
  rw [records, pairwise_map] at hsorted
  exact hsorted.imp fun hlt => Nat.le_of_lt hlt

/-- The event with the number of the head is the one the head names. -/
theorem get?_head {id : NotificationId}
    (hid : journal.last_notification = some id) (hrows : journal.events.rows ≠ []) :
    (journal.events.get? (journal.floor_sequence + journal.events.rows.length)).map
    (·.event.notification_id) = some id := by
  obtain ⟨front, last, hsplit⟩ := (eq_nil_or_concat' _).resolve_left hrows
  have hrecords : journal.records = front.map (·.event) ++ [last.event] := by
    rw [records, hsplit, map_append, map_singleton]
  have hnumber : last.event.sequence = journal.floor_sequence + journal.events.rows.length := by
    have hlinked := h.linked
    rw [hrecords] at hlinked
    have hlast := (linked_append.1 hlinked).2.1
    rw [length_map] at hlast
    rw [hlast, hsplit, length_append, length_singleton, Nat.add_assoc]
  have hmem : last ∈ journal.events.rows := by
    rw [hsplit]
    exact mem_append_right _ (mem_singleton.2 rfl)
  rw [last_notification, hrecords, last_name_concat] at hid
  rw [← hnumber, journal.events.get?_of_mem hmem, Option.map_some, hid]

/-- Opening a profile verifies its journal, and always can. -/
theorem verify (hloadable : journal.Loadable around) :
    verify_remote_event_journal around journal = .ok () := by
  have hbounded := h.bounded
  rw [I64_MAX] at hbounded
  have hnext := h.next_sequence
  rw [verify_remote_event_journal, h.load_head, ok_bind]
  dsimp only
  rw [h.load_floor, ok_bind]
  split
  · rename_i hfirst
    have hzero : journal.floor_sequence = 0 ∧ journal.events.rows.length = 0 := by omega
    refine require_eq_ok.2 ⟨?_, h.floor.2 hzero.1, hzero.2⟩
    rw [h.head, h.last_notification_eq_none_iff.2 hfirst]
    rfl
  · rename_i hlater
    obtain ⟨id, hid⟩ := Option.ne_none_iff_exists'.1
      fun hnone => hlater (h.last_notification_eq_none_iff.1 hnone)
    have hchain : verify_chain around journal journal.floor_sequence journal.floor_notification
        (journal.events.rows.map (·.event.sequence))
        = .ok (journal.floor_sequence + journal.events.rows.length, some id) := by
      rw [verify_chain_of_linked hloadable (fun _ hrow => hrow) h.linked (by omega), ← hid]
      rfl
    have hhead : journal.head = some ⟨journal.floor_sequence + journal.events.rows.length, id⟩ := by
      rw [h.head, hid]
      rfl
    rw [hhead, some_or_bind rfl]
    dsimp only
    rw [h.in_order_rows, ← h.floor_sequence, require_bind
      ⟨Nat.le_add_right _ _, checked_add_iff.2 ⟨by omega, hnext⟩, by omega⟩]
    by_cases hrows : journal.events.rows = []
    · have hfloor : journal.floor.map (·.notification_id) = some id := by
        rw [last_notification, records, hrows] at hid
        exact hid
      rw [if_pos (by rw [hrows]; rfl), require_bind hfloor]
      exact bind_ok.2 ⟨_, hchain, require_eq_ok.2 rfl⟩
    · have hpos := length_pos_iff.2 hrows
      rw [if_neg (by omega), require_bind (h.get?_head hid hrows)]
      exact bind_ok.2 ⟨_, hchain, require_eq_ok.2 rfl⟩

end RemoteEventJournal.Chained

/-! ## Limits

The four limits on pending events are checked at every insertion and hold ever after. -/

/-- The journal is within its limits, by number and by the bytes it would deliver. -/
structure RemoteEventJournal.Within (around : Surroundings π) (journal : RemoteEventJournal) :
    Prop where
  records : journal.events.rows.length ≤ MAX_REMOTE_EVENT_RECORDS
  pending : (pending_events journal none).length ≤ MAX_PENDING_REMOTE_EVENTS
  pending_per_conversation : ∀ conversation_id,
    (pending_events journal (some conversation_id)).length
      ≤ MAX_PENDING_REMOTE_EVENTS_PER_CONVERSATION
  bytes : pending_remote_event_bytes around journal none ≤ MAX_PENDING_REMOTE_EVENT_BYTES
  bytes_per_conversation : ∀ conversation_id,
    pending_remote_event_bytes around journal (some conversation_id)
      ≤ MAX_PENDING_REMOTE_EVENT_BYTES_PER_CONVERSATION

/-- Whether a row counts as pending, for one conversation or for all. -/
def counts_pending (conversation_id : Option ConversationId) (row : RemoteEventRow) : Bool :=
  conversation_id.all (row.event.conversation_id = ·)
    && decide (row.state.status ∈ [RemoteEventStatus.Pending, .Claimed])

theorem pending_events_eq : pending_events journal conversation_id
    = journal.events.rows.filter (counts_pending conversation_id) := by
  rw [pending_events, with_status, filter_filter]
  rfl

theorem open_of_counts_pending (h : counts_pending conversation_id row = true) : row.Open := by
  rw [counts_pending, Bool.and_eq_true, decide_eq_true_eq] at h
  rw [RemoteEventRow.Open]
  simpa using h.2

/-- The pending events of the one journal are among those of the other, in order. -/
structure RemoteEventJournal.Shrinks (journal journal' : RemoteEventJournal) : Prop where
  length : journal'.events.rows.length ≤ journal.events.rows.length
  pending : ∀ conversation_id, ((pending_events journal' conversation_id).map (·.event)).Sublist
    ((pending_events journal conversation_id).map (·.event))

theorem filter_sublist_of_forall₂ {α β : Type} {R : α → α → Prop} {f : α → β} {p : α → Bool}
    {l l' : List α} (h : List.Forall₂ R l l') (hf : ∀ x y, R x y → f y = f x)
    (hp : ∀ x y, R x y → p y = true → p x = true) :
    ((l'.filter p).map f).Sublist ((l.filter p).map f) := by
  induction h with
  | nil => exact List.Sublist.refl _
  | @cons x y l l' hxy _ ih =>
    by_cases hy : p y = true
    · rw [filter_cons_of_pos hy, filter_cons_of_pos (hp x y hxy hy), map_cons, map_cons, hf x y hxy]
      exact ih.cons_cons _
    · rw [filter_cons_of_neg hy]
      by_cases hx : p x = true
      · rw [filter_cons_of_pos hx, map_cons]
        exact ih.cons _
      · rw [filter_cons_of_neg hx]
        exact ih

namespace RemoteEventJournal

theorem Moves.shrinks (h : journal.Moves R journal')
    (hopen : ∀ row row', R row row' → row'.Open → row.Open) : journal.Shrinks journal' := by
  refine ⟨(h.rows.length_eq).ge, fun conversation_id => ?_⟩
  rw [pending_events_eq, pending_events_eq]
  refine filter_sublist_of_forall₂ h.rows (fun _ _ hrow => hrow.1) ?_
  rintro row row' ⟨hev, hR⟩ hcounts
  have hrow := hopen row row' hR (open_of_counts_pending hcounts)
  rw [counts_pending, Bool.and_eq_true] at hcounts ⊢
  refine ⟨hev ▸ hcounts.1, ?_⟩
  rw [decide_eq_true_eq]
  rcases hrow with hstatus | hstatus <;> simp [hstatus]

theorem Pruned.shrinks (h : journal.Pruned journal' terminal) : journal.Shrinks journal' := by
  have hsublist : journal'.events.rows.Sublist journal.events.rows := by
    rw [h.rows]
    exact filter_sublist
  refine ⟨hsublist.length_le, fun conversation_id => ?_⟩
  rw [pending_events_eq, pending_events_eq]
  exact (hsublist.filter _).map _

theorem pending_remote_event_bytes_eq : pending_remote_event_bytes around journal conversation_id
    = (((pending_events journal conversation_id).map (·.event)).map around.event_length).sum := by
  rw [pending_remote_event_bytes, map_map]
  rfl

theorem Shrinks.bytes_le (h : journal.Shrinks journal') :
    pending_remote_event_bytes around journal' conversation_id
    ≤ pending_remote_event_bytes around journal conversation_id := by
  rw [pending_remote_event_bytes_eq, pending_remote_event_bytes_eq]
  exact ((h.pending conversation_id).map _).sum_le_sum fun _ _ => Nat.zero_le _

theorem Shrinks.pending_le (h : journal.Shrinks journal') :
    (pending_events journal' conversation_id).length
    ≤ (pending_events journal conversation_id).length := by
  simpa using (h.pending conversation_id).length_le

theorem Within.shrinks (h : journal.Within around) (hshrinks : journal.Shrinks journal') :
    journal'.Within around where
  records := hshrinks.length.trans h.records
  pending := hshrinks.pending_le.trans h.pending
  pending_per_conversation id := hshrinks.pending_le.trans (h.pending_per_conversation id)
  bytes := hshrinks.bytes_le.trans h.bytes
  bytes_per_conversation id := hshrinks.bytes_le.trans (h.bytes_per_conversation id)

/-- The bytes are those of the pending events, so other tables may change around them. -/
theorem Within.of_lengths {around' : Surroundings π} (h : journal.Within around)
    (hlen : ∀ row ∈ journal.events.rows,
      around'.event_length row.event = around.event_length row.event) : journal.Within around' := by
  have hbytes : ∀ conversation_id, pending_remote_event_bytes around' journal conversation_id
      = pending_remote_event_bytes around journal conversation_id := by
    intro conversation_id
    rw [pending_remote_event_bytes, pending_remote_event_bytes]
    congr 1
    refine map_congr_left fun row hrow => hlen row ?_
    rw [pending_events_eq] at hrow
    exact mem_of_mem_filter hrow
  refine ⟨h.records, h.pending, h.pending_per_conversation, ?_, fun id => ?_⟩
  · rw [hbytes]
    exact h.bytes
  · rw [hbytes]
    exact h.bytes_per_conversation id

theorem within_empty : empty.Within around :=
  ⟨Nat.zero_le _, Nat.zero_le _, fun _ => Nat.zero_le _, Nat.zero_le _, fun _ => Nat.zero_le _⟩

theorem Appended.pending_events (h : journal.Appended source status journal')
    (conversation_id : Option ConversationId) : RemoteEvents.pending_events journal' conversation_id
    = RemoteEvents.pending_events journal conversation_id
      ++ [source.row journal.next_sequence (journal.head.map (·.notification_id)) status].filter
        (counts_pending conversation_id) := by
  rw [pending_events_eq, pending_events_eq, h.rows, filter_append]

theorem Within.appended_suppressed (h : journal.Within around)
    (happ : journal.Appended source .Suppressed journal')
    (hroom : journal.events.rows.length < MAX_REMOTE_EVENT_RECORDS) : journal'.Within around := by
  have hsame : ∀ conversation_id, pending_events journal' conversation_id
      = pending_events journal conversation_id := by
    intro conversation_id
    rw [happ.pending_events, filter_cons_of_neg (by simp [counts_pending,
      RemoteEventSource.row, unclaimed]), filter_nil, append_nil]
  have hlen : journal'.events.rows.length ≤ MAX_REMOTE_EVENT_RECORDS := by
    rw [happ.rows, length_append, length_singleton]
    exact hroom
  refine ⟨hlen, ?_, fun id => ?_, ?_, fun id => ?_⟩
  · rw [hsame]
    exact h.pending
  · rw [hsame]
    exact h.pending_per_conversation id
  · rw [pending_remote_event_bytes, hsame]
    exact h.bytes
  · rw [pending_remote_event_bytes, hsame]
    exact h.bytes_per_conversation id

theorem Within.appended_pending (h : journal.Within around) {length : ℕ}
    (happ : journal.Appended source .Pending journal')
    (hroom : journal.events.rows.length < MAX_REMOTE_EVENT_RECORDS)
    (hlen : around.delivery_length source.conversation_id source.relay_cursor source.kind
      = some length)
    (hcap : require_pending_capacity around journal source.conversation_id length = .ok ()) :
    journal'.Within around := by
  rw [require_pending_capacity] at hcap
  obtain ⟨hall, hconv, hbytes, hconversation_bytes⟩ := require_eq_ok.1 hcap
  -- the new event counts for all, and for its own conversation only
  have hcase : ∀ conversation_id, (pending_events journal' conversation_id
      = pending_events journal conversation_id
      ∧ pending_remote_event_bytes around journal' conversation_id
        = pending_remote_event_bytes around journal conversation_id)
      ∨ (∀ id ∈ conversation_id, id = source.conversation_id)
      ∧ (pending_events journal' conversation_id).length
          = (pending_events journal conversation_id).length + 1
        ∧ pending_remote_event_bytes around journal' conversation_id
          = pending_remote_event_bytes around journal conversation_id + length := by
    intro conversation_id
    rw [pending_remote_event_bytes, pending_remote_event_bytes, happ.pending_events]
    by_cases hcounts : counts_pending conversation_id (source.row journal.next_sequence
        (journal.head.map (·.notification_id)) .Pending) = true
    · rw [filter_cons_of_pos hcounts, filter_nil]
      refine .inr ⟨?_, by simp, ?_⟩
      · rw [counts_pending, Bool.and_eq_true] at hcounts
        rintro id rfl
        simpa [RemoteEventSource.row, eq_comm] using hcounts.1
      · simp [Surroundings.event_length, RemoteEventSource.row, hlen]
    · rw [filter_cons_of_neg hcounts, filter_nil, append_nil]
      exact .inl ⟨rfl, rfl⟩
  have hrecords : journal'.events.rows.length ≤ MAX_REMOTE_EVENT_RECORDS := by
    rw [happ.rows, length_append, length_singleton]
    exact hroom
  refine ⟨hrecords, ?_, fun id => ?_, ?_, fun id => ?_⟩
  · rcases hcase none with ⟨hsame, -⟩ | ⟨-, hmore, -⟩
    · rw [hsame]
      exact h.pending
    · omega
  · rcases hcase (some id) with ⟨hsame, -⟩ | ⟨hid, hmore, -⟩
    · rw [hsame]
      exact h.pending_per_conversation id
    · rw [hid id rfl] at hmore ⊢
      omega
  · rcases hcase none with ⟨-, hsame⟩ | ⟨-, -, hmore⟩
    · rw [hsame]
      exact h.bytes
    · omega
  · rcases hcase (some id) with ⟨-, hsame⟩ | ⟨hid, -, hmore⟩
    · rw [hsame]
      exact h.bytes_per_conversation id
    · rw [hid id rfl] at hmore ⊢
      omega

/-- Inserts that are accepted stay within the bounds. -/
theorem Within.inserted (h : journal.Within around)
    (hins : insert_remote_event around journal source = .ok journal') : journal'.Within around := by
  rcases insert_remote_event_eq_ok hins with ⟨-, rfl⟩ | ⟨_, pruned, _, -, hpruned, hroom, -, hcase⟩
  · exact h
  · have hwithin := h.shrinks hpruned.shrinks
    rcases hcase with ⟨-, ⟨_, hlen, hcap⟩, happ⟩ | ⟨-, appended, _, happ, hpruned'⟩
    · exact hwithin.appended_pending happ hroom hlen hcap
    · exact (hwithin.appended_suppressed happ hroom).shrinks hpruned'.shrinks

/-- Deliveries do not add to what is pending. -/
theorem Within.delivered (h : journal.Within around) (hcall : ∀ source, call ≠ .insert source) :
    (call.run around journal).2.Within around := by
  obtain ⟨moved, terminal, hmoves, hpruned⟩ := call.run_cases around journal hcall
  refine (h.shrinks (hmoves.shrinks ?_)).shrinks hpruned.shrinks
  intro row row' hdel hopen
  by_contra hclosed
  have hterm := row.open_or_terminal.resolve_left hclosed
  rw [hdel.eq_of_terminal hterm] at hopen
  exact hclosed hopen

end RemoteEventJournal

end Konclave.Daemon.RemoteEvents
