/-
Adapter delivery is at least once and fenced.

The journal is used by any number of adapters at any clock readings, while completions
insert events, the daemon restarts and the other tables change. Every call but an
insertion moves delivery states and then prunes; what one row can go through is `Delivers`,
and everything said of a run follows from it.
-/
import Konclave.Daemon.RemoteEventMoves

set_option autoImplicit false

namespace Konclave.Daemon.RemoteEvents

open Domain List

variable {π : Type} {limit : ℕ} {R : RemoteEventRow → RemoteEventRow → Prop}

/-! ## Calls and runs

A run is a list of calls on the journal, between which the other tables change. -/

/-- A call on the journal, with the clock reading of its caller. -/
inductive DeliveryCall
  | insert (source : RemoteEventSource)
  | acquire (consumer_id : AdapterConsumerId) (lease_id : AdapterLeaseId) (now expires_at : ℕ)
  | release (consumer_id : AdapterConsumerId) (lease_id : AdapterLeaseId)
  | claim (consumer_id : AdapterConsumerId) (lease_id : AdapterLeaseId)
      (now expires_at limit : ℕ)
  | heartbeat (consumer_id : AdapterConsumerId) (lease_id : AdapterLeaseId)
      (now expires_at : ℕ) (directed_request : Except ProfileStoreError Unit)
  | acknowledge (notification_id : NotificationId) (consumer_id : AdapterConsumerId)
      (lease_id : AdapterLeaseId) (lease_generation now : ℕ)
  | release_event (notification_id : NotificationId) (consumer_id : AdapterConsumerId)
      (lease_id : AdapterLeaseId) (lease_generation now : ℕ)
  | prune (limit : ℕ)
  | restart

open DeliveryCall

/-- The answer of a call and the journal after it. A completion inserts under the routing of
its conversation. -/
def DeliveryCall.run (around : Surroundings π) (journal : RemoteEventJournal) :
    DeliveryCall → Except ProfileStoreError Unit × RemoteEventJournal
  | .insert source => transaction journal do
      let conversation ← some_or (around.conversation source.conversation_id)
        .ConversationNotFound
      require (source.routing_id = conversation.routing_id) .CorruptData
      let journal ← insert_remote_event around journal source
      pure ((), journal)
  | .acquire consumer_id lease_id now expires_at =>
    acquire_adapter_consumer around journal consumer_id lease_id now expires_at
  | .release consumer_id lease_id => release_adapter_consumer around journal consumer_id lease_id
  | .claim consumer_id lease_id now expires_at limit =>
    let (claimed, journal) :=
      claim_remote_events around journal consumer_id lease_id now expires_at limit
    (claimed.map fun _ => (), journal)
  | .heartbeat consumer_id lease_id now expires_at directed_request =>
    heartbeat_adapter_consumer around journal consumer_id lease_id now expires_at
      directed_request
  | .acknowledge notification_id consumer_id lease_id lease_generation now =>
    acknowledge_remote_event around journal notification_id consumer_id lease_id
      lease_generation now
  | .release_event notification_id consumer_id lease_id lease_generation now =>
    release_remote_event around journal notification_id consumer_id lease_id lease_generation
      now
  | .prune limit =>
    let (pruned, journal) := prune_terminal_remote_events around journal limit
    (pruned.map fun _ => (), journal)
  | .restart => invalidate_remote_event_leases around journal

/-- The journal among the other tables. -/
structure DeliveryStore (π : Type) where
  around : Surroundings π
  journal : RemoteEventJournal

/-- The other tables may change, but a conversation is never deleted and keeps its routing. -/
def Surroundings.Continues (around around' : Surroundings π) : Prop :=
  ∀ conversation_id conversation, around.conversation conversation_id = some conversation →
    ∃ conversation', around'.conversation conversation_id = some conversation'
      ∧ conversation'.routing_id = conversation.routing_id

inductive DeliveryEvent (π : Type)
  | call (call : DeliveryCall)
  | tables (around : Surroundings π)

namespace DeliveryStore

def step (store : DeliveryStore π) : DeliveryEvent π → DeliveryStore π
  | .call call => { store with journal := (call.run store.around store.journal).2 }
  | .tables around => { store with around }

def Permits (store : DeliveryStore π) : DeliveryEvent π → Prop
  | .call _ => True
  | .tables around => store.around.Continues around

inductive Run (store : DeliveryStore π) :
    List (DeliveryEvent π) → DeliveryStore π → Prop
  | nil : Run store [] store
  | snoc {events : List (DeliveryEvent π)} {later : DeliveryStore π} {event : DeliveryEvent π} :
      Run store events later → later.Permits event →
        Run store (events ++ [event]) (later.step event)

/-- A store that some profile which had received nothing came to. -/
def Reachable (store : DeliveryStore π) : Prop :=
  ∃ around events, Run ⟨around, .empty⟩ events store

end DeliveryStore

/-! ## What one row goes through

A delivery state moves along one relation: pending, claimed under the next generation, pending
again or acknowledged. -/

/-- The consumer holds the profile's delivery lease. -/
def RemoteEventJournal.HeldBy (journal : RemoteEventJournal) (consumer_id : AdapterConsumerId)
    (lease_id : AdapterLeaseId) (now : ℕ) : Prop :=
  ∃ held ∈ journal.consumer, held.consumer_id = consumer_id ∧ held.lease_id = lease_id
    ∧ now < held.lease_expires_at_unix_milliseconds

/-- The call acknowledges the row under its current claim and the live lease. -/
def Acknowledges (journal : RemoteEventJournal) (call : DeliveryCall) (row : RemoteEventRow) :
    Prop :=
  ∃ consumer_id lease_id now,
    call = .acknowledge row.event.notification_id consumer_id lease_id row.state.lease_generation
      now
    ∧ is_current_claim row.state consumer_id lease_id row.state.lease_generation now
    ∧ journal.HeldBy consumer_id lease_id now

namespace RemoteEventRow

def Open (row : RemoteEventRow) : Prop :=
  row.state.status = .Pending ∨ row.state.status = .Claimed

theorem open_or_terminal (row : RemoteEventRow) : row.Open ∨ row.Terminal := by
  rw [Open, Terminal]
  cases row.state.status <;> simp

theorem not_terminal_of_open {row : RemoteEventRow} (hopen : row.Open) : ¬ row.Terminal := by
  rintro (hterm | hterm) <;> rcases hopen with hstatus | hstatus <;>
    rw [hterm] at hstatus <;> cases hstatus

end RemoteEventRow

/-- What a call makes of the row. -/
inductive Delivers (journal : RemoteEventJournal) (call : DeliveryCall) (row : RemoteEventRow) :
    RemoteEventRow → Prop
  | kept : Delivers journal call row row
  | ended (hclaimed : row.state.status = .Claimed) :
      Delivers journal call row ⟨row.event, unclaimed .Pending row.state.lease_generation⟩
  | renewed (expires_at : ℕ) (hclaimed : row.state.status = .Claimed)
      (hencodable : RemoteEventDeliveryState.encodable
        { row.state with lease_expires_at_unix_milliseconds := some expires_at } = true) :
      Delivers journal call row
        ⟨row.event, { row.state with lease_expires_at_unix_milliseconds := some expires_at }⟩
  | claimed (consumer_id : AdapterConsumerId) (lease_id : AdapterLeaseId) (expires_at : ℕ)
      (hopen : row.Open)
      (hencodable : RemoteEventDeliveryState.encodable ⟨.Claimed, some consumer_id, some lease_id,
        row.state.lease_generation + 1, some expires_at⟩ = true) :
      Delivers journal call row ⟨row.event, ⟨.Claimed, some consumer_id, some lease_id,
        row.state.lease_generation + 1, some expires_at⟩⟩
  | acknowledged (hclaimed : row.state.status = .Claimed)
      (hacknowledges : Acknowledges journal call row) :
      Delivers journal call row ⟨row.event, unclaimed .Acknowledged row.state.lease_generation⟩

open Delivers

variable {consumer_id : AdapterConsumerId} {lease_id : AdapterLeaseId} {now expires_at : ℕ}

namespace Delivers

variable {journal : RemoteEventJournal} {call : DeliveryCall} {row row' : RemoteEventRow}

theorem of_unclaims (h : Unclaims row row') : Delivers journal call row row' := by
  rcases h with rfl | ⟨hclaimed, rfl⟩
  · exact .kept
  · exact .ended hclaimed

theorem of_claims (x y z : RemoteEventRow) (h : Unclaims x y)
    (h' : Claims consumer_id lease_id expires_at y z) : Delivers journal call x z := by
  rcases h' with rfl | ⟨hpend, rfl, henc⟩
  · exact of_unclaims h
  · -- a claim that was just reclaimed keeps its generation for the next one
    rcases h with rfl | ⟨hclaimed, rfl⟩
    · exact .claimed consumer_id lease_id expires_at (.inl hpend) henc
    · exact .claimed consumer_id lease_id expires_at (.inr hclaimed) henc

theorem of_renews (x y z : RemoteEventRow) (h : Renews expires_at x y) (h' : Unclaims y z) :
    Delivers journal call x z := by
  rcases h with rfl | ⟨hclaimed, rfl, henc⟩
  · exact of_unclaims h'
  · rcases h' with rfl | ⟨-, rfl⟩
    · exact .renewed expires_at hclaimed henc
    · exact .ended hclaimed

section

variable (h : Delivers journal call row row')
include h

/-- A terminal row is not moved. -/
theorem eq_of_terminal (hterm : row.Terminal) : row' = row := by
  have hclosed : ¬ row.Open := fun hopen => RemoteEventRow.not_terminal_of_open hopen hterm
  cases h with
  | kept => rfl
  | ended hclaimed | renewed _ hclaimed => exact absurd (.inr hclaimed) hclosed
  | claimed _ _ _ hopen => exact absurd hopen hclosed
  | acknowledged hclaimed => exact absurd (.inr hclaimed) hclosed

theorem generation_le : row.state.lease_generation ≤ row'.state.lease_generation := by
  cases h with
  | claimed => exact Nat.le_succ _
  | _ => exact Nat.le_refl _

theorem open_or_acknowledges (hopen : row.Open) : row'.Open ∨ Acknowledges journal call row := by
  cases h with
  | kept => exact .inl hopen
  | ended => exact .inl (.inl rfl)
  | renewed _ hclaimed => exact .inl (.inr hclaimed)
  | claimed => exact .inl (.inr rfl)
  | acknowledged _ hack => exact .inr hack

theorem acknowledges
    (hstatus : row'.state.status = .Acknowledged) : row' = row ∨ Acknowledges journal call row := by
  cases h with
  | kept => exact .inl rfl
  | ended => cases hstatus
  | renewed _ hclaimed =>
    rw [show row.state.status = .Acknowledged from hstatus] at hclaimed
    cases hclaimed
  | claimed => cases hstatus
  | acknowledged _ hack => exact .inr hack

theorem encodable (hrow : row.state.encodable = true) : row'.state.encodable = true := by
  cases h with
  | kept => exact hrow
  | ended => rfl
  | renewed _ _ henc | claimed _ _ _ _ henc => exact henc
  | acknowledged => rfl

end

end Delivers

/-! ## What each call does

Each call moves states and then prunes, or inserts. -/

variable {around : Surroundings π} {journal journal' : RemoteEventJournal}

theorem find_notification {notification_id : NotificationId} {row : RemoteEventRow} :
    (journal.events.rows.find? fun row => row.event.notification_id = notification_id) = some row
    ↔ row ∈ journal.events.rows ∧ row.event.notification_id = notification_id :=
  Table.find?_iff fun _ hx _ hy hidx hidy =>
    inj_on_of_nodup_map journal.notifications hx hy (hidx.trans hidy.symm)

/-- Ending a claim changes nothing, or it is the row's current claim and the lease is held. -/
theorem finish_remote_event_claim_cases
    (notification_id : NotificationId) (lease_generation now : ℕ) (target : RemoteEventStatus) :
    let journal' := (finish_remote_event_claim around journal notification_id consumer_id lease_id
      lease_generation now target).2
    journal' = journal ∨ ∃ row ∈ journal.events.rows, row.event.notification_id = notification_id
      ∧ is_current_claim row.state consumer_id lease_id lease_generation now
      ∧ journal.HeldBy consumer_id lease_id now
      ∧ ((target = .Acknowledged ∧ ∃ terminal, (journal.set_state row.event.sequence
            (unclaimed .Acknowledged lease_generation)).Pruned journal' terminal)
        ∨ (target ≠ .Acknowledged
          ∧ journal' = journal.set_state row.event.sequence
            (unclaimed target lease_generation))) := by
  intro journal'
  rcases transaction_result with ⟨_, hrun⟩ | ⟨answer, after, hbody, hrun⟩
  · exact .inl (congrArg Prod.snd hrun)
  · have hafter : journal' = after := congrArg Prod.snd hrun
    rw [hafter]
    obtain ⟨named, hfound, hload⟩ := some_or_ok.1 hbody
    obtain ⟨hnamed, hname⟩ := find_notification.1 hfound
    obtain ⟨row, hload, h⟩ := bind_ok.1 hload
    obtain ⟨hget, -⟩ := load_remote_event_record_eq_ok.1 hload
    obtain ⟨hrow, hkey⟩ := Table.get?_iff.1 hget
    have heq : row = named := journal.events.eq_of_key_eq hrow hnamed hkey
    subst heq
    split at h
    · cases h
      exact .inl rfl
    · split at h
      · cases h
        exact .inl rfl
      · obtain ⟨hclaim, h⟩ := require_ok.1 h
        obtain ⟨_, hheld, h⟩ := bind_ok.1 h
        obtain ⟨stored, hstored, h⟩ := bind_ok.1 h
        obtain ⟨-, rfl⟩ := store_remote_event_delivery_state_eq_ok hstored
        rw [verify_active_adapter_consumer_now] at hheld
        have hheld := require_eq_ok.1 hheld
        refine .inr ⟨row, hrow, hname, hclaim, hheld, ?_⟩
        split at h
        · rename_i htarget
          obtain ⟨pruned, hpruned, h⟩ := bind_ok.1 h
          cases h
          rw [htarget] at hpruned
          exact .inl ⟨htarget, prune_excess_eq_ok hpruned⟩
        · rename_i htarget
          cases h
          exact .inr ⟨htarget, rfl⟩

namespace DeliveryCall

/-- Loading what was claimed, and reporting a count, write nothing. -/
theorem run_claim (consumer_id : AdapterConsumerId) (lease_id : AdapterLeaseId)
    (now expires_at limit : ℕ) :
    (run around journal (.claim consumer_id lease_id now expires_at limit)).2
    = (claim_transaction around journal consumer_id lease_id now expires_at limit).2 := rfl

theorem run_prune : (run around journal (.prune limit)).2
    = (prune_terminal_remote_events around journal limit).2 := rfl

/-- Every call but an insertion moves the rows it finds and then prunes. -/
theorem run_cases (call : DeliveryCall) (around : Surroundings π)
    (journal : RemoteEventJournal) (hcall : ∀ source, call ≠ .insert source) :
    ∃ moved terminal, journal.Moves (Delivers journal call) moved
    ∧ moved.Pruned (call.run around journal).2 terminal := by
  -- a call without pruning, and one that changed nothing
  have of_moves : ∀ {after : RemoteEventJournal}, journal.Moves (Delivers journal call) after →
      ∃ moved terminal, journal.Moves (Delivers journal call) moved
        ∧ moved.Pruned after terminal := fun h => ⟨_, [], h, .refl _⟩
  have of_eq : ∀ {after : RemoteEventJournal}, after = journal →
      ∃ moved terminal, journal.Moves (Delivers journal call) moved
        ∧ moved.Pruned after terminal := fun h =>
    of_moves (by rw [h]; exact .refl (fun _ => .kept) journal)
  -- a transaction that failed changed nothing
  have of_transaction : ∀ {α : Type} {body : Except ProfileStoreError (α × RemoteEventJournal)},
      (∀ answer after, body = .ok (answer, after) →
        ∃ moved terminal, journal.Moves (Delivers journal call) moved
          ∧ moved.Pruned after terminal) →
      ∃ moved terminal, journal.Moves (Delivers journal call) moved
        ∧ moved.Pruned (transaction journal body).2 terminal := by
    intro α body h
    rcases transaction_result with ⟨_, hrun⟩ | ⟨answer, after, hbody, hrun⟩
    · exact of_eq (congrArg Prod.snd hrun)
    · rw [hrun]
      exact h answer after hbody
  cases call with
  | insert source => exact absurd rfl (hcall source)
  | acquire consumer_id lease_id now expires_at =>
    refine of_transaction fun _ after hbody => of_moves ?_
    obtain ⟨_, -, h⟩ := bind_ok.1 hbody
    obtain ⟨reclaimed, hreclaimed, h⟩ := bind_ok.1 h
    obtain ⟨-, h⟩ := require_ok.1 h
    obtain ⟨_, -, h⟩ := bind_ok.1 h
    cases h
    exact ((reclaim_expired_remote_events_eq_ok hreclaimed).imp fun _ _ =>
      of_unclaims).with_consumer _
  | release consumer_id lease_id =>
    rw [run, release_adapter_consumer]
    split
    · exact of_eq rfl
    · refine of_transaction fun _ after hbody => ?_
      obtain ⟨-, h⟩ := require_ok.1 hbody
      obtain ⟨ended, hended, h⟩ := bind_ok.1 h
      cases h
      exact of_moves (((rewrite_make_pending hended).imp fun _ _ =>
        of_unclaims).with_consumer _)
  | claim consumer_id lease_id now expires_at limit =>
    rw [run_claim]
    rcases claim_transaction_cases now expires_at limit with
      ⟨_, hrun⟩ | ⟨selected, reclaimed, after, hrun, hunclaims, hclaims, -⟩
    · exact of_eq (congrArg Prod.snd hrun)
    · rw [hrun]
      exact of_moves (hunclaims.comp of_claims hclaims)
  | heartbeat consumer_id lease_id now expires_at directed_request =>
    refine of_transaction fun _ after hbody => of_moves ?_
    obtain ⟨_, -, h⟩ := bind_ok.1 hbody
    obtain ⟨leased, hleased, h⟩ := bind_ok.1 h
    obtain ⟨renewed, hrenewed, h⟩ := bind_ok.1 h
    obtain ⟨_, -, h⟩ := bind_ok.1 h
    obtain ⟨reclaimed, hreclaimed, h⟩ := bind_ok.1 h
    cases h
    obtain ⟨consumer, rfl⟩ := renew_active_adapter_lease_eq_ok hleased
    exact (renew_claimed_remote_events_eq_ok hrenewed).of_consumer.comp of_renews
      (reclaim_expired_remote_events_eq_ok hreclaimed)
  | acknowledge notification_id consumer_id lease_id lease_generation now =>
    rcases finish_remote_event_claim_cases notification_id
      lease_generation now .Acknowledged with hsame | ⟨row, hrow, rfl, hclaim, hheld, hmoved⟩
    · exact of_eq hsame
    · rcases hmoved with ⟨-, terminal, hpruned⟩ | ⟨htarget, -⟩
      · obtain ⟨hclaimed, -, -, rfl, -⟩ := id hclaim
        exact ⟨_, terminal, RemoteEventJournal.set_state_moves (fun _ => .kept) hrow
          (.acknowledged hclaimed ⟨consumer_id, lease_id, now, rfl, hclaim, hheld⟩), hpruned⟩
      · exact absurd rfl htarget
  | release_event notification_id consumer_id lease_id lease_generation now =>
    rcases finish_remote_event_claim_cases notification_id
      lease_generation now .Pending with hsame | ⟨row, hrow, rfl, hclaim, -, hmoved⟩
    · exact of_eq hsame
    · rcases hmoved with ⟨htarget, -⟩ | ⟨-, hmoved⟩
      · cases htarget
      · obtain ⟨hclaimed, -, -, rfl, -⟩ := hclaim
        refine of_moves ?_
        show journal.Moves _ (finish_remote_event_claim _ _ _ _ _ _ _ _).2
        rw [hmoved]
        exact RemoteEventJournal.set_state_moves (fun _ => .kept) hrow (.ended hclaimed)
  | prune limit =>
    rw [run_prune]
    refine of_transaction fun count after hbody => ?_
    obtain ⟨-, h⟩ := require_ok.1 hbody
    obtain ⟨terminal, hpruned⟩ := prune_terminal_remote_events_in_eq_ok h
    exact ⟨journal, terminal, .refl (fun _ => .kept) journal, hpruned⟩
  | restart =>
    refine of_transaction fun _ after hbody => of_moves ?_
    obtain ⟨ended, hended, h⟩ := bind_ok.1 hbody
    cases h
    exact ((rewrite_make_pending hended).imp fun _ _ => of_unclaims).with_consumer _

end DeliveryCall

/-- A new row of the journal: the next one, under the routing of its conversation. -/
def IsInserted (around : Surroundings π) (journal : RemoteEventJournal) (call : DeliveryCall)
    (row : RemoteEventRow) : Prop :=
  ∃ source, call = .insert source ∧ ∃ status, (status = .Pending ∨ status = .Suppressed)
    ∧ row = source.row journal.next_sequence (journal.head.map (·.notification_id)) status
    ∧ row.Readable around

/-- An insertion changes nothing, or appends a row between two prunings. -/
theorem DeliveryCall.run_insert_cases (source : RemoteEventSource) :
    let journal' := (run around journal (.insert source)).2
    journal' = journal ∨ ∃ (pruned appended : RemoteEventJournal) (row : RemoteEventRow)
        (terminal terminal' : List RemoteEventRecord),
      journal.Pruned pruned terminal ∧ appended.Pruned journal' terminal'
        ∧ appended.events.rows = pruned.events.rows ++ [row]
        ∧ appended.next_sequence = journal.next_sequence + 1
        ∧ IsInserted around journal (.insert source) row := by
  intro journal'
  rcases transaction_result with ⟨_, hrun⟩ | ⟨answer, after, h, hrun⟩
  · exact .inl (congrArg Prod.snd hrun)
  · have hafter : journal' = after := congrArg Prod.snd hrun
    rw [hafter]
    obtain ⟨conversation, hconv, hrequire⟩ := some_or_ok.1 h
    obtain ⟨hrouting, hins⟩ := require_ok.1 hrequire
    obtain ⟨inserted, hinserted, h⟩ := bind_ok.1 hins
    cases h
    have hread : ∀ {pruned appended : RemoteEventJournal} {status : RemoteEventStatus},
        status = .Pending ∨ status = .Suppressed → pruned.Appended source status appended →
        ∀ sequence previous, (source.row sequence previous status).Readable around := by
      intro pruned appended status hstatus happ sequence previous
      refine ⟨⟨conversation, hconv, hrouting⟩, happ.relay_cursor, ?_⟩
      rcases hstatus with rfl | rfl <;> rfl
    rcases insert_remote_event_eq_ok hinserted with ⟨-, hsame⟩ | ⟨terminal, pruned, _, -, hpruned,
      -, -, ⟨-, -, happ⟩ | ⟨-, appended, terminal', happ, hpruned'⟩⟩
    · exact .inl hsame
    · right
      refine ⟨pruned, after, _, terminal, [], hpruned, .refl _, happ.rows, ?_, source, rfl,
        .Pending, .inl rfl, ?_, hread (.inl rfl) happ _ _⟩
      · rw [happ.next_sequence, hpruned.next_sequence]
      · rw [hpruned.next_sequence, hpruned.head]
    · right
      refine ⟨pruned, appended, _, terminal, terminal', hpruned, hpruned', happ.rows, ?_,
        source, rfl, .Suppressed, .inr rfl, ?_, hread (.inr rfl) happ _ _⟩
      · rw [happ.next_sequence, hpruned.next_sequence]
      · rw [hpruned.next_sequence, hpruned.head]

/-- A row after a call is a row before it that was delivered on, or it was inserted. -/
theorem DeliveryCall.backward (call : DeliveryCall) {row' : RemoteEventRow}
    (hrow' : row' ∈ (call.run around journal).2.events.rows) :
    (∃ row ∈ journal.events.rows, row'.event = row.event ∧ Delivers journal call row row')
    ∨ (IsInserted around journal call row'
      ∧ journal.next_sequence < (call.run around journal).2.next_sequence) := by
  by_cases hins : ∃ source, call = .insert source
  · obtain ⟨source, rfl⟩ := hins
    rcases run_insert_cases source with hsame | ⟨pruned, appended, row,
      terminal, terminal', hpruned, hpruned', hrows, hnext, hinserted⟩
    · rw [hsame] at hrow'
      exact .inl ⟨row', hrow', rfl, .kept⟩
    · have hmem := (hpruned'.mem.1 hrow').1
      rw [hrows, mem_append, mem_singleton] at hmem
      rcases hmem with hmem | rfl
      · exact .inl ⟨row', (hpruned.mem.1 hmem).1, rfl, .kept⟩
      · refine .inr ⟨hinserted, ?_⟩
        rw [hpruned'.next_sequence, hnext]
        exact Nat.lt_succ_self _
  · obtain ⟨moved, terminal, hmoves, hpruned⟩ :=
      call.run_cases around journal fun source heq => hins ⟨source, heq⟩
    obtain ⟨row, hrow, hev, hdel⟩ := hmoves.backward (hpruned.mem.1 hrow').1
    exact .inl ⟨row, hrow, hev, hdel⟩

/-- A row before a call is delivered on, or it was terminal, or the call acknowledged it. -/
theorem DeliveryCall.forward (call : DeliveryCall) {row : RemoteEventRow}
    (hrow : row ∈ journal.events.rows) : (∃ row' ∈ (call.run around journal).2.events.rows,
        row'.event = row.event ∧ Delivers journal call row row')
    ∨ row.Terminal ∨ Acknowledges journal call row := by
  by_cases hins : ∃ source, call = .insert source
  · obtain ⟨source, rfl⟩ := hins
    rcases run_insert_cases source with hsame | ⟨pruned, appended, _,
      terminal, terminal', hpruned, hpruned', hrows, -, -⟩
    · exact .inl ⟨row, by rw [hsame]; exact hrow, rfl, .kept⟩
    · rcases hpruned.kept hrow with hkept | hterm
      · have happ : row ∈ appended.events.rows := by
          rw [hrows]
          exact mem_append_left _ hkept
        rcases hpruned'.kept happ with hkept' | hterm
        · exact .inl ⟨row, hkept', rfl, .kept⟩
        · exact .inr (.inl hterm)
      · exact .inr (.inl hterm)
  · obtain ⟨moved, terminal, hmoves, hpruned⟩ :=
      call.run_cases around journal fun source heq => hins ⟨source, heq⟩
    obtain ⟨row', hrow', hev, hdel⟩ := hmoves.forward hrow
    rcases hpruned.kept hrow' with hkept | hterm'
    · exact .inl ⟨row', hkept, hev, hdel⟩
    · -- pruned in the call that made it terminal
      rcases row.open_or_terminal with hopen | hterm
      · rcases hdel.open_or_acknowledges hopen with hopen' | hack
        · exact absurd hterm' (RemoteEventRow.not_terminal_of_open hopen')
        · exact .inr (.inr hack)
      · exact .inr (.inl hterm)

theorem DeliveryCall.next_sequence_le (call : DeliveryCall) :
    journal.next_sequence ≤ (call.run around journal).2.next_sequence := by
  by_cases hins : ∃ source, call = .insert source
  · obtain ⟨source, rfl⟩ := hins
    rcases run_insert_cases source with hsame | ⟨_, _, _, _, _, -, hpruned', -, hnext, -⟩
    · exact Nat.le_of_eq (congrArg _ hsame.symm)
    · rw [hpruned'.next_sequence, hnext]
      exact Nat.le_succ _
  · obtain ⟨moved, terminal, hmoves, hpruned⟩ :=
      call.run_cases around journal fun source heq => hins ⟨source, heq⟩
    rw [hpruned.next_sequence, hmoves.next_sequence]

/-! ## Runs

Soundness and the moves of every row, carried along a run. -/

variable {store later : DeliveryStore π} {events : List (DeliveryEvent π)}

namespace DeliveryStore

/-- Every stored event can be opened, and its number was given out. -/
structure Sound (store : DeliveryStore π) : Prop where
  readable : ∀ row ∈ store.journal.events.rows, row.Readable store.around
  numbered : ∀ row ∈ store.journal.events.rows, row.event.sequence < store.journal.next_sequence

theorem Sound.step {event : DeliveryEvent π} (h : store.Sound)
    (hpermits : store.Permits event) : (store.step event).Sound := by
  cases event with
  | tables around =>
    refine ⟨fun row hrow => ?_, h.numbered⟩
    obtain ⟨⟨conversation, hconv, hrouting⟩, hcur, henc⟩ := h.readable row hrow
    obtain ⟨conv', hconv', hsame⟩ := hpermits _ _ hconv
    exact ⟨⟨conv', hconv', hrouting.trans hsame.symm⟩, hcur, henc⟩
  | call call =>
    constructor
    · intro row' hrow'
      rcases call.backward hrow' with ⟨row, hrow, hev, hdel⟩ | ⟨hins, -⟩
      · obtain ⟨hconv, hcur, henc⟩ := h.readable row hrow
        rw [← hev] at hconv hcur
        exact ⟨hconv, hcur, hdel.encodable henc⟩
      · obtain ⟨_, -, _, -, -, hread⟩ := hins
        exact hread
    · intro row' hrow'
      rcases call.backward hrow' with ⟨row, hrow, hev, -⟩ | ⟨hins, hlt⟩
      · rw [hev]
        exact Nat.lt_of_lt_of_le (h.numbered row hrow) call.next_sequence_le
      · obtain ⟨_, -, _, -, rfl, -⟩ := hins
        exact hlt

theorem Run.sound (hrun : store.Run events later) (h : store.Sound) : later.Sound := by
  induction hrun with
  | nil => exact h
  | snoc _ hpermits ih => exact ih.step hpermits

theorem Reachable.sound (h : store.Reachable) : store.Sound := by
  obtain ⟨around, events, h⟩ := h
  exact h.sound ⟨fun _ hrow => absurd hrow not_mem_nil, fun _ hrow => absurd hrow not_mem_nil⟩

/-- A relation between the states of an event that every delivery step stays in holds along
a run: the number of an event is never given out again. -/
theorem Run.follows (hrefl : ∀ row, R row row)
    (hstep : ∀ {journal call x y z}, R x y → Delivers journal call y z → R x z)
    (hrun : store.Run events later) : (∀ row' ∈ later.journal.events.rows,
      (∃ row ∈ store.journal.events.rows, row'.event = row.event ∧ R row row')
        ∨ store.journal.next_sequence ≤ row'.event.sequence)
    ∧ store.journal.next_sequence ≤ later.journal.next_sequence := by
  induction hrun with
  | nil => exact ⟨fun row hrow => .inl ⟨row, hrow, rfl, hrefl row⟩, Nat.le_refl _⟩
  | @snoc events later event _ _ ih =>
    cases event with
    | tables around => exact ih
    | call call =>
      refine ⟨fun row'' hrow'' => ?_, Nat.le_trans ih.2 call.next_sequence_le⟩
      rcases call.backward hrow'' with ⟨row', hrow', hev', hdel⟩ | ⟨hins, -⟩
      · rcases ih.1 row' hrow' with ⟨row, hrow, hev, hrelated⟩ | hfresh
        · exact .inl ⟨row, hrow, hev'.trans hev, hstep hrelated hdel⟩
        · exact .inr (hev' ▸ hfresh)
      · obtain ⟨_, -, _, -, rfl, -⟩ := hins
        exact .inr ih.2

/-- The same for one event, seen at both ends of the run. -/
theorem Run.related (hrefl : ∀ row, R row row)
    (hstep : ∀ {journal call x y z}, R x y → Delivers journal call y z → R x z)
    (hrun : store.Run events later) (h : store.Sound) {row row' : RemoteEventRow}
    (hrow : row ∈ store.journal.events.rows) (hrow' : row' ∈ later.journal.events.rows)
    (hev : row'.event = row.event) : R row row' := by
  rcases (hrun.follows hrefl hstep).1 row' hrow' with ⟨other, hother, hsame, hrelated⟩ | hfresh
  · have heq : other = row :=
      store.journal.events.eq_of_key_eq hother hrow (congrArg _ (hsame.symm.trans hev))
    exact heq ▸ hrelated
  · have hlt := h.numbered row hrow
    rw [hev] at hfresh
    exact absurd hlt (Nat.not_lt.2 hfresh)

end DeliveryStore

theorem DeliveryCall.delivers (call : DeliveryCall) (h : store.Sound) {row row' : RemoteEventRow}
    (hrow : row ∈ store.journal.events.rows)
    (hrow' : row' ∈ (store.step (.call call)).journal.events.rows)
    (hev : row'.event = row.event) : Delivers store.journal call row row' := by
  rcases call.backward hrow' with ⟨other, hother, hsame, hdel⟩ | ⟨hins, -⟩
  · have heq : other = row :=
      store.journal.events.eq_of_key_eq hother hrow (congrArg _ (hsame.symm.trans hev))
    exact heq ▸ hdel
  · obtain ⟨_, -, _, -, rfl, -⟩ := hins
    have hlt := h.numbered row hrow
    rw [← hev] at hlt
    exact absurd hlt (Nat.lt_irrefl _)

/-- Some call of the run acknowledged the event, under its claim at that point. -/
def DeliveryStore.AcknowledgedIn (store : DeliveryStore π) (events : List (DeliveryEvent π))
    (event : RemoteEventRecord) : Prop :=
  ∃ before call after between, events = before ++ DeliveryEvent.call call :: after
    ∧ store.Run before between ∧ ∃ row ∈ between.journal.events.rows, row.event = event
      ∧ Acknowledges between.journal call row

/-- An event that is pending or claimed stays so until it is acknowledged. -/
theorem DeliveryStore.Run.open_until_acknowledged (hrun : store.Run events later)
    {row : RemoteEventRow} (hrow : row ∈ store.journal.events.rows) (hopen : row.Open) :
    (∃ row' ∈ later.journal.events.rows, row'.event = row.event ∧ row'.Open)
    ∨ store.AcknowledgedIn events row.event := by
  induction hrun with
  | nil => exact .inl ⟨row, hrow, rfl, hopen⟩
  | @snoc events later event hrun _ ih =>
    rcases ih with ⟨row', hrow', hev, hopen'⟩ | ⟨before, call, after, between, rfl, hbefore⟩
    · cases event with
      | tables around => exact .inl ⟨row', hrow', hev, hopen'⟩
      | call call =>
        have hacknowledged : Acknowledges later.journal call row' →
            store.AcknowledgedIn (events ++ [.call call]) row.event :=
          fun h => ⟨events, call, [], later, rfl, hrun, row', hrow', hev, h⟩
        rcases call.forward hrow' with ⟨row'', hrow'', hev', hdel⟩ | hterm | hack
        · rcases hdel.open_or_acknowledges hopen' with hopen'' | hack
          · exact .inl ⟨row'', hrow'', hev'.trans hev, hopen''⟩
          · exact .inr (hacknowledged hack)
        · exact absurd hterm (RemoteEventRow.not_terminal_of_open hopen')
        · exact .inr (hacknowledged hack)
    · refine .inr ⟨before, call, after ++ [event], between, ?_, hbefore⟩
      rw [append_assoc, cons_append]

/-! ## One call on a sound store

A stale claim ends nothing, and an acknowledgment can be made again. -/

theorem insert_starts_pending {source : RemoteEventSource} {conversation : DeliveryConversation}
    (hconv : around.conversation source.conversation_id = some conversation)
    (henabled : conversation.adapter_delivery_policy = some true)
    (hsender : source.sender ≠ source.self_device_id)
    (hrun : (run around journal (.insert source)).1 = .ok ()) :
    ∃ row ∈ (run around journal (.insert source)).2.events.rows,
    row.event.notification_id = source.notification_id ∧ row.state = unclaimed .Pending 0 := by
  rcases transaction_result with ⟨e, herror⟩ | ⟨answer, after, h, hcommit⟩
  · rw [show (run around journal (.insert source)).1 = .error e from
      congrArg Prod.fst herror] at hrun
    cases hrun
  · rw [show (run around journal (.insert source)).2 = after from congrArg Prod.snd hcommit]
    obtain ⟨_, -, hrequire⟩ := some_or_ok.1 h
    obtain ⟨-, hins⟩ := require_ok.1 hrequire
    obtain ⟨inserted, hinserted, h⟩ := bind_ok.1 hins
    cases h
    rcases insert_remote_event_eq_ok hinserted with ⟨hself, -⟩ | ⟨_, pruned, enabled, -, -, -,
      hpolicy, ⟨-, -, happ⟩ | ⟨hfalse, -⟩⟩
    · exact absurd hself hsender
    · refine ⟨source.row pruned.next_sequence (pruned.head.map (·.notification_id)) .Pending, ?_,
        rfl, rfl⟩
      rw [happ.rows]
      exact mem_append_right _ (mem_singleton.2 rfl)
    · -- the policy of this conversation is the enabled one
      rw [hfalse, adapter_delivery_enabled_in, some_or_bind hconv] at hpolicy
      simp only [henabled] at hpolicy
      obtain ⟨-, hpolicy⟩ := require_ok.1 hpolicy
      cases hpolicy

/-- A claimed number is loaded with the event it has and what that stands for. -/
theorem load_claimed_eq_ok {sequence generation : ℕ} {delivery : ClaimedRemoteEvent π}
    (h : (do
      let (event, payload) ← load_remote_event_by_sequence around journal sequence
      pure (⟨event, payload, generation⟩ : ClaimedRemoteEvent π)) = .ok delivery) :
    around.payload delivery.event = .ok delivery.payload ∧ delivery.lease_generation = generation
    ∧ ∃ row, journal.events.get? sequence = some row ∧ row.event = delivery.event := by
  obtain ⟨⟨event, payload⟩, hload, h⟩ := bind_ok.1 h
  cases h
  obtain ⟨row, hrow, h⟩ := bind_ok.1 hload
  obtain ⟨_, hpayload, h⟩ := bind_ok.1 h
  cases h
  exact ⟨hpayload, rfl, row, (load_remote_event_record_eq_ok.1 hrow).1, rfl⟩

/-- What a claim returns: a batch within its bounds, of current claims under the next
generations. -/
theorem claim_remote_events_eq_ok {claimed : List (ClaimedRemoteEvent π)}
    (h : claim_remote_events around journal consumer_id lease_id now expires_at limit
      = (.ok claimed, journal')) : (claimed.length ≤ MAX_REMOTE_EVENT_BATCH
      ∧ (claimed.map fun delivery => around.event_length delivery.event).sum
        ≤ MAX_REMOTE_EVENT_BATCH_BYTES) ∧ ∀ delivery ∈ claimed,
    around.payload delivery.event = .ok delivery.payload
    ∧ ∃ row ∈ journal.events.rows, ∃ row' ∈ journal'.events.rows, row.event = delivery.event
    ∧ row'.event = delivery.event ∧ delivery.lease_generation = row.state.lease_generation + 1
    ∧ is_current_claim row'.state consumer_id lease_id delivery.lease_generation now := by
  rw [claim_remote_events] at h
  rcases claim_transaction_cases now expires_at limit with
    ⟨_, hrun⟩ | ⟨selected, reclaimed, after, hrun, hunclaims, hclaims, hwin,
      ⟨rows, hrows, hlen, hsequences, hbytes⟩, hselected⟩
  · rw [hrun] at h
    cases congrArg Prod.fst h
  rw [hrun] at h
  obtain rfl : after = journal' := congrArg Prod.snd h
  have hloaded : List.Forall₂ (fun (x : ℕ × ℕ) delivery => around.payload delivery.event
      = .ok delivery.payload ∧ delivery.lease_generation = x.2
      ∧ ∃ row, after.events.get? x.1 = some row ∧ row.event = delivery.event) selected claimed :=
    (mapM_eq_ok.1 (congrArg Prod.fst h)).imp fun (_, _) _ => load_claimed_eq_ok
  have hcount : claimed.length = rows.length := by
    rw [← hloaded.length_eq, ← length_map Prod.fst, hsequences, length_map]
  -- the length of an event is found under its number
  have hlengths : (claimed.map fun delivery => around.event_length delivery.event)
      = rows.map fun row => around.event_length row.event := by
    let measured := fun sequence => (after.events.get? sequence).elim 0 fun row =>
      around.event_length row.event
    have hclaimed : selected.map (measured ∘ Prod.fst)
        = claimed.map fun delivery => around.event_length delivery.event := by
      refine forall₂_eq_eq_eq ▸ forall₂_map_left_iff.2 (forall₂_map_right_iff.2
        (hloaded.imp fun x delivery hload => ?_))
      obtain ⟨-, -, row, hrow, hsame⟩ := hload
      simp only [measured, Function.comp_apply, hrow, Option.elim_some, hsame]
    rw [← hclaimed, ← map_map, hsequences, map_map]
    refine map_congr_left fun row hrow => ?_
    obtain ⟨row', hrow', hsame, -⟩ := hclaims.forward (hrows hrow)
    have hget := after.events.get?_of_mem hrow'
    rw [show row'.event = row.event from hsame] at hget
    simp only [measured, Function.comp_apply, hget, Option.elim_some, hsame]
  refine ⟨⟨hcount ▸ hlen, hlengths ▸ hbytes⟩, fun delivery hdelivery => ?_⟩
  obtain ⟨⟨sequence, generation⟩, hmem, hpayload, rfl, loaded, hrow, hsame⟩ :=
    exists_left_of_forall₂ hloaded hdelivery
  obtain ⟨hloaded, hkey⟩ := Table.get?_iff.1 hrow
  obtain ⟨middle, hmiddle, hnumber, hgen, hclaimed⟩ := hselected _ hmem
  -- the record loaded after the transaction is the one it claimed
  obtain rfl := after.events.eq_of_key_eq hloaded hclaimed (hkey.trans hnumber.symm)
  obtain ⟨row, hrow, hev, hunclaim⟩ := hunclaims.backward hmiddle
  have hkept : middle.state.lease_generation = row.state.lease_generation := by
    rcases hunclaim with heq | ⟨-, heq⟩
    · rw [heq]
    · rw [heq, unclaimed]
  exact ⟨hpayload, row, hrow, _, hclaimed, hev.symm.trans hsame, hsame, hkept ▸ hgen.symm, rfl, rfl,
    rfl, rfl, expires_at, rfl, hwin⟩

theorem Delivers.new_claim {call : DeliveryCall} {row row' : RemoteEventRow}
    (h : Delivers journal call row row') (hclaimed : row'.state.status = .Claimed) :
    (row.state.status = .Claimed ∧ row'.state.consumer_id = row.state.consumer_id
        ∧ row'.state.lease_id = row.state.lease_id
        ∧ row'.state.lease_generation = row.state.lease_generation)
    ∨ row'.state.lease_generation = row.state.lease_generation + 1 := by
  cases h with
  | kept => exact .inl ⟨hclaimed, rfl, rfl, rfl⟩
  | ended => cases hclaimed
  | renewed _ hclaimed => exact .inl ⟨hclaimed, rfl, rfl, rfl⟩
  | claimed => exact .inr rfl
  | acknowledged => cases hclaimed

/-- Ending a claim under another generation than the event's changes nothing. -/
theorem finish_stale {row : RemoteEventRow} (hrow : row ∈ journal.events.rows) {generation : ℕ}
    (hgen : generation ≠ row.state.lease_generation) (target : RemoteEventStatus) :
    (finish_remote_event_claim around journal row.event.notification_id consumer_id lease_id
      generation now target).2 = journal := by
  rcases finish_remote_event_claim_cases row.event.notification_id generation now target with
    hsame | ⟨other, hother, hname, hclaim, -⟩
  · exact hsame
  · have heq := inj_on_of_nodup_map journal.notifications hother hrow hname
    obtain ⟨-, -, -, hnamed, -⟩ := hclaim
    exact absurd (heq ▸ hnamed).symm hgen

theorem acknowledge_again {row : RemoteEventRow} (hrow : row ∈ journal.events.rows)
    (hread : row.Readable around) (hstatus : row.state.status = .Acknowledged)
    (consumer_id : AdapterConsumerId) (lease_id : AdapterLeaseId) (generation now : ℕ) :
    acknowledge_remote_event around journal row.event.notification_id consumer_id lease_id
    generation now = (.ok (), journal) := by
  have hload : load_remote_event_record around journal row.event.sequence = .ok row :=
    load_remote_event_record_eq_ok.2 ⟨Table.get?_iff.2 ⟨hrow, rfl⟩, hread⟩
  rw [acknowledge_remote_event, finish_remote_event_claim,
    some_or_bind (find_notification.2 ⟨hrow, rfl⟩), hload, ok_bind, if_pos ⟨hstatus, rfl⟩]
  rfl

/-! ## The guarantee

What a consumer can rely on, in one statement about every reachable store. -/

/-- What holds of the journal from here on. -/
structure DeliveryStore.Fenced (store : DeliveryStore π) : Prop where
  /-- An event of a conversation with delivery enabled starts pending. -/
  inserted : ∀ source conversation,
    store.around.conversation source.conversation_id = some conversation →
    conversation.adapter_delivery_policy = some true → source.sender ≠ source.self_device_id →
    (run store.around store.journal (.insert source)).1 = .ok () →
    ∃ row ∈ (store.step (.call (.insert source))).journal.events.rows,
      row.event.notification_id = source.notification_id ∧ row.state = unclaimed .Pending 0
  /-- A pending or claimed event stays pending or claimed until it is acknowledged. -/
  at_least_once : ∀ events later, store.Run events later → ∀ row ∈ store.journal.events.rows,
    row.Open → (∃ row' ∈ later.journal.events.rows, row'.event = row.event ∧ row'.Open)
      ∨ store.AcknowledgedIn events row.event
  /-- An event is acknowledged only under its current claim and the live lease. -/
  acknowledged : ∀ event, store.Permits event →
    ∀ row' ∈ (store.step event).journal.events.rows, row'.state.status = .Acknowledged →
      row' ∈ store.journal.events.rows
      ∨ ∃ call, event = .call call ∧ ∃ row ∈ store.journal.events.rows, row.event = row'.event
        ∧ Acknowledges store.journal call row
  /-- An event has at most one claim. -/
  one_claim : ∀ row ∈ store.journal.events.rows, ∀ row' ∈ store.journal.events.rows,
    row.event.notification_id = row'.event.notification_id →
    ∀ {consumer_id consumer_id' lease_id lease_id' generation generation' now now'},
      is_current_claim row.state consumer_id lease_id generation now →
      is_current_claim row'.state consumer_id' lease_id' generation' now' →
      consumer_id = consumer_id' ∧ lease_id = lease_id' ∧ generation = generation'
  /-- What a claim returns is claimed under the generation after the one before. -/
  claimed : ∀ consumer_id lease_id now expires_at limit claimed journal',
    claim_remote_events store.around store.journal consumer_id lease_id now expires_at limit
      = (.ok claimed, journal') →
    ∀ delivery ∈ claimed, ∃ row ∈ store.journal.events.rows, ∃ row' ∈ journal'.events.rows,
      row.event = delivery.event ∧ row'.event = delivery.event
        ∧ delivery.lease_generation = row.state.lease_generation + 1
        ∧ is_current_claim row'.state consumer_id lease_id delivery.lease_generation now
  /-- Any new claim of an event, returned or not, has the next generation. -/
  new_claim : ∀ event, store.Permits event →
    ∀ row ∈ store.journal.events.rows, ∀ row' ∈ (store.step event).journal.events.rows,
      row'.event = row.event → row'.state.status = .Claimed →
      (row.state.status = .Claimed ∧ row'.state.consumer_id = row.state.consumer_id
        ∧ row'.state.lease_id = row.state.lease_id
        ∧ row'.state.lease_generation = row.state.lease_generation)
      ∨ row'.state.lease_generation = row.state.lease_generation + 1
  /-- The generation of an event never goes back. -/
  generation : ∀ events later, store.Run events later → ∀ row ∈ store.journal.events.rows,
    ∀ row' ∈ later.journal.events.rows, row'.event = row.event →
      row.state.lease_generation ≤ row'.state.lease_generation
  /-- A call that names another generation than the event's changes nothing. -/
  stale : ∀ row ∈ store.journal.events.rows, ∀ consumer_id lease_id generation now,
    generation ≠ row.state.lease_generation →
    (acknowledge_remote_event store.around store.journal row.event.notification_id consumer_id
        lease_id generation now).2 = store.journal
      ∧ (release_remote_event store.around store.journal row.event.notification_id consumer_id
        lease_id generation now).2 = store.journal
  /-- Acknowledged and suppressed are final. -/
  final : ∀ events later, store.Run events later → ∀ row ∈ store.journal.events.rows,
    row.Terminal → ∀ row' ∈ later.journal.events.rows, row'.event = row.event → row' = row
  /-- Acknowledging an acknowledged event again succeeds and changes nothing. -/
  repeated : ∀ row ∈ store.journal.events.rows, row.state.status = .Acknowledged →
    ∀ consumer_id lease_id generation now,
      acknowledge_remote_event store.around store.journal row.event.notification_id consumer_id
        lease_id generation now = (.ok (), store.journal)

/-- Adapter delivery is at least once and fenced, from every reachable store. -/
theorem adapter_delivery_fenced (store : DeliveryStore π) (h : store.Reachable) : store.Fenced where
  inserted _ _ hconv henabled hsender hrun := insert_starts_pending hconv henabled hsender hrun
  at_least_once _ _ hrun _ hrow hopen := hrun.open_until_acknowledged hrow hopen
  acknowledged event _ row' hrow' hstatus := by
    cases event with
    | tables around => exact .inl hrow'
    | call call =>
      rcases call.backward hrow' with ⟨row, hrow, hevent, hdelivers⟩ | ⟨hinserted, -⟩
      · rcases hdelivers.acknowledges hstatus with heq | hacknowledges
        · exact .inl (heq ▸ hrow)
        · exact .inr ⟨call, rfl, row, hrow, hevent.symm, hacknowledges⟩
      · -- an inserted event is pending or suppressed
        obtain ⟨_, -, status, hnew, rfl, -⟩ := hinserted
        rcases hnew with rfl | rfl <;> cases hstatus
  one_claim row hrow row' hrow' hname := by
    intro _ _ _ _ _ _ _ _ hclaim hclaim'
    have heq : row = row' := inj_on_of_nodup_map store.journal.notifications hrow hrow' hname
    obtain ⟨-, hconsumer, hlease, hgeneration, -⟩ := hclaim
    obtain ⟨-, hconsumer', hlease', hgeneration', -⟩ := hclaim'
    rw [heq] at hconsumer hlease hgeneration
    exact ⟨Option.some.inj (hconsumer.symm.trans hconsumer'),
      Option.some.inj (hlease.symm.trans hlease'), hgeneration.symm.trans hgeneration'⟩
  claimed _ _ _ _ _ _ _ hclaim _ hdelivery := ((claim_remote_events_eq_ok hclaim).2 _ hdelivery).2
  new_claim event _ row hrow row' hrow' hevent hclaimed := by
    cases event with
    | tables around =>
      have heq : row' = row := store.journal.events.eq_of_key_eq hrow' hrow (congrArg _ hevent)
      rw [heq] at hclaimed ⊢
      exact .inl ⟨hclaimed, rfl, rfl, rfl⟩
    | call call => exact (call.delivers h.sound hrow hrow' hevent).new_claim hclaimed
  generation _ _ hrun _ hrow _ hrow' hevent :=
    hrun.related (R := fun row row' => row.state.lease_generation ≤ row'.state.lease_generation)
      (fun _ => Nat.le_refl _) (fun hle hdelivers => Nat.le_trans hle hdelivers.generation_le)
      h.sound hrow hrow' hevent
  stale _ hrow _ _ _ _ hgeneration :=
    ⟨finish_stale hrow hgeneration _, finish_stale hrow hgeneration _⟩
  final _ _ hrun _ hrow hterminal _ hrow' hevent :=
    hrun.related (R := fun row row' => row.Terminal → row' = row) (fun _ _ => rfl)
      (fun heq hdelivers hterminal => by
        have hsame := heq hterminal
        rw [hsame] at hdelivers
        exact hdelivers.eq_of_terminal hterminal) h.sound hrow hrow' hevent hterminal
  repeated row hrow hstatus := acknowledge_again hrow (h.sound.readable row hrow) hstatus

/-! ## A delivery -/

def DeliveryStore.play (store : DeliveryStore π) (calls : List DeliveryCall) : DeliveryStore π :=
  calls.foldl (fun store call => store.step (.call call)) store

theorem DeliveryStore.Reachable.play (h : store.Reachable) (calls : List DeliveryCall) :
    (store.play calls).Reachable := by
  induction calls generalizing store with
  | nil => exact h
  | cons call calls ih =>
    obtain ⟨around, events, h⟩ := h
    have hpermits : store.Permits (.call call) := trivial
    exact ih ⟨around, _, h.snoc hpermits⟩

namespace Delivery

def conversation : DeliveryConversation := ⟨.repeated 32 1, .repeated 32 2, some true⟩

/-- One conversation with delivery enabled, whose records have forty bytes. -/
def tables : Surroundings Unit where
  conversation id := if id = conversation.conversation_id then some conversation else none
  delivery_length _ _ _ := some 40
  payload _ := .ok ()

def source : RemoteEventSource :=
  ⟨conversation.conversation_id, conversation.routing_id, 1, .repeated 16 3, .ApplicationMessage,
    .repeated 32 4, .repeated 32 5, .repeated 16 6⟩

def consumer : AdapterConsumerId := .repeated 16 7
def lease : AdapterLeaseId := .repeated 16 8

/-- The first claim expires, the second is acknowledged. -/
def calls : List DeliveryCall :=
  [.insert source, .acquire consumer lease 1000 2000, .claim consumer lease 1000 1500 10,
    .claim consumer lease 1600 2600 10, .acknowledge source.notification_id consumer lease 2 1700]

def start : DeliveryStore Unit := ⟨tables, .empty⟩

theorem reachable : start.Reachable := ⟨tables, [], .nil⟩

end Delivery

open Delivery

theorem adapter_delivery_fenced_redelivery : (start.play calls).Fenced
    ∧ (start.play calls).journal.events.rows.map (·.state) = [unclaimed .Acknowledged 2] :=
  ⟨adapter_delivery_fenced _ (reachable.play _), by decide +kernel⟩

/-- An acknowledged or suppressed event is in no batch that is claimed later. -/
theorem finished_event_not_claimed (h : store.Reachable) {events : List (DeliveryEvent π)}
    (hrun : store.Run events later) {row : RemoteEventRow}
    (hrow : row ∈ store.journal.events.rows) (hterminal : row.Terminal)
    {consumer_id : AdapterConsumerId} {lease_id : AdapterLeaseId} {now expires_at limit : ℕ}
    {claimed : List (ClaimedRemoteEvent π)} {journal : RemoteEventJournal}
    (hclaim : claim_remote_events later.around later.journal consumer_id lease_id now expires_at
      limit = (.ok claimed, journal)) :
    ∀ delivery ∈ claimed, delivery.event ≠ row.event := by
  intro delivery hdelivery heq
  obtain ⟨-, _, -, row', hrow', -, hevent, -, hcurrent⟩ :=
    (claim_remote_events_eq_ok hclaim).2 delivery hdelivery
  -- the claim is one more step of the run, and a finished row is unchanged by every step
  have hpermits : later.Permits (.call (.claim consumer_id lease_id now expires_at limit)) :=
    trivial
  have hstep : row' ∈ (later.step (.call (.claim consumer_id lease_id now expires_at
      limit))).journal.events.rows := by
    show row' ∈ (claim_remote_events _ _ _ _ _ _ _).2.events.rows
    rwa [hclaim]
  have hsame := (hrun.snoc hpermits).related
    (R := fun row row' => row.Terminal → row' = row) (fun _ _ => rfl)
    (fun heq hdelivers hterminal => by
      have hsame := heq hterminal
      rw [hsame] at hdelivers
      exact hdelivers.eq_of_terminal hterminal) h.sound hrow hstep (hevent.trans heq) hterminal
  rw [hsame] at hcurrent
  rcases hterminal with hstatus | hstatus <;> cases hstatus.symm.trans hcurrent.1

/-- The acknowledged event is not in the batch of a claim under the same lease. -/
theorem finished_event_not_claimed_again : ∃ row ∈ (start.play calls).journal.events.rows,
    row.Terminal ∧ ∃ claimed journal, claim_remote_events (start.play calls).around
      (start.play calls).journal consumer lease 1800 1900 10 = (.ok claimed, journal)
    ∧ ∀ delivery ∈ claimed, delivery.event ≠ row.event := by
  have hrow : ∃ row ∈ (start.play calls).journal.events.rows,
      row.state.status = .Acknowledged := by decide +kernel
  have hok : (claim_remote_events (start.play calls).around (start.play calls).journal consumer
      lease 1800 1900 10).1.isOk = true := by decide +kernel
  obtain ⟨row, hrow, hstatus⟩ := hrow
  cases hclaim : (claim_remote_events (start.play calls).around (start.play calls).journal consumer
      lease 1800 1900 10).1 with
  | error e =>
    rw [hclaim] at hok
    cases hok
  | ok claimed =>
    exact ⟨row, hrow, .inl hstatus, claimed, _, Prod.ext hclaim rfl, finished_event_not_claimed
      (reachable.play calls) .nil hrow (.inl hstatus) (Prod.ext hclaim rfl)⟩

end Konclave.Daemon.RemoteEvents
