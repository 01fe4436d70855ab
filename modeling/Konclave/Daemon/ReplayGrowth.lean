/-
What the replay ledger never forgets.

Conversations keep their routing, a cursor stays bound to its envelope, and an inbox row
keeps its envelope, what was saved for it, and its completion. The events of the journal
rest on such rows, so they can be loaded for as long as they are stored.
-/
import Konclave.Daemon.ReplayChanges
import Konclave.Daemon.RemoteEventChain

set_option autoImplicit false

namespace Konclave.Daemon.Replay

open Domain Cryptographic RemoteEvents UniqueTable

variable {σ : Type} {host : Host σ} {store store' store'' : ReplayStore σ}
  {conversation_id : ConversationId}

/-! ## Growth

Rows are added and move forward. Observations are never removed, and a saved message or
transition stays saved. -/

/-- The conversation is the same one. -/
def ConversationRow.SameConversation (row row' : ConversationRow) : Prop :=
  row'.routing_id = row.routing_id ∧ row'.self_binding = row.self_binding

/-- The row keeps its envelope, its message and its completion. -/
def InboxRow.Grows (row row' : InboxRow) : Prop :=
  row'.stored = row.stored ∧ (row.state = .Received ∨ row'.state = row.state
    ∨ row'.state = row.state.complete)

/-- The row keeps its envelope, its transition and its completion. -/
def MembershipInboxRow.Grows (row row' : MembershipInboxRow) : Prop :=
  row'.stored = row.stored ∧ (row.state = .Received ∨ row'.state = row.state
    ∨ row'.state = row.state.complete)

theorem InboxRow.Grows.refl (row : InboxRow) : row.Grows row := ⟨rfl, .inr (.inl rfl)⟩

theorem MembershipInboxRow.Grows.refl (row : MembershipInboxRow) : row.Grows row :=
  ⟨rfl, .inr (.inl rfl)⟩

/-- A state that was received, kept or completed twice was so once; only a state that was
received is received once it went on. -/
theorem state_grows_trans {S : Type} {received : S} {complete : S → S}
    (hrecv : ∀ s, complete s = received → s = received)
    (hcomplete : ∀ s, complete (complete s) = complete s) {x y z : S}
    (h : x = received ∨ y = x ∨ y = complete x) (h' : y = received ∨ z = y ∨ z = complete y) :
    x = received ∨ z = x ∨ z = complete x := by
  rcases h with h | rfl | rfl
  · exact .inl h
  · exact h'
  · rcases h' with h | h | h
    · exact .inl (hrecv x h)
    · exact .inr (.inr h)
    · exact .inr (.inr (h.trans (hcomplete x)))

theorem InboxRow.Grows.trans (x y z : InboxRow) (h : x.Grows y) (h' : y.Grows z) : x.Grows z :=
  ⟨h'.1.trans h.1, state_grows_trans (fun s => by cases s <;> simp [InboxState.complete])
    (fun s => by cases s <;> rfl) h.2 h'.2⟩

theorem MembershipInboxRow.Grows.trans (x y z : MembershipInboxRow) (h : x.Grows y)
    (h' : y.Grows z) : x.Grows z :=
  ⟨h'.1.trans h.1, state_grows_trans (fun s => by cases s <;> simp [MembershipInboxState.complete])
    (fun s => by cases s <;> rfl) h.2 h'.2⟩

/-- Nothing that was recorded is taken back: rows stay, and their states go forward. -/
structure ReplayStore.Grows (store store' : ReplayStore σ) : Prop where
  conversation : store.conversation.Keeps ConversationRow.SameConversation
    store'.conversation.toTable
  cursor_observation : ∀ row ∈ store.cursor_observation.rows, row ∈ store'.cursor_observation.rows
  inbox : store.inbox.Keeps InboxRow.Grows store'.inbox.toTable
  membership_inbox : store.membership_inbox.Keeps MembershipInboxRow.Grows
    store'.membership_inbox.toTable

namespace ReplayStore.Grows

/-- The tables that are as they were. -/
theorem of_eq (hconv : store'.conversation = store.conversation)
    (hobservation : store'.cursor_observation = store.cursor_observation)
    (hinbox : store'.inbox = store.inbox)
    (hmembership : store'.membership_inbox = store.membership_inbox) : store.Grows store' := by
  refine ⟨?_, ?_, ?_, ?_⟩
  · rw [hconv]
    exact .refl (fun _ => ⟨rfl, rfl⟩) _
  · rw [hobservation]
    exact fun _ hrow => hrow
  · rw [hinbox]
    exact .refl InboxRow.Grows.refl _
  · rw [hmembership]
    exact .refl MembershipInboxRow.Grows.refl _

theorem refl (store : ReplayStore σ) : store.Grows store := of_eq rfl rfl rfl rfl

theorem of_conversation {conversation}
    (h : store.conversation.Keeps ConversationRow.SameConversation conversation.toTable) :
    store.Grows { store with conversation } :=
  ⟨h, fun _ hrow => hrow, .refl InboxRow.Grows.refl _, .refl MembershipInboxRow.Grows.refl _⟩

theorem of_inbox {inbox} (h : store.inbox.Keeps InboxRow.Grows inbox.toTable) :
    store.Grows { store with inbox } :=
  { refl store with inbox := h }

theorem of_membership_inbox {membership_inbox}
    (h : store.membership_inbox.Keeps MembershipInboxRow.Grows membership_inbox.toTable) :
    store.Grows { store with membership_inbox } :=
  { refl store with membership_inbox := h }

theorem trans (h : store.Grows store') (h' : store'.Grows store'') : store.Grows store'' where
  conversation := h.conversation.trans
    (fun _ _ _ hxy hyz => ⟨hyz.1.trans hxy.1, hyz.2.trans hxy.2⟩) h'.conversation
  cursor_observation row hrow := h'.cursor_observation row (h.cursor_observation row hrow)
  inbox := h.inbox.trans InboxRow.Grows.trans h'.inbox
  membership_inbox := h.membership_inbox.trans MembershipInboxRow.Grows.trans h'.membership_inbox

end ReplayStore.Grows

namespace ReplayStore

theorem keeps_set_conversation (store : ReplayStore σ) (set : ConversationRow → ConversationRow)
    (hkey : ∀ row, (set row).conversation_id = row.conversation_id)
    (hrouting : ∀ row, (set row).routing_id = row.routing_id)
    (hself : ∀ row, (set row).self_binding = row.self_binding) :
    store.conversation.Keeps ConversationRow.SameConversation
    (store.set_conversation conversation_id set hkey hrouting).conversation.toTable :=
  Table.keeps_update (fun _ => ⟨rfl, rfl⟩) set hkey fun row _ => ⟨hrouting row, hself row⟩

/-- Every write of a store call is growth. -/
theorem Change.grows (h : Change host store store') : store.Grows store' := by
  cases h with
  | sides h =>
    exact .of_eq h.conversation h.cursor_observation h.inbox h.membership_inbox
  | inserted _ hins =>
    exact .of_conversation (Table.keeps_insert (fun _ => ⟨rfl, rfl⟩) (insert?_toTable hins))
  | configured conversation_id set hset =>
    exact .of_conversation (store.keeps_set_conversation set (fun row => (hset row).conversation_id)
        (fun row => (hset row).routing_id) fun row => (hset row).self_binding)
  | observed _ _ hins =>
    refine { Grows.refl store with cursor_observation := fun row hrow => ?_ }
    dsimp only
    rw [(insert?_eq_some hins).2]
    exact List.mem_append_left _ hrow
  | received _ _ hins =>
    exact .of_inbox (Table.keeps_insert InboxRow.Grows.refl (insert?_toTable hins))
  | membership_received _ _ hins =>
    exact .of_membership_inbox
      (Table.keeps_insert MembershipInboxRow.Grows.refl (insert?_toTable hins))
  | saved hrow hrecv hupd =>
    refine .of_inbox (keeps_update? InboxRow.Grows.refl hupd fun found hfound => ?_)
    cases hrow.symm.trans hfound
    exact ⟨rfl, .inl hrecv⟩
  | membership_saved hrow hrecv hupd =>
    refine .of_membership_inbox
      (keeps_update? MembershipInboxRow.Grows.refl hupd fun found hfound => ?_)
    cases hrow.symm.trans hfound
    exact ⟨rfl, .inl hrecv⟩
  | @completed conversation _ stored =>
    exact
      { Grows.refl store with
        conversation := keeps_set_conversation _ (conversation.complete_application stored)
          (fun _ => rfl) (fun _ => rfl) fun _ => rfl
        inbox := Table.keeps_update InboxRow.Grows.refl
          (fun row => { row with state := row.state.complete }) (fun _ => rfl)
          fun _ _ => ⟨rfl, .inr (.inr rfl)⟩ }
  | @membership_completed conversation transition _ _ _ _ =>
    exact
      { Grows.refl store with
        conversation := keeps_set_conversation _ (conversation.complete_membership transition)
          (fun _ => rfl) (fun _ => rfl) fun _ => rfl
        membership_inbox := Table.keeps_update MembershipInboxRow.Grows.refl
          (fun row => { row with state := row.state.complete }) (fun _ => rfl)
          fun _ _ => ⟨rfl, .inr (.inr rfl)⟩ }
  | prepared _ _ | marked _ => exact .of_eq rfl rfl rfl rfl
  | @published conversation record _ head _ _ _ _ _ _ =>
    exact
      { Grows.refl store with
        conversation := keeps_set_conversation _ (conversation.publish record head)
          (fun _ => rfl) (fun _ => rfl) fun _ => rfl }

/-- So is every sequence of writes. -/
theorem Changes.grows (h : store.Changes host store') : store.Grows store' := by
  induction h with
  | refl => exact .refl store
  | tail _ hchange ih => exact ih.trans hchange.grows

end ReplayStore

end Konclave.Daemon.Replay
