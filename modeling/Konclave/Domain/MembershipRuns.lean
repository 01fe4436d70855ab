/-
`Konclave.DomainCore`: conversations over many epochs.

`apply_membership_authorization` makes the state of the next epoch from the state before.
A run applies one authorization after another; the shape of a state is kept by the
constructor, and what a run keeps besides is shown one change at a time: the list of spent
invitations grows by the one a change spends, and a device enters only by the word of an
administrator of the epoch before.
-/
import Konclave.Domain.Membership
import Mathlib.Data.List.Induction
import Mathlib.Data.List.Nodup

set_option autoImplicit false

namespace Konclave.Domain

open ConversationState

/-- One call of `apply_membership_authorization`. -/
structure MembershipCall where
  sender : DeviceId
  authorization : MembershipAuthorization
  new_epoch : ℕ
  deriving DecidableEq

def ConversationState.apply (state : ConversationState) (call : MembershipCall) :
    Except KonclaveDomainError ConversationState :=
  state.apply_membership_authorization call.sender call.authorization call.new_epoch

/-- The state after the calls, each on the state the one before it returned. -/
def ConversationState.after (initial : ConversationState) (calls : List MembershipCall) :
    Except KonclaveDomainError ConversationState :=
  calls.foldlM apply initial

/-- The invitation a change spends. -/
def MembershipChange.invitation : MembershipChange → List InvitationId
  | .Add add => [add.invitation_id]
  | .Remove _ | .ChangeRole _ => []

/-- The invitations the calls spend, in order. -/
def spent_invitations (calls : List MembershipCall) : List InvitationId :=
  calls.flatMap fun call => call.authorization.change.invitation

/-- The device entered the conversation through one of the calls, which an administrator of
the epoch before it had sent. -/
def Admitted (initial : ConversationState) (calls : List MembershipCall) (device : DeviceId) :
    Prop :=
  ∃ before call rest state add, calls = before ++ call :: rest ∧ initial.after before = .ok state
    ∧ state.Administers call.sender ∧ call.authorization.change = .Add add
    ∧ add.device_id = device

/-- What holds of the state a run of successful calls ends in. -/
structure MembershipRun (initial : ConversationState) (calls : List MembershipCall)
    (state : ConversationState) : Prop where
  administered : ∃ member ∈ state.members, member.role = .Administrator
  distinct : state.devices.Nodup
  size : 1 ≤ state.members.length ∧ state.members.length ≤ 128
  joined : ∀ member ∈ state.members, member.joined_epoch ≤ state.epoch
  epoch : state.epoch = initial.epoch + calls.length
  kept : state.version = initial.version ∧ state.conversation_id = initial.conversation_id
    ∧ state.request_service = initial.request_service
  spent : state.consumed_invitation_ids
    = initial.consumed_invitation_ids ++ spent_invitations calls
  spent_once : (initial.consumed_invitation_ids ++ spent_invitations calls).Nodup
  admitted : ∀ device ∈ state.devices, device ∈ initial.devices ∨ Admitted initial calls device
  served : ∀ channel, state.request_service = some channel → ∀ member ∈ state.members,
    (member.device_id = channel.operator_device_id ∧ member.role = .Administrator)
      ∨ (member.device_id = channel.requester_device_id ∧ member.role = .Member)
  final : ∀ call ∈ calls, ∀ sender new_epoch next,
    state.apply_membership_authorization sender call.authorization new_epoch ≠ .ok next

/-! ## One state

What the fields of a state say about its members and its service. -/

variable {member : Member} {device : DeviceId} {new_epoch : ℕ}

section

variable {state next : ConversationState}

/-- Distinct devices have one record each. -/
theorem find_member_of_mem {members : List Member} (hnodup : (members.map (·.device_id)).Nodup)
    (hmem : member ∈ members) : find_member members member.device_id = some member := by
  have hsome := find_member_isSome.2 (List.mem_map_of_mem hmem)
  obtain ⟨found, hfound⟩ := Option.isSome_iff_exists.1 hsome
  have hdevice : found.device_id = member.device_id := by simpa using List.find?_some hfound
  have heq : found = member :=
    List.inj_on_of_nodup_map hnodup (List.mem_of_find?_eq_some hfound) hmem hdevice
  rw [hfound, heq]

/-- A private channel is between its operator, who administers it, and its requester. -/
theorem ConversationState.served_by {channel : RequestServiceChannel}
    (h : state.request_service = some channel) (hmem : member ∈ state.members) :
    (member.device_id = channel.operator_device_id ∧ member.role = .Administrator)
    ∨ (member.device_id = channel.requester_device_id ∧ member.role = .Member) := by
  have hchannel := state.channel
  rw [h, validate_request_service, ite_ok] at hchannel
  have hvalid : channel.validate_membership state.conversation_id state.members = .ok () := by
    have hmatch := hchannel.2
    split at hmatch
    · assumption
    · cases hmatch
  rw [RequestServiceChannel.validate_membership, ite_ok, ite_ok, forM_eq_ok] at hvalid
  obtain ⟨-, hoperator, hmembers⟩ := hvalid
  by_cases hdevice : member.device_id = channel.operator_device_id
  · -- the operator's record is the one the check looked up
    left
    refine ⟨hdevice, ?_⟩
    rw [not_not, ← hdevice, find_member_of_mem state.members_nodup hmem] at hoperator
    simpa using hoperator
  · right
    have hmember := hmembers member hmem
    rw [if_neg hdevice, ite_ok, ite_ok] at hmember
    exact ⟨not_not.1 hmember.1, not_not.1 hmember.2.1⟩

end

/-! ## One change

A change spends its invitation and begins the next epoch. -/

section

variable {state next : ConversationState} {call : MembershipCall}

namespace ConversationState

theorem change_spends {change : MembershipChange}
    {result : List Member × List InvitationId} (h : state.change new_epoch change = .ok result) :
    result.2 = state.consumed_invitation_ids ++ change.invitation := by
  cases change with
  | Add add =>
    simp only [change, ite_ok] at h
    obtain ⟨-, -, heq⟩ := h
    cases heq
    rfl
  | Remove remove | ChangeRole role =>
    simp only [change] at h
    split at h
    · cases h
    · obtain ⟨-, heq⟩ := ite_ok.1 h
      cases heq
      exact (List.append_nil _).symm

theorem apply_spends (h : state.apply call = .ok next) : next.consumed_invitation_ids
    = state.consumed_invitation_ids ++ call.authorization.change.invitation := by
  obtain ⟨-, -, -, -, -, _, hchange, hnew⟩ := apply_eq_ok.1 h
  rw [(new_with_request_service_eq_ok hnew).2.2.2.2.1]
  exact change_spends hchange

/-- A device of the next epoch was there before, or the change is its addition. -/
theorem apply_admits (h : state.apply call = .ok next)
    (hdevice : device ∈ next.devices) : device ∈ state.devices
    ∨ ∃ add, call.authorization.change = .Add add ∧ add.device_id = device := by
  rw [apply_devices h] at hdevice
  cases hchange : call.authorization.change with
  | Add add =>
    rw [hchange, MembershipChange.devices] at hdevice
    rcases List.mem_append.1 hdevice with hbefore | hadded
    · exact .inl hbefore
    · exact .inr ⟨add, rfl, (List.mem_singleton.1 hadded).symm⟩
  | Remove remove =>
    rw [hchange] at hdevice
    exact .inl (List.mem_of_mem_erase hdevice)
  | ChangeRole role =>
    rw [hchange] at hdevice
    exact .inl hdevice

end ConversationState

end

/-! ## Runs

The facts about one change, carried along a list of changes. -/

section

variable {initial state : ConversationState} {calls : List MembershipCall}

theorem ConversationState.after_concat {call : MembershipCall} :
    initial.after (calls ++ [call]) = .ok state ↔
    ∃ before, initial.after calls = .ok before ∧ before.apply call = .ok state := by
  simp only [after, List.foldlM_append, List.foldlM_cons, List.foldlM_nil, bind_ok, bind_pure]

theorem Admitted.concat (h : Admitted initial calls device) (call : MembershipCall) :
    Admitted initial (calls ++ [call]) device := by
  obtain ⟨before, admitting, rest, state, add, rfl, hstate, hsender, hadd, hdevice⟩ := h
  exact ⟨before, admitting, rest ++ [call], state, add, by simp, hstate, hsender, hadd, hdevice⟩

namespace ConversationState

section

variable (h : initial.after calls = .ok state)
include h

/-- Every authorization of a run was for an epoch before the last. -/
theorem parent_epoch_lt : ∀ call ∈ calls, call.authorization.parent_epoch < state.epoch := by
  induction calls using List.reverseRecOn generalizing state with
  | nil => exact fun _ hcall => nomatch hcall
  | append_singleton calls last ih =>
    obtain ⟨before, hbefore, hlast⟩ := after_concat.1 h
    have hnext := (apply_fields hlast).2.2.1
    intro call hcall
    rcases List.mem_append.1 hcall with hearlier | heq
    · have hlt := ih hbefore call hearlier
      omega
    · rw [List.mem_singleton.1 heq, (apply_eq_ok.1 hlast).2.2.1]
      omega

theorem after_epoch : state.epoch = initial.epoch + calls.length := by
  induction calls using List.reverseRecOn generalizing state with
  | nil =>
    cases h
    rfl
  | append_singleton calls last ih =>
    obtain ⟨before, hbefore, hlast⟩ := after_concat.1 h
    have hnext := (apply_fields hlast).2.2.1
    have hrest := ih hbefore
    rw [List.length_append, List.length_singleton]
    omega

theorem after_kept :
    state.version = initial.version ∧ state.conversation_id = initial.conversation_id
    ∧ state.request_service = initial.request_service := by
  refine foldlM_keeps (p := fun later => later.version = initial.version
    ∧ later.conversation_id = initial.conversation_id
    ∧ later.request_service = initial.request_service) ?_ ⟨rfl, rfl, rfl⟩ h
  intro before call next hbefore hnext
  obtain ⟨hver, hconv, -, hservice⟩ := apply_fields hnext
  exact ⟨hver.trans hbefore.1, hconv.trans hbefore.2.1, hservice.trans hbefore.2.2⟩

theorem after_spent : state.consumed_invitation_ids
    = initial.consumed_invitation_ids ++ spent_invitations calls := by
  induction calls using List.reverseRecOn generalizing state with
  | nil =>
    cases h
    exact (List.append_nil _).symm
  | append_singleton calls last ih =>
    obtain ⟨before, hbefore, hlast⟩ := after_concat.1 h
    rw [apply_spends hlast, ih hbefore]
    simp [spent_invitations]

theorem after_admitted :
    ∀ device ∈ state.devices, device ∈ initial.devices ∨ Admitted initial calls device := by
  induction calls using List.reverseRecOn generalizing state with
  | nil =>
    cases h
    exact fun _ hdevice => .inl hdevice
  | append_singleton calls last ih =>
    obtain ⟨before, hbefore, hlast⟩ := after_concat.1 h
    intro device hdevice
    rcases apply_admits hlast hdevice with hold | ⟨add, hadd, heq⟩
    · exact (ih hbefore device hold).imp id fun hadmitted => hadmitted.concat last
    · have hadministers := (apply_eq_ok.1 hlast).2.2.2.2.1
      exact .inr ⟨calls, last, [], before, add, rfl, hbefore, hadministers, hadd, heq⟩

theorem after_run : MembershipRun initial calls state where
  administered := by simpa using List.any_eq_true.1 state.administrator
  distinct := state.members_nodup
  size := state.members_range
  joined member hmember := by simpa using List.find?_eq_none.1 state.joined_le member hmember
  epoch := after_epoch h
  kept := after_kept h
  spent := after_spent h
  spent_once := by
    rw [← after_spent h]
    exact state.consumed_nodup
  admitted := after_admitted h
  served _ hchannel _ hmember := served_by hchannel hmember
  final call hcall _ _ _ happly := by
    have hlt := parent_epoch_lt h call hcall
    obtain ⟨-, -, hepoch, -⟩ := apply_eq_ok.1 happly
    omega

end

end ConversationState

/-- In every run, every state on the way has the shape of a conversation, spends each
invitation once, and holds nobody an administrator did not let in. -/
theorem membership_runs_sound (initial state : ConversationState) (calls : List MembershipCall)
    (h : initial.after calls = .ok state) (k : ℕ) :
    ∃ reached, initial.after (calls.take k) = .ok reached
    ∧ MembershipRun initial (calls.take k) reached := by
  rw [← List.take_append_drop k calls, after, List.foldlM_append, bind_ok] at h
  obtain ⟨reached, hreached, -⟩ := h
  exact ⟨reached, hreached, after_run hreached⟩

end

/-- A conversation of one device. -/
def founded : ConversationState where
  version := .application_v1
  conversation_id := .repeated 32 1
  epoch := 0
  members := [⟨.repeated 32 2, .Administrator, 0⟩]
  consumed_invitation_ids := []
  request_service := none
  members_range := by decide
  consumed_le := none_consumed_le
  members_nodup := by decide
  consumed_nodup := none_consumed_nodup
  joined_le := by decide
  administrator := by decide
  channel := by decide

/-- The founder's authorization of a change in an epoch. -/
def founder_call (parent_epoch : ℕ) (change : MembershipChange) : MembershipCall :=
  ⟨.repeated 32 2, ⟨.application_v1, .repeated 32 1, parent_epoch, .repeated 16 4, change⟩,
    parent_epoch + 1⟩

def invites (invitation : UInt8) : MembershipChange :=
  .Add ⟨.repeated 32 3, .Administrator, .repeated 16 invitation, .repeated 32 5⟩

/-- A device is removed and comes back on a second invitation. -/
def readmission : List MembershipCall :=
  [founder_call 0 (invites 6), founder_call 1 (.Remove ⟨.repeated 32 3⟩),
    founder_call 2 (invites 7)]

theorem readmission_sound : ∃ state, founded.after readmission = .ok state ∧ ∀ k, ∃ reached,
    founded.after (readmission.take k) = .ok reached
    ∧ MembershipRun founded (readmission.take k) reached := by
  have hok : (founded.after readmission).isOk = true := by decide +kernel
  cases h : founded.after readmission with
  | error e =>
    rw [h] at hok
    cases hok
  | ok state => exact ⟨state, rfl, membership_runs_sound founded state readmission h⟩

end Konclave.Domain
