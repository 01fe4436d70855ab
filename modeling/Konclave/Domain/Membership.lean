/-
`Konclave.DomainCore`: conversation membership and its authorized changes.

A `ConversationState` is the membership of one epoch: who is in the conversation, with
which role, which invitations are spent, and the requester/operator contract a private
channel keeps. Its constructor's checks are fields, so that the state of a later epoch,
which `apply_membership_authorization` builds through the same constructor, carries them.
-/
import Konclave.Checked
import Konclave.Domain.Basic

set_option autoImplicit false

namespace Konclave.Domain

def MAX_MEMBERS : ℕ := 128
def MAX_CONSUMED_INVITATIONS : ℕ := 1024

/-! ## Members -/

inductive ConversationRole
  | Administrator
  | Member
  deriving DecidableEq, Repr

structure Member where
  device_id : DeviceId
  role : ConversationRole
  joined_epoch : ℕ
  deriving DecidableEq, Repr

/-- The first member record of a device. -/
def find_member (members : List Member) (device_id : DeviceId) : Option Member :=
  members.find? (fun member => member.device_id = device_id)

theorem find_member_isSome {members : List Member} {device_id : DeviceId} :
    (find_member members device_id).isSome ↔ device_id ∈ members.map (·.device_id) := by
  rw [find_member, List.find?_isSome, List.mem_map]
  simp only [decide_eq_true_eq]

/-- `RequestServiceChannel`: two distinct endpoints of one conversation. -/
structure RequestServiceChannel where
  conversation_id : ConversationId
  operator_device_id : DeviceId
  requester_device_id : DeviceId
  distinct : operator_device_id ≠ requester_device_id
  deriving DecidableEq

/-- `validate_membership` of the state with this conversation and these members. -/
def RequestServiceChannel.validate_membership (channel : RequestServiceChannel)
    (conversation_id : ConversationId) (members : List Member) : Except RequestServiceError Unit :=
  if conversation_id ≠ channel.conversation_id then .error .ConversationMismatch
  else if (find_member members channel.operator_device_id).map (·.role) ≠ some .Administrator then
    .error .InvalidOperator
  else members.forM fun member =>
    if member.device_id = channel.operator_device_id then .ok ()
    else if member.device_id ≠ channel.requester_device_id then .error .ForeignMember
    else if member.role ≠ .Member then .error .InvalidRequester
    else .ok ()

/-- The channel checks of `ConversationState::new_with_request_service`. -/
def validate_request_service (version : ProtocolVersion) (conversation_id : ConversationId)
    (members : List Member) : Option RequestServiceChannel → Except KonclaveDomainError Unit
  | none => .ok ()
  | some channel =>
    if version ≠ ProtocolVersion.application_v1 then .error .MembershipVersionMismatch
    else match channel.validate_membership conversation_id members with
      | .ok () => .ok ()
      | .error e => .error (.RequestService e)

/-! ## Conversation states

A state carries its invariants, so that every state that exists is valid. -/

theorem none_consumed_le : ([] : List InvitationId).length ≤ MAX_CONSUMED_INVITATIONS := by decide

theorem none_consumed_nodup : ([] : List InvitationId).Nodup := by decide

structure ConversationState where
  version : ProtocolVersion
  conversation_id : ConversationId
  epoch : ℕ
  members : List Member
  consumed_invitation_ids : List InvitationId
  request_service : Option RequestServiceChannel
  members_range : 1 ≤ members.length ∧ members.length ≤ MAX_MEMBERS
  consumed_le : consumed_invitation_ids.length ≤ MAX_CONSUMED_INVITATIONS
  members_nodup : (members.map (·.device_id)).Nodup
  consumed_nodup : consumed_invitation_ids.Nodup
  joined_le : members.find? (fun member => epoch < member.joined_epoch) = none
  administrator : members.any (fun member => member.role = .Administrator) = true
  channel : validate_request_service version conversation_id members request_service = .ok ()
  deriving DecidableEq

namespace ConversationState

def new_with_request_service (version : ProtocolVersion)
    (conversation_id : ConversationId) (epoch : ℕ) (members : List Member)
    (consumed_invitation_ids : List InvitationId) (request_service : Option RequestServiceChannel) :
    Except KonclaveDomainError ConversationState :=
  if hmembers : 1 ≤ members.length ∧ members.length ≤ MAX_MEMBERS then
    if hconsumed : consumed_invitation_ids.length ≤ MAX_CONSUMED_INVITATIONS then
      if hunique : (members.map (·.device_id)).Nodup then
        if hspent : consumed_invitation_ids.Nodup then
          match hjoined : members.find? (fun member => epoch < member.joined_epoch) with
          | some member => .error (.MemberJoinedAfterStateEpoch member.joined_epoch epoch)
          | none =>
            if hadmin : members.any (fun member => member.role = .Administrator) = true then
              match hchannel : validate_request_service version conversation_id members
                  request_service with
              | .ok () => .ok
                  { version, conversation_id, epoch, members, consumed_invitation_ids,
                    request_service, members_range := hmembers, consumed_le := hconsumed,
                    members_nodup := hunique, consumed_nodup := hspent, joined_le := hjoined,
                    administrator := hadmin, channel := hchannel }
              | .error e => .error e
            else .error .MissingAdministrator
        else .error (.DuplicateIdentifier "consumed_invitation_id")
      else .error (.DuplicateIdentifier "member_device_id")
    else .error (.OutOfRange "consumed_invitation_ids" 0 MAX_CONSUMED_INVITATIONS
      consumed_invitation_ids.length)
  else .error (.OutOfRange "members" 1 MAX_MEMBERS members.length)

/-- What the constructor returns holds what it was given. -/
theorem new_with_request_service_eq_ok {version : ProtocolVersion}
    {conversation_id : ConversationId} {epoch : ℕ} {members : List Member}
    {consumed : List InvitationId} {request_service : Option RequestServiceChannel}
    {state : ConversationState}
    (h : new_with_request_service version conversation_id epoch members consumed
      request_service = .ok state) :
    state.version = version ∧ state.conversation_id = conversation_id ∧ state.epoch = epoch
    ∧ state.members = members ∧ state.consumed_invitation_ids = consumed
    ∧ state.request_service = request_service := by
  obtain ⟨_, _, _, _, h⟩ := by simpa only [new_with_request_service, dite_ok] using h
  split at h
  · cases h
  · obtain ⟨_, h⟩ := dite_ok.1 h
    split at h
    · cases h
      exact ⟨rfl, rfl, rfl, rfl, rfl, rfl⟩
    · cases h

/-- The member record of a device. -/
def member (state : ConversationState) (device_id : DeviceId) : Option Member :=
  find_member state.members device_id

/-- The devices of a state, in the order they joined. -/
def devices (state : ConversationState) : List DeviceId :=
  state.members.map (·.device_id)

theorem member_isSome {state : ConversationState} {device_id : DeviceId} :
    (state.member device_id).isSome ↔ device_id ∈ state.devices :=
  find_member_isSome

/-- The device is a member with the administrator role. -/
def Administers (state : ConversationState) (device_id : DeviceId) : Prop :=
  (state.member device_id).map (·.role) = some .Administrator

end ConversationState

instance (state : ConversationState) (device_id : DeviceId) :
    Decidable (state.Administers device_id) :=
  inferInstanceAs (Decidable (_ = _))

/-! ## Authorizations

An authorization names the epoch it is for, who gives it, and the change it allows. -/

structure AddMember where
  device_id : DeviceId
  role : ConversationRole
  invitation_id : InvitationId
  credential_binding_hash : CredentialBindingHash
  deriving DecidableEq

structure RemoveMember where
  device_id : DeviceId
  deriving DecidableEq

structure ChangeMemberRole where
  device_id : DeviceId
  role : ConversationRole
  deriving DecidableEq

inductive MembershipChange
  | Add (add : AddMember)
  | Remove (remove : RemoveMember)
  | ChangeRole (change : ChangeMemberRole)
  deriving DecidableEq

structure MembershipAuthorization where
  version : ProtocolVersion
  conversation_id : ConversationId
  parent_epoch : ℕ
  operation_id : MembershipOperationId
  change : MembershipChange
  deriving DecidableEq

/-- How many members administer the conversation. -/
def administrator_count (members : List Member) : ℕ :=
  (members.filter (fun member => member.role = .Administrator)).length

/-- The members and spent invitations after a change, in the epoch it creates. -/
def ConversationState.change (state : ConversationState) (new_epoch : ℕ) :
    MembershipChange → Except KonclaveDomainError (List Member × List InvitationId)
  | .Add add =>
    if (state.member add.device_id).isSome then .error .MemberAlreadyExists
    else if add.invitation_id ∈ state.consumed_invitation_ids then
      .error .InvitationAlreadyConsumed
    else .ok (state.members ++ [⟨add.device_id, add.role, new_epoch⟩],
      state.consumed_invitation_ids ++ [add.invitation_id])
  | .Remove remove =>
    match state.member remove.device_id with
    | none => .error .MemberNotFound
    | some member =>
      if member.role = .Administrator ∧ administrator_count state.members = 1 then
        .error .MissingAdministrator
      else .ok (state.members.eraseP (fun member => member.device_id = remove.device_id),
        state.consumed_invitation_ids)
  | .ChangeRole change =>
    match state.member change.device_id with
    | none => .error .MemberNotFound
    | some member =>
      if member.role = .Administrator ∧ change.role ≠ .Administrator
          ∧ administrator_count state.members = 1 then
        .error .MissingAdministrator
      -- `find` changes one record: the device identifiers are distinct
      else .ok (state.members.map (fun member =>
          if member.device_id = change.device_id then { member with role := change.role }
          else member),
        state.consumed_invitation_ids)

def ConversationState.apply_membership_authorization (state : ConversationState)
    (authenticated_sender : DeviceId) (authorization : MembershipAuthorization)
    (new_epoch : ℕ) : Except KonclaveDomainError ConversationState :=
  if authorization.version ≠ state.version then .error .MembershipVersionMismatch
  else if authorization.conversation_id ≠ state.conversation_id then
    .error .MembershipConversationMismatch
  else if authorization.parent_epoch ≠ state.epoch then .error .StaleMembershipEpoch
  else if checked_add state.epoch 1 ≠ some new_epoch then .error .InvalidMembershipEpochAdvance
  else if ¬ state.Administers authenticated_sender then .error .UnauthorizedMembershipChange
  else do
    let (members, consumed_invitation_ids) ← state.change new_epoch authorization.change
    ConversationState.new_with_request_service state.version state.conversation_id new_epoch members
      consumed_invitation_ids state.request_service

/-! ## What a change does

One inversion for an application of a change, and what it does to the member list. -/

section

variable {state next : ConversationState} {sender : DeviceId}
  {authorization : MembershipAuthorization} {new_epoch : ℕ}

namespace ConversationState

/-- A change succeeds under the checks of the source, on the state it was authorized for. -/
theorem apply_eq_ok :
    state.apply_membership_authorization sender authorization new_epoch = .ok next ↔
    authorization.version = state.version ∧ authorization.conversation_id = state.conversation_id
      ∧ authorization.parent_epoch = state.epoch
      ∧ checked_add state.epoch 1 = some new_epoch
      ∧ state.Administers sender
      ∧ ∃ change, state.change new_epoch authorization.change = .ok change
        ∧ new_with_request_service state.version state.conversation_id
          new_epoch change.1 change.2 state.request_service = .ok next := by
  unfold apply_membership_authorization
  simp only [ite_ok, bind_ok, Decidable.not_not, ne_eq]

/-- A change keeps the conversation and enters the next epoch. -/
theorem apply_fields
    (h : state.apply_membership_authorization sender authorization new_epoch = .ok next) :
    next.version = state.version ∧ next.conversation_id = state.conversation_id
    ∧ next.epoch = state.epoch + 1 ∧ next.request_service = state.request_service := by
  obtain ⟨-, -, -, hepoch, -, _, -, hnew⟩ := apply_eq_ok.1 h
  obtain ⟨hver, hconv, hnext, -, -, hservice⟩ := new_with_request_service_eq_ok hnew
  exact ⟨hver, hconv, hnext.trans (checked_add_iff.1 hepoch).2, hservice⟩

end ConversationState

/-- The devices of the next epoch. -/
def MembershipChange.devices (devices : List DeviceId) : MembershipChange → List DeviceId
  | .Add add => devices ++ [add.device_id]
  | .Remove remove => devices.erase remove.device_id
  | .ChangeRole _ => devices

/-- An added device was absent, a removed one present. -/
def MembershipChange.Fits (devices : List DeviceId) : MembershipChange → Prop
  | .Add add => add.device_id ∉ devices
  | .Remove remove => remove.device_id ∈ devices
  | .ChangeRole _ => True

namespace ConversationState

theorem change_devices {change : MembershipChange}
    {result : List Member × List InvitationId} (h : state.change new_epoch change = .ok result) :
    change.Fits state.devices ∧ result.1.map (·.device_id) = change.devices state.devices := by
  cases change with
  | Add add =>
    simp only [change, ite_ok] at h
    obtain ⟨habsent, -, heq⟩ := h
    cases heq
    rw [member_isSome] at habsent
    exact ⟨habsent, by simp [MembershipChange.devices, devices]⟩
  | Remove remove =>
    simp only [change] at h
    split at h
    · cases h
    · rename_i member hmember
      obtain ⟨-, heq⟩ := ite_ok.1 h
      cases heq
      refine ⟨member_isSome.1 (by rw [hmember]; rfl), ?_⟩
      rw [MembershipChange.devices, devices, List.erase_eq_eraseP', List.eraseP_map]
      rfl
  | ChangeRole role =>
    simp only [change] at h
    split at h
    · cases h
    · obtain ⟨-, heq⟩ := ite_ok.1 h
      cases heq
      refine ⟨trivial, ?_⟩
      rw [List.map_map, MembershipChange.devices, devices]
      refine List.map_congr_left fun member _ => ?_
      by_cases hdevice : member.device_id = role.device_id <;> simp [hdevice]

theorem apply_devices
    (h : state.apply_membership_authorization sender authorization new_epoch = .ok next) :
    next.devices = authorization.change.devices state.devices := by
  obtain ⟨-, -, -, -, -, _, hchange, hnew⟩ := apply_eq_ok.1 h
  rw [← (change_devices hchange).2, devices, (new_with_request_service_eq_ok hnew).2.2.2.1]

end ConversationState

end

end Konclave.Domain
