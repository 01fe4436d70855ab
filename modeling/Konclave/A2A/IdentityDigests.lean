/-
Identity digests tell identities apart.

Tasks, messages, artifacts and the mapping of a message to a task are each named by the
digest of a domain tag and their components. Every component has a fixed length or comes
after its length, so equal digests of one kind have equal components; and the four tags
differ within their first twenty bytes, so no two kinds share a digest.
-/
import Konclave.A2A.TaskRuns

set_option autoImplicit false

namespace Konclave.A2A

open Domain Framing Protobuf

/-! ## Mappings

The fourth digest belongs to the bridge: it names the request that a task stands for. -/

def TASK_MAPPING_DOMAIN : Bytes := text_bytes "konclave-a2a-task-mapping-v1" ++ [0]

structure A2AAgentRoute where
  agent_id : A2AAgentId
  context_id : A2AContextId
  tenant : Option A2ATenantId
  conversation_id : ConversationId
  target_device_id : DeviceId
  deriving DecidableEq

/-- `append_component`: after its length in two bytes, which an identifier never exceeds. -/
def append_component (value : Option A2AIdentifier) : Bytes :=
  length_prefixed 2 ((value.map (·.bytes)).getD [])

/-- The digest of `derive_task_mapping`, the first half of which names the request and is
spelled by the task. The context of a request is that of its route. -/
def task_mapping_digest {δ : Type} (sha : Sha256 δ) (route : A2AAgentRoute)
    (source_message_id : A2AMessageId) : δ :=
  sha.digest (TASK_MAPPING_DOMAIN ++ (append_component route.tenant
    ++ (append_component (some route.agent_id) ++ (append_component (some route.context_id)
    ++ (append_component (some source_message_id)
    ++ (route.conversation_id.bytes ++ route.target_device_id.bytes))))))

variable {δ : Type} {sha : Sha256 δ}

theorem delimited_component : Delimited (fun _ => True) append_component :=
  delimited_optional (by decide)

theorem task_mapping_digest_inj (hsha : sha.Ideal) {route route' : A2AAgentRoute}
    {id id' : A2AMessageId}
    (h : task_mapping_digest sha route id = task_mapping_digest sha route' id') :
    route = route' ∧ id = id' := by
  have h := List.append_cancel_left (hsha.digest h)
  obtain ⟨htenant, h⟩ := delimited_component.split h
  obtain ⟨hagent, h⟩ := delimited_component.split h
  obtain ⟨hctx, h⟩ := delimited_component.split h
  obtain ⟨hid, h⟩ := delimited_component.split h
  obtain ⟨hconv, h⟩ := delimited_fixed.split h
  have htarget := FixedBytes.ext h
  cases route
  cases route'
  simp_all

/-! ## The four kinds

The preimages of the four digests begin with different domains, so no two kinds share one. -/

/-- What a digest identifies, as the public constructors build it. -/
inductive A2AIdentified
  | task (creation : A2ATaskCreation)
  | message (message : A2ATaskMessage)
  | artifact (artifact : A2ATaskArtifact)
  | mapping (route : A2AAgentRoute) (source_message_id : A2AMessageId)

namespace A2AIdentified

def digest (sha : Sha256 δ) : A2AIdentified → δ
  | .task x => x.identity_digest sha
  | .message x => x.identity_digest sha
  | .artifact x => x.identity_digest sha
  | .mapping route id => task_mapping_digest sha route id

/-- One kind, and the same components. The time at which something was recorded is none. -/
def Same : A2AIdentified → A2AIdentified → Prop
  | .task x, .task y => x.identity = y.identity ∧ x.request_text = y.request_text
  | .message x, .message y =>
    x.key = y.key ∧ x.message_id = y.message_id ∧ x.role = y.role ∧ x.text = y.text
  | .artifact x, .artifact y => x.key = y.key ∧ x.artifact_id = y.artifact_id
      ∧ x.canonical_bytes = y.canonical_bytes ∧ x.complete = y.complete
  | .mapping route id, .mapping route' id' => route = route' ∧ id = id'
  | _, _ => False

end A2AIdentified

/-- Byte strings that begin with different tags are different. -/
theorem append_ne_of_take {tag tag' rest rest' : Bytes} (hlen : 20 ≤ tag.length)
    (hlen' : 20 ≤ tag'.length) (hne : tag.take 20 ≠ tag'.take 20) :
    tag ++ rest ≠ tag' ++ rest' := by
  intro h
  have htake := congrArg (List.take 20) h
  rw [List.take_append_of_le_length hlen, List.take_append_of_le_length hlen'] at htake
  exact hne htake

/-- Under a digest without collisions, equal digests are of one kind and of the same
components. -/
theorem identity_digests_separated (hsha : sha.Ideal) (x y : A2AIdentified)
    (h : x.digest sha = y.digest sha) : x.Same y := by
  cases x <;> cases y
  case task.task x y =>
    obtain ⟨hidentity, htext⟩ := task_identity_digest_inj hsha h
    exact ⟨hidentity, text_bytes_injective (hsha.digest htext)⟩
  case message.message x y => exact message_identity_digest_inj hsha h
  case artifact.artifact x y => exact artifact_identity_digest_inj hsha h
  case mapping.mapping => exact task_mapping_digest_inj hsha h
  -- two kinds: the tags are not the same
  all_goals
    exact absurd (hsha.digest h)
      (append_ne_of_take (by decide +kernel) (by decide +kernel) (by decide +kernel))

/-- A task that is created again a second later is the same task. -/
theorem created_again_separated : (A2AIdentified.task Scene.creation).Same
      (.task { Scene.creation with created_at_unix_milliseconds := 1000 }) :=
  identity_digests_separated Scene.text_itself_ideal _ _ rfl

end Konclave.A2A
