/-
`Konclave.A2ADomain` and `Konclave.A2ATaskStore`: what a task is.

A task belongs to a published agent, a tenant and a 32-digit identifier, and what it is
about never changes: the context, the caller's message, the conversation, device and
request it stands for, and the options it was sent with. The store keeps a digest of all
of it, and one for each message and artifact. SHA-256 is a parameter here: `Sha256` is any
digest that can be appended to what another digest is taken of, and it is `Ideal` when
distinct inputs have distinct digests.
-/
import Konclave.Domain.Basic

set_option autoImplicit false

namespace Konclave.A2A

open Domain Protobuf Framing List

/-! ## Errors -/

inductive A2ATaskStoreError
  | InvalidConfiguration
  | NotFound
  | Conflict
  | InvalidTransition
  | CapacityExceeded
  | CorruptData
  | Storage
  deriving DecidableEq, Repr

/-! ## Identifiers

Identifiers, names and texts carry the bounds their constructors check. -/

def MAX_A2A_IDENTIFIER_BYTES : ℕ := 128

/-- `is_ascii_alphanumeric`, or one of `-`, `_`, `.` and `:`. -/
def identifier_byte (byte : UInt8) : Bool :=
  (48 ≤ byte ∧ byte ≤ 57) ∨ (65 ≤ byte ∧ byte ≤ 90) ∨ (97 ≤ byte ∧ byte ≤ 122)
    ∨ byte = 45 ∨ byte = 95 ∨ byte = 46 ∨ byte = 58

/-- `A2AIdentifier`, by its ASCII bytes. -/
structure A2AIdentifier where
  bytes : Bytes
  nonempty : bytes ≠ []
  length_le : bytes.length ≤ MAX_A2A_IDENTIFIER_BYTES
  canonical : bytes.all identifier_byte = true
  deriving DecidableEq

abbrev A2AAgentId := A2AIdentifier
abbrev A2AContextId := A2AIdentifier
abbrev A2AMessageId := A2AIdentifier
abbrev A2AArtifactId := A2AIdentifier
abbrev A2ATenantId := A2AIdentifier

theorem A2AIdentifier.ext {x y : A2AIdentifier} (h : x.bytes = y.bytes) : x = y := by
  cases x
  cases y
  cases h
  rfl

/-- A lowercase hexadecimal digit. -/
def hex_byte (byte : UInt8) : Bool := (48 ≤ byte ∧ byte ≤ 57) ∨ (97 ≤ byte ∧ byte ≤ 102)

/-- `A2ATaskId`: 32 lowercase hexadecimal digits. -/
structure A2ATaskId where
  bytes : Bytes
  length_eq : bytes.length = 32
  hex : bytes.all hex_byte = true
  deriving DecidableEq

theorem A2ATaskId.ext {x y : A2ATaskId} (h : x.bytes = y.bytes) : x = y := by
  cases x
  cases y
  cases h
  rfl

def decode_nibble (value : UInt8) : UInt8 := if value ≤ 57 then value - 48 else value - 97 + 10

/-- The value of each pair of digits. -/
def decode_hex : Bytes → Bytes
  | high :: low :: rest => (decode_nibble high <<< 4 ||| decode_nibble low) :: decode_hex rest
  | _ => []

theorem length_decode_hex (digits : Bytes) : (decode_hex digits).length = digits.length / 2 := by
  induction digits using decode_hex.induct with
  | case1 high low rest ih =>
    rw [decode_hex, length_cons, ih, length_cons, length_cons]
    omega
  | case2 digits hshort =>
    rcases digits with _ | ⟨_, _ | ⟨_, _⟩⟩
    · rfl
    · simp [decode_hex]
    · exact absurd rfl (hshort _ _ _)

/-- The Konclave request the task stands for. -/
def A2ATaskId.request_message_id (task_id : A2ATaskId) : MessageId :=
  ⟨decode_hex task_id.bytes, by rw [length_decode_hex, task_id.length_eq]⟩

structure A2ATaskKey where
  agent_id : A2AAgentId
  tenant : Option A2ATenantId
  task_id : A2ATaskId
  deriving DecidableEq

/-! ## States -/

inductive A2ATaskState
  | Submitted
  | Working
  | Completed
  | Failed
  | Canceled
  | InputRequired
  | Rejected
  | AuthRequired
  deriving DecidableEq, Repr

inductive A2ATaskMessageRole
  | User
  | Agent
  deriving DecidableEq, Repr

def MAX_A2A_TERMINAL_REASON_BYTES : ℕ := 64

/-- The UTF-8 bytes of a string. -/
def text_bytes (text : String) : Bytes := text.toUTF8.data.toList

/-- `is_ascii_lowercase`, `is_ascii_digit` or an underscore. -/
def reason_byte (byte : UInt8) : Bool :=
  (97 ≤ byte ∧ byte ≤ 122) ∨ (48 ≤ byte ∧ byte ≤ 57) ∨ byte = 95

structure A2ATerminalReason where
  bytes : Bytes
  nonempty : bytes ≠ []
  length_le : bytes.length ≤ MAX_A2A_TERMINAL_REASON_BYTES
  canonical : bytes.all reason_byte = true
  deriving DecidableEq

/-! ## Digests

SHA-256 is a parameter; an ideal one is injective. What is hashed is one string of
length-prefixed fields after a domain. -/

/-- A digest of byte strings, and the bytes it is written as. -/
structure Sha256 (δ : Type) where
  digest : Bytes → δ
  bytes : δ → Bytes

/-- No two inputs have one digest. -/
structure Sha256.Ideal {δ : Type} (sha : Sha256 δ) : Prop where
  digest : Function.Injective sha.digest
  bytes : Function.Injective sha.bytes

def TASK_IDENTITY_DOMAIN : Bytes := text_bytes "konclave-a2a-task-identity-v1" ++ [0]
def MESSAGE_IDENTITY_DOMAIN : Bytes := text_bytes "konclave-a2a-task-message-v1" ++ [0]
def ARTIFACT_IDENTITY_DOMAIN : Bytes := text_bytes "konclave-a2a-task-artifact-v1" ++ [0]

/-- `append_bytes`: a string after its length in four bytes. -/
def append_bytes (value : Bytes) : Bytes := length_prefixed 4 value

def append_optional_identifier (value : Option A2ATenantId) : Bytes :=
  append_bytes ((value.map (·.bytes)).getD [])

def append_task_key (key : A2ATaskKey) : Bytes :=
  append_optional_identifier key.tenant ++ append_bytes key.agent_id.bytes
    ++ append_bytes key.task_id.bytes

/-- What a task is about: the fields its digest covers, but for the text. -/
structure A2ATaskIdentity where
  key : A2ATaskKey
  context_id : A2AContextId
  source_message_id : A2AMessageId
  conversation_id : ConversationId
  target_device_id : DeviceId
  request_message_id : MessageId
  return_immediately : Bool
  history_length : Option UInt32
  deriving DecidableEq

def append_history_length : Option UInt32 → Bytes
  | some value => 1 :: be_bytes 4 value.toNat
  | none => [0]

def append_bool (value : Bool) : Bytes := [if value then 1 else 0]

section

variable {δ : Type} (sha : Sha256 δ)

/-- What `task_identity_digest` hashes. -/
def task_identity_bytes (identity : A2ATaskIdentity) (request_text_digest : δ) : Bytes :=
  TASK_IDENTITY_DOMAIN ++ (append_task_key identity.key
    ++ (append_bytes identity.context_id.bytes ++ (append_bytes identity.source_message_id.bytes
    ++ (identity.conversation_id.bytes ++ (identity.target_device_id.bytes
    ++ (identity.request_message_id.bytes ++ (append_bool identity.return_immediately
    ++ (append_history_length identity.history_length ++ sha.bytes request_text_digest))))))))

def task_identity_digest (identity : A2ATaskIdentity) (request_text_digest : δ) : δ :=
  sha.digest (task_identity_bytes sha identity request_text_digest)

def text_digest (text : String) : δ := sha.digest (text_bytes text)

end

/-! ## What is written

The values a caller hands to the store, with the checks of their constructors. -/

def MAX_A2A_TEXT_BYTES : ℕ := 64 * 1024
def MAX_A2A_STORED_ARTIFACT_BYTES : ℕ := 1024 * 1024

/-- A text the profile allows: some, and not too much. -/
def text_fits (text : String) : Bool :=
  0 < text.utf8ByteSize ∧ text.utf8ByteSize ≤ MAX_A2A_TEXT_BYTES

/-- `A2ATaskCreation`, as `from_mapping` builds it: the identifier of the task spells the
request, and the text was checked with the message it came from. -/
structure A2ATaskCreation where
  identity : A2ATaskIdentity
  request_text : String
  created_at_unix_milliseconds : ℕ
  mapped : identity.key.task_id.request_message_id = identity.request_message_id
  text_fits : text_fits request_text = true

structure A2ATaskMessage where
  key : A2ATaskKey
  message_id : A2AMessageId
  role : A2ATaskMessageRole
  text : String
  recorded_at_unix_milliseconds : ℕ
  text_fits : text_fits text = true
  deriving DecidableEq

def A2ATaskMessage.new (key : A2ATaskKey) (message_id : A2AMessageId) (role : A2ATaskMessageRole)
    (text : String) (recorded_at_unix_milliseconds : ℕ) : Except A2ATaskStoreError A2ATaskMessage :=
  if h : A2A.text_fits text = true then
    .ok ⟨key, message_id, role, text, recorded_at_unix_milliseconds, h⟩
  else .error .InvalidConfiguration

theorem A2ATaskMessage.new_of_fits {key : A2ATaskKey} {mid : A2AMessageId}
    {role : A2ATaskMessageRole} {text : String} {recorded_at : ℕ} (h : A2A.text_fits text = true) :
    A2ATaskMessage.new key mid role text recorded_at = .ok ⟨key, mid, role, text, recorded_at, h⟩ :=
  dif_pos h

/-- An artifact the store takes: some bytes, and not too many. -/
def artifact_fits (canonical_bytes : Bytes) : Bool :=
  canonical_bytes ≠ [] ∧ canonical_bytes.length ≤ MAX_A2A_STORED_ARTIFACT_BYTES

structure A2ATaskArtifact where
  key : A2ATaskKey
  artifact_id : A2AArtifactId
  canonical_bytes : Bytes
  complete : Bool
  recorded_at_unix_milliseconds : ℕ
  bytes_fit : artifact_fits canonical_bytes = true
  deriving DecidableEq

def A2ATaskArtifact.new (key : A2ATaskKey) (artifact_id : A2AArtifactId)
    (canonical_bytes : Bytes) (complete : Bool) (recorded_at_unix_milliseconds : ℕ) :
    Except A2ATaskStoreError A2ATaskArtifact :=
  if h : artifact_fits canonical_bytes = true then
    .ok ⟨key, artifact_id, canonical_bytes, complete, recorded_at_unix_milliseconds, h⟩
  else .error .InvalidConfiguration

theorem A2ATaskArtifact.new_of_fits {key : A2ATaskKey} {artifact_id : A2AArtifactId}
    {canonical_bytes : Bytes} {complete : Bool} {recorded_at : ℕ}
    (h : artifact_fits canonical_bytes = true) :
    A2ATaskArtifact.new key artifact_id canonical_bytes complete recorded_at
    = .ok ⟨key, artifact_id, canonical_bytes, complete, recorded_at, h⟩ :=
  dif_pos h

structure A2ATaskTransition where
  key : A2ATaskKey
  expected_generation : ℕ
  state : A2ATaskState
  terminal_reason : Option A2ATerminalReason
  occurred_at_unix_milliseconds : ℕ
  deriving DecidableEq

section

variable {δ : Type} (sha : Sha256 δ)

def A2ATaskCreation.request_text_digest (creation : A2ATaskCreation) : δ :=
  text_digest sha creation.request_text

def A2ATaskCreation.identity_digest (creation : A2ATaskCreation) : δ :=
  task_identity_digest sha creation.identity (creation.request_text_digest sha)

def role_byte : A2ATaskMessageRole → UInt8
  | .User => 1
  | .Agent => 2

def A2ATaskMessage.identity_digest (message : A2ATaskMessage) : δ :=
  sha.digest (MESSAGE_IDENTITY_DOMAIN ++ (append_task_key message.key
    ++ (append_bytes message.message_id.bytes ++ ([role_byte message.role]
    ++ append_bytes (text_bytes message.text)))))

def A2ATaskArtifact.content_digest (artifact : A2ATaskArtifact) : δ :=
  sha.digest artifact.canonical_bytes

def A2ATaskArtifact.identity_digest (artifact : A2ATaskArtifact) : δ :=
  sha.digest (ARTIFACT_IDENTITY_DOMAIN ++ (append_task_key artifact.key
    ++ (append_bytes artifact.artifact_id.bytes
    ++ (sha.bytes (artifact.content_digest sha) ++ append_bool artifact.complete))))

end

/-! ## What an identity digest tells

Every field of a preimage can be read off its front, so equal digests are digests of equal
fields. -/

theorem delimited_append_bytes : Delimited (fun value => value.length < 256 ^ 4) append_bytes :=
  delimited_length_prefixed 4

/-- An identifier after its length, or none, which is written as an empty one. -/
theorem delimited_optional {width : ℕ} (hwidth : MAX_A2A_IDENTIFIER_BYTES < 256 ^ width) :
    Delimited (fun _ => True) fun value : Option A2AIdentifier =>
      length_prefixed width ((value.map (·.bytes)).getD []) := by
  intro x y rest rest' _ _ h
  have hlt : ∀ value : Option A2AIdentifier,
      ((value.map (·.bytes)).getD []).length < 256 ^ width := by
    intro value
    cases value with
    | none => exact Nat.zero_lt_of_lt hwidth
    | some id => exact Nat.lt_of_le_of_lt id.length_le hwidth
  obtain ⟨hbytes, hrest⟩ := delimited_length_prefixed width _ _ _ _ (hlt x) (hlt y) h
  refine ⟨?_, hrest⟩
  cases x with
  | none =>
    cases y with
    | none => rfl
    | some id => exact absurd hbytes.symm id.nonempty
  | some id =>
    cases y with
    | none => exact absurd hbytes id.nonempty
    | some id' => exact congrArg some (A2AIdentifier.ext hbytes)

theorem delimited_tenant : Delimited (fun _ => True) append_optional_identifier :=
  delimited_optional (by decide)

theorem delimited_identifier :
    Delimited (fun _ => True) fun id : A2AIdentifier => append_bytes id.bytes := by
  intro x y rest rest' _ _ h
  obtain ⟨hid, hrest⟩ := delimited_tenant (some x) (some y) _ _ trivial trivial h
  exact ⟨Option.some.inj hid, hrest⟩

/-- A task key ends where the next field starts. -/
theorem delimited_task_key : Delimited (fun _ => True) append_task_key := by
  intro x y rest rest' _ _ h
  simp only [append_task_key, append_assoc] at h
  obtain ⟨htenant, h⟩ := delimited_tenant.split h
  obtain ⟨hagent, h⟩ := delimited_identifier.split h
  have hlt : ∀ id : A2ATaskId, id.bytes.length < 256 ^ 4 := by
    intro id
    rw [id.length_eq]
    decide
  obtain ⟨htask, hrest⟩ := delimited_append_bytes _ _ _ _ (hlt _) (hlt _) h
  cases x
  cases y
  exact ⟨by rw [A2ATaskKey.mk.injEq]; exact ⟨hagent, htenant, A2ATaskId.ext htask⟩, hrest⟩

theorem delimited_append_bool : Delimited (fun _ => True) append_bool := by
  refine delimited_of_length (fun _ _ _ _ => rfl) ?_
  intro x y _ _ h
  cases x <;> cases y <;> simp_all [append_bool]

theorem delimited_history_length : Delimited (fun _ => True) append_history_length := by
  intro x y rest rest' _ _ h
  cases x with
  | none =>
    cases y with
    | none => exact ⟨rfl, append_cancel_left h⟩
    | some value =>
      have htag := (cons_eq_cons.1 h).1
      exact absurd htag (by decide)
  | some value =>
    cases y with
    | none =>
      have htag := (cons_eq_cons.1 h).1
      exact absurd htag (by decide)
    | some value' =>
      have htail := (cons_eq_cons.1 h).2
      have hlt : ∀ n : UInt32, n.toNat < 256 ^ 4 := fun n => n.toNat_lt
      obtain ⟨hvalue, hrest⟩ := delimited_be_bytes 4 _ _ _ _ (hlt value) (hlt value') htail
      exact ⟨congrArg some (UInt32.toNat_inj.1 hvalue), hrest⟩

/-- A text is read off its bytes. -/
theorem text_bytes_injective : Function.Injective text_bytes := by
  intro x y h
  exact String.toByteArray_inj.1 (ByteArray.ext (Array.toList_inj.1 h))

section

variable {δ : Type} {sha : Sha256 δ} (hsha : sha.Ideal)
include hsha

/-- An ideal digest of an identity is that of no other. -/
theorem task_identity_digest_inj {x y : A2ATaskIdentity} {dx dy : δ}
    (h : task_identity_digest sha x dx = task_identity_digest sha y dy) : x = y ∧ dx = dy := by
  have h := append_cancel_left (hsha.digest h)
  obtain ⟨hkey, h⟩ := delimited_task_key.split h
  obtain ⟨hctx, h⟩ := delimited_identifier.split h
  obtain ⟨hsource, h⟩ := delimited_identifier.split h
  obtain ⟨hconv, h⟩ := delimited_fixed.split h
  obtain ⟨htarget, h⟩ := delimited_fixed.split h
  obtain ⟨hrequest, h⟩ := delimited_fixed.split h
  obtain ⟨hreturn, h⟩ := delimited_append_bool.split h
  obtain ⟨hhist, h⟩ := delimited_history_length.split h
  refine ⟨?_, hsha.bytes h⟩
  cases x
  cases y
  rw [A2ATaskIdentity.mk.injEq]
  exact ⟨hkey, hctx, hsource, hconv, htarget, hrequest, hreturn, hhist⟩

/-- A message is read off its identity, all but the time it was recorded. -/
theorem message_identity_digest_inj {x y : A2ATaskMessage}
    (h : x.identity_digest sha = y.identity_digest sha) :
    x.key = y.key ∧ x.message_id = y.message_id ∧ x.role = y.role ∧ x.text = y.text := by
  have h := append_cancel_left (hsha.digest h)
  obtain ⟨hkey, h⟩ := delimited_task_key.split h
  obtain ⟨hid, h⟩ := delimited_identifier.split h
  obtain ⟨hrole, htext⟩ := cons.inj h
  have hlt : ∀ message : A2ATaskMessage, (text_bytes message.text).length < 256 ^ 4 := by
    intro message
    have hle : (text_bytes message.text).length ≤ MAX_A2A_TEXT_BYTES :=
      (of_decide_eq_true message.text_fits).2
    unfold MAX_A2A_TEXT_BYTES at hle
    omega
  have htext := delimited_append_bytes _ _ [] [] (hlt x) (hlt y) (by simpa using htext)
  refine ⟨hkey, hid, ?_, text_bytes_injective htext.1⟩
  cases hx : x.role <;> cases hy : y.role <;> simp_all [role_byte]

/-- An artifact is read off its identity, all but the time it was recorded. -/
theorem artifact_identity_digest_inj {x y : A2ATaskArtifact}
    (h : x.identity_digest sha = y.identity_digest sha) : x.key = y.key
    ∧ x.artifact_id = y.artifact_id ∧ x.canonical_bytes = y.canonical_bytes
    ∧ x.complete = y.complete := by
  have h := append_cancel_left (hsha.digest h)
  obtain ⟨hkey, h⟩ := delimited_task_key.split h
  obtain ⟨hid, h⟩ := delimited_identifier.split h
  -- the flag is one byte at the end, so the digest before it needs no length
  obtain ⟨h, hcomplete⟩ := append_inj' h rfl
  have hcomplete := delimited_append_bool _ _ [] [] trivial trivial (by simpa using hcomplete)
  exact ⟨hkey, hid, hsha.digest (hsha.bytes h), hcomplete.1⟩

end

end Konclave.A2A
