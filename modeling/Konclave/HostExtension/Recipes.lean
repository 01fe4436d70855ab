/-
`Konclave.HostExtension`: polling a recipe slot for its exact reply.

A slot polls the history of its conversation one record at a time. The reader checks every
record it is shown again: the fields of the page and of the record are closed lists, and
every number has to be a safe integer of the host language. A slot's poll reads, watches
once if it saw nothing, and reads again; other parties send in between.
-/
import Konclave.Daemon.MessagePages

set_option autoImplicit false

namespace Konclave.HostExtension

open Domain Daemon.Messages

/-! ## The reader -/

/-- `Number.MAX_SAFE_INTEGER`. -/
def MAX_SAFE_INTEGER : ℕ := 2 ^ 53 - 1

def recipe_message_bytes : ℕ := 255 * 1024
def recipe_history_page_size : ℕ := 100

/-- The refusals of a poll, and a request the local service did not answer. A rejected
definition inside the reader is reported as an invalid response. -/
inductive RecipeRunError
  | invalid_request
  | invalid_response
  | service
  deriving DecidableEq

structure RecipeBinding where
  name : String
  conversation_id : ConversationId
  target_device_id : DeviceId
  deriving DecidableEq

structure RecipeReply where
  binding_name : String
  request_message_id : MessageId
  message_id : String
  cursor : ℕ
  text : String
  deriving DecidableEq

inductive RecipeReplyPage
  | reply (reply : RecipeReply)
  | pending (after_cursor : ℕ) (has_more : Bool)
  deriving DecidableEq

def base_fields : List String :=
  ["conversation_id", "message_id", "envelope_id", "sender_device_id", "epoch", "sender_counter",
    "sent_at_unix_milliseconds", "reply_to_message_id", "cursor", "direction", "content_type",
    "duplicate"]

def content_fields : List (String × List String) :=
  [("text", ["text"]),
    ("directed_request", ["target_device_id", "text"]),
    ("request_delivery_outcome", ["outcome"]),
    ("collaboration_policy_proposal", ["proposal_id", "policy_digest", "replaces_policy_digest"]),
    ("collaboration_policy_response", ["proposal_id", "policy_digest", "outcome"]),
    ("collaboration_policy_revocation", ["policy_digest"])]

variable (value : Json) (key : String) (binding : RecipeBinding)

/-- An object with exactly these keys. -/
def require_recipe_record (fields : List String) : Except RecipeRunError Unit :=
  require (value.keys?.any fun keys => keys.length = fields.length ∧ ∀ field ∈ fields, field ∈ keys)
    .invalid_response

def recipe_data_property : Except RecipeRunError Json :=
  some_or (value.field? key) .invalid_response

/-- A number that `isRecipeCursor` accepts. -/
def cursor_property : Except RecipeRunError ℕ := do
  let property ← recipe_data_property value key
  some_or (property.number?.filter (· ≤ MAX_SAFE_INTEGER)) .invalid_response

def string_property (accepts : String → Bool) : Except RecipeRunError String := do
  let property ← recipe_data_property value key
  some_or (property.string?.filter accepts) .invalid_response

/-- A string with these hexadecimal digits, or null. -/
def optional_hex_property (digits : ℕ) : Except RecipeRunError (Option String) := do
  match ← recipe_data_property value key with
  | .null => .ok none
  | .string hex => do
    require (is_lowercase_hex digits hex = true) .invalid_response
    .ok (some hex)
  | _ => .error .invalid_response

/-- `validateRecipeMessageText`. A text has at least as many UTF-8 bytes as UTF-16 units, and
one that was read from UTF-8 has no lone surrogate, so the UTF-8 bound is the only check. -/
def validate_recipe_message_text (text : String) : Bool :=
  text ≠ "" ∧ text.utf8ByteSize ≤ recipe_message_bytes

/-- The checks of a record's own fields; returns the text of the two kinds that have one. -/
def content_text (kind : String) (message : Json) (reply_to : Option String) :
    Except RecipeRunError (Option String) := do
  match kind with
  | "request_delivery_outcome" =>
    require (reply_to ≠ none) .invalid_response
    let _ ← string_property message "outcome" fun outcome => outcome = "admitted"
      ∨ outcome = "expired_before_admission" ∨ outcome = "ended_without_response"
    .ok none
  | "text" => some <$> string_property message "text" validate_recipe_message_text
  | "directed_request" =>
    let text ← string_property message "text" validate_recipe_message_text
    let _ ← string_property message "target_device_id" (is_lowercase_hex 64)
    .ok (some text)
  | "collaboration_policy_proposal" =>
    let _ ← string_property message "policy_digest" (is_lowercase_hex 64)
    let _ ← string_property message "proposal_id" (is_lowercase_hex 32)
    let _ ← optional_hex_property message "replaces_policy_digest" 64
    .ok none
  | "collaboration_policy_response" =>
    let _ ← string_property message "policy_digest" (is_lowercase_hex 64)
    let _ ← string_property message "proposal_id" (is_lowercase_hex 32)
    let _ ← string_property message "outcome" fun outcome => outcome = "accepted"
      ∨ outcome = "rejected"
    .ok none
  | "collaboration_policy_revocation" =>
    let _ ← string_property message "policy_digest" (is_lowercase_hex 64)
    .ok none
  | _ => .error .invalid_response

/-- The numbers of a record; returns its cursor and its sender's counter. -/
def record_numbers (message : Json) : Except RecipeRunError (ℕ × ℕ) := do
  let cursor ← cursor_property message "cursor"
  let counter ← cursor_property message "sender_counter"
  let _ ← cursor_property message "epoch"
  let _ ← cursor_property message "sent_at_unix_milliseconds"
  .ok (cursor, counter)

/-- The variables of the selecting loop. -/
structure Selection where
  cursor : ℕ
  selected : Option RecipeReply
  identifiers : List String

/-- One round of the loop. Every failed check has the same error, so their order is free. -/
def select_message (request_message_id : MessageId) (selection : Selection) (message : Json) :
    Except RecipeRunError Selection := do
  let kind ← string_property message "content_type" fun _ => true
  let fields ← some_or (content_fields.lookup kind) .invalid_response
  require_recipe_record message (base_fields ++ fields)
  let _ ← string_property message "conversation_id"
    (· = encode_hex binding.conversation_id.bytes)
  let identifier ← string_property message "message_id" (is_lowercase_hex 32)
  let _ ← string_property message "envelope_id" (is_lowercase_hex 32)
  let sender ← string_property message "sender_device_id" (is_lowercase_hex 64)
  let reply_to ← optional_hex_property message "reply_to_message_id" 32
  let direction ← string_property message "direction" fun direction =>
    direction = "inbound" ∨ direction = "outbound"
  let duplicate ← recipe_data_property message "duplicate"
  require (duplicate.bool? ≠ none) .invalid_response
  let text ← content_text kind message reply_to
  let (cursor, counter) ← record_numbers message
  require (selection.cursor < cursor ∧ counter ≠ 0 ∧ identifier ∉ selection.identifiers)
    .invalid_response
  let reply : Option RecipeReply := text.bind fun text =>
    if kind = "text" ∧ direction = "inbound" ∧ sender = encode_hex binding.target_device_id.bytes
        ∧ reply_to = some (encode_hex request_message_id.bytes) then
      some ⟨binding.name, request_message_id, identifier, cursor, text⟩
    else none
  .ok ⟨cursor, selection.selected.or reply, identifier :: selection.identifiers⟩

/-- The messages and the flag of a page: no field beside them is expected. -/
def read_recipe_page (page_limit : ℕ) : Except RecipeRunError (List Json × Bool) := do
  require_recipe_record value ["messages", "has_more"]
  let messages ← recipe_data_property value "messages"
  let has_more ← recipe_data_property value "has_more"
  let messages ← some_or (messages.array?.filter (·.length ≤ page_limit)) .invalid_response
  let has_more ← some_or has_more.bool? .invalid_response
  .ok (messages, has_more)

def select_recipe_reply (request_message_id : MessageId) (after_cursor page_limit : ℕ) :
    Except RecipeRunError RecipeReplyPage := do
  require (after_cursor ≤ MAX_SAFE_INTEGER ∧ 1 ≤ page_limit
    ∧ page_limit ≤ recipe_history_page_size) .invalid_request
  let (messages, has_more) ← read_recipe_page value page_limit
  require (has_more = true → messages ≠ []) .invalid_response
  let selection ← messages.foldlM (select_message binding request_message_id)
    ⟨after_cursor, none, []⟩
  .ok (selection.selected.elim (.pending selection.cursor has_more) .reply)

/-! ## Polling -/

/-- A submitted slot. -/
structure SubmittedSlot where
  message_id : MessageId
  cursor : ℕ
  reply : Option RecipeReply
  deriving DecidableEq

def observe (history : History) (binding : RecipeBinding) (slot : SubmittedSlot) :
    Except RecipeRunError RecipeReplyPage × SubmittedSlot :=
  match respond (read_messages history binding.conversation_id slot.cursor 1) with
  | none => (.error .service, slot)
  | some value =>
    match select_recipe_reply value binding slot.message_id slot.cursor 1 with
    | .error error => (.error error, slot)
    | .ok (.reply reply) => (.ok (.reply reply), { slot with reply := some reply })
    | .ok (.pending after_cursor has_more) =>
      (.ok (.pending after_cursor has_more), { slot with cursor := after_cursor })

/-- What a poll meets: the history at its first read, what its watch ingested and the history
at its second read. -/
structure PollInput where
  first : History
  processed : List (StoredHistoryMessage × Bool)
  watch_has_more : Bool
  second : History
  valid : ∀ message ∈ processed, message.1.valid = true
  length_le : processed.length ≤ MAX_MESSAGE_PAGE_SIZE
  grows : first.Grows second

def poll (slot : SubmittedSlot) (input : PollInput) :
    Except RecipeRunError RecipeReplyPage × SubmittedSlot :=
  match slot.reply with
  | some reply => (.ok (.reply reply), slot)
  | none =>
    match observe input.first binding slot with
    | (.ok (.pending _ false), watching) =>
      match respond (processed_messages binding.conversation_id input.processed
          input.watch_has_more) with
      | none => (.error .service, watching)
      | some value =>
        match read_recipe_page value recipe_history_page_size with
        | .error error => (.error error, watching)
        | .ok _ => observe input.second binding watching
    | observed => observed

end Konclave.HostExtension
