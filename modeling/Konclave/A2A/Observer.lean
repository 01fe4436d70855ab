/-
`Konclave.A2AKonclaveBridge`: the observer of a task's response.

The observer of a task reads the history after its cursor, then synchronizes, then watches,
and begins again. It looks for the exact response in every page and otherwise moves its
cursor past the page. Other consumers ingest messages into the same history at any time.
-/
import Konclave.Daemon.MessagePages

set_option autoImplicit false

namespace Konclave.A2A

open Domain Daemon.Messages Json

/-! ## Pages

What the bridge reads off a document of the daemon, and the checks it makes on a page. -/

def MAX_HISTORY_PAGE : ℕ := 100

structure ObservedMessage where
  conversation_id : String
  message_id : String
  envelope_id : String
  sender_device_id : String
  epoch : ℕ
  sender_counter : ℕ
  sent_at_unix_milliseconds : ℕ
  reply_to_message_id : Option String
  cursor : ℕ
  direction : String
  content_type : String
  text : Option String
  target_device_id : Option String
  proposal_id : Option String
  policy_digest : Option String
  replaces_policy_digest : Option String
  outcome : Option String
  duplicate : Bool
  deriving DecidableEq

/-- An `Option<String>` field: absent, null or a string. -/
def optional_string (value : Json) (key : String) : Option (Option String) :=
  match value.field? key with
  | none | some .null => some none
  | some (.string text) => some (some text)
  | some _ => none

/-- The derived deserialization: fields the type does not have are ignored. -/
def ObservedMessage.deserialize (value : Json) : Option ObservedMessage := do
  some ⟨← (value.field? "conversation_id").bind string?,
    ← (value.field? "message_id").bind string?,
    ← (value.field? "envelope_id").bind string?,
    ← (value.field? "sender_device_id").bind string?,
    ← (value.field? "epoch").bind number?,
    ← (value.field? "sender_counter").bind number?,
    ← (value.field? "sent_at_unix_milliseconds").bind number?,
    ← optional_string value "reply_to_message_id",
    ← (value.field? "cursor").bind number?,
    ← (value.field? "direction").bind string?,
    ← (value.field? "content_type").bind string?,
    ← optional_string value "text",
    ← optional_string value "target_device_id",
    ← optional_string value "proposal_id",
    ← optional_string value "policy_digest",
    ← optional_string value "replaces_policy_digest",
    ← optional_string value "outcome",
    ← (value.field? "duplicate").bind bool?⟩

def ObservedMessage.valid_shape (message : ObservedMessage) : Bool :=
  is_lowercase_hex 64 message.conversation_id = true
    ∧ is_lowercase_hex 32 message.message_id = true
    ∧ is_lowercase_hex 32 message.envelope_id = true
    ∧ is_lowercase_hex 64 message.sender_device_id = true
    ∧ message.reply_to_message_id.all (is_lowercase_hex 32) = true
    ∧ (message.direction = "inbound" ∨ message.direction = "outbound")
    ∧ (message.content_type = "text" → message.text.any (· ≠ "") = true
      ∧ message.target_device_id = none ∧ message.proposal_id = none
      ∧ message.policy_digest = none ∧ message.replaces_policy_digest = none
      ∧ message.outcome = none)

structure MessagePage where
  messages : List ObservedMessage
  has_more : Bool
  deriving DecidableEq

/-- `MessagePage` denies fields it does not have and bounds its messages. -/
def MessagePage.deserialize (value : Json) : Option MessagePage :=
  match value.keys?, (value.field? "messages").bind array?,
      (value.field? "has_more").bind bool? with
  | some keys, some messages, some has_more =>
    if (∀ key ∈ keys, key ∈ ["messages", "has_more"]) ∧ messages.length ≤ MAX_HISTORY_PAGE then
      (messages.mapM ObservedMessage.deserialize).map (⟨·, has_more⟩)
    else none
  | _, _, _ => none

/-- `A2AKonclaveBridgeConfig`, the page size. -/
structure A2AKonclaveBridgeConfig where
  history_page_size : ℕ
  positive : 1 ≤ history_page_size
  bounded : history_page_size ≤ MAX_HISTORY_PAGE

/-- `request_page`: the page of an answer, or nothing when the request failed. -/
def request_page (config : A2AKonclaveBridgeConfig) (answer : Except MessageReadError Json) :
    Option MessagePage :=
  ((respond answer).bind MessagePage.deserialize).filter fun page =>
    page.messages.length ≤ config.history_page_size ∧ page.messages.all (·.valid_shape) = true

/-! ## The loop

One iteration asks for a page, looks for the response, and remembers the largest cursor. -/

/-- The identity a response must have, from the task's record. -/
structure ExpectedResponse where
  conversation_id : ConversationId
  sender_device_id : DeviceId
  reply_to_message_id : MessageId

def exact_response (expected : ExpectedResponse) (messages : List ObservedMessage) :
    Option ObservedMessage :=
  messages.find? fun message =>
    message.conversation_id = encode_hex expected.conversation_id.bytes
      ∧ message.sender_device_id = encode_hex expected.sender_device_id.bytes
      ∧ message.direction = "inbound" ∧ message.content_type = "text"
      ∧ message.reply_to_message_id = some (encode_hex expected.reply_to_message_id.bytes)

def maximum_cursor (initial : ℕ) (messages : List ObservedMessage) : ℕ :=
  (messages.map (·.cursor)).foldl max initial

/-- The call the observer makes next; an iteration begins with a read. -/
inductive Phase
  | Reading
  | Syncing
  | Watching
  | Done
  deriving DecidableEq

structure Observer where
  history : History
  phase : Phase
  after_cursor : ℕ
  /-- The cursors of the responses it tried to commit. -/
  tried : List ℕ

/-- What can happen: another consumer ingests messages, or the observer's call is answered or
lost. `commits` tells whether a response that is found is committed. -/
inductive ObserverEvent
  | ingested (later : History)
  | read (commits : Bool)
  | processed (later : History) (messages : List (StoredHistoryMessage × Bool))
      (has_more commits : Bool)
  | lost (later : History)

/-- The rest of an iteration, after a page of the phase's call. -/
def Observer.take_page (observer : Observer) (expected : ExpectedResponse) (commits : Bool) :
    Option MessagePage → Observer
  | none => { observer with phase := .Reading }
  | some page =>
    match exact_response expected page.messages with
    | some response =>
      { observer with
        phase := if commits then .Done else .Reading
        tried := response.cursor :: observer.tried }
    | none =>
      { observer with
        after_cursor := maximum_cursor observer.after_cursor page.messages
        phase := match observer.phase with
          | .Reading => if page.has_more then .Reading else .Syncing
          | .Syncing => if page.has_more then .Reading else .Watching
          | .Watching => .Reading
          | .Done => .Done }

/-- The answer to the observer's call. -/
def Observer.answer (observer : Observer) (config : A2AKonclaveBridgeConfig)
    (expected : ExpectedResponse) : ObserverEvent → Option (Except MessageReadError Json)
  | .read _ =>
    if observer.phase = .Reading then some (read_messages observer.history
      expected.conversation_id observer.after_cursor config.history_page_size) else none
  | .processed _ messages has_more _ =>
    if observer.phase = .Syncing ∨ observer.phase = .Watching then
      some (processed_messages expected.conversation_id messages has_more) else none
  | _ => none

def Observer.step (observer : Observer) (config : A2AKonclaveBridgeConfig)
    (expected : ExpectedResponse) (event : ObserverEvent) : Observer :=
  match event with
  | .ingested later => { observer with history := later }
  | .lost later => { observer with
      history := later
      phase := if observer.phase = .Done then .Done else .Reading }
  | .read commits =>
    match observer.answer config expected event with
    | none => observer
    | some answer => observer.take_page expected commits (request_page config answer)
  | .processed later _ _ commits =>
    match observer.answer config expected event with
    | none => { observer with history := later }
    | some answer =>
      ({ observer with history := later } : Observer).take_page expected commits
        (request_page config answer)

end Konclave.A2A
