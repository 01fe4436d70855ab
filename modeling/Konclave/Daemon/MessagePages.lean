/-
`Konclave.LocalDaemon`: the pages of message history a local client reads.

A history holds the completed messages of one conversation that a client may see, in the
order of their cursors. `read_messages` answers an ascending query without filters, the only
kind the modelled clients send; `sync_messages` and `watch_messages` answer with what they
ingested. An answer is a JSON document, and one that is longer than an RPC payload is
refused by the transport.
-/
import Konclave.Checked
import Konclave.Domain.Application
import Konclave.Json

set_option autoImplicit false

namespace Konclave.Daemon.Messages

open Protobuf Domain Json List

/-! ## Hexadecimal identifiers

Identifiers are shown in lower case, two digits a byte, and different ones differently. -/

def hex_digit (nibble : ℕ) : Char := Char.ofNat (if nibble < 10 then 48 + nibble else 87 + nibble)

def encode_hex (bytes : Bytes) : String :=
  String.ofList (bytes.flatMap fun byte =>
    [hex_digit (byte.toNat / 16), hex_digit (byte.toNat % 16)])

def is_hex_digit (c : Char) : Bool := ('0' ≤ c ∧ c ≤ '9') ∨ ('a' ≤ c ∧ c ≤ 'f')

/-- Exactly `digits` lowercase hexadecimal digits. -/
def is_lowercase_hex (digits : ℕ) (value : String) : Bool :=
  value.length = digits ∧ value.toList.all is_hex_digit = true

theorem is_hex_digit_hex_digit : ∀ nibble < 16, is_hex_digit (hex_digit nibble) = true := by
  decide

theorem hex_digit_injective : ∀ x < 16, ∀ y < 16, hex_digit x = hex_digit y → x = y := by
  decide

theorem encode_hex_is_hex {n : ℕ} (id : FixedBytes n) :
    is_lowercase_hex (2 * n) (encode_hex id.bytes) = true := by
  rw [is_lowercase_hex, encode_hex, String.length_ofList, String.toList_ofList, decide_eq_true_eq]
  constructor
  · have hlen := id.length_eq
    simp [length_flatMap, hlen, Nat.mul_comm]
  · rw [all_flatMap, all_eq_true]
    intro byte _
    have hbyte := byte.toNat_lt
    simp only [all_cons, all_nil, Bool.and_true, Bool.and_eq_true]
    exact ⟨is_hex_digit_hex_digit _ (by omega), is_hex_digit_hex_digit _ (by omega)⟩

/-- Two characters a byte, whatever they are counted in. -/
theorem sum_hex_digits (measure : Char → ℕ) (h : ∀ nibble < 16, measure (hex_digit nibble) = 1)
    (bytes : Bytes) : ((encode_hex bytes).toList.map measure).sum = 2 * bytes.length := by
  rw [encode_hex, String.toList_ofList]
  induction bytes with
  | nil => rfl
  | cons byte bytes ih =>
    have hbyte := byte.toNat_lt
    rw [flatMap_cons, map_append, sum_append, ih, map_cons, map_singleton, h _ (by omega),
      h _ (by omega), length_cons, sum_cons, sum_singleton]
    omega

theorem encode_hex_injective {x y : Bytes} (h : encode_hex x = encode_hex y) : x = y := by
  have hdigits := congrArg String.toList h
  rw [encode_hex, encode_hex, String.toList_ofList, String.toList_ofList] at hdigits
  clear h
  induction x generalizing y with
  | nil =>
    cases y with
    | nil => rfl
    | cons byte y => cases hdigits
  | cons byte x ih =>
    cases y with
    | nil => cases hdigits
    | cons byte' y =>
      simp only [flatMap_cons, cons_append, nil_append, cons.injEq] at hdigits
      obtain ⟨hhigh, hlow, hrest⟩ := hdigits
      have hbyte := byte.toNat_lt
      have hbyte' := byte'.toNat_lt
      have := hex_digit_injective _ (by omega) _ (by omega) hhigh
      have := hex_digit_injective _ (by omega) _ (by omega) hlow
      obtain rfl : byte = byte' := UInt8.toNat_inj.1 (by omega)
      rw [ih hrest]

theorem encode_hex_eq_iff {n : ℕ} {x y : FixedBytes n} :
    encode_hex x.bytes = encode_hex y.bytes ↔ x = y :=
  ⟨fun h => FixedBytes.ext (encode_hex_injective h), fun h => h ▸ rfl⟩

/-! ## History

The completed messages of a conversation by cursor; later histories have more of them. -/

structure StoredHistoryMessage where
  cursor : ℕ
  envelope_id : EnvelopeId
  sender : DeviceId
  epoch : ℕ
  message : ApplicationMessage
  direction : MessageDirection
  deriving DecidableEq

open StoredHistoryMessage

/-- What the constructors of a message checked, and what the history query leaves out. -/
def StoredHistoryMessage.valid (stored : StoredHistoryMessage) : Bool :=
  decide (stored.cursor ≤ I64_MAX) && match stored.message.content with
    | .Text body => validate_application_text body
    | .DirectedRequest request => validate_application_text request.body
    | .RequestDeliveryOutcome outcome => stored.message.reply_to ≠ none ∧ outcome ≠ .Responded
    | content => !content.is_internal

variable {stored : StoredHistoryMessage}

theorem StoredHistoryMessage.cursor_le (h : stored.valid = true) :
    stored.cursor ≤ I64_MAX := by
  rw [valid, Bool.and_eq_true] at h
  exact of_decide_eq_true h.1

/-- The visible messages of one conversation, in cursor order. -/
structure History where
  messages : List StoredHistoryMessage
  ordered : messages.Pairwise (·.cursor < ·.cursor)
  valid : ∀ stored ∈ messages, stored.valid = true

/-- What lies after a cursor. -/
def History.after (history : History) (cursor : ℕ) : List StoredHistoryMessage :=
  history.messages.filter (cursor < ·.cursor)

/-- Appending is the only change of a history. -/
def History.Grows (history later : History) : Prop := history.messages <+: later.messages

theorem History.mem_after {history : History} {cursor : ℕ} :
    stored ∈ history.after cursor ↔ stored ∈ history.messages ∧ cursor < stored.cursor := by
  rw [History.after, mem_filter, decide_eq_true_eq]

/-- A reader that began at `start` stands there or at a message of the history. -/
def History.Reaches (history : History) (start cursor : ℕ) : Prop :=
  cursor = start ∨ ∃ stored ∈ history.messages, stored.cursor = cursor

section

variable {history later : History}

/-- What a longer history adds comes after everything it had. -/
theorem History.Grows.mem (h : history.Grows later) (hmem : stored ∈ later.messages) :
    stored ∈ history.messages ∨ ∀ old ∈ history.messages, old.cursor < stored.cursor := by
  obtain ⟨added, hadded⟩ := h
  have hordered := later.ordered
  rw [← hadded] at hmem hordered
  rcases mem_append.1 hmem with hold | hnew
  · exact .inl hold
  · exact .inr fun old hold => (pairwise_append.1 hordered).2.2 old hold stored hnew

theorem History.Reaches.grows {start cursor : ℕ} (h : history.Reaches start cursor)
    (hgrows : history.Grows later) : later.Reaches start cursor :=
  h.imp_right fun ⟨stored, hmem, hcur⟩ => ⟨stored, hgrows.subset hmem, hcur⟩

/-- What is added to a history after the reader's start comes after where the reader stands. -/
theorem History.Reaches.added {start cursor : ℕ} (h : history.Reaches start cursor)
    (hgrows : history.Grows later) (hmem : stored ∈ later.messages)
    (hstart : start < stored.cursor) : stored ∈ history.messages ∨ cursor < stored.cursor := by
  rcases hgrows.mem hmem with hold | hnew
  · exact .inl hold
  · rcases h with rfl | ⟨old, hold, rfl⟩
    · exact .inr hstart
    · exact .inr (hnew old hold)

end

/-! ## Queries

A query scans from its cursor and stops at its limit; the page says where to go on. -/

def MAX_MESSAGE_PAGE_SIZE : ℕ := 100

inductive MessageReadError
  | InvalidPageSize
  | InvalidCursorBounds
  | CorruptData
  | InternalApplicationContent
  deriving DecidableEq

structure HistoryPage where
  messages : List StoredHistoryMessage
  has_more : Bool
  next_cursor : Option ℕ

variable (after_cursor cursor : ℕ) (conversation_id : ConversationId)

def contains_cursor : Bool := cursor ≤ I64_MAX ∧ after_cursor < cursor

/-- `validate_cursor` of an ascending query without an upper bound. -/
def validate_cursor (previous_scanned_cursor : Option ℕ) : Except MessageReadError Unit := do
  require (contains_cursor after_cursor cursor = true
    ∧ ∀ previous ∈ previous_scanned_cursor, contains_cursor after_cursor previous = true)
    .CorruptData
  require (∀ previous ∈ previous_scanned_cursor, previous < cursor) .CorruptData

def continuation_cursor (last_scanned_cursor : Option ℕ) (has_more : Bool) :
    Except MessageReadError (Option ℕ) := do
  require (∀ cursor ∈ last_scanned_cursor, contains_cursor after_cursor cursor = true) .CorruptData
  match has_more, last_scanned_cursor with
  | true, none => .error .CorruptData
  | true, some cursor => .ok (some cursor)
  | false, _ => .ok none

/-- Verifies the scanned candidates and returns the last cursor. -/
def scan (after_cursor : ℕ) : Option ℕ → List StoredHistoryMessage →
    Except MessageReadError (Option ℕ)
  | last, [] => .ok last
  | last, stored :: rest => do
    validate_cursor after_cursor stored.cursor last
    scan after_cursor (some stored.cursor) rest

/-- `load_history_query`: one candidate more than the limit tells whether there is more. -/
def load_history_query (history : History) (after_cursor limit : ℕ) :
    Except MessageReadError HistoryPage := do
  require (1 ≤ limit ∧ limit ≤ MAX_MESSAGE_PAGE_SIZE) .InvalidPageSize
  require (after_cursor ≤ I64_MAX) .InvalidCursorBounds
  let candidates := (history.after after_cursor).take (limit + 1)
  let scanned := candidates.take limit
  let last_scanned_cursor ← scan after_cursor none scanned
  let has_more : Bool := scanned.length < candidates.length
  let next_cursor ← continuation_cursor after_cursor last_scanned_cursor has_more
  .ok ⟨scanned, has_more, next_cursor⟩

theorem scan_ne_none {after_cursor cursor : ℕ} {messages : List StoredHistoryMessage} :
    scan after_cursor (some cursor) messages ≠ .ok none := by
  induction messages generalizing cursor with
  | nil => simp [scan]
  | cons stored rest ih =>
    rw [scan]
    intro h
    obtain ⟨_, -, h⟩ := bind_ok.1 h
    exact ih h

theorem scan_ok {after_cursor : ℕ} {last : Option ℕ} {messages : List StoredHistoryMessage}
    (hordered : messages.Pairwise (·.cursor < ·.cursor))
    (hmsgs : ∀ stored ∈ messages, contains_cursor after_cursor stored.cursor = true)
    (hlast : ∀ previous ∈ last, contains_cursor after_cursor previous = true
      ∧ ∀ stored ∈ messages, previous < stored.cursor) :
    ∃ scanned, scan after_cursor last messages = .ok scanned
    ∧ (∀ cursor ∈ scanned, contains_cursor after_cursor cursor = true)
    ∧ (messages ≠ [] → scanned ≠ none) := by
  induction messages generalizing last with
  | nil => exact ⟨last, rfl, fun cursor h => (hlast cursor h).1, fun h => absurd rfl h⟩
  | cons stored rest ih =>
    obtain ⟨hfirst, hrest⟩ := pairwise_cons.1 hordered
    have hstored := hmsgs stored mem_cons_self
    obtain ⟨scanned, hscan, hcontains, -⟩ := @ih (some stored.cursor) hrest
      (fun other h => hmsgs other (mem_cons_of_mem _ h)) (by
        rintro _ ⟨⟩
        exact ⟨hstored, hfirst⟩)
    refine ⟨scanned, ?_, hcontains, fun _ => ?_⟩
    · rw [scan, validate_cursor,
        require_bind ⟨hstored, fun previous h => (hlast previous h).1⟩, require,
        if_pos fun previous h => (hlast previous h).2 stored mem_cons_self, ok_bind, hscan]
    · rintro rfl
      exact scan_ne_none hscan

/-- A query returns the first messages after its cursor, and a continuation exactly when
there are more. -/
theorem load_history_query_eq {history : History} {after_cursor limit : ℕ}
    (hlimit : 1 ≤ limit ∧ limit ≤ MAX_MESSAGE_PAGE_SIZE) (hafter : after_cursor ≤ I64_MAX) :
    ∃ next_cursor, load_history_query history after_cursor limit
      = .ok ⟨(history.after after_cursor).take limit,
        limit < (history.after after_cursor).length, next_cursor⟩
    ∧ (next_cursor = none ↔ (history.after after_cursor).length ≤ limit) := by
  have htake : ((history.after after_cursor).take (limit + 1)).take limit
      = (history.after after_cursor).take limit := by
    rw [take_take, Nat.min_eq_left (Nat.le_succ limit)]
  have hmore : ((history.after after_cursor).take limit).length
      < ((history.after after_cursor).take (limit + 1)).length
      ↔ limit < (history.after after_cursor).length := by
    rw [length_take, length_take]
    omega
  have hsub : ((history.after after_cursor).take limit).Sublist history.messages :=
    (take_sublist _ _).trans filter_sublist
  have hwindow : ∀ stored ∈ (history.after after_cursor).take limit,
      contains_cursor after_cursor stored.cursor = true := by
    intro stored h
    obtain ⟨hmem, hlt⟩ := History.mem_after.1 (mem_of_mem_take h)
    exact decide_eq_true ⟨cursor_le (history.valid stored hmem), hlt⟩
  obtain ⟨scanned, hscan, hcontains, hsome⟩ :=
    @scan_ok after_cursor none _ (history.ordered.sublist hsub) hwindow (by rintro _ ⟨⟩)
  rw [load_history_query, require_bind hlimit, require_bind hafter]
  simp only [htake, hscan, ok_bind, hmore, continuation_cursor]
  rw [require_bind hcontains]
  by_cases hlt : limit < (history.after after_cursor).length
  · have hne : (history.after after_cursor).take limit ≠ [] := by
      rw [← length_pos_iff, length_take]
      omega
    obtain ⟨cursor, rfl⟩ := Option.ne_none_iff_exists'.1 (hsome hne)
    rw [decide_eq_true hlt]
    exact ⟨some cursor, rfl, by simp; omega⟩
  · rw [decide_eq_false hlt]
    exact ⟨none, rfl, by simp; omega⟩

/-! ## Answers

The document of a message, as clients of the local service receive it. -/

def RequestDeliveryOutcome.name : RequestDeliveryOutcome → String
  | .Admitted => "admitted"
  | .Responded => "responded"
  | .ExpiredBeforeAdmission => "expired_before_admission"
  | .EndedWithoutResponse => "ended_without_response"

def CollaborationPolicyResponseOutcome.name : CollaborationPolicyResponseOutcome → String
  | .Accepted => "accepted"
  | .Rejected => "rejected"

def direction_name : MessageDirection → String
  | .Outbound => "outbound"
  | .Inbound => "inbound"

theorem direction_name_cases (direction : MessageDirection) :
    direction_name direction = "inbound" ∨ direction_name direction = "outbound" := by
  cases direction with
  | Inbound => exact .inl rfl
  | Outbound => exact .inr rfl

/-- The strings of a message say that it is an inbound reply of a device to a request. -/
theorem reply_strings_iff {sender : DeviceId} {request : MessageId} :
    (direction_name stored.direction = "inbound"
      ∧ encode_hex stored.sender.bytes = encode_hex sender.bytes
      ∧ (stored.message.reply_to.map fun id => encode_hex id.bytes)
      = some (encode_hex request.bytes))
    ↔ stored.direction = .Inbound ∧ stored.sender = sender
    ∧ stored.message.reply_to = some request := by
  have hdir : direction_name stored.direction = "inbound" ↔ stored.direction = .Inbound := by
    cases stored.direction <;> decide
  rw [hdir, encode_hex_eq_iff]
  cases stored.message.reply_to with
  | none => simp
  | some id => rw [Option.map_some, Option.some.injEq, Option.some.injEq, encode_hex_eq_iff]

def hex_json {n : ℕ} (id : FixedBytes n) : Json := .string (encode_hex id.bytes)

/-- `MessageContentResult`, flattened into the message: its tag and its own fields. -/
def content_result : ApplicationContent → Except MessageReadError (String × List (String × Json))
  | .RequestDeliveryOutcome outcome => .ok ("request_delivery_outcome",
      [("outcome", .string (RequestDeliveryOutcome.name outcome))])
  | .Text text => .ok ("text", [("text", .string text)])
  | .DirectedRequest request => .ok ("directed_request",
      [("target_device_id", hex_json request.target_device_id), ("text", .string request.body)])
  | .CollaborationPolicyProposal proposal => .ok ("collaboration_policy_proposal",
      [("proposal_id", hex_json proposal.proposal_id),
        ("policy_digest", hex_json proposal.policy_digest),
        ("replaces_policy_digest", proposal.replaces_policy_digest.elim .null hex_json)])
  | .CollaborationPolicyResponse response => .ok ("collaboration_policy_response",
      [("proposal_id", hex_json response.proposal_id),
        ("policy_digest", hex_json response.policy_digest),
        ("outcome", .string (CollaborationPolicyResponseOutcome.name response.outcome))])
  | .CollaborationPolicyRevocation policy_digest => .ok ("collaboration_policy_revocation",
      [("policy_digest", hex_json policy_digest)])
  | .RepeatPairingRequest _ | .RepeatPairingResponse _ => .error .InternalApplicationContent

/-- The document of a message with this content. -/
def message_json (stored : StoredHistoryMessage) (duplicate : Bool) (content_type : String)
    (content : List (String × Json)) : Json :=
  .object ([("conversation_id", hex_json conversation_id),
    ("message_id", hex_json stored.message.message_id),
    ("envelope_id", hex_json stored.envelope_id),
    ("sender_device_id", hex_json stored.sender),
    ("epoch", .number stored.epoch),
    ("sender_counter", .number stored.message.sender_counter),
    ("sent_at_unix_milliseconds", .number stored.message.sent_at_unix_milliseconds),
    ("reply_to_message_id", stored.message.reply_to.elim .null hex_json),
    ("cursor", .number stored.cursor),
    ("direction", .string (direction_name stored.direction)),
    ("content_type", .string content_type)] ++ content ++ [("duplicate", .bool duplicate)])

def message_result (stored : StoredHistoryMessage) (duplicate : Bool) :
    Except MessageReadError Json := do
  let (content_type, content) ← content_result stored.message.content
  .ok (message_json conversation_id stored duplicate content_type content)

theorem content_result_ok (h : stored.valid = true) :
    ∃ content, content_result stored.message.content = .ok content := by
  rw [valid, Bool.and_eq_true] at h
  have h := h.2
  cases hkind : stored.message.content with
  | RepeatPairingRequest | RepeatPairingResponse =>
    rw [hkind] at h
    cases h
  | _ => exact ⟨_, rfl⟩

/-- The document of a message that may be shown. -/
def StoredHistoryMessage.json (stored : StoredHistoryMessage) (duplicate : Bool) : Json :=
  let content := (content_result stored.message.content).toOption.getD ("", [])
  message_json conversation_id stored duplicate content.1 content.2

theorem StoredHistoryMessage.json_eq {kind : String}
    {content : List (String × Json)} (h : content_result stored.message.content
      = .ok (kind, content))
    (conversation_id : ConversationId) (duplicate : Bool) : stored.json conversation_id duplicate
    = message_json conversation_id stored duplicate kind content := by
  rw [json, h]
  rfl

theorem message_result_eq (duplicate : Bool)
    (h : stored.valid = true) : message_result conversation_id stored duplicate
    = .ok (stored.json conversation_id duplicate) := by
  obtain ⟨⟨kind, content⟩, h⟩ := content_result_ok h
  rw [message_result, h, json_eq h]
  rfl

/-- `ReadMessagesResult`: the continuation is written only where there is one. -/
def read_messages_result (messages : List Json) (page : HistoryPage) : Json :=
  .object ([("messages", .array messages), ("has_more", .bool page.has_more)]
    ++ (page.next_cursor.map fun cursor => ("next_cursor", .number cursor)).toList)

def read_messages (history : History) (conversation_id : ConversationId)
    (after_cursor limit : ℕ) : Except MessageReadError Json := do
  let page ← load_history_query history after_cursor limit
  let messages ← page.messages.mapM (message_result conversation_id · false)
  .ok (read_messages_result messages page)

/-- `sync_messages` and `watch_messages`, of the messages and the duplicate flag each was
processed with. -/
def processed_messages (processed : List (StoredHistoryMessage × Bool)) (has_more : Bool) :
    Except MessageReadError Json := do
  let messages ← processed.mapM fun message => message_result conversation_id message.1 message.2
  .ok (.object [("messages", .array messages), ("has_more", .bool has_more)])

theorem read_messages_eq (history : History) (conversation_id : ConversationId)
    {after_cursor limit : ℕ} (hlimit : 1 ≤ limit ∧ limit ≤ MAX_MESSAGE_PAGE_SIZE)
    (hafter : after_cursor ≤ I64_MAX) :
    ∃ next_cursor, read_messages history conversation_id after_cursor limit
      = .ok (read_messages_result
        (((history.after after_cursor).take limit).map (·.json conversation_id false))
        ⟨(history.after after_cursor).take limit, limit < (history.after after_cursor).length,
          next_cursor⟩) ∧ (next_cursor = none ↔ (history.after after_cursor).length ≤ limit) := by
  obtain ⟨next_cursor, hload, hnext⟩ := load_history_query_eq hlimit hafter
  refine ⟨next_cursor, ?_, hnext⟩
  have hmsgs := @mapM_ok _ _ _ (message_result conversation_id · false) _
    (·.json conversation_id false) fun stored
      (h : stored ∈ (history.after after_cursor).take limit) =>
      message_result_eq conversation_id false
        (history.valid stored (mem_of_mem_filter (mem_of_mem_take h)))
  rw [read_messages, hload, ok_bind]
  dsimp only
  rw [hmsgs]
  rfl

theorem processed_messages_eq {processed : List (StoredHistoryMessage × Bool)} (has_more : Bool)
    (hvalid : ∀ message ∈ processed, message.1.valid = true) :
    processed_messages conversation_id processed has_more = .ok (read_messages_result
        (processed.map fun message => message.1.json conversation_id message.2)
        ⟨[], has_more, none⟩) := by
  rw [processed_messages, mapM_ok fun message h => message_result_eq conversation_id message.2
    (hvalid message h)]
  rfl

def MAX_RPC_PAYLOAD_BYTES : ℕ := 1048576

/-- What a client receives: the document, unless the daemon failed or the payload is too
large. -/
def respond (answer : Except MessageReadError Json) : Option Json :=
  answer.toOption.filter (·.size ≤ MAX_RPC_PAYLOAD_BYTES)

theorem respond_eq_some {answer : Except MessageReadError Json} {value : Json} :
    respond answer = some value ↔ answer = .ok value ∧ value.size ≤ MAX_RPC_PAYLOAD_BYTES := by
  cases answer <;> simp [respond, Except.toOption, Option.filter_eq_some_iff]

/-! ## Sizes

A document is as long as its strings are once they are escaped, its numbers are in digits,
and its keys and punctuation, which are the same in all documents of a kind. -/

theorem size_hex_json {n : ℕ} (id : FixedBytes n) : (hex_json id).size = 2 * n + 2 := by
  rw [hex_json, size, string_size, sum_hex_digits _ (by decide), id.length_eq, Nat.add_comm]

/-- The bytes of an identifier, or of `null`. -/
def optional_size {n : ℕ} (id : Option (FixedBytes n)) : ℕ := if id.isSome then 2 * n + 2 else 4

theorem size_optional_hex {n : ℕ} (id : Option (FixedBytes n)) :
    (id.elim .null hex_json).size = optional_size id := by
  cases id with
  | none => rfl
  | some id => exact size_hex_json id

/-- The bytes of a content's tag and of its own fields. -/
def content_size : ApplicationContent → ℕ
  | .Text text => 14 + string_size text
  | .DirectedRequest request => 112 + string_size request.body
  | .RequestDeliveryOutcome outcome => 37 + string_size (RequestDeliveryOutcome.name outcome)
  | .CollaborationPolicyProposal proposal => 189 + optional_size proposal.replaces_policy_digest
  | .CollaborationPolicyResponse response =>
    174 + string_size (CollaborationPolicyResponseOutcome.name response.outcome)
  | .CollaborationPolicyRevocation _ => 116
  | .RepeatPairingRequest _ | .RepeatPairingResponse _ => 0

/-- The bytes of a message's document: 400 and those of its content, its numbers, its direction,
the message it replies to and its flag. -/
def StoredHistoryMessage.document_size (stored : StoredHistoryMessage) (duplicate : Bool) : ℕ :=
  400 + content_size stored.message.content + (number stored.epoch).size
    + (number stored.message.sender_counter).size
    + (number stored.message.sent_at_unix_milliseconds).size + (number stored.cursor).size
    + string_size (direction_name stored.direction) + optional_size stored.message.reply_to
    + (bool duplicate).size

/-- A bound on the bytes of a page without a continuation. -/
def page_size (messages : List (StoredHistoryMessage × Bool)) : ℕ :=
  32 + (messages.map fun message => message.1.document_size message.2 + 1).sum

theorem content_key_sizes : string_size "text" = 6 ∧ string_size "directed_request" = 18
    ∧ string_size "target_device_id" = 18 ∧ string_size "request_delivery_outcome" = 26
    ∧ string_size "outcome" = 9 ∧ string_size "collaboration_policy_proposal" = 31
    ∧ string_size "proposal_id" = 13 ∧ string_size "policy_digest" = 15
    ∧ string_size "replaces_policy_digest" = 24
    ∧ string_size "collaboration_policy_response" = 31
    ∧ string_size "collaboration_policy_revocation" = 33 := by
  decide +kernel

theorem message_key_sizes : string_size "conversation_id" = 17 ∧ string_size "message_id" = 12
    ∧ string_size "envelope_id" = 13 ∧ string_size "sender_device_id" = 18
    ∧ string_size "epoch" = 7 ∧ string_size "sender_counter" = 16
    ∧ string_size "sent_at_unix_milliseconds" = 27 ∧ string_size "reply_to_message_id" = 21
    ∧ string_size "cursor" = 8 ∧ string_size "direction" = 11 ∧ string_size "content_type" = 14
    ∧ string_size "duplicate" = 11 ∧ string_size "messages" = 10 ∧ string_size "has_more" = 10 := by
  decide +kernel

theorem content_result_size {content : ApplicationContent} {kind : String}
    {fields : List (String × Json)} (h : content_result content = .ok (kind, fields)) :
    string_size kind + fields_size fields = content_size content := by
  cases content <;> cases h <;> simp only [content_size, fields_size, size_hex_json,
    size_optional_hex, size, content_key_sizes] <;> omega

theorem StoredHistoryMessage.json_size (h : stored.valid = true) (conversation_id : ConversationId)
    (duplicate : Bool) :
    (stored.json conversation_id duplicate).size = stored.document_size duplicate := by
  obtain ⟨⟨kind, fields⟩, hcontent⟩ := content_result_ok h
  rw [json_eq hcontent, message_json, size, document_size, ← content_result_size hcontent]
  simp only [cons_append, nil_append, isEmpty_cons, Bool.false_eq_true, if_false, fields_size,
    fields_size_append, size_hex_json, size_optional_hex, message_key_sizes, size]
  omega

/-- A page within the bound is answered. -/
theorem respond_page {messages : List (StoredHistoryMessage × Bool)}
    (hvalid : ∀ message ∈ messages, message.1.valid = true)
    (hfits : page_size messages ≤ MAX_RPC_PAYLOAD_BYTES) (scanned : List StoredHistoryMessage)
    (has_more : Bool) :
    let document := read_messages_result
      (messages.map fun message => message.1.json conversation_id message.2)
      ⟨scanned, has_more, none⟩
    respond (.ok document) = some document := by
  refine respond_eq_some.2 ⟨rfl, Nat.le_trans ?_ hfits⟩
  have hsizes : (messages.map fun message => message.1.json conversation_id message.2).map
      (·.size + 1) = messages.map fun message => message.1.document_size message.2 + 1 := by
    rw [map_map]
    refine map_congr_left fun message hmessage => ?_
    rw [Function.comp_apply, json_size (hvalid message hmessage)]
  simp only [read_messages_result, Option.map_none, Option.toList_none, append_nil, size,
    isEmpty_cons, Bool.false_eq_true, if_false, fields_size, message_key_sizes, items_size_eq,
    hsizes, page_size]
  split <;> split <;> omega

/-! ## A request and its reply

The history the readers of these pages are run on. -/

namespace Scene

def request : MessageId := .repeated 16 3

/-- A text of the target, in reply to the request. -/
def reply : StoredHistoryMessage :=
  ⟨2, .repeated 16 4, .repeated 32 2, 1,
    ⟨.application_v1, .repeated 16 5, 1, 0, some request, .Text "yes", Nat.one_pos⟩, .Inbound⟩

/-- A text of another member. -/
def chatter : StoredHistoryMessage :=
  ⟨3, .repeated 16 6, .repeated 32 7, 1,
    ⟨.application_v1, .repeated 16 8, 1, 0, none, .Text "hello", Nat.one_pos⟩, .Inbound⟩

def history (messages : List StoredHistoryMessage)
    (h : messages.Pairwise (·.cursor < ·.cursor) ∧ ∀ stored ∈ messages, stored.valid = true) :
    History := ⟨messages, h.1, h.2⟩

def answered : History := history [reply] (by decide +kernel)

def followed : History := history [reply, chatter] (by decide +kernel)

end Scene

end Konclave.Daemon.Messages
