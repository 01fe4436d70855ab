/-
`Konclave.ProtocolContracts`: decoding and encoding relay messages.

The wire messages are the generated structs of `relay.proto` and `common.proto`, each
with the table of its `merge_field`. A bounded decode scans the top-level framing first
(size, field count, no groups, repeated-field limits) and then merges the bytes at the
decoder's recursion limit; what comes out is checked again by the domain constructors.
-/
import Konclave.Domain.Relay
import Konclave.Protobuf.Message

set_option autoImplicit false

namespace Konclave.Relay

open Protobuf Domain

/-! ## Errors -/

/-- Why wire bytes were refused: by the framing scan, or by the decoder. -/
inductive DecodeReason
  | framing
  | decoder (error : DecodeError)
  deriving DecidableEq, Repr

/-- `KonclaveProtocolError`, the variants the relay contracts return. -/
inductive KonclaveProtocolError
  | EncodedMessageTooLarge (contract : String) (maximum actual : ℕ)
  | Decode (contract : String) (reason : DecodeReason)
  | MissingField (field : String)
  | UnsupportedEnum (field : String) (value : ℤ)
  | UnsupportedMajor (contract : String) (actual : ℕ)
  | Domain (error : KonclaveDomainError)
  deriving DecidableEq, Repr

/-- The `?` that lifts a domain error. -/
def from_domain {α : Type} : Except KonclaveDomainError α → Except KonclaveProtocolError α
  | .ok value => .ok value
  | .error e => .error (.Domain e)

def required {α : Type} (value : Option α) (field : String) : Except KonclaveProtocolError α :=
  match value with
  | some value => .ok value
  | none => .error (.MissingField field)

/-! ## The framing scan

Before a buffer is decoded its top-level fields are counted against limits. -/

/-- The budget of a decode that nobody has entered yet. -/
def RECURSION_LIMIT : ℕ := 100

/-- One entry of the `limits` array: how often a repeated field may occur. -/
structure FieldLimit where
  field_number : ℕ
  maximum : ℕ
  field : String
  deriving DecidableEq, Repr

/-- Counts one length-delimited field against every limit with its number. -/
def count_field (tag : ℕ) :
    List (FieldLimit × ℕ) → Except KonclaveProtocolError (List (FieldLimit × ℕ))
  | [] => .ok []
  | (limit, count) :: rest =>
    if tag = limit.field_number then
      if limit.maximum < count + 1 then
        .error (.Domain (.OutOfRange limit.field 0 limit.maximum (count + 1)))
      else (count_field tag rest).map ((limit, count + 1) :: ·)
    else (count_field tag rest).map ((limit, count) :: ·)

def malformed_wire (contract : String) : KonclaveProtocolError := .Decode contract .framing

/-- The loop of `require_repeated_field_limits`, with one unit of fuel a field. -/
def field_limits_loop (contract : String) :
    ℕ → ℕ → List (FieldLimit × ℕ) → Bytes → Except KonclaveProtocolError Unit
  | _, _, _, [] => .ok ()
  | 0, _, _, _ :: _ => .error (.Decode contract (.decoder .out_of_fuel))
  | fuel + 1, field_count, counts, byte :: tail =>
    if MAX_PROTOBUF_TOP_LEVEL_FIELDS < field_count + 1 then
      .error (.Domain (.OutOfRange "protobuf_top_level_fields" 0
        MAX_PROTOBUF_TOP_LEVEL_FIELDS (field_count + 1)))
    else match decode_key (byte :: tail) with
      | .error _ => .error (malformed_wire contract)
      | .ok ((tag, wire_type), rest) =>
        -- `reject_group`
        if wire_type = .StartGroup ∨ wire_type = .EndGroup then
          .error (malformed_wire contract)
        else
          match if wire_type = .LengthDelimited then count_field tag counts else .ok counts with
          | .error e => .error e
          | .ok counts =>
            match skip_field RECURSION_LIMIT wire_type tag rest with
            | .error _ => .error (malformed_wire contract)
            | .ok rest => field_limits_loop contract fuel (field_count + 1) counts rest

variable (bytes : Bytes) (field_number value : ℕ)

def require_repeated_field_limits (maximum_bytes : ℕ) (contract : String)
    (limits : List FieldLimit) :
    Except KonclaveProtocolError Unit :=
  if maximum_bytes < bytes.length then
    .error (.EncodedMessageTooLarge contract maximum_bytes bytes.length)
  else field_limits_loop contract bytes.length 0 (limits.map (·, 0)) bytes

/-- `decode_bounded` of a message with the given table and default. -/
def decode_bounded {M : Type} (merge_field : MergeField M) (default : M) (bytes : Bytes)
    (maximum : ℕ) (contract : String) : Except KonclaveProtocolError M :=
  match require_repeated_field_limits bytes maximum contract [] with
  | .error e => .error e
  | .ok () =>
    match merge merge_field RECURSION_LIMIT default bytes with
    | .error e => .error (.Decode contract (.decoder e))
    | .ok message => .ok message

/-! ## Wire messages -/

/-- The `u32` a varint is truncated to. -/
def as_u32 : ℕ := value % 2 ^ 32

/-- The `i32` a varint is truncated to. -/
def as_i32 : ℤ :=
  if as_u32 value < 2 ^ 31 then as_u32 value else (as_u32 value : ℤ) - 2 ^ 32

namespace Wire

structure ProtocolVersion where
  major : ℕ := 0
  minor : ℕ := 0
  deriving DecidableEq, Repr

/-- `RoutingId` and `EnvelopeId`: one byte-string field. -/
structure Identifier where
  value : Bytes := []
  deriving DecidableEq, Repr

structure RelayEnvelope where
  version : Option ProtocolVersion := none
  routing_id : Option Identifier := none
  envelope_id : Option Identifier := none
  delivery_class : ℤ := 0
  expected_parent_epoch : Option ℕ := none
  expires_at_unix_seconds : ℕ := 0
  payload : Bytes := []
  deriving DecidableEq, Repr

structure StoredRelayEnvelope where
  envelope : Option RelayEnvelope := none
  cursor : ℕ := 0
  deriving DecidableEq, Repr

structure ReplayPage where
  envelopes : List StoredRelayEnvelope := []
  next_cursor : ℕ := 0
  has_more : Bool := false
  deriving DecidableEq, Repr

def ProtocolVersion.merge_field : MergeField ProtocolVersion
  | 1 => .varint (fun msg value => { msg with major := as_u32 value })
  | 2 => .varint (fun msg value => { msg with minor := as_u32 value })
  | tag => .skip tag

def Identifier.merge_field : MergeField Identifier
  | 1 => .bytes (fun msg value => { msg with value := value })
  | tag => .skip tag

def RelayEnvelope.merge_field : MergeField RelayEnvelope
  | 1 => .message ProtocolVersion.merge_field (·.version.getD {})
      (fun msg inner => { msg with version := some inner })
  | 2 => .message Identifier.merge_field (·.routing_id.getD {})
      (fun msg inner => { msg with routing_id := some inner })
  | 3 => .message Identifier.merge_field (·.envelope_id.getD {})
      (fun msg inner => { msg with envelope_id := some inner })
  | 4 => .varint (fun msg value => { msg with delivery_class := as_i32 value })
  | 5 => .varint (fun msg value => { msg with expected_parent_epoch := some value })
  | 6 => .varint (fun msg value => { msg with expires_at_unix_seconds := value })
  | 7 => .bytes (fun msg value => { msg with payload := value })
  | tag => .skip tag

def StoredRelayEnvelope.merge_field : MergeField StoredRelayEnvelope
  | 1 => .message RelayEnvelope.merge_field (·.envelope.getD {})
      (fun msg inner => { msg with envelope := some inner })
  | 2 => .varint (fun msg value => { msg with cursor := value })
  | tag => .skip tag

/-- A repeated message field pushes a message merged from the default. -/
def ReplayPage.merge_field : MergeField ReplayPage
  | 1 => .message StoredRelayEnvelope.merge_field (fun _ => {})
      (fun msg inner => { msg with envelopes := msg.envelopes ++ [inner] })
  | 2 => .varint (fun msg value => { msg with next_cursor := value })
  | 3 => .varint (fun msg value => { msg with has_more := value != 0 })
  | tag => .skip tag

/-! ### Canonical lengths -/

/-- A length-delimited field with a one-byte key. -/
def length_delimited_length (payload_length : ℕ) : ℕ :=
  1 + varint_length payload_length + payload_length

/-- A varint field with a one-byte key. -/
def varint_field_length : ℕ := 1 + varint_length value

/-- A varint field that is omitted at its default. -/
def optional_varint_length : ℕ :=
  if value = 0 then 0 else varint_field_length value

/-- A message field that is omitted when absent. -/
def optional_message_length {M : Type} (encoded_len : M → ℕ) : Option M → ℕ
  | none => 0
  | some message => length_delimited_length (encoded_len message)

/-- An `int32` or enumeration field: a negative value is written as ten bytes. -/
def int32_length (value : ℤ) : ℕ :=
  if value = 0 then 0
  else if value < 0 then 11
  else varint_field_length value.toNat

def bytes_length (value : Bytes) : ℕ :=
  if value = [] then 0 else length_delimited_length value.length

def ProtocolVersion.encoded_len (msg : ProtocolVersion) : ℕ :=
  optional_varint_length msg.major + optional_varint_length msg.minor

def Identifier.encoded_len (msg : Identifier) : ℕ := bytes_length msg.value

def RelayEnvelope.encoded_len (msg : RelayEnvelope) : ℕ :=
  optional_message_length ProtocolVersion.encoded_len msg.version
    + optional_message_length Identifier.encoded_len msg.routing_id
    + optional_message_length Identifier.encoded_len msg.envelope_id
    + int32_length msg.delivery_class
    + (match msg.expected_parent_epoch with
        | none => 0
        | some epoch => varint_field_length epoch)
    + optional_varint_length msg.expires_at_unix_seconds
    + bytes_length msg.payload

def StoredRelayEnvelope.encoded_len (msg : StoredRelayEnvelope) : ℕ :=
  optional_message_length RelayEnvelope.encoded_len msg.envelope
    + optional_varint_length msg.cursor

/-! ### Canonical bytes -/

def append_length_delimited (value : Bytes) : Bytes :=
  append_key field_number .LengthDelimited ++ (append_varint value.length ++ value)

def append_varint_field : Bytes :=
  append_key field_number .Varint ++ append_varint value

/-- A varint field that is omitted at its default. -/
def append_optional_varint : Bytes :=
  if value = 0 then [] else append_varint_field field_number value

/-- A message field that is omitted when absent. -/
def append_optional_message {M : Type} (field_number : ℕ) (encode : M → Bytes) : Option M → Bytes
  | none => []
  | some message => append_length_delimited field_number (encode message)

/-- A negative `int32` is written as the `u64` it sign-extends to. -/
def append_int32 (value : ℤ) : Bytes :=
  append_optional_varint field_number (value % 2 ^ 64).toNat

def append_bytes (value : Bytes) : Bytes :=
  if value = [] then [] else append_length_delimited field_number value

def ProtocolVersion.encode (msg : ProtocolVersion) : Bytes :=
  append_optional_varint 1 msg.major ++ append_optional_varint 2 msg.minor

def Identifier.encode (msg : Identifier) : Bytes := append_bytes 1 msg.value

def RelayEnvelope.encode (msg : RelayEnvelope) : Bytes :=
  append_optional_message 1 ProtocolVersion.encode msg.version
    ++ append_optional_message 2 Identifier.encode msg.routing_id
    ++ append_optional_message 3 Identifier.encode msg.envelope_id
    ++ append_int32 4 msg.delivery_class
    ++ (match msg.expected_parent_epoch with
        | none => []
        | some epoch => append_varint_field 5 epoch)
    ++ append_optional_varint 6 msg.expires_at_unix_seconds
    ++ append_bytes 7 msg.payload

def StoredRelayEnvelope.encode (msg : StoredRelayEnvelope) : Bytes :=
  append_optional_message 1 RelayEnvelope.encode msg.envelope
    ++ append_optional_varint 2 msg.cursor

def ReplayPage.encode (msg : ReplayPage) : Bytes :=
  msg.envelopes.flatMap (fun stored => append_length_delimited 1 stored.encode)
    ++ (append_optional_varint 2 msg.next_cursor
      ++ (if msg.has_more then append_varint_field 3 1 else []))

end Wire

open Wire (append_length_delimited append_varint_field)
open Wire (length_delimited_length varint_field_length)

/-! ## From wire messages to domain values -/

def version_from_wire (value : Option Wire.ProtocolVersion) (contract : String) :
    Except KonclaveProtocolError ProtocolVersion := do
  let value ← required value "version"
  if value.major ≠ 1 then .error (.UnsupportedMajor contract value.major)
  else from_domain (ProtocolVersion.new value.major value.minor)

def routing_id_from_wire (value : Option Wire.Identifier) :
    Except KonclaveProtocolError RoutingId := do
  let value ← required value "routing_id"
  from_domain (FixedBytes.from_slice "routing_id" 32 value.value)

def envelope_id_from_wire (value : Option Wire.Identifier) :
    Except KonclaveProtocolError EnvelopeId := do
  let value ← required value "envelope_id"
  from_domain (FixedBytes.from_slice "envelope_id" 16 value.value)

def delivery_class_from_wire (value : ℤ) : Except KonclaveProtocolError DeliveryClass :=
  match value with
  | 1 => .ok .KeyPackage
  | 2 => .ok .Welcome
  | 3 => .ok .GroupProposal
  | 4 => .ok .GroupCommit
  | 5 => .ok .GroupApplication
  | 6 => .ok .Pairing
  | value => .error (.UnsupportedEnum "delivery_class" value)

def require_encoded_size (actual maximum : ℕ) (contract : String) :
    Except KonclaveProtocolError Unit :=
  if maximum < actual then .error (.EncodedMessageTooLarge contract maximum actual) else .ok ()

def RELAY_CONTRACT : String := "RelayEnvelope"

def STORED_RELAY_ENVELOPE_MAX_BYTES : ℕ := MAX_RELAY_ENVELOPE_BYTES + 32

def relay_from_wire (wire : Wire.RelayEnvelope) : Except KonclaveProtocolError RelayEnvelope := do
  require_encoded_size wire.encoded_len MAX_RELAY_ENVELOPE_BYTES RELAY_CONTRACT
  if wire.payload.length = 0 ∨ MAX_RELAY_PAYLOAD_BYTES < wire.payload.length then
    .error (.Domain (.OutOfRange "relay_payload" 1 MAX_RELAY_PAYLOAD_BYTES wire.payload.length))
  else
    let version ← version_from_wire wire.version RELAY_CONTRACT
    let routing_id ← routing_id_from_wire wire.routing_id
    let envelope_id ← envelope_id_from_wire wire.envelope_id
    let delivery_class ← delivery_class_from_wire wire.delivery_class
    from_domain (RelayEnvelope.new version routing_id envelope_id delivery_class
      wire.expected_parent_epoch wire.expires_at_unix_seconds wire.payload)

def stored_from_wire (wire : Wire.StoredRelayEnvelope) :
    Except KonclaveProtocolError StoredRelayEnvelope := do
  require_encoded_size wire.encoded_len STORED_RELAY_ENVELOPE_MAX_BYTES "StoredRelayEnvelope"
  let envelope ← required wire.envelope "stored_relay_envelope.envelope"
  let envelope ← relay_from_wire envelope
  from_domain (StoredRelayEnvelope.new envelope wire.cursor)

def decode_relay_envelope : Except KonclaveProtocolError RelayEnvelope := do
  let wire ← decode_bounded Wire.RelayEnvelope.merge_field {} bytes MAX_RELAY_ENVELOPE_BYTES
    RELAY_CONTRACT
  relay_from_wire wire

/-! ## From domain values to wire messages -/

def delivery_class_to_wire : DeliveryClass → ℤ
  | .KeyPackage => 1
  | .Welcome => 2
  | .GroupProposal => 3
  | .GroupCommit => 4
  | .GroupApplication => 5
  | .Pairing => 6

def relay_to_wire (value : RelayEnvelope) : Wire.RelayEnvelope where
  version := some ⟨value.version.major, value.version.minor⟩
  routing_id := some ⟨value.routing_id.bytes⟩
  envelope_id := some ⟨value.envelope_id.bytes⟩
  delivery_class := delivery_class_to_wire value.delivery_class
  expected_parent_epoch := value.expected_parent_epoch
  expires_at_unix_seconds := value.expires_at_unix_seconds
  payload := value.payload

def encode_relay_envelope (value : RelayEnvelope) : Except KonclaveProtocolError Bytes :=
  match require_encoded_size (relay_to_wire value).encoded_len MAX_RELAY_ENVELOPE_BYTES
      RELAY_CONTRACT with
  | .error e => .error e
  | .ok () => .ok (relay_to_wire value).encode

/-! ## Replay pages

The page is written around the stored bytes of the envelopes, which are not encoded again. -/

def stored_to_wire (value : StoredRelayEnvelope) : Wire.StoredRelayEnvelope :=
  ⟨some (relay_to_wire value.envelope), value.cursor⟩

/-- `encode_bounded` of a page; prost's `encoded_len` is the length of what it writes. -/
def encode_replay_page (value : ReplayPage) : Except KonclaveProtocolError Bytes :=
  let encoded := (⟨value.envelopes.map stored_to_wire, value.next_cursor, value.has_more⟩ :
    Wire.ReplayPage).encode
  if MAX_REPLAY_PAGE_BYTES < encoded.length then
    .error (.EncodedMessageTooLarge "ReplayPage" MAX_REPLAY_PAGE_BYTES encoded.length)
  else .ok encoded

/-- `stored_preserving_length`: a stored envelope that keeps its bytes. -/
def stored_preserving_length (encoded_envelope_length cursor : ℕ) : ℕ :=
  length_delimited_length encoded_envelope_length + varint_field_length cursor

/-- The bytes of one `StoredRelayEnvelope` field of a page. -/
def append_stored (encoded_envelope : Bytes) (cursor : ℕ) : Bytes :=
  append_length_delimited 1 encoded_envelope ++ append_varint_field 2 cursor

/-- The first loop of `encode_replay_page_preserving`: every envelope decodes, the cursors
are positive and rise, and the lengths add up. -/
def page_length_loop : Option ℕ → ℕ → List (Bytes × ℕ) → Except KonclaveProtocolError (Option ℕ × ℕ)
  | previous_cursor, encoded_length, [] => .ok (previous_cursor, encoded_length)
  | previous_cursor, encoded_length, (encoded_envelope, cursor) :: rest =>
    match decode_relay_envelope encoded_envelope with
    | .error e => .error e
    | .ok _ =>
      if cursor = 0 ∨ ∃ previous ∈ previous_cursor, cursor ≤ previous then
        .error (.Domain .InvalidReplayOrder)
      else
        page_length_loop (some cursor)
          (encoded_length
            + length_delimited_length (stored_preserving_length encoded_envelope.length cursor))
          rest

/-- The second loop and the scalar fields: the bytes of the page. -/
def append_page (envelopes : List (Bytes × ℕ)) (next_cursor : ℕ) (has_more : Bool) : Bytes :=
  envelopes.flatMap (fun entry =>
      append_key 1 .LengthDelimited
        ++ (append_varint (stored_preserving_length entry.1.length entry.2)
          ++ append_stored entry.1 entry.2))
    ++ ((if next_cursor = 0 then [] else append_varint_field 2 next_cursor)
      ++ (if has_more then append_varint_field 3 1 else []))

def encode_replay_page_preserving (envelopes : List (Bytes × ℕ)) (next_cursor : ℕ)
    (has_more : Bool) : Except KonclaveProtocolError Bytes :=
  if MAX_REPLAY_PAGE_SIZE < envelopes.length then
    .error (.Domain (.OutOfRange "replay_envelopes" 0 MAX_REPLAY_PAGE_SIZE envelopes.length))
  else match page_length_loop none 0 envelopes with
    | .error e => .error e
    | .ok (previous_cursor, encoded_length) =>
      if ∃ cursor ∈ previous_cursor, next_cursor < cursor then
        .error (.Domain .InvalidReplayOrder)
      else
        let encoded_length := encoded_length
          + (if next_cursor = 0 then 0 else varint_field_length next_cursor)
          + (if has_more then 2 else 0)
        if MAX_REPLAY_PAGE_BYTES < encoded_length then
          .error (.EncodedMessageTooLarge "ReplayPage" MAX_REPLAY_PAGE_BYTES encoded_length)
        else .ok (append_page envelopes next_cursor has_more)

def decode_replay_page : Except KonclaveProtocolError ReplayPage := do
  require_repeated_field_limits bytes MAX_REPLAY_PAGE_BYTES "ReplayPage"
    [⟨1, MAX_REPLAY_PAGE_SIZE, "replay_envelopes"⟩]
  let wire ← decode_bounded Wire.ReplayPage.merge_field {} bytes MAX_REPLAY_PAGE_BYTES "ReplayPage"
  if MAX_REPLAY_PAGE_SIZE < wire.envelopes.length then
    .error (.Domain (.OutOfRange "replay_envelopes" 0 MAX_REPLAY_PAGE_SIZE wire.envelopes.length))
  else
    let envelopes ← wire.envelopes.mapM stored_from_wire
    from_domain (ReplayPage.new envelopes wire.next_cursor wire.has_more)

end Konclave.Relay
