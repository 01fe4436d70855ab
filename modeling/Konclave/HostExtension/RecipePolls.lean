/-
What polling a recipe slot achieves.

The reader takes a page only if nothing follows its record in the history, since the daemon
adds a continuation to every other page, and takes a record only if its numbers are safe
integers. Where all of a slot's reads are of such pages, polling reaches the first reply and
keeps it; any other read fails.
-/
import Konclave.HostExtension.Recipes

set_option autoImplicit false

namespace Konclave.HostExtension

open Domain Daemon.Messages List Option

/-! ## What the reader makes of a record

A record of a page is read as the message it shows when its numbers are safe integers. -/

/-- The four numbers of a record that the reader takes. -/
structure SafeIntegers (stored : StoredHistoryMessage) : Prop where
  cursor : stored.cursor ≤ MAX_SAFE_INTEGER
  epoch : stored.epoch ≤ MAX_SAFE_INTEGER
  sender_counter : stored.message.sender_counter ≤ MAX_SAFE_INTEGER
  sent_at : stored.message.sent_at_unix_milliseconds ≤ MAX_SAFE_INTEGER

/-- An inbound text of the bound target in reply to the request, as a slot returns it. -/
def reply_of (binding : RecipeBinding) (request : MessageId) (stored : StoredHistoryMessage) :
    Option RecipeReply :=
  match stored.message.content with
  | .Text text =>
    if stored.direction = .Inbound ∧ stored.sender = binding.target_device_id
        ∧ stored.message.reply_to = some request then
      some ⟨binding.name, request, encode_hex stored.message.message_id.bytes, stored.cursor, text⟩
    else none
  | _ => none

variable {content : List (String × Json)} {page : RecipeReplyPage} {text kind : String}

section

variable {v : Json} {k : String}

theorem string_property_eq {accepts : String → Bool} (h : v.field? k = some (.string text))
    (haccepts : accepts text = true) : string_property v k accepts = .ok text := by
  rw [string_property, recipe_data_property, some_or_bind h]
  exact some_or_eq_ok.2 (filter_eq_some_iff.2 ⟨rfl, haccepts⟩)

theorem cursor_property_eq_ok {number result : ℕ} (h : v.field? k = some (.number number)) :
    cursor_property v k = .ok result ↔ number ≤ MAX_SAFE_INTEGER ∧ result = number := by
  rw [cursor_property, recipe_data_property, some_or_bind h, some_or_eq_ok,
    filter_eq_some_iff, Json.number?, some.injEq, decide_eq_true_eq]
  constructor
  · rintro ⟨rfl, hle⟩
    exact ⟨hle, rfl⟩
  · rintro ⟨hle, rfl⟩
    exact ⟨rfl, hle⟩

theorem optional_hex_property_eq {n : ℕ} {id : Option (FixedBytes n)}
    (h : v.field? k = some (id.elim .null hex_json)) :
    optional_hex_property v k (2 * n) = .ok (id.map fun id => encode_hex id.bytes) := by
  rw [optional_hex_property, recipe_data_property, some_or_bind h]
  cases id with
  | none => rfl
  | some id =>
    dsimp only [elim_some, hex_json]
    rw [require_bind (encode_hex_is_hex id)]
    rfl

end

section

variable {binding : RecipeBinding} {request : MessageId} {selection selection' : Selection}
  {stored : StoredHistoryMessage} {duplicate : Bool}

theorem record_numbers_eq_ok {numbers : ℕ × ℕ} :
    record_numbers (message_json binding.conversation_id stored duplicate kind content)
      = .ok numbers
    ↔ SafeIntegers stored ∧ numbers = (stored.cursor, stored.message.sender_counter) := by
  constructor
  · intro h
    obtain ⟨_, hcur, h⟩ := bind_ok.1 h
    obtain ⟨_, hcounter, h⟩ := bind_ok.1 h
    obtain ⟨_, hepoch, h⟩ := bind_ok.1 h
    obtain ⟨_, hsent, h⟩ := bind_ok.1 h
    cases h
    obtain ⟨hcursor_le, rfl⟩ := (cursor_property_eq_ok rfl).1 hcur
    obtain ⟨hcounter_le, rfl⟩ := (cursor_property_eq_ok rfl).1 hcounter
    exact ⟨⟨hcursor_le, ((cursor_property_eq_ok rfl).1 hepoch).1, hcounter_le,
      ((cursor_property_eq_ok rfl).1 hsent).1⟩, rfl⟩
  · rintro ⟨hsafe, rfl⟩
    rw [record_numbers, (cursor_property_eq_ok (k := "cursor") rfl).2 ⟨hsafe.cursor, rfl⟩, ok_bind,
      (cursor_property_eq_ok (k := "sender_counter") rfl).2 ⟨hsafe.sender_counter, rfl⟩, ok_bind,
      (cursor_property_eq_ok (k := "epoch") rfl).2 ⟨hsafe.epoch, rfl⟩, ok_bind,
      (cursor_property_eq_ok (k := "sent_at_unix_milliseconds") rfl).2 ⟨hsafe.sent_at, rfl⟩,
      ok_bind]

theorem select_message_json {fields : List String} {t : Option String}
    (hfields : content_fields.lookup kind = some fields) (hrec : require_recipe_record
      (message_json binding.conversation_id stored duplicate kind content) (base_fields ++ fields)
      = .ok ())
    (hduplicate : (message_json binding.conversation_id stored duplicate kind content).field?
      "duplicate" = some (.bool duplicate)) (htext : content_text kind
      (message_json binding.conversation_id stored duplicate kind content)
      (stored.message.reply_to.map fun id => encode_hex id.bytes) = .ok t) :
    select_message binding request selection
      (message_json binding.conversation_id stored duplicate kind content) = .ok selection'
    ↔ (SafeIntegers stored ∧ selection.cursor < stored.cursor
      ∧ encode_hex stored.message.message_id.bytes ∉ selection.identifiers)
      ∧ selection' = ⟨stored.cursor, selection.selected.or (t.bind fun text =>
          if kind = "text" ∧ direction_name stored.direction = "inbound"
              ∧ encode_hex stored.sender.bytes = encode_hex binding.target_device_id.bytes
              ∧ (stored.message.reply_to.map fun id => encode_hex id.bytes)
                = some (encode_hex request.bytes) then
            some ⟨binding.name, request, encode_hex stored.message.message_id.bytes,
              stored.cursor, text⟩
          else none), encode_hex stored.message.message_id.bytes :: selection.identifiers⟩ := by
  have hname := direction_name_cases stored.direction
  have hreply : optional_hex_property
      (message_json binding.conversation_id stored duplicate kind content) "reply_to_message_id" 32
      = .ok (stored.message.reply_to.map fun id => encode_hex id.bytes) :=
    @optional_hex_property_eq _ _ 16 _ rfl
  rw [select_message, string_property_eq (k := "content_type") rfl rfl, ok_bind,
    some_or_bind hfields, hrec, ok_bind,
    string_property_eq (k := "conversation_id") rfl (decide_eq_true rfl), ok_bind,
    string_property_eq (k := "message_id") rfl (encode_hex_is_hex stored.message.message_id),
    ok_bind, string_property_eq (k := "envelope_id") rfl (encode_hex_is_hex stored.envelope_id),
    ok_bind, string_property_eq (k := "sender_device_id") rfl (encode_hex_is_hex stored.sender),
    ok_bind, hreply, ok_bind,
    string_property_eq (k := "direction") rfl (decide_eq_true hname), ok_bind,
    recipe_data_property, some_or_bind hduplicate, require_bind nofun, htext, ok_bind]
  constructor
  · intro h
    obtain ⟨_, hnumbers, h⟩ := bind_ok.1 h
    obtain ⟨hsafe, rfl⟩ := record_numbers_eq_ok.1 hnumbers
    obtain ⟨⟨hcur, -, hfresh⟩, h⟩ := require_ok.1 h
    cases h
    exact ⟨⟨hsafe, hcur, hfresh⟩, rfl⟩
  · rintro ⟨⟨hsafe, hcur, hfresh⟩, rfl⟩
    rw [record_numbers_eq_ok.2 ⟨hsafe, rfl⟩, ok_bind]
    dsimp only
    rw [require_bind ⟨hcur, Nat.pos_iff_ne_zero.1 stored.message.sender_counter_pos, hfresh⟩]

theorem valid_text (h : validate_application_text text = true) :
    validate_recipe_message_text text = true := h

/-- The reader takes a record whose numbers are safe, and nothing else of it matters. -/
theorem select_message_stored (hvalid : stored.valid = true) :
    select_message binding request selection (stored.json binding.conversation_id duplicate)
      = .ok selection' ↔ (SafeIntegers stored ∧ selection.cursor < stored.cursor
      ∧ encode_hex stored.message.message_id.bytes ∉ selection.identifiers)
      ∧ selection' = ⟨stored.cursor, selection.selected.or (reply_of binding request stored),
          encode_hex stored.message.message_id.bytes :: selection.identifiers⟩ := by
  rw [StoredHistoryMessage.valid, Bool.and_eq_true] at hvalid
  obtain ⟨-, h⟩ := hvalid
  rw [reply_of]
  cases hkind : stored.message.content with
  | Text text =>
    rw [hkind] at h
    rw [stored.json_eq (by rw [hkind]; rfl)]
    refine (select_message_json rfl rfl rfl (t := some text) ?_).trans ?_
    · rw [content_text, string_property_eq (k := "text") rfl (valid_text h)]
      rfl
    · simp only [bind_some, true_and, reply_strings_iff]
  | DirectedRequest directed =>
    rw [hkind] at h
    rw [stored.json_eq (by rw [hkind]; rfl)]
    refine (select_message_json rfl rfl rfl (t := some directed.body) ?_)
    rw [content_text, string_property_eq (k := "text") rfl (valid_text h), ok_bind,
      string_property_eq (k := "target_device_id") rfl
        (encode_hex_is_hex directed.target_device_id)]
    rfl
  | RequestDeliveryOutcome outcome =>
    rw [hkind] at h
    rw [stored.json_eq (by rw [hkind]; rfl)]
    obtain ⟨hreply, hout⟩ := of_decide_eq_true h
    refine select_message_json rfl rfl rfl (t := none) ?_
    rw [content_text, require_bind (by simpa using hreply), string_property_eq (k := "outcome") rfl]
    · rfl
    · cases outcome with
      | Responded => exact absurd rfl hout
      | Admitted | ExpiredBeforeAdmission | EndedWithoutResponse => rfl
  | CollaborationPolicyProposal proposal =>
    rw [stored.json_eq (by rw [hkind]; rfl)]
    refine select_message_json rfl rfl rfl (t := none) ?_
    rw [content_text,
      string_property_eq (k := "policy_digest") rfl (encode_hex_is_hex proposal.policy_digest),
      ok_bind,
      string_property_eq (k := "proposal_id") rfl (encode_hex_is_hex proposal.proposal_id), ok_bind,
      @optional_hex_property_eq _ "replaces_policy_digest" 32 proposal.replaces_policy_digest rfl]
    rfl
  | CollaborationPolicyResponse response =>
    rw [stored.json_eq (by rw [hkind]; rfl)]
    refine select_message_json rfl rfl rfl (t := none) ?_
    rw [content_text,
      string_property_eq (k := "policy_digest") rfl (encode_hex_is_hex response.policy_digest),
      ok_bind,
      string_property_eq (k := "proposal_id") rfl (encode_hex_is_hex response.proposal_id), ok_bind,
      string_property_eq (k := "outcome") rfl]
    · rfl
    · cases response.outcome <;> rfl
  | CollaborationPolicyRevocation digest =>
    rw [stored.json_eq (by rw [hkind]; rfl)]
    refine select_message_json rfl rfl rfl (t := none) ?_
    rw [content_text, string_property_eq (k := "policy_digest") rfl (encode_hex_is_hex digest)]
    rfl
  | RepeatPairingRequest | RepeatPairingResponse =>
    rw [hkind] at h
    cases h

end

/-! ## One read

A read takes the first reply above its cursor, or moves the cursor to the end of the page. -/

/-- A page with a continuation has a field the reader does not expect. -/
theorem read_recipe_page_eq_ok {messages : List Json} {page : HistoryPage} {limit : ℕ}
    {read : List Json × Bool} :
    read_recipe_page (read_messages_result messages page) limit = .ok read
    ↔ page.next_cursor = none ∧ messages.length ≤ limit ∧ read = (messages, page.has_more) := by
  obtain ⟨stored, has_more, next_cursor⟩ := page
  cases next_cursor with
  | some cursor =>
    constructor
    · rintro ⟨⟩
    · rintro ⟨⟨⟩, _⟩
  | none =>
    have hread : read_recipe_page (read_messages_result messages ⟨stored, has_more, none⟩) limit
        = some_or ((some messages).filter (·.length ≤ limit)) .invalid_response
          >>= fun messages => .ok (messages, has_more) := rfl
    rw [hread, some_or_ok]
    simp only [filter_eq_some_iff, some.injEq, decide_eq_true_eq, Except.ok.injEq, true_and]
    constructor
    · rintro ⟨_, ⟨rfl, hle⟩, rfl⟩
      exact ⟨hle, rfl⟩
    · rintro ⟨hle, rfl⟩
      exact ⟨messages, ⟨rfl, hle⟩, rfl⟩

/-- What one read of a slot needs of the history: at most one record is left to read, its
numbers are safe integers and the answer fits. -/
structure Readable (history : History) (binding : RecipeBinding) (slot : SubmittedSlot) : Prop where
  single : (history.after slot.cursor).length ≤ 1
  safe : ∀ stored ∈ history.after slot.cursor, SafeIntegers stored
  fits : (respond (read_messages history binding.conversation_id slot.cursor 1)).isSome = true

section

variable {history : History} {binding : RecipeBinding} {slot : SubmittedSlot}

/-- What an accepted page holds. -/
def observed (history : History) (binding : RecipeBinding) (slot : SubmittedSlot) :
    RecipeReplyPage × SubmittedSlot :=
  match history.after slot.cursor with
  | [] => (.pending slot.cursor false, slot)
  | stored :: _ =>
    match reply_of binding slot.message_id stored with
    | some reply => (.reply reply, { slot with reply := some reply })
    | none => (.pending stored.cursor false, { slot with cursor := stored.cursor })

theorem select_recipe_reply_eq_ok (hcur : slot.cursor ≤ MAX_SAFE_INTEGER)
    {next_cursor : Option ℕ} (hnext : next_cursor = none ↔ (history.after slot.cursor).length ≤ 1)
    {page : RecipeReplyPage} : select_recipe_reply (read_messages_result
        (((history.after slot.cursor).take 1).map (·.json binding.conversation_id false))
        ⟨(history.after slot.cursor).take 1, 1 < (history.after slot.cursor).length, next_cursor⟩)
      binding slot.message_id slot.cursor 1 = .ok page ↔ (history.after slot.cursor).length ≤ 1
      ∧ (∀ stored ∈ history.after slot.cursor, SafeIntegers stored)
      ∧ page = (observed history binding slot).1 := by
  have hvalid : ∀ stored ∈ history.after slot.cursor, stored.valid = true
      ∧ slot.cursor < stored.cursor := fun stored h =>
    ⟨history.valid stored (mem_of_mem_filter h), of_decide_eq_true (mem_filter.1 h).2⟩
  rw [select_recipe_reply, require_bind ⟨hcur, Nat.le_refl 1, by decide⟩, bind_ok, observed]
  simp only [read_recipe_page_eq_ok, hnext]
  rcases hafter : history.after slot.cursor with _ | ⟨stored, _ | ⟨_, _⟩⟩
  · constructor
    · rintro ⟨_, ⟨-, -, rfl⟩, h⟩
      cases h
      exact ⟨Nat.zero_le 1, forall_mem_nil _, rfl⟩
    · rintro ⟨-, -, rfl⟩
      exact ⟨_, ⟨Nat.zero_le 1, Nat.zero_le 1, rfl⟩, rfl⟩
  · obtain ⟨hvalid, hlt⟩ := hvalid stored (hafter ▸ mem_singleton_self stored)
    constructor
    · rintro ⟨_, ⟨-, -, rfl⟩, h⟩
      obtain ⟨-, h⟩ := require_ok.1 h
      obtain ⟨selection, hfold, h⟩ := bind_ok.1 h
      cases h
      obtain ⟨_, hselect, hrest⟩ := bind_ok.1 hfold
      cases hrest
      obtain ⟨⟨hsafe, -, -⟩, rfl⟩ := (select_message_stored hvalid).1 hselect
      refine ⟨Nat.le_refl 1, fun other h => mem_singleton.1 h ▸ hsafe, ?_⟩
      dsimp only
      cases reply_of binding slot.message_id stored <;> rfl
    · rintro ⟨-, hsafe, rfl⟩
      refine ⟨_, ⟨Nat.le_refl 1, Nat.le_refl 1, rfl⟩, ?_⟩
      refine require_ok.2 ⟨by rintro ⟨⟩, bind_ok.2 ⟨_, bind_ok.2 ⟨_,
        (select_message_stored hvalid).2 ⟨⟨hsafe stored (mem_singleton_self stored), hlt,
          not_mem_nil⟩, rfl⟩, rfl⟩, ?_⟩⟩
      dsimp only
      cases reply_of binding slot.message_id stored <;> rfl
  · constructor
    · rintro ⟨_, ⟨hle, -⟩, _⟩
      exact absurd hle (by simp)
    · rintro ⟨hle, -⟩
      exact absurd hle (by simp)

/-- A read of a readable history returns what is left of it; any other read fails and leaves the
slot. -/
theorem observe_cases (hcur : slot.cursor ≤ MAX_SAFE_INTEGER) :
    (Readable history binding slot ∧ observe history binding slot
        = (.ok (observed history binding slot).1, (observed history binding slot).2))
    ∨ (¬ Readable history binding slot
      ∧ ∃ error, observe history binding slot = (.error error, slot)) := by
  obtain ⟨next_cursor, hread, hnext⟩ := @read_messages_eq history binding.conversation_id
    slot.cursor 1 ⟨Nat.le_refl 1, by decide⟩ (Nat.le_trans hcur (by decide))
  have hselect := @select_recipe_reply_eq_ok history binding slot hcur next_cursor hnext
  rw [observe]
  cases hrespond : respond (read_messages history binding.conversation_id slot.cursor 1) with
  | none =>
    refine .inr ⟨fun h => ?_, .service, rfl⟩
    have hfits := h.fits
    rw [hrespond] at hfits
    cases hfits
  | some value =>
    cases hread.symm.trans (respond_eq_some.1 hrespond).1
    dsimp only
    cases hpage : select_recipe_reply _ binding slot.message_id slot.cursor 1 with
    | error error =>
      refine .inr ⟨fun h => ?_, error, rfl⟩
      have := hpage.symm.trans (hselect.2 ⟨h.single, h.safe, rfl⟩)
      cases this
    | ok page =>
      obtain ⟨hsingle, hsafe, rfl⟩ := hselect.1 hpage
      refine .inl ⟨⟨hsingle, hsafe, by rw [hrespond]; rfl⟩, ?_⟩
      rw [observed]
      cases history.after slot.cursor with
      | nil => rfl
      | cons stored rest =>
        dsimp only
        cases reply_of binding slot.message_id stored <;> rfl

end
/-! ## Runs of polls

Polls over a growing history find the first reply, and keep it. -/

/-- The first reply in the history after the request, as a slot returns it. -/
def FirstReply (binding : RecipeBinding) (request : MessageId) (start : ℕ) (history : History)
    (reply : RecipeReply) : Prop :=
  ∃ stored ∈ history.messages, start < stored.cursor
    ∧ reply_of binding request stored = some reply
    ∧ ∀ other ∈ history.messages, start < other.cursor →
      reply_of binding request other ≠ none → stored.cursor ≤ other.cursor

/-- What is promised of one poll of a slot whose request was sent at `start`. -/
structure PollSound (binding : RecipeBinding) (start : ℕ) (slot : SubmittedSlot)
    (input : PollInput) : Prop where
  answers : ∃ page, (poll binding slot input).1 = .ok page
  advances : ∀ cursor, (poll binding slot input).1 = .ok (.pending cursor true) →
    slot.cursor < (poll binding slot input).2.cursor
  passes_no_reply : ∀ stored ∈ input.second.messages, start < stored.cursor →
    reply_of binding slot.message_id stored ≠ none →
      (poll binding slot input).2.cursor < stored.cursor
  first : ∀ reply, (poll binding slot input).1 = .ok (.reply reply) →
    FirstReply binding slot.message_id start input.second reply
      ∧ (poll binding slot input).2.reply = some reply
  reaches : (∃ stored ∈ input.first.messages, start < stored.cursor
      ∧ reply_of binding slot.message_id stored ≠ none) →
    ∃ reply, (poll binding slot input).1 = .ok (.reply reply)
  keeps : ∀ reply, slot.reply = some reply → (poll binding slot input).1 = .ok (.reply reply)

/-- What a poll needs: that its reads are of readable histories and its watch's answer fits. -/
def PollMeets (binding : RecipeBinding) (slot : SubmittedSlot) (input : PollInput) : Prop :=
  slot.reply = none → Readable input.first binding slot
    ∧ ((observe input.first binding slot).2.reply = none →
      (respond (processed_messages binding.conversation_id input.processed
          input.watch_has_more)).isSome = true
        ∧ Readable input.second binding (observe input.first binding slot).2)

/-- A property of every poll of a run. -/
def EveryPoll (binding : RecipeBinding) (p : SubmittedSlot → PollInput → Prop) :
    SubmittedSlot → List PollInput → Prop
  | _, [] => True
  | slot, input :: inputs =>
    p slot input ∧ EveryPoll binding p (poll binding slot input).2 inputs

/-- The histories of a run only grow. -/
def Follows : History → List PollInput → Prop
  | _, [] => True
  | history, input :: inputs => history.Grows input.first ∧ Follows input.second inputs

/-- What a slot knows: its cursor is before every reply, and the reply it holds is the first. -/
structure SubmittedSlot.Sound (slot : SubmittedSlot) (binding : RecipeBinding) (start : ℕ)
    (history : History) : Prop where
  safe : slot.cursor ≤ MAX_SAFE_INTEGER
  started : start ≤ slot.cursor
  known : history.Reaches start slot.cursor
  unpassed : ∀ stored ∈ history.messages, start < stored.cursor →
    reply_of binding slot.message_id stored ≠ none → slot.cursor < stored.cursor
  first : ∀ reply, slot.reply = some reply →
    FirstReply binding slot.message_id start history reply

section

variable {binding : RecipeBinding} {start : ℕ} {slot : SubmittedSlot} {history later : History}

theorem FirstReply.grows {request : MessageId} {reply : RecipeReply}
    (h : FirstReply binding request start history reply) (hgrows : history.Grows later) :
    FirstReply binding request start later reply := by
  obtain ⟨stored, hmem, hstart, hreply, hfirst⟩ := h
  refine ⟨stored, hgrows.subset hmem, hstart, hreply, fun other hother hstart' hreply' => ?_⟩
  rcases hgrows.mem hother with hold | hnew
  · exact hfirst other hold hstart' hreply'
  · exact Nat.le_of_lt (hnew stored hmem)

theorem SubmittedSlot.Sound.grows (h : slot.Sound binding start history)
    (hgrows : history.Grows later) : slot.Sound binding start later where
  safe := h.safe
  started := h.started
  known := h.known.grows hgrows
  unpassed stored hmem hstart hreply := by
    rcases h.known.added hgrows hmem hstart with hold | hnew
    · exact h.unpassed stored hold hstart hreply
    · exact hnew
  first reply hreply := (h.first reply hreply).grows hgrows

/-- A reply that is after the request is what an accepted read returns, whatever else the
history holds. -/
theorem SubmittedSlot.Sound.observes (h : slot.Sound binding start history)
    (hnone : slot.reply = none) (hread : Readable history binding slot) :
    (observed history binding slot).2.Sound binding start history
    ∧ (observed history binding slot).2.message_id = slot.message_id
    ∧ ((∃ reply, (observed history binding slot).1 = .reply reply
        ∧ (observed history binding slot).2.reply = some reply)
      ∨ ((∃ cursor, (observed history binding slot).1 = .pending cursor false)
        ∧ (observed history binding slot).2.reply = none
        ∧ ∀ stored ∈ history.messages, start < stored.cursor →
          reply_of binding slot.message_id stored = none)) := by
  -- every reply is among the records that are left to read
  have hleft : ∀ stored ∈ history.messages, start < stored.cursor →
      reply_of binding slot.message_id stored ≠ none → stored ∈ history.after slot.cursor :=
    fun stored hmem hstart hreply => History.mem_after.2
      ⟨hmem, h.unpassed stored hmem hstart hreply⟩
  rw [observed]
  match hafter : history.after slot.cursor with
  | [] =>
    rw [hafter] at hleft
    exact ⟨h, rfl, .inr ⟨⟨_, rfl⟩, hnone, fun stored hmem hstart => by
      by_contra hreply
      exact not_mem_nil (hleft stored hmem hstart hreply)⟩⟩
  | stored :: rest =>
    obtain ⟨hmem, hlt⟩ := History.mem_after.1 (hafter ▸ mem_cons_self : stored ∈ history.after _)
    have hrest : rest = [] := length_eq_zero_iff.1 (by
      have := hread.single
      rw [hafter, length_cons] at this
      omega)
    subst hrest
    rw [hafter] at hleft
    dsimp only
    cases hreply : reply_of binding slot.message_id stored with
    | some reply =>
      refine ⟨⟨h.safe, h.started, h.known, h.unpassed, ?_⟩, rfl, .inl ⟨reply, rfl, rfl⟩⟩
      rintro _ ⟨⟩
      refine ⟨stored, hmem, Nat.lt_of_le_of_lt h.started hlt, hreply, ?_⟩
      intro other hother hstart hreply'
      exact Nat.le_of_eq (congrArg _ (mem_singleton.1 (hleft other hother hstart hreply')).symm)
    | none =>
      have hunread : ∀ other ∈ history.messages, start < other.cursor →
          reply_of binding slot.message_id other = none := fun other hother hstart => by
        by_contra hreply'
        rw [mem_singleton.1 (hleft other hother hstart hreply')] at hreply'
        exact hreply' hreply
      refine ⟨⟨(hread.safe stored (hafter ▸ mem_cons_self)).cursor,
        Nat.le_trans h.started (Nat.le_of_lt hlt), .inr ⟨stored, hmem, rfl⟩, ?_, ?_⟩, rfl,
        .inr ⟨⟨_, rfl⟩, hnone, hunread⟩⟩
      · exact fun other hother hstart hreply' => absurd (hunread other hother hstart) hreply'
      · intro reply hreply'
        exact nomatch hnone.symm.trans hreply'

/-- A poll that is answered by a slot that knows what it should keeps what is promised. -/
theorem PollSound.of_ok {input : PollInput} {slot' : SubmittedSlot}
    (hpoll : poll binding slot input = (.ok page, slot'))
    (hsound : slot'.Sound binding start input.second) (hid : slot'.message_id = slot.message_id)
    (hkeeps : ∀ reply, slot.reply = some reply → page = .reply reply)
    (hpage : (∃ reply, page = .reply reply ∧ slot'.reply = some reply)
      ∨ ((∃ cursor, page = .pending cursor false) ∧ ∀ stored ∈ input.second.messages,
        start < stored.cursor → reply_of binding slot.message_id stored = none)) :
    PollSound binding start slot input := by
  refine ⟨?_, ?_, ?_, ?_, ?_, ?_⟩
  all_goals rw [hpoll]
  · exact ⟨page, rfl⟩
  · rintro cursor ⟨⟩
    rcases hpage with ⟨_, ⟨⟩, _⟩ | ⟨⟨_, ⟨⟩⟩, _⟩
  · rw [← hid]
    exact hsound.unpassed
  · rintro reply ⟨⟩
    rcases hpage with ⟨_, ⟨⟩, hheld⟩ | ⟨⟨_, ⟨⟩⟩, _⟩
    exact ⟨hid ▸ hsound.first reply hheld, hheld⟩
  · rintro ⟨stored, hmem, hstart, hreply⟩
    rcases hpage with ⟨reply, rfl, -⟩ | ⟨-, hunread⟩
    · exact ⟨reply, rfl⟩
    · exact absurd (hunread stored (input.grows.subset hmem) hstart) hreply
  · intro reply hreply
    rw [hkeeps reply hreply]

theorem PollSound.ne_error {input : PollInput} {error : RecipeRunError}
    (h : PollSound binding start slot input) : (poll binding slot input).1 ≠ .error error := by
  obtain ⟨page, hpage⟩ := h.answers
  rw [hpage]
  exact nofun

/-- The watch's answer is read when it fits. -/
theorem read_watched {input : PollInput} {value : Json}
    (h : respond (processed_messages binding.conversation_id input.processed input.watch_has_more)
      = some value) : ∃ read, read_recipe_page value recipe_history_page_size = .ok read := by
  have hvalue := (respond_eq_some.1 h).1
  rw [processed_messages_eq binding.conversation_id input.watch_has_more input.valid] at hvalue
  cases hvalue
  exact ⟨_, read_recipe_page_eq_ok.2 ⟨rfl, by rw [length_map]; exact input.length_le, rfl⟩⟩

/-- A poll keeps what is promised exactly when its reads and its watch are answered. -/
theorem SubmittedSlot.Sound.polls (h : slot.Sound binding start history) {input : PollInput}
    (hgrows : history.Grows input.first) :
    (PollSound binding start slot input ↔ PollMeets binding slot input)
    ∧ (PollMeets binding slot input →
      (poll binding slot input).2.Sound binding start input.second) := by
  have hfirst := h.grows hgrows
  rw [PollMeets]
  cases hreply : slot.reply with
  | some reply =>
    have hpoll : poll binding slot input = (.ok (.reply reply), slot) := by
      rw [poll, hreply]
    have hsecond := hfirst.grows input.grows
    refine ⟨⟨fun _ => nofun, fun _ => .of_ok hpoll hsecond rfl ?_ (.inl ⟨reply, rfl, hreply⟩)⟩,
      fun _ => hpoll ▸ hsecond⟩
    intro other hother
    cases hreply.symm.trans hother
    rfl
  | none =>
    have hkeeps : ∀ {page : RecipeReplyPage} (reply), slot.reply = some reply →
        page = .reply reply := fun reply hother => nomatch hreply.symm.trans hother
    rcases @observe_cases input.first binding slot hfirst.safe with
      ⟨hread, hobs⟩ | ⟨hread, error, hobs⟩
    · obtain ⟨hsound, hid, ⟨reply, hpage, hheld⟩ | ⟨⟨cursor, hpage⟩, hheld, -⟩⟩ :=
        hfirst.observes hreply hread
      · -- the first read returns the reply
        have hpoll : poll binding slot input
            = (.ok (.reply reply), (observed input.first binding slot).2) := by
          rw [poll, hreply, hobs, hpage]
        rw [hobs, hheld]
        have hsecond := hsound.grows input.grows
        exact ⟨⟨fun _ _ => ⟨hread, nofun⟩, fun _ => .of_ok hpoll hsecond hid hkeeps
          (.inl ⟨reply, rfl, hheld⟩)⟩, fun _ => hpoll ▸ hsecond⟩
      · have hwatch := hsound.grows input.grows
        rw [hobs]
        dsimp only
        cases hrespond : respond (processed_messages binding.conversation_id input.processed
            input.watch_has_more) with
        | none =>
          have hpoll : poll binding slot input
              = (.error .service, (observed input.first binding slot).2) := by
            rw [poll, hreply, hobs, hpage]
            dsimp only
            rw [hrespond]
          exact ⟨⟨fun hsound => absurd (congrArg Prod.fst hpoll) hsound.ne_error,
            fun hmeets => nomatch ((hmeets rfl).2 hheld).1⟩,
            fun hmeets => nomatch ((hmeets rfl).2 hheld).1⟩
        | some value =>
          obtain ⟨_, hvalue⟩ := read_watched hrespond
          have hpoll : poll binding slot input
              = observe input.second binding (observed input.first binding slot).2 := by
            rw [poll, hreply, hobs, hpage]
            dsimp only
            rw [hrespond]
            dsimp only
            rw [hvalue]
          rcases @observe_cases input.second binding _ hwatch.safe with
            ⟨hagain, hobs'⟩ | ⟨hagain, error, hobs'⟩
          · obtain ⟨hlast, hid', hres⟩ := hwatch.observes hheld hagain
            rw [hobs'] at hpoll
            refine ⟨⟨fun _ _ => ⟨hread, fun _ => ⟨rfl, hagain⟩⟩, fun _ =>
              .of_ok hpoll hlast (hid'.trans hid) hkeeps ?_⟩, fun _ => hpoll ▸ hlast⟩
            rw [hid] at hres
            exact hres.imp_right fun hpend => ⟨hpend.1, hpend.2.2⟩
          · rw [hobs'] at hpoll
            exact ⟨⟨fun hsound => absurd (congrArg Prod.fst hpoll) hsound.ne_error,
              fun hmeets => absurd ((hmeets rfl).2 hheld).2 hagain⟩,
              fun hmeets => absurd ((hmeets rfl).2 hheld).2 hagain⟩
    · have hpoll : poll binding slot input = (.error error, slot) := by
        rw [poll, hreply, hobs]
      exact ⟨⟨fun hsound => absurd (congrArg Prod.fst hpoll) hsound.ne_error,
        fun hmeets => absurd (hmeets rfl).1 hread⟩, fun hmeets => absurd (hmeets rfl).1 hread⟩

/-- A slot whose request was sent at `start` keeps every promise in exactly the runs whose
reads are of readable histories and whose watches are answered. The induction is on the
polls; what a slot knows (`SubmittedSlot.Sound`) carries it. -/
theorem recipe_polls_sound (binding : RecipeBinding) (request : MessageId)
    (hstart : start ≤ MAX_SAFE_INTEGER) (history : History) (inputs : List PollInput)
    (hfollows : Follows history inputs) :
    EveryPoll binding (PollSound binding start) ⟨request, start, none⟩ inputs
    ↔ EveryPoll binding (PollMeets binding) ⟨request, start, none⟩ inputs := by
  have hsound : (⟨request, start, none⟩ : SubmittedSlot).Sound binding start history :=
    ⟨hstart, Nat.le_refl _, .inl rfl, fun _ _ h _ => h, nofun⟩
  generalize (⟨request, start, none⟩ : SubmittedSlot) = slot at hsound
  induction inputs generalizing slot history with
  | nil => exact Iff.rfl
  | cons input inputs ih =>
    obtain ⟨hgrows, hrest⟩ := hfollows
    obtain ⟨hiff, hnext⟩ := hsound.polls hgrows
    rw [EveryPoll, EveryPoll, hiff]
    exact and_congr_right fun hmeets => ih input.second hrest _ (hnext hmeets)

end

/-! ## A reply that another message follows

The reply is in the page that the poll reads, and the poll refuses the page. -/

namespace Scene

def binding : RecipeBinding := ⟨"review", .repeated 32 1, .repeated 32 2⟩

def input (history : History) : PollInput :=
  ⟨history, [], false, history, nofun, Nat.zero_le _, prefix_refl _⟩

end Scene

theorem Scene.readable : Readable Scene.answered Scene.binding ⟨Scene.request, 1, none⟩ where
  single := by decide +kernel
  safe stored h := by
    obtain rfl : stored = Scene.reply := mem_singleton.1 (mem_of_mem_filter h)
    constructor <;> decide +kernel
  fits := by decide +kernel

open Scene

theorem recipe_polls_sound_answered : EveryPoll binding (PollSound binding 1) ⟨request, 1, none⟩
    [input answered] :=
  (recipe_polls_sound binding request (by decide) answered
    [input answered] ⟨prefix_refl _, trivial⟩).2
    ⟨fun _ => ⟨readable, fun hnone => absurd hnone (by decide +kernel)⟩, trivial⟩

/-- The reply is in the history, and a message after it makes every poll fail. -/
theorem recipe_poll_followed_reply : poll binding ⟨request, 1, none⟩ (input followed)
    = (.error .invalid_response, ⟨request, 1, none⟩) := by
  decide +kernel

end Konclave.HostExtension
