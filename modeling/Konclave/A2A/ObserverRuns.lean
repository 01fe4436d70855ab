/-
`Konclave.A2AKonclaveBridge`: runs of the observer of a task's response.

The observer's cursor passes what a page shows, and only a read shows everything that is
stored. It overlooks nothing as long as nothing is ingested outside of the pages it
synchronizes and watches and every page it asks for is one it takes.
-/
import Konclave.A2A.Observer

set_option autoImplicit false

namespace Konclave.A2A
open Domain Daemon.Messages Observer ObservedMessage List

/-! ## What the observer makes of a page

A page of the daemon is read as it was written: every message is shown with the fields the
observer compares. -/

/-- An inbound text of the target in reply to the request. -/
def IsResponse (expected : ExpectedResponse) (stored : StoredHistoryMessage) : Prop :=
  (∃ text, stored.message.content = .Text text) ∧ stored.direction = .Inbound
    ∧ stored.sender = expected.sender_device_id
    ∧ stored.message.reply_to = some expected.reply_to_message_id

/-- What the observer sees of a message. -/
structure Shows (expected : ExpectedResponse) (stored : StoredHistoryMessage)
    (message : ObservedMessage) : Prop where
  valid_shape : message.valid_shape = true
  cursor : message.cursor = stored.cursor
  response : (message.conversation_id = encode_hex expected.conversation_id.bytes
      ∧ message.sender_device_id = encode_hex expected.sender_device_id.bytes
      ∧ message.direction = "inbound" ∧ message.content_type = "text"
      ∧ message.reply_to_message_id = some (encode_hex expected.reply_to_message_id.bytes))
    ↔ IsResponse expected stored

variable {messages : List (StoredHistoryMessage × Bool)}
  {replaces proposal outcome target digest text : Option String} {page : MessagePage}
  {later : History} {has_more commits : Bool} {kind : String}

section

variable {expected : ExpectedResponse} {stored : StoredHistoryMessage} {duplicate : Bool}

/-- What the observer reads of a message: the fields all have, and those of its content. -/
def observed_message (conversation_id : ConversationId) (stored : StoredHistoryMessage)
    (duplicate : Bool) (content_type : String) (text target_device_id proposal_id policy_digest
      replaces_policy_digest outcome : Option String) : ObservedMessage :=
  ⟨encode_hex conversation_id.bytes, encode_hex stored.message.message_id.bytes,
    encode_hex stored.envelope_id.bytes, encode_hex stored.sender.bytes, stored.epoch,
    stored.message.sender_counter, stored.message.sent_at_unix_milliseconds,
    stored.message.reply_to.map fun id => encode_hex id.bytes, stored.cursor,
    direction_name stored.direction, content_type, text, target_device_id, proposal_id,
    policy_digest, replaces_policy_digest, outcome, duplicate⟩

theorem optional_string_hex {n : ℕ} {value : Json} {key : String} {id : Option (FixedBytes n)}
    (h : value.field? key = some (id.elim .null hex_json)) :
    optional_string value key = some (id.map fun id => encode_hex id.bytes) := by
  rw [optional_string, h]
  cases id <;> rfl

theorem deserialize_json {conversation_id : ConversationId} {content : List (String × Json)}
    (hduplicate : (message_json conversation_id stored duplicate kind content).field? "duplicate"
      = some (.bool duplicate))
    (htext : optional_string (message_json conversation_id stored duplicate kind content) "text"
      = some text)
    (htarget : optional_string (message_json conversation_id stored duplicate kind content)
      "target_device_id" = some target)
    (hproposal : optional_string (message_json conversation_id stored duplicate kind content)
      "proposal_id" = some proposal)
    (hdigest : optional_string (message_json conversation_id stored duplicate kind content)
      "policy_digest" = some digest)
    (hreplaces : optional_string (message_json conversation_id stored duplicate kind content)
      "replaces_policy_digest" = some replaces)
    (hout : optional_string (message_json conversation_id stored duplicate kind content)
      "outcome" = some outcome) :
    deserialize (message_json conversation_id stored duplicate kind content)
    = some (observed_message conversation_id stored duplicate kind text target proposal digest
      replaces outcome) := by
  have hreply : optional_string (message_json conversation_id stored duplicate kind content)
      "reply_to_message_id" = some (stored.message.reply_to.map fun id => encode_hex id.bytes) :=
    optional_string_hex rfl
  rw [deserialize, hreply, htext, htarget, hproposal, hdigest, hreplaces, hout, hduplicate]
  rfl

theorem shows_observed (htext : kind = "text" ↔ ∃ text, stored.message.content = .Text text)
    (hshape : kind = "text" → text.any (· ≠ "") = true ∧ target = none ∧ proposal = none
      ∧ digest = none ∧ replaces = none ∧ outcome = none) :
    Shows expected stored (observed_message expected.conversation_id stored duplicate kind text
      target proposal digest replaces outcome) where
  valid_shape := by
    have hdir := direction_name_cases stored.direction
    have hreply : (stored.message.reply_to.map fun id => encode_hex id.bytes).all
        (is_lowercase_hex 32) = true := by
      cases stored.message.reply_to with
      | none => rfl
      | some id => exact encode_hex_is_hex id
    exact decide_eq_true ⟨encode_hex_is_hex expected.conversation_id,
      encode_hex_is_hex stored.message.message_id, encode_hex_is_hex stored.envelope_id,
      encode_hex_is_hex stored.sender, hreply, hdir, hshape⟩
  cursor := rfl
  response := by
    rw [IsResponse, ← htext, ← reply_strings_iff]
    simp only [observed_message, true_and]
    tauto

theorem deserialize_stored (hvalid : stored.valid = true) : ∃ message,
    deserialize (stored.json expected.conversation_id duplicate) = some message
    ∧ Shows expected stored message := by
  rw [StoredHistoryMessage.valid, Bool.and_eq_true] at hvalid
  have hbody := hvalid.2
  cases hkind : stored.message.content with
  | Text text =>
    rw [hkind] at hbody
    rw [stored.json_eq (by rw [hkind]; rfl)]
    refine ⟨_, deserialize_json rfl rfl rfl rfl rfl rfl rfl, shows_observed (by simp [hkind]) ?_⟩
    intro _
    refine ⟨?_, rfl, rfl, rfl, rfl, rfl⟩
    exact decide_eq_true (of_decide_eq_true hbody).1
  | CollaborationPolicyProposal proposal =>
    rw [stored.json_eq (by rw [hkind]; rfl)]
    exact ⟨_, deserialize_json rfl rfl rfl rfl rfl (optional_string_hex rfl) rfl,
      shows_observed (by simp [hkind]) fun h => absurd h (by decide)⟩
  | RepeatPairingRequest | RepeatPairingResponse =>
    rw [hkind] at hbody
    cases hbody
  | DirectedRequest | RequestDeliveryOutcome | CollaborationPolicyResponse
  | CollaborationPolicyRevocation =>
    rw [stored.json_eq (by rw [hkind]; rfl)]
    exact ⟨_, deserialize_json rfl rfl rfl rfl rfl rfl rfl,
      shows_observed (by simp [hkind]) fun h => absurd h (by decide)⟩

/-- The messages the observer sees of those in an answer. -/
def ShowsAll (expected : ExpectedResponse) (messages : List (StoredHistoryMessage × Bool))
    (page : MessagePage) : Prop :=
  List.Forall₂ (fun message observed => Shows expected message.1 observed) messages page.messages

theorem mapM_deserialize (hvalid : ∀ message ∈ messages, message.1.valid = true) : ∃ observed,
    (messages.map fun message => message.1.json expected.conversation_id message.2).mapM
      deserialize = some observed
    ∧ List.Forall₂ (fun message observed => Shows expected message.1 observed) messages
      observed := by
  induction messages with
  | nil => exact ⟨[], rfl, .nil⟩
  | cons message messages ih =>
    obtain ⟨first, hfirst, hshows⟩ := @deserialize_stored expected message.1 message.2
      (hvalid message mem_cons_self)
    obtain ⟨rest, hrest, hall⟩ := ih fun other h => hvalid other (mem_cons_of_mem _ h)
    refine ⟨first :: rest, ?_, .cons hshows hall⟩
    rw [map_cons, mapM_cons, hfirst, hrest]
    rfl

/-- The observer takes a page without a continuation that fits and is not longer than it asked for.
-/
theorem request_page_some {config : A2AKonclaveBridgeConfig} {answer : Except MessageReadError Json}
    {scanned : List StoredHistoryMessage} (hans : answer = .ok (read_messages_result
      (messages.map fun message => message.1.json expected.conversation_id message.2)
      ⟨scanned, has_more, none⟩)) (hvalid : ∀ message ∈ messages, message.1.valid = true)
    (hfits : page_size messages ≤ MAX_RPC_PAYLOAD_BYTES)
    (hlen : messages.length ≤ config.history_page_size) :
    ∃ page, request_page config answer = some page ∧ ShowsAll expected messages page := by
  subst hans
  have hvalue := respond_page expected.conversation_id hvalid hfits scanned has_more
  obtain ⟨observed, hobs, hshows⟩ := @mapM_deserialize messages expected hvalid
  have hall : observed.all (·.valid_shape) = true := all_eq_true.2 fun message h => by
    obtain ⟨_, -, hmsg⟩ := exists_left_of_forall₂ hshows h
    exact hmsg.valid_shape
  have hbound : (messages.map fun message =>
      message.1.json expected.conversation_id message.2).length ≤ MAX_HISTORY_PAGE := by
    rw [length_map]
    exact Nat.le_trans hlen config.bounded
  have hpage : MessagePage.deserialize (read_messages_result
      (messages.map fun message => message.1.json expected.conversation_id message.2)
      ⟨scanned, has_more, none⟩) = some ⟨observed, has_more⟩ := by
    refine (if_pos ⟨?_, hbound⟩).trans (by rw [hobs]; rfl)
    exact fun key h => h
  refine ⟨⟨observed, has_more⟩, ?_, hshows⟩
  rw [request_page, hvalue, Option.bind_some, hpage]
  exact Option.filter_eq_some_iff.2 ⟨rfl, decide_eq_true ⟨hshows.length_eq ▸ hlen, hall⟩⟩

end
/-! ## Cursors -/

theorem maximum_cursor_cases (initial : ℕ) (messages : List ObservedMessage) :
    (maximum_cursor initial messages = initial
        ∨ ∃ message ∈ messages, message.cursor = maximum_cursor initial messages)
    ∧ initial ≤ maximum_cursor initial messages
    ∧ ∀ message ∈ messages, message.cursor ≤ maximum_cursor initial messages := by
  induction messages generalizing initial with
  | nil => exact ⟨.inl rfl, Nat.le_refl _, forall_mem_nil _⟩
  | cons message messages ih =>
    obtain ⟨hfrom, hinitial, hmsgs⟩ := ih (max initial message.cursor)
    rw [show maximum_cursor initial (message :: messages)
      = maximum_cursor (max initial message.cursor) messages from rfl]
    refine ⟨?_, by omega, forall_mem_cons.2 ⟨by omega, hmsgs⟩⟩
    rcases hfrom with hfrom | ⟨other, hother, hcur⟩
    · rcases Nat.le_total initial message.cursor with hle | hle
      · exact .inr ⟨message, mem_cons_self, by omega⟩
      · exact .inl (by omega)
    · exact .inr ⟨other, mem_cons_of_mem _ hother, hcur⟩

/-! ## Runs

The history grows between two pages. The observer has passed over no response: what it has
not seen lies above its cursor. -/

/-- The history after an event, whatever the observer makes of it. -/
def ObserverEvent.history (before : History) : ObserverEvent → History
  | .ingested later | .lost later | .processed later _ _ _ => later
  | .read _ => before

theorem Observer.step_history (observer : Observer) (config : A2AKonclaveBridgeConfig)
    (expected : ExpectedResponse) (event : ObserverEvent) :
    (observer.step config expected event).history = event.history observer.history := by
  cases event with
  | ingested later => rfl
  | lost later => rfl
  | read commits | processed later messages has_more commits =>
    rw [step]
    split
    · rfl
    · unfold take_page
      split
      · rfl
      · split <;> rfl

/-- What the observer knows: it stands at its start or at a message, and every response it has
passed was tried. -/
structure Observer.Sound (observer : Observer) (expected : ExpectedResponse) (start : ℕ) :
    Prop where
  known : observer.history.Reaches start observer.after_cursor
  tried : ∀ stored ∈ observer.history.messages, IsResponse expected stored →
    start < stored.cursor → stored.cursor ≤ observer.after_cursor →
    stored.cursor ∈ observer.tried

/-- The event is one of an append-only history. -/
def ObserverEvent.Possible (observer : Observer) : ObserverEvent → Prop
  | .ingested later | .lost later => observer.history.Grows later
  | .read _ => True
  | .processed later messages _ _ => observer.history.Grows later
      ∧ ∀ message ∈ messages, message.1 ∈ later.messages

/-- What a step needs of the messages it is about. A read leaves nothing unread; nothing above
the observer's cursor was ingested outside of a synchronized or watched page; and the messages
fit an RPC payload. -/
def ObserverEvent.Meets (config : A2AKonclaveBridgeConfig) (observer : Observer) :
    ObserverEvent → Prop
  | .read _ => observer.phase = .Reading →
    let messages := observer.history.after observer.after_cursor
    messages.length ≤ config.history_page_size
      ∧ page_size (messages.map (·, false)) ≤ MAX_RPC_PAYLOAD_BYTES
  | .processed later messages _ _ => observer.phase = .Syncing ∨ observer.phase = .Watching →
    messages.length ≤ config.history_page_size ∧ page_size messages ≤ MAX_RPC_PAYLOAD_BYTES
      ∧ (messages = [] ∨ ∀ stored ∈ later.after observer.after_cursor,
        stored ∈ messages.map Prod.fst)
  | _ => True

/-- What is promised of one step. -/
structure StepSound (config : A2AKonclaveBridgeConfig) (expected : ExpectedResponse) (start : ℕ)
    (observer : Observer) (event : ObserverEvent) : Prop where
  /-- Every page is taken. -/
  accepts : ∀ answer, observer.answer config expected event = some answer →
    ∃ page, request_page config answer = some page
  /-- A read that finds no response passes over everything that is stored. -/
  passes : ∀ commits, event = .read commits → observer.phase = .Reading →
    (observer.step config expected event).phase = .Syncing →
    ∀ stored ∈ observer.history.messages,
      stored.cursor ≤ (observer.step config expected event).after_cursor
  /-- At the start of an iteration no response was overlooked. -/
  overlooks_nothing : (observer.step config expected event).phase = .Reading →
    ∀ stored ∈ (observer.step config expected event).history.messages,
      IsResponse expected stored → start < stored.cursor →
      stored.cursor ≤ (observer.step config expected event).after_cursor →
      stored.cursor ∈ (observer.step config expected event).tried

/-- A property of every step of a run. -/
def EveryStep (config : A2AKonclaveBridgeConfig) (expected : ExpectedResponse)
    (p : Observer → ObserverEvent → Prop) : Observer → List ObserverEvent → Prop
  | _, [] => True
  | observer, event :: events =>
    p observer event ∧ EveryStep config expected p (observer.step config expected event) events

section

variable {config : A2AKonclaveBridgeConfig} {expected : ExpectedResponse} {start : ℕ}
  {observer : Observer}

theorem Observer.Sound.grows (h : observer.Sound expected start)
    (hgrows : observer.history.Grows later) (phase : Phase) :
    ({ observer with history := later, phase } : Observer).Sound expected start where
  known := h.known.grows hgrows
  tried stored hmem hresp hstart hle := by
    rcases h.known.added hgrows hmem hstart with hold | hnew
    · exact h.tried stored hold hresp hstart hle
    · exact absurd hle (Nat.not_le.2 hnew)

/-- A page that holds everything above the observer's cursor moves it on without passing a
response. -/
theorem Observer.Sound.take_page (h : observer.Sound expected start)
    (hshows : ShowsAll expected messages page)
    (hmem : ∀ message ∈ messages, message.1 ∈ observer.history.messages)
    (hcovers : messages = [] ∨ ∀ stored ∈ observer.history.after observer.after_cursor,
      stored ∈ messages.map Prod.fst) (commits : Bool) :
    (observer.take_page expected commits (some page)).Sound expected start := by
  rw [Observer.take_page]
  cases hresp : exact_response expected page.messages with
  | some response =>
    exact ⟨h.known, fun stored hstored his hstart hle =>
      mem_cons_of_mem _ (h.tried stored hstored his hstart hle)⟩
  | none =>
    obtain ⟨hfrom, hle', -⟩ := maximum_cursor_cases observer.after_cursor page.messages
    refine ⟨?_, fun stored hstored his hstart hle => ?_⟩
    · rcases hfrom with hsame | ⟨observed, hobs, hcur⟩
      · exact hsame.symm ▸ h.known
      · obtain ⟨message, hmsg, hshown⟩ := exists_left_of_forall₂ hshows hobs
        exact .inr ⟨message.1, hmem message hmsg, hshown.cursor.symm.trans hcur⟩
    · by_cases hpassed : stored.cursor ≤ observer.after_cursor
      · exact h.tried stored hstored his hstart hpassed
      · -- what lies between the two cursors is in the page, and no response is
        exfalso
        rcases hcovers with rfl | hcovers
        · have hnil : page.messages = [] := forall₂_nil_left_iff.1 hshows
          have hstays : stored.cursor ≤ maximum_cursor observer.after_cursor page.messages := hle
          rw [hnil] at hstays
          exact hpassed hstays
        · obtain ⟨message, hmsg, rfl⟩ := mem_map.1
            (hcovers stored (History.mem_after.2 ⟨hstored, Nat.lt_of_not_le hpassed⟩))
          obtain ⟨observed, hobs, hshown⟩ := exists_right_of_forall₂ hshows hmsg
          have hnot := find?_eq_none.1 hresp observed hobs
          exact hnot (decide_eq_true (hshown.response.2 his))

/-- A read that leaves nothing unread shows everything above the observer's cursor. -/
theorem Observer.Sound.read_page (h : observer.Sound expected start) (hstart : start ≤ I64_MAX)
    (hlen : (observer.history.after observer.after_cursor).length ≤ config.history_page_size)
    (hfits : page_size ((observer.history.after observer.after_cursor).map (·, false))
      ≤ MAX_RPC_PAYLOAD_BYTES) :
    ∃ page, request_page config (read_messages observer.history expected.conversation_id
        observer.after_cursor config.history_page_size) = some page
    ∧ ShowsAll expected ((observer.history.after observer.after_cursor).map (·, false))
      page := by
  have hafter : observer.after_cursor ≤ I64_MAX := by
    rcases h.known with hsame | ⟨stored, hmem, hcur⟩
    · exact hsame.symm ▸ hstart
    · exact hcur ▸ StoredHistoryMessage.cursor_le (observer.history.valid stored hmem)
  obtain ⟨next_cursor, hread, hnext⟩ := read_messages_eq observer.history
    expected.conversation_id ⟨config.positive, config.bounded⟩ hafter
  rw [hnext.2 hlen, take_of_length_le hlen] at hread
  have hmap : ((observer.history.after observer.after_cursor).map (·, false)).map
        (fun message => message.1.json expected.conversation_id message.2)
      = (observer.history.after observer.after_cursor).map
        (·.json expected.conversation_id false) := map_map
  rw [← hmap] at hread
  obtain ⟨page, hpage, hshows⟩ := request_page_some hread (forall_mem_map.2 fun stored hmem =>
      observer.history.valid stored (History.mem_after.1 hmem).1)
    hfits (by rw [length_map]; exact hlen)
  exact ⟨page, hpage, hshows⟩

/-- A step that is not a read is as promised when its page is taken and it leaves the observer
sound. -/
theorem Observer.Sound.step_sound {event : ObserverEvent}
    (hsound : (observer.step config expected event).Sound expected start)
    (hev : ∀ commits, event ≠ .read commits)
    (haccepts : ∀ answer, observer.answer config expected event = some answer →
      ∃ page, request_page config answer = some page) :
    StepSound config expected start observer event :=
  ⟨haccepts, fun commits h => absurd h (hev commits), fun _ => hsound.tried⟩

theorem Observer.Sound.steps_read (h : observer.Sound expected start) (hstart : start ≤ I64_MAX)
    (hmeets : ObserverEvent.Meets config observer (.read commits)) :
    StepSound config expected start observer (.read commits)
    ∧ (observer.step config expected (.read commits)).Sound expected start := by
  by_cases hphase : observer.phase = .Reading
  · have hans : observer.answer config expected (.read commits)
        = some (read_messages observer.history expected.conversation_id observer.after_cursor
          config.history_page_size) := if_pos hphase
    obtain ⟨hlen, hfits⟩ := hmeets hphase
    obtain ⟨page, hpage, hshows⟩ := h.read_page hstart hlen hfits
    have hstep : observer.step config expected (.read commits)
        = observer.take_page expected commits (some page) := by
      rw [step, hans, ← hpage]
    have hsound := h.take_page hshows
      (forall_mem_map.2 fun stored hmem => (History.mem_after.1 hmem).1)
      (.inr fun stored hmem => mem_map.2 ⟨(stored, false), mem_map_of_mem hmem, rfl⟩) commits
    rw [← hstep] at hsound
    refine ⟨⟨fun answer h' => ⟨page, ?_⟩, fun _ _ _ hnext stored hmem => ?_,
      fun _ => hsound.tried⟩, hsound⟩
    · cases hans.symm.trans h'
      exact hpage
    · rw [hstep] at hnext ⊢
      rw [Observer.take_page] at hnext ⊢
      cases hresp : exact_response expected page.messages with
      | some response =>
        rw [hresp] at hnext
        cases commits <;> cases hnext
      | none =>
        obtain ⟨-, hinitial, hmsgs⟩ := maximum_cursor_cases observer.after_cursor page.messages
        by_cases hpassed : stored.cursor ≤ observer.after_cursor
        · exact Nat.le_trans hpassed hinitial
        · obtain ⟨observed, hobs, hshown⟩ := exists_right_of_forall₂ hshows
            (mem_map_of_mem (History.mem_after.2 ⟨hmem, Nat.lt_of_not_le hpassed⟩))
          exact hshown.cursor ▸ hmsgs observed hobs
  · have hans : observer.answer config expected (.read commits) = none := if_neg hphase
    have hstep : observer.step config expected (.read commits) = observer := by
      rw [step, hans]
    rw [hstep]
    refine ⟨⟨fun answer h' => ?_, fun _ _ h' => absurd h' hphase,
      fun h' => absurd (hstep ▸ h') hphase⟩, h⟩
    cases hans.symm.trans h'

theorem Observer.Sound.steps_processed (h : observer.Sound expected start)
    (hgrows : observer.history.Grows later)
    (hstored : ∀ message ∈ messages, message.1 ∈ later.messages)
    (hmeets : ObserverEvent.Meets config observer
      (.processed later messages has_more commits)) :
    StepSound config expected start observer (.processed later messages has_more commits)
    ∧ (observer.step config expected (.processed later messages has_more commits)).Sound
      expected start := by
  have hgrow := h.grows hgrows observer.phase
  by_cases hphase : observer.phase = .Syncing ∨ observer.phase = .Watching
  · have hans : observer.answer config expected (.processed later messages has_more commits)
        = some (processed_messages expected.conversation_id messages has_more) := if_pos hphase
    obtain ⟨hlen, hfits, hcovers⟩ := hmeets hphase
    have hvalid : ∀ message ∈ messages, message.1.valid = true :=
      fun message hmem => later.valid _ (hstored message hmem)
    obtain ⟨page, hpage, hshows⟩ := request_page_some
      (processed_messages_eq expected.conversation_id has_more hvalid) hvalid hfits hlen
    have hstep : observer.step config expected (.processed later messages has_more commits)
        = ({ observer with history := later } : Observer).take_page expected commits
          (some page) := by
      rw [step, hans, ← hpage]
    have hsound := hgrow.take_page hshows hstored hcovers commits
    rw [← hstep] at hsound
    refine ⟨hsound.step_sound nofun fun answer h' => ⟨page, ?_⟩, hsound⟩
    cases hans.symm.trans h'
    exact hpage
  · have hans : observer.answer config expected (.processed later messages has_more commits)
        = none := if_neg hphase
    have hstep : observer.step config expected (.processed later messages has_more commits)
        = { observer with history := later } := by
      rw [step, hans]
    rw [← hstep] at hgrow
    refine ⟨hgrow.step_sound nofun fun answer h' => ?_, hgrow⟩
    cases hans.symm.trans h'

/-- One step from a sound observer under the condition is as promised and leaves it sound. -/
theorem Observer.Sound.steps (h : observer.Sound expected start) (hstart : start ≤ I64_MAX)
    {event : ObserverEvent} (hpossible : event.Possible observer)
    (hmeets : event.Meets config observer) : StepSound config expected start observer event
    ∧ (observer.step config expected event).Sound expected start := by
  cases event with
  | ingested later =>
    have hsound : (observer.step config expected (.ingested later)).Sound expected start :=
      h.grows hpossible observer.phase
    exact ⟨hsound.step_sound nofun nofun, hsound⟩
  | lost later =>
    have hsound : (observer.step config expected (.lost later)).Sound expected start :=
      h.grows hpossible (if observer.phase = .Done then .Done else .Reading)
    exact ⟨hsound.step_sound nofun nofun, hsound⟩
  | read commits => exact h.steps_read hstart hmeets
  | processed later messages has_more commits =>
    exact h.steps_processed hpossible.1 hpossible.2 hmeets

theorem Observer.Sound.runs (h : observer.Sound expected start) (hstart : start ≤ I64_MAX)
    {events : List ObserverEvent}
    (hpossible : EveryStep config expected (fun observer event => event.Possible observer)
      observer events)
    (hmeets : EveryStep config expected (fun observer event => event.Meets config observer)
      observer events) :
    EveryStep config expected (StepSound config expected start) observer events := by
  induction events generalizing observer with
  | nil => trivial
  | cons event events ih =>
    obtain ⟨hstep, hsound⟩ := h.steps hstart hpossible.1 hmeets.1
    exact ⟨hstep, ih hsound hpossible.2 hmeets.2⟩

end

/-- The observer of a task from its request's cursor: as long as its messages fit and none is
left unread, and nothing is ingested outside of the pages it synchronizes and watches, every
page is taken and no response is overlooked. -/
theorem observer_overlooks_nothing (config : A2AKonclaveBridgeConfig)
    (expected : ExpectedResponse) (history : History) {start : ℕ} (hstart : start ≤ I64_MAX)
    (events : List ObserverEvent)
    (hpossible : EveryStep config expected (fun observer event => event.Possible observer)
      ⟨history, .Reading, start, []⟩ events)
    (hmeets : EveryStep config expected (fun observer event => event.Meets config observer)
      ⟨history, .Reading, start, []⟩ events) :
    EveryStep config expected (StepSound config expected start)
    ⟨history, .Reading, start, []⟩ events :=
  -- a new observer has passed nothing above the cursor of its request
  Observer.Sound.runs ⟨.inl rfl, fun _ _ _ hstart hle => absurd hle (Nat.not_le.2 hstart)⟩
    hstart hpossible hmeets

namespace Scene

open Daemon.Messages.Scene

def expected : ExpectedResponse := ⟨.repeated 32 1, .repeated 32 2, request⟩

def config (page_size : ℕ) (h : 1 ≤ page_size ∧ page_size ≤ MAX_HISTORY_PAGE) :
    A2AKonclaveBridgeConfig := ⟨page_size, h.1, h.2⟩

def empty : History := history [] (by decide)

end Scene

open Scene Daemon.Messages.Scene

/-- The observer reads, and synchronizes the reply. -/
theorem observer_overlooks_nothing_reply : EveryStep (config 10 (by decide)) expected
    (StepSound (config 10 (by decide)) expected 1) ⟨empty, .Reading, 1, []⟩
    [.read true, .processed answered [(reply, false)] false true] :=
  observer_overlooks_nothing _ _ _ (by decide) _ (by
      simp only [EveryStep, ObserverEvent.Possible, step_history]
      exact ⟨trivial, ⟨ nil_prefix, forall_mem_singleton.2 mem_cons_self⟩, trivial⟩)
    ⟨fun _ => ⟨by decide, by decide⟩,
      fun _ => ⟨by decide, by decide +kernel, .inr (by decide +kernel)⟩, trivial⟩

/-- Another consumer ingests the reply between the observer's read and its synchronization: the
cursor moves past it. And a read page that is followed by more is not taken. -/
theorem observer_overlooks_ingested_reply :
    let events : List ObserverEvent := [.read true, .ingested answered,
      .processed followed [(chatter, false)] false true, .processed followed [] false true]
    let config := config 10 (by decide)
    let observer := events.foldl (step · config expected) ⟨empty, .Reading, 1, []⟩
    EveryStep config expected (fun observer event => event.Possible observer)
        ⟨empty, .Reading, 1, []⟩ events
      ∧ IsResponse expected reply ∧ reply ∈ observer.history.messages
      ∧ observer.phase = .Reading ∧ 1 < reply.cursor ∧ reply.cursor ≤ observer.after_cursor
      ∧ observer.tried = []
      ∧ request_page (Scene.config 1 (by decide))
        (read_messages followed Scene.expected.conversation_id 1 1) = none := by
  refine ⟨?_, ⟨⟨_, rfl⟩, rfl, rfl, rfl⟩, ?_, ?_⟩
  · simp only [EveryStep, ObserverEvent.Possible, step_history]
    exact ⟨trivial, nil_prefix, ⟨⟨[chatter], rfl⟩, forall_mem_singleton.2
      (mem_cons_of_mem _ mem_cons_self)⟩, ⟨prefix_refl _, nofun⟩, trivial⟩
  · simp only [foldl_cons, foldl_nil, step_history]
    exact mem_cons_self
  · decide +kernel

end Konclave.A2A
