/-
Replay pages that keep the bytes of their envelopes.

`encode_replay_page_preserving` copies every stored envelope into the page as it is, two
messages deeper than it stood when it was accepted. The sizes always fit: the budget of
`select_replay_rows` covers every byte the page adds (`page_length_le`). The decoder's
recursion limit does not: an envelope may use all of it alone, and in a page two levels of
it are spent before the envelope begins. So a page decodes exactly when every envelope
in it leaves two levels unused (`depth_of_decode`, `decode_of_depth`).
-/
import Konclave.Relay.Replay

set_option autoImplicit false

namespace Konclave.Relay

open Protobuf Domain Sequencer Paging ReplayEntry Wire.ReplayPage EncodedReplayPage List
open Wire (append_length_delimited append_varint_field length_delimited_length
  varint_field_length)

/-! ## The framing scan, field by field

The scan is a fold over the fields of the buffer. -/

/-- Fuel beyond the length of the buffer changes nothing. -/
theorem field_limits_loop_fuel_irrelevant (contract : String) (fuel : ℕ) :
    ∀ (fuel' field_count : ℕ) (counts : List (FieldLimit × ℕ)) (buf : Bytes),
    buf.length ≤ fuel → buf.length ≤ fuel' → field_limits_loop contract fuel field_count counts buf
    = field_limits_loop contract fuel' field_count counts buf := by
  induction fuel with
  | zero =>
    intro fuel' field_count counts buf hlen _
    have hnil : buf = [] := length_eq_zero_iff.1 (by omega)
    subst hnil
    cases fuel' <;> simp [field_limits_loop]
  | succ fuel ih =>
    intro fuel' field_count counts buf hlen hlen'
    cases buf with
    | nil => cases fuel' <;> simp [field_limits_loop]
    | cons byte tail =>
      obtain ⟨k, rfl⟩ : ∃ k, fuel' = k + 1 := ⟨fuel' - 1, by rw [length_cons] at hlen'; omega⟩
      rw [field_limits_loop, field_limits_loop]
      split
      · rfl
      · split
        · rfl
        · rename_i tag wire_type rest hkey
          have hrest := decode_key_rest_length hkey
          split
          · rfl
          · split
            · rfl
            · split
              · rfl
              · rename_i rest' hskip
                have hrest' := skip_field_rest_length hskip
                exact ih k _ _ rest' (by omega) (by omega)

/-- The scan of a whole buffer. -/
def field_limits (contract : String) (field_count : ℕ) (counts : List (FieldLimit × ℕ))
    (buf : Bytes) : Except KonclaveProtocolError Unit :=
  field_limits_loop contract buf.length field_count counts buf

variable {contract : String} {field_count field_number next_cursor after : ℕ}
  {counts : List (FieldLimit × ℕ)} {entry : Bytes × ℕ} {entries : List (Bytes × ℕ)}
  {encoded_envelope : Bytes} {envelope : RelayEnvelope} {wire : Wire.RelayEnvelope}
  {store : RelayStore} {rest : Bytes} {bytes : Bytes}

variable {has_more : Bool} {ctx cursor tag : ℕ}

/-- One turn of the scan: a field within the limits is skipped. -/
theorem field_limits_step {counts' : List (FieldLimit × ℕ)} {wire_type : WireType}
    {buf rest rest' : Bytes} (hcount : field_count < MAX_PROTOBUF_TOP_LEVEL_FIELDS)
    (hkey : decode_key buf = .ok ((tag, wire_type), rest))
    (hgroup : ¬ (wire_type = .StartGroup ∨ wire_type = .EndGroup))
    (hcounts : (if wire_type = .LengthDelimited then count_field tag counts else .ok counts)
      = .ok counts') (hskip : skip_field RECURSION_LIMIT wire_type tag rest = .ok rest') :
    field_limits contract field_count counts buf
    = field_limits contract (field_count + 1) counts' rest' := by
  have hrest := decode_key_rest_length hkey
  have hrest' := skip_field_rest_length hskip
  cases buf with
  | nil => simp at hrest
  | cons byte tail =>
    rw [field_limits, length_cons, field_limits_loop, if_neg (Nat.not_lt.2 hcount), hkey]
    simp only [hgroup, if_false, hcounts, hskip]
    rw [length_cons] at hrest
    exact field_limits_loop_fuel_irrelevant contract _ _ _ _ rest' (by omega) (Nat.le_refl _)

/-- A varint field passes the scan. -/
theorem field_limits_varint {value : ℕ} (hcount : field_count < MAX_PROTOBUF_TOP_LEVEL_FIELDS)
    (hnumber : 0 < field_number ∧ field_number < 16) (hvalue : value < 2 ^ 64) :
    field_limits contract field_count counts (append_varint_field field_number value ++ rest)
    = field_limits contract (field_count + 1) counts rest := by
  rw [append_varint_field, append_assoc]
  exact field_limits_step hcount (decode_append_key hnumber.1 (by omega) .Varint _) (by decide)
    rfl (skip_field_varint_append (by decide) hvalue)

/-! ## The fields of a page

The page is the bytes of its entries, then its two numbers. -/

/-- The field of one stored envelope. -/
def append_entry (entry : Bytes × ℕ) : Bytes :=
  append_key 1 .LengthDelimited
    ++ (append_varint (append_stored entry.1 entry.2).length ++ append_stored entry.1 entry.2)

theorem append_key_length (h : tag < 16) (wire_type : WireType) :
    (append_key tag wire_type).length = 1 := by
  have hbits := wire_type.bits_lt
  rw [append_key, append_varint_length, varint_length, varint_length_loop, if_pos]
  omega

theorem append_length_delimited_length (h : field_number < 16) (value : Bytes) :
    (append_length_delimited field_number value).length = length_delimited_length value.length := by
  rw [append_length_delimited, length_append, length_append, append_key_length h,
    append_varint_length, length_delimited_length]
  omega

theorem append_varint_field_length (h : field_number < 16) (value : ℕ) :
    (append_varint_field field_number value).length = varint_field_length value := by
  rw [append_varint_field, length_append, append_key_length h, append_varint_length,
    varint_field_length]

theorem append_stored_length : (append_stored encoded_envelope cursor).length
    = stored_preserving_length encoded_envelope.length cursor := by
  rw [append_stored, length_append, append_length_delimited_length (by decide),
    append_varint_field_length (by decide), stored_preserving_length]

theorem append_entry_length : (append_entry entry).length
    = length_delimited_length (stored_preserving_length entry.1.length entry.2) := by
  rw [append_entry, length_append, length_append, append_key_length (by decide),
    append_varint_length, append_stored_length, length_delimited_length]
  omega

/-- The scalar fields of a page, each omitted at its default. -/
def append_page_tail (next_cursor : ℕ) (has_more : Bool) : Bytes :=
  (if next_cursor = 0 then [] else append_varint_field 2 next_cursor)
    ++ (if has_more then append_varint_field 3 1 else [])

theorem append_page_eq (envelopes : List (Bytes × ℕ)) : append_page envelopes next_cursor has_more
    = envelopes.flatMap append_entry ++ append_page_tail next_cursor has_more := by
  rw [append_page]
  congr 1
  congr 1
  funext entry
  rw [append_entry, append_stored_length]

theorem append_page_tail_length : (append_page_tail next_cursor has_more).length
    = (if next_cursor = 0 then 0 else varint_field_length next_cursor)
      + (if has_more then 2 else 0) := by
  have hflag : (if has_more = true then append_varint_field 3 1 else []).length
      = if has_more = true then 2 else 0 := by
    cases has_more <;> rfl
  rw [append_page_tail, length_append, hflag]
  split
  · rfl
  · rw [append_varint_field_length (by decide)]

/-! ## Sizes

What the encoder adds up is the length of what it writes. -/

/-- What a page needs of an entry: the sizes of an accepted envelope and of a cursor. -/
structure BoundedEntry (entry : Bytes × ℕ) : Prop where
  length_le : entry.1.length ≤ MAX_RELAY_ENVELOPE_BYTES
  cursor_pos : 0 < entry.2
  cursor_lt : entry.2 < 2 ^ 64

theorem BoundedEntry.length_lt (h : BoundedEntry entry) : entry.1.length < 2 ^ 64 :=
  Nat.lt_of_le_of_lt h.length_le (by decide)

theorem cursor_field_length_le (h : cursor < 2 ^ 64) : varint_field_length cursor ≤ 11 := by
  have hvarint : varint_length cursor ≤ 10 :=
    varint_length_le (by decide) (Nat.lt_of_lt_of_le h (by decide))
  rw [varint_field_length]
  omega

/-- A stored envelope adds at most fifteen bytes to the envelope. -/
theorem BoundedEntry.stored_length_le (h : BoundedEntry entry) :
    stored_preserving_length entry.1.length entry.2 ≤ entry.1.length + 15 := by
  have hcur := cursor_field_length_le h.cursor_lt
  have hlen : varint_length entry.1.length ≤ 3 :=
    varint_length_le (by decide) (Nat.lt_of_le_of_lt h.length_le (by decide))
  rw [stored_preserving_length, length_delimited_length]
  omega

theorem BoundedEntry.stored_length_lt (h : BoundedEntry entry) :
    (append_stored entry.1 entry.2).length < 2 ^ 21 := by
  rw [append_stored_length]
  have hstored := h.stored_length_le
  have hlen := h.length_le
  rw [MAX_RELAY_ENVELOPE_BYTES] at hlen
  omega

/-- An entry of a page stays within the budget of its row. -/
theorem BoundedEntry.entry_length_le (h : BoundedEntry entry) :
    (append_entry entry).length ≤ entry.1.length + STORED_ENVELOPE_WIRE_OVERHEAD_BUDGET := by
  have hstored := h.stored_length_le
  have hlt := h.stored_length_lt
  rw [append_stored_length] at hlt
  have hvarint : varint_length (stored_preserving_length entry.1.length entry.2) ≤ 3 :=
    varint_length_le (by decide) hlt
  rw [append_entry_length, length_delimited_length, STORED_ENVELOPE_WIRE_OVERHEAD_BUDGET]
  omega

theorem entries_length_le (h : ∀ entry ∈ entries, BoundedEntry entry) :
    (entries.flatMap append_entry).length
    ≤ rows_budget (entries.map (fun entry => (entry.2, entry.1.length))) := by
  induction entries with
  | nil => exact Nat.le_refl _
  | cons entry entries ih =>
    have hhead := (h entry (by simp)).entry_length_le
    have htail := ih (fun other hother => h other (mem_cons_of_mem _ hother))
    rw [flatMap_cons, length_append, map_cons, rows_budget, map_cons,
      sum_cons]
    rw [rows_budget] at htail
    omega

/-- The budget of `select_replay_rows` covers the whole page. -/
theorem page_length_le (h : ∀ entry ∈ entries, BoundedEntry entry)
    (hnext : next_cursor < 2 ^ 64) : (append_page entries next_cursor has_more).length
    ≤ REPLAY_PAGE_FIXED_WIRE_BUDGET
      + rows_budget (entries.map (fun entry => (entry.2, entry.1.length))) := by
  have hentries := entries_length_le h
  have hcur := cursor_field_length_le hnext
  rw [append_page_eq, length_append, append_page_tail_length, REPLAY_PAGE_FIXED_WIRE_BUDGET]
  split <;> split <;> omega

/-- The first loop of the encoder: accepted envelopes at rising cursors, and the lengths of their
fields. -/
theorem page_length_loop_eq_ok {out : Option ℕ × ℕ} (previous : Option ℕ) (length : ℕ) :
    page_length_loop previous length entries = .ok out
    ↔ (∀ entry ∈ entries, ∃ envelope, decode_relay_envelope entry.1 = .ok envelope)
      ∧ (previous.getD 0 :: entries.map Prod.snd).IsChain (· < ·)
      ∧ out = ((entries.getLast?.map Prod.snd).or previous,
        length + (entries.flatMap append_entry).length) := by
  induction entries generalizing previous length with
  | nil => simp [page_length_loop, eq_comm]
  | cons entry entries ih =>
    obtain ⟨bytes, cursor⟩ := entry
    have hvalid : ¬ (cursor = 0 ∨ ∃ before ∈ previous, cursor ≤ before)
        ↔ previous.getD 0 < cursor := by
      cases previous with
      | none => simp [Nat.pos_iff_ne_zero]
      | some before =>
        simp only [Option.mem_def, Option.some.injEq, exists_eq_left', Option.getD_some]
        omega
    have hlast : (((bytes, cursor) :: entries).getLast?.map Prod.snd).or previous
        = (entries.getLast?.map Prod.snd).or (some cursor) := by
      cases entries with
      | nil => rfl
      | cons next rest => simp [getLast?_cons]
    rw [page_length_loop, forall_mem_cons, map_cons, isChain_cons_cons, hlast,
      flatMap_cons, length_append, append_entry_length, ← Nat.add_assoc]
    cases hdec : decode_relay_envelope bytes with
    | error e => simp
    | ok envelope =>
      dsimp only
      rw [ite_ok, hvalid, ih (some cursor)]
      simp [and_assoc, and_left_comm]

/-- Entries that make a page: accepted envelopes whose cursors rise to at most the next
cursor, within the limits of a page. -/
structure Pageable (entries : List (Bytes × ℕ)) (next_cursor : ℕ) (has_more : Bool) : Prop where
  count_le : entries.length ≤ MAX_REPLAY_PAGE_SIZE
  decodes : ∀ entry ∈ entries, ∃ envelope, decode_relay_envelope entry.1 = .ok envelope
  order : (0 :: entries.map Prod.snd).IsChain (· < ·)
  last_le : ∀ entry ∈ entries.getLast?, entry.2 ≤ next_cursor
  length_le : (append_page entries next_cursor has_more).length ≤ MAX_REPLAY_PAGE_BYTES

/-- The length that the encoder computes before it writes is the length of what it writes. -/
theorem append_page_length :
    (append_page entries next_cursor has_more).length = 0 + (entries.flatMap append_entry).length
      + (if next_cursor = 0 then 0 else varint_field_length next_cursor)
      + (if has_more then 2 else 0) := by
  rw [append_page_eq, length_append, append_page_tail_length]
  omega

theorem last_cursor_le_iff : (¬ ∃ cursor ∈ entries.getLast?.map Prod.snd, next_cursor < cursor)
    ↔ ∀ entry ∈ entries.getLast?, entry.2 ≤ next_cursor := by
  cases entries.getLast? <;> simp

/-- Accepted envelopes at rising cursors are encoded if they fit. -/
theorem encode_replay_page_preserving_eq (hcount : entries.length ≤ MAX_REPLAY_PAGE_SIZE)
    (hdec : ∀ entry ∈ entries, ∃ envelope, decode_relay_envelope entry.1 = .ok envelope)
    (horder : (0 :: entries.map Prod.snd).IsChain (· < ·))
    (hlast : ∀ entry ∈ entries.getLast?, entry.2 ≤ next_cursor) :
    encode_replay_page_preserving entries next_cursor has_more
    = if MAX_REPLAY_PAGE_BYTES < (append_page entries next_cursor has_more).length then
        .error (.EncodedMessageTooLarge "ReplayPage" MAX_REPLAY_PAGE_BYTES
          (append_page entries next_cursor has_more).length)
      else .ok (append_page entries next_cursor has_more) := by
  rw [encode_replay_page_preserving, if_neg (Nat.not_lt.2 hcount),
    (page_length_loop_eq_ok none 0).2 ⟨hdec, horder, rfl⟩]
  dsimp only
  rw [Option.or_none, if_neg (last_cursor_le_iff.2 hlast), ← append_page_length]

/-- The encoder writes a page exactly when its entries make one. -/
theorem encode_replay_page_preserving_eq_ok :
    encode_replay_page_preserving entries next_cursor has_more = .ok bytes
    ↔ Pageable entries next_cursor has_more ∧ bytes = append_page entries next_cursor has_more := by
  constructor
  · intro h
    rw [encode_replay_page_preserving] at h
    obtain ⟨hcount, h⟩ := ite_ok.1 h
    split at h
    · cases h
    · rename_i previous length hloop
      obtain ⟨hdec, horder, hout⟩ := (page_length_loop_eq_ok none 0).1 hloop
      cases hout
      obtain ⟨hlast, h⟩ := ite_ok.1 h
      rw [Option.or_none, last_cursor_le_iff] at hlast
      rw [← append_page_length] at h
      obtain ⟨hsize, h⟩ := ite_ok.1 h
      cases h
      exact ⟨⟨Nat.not_lt.1 hcount, hdec, horder, hlast, Nat.not_lt.1 hsize⟩, rfl⟩
  · rintro ⟨h, rfl⟩
    rw [encode_replay_page_preserving_eq h.count_le h.decodes h.order h.last_le,
      if_neg (Nat.not_lt.2 h.length_le)]

/-! ## The page passes the framing scan

The limits of the scan leave room for what the encoder writes. -/

/-- There is room for `n` more occurrences of every limited field. -/
def HasRoom (counts : List (FieldLimit × ℕ)) (n : ℕ) : Prop :=
  ∀ entry ∈ counts, entry.2 + n ≤ entry.1.maximum

theorem count_field_of_hasRoom {n : ℕ} (h : HasRoom counts (n + 1)) :
    ∃ counts', count_field tag counts = .ok counts' ∧ HasRoom counts' n := by
  induction counts with
  | nil => exact ⟨[], rfl, by simp [HasRoom]⟩
  | cons entry counts ih =>
    obtain ⟨limit, count⟩ := entry
    have hhead : count + (n + 1) ≤ limit.maximum := h (limit, count) (by simp)
    obtain ⟨counts', hcount, hroom⟩ := ih (fun other hother => h other (by simp [hother]))
    rw [count_field]
    by_cases htag : tag = limit.field_number
    · rw [if_pos htag, if_neg (by omega), hcount]
      refine ⟨(limit, count + 1) :: counts', rfl, ?_⟩
      intro other hother
      rcases mem_cons.1 hother with rfl | hother
      · exact (by omega : count + 1 + n ≤ limit.maximum)
      · exact hroom other hother
    · rw [if_neg htag, hcount]
      refine ⟨(limit, count) :: counts', rfl, ?_⟩
      intro other hother
      rcases mem_cons.1 hother with rfl | hother
      · exact (by omega : count + n ≤ limit.maximum)
      · exact hroom other hother

/-- The entry fields of a page pass the scan, one top-level field each. -/
theorem field_limits_entries :
    ∀ (entries : List (Bytes × ℕ)) (field_count : ℕ) (counts : List (FieldLimit × ℕ)),
    (∀ entry ∈ entries, BoundedEntry entry) →
    field_count + entries.length ≤ MAX_PROTOBUF_TOP_LEVEL_FIELDS → HasRoom counts entries.length →
    ∃ counts', field_limits contract field_count counts (entries.flatMap append_entry ++ rest)
    = field_limits contract (field_count + entries.length) counts' rest := by
  intro entries
  induction entries with
  | nil =>
    intro field_count counts _ _ _
    exact ⟨counts, rfl⟩
  | cons entry entries ih =>
    intro field_count counts hbounded hfields hroom
    rw [length_cons] at hfields hroom
    obtain ⟨counts₁, hcount, hroom₁⟩ := count_field_of_hasRoom hroom
    obtain ⟨counts', hrest⟩ := ih (field_count + 1) counts₁
      (fun other hother => hbounded other (mem_cons_of_mem _ hother)) (by omega) hroom₁
    refine ⟨counts', ?_⟩
    have hlt := (hbounded entry (by simp)).stored_length_lt
    rw [flatMap_cons, append_assoc, append_entry, append_assoc, append_assoc,
      length_cons, show field_count + (entries.length + 1)
        = field_count + 1 + entries.length by omega, ← hrest]
    refine field_limits_step (by omega) (decode_append_key (by decide) (by decide) _ _)
      (by decide) ?_ (skip_field_length_delimited_append (by decide) (by omega))
    rw [if_pos rfl]
    exact hcount

theorem field_limits_tail
    (hfields : field_count + 2 ≤ MAX_PROTOBUF_TOP_LEVEL_FIELDS) (hnext : next_cursor < 2 ^ 64) :
    field_limits contract field_count counts (append_page_tail next_cursor has_more) = .ok () := by
  have hflag : ∀ field_count', field_count' < MAX_PROTOBUF_TOP_LEVEL_FIELDS →
      field_limits contract field_count' counts
        (if has_more = true then append_varint_field 3 1 else []) = .ok () := by
    intro field_count' hlt
    cases has_more with
    | false => rfl
    | true =>
      rw [if_pos rfl, ← append_nil (append_varint_field 3 1),
        field_limits_varint hlt (by decide) (by decide)]
      rfl
  rw [append_page_tail]
  by_cases hzero : next_cursor = 0
  · rw [if_pos hzero, nil_append]
    exact hflag field_count (by omega)
  · rw [if_neg hzero, field_limits_varint (by omega) (by decide) hnext]
    exact hflag (field_count + 1) (by omega)

/-- Whatever repeated-field limits leave room for the entries, the page meets them. -/
theorem require_page_limits {limits : List FieldLimit}
    (hcount : entries.length ≤ MAX_REPLAY_PAGE_SIZE)
    (hbounded : ∀ entry ∈ entries, BoundedEntry entry) (hnext : next_cursor < 2 ^ 64)
    (hlimits : ∀ limit ∈ limits, entries.length ≤ limit.maximum)
    (hlen : (append_page entries next_cursor has_more).length ≤ MAX_REPLAY_PAGE_BYTES) :
    require_repeated_field_limits (append_page entries next_cursor has_more)
    MAX_REPLAY_PAGE_BYTES "ReplayPage" limits = .ok () := by
  rw [require_repeated_field_limits, if_neg (Nat.not_lt.2 hlen)]
  change field_limits "ReplayPage" 0 _ _ = _
  have hroom : HasRoom (limits.map (·, 0)) entries.length := by
    intro entry hentry
    obtain ⟨limit, hlimit, rfl⟩ := mem_map.1 hentry
    rw [Nat.zero_add]
    exact hlimits limit hlimit
  rw [MAX_REPLAY_PAGE_SIZE] at hcount
  have hmax : MAX_PROTOBUF_TOP_LEVEL_FIELDS = 4096 := rfl
  rw [append_page_eq]
  obtain ⟨counts', hscan⟩ := field_limits_entries entries 0 _ hbounded (by omega) hroom
  rw [hscan]
  exact field_limits_tail (by omega) hnext

/-! ## Decoding the page

Merging the fields of a page gives its entries in order. -/

/-- A stored envelope is read one level below the page, its envelope two levels below. -/
theorem merge_stored (h : BoundedEntry entry) :
    merge Wire.StoredRelayEnvelope.merge_field (ctx + 1) {} (append_stored entry.1 entry.2)
    = (merge Wire.RelayEnvelope.merge_field ctx {} entry.1).map
        (fun envelope => ⟨some envelope, entry.2⟩) := by
  rw [append_stored, append_length_delimited, append_assoc, append_assoc,
    merge_message (show Wire.StoredRelayEnvelope.merge_field 1 = .message _ _ _ from rfl)
      (by decide) ctx {} h.length_lt, Option.getD_none]
  cases merge Wire.RelayEnvelope.merge_field ctx {} entry.1 with
  | error e => rfl
  | ok envelope =>
    dsimp only
    rw [append_varint_field, ← append_nil (append_varint entry.2),
      merge_varint (show Wire.StoredRelayEnvelope.merge_field 2 = .varint _ from rfl) (by decide)
        (ctx + 1) _ h.cursor_lt]
    rfl

/-- One entry field of a page. -/
theorem merge_entry (h : BoundedEntry entry) (page : Wire.ReplayPage) :
    merge merge_field (ctx + 2) page (append_entry entry ++ rest)
    = match merge Wire.RelayEnvelope.merge_field ctx {} entry.1 with
      | .error e => .error e
      | .ok envelope => merge merge_field (ctx + 2)
          { page with envelopes := page.envelopes ++ [⟨some envelope, entry.2⟩] } rest := by
  have hlt := h.stored_length_lt
  rw [append_entry, append_assoc, append_assoc,
    merge_message (show merge_field 1 = .message _ _ _ from rfl) (by decide)
      (ctx + 1) page (by omega), merge_stored h]
  cases merge Wire.RelayEnvelope.merge_field ctx {} entry.1 <;> rfl

/-- The entry fields of a page merge when every envelope merges two levels below it. -/
theorem merge_entries_eq_ok {out : Wire.ReplayPage}
    (hbounded : ∀ entry ∈ entries, BoundedEntry entry) : ∀ page : Wire.ReplayPage,
    merge merge_field (ctx + 2) page (entries.flatMap append_entry ++ rest)
      = .ok out ↔ ∃ wires, List.Forall₂ (fun entry wire =>
        merge Wire.RelayEnvelope.merge_field ctx {} entry.1 = .ok wire) entries wires
      ∧ merge merge_field (ctx + 2)
        { page with envelopes := page.envelopes
            ++ zipWith (fun entry wire => ⟨some wire, entry.2⟩) entries wires } rest
        = .ok out := by
  induction entries with
  | nil => simp [forall₂_nil_left_iff]
  | cons entry entries ih =>
    intro page
    rw [flatMap_cons, append_assoc, merge_entry (hbounded entry (by simp))]
    cases hmerge : merge Wire.RelayEnvelope.merge_field ctx {} entry.1 with
    | error e =>
      -- one envelope that does not merge spoils the whole page
      constructor
      · nofun
      · rintro ⟨_, hwires, -⟩
        obtain ⟨wire, _, hfirst, -, -⟩ := forall₂_cons_left_iff.1 hwires
        cases hmerge.symm.trans hfirst
    | ok wire =>
      dsimp only
      rw [ih fun other hother => hbounded other (mem_cons_of_mem _ hother)]
      constructor
      · rintro ⟨wires, hwires, h⟩
        exact ⟨wire :: wires, .cons hmerge hwires, by simpa using h⟩
      · rintro ⟨_, hwires, h⟩
        obtain ⟨_, wires, hfirst, hrest, rfl⟩ := forall₂_cons_left_iff.1 hwires
        cases hmerge.symm.trans hfirst
        exact ⟨wires, hrest, by simpa using h⟩

theorem merge_tail (envelopes : List Wire.StoredRelayEnvelope) (hnext : next_cursor < 2 ^ 64) :
    merge merge_field ctx ⟨envelopes, 0, false⟩
      (append_page_tail next_cursor has_more) = .ok ⟨envelopes, next_cursor, has_more⟩ := by
  have hflag : ∀ next, merge merge_field ctx ⟨envelopes, next, false⟩
      (if has_more = true then append_varint_field 3 1 else [])
        = .ok ⟨envelopes, next, has_more⟩ := by
    intro next
    cases has_more with
    | false => rfl
    | true =>
      rw [if_pos rfl, append_varint_field, ← append_nil (append_varint 1),
        merge_varint (show merge_field 3
          = .varint fun msg value => { msg with has_more := value != 0 } from rfl) (by decide) ctx _
          (by decide)]
      rfl
  rw [append_page_tail]
  by_cases hzero : next_cursor = 0
  · rw [if_pos hzero, nil_append, hflag, hzero]
  · rw [if_neg hzero, append_varint_field, append_assoc, merge_varint (show merge_field 2
        = .varint fun msg value => { msg with next_cursor := value } from rfl) (by decide) ctx _
        hnext]
    exact hflag next_cursor

/-! ## Depth

An envelope in a page stands two messages deeper than alone. -/

/-- The levels of the recursion limit that decoding an envelope takes: one for each
message and group entered along its deepest path. -/
def envelope_depth (encoded_envelope : Bytes) : ℕ :=
  match merge_depth Wire.RelayEnvelope.merge_field {} encoded_envelope with
  | .ok (_, depth) => depth
  | .error _ => 0

theorem decode_bounded_eq_ok {M : Type} {merge_field : MergeField M} {default message : M}
    {maximum : ℕ}
    (h : decode_bounded merge_field default bytes maximum contract = .ok message) :
    merge merge_field RECURSION_LIMIT default bytes = .ok message ∧ bytes.length ≤ maximum := by
  unfold decode_bounded at h
  split at h
  · cases h
  · rename_i hlimits
    split at h
    · cases h
    · rename_i hmerge
      cases h
      rw [require_repeated_field_limits] at hlimits
      exact ⟨hmerge, Nat.not_lt.1 (ite_ok.1 hlimits).1⟩

theorem decode_relay_envelope_eq_ok (h : decode_relay_envelope encoded_envelope = .ok envelope) :
    ∃ wire, merge Wire.RelayEnvelope.merge_field RECURSION_LIMIT {} encoded_envelope = .ok wire
    ∧ relay_from_wire wire = .ok envelope ∧ encoded_envelope.length ≤ MAX_RELAY_ENVELOPE_BYTES := by
  rw [decode_relay_envelope] at h
  obtain ⟨wire, hdec, hfrom⟩ := bind_ok.1 h
  obtain ⟨hmerge, hlen⟩ := decode_bounded_eq_ok hdec
  exact ⟨wire, hmerge, hfrom, hlen⟩

/-- The entries of a page are within its sizes. -/
theorem Pageable.bounded (h : Pageable entries next_cursor has_more)
    (hnext : next_cursor < 2 ^ 64) :
    ∀ entry ∈ entries, BoundedEntry entry := by
  intro entry hentry
  obtain ⟨envelope, hdec⟩ := h.decodes entry hentry
  obtain ⟨-, -, -, hlen⟩ := decode_relay_envelope_eq_ok hdec
  obtain ⟨hpos, horder⟩ := pairwise_cons.1 (isChain_iff_pairwise.1 h.order)
  refine ⟨hlen, hpos _ (mem_map_of_mem hentry), Nat.lt_of_le_of_lt ?_ hnext⟩
  -- no cursor is above the last one
  rcases eq_nil_or_concat' entries with rfl | ⟨init, last, rfl⟩
  · cases hentry
  · have hlast := h.last_le last getLast?_concat
    rw [pairwise_map, pairwise_append] at horder
    rcases mem_append.1 hentry with hinit | hlast'
    · exact (horder.2.2 entry hinit last (by simp)).le.trans hlast
    · rw [mem_singleton.1 hlast']
      exact hlast

/-! ## From the decoded page to the domain

The page decodes exactly when its deepest envelope leaves two levels. -/

theorem relay_from_wire_length (h : relay_from_wire wire = .ok envelope) :
    wire.encoded_len ≤ MAX_RELAY_ENVELOPE_BYTES := by
  rw [relay_from_wire] at h
  obtain ⟨_, hsize, -⟩ := bind_ok.1 h
  rw [require_encoded_size] at hsize
  exact Nat.not_lt.1 (ite_ok.1 hsize).1

/-- An envelope that is valid alone is valid in a stored envelope. -/
theorem stored_from_wire_eq (h : relay_from_wire wire = .ok envelope) (hpos : 0 < cursor)
    (hlt : cursor < 2 ^ 64) :
    stored_from_wire ⟨some wire, cursor⟩ = .ok ⟨envelope, cursor, hpos⟩ := by
  have hlength := relay_from_wire_length h
  have hvarint : varint_length wire.encoded_len ≤ 3 :=
    varint_length_le (by decide) (Nat.lt_of_le_of_lt hlength (by decide))
  have hcur := cursor_field_length_le hlt
  have hsize : ¬ STORED_RELAY_ENVELOPE_MAX_BYTES
      < (⟨some wire, cursor⟩ : Wire.StoredRelayEnvelope).encoded_len := by
    have hlen : (⟨some wire, cursor⟩ : Wire.StoredRelayEnvelope).encoded_len
        = length_delimited_length wire.encoded_len + varint_field_length cursor := by
      rw [Wire.StoredRelayEnvelope.encoded_len, Wire.optional_varint_length,
        if_neg (Nat.ne_of_gt hpos)]
      rfl
    rw [hlen, length_delimited_length, STORED_RELAY_ENVELOPE_MAX_BYTES]
    omega
  rw [stored_from_wire, require_encoded_size, if_neg hsize, ok_bind, required, ok_bind, h, ok_bind,
    StoredRelayEnvelope.new, dif_neg (Nat.ne_of_gt hpos), from_domain]

/-- Entries within the depth of a page decode, each to its envelope and cursor. -/
theorem page_entries_decode (hbounded : ∀ entry ∈ entries, BoundedEntry entry)
    (hdec : ∀ entry ∈ entries, ∃ envelope, decode_relay_envelope entry.1 = .ok envelope)
    (hdepth : ∀ entry ∈ entries, envelope_depth entry.1 ≤ ctx) : ∃ wires envelopes,
    List.Forall₂ (fun entry wire =>
      merge Wire.RelayEnvelope.merge_field ctx {} entry.1 = .ok wire) entries wires
    ∧ (zipWith (fun entry wire => (⟨some wire, entry.2⟩ : Wire.StoredRelayEnvelope))
        entries wires).mapM stored_from_wire = .ok envelopes
    ∧ List.Forall₂ Decodes (entries.map (fun entry => ⟨entry.1, entry.2⟩)) envelopes := by
  induction entries with
  | nil => exact ⟨[], [], .nil, rfl, .nil⟩
  | cons entry entries ih =>
    obtain ⟨wires, envelopes, hwires, hmap, hdecodes⟩ := ih
      (fun other hother => hbounded other (mem_cons_of_mem _ hother))
      (fun other hother => hdec other (mem_cons_of_mem _ hother))
      (fun other hother => hdepth other (mem_cons_of_mem _ hother))
    obtain ⟨envelope, henv⟩ := hdec entry (by simp)
    obtain ⟨wire, hmerge, hfrom, -⟩ := decode_relay_envelope_eq_ok henv
    have hentry := hbounded entry (by simp)
    -- an accepted envelope decodes at every budget that covers its depth
    obtain ⟨depth, hsteps, -⟩ := (merge_ok_iff ..).1 hmerge
    have hle := hdepth entry (by simp)
    rw [envelope_depth, hsteps] at hle
    refine ⟨wire :: wires, ⟨envelope, entry.2, hentry.cursor_pos⟩ :: envelopes,
      .cons ((merge_ok_iff ..).2 ⟨depth, hsteps, hle⟩) hwires, ?_,
      .cons ⟨henv, rfl⟩ hdecodes⟩
    rw [zipWith_cons_cons, mapM_cons,
      stored_from_wire_eq hfrom hentry.cursor_pos hentry.cursor_lt, ok_bind, hmap]
    rfl

/-- A page that is accepted leaves two levels of the recursion limit to every envelope. -/
theorem Pageable.depth_of_decode (h : Pageable entries next_cursor has_more)
    (hnext : next_cursor < 2 ^ 64) {page : ReplayPage}
    (hpage : decode_replay_page (append_page entries next_cursor has_more) = .ok page) :
    ∀ entry ∈ entries, envelope_depth entry.1 + 2 ≤ RECURSION_LIMIT := by
  intro entry hentry
  obtain ⟨_, -, hpage⟩ := bind_ok.1 hpage
  obtain ⟨wire, hwire, -⟩ := bind_ok.1 hpage
  have hmerge := (decode_bounded_eq_ok hwire).1
  rw [append_page_eq, show RECURSION_LIMIT = 98 + 2 from rfl] at hmerge
  obtain ⟨wires, hwires, -⟩ := (merge_entries_eq_ok (h.bounded hnext) _).1 hmerge
  obtain ⟨i, hi, rfl⟩ := getElem_of_mem hentry
  obtain ⟨depth, hdepth, hle⟩ := (merge_ok_iff ..).1 (hwires.get hi (hwires.length_eq ▸ hi))
  rw [get_eq_getElem] at hdepth
  refine Nat.add_le_add_right ?_ 2
  rw [envelope_depth, hdepth]
  exact hle

/-- Where two levels are left to every envelope, the page decodes to the envelopes that its
entries decode to alone, with its own cursor and flag. -/
theorem Pageable.decode_of_depth (h : Pageable entries next_cursor has_more)
    (hnext : next_cursor < 2 ^ 64)
    (hdepth : ∀ entry ∈ entries, envelope_depth entry.1 + 2 ≤ RECURSION_LIMIT) :
    ∃ page, decode_replay_page (append_page entries next_cursor has_more) = .ok page
    ∧ List.Forall₂ Decodes (entries.map fun entry => ⟨entry.1, entry.2⟩) page.envelopes
    ∧ page.next_cursor = next_cursor ∧ page.has_more = has_more := by
  have hbounded := h.bounded hnext
  obtain ⟨hcount, hdec, hchain, hlast, hlength⟩ := h
  have hscan : ∀ limits : List FieldLimit, (∀ limit ∈ limits, entries.length ≤ limit.maximum) →
      require_repeated_field_limits _ MAX_REPLAY_PAGE_BYTES "ReplayPage" limits = .ok () :=
    fun _ hlimits => require_page_limits hcount hbounded hnext hlimits hlength
  obtain ⟨wires, envelopes, hwires, hmap, hdecodes⟩ := page_entries_decode hbounded hdec
    (fun entry hentry => show envelope_depth entry.1 ≤ 98 from
      Nat.le_of_add_le_add_right (hdepth entry hentry))
  have hmerge : merge merge_field RECURSION_LIMIT {} (append_page entries next_cursor has_more)
      = .ok ⟨zipWith (fun entry wire => ⟨some wire, entry.2⟩) entries wires,
          next_cursor, has_more⟩ := by
    rw [append_page_eq, show RECURSION_LIMIT = 98 + 2 from rfl]
    exact (merge_entries_eq_ok hbounded _).2 ⟨wires, hwires, merge_tail _ hnext⟩
  have hlen : envelopes.length = entries.length := by
    rw [← hdecodes.length_eq, length_map]
  have hzip : (zipWith (fun entry wire => (⟨some wire, entry.2⟩ : Wire.StoredRelayEnvelope))
      entries wires).length = entries.length := by
    rw [length_zipWith, ← hwires.length_eq, Nat.min_self]
  have hcurs : envelopes.map (·.cursor) = entries.map Prod.snd := by
    rw [map_cursor_of_decodes hdecodes, map_map]
    rfl
  have horder : replay_order envelopes next_cursor := by
    refine ⟨?_, fun stored hstored => ?_⟩
    · rw [hcurs, isChain_iff_pairwise]
      exact (pairwise_cons.1 (isChain_iff_pairwise.1 hchain)).2
    · have hcur : stored.cursor ∈ (entries.map Prod.snd).getLast? := by
        rw [← hcurs, getLast?_map, hstored]
        rfl
      rw [getLast?_map] at hcur
      obtain ⟨entry, hentry, hsame⟩ := Option.map_eq_some_iff.1 hcur
      exact hsame ▸ hlast entry hentry
  refine ⟨⟨envelopes, next_cursor, has_more, by omega, horder⟩, ?_, hdecodes, rfl, rfl⟩
  rw [decode_replay_page, hscan [⟨1, MAX_REPLAY_PAGE_SIZE, "replay_envelopes"⟩]
    (by simpa using hcount), ok_bind, decode_bounded, hscan [] (by simp)]
  simp only [hmerge, ok_bind]
  rw [if_neg (by omega), hmap, ok_bind, ReplayPage.new, dif_pos (by omega), dif_pos horder]
  rfl

/-! ## Replaying stored bytes

What the relay replays from its rows is such a page. -/

/-- An entry in the form the encoder takes. -/
def ReplayEntry.encoded (entry : ReplayEntry) : Bytes × ℕ := (entry.encoded_envelope, entry.cursor)

theorem RelayStore.WellFormed.boundedEntry (h : store.WellFormed) {routing_id : RoutingId}
    {row : EnvelopeRow} (hrow : row ∈ store.route_rows routing_id) :
    BoundedEntry (of row).encoded := by
  have hnum := (h.route_log routing_id).numbered
  have hlt := h.log_length_lt routing_id
  obtain ⟨hpos, hle⟩ := hnum.le_of_mem hrow
  have hle : row.cursor ≤ I64_MAX := by omega
  exact ⟨(h.valid_length (mem_of_mem_filter hrow)).2, hpos, Nat.lt_of_le_of_lt hle (by decide)⟩

/-- A loaded page is a window of the log. -/
theorem load_replay_entries_window (h : store.WellFormed) (request : ReplayRequest)
    (hafter : request.after_cursor ≤ I64_MAX) : ∃ k has_more, load_replay_entries store request
      = .ok ⟨(((store.route_rows request.routing_id).drop request.after_cursor).take k).map
          of, request.after_cursor + k, has_more⟩
    ∧ k ≤ ((store.route_rows request.routing_id).drop request.after_cursor).length
    ∧ ((store.route_rows request.routing_id).drop request.after_cursor ≠ [] → 0 < k)
    ∧ (has_more = true → 0 < k) ∧ request.after_cursor + k < 2 ^ 64
    ∧ Pageable ((((store.route_rows request.routing_id).drop request.after_cursor).take k).map
        (fun row => (of row).encoded)) (request.after_cursor + k) has_more := by
  obtain ⟨k, hlimit, hk, hpos, hbudget, hload⟩ := load_replay_entries_eq h request hafter
  have hnum := h.numbered_after request.routing_id request.after_cursor
  have hmem : ∀ entry ∈ (((store.route_rows request.routing_id).drop
      request.after_cursor).take k).map (fun row => (of row).encoded),
      ∃ row ∈ store.route_rows request.routing_id, (of row).encoded = entry := by
    intro entry hentry
    obtain ⟨row, hrow, rfl⟩ := mem_map.1 hentry
    exact ⟨row, mem_of_mem_drop (mem_of_mem_take hrow), rfl⟩
  have hlen : ((((store.route_rows request.routing_id).drop request.after_cursor).take k).map
      (fun row => (of row).encoded)).length = k := by
    rw [length_map, length_take]
    omega
  have hnum' : Numbered Prod.snd (request.after_cursor + 1) _ :=
    (hnum.take k).map (f := fun row => (of row).encoded) fun _ => rfl
  have hlt := h.log_length_lt request.routing_id
  rw [length_drop] at hk
  have hnext : request.after_cursor + k < 2 ^ 64 :=
    Nat.lt_of_le_of_lt (show request.after_cursor + k ≤ I64_MAX by omega) (by decide)
  refine ⟨k, _, hload, length_drop ▸ hk, hpos, ?_, hnext, ?_, ?_, ?_, ?_, ?_⟩
  · intro hmore
    refine hpos (length_pos_iff.1 ?_)
    have := of_decide_eq_true hmore
    omega
  · have := request.limit_range.2
    omega
  · intro entry hentry
    obtain ⟨row, hrow, rfl⟩ := hmem entry hentry
    obtain ⟨envelope, hsound⟩ := h.rows_sound row (mem_of_mem_filter hrow)
    exact ⟨envelope, (envelope_from_row_eq_ok.1 hsound).2.1⟩
  · rw [isChain_iff_pairwise, pairwise_cons]
    refine ⟨fun cursor hcur => ?_, pairwise_map.2 hnum'.pairwise_lt⟩
    obtain ⟨entry, hentry, rfl⟩ := mem_map.1 hcur
    exact Nat.lt_of_lt_of_le (Nat.succ_pos _) (hnum'.le_of_mem hentry).1
  · intro entry hentry
    have hle := (hnum'.le_of_mem (mem_of_getLast? hentry)).2
    omega
  · refine (page_length_le (fun entry hentry => ?_) hnext).trans ?_
    · obtain ⟨row, hrow, rfl⟩ := hmem entry hentry
      exact h.boundedEntry hrow
    · rw [map_map]
      exact hbudget

/-- The last check of `replay_encoded`: its page is returned exactly when it decodes. -/
theorem Pageable.new_page_iff (h : Pageable entries next_cursor has_more)
    (hlt : next_cursor < 2 ^ 64) (hnext : next_cursor = after + entries.length)
    (hmore : has_more = true → 0 < entries.length) : (∃ page decoded, new
        (append_page entries next_cursor has_more) after next_cursor has_more entries.length
        = .ok page
      ∧ decode_replay_page page.bytes = .ok decoded
      ∧ decoded.next_cursor = page.next_cursor ∧ decoded.has_more = page.has_more
      ∧ decoded.envelopes.length = page.envelope_count)
    ↔ ∀ entry ∈ entries, envelope_depth entry.1 + 2 ≤ RECURSION_LIMIT := by
  have hsize : ¬ (MAX_REPLAY_PAGE_BYTES < (append_page entries next_cursor has_more).length
      ∨ MAX_REPLAY_PAGE_SIZE < entries.length) := by
    rw [not_or, Nat.not_lt, Nat.not_lt]
    exact ⟨h.length_le, h.count_le⟩
  rw [new, if_neg hsize]
  constructor
  · rintro ⟨page, -, hnew, -⟩
    obtain ⟨decoded, hdec, hnew⟩ := bind_ok.1 hnew
    exact h.depth_of_decode hlt (from_protocol_eq_ok.1 hdec)
  · intro hdepth
    obtain ⟨decoded, hdec, hdecodes, hcur, hflag⟩ := h.decode_of_depth hlt hdepth
    have hcount : decoded.envelopes.length = entries.length := by
      rw [← hdecodes.length_eq, length_map]
    have hmeta : ¬ (decoded.next_cursor ≠ next_cursor
        ∨ decoded.has_more ≠ has_more ∨ decoded.envelopes.length ≠ entries.length
        ∨ (has_more = true ∧ entries.length = 0)
        ∨ (entries.length = 0 ∧ next_cursor ≠ after)
        ∨ (0 < entries.length ∧ next_cursor ≤ after)) := by
      rintro (hne | hne | hne | ⟨hflag, hzero⟩ | ⟨hzero, hne⟩ | ⟨hpos, hle⟩)
      · exact hne hcur
      · exact hne hflag
      · exact hne hcount
      · have := hmore hflag
        omega
      · omega
      · omega
    rw [hdec, from_protocol, ok_bind, if_neg hmeta]
    exact ⟨_, decoded, rfl, hdec, hcur, hflag, hcount⟩

/-- The request is answered by a page that decodes to what the answer says of it. -/
def AnswersPage (store : RelayStore) (request : ReplayRequest) : Prop :=
  ∃ page decoded, replay_encoded store request = .ok page
    ∧ decode_replay_page page.bytes = .ok decoded
    ∧ decoded.next_cursor = page.next_cursor ∧ decoded.has_more = page.has_more
    ∧ decoded.envelopes.length = page.envelope_count

/-- What `replay_encoded` does with the window of the log it selected: the encoded page
always fits, and it is returned exactly when every envelope of the window is shallow
enough for a page. -/
theorem replay_encoded_cases (h : store.WellFormed) (request : ReplayRequest)
    (hafter : request.after_cursor ≤ I64_MAX) :
    ∃ page bytes, load_replay_entries store request = .ok page
    ∧ encode_replay_page_preserving (page.entries.map encoded) page.next_cursor
        page.has_more = .ok bytes ∧ bytes.length ≤ MAX_REPLAY_PAGE_BYTES
    ∧ (∀ row ∈ store.route_rows request.routing_id, row.cursor = request.after_cursor + 1 →
        of row ∈ page.entries)
    ∧ (∀ entry ∈ page.entries, ∃ row ∈ store.route_rows request.routing_id, entry = of row)
    ∧ (AnswersPage store request ↔ ∀ entry ∈ page.entries,
        envelope_depth entry.encoded_envelope + 2 ≤ RECURSION_LIMIT) := by
  obtain ⟨k, has_more, hload, hk, hpos, hmore, hnext, hwin⟩ :=
    load_replay_entries_window h request hafter
  have hnum := (h.route_log request.routing_id).numbered
  generalize hrows : ((store.route_rows request.routing_id).drop request.after_cursor).take k
    = rows at hload hwin
  have hlen : (rows.map (fun row => (of row).encoded)).length = k := by
    rw [← hrows, length_map, length_take]
    omega
  have henc := encode_replay_page_preserving_eq_ok.2 ⟨hwin, rfl⟩
  have hnew := hwin.new_page_iff hnext (congrArg _ hlen.symm) (fun hflag => by
    rw [hlen]
    exact hmore hflag)
  rw [hlen] at hnew
  have hreplay : replay_encoded store request = new
      (append_page (rows.map (fun row => (of row).encoded)) (request.after_cursor + k) has_more)
      request.after_cursor (request.after_cursor + k) has_more k := by
    rw [replay_encoded, hload, ok_bind]
    dsimp only
    rw [map_map, length_map, ← length_map (fun row => (of row).encoded),
      hlen, show (fun entry : ReplayEntry => (entry.encoded_envelope, entry.cursor))
        ∘ of = fun row => (of row).encoded from rfl, henc]
    rfl
  refine ⟨_, _, hload, by rw [map_map]; exact henc, hwin.length_le, ?_, ?_, ?_⟩
  · intro row hrow hcur
    refine mem_map_of_mem ?_
    -- the row after the cursor is the first of the window, which is not empty
    obtain ⟨i, hi, rfl⟩ := getElem_of_mem hrow
    rw [hnum.getElem hi] at hcur
    have hi' : i = request.after_cursor := by omega
    subst hi'
    have hne : (store.route_rows request.routing_id).drop request.after_cursor ≠ [] := by
      rw [← length_pos_iff, length_drop]
      omega
    rw [← hrows, drop_eq_getElem_cons hi]
    obtain ⟨j, rfl⟩ : ∃ j, k = j + 1 := ⟨k - 1, by have := hpos hne; omega⟩
    rw [take_succ_cons]
    exact mem_cons_self
  · intro entry hentry
    obtain ⟨row, hrow, rfl⟩ := mem_map.1 hentry
    rw [← hrows] at hrow
    exact ⟨row, mem_of_mem_drop (mem_of_mem_take hrow), rfl⟩
  · rw [AnswersPage, hreplay, hnew, forall_mem_map, forall_mem_map]
    rfl

/-- A route can be replayed from every cursor exactly when every envelope stored on it
leaves two levels of the recursion limit for the page around it. Whatever is stored, the
page that is built never exceeds the page limit. -/
theorem replay_encoded_iff {relay : Repository} (h : relay.Reachable) (routing_id : RoutingId) :
    ((∀ request : ReplayRequest, request.routing_id = routing_id → request.after_cursor ≤ I64_MAX →
        ∃ page decoded, replay_encoded relay.store request = .ok page
          ∧ decode_replay_page page.bytes = .ok decoded
          ∧ decoded.next_cursor = page.next_cursor ∧ decoded.has_more = page.has_more
          ∧ decoded.envelopes.length = page.envelope_count)
      ↔ ∀ row ∈ relay.store.log routing_id,
          envelope_depth row.encoded_envelope + 2 ≤ RECURSION_LIMIT)
    ∧ (∀ request : ReplayRequest, request.after_cursor ≤ I64_MAX →
        ∃ page bytes, load_replay_entries relay.store request = .ok page
          ∧ encode_replay_page_preserving (page.entries.map encoded) page.next_cursor
              page.has_more = .ok bytes
          ∧ bytes.length ≤ MAX_REPLAY_PAGE_BYTES)
    ∧ ∀ request : ReplayRequest, I64_MAX < request.after_cursor →
      replay_encoded relay.store request = .error .SequenceExhausted := by
  have hwf := h.wellFormed
  refine ⟨?_, ?_, ?_⟩
  · rw [hwf.log_eq]
    constructor
    · intro hreplay row hrow
      have hbounded := hwf.boundedEntry hrow
      have hpos : 0 < row.cursor := hbounded.cursor_pos
      have hnumbered := (hwf.route_log routing_id).numbered
      have hlt := hwf.log_length_lt routing_id
      have hle := (hnumbered.le_of_mem hrow).2
      have hafter : row.cursor - 1 ≤ I64_MAX := by omega
      -- a page that starts right before the row holds it
      obtain ⟨page, bytes, -, -, -, hmem, -, hanswers⟩ := replay_encoded_cases hwf
        ⟨routing_id, row.cursor - 1, 1, by decide⟩ hafter
      exact hanswers.1 (hreplay _ rfl hafter) (of row)
        (hmem row hrow (show row.cursor = row.cursor - 1 + 1 by omega))
    · intro hdepth request hroute hafter
      obtain ⟨page, bytes, -, -, -, -, hsub, hanswers⟩ := replay_encoded_cases hwf request hafter
      refine hanswers.2 fun entry hentry => ?_
      obtain ⟨row, hrow, rfl⟩ := hsub entry hentry
      exact hdepth row (hroute ▸ hrow)
  · intro request hafter
    obtain ⟨page, bytes, hload, hencode, hsize, -⟩ := replay_encoded_cases hwf request hafter
    exact ⟨page, bytes, hload, hencode, hsize⟩
  · intro request hafter
    rw [replay_encoded, load_replay_entries, to_sql_integer, if_neg (Nat.not_le.2 hafter),
      error_bind, error_bind]

theorem replay_encoded_iff_sample : (∀ row ∈ sample_relay.store.log (.repeated 32 7),
      envelope_depth row.encoded_envelope + 2 ≤ RECURSION_LIMIT)
    ∧ ∃ page, replay_encoded sample_relay.store ⟨.repeated 32 7, 0, 1, by decide⟩ = .ok page :=
  have hdepth : ∀ row ∈ sample_relay.store.log (.repeated 32 7),
      envelope_depth row.encoded_envelope + 2 ≤ RECURSION_LIMIT := by decide +kernel
  have hreplay := (replay_encoded_iff sample_relay_reachable (.repeated 32 7)).1.2 hdepth
    ⟨.repeated 32 7, 0, 1, by decide⟩ rfl (Nat.zero_le _)
  ⟨hdepth, hreplay.imp (fun _ h => h.choose_spec.1)⟩

/-- Unknown groups, one inside the other. -/
def nested_groups : ℕ → Bytes
  | 0 => []
  | n + 1 => append_key 3 .StartGroup ++ (nested_groups n ++ append_key 3 .EndGroup)

/-- The bytes of `sample_commit 3` with one more `version` field, which holds nothing but
unknown groups: they decode to the same envelope. -/
def nested_bytes : Bytes := sample_bytes 3 ++ append_length_delimited 1 (nested_groups 98)

/-- An envelope that the relay accepts and can never put into a page: the route cannot be
replayed from before it, whatever the page size. -/
theorem replay_encoded_blocked :
    (submit_encoded Repository.initial.store (sample_commit 3) nested_bytes 5).1
      = .ok ⟨1, false⟩ ∧ (∀ limit ∈ [1, 100], ∀ h : 1 ≤ limit ∧ limit ≤ MAX_REPLAY_PAGE_SIZE,
      replay_encoded (submit_encoded Repository.initial.store (sample_commit 3) nested_bytes 5).2
          ⟨.repeated 32 7, 0, limit, h⟩
        = .error (.Protocol (.Decode "ReplayPage" (.decoder .recursion_limit_reached)))) := by
  decide +kernel

/-! ## The encoder by itself

The same for entries that are not from a store. -/

/-- The canonical bytes of a stored envelope, with its cursor. -/
def canonical_entry (stored : StoredRelayEnvelope) : Bytes × ℕ :=
  ((relay_to_wire stored.envelope).encode, stored.cursor)

theorem encode_wire_page (page : ReplayPage) :
    (⟨page.envelopes.map stored_to_wire, page.next_cursor, page.has_more⟩ : Wire.ReplayPage).encode
    = append_page (page.envelopes.map canonical_entry) page.next_cursor page.has_more := by
  have hentry : ∀ stored : StoredRelayEnvelope,
      append_length_delimited 1 (stored_to_wire stored).encode
        = append_entry (canonical_entry stored) := by
    intro stored
    have hstored : (stored_to_wire stored).encode
        = append_stored (canonical_entry stored).1 (canonical_entry stored).2 := by
      rw [Wire.StoredRelayEnvelope.encode, Wire.append_optional_varint,
        if_neg (show (stored_to_wire stored).cursor ≠ 0 from Nat.ne_of_gt stored.cursor_pos)]
      rfl
    rw [hstored]
    rfl
  rw [append_page_eq, encode, flatMap_map, flatMap_map]
  simp only [hentry]
  rfl

/-- Pages of canonical envelopes are encoded byte for byte as prost encodes them. Whatever
accepted encodings a page keeps, it has the length that was computed before; and it decodes
to what they decode to alone, in order, exactly when each of them leaves two levels of the
recursion limit unused. -/
theorem replay_page_preserved (page : ReplayPage) (entries : List (Bytes × ℕ)) (next_cursor : ℕ)
    (has_more : Bool) (bytes : Bytes) : ((∀ stored ∈ page.envelopes,
        decode_relay_envelope (canonical_entry stored).1 = .ok stored.envelope) →
      encode_replay_page_preserving (page.envelopes.map canonical_entry) page.next_cursor
        page.has_more = encode_replay_page page)
    ∧ (next_cursor < 2 ^ 64 →
      encode_replay_page_preserving entries next_cursor has_more = .ok bytes →
      (∃ last length, page_length_loop none 0 entries = .ok (last, length)
        ∧ bytes.length = length + (if next_cursor = 0 then 0 else varint_field_length next_cursor)
          + (if has_more then 2 else 0))
      ∧ ((∃ page, decode_replay_page bytes = .ok page
          ∧ List.Forall₂ (fun entry stored => decode_relay_envelope entry.1 = .ok stored.envelope
            ∧ stored.cursor = entry.2) entries page.envelopes
          ∧ page.next_cursor = next_cursor ∧ page.has_more = has_more)
        ↔ ∀ entry ∈ entries, envelope_depth entry.1 + 2 ≤ RECURSION_LIMIT)) := by
  constructor
  · intro hcanonical
    have hcursors : (page.envelopes.map canonical_entry).map Prod.snd
        = page.envelopes.map (·.cursor) := map_map
    rw [encode_replay_page, encode_wire_page]
    refine encode_replay_page_preserving_eq ?_ ?_ ?_ ?_
    · rw [length_map]
      exact page.count_le
    · intro entry hentry
      obtain ⟨stored, hstored, rfl⟩ := mem_map.1 hentry
      exact ⟨_, hcanonical stored hstored⟩
    · rw [hcursors, isChain_iff_pairwise, pairwise_cons, ← isChain_iff_pairwise]
      refine ⟨fun cursor hcursor => ?_, page.order.1⟩
      obtain ⟨stored, -, rfl⟩ := mem_map.1 hcursor
      exact stored.cursor_pos
    · intro entry hentry
      rw [getLast?_map] at hentry
      obtain ⟨stored, hstored, rfl⟩ := Option.map_eq_some_iff.1 hentry
      exact page.order.2 stored hstored
  · intro hnext h
    obtain ⟨hpage, rfl⟩ := encode_replay_page_preserving_eq_ok.1 h
    refine ⟨⟨_, _, (page_length_loop_eq_ok none 0).2 ⟨hpage.decodes, hpage.order, rfl⟩,
      append_page_length ..⟩, fun ⟨page, hdecode, _⟩ => hpage.depth_of_decode hnext hdecode,
      fun hdepth => ?_⟩
    obtain ⟨page, hdecode, hdecodes, hsame⟩ := hpage.decode_of_depth hnext hdepth
    exact ⟨page, hdecode, forall₂_map_left_iff.1 hdecodes, hsame⟩

/-- A page of one canonical envelope. -/
def sample_page : ReplayPage := ⟨[⟨sample_commit 3, 1, by decide⟩], 1, false, by decide, by decide⟩

theorem replay_page_preserved_sample :
    encode_replay_page_preserving [(sample_bytes 3, 1)] 1 false = encode_replay_page sample_page
    ∧ ∃ page, decode_replay_page (append_page [(sample_bytes 3, 1)] 1 false) = .ok page
      ∧ page.next_cursor = 1 := by
  obtain ⟨hsame, hdecodes⟩ := replay_page_preserved sample_page [(sample_bytes 3, 1)] 1 false
    (append_page [(sample_bytes 3, 1)] 1 false)
  obtain ⟨page, hpage, -, hnext, -⟩ :=
    (hdecodes (by decide) (by decide +kernel)).2.2 (by decide +kernel)
  exact ⟨hsame (by decide +kernel), page, hpage, hnext⟩

/-- A page that keeps an accepted envelope is encoded, and is refused by the decoder. -/
theorem replay_page_refused : decode_relay_envelope nested_bytes = .ok (sample_commit 3)
    ∧ (encode_replay_page_preserving [(nested_bytes, 1)] 1 false).isOk = true
    ∧ encode_replay_page_preserving [(nested_bytes, 1)] 1 false >>= decode_replay_page
      = .error (.Decode "ReplayPage" (.decoder .recursion_limit_reached)) := by
  decide +kernel

/-! ## The two replays

Replaying bytes and replaying decoded envelopes agree. -/

/-- A page is determined by what its entries decode to, its cursor and its flag. -/
theorem page_eq_of_decodes {entries : List ReplayEntry} {page other : ReplayPage}
    (hpage : List.Forall₂ Decodes entries page.envelopes)
    (hother : List.Forall₂ Decodes entries other.envelopes)
    (hnext : page.next_cursor = other.next_cursor) (hmore : page.has_more = other.has_more) :
    page = other := by
  have hsame : page.envelopes = other.envelopes := by
    refine Relator.RightUnique.forall₂ ?_ hpage hother
    rintro entry ⟨envelope, cursor, _⟩ ⟨envelope', cursor', _⟩ ⟨hdecode, hcur⟩ ⟨hdecode', hcur'⟩
    cases hdecode.symm.trans hdecode'
    cases hcur.trans hcur'.symm
    rfl
  cases page
  cases other
  cases hsame
  cases hnext
  cases hmore
  rfl

/-- The bytes that `replay_encoded` returns decode to the page that `replay` returns. -/
theorem encoded_replay_decodes {relay : Repository} (h : relay.Reachable) {request : ReplayRequest}
    {page : EncodedReplayPage} (hpage : replay_encoded relay.store request = .ok page) :
    ∃ decoded, decode_replay_page page.bytes = .ok decoded
      ∧ replay relay.store request = .ok decoded := by
  have hwf := h.wellFormed
  rw [replay_encoded] at hpage
  obtain ⟨loaded, hload, hpage⟩ := bind_ok.1 hpage
  obtain ⟨bytes, hencode, hnew⟩ := bind_ok.1 hpage
  obtain ⟨hentries, rfl⟩ := encode_replay_page_preserving_eq_ok.1 (from_protocol_eq_ok.1 hencode)
  obtain ⟨-, hnew⟩ := ite_ok.1 hnew
  obtain ⟨decoded, hdecode, hnew⟩ := bind_ok.1 hnew
  obtain ⟨-, hnew⟩ := ite_ok.1 hnew
  cases hnew
  have hdecode := from_protocol_eq_ok.1 hdecode
  have hafter : request.after_cursor ≤ I64_MAX := by
    rw [load_replay_entries] at hload
    obtain ⟨_, hcursor, -⟩ := bind_ok.1 hload
    exact (to_sql_integer_ok.1 hcursor).1
  -- the window that was loaded ends before the last cursor a column holds
  have hnext : loaded.next_cursor < 2 ^ 64 := by
    obtain ⟨k, has_more, hwindow, -, -, -, hlt, -⟩ := load_replay_entries_window hwf request hafter
    cases hload.symm.trans hwindow
    exact hlt
  obtain ⟨alone, halone, hdecodes, hcursor, hmore⟩ :=
    hentries.decode_of_depth hnext (hentries.depth_of_decode hnext hdecode)
  cases hdecode.symm.trans halone
  -- `replay` decodes the same entries one by one
  obtain ⟨replayed, hreplay, hreplayed, hcursor', hmore'⟩ := replay_of_load hwf hload
  rw [map_map, show (fun entry : Bytes × ℕ => ReplayEntry.mk entry.1 entry.2)
    ∘ (fun entry : ReplayEntry => (entry.encoded_envelope, entry.cursor)) = id from rfl,
    map_id] at hdecodes
  refine ⟨decoded, hdecode, ?_⟩
  rw [hreplay, page_eq_of_decodes hdecodes hreplayed (hcursor.trans hcursor'.symm)
    (hmore.trans hmore'.symm)]

theorem encoded_replay_decodes_sample : ∃ page decoded,
    replay_encoded sample_log.store ⟨.repeated 32 7, 0, 2, by decide⟩ = .ok page
    ∧ page.envelope_count = 2 ∧ page.has_more = true
    ∧ decode_replay_page page.bytes = .ok decoded
    ∧ replay sample_log.store ⟨.repeated 32 7, 0, 2, by decide⟩ = .ok decoded := by
  have hpage : replay_encoded sample_log.store ⟨.repeated 32 7, 0, 2, by decide⟩
      = .ok ⟨append_page [(sample_bytes 3, 1), ((relay_to_wire sample_proposal).encode, 2)] 2 true,
        2, true, 2⟩ := by
    decide +kernel
  obtain ⟨decoded, hdecoded⟩ := encoded_replay_decodes sample_log_reachable hpage
  exact ⟨_, decoded, hpage, rfl, rfl, hdecoded⟩

end Konclave.Relay
