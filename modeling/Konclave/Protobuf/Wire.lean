/-
Field keys, length-delimited bodies and the skipping of unknown fields.

A reader carries a recursion budget `ctx`: one level is spent for each nested
message or group entered, and a field met with no level left is refused. The
budget decides only *whether* a field is skipped, never *where* the skipping ends,
so the group reader comes in two forms: `skip_group`, which spends the budget as
it goes, and `skip_group_depth`, which has none and reports the budget it would
have needed. `skip_group_ok_iff` is the whole relation between them, and it is the
only fact the layers above use.

The group readers recurse on a fuel of one unit a field read. Every field takes at
least one byte, so the length of the buffer is enough (`skip_field_fuel`).
-/
import Konclave.Protobuf.Varint

set_option autoImplicit false

namespace Konclave.Protobuf

/-! ## Keys -/

/-- The six wire types. -/
inductive WireType where
  | Varint
  | SixtyFourBit
  | LengthDelimited
  | StartGroup
  | EndGroup
  | ThirtyTwoBit
  deriving DecidableEq, Repr

open WireType

/-- The three key bits of a wire type. -/
def WireType.bits : WireType → ℕ
  | .Varint => 0
  | .SixtyFourBit => 1
  | .LengthDelimited => 2
  | .StartGroup => 3
  | .EndGroup => 4
  | .ThirtyTwoBit => 5

/-- The wire type of three key bits; `6` and `7` name none. -/
def WireType.try_from : ℕ → Except DecodeError WireType
  | 0 => .ok .Varint
  | 1 => .ok .SixtyFourBit
  | 2 => .ok .LengthDelimited
  | 3 => .ok .StartGroup
  | 4 => .ok .EndGroup
  | 5 => .ok .ThirtyTwoBit
  | _ => .error .invalid_wire_type

theorem WireType.try_from_bits (wire_type : WireType) :
    try_from wire_type.bits = .ok wire_type := by
  cases wire_type <;> rfl

theorem WireType.bits_lt (wire_type : WireType) : wire_type.bits < 8 := by
  cases wire_type <;> decide

/-- The varint `tag << 3 | wire_type` that opens a field. -/
def append_key (tag : ℕ) (wire_type : WireType) : Bytes :=
  append_varint (tag * 8 + wire_type.bits)

/-- Reads a key. A key wider than 32 bits, an unassigned wire type and tag zero
are refused, in that order. -/
def decode_key (buf : Bytes) : Except DecodeError ((ℕ × WireType) × Bytes) :=
  match decode_varint buf with
  | .error e => .error e
  | .ok (key, rest) =>
    if 2 ^ 32 ≤ key then .error .invalid_key
    else match try_from (key % 8) with
      | .error e => .error e
      | .ok wire_type =>
        if key / 8 < 1 then .error .invalid_tag
        else .ok ((key / 8, wire_type), rest)

variable {tag ctx : ℕ} {buf rest body : Bytes} {wire_type : WireType} {fuel : ℕ}

theorem decode_append_key (h0 : 0 < tag) (h1 : tag < 2 ^ 29) (wire_type : WireType) (rest : Bytes) :
    decode_key (append_key tag wire_type ++ rest) = .ok ((tag, wire_type), rest) := by
  have hb := wire_type.bits_lt
  have hmod : (tag * 8 + wire_type.bits) % 8 = wire_type.bits := by omega
  have hdiv : (tag * 8 + wire_type.bits) / 8 = tag := by omega
  rw [decode_key, append_key, decode_append_varint (by omega)]
  simp only [hmod, hdiv, try_from_bits]
  rw [if_neg (by omega), if_neg (by omega)]

/-- A key takes at least one byte. -/
theorem decode_key_rest_length {key : ℕ × WireType} (h : decode_key buf = .ok (key, rest)) :
    rest.length < buf.length := by
  rw [decode_key] at h
  split at h
  · simp at h
  · rename_i value rest' hv
    split at h
    · simp at h
    · split at h
      · simp at h
      · split at h
        · simp at h
        · simp only [Except.ok.injEq, Prod.mk.injEq] at h
          rw [← h.2]
          exact decode_varint_rest_length hv

/-- A failure that is passed on is not that of the fuel. -/
theorem error_fuel {α β : Type} {read : Except DecodeError α} {e : DecodeError}
    (h : read ≠ .error .out_of_fuel) (he : read = .error e) :
    (.error e : Except DecodeError β) ≠ .error .out_of_fuel := by
  rintro ⟨⟩
  exact h he

theorem decode_varint_loop_fuel (left : ℕ) : ∀ buf : Bytes,
    decode_varint_loop left buf ≠ .error .out_of_fuel := by
  induction left with
  | zero =>
    intro buf
    cases buf with
    | nil => simp [decode_varint_loop]
    | cons byte tail =>
      rw [decode_varint_loop]
      split <;> simp
  | succ left ih =>
    intro buf
    cases buf with
    | nil => simp [decode_varint_loop]
    | cons byte tail =>
      rw [decode_varint_loop]
      split
      · simp
      · split
        · simp
        · rename_i e he
          exact error_fuel (ih tail) he

theorem decode_varint_fuel : decode_varint buf ≠ .error .out_of_fuel :=
  decode_varint_loop_fuel 9 buf

theorem WireType.try_from_fuel (bits : ℕ) : try_from bits ≠ .error .out_of_fuel := by
  unfold try_from
  split <;> simp

theorem decode_key_fuel : decode_key buf ≠ .error .out_of_fuel := by
  rw [decode_key]
  split
  · rename_i e he
    exact error_fuel decode_varint_fuel he
  · split
    · simp
    · split
      · rename_i e he
        exact error_fuel (try_from_fuel _) he
      · split <;> simp

/-! ## Bodies -/

/-- The next `count` bytes and what follows them. -/
def take_bytes (count : ℕ) (buf : Bytes) : Except DecodeError (Bytes × Bytes) :=
  if buf.length < count then .error .buffer_underflow
  else .ok (buf.take count, buf.drop count)

theorem take_bytes_append : take_bytes body.length (body ++ rest) = .ok (body, rest) := by
  rw [take_bytes, if_neg (by rw [List.length_append]; omega)]
  simp only [List.take_left', List.drop_left']

/-- A length prefix and that many bytes. -/
def take_length_delimited (buf : Bytes) : Except DecodeError (Bytes × Bytes) :=
  match decode_varint buf with
  | .error e => .error e
  | .ok (count, rest) => take_bytes count rest

theorem take_length_delimited_append (h : body.length < 2 ^ 64) :
    take_length_delimited (append_varint body.length ++ (body ++ rest)) = .ok (body, rest) := by
  rw [take_length_delimited, decode_append_varint h]
  exact take_bytes_append

theorem take_bytes_rest_length {count : ℕ} (h : take_bytes count buf = .ok (body, rest)) :
    rest.length ≤ buf.length := by
  rw [take_bytes] at h
  split at h
  · simp at h
  · simp only [Except.ok.injEq, Prod.mk.injEq] at h
    rw [← h.2, List.length_drop]
    omega

theorem take_length_delimited_rest_length (h : take_length_delimited buf = .ok (body, rest)) :
    rest.length ≤ buf.length := by
  rw [take_length_delimited] at h
  split at h
  · simp at h
  · rename_i count tail hv
    have h1 := decode_varint_rest_length hv
    have h2 := take_bytes_rest_length h
    omega

theorem take_length_delimited_fuel : take_length_delimited buf ≠ .error .out_of_fuel := by
  rw [take_length_delimited]
  split
  · rename_i e he
    exact error_fuel decode_varint_fuel he
  · rw [take_bytes]
    split <;> simp

/-! ## Skipping an unknown field

Groups nest, so skipping one needs fuel and counts the levels it descends. -/

/-- Skips the value of a field that is not a group. -/
def skip_value (wire_type : WireType) (buf : Bytes) : Except DecodeError Bytes :=
  match wire_type with
  | .Varint => (decode_varint buf).map Prod.snd
  | .SixtyFourBit => (take_bytes 8 buf).map Prod.snd
  | .LengthDelimited => (take_length_delimited buf).map Prod.snd
  | .ThirtyTwoBit => (take_bytes 4 buf).map Prod.snd
  | .StartGroup | .EndGroup => .error .unexpected_end_group

/-- Skips to the end of the group `tag` whose opening key was read at budget `ctx`.
The fields inside it are met with one level less. -/
def skip_group : ℕ → ℕ → ℕ → Bytes → Except DecodeError Bytes
  | 0, _, _, _ => .error .out_of_fuel
  | fuel + 1, ctx, tag, buf =>
    match decode_key buf with
    | .error e => .error e
    | .ok ((inner_tag, .EndGroup), rest) =>
      if inner_tag = tag then .ok rest else .error .unexpected_end_group
    | .ok ((inner_tag, .StartGroup), rest) =>
      if ctx - 1 = 0 then .error .recursion_limit_reached
      else match skip_group fuel (ctx - 1) inner_tag rest with
        | .error e => .error e
        | .ok rest => skip_group fuel ctx tag rest
    | .ok ((_, wire_type), rest) =>
      if ctx - 1 = 0 then .error .recursion_limit_reached
      else match skip_value wire_type rest with
        | .error e => .error e
        | .ok rest => skip_group fuel ctx tag rest

/-- Skips one unknown field at budget `ctx`. -/
def skip_field (ctx : ℕ) (wire_type : WireType) (tag : ℕ) (buf : Bytes) :
    Except DecodeError Bytes :=
  if ctx = 0 then .error .recursion_limit_reached
  else if wire_type = .StartGroup then skip_group (buf.length + 1) ctx tag buf
  else skip_value wire_type buf

/-- `skip_group` without a budget, with the budget it would have needed: a group
takes one level, and one more than whatever it holds. -/
def skip_group_depth : ℕ → ℕ → Bytes → Except DecodeError (Bytes × ℕ)
  | 0, _, _ => .error .out_of_fuel
  | fuel + 1, tag, buf =>
    match decode_key buf with
    | .error e => .error e
    | .ok ((inner_tag, .EndGroup), rest) =>
      if inner_tag = tag then .ok (rest, 1) else .error .unexpected_end_group
    | .ok ((inner_tag, .StartGroup), rest) =>
      match skip_group_depth fuel inner_tag rest with
      | .error e => .error e
      | .ok (rest, inner) => match skip_group_depth fuel tag rest with
        | .error e => .error e
        | .ok (rest, depth) => .ok (rest, max (inner + 1) depth)
    | .ok ((_, wire_type), rest) =>
      match skip_value wire_type rest with
      | .error e => .error e
      | .ok rest => match skip_group_depth fuel tag rest with
        | .error e => .error e
        | .ok (rest, depth) => .ok (rest, max 2 depth)

/-- `skip_field` without a budget, with the budget it would have needed. -/
def skip_field_depth (wire_type : WireType) (tag : ℕ) (buf : Bytes) :
    Except DecodeError (Bytes × ℕ) :=
  if wire_type = .StartGroup then skip_group_depth (buf.length + 1) tag buf
  else (skip_value wire_type buf).map (·, 1)

theorem skip_group_depth_pos : ∀ {tag : ℕ} {buf rest : Bytes} {depth : ℕ},
    skip_group_depth fuel tag buf = .ok (rest, depth) → 0 < depth := by
  induction fuel with
  | zero => intro tag buf rest depth h; simp [skip_group_depth] at h
  | succ fuel ih =>
    intro tag buf rest depth h
    rw [skip_group_depth] at h
    split at h
    · simp at h
    · split at h
      · simp only [Except.ok.injEq, Prod.mk.injEq] at h
        omega
      · simp at h
    · split at h
      · simp at h
      · split at h
        · simp at h
        · simp only [Except.ok.injEq, Prod.mk.injEq] at h
          omega
    · split at h
      · simp at h
      · split at h
        · simp at h
        · simp only [Except.ok.injEq, Prod.mk.injEq] at h
          omega

/-- The budgeted group reader accepts exactly what the unbudgeted one accepts with
a depth within the budget, and ends at the same place. -/
theorem skip_group_ok_iff : ∀ (ctx tag : ℕ) (buf rest : Bytes), 0 < ctx →
    (skip_group fuel ctx tag buf = .ok rest
      ↔ ∃ depth, skip_group_depth fuel tag buf = .ok (rest, depth) ∧ depth ≤ ctx) := by
  induction fuel with
  | zero => intro ctx tag buf rest _; simp [skip_group, skip_group_depth]
  | succ fuel ih =>
    intro ctx tag buf rest hctx
    rw [skip_group, skip_group_depth]
    split
    · simp
    · split
      · simp only [Except.ok.injEq, Prod.mk.injEq]
        constructor
        · rintro rfl; exact ⟨1, ⟨rfl, rfl⟩, hctx⟩
        · rintro ⟨_, ⟨rfl, _⟩, _⟩; rfl
      · simp
    · rename_i inner_tag tail _
      by_cases hlim : ctx - 1 = 0
      · -- The budget is spent on this group: nothing may be read inside it.
        rw [if_pos hlim]
        simp only [reduceCtorEq, false_iff, not_exists, not_and, Nat.not_le]
        intro depth hdepth
        split at hdepth
        · simp at hdepth
        · rename_i inner hinner
          split at hdepth
          · simp at hdepth
          · simp only [Except.ok.injEq, Prod.mk.injEq] at hdepth
            have := skip_group_depth_pos hinner
            omega
      · rw [if_neg hlim]
        constructor
        · intro h
          split at h
          · simp at h
          · rename_i mid hmid
            obtain ⟨inner, hinner, hle⟩ := (ih (ctx - 1) inner_tag tail mid (by omega)).1 hmid
            obtain ⟨depth, hdepth, hle'⟩ := (ih ctx tag mid rest hctx).1 h
            refine ⟨max (inner + 1) depth, ?_, by omega⟩
            simp only [hinner, hdepth]
        · rintro ⟨depth, hdepth, hle⟩
          split at hdepth
          · simp at hdepth
          · rename_i mid inner hinner
            split at hdepth
            · simp at hdepth
            · rename_i rest' depth' hrest
              simp only [Except.ok.injEq, Prod.mk.injEq] at hdepth
              obtain ⟨rfl, rfl⟩ := hdepth
              have h1 := (ih (ctx - 1) inner_tag tail mid (by omega)).2 ⟨inner, hinner, by omega⟩
              simp only [h1]
              exact (ih ctx tag mid rest' hctx).2 ⟨depth', hrest, by omega⟩
    · rename_i wire_type tail _ _ _
      by_cases hlim : ctx - 1 = 0
      · rw [if_pos hlim]
        simp only [reduceCtorEq, false_iff, not_exists, not_and, Nat.not_le]
        intro depth hdepth
        split at hdepth
        · simp at hdepth
        · split at hdepth
          · simp at hdepth
          · simp only [Except.ok.injEq, Prod.mk.injEq] at hdepth
            omega
      · rw [if_neg hlim]
        constructor
        · intro h
          split at h
          · simp at h
          · rename_i mid hmid
            obtain ⟨depth, hdepth, hle⟩ := (ih ctx tag mid rest hctx).1 h
            refine ⟨max 2 depth, ?_, by omega⟩
            simp only [hdepth]
        · rintro ⟨depth, hdepth, hle⟩
          split at hdepth
          · simp at hdepth
          · rename_i mid hmid
            split at hdepth
            · simp at hdepth
            · rename_i rest' depth' hrest
              simp only [Except.ok.injEq, Prod.mk.injEq] at hdepth
              obtain ⟨rfl, rfl⟩ := hdepth
              exact (ih ctx tag mid rest' hctx).2 ⟨depth', hrest, by omega⟩

theorem skip_field_depth_pos {depth : ℕ}
    (h : skip_field_depth wire_type tag buf = .ok (rest, depth)) : 0 < depth := by
  unfold skip_field_depth at h
  split at h
  · exact skip_group_depth_pos h
  · cases hv : skip_value wire_type buf with
    | error e => simp [hv, Except.map] at h
    | ok mid =>
      simp only [hv, Except.map, Except.ok.injEq, Prod.mk.injEq] at h
      omega

/-- A field is skipped exactly when it is well formed and its depth is within the budget. -/
theorem skip_field_ok_iff (ctx : ℕ) (wire_type : WireType) (tag : ℕ) (buf rest : Bytes) :
    skip_field ctx wire_type tag buf = .ok rest
    ↔ ∃ depth, skip_field_depth wire_type tag buf = .ok (rest, depth) ∧ depth ≤ ctx := by
  rw [skip_field]
  by_cases hctx : ctx = 0
  · rw [if_pos hctx]
    simp only [reduceCtorEq, false_iff, not_exists, not_and, Nat.not_le]
    intro depth hdepth
    have := skip_field_depth_pos hdepth
    omega
  · rw [if_neg hctx]
    rw [skip_field_depth]
    by_cases hgroup : wire_type = .StartGroup
    · rw [if_pos hgroup, if_pos hgroup]
      exact skip_group_ok_iff ctx tag buf rest (by omega)
    · rw [if_neg hgroup, if_neg hgroup]
      cases hv : skip_value wire_type buf with
      | error e => simp [Except.map]
      | ok mid =>
        simp only [Except.map, Except.ok.injEq, Prod.mk.injEq]
        constructor
        · rintro rfl; exact ⟨1, ⟨rfl, rfl⟩, by omega⟩
        · rintro ⟨_, ⟨rfl, _⟩, _⟩; rfl

/-! ## Enough fuel

The bytes that are left bound the recursion. -/

theorem map_snd_rest_length {α : Type} {read : Except DecodeError (α × Bytes)}
    (hread : ∀ {a tail}, read = .ok (a, tail) → tail.length ≤ buf.length)
    (h : read.map Prod.snd = .ok rest) : rest.length ≤ buf.length := by
  cases hr : read with
  | error e => simp [hr, Except.map] at h
  | ok p =>
    simp only [hr, Except.map, Except.ok.injEq] at h
    rw [← h]
    exact hread (a := p.1) hr

theorem skip_value_rest_length (h : skip_value wire_type buf = .ok rest) :
    rest.length ≤ buf.length := by
  cases wire_type with
  | Varint => exact map_snd_rest_length (fun hv => Nat.le_of_lt (decode_varint_rest_length hv)) h
  | LengthDelimited => exact map_snd_rest_length take_length_delimited_rest_length h
  | SixtyFourBit | ThirtyTwoBit => exact map_snd_rest_length take_bytes_rest_length h
  | StartGroup | EndGroup => simp [skip_value] at h

theorem map_fuel {α β : Type} {f : α → β} {read : Except DecodeError α}
    (h : read ≠ .error .out_of_fuel) : read.map f ≠ .error .out_of_fuel := by
  cases hr : read with
  | error e =>
    rw [hr] at h
    simpa [Except.map] using h
  | ok a => simp [Except.map]

theorem take_bytes_fuel (count : ℕ) : take_bytes count buf ≠ .error .out_of_fuel := by
  rw [take_bytes]
  split <;> simp

theorem skip_value_fuel : skip_value wire_type buf ≠ .error .out_of_fuel := by
  cases wire_type with
  | Varint => exact map_fuel decode_varint_fuel
  | LengthDelimited => exact map_fuel take_length_delimited_fuel
  | SixtyFourBit => exact map_fuel (take_bytes_fuel 8)
  | ThirtyTwoBit => exact map_fuel (take_bytes_fuel 4)
  | StartGroup | EndGroup => simp [skip_value]

theorem skip_group_rest_length : ∀ {ctx tag : ℕ} {buf rest : Bytes},
    skip_group fuel ctx tag buf = .ok rest → rest.length < buf.length := by
  induction fuel with
  | zero => intro ctx tag buf rest h; simp [skip_group] at h
  | succ fuel ih =>
    intro ctx tag buf rest h
    rw [skip_group] at h
    split at h
    · simp at h
    · rename_i hkey
      have := decode_key_rest_length hkey
      split at h
      · simp only [Except.ok.injEq] at h
        rw [← h]; omega
      · simp at h
    · rename_i hkey
      have := decode_key_rest_length hkey
      split at h
      · simp at h
      · split at h
        · simp at h
        · rename_i mid hmid
          have := ih hmid
          have := ih h
          omega
    · rename_i hkey
      have := decode_key_rest_length hkey
      split at h
      · simp at h
      · split at h
        · simp at h
        · rename_i mid hmid
          have := skip_value_rest_length hmid
          have := ih h
          omega

/-- One unit of fuel more than there are bytes always suffices. -/
theorem skip_group_fuel : ∀ (ctx tag : ℕ) (buf : Bytes), buf.length < fuel →
    skip_group fuel ctx tag buf ≠ .error .out_of_fuel := by
  induction fuel with
  | zero => intro ctx tag buf h; omega
  | succ fuel ih =>
    intro ctx tag buf hlen
    rw [skip_group]
    split
    · rename_i e he
      exact error_fuel decode_key_fuel he
    · split <;> simp
    · rename_i tail hkey
      have := decode_key_rest_length hkey
      split
      · simp
      · split
        · rename_i e he
          exact error_fuel (ih _ _ tail (by omega)) he
        · rename_i mid hmid
          have := skip_group_rest_length hmid
          exact ih _ _ mid (by omega)
    · rename_i tail _ _ hkey
      have := decode_key_rest_length hkey
      split
      · simp
      · split
        · rename_i e he
          exact error_fuel skip_value_fuel he
        · rename_i mid hmid
          have := skip_value_rest_length hmid
          exact ih _ _ mid (by omega)

theorem skip_field_rest_length (h : skip_field ctx wire_type tag buf = .ok rest) :
    rest.length ≤ buf.length := by
  rw [skip_field] at h
  split at h
  · simp at h
  · split at h
    · exact Nat.le_of_lt (skip_group_rest_length h)
    · exact skip_value_rest_length h

theorem skip_field_fuel : skip_field ctx wire_type tag buf ≠ .error .out_of_fuel := by
  rw [skip_field]
  split
  · simp
  · split
    · exact skip_group_fuel ctx tag buf (by omega)
    · exact skip_value_fuel

/-! ## Skipping one written field -/

theorem skip_field_varint_append (hctx : ctx ≠ 0) {value : ℕ} (h : value < 2 ^ 64) :
    skip_field ctx .Varint tag (append_varint value ++ rest) = .ok rest := by
  rw [skip_field, if_neg hctx, if_neg (by decide), skip_value, decode_append_varint h]
  rfl

theorem skip_field_length_delimited_append (hctx : ctx ≠ 0) (h : body.length < 2 ^ 64) :
    skip_field ctx .LengthDelimited tag (append_varint body.length ++ (body ++ rest))
    = .ok rest := by
  rw [skip_field, if_neg hctx, if_neg (by decide), skip_value, take_length_delimited_append h]
  rfl

end Konclave.Protobuf
