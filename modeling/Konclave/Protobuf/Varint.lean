/-
Base-128 varints, the integer encoding under every Protocol Buffers field.

The writer emits seven payload bits a byte, lowest group first, with the
continuation bit on every byte but the last. The reader takes at most ten bytes
and refuses a tenth byte above one, which is what keeps its result below `2^64`;
a longer or truncated run of continuation bytes is an error.

Nothing here is about one message: the layers above use `decode_append_varint`
(reading back what was written, whatever follows), the length of a written varint,
and that reading always consumes at least one byte.
-/
import Mathlib.Algebra.Order.Ring.Int
import Mathlib.Data.List.Basic

set_option autoImplicit false

namespace Konclave.Protobuf

/-- A byte string. -/
abbrev Bytes := List UInt8

/-- What the wire-format reader refuses, one constructor a cause. -/
inductive DecodeError where
  | invalid_varint
  | invalid_key
  | invalid_wire_type
  | invalid_tag
  | unexpected_wire_type
  | buffer_underflow
  | unexpected_end_group
  | recursion_limit_reached
  | out_of_fuel
  deriving DecidableEq, Repr

/-! ## The writer

Both loops are over the bytes still allowed after this one, so they run on closed
terms; `9` is enough for a 64-bit value. -/

/-- One byte of the varint of `value`, with `left` bytes allowed after it. -/
def append_varint_loop : ℕ → ℕ → Bytes
  | 0, value => [UInt8.ofNat value]
  | left + 1, value =>
    if value < 128 then [UInt8.ofNat value]
    else UInt8.ofNat (value % 128 + 128) :: append_varint_loop left (value / 128)

/-- The varint of the 64-bit word `value`. -/
def append_varint (value : ℕ) : Bytes := append_varint_loop 9 value

/-- The byte count of `append_varint_loop`, computed without writing. -/
def varint_length_loop : ℕ → ℕ → ℕ
  | 0, _ => 1
  | left + 1, value => if value < 128 then 1 else varint_length_loop left (value / 128) + 1

/-- The number of bytes `append_varint` writes. -/
def varint_length (value : ℕ) : ℕ := varint_length_loop 9 value

theorem append_varint_loop_length (left : ℕ) : ∀ value : ℕ,
    (append_varint_loop left value).length = varint_length_loop left value := by
  induction left with
  | zero => intro value; rfl
  | succ left ih =>
    intro value
    rw [append_varint_loop, varint_length_loop]
    by_cases h : value < 128
    · rw [if_pos h, if_pos h]; rfl
    · rw [if_neg h, if_neg h, List.length_cons, ih]

@[simp] theorem append_varint_length (value : ℕ) :
    (append_varint value).length = varint_length value :=
  append_varint_loop_length 9 value

/-- A value below `2^(7k)` takes at most `k` bytes. -/
theorem varint_length_loop_le (left : ℕ) : ∀ (k value : ℕ), 0 < k → value < 2 ^ (7 * k) →
    varint_length_loop left value ≤ k := by
  induction left with
  | zero => intro k value hk _; rw [varint_length_loop]; omega
  | succ left ih =>
    intro k value hk hv
    rw [varint_length_loop]
    by_cases h : value < 128
    · rw [if_pos h]; omega
    · obtain ⟨j, rfl⟩ : ∃ j, k = j + 1 := ⟨k - 1, by omega⟩
      have hpow : 2 ^ (7 * (j + 1)) = 2 ^ (7 * j) * 128 := by
        rw [show 7 * (j + 1) = 7 * j + 7 by omega, Nat.pow_add]
      have hj : 0 < j := by
        rcases Nat.eq_zero_or_pos j with rfl | hj
        · omega
        · exact hj
      have hdiv : value / 128 < 2 ^ (7 * j) := by
        rw [Nat.div_lt_iff_lt_mul (by omega)]; omega
      rw [if_neg h]
      exact Nat.succ_le_succ (ih j (value / 128) hj hdiv)

theorem varint_length_le {k value : ℕ} (hk : 0 < k) (h : value < 2 ^ (7 * k)) :
    varint_length value ≤ k :=
  varint_length_loop_le 9 k value hk h

/-! ## The reader -/

/-- One byte of a varint, with `left` bytes allowed after it. The tenth byte
(`left = 0`) carries bit 63 only. -/
def decode_varint_loop : ℕ → Bytes → Except DecodeError (ℕ × Bytes)
  | _, [] => .error .invalid_varint
  | 0, byte :: rest =>
    if byte.toNat < 2 then .ok (byte.toNat, rest) else .error .invalid_varint
  | left + 1, byte :: rest =>
    if byte.toNat < 128 then .ok (byte.toNat, rest)
    else match decode_varint_loop left rest with
      | .ok (value, rest) => .ok (byte.toNat - 128 + 128 * value, rest)
      | .error e => .error e

/-- Reads one varint of at most ten bytes. -/
def decode_varint (buf : Bytes) : Except DecodeError (ℕ × Bytes) :=
  decode_varint_loop 9 buf

theorem toNat_ofNat_lt {n : ℕ} (h : n < 256) : (UInt8.ofNat n).toNat = n := by
  rw [UInt8.toNat_ofNat']; omega

/-- Reading back a written varint whose groups fit the bytes still allowed. -/
theorem decode_varint_loop_append (left : ℕ) : ∀ (value : ℕ) (rest : Bytes),
    value < 2 ^ (7 * left + 1) →
    decode_varint_loop left (append_varint_loop left value ++ rest) = .ok (value, rest) := by
  induction left with
  | zero =>
    intro value rest hv
    have hv2 : value < 2 := by simpa using hv
    rw [append_varint_loop, List.singleton_append, decode_varint_loop,
      toNat_ofNat_lt (by omega), if_pos hv2]
  | succ left ih =>
    intro value rest hv
    rw [append_varint_loop]
    by_cases h : value < 128
    · rw [if_pos h, List.singleton_append, decode_varint_loop, toNat_ofNat_lt (by omega), if_pos h]
    · have hpow : 2 ^ (7 * (left + 1) + 1) = 2 ^ (7 * left + 1) * 128 := by
        rw [show 7 * (left + 1) + 1 = 7 * left + 1 + 7 by omega, Nat.pow_add]
      have hdiv : value / 128 < 2 ^ (7 * left + 1) := by
        rw [Nat.div_lt_iff_lt_mul (by omega)]; omega
      rw [if_neg h, List.cons_append, decode_varint_loop,
        toNat_ofNat_lt (by omega), if_neg (by omega), ih _ _ hdiv]
      have hsum : value % 128 + 128 - 128 + 128 * (value / 128) = value := by omega
      simp only [hsum]

/-- Every 64-bit value is read back, and what follows it is left untouched. -/
theorem decode_append_varint {value : ℕ} (h : value < 2 ^ 64) (rest : Bytes) :
    decode_varint (append_varint value ++ rest) = .ok (value, rest) :=
  decode_varint_loop_append 9 value rest (by simpa using h)

theorem decode_varint_loop_length (left : ℕ) : ∀ {buf : Bytes} {value : ℕ} {rest : Bytes},
    decode_varint_loop left buf = .ok (value, rest) → rest.length < buf.length := by
  induction left with
  | zero =>
    intro buf value rest h
    cases buf with
    | nil => simp [decode_varint_loop] at h
    | cons byte tail =>
      rw [decode_varint_loop] at h
      split at h
      · simp only [Except.ok.injEq, Prod.mk.injEq] at h
        rw [← h.2, List.length_cons]; omega
      · simp at h
  | succ left ih =>
    intro buf value rest h
    cases buf with
    | nil => simp [decode_varint_loop] at h
    | cons byte tail =>
      rw [decode_varint_loop] at h
      split at h
      · simp only [Except.ok.injEq, Prod.mk.injEq] at h
        rw [← h.2, List.length_cons]; omega
      · split at h
        · rename_i inner tail' hloop
          simp only [Except.ok.injEq, Prod.mk.injEq] at h
          have := ih hloop
          rw [← h.2, List.length_cons]; omega
        · simp at h

/-- Reading a varint consumes at least one byte. -/
theorem decode_varint_rest_length {buf : Bytes} {value : ℕ} {rest : Bytes}
    (h : decode_varint buf = .ok (value, rest)) : rest.length < buf.length :=
  decode_varint_loop_length 9 h

end Konclave.Protobuf
