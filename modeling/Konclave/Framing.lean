/-
Byte strings that can be taken apart again.

What is signed or hashed is the concatenation of several fields. A field's encoding is
`Delimited` when whatever follows it can be told from it: two concatenations that begin
with such fields are equal only if the fields are, and so is the rest. Fixed widths and
length prefixes are delimited, and a message made of delimited fields is injective by
reading them off one after the other.
-/
import Mathlib.Algebra.Order.Ring.Int
import Mathlib.Data.List.Basic

set_option autoImplicit false

namespace Konclave.Framing

open List

/-- Among the values that satisfy `P`, an encoding says where it ends. -/
def Delimited {α β : Type} (P : α → Prop) (encode : α → List β) : Prop :=
  ∀ x y rest rest', P x → P y → encode x ++ rest = encode y ++ rest' → x = y ∧ rest = rest'

/-- Two concatenations that are equal begin with the same value. -/
theorem Delimited.split {α β : Type} {encode : α → List β} (h : Delimited (fun _ => True) encode)
    {x y : α} {rest rest' : List β} (heq : encode x ++ rest = encode y ++ rest') :
    x = y ∧ rest = rest' :=
  h x y rest rest' trivial trivial heq

theorem delimited_of_length {α β : Type} {P : α → Prop} {encode : α → List β}
    (hlen : ∀ x y, P x → P y → (encode x).length = (encode y).length)
    (hinj : ∀ x y, P x → P y → encode x = encode y → x = y) : Delimited P encode := by
  intro x y rest rest' hx hy h
  obtain ⟨hcode, hrest⟩ := append_inj h (hlen x y hx hy)
  exact ⟨hinj x y hx hy hcode, hrest⟩

/-- Tags of which none begins with another say where they end. -/
theorem delimited_tag {κ β : Type} {tag : κ → List β} (h : ∀ k k', tag k <+: tag k' → k = k') :
    Delimited (fun _ => True) tag := by
  intro k k' rest rest' _ _ heq
  have hsame : k = k' := by
    rcases prefix_or_prefix_of_prefix (prefix_append _ _) (heq ▸ prefix_append _ _) with hle | hle
    · exact (h k' k hle).symm
    · exact h k k' hle
  subst hsame
  exact ⟨rfl, append_cancel_left heq⟩

/-! ## Integers

Fixed-width integers delimit themselves. -/

/-- `to_be_bytes` of an integer of that many bytes. -/
def be_bytes : ℕ → ℕ → List UInt8
  | 0, _ => []
  | width + 1, n => be_bytes width (n / 256) ++ [UInt8.ofNat n]

@[simp] theorem length_be_bytes (width n : ℕ) : (be_bytes width n).length = width := by
  induction width generalizing n with
  | zero => rfl
  | succ width ih => simp [be_bytes, ih]

theorem be_bytes_inj {width n m : ℕ} (hn : n < 256 ^ width) (hm : m < 256 ^ width)
    (h : be_bytes width n = be_bytes width m) : n = m := by
  induction width generalizing n m with
  | zero => omega
  | succ width ih =>
    obtain ⟨hhigh, hlow⟩ := append_inj h (by simp)
    have hbyte : n % 256 = m % 256 := by
      have hnat := congrArg UInt8.toNat (singleton_inj.1 hlow)
      simpa [UInt8.toNat_ofNat'] using hnat
    have hquotient : n / 256 = m / 256 := by
      refine ih ?_ ?_ hhigh <;> rw [Nat.div_lt_iff_lt_mul (by decide)] <;>
        rwa [Nat.pow_succ] at hn hm
    omega

theorem delimited_be_bytes (width : ℕ) : Delimited (fun n => n < 256 ^ width) (be_bytes width) :=
  delimited_of_length (fun _ _ _ _ => by simp) fun _ _ hx hy => be_bytes_inj hx hy

/-! ## Strings

A string with its length before it is told apart from what follows. -/

/-- The bytes of a text, such as a domain's. -/
def byte_string (text : String) : List UInt8 := text.toUTF8.data.toList

/-- A string after its length, in that many bytes. -/
def length_prefixed (width : ℕ) (bytes : List UInt8) : List UInt8 :=
  be_bytes width bytes.length ++ bytes

theorem delimited_length_prefixed (width : ℕ) :
    Delimited (fun bytes => bytes.length < 256 ^ width) (length_prefixed width) := by
  intro x y rest rest' hx hy h
  rw [length_prefixed, length_prefixed, append_assoc, append_assoc] at h
  obtain ⟨hlen, hbytes⟩ := delimited_be_bytes width _ _ _ _ hx hy h
  exact append_inj hbytes hlen

end Konclave.Framing
