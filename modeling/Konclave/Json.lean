/-
JSON documents, and the bytes their compact text takes.

A document is what a serializer writes and a parser reads back. Only its length matters
beside its value: a transport or a reader bounds the text it takes. Object keys are written
in the order they are listed, and a key stands once in an object.
-/
import Mathlib.Algebra.Order.Ring.Int
import Mathlib.Data.List.Basic

set_option autoImplicit false

namespace Konclave

inductive Json
  | null
  | bool (value : Bool)
  | number (value : ℕ)
  | string (value : String)
  | array (items : List Json)
  | object (fields : List (String × Json))

namespace Json

/-- The bytes of a character in a string. A quote, a backslash and the control characters
with a short escape take two bytes, the other control characters six (`\u0000`). -/
def escaped_size (c : Char) : ℕ :=
  if c = '"' ∨ c = '\\' ∨ c.toNat = 8 ∨ c.toNat = 9 ∨ c.toNat = 10 ∨ c.toNat = 12
    ∨ c.toNat = 13 then 2
  else if c.toNat < 32 then 6
  else c.utf8Size

def string_size (text : String) : ℕ := 2 + (text.toList.map escaped_size).sum

mutual

/-- The bytes of the compact text. -/
def size : Json → ℕ
  | null => 4
  | bool value => if value then 4 else 5
  | number value => (Nat.toDigits 10 value).length
  | string value => string_size value
  | array items => if items.isEmpty then 2 else 1 + items_size items
  | object fields => if fields.isEmpty then 2 else 1 + fields_size fields

/-- Each item is followed by a comma or by the closing bracket. -/
def items_size : List Json → ℕ
  | [] => 0
  | item :: items => item.size + 1 + items_size items

def fields_size : List (String × Json) → ℕ
  | [] => 0
  | (key, value) :: fields => string_size key + 1 + value.size + 1 + fields_size fields

end

open List in
theorem items_size_eq (items : List Json) : items_size items = (items.map (·.size + 1)).sum := by
  induction items with
  | nil => rfl
  | cons item items ih => rw [items_size, ih, map_cons, sum_cons]

open List in
theorem fields_size_append (fields fields' : List (String × Json)) :
    fields_size (fields ++ fields') = fields_size fields + fields_size fields' := by
  induction fields with
  | nil => rw [nil_append, fields_size, Nat.zero_add]
  | cons field fields ih =>
    rw [cons_append, fields_size, fields_size, ih]
    omega

/-- The value of a key. -/
def field? (key : String) : Json → Option Json
  | object fields => fields.lookup key
  | _ => none

def string? : Json → Option String
  | string value => some value
  | _ => none

def number? : Json → Option ℕ
  | number value => some value
  | _ => none

def bool? : Json → Option Bool
  | bool value => some value
  | _ => none

def array? : Json → Option (List Json)
  | array items => some items
  | _ => none

/-- The keys of an object. -/
def keys? : Json → Option (List String)
  | object fields => some (fields.map Prod.fst)
  | _ => none

end Json

end Konclave
