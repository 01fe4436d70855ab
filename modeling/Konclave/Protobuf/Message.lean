/-
Merging a message field by field under a recursion budget.

A generated decoder is a table from tags to field readers: known tags merge into
the message, every other tag is skipped. `FieldMerge` is one row of that table. It
carries the reader as it runs (`run`, spending the budget), the same reader without
a budget (`depth`, reporting the budget it would have needed), and the law that
ties them: a field is accepted exactly when it is well formed and its depth is
within the budget. The three combinators below (a scalar, a nested message, an
unknown field) prove the law once, so a message table has it by construction and
so does the merge loop over it (`merge_ok_iff`).

That law is what a caller needs who reads one message at two places: the same bytes
at two budgets give the same value or nothing, and which of the two is a comparison
of numbers (`merge_ok_iff`).
-/
import Konclave.Protobuf.Wire

set_option autoImplicit false

namespace Konclave.Protobuf

/-- The reader of one field of a message of type `M`, after its key. -/
structure FieldMerge (M : Type) where
  /-- Merges the field at a budget, and returns the bytes after it. -/
  run : ℕ → WireType → M → Bytes → Except DecodeError (M × Bytes)
  /-- The same without a budget, with the budget it takes. -/
  depth : WireType → M → Bytes → Except DecodeError ((M × Bytes) × ℕ)
  run_ok_iff : ∀ ctx wire_type msg buf out, run ctx wire_type msg buf = .ok out
    ↔ ∃ d, depth wire_type msg buf = .ok (out, d) ∧ d ≤ ctx
  rest_le : ∀ {ctx wire_type msg buf msg' rest},
    run ctx wire_type msg buf = .ok (msg', rest) → rest.length ≤ buf.length
  fuel : ∀ ctx wire_type msg buf, run ctx wire_type msg buf ≠ .error .out_of_fuel

/-- A generated `merge_field`: one reader a tag. -/
abbrev MergeField (M : Type) := ℕ → FieldMerge M

variable {M N : Type} {rest : Bytes} {tag : ℕ} {body : Bytes}

/-! ## The merge loop

A message is read key by key until its bytes end; each field is merged into what was read. -/

/-- Merges fields until the buffer is empty. -/
def merge_loop (merge_field : MergeField M) : ℕ → ℕ → M → Bytes → Except DecodeError M
  | _, _, msg, [] => .ok msg
  | 0, _, _, _ :: _ => .error .out_of_fuel
  | fuel + 1, ctx, msg, byte :: tail =>
    match decode_key (byte :: tail) with
    | .error e => .error e
    | .ok ((tag, wire_type), rest) =>
      match (merge_field tag).run ctx wire_type msg rest with
      | .error e => .error e
      | .ok (msg, rest) => merge_loop merge_field fuel ctx msg rest

variable (merge_field : MergeField M) (ctx fuel : ℕ) (msg : M) (buf : Bytes)

/-- Merges a whole buffer at budget `ctx`. -/
def merge : Except DecodeError M :=
  merge_loop merge_field buf.length ctx msg buf

/-- `merge_loop` without a budget, with the budget it takes. -/
def merge_loop_depth (merge_field : MergeField M) : ℕ → M → Bytes → Except DecodeError (M × ℕ)
  | _, msg, [] => .ok (msg, 0)
  | 0, _, _ :: _ => .error .out_of_fuel
  | fuel + 1, msg, byte :: tail =>
    match decode_key (byte :: tail) with
    | .error e => .error e
    | .ok ((tag, wire_type), rest) =>
      match (merge_field tag).depth wire_type msg rest with
      | .error e => .error e
      | .ok ((msg, rest), first) => match merge_loop_depth merge_field fuel msg rest with
        | .error e => .error e
        | .ok (msg, depth) => .ok (msg, max first depth)

def merge_depth : Except DecodeError (M × ℕ) :=
  merge_loop_depth merge_field buf.length msg buf

theorem merge_loop_ok_iff : ∀ (msg : M) (buf : Bytes) (out : M),
    merge_loop merge_field fuel ctx msg buf = .ok out
    ↔ ∃ d, merge_loop_depth merge_field fuel msg buf = .ok (out, d) ∧ d ≤ ctx := by
  induction fuel with
  | zero =>
    intro msg buf out
    cases buf <;> simp [merge_loop, merge_loop_depth]
  | succ fuel ih =>
    intro msg buf out
    cases buf with
    | nil => simp [merge_loop, merge_loop_depth]
    | cons byte tail =>
      rw [merge_loop, merge_loop_depth]
      split
      · simp
      · rename_i tag wire_type rest _
        constructor
        · intro h
          split at h
          · simp at h
          · rename_i mid rest' hfield
            obtain ⟨first, hfirst, hle⟩ := ((merge_field tag).run_ok_iff ..).1 hfield
            obtain ⟨d, hd, hle'⟩ := (ih mid rest' out).1 h
            refine ⟨max first d, ?_, by omega⟩
            simp only [hfirst, hd]
        · rintro ⟨d, hd, hle⟩
          split at hd
          · simp at hd
          · rename_i mid rest' first hfirst
            split at hd
            · simp at hd
            · rename_i out' d' hrest
              simp only [Except.ok.injEq, Prod.mk.injEq] at hd
              obtain ⟨rfl, rfl⟩ := hd
              have h := ((merge_field tag).run_ok_iff ctx wire_type msg rest (mid, rest')).2
                ⟨first, hfirst, by omega⟩
              simp only [h]
              exact (ih mid rest' out').2 ⟨d', hrest, by omega⟩

/-- A buffer is merged exactly when it is well formed and its depth is within the
budget. -/
theorem merge_ok_iff (out : M) : merge merge_field ctx msg buf = .ok out
    ↔ ∃ d, merge_depth merge_field msg buf = .ok (out, d) ∧ d ≤ ctx :=
  merge_loop_ok_iff merge_field ctx buf.length msg buf out

/-! ## The loop never runs out of fuel

Every key takes a byte, so the length of the buffer is fuel enough. -/

theorem merge_loop_fuel : ∀ (msg : M) (buf : Bytes), buf.length ≤ fuel →
    merge_loop merge_field fuel ctx msg buf ≠ .error .out_of_fuel := by
  induction fuel with
  | zero =>
    intro msg buf hlen
    have : buf = [] := List.length_eq_zero_iff.1 (by omega)
    subst this
    simp [merge_loop]
  | succ fuel ih =>
    intro msg buf hlen
    cases buf with
    | nil => simp [merge_loop]
    | cons byte tail =>
      rw [merge_loop]
      split
      · rename_i e he
        exact error_fuel decode_key_fuel he
      · rename_i tag wire_type rest hkey
        have hrest := decode_key_rest_length hkey
        split
        · rename_i e he
          exact error_fuel ((merge_field tag).fuel _ _ _ _) he
        · rename_i mid rest' hfield
          have := (merge_field tag).rest_le hfield
          exact ih mid rest' (by omega)

theorem merge_fuel : merge merge_field ctx msg buf ≠ .error .out_of_fuel :=
  merge_loop_fuel merge_field ctx buf.length msg buf (Nat.le_refl _)

/-- Fuel beyond the length of the buffer changes nothing. -/
theorem merge_loop_fuel_irrelevant :
    ∀ (fuel' : ℕ) (msg : M) (buf : Bytes), buf.length ≤ fuel → buf.length ≤ fuel' →
    merge_loop merge_field fuel ctx msg buf = merge_loop merge_field fuel' ctx msg buf := by
  induction fuel with
  | zero =>
    intro fuel' msg buf hlen _
    have : buf = [] := List.length_eq_zero_iff.1 (by omega)
    subst this
    cases fuel' <;> simp [merge_loop]
  | succ fuel ih =>
    intro fuel' msg buf hlen hlen'
    cases buf with
    | nil => cases fuel' <;> simp [merge_loop]
    | cons byte tail =>
      obtain ⟨k, rfl⟩ : ∃ k, fuel' = k + 1 := ⟨fuel' - 1, by rw [List.length_cons] at hlen'; omega⟩
      rw [merge_loop, merge_loop]
      split
      · rfl
      · rename_i tag wire_type rest hkey
        have hrest := decode_key_rest_length hkey
        split
        · rfl
        · rename_i mid rest' hfield
          have := (merge_field tag).rest_le hfield
          exact ih k mid rest' (by omega) (by omega)

variable {wire_type : WireType} {field_number value : ℕ}

/-- One turn of the loop: after a key and its field, the rest is merged into the
message as it then stands. -/
theorem merge_step {merge_field : MergeField M} {ctx tag : ℕ} {msg msg' : M}
    {buf rest rest' : Bytes} (hkey : decode_key buf = .ok ((tag, wire_type), rest))
    (hfield : (merge_field tag).run ctx wire_type msg rest = .ok (msg', rest')) :
    merge merge_field ctx msg buf = merge merge_field ctx msg' rest' := by
  have hrest := decode_key_rest_length hkey
  have hrest' := (merge_field tag).rest_le hfield
  cases buf with
  | nil => simp at hrest
  | cons byte tail =>
    rw [merge, List.length_cons, merge_loop, hkey]
    simp only [hfield]
    rw [List.length_cons] at hrest
    exact merge_loop_fuel_irrelevant merge_field ctx _ _ msg' rest' (by omega) (Nat.le_refl _)

/-- A field refused is a buffer refused. -/
theorem merge_step_error {merge_field : MergeField M} {ctx tag : ℕ} {msg : M} {buf rest : Bytes}
    {e : DecodeError} (hkey : decode_key buf = .ok ((tag, wire_type), rest))
    (hfield : (merge_field tag).run ctx wire_type msg rest = .error e) :
    merge merge_field ctx msg buf = .error e := by
  have hrest := decode_key_rest_length hkey
  cases buf with
  | nil => simp at hrest
  | cons byte tail =>
    rw [merge, List.length_cons, merge_loop, hkey]
    simp only [hfield]

/-! ## Field readers -/

namespace FieldMerge

/-- A reader that spends no budget: the scalar and byte-string fields. -/
def of_read (read : WireType → M → Bytes → Except DecodeError (M × Bytes))
    (rest_le : ∀ {wire_type msg buf msg' rest},
      read wire_type msg buf = .ok (msg', rest) → rest.length ≤ buf.length)
    (fuel : ∀ wire_type msg buf, read wire_type msg buf ≠ .error .out_of_fuel) : FieldMerge M where
  run _ := read
  depth wire_type msg buf := (read wire_type msg buf).map (·, 0)
  run_ok_iff ctx wire_type msg buf out := by
    cases read wire_type msg buf <;> simp [Except.map]
  rest_le := rest_le
  fuel _ := fuel

/-- A varint field, stored by `set`. -/
def varint (set : M → ℕ → M) : FieldMerge M :=
  .of_read
    (fun wire_type msg buf =>
      if wire_type = .Varint then (decode_varint buf).map (fun p => (set msg p.1, p.2))
      else .error .unexpected_wire_type)
    (by
      intro wire_type msg buf msg' rest h
      split at h
      · cases hv : decode_varint buf with
        | error e => simp [hv, Except.map] at h
        | ok p =>
          obtain ⟨value, tail⟩ := p
          simp only [hv, Except.map, Except.ok.injEq, Prod.mk.injEq] at h
          rw [← h.2]
          exact Nat.le_of_lt (decode_varint_rest_length hv)
      · simp at h)
    (by
      intro wire_type msg buf
      split
      · exact map_fuel decode_varint_fuel
      · simp)

/-- A byte-string field, stored by `set`. -/
def bytes (set : M → Bytes → M) : FieldMerge M :=
  .of_read
    (fun wire_type msg buf =>
      if wire_type = .LengthDelimited then
        (take_length_delimited buf).map (fun p => (set msg p.1, p.2))
      else .error .unexpected_wire_type)
    (by
      intro wire_type msg buf msg' rest h
      split at h
      · cases hv : take_length_delimited buf with
        | error e => simp [hv, Except.map] at h
        | ok p =>
          obtain ⟨body, tail⟩ := p
          simp only [hv, Except.map, Except.ok.injEq, Prod.mk.injEq] at h
          rw [← h.2]
          exact take_length_delimited_rest_length hv
      · simp at h)
    (by
      intro wire_type msg buf
      split
      · exact map_fuel take_length_delimited_fuel
      · simp)

/-- An unknown field: skipped, and the message kept. -/
def skip (tag : ℕ) : FieldMerge M where
  run ctx wire_type msg buf := (skip_field ctx wire_type tag buf).map (msg, ·)
  depth wire_type msg buf := (skip_field_depth wire_type tag buf).map (fun p => ((msg, p.1), p.2))
  run_ok_iff ctx wire_type msg buf out := by
    have hiff := skip_field_ok_iff ctx wire_type tag buf out.2
    cases hrun : skip_field ctx wire_type tag buf with
    | error e =>
      rw [hrun] at hiff
      simp only [reduceCtorEq, false_iff, not_exists, not_and] at hiff
      simp only [Except.map, reduceCtorEq, false_iff, not_exists, not_and]
      intro d hd hle
      cases hdep : skip_field_depth wire_type tag buf with
      | error e' => simp [hdep] at hd
      | ok p =>
        simp only [hdep, Except.ok.injEq, Prod.mk.injEq] at hd
        exact hiff p.2 (by rw [hdep, ← hd.1]) (by omega)
    | ok rest =>
      obtain ⟨d, hd, hle⟩ := (skip_field_ok_iff ctx wire_type tag buf rest).1 hrun
      simp only [Except.map, hd, Except.ok.injEq, Prod.mk.injEq]
      constructor
      · intro h; exact ⟨d, ⟨h, rfl⟩, hle⟩
      · rintro ⟨_, ⟨h, _⟩, _⟩; exact h
  rest_le {ctx wire_type msg buf msg' rest} h := by
    cases hrun : skip_field ctx wire_type tag buf with
    | error e => simp [hrun, Except.map] at h
    | ok tail =>
      simp only [hrun, Except.map, Except.ok.injEq, Prod.mk.injEq] at h
      rw [← h.2]
      exact skip_field_rest_length hrun
  fuel ctx wire_type msg buf := map_fuel skip_field_fuel

/-- A nested message: one level of the budget is spent on entering it. `get` is the
message merged into (the one already there, or a fresh one). -/
def message (merge_field : MergeField N) (get : M → N) (set : M → N → M) : FieldMerge M where
  run ctx wire_type msg buf :=
    if wire_type = .LengthDelimited then
      if ctx = 0 then .error .recursion_limit_reached
      else match take_length_delimited buf with
        | .error e => .error e
        | .ok (body, rest) => (merge merge_field (ctx - 1) (get msg) body).map (set msg ·, rest)
    else .error .unexpected_wire_type
  depth wire_type msg buf :=
    if wire_type = .LengthDelimited then
      match take_length_delimited buf with
      | .error e => .error e
      | .ok (body, rest) =>
        (merge_depth merge_field (get msg) body).map (fun p => ((set msg p.1, rest), p.2 + 1))
    else .error .unexpected_wire_type
  run_ok_iff ctx wire_type msg buf out := by
    split
    · split
      · rename_i hctx
        simp only [reduceCtorEq, false_iff, not_exists, not_and]
        intro d hd hle
        split at hd
        · simp at hd
        · rename_i body rest _
          cases hm : merge_depth merge_field (get msg) body with
          | error e => simp [hm, Except.map] at hd
          | ok p =>
            simp only [hm, Except.map, Except.ok.injEq, Prod.mk.injEq] at hd
            omega
      · rename_i hctx
        split
        · simp
        · rename_i body rest _
          constructor
          · intro h
            cases hm : merge merge_field (ctx - 1) (get msg) body with
            | error e => simp [hm, Except.map] at h
            | ok inner =>
              obtain ⟨d, hd, hle⟩ := (merge_ok_iff ..).1 hm
              simp only [hm, Except.map, Except.ok.injEq] at h
              refine ⟨d + 1, ?_, by omega⟩
              simp only [hd, Except.map, ← h]
          · rintro ⟨d, hd, hle⟩
            cases hm : merge_depth merge_field (get msg) body with
            | error e => simp [hm, Except.map] at hd
            | ok p =>
              simp only [hm, Except.map, Except.ok.injEq, Prod.mk.injEq] at hd
              have hrun := (merge_ok_iff merge_field (ctx - 1) (get msg) body p.1).2
                ⟨p.2, hm, by omega⟩
              simp only [hrun, Except.map, hd.1]
    · simp
  rest_le {ctx wire_type msg buf msg' rest} h := by
    split at h
    · split at h
      · simp at h
      · split at h
        · simp at h
        · rename_i body tail htake
          cases hm : merge merge_field (ctx - 1) (get msg) body with
          | error e => simp [hm, Except.map] at h
          | ok inner =>
            simp only [hm, Except.map, Except.ok.injEq, Prod.mk.injEq] at h
            rw [← h.2]
            exact take_length_delimited_rest_length htake
    · simp at h
  fuel ctx wire_type msg buf := by
    split
    · split
      · simp
      · split
        · rename_i e he
          exact error_fuel take_length_delimited_fuel he
        · exact map_fuel (merge_fuel _ _ _ _)
    · simp

/-! ## Reading back one written field

One lemma for each kind of field, with the rest of the buffer as a variable. -/

end FieldMerge

/-- A written varint field is merged, then the rest. -/
theorem merge_varint {merge_field : MergeField M} {set : M → ℕ → M}
    (hfield : merge_field field_number = .varint set)
    (hnumber : 0 < field_number ∧ field_number < 2 ^ 29) (ctx : ℕ) (msg : M)
    (hvalue : value < 2 ^ 64) :
    merge merge_field ctx msg (append_key field_number .Varint ++ (append_varint value ++ rest))
    = merge merge_field ctx (set msg value) rest := by
  refine merge_step (decode_append_key hnumber.1 hnumber.2 .Varint _) ?_
  rw [hfield]
  simp [FieldMerge.varint, FieldMerge.of_read, decode_append_varint hvalue, Except.map]

/-- A written message field is merged one level down, then the rest. -/
theorem merge_message {merge_field : MergeField M} {inner : MergeField N} {get : M → N}
    {set : M → N → M} (hfield : merge_field field_number = .message inner get set)
    (hnumber : 0 < field_number ∧ field_number < 2 ^ 29) (ctx : ℕ) (msg : M)
    (hbody : body.length < 2 ^ 64) : merge merge_field (ctx + 1) msg
      (append_key field_number .LengthDelimited ++ (append_varint body.length ++ (body ++ rest)))
    = match merge inner ctx (get msg) body with
      | .error e => .error e
      | .ok value => merge merge_field (ctx + 1) (set msg value) rest := by
  have hkey := decode_append_key hnumber.1 hnumber.2 .LengthDelimited
    (append_varint body.length ++ (body ++ rest))
  -- a nested message is read at one level less, from exactly its own bytes
  have h : (FieldMerge.message inner get set).run (ctx + 1) .LengthDelimited msg
      (append_varint body.length ++ (body ++ rest))
      = (merge inner ctx (get msg) body).map (set msg ·, rest) := by
    simp [FieldMerge.message, take_length_delimited_append hbody]
  rw [← hfield] at h
  cases hmerge : merge inner ctx (get msg) body with
  | error e =>
    rw [hmerge] at h
    exact merge_step_error hkey h
  | ok value =>
    rw [hmerge] at h
    exact merge_step hkey h

end Konclave.Protobuf
