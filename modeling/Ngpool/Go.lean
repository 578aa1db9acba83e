import Mathlib.Data.List.Basic
import Mathlib.Tactic.Ring

/-!
# Go Runtime Values

The job builder and the service layer are Go code. This module fixes how their values are
read in Lean: a `[]byte` is a `List UInt8`, a Go integer conversion `uint32(x)` reduces its
argument modulo `2^32` (two's complement for negative `int`s), a `map[K]V` is a partial
function `K → Option V` updated with `Function.update`, and a call that does not return a
value ends in an `Exit`: a returned `error` (its message) or a runtime panic.

The byte encoders the source calls — `binary.LittleEndian.PutUint32` and btcd's
`wire.WriteVarInt` — are defined here with their lengths, which is all the later modules use
of them.
-/

namespace Ngpool

/-- Go's `[]byte`. -/
abbrev Bytes := List UInt8

/-- Go's conversion `uint32(x)` of a (possibly negative) integer: the residue modulo `2^32`. -/
def uint32 (x : Int) : Nat := (x % 2 ^ 32).toNat

/-- `uint32(x)` is a 32-bit word. -/
theorem uint32_lt (x : Int) : uint32 x < 2 ^ 32 := by
  unfold uint32
  omega

/-- How a Go call ends when it does not return normally: a returned `error`, by its
message, or a runtime panic, by the runtime's message. -/
inductive Exit
  | error (msg : String)
  | panic (msg : String)
  deriving DecidableEq, Repr

/-- The Go runtime's message for a field read or method call through a nil pointer. -/
def nilDereferencePanic : Exit :=
  .panic "runtime error: invalid memory address or nil pointer dereference"

/-- A `do` block that succeeds has run each of its steps successfully. -/
theorem bind_eq_ok {ε α β : Type} {x : Except ε α} {f : α → Except ε β} {b : β} :
    x >>= f = .ok b ↔ ∃ a, x = .ok a ∧ f a = .ok b := by
  cases x <;> simp [bind, Except.bind]

/-- A `do` block that fails has failed at one of its steps. -/
theorem bind_eq_error {ε α β : Type} {x : Except ε α} {f : α → Except ε β} {e : ε} :
    x >>= f = .error e ↔ x = .error e ∨ ∃ a, x = .ok a ∧ f a = .error e := by
  cases x <;> simp [bind, Except.bind]

/-- A result mapped into a value was computed successfully. -/
theorem map_eq_ok {ε α β : Type} {f : α → β} {x : Except ε α} {b : β} :
    f <$> x = .ok b ↔ ∃ a, x = .ok a ∧ f a = b := by
  cases x <;> simp [Functor.map, Except.map]

/-- A result mapped into a value fails as the computation did. -/
theorem map_eq_error {ε α β : Type} {f : α → β} {x : Except ε α} {e : ε} :
    f <$> x = .error e ↔ x = .error e := by
  cases x <;> simp [Functor.map, Except.map]

/-- A loop over a list that fails has failed at one of its elements. -/
theorem mapM_eq_error {ε α β : Type} {f : α → Except ε β} :
    ∀ {l : List α} {e : ε}, l.mapM f = .error e → ∃ a ∈ l, f a = .error e
  | [], _, h => by cases h
  | a :: l, e, h => by
    rw [List.mapM_cons] at h
    rcases bind_eq_error.mp h with h | ⟨_, -, h⟩
    · exact ⟨a, .head _, h⟩
    rcases bind_eq_error.mp h with h | ⟨_, -, h⟩
    · obtain ⟨a', ha', h'⟩ := mapM_eq_error h
      exact ⟨a', .tail _ ha', h'⟩
    · cases h

/-- Whether a Go call ended by returning an `error` rather than panicking. -/
def Exit.IsError : Exit → Prop
  | .error _ => True
  | .panic _ => False

@[simp] theorem mapError_eq_ok {ε ε' α : Type} {x : Except ε α} {g : ε → ε'} {a : α} :
    x.mapError g = .ok a ↔ x = .ok a := by
  cases x <;> simp [Except.mapError]

theorem mapError_eq_error {ε ε' α : Type} {x : Except ε α} {g : ε → ε'} {e : ε'} :
    x.mapError g = .error e ↔ ∃ s, x = .error s ∧ g s = e := by
  cases x <;> simp [Except.mapError]

/-- `errors.Wrap(err, msg)`: the wrapping message, a colon, then the wrapped one. -/
def wrap {α : Type} (msg : String) : Except String α → Except Exit α
  | .ok a => .ok a
  | .error e => .error (.error (msg ++ ": " ++ e))

@[simp] theorem wrap_ok {α : Type} (msg : String) (a : α) : wrap msg (.ok a) = .ok a := rfl

@[simp] theorem wrap_eq_ok {α : Type} {msg : String} {x : Except String α} {a : α} :
    wrap msg x = .ok a ↔ x = .ok a := by
  cases x <;> simp [wrap]

/-- A wrapped error is an `error`, never a panic. -/
theorem wrap_eq_error {α : Type} {msg : String} {x : Except String α} {e : Exit}
    (h : wrap msg x = .error e) : e.IsError := by
  cases x <;> cases h
  trivial

/-- `binary.LittleEndian.PutUint32`: the four bytes of a 32-bit word, least significant
first. -/
def putUint32 (v : Nat) : Bytes :=
  [UInt8.ofNat v, UInt8.ofNat (v >>> 8), UInt8.ofNat (v >>> 16), UInt8.ofNat (v >>> 24)]

@[simp] theorem length_putUint32 (v : Nat) : (putUint32 v).length = 4 := rfl

/-- The `n` little-endian bytes of `v`, the layout of `PutUint16` and `PutUint64`. -/
def putUintLE : Nat → Nat → Bytes
  | 0, _ => []
  | n + 1, v => UInt8.ofNat v :: putUintLE n (v / 256)

/-- btcd's `wire.WriteVarInt`: the Bitcoin compact-size encoding of a count — one byte below
`0xfd`, else a marker byte and a 2-, 4- or 8-byte little-endian value. -/
def writeVarInt (val : Nat) : Bytes :=
  if val < 0xfd then [UInt8.ofNat val]
  else if val ≤ 0xffff then 0xfd :: putUintLE 2 val
  else if val ≤ 0xffffffff then 0xfe :: putUintLE 4 val
  else 0xff :: putUintLE 8 val

/-! ### Byte buffers -/

/-- A `bytes.Buffer` that is only written to: the bytes written, and the capacity of the slice
holding them, which `Bytes()` returns. -/
structure GoBuffer where
  bytes : Bytes
  cap : Nat

/-- `bytes.Buffer{}`: no bytes, on a nil slice. -/
def GoBuffer.empty : GoBuffer := ⟨[], 0⟩

/-- `smallBufferSize`: the capacity of a buffer's first allocation. -/
def smallBufferSize : Nat := 64

/-- `(*bytes.Buffer).Write`, with the growth rule of `grow` in Go 1.11 to 1.20: the slice is
resliced when its capacity suffices; a first write of at most `smallBufferSize` bytes allocates
that capacity; otherwise a slice of capacity `2 * cap + n` is allocated. (`grow`'s remaining
case slides unread bytes down after a read, and these buffers are never read.) -/
def GoBuffer.write (b : GoBuffer) (p : Bytes) : GoBuffer where
  bytes := b.bytes ++ p
  cap :=
    if p.length ≤ b.cap - b.bytes.length then b.cap
    else if b.cap = 0 ∧ p.length ≤ smallBufferSize then smallBufferSize
    else 2 * b.cap + p.length

/-- The bytes of a sequence of writes are their concatenation. -/
@[simp] theorem GoBuffer.foldl_write_bytes (ps : List Bytes) (b : GoBuffer) :
    (ps.foldl GoBuffer.write b).bytes = b.bytes ++ ps.flatten := by
  induction ps generalizing b with
  | nil => simp
  | cons p ps ih => simp [ih, GoBuffer.write]

/-- A buffer whose first write was small: still in its first allocation of `smallBufferSize`
bytes, or grown to at least twice that while holding more than `smallBufferSize` bytes. -/
def GoBuffer.Sized (b : GoBuffer) : Prop :=
  b.bytes.length ≤ b.cap ∧
    (b.cap = smallBufferSize ∨ 2 * smallBufferSize ≤ b.cap ∧ smallBufferSize < b.bytes.length)

/-- A first write of `1` to `smallBufferSize` bytes leaves the buffer in its first allocation. -/
theorem GoBuffer.sized_empty_write {p : Bytes} (h0 : 0 < p.length)
    (h : p.length ≤ smallBufferSize) : (GoBuffer.empty.write p).Sized := by
  have hcap : (GoBuffer.empty.write p).cap = smallBufferSize := by
    simp only [write, empty, List.length_nil, Nat.sub_zero, true_and, if_pos h,
      if_neg (show ¬ p.length ≤ 0 by omega)]
  refine ⟨?_, .inl hcap⟩
  rw [hcap]
  simpa [write, empty] using h

theorem GoBuffer.Sized.write {b : GoBuffer} (h : b.Sized) (p : Bytes) : (b.write p).Sized := by
  simp only [Sized, GoBuffer.write, List.length_append, smallBufferSize] at h ⊢
  split_ifs <;> omega

theorem GoBuffer.Sized.foldl {b : GoBuffer} (h : b.Sized) (ps : List Bytes) :
    (ps.foldl GoBuffer.write b).Sized := by
  induction ps generalizing b with
  | nil => exact h
  | cons p ps ih => exact ih (h.write p)

/-- The runtime's panic for `s[:high]` past the capacity of `s`. -/
def sliceBoundsPanic (high cap : Nat) : Exit :=
  .panic ("runtime error: slice bounds out of range [:" ++ toString high ++ "] with capacity " ++
    toString cap)

/-- `b.Bytes()[:high]`: the first `high` bytes of the slice's backing array, which holds zeros
past the bytes written, or a panic past its capacity. -/
def GoBuffer.sliceTo (b : GoBuffer) (high : Nat) : Except Exit Bytes :=
  if high ≤ b.cap then .ok ((b.bytes ++ List.replicate (b.cap - b.bytes.length) 0).take high)
  else .error (sliceBoundsPanic high b.cap)

/-- **Slicing a small-start buffer between its first allocation and twice that**: it panics
exactly when at most `smallBufferSize` bytes were written, and otherwise reads the bytes written
padded with zeros. -/
theorem GoBuffer.Sized.sliceTo {b : GoBuffer} (h : b.Sized) {high : Nat}
    (hlo : smallBufferSize < high) (hhi : high ≤ 2 * smallBufferSize) :
    b.sliceTo high =
      if b.bytes.length ≤ smallBufferSize then .error (sliceBoundsPanic high smallBufferSize)
      else .ok ((b.bytes ++ List.replicate high 0).take high) := by
  obtain ⟨hlen, hcap | ⟨hcap, hmore⟩⟩ := h
  · have : ¬ high ≤ b.cap := by omega
    simp only [GoBuffer.sliceTo, this, if_false, ← hcap]
    rw [if_pos (by omega)]
  · have hnot : ¬ b.bytes.length ≤ smallBufferSize := by omega
    simp only [GoBuffer.sliceTo, if_pos (show high ≤ b.cap by omega), hnot, if_false,
      List.take_append_eq_append_take, List.take_replicate]
    congr 3
    omega

end Ngpool
