import Kmip.Core.Basics
import Kmip.Lib.Hoare

/-!
# The serialization buffer

`SerializationBuffer` is a byte vector with a separate write position. `buffer_` is modelled by its elements and its
capacity: `reserve` raises the capacity, `resize` pads with zero bytes. Writes go through `ensureSpace`, which doubles
the capacity until the write fits and throws above 100 MiB.

A write that returns appends its bytes to `span` (`Appends`); the relation composes (`Appends.trans`), so that a
function built from writes is described by the list of bytes it appends.
-/

namespace Kmip

structure SerializationBuffer where
  buffer : List UInt8
  capacity : Nat
  currentOffset : Nat

namespace SerializationBuffer

/-- `TTLV_ALIGNMENT`. -/
def ttlvAlignment : Nat := 8

/-- `DEFAULT_CAPACITY`. -/
def defaultCapacity : Nat := 8192

/-- `MIN_CAPACITY`. -/
def minCapacity : Nat := 1024

/-- `MAX_CAPACITY`: 100 MiB. -/
def maxCapacity : Nat := 100 * 1024 * 1024

/-- `SerializationBuffer(initial_capacity)`. -/
def new (initialCapacity : Nat) : SerializationBuffer := ⟨[], initialCapacity, 0⟩

/-- `size()`. -/
def size (b : SerializationBuffer) : Nat := b.currentOffset

/-- `span()`: the bytes below the write position. -/
def span (b : SerializationBuffer) : List UInt8 := b.buffer.take b.currentOffset

/-- `buffer_.resize(n)`. -/
def resize (b : SerializationBuffer) (n : Nat) : SerializationBuffer :=
  { b with buffer := b.buffer.take n ++ List.replicate (n - b.buffer.length) 0, capacity := max b.capacity n }

/-- Copy `data` to the write position and move past it (`memcpy`, `memset` and the assignment of one element). -/
def store (b : SerializationBuffer) (data : List UInt8) : SerializationBuffer :=
  { b with
    buffer := b.buffer.take b.currentOffset ++ data ++ b.buffer.drop (b.currentOffset + data.length)
    currentOffset := b.currentOffset + data.length }

/-- The loop `while (new_capacity < required) new_capacity *= 2` on wrapping `size_t` values. From a value below
`2 ^ 64`, 64 doublings end in zero, where the loop stays; so 65 tests decide whether it ends. -/
def doubleCapacity : Nat → Nat → Nat → Option Nat
  | 0, _, _ => none
  | fuel + 1, newCapacity, required =>
    if newCapacity < required then doubleCapacity fuel (newCapacity * 2 % sizeMod) required else some newCapacity

def expandCapacity (b : SerializationBuffer) (required : Nat) : Except Abort SerializationBuffer :=
  let start := if b.capacity = 0 then minCapacity else b.capacity
  match doubleCapacity 65 start required with
  | none => .error .diverged
  | some newCapacity =>
    if newCapacity > maxCapacity then
      .error (.message "SerializationBuffer exceeded maximum size of 100 MB")
    else
      -- `reserve` never shrinks
      .ok { b with capacity := max b.capacity newCapacity }

def ensureSpace (b : SerializationBuffer) (requiredBytes : Nat) : Except Abort SerializationBuffer :=
  if sizeAdd b.currentOffset requiredBytes ≤ b.capacity then .ok b
  else b.expandCapacity (sizeAdd b.currentOffset requiredBytes)

/-- The shared end of the writes: make the vector long enough, then store. -/
def growAndStore (b : SerializationBuffer) (data : List UInt8) : SerializationBuffer :=
  if sizeAdd b.currentOffset data.length > b.buffer.length then
    (b.resize (sizeAdd b.currentOffset data.length)).store data
  else b.store data

/-- A method, on the object it is called on. What was written before an exception stays. -/
abbrev Method (α : Type) := EStateM Abort SerializationBuffer α

namespace Method

/-- The exceptions are thrown before `reserve`. -/
def ensureSpace (requiredBytes : Nat) : Method Unit := fun b =>
  match b.ensureSpace requiredBytes with
  | .ok b' => .ok () b'
  | .error e => .error e b

def writeByte (value : UInt8) : Method Unit := do
  ensureSpace 1
  modify (·.growAndStore [value])

def writeBytes (data : List UInt8) : Method Unit :=
  if data.isEmpty then pure ()
  else do
    ensureSpace data.length
    modify (·.growAndStore data)

def writePadded (data : List UInt8) : Method Unit := do
  writeBytes data
  let padding := (ttlvAlignment - data.length % ttlvAlignment) % ttlvAlignment
  if padding > 0 then do
    ensureSpace padding
    modify (·.growAndStore (List.replicate padding 0))
  else pure ()

end Method

/-- The buffer of a call that returned. -/
def returned {α : Type} : EStateM.Result Abort SerializationBuffer α → Except Abort SerializationBuffer
  | .ok _ b => .ok b
  | .error e _ => .error e

/-! The writes of a caller that does not use the buffer after an exception. -/

def writeByte (b : SerializationBuffer) (value : UInt8) : Except Abort SerializationBuffer :=
  returned (Method.writeByte value b)

def writeBytes (b : SerializationBuffer) (data : List UInt8) : Except Abort SerializationBuffer :=
  returned (Method.writeBytes data b)

def writePadded (b : SerializationBuffer) (data : List UInt8) : Except Abort SerializationBuffer :=
  returned (Method.writePadded data b)

/-- `release()`: the serialized bytes, and the buffer with its capacity kept. -/
def release (b : SerializationBuffer) : List UInt8 × SerializationBuffer :=
  (b.span, { b with buffer := [], currentOffset := 0 })

/-! ## What a write is made of -/

section Writes

variable (b : SerializationBuffer)

theorem ensureSpace_bind (n : Nat) (next : Method Unit) : (Method.ensureSpace n >>= fun _ => next) b =
    match b.ensureSpace n with
    | .ok b' => next b'
    | .error e => .error e b := by
  rw [Hoare.bind_apply]
  unfold Method.ensureSpace
  cases b.ensureSpace n <;> rfl

/-- The common part of the three writes. -/
theorem returned_write (n : Nat) (data : List UInt8) :
    returned ((Method.ensureSpace n >>= fun _ => modify (·.growAndStore data)) b) =
      b.ensureSpace n >>= fun b' => .ok (b'.growAndStore data) := by
  rw [ensureSpace_bind]
  cases b.ensureSpace n <;> rfl

theorem writeByte_eq (value : UInt8) :
    b.writeByte value = b.ensureSpace 1 >>= fun b' => .ok (b'.growAndStore [value]) := returned_write b 1 [value]

theorem writeBytes_eq (data : List UInt8) : b.writeBytes data =
    if data.isEmpty then .ok b else b.ensureSpace data.length >>= fun b' => .ok (b'.growAndStore data) := by
  unfold writeBytes Method.writeBytes
  split
  · rfl
  · exact returned_write b data.length data

theorem writePadded_eq (data : List UInt8) : b.writePadded data =
    b.writeBytes data >>= fun b' =>
      if (ttlvAlignment - data.length % ttlvAlignment) % ttlvAlignment > 0 then
        b'.ensureSpace ((ttlvAlignment - data.length % ttlvAlignment) % ttlvAlignment) >>= fun b'' =>
          .ok (b''.growAndStore (List.replicate ((ttlvAlignment - data.length % ttlvAlignment) % ttlvAlignment) 0))
      else .ok b' := by
  unfold writePadded writeBytes Method.writePadded
  rw [Hoare.bind_apply]
  cases Method.writeBytes data b with
  | error e b' => rfl
  | ok a b' =>
    dsimp only
    rw [returned, Except.ok_bind]
    split
    · exact returned_write b' _ _
    · rfl

end Writes

/-! ## What a write that returns does -/

/-- The write position lies in the vector and the vector in its capacity. -/
structure Valid (b : SerializationBuffer) : Prop where
  offset_le : b.currentOffset ≤ b.buffer.length
  size_le : b.buffer.length ≤ b.capacity

/-- From `b` to `b'`, `data` was appended; the capacity grew at most to the limit. -/
structure Appends (b b' : SerializationBuffer) (data : List UInt8) : Prop where
  valid : b'.Valid
  span_eq : b'.span = b.span ++ data
  offset_eq : b'.currentOffset = b.currentOffset + data.length
  capacity_le : b'.capacity ≤ max b.capacity maxCapacity

theorem Valid.new (n : Nat) : (SerializationBuffer.new n).Valid := ⟨Nat.le_refl _, Nat.zero_le _⟩

@[simp] theorem currentOffset_new (n : Nat) : (SerializationBuffer.new n).currentOffset = 0 := rfl

theorem Valid.length_span {b : SerializationBuffer} (hb : b.Valid) : b.span.length = b.currentOffset := by
  rw [span, List.length_take, Nat.min_eq_left hb.offset_le]

theorem Appends.refl {b : SerializationBuffer} (hb : b.Valid) : Appends b b [] :=
  ⟨hb, by simp, by simp, Nat.le_max_left _ _⟩

theorem Appends.trans {a b c : SerializationBuffer} {d₁ d₂ : List UInt8} (h₁ : Appends a b d₁) (h₂ : Appends b c d₂) :
    Appends a c (d₁ ++ d₂) := by
  refine ⟨h₂.valid, ?_, ?_, ?_⟩
  · rw [h₂.span_eq, h₁.span_eq, List.append_assoc]
  · rw [h₂.offset_eq, h₁.offset_eq, List.length_append, Nat.add_assoc]
  · have := h₁.capacity_le
    have := h₂.capacity_le
    omega

/-- The doubling loop only ends above what is required. -/
theorem le_doubleCapacity : ∀ {fuel cap required c : Nat}, doubleCapacity fuel cap required = some c → required ≤ c
  | 0, _, _, _, h => by cases h
  | fuel + 1, cap, required, c, h => by
    rw [doubleCapacity] at h
    split at h
    · exact le_doubleCapacity h
    · cases h
      omega

/-- `ensureSpace` that returns changes nothing but the capacity, which reaches the sum that was computed. -/
theorem ensureSpace_eq_ok {b b' : SerializationBuffer} {n : Nat} (h : b.ensureSpace n = .ok b') :
    ∃ c, b' = { b with capacity := c } ∧ b.capacity ≤ c ∧ sizeAdd b.currentOffset n ≤ c ∧
      c ≤ max b.capacity maxCapacity := by
  rw [ensureSpace] at h
  split at h
  · cases h
    exact ⟨b.capacity, rfl, Nat.le_refl _, by assumption, Nat.le_max_left _ _⟩
  · simp only [expandCapacity] at h
    split at h
    · cases h
    · rename_i c hc
      split at h
      · cases h
      · cases h
        have := le_doubleCapacity hc
        exact ⟨max b.capacity c, rfl, Nat.le_max_left _ _, by omega, by omega⟩

/-- A sum that does not wrap around leaves room. -/
theorem ensureSpace_ok {b b' : SerializationBuffer} {n : Nat} (hn : b.currentOffset + n < 2 ^ 64)
    (h : b.ensureSpace n = .ok b') :
    ∃ c, b' = { b with capacity := c } ∧ b.capacity ≤ c ∧ b.currentOffset + n ≤ c ∧ c ≤ max b.capacity maxCapacity := by
  have h' := ensureSpace_eq_ok h
  rwa [sizeAdd_of_lt hn] at h'

/-- Where there is room, a store does not move the capacity. -/
theorem growAndStore_capacity {b : SerializationBuffer} {data : List UInt8}
    (hn : b.currentOffset + data.length < 2 ^ 64) (hroom : b.currentOffset + data.length ≤ b.capacity) :
    (b.growAndStore data).capacity = b.capacity := by
  rw [growAndStore, sizeAdd_of_lt hn]
  split
  · exact Nat.max_eq_left hroom
  · rfl

theorem growAndStore_offset (b : SerializationBuffer) (data : List UInt8) :
    (b.growAndStore data).currentOffset = b.currentOffset + data.length := by
  unfold growAndStore
  split
  · rfl
  · rfl

/-- What a store leaves is valid, wherever the write position was. -/
theorem growAndStore_valid {b : SerializationBuffer} {data : List UInt8} (hsize : b.buffer.length ≤ b.capacity)
    (hn : b.currentOffset + data.length < 2 ^ 64) : (b.growAndStore data).Valid := by
  rw [growAndStore, sizeAdd_of_lt hn]
  split
  · constructor
    · simp [store, resize]
      omega
    · simp [store, resize]
      omega
  · constructor
    · simp [store]
      omega
    · simp [store]
      omega

/-- Storing past the end of a vector that has the room. -/
theorem growAndStore_appends {b : SerializationBuffer} {data : List UInt8} (hb : b.Valid)
    (hn : b.currentOffset + data.length < 2 ^ 64) (hc : b.currentOffset + data.length ≤ b.capacity) :
    Appends b (b.growAndStore data) data := by
  have ho := hb.offset_le
  refine ⟨growAndStore_valid hb.size_le hn, ?_, growAndStore_offset b data, ?_⟩
  · have htake : (b.buffer.take b.currentOffset).length = b.currentOffset := by
      rw [List.length_take, Nat.min_eq_left ho]
    rw [growAndStore, sizeAdd_of_lt hn]
    split
    · simp only [span, store, resize]
      rw [List.take_left' (by simp; omega), List.take_append_of_le_length (by simp; omega), List.take_take]
      congr 2
      omega
    · simp only [span, store]
      rw [List.take_left' (by simp; omega)]
  · rw [growAndStore_capacity hn hc]
    exact Nat.le_max_left _ _

/-- The common part of the three writes. -/
theorem ensureSpace_growAndStore {b b' : SerializationBuffer} {data : List UInt8} (hb : b.Valid)
    (hn : b.currentOffset + data.length < 2 ^ 64) (h : b.ensureSpace data.length = .ok b') :
    Appends b (b'.growAndStore data) data := by
  obtain ⟨c, rfl, hle, hroom, hmax⟩ := ensureSpace_ok hn h
  have hv : Valid { b with capacity := c } := ⟨hb.offset_le, Nat.le_trans hb.size_le hle⟩
  have ha := growAndStore_appends hv hn hroom
  have hcap := ha.capacity_le
  exact ⟨ha.valid, ha.span_eq, ha.offset_eq, by dsimp only at hcap; omega⟩

theorem writeByte_appends {b b' : SerializationBuffer} {v : UInt8} (hb : b.Valid) (hn : b.currentOffset + 1 < 2 ^ 64)
    (h : b.writeByte v = .ok b') : Appends b b' [v] := by
  rw [writeByte_eq] at h
  obtain ⟨b₁, h₁, h₂⟩ := Except.bind_eq_ok_iff.1 h
  cases h₂
  exact ensureSpace_growAndStore hb hn h₁

theorem writeBytes_appends {b b' : SerializationBuffer} {data : List UInt8} (hb : b.Valid)
    (hn : b.currentOffset + data.length < 2 ^ 64) (h : b.writeBytes data = .ok b') : Appends b b' data := by
  rw [writeBytes_eq] at h
  split at h
  · rename_i he
    cases h
    rw [List.isEmpty_iff.1 he]
    exact Appends.refl hb
  · obtain ⟨b₁, h₁, h₂⟩ := Except.bind_eq_ok_iff.1 h
    cases h₂
    exact ensureSpace_growAndStore hb hn h₁

/-- The zero bytes that bring `n` bytes to a multiple of eight. -/
def padding (n : Nat) : List UInt8 := List.replicate ((ttlvAlignment - n % ttlvAlignment) % ttlvAlignment) 0

@[simp] theorem length_padding (n : Nat) : (padding n).length = (8 - n % 8) % 8 := List.length_replicate

theorem writePadded_appends {b b' : SerializationBuffer} {data : List UInt8} (hb : b.Valid)
    (hn : b.currentOffset + data.length + 8 < 2 ^ 64) (h : b.writePadded data = .ok b') :
    Appends b b' (data ++ padding data.length) := by
  rw [writePadded_eq] at h
  obtain ⟨b₁, h₁, h₂⟩ := Except.bind_eq_ok_iff.1 h
  have ha := writeBytes_appends hb (by omega) h₁
  refine ha.trans ?_
  have ho := ha.offset_eq
  split at h₂
  · obtain ⟨b₂, h₃, h₄⟩ := Except.bind_eq_ok_iff.1 h₂
    cases h₄
    exact @ensureSpace_growAndStore _ _ (padding data.length) ha.valid (by simp; omega)
      (by rw [padding, List.length_replicate]; exact h₃)
  · rename_i hp
    cases h₂
    have hz : padding data.length = [] := List.eq_nil_of_length_eq_zero (by
      rw [padding, List.length_replicate]; exact Nat.eq_zero_of_not_pos hp)
    rw [hz]
    exact Appends.refl ha.valid

end SerializationBuffer

end Kmip
