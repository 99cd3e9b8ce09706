import Kmip.Core.SerializationBuffer
import Kmip.Lib.Hoare
import Kmip.Lib.Transition
import Mathlib.Data.List.DropRight

/-!
# Calls on a buffer

The public methods of `SerializationBuffer` as they act on an object, and sequences of calls. A buffer is a byte list:
after any calls that return, `span` is what was written since the last `reset`, `release` or `shrink`
(`span_eq_written`), whatever bytes `reset` left behind.
-/

namespace Kmip.SerializationBuffer

open Hoare Transition

/-! ## Methods -/

/-- `max_size()` of a vector of bytes. -/
def maxSize : Nat := 2 ^ 63 - 1

/-- `SerializationBuffer(initial_capacity)`. Above `max_size()`, `reserve` throws. -/
def create (initialCapacity : Nat) : Option SerializationBuffer :=
  if initialCapacity ≤ maxSize then some (new initialCapacity) else none

namespace Method

/-- Only the write position is cleared. -/
def reset : Method Unit := modify fun b => { b with currentOffset := 0 }

def release : Method (List UInt8) := fun b => .ok b.release.1 b.release.2

/-- The storage is swapped with that of an empty vector. -/
def shrink : Method Unit := modify fun b => { b with buffer := [], capacity := 0, currentOffset := 0 }

end Method

/-! ## Calls -/

/-- A call of a public method. -/
inductive Call where
  | writeByte (value : UInt8)
  | writeBytes (data : Bytes)
  | writePadded (data : Bytes)
  | ensureSpace (requiredBytes : UInt64)
  | reset
  | release
  | shrink

namespace Call

/-- A call on an object. Only `release` returns something. -/
def perform : Call → Method (Option (List UInt8))
  | writeByte value => do Method.writeByte value; pure none
  | writeBytes data => do Method.writeBytes data.bytes; pure none
  | writePadded data => do Method.writePadded data.bytes; pure none
  | ensureSpace requiredBytes => do Method.ensureSpace requiredBytes.toNat; pure none
  | reset => do Method.reset; pure none
  | release => do return some (← Method.release)
  | shrink => do Method.shrink; pure none

/-- The bytes that a call writes. -/
def contribution : Call → List UInt8
  | writeByte value => [value]
  | writeBytes data => data.bytes
  | writePadded data => data.bytes ++ padding data.size
  | _ => []

/-- The calls after which the buffer is empty. -/
def clears : Call → Bool
  | reset => true
  | release => true
  | shrink => true
  | _ => false

end Call

/-- What was written since the last call that clears. -/
def written (calls : List Call) : List UInt8 := (calls.rtakeWhile (!·.clears)).flatMap Call.contribution

theorem written_concat_of_clears {call : Call} (h : call.clears = true) (calls : List Call) :
    written (calls ++ [call]) = [] := by
  unfold written
  rw [List.rtakeWhile_concat_neg _ _ _ (by simp [h])]
  rfl

theorem written_concat {call : Call} (h : call.clears = false) (calls : List Call) :
    written (calls ++ [call]) = written calls ++ call.contribution := by
  unfold written
  rw [List.rtakeWhile_concat_pos _ _ _ (by simp [h]), List.flatMap_append, List.flatMap_singleton]

/-- Calls that all return. -/
def successful (b₀ : SerializationBuffer) : System SerializationBuffer Call where
  init := b₀
  step b call := (returned (call.perform b)).toOption

/-! ## A buffer is a byte list -/

/-- The buffer holds these bytes. -/
structure Represents (b : SerializationBuffer) (bytes : List UInt8) : Prop where
  valid : b.Valid
  capacity_le : b.capacity ≤ maxSize
  span_eq : b.span = bytes

theorem Represents.create {n : Nat} {b : SerializationBuffer} (h : create n = some b) : Represents b [] := by
  unfold SerializationBuffer.create at h
  split at h
  · cases h
    exact ⟨Valid.new n, by assumption, rfl⟩
  · cases h

section Represents

variable {b b' : SerializationBuffer} {bytes data : List UInt8}

/-- Appending to the buffer is appending to the list. -/
theorem Represents.append (h : Represents b bytes) (ha : Appends b b' data) : Represents b' (bytes ++ data) := by
  refine ⟨ha.valid, ha.capacity_le.trans (max_le h.capacity_le (by decide)), ?_⟩
  rw [ha.span_eq, h.span_eq]

/-- No sum of a write position and a length wraps around. -/
theorem Represents.offset_add_lt (h : Represents b bytes) {n : Nat} (hn : n < 2 ^ 63) :
    b.currentOffset + n < 2 ^ 64 := by
  have hle := h.valid.offset_le.trans (h.valid.size_le.trans h.capacity_le)
  unfold maxSize at hle
  omega

theorem Represents.writeByte (h : Represents b bytes) {value : UInt8} (hr : b.writeByte value = .ok b') :
    Represents b' (bytes ++ [value]) :=
  h.append (writeByte_appends h.valid (h.offset_add_lt (by decide)) hr)

theorem Represents.writeBytes (h : Represents b bytes) (hdata : data.length < 2 ^ 63)
    (hr : b.writeBytes data = .ok b') : Represents b' (bytes ++ data) :=
  h.append (writeBytes_appends h.valid (h.offset_add_lt hdata) hr)

/-- The data is in the buffer before the padding is written, and so its end is below `max_size()`. -/
theorem Represents.writePadded (h : Represents b bytes) (hdata : data.length < 2 ^ 63)
    (hr : b.writePadded data = .ok b') : Represents b' (bytes ++ (data ++ padding data.length)) := by
  refine h.append (writePadded_appends h.valid ?_ hr)
  rw [writePadded_eq] at hr
  obtain ⟨b₁, h₁, -⟩ := Except.bind_eq_ok_iff.1 hr
  have ha := writeBytes_appends h.valid (h.offset_add_lt hdata) h₁
  have hle := ha.valid.offset_le.trans (ha.valid.size_le.trans (h.append ha).capacity_le)
  rw [ha.offset_eq] at hle
  unfold maxSize at hle
  omega

theorem Represents.ensureSpace (h : Represents b bytes) {n : Nat} (hr : b.ensureSpace n = .ok b') :
    Represents b' bytes := by
  obtain ⟨c, rfl, hle, -, hmax⟩ := ensureSpace_eq_ok hr
  exact ⟨⟨h.valid.offset_le, h.valid.size_le.trans hle⟩, hmax.trans (max_le h.capacity_le (by decide)), h.span_eq⟩

/-- A buffer whose write position is at its start holds nothing, whatever its storage has. -/
theorem Represents.of_start {b : SerializationBuffer} (hoffset : b.currentOffset = 0)
    (hsize : b.buffer.length ≤ b.capacity) (hcapacity : b.capacity ≤ maxSize) : Represents b [] := by
  refine ⟨⟨?_, hsize⟩, hcapacity, ?_⟩
  · rw [hoffset]
    exact Nat.zero_le _
  · rw [span, hoffset, List.take_zero]

end Represents

theorem returned_ensureSpace (b : SerializationBuffer) (n : Nat) :
    returned (Method.ensureSpace n b) = b.ensureSpace n := by
  unfold Method.ensureSpace
  cases b.ensureSpace n <;> rfl

/-- What a call returned with. -/
theorem returned_perform {call : Call} {m : Method Unit} (h : call.perform = do m; pure none)
    (b : SerializationBuffer) : returned (call.perform b) = returned (m b) := by
  rw [h, bind_apply]
  cases m b <;> rfl

/-- One call: the list is extended or emptied. -/
theorem Represents.perform {b b' : SerializationBuffer} {calls : List Call} {call : Call}
    (h : Represents b (written calls)) (hr : returned (call.perform b) = .ok b') :
    Represents b' (written (calls ++ [call])) := by
  cases call with
  | writeByte value =>
    rw [returned_perform rfl] at hr
    rw [written_concat rfl]
    exact h.writeByte hr
  | writeBytes data =>
    rw [returned_perform rfl] at hr
    rw [written_concat rfl]
    exact h.writeBytes data.size_lt hr
  | writePadded data =>
    rw [returned_perform rfl] at hr
    rw [written_concat rfl]
    exact h.writePadded data.size_lt hr
  | ensureSpace requiredBytes =>
    rw [returned_perform rfl, returned_ensureSpace] at hr
    rw [written_concat rfl, show (Call.ensureSpace requiredBytes).contribution = [] from rfl, List.append_nil]
    exact h.ensureSpace hr
  | reset =>
    cases hr
    rw [written_concat_of_clears rfl]
    exact .of_start rfl h.valid.size_le h.capacity_le
  | release =>
    cases hr
    rw [written_concat_of_clears rfl]
    exact .of_start rfl (Nat.zero_le _) h.capacity_le
  | shrink =>
    cases hr
    rw [written_concat_of_clears rfl]
    exact .of_start rfl (Nat.zero_le _) (Nat.zero_le _)

/-- **Refinement.** After calls that return, on a buffer of any initial capacity, `span` and `release` give what was
written since the last call that clears, and the write position lies in the vector and the vector in its capacity. -/
theorem span_eq_written (initialCapacity : Nat) (b₀ : SerializationBuffer) (hcreate : create initialCapacity = some b₀)
    (calls : List Call) (b : SerializationBuffer) (hrun : run (successful b₀) b₀ calls = some b) :
    b.span = written calls ∧ (∃ b', Call.release.perform b = .ok (some (written calls)) b') ∧
      b.currentOffset ≤ b.buffer.length ∧ b.buffer.length ≤ b.capacity := by
  have h : Represents b (written calls) := by
    refine @run_induction _ _ _ (fun calls b => Represents b (written calls)) _ _ _ (.create hcreate) ?_ hrun
    intro calls b₁ call b₂ h hstep
    exact h.perform (Except.toOption_eq_some_iff.1 hstep)
  refine ⟨h.span_eq, ⟨b.release.2, ?_⟩, h.valid.offset_le, h.valid.size_le⟩
  rw [← h.span_eq]
  rfl

/-- A long message, `reset`, and a short one with padding: nothing of the long one is left. -/
theorem span_eq_written_reset :
    let calls : List Call := [.writeBytes ⟨List.replicate 14 7, by decide⟩, .reset, .writePadded ⟨[1, 2], by decide⟩]
    ∃ b, run (successful (new 4)) (new 4) calls = some b ∧ b.span = written calls ∧
      b.span = [1, 2, 0, 0, 0, 0, 0, 0] ∧ b.buffer = [1, 2, 0, 0, 0, 0, 0, 0, 7, 7, 7, 7, 7, 7] :=
  ⟨_, rfl, (span_eq_written 4 (new 4) rfl _ _ rfl).1, rfl, rfl⟩

end Kmip.SerializationBuffer
