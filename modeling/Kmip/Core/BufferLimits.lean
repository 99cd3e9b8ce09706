import Kmip.Core.BufferObjects
import Kmip.Core.BufferGrowth

/-!
# The limit of a buffer

- `respectsLimit_iff`: the requests for which `ensureSpace` keeps to the limit of 100 MiB;
- `failedWrite_atomic_iff`: the writes that leave the buffer as it was when they throw. `writePadded` tests its data and
  its padding apart.
-/

namespace Kmip.SerializationBuffer

open Hoare Transition

theorem method_ensureSpace_ok {b b' : SerializationBuffer} {n : Nat} (h : b.ensureSpace n = .ok b') :
    Method.ensureSpace n b = .ok () b' := by
  unfold Method.ensureSpace
  rw [h]

theorem method_ensureSpace_error {b : SerializationBuffer} {n : Nat} {e : Abort} (h : b.ensureSpace n = .error e) :
    Method.ensureSpace n b = .error e b := by
  unfold Method.ensureSpace
  rw [h]

/-! ## The limit -/

/-- A request ends; it is granted up to the limit and refused above it, and the bytes stay. -/
structure RespectsLimit (b : SerializationBuffer) (n : Nat) : Prop where
  terminates : diverges (Method.ensureSpace n b) = false
  returns : b.size + n ≤ maxCapacity → ∃ b', Method.ensureSpace n b = .ok () b' ∧ b.size + n ≤ b'.capacity
  throws : maxCapacity < b.size + n → ∃ e b', Method.ensureSpace n b = .error (.thrown e) b'
  buffer_eq : (finalState (Method.ensureSpace n b)).buffer = b.buffer
  size_eq : (finalState (Method.ensureSpace n b)).size = b.size

section RespectsLimit

variable {b : SerializationBuffer} {n : Nat}

/-- A request that is granted. -/
theorem respectsLimit_of_ok {c : Nat} (h : b.ensureSpace n = .ok { b with capacity := c })
    (hroom : b.size + n ≤ maxCapacity → b.size + n ≤ c) : RespectsLimit b n ↔ b.size + n ≤ maxCapacity := by
  have hm := method_ensureSpace_ok h
  constructor
  · intro hp
    by_contra hlt
    obtain ⟨e, b', he⟩ := hp.throws (Nat.lt_of_not_le hlt)
    cases hm.symm.trans he
  · intro hle
    refine ⟨?_, fun _ => ⟨_, hm, hroom hle⟩, fun hlt => absurd hle (Nat.not_le.2 hlt), ?_, ?_⟩
    · rw [hm]
      rfl
    · rw [hm]
      rfl
    · rw [hm]
      rfl

/-- A request that is refused. -/
theorem respectsLimit_of_throws (h : b.ensureSpace n = .error limitExceeded) :
    RespectsLimit b n ↔ maxCapacity < b.size + n := by
  have hm := method_ensureSpace_error h
  constructor
  · intro hp
    by_contra hle
    obtain ⟨b', hok, -⟩ := hp.returns (Nat.le_of_not_lt hle)
    cases hm.symm.trans hok
  · intro hlt
    refine ⟨?_, fun hle => absurd hlt (Nat.not_lt.2 hle), fun _ => ⟨_, b, hm⟩, ?_, ?_⟩
    · rw [hm]
      rfl
    · rw [hm]
      rfl
    · rw [hm]
      rfl

theorem not_respectsLimit_of_diverges (h : b.ensureSpace n = .error .diverged) : ¬RespectsLimit b n := by
  intro hp
  have := hp.terminates
  rw [method_ensureSpace_error h] at this
  cases this

theorem topCapacity_le_max {capacity : Nat} (h : capacity ≤ maxCapacity) : topCapacity capacity ≤ maxCapacity := by
  refine topCapacity_le ?_
  unfold startCapacity
  split
  · decide
  · exact h

/-- The sum is the one that was meant. -/
theorem respectsLimit_of_lt (hb : Bounded maxCapacity b) (hlt : b.size + n < 2 ^ 64) :
    RespectsLimit b n ↔ b.size + n ≤ topCapacity b.capacity ∨
      maxCapacity < b.size + n ∧ ∃ k, b.size + n ≤ doubling (startCapacity b.capacity) k := by
  have htop := topCapacity_le_max hb.capacity_le
  have hword : b.capacity < 2 ^ 63 := hb.capacity_le.trans_lt (by decide)
  have hsum : sizeAdd b.currentOffset n = b.size + n := sizeAdd_of_lt hlt
  cases ensureSpace_spec hword n with
  | returns c hle hroom _ _ h =>
    rw [hsum] at hle hroom
    rw [respectsLimit_of_ok h fun _ => hroom]
    exact ⟨fun _ => Or.inl hle, fun _ => hle.trans htop⟩
  | throws hlt hends h =>
    rw [hsum] at hlt hends
    rw [respectsLimit_of_throws h]
    exact ⟨fun hmax => Or.inr ⟨hmax, hends⟩, fun hor => hor.elim (fun hle => absurd hle (Nat.not_le.2 hlt)) And.left⟩
  | diverges hlt hnever h =>
    rw [hsum] at hlt hnever
    refine iff_of_false (not_respectsLimit_of_diverges h) ?_
    rintro (hle | ⟨-, k, hk⟩)
    · omega
    · have := hnever k
      omega

/-- The sum wraps around. What is left of it is below the write position, and is refused only above the top. -/
theorem respectsLimit_of_wraps (hb : Bounded maxCapacity b) (hn : n < 2 ^ 64) (hge : 2 ^ 64 ≤ b.size + n) :
    RespectsLimit b n ↔ 2 ^ 64 + topCapacity b.capacity < b.size + n := by
  have hoffset : b.size ≤ maxCapacity := hb.offset_le
  have hmax : maxCapacity < 2 ^ 63 := by decide
  have hword : b.capacity < 2 ^ 63 := hb.capacity_le.trans_lt hmax
  have hsum : sizeAdd b.currentOffset n = b.size + n - 2 ^ 64 := by
    unfold sizeAdd sizeMod
    rw [show b.currentOffset = b.size from rfl, Nat.mod_eq_sub_mod hge]
    exact Nat.mod_eq_of_lt (by omega)
  cases ensureSpace_spec hword n with
  | returns c hle hroom _ _ h =>
    rw [respectsLimit_of_ok h fun _ => by omega]
    omega
  | throws hlt hends h =>
    rw [respectsLimit_of_throws h]
    omega
  | diverges hlt hnever h =>
    have htwice := lt_two_mul_topCapacity b.capacity
    obtain ⟨k, hk⟩ := exists_doubling hword (show sizeAdd b.currentOffset n ≤ topCapacity b.capacity * 2 by omega)
    exact absurd hk (Nat.not_le.2 (hnever k))

end RespectsLimit

/-- For every buffer that is reached from initial capacities up to the limit, moved ones included, and every request:
`ensureSpace` respects the limit exactly if the sum is not above the last doubling below it, or is above the limit and
some doubling modulo the word size reaches it, or wraps around by more than that last doubling. -/
theorem respectsLimit_iff {Id : Type} [DecidableEq Id] {objects : Objects Id}
    (hreach : Reachable (objectSystem Id maxCapacity) objects) {id : Id} {b : SerializationBuffer}
    (hb : objects id = some b) (n : UInt64) :
    RespectsLimit b n.toNat ↔
      b.size + n.toNat ≤ topCapacity b.capacity ∨
      (maxCapacity < b.size + n.toNat ∧ b.size + n.toNat < 2 ^ 64 ∧
        ∃ k, b.size + n.toNat ≤ doubling (startCapacity b.capacity) k) ∨
      2 ^ 64 + topCapacity b.capacity < b.size + n.toNat := by
  have hbounded := bounded_of_reachable (by decide) le_rfl hreach id b hb
  have htop := topCapacity_le_max hbounded.capacity_le
  have hmax : maxCapacity < 2 ^ 63 := by decide
  rcases Nat.lt_or_ge (b.size + n.toNat) (2 ^ 64) with hlt | hge
  · rw [respectsLimit_of_lt hbounded hlt]
    constructor
    · rintro (hle | ⟨hgt, hk⟩)
      · exact Or.inl hle
      · exact Or.inr (Or.inl ⟨hgt, hlt, hk⟩)
    · rintro (hle | ⟨hgt, -, hk⟩ | hwrap)
      · exact Or.inl hle
      · exact Or.inr ⟨hgt, hk⟩
      · omega
  · rw [respectsLimit_of_wraps hbounded n.toNat_lt hge]
    constructor
    · exact fun h => Or.inr (Or.inr h)
    · rintro (hle | ⟨-, hlt, -⟩ | hwrap)
      · omega
      · omega
      · exact hwrap

/-- A request of 60 MiB by a new buffer is granted within the limit. -/
theorem respectsLimit_sixty :
    RespectsLimit (new defaultCapacity) (UInt64.ofNat (60 * 1024 * 1024)).toNat :=
  (@respectsLimit_iff Nat _ (Function.update (fun _ => none) 0 (some (new defaultCapacity)))
    (.step (a := .create 0 defaultCapacity) .init rfl) 0 (new defaultCapacity) rfl _).2 (Or.inl (by decide))

/-- Three requests by a buffer that has one byte in it. 64 MiB more are refused, far below the limit; with `2 ^ 63` the
loop doubles to zero and stays there; and with `2 ^ 64 - 1` the sum is zero, so that nothing is done. -/
theorem ensureSpace_misses_limit :
    let actions : List (Action Nat) := [.create 0 defaultCapacity, .call 0 (.writeByte 7)]
    ∃ objects b, run (objectSystem Nat maxCapacity) (objectSystem Nat maxCapacity).init actions = some objects ∧
      objects 0 = some b ∧
      b.size + 64 * 1024 * 1024 ≤ maxCapacity ∧ ¬RespectsLimit b (64 * 1024 * 1024 : UInt64).toNat ∧
      ¬RespectsLimit b (0x8000000000000000 : UInt64).toNat ∧ ¬RespectsLimit b (0xffffffffffffffff : UInt64).toNat := by
  refine ⟨_, ⟨[7], defaultCapacity, 1⟩, rfl, rfl, by decide, ?_, ?_, ?_⟩
  · rw [respectsLimit_of_throws rfl]
    decide
  · exact not_respectsLimit_of_diverges rfl
  · rw [@respectsLimit_of_ok _ _ defaultCapacity rfl (by decide)]
    decide

/-! ## Writes that throw -/

/-- The calls that write. -/
def Call.writes : Call → Bool
  | .writeByte _ => true
  | .writeBytes _ => true
  | .writePadded _ => true
  | _ => false

/-- If a call throws, the bytes are what they were. -/
def Atomic (b : SerializationBuffer) (call : Call) : Prop :=
  ∀ e b', call.perform b = .error (.thrown e) b' → b'.size = b.size ∧ b'.span = b.span

section Atomic

variable {b b' : SerializationBuffer} {e : Abort}

/-- A single write throws before it stores. -/
theorem write_error {n : Nat} {f : SerializationBuffer → SerializationBuffer}
    (h : (Method.ensureSpace n >>= fun _ => modify f : Method Unit) b = .error e b') : b' = b := by
  rw [ensureSpace_bind] at h
  cases hs : b.ensureSpace n with
  | ok b₁ =>
    rw [hs] at h
    cases h
  | error e₁ =>
    rw [hs] at h
    cases h
    rfl

theorem writeBytes_error {data : List UInt8} (h : Method.writeBytes data b = .error e b') : b' = b := by
  unfold Method.writeBytes at h
  split at h
  · cases h
  · exact write_error h

/-- A call that throws has thrown in its method. -/
theorem perform_error {call : Call} {m : Method Unit} (hc : call.perform = do m; pure none)
    (h : call.perform b = .error e b') : m b = .error e b' := by
  rw [hc] at h
  rcases bind_eq_error h with h | ⟨_, _, -, h⟩
  · exact h
  · cases h

theorem atomic_of_error_eq {call : Call} (h : ∀ e b', call.perform b = .error e b' → b' = b) : Atomic b call := by
  intro e b' he
  rw [h _ b' he]
  exact ⟨rfl, rfl⟩

/-- No sum of a write position and a length wraps around. -/
theorem Bounded.sizeAdd_eq (hb : Bounded maxSize b) {n : Nat} (hn : n < 2 ^ 63) :
    sizeAdd b.currentOffset n = b.size + n := by
  have hoffset := hb.offset_le
  refine sizeAdd_of_lt ?_
  unfold maxSize at hoffset
  omega

theorem Bounded.capacity_lt (hb : Bounded maxSize b) : b.capacity < 2 ^ 63 := hb.capacity_le.trans_lt (by decide)

/-- Data that has room is written, and the top stays where it is. -/
theorem write_below_top {data : List UInt8} (hb : Bounded maxSize b) (hdata : data.length < 2 ^ 63)
    (hle : b.size + data.length ≤ topCapacity b.capacity) :
    ∃ b₁, (Method.ensureSpace data.length >>= fun _ => modify (·.growAndStore data)) b = .ok () b₁ ∧
      b₁.size = b.size + data.length ∧ topCapacity b₁.capacity = topCapacity b.capacity ∧ Bounded maxSize b₁ := by
  rw [← hb.sizeAdd_eq hdata] at hle
  obtain ⟨c, hroom, -, htop, h⟩ := ensureSpace_below_top hb.capacity_lt hle
  rw [hb.sizeAdd_eq hdata] at hroom
  have hreserved : Bounded maxSize { b with capacity := c } :=
    ((kept_bounded le_rfl).ensureSpace (by decide) data.length).ok hb (method_ensureSpace_ok h)
  have hlt : b.currentOffset + data.length < 2 ^ 64 := hroom.trans_lt (hreserved.capacity_lt.trans (by decide))
  refine ⟨_, ?_, growAndStore_offset { b with capacity := c } data, ?_, (hreserved.store le_rfl hroom).toBounded⟩
  · rw [ensureSpace_bind, h]
    rfl
  · rw [@growAndStore_capacity { b with capacity := c } data hlt hroom]
    exact htop

/-- What has no room, but would after one more doubling, is refused. -/
theorem write_above_top {n : Nat} {f : SerializationBuffer → SerializationBuffer} (hb : Bounded maxSize b)
    (hn : n < 2 ^ 63) (hlt : topCapacity b.capacity < b.size + n) (htwice : b.size + n ≤ topCapacity b.capacity * 2) :
    (Method.ensureSpace n >>= fun _ => modify f : Method Unit) b = .error limitExceeded b := by
  rw [← hb.sizeAdd_eq hn] at hlt htwice
  rw [ensureSpace_bind, ensureSpace_above_top hb.capacity_lt hlt htwice]

/-- The top falls between the data and its padding. -/
def SplitsPadded (b : SerializationBuffer) (data : List UInt8) : Prop :=
  b.size + data.length ≤ topCapacity b.capacity ∧
    topCapacity b.capacity < b.size + data.length + (padding data.length).length

theorem writeBytes_below_top {data : List UInt8} (hb : Bounded maxSize b) (hdata : data.length < 2 ^ 63)
    (hle : b.size + data.length ≤ topCapacity b.capacity) :
    ∃ b₁, Method.writeBytes data b = .ok () b₁ ∧ b₁.size = b.size + data.length ∧
      topCapacity b₁.capacity = topCapacity b.capacity ∧ Bounded maxSize b₁ := by
  unfold Method.writeBytes
  split
  · rename_i hempty
    refine ⟨b, rfl, ?_, rfl, hb⟩
    rw [List.isEmpty_iff.1 hempty]
    rfl
  · exact write_below_top hb hdata hle

/-- Where the top falls between them, the data is written and the padding refused. -/
theorem writePadded_splits {data : List UInt8} (hb : Bounded maxSize b) (hdata : data.length < 2 ^ 63)
    (h : SplitsPadded b data) :
    ∃ b₁, Method.writePadded data b = .error limitExceeded b₁ ∧ b₁.size = b.size + data.length := by
  obtain ⟨hle, hlt⟩ := h
  obtain ⟨b₁, h₁, hsize, htop, hb₁⟩ := writeBytes_below_top hb hdata hle
  refine ⟨b₁, ?_, hsize⟩
  have hlarge := lt_two_mul_topCapacity b.capacity
  unfold Method.writePadded
  rw [bind_ok h₁]
  unfold padding at hlt
  rw [List.length_replicate] at hlt
  rw [if_pos (by omega)]
  refine write_above_top hb₁ ?_ ?_ ?_
  · unfold ttlvAlignment
    omega
  · rw [hsize, htop]
    exact hlt
  · rw [hsize, htop]
    unfold ttlvAlignment
    unfold maxCapacity at hlarge
    omega

/-- Data that was written had room. -/
theorem le_top_of_writeBytes {data : List UInt8} (hb : Bounded maxSize b) (hdata : data.length < 2 ^ 63)
    (hne : data ≠ []) (h : Method.writeBytes data b = .ok () b') :
    b.size + data.length ≤ topCapacity b.capacity := by
  unfold Method.writeBytes at h
  rw [if_neg (by simpa using hne), ensureSpace_bind] at h
  cases hs : b.ensureSpace data.length with
  | ok b₁ =>
    have hle := le_top_of_ensureSpace hb.capacity_lt hs
    rwa [hb.sizeAdd_eq hdata] at hle
  | error e =>
    rw [hs] at h
    cases h

/-- Everywhere else, a `writePadded` that throws has written nothing. -/
theorem writePadded_error {data : List UInt8} (hb : Bounded maxSize b) (hdata : data.length < 2 ^ 63)
    (hsplit : ¬SplitsPadded b data) (h : Method.writePadded data b = .error e b') : b' = b := by
  unfold Method.writePadded at h
  rcases bind_eq_error h with h | ⟨_, b₁, h₁, h⟩
  · exact writeBytes_error h
  dsimp only at h
  split at h
  · -- the data had room, and so has the padding
    rename_i hpad
    have hne : data ≠ [] := by
      rintro rfl
      exact absurd hpad (by decide)
    have hle := le_top_of_writeBytes hb hdata hne h₁
    obtain ⟨b₂, h₂, hsize, htop, hb₂⟩ := writeBytes_below_top hb hdata hle
    cases h₁.symm.trans h₂
    have hroom : b₁.size + (padding data.length).length ≤ topCapacity b₁.capacity := by
      rw [hsize, htop]
      exact Nat.le_of_not_lt fun hlt => hsplit ⟨hle, hlt⟩
    have hshort : (padding data.length).length < 2 ^ 63 := by
      rw [length_padding]
      omega
    obtain ⟨b₃, h₃, -⟩ := write_below_top hb₂ hshort hroom
    unfold padding at h₃
    rw [List.length_replicate] at h₃
    cases h₃.symm.trans h
  · cases h

/-- The call has thrown, but the data is in the buffer. -/
theorem not_atomic_of_splits {data : Bytes} (hb : Bounded maxSize b) (h : SplitsPadded b data.bytes) :
    ¬Atomic b (.writePadded data) := by
  obtain ⟨b₁, h₁, hsize⟩ := writePadded_splits hb data.size_lt h
  intro hatomic
  have heq := (hatomic _ b₁ (bind_error h₁)).1
  have hempty : data.bytes.length = 0 := by omega
  obtain ⟨hle, hlt⟩ := h
  rw [hempty] at hle hlt
  exact absurd hlt (Nat.not_lt.2 hle)

end Atomic

/-- Zero bytes. -/
def zeros (n : Nat) (h : n < 2 ^ 63) : Bytes := ⟨List.replicate n 0, List.length_replicate.trans_lt h⟩

theorem length_zeros {n : Nat} (h : n < 2 ^ 63) : (zeros n h).bytes.length = n := List.length_replicate

/-- In every reachable state, a write that throws leaves `size` and `span` as they were, exactly if it is not a
`writePadded` whose data ends below the last doubling of the capacity and whose padding ends above it. -/
theorem failedWrite_atomic_iff {Id : Type} [DecidableEq Id] {objects : Objects Id}
    (hreach : Reachable (objectSystem Id maxSize) objects) {id : Id} {b : SerializationBuffer}
    (hb : objects id = some b) {call : Call} (hcall : call.writes = true) :
    Atomic b call ↔ ∀ data, call = .writePadded data → ¬SplitsPadded b data.bytes := by
  have hbounded := bounded_of_reachable le_rfl (by decide) hreach id b hb
  cases call with
  | writeByte value =>
    refine iff_of_true (atomic_of_error_eq fun e b' h => ?_) (by rintro _ ⟨⟩)
    exact write_error (perform_error rfl h)
  | writeBytes data =>
    refine iff_of_true (atomic_of_error_eq fun e b' h => ?_) (by rintro _ ⟨⟩)
    exact writeBytes_error (perform_error rfl h)
  | writePadded data =>
    constructor
    · rintro hatomic _ ⟨⟩ hsplit
      exact not_atomic_of_splits hbounded hsplit hatomic
    · intro hsplit
      refine atomic_of_error_eq fun e b' h => ?_
      exact writePadded_error hbounded data.size_lt (hsplit data rfl) (perform_error rfl h)
  | _ => cases hcall

/-- Unpadded data, above what a new buffer grows to. -/
theorem failedWrite_atomic_new :
    Atomic (new defaultCapacity) (.writeBytes (zeros (70 * 1024 * 1024) (by decide))) :=
  (@failedWrite_atomic_iff Nat _ (Function.update (fun _ => none) 0 (some (new defaultCapacity)))
    (.step (a := .create 0 defaultCapacity) .init rfl) 0 (new defaultCapacity) rfl _ rfl).2 (by rintro _ ⟨⟩)

/-- After one byte, 64 MiB less one byte are written with padding: the data fills the buffer up to the last doubling
below the limit, and the padding is refused. -/
theorem writePadded_not_atomic :
    let actions : List (Action Nat) := [.create 0 defaultCapacity, .call 0 (.writeByte 7)]
    ∃ objects b, run (objectSystem Nat maxSize) (objectSystem Nat maxSize).init actions = some objects ∧
      objects 0 = some b ∧ ¬Atomic b (.writePadded (zeros (64 * 1024 * 1024 - 1) (by decide))) := by
  refine ⟨_, ⟨[7], defaultCapacity, 1⟩, rfl, rfl, not_atomic_of_splits ⟨by decide, by decide, by decide⟩ ⟨?_, ?_⟩⟩
  · rw [length_zeros]
    decide
  · rw [length_zeros, length_padding]
    decide

end Kmip.SerializationBuffer
