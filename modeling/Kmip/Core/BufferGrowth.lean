import Kmip.Core.SerializationBuffer
import Mathlib.Data.Nat.Log

/-!
# How far a buffer grows

The doubling loop of `expandCapacity` runs through `doubling start k`, and the limit is tested after it. So a buffer
does not grow to the limit but to `topCapacity`, the last doubling of its capacity that is below it; and the loop ends
only where some doubling, modulo the word size, reaches what is required (`ensureSpace_spec`). From the default capacity
the top is 64 MiB, and writes below it return.
-/

namespace Kmip.SerializationBuffer

/-! ## The doubling loop -/

/-- The capacity that the loop tests after `k` doublings. -/
def doubling (start k : Nat) : Nat := start * 2 ^ k % sizeMod

theorem doubling_succ (start k : Nat) : doubling start k * 2 % sizeMod = doubling start (k + 1) := by
  unfold doubling
  rw [Nat.pow_succ, ← Nat.mul_assoc]
  exact Nat.mod_mul_mod _ _ _

theorem doubling_of_lt {start k : Nat} (h : start * 2 ^ k < sizeMod) : doubling start k = start * 2 ^ k :=
  Nat.mod_eq_of_lt h

theorem doubling_zero {start : Nat} (h : start < sizeMod) : doubling start 0 = start := by
  rw [doubling_of_lt (by simpa using h), Nat.pow_zero, Nat.mul_one]

/-- All bits are shifted out. -/
theorem doubling_eq_zero {start k : Nat} (h : 64 ≤ k) : doubling start k = 0 := by
  obtain ⟨j, rfl⟩ := Nat.exists_eq_add_of_le h
  unfold doubling sizeMod
  rw [Nat.pow_add, Nat.mul_left_comm]
  exact Nat.mul_mod_right _ _

/-- The loop stops at the first doubling that is large enough. -/
theorem doubleCapacity_eq_some {start required c : Nat} : ∀ {fuel k : Nat},
    doubleCapacity fuel (doubling start k) required = some c →
    ∃ j, k ≤ j ∧ c = doubling start j ∧ ∀ i, k ≤ i → i < j → doubling start i < required
  | 0, _, h => by cases h
  | fuel + 1, k, h => by
    rw [doubleCapacity] at h
    split at h
    · rename_i hlt
      rw [doubling_succ] at h
      obtain ⟨j, hj, hc, hbelow⟩ := doubleCapacity_eq_some h
      refine ⟨j, by omega, hc, fun i hi hij => ?_⟩
      rcases Nat.eq_or_lt_of_le hi with rfl | hi
      · exact hlt
      · exact hbelow i hi hij
    · cases h
      exact ⟨k, le_rfl, rfl, fun i hi hij => absurd hij (Nat.not_lt.2 hi)⟩

/-- The loop ends if it is run up to a doubling that is large enough. -/
theorem doubleCapacity_ends {start required j : Nat} (hj : required ≤ doubling start j) : ∀ {fuel k : Nat},
    k ≤ j → j < k + fuel → ∃ c, doubleCapacity fuel (doubling start k) required = some c
  | 0, k, hk, hf => by omega
  | fuel + 1, k, hk, hf => by
    rw [doubleCapacity]
    split
    · rename_i hlt
      rw [doubling_succ]
      have hne : k ≠ j := by
        rintro rfl
        omega
      exact doubleCapacity_ends hj (by omega) (by omega)
    · exact ⟨_, rfl⟩

/-- The 65 tests of the model decide whether the loop ends. -/
theorem doubleCapacity_ends_iff {start required : Nat} (hstart : start < sizeMod) :
    (∃ c, doubleCapacity 65 start required = some c) ↔ ∃ k, required ≤ doubling start k := by
  have hzero := doubling_zero hstart
  constructor
  · rintro ⟨c, hc⟩
    have hle := le_doubleCapacity hc
    rw [← hzero] at hc
    obtain ⟨j, -, rfl, -⟩ := doubleCapacity_eq_some hc
    exact ⟨j, hle⟩
  · rintro ⟨k, hk⟩
    rw [← hzero]
    rcases Nat.lt_or_ge k 65 with hlt | hge
    · exact doubleCapacity_ends hk (Nat.zero_le _) (by omega)
    · -- past 64 doublings only zero is tested, and then the first test was enough
      rw [doubling_eq_zero (by omega)] at hk
      exact @doubleCapacity_ends start required 0 (by omega) 65 0 le_rfl (by omega)

/-! ## The capacity that growth reaches -/

/-- The capacity that the loop starts from. -/
def startCapacity (capacity : Nat) : Nat := if capacity = 0 then minCapacity else capacity

/-- The last doubling of a capacity that is not above the limit. A capacity above the limit is never doubled. -/
def topCapacity (capacity : Nat) : Nat :=
  startCapacity capacity * 2 ^ Nat.log2 (maxCapacity / startCapacity capacity)

theorem startCapacity_pos (capacity : Nat) : 0 < startCapacity capacity := by
  unfold startCapacity
  split
  · decide
  · omega

theorem startCapacity_of_pos {capacity : Nat} (h : 0 < capacity) : startCapacity capacity = capacity :=
  if_neg h.ne'

theorem le_startCapacity (capacity : Nat) : capacity ≤ startCapacity capacity := by
  unfold startCapacity
  split
  · omega
  · exact le_rfl

theorem startCapacity_le_top (capacity : Nat) : startCapacity capacity ≤ topCapacity capacity :=
  Nat.le_mul_of_pos_right _ (Nat.two_pow_pos _)

theorem le_topCapacity (capacity : Nat) : capacity ≤ topCapacity capacity :=
  (le_startCapacity capacity).trans (startCapacity_le_top capacity)

theorem topCapacity_le {capacity : Nat} (h : startCapacity capacity ≤ maxCapacity) :
    topCapacity capacity ≤ maxCapacity := by
  have hne : maxCapacity / startCapacity capacity ≠ 0 := (Nat.div_pos h (startCapacity_pos capacity)).ne'
  unfold topCapacity
  rw [Nat.log2_eq_log_two]
  calc startCapacity capacity * 2 ^ Nat.log 2 (maxCapacity / startCapacity capacity)
      ≤ startCapacity capacity * (maxCapacity / startCapacity capacity) :=
        Nat.mul_le_mul_left _ (Nat.pow_log_le_self 2 hne)
    _ ≤ maxCapacity := Nat.mul_div_le _ _

theorem topCapacity_of_lt {capacity : Nat} (h : maxCapacity < startCapacity capacity) :
    topCapacity capacity = startCapacity capacity := by
  unfold topCapacity
  rw [Nat.div_eq_of_lt h]
  exact Nat.mul_one _

/-- One more doubling is above the limit. -/
theorem lt_two_mul_topCapacity (capacity : Nat) : maxCapacity < topCapacity capacity * 2 := by
  have h := Nat.lt_pow_succ_log_self Nat.one_lt_two (maxCapacity / startCapacity capacity)
  rw [Nat.div_lt_iff_lt_mul (startCapacity_pos capacity)] at h
  unfold topCapacity
  rw [Nat.log2_eq_log_two, Nat.mul_assoc, ← Nat.pow_succ, Nat.mul_comm]
  exact h

/-- The next doubling is far below the word size. -/
theorem two_mul_topCapacity_lt {capacity : Nat} (h : capacity < 2 ^ 63) : topCapacity capacity * 2 < sizeMod := by
  rcases Nat.lt_or_ge maxCapacity (startCapacity capacity) with hlt | hle
  · rw [topCapacity_of_lt hlt]
    have hpos : 0 < capacity := by
      refine Nat.pos_of_ne_zero fun hzero => ?_
      subst hzero
      exact absurd hlt (by decide)
    rw [startCapacity_of_pos hpos]
    unfold sizeMod
    omega
  · have := topCapacity_le hle
    have : maxCapacity * 2 < sizeMod := by decide
    omega

section Top

variable {capacity : Nat} (h : capacity < 2 ^ 63)

include h

theorem startCapacity_lt : startCapacity capacity < sizeMod := by
  have := startCapacity_le_top capacity
  have := two_mul_topCapacity_lt h
  omega

theorem doubling_log : doubling (startCapacity capacity) (Nat.log2 (maxCapacity / startCapacity capacity)) =
    topCapacity capacity := by
  have := two_mul_topCapacity_lt h
  refine doubling_of_lt ?_
  unfold topCapacity at this
  omega

theorem doubling_log_succ :
    doubling (startCapacity capacity) (Nat.log2 (maxCapacity / startCapacity capacity) + 1) =
      topCapacity capacity * 2 := by
  rw [← doubling_succ, doubling_log h]
  exact Nat.mod_eq_of_lt (two_mul_topCapacity_lt h)

/-- Up to the top, the doublings do not wrap around. -/
theorem doubling_below_top {k : Nat} (hk : k ≤ Nat.log2 (maxCapacity / startCapacity capacity)) :
    doubling (startCapacity capacity) k = startCapacity capacity * 2 ^ k ∧
      startCapacity capacity * 2 ^ k ≤ topCapacity capacity := by
  have hle : startCapacity capacity * 2 ^ k ≤ topCapacity capacity :=
    Nat.mul_le_mul_left _ (Nat.pow_le_pow_right Nat.two_pos hk)
  have := two_mul_topCapacity_lt h
  exact ⟨doubling_of_lt (by omega), hle⟩

/-- What is required fits below the top: the loop ends there. -/
theorem doubleCapacity_of_le_top {required : Nat} (hr : required ≤ topCapacity capacity) :
    ∃ k ≤ Nat.log2 (maxCapacity / startCapacity capacity),
      doubleCapacity 65 (startCapacity capacity) required = some (startCapacity capacity * 2 ^ k) := by
  rw [← doubling_log h] at hr
  obtain ⟨c, hc⟩ := (doubleCapacity_ends_iff (startCapacity_lt h)).2 ⟨_, hr⟩
  have hc' := hc
  rw [← doubling_zero (startCapacity_lt h)] at hc'
  obtain ⟨j, -, rfl, hbelow⟩ := doubleCapacity_eq_some hc'
  have hj : j ≤ Nat.log2 (maxCapacity / startCapacity capacity) := by
    by_contra hlt
    exact absurd (hbelow _ (Nat.zero_le _) (Nat.lt_of_not_le hlt)) (Nat.not_lt.2 hr)
  refine ⟨j, hj, ?_⟩
  rw [hc, (doubling_below_top h hj).1]

/-- Above the top, a loop that ends has passed the limit. -/
theorem max_lt_doubleCapacity {required c : Nat} (hr : topCapacity capacity < required)
    (hc : doubleCapacity 65 (startCapacity capacity) required = some c) : maxCapacity < c := by
  have hle := le_doubleCapacity hc
  have htwice := lt_two_mul_topCapacity capacity
  rcases Nat.lt_or_ge maxCapacity required with hlt | hge
  · omega
  rw [← doubling_zero (startCapacity_lt h)] at hc
  obtain ⟨j, -, rfl, hbelow⟩ := doubleCapacity_eq_some hc
  rcases Nat.lt_trichotomy j (Nat.log2 (maxCapacity / startCapacity capacity) + 1) with hj | rfl | hj
  · obtain ⟨heq, htop⟩ := doubling_below_top h (Nat.lt_succ_iff.1 hj)
    omega
  · rw [doubling_log_succ h]
    exact htwice
  · have := hbelow _ (Nat.zero_le _) hj
    rw [doubling_log_succ h] at this
    omega

end Top

/-- The top is the same from every capacity on the way to it. -/
theorem topCapacity_doubled {capacity k : Nat} (hk : k ≤ Nat.log2 (maxCapacity / startCapacity capacity)) :
    topCapacity (startCapacity capacity * 2 ^ k) = topCapacity capacity := by
  have hpos : 0 < startCapacity capacity * 2 ^ k := Nat.mul_pos (startCapacity_pos capacity) (Nat.two_pow_pos k)
  rw [topCapacity, startCapacity_of_pos hpos, ← Nat.div_div_eq_div_mul, Nat.log2_eq_log_two, Nat.log_div_base_pow,
    Nat.mul_assoc, ← Nat.pow_add, ← Nat.log2_eq_log_two, Nat.add_sub_cancel' hk]
  rfl

/-! ## Requests for space -/

/-- What `expandCapacity` throws. -/
def limitExceeded : Abort := .message "SerializationBuffer exceeded maximum size of 100 MB"

/-- The three ends of `ensureSpace`. -/
inductive Request (b : SerializationBuffer) (n : Nat) : Prop
  | returns (c : Nat) (hle : sizeAdd b.currentOffset n ≤ topCapacity b.capacity) (hroom : sizeAdd b.currentOffset n ≤ c)
      (hgrown : c = b.capacity ∨ ∃ k, c = startCapacity b.capacity * 2 ^ k)
      (htop : topCapacity c = topCapacity b.capacity) (h : b.ensureSpace n = .ok { b with capacity := c })
  | throws (hlt : topCapacity b.capacity < sizeAdd b.currentOffset n)
      (hends : ∃ k, sizeAdd b.currentOffset n ≤ doubling (startCapacity b.capacity) k)
      (h : b.ensureSpace n = .error limitExceeded)
  | diverges (hlt : topCapacity b.capacity < sizeAdd b.currentOffset n)
      (hnever : ∀ k, doubling (startCapacity b.capacity) k < sizeAdd b.currentOffset n)
      (h : b.ensureSpace n = .error .diverged)

theorem expandCapacity_none {b : SerializationBuffer} {required : Nat}
    (h : doubleCapacity 65 (startCapacity b.capacity) required = none) :
    b.expandCapacity required = .error .diverged := by
  unfold expandCapacity
  unfold startCapacity at h
  dsimp only
  rw [h]

theorem expandCapacity_some {b : SerializationBuffer} {required c : Nat}
    (h : doubleCapacity 65 (startCapacity b.capacity) required = some c) :
    b.expandCapacity required =
      if c > maxCapacity then .error limitExceeded else .ok { b with capacity := max b.capacity c } := by
  unfold expandCapacity
  unfold startCapacity at h
  dsimp only
  rw [h]
  rfl

theorem ensureSpace_spec {b : SerializationBuffer} (hb : b.capacity < 2 ^ 63) (n : Nat) : Request b n := by
  have htop := le_topCapacity b.capacity
  have hensure : b.ensureSpace n = if sizeAdd b.currentOffset n ≤ b.capacity then .ok b
      else b.expandCapacity (sizeAdd b.currentOffset n) := rfl
  by_cases hfit : sizeAdd b.currentOffset n ≤ b.capacity
  · exact .returns b.capacity (hfit.trans htop) hfit (Or.inl rfl) rfl (by rw [hensure, if_pos hfit])
  rw [if_neg hfit] at hensure
  rcases Nat.lt_or_ge (topCapacity b.capacity) (sizeAdd b.currentOffset n) with hlt | hle
  · cases hd : doubleCapacity 65 (startCapacity b.capacity) (sizeAdd b.currentOffset n) with
    | none =>
      refine .diverges hlt (fun k => ?_) (hensure.trans (expandCapacity_none hd))
      by_contra hk
      obtain ⟨c, hc⟩ := (doubleCapacity_ends_iff (startCapacity_lt hb)).2 ⟨k, Nat.le_of_not_lt hk⟩
      cases hd.symm.trans hc
    | some c =>
      refine .throws hlt ((doubleCapacity_ends_iff (startCapacity_lt hb)).1 ⟨c, hd⟩) ?_
      rw [hensure, expandCapacity_some hd, if_pos (max_lt_doubleCapacity hb hlt hd)]
  · obtain ⟨k, hk, hd⟩ := doubleCapacity_of_le_top hb hle
    have hbelow := (doubling_below_top hb hk).2
    -- above the limit the top is the capacity itself, where the request fits
    have hstart : startCapacity b.capacity ≤ maxCapacity := by
      by_contra hlarge
      have hlarge := Nat.lt_of_not_le hlarge
      have hne : b.capacity ≠ 0 := fun hzero => by
        rw [hzero] at hlarge
        exact absurd hlarge (by decide)
      rw [topCapacity_of_lt hlarge, startCapacity_of_pos (Nat.pos_of_ne_zero hne)] at hle
      exact hfit hle
    have hgrown : b.capacity ≤ startCapacity b.capacity * 2 ^ k :=
      (le_startCapacity _).trans (Nat.le_mul_of_pos_right _ (Nat.two_pow_pos k))
    refine .returns (startCapacity b.capacity * 2 ^ k) hle (le_doubleCapacity hd) (Or.inr ⟨k, rfl⟩)
      (topCapacity_doubled hk) ?_
    rw [hensure, expandCapacity_some hd, if_neg (Nat.not_lt.2 (hbelow.trans (topCapacity_le hstart))),
      Nat.max_eq_right hgrown]

/-- A request that is a little above the top is answered. -/
theorem exists_doubling {capacity required : Nat} (hc : capacity < 2 ^ 63) (hr : required ≤ topCapacity capacity * 2) :
    ∃ k, required ≤ doubling (startCapacity capacity) k := by
  rw [← doubling_log_succ hc] at hr
  exact ⟨_, hr⟩

section Request

variable {b b' : SerializationBuffer} (hb : b.capacity < 2 ^ 63) {n : Nat}

include hb

theorem ensureSpace_below_top (hle : sizeAdd b.currentOffset n ≤ topCapacity b.capacity) :
    ∃ c, sizeAdd b.currentOffset n ≤ c ∧ (c = b.capacity ∨ ∃ k, c = startCapacity b.capacity * 2 ^ k) ∧
      topCapacity c = topCapacity b.capacity ∧ b.ensureSpace n = .ok { b with capacity := c } := by
  cases ensureSpace_spec hb n with
  | returns c _ hroom hgrown htop h => exact ⟨c, hroom, hgrown, htop, h⟩
  | throws hlt _ _ => exact absurd hle (Nat.not_le.2 hlt)
  | diverges hlt _ _ => exact absurd hle (Nat.not_le.2 hlt)

theorem le_top_of_ensureSpace (h : b.ensureSpace n = .ok b') :
    sizeAdd b.currentOffset n ≤ topCapacity b.capacity := by
  cases ensureSpace_spec hb n with
  | returns c hle _ _ _ _ => exact hle
  | throws _ _ hs => cases hs.symm.trans h
  | diverges _ _ hs => cases hs.symm.trans h

/-- A request above the top, but not above its double, is refused. -/
theorem ensureSpace_above_top (hlt : topCapacity b.capacity < sizeAdd b.currentOffset n)
    (htwice : sizeAdd b.currentOffset n ≤ topCapacity b.capacity * 2) : b.ensureSpace n = .error limitExceeded := by
  cases ensureSpace_spec hb n with
  | returns c hle _ _ _ _ => exact absurd hle (Nat.not_le.2 hlt)
  | throws _ _ h => exact h
  | diverges _ hnever _ =>
    obtain ⟨k, hk⟩ := exists_doubling hb htwice
    exact absurd hk (Nat.not_le.2 (hnever k))

end Request

/-! ## Writes that return -/

/-- The largest capacity that doubling reaches from the default one below the limit: 64 MiB. -/
def reachableCapacity : Nat := defaultCapacity * 2 ^ 13

/-- The capacity is the default one, doubled so many times that it stays below the limit. -/
def Doubled (b : SerializationBuffer) : Prop := ∃ k ≤ 13, b.capacity = defaultCapacity * 2 ^ k

theorem Doubled.new : (SerializationBuffer.new defaultCapacity).Doubled := ⟨0, by decide, rfl⟩

theorem Doubled.capacity_le {b : SerializationBuffer} (hd : b.Doubled) : b.capacity ≤ reachableCapacity := by
  obtain ⟨k, hk, hc⟩ := hd
  rw [hc]
  exact Nat.mul_le_mul_left _ (Nat.pow_le_pow_right (by decide) hk)

theorem Doubled.topCapacity_eq {b : SerializationBuffer} (hd : b.Doubled) :
    topCapacity b.capacity = reachableCapacity := by
  obtain ⟨k, hk, hc⟩ := hd
  rw [hc]
  exact @topCapacity_doubled defaultCapacity k hk

/-- Growth doubles the capacity up to the top, and so at most thirteen times in all. -/
theorem Doubled.grown {b : SerializationBuffer} (hd : b.Doubled) {c : Nat} (htop : c ≤ reachableCapacity)
    (hgrown : c = b.capacity ∨ ∃ k, c = startCapacity b.capacity * 2 ^ k) : Doubled { b with capacity := c } := by
  rcases hgrown with rfl | ⟨j, rfl⟩
  · exact hd
  · obtain ⟨k, -, hc⟩ := hd
    have hpos : 0 < b.capacity := by
      rw [hc]
      exact Nat.mul_pos (by decide) (Nat.two_pow_pos k)
    have hform : startCapacity b.capacity * 2 ^ j = defaultCapacity * 2 ^ (k + j) := by
      rw [startCapacity_of_pos hpos, hc, Nat.mul_assoc, ← Nat.pow_add]
    refine ⟨k + j, ?_, hform⟩
    rw [hform] at htop
    exact (Nat.pow_le_pow_iff_right Nat.one_lt_two).1 (Nat.le_of_mul_le_mul_left htop (by decide))

theorem ensureSpace_returns {b : SerializationBuffer} {n : Nat} (hd : b.Doubled)
    (hn : b.currentOffset + n ≤ reachableCapacity) :
    ∃ b', b.ensureSpace n = .ok b' ∧ b'.Doubled ∧ b.currentOffset + n ≤ b'.capacity ∧
      b'.currentOffset = b.currentOffset := by
  have hlt : reachableCapacity < 2 ^ 63 := by decide
  have hsum : sizeAdd b.currentOffset n = b.currentOffset + n := sizeAdd_of_lt (by omega)
  rw [← hsum, ← hd.topCapacity_eq] at hn
  obtain ⟨c, hroom, hgrown, htop, h⟩ := ensureSpace_below_top (hd.capacity_le.trans_lt hlt) hn
  have hc := le_topCapacity c
  rw [htop, hd.topCapacity_eq] at hc
  rw [hsum] at hroom
  exact ⟨_, h, hd.grown hc hgrown, hroom, rfl⟩

theorem growAndStore_doubled {b : SerializationBuffer} {data : List UInt8} (hd : b.Doubled)
    (hn : b.currentOffset + data.length ≤ b.capacity) : (b.growAndStore data).Doubled := by
  have hle := hd.capacity_le
  have hlt : reachableCapacity < 2 ^ 64 := by decide
  obtain ⟨k, hk, hc⟩ := hd
  exact ⟨k, hk, (growAndStore_capacity (by omega) hn).trans hc⟩

theorem writeByte_returns {b : SerializationBuffer} {v : UInt8} (hd : b.Doubled)
    (hn : b.currentOffset + 1 ≤ reachableCapacity) : ∃ b', b.writeByte v = .ok b' ∧ b'.Doubled := by
  obtain ⟨b₁, h₁, hd₁, hle, ho⟩ := ensureSpace_returns hd hn
  refine ⟨b₁.growAndStore [v], ?_, growAndStore_doubled hd₁ (by rw [ho]; exact hle)⟩
  rw [writeByte_eq, h₁]
  rfl

theorem writeBytes_returns {b : SerializationBuffer} {data : List UInt8} (hd : b.Doubled)
    (hn : b.currentOffset + data.length ≤ reachableCapacity) : ∃ b', b.writeBytes data = .ok b' ∧ b'.Doubled := by
  rw [writeBytes_eq]
  split
  · exact ⟨b, rfl, hd⟩
  · obtain ⟨b₁, h₁, hd₁, hle, ho⟩ := ensureSpace_returns hd hn
    refine ⟨b₁.growAndStore data, ?_, growAndStore_doubled hd₁ (by rw [ho]; exact hle)⟩
    rw [h₁]
    rfl

theorem writePadded_returns {b : SerializationBuffer} {data : List UInt8} (hb : b.Valid) (hd : b.Doubled)
    (hn : b.currentOffset + (data.length + (padding data.length).length) ≤ reachableCapacity) :
    ∃ b', b.writePadded data = .ok b' ∧ b'.Doubled := by
  have hlt : reachableCapacity < 2 ^ 64 := by decide
  obtain ⟨b₁, h₁, hd₁⟩ := @writeBytes_returns b data hd (by omega)
  have ho := (writeBytes_appends hb (by omega) h₁).offset_eq
  rw [writePadded_eq, h₁, Except.ok_bind]
  split
  · obtain ⟨b₂, h₂, hd₂, hle, ho₂⟩ := @ensureSpace_returns b₁ (padding data.length).length hd₁ (by omega)
    refine ⟨b₂.growAndStore (padding data.length), ?_, growAndStore_doubled hd₂ (by rw [ho₂]; exact hle)⟩
    rw [padding, List.length_replicate] at h₂
    rw [h₂]
    rfl
  · exact ⟨b₁, rfl, hd₁⟩

end Kmip.SerializationBuffer
