import Mathlib.Data.Nat.Digits.Defs
import Mathlib.Tactic

/-!
# Digits of one number in two bases

`value b l` is the number that the digits `l` spell in base `b`, most significant first. `Repacks w v a b u rest` says
that the digits `a` of `w` bits are the digits `b` of `v` bits, followed by `u` more bits that spell `rest`. A program
that collects bits and cuts them off in other portions keeps such a relation (`push`, `emit`), and either list
determines the other (`source_unique`, `target_unique`).
-/

namespace Radix

/-- The number with the digits `l` in base `b`, most significant first. -/
def value (b : Nat) (l : List Nat) : Nat := Nat.ofDigits b l.reverse

theorem value_nil (b : Nat) : value b [] = 0 := rfl

theorem value_append (b : Nat) (l m : List Nat) : value b (l ++ m) = value b l * b ^ m.length + value b m := by
  rw [value, List.reverse_append, Nat.ofDigits_append, List.length_reverse]
  unfold value
  ring

theorem value_concat (b : Nat) (l : List Nat) (x : Nat) : value b (l ++ [x]) = value b l * b + x := by
  rw [value_append]
  simp [value]

theorem value_cons (b x : Nat) (l : List Nat) : value b (x :: l) = x * b ^ l.length + value b l := by
  rw [← List.singleton_append, value_append]
  simp [value]

/-- Digits are unique. -/
theorem value_inj {b : Nat} (hb : 1 < b) {l m : List Nat} (hlen : l.length = m.length) (hl : ∀ x ∈ l, x < b)
    (hm : ∀ x ∈ m, x < b) (h : value b l = value b m) : l = m := by
  apply List.reverse_injective
  apply Nat.ofDigits_inj_of_len_eq hb
  · simpa using hlen
  · simpa using hl
  · simpa using hm
  · exact h

/-- The digits `a` of `w` bits are the digits `b` of `v` bits and `u` bits that spell `rest`. -/
structure Repacks (w v : Nat) (a b : List Nat) (u rest : Nat) : Prop where
  source_lt : ∀ x ∈ a, x < 2 ^ w
  target_lt : ∀ y ∈ b, y < 2 ^ v
  rest_lt : rest < 2 ^ u
  length : a.length * w = b.length * v + u
  value : value (2 ^ w) a = value (2 ^ v) b * 2 ^ u + rest

namespace Repacks

variable {w v : Nat} {a a' b b' : List Nat} {u rest : Nat}

theorem nil (w v : Nat) : Repacks w v [] [] 0 0 :=
  ⟨by simp, by simp, by simp, by simp, by simp [value_nil]⟩

/-- One more digit on the left: its bits are left over. -/
theorem push (h : Repacks w v a b u rest) {x : Nat} (hx : x < 2 ^ w) :
    Repacks w v (a ++ [x]) b (u + w) (rest * 2 ^ w + x) where
  source_lt := by
    rw [List.forall_mem_append, List.forall_mem_singleton]
    exact ⟨h.source_lt, hx⟩
  target_lt := h.target_lt
  rest_lt := by
    have hrest : rest + 1 ≤ 2 ^ u := h.rest_lt
    calc rest * 2 ^ w + x < (rest + 1) * 2 ^ w := by linarith
      _ ≤ 2 ^ u * 2 ^ w := Nat.mul_le_mul_right _ hrest
      _ = 2 ^ (u + w) := (Nat.pow_add 2 u w).symm
  length := by
    have := h.length
    rw [List.length_append, List.length_singleton, Nat.add_mul]
    omega
  value := by
    rw [value_concat, h.value, Nat.pow_add]
    ring

/-- The first `v` of the bits that are left over become a digit on the right. -/
theorem emit (h : Repacks w v a b u rest) (hu : v ≤ u) :
    Repacks w v a (b ++ [rest / 2 ^ (u - v)]) (u - v) (rest % 2 ^ (u - v)) where
  source_lt := h.source_lt
  target_lt := by
    rw [List.forall_mem_append, List.forall_mem_singleton]
    refine ⟨h.target_lt, ?_⟩
    rw [Nat.div_lt_iff_lt_mul (Nat.two_pow_pos _), ← Nat.pow_add, Nat.add_sub_cancel' hu]
    exact h.rest_lt
  rest_lt := Nat.mod_lt _ (Nat.two_pow_pos _)
  length := by
    have := h.length
    rw [List.length_append, List.length_singleton, Nat.add_mul]
    omega
  value := by
    have hsplit : 2 ^ u = 2 ^ v * 2 ^ (u - v) := by rw [← Nat.pow_add, Nat.add_sub_cancel' hu]
    have hrest := Nat.div_add_mod rest (2 ^ (u - v))
    rw [value_concat, h.value, hsplit]
    nth_rewrite 1 [← hrest]
    ring

/-- Two lists put together, when the first one leaves nothing over. -/
theorem append (h : Repacks w v a b 0 0) (h' : Repacks w v a' b' u rest) :
    Repacks w v (a ++ a') (b ++ b') u rest where
  source_lt := List.forall_mem_append.2 ⟨h.source_lt, h'.source_lt⟩
  target_lt := List.forall_mem_append.2 ⟨h.target_lt, h'.target_lt⟩
  rest_lt := h'.rest_lt
  length := by
    have := h.length
    have := h'.length
    simp only [List.length_append, Nat.add_mul]
    omega
  value := by
    have hpow : (2 ^ w) ^ a'.length = (2 ^ v) ^ b'.length * 2 ^ u := by
      rw [← Nat.pow_mul, ← Nat.pow_mul, ← Nat.pow_add, Nat.mul_comm w, Nat.mul_comm v, h'.length]
    rw [value_append, value_append, h.value, h'.value, hpow]
    ring

/-- The right side and the bits that are left over determine the left side. -/
theorem source_unique (hw : 0 < w) (h : Repacks w v a b u rest) (h' : Repacks w v a' b u rest) : a = a' := by
  have hlen : a.length * w = a'.length * w := h.length.trans h'.length.symm
  exact value_inj (Nat.one_lt_two_pow hw.ne') (Nat.eq_of_mul_eq_mul_right hw hlen) h.source_lt h'.source_lt
    (h.value.trans h'.value.symm)

/-- The left side determines the right side and the bits that are left over. -/
theorem target_unique (hv : 0 < v) {rest' : Nat} (h : Repacks w v a b u rest) (h' : Repacks w v a b' u rest') :
    b = b' ∧ rest = rest' := by
  have hlen : b.length * v = b'.length * v := by
    have := h.length
    have := h'.length
    omega
  have heq := h.value.symm.trans h'.value
  have hmod : rest = rest' := by
    have := congrArg (· % 2 ^ u) heq
    simpa only [Nat.mul_add_mod', Nat.mod_eq_of_lt h.rest_lt, Nat.mod_eq_of_lt h'.rest_lt] using this
  subst hmod
  have hval : Radix.value (2 ^ v) b = Radix.value (2 ^ v) b' :=
    Nat.eq_of_mul_eq_mul_right (Nat.two_pow_pos u) (Nat.add_right_cancel heq)
  exact ⟨value_inj (Nat.one_lt_two_pow hv.ne') (Nat.eq_of_mul_eq_mul_right hv hlen) h.target_lt h'.target_lt hval, rfl⟩

end Repacks

/-! ## A signed 32-bit accumulator

Bits are shifted in from below; the word wraps around, which its low bits do not see. -/

private theorem toNat_shiftAmount {k : Nat} (hk : k < 32) : ((Int32.ofInt k).toBitVec.smod 32).toNat = k := by
  revert k
  decide

theorem toNat_shiftLeft (v : Int32) {k : Nat} (hk : k < 32) :
    (v <<< Int32.ofInt k).toUInt32.toNat = v.toUInt32.toNat * 2 ^ k % 2 ^ 32 := by
  show (v <<< Int32.ofInt k).toBitVec.toNat = v.toBitVec.toNat * 2 ^ k % 2 ^ 32
  rw [Int32.toBitVec_shiftLeft, BitVec.shiftLeft_eq', toNat_shiftAmount hk, BitVec.toNat_shiftLeft, Nat.shiftLeft_eq]

/-- The low bits after `w` bits were shifted in. -/
theorem toNat_shiftIn (v x : Int32) {w u : Nat} (hw : w < 32) (hu : u + w ≤ 32) (hx : x.toUInt32.toNat < 2 ^ w) :
    ((v <<< Int32.ofInt w) + x).toUInt32.toNat % 2 ^ (u + w) =
      v.toUInt32.toNat % 2 ^ u * 2 ^ w + x.toUInt32.toNat := by
  have hdvd : 2 ^ (u + w) ∣ 2 ^ 32 := Nat.pow_dvd_pow 2 hu
  have hlt : v.toUInt32.toNat % 2 ^ u * 2 ^ w + x.toUInt32.toNat < 2 ^ (u + w) := by
    have hmod : v.toUInt32.toNat % 2 ^ u + 1 ≤ 2 ^ u := Nat.mod_lt _ (Nat.two_pow_pos u)
    have := Nat.mul_le_mul_right (2 ^ w) hmod
    rw [Nat.pow_add]
    linarith
  rw [Int32.toUInt32_add, UInt32.toNat_add, toNat_shiftLeft v hw, Nat.mod_add_mod, Nat.mod_mod_of_dvd _ hdvd]
  have hsplit : v.toUInt32.toNat * 2 ^ w + x.toUInt32.toNat =
      2 ^ (u + w) * (v.toUInt32.toNat / 2 ^ u) + (v.toUInt32.toNat % 2 ^ u * 2 ^ w + x.toUInt32.toNat) := by
    nth_rewrite 1 [← Nat.div_add_mod v.toUInt32.toNat (2 ^ u)]
    rw [Nat.pow_add]
    ring
  rw [hsplit, Nat.mul_add_mod, Nat.mod_eq_of_lt hlt]

/-- A byte cut out of the word: the shift is arithmetic, the byte lies below the sign. -/
theorem toUInt8_shiftRight (v : Int32) {k : Nat} (hk : k ≤ 24) :
    ((v >>> Int32.ofInt k) &&& 0xFF).toUInt32.toUInt8 = UInt8.ofNat (v.toUInt32.toNat / 2 ^ k) := by
  apply UInt8.toBitVec_inj.1
  apply BitVec.eq_of_getLsbD_eq
  intro i hi
  have hmask : (0xFF : Int32).toBitVec.getLsbD i = true := by
    revert i
    decide
  have hright : (UInt8.ofNat (v.toUInt32.toNat / 2 ^ k)).toBitVec.getLsbD i = v.toBitVec.getLsbD (k + i) := by
    show (BitVec.ofNat 8 (v.toBitVec.toNat / 2 ^ k)).getLsbD i = _
    rw [BitVec.getLsbD_ofNat, Nat.testBit_div_two_pow, decide_eq_true hi, Bool.true_and, Nat.add_comm]
    rfl
  rw [hright]
  show (BitVec.setWidth 8 ((v >>> Int32.ofInt k) &&& 0xFF).toBitVec).getLsbD i = _
  rw [BitVec.getLsbD_setWidth, Int32.toBitVec_and, BitVec.getLsbD_and, hmask, Int32.toBitVec_shiftRight,
    BitVec.sshiftRight_eq', toNat_shiftAmount (by omega), BitVec.getLsbD_sshiftRight,
    if_pos (show k + i < 32 by omega)]
  simp [hi, show i < 32 by omega]

/-- The low bits, cut out with a mask. -/
theorem toNat_and_mask (v : Int32) {k : Nat} (hk : k < 31) :
    (v &&& ((1 <<< Int32.ofInt k) - 1)).toUInt32.toNat = v.toUInt32.toNat % 2 ^ k := by
  have hmask : ((1 <<< Int32.ofInt k) - 1 : Int32).toUInt32.toNat = 2 ^ k - 1 := by
    revert k
    decide
  rw [Int32.toUInt32_and, UInt32.toNat_and, hmask, Nat.and_two_pow_sub_one_eq_mod]

end Radix
