import Mathlib.Tactic

/-!
# Big-endian bytes

* `digits k n` are the last `k` base-256 digits of `n`, most significant first, and `value l` is the number that the
  digits `l` spell. They are inverse to each other (`value_digits`, `digits_value`).
* The words a program assembles with shifts and `|||`, and the bytes it cuts out of a word with shifts and `&&&`, are
  these digits (`toNat_or24`, `toNat_or32`, `toNat_or64`, `toUInt8_shiftRight32`, ...).
-/

namespace BigEndian

/-- The last `k` base-256 digits of `n`, most significant first. -/
def digits : Nat → Nat → List UInt8
  | 0, _ => []
  | k + 1, n => UInt8.ofNat (n / 256 ^ k) :: digits k n

/-- The number whose base-256 digits are `l`, most significant first. -/
def value : List UInt8 → Nat
  | [] => 0
  | b :: l => b.toNat * 256 ^ l.length + value l

@[simp] theorem length_digits : ∀ k n, (digits k n).length = k
  | 0, _ => rfl
  | k + 1, n => by rw [digits, List.length_cons, length_digits k n]

theorem value_lt : ∀ l, value l < 256 ^ l.length
  | [] => by simp [value]
  | b :: l => by
    have hb := b.toNat_lt
    have hl := value_lt l
    rw [value, List.length_cons, Nat.pow_succ]
    nlinarith

/-- Reading back the digits of `n` gives `n` up to its high part. -/
theorem value_digits : ∀ k n, value (digits k n) = n % 256 ^ k
  | 0, n => by simp [digits, value, Nat.mod_one]
  | k + 1, n => by
    rw [digits, value, length_digits, value_digits k n, Nat.mod_pow_succ]
    simp [Nat.mul_comm, Nat.add_comm]

theorem value_digits_of_lt {k n : Nat} (h : n < 256 ^ k) : value (digits k n) = n := by
  rw [value_digits, Nat.mod_eq_of_lt h]

/-- Numbers of `k` digits are told apart by them. -/
theorem digits_inj {k m n : Nat} (hm : m < 256 ^ k) (hn : n < 256 ^ k) (h : digits k m = digits k n) : m = n := by
  rw [← value_digits_of_lt hm, h, value_digits_of_lt hn]

/-- Digits do not see what lies above them. -/
theorem digits_mul_add (k c n : Nat) : digits k (c * 256 ^ k + n) = digits k n := by
  induction k generalizing c with
  | zero => rfl
  | succ k ih =>
    rw [digits, digits]
    congr 1
    · apply UInt8.toNat.inj
      have : c * 256 ^ (k + 1) + n = n + 256 ^ k * (c * 256) := by ring
      rw [this]
      simp [Nat.add_mul_div_left _ _ (show 0 < 256 ^ k by positivity)]
    · have : c * 256 ^ (k + 1) + n = (c * 256) * 256 ^ k + n := by ring
      rw [this, ih]

/-- Writing the digits of what was read gives the bytes back. -/
theorem digits_value : ∀ l, digits l.length (value l) = l
  | [] => rfl
  | b :: l => by
    have hl := value_lt l
    rw [List.length_cons, digits, value, digits_mul_add, digits_value l]
    congr 1
    rw [Nat.add_comm, Nat.add_mul_div_right _ _ (by positivity), Nat.div_eq_of_lt hl]
    simp

/-- The digits of the high part and of the low part. -/
theorem digits_add (j k n : Nat) : digits (j + k) n = digits j (n / 256 ^ k) ++ digits k n := by
  induction j with
  | zero => simp [digits]
  | succ j ih =>
    rw [show j + 1 + k = (j + k) + 1 by omega, digits, digits, ih, List.cons_append, Nat.div_div_eq_div_mul,
      ← Nat.pow_add, Nat.add_comm k j]

/-! ## Words assembled from bytes -/

/-- One more digit below the bits collected so far. -/
theorem or_digit {x b : Nat} (i : Nat) (hb : b < 256) : (x * 2 ^ (i + 8)) ||| (b * 2 ^ i) = (x * 256 + b) * 2 ^ i := by
  have h : b * 2 ^ i < 2 ^ (i + 8) := by
    rw [Nat.pow_add, Nat.mul_comm]
    exact Nat.mul_lt_mul_of_pos_left hb (Nat.two_pow_pos i)
  rw [Nat.mul_comm x, ← Nat.two_pow_add_eq_or_of_lt h]
  ring

/-- The last digit, at position zero. -/
theorem or_last {x b : Nat} (hb : b < 256) : (x * 2 ^ 8) ||| b = x * 256 + b := by
  simpa using or_digit (x := x) 0 hb

/-- A byte moved up inside a 32-bit word. -/
theorem toNat_shiftLeft32 (b : UInt8) {k : UInt32} (hk : k.toNat ≤ 24) :
    (b.toUInt32 <<< k).toNat = b.toNat * 2 ^ k.toNat := by
  have hb := b.toNat_lt
  have hlt : b.toNat * 2 ^ k.toNat < 2 ^ 32 :=
    calc b.toNat * 2 ^ k.toNat ≤ b.toNat * 2 ^ 24 := Nat.mul_le_mul_left _ (Nat.pow_le_pow_right (by omega) hk)
      _ < 2 ^ 32 := by omega
  rw [UInt32.toNat_shiftLeft, UInt8.toNat_toUInt32, Nat.shiftLeft_eq, Nat.mod_eq_of_lt (show k.toNat < 32 by omega),
    Nat.mod_eq_of_lt hlt]

/-- A byte moved up inside a 64-bit word. -/
theorem toNat_shiftLeft64 (b : UInt8) {k : UInt64} (hk : k.toNat ≤ 56) :
    (b.toUInt64 <<< k).toNat = b.toNat * 2 ^ k.toNat := by
  have hb := b.toNat_lt
  have hlt : b.toNat * 2 ^ k.toNat < 2 ^ 64 :=
    calc b.toNat * 2 ^ k.toNat ≤ b.toNat * 2 ^ 56 := Nat.mul_le_mul_left _ (Nat.pow_le_pow_right (by omega) hk)
      _ < 2 ^ 64 := by omega
  rw [UInt64.toNat_shiftLeft, UInt8.toNat_toUInt64, Nat.shiftLeft_eq, Nat.mod_eq_of_lt (show k.toNat < 64 by omega),
    Nat.mod_eq_of_lt hlt]

/-- Three bytes in a 32-bit word. -/
theorem toNat_or24 (a b c : UInt8) :
    ((a.toUInt32 <<< 16) ||| (b.toUInt32 <<< 8) ||| c.toUInt32).toNat = value [a, b, c] := by
  rw [UInt32.toNat_or, UInt32.toNat_or, toNat_shiftLeft32 a (by decide), toNat_shiftLeft32 b (by decide),
    UInt8.toNat_toUInt32]
  simp only [UInt32.reduceToNat]
  rw [or_digit 8 b.toNat_lt, or_last c.toNat_lt]
  simp only [value, List.length_cons, List.length_nil]
  ring

/-- Four bytes in a 32-bit word. -/
theorem toNat_or32 (a b c d : UInt8) :
    ((a.toUInt32 <<< 24) ||| (b.toUInt32 <<< 16) ||| (c.toUInt32 <<< 8) ||| d.toUInt32).toNat = value [a, b, c, d] := by
  rw [UInt32.toNat_or, UInt32.toNat_or, UInt32.toNat_or, toNat_shiftLeft32 a (by decide),
    toNat_shiftLeft32 b (by decide), toNat_shiftLeft32 c (by decide), UInt8.toNat_toUInt32]
  simp only [UInt32.reduceToNat]
  rw [or_digit 16 b.toNat_lt, or_digit 8 c.toNat_lt, or_last d.toNat_lt]
  simp only [value, List.length_cons, List.length_nil]
  ring

/-- Eight bytes in a 64-bit word. -/
theorem toNat_or64 (a b c d e f g h : UInt8) :
    ((a.toUInt64 <<< 56) ||| (b.toUInt64 <<< 48) ||| (c.toUInt64 <<< 40) ||| (d.toUInt64 <<< 32) |||
      (e.toUInt64 <<< 24) ||| (f.toUInt64 <<< 16) ||| (g.toUInt64 <<< 8) ||| h.toUInt64).toNat =
      value [a, b, c, d, e, f, g, h] := by
  simp only [UInt64.toNat_or]
  rw [toNat_shiftLeft64 a (by decide), toNat_shiftLeft64 b (by decide), toNat_shiftLeft64 c (by decide),
    toNat_shiftLeft64 d (by decide), toNat_shiftLeft64 e (by decide), toNat_shiftLeft64 f (by decide),
    toNat_shiftLeft64 g (by decide), UInt8.toNat_toUInt64]
  simp only [UInt64.reduceToNat]
  rw [or_digit 48 b.toNat_lt, or_digit 40 c.toNat_lt, or_digit 32 d.toNat_lt, or_digit 24 e.toNat_lt,
    or_digit 16 f.toNat_lt, or_digit 8 g.toNat_lt, or_last h.toNat_lt]
  simp only [value, List.length_cons, List.length_nil]
  ring

/-- A word collected byte by byte, as long as it does not overflow. -/
theorem toNat_foldl32 : ∀ (l : List UInt8) (w : UInt32), w.toNat * 256 ^ l.length + value l < 2 ^ 32 →
    (l.foldl (fun (w : UInt32) b => (w <<< 8) ||| b.toUInt32) w).toNat = w.toNat * 256 ^ l.length + value l
  | [], w, _ => by simp [value]
  | b :: l, w, h => by
    have hb := b.toNat_lt
    have hpos : 0 < 256 ^ l.length := by positivity
    rw [value, List.length_cons, Nat.pow_succ'] at h ⊢
    have hw : w.toNat * 256 < 2 ^ 32 := by nlinarith
    have hstep : ((w <<< 8) ||| b.toUInt32).toNat = w.toNat * 256 + b.toNat := by
      rw [UInt32.toNat_or, UInt32.toNat_shiftLeft, UInt8.toNat_toUInt32, Nat.shiftLeft_eq]
      simp only [UInt32.reduceToNat, Nat.reduceMod]
      rw [Nat.mod_eq_of_lt (by omega), or_last hb]
    rw [List.foldl_cons, toNat_foldl32 l _ (by rw [hstep]; nlinarith), hstep]
    ring

/-! ## Bytes cut out of words -/

/-- A mask of one byte keeps that digit in its place. -/
theorem and_mask (n k : Nat) : n &&& (255 * 2 ^ k) = n / 2 ^ k % 256 * 2 ^ k := by
  have hm : (255 : Nat) = 2 ^ 8 - 1 := rfl
  rw [← Nat.shiftLeft_eq, ← Nat.shiftLeft_eq, ← Nat.shiftRight_eq_div_pow, show (256 : Nat) = 2 ^ 8 from rfl,
    ← Nat.and_two_pow_sub_one_eq_mod, ← hm]
  apply Nat.eq_of_testBit_eq
  intro i
  simp only [Nat.testBit_and, Nat.testBit_shiftLeft, Nat.testBit_shiftRight]
  by_cases h : k ≤ i
  · simp [h, Nat.add_sub_cancel' h]
  · simp [h]

/-- The low byte of a shifted 32-bit word. -/
theorem toUInt8_shiftRight32 (v : UInt32) {k : UInt32} (hk : k.toNat < 32) :
    (v >>> k).toUInt8 = UInt8.ofNat (v.toNat / 2 ^ k.toNat) := by
  apply UInt8.toNat.inj
  rw [UInt32.toNat_toUInt8, UInt32.toNat_shiftRight, Nat.mod_eq_of_lt hk, Nat.shiftRight_eq_div_pow]
  simp

/-- Masking with `0xFF` before the narrowing changes nothing. -/
theorem toUInt8_and_mask (v : UInt32) : (v &&& 0xFF).toUInt8 = v.toUInt8 := by
  apply UInt8.toNat.inj
  have hm : (255 : Nat) = 2 ^ 8 - 1 := rfl
  simp only [UInt32.toNat_toUInt8, UInt32.toNat_and, UInt32.reduceToNat]
  rw [hm, Nat.and_two_pow_sub_one_eq_mod]
  simp

end BigEndian
