import Kmip.Util.Encoding

/-!
# Base64 is a canonical codec

A text without whitespace that the decoder accepts is a list of characters of the alphabet, followed by padding. The
decoder has then repacked the places of the characters (6 bits each) as bytes, and `Base64Decoder.Reads` is the loop
invariant that says so: its 32-bit accumulator wraps around, but only the bits that are not yet put out are read again.
The encoder repacks the same way (`exists_encodes`), and repacked digits are unique.
-/

namespace Kmip.Util

open Radix

/-- A text without its blanks, tabs and line breaks. -/
def stripped (text : List UInt8) : List UInt8 := text.filter (fun c => !isBase64Whitespace c)

/-- The character at a place of the alphabet. -/
def base64Symbol (i : Nat) : UInt8 := kBase64Alphabet.getD i 0

/-- Characters of the alphabet by their places, then padding. -/
def base64Text (places : List Nat) (padding : Nat) : List UInt8 :=
  places.map base64Symbol ++ List.replicate padding base64Pad

/-! ## The alphabet -/

theorem base64Symbol_spec {i : Nat} (hi : i < 64) :
    isBase64Whitespace (base64Symbol i) = false ∧ base64Symbol i ≠ base64Pad ∧
      base64Lookup (base64Symbol i) = Int32.ofNat i := by
  have h : ∀ i < 64, isBase64Whitespace (base64Symbol i) = false ∧ base64Symbol i ≠ base64Pad ∧
      base64Lookup (base64Symbol i) = Int32.ofNat i := by
    decide +kernel
  exact h i hi

theorem ofNat_place {i : Nat} (hi : i < 64) : (Int32.ofNat i).toUInt32.toNat = i ∧ Int32.ofNat i ≠ -1 := by
  have h : ∀ i < 64, (Int32.ofNat i).toUInt32.toNat = i ∧ Int32.ofNat i ≠ -1 := by
    decide
  exact h i hi

theorem length_kBase64Alphabet : kBase64Alphabet.length = 64 := by decide +kernel

theorem base64Symbol_mem {i : Nat} (hi : i < 64) : base64Symbol i ∈ kBase64Alphabet := by
  rw [← length_kBase64Alphabet] at hi
  rw [base64Symbol, List.getD_eq_getElem?_getD, List.getElem?_eq_getElem hi]
  exact List.getElem_mem hi

theorem exists_place {c : UInt8} (h : base64Lookup c ≠ -1) : ∃ i < 64, c = base64Symbol i := by
  have hmem : c ∈ kBase64Alphabet := by
    by_contra hnot
    apply h
    rw [base64Lookup, List.idxOf?_eq_none_iff.2 hnot]
  obtain ⟨i, hi, hc⟩ := List.getElem_of_mem hmem
  refine ⟨i, length_kBase64Alphabet ▸ hi, ?_⟩
  simp [base64Symbol, hi, hc]

/-! ## The decoder -/

namespace Base64Decoder

/-- The loop has read the places `xs` and has `u` bits that are not put out. -/
structure Reads (s : Base64Decoder) (xs : List Nat) (u : Nat) : Prop where
  repacks : Repacks 6 8 xs (s.out.map UInt8.toNat) u (s.val.toUInt32.toNat % 2 ^ u)
  valB : s.valB = u - 8
  lt : u < 8
  symbols : s.symbols = xs.length + s.padding

theorem reads_start : Reads {} [] 0 := ⟨Repacks.nil 6 8, rfl, by omega, rfl⟩

theorem Reads.even {s : Base64Decoder} {xs : List Nat} {u : Nat} (h : s.Reads xs u) : u % 2 = 0 := by
  have := h.repacks.length
  omega

/-- One character of the alphabet. -/
theorem Reads.read_symbol {s : Base64Decoder} {xs : List Nat} {u i : Nat} (h : s.Reads xs u) (hi : i < 64)
    (hp : s.padding = 0) :
    ∃ s' u', s.read (base64Symbol i) = .ok s' ∧ s'.Reads (xs ++ [i]) u' ∧ s'.padding = 0 := by
  obtain ⟨hspace, hpad, hlook⟩ := base64Symbol_spec hi
  obtain ⟨hplace, hvalid⟩ := ofNat_place hi
  have hlt := h.lt
  have heven := h.even
  have hval : ((s.val <<< 6) + Int32.ofNat i).toUInt32.toNat % 2 ^ (u + 6) =
      s.val.toUInt32.toNat % 2 ^ u * 2 ^ 6 + i := by
    have := toNat_shiftIn s.val (Int32.ofNat i) (w := 6) (u := u) (by omega) (by omega) (by omega)
    rw [hplace] at this
    exact this
  have hpush := h.repacks.push (x := i) hi
  rw [← hval] at hpush
  unfold read
  rw [if_neg (by simp [hspace]), if_neg hpad, hlook, if_neg hvalid, if_neg (by omega)]
  dsimp only
  by_cases hu : 2 ≤ u
  · -- eight bits are there: the first of them are put out
    have hvalB : s.valB + 6 = ((u - 2 : Nat) : Int) := by
      rw [h.valB]
      omega
    have hpow : 2 ^ (u + 6) = 2 ^ (u - 2) * 2 ^ 8 := by
      rw [← Nat.pow_add]
      congr 1
      omega
    have hemit := hpush.emit (by omega : 8 ≤ u + 6)
    rw [show u + 6 - 8 = u - 2 by omega, Nat.mod_mod_of_dvd _ ⟨_, hpow⟩, hpow, Nat.mod_mul_right_div_self] at hemit
    rw [if_pos (by omega), hvalB, toUInt8_shiftRight _ (by omega)]
    refine ⟨_, u - 2, rfl, ⟨?_, ?_, by omega, ?_⟩, hp⟩
    · simpa using hemit
    · show ((u - 2 : Nat) : Int) - 8 = _
      rfl
    · simp [h.symbols, hp]
  · rw [if_neg (by rw [h.valB]; omega)]
    refine ⟨_, u + 6, rfl, ⟨hpush, ?_, by omega, ?_⟩, hp⟩
    · show s.valB + 6 = _
      rw [h.valB]
      push_cast
      ring
    · simp [h.symbols, hp]

theorem read_pad (s : Base64Decoder) :
    s.read base64Pad = .ok { s with symbols := s.symbols + 1, padding := s.padding + 1 } := rfl

/-- The loop over characters of the alphabet. -/
theorem Reads.loop_symbols {s : Base64Decoder} {xs : List Nat} {u : Nat} (h : s.Reads xs u) (hp : s.padding = 0)
    (ys : List Nat) (hys : ∀ y ∈ ys, y < 64) :
    ∃ s' u', (ys.map base64Symbol).foldlM read s = .ok s' ∧ s'.Reads (xs ++ ys) u' ∧ s'.padding = 0 := by
  induction ys generalizing s xs u with
  | nil => exact ⟨s, u, rfl, by simpa using h, hp⟩
  | cons y ys ih =>
    rw [List.forall_mem_cons] at hys
    obtain ⟨s₁, u₁, hread, h₁, hp₁⟩ := h.read_symbol hys.1 hp
    obtain ⟨s', u', hloop, h', hp'⟩ := ih h₁ hp₁ hys.2
    refine ⟨s', u', ?_, by simpa using h', hp'⟩
    rw [List.map_cons, List.foldlM_cons, hread]
    exact hloop

/-- The loop over padding. -/
theorem loop_pads (s : Base64Decoder) (p : Nat) : (List.replicate p base64Pad).foldlM read s =
    .ok { s with symbols := s.symbols + p, padding := s.padding + p } := by
  induction p generalizing s with
  | zero => rfl
  | succ p ih =>
    rw [List.replicate_succ, List.foldlM_cons, read_pad, Except.ok_bind, ih]
    simp only [Nat.add_assoc, Nat.add_comm 1 p]

/-- The loop over a text of the alphabet with padding behind it. -/
theorem loop_base64Text {ys : List Nat} (hys : ∀ y ∈ ys, y < 64) (p : Nat) :
    ∃ s u, (base64Text ys p).foldlM read {} = .ok s ∧ s.Reads ys u ∧ s.padding = p := by
  obtain ⟨s, u, hloop, h, hp⟩ := reads_start.loop_symbols rfl ys hys
  refine ⟨{ s with symbols := s.symbols + p, padding := s.padding + p }, u, ?_, ⟨h.repacks, h.valB, h.lt, ?_⟩, ?_⟩
  · rw [base64Text, List.foldlM_append, hloop, Except.ok_bind, loop_pads]
  · simp [h.symbols, hp]
  · simp [hp]

/-- Whitespace does nothing. -/
theorem loop_stripped (s : Base64Decoder) (text : List UInt8) :
    (stripped text).foldlM read s = text.foldlM read s := by
  induction text generalizing s with
  | nil => rfl
  | cons c text ih =>
    cases hc : isBase64Whitespace c with
    | true =>
      have hread : s.read c = .ok s := if_pos hc
      rw [List.foldlM_cons, hread, Except.ok_bind, ← ih, stripped, List.filter_cons, hc]
      rfl
    | false =>
      rw [stripped, List.filter_cons, hc]
      simp only [Bool.not_false, if_true, List.foldlM_cons]
      congr 1
      funext s'
      exact ih s'

/-- A text without whitespace that is read to its end: nothing but padding comes after padding. -/
theorem text_of_loop {s s' : Base64Decoder} {text : List UInt8} (hspace : ∀ c ∈ text, isBase64Whitespace c = false)
    (h : text.foldlM read s = .ok s') :
    ∃ ys p, (∀ y ∈ ys, y < 64) ∧ text = base64Text ys p ∧ (0 < s.padding → ys = []) := by
  induction text generalizing s with
  | nil => exact ⟨[], 0, by simp, rfl, fun _ => rfl⟩
  | cons c text ih =>
    rw [List.forall_mem_cons] at hspace
    rw [List.foldlM_cons] at h
    obtain ⟨s₁, hread, hloop⟩ := Except.bind_eq_ok_iff.1 h
    obtain ⟨ys, p, hys, rfl, hpads⟩ := ih hspace.2 hloop
    by_cases hc : c = base64Pad
    · -- behind a padding character there is no other character
      subst hc
      rw [read_pad] at hread
      cases hread
      obtain rfl := hpads (Nat.succ_pos _)
      exact ⟨[], p + 1, by simp, rfl, fun _ => rfl⟩
    · simp only [read, hspace.1, Bool.false_eq_true, if_false, if_neg hc] at hread
      by_cases hlook : base64Lookup c = -1
      · rw [if_pos hlook] at hread
        cases hread
      · obtain ⟨i, hi, rfl⟩ := exists_place hlook
        by_cases hp : s.padding > 0
        · rw [if_neg hlook, if_pos hp] at hread
          cases hread
        · exact ⟨i :: ys, p, by simpa using ⟨hi, hys⟩, rfl, fun h => absurd h hp⟩

end Base64Decoder

/-- What `from_base64` returns for a text of the alphabet with padding behind it. -/
theorem fromBase64_base64Text {ys : List Nat} (hys : ∀ y ∈ ys, y < 64) (p : Nat) (bytes : List UInt8) :
    fromBase64 (base64Text ys p) = .ok bytes ↔
      (ys.length + p) % 4 = 0 ∧ p ≤ 2 ∧ ∃ u < 8, Repacks 6 8 ys (bytes.map UInt8.toNat) u 0 := by
  obtain ⟨s, u, hloop, h, hp⟩ := Base64Decoder.loop_base64Text hys p
  have hlt := h.lt
  have hbits : s.valB + 8 = (u : Int) := by
    rw [h.valB]
    ring
  -- the mask is for the bits that are not put out
  have hmask : (s.val &&& ((1 <<< Int32.ofInt (u : Int)) - 1)) = 0 ↔ s.val.toUInt32.toNat % 2 ^ u = 0 := by
    rw [← toNat_and_mask s.val (by omega : u < 31)]
    exact ⟨fun hz => by rw [hz]; rfl, fun hz => Int32.toBitVec_inj.1 (BitVec.eq_of_toNat_eq hz)⟩
  simp only [fromBase64, hloop, Except.ok_bind, h.symbols, hp, hbits]
  by_cases hlen : (ys.length + p) % 4 ≠ 0 ∨ p > 2
  · rw [if_pos hlen]
    constructor
    · intro h'
      cases h'
    · rintro ⟨hmod, hle, -⟩
      omega
  · rw [if_neg hlen]
    by_cases hrest : s.val.toUInt32.toNat % 2 ^ u = 0
    · rw [if_neg (fun hc => hc.2 (hmask.2 hrest))]
      have hrep := h.repacks
      rw [hrest] at hrep
      constructor
      · intro h'
        cases h'
        exact ⟨by omega, by omega, u, hlt, hrep⟩
      · rintro ⟨-, -, u', hu', hrep'⟩
        obtain rfl : u = u' := by
          have := hrep.length
          have := hrep'.length
          omega
        have := (hrep.target_unique (by omega) hrep').1
        rw [List.map_injective_iff.2 (fun _ _ => UInt8.toNat_inj.1) this]
    · have hpos : 0 < u := by
        rcases Nat.eq_zero_or_pos u with rfl | hpos
        · exact absurd (Nat.mod_one _) hrest
        · exact hpos
      rw [if_pos ⟨by omega, fun hc => hrest (hmask.1 hc)⟩]
      constructor
      · intro h'
        cases h'
      · rintro ⟨-, -, u', hu', hrep'⟩
        obtain rfl : u = u' := by
          have := h.repacks.length
          have := hrep'.length
          omega
        exact absurd (h.repacks.target_unique (by omega) hrep').2 hrest

/-! ## The encoder -/

theorem base64Char_eq (n : UInt32) {k : UInt32} (hk : k.toNat < 32) :
    base64Char n k = base64Symbol (n.toNat / 2 ^ k.toNat % 64) := by
  have hmask : (63 : Nat) = 2 ^ 6 - 1 := rfl
  rw [base64Char, UInt32.toNat_and, UInt32.toNat_shiftRight, Nat.mod_eq_of_lt hk, Nat.shiftRight_eq_div_pow,
    show (0x3F : UInt32).toNat = 63 from rfl, hmask, Nat.and_two_pow_sub_one_eq_mod]
  rfl

/-- The word that the encoder takes a group of characters from. -/
theorem toNat_word (b₀ b₁ b₂ : UInt8) : ((b₀.toUInt32 <<< 16) ||| (b₁.toUInt32 <<< 8) ||| b₂.toUInt32).toNat =
    b₀.toNat * 65536 + b₁.toNat * 256 + b₂.toNat := by
  rw [BigEndian.toNat_or24]
  simp [BigEndian.value]
  ring

/-- The text of `bytes`: it has the places `ys`, which repack the bytes and zeros, and `p` padding characters. -/
structure Encodes (bytes : List UInt8) (ys : List Nat) (p : Nat) : Prop where
  text : toBase64 bytes = base64Text ys p
  repacks : Repacks 6 8 ys (bytes.map UInt8.toNat) (2 * p) 0
  length : (ys.length + p) % 4 = 0
  padding : p ≤ 2

/-- The first `k` of the four places of a word of 24 bits. -/
def places (k n : Nat) : List Nat := [n / 2 ^ 18 % 64, n / 2 ^ 12 % 64, n / 2 ^ 6 % 64, n / 2 ^ 0 % 64].take k

theorem places_lt (k n : Nat) : ∀ x ∈ places k n, x < 2 ^ 6 := by
  intro x hx
  have hx := List.mem_of_mem_take hx
  simp only [List.mem_cons, List.not_mem_nil, or_false] at hx
  rcases hx with rfl | rfl | rfl | rfl <;> exact Nat.mod_lt _ (by omega)

theorem map_places (n : UInt32) :
    (places 4 n.toNat).map base64Symbol = [base64Char n 18, base64Char n 12, base64Char n 6, base64Char n 0] := by
  rw [base64Char_eq n (by decide), base64Char_eq n (by decide), base64Char_eq n (by decide),
    base64Char_eq n (by decide)]
  rfl

/-- The places are the digits of the word. -/
theorem value_places {n : Nat} (hn : n < 2 ^ 24) : value (2 ^ 6) (places 4 n) = n ∧
    value (2 ^ 6) (places 3 n) = n / 2 ^ 6 ∧ value (2 ^ 6) (places 2 n) = n / 2 ^ 12 := by
  simp only [places, List.take_succ_cons, List.take_zero, value_cons, value_nil, List.length_cons, List.length_nil]
  omega

/-- Three bytes are four places. -/
theorem repacks_three (b₀ b₁ b₂ : UInt8) :
    Repacks 6 8 (places 4 (b₀.toNat * 65536 + b₁.toNat * 256 + b₂.toNat)) [b₀.toNat, b₁.toNat, b₂.toNat] 0 0 := by
  have h₀ := b₀.toNat_lt
  have h₁ := b₁.toNat_lt
  have h₂ := b₂.toNat_lt
  refine ⟨places_lt 4 _, by simp [h₀, h₁, h₂], by simp, by simp [places], ?_⟩
  rw [(value_places (by omega)).1]
  simp only [value_cons, value_nil, List.length_cons, List.length_nil]
  omega

/-- Two bytes are three places, the last two bits of which are zero. -/
theorem repacks_two (b₀ b₁ : UInt8) :
    Repacks 6 8 (places 3 (b₀.toNat * 65536 + b₁.toNat * 256)) [b₀.toNat, b₁.toNat] 2 0 := by
  have h₀ := b₀.toNat_lt
  have h₁ := b₁.toNat_lt
  refine ⟨places_lt 3 _, by simp [h₀, h₁], by simp, by simp [places], ?_⟩
  rw [(value_places (by omega)).2.1]
  simp only [value_cons, value_nil, List.length_cons, List.length_nil]
  omega

/-- One byte is two places, the last four bits of which are zero. -/
theorem repacks_one (b₀ : UInt8) : Repacks 6 8 (places 2 (b₀.toNat * 65536)) [b₀.toNat] 4 0 := by
  have h₀ := b₀.toNat_lt
  refine ⟨places_lt 2 _, by simp [h₀], by simp, by simp [places], ?_⟩
  rw [(value_places (by omega)).2.2]
  simp only [value_cons, value_nil, List.length_nil]
  omega

theorem exists_encodes (bytes : List UInt8) : ∃ ys p, Encodes bytes ys p := by
  induction bytes using toBase64.induct with
  | case1 b₀ b₁ b₂ rest ih =>
    obtain ⟨ys, p, ih⟩ := ih
    refine ⟨_ ++ ys, p, ?_, (repacks_three b₀ b₁ b₂).append ih.repacks, ?_, ih.padding⟩
    · rw [base64Text, List.map_append, List.append_assoc, ← toNat_word, map_places, toBase64, ih.text]
      rfl
    · have := ih.length
      rw [List.length_append, show (places 4 _).length = 4 from rfl]
      omega
  | case2 b₀ b₁ =>
    refine ⟨_, 1, ?_, repacks_two b₀ b₁, by simp [places], by omega⟩
    have hmap := map_places ((b₀.toUInt32 <<< 16) ||| (b₁.toUInt32 <<< 8) ||| (0 : UInt8).toUInt32)
    rw [toNat_word] at hmap
    simp [places] at hmap
    simp [toBase64, base64Text, places, hmap]
  | case3 b₀ =>
    refine ⟨_, 2, ?_, repacks_one b₀, by simp [places], by omega⟩
    have hmap := map_places ((b₀.toUInt32 <<< 16) ||| ((0 : UInt8).toUInt32 <<< 8) ||| (0 : UInt8).toUInt32)
    rw [toNat_word] at hmap
    simp [places] at hmap
    simp [toBase64, base64Text, places, hmap]
  | case4 => exact ⟨[], 0, rfl, Repacks.nil 6 8, rfl, by omega⟩

/-! ## The codec -/

theorem stripped_eq_self {text : List UInt8} (h : ∀ c ∈ text, isBase64Whitespace c = false) : stripped text = text := by
  rw [stripped, List.filter_eq_self]
  intro c hc
  rw [h c hc]
  rfl

theorem fromBase64_stripped (text : List UInt8) : fromBase64 (stripped text) = fromBase64 text := by
  rw [fromBase64, fromBase64, Base64Decoder.loop_stripped]

theorem not_whitespace_of_mem_stripped {text : List UInt8} : ∀ c ∈ stripped text, isBase64Whitespace c = false := by
  intro c hc
  rw [stripped, List.mem_filter] at hc
  simpa using hc.2

/-- The encoder writes characters of the alphabet and padding only. -/
theorem not_whitespace_of_mem_toBase64 (bytes : List UInt8) : ∀ c ∈ toBase64 bytes, isBase64Whitespace c = false := by
  obtain ⟨ys, p, h⟩ := exists_encodes bytes
  rw [h.text, base64Text, List.forall_mem_append]
  constructor
  · intro c hc
    obtain ⟨y, hy, rfl⟩ := List.mem_map.1 hc
    exact (base64Symbol_spec (h.repacks.source_lt y hy)).1
  · intro c hc
    rw [List.eq_of_mem_replicate hc]
    rfl

/-- The decoder accepts exactly the texts that the encoder writes, with whitespace anywhere. -/
theorem fromBase64_eq_ok_iff (text bytes : List UInt8) :
    fromBase64 text = .ok bytes ↔ stripped text = toBase64 bytes := by
  obtain ⟨ys', p', henc⟩ := exists_encodes bytes
  rw [← fromBase64_stripped]
  constructor
  · intro h
    obtain ⟨s, hloop, -⟩ := Except.bind_eq_ok_iff.1 h
    obtain ⟨ys, p, hys, htext, -⟩ := Base64Decoder.text_of_loop not_whitespace_of_mem_stripped hloop
    rw [htext, fromBase64_base64Text hys] at h
    obtain ⟨hmod, hle, u, hu, hrep⟩ := h
    -- the padding is what the number of bytes asks for
    have hlen := hrep.length
    have hlen' := henc.repacks.length
    have hmod' := henc.length
    have hle' := henc.padding
    obtain rfl : u = 2 * p := by omega
    obtain rfl : p = p' := by omega
    rw [htext, henc.text, hrep.source_unique (by omega) henc.repacks]
  · intro h
    have hle := henc.padding
    rw [h, henc.text, fromBase64_base64Text henc.repacks.source_lt]
    exact ⟨henc.length, hle, 2 * p', by omega, henc.repacks⟩

/-! ## Rejected texts -/

/-- The messages of `from_base64`. -/
def base64Errors : List String :=
  ["Invalid Base64 character.", "Invalid Base64: data after padding.", "Invalid Base64 length or padding.",
    "Non-canonical Base64 padding bits."]

theorem Base64Decoder.loop_error {s : Base64Decoder} {text : List UInt8} {e : Abort}
    (h : text.foldlM read s = .error e) : ∃ m ∈ base64Errors, e = .message m := by
  induction text generalizing s with
  | nil => cases h
  | cons c text ih =>
    rw [List.foldlM_cons] at h
    cases hread : s.read c with
    | ok s₁ =>
      rw [hread] at h
      exact ih h
    | error e' =>
      rw [hread] at h
      cases h
      simp only [read] at hread
      split_ifs at hread <;> cases hread
      · exact ⟨_, .head _, rfl⟩
      · exact ⟨_, .tail _ (.head _), rfl⟩

theorem fromBase64_error {text : List UInt8} {e : Abort} (h : fromBase64 text = .error e) :
    ∃ m ∈ base64Errors, e = .message m := by
  rw [fromBase64] at h
  cases hloop : text.foldlM Base64Decoder.read {} with
  | error e' =>
    rw [hloop] at h
    cases h
    exact Base64Decoder.loop_error hloop
  | ok s =>
    rw [hloop, Except.ok_bind] at h
    dsimp only at h
    split_ifs at h <;> cases h
    · exact ⟨_, .tail _ (.tail _ (.head _)), rfl⟩
    · exact ⟨_, .tail _ (.tail _ (.tail _ (.head _))), rfl⟩

/-- What is wrong with a text without whitespace: a foreign character, data behind padding, a wrong length, too much
padding, or bits of the last character that the padding leaves unused and that are not zero. -/
inductive Base64Defect (text : List UInt8) : Prop where
  | foreign (c : UInt8) (hmem : c ∈ text) (hpad : c ≠ base64Pad) (hc : c ∉ kBase64Alphabet)
  | dataAfterPadding (before after : List UInt8) (c : UInt8) (htext : text = before ++ base64Pad :: after)
      (hmem : c ∈ after) (hpad : c ≠ base64Pad)
  | length (h : text.length % 4 ≠ 0)
  | padding (h : 2 < text.count base64Pad)
  | unusedBits (ys : List Nat) (y p : Nat) (hlt : ∀ z ∈ ys ++ [y], z < 64) (htext : text = base64Text (ys ++ [y]) p)
      (hbits : y % 2 ^ (2 * p) ≠ 0)

theorem count_base64Text {ys : List Nat} (hys : ∀ y ∈ ys, y < 64) (p : Nat) :
    (base64Text ys p).count base64Pad = p := by
  have hzero : (ys.map base64Symbol).count base64Pad = 0 := by
    rw [List.count_eq_zero]
    intro hmem
    obtain ⟨y, hy, heq⟩ := List.mem_map.1 hmem
    exact (base64Symbol_spec (hys y hy)).2.1 heq
  rw [base64Text, List.count_append, hzero, List.count_replicate_self, Nat.zero_add]

/-- The places and the padding of a text are determined. -/
theorem base64Text_inj {ys ys' : List Nat} {p p' : Nat} (hys : ∀ y ∈ ys, y < 64) (hys' : ∀ y ∈ ys', y < 64)
    (h : base64Text ys p = base64Text ys' p') : ys = ys' ∧ p = p' := by
  have hp : p = p' := by rw [← count_base64Text hys p, h, count_base64Text hys' p']
  subst hp
  have hmap := List.append_cancel_right h
  have hinj : ∀ {i j : Nat}, i < 64 → j < 64 → base64Symbol i = base64Symbol j → i = j := by
    intro i j hi hj heq
    have := congrArg base64Lookup heq
    rw [(base64Symbol_spec hi).2.2, (base64Symbol_spec hj).2.2] at this
    rw [← (ofNat_place hi).1, this, (ofNat_place hj).1]
  refine ⟨?_, rfl⟩
  clear h
  induction ys generalizing ys' with
  | nil =>
    rw [List.map_nil, eq_comm, List.map_eq_nil_iff] at hmap
    exact hmap.symm
  | cons y ys ih =>
    cases ys' with
    | nil => cases hmap
    | cons y' ys' =>
      rw [List.forall_mem_cons] at hys hys'
      rw [List.map_cons, List.map_cons, List.cons.injEq] at hmap
      rw [hinj hys.1 hys'.1 hmap.1, ih hys.2 hys'.2 hmap.2]

/-- The encoder writes no text with a defect. -/
theorem not_defect_toBase64 (bytes : List UInt8) : ¬ Base64Defect (toBase64 bytes) := by
  obtain ⟨ys, p, henc⟩ := exists_encodes bytes
  have hys := henc.repacks.source_lt
  rw [henc.text]
  rintro (⟨c, hmem, hpad, hc⟩ | ⟨before, after, c, htext, hmem, hpad⟩ | h | h | ⟨ys', y, p', hlt, htext, hbits⟩)
  · rw [base64Text, List.mem_append] at hmem
    rcases hmem with hmem | hmem
    · obtain ⟨y, hy, rfl⟩ := List.mem_map.1 hmem
      exact hc (base64Symbol_mem (hys y hy))
    · exact hpad (List.eq_of_mem_replicate hmem)
  · rw [base64Text, List.append_eq_append_iff] at htext
    rcases htext with ⟨rest, -, htext⟩ | ⟨rest, hsymbols, htext⟩
    · have hc : c ∈ List.replicate p base64Pad := by
        rw [htext]
        simp [hmem]
      exact hpad (List.eq_of_mem_replicate hc)
    · cases rest with
      | nil =>
        have hc : c ∈ List.replicate p base64Pad := by
          rw [List.nil_append] at htext
          rw [← htext]
          simp [hmem]
        exact hpad (List.eq_of_mem_replicate hc)
      | cons c' rest =>
        rw [List.cons_append, List.cons.injEq] at htext
        have hc : base64Pad ∈ ys.map base64Symbol := by
          rw [hsymbols, htext.1]
          simp
        obtain ⟨y, hy, heq⟩ := List.mem_map.1 hc
        exact (base64Symbol_spec (hys y hy)).2.1 heq
  · apply h
    simpa [base64Text] using henc.length
  · rw [count_base64Text hys] at h
    have := henc.padding
    omega
  · obtain ⟨rfl, rfl⟩ := base64Text_inj hys hlt htext
    apply hbits
    have hvalue := henc.repacks.value
    rw [value_concat, Nat.add_zero] at hvalue
    have hp := henc.padding
    interval_cases p
    · exact Nat.mod_one y
    · omega
    · omega

/-- `to_base64` and `from_base64`: the decoder inverts the encoder, accepts exactly its texts, with whitespace anywhere,
and throws for every other one. -/
theorem base64_canonical :
    (∀ bytes, fromBase64 (toBase64 bytes) = .ok bytes) ∧
    ∀ text,
      ((∃ bytes, fromBase64 text = .ok bytes) ↔ ∃ bytes, stripped text = toBase64 bytes) ∧
      (∀ bytes, stripped text = toBase64 bytes → fromBase64 text = .ok bytes) ∧
      ((∀ bytes, stripped text ≠ toBase64 bytes) → ∃ m ∈ base64Errors, fromBase64 text = .error (.message m)) ∧
      (Base64Defect (stripped text) → ∃ m ∈ base64Errors, fromBase64 text = .error (.message m)) := by
  have hreject : ∀ text, (∀ bytes, stripped text ≠ toBase64 bytes) →
      ∃ m ∈ base64Errors, fromBase64 text = .error (.message m) := by
    intro text h
    cases hdec : fromBase64 text with
    | ok bytes => exact absurd ((fromBase64_eq_ok_iff text bytes).1 hdec) (h bytes)
    | error e =>
      obtain ⟨m, hm, rfl⟩ := fromBase64_error hdec
      exact ⟨m, hm, rfl⟩
  refine ⟨fun bytes => ?_, fun text => ⟨exists_congr (fromBase64_eq_ok_iff text), ?_, hreject text, ?_⟩⟩
  · rw [fromBase64_eq_ok_iff, stripped_eq_self (not_whitespace_of_mem_toBase64 bytes)]
  · intro bytes h
    exact (fromBase64_eq_ok_iff text bytes).2 h
  · intro hdefect
    apply hreject text
    intro bytes h
    rw [h] at hdefect
    exact not_defect_toBase64 bytes hdefect

theorem base64_canonical_fooba : stripped (chars "Zm9v\n YmE=") = toBase64 (chars "fooba") ∧
    fromBase64 (chars "Zm9v\n YmE=") = .ok (chars "fooba") :=
  ⟨by decide +kernel, (base64_canonical.2 _).2.1 _ (by decide +kernel)⟩

end Kmip.Util
