import Kmip.Core.BufferGrowth
import Kmip.Core.Ttlv

/-!
# `Element::serialize`

The encoder writes into a `SerializationBuffer`: header bytes one by one, the value through a fresh content buffer,
then the padding. Every call that returns appends exactly the TTLV encoding of the tree, and the tree then fits its
32-bit length fields, since a content buffer never holds more than 100 MiB (`serialize_appends`).
-/

namespace Kmip

open BigEndian
open SerializationBuffer (padding length_padding Appends maxCapacity defaultCapacity)

/-! ## Words on the wire -/

/-- `to_be32` on a little-endian machine. -/
def toBe32 (v : UInt32) : UInt32 :=
  ((v &&& 0x000000FF) <<< 24) ||| ((v &&& 0x0000FF00) <<< 8) ||| ((v &&& 0x00FF0000) >>> 8) |||
    ((v &&& 0xFF000000) >>> 24)

/-- `to_be64` on a little-endian machine. -/
def toBe64 (v : UInt64) : UInt64 :=
  ((toBe32 v.toUInt32).toUInt64 <<< 32) ||| (toBe32 (v >>> 32).toUInt32).toUInt64

/-- The bytes of a 32-bit word in memory. -/
def asBytes32 (v : UInt32) : List UInt8 :=
  [v.toUInt8, (v >>> 8).toUInt8, (v >>> 16).toUInt8, (v >>> 24).toUInt8]

/-- The bytes of a 64-bit word in memory. -/
def asBytes64 (v : UInt64) : List UInt8 := asBytes32 v.toUInt32 ++ asBytes32 (v >>> 32).toUInt32

/-- Memory order is the reverse of the digits. -/
theorem asBytes32_eq (v : UInt32) : asBytes32 v = (digits 4 v.toNat).reverse := by
  simp only [asBytes32, digits, List.reverse_cons, List.reverse_nil, List.nil_append, List.cons_append]
  rw [toUInt8_shiftRight32 _ (by decide), toUInt8_shiftRight32 _ (by decide), toUInt8_shiftRight32 _ (by decide)]
  simp

/-- The swapped word, byte by byte. -/
theorem toBe32_eq (v : UInt32) : toBe32 v =
    (v.toUInt8.toUInt32 <<< 24) ||| ((v >>> 8).toUInt8.toUInt32 <<< 16) ||| ((v >>> 16).toUInt8.toUInt32 <<< 8) |||
      (v >>> 24).toUInt8.toUInt32 := by
  have h₀ := and_mask v.toNat 0
  have h₁ := and_mask v.toNat 8
  have h₂ := and_mask v.toNat 16
  have h₃ := and_mask v.toNat 24
  have e₀ : (v &&& 0x000000FF) <<< 24 = v.toUInt8.toUInt32 <<< 24 := by
    apply UInt32.toNat.inj
    simp at h₀ ⊢
    rw [h₀]
  have e₁ : (v &&& 0x0000FF00) <<< 8 = (v >>> 8).toUInt8.toUInt32 <<< 16 := by
    apply UInt32.toNat.inj
    simp at h₁ ⊢
    rw [h₁]
    simp [Nat.shiftLeft_eq, Nat.shiftRight_eq_div_pow]
    omega
  have e₂ : (v &&& 0x00FF0000) >>> 8 = (v >>> 16).toUInt8.toUInt32 <<< 8 := by
    apply UInt32.toNat.inj
    simp at h₂ ⊢
    rw [h₂]
    simp [Nat.shiftLeft_eq, Nat.shiftRight_eq_div_pow]
    omega
  have e₃ : (v &&& 0xFF000000) >>> 24 = (v >>> 24).toUInt8.toUInt32 := by
    apply UInt32.toNat.inj
    simp at h₃ ⊢
    rw [h₃]
    simp [Nat.shiftRight_eq_div_pow]
  rw [toBe32, e₀, e₁, e₂, e₃]

theorem asBytes32_toBe32 (v : UInt32) : asBytes32 (toBe32 v) = digits 4 v.toNat := by
  have h : digits 4 (toBe32 v).toNat = asBytes32 v := by
    rw [toBe32_eq, toNat_or32]
    exact digits_value (asBytes32 v)
  rw [asBytes32_eq, h, asBytes32_eq, List.reverse_reverse]

theorem toNat_toBe64 (v : UInt64) :
    (toBe64 v).toNat = (toBe32 v.toUInt32).toNat * 2 ^ 32 + (toBe32 (v >>> 32).toUInt32).toNat := by
  have h₁ := (toBe32 v.toUInt32).toNat_lt
  have h₂ := (toBe32 (v >>> 32).toUInt32).toNat_lt
  rw [toBe64, UInt64.toNat_or, UInt64.toNat_shiftLeft, UInt32.toNat_toUInt64, UInt32.toNat_toUInt64]
  simp only [UInt64.reduceToNat, Nat.reduceMod, Nat.shiftLeft_eq]
  rw [Nat.mod_eq_of_lt (by omega), Nat.mul_comm, ← Nat.two_pow_add_eq_or_of_lt h₂]

theorem asBytes64_toBe64 (v : UInt64) : asBytes64 (toBe64 v) = digits 8 v.toNat := by
  have h := toNat_toBe64 v
  have h₁ := (toBe32 v.toUInt32).toNat_lt
  have h₂ := (toBe32 (v >>> 32).toUInt32).toNat_lt
  have hlo : (toBe64 v).toUInt32 = toBe32 (v >>> 32).toUInt32 := by
    apply UInt32.toNat.inj
    rw [UInt64.toNat_toUInt32, h]
    omega
  have hhi : (toBe64 v >>> 32).toUInt32 = toBe32 v.toUInt32 := by
    apply UInt32.toNat.inj
    rw [UInt64.toNat_toUInt32, UInt64.toNat_shiftRight, h]
    simp only [UInt64.reduceToNat, Nat.reduceMod, Nat.shiftRight_eq_div_pow]
    omega
  rw [asBytes64, hlo, hhi, asBytes32_toBe32, asBytes32_toBe32, digits_add 4 4]
  congr 1
  · rw [UInt64.toNat_toUInt32, UInt64.toNat_shiftRight]
    simp only [UInt64.reduceToNat, Nat.reduceMod, Nat.shiftRight_eq_div_pow]
    rw [Nat.mod_eq_of_lt (by have := v.toNat_lt; omega), show 256 ^ 4 = 2 ^ 32 from rfl]
  · rw [UInt64.toNat_toUInt32]
    have := digits_mul_add 4 (v.toNat / 2 ^ 32) (v.toNat % 2 ^ 32)
    rw [show 256 ^ 4 = 2 ^ 32 from rfl, Nat.div_add_mod'] at this
    exact this.symm

/-! ## The encoder -/

/-- `writeByte` for each byte of a list in turn. -/
def SerializationBuffer.writeEach (b : SerializationBuffer) : List UInt8 → Except Abort SerializationBuffer
  | [] => .ok b
  | v :: vs => do
    let b ← b.writeByte v
    b.writeEach vs

namespace Element

mutual

def serialize : Element → SerializationBuffer → Except Abort SerializationBuffer
  | ⟨tag, type, value⟩, buf => do
    let buf ← buf.writeEach [((tag >>> 16) &&& 0xFF).toUInt8, ((tag >>> 8) &&& 0xFF).toUInt8, (tag &&& 0xFF).toUInt8]
    let buf ← buf.writeByte type.toUInt8
    let (contentBuf, payloadLength) ← serializeContent value
    let buf ← buf.writeEach [((payloadLength >>> 24) &&& 0xFF).toUInt8, ((payloadLength >>> 16) &&& 0xFF).toUInt8,
      ((payloadLength >>> 8) &&& 0xFF).toUInt8, (payloadLength &&& 0xFF).toUInt8]
    let buf ← (if contentBuf.size > 0 then buf.writeBytes contentBuf.span else .ok buf)
    let totalSoFar := 3 + 1 + 4 + contentBuf.size
    buf.writeEach (List.replicate ((8 - totalSoFar % 8) % 8) 0)

/-- The first pass of `serialize`: the content buffer and the payload length. -/
def serializeContent : Value Element → Except Abort (SerializationBuffer × UInt32)
  | .struct items => do
    let buf ← serializeItems items (.new defaultCapacity)
    .ok (buf, UInt32.ofNat buf.size)
  | .integer v => do .ok (← (SerializationBuffer.new defaultCapacity).writeBytes (asBytes32 (toBe32 v.toUInt32)), 4)
  | .longInteger v => do
    .ok (← (SerializationBuffer.new defaultCapacity).writeBytes (asBytes64 (toBe64 v.toUInt64)), 8)
  | .bigInteger v => do
    .ok (← (SerializationBuffer.new defaultCapacity).writeBytes v.bytes, UInt32.ofNat v.size)
  | .enumeration v => do
    .ok (← (SerializationBuffer.new defaultCapacity).writeBytes (asBytes32 (toBe32 v.toUInt32)), 4)
  | .boolean v => do
    .ok (← (SerializationBuffer.new defaultCapacity).writeBytes (asBytes64 (toBe64 (if v then 1 else 0))), 8)
  | .textString v => do
    .ok (← (SerializationBuffer.new defaultCapacity).writePadded v.bytes, UInt32.ofNat v.size)
  | .byteString v => do
    .ok (← (SerializationBuffer.new defaultCapacity).writePadded v.bytes, UInt32.ofNat v.size)
  | .dateTime v => do
    .ok (← (SerializationBuffer.new defaultCapacity).writeBytes (asBytes64 (toBe64 v.toUInt64)), 8)
  | .dateTimeExtended v => do
    .ok (← (SerializationBuffer.new defaultCapacity).writeBytes (asBytes64 (toBe64 v.toUInt64)), 8)
  | .interval v => do .ok (← (SerializationBuffer.new defaultCapacity).writeBytes (asBytes32 (toBe32 v)), 4)

/-- The loop over the children of a structure. -/
def serializeItems : List Element → SerializationBuffer → Except Abort SerializationBuffer
  | [], buf => .ok buf
  | item :: items, buf => do
    let buf ← serialize item buf
    serializeItems items buf

end

/-! ## What `serialize` appends -/

/-- The bytes of the tag. -/
theorem tag_bytes (t : Tag) :
    [((t >>> 16) &&& 0xFF).toUInt8, ((t >>> 8) &&& 0xFF).toUInt8, (t &&& 0xFF).toUInt8] = digits 3 t.toNat := by
  simp only [toUInt8_and_mask, digits]
  rw [toUInt8_shiftRight32 _ (by decide), toUInt8_shiftRight32 _ (by decide)]
  simp

/-- The bytes of the length field. -/
theorem length_bytes (n : UInt32) :
    [((n >>> 24) &&& 0xFF).toUInt8, ((n >>> 16) &&& 0xFF).toUInt8, ((n >>> 8) &&& 0xFF).toUInt8, (n &&& 0xFF).toUInt8] =
      digits 4 n.toNat := by
  simp only [toUInt8_and_mask, digits]
  rw [toUInt8_shiftRight32 _ (by decide), toUInt8_shiftRight32 _ (by decide), toUInt8_shiftRight32 _ (by decide)]
  simp

/-- What the content buffer and the payload length hold after the first pass. -/
structure ContentOf (v : Value Element) (c : SerializationBuffer) (payloadLength : UInt32) : Prop where
  valid : c.Valid
  span_eq : c.span ++ padding c.size = body v ++ padding (body v).length
  length_eq : payloadLength.toNat = (body v).length
  size_le : c.size ≤ maxCapacity
  fits : valueForall NodeFits v

/-- A buffer filled from the default capacity stays within the limit. -/
theorem size_le_of_appends {c : SerializationBuffer} {d : List UInt8}
    (h : Appends (.new defaultCapacity) c d) : c.size ≤ maxCapacity := by
  have h₁ := h.valid.offset_le
  have h₂ := h.valid.size_le
  have h₃ : c.capacity ≤ maxCapacity := h.capacity_le
  rw [SerializationBuffer.size]
  omega

theorem span_of_appends {c : SerializationBuffer} {n : Nat} {d : List UInt8} (h : Appends (.new n) c d) :
    c.span = d ∧ c.size = d.length := by
  refine ⟨h.span_eq, ?_⟩
  have := h.offset_eq
  rwa [SerializationBuffer.currentOffset_new, Nat.zero_add] at this

/-- A value that is written as it is. -/
theorem ContentOf.of_bytes {v : Value Element} {c : SerializationBuffer} {n : UInt32}
    (h : Appends (.new defaultCapacity) c (body v)) (hn : n.toNat = (body v).length % 2 ^ 32)
    (hv : valueForall NodeFits v) : ContentOf v c n := by
  obtain ⟨hs, hl⟩ := span_of_appends h
  have hle := size_le_of_appends h
  refine ⟨h.valid, by rw [hs, hl], ?_, hle, hv⟩
  rw [hn, Nat.mod_eq_of_lt]
  have : maxCapacity < 2 ^ 32 := by decide
  omega

/-- A value that is padded inside the content buffer. -/
theorem ContentOf.of_padded {v : Value Element} {c : SerializationBuffer} {n : UInt32}
    (h : Appends (.new defaultCapacity) c (body v ++ padding (body v).length))
    (hn : n.toNat = (body v).length % 2 ^ 32) (hv : valueForall NodeFits v) : ContentOf v c n := by
  obtain ⟨hs, hl⟩ := span_of_appends h
  have hle := size_le_of_appends h
  rw [List.length_append, length_padding] at hl
  refine ⟨h.valid, ?_, ?_, hle, hv⟩
  · rw [hs, padding_eq_nil (show c.size % 8 = 0 by omega), List.append_nil]
  · rw [hn, Nat.mod_eq_of_lt]
    have : maxCapacity < 2 ^ 32 := by decide
    omega

end Element

theorem SerializationBuffer.writeEach_appends : ∀ {l : List UInt8} {b b' : SerializationBuffer}, b.Valid →
    b.currentOffset + l.length < 2 ^ 64 → b.writeEach l = .ok b' → Appends b b' l
  | [], b, b', hb, _, h => by
    cases h
    exact Appends.refl hb
  | v :: vs, b, b', hb, hn, h => by
    obtain ⟨b₁, h₁, h₂⟩ := Except.bind_eq_ok_iff.1 h
    rw [List.length_cons] at hn
    have ha := writeByte_appends hb (by omega) h₁
    have ho : b₁.currentOffset = b.currentOffset + 1 := ha.offset_eq
    exact ha.trans (writeEach_appends ha.valid (by omega) h₂)

theorem SerializationBuffer.writeEach_singleton (b : SerializationBuffer) (v : UInt8) :
    b.writeEach [v] = b.writeByte v := bind_pure _

theorem SerializationBuffer.writeEach_append : ∀ (l m : List UInt8) (b : SerializationBuffer),
    b.writeEach (l ++ m) = do (← b.writeEach l).writeEach m
  | [], m, b => rfl
  | v :: vs, m, b => by
    rw [List.cons_append, writeEach, writeEach, bind_assoc]
    exact bind_congr fun b₁ => writeEach_append vs m b₁

theorem SerializationBuffer.writeEach_returns : ∀ {l : List UInt8} {b : SerializationBuffer}, b.Valid → b.Doubled →
    b.currentOffset + l.length ≤ reachableCapacity → ∃ b', b.writeEach l = .ok b' ∧ b'.Doubled
  | [], b, _, hd, _ => ⟨b, rfl, hd⟩
  | v :: vs, b, hb, hd, hn => by
    rw [List.length_cons] at hn
    have hlt : reachableCapacity < 2 ^ 64 := by decide
    obtain ⟨b₁, h₁, hd₁⟩ := @writeByte_returns b v hd (by omega)
    have ha := writeByte_appends hb (by omega) h₁
    have ho : b₁.currentOffset = b.currentOffset + 1 := ha.offset_eq
    obtain ⟨b₂, h₂, hd₂⟩ := @writeEach_returns vs b₁ ha.valid hd₁ (by omega)
    exact ⟨b₂, by rw [writeEach, h₁]; exact h₂, hd₂⟩

namespace Element

open SerializationBuffer

/-- A value of a single `writeBytes`. -/
theorem ContentOf.of_writeBytes {v : Value Element} {c : SerializationBuffer} {l : List UInt8} {k n : UInt32}
    (h : (do .ok (← (SerializationBuffer.new defaultCapacity).writeBytes l, k)) = Except.ok (c, n))
    (hl : l = body v) (hlt : l.length < 2 ^ 63) (hk : k.toNat = l.length % 2 ^ 32) (hv : valueForall NodeFits v) :
    ContentOf v c n := by
  obtain ⟨b, h₁, h₂⟩ := Except.bind_eq_ok_iff.1 h
  cases h₂
  subst hl
  exact .of_bytes (writeBytes_appends (Valid.new _) (by rw [currentOffset_new]; omega) h₁) hk hv

theorem ContentOf.of_word32 {v : Value Element} {c : SerializationBuffer} {w n : UInt32}
    (h : (do .ok (← (SerializationBuffer.new defaultCapacity).writeBytes (asBytes32 (toBe32 w)), 4)) = Except.ok (c, n))
    (hb : body v = digits 4 w.toNat) (hv : valueForall NodeFits v) : ContentOf v c n := by
  rw [asBytes32_toBe32] at h
  exact .of_writeBytes h hb.symm (by rw [length_digits]; omega) (by rw [length_digits]; rfl) hv

theorem ContentOf.of_word64 {v : Value Element} {c : SerializationBuffer} {w : UInt64} {n : UInt32}
    (h : (do .ok (← (SerializationBuffer.new defaultCapacity).writeBytes (asBytes64 (toBe64 w)), 8)) = Except.ok (c, n))
    (hb : body v = digits 8 w.toNat) (hv : valueForall NodeFits v) : ContentOf v c n := by
  rw [asBytes64_toBe64] at h
  exact .of_writeBytes h hb.symm (by rw [length_digits]; omega) (by rw [length_digits]; rfl) hv

/-- The word of a Boolean. -/
theorem body_boolean (v : Bool) : body (.boolean v) = digits 8 (if v then 1 else 0 : UInt64).toNat := by
  rw [body]
  cases v <;> rfl

/-- A value of a single `writePadded`. -/
theorem ContentOf.of_writePadded {v : Value Element} {c : SerializationBuffer} {s : Bytes} {n : UInt32}
    (h : (do .ok (← (SerializationBuffer.new defaultCapacity).writePadded s.bytes, UInt32.ofNat s.size)) =
      Except.ok (c, n)) (hs : s.bytes = body v) (hv : valueForall NodeFits v) : ContentOf v c n := by
  obtain ⟨b, h₁, h₂⟩ := Except.bind_eq_ok_iff.1 h
  cases h₂
  have hlt := s.size_lt
  have ha := writePadded_appends (Valid.new _) (by rw [currentOffset_new]; omega) h₁
  rw [hs] at ha
  exact .of_padded ha (by rw [← hs]; exact UInt32.toNat_ofNat') hv

/-- The writes of a node once its content is known: the header, the content and the padding. -/
theorem serialize_eq {t : Tag} {ty : TypeCode} {v : Value Element} {c : SerializationBuffer} {n : UInt32}
    (h : serializeContent v = .ok (c, n)) (hc : ContentOf v c n) (b : SerializationBuffer) :
    serialize ⟨t, ty, v⟩ b = (do
      let b ← b.writeEach (header t ty (body v).length)
      let b ← b.writeBytes c.span
      b.writeEach (padding c.size)) := by
  have hspan : c.span.length = c.size := hc.valid.length_span
  have hpad : List.replicate ((8 - (3 + 1 + 4 + c.size) % 8) % 8) 0 = padding c.size := by
    rw [padding, show (3 + 1 + 4 + c.size) % 8 = c.size % ttlvAlignment by rw [ttlvAlignment]; omega]
    rfl
  have hite : ∀ b : SerializationBuffer, (if c.size > 0 then b.writeBytes c.span else .ok b) = b.writeBytes c.span := by
    intro b
    split
    · rfl
    · rw [List.eq_nil_of_length_eq_zero (show c.span.length = 0 by omega)]
      rfl
  have htype : digits 1 ty.toNat = [ty.toUInt8] := by simp [digits]
  rw [serialize, h, header, writeEach_append, writeEach_append, htype, tag_bytes]
  simp only [Except.ok_bind, bind_assoc, length_bytes, hc.length_eq, hite, hpad, writeEach_singleton]

mutual

/-- A call of `serialize` that returns appends the encoding, and no length field was truncated. -/
theorem serialize_appends : ∀ {e : Element} {b b' : SerializationBuffer}, b.Valid → b.currentOffset ≤ 2 ^ 63 →
    serialize e b = .ok b' → Appends b b' (encode e) ∧ Fits e
  | ⟨t, ty, v⟩, b, b', hb, hn, h => by
    obtain ⟨c, n, hcn⟩ : ∃ c n, serializeContent v = .ok (c, n) := by
      rw [serialize] at h
      obtain ⟨_, -, h⟩ := Except.bind_eq_ok_iff.1 h
      obtain ⟨_, -, h⟩ := Except.bind_eq_ok_iff.1 h
      obtain ⟨⟨c, n⟩, hcn, -⟩ := Except.bind_eq_ok_iff.1 h
      exact ⟨c, n, hcn⟩
    have hc := serializeContent_of hcn
    have hsize := hc.size_le
    have hmax : maxCapacity < 2 ^ 32 := by decide
    have hspan : c.span.length = c.size := hc.valid.length_span
    rw [serialize_eq hcn hc] at h
    obtain ⟨b₁, h₁, h⟩ := Except.bind_eq_ok_iff.1 h
    obtain ⟨b₂, h₂, h₃⟩ := Except.bind_eq_ok_iff.1 h
    have a₁ := writeEach_appends hb (by rw [length_header]; omega) h₁
    have o₁ := a₁.offset_eq
    rw [length_header] at o₁
    have a₂ := writeBytes_appends a₁.valid (by omega) h₂
    have o₂ := a₂.offset_eq
    have a₃ := writeEach_appends a₂.valid (by rw [length_padding]; omega) h₃
    refine ⟨?_, ?_⟩
    · have ha := (a₁.trans a₂).trans a₃
      rw [List.append_assoc, hc.span_eq, ← List.append_assoc] at ha
      exact ha
    · rw [Fits, Forall]
      refine ⟨?_, hc.fits⟩
      rw [NodeFits, ← hc.length_eq]
      exact n.toNat_lt

/-- The first pass computes the body and its length. -/
theorem serializeContent_of : ∀ {v : Value Element} {c : SerializationBuffer} {n : UInt32},
    serializeContent v = .ok (c, n) → ContentOf v c n
  | .struct items, c, n, h => by
    rw [serializeContent] at h
    obtain ⟨b₁, h₁, h₂⟩ := Except.bind_eq_ok_iff.1 h
    cases h₂
    obtain ⟨ha, hf⟩ := serializeItems_appends (Valid.new _) (by decide) h₁
    refine ContentOf.of_bytes ha ?_ hf
    rw [(span_of_appends ha).2]
    simp [body]
  | .integer v, c, n, h => by
    rw [serializeContent] at h
    exact .of_word32 h rfl trivial
  | .longInteger v, c, n, h => by
    rw [serializeContent] at h
    exact .of_word64 h rfl trivial
  | .bigInteger v, c, n, h => by
    rw [serializeContent] at h
    exact .of_writeBytes h rfl v.size_lt UInt32.toNat_ofNat' trivial
  | .enumeration v, c, n, h => by
    rw [serializeContent] at h
    exact .of_word32 h rfl trivial
  | .boolean v, c, n, h => by
    rw [serializeContent] at h
    exact .of_word64 h (body_boolean v) trivial
  | .textString v, c, n, h => by
    rw [serializeContent] at h
    exact .of_writePadded h rfl trivial
  | .byteString v, c, n, h => by
    rw [serializeContent] at h
    exact .of_writePadded h rfl trivial
  | .dateTime v, c, n, h => by
    rw [serializeContent] at h
    exact .of_word64 h rfl trivial
  | .dateTimeExtended v, c, n, h => by
    rw [serializeContent] at h
    exact .of_word64 h rfl trivial
  | .interval v, c, n, h => by
    rw [serializeContent] at h
    exact .of_word32 h rfl trivial

/-- The children are appended in order. -/
theorem serializeItems_appends : ∀ {items : List Element} {b b' : SerializationBuffer}, b.Valid →
    b.capacity ≤ maxCapacity → serializeItems items b = .ok b' →
      Appends b b' (encodeItems items) ∧ itemsForall NodeFits items
  | [], b, b', hb, _, h => by
    cases h
    exact ⟨Appends.refl hb, trivial⟩
  | e :: es, b, b', hb, hc, h => by
    rw [serializeItems] at h
    obtain ⟨b₁, h₁, h₂⟩ := Except.bind_eq_ok_iff.1 h
    have ho := hb.offset_le
    have hs := hb.size_le
    have hmax : maxCapacity < 2 ^ 32 := by decide
    obtain ⟨ha, hf⟩ := serialize_appends hb (by omega) h₁
    have hcap := ha.capacity_le
    obtain ⟨ha', hf'⟩ := serializeItems_appends ha.valid (by omega) h₂
    rw [encodeItems, itemsForall]
    exact ⟨ha.trans ha', hf, hf'⟩

end

/-! ## Trees that are small enough are serialized -/

theorem returns_of_writeBytes {v : Value Element} {l : List UInt8} {k : UInt32} (hl : l = body v)
    (h : (body v).length + (8 - (body v).length % 8) % 8 ≤ reachableCapacity) :
    ∃ c n, (do .ok (← (SerializationBuffer.new defaultCapacity).writeBytes l, k)) =
      (Except.ok (c, n) : Except Abort (SerializationBuffer × UInt32)) := by
  obtain ⟨c, hc, -⟩ := @writeBytes_returns _ l Doubled.new (by rw [currentOffset_new, hl]; omega)
  exact ⟨c, k, by rw [hc, Except.ok_bind]⟩

theorem returns_of_writePadded {s : List UInt8} {k : UInt32}
    (h : s.length + (8 - s.length % 8) % 8 ≤ reachableCapacity) :
    ∃ c n, (do .ok (← (SerializationBuffer.new defaultCapacity).writePadded s, k)) =
      (Except.ok (c, n) : Except Abort (SerializationBuffer × UInt32)) := by
  obtain ⟨c, hc, -⟩ := @writePadded_returns _ s (Valid.new _) Doubled.new
    (by rw [currentOffset_new, length_padding]; omega)
  exact ⟨c, k, by rw [hc, Except.ok_bind]⟩

mutual

/-- An encoding that leaves the buffer below 64 MiB is written. -/
theorem serialize_returns : ∀ {e : Element} {b : SerializationBuffer}, b.Valid → b.Doubled →
    b.currentOffset + (encode e).length ≤ reachableCapacity → ∃ b', serialize e b = .ok b' ∧ b'.Doubled
  | ⟨t, ty, v⟩, b, hb, hd, hn => by
    have hlt : reachableCapacity < 2 ^ 63 := by decide
    rw [length_encode] at hn
    obtain ⟨c, n, hcn⟩ := @serializeContent_returns v (by omega)
    have hc := serializeContent_of hcn
    have hspan : c.span.length = c.size := hc.valid.length_span
    have hsum := congrArg List.length hc.span_eq
    rw [List.length_append, List.length_append, hspan, length_padding, length_padding] at hsum
    obtain ⟨b₁, h₁, hd₁⟩ := @writeEach_returns (header t ty (body v).length) b hb hd (by rw [length_header]; omega)
    have a₁ := writeEach_appends hb (by rw [length_header]; omega) h₁
    have o₁ := a₁.offset_eq
    rw [length_header] at o₁
    obtain ⟨b₂, h₂, hd₂⟩ := @writeBytes_returns b₁ c.span hd₁ (by omega)
    have a₂ := writeBytes_appends a₁.valid (by omega) h₂
    have o₂ := a₂.offset_eq
    obtain ⟨b₃, h₃, hd₃⟩ := @writeEach_returns (padding c.size) b₂ a₂.valid hd₂ (by rw [length_padding]; omega)
    exact ⟨b₃, by rw [serialize_eq hcn hc, h₁, Except.ok_bind, h₂, Except.ok_bind, h₃], hd₃⟩

theorem serializeContent_returns : ∀ {v : Value Element},
    (body v).length + (8 - (body v).length % 8) % 8 ≤ reachableCapacity → ∃ c n, serializeContent v = .ok (c, n)
  | .struct items, h => by
    rw [body] at h
    obtain ⟨c, hc, -⟩ := @serializeItems_returns items _ (Valid.new _) Doubled.new (by rw [currentOffset_new]; omega)
    exact ⟨c, UInt32.ofNat c.size, by rw [serializeContent, hc, Except.ok_bind]⟩
  | .integer v, h => by
    rw [serializeContent]
    exact returns_of_writeBytes (asBytes32_toBe32 _) h
  | .longInteger v, h => by
    rw [serializeContent]
    exact returns_of_writeBytes (asBytes64_toBe64 _) h
  | .bigInteger v, h => by
    rw [serializeContent]
    exact returns_of_writeBytes rfl h
  | .enumeration v, h => by
    rw [serializeContent]
    exact returns_of_writeBytes (asBytes32_toBe32 _) h
  | .boolean v, h => by
    rw [serializeContent]
    exact returns_of_writeBytes ((asBytes64_toBe64 _).trans (body_boolean v).symm) h
  | .textString v, h => by
    rw [serializeContent]
    exact returns_of_writePadded h
  | .byteString v, h => by
    rw [serializeContent]
    exact returns_of_writePadded h
  | .dateTime v, h => by
    rw [serializeContent]
    exact returns_of_writeBytes (asBytes64_toBe64 _) h
  | .dateTimeExtended v, h => by
    rw [serializeContent]
    exact returns_of_writeBytes (asBytes64_toBe64 _) h
  | .interval v, h => by
    rw [serializeContent]
    exact returns_of_writeBytes (asBytes32_toBe32 _) h

theorem serializeItems_returns : ∀ {items : List Element} {b : SerializationBuffer}, b.Valid → b.Doubled →
    b.currentOffset + (encodeItems items).length ≤ reachableCapacity →
      ∃ b', serializeItems items b = .ok b' ∧ b'.Doubled
  | [], b, _, hd, _ => ⟨b, rfl, hd⟩
  | e :: es, b, hb, hd, hn => by
    rw [encodeItems, List.length_append] at hn
    have hlt : reachableCapacity < 2 ^ 63 := by decide
    obtain ⟨b₁, h₁, hd₁⟩ := @serialize_returns e b hb hd (by omega)
    have ha := (serialize_appends hb (by omega) h₁).1
    have ho := ha.offset_eq
    obtain ⟨b₂, h₂, hd₂⟩ := @serializeItems_returns es b₁ ha.valid hd₁ (by omega)
    exact ⟨b₂, by rw [serializeItems, h₁]; exact h₂, hd₂⟩

end

end Element

end Kmip
