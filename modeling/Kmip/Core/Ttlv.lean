import Kmip.Core.SerializationBuffer
import Kmip.Lib.BigEndian

/-!
# The TTLV encoding of a tree

What the wire format means, apart from how the library computes it: `encode e` is the tag (3 bytes), the type (1 byte),
the length of the value (4 bytes), the value and zero bytes up to a multiple of eight. The value of a structure is the
concatenation of its children. `Element.serialize` writes these bytes and `Element.deserialize` accepts no others.

The length field only holds 32 bits; `Fits` says that no value of the tree is longer.
-/

namespace Kmip

open BigEndian
open SerializationBuffer (padding length_padding)

namespace Element

/-- Tag, type and length of the value. -/
def header (t : Tag) (ty : TypeCode) (n : Nat) : List UInt8 := digits 3 t.toNat ++ digits 1 ty.toNat ++ digits 4 n

mutual

/-- The TTLV encoding of a tree. -/
def encode : Element → List UInt8
  | ⟨t, ty, v⟩ => header t ty (body v).length ++ body v ++ padding (body v).length

/-- The bytes of a value, without padding. -/
def body : Value Element → List UInt8
  | .struct items => encodeItems items
  | .integer v => digits 4 v.toUInt32.toNat
  | .longInteger v => digits 8 v.toUInt64.toNat
  | .bigInteger v => v.bytes
  | .enumeration v => digits 4 v.toUInt32.toNat
  | .boolean v => digits 8 (if v then 1 else 0)
  | .textString v => v.bytes
  | .byteString v => v.bytes
  | .dateTime v => digits 8 v.toUInt64.toNat
  | .dateTimeExtended v => digits 8 v.toUInt64.toNat
  | .interval v => digits 4 v.toNat

/-- The encodings of the children, one after the other. -/
def encodeItems : List Element → List UInt8
  | [] => []
  | e :: es => encode e ++ encodeItems es

end

/-- The length of the value fits in the length field. -/
def NodeFits (e : Element) : Prop := (body e.value).length < 2 ^ 32

/-- Every length of the tree fits in its length field. -/
def Fits (e : Element) : Prop := Forall NodeFits e

/-- A tree that the wire format can carry: its tags, type codes and lengths fit their fields. -/
structure Encodable (e : Element) : Prop where
  wellFormed : WellFormed e
  fits : Fits e

/-- The header and the children of a structure. -/
theorem encodable_struct {t : Tag} {ty : TypeCode} {items : List Element} :
    Encodable ⟨t, ty, .struct items⟩ ↔ t.toNat < 2 ^ 24 ∧ ty = TypeCode.struct ∧ (encodeItems items).length < 2 ^ 32 ∧
      ∀ c ∈ items, Encodable c := by
  constructor
  · rintro ⟨hw, hf⟩
    obtain ⟨⟨ht, hty⟩, hwc⟩ := forall_structure.1 hw
    obtain ⟨hn, hfc⟩ := forall_structure.1 hf
    exact ⟨ht, hty, hn, fun c hc => ⟨hwc c hc, hfc c hc⟩⟩
  · rintro ⟨ht, hty, hn, hc⟩
    exact ⟨forall_structure.2 ⟨⟨ht, hty⟩, fun c h => (hc c h).wellFormed⟩,
      forall_structure.2 ⟨hn, fun c h => (hc c h).fits⟩⟩

theorem encodable_primitive {t : Tag} {ty : TypeCode} {v : Value Element} (hv : v.typeCode ≠ TypeCode.struct) :
    Encodable ⟨t, ty, v⟩ ↔ t.toNat < 2 ^ 24 ∧ ty = v.typeCode ∧ (body v).length < 2 ^ 32 := by
  constructor
  · rintro ⟨hw, hf⟩
    obtain ⟨ht, hty⟩ := (forall_primitive hv).1 hw
    exact ⟨ht, hty, (forall_primitive hv).1 hf⟩
  · rintro ⟨ht, hty, hn⟩
    exact ⟨(forall_primitive hv).2 ⟨ht, hty⟩, (forall_primitive hv).2 hn⟩

@[simp] theorem length_header (t : Tag) (ty : TypeCode) (n : Nat) : (header t ty n).length = 8 := by simp [header]

/-- The header determines its fields. -/
theorem header_inj {t t' : Tag} {ty ty' : TypeCode} {n n' : Nat} (ht : t.toNat < 2 ^ 24) (ht' : t'.toNat < 2 ^ 24)
    (hy : ty.toNat < 256) (hy' : ty'.toNat < 256) (hn : n < 2 ^ 32) (hn' : n' < 2 ^ 32)
    (h : header t ty n = header t' ty' n') : t = t' ∧ ty = ty' ∧ n = n' := by
  rw [header, header] at h
  obtain ⟨h₁, h₂⟩ := List.append_inj h (by simp)
  obtain ⟨h₃, h₄⟩ := List.append_inj h₁ (by simp)
  exact ⟨UInt32.toNat.inj (digits_inj ht ht' h₃), UInt32.toNat.inj (digits_inj hy hy' h₄), digits_inj hn hn' h₂⟩

theorem encodeItems_append : ∀ l₁ l₂ : List Element, encodeItems (l₁ ++ l₂) = encodeItems l₁ ++ encodeItems l₂
  | [], l₂ => by simp [encodeItems]
  | e :: es, l₂ => by simp [encodeItems, encodeItems_append es l₂]

theorem length_encode (t : Tag) (ty : TypeCode) (v : Value Element) :
    (encode ⟨t, ty, v⟩).length = 8 + (body v).length + (8 - (body v).length % 8) % 8 := by
  simp only [encode, List.length_append, length_header, length_padding]

/-- An encoding is at least its header. -/
theorem le_length_encode (e : Element) : 8 ≤ (encode e).length := by
  obtain ⟨t, ty, v⟩ := e
  rw [length_encode]
  omega

/-- Encodings are aligned. -/
theorem length_encode_mod (e : Element) : (encode e).length % 8 = 0 := by
  obtain ⟨t, ty, v⟩ := e
  rw [length_encode]
  omega

theorem length_encodeItems_mod : ∀ items : List Element, (encodeItems items).length % 8 = 0
  | [] => rfl
  | e :: es => by
    have h₁ := length_encode_mod e
    have h₂ := length_encodeItems_mod es
    rw [encodeItems, List.length_append]
    omega

theorem padding_eq_nil {n : Nat} (h : n % 8 = 0) : padding n = [] :=
  List.eq_nil_of_length_eq_zero (by rw [length_padding]; omega)

/-- A structure needs no padding. -/
theorem encode_struct (t : Tag) (ty : TypeCode) (items : List Element) :
    encode ⟨t, ty, .struct items⟩ = header t ty (encodeItems items).length ++ encodeItems items := by
  rw [encode, body, padding_eq_nil (length_encodeItems_mod items), List.append_nil]

end Element

end Kmip
