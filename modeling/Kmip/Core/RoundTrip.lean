import Kmip.Core.Codec
import Kmip.Core.Serialize

/-!
# Encoder and decoder undo each other

* **Round trip** (`deserialize_serialize`): what `serialize` has written is decoded to the same tree, in any
  surroundings, if the tree respects the depth limit, and is rejected for its depth otherwise.
* **Canonicity** (`serialize_deserialize`): what `deserialize` accepts is the encoding of the tree it returns, laid out
  as the format says (`Layout`), and `serialize` gives these bytes back.

Both follow from the description of `serialize` by `encode` and of `deserialize` by occurrences of `encode`.
-/

namespace Kmip.Element

open BigEndian
open SerializationBuffer (reachableCapacity defaultCapacity Valid Doubled)

/-! ## Layout -/

mutual

/-- The tree takes the bytes of `l` from `o` to `o'`: a structure is a header that declares `n` bytes and children that
fill these `n` bytes; a primitive is a header that declares the `n` bytes of the value, the value, and zero bytes up to
a multiple of eight. -/
inductive Layout (l : List UInt8) : Element → Nat → Nat → Prop
  | struct {t : Tag} {items : List Element} {o n : Nat} (head : OccursAt l o (header t TypeCode.struct n))
      (fits : n < 2 ^ 32) (aligned : 8 ∣ n) (children : LayoutItems l items (o + 8) (o + 8 + n)) :
      Layout l ⟨t, TypeCode.struct, .struct items⟩ o (o + 8 + n)
  | primitive {t : Tag} {v : Value Element} {o n : Nat} (kind : v.typeCode ≠ TypeCode.struct)
      (head : OccursAt l o (header t v.typeCode n)) (fits : n < 2 ^ 32) (value : OccursAt l (o + 8) (body v))
      (length : (body v).length = n) (zeros : OccursAt l (o + 8 + n) (List.replicate ((8 - n % 8) % 8) 0)) :
      Layout l ⟨t, v.typeCode, v⟩ o (o + 8 + n + (8 - n % 8) % 8)

/-- The trees stand one after the other from `o` to `o'`. -/
inductive LayoutItems (l : List UInt8) : List Element → Nat → Nat → Prop
  | nil {o : Nat} : LayoutItems l [] o o
  | cons {c : Element} {cs : List Element} {o o₁ o₂ : Nat} (first : Layout l c o o₁) (rest : LayoutItems l cs o₁ o₂) :
      LayoutItems l (c :: cs) o o₂

end

theorem LayoutItems.of_encode {l : List UInt8} : ∀ {items : List Element} {o : Nat},
    (∀ c ∈ items, ∀ o, OccursAt l o (encode c) → Layout l c o (o + (encode c).length)) →
      OccursAt l o (encodeItems items) → LayoutItems l items o (o + (encodeItems items).length)
  | [], o, _, _ => .nil
  | c :: cs, o, hc, ho => by
    rw [encodeItems, occursAt_append] at ho
    rw [encodeItems, List.length_append, ← Nat.add_assoc]
    exact .cons (hc c List.mem_cons_self o ho.1)
      (LayoutItems.of_encode (fun d hd => hc d (List.mem_cons_of_mem _ hd)) ho.2)

/-- An encoding is laid out as the format says. -/
theorem Layout.of_encode {l : List UInt8} {e : Element} (he : Encodable e) :
    ∀ o, OccursAt l o (encode e) → Layout l e o (o + (encode e).length) := by
  induction e using Element.induction with
  | hs t ty items ih =>
    intro o ho
    obtain ⟨-, rfl, hn, hc⟩ := encodable_struct.1 he
    rw [encode_struct, occursAt_append, length_header] at ho
    rw [encode_struct, List.length_append, length_header, ← Nat.add_assoc]
    exact .struct ho.1 hn (Nat.dvd_of_mod_eq_zero (length_encodeItems_mod items))
      (LayoutItems.of_encode (fun c h => ih c h (hc c h)) ho.2)
  | hl t ty v hv =>
    intro o ho
    have hk : v.typeCode ≠ TypeCode.struct := fun h => (Value.eq_struct h).elim hv
    obtain ⟨-, rfl, hn⟩ := (encodable_primitive hk).1 he
    rw [encode, List.append_assoc, occursAt_append, occursAt_append, length_header] at ho
    rw [length_encode, ← Nat.add_assoc, ← Nat.add_assoc]
    exact .primitive hk ho.1 hn ho.2.1 rfl ho.2.2

/-! ## Round trip -/

/-- What `serialize` has written is the encoding of an encodable tree. -/
theorem serialize_encode {e : Element} {cap : Nat} {b : SerializationBuffer} (hw : WellFormed e)
    (h : e.serialize (.new cap) = .ok b) : b.span = encode e ∧ Encodable e := by
  obtain ⟨ha, hf⟩ := serialize_appends (Valid.new cap) (Nat.zero_le _) h
  exact ⟨(span_of_appends ha).1, hw, hf⟩

/-- The bytes of a tree that is not too high are decoded to it. -/
theorem deserialize_of_carried {e : Element} {cap : Nat} {b : SerializationBuffer} {data : Bytes}
    (hc : Carried kmipMaxStructureDepth e) (h : e.serialize (.new cap) = .ok b) (hd : data.bytes = b.span) :
    (deserialize data 0).result = .ok (e, data.size) := by
  obtain ⟨hspan, henc⟩ := serialize_encode hc.wellFormed h
  rw [deserialize_eq_ok_iff (Nat.zero_le _), Bytes.size, hd, hspan]
  exact ⟨⟨henc, hc.height_le⟩, ⟨[], [], by simp, rfl⟩, by simp⟩

/-- **Decode undoes encode.** Whatever stands before and after the bytes that `serialize` has written, `deserialize`
returns the tree and the offset after these bytes, unless a node lies more than 64 levels below the root. No length
field was truncated. -/
theorem deserialize_serialize (e : Element) (hw : WellFormed e) (cap : Nat) (b : SerializationBuffer)
    (h : e.serialize (.new cap) = .ok b) (pre suf : List UInt8) (data : Bytes)
    (hd : data.bytes = pre ++ b.span ++ suf) :
    Fits e ∧ (deserialize data pre.length).result =
      if e.height ≤ kmipMaxStructureDepth then .ok (e, pre.length + b.span.length)
      else .error (.message "TTLV structure nesting depth exceeds limit") := by
  obtain ⟨hspan, he⟩ := serialize_encode hw h
  have ho : OccursAt data.bytes pre.length (encode e) := ⟨pre, suf, hspan ▸ hd, rfl⟩
  refine ⟨he.fits, ?_⟩
  split
  · rename_i hh
    rw [deserialize_eq_ok_iff (Nat.le_of_add_right_le ho.le), hspan]
    exact ⟨⟨he, hh⟩, ho, rfl⟩
  · rename_i hh
    exact deserializeImpl_too_deep he (Nat.lt_of_not_le hh) ho

/-- Trees whose encodings have at most 64 MiB are serialized. -/
theorem serialize_new_returns {e : Element} (h : (encode e).length ≤ reachableCapacity) :
    ∃ b, e.serialize (.new defaultCapacity) = .ok b := by
  obtain ⟨b, hb, -⟩ := serialize_returns (e := e) (Valid.new _) Doubled.new
    (by rw [SerializationBuffer.currentOffset_new]; omega)
  exact ⟨b, hb⟩

/-- The bytes of a tree whose encoding has at most 64 MiB. -/
theorem exists_bytes {e : Element} (hw : WellFormed e) (h : (encode e).length ≤ reachableCapacity) :
    ∃ b, ∃ data : Bytes, e.serialize (.new defaultCapacity) = .ok b ∧ data.bytes = b.span := by
  obtain ⟨b, hb⟩ := serialize_new_returns h
  have hlen : b.span.length < 2 ^ 63 := by
    rw [(serialize_encode hw hb).1]
    exact h.trans_lt (by decide)
  exact ⟨b, ⟨b.span, hlen⟩, hb, rfl⟩

/-- A structure with a Boolean, between other bytes. -/
theorem deserialize_serialize_boolean :
    ∃ b, (createStructure Tag.credential [createBoolean Tag.batchOrderOption true]).serialize (.new defaultCapacity) =
        .ok b ∧
      (deserialize ⟨[0xFF] ++ [0x42, 0x00, 0x23, 0x01, 0, 0, 0, 16, 0x42, 0x00, 0x10, 0x06, 0, 0, 0, 8,
          0, 0, 0, 0, 0, 0, 0, 1] ++ [7], by decide⟩ 1).result =
        .ok (createStructure Tag.credential [createBoolean Tag.batchOrderOption true], 25) := by
  obtain ⟨b, h⟩ := @serialize_new_returns (createStructure Tag.credential [createBoolean Tag.batchOrderOption true])
    (by decide)
  have hspan : b.span = [0x42, 0x00, 0x23, 0x01, 0, 0, 0, 16, 0x42, 0x00, 0x10, 0x06, 0, 0, 0, 8,
      0, 0, 0, 0, 0, 0, 0, 1] :=
    (serialize_encode (by decide) h).1.trans (by decide)
  refine ⟨b, h, (deserialize_serialize _ (by decide) _ b h [0xFF] [7] _ (by rw [hspan])).2.trans ?_⟩
  rw [hspan]
  rfl

/-! ## Canonicity -/

/-- **Encode undoes decode.** An accepted input lies inside the data, is a multiple of eight bytes long and is laid out
as the format says; `serialize` of the returned tree gives these bytes back, at least up to 64 MiB, and they are the
only ones that are accepted for the tree. -/
theorem serialize_deserialize (data : Bytes) (o o' : Nat) (e : Element) (ho : o ≤ data.size)
    (h : (deserialize data o).result = .ok (e, o')) :
    o < o' ∧ o' ≤ data.size ∧ 8 ∣ o' - o ∧ Layout data.bytes e o o' ∧
      (∀ cap b, e.serialize (.new cap) = .ok b → b.span = (data.bytes.drop o).take (o' - o)) ∧
      (o' - o ≤ reachableCapacity → ∃ b, e.serialize (.new defaultCapacity) = .ok b) ∧
      ∀ (data₂ : Bytes) (p p' : Nat), p ≤ data₂.size → (deserialize data₂ p).result = .ok (e, p') →
        (data₂.bytes.drop p).take (p' - p) = (data.bytes.drop o).take (o' - o) := by
  obtain ⟨⟨he, -⟩, hoe, rfl⟩ := (deserialize_eq_ok_iff ho).1 h
  have h₈ := le_length_encode e
  have hle := hoe.le
  rw [Nat.add_sub_cancel_left, hoe.slice_eq]
  refine ⟨by omega, hle, Nat.dvd_of_mod_eq_zero (length_encode_mod e), .of_encode he o hoe, ?_,
    serialize_new_returns, ?_⟩
  · intro cap b hb
    exact (serialize_encode he.wellFormed hb).1
  · intro data₂ p p' hp hr
    obtain ⟨-, hoe₂, rfl⟩ := (deserialize_eq_ok_iff hp).1 hr
    rw [Nat.add_sub_cancel_left, hoe₂.slice_eq]

/-- An integer, decoded behind eight other bytes. -/
theorem serialize_deserialize_integer :
    ∃ b, (createInteger Tag.batchCount 5).serialize (.new defaultCapacity) = .ok b ∧
      b.span = [0x42, 0x00, 0x0D, 0x02, 0, 0, 0, 4, 0, 0, 0, 5, 0, 0, 0, 0] := by
  obtain ⟨-, -, -, -, h₁, h₂, -⟩ := serialize_deserialize
    ⟨[1, 2, 3, 4, 5, 6, 7, 8, 0x42, 0x00, 0x0D, 0x02, 0, 0, 0, 4, 0, 0, 0, 5, 0, 0, 0, 0], by decide⟩ 8 24
    (createInteger Tag.batchCount 5) (by decide) rfl
  obtain ⟨b, hb⟩ := h₂ (by decide)
  exact ⟨b, hb, h₁ _ b hb⟩

end Kmip.Element
