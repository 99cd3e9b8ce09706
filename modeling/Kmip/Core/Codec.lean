import Kmip.Core.Deserialize
import Kmip.Lib.Raises

/-!
# What the decoder accepts

`deserializeImpl` with `levels` nesting levels left returns a tree exactly when the encoding of that tree stands at the
offset and the tree is encodable and less than `levels` high (`deserializeImpl_eq_ok_iff`). One induction on the levels
gives both directions; its steps are what a header reads (`readHeader_spec`) and equivalences for the other parts:

* `readValue_eq_ok_iff` and `zeroLoop_eq_ok_iff` for the parts of a node;
* `readPrimitive_eq_ok_iff` and `readStructure_eq_ok_iff` for the two branches, the latter from
  `structLoop_eq_ok_iff`, an induction on the iterations of the loop.
-/

namespace Kmip

open BigEndian
open SerializationBuffer (padding length_padding)

variable {data : Bytes} {off : Nat}

/-! ## The parts of a node -/

@[simp] theorem result_read (i : Nat) : (data.read i).result = .ok (data.bytes.getD i 0) := rfl

@[simp] theorem result_view (o n : Nat) : (data.view o n).result = .ok (data.subspan o n) := rfl

theorem occursAt_read {s : List UInt8} (h : off < data.size) :
    OccursAt data.bytes off (data.bytes.getD off 0 :: s) ↔ OccursAt data.bytes (off + 1) s := by
  rw [occursAt_cons, List.getD_eq_getElem?_getD, List.getElem?_eq_getElem h]
  simp

/-- Four bytes make a word, and no other word is spelled there. -/
theorem readBeU32_eq_ok_iff {w : UInt32} (h : off + 4 ≤ data.size) :
    (readBeU32 data off).result = .ok w ↔ OccursAt data.bytes off (digits 4 w.toNat) := by
  obtain ⟨w', hw', ho⟩ : ∃ w', (readBeU32 data off).result = .ok w' ∧ OccursAt data.bytes off (digits 4 w'.toNat) := by
    refine ⟨_, rfl, ?_⟩
    rw [toNat_or32]
    refine (digits_value [_, _, _, _]).symm ▸ ?_
    rw [occursAt_read (by omega), occursAt_read (by omega), occursAt_read (by omega), occursAt_read (by omega),
      occursAt_nil]
    exact h
  rw [hw', Except.ok.injEq]
  refine ⟨fun hw => hw ▸ ho, fun hw => ?_⟩
  exact UInt32.toNat.inj (digits_inj w'.toNat_lt w.toNat_lt (ho.unique hw (by simp)))

theorem readBeU64_eq_ok_iff {w : UInt64} (h : off + 8 ≤ data.size) :
    (readBeU64 data off).result = .ok w ↔ OccursAt data.bytes off (digits 8 w.toNat) := by
  obtain ⟨w', hw', ho⟩ : ∃ w', (readBeU64 data off).result = .ok w' ∧ OccursAt data.bytes off (digits 8 w'.toNat) := by
    refine ⟨_, rfl, ?_⟩
    rw [toNat_or64]
    refine (digits_value [_, _, _, _, _, _, _, _]).symm ▸ ?_
    rw [occursAt_read (by omega), occursAt_read (by omega), occursAt_read (by omega), occursAt_read (by omega),
      occursAt_read (by omega), occursAt_read (by omega), occursAt_read (by omega), occursAt_read (by omega),
      occursAt_nil]
    exact h
  rw [hw', Except.ok.injEq]
  refine ⟨fun hw => hw ▸ ho, fun hw => ?_⟩
  exact UInt64.toNat.inj (digits_inj w'.toNat_lt w.toNat_lt (ho.unique hw (by simp)))

/-- The header at a position with eight bytes left. -/
theorem readHeader_spec (h : off + 8 ≤ data.size) : ∃ t ty n, (readHeader data off).result = .ok (t, ty, n) ∧
    t.toNat < 2 ^ 24 ∧ ty.toNat < 256 ∧ OccursAt data.bytes off (Element.header t ty n.toNat) := by
  obtain ⟨n, hn⟩ : ∃ n, (readBeU32 data (off + 4)).result = .ok n := ⟨_, rfl⟩
  refine ⟨((data.bytes.getD off 0).toUInt32 <<< 16) ||| ((data.bytes.getD (off + 1) 0).toUInt32 <<< 8) |||
    (data.bytes.getD (off + 2) 0).toUInt32, (data.bytes.getD (off + 3) 0).toUInt32, n, ?_, ?_, ?_, ?_⟩
  · simp only [readHeader, Traced.result_bind, result_read, Except.ok_bind, Traced.result_pure, hn]
  · rw [toNat_or24]
    exact Nat.lt_of_lt_of_eq (value_lt _) (by norm_num)
  · rw [UInt8.toNat_toUInt32]
    exact UInt8.toNat_lt _
  · have ht := digits_value [data.bytes.getD off 0, data.bytes.getD (off + 1) 0, data.bytes.getD (off + 2) 0]
    have hy : digits 1 (data.bytes.getD (off + 3) 0).toNat = [data.bytes.getD (off + 3) 0] := by simp [digits]
    rw [Element.header, toNat_or24, UInt8.toNat_toUInt32, hy]
    refine ht.symm ▸ ?_
    simp only [List.cons_append, List.nil_append]
    rw [occursAt_read (by omega), occursAt_read (by omega), occursAt_read (by omega), occursAt_read (by omega)]
    exact (readBeU32_eq_ok_iff (by omega)).1 hn

theorem zeroLoop_eq_ok_iff : ∀ {n off : Nat}, off + n ≤ data.size →
    ((zeroLoop data off n).result = .ok () ↔ OccursAt data.bytes off (List.replicate n 0))
  | 0, off, h => by
    rw [List.replicate_zero, occursAt_nil]
    exact iff_of_true rfl h
  | n + 1, off, h => by
    rw [zeroLoop, Traced.result_bind, result_read, Except.ok_bind, Traced.result_ite, List.replicate_succ]
    by_cases hb : data.bytes.getD off 0 = 0
    · rw [if_neg (not_not.2 hb), zeroLoop_eq_ok_iff (by omega), ← hb, occursAt_read (by omega)]
    · rw [if_pos hb]
      refine iff_of_false (by simp [Decode.throw]) fun ho => hb ?_
      rw [List.getD_eq_getElem?_getD, (occursAt_cons.1 ho).1]
      rfl

/-! ## Values -/

theorem readFixed32_eq_ok_iff {message : String} {mk : UInt32 → Value Element} {n : Nat} {v : Value Element}
    (h : off + n ≤ data.size) : (readFixed32 message mk data off n).result = .ok v ↔
      n = 4 ∧ ∃ w, v = mk w ∧ OccursAt data.bytes off (digits 4 w.toNat) := by
  rw [readFixed32, Traced.result_ite]
  by_cases hn : n = 4
  · subst hn
    simp only [ne_eq, not_true_eq_false, if_false, Traced.result_bind_eq_ok_iff, readBeU32_eq_ok_iff h,
      Traced.result_pure, Except.ok.injEq, true_and]
    exact exists_congr fun w => by rw [and_comm, eq_comm]
  · simp [hn, Decode.throw]

theorem readFixed64_eq_ok_iff {message : String} {mk : UInt64 → Value Element} {n : Nat} {v : Value Element}
    (h : off + n ≤ data.size) : (readFixed64 message mk data off n).result = .ok v ↔
      n = 8 ∧ ∃ w, v = mk w ∧ OccursAt data.bytes off (digits 8 w.toNat) := by
  rw [readFixed64, Traced.result_ite]
  by_cases hn : n = 8
  · subst hn
    simp only [ne_eq, not_true_eq_false, if_false, Traced.result_bind_eq_ok_iff, readBeU64_eq_ok_iff h,
      Traced.result_pure, Except.ok.injEq, true_and]
    exact exists_congr fun w => by rw [and_comm, eq_comm]
  · simp [hn, Decode.throw]

theorem readBoolean_eq_ok_iff {n : Nat} {v : Value Element} (h : off + n ≤ data.size) :
    (readBoolean data off n).result = .ok v ↔
      n = 8 ∧ ∃ b, v = .boolean b ∧ OccursAt data.bytes off (digits 8 (if b then 1 else 0)) := by
  rw [readBoolean, Traced.result_ite]
  by_cases hn : n = 8
  · subst hn
    simp only [ne_eq, not_true_eq_false, if_false, Traced.result_bind_eq_ok_iff, readBeU64_eq_ok_iff h,
      Traced.result_ite, Traced.result_pure, true_and]
    constructor
    · rintro ⟨raw, ho, hv⟩
      split at hv
      · cases hv
      · rename_i hraw
        cases hv
        refine ⟨raw == 1, rfl, ?_⟩
        by_cases h₁ : raw = 1
        · subst h₁
          exact ho
        · have h₀ : raw = 0 := by tauto
          subst h₀
          exact ho
    · rintro ⟨b, rfl, ho⟩
      refine ⟨if b then 1 else 0, ?_, ?_⟩
      · cases b <;> exact ho
      · cases b <;> rfl
  · simp [hn, Decode.throw]

/-- The `switch` returns the value of that type whose bytes stand there. -/
theorem readValue_eq_ok_iff {ty : TypeCode} {n : Nat} {v : Value Element} (hty : ty ≠ TypeCode.struct)
    (h : off + n ≤ data.size) : (readValue ty data off n).result = .ok v ↔
      v.typeCode = ty ∧ (Element.body v).length = n ∧ OccursAt data.bytes off (Element.body v) := by
  have hs : (data.subspan off n).bytes.length = n ∧ OccursAt data.bytes off (data.subspan off n).bytes :=
    ⟨by simp [Bytes.subspan]; exact Nat.le_sub_of_add_le' h, occursAt_slice h⟩
  constructor
  · intro hv
    by_cases h₁ : ty = TypeCode.integer
    · subst h₁
      obtain ⟨rfl, w, rfl, ho⟩ := (readFixed32_eq_ok_iff h).1 hv
      exact ⟨rfl, length_digits _ _, ho⟩
    by_cases h₂ : ty = TypeCode.longInteger
    · subst h₂
      obtain ⟨rfl, w, rfl, ho⟩ := (readFixed64_eq_ok_iff h).1 hv
      exact ⟨rfl, length_digits _ _, ho⟩
    by_cases h₃ : ty = TypeCode.boolean
    · subst h₃
      obtain ⟨rfl, w, rfl, ho⟩ := (readBoolean_eq_ok_iff h).1 hv
      exact ⟨rfl, length_digits _ _, ho⟩
    by_cases h₄ : ty = TypeCode.enumeration
    · subst h₄
      obtain ⟨rfl, w, rfl, ho⟩ := (readFixed32_eq_ok_iff h).1 hv
      exact ⟨rfl, length_digits _ _, ho⟩
    by_cases h₅ : ty = TypeCode.textString
    · subst h₅
      cases hv
      exact ⟨rfl, hs⟩
    by_cases h₆ : ty = TypeCode.byteString
    · subst h₆
      cases hv
      exact ⟨rfl, hs⟩
    by_cases h₇ : ty = TypeCode.dateTime
    · subst h₇
      obtain ⟨rfl, w, rfl, ho⟩ := (readFixed64_eq_ok_iff h).1 hv
      exact ⟨rfl, length_digits _ _, ho⟩
    by_cases h₈ : ty = TypeCode.interval
    · subst h₈
      obtain ⟨rfl, w, rfl, ho⟩ := (readFixed32_eq_ok_iff h).1 hv
      exact ⟨rfl, length_digits _ _, ho⟩
    by_cases h₉ : ty = TypeCode.bigInteger
    · subst h₉
      cases hv
      exact ⟨rfl, hs⟩
    by_cases h₁₀ : ty = TypeCode.dateTimeExtended
    · subst h₁₀
      obtain ⟨rfl, w, rfl, ho⟩ := (readFixed64_eq_ok_iff h).1 hv
      exact ⟨rfl, length_digits _ _, ho⟩
    rw [readValue, if_neg h₁, if_neg h₂, if_neg h₃, if_neg h₄, if_neg h₅, if_neg h₆, if_neg h₇, if_neg h₈, if_neg h₉,
      if_neg h₁₀] at hv
    cases hv
  · rintro ⟨rfl, hn, ho⟩
    have hb : ∀ {s : Bytes}, s.bytes.length = n → OccursAt data.bytes off s.bytes → data.subspan off n = s :=
      fun hl hs' => Bytes.ext (hs.2.unique hs' (hs.1.trans hl.symm))
    cases v with
    | struct items => exact absurd rfl hty
    | integer w => exact (readFixed32_eq_ok_iff h).2 ⟨hn.symm, w.toUInt32, rfl, ho⟩
    | enumeration w => exact (readFixed32_eq_ok_iff h).2 ⟨hn.symm, w.toUInt32, rfl, ho⟩
    | interval w => exact (readFixed32_eq_ok_iff h).2 ⟨hn.symm, w, rfl, ho⟩
    | longInteger w => exact (readFixed64_eq_ok_iff h).2 ⟨hn.symm, w.toUInt64, rfl, ho⟩
    | dateTime w => exact (readFixed64_eq_ok_iff h).2 ⟨hn.symm, w.toUInt64, rfl, ho⟩
    | dateTimeExtended w => exact (readFixed64_eq_ok_iff h).2 ⟨hn.symm, w.toUInt64, rfl, ho⟩
    | boolean b => exact (readBoolean_eq_ok_iff h).2 ⟨hn.symm, b, rfl, ho⟩
    | textString s => exact congrArg (fun s => Except.ok (Value.textString s)) (hb hn ho)
    | byteString s => exact congrArg (fun s => Except.ok (Value.byteString s)) (hb hn ho)
    | bigInteger s => exact congrArg (fun s => Except.ok (Value.bigInteger s)) (hb hn ho)

/-! ## The two branches -/

theorem replicate_length_padding (n : Nat) : List.replicate (padding n).length (0 : UInt8) = padding n := by
  rw [padding, List.length_replicate]

theorem paddedLength_of_ne {ty : TypeCode} (hty : ty ≠ TypeCode.struct) (n : Nat) :
    paddedLength ty n = n + (padding n).length := by
  rw [paddedLength, length_padding]
  by_cases h : n % 8 = 0
  · rw [if_neg (fun hc => hc.1 h)]
    omega
  · rw [if_pos ⟨h, hty⟩]
    omega

theorem readPrimitive_eq_ok_iff {t : Tag} {ty : TypeCode} {n off' : Nat} {e : Element} (hty : ty ≠ TypeCode.struct)
    (ho : off ≤ data.size) (hn : n < 2 ^ 32) :
    (readPrimitive t ty data off n).result = .ok (e, off') ↔
      ∃ v, e = ⟨t, ty, v⟩ ∧ v.typeCode = ty ∧ (Element.body v).length = n ∧
        OccursAt data.bytes off (Element.body v ++ padding n) ∧ off' = off + n + (padding n).length := by
  have hlt := data.size_lt
  have hsz : data.size = data.bytes.length := rfl
  have hp := length_padding n
  rw [readPrimitive, paddedLength_of_ne hty, sizeAdd_of_lt (by omega), Traced.result_ite]
  by_cases hfit : off + (n + (padding n).length) ≤ data.size
  · rw [if_neg (by omega)]
    simp only [Traced.result_bind_eq_ok_iff, readValue_eq_ok_iff hty (show off + n ≤ data.size by omega),
      Traced.result_pure, Except.ok.injEq, Prod.mk.injEq, validateZeroPadding, Nat.add_sub_cancel_left,
      zeroLoop_eq_ok_iff (show off + n + (padding n).length ≤ data.size by omega), occursAt_append,
      replicate_length_padding]
    constructor
    · rintro ⟨v, ⟨h₁, h₂, h₃⟩, -, h₄, rfl, rfl⟩
      exact ⟨v, rfl, h₁, h₂, ⟨h₃, by rw [h₂]; exact h₄⟩, (Nat.add_assoc _ _ _).symm⟩
    · rintro ⟨v, rfl, h₁, h₂, ⟨h₃, h₄⟩, rfl⟩
      rw [h₂] at h₄
      exact ⟨v, ⟨h₁, h₂, h₃⟩, (), h₄, rfl, (Nat.add_assoc _ _ _).symm⟩
  · rw [if_pos (by omega)]
    refine iff_of_false (by simp [Decode.throw]) ?_
    rintro ⟨v, -, -, h₂, h₃, -⟩
    have := h₃.le
    rw [List.length_append] at this
    omega

section Structures

variable {G : Element → Prop} {view : List UInt8} {child : Nat → Decode (Element × Nat)}

/-- The loop returns the children whose encodings fill the rest of the view. -/
theorem structLoop_eq_ok_iff (hc : ∀ {o o' c}, o ≤ view.length → ((child o).result = .ok (c, o') ↔
      G c ∧ OccursAt view o (Element.encode c) ∧ o' = o + (Element.encode c).length)) {length : Nat} :
    ∀ {fuel offset current : Nat} {items items' : List Element} {offset' : Nat}, length < fuel + current →
      current ≤ length → offset + (length - current) = view.length →
      ((structLoop child length fuel offset current items).result = .ok (items', offset') ↔
        ∃ new, items' = items ++ new ∧ (∀ c ∈ new, G c) ∧ OccursAt view offset (Element.encodeItems new) ∧
          (Element.encodeItems new).length = length - current ∧ offset' = view.length)
  | 0, offset, current, items, items', offset', hf, hle, _ => by omega
  | fuel + 1, offset, current, items, items', offset', hf, hle, hv => by
    rw [structLoop, Traced.result_ite]
    by_cases hlt : current < length
    · rw [if_pos hlt]
      simp only [Traced.result_bind_eq_ok_iff, Prod.exists, hc (show offset ≤ view.length by omega)]
      constructor
      · rintro ⟨c, o, ⟨hg, ho, rfl⟩, hr⟩
        have hle := ho.le
        have h₈ := Element.le_length_encode c
        rw [Nat.add_sub_cancel_left] at hr
        obtain ⟨new, rfl, hn, hon, hln, rfl⟩ := (structLoop_eq_ok_iff hc (by omega) (by omega) (by omega)).1 hr
        refine ⟨c :: new, by simp, by simpa using ⟨hg, hn⟩, ?_, ?_, rfl⟩
        · rw [Element.encodeItems]
          exact occursAt_append.2 ⟨ho, hon⟩
        · rw [Element.encodeItems, List.length_append]
          omega
      · rintro ⟨new, rfl, hn, hon, hln, rfl⟩
        cases new with
        | nil =>
          rw [Element.encodeItems, List.length_nil] at hln
          omega
        | cons c new =>
          rw [Element.encodeItems, List.length_append] at hln
          rw [Element.encodeItems, occursAt_append] at hon
          have h₈ := Element.le_length_encode c
          refine ⟨c, _, ⟨hn c (by simp), hon.1, rfl⟩, ?_⟩
          rw [Nat.add_sub_cancel_left]
          refine (structLoop_eq_ok_iff hc (by omega) (by omega) (by omega)).2 ⟨new, by simp, ?_, hon.2, by omega, rfl⟩
          exact fun c hc => hn c (by simp [hc])
    · rw [if_neg hlt, Traced.result_pure, Except.ok.injEq, Prod.mk.injEq]
      constructor
      · rintro ⟨rfl, rfl⟩
        refine ⟨[], by simp, by simp, ?_, ?_, by omega⟩
        · rw [Element.encodeItems, occursAt_nil]
          omega
        · rw [Element.encodeItems, List.length_nil]
          omega
      · rintro ⟨new, rfl, hn, hon, hln, rfl⟩
        cases new with
        | nil => exact ⟨by simp, by omega⟩
        | cons c new =>
          have h₈ := Element.le_length_encode c
          rw [Element.encodeItems, List.length_append] at hln
          omega

end Structures

theorem readStructure_eq_ok_iff {G : Element → Prop} {child : Bytes → Nat → Decode (Element × Nat)}
    (hc : ∀ {view : Bytes} {o o' c}, o ≤ view.size → ((child view o).result = .ok (c, o') ↔
      G c ∧ OccursAt view.bytes o (Element.encode c) ∧ o' = o + (Element.encode c).length))
    {t : Tag} {n off' : Nat} {e : Element} (ho : off ≤ data.size) (hn : n < 2 ^ 32) :
    (readStructure child t data off n).result = .ok (e, off') ↔
      ∃ items, e = ⟨t, TypeCode.struct, .struct items⟩ ∧ (∀ c ∈ items, G c) ∧
        (Element.encodeItems items).length = n ∧ OccursAt data.bytes off (Element.encodeItems items) ∧
        off' = off + n := by
  have hlt := data.size_lt
  have hsz : data.size = data.bytes.length := rfl
  rw [readStructure, sizeAdd_of_lt (by omega), Traced.result_ite]
  by_cases hfit : off + n ≤ data.size
  · have hlen := Bytes.length_subspan hfit
    rw [if_neg (by omega), Traced.result_bind, result_view, Except.ok_bind]
    simp only [Traced.result_bind_eq_ok_iff, Traced.result_pure, Except.ok.injEq, Prod.exists, Prod.mk.injEq]
    constructor
    · rintro ⟨items, o, hr, rfl, rfl⟩
      obtain ⟨_, rfl, hg, hon, hln, rfl⟩ := (structLoop_eq_ok_iff hc (by omega) (by omega) (by omega)).1 hr
      rw [Bytes.bytes_subspan_zero, occursAt_take] at hon
      exact ⟨items, rfl, hg, hln, hon.1, hlen⟩
    · rintro ⟨items, rfl, hg, hln, hon, rfl⟩
      refine ⟨items, _, ?_, rfl, rfl⟩
      refine (structLoop_eq_ok_iff hc (by omega) (by omega) (by omega)).2 ⟨items, by simp, hg, ?_, by omega, by omega⟩
      rw [Bytes.bytes_subspan_zero, occursAt_take]
      exact ⟨hon, by omega⟩
  · rw [if_pos (by omega)]
    refine iff_of_false (by simp [Decode.throw]) ?_
    rintro ⟨items, -, -, hln, hon, -⟩
    have := hon.le
    omega

/-! ## Trees -/

open Element

/-- The header in front of an encoding is that of the tree. -/
theorem Element.Encodable.header_eq {l : List UInt8} {t : Tag} {ty : TypeCode} {n : Nat} (ht : t.toNat < 2 ^ 24)
    (hy : ty.toNat < 256) (hn : n < 2 ^ 32) (hoh : OccursAt l off (header t ty n)) {e : Element} (he : Encodable e)
    (hoe : OccursAt l off (encode e)) : e.tag = t ∧ e.type = ty ∧ (body e.value).length = n := by
  obtain ⟨t', ty', v⟩ := e
  obtain ⟨ht', hty'⟩ := he.wellFormed.root
  have hn' := he.fits.root
  rw [encode, List.append_assoc, occursAt_append] at hoe
  have hy' : ty'.toNat < 256 := (congrArg UInt32.toNat hty').trans_lt v.typeCode_lt
  exact header_inj ht' ht hy' hy hn' hn (hoe.1.unique hoh (by simp))

/-- The decoder returns a tree exactly when its encoding stands at the offset, it is encodable and the levels that are
left suffice for it. -/
theorem deserializeImpl_eq_ok_iff : ∀ {levels : Nat} {data : Bytes} {off off' : Nat} {e : Element}, off ≤ data.size →
    ((deserializeImpl levels data off).result = .ok (e, off') ↔
      (Encodable e ∧ e.height < levels) ∧ OccursAt data.bytes off (encode e) ∧ off' = off + (encode e).length)
  | 0, data, off, off', e, _ => by simp [deserializeImpl, Decode.throw]
  | levels + 1, data, off, off', e, ho => by
    have hlt := data.size_lt
    have hsz : data.size = data.bytes.length := rfl
    rw [deserializeImpl, sizeAdd_of_lt (by omega), Traced.result_ite]
    by_cases hfit : off + 8 ≤ data.size
    · obtain ⟨t, ty, n, hr, ht, hy, hoh⟩ := readHeader_spec hfit
      rw [if_neg (by omega), Traced.result_bind, hr, Except.ok_bind]
      dsimp only
      rw [Traced.result_ite]
      by_cases hs : ty = TypeCode.struct
      · subst hs
        rw [if_pos rfl, readStructure_eq_ok_iff deserializeImpl_eq_ok_iff hfit n.toNat_lt]
        constructor
        · rintro ⟨items, rfl, hg, hln, hon, rfl⟩
          rw [encode_struct, hln, occursAt_append, List.length_append, length_header, encodable_struct, hln, height,
            valueHeight, Nat.lt_succ_iff, itemsHeight_le_iff]
          exact ⟨⟨⟨ht, rfl, n.toNat_lt, fun c hc => (hg c hc).1⟩, fun c hc => (hg c hc).2⟩, ⟨hoh, hon⟩, by omega⟩
        · rintro ⟨⟨he, hh⟩, hoe, rfl⟩
          obtain ⟨t', ty', v⟩ := e
          obtain ⟨rfl, rfl, hln⟩ := he.header_eq ht hy n.toNat_lt hoh hoe
          obtain ⟨items, rfl⟩ := Value.eq_struct he.wellFormed.root.2.symm
          rw [encode_struct, occursAt_append, length_header] at hoe
          rw [encodable_struct] at he
          rw [height, valueHeight, Nat.lt_succ_iff, itemsHeight_le_iff] at hh
          refine ⟨items, rfl, fun c hc => ⟨he.2.2.2 c hc, hh c hc⟩, hln, hoe.2, ?_⟩
          rw [encode_struct, List.length_append, length_header, ← hln, body]
          omega
      · rw [if_neg hs, readPrimitive_eq_ok_iff hs hfit n.toNat_lt]
        constructor
        · rintro ⟨v, rfl, hv, hln, hon, rfl⟩
          subst hv
          rw [encodable_primitive hs, height_primitive hs, encode, hln, List.append_assoc, occursAt_append,
            length_header]
          refine ⟨⟨⟨ht, rfl, n.toNat_lt⟩, by omega⟩, ⟨hoh, hon⟩, ?_⟩
          simp only [List.length_append, length_header, hln]
          omega
        · rintro ⟨⟨he, hh⟩, hoe, rfl⟩
          obtain ⟨t', ty', v⟩ := e
          obtain ⟨rfl, rfl, hln⟩ := he.header_eq ht hy n.toNat_lt hoh hoe
          have hv := he.wellFormed.root.2
          rw [encode, List.append_assoc, occursAt_append, length_header] at hoe
          refine ⟨v, rfl, hv.symm, hln, hln ▸ hoe.2, ?_⟩
          rw [length_encode, length_padding, ← hln]
          dsimp only
          omega
    · rw [if_pos (by omega)]
      refine iff_of_false (by simp [Decode.throw]) ?_
      rintro ⟨-, hoe, -⟩
      have := hoe.le
      have := le_length_encode e
      omega

/-- What `Element::deserialize` accepts. -/
theorem deserialize_eq_ok_iff {off' : Nat} {e : Element} (ho : off ≤ data.size) :
    (deserialize data off).result = .ok (e, off') ↔
      (Encodable e ∧ e.height ≤ kmipMaxStructureDepth) ∧ OccursAt data.bytes off (encode e) ∧
        off' = off + (encode e).length := by
  rw [deserialize, deserializeImpl_eq_ok_iff ho, Nat.lt_succ_iff]

/-! ## The decoder returns or throws -/

section Raises

open Except Traced

variable {P : Abort → Prop} (hP : ∀ text, P (.message text))

include hP

theorem raises_throw {α : Type} (message : String) : (Decode.throw message : Decode α).result.Raises P :=
  (raises_error _).2 (hP message)

theorem raises_zeroLoop : ∀ {n off : Nat}, (zeroLoop data off n).result.Raises P
  | 0, _ => raises_ok ()
  | n + 1, off => by
    rw [zeroLoop, result_bind]
    refine Raises.bind (raises_ok _) fun b _ => ?_
    rw [result_ite]
    exact Raises.ite (fun _ => raises_throw hP _) fun _ => raises_zeroLoop

theorem raises_readFixed32 {message : String} {mk : UInt32 → Value Element} {n : Nat} :
    (readFixed32 message mk data off n).result.Raises P := by
  rw [readFixed32, result_ite]
  exact Raises.ite (fun _ => raises_throw hP _) fun _ => raises_ok _

theorem raises_readFixed64 {message : String} {mk : UInt64 → Value Element} {n : Nat} :
    (readFixed64 message mk data off n).result.Raises P := by
  rw [readFixed64, result_ite]
  exact Raises.ite (fun _ => raises_throw hP _) fun _ => raises_ok _

theorem raises_readBoolean {n : Nat} : (readBoolean data off n).result.Raises P := by
  rw [readBoolean, result_ite]
  refine Raises.ite (fun _ => raises_throw hP _) fun _ => ?_
  rw [result_bind]
  refine Raises.bind (raises_ok _) fun raw _ => ?_
  rw [result_ite]
  exact Raises.ite (fun _ => raises_throw hP _) fun _ => raises_ok _

theorem raises_readValue {ty : TypeCode} {n : Nat} : (readValue ty data off n).result.Raises P := by
  unfold readValue
  simp only [result_ite, raises_ite]
  refine ⟨fun _ => raises_readFixed32 hP, fun _ => ⟨fun _ => raises_readFixed64 hP, fun _ =>
    ⟨fun _ => raises_readBoolean hP, fun _ => ⟨fun _ => raises_readFixed32 hP, fun _ => ⟨fun _ => raises_ok _, fun _ =>
    ⟨fun _ => raises_ok _, fun _ => ⟨fun _ => raises_readFixed64 hP, fun _ => ⟨fun _ => raises_readFixed32 hP, fun _ =>
    ⟨fun _ => raises_ok _, fun _ => ⟨fun _ => raises_readFixed64 hP, fun _ => raises_throw hP _⟩⟩⟩⟩⟩⟩⟩⟩⟩⟩

theorem raises_readPrimitive {t : Tag} {ty : TypeCode} {n : Nat} :
    (readPrimitive t ty data off n).result.Raises P := by
  rw [readPrimitive, result_ite]
  refine Raises.ite (fun _ => raises_throw hP _) fun _ => ?_
  rw [result_bind]
  refine (raises_readValue hP).bind fun value _ => ?_
  rw [result_bind]
  exact (raises_zeroLoop hP).bind fun _ _ => raises_ok _

omit hP in
theorem raises_structLoop (hd : P .diverged) {child : Nat → Decode (Element × Nat)}
    (hc : ∀ o, (child o).result.Raises P) {length : Nat} :
    ∀ {fuel offset current : Nat} {items : List Element},
      (structLoop child length fuel offset current items).result.Raises P
  | 0, _, _, _ => (raises_error _).2 hd
  | fuel + 1, offset, current, items => by
    rw [structLoop, result_ite]
    refine Raises.ite (fun _ => ?_) fun _ => raises_ok _
    rw [result_bind]
    exact (hc offset).bind fun _ _ => raises_structLoop hd hc

theorem raises_deserializeImpl (hd : P .diverged) : ∀ {levels : Nat} {data : Bytes} {off : Nat},
    (deserializeImpl levels data off).result.Raises P
  | 0, _, _ => raises_throw hP _
  | levels + 1, data, off => by
    rw [deserializeImpl, result_ite]
    refine Raises.ite (fun _ => raises_throw hP _) fun _ => ?_
    rw [result_bind]
    refine Raises.bind (raises_ok _) fun ⟨t, ty, n⟩ _ => ?_
    rw [result_ite]
    refine Raises.ite (fun _ => ?_) fun _ => raises_readPrimitive hP
    rw [readStructure, result_ite]
    refine Raises.ite (fun _ => raises_throw hP _) fun _ => ?_
    rw [result_bind]
    refine Raises.bind (raises_ok _) fun view _ => ?_
    rw [result_bind]
    exact (raises_structLoop hd fun o => raises_deserializeImpl hd).bind fun _ _ => raises_ok _

end Raises

/-- Each child consumes at least eight bytes, so that the loop ends before its fuel does. -/
theorem structLoop_avoids {child : Nat → Decode (Element × Nat)} {view : List UInt8}
    (hc : ∀ {o o' c}, o ≤ view.length → (child o).result = .ok (c, o') → o + 8 ≤ o' ∧ o' ≤ view.length)
    (hd : ∀ {o}, o ≤ view.length → (child o).Avoids .diverged) {length : Nat} :
    ∀ {fuel offset current : Nat} {items : List Element}, length < fuel + current → current ≤ length →
      offset + (length - current) = view.length → (structLoop child length fuel offset current items).Avoids .diverged
  | 0, offset, current, items, hf, hle, _ => by omega
  | fuel + 1, offset, current, items, hf, hle, hv => by
    refine Traced.avoids_ite (fun hlt => ?_) fun _ h => by cases h
    refine Traced.avoids_bind (hd (by omega)) fun r hr => ?_
    obtain ⟨h₁, h₂⟩ := hc (by omega) hr
    exact structLoop_avoids hc hd (by omega) (by omega) (by omega)

/-- The decoder never runs on. -/
theorem deserializeImpl_avoids : ∀ {levels : Nat} {data : Bytes} {off : Nat}, off ≤ data.size →
    (deserializeImpl levels data off).Avoids .diverged
  | 0, data, off, _ => fun h => by cases h
  | levels + 1, data, off, ho => by
    have hthrow : ∀ {α : Type} (message : String), (Decode.throw message : Decode α).Avoids .diverged :=
      fun _ h => by cases h
    have hlt := data.size_lt
    have hsz : data.size = data.bytes.length := rfl
    rw [deserializeImpl, sizeAdd_of_lt (by omega)]
    refine Traced.avoids_ite (fun _ => hthrow _) fun hfit => ?_
    refine Traced.avoids_bind (fun h => by cases h) fun ⟨t, ty, n⟩ _ => ?_
    refine Traced.avoids_ite (fun _ => ?_) fun _ h =>
      raises_readPrimitive (P := (· ≠ .diverged)) (fun _ h => by cases h) _ h rfl
    have hn := n.toNat_lt
    rw [readStructure, sizeAdd_of_lt (by omega)]
    refine Traced.avoids_ite (fun _ => hthrow _) fun hbody => ?_
    refine Traced.avoids_bind (fun h => by cases h) fun view hview => ?_
    cases hview
    have hlen := @Bytes.length_subspan data (off + 8 + n.toNat) (by omega)
    refine Traced.avoids_bind
      (structLoop_avoids (fun hle hr => ?_) deserializeImpl_avoids (by omega) (by omega) (by omega))
      fun _ _ h => by cases h
    obtain ⟨-, hoc, rfl⟩ := (deserializeImpl_eq_ok_iff hle).1 hr
    exact ⟨Nat.add_le_add_left (le_length_encode _) _, hoc.le⟩

/-! ## Trees that are too deep -/

/-- The children are decoded in order, so that the first one that fails ends the loop. -/
theorem structLoop_eq_error {G : Element → Prop} {view : List UInt8} {child : Nat → Decode (Element × Nat)} {a : Abort}
    (hc : ∀ {o o' c}, o ≤ view.length → ((child o).result = .ok (c, o') ↔
      G c ∧ OccursAt view o (encode c) ∧ o' = o + (encode c).length)) {length : Nat} :
    ∀ {new items : List Element} {fuel offset current : Nat}, length < fuel + current →
      OccursAt view offset (encodeItems new) → (encodeItems new).length = length - current →
      (∀ c ∈ new, ∀ o, OccursAt view o (encode c) → ¬G c → (child o).result = .error a) → (∃ c ∈ new, ¬G c) →
      (structLoop child length fuel offset current items).result = .error a
  | [], _, _, _, _, _, _, _, _, h => by simp at h
  | c :: new, items, 0, offset, current, hf, ho, hl, _, _ => by
    have := le_length_encode c
    rw [encodeItems, List.length_append] at hl
    omega
  | c :: new, items, fuel + 1, offset, current, hf, ho, hl, hd, hex => by
    have h₈ := le_length_encode c
    have hle := ho.le
    rw [encodeItems, List.length_append] at hl hle
    rw [encodeItems, occursAt_append] at ho
    rw [structLoop, if_pos (by omega), Traced.result_bind]
    by_cases hg : G c
    · rw [(hc (by omega)).2 ⟨hg, ho.1, rfl⟩, Except.ok_bind]
      dsimp only
      rw [Nat.add_sub_cancel_left]
      refine structLoop_eq_error hc (by omega) ho.2 (by omega) (fun d hm => hd d (List.mem_cons_of_mem _ hm)) ?_
      simpa [hg] using hex
    · rw [hd c List.mem_cons_self _ ho.1 hg, Except.error_bind]

/-- A tree with a node below the last level is rejected for that reason, whatever stands around it. -/
theorem deserializeImpl_too_deep : ∀ {levels : Nat} {data : Bytes} {off : Nat} {e : Element}, Encodable e →
    levels ≤ e.height → OccursAt data.bytes off (encode e) → (deserializeImpl levels data off).result =
      .error (.message "TTLV structure nesting depth exceeds limit")
  | 0, data, off, e, _, _, _ => rfl
  | levels + 1, data, off, ⟨t, ty, v⟩, he, hh, hoe => by
    have hle := hoe.le
    have h₈ := le_length_encode ⟨t, ty, v⟩
    have hlt := data.size_lt
    have hsz : data.size = data.bytes.length := rfl
    -- a primitive has no level below it
    have hs : v.typeCode = TypeCode.struct := by
      by_contra hv
      rw [height_primitive hv] at hh
      omega
    obtain ⟨items, rfl⟩ := Value.eq_struct hs
    rw [deserializeImpl, sizeAdd_of_lt (by omega), if_neg (by omega), Traced.result_bind]
    obtain ⟨t', ty', n, hr, ht, hy, hoh⟩ := @readHeader_spec data off (by omega)
    obtain ⟨rfl, rfl, hln⟩ := he.header_eq ht hy n.toNat_lt hoh hoe
    replace hln : (encodeItems items).length = n.toNat := hln
    obtain ⟨-, hty, -, hce⟩ := encodable_struct.1 he
    rw [encode_struct, occursAt_append, length_header] at hoe
    have hle' := hoe.2.le
    have hlen := @Bytes.length_subspan data (off + 8 + n.toNat) (by omega)
    rw [hr, Except.ok_bind]
    dsimp only
    rw [if_pos hty, readStructure, sizeAdd_of_lt (by omega), if_neg (by omega), Traced.result_bind, result_view,
      Except.ok_bind, Traced.result_bind]
    have hloop : (structLoop (deserializeImpl levels (data.subspan 0 (off + 8 + n.toNat))) n.toNat (n.toNat + 1)
        (off + 8) 0 []).result = .error (.message "TTLV structure nesting depth exceeds limit") := by
      refine structLoop_eq_error deserializeImpl_eq_ok_iff (by omega) ?_ (by omega) (fun c hc o ho hg => ?_) ?_
      · rw [Bytes.bytes_subspan_zero, occursAt_take]
        exact ⟨hoe.2, by omega⟩
      · exact deserializeImpl_too_deep (hce c hc) (by_contra fun hlt => hg ⟨hce c hc, by omega⟩) ho
      · by_contra hall
        push Not at hall
        rw [height, valueHeight, Nat.succ_le_iff, ← Nat.not_le, itemsHeight_le_iff] at hh
        exact hh fun c hc => (hall c hc).2
    rw [hloop, Except.error_bind]

end Kmip
