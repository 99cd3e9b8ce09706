import Kmip.Core.Codec

/-!
# Which accesses leave their span

Every access that the decoder makes is checked against the size of its view beforehand, with one exception: a Text
String is built from `&data[offset]` also when its length is zero, and then `offset` may be one past the end of the
view. `Safe x` says that all accesses of `x` are in bounds.

* `safe_readValue_iff` finds the exception in the `switch`, and `safe_readPrimitive_iff` says it for a whole node.
* `not_safe_structLoop_iff` follows the loop over a body: the children before the bad one are decoded.
* `deserialize_safe_iff`: the accesses of a call are in bounds unless an empty Text String ends at the end of its view
  (`EmptyTextAtEnd`).
-/

namespace Kmip

open BigEndian
open SerializationBuffer (padding length_padding)
open Element

/-- Every access is in bounds. -/
def Safe {α : Type} (x : Decode α) : Prop := x.Logs Access.InBounds

instance {α : Type} (x : Decode α) : Decidable (Safe x) := inferInstanceAs (Decidable (∀ s ∈ x.log, s.InBounds))

section Parts

variable {α β : Type} {data : Bytes} {off n : Nat}

theorem safe_bind {x : Decode α} {f : α → Decode β} :
    Safe (x >>= f) ↔ Safe x ∧ ∀ a, x.result = .ok a → Safe (f a) := Traced.logs_bind x f

theorem safe_pure (a : α) : Safe (pure a : Decode α) := Traced.logs_pure a

theorem safe_throw (message : String) : Safe (Decode.throw message : Decode α) := Traced.logs_raise _

theorem safe_ite {c : Prop} [Decidable c] {x y : Decode α} (hx : c → Safe x) (hy : ¬c → Safe y) :
    Safe (if c then x else y) := by
  split
  · exact hx (by assumption)
  · exact hy (by assumption)

theorem safe_addressOf {i : Nat} : Safe (data.addressOf i) ↔ i < data.size := Traced.logs_emit _

theorem safe_read {i : Nat} (h : i < data.size) : Safe (data.read i) :=
  safe_bind.2 ⟨safe_addressOf.2 h, fun _ _ => safe_pure _⟩

theorem safe_view (h : off + n ≤ data.size) : Safe (data.view off n) :=
  safe_bind.2 ⟨(Traced.logs_emit _).2 h, fun _ _ => safe_pure _⟩

/-! ## The parts of a node -/

theorem safe_readBeU32 (h : off + 4 ≤ data.size) : Safe (readBeU32 data off) := by
  refine safe_bind.2 ⟨safe_read (by omega), fun _ _ => safe_bind.2 ⟨safe_read (by omega), fun _ _ => ?_⟩⟩
  refine safe_bind.2 ⟨safe_read (by omega), fun _ _ => safe_bind.2 ⟨safe_read (by omega), fun _ _ => safe_pure _⟩⟩

theorem safe_readBeU64 (h : off + 8 ≤ data.size) : Safe (readBeU64 data off) := by
  refine safe_bind.2 ⟨safe_read (by omega), fun _ _ => safe_bind.2 ⟨safe_read (by omega), fun _ _ => ?_⟩⟩
  refine safe_bind.2 ⟨safe_read (by omega), fun _ _ => safe_bind.2 ⟨safe_read (by omega), fun _ _ => ?_⟩⟩
  refine safe_bind.2 ⟨safe_read (by omega), fun _ _ => safe_bind.2 ⟨safe_read (by omega), fun _ _ => ?_⟩⟩
  refine safe_bind.2 ⟨safe_read (by omega), fun _ _ => safe_bind.2 ⟨safe_read (by omega), fun _ _ => safe_pure _⟩⟩

theorem safe_readHeader (h : off + 8 ≤ data.size) : Safe (readHeader data off) := by
  refine safe_bind.2 ⟨safe_read (by omega), fun _ _ => safe_bind.2 ⟨safe_read (by omega), fun _ _ => ?_⟩⟩
  refine safe_bind.2 ⟨safe_read (by omega), fun _ _ => safe_bind.2 ⟨safe_read (by omega), fun _ _ => ?_⟩⟩
  exact safe_bind.2 ⟨safe_readBeU32 (by omega), fun _ _ => safe_pure _⟩

theorem safe_zeroLoop : ∀ {n off : Nat}, off + n ≤ data.size → Safe (zeroLoop data off n)
  | 0, _, _ => safe_pure _
  | n + 1, off, h => safe_bind.2 ⟨safe_read (by omega), fun _ _ =>
      safe_ite (fun _ => safe_throw _) fun _ => safe_zeroLoop (by omega)⟩

theorem safe_readFixed32 {message : String} {mk : UInt32 → Value Element} (h : off + n ≤ data.size) :
    Safe (readFixed32 message mk data off n) :=
  safe_ite (fun _ => safe_throw _) fun hn => safe_bind.2 ⟨safe_readBeU32 (by omega), fun _ _ => safe_pure _⟩

theorem safe_readFixed64 {message : String} {mk : UInt64 → Value Element} (h : off + n ≤ data.size) :
    Safe (readFixed64 message mk data off n) :=
  safe_ite (fun _ => safe_throw _) fun hn => safe_bind.2 ⟨safe_readBeU64 (by omega), fun _ _ => safe_pure _⟩

theorem safe_readBoolean (h : off + n ≤ data.size) : Safe (readBoolean data off n) :=
  safe_ite (fun _ => safe_throw _) fun hn => safe_bind.2 ⟨safe_readBeU64 (by omega), fun _ _ =>
    safe_ite (fun _ => safe_throw _) fun _ => safe_pure _⟩

/-- The address of a Text String is the only access of the `switch` that is not checked. -/
theorem safe_readValue_iff {ty : TypeCode} (h : off + n ≤ data.size) :
    Safe (readValue ty data off n) ↔ ¬(ty = TypeCode.textString ∧ off = data.size) := by
  by_cases ht : ty = TypeCode.textString
  · subst ht
    rw [show readValue TypeCode.textString data off n = (do
      data.addressOf off
      pure (.textString (data.subspan off n))) from rfl, safe_bind, safe_addressOf]
    simp only [true_and]
    constructor
    · rintro ⟨hlt, -⟩
      omega
    · intro hne
      exact ⟨by omega, fun _ _ => safe_pure _⟩
  · refine iff_of_true ?_ (fun hc => ht hc.1)
    refine safe_ite (fun _ => safe_readFixed32 h) fun _ => safe_ite (fun _ => safe_readFixed64 h) fun _ =>
      safe_ite (fun _ => safe_readBoolean h) fun _ => safe_ite (fun _ => safe_readFixed32 h) fun _ =>
      safe_ite (fun hc => absurd hc ht) fun _ => safe_ite (fun _ => ?_) fun _ =>
      safe_ite (fun _ => safe_readFixed64 h) fun _ => safe_ite (fun _ => safe_readFixed32 h) fun _ =>
      safe_ite (fun _ => ?_) fun _ => safe_ite (fun _ => safe_readFixed64 h) fun _ => safe_throw _
    all_goals exact safe_bind.2 ⟨safe_view h, fun _ _ => safe_pure _⟩

theorem safe_readPrimitive_iff {t : Tag} {ty : TypeCode} (hty : ty ≠ TypeCode.struct) (ho : off ≤ data.size)
    (hn : n < 2 ^ 32) : Safe (readPrimitive t ty data off n) ↔
      ¬(ty = TypeCode.textString ∧ n = 0 ∧ off = data.size) := by
  have hlt := data.size_lt
  have hsz : data.size = data.bytes.length := rfl
  have hp := length_padding n
  rw [readPrimitive, paddedLength_of_ne hty, sizeAdd_of_lt (by omega)]
  by_cases hfit : off + (n + (padding n).length) ≤ data.size
  · rw [if_neg (by omega), safe_bind, safe_readValue_iff (by omega), and_iff_left]
    · exact not_congr (and_congr_right fun _ => ⟨fun h => ⟨by omega, h⟩, fun h => h.2⟩)
    · intro v _
      refine safe_bind.2 ⟨?_, fun _ _ => safe_pure _⟩
      rw [validateZeroPadding, Nat.add_sub_cancel_left]
      exact safe_zeroLoop (by omega)
  · rw [if_pos (by omega)]
    refine iff_of_true (safe_throw _) ?_
    rintro ⟨-, rfl, rfl⟩
    exact hfit (by rw [hp]; omega)

end Parts

/-! ## The loop -/

/-- The loop is unsafe when it gets, past children that it decodes, to one whose decoding is. -/
theorem not_safe_structLoop_iff {G : Element → Prop} {B : List UInt8 → Prop} {view : List UInt8}
    {child : Nat → Decode (Element × Nat)}
    (hc : ∀ {o o' c}, o ≤ view.length → ((child o).result = .ok (c, o') ↔
      G c ∧ OccursAt view o (encode c) ∧ o' = o + (encode c).length))
    (hb : ∀ {o}, o ≤ view.length → (¬Safe (child o) ↔ B (view.drop o))) (hB : ∀ {l}, B l → 8 ≤ l.length)
    {length : Nat} :
    ∀ {fuel offset current : Nat} {items : List Element}, length < fuel + current → current ≤ length →
      offset + (length - current) = view.length →
      (¬Safe (structLoop child length fuel offset current items) ↔
        ∃ new, (∀ c ∈ new, G c) ∧ OccursAt view offset (encodeItems new) ∧
          B (view.drop (offset + (encodeItems new).length)))
  | 0, offset, current, items, hf, hle, _ => by omega
  | fuel + 1, offset, current, items, hf, hle, hv => by
    rw [structLoop]
    by_cases hlt : current < length
    · rw [if_pos hlt, safe_bind, not_and_or, hb (by omega)]
      push Not
      constructor
      · rintro (h | ⟨⟨c, o⟩, hr, hs⟩)
        · refine ⟨[], by simp, ?_, by simpa [encodeItems] using h⟩
          rw [encodeItems, occursAt_nil]
          omega
        · obtain ⟨hg, hoc, rfl⟩ := (hc (by omega)).1 hr
          have hle' := hoc.le
          have h₈ := le_length_encode c
          dsimp only at hs
          rw [Nat.add_sub_cancel_left, not_safe_structLoop_iff hc hb hB (by omega) (by omega) (by omega)] at hs
          obtain ⟨new, hg', hon, hbn⟩ := hs
          refine ⟨c :: new, by simpa using ⟨hg, hg'⟩, ?_, ?_⟩
          · rw [encodeItems]
            exact occursAt_append.2 ⟨hoc, hon⟩
          · rw [encodeItems, List.length_append, ← Nat.add_assoc]
            exact hbn
      · rintro ⟨new, hg, hon, hbn⟩
        cases new with
        | nil => exact .inl (by simpa [encodeItems] using hbn)
        | cons c new =>
          have hle' := hon.le
          have h₈ := le_length_encode c
          rw [encodeItems, occursAt_append] at hon
          rw [encodeItems, List.length_append] at hle' hbn
          rw [← Nat.add_assoc] at hbn
          refine .inr ⟨(c, _), (hc (by omega)).2 ⟨hg c (by simp), hon.1, rfl⟩, ?_⟩
          dsimp only
          rw [Nat.add_sub_cancel_left, not_safe_structLoop_iff hc hb hB (by omega) (by omega) (by omega)]
          exact ⟨new, fun d hd => hg d (List.mem_cons_of_mem _ hd), hon.2, hbn⟩
    · rw [if_neg hlt]
      refine iff_of_false (not_not.2 (safe_pure _)) ?_
      rintro ⟨new, -, hon, hbn⟩
      have h₈ := hB hbn
      have hle' := hon.le
      rw [List.length_drop] at h₈
      omega

/-! ## Trees -/

/-- With `levels` nesting levels left, the bytes lead the decoder to an empty Text String whose header ends at the end
of its view: either they are that header, or they begin with a structure whose body consists of trees that are decoded
and of such bytes. -/
inductive EmptyTextAtEnd : Nat → List UInt8 → Prop
  | here {levels : Nat} {t : Tag} (tag : t.toNat < 2 ^ 24) :
      EmptyTextAtEnd (levels + 1) (header t TypeCode.textString 0)
  | inside {levels : Nat} {t : Tag} {children : List Element} {last rest : List UInt8} (tag : t.toNat < 2 ^ 24)
      (decoded : ∀ c ∈ children, Encodable c ∧ c.height < levels) (bad : EmptyTextAtEnd levels last)
      (fits : (encodeItems children ++ last).length < 2 ^ 32) :
      EmptyTextAtEnd (levels + 1)
        (header t TypeCode.struct (encodeItems children ++ last).length ++ (encodeItems children ++ last) ++ rest)

theorem EmptyTextAtEnd.le_length {levels : Nat} {l : List UInt8} (h : EmptyTextAtEnd levels l) : 8 ≤ l.length := by
  cases h with
  | here tag => simp
  | inside tag decoded bad fits =>
    rw [List.length_append, List.length_append, length_header]
    omega

/-- A node of a primitive type is unsafe when it is an empty Text String at the end. -/
theorem emptyTextAtEnd_primitive_iff {levels off n : Nat} {data : Bytes} {t : Tag} {ty : TypeCode}
    (hfit : off + 8 ≤ data.size) (ht : t.toNat < 2 ^ 24) (hy : ty.toNat < 256) (hn : n < 2 ^ 32)
    (hoh : OccursAt data.bytes off (header t ty n)) (hs : ty ≠ TypeCode.struct) :
    EmptyTextAtEnd (levels + 1) (data.bytes.drop off) ↔
      ty = TypeCode.textString ∧ n = 0 ∧ off + 8 = data.size := by
  have hsz : data.size = data.bytes.length := rfl
  have hd := hoh.drop_eq
  rw [length_header] at hd
  constructor
  · intro h
    generalize hl : data.bytes.drop off = l at h
    cases h with
    | here tag =>
      have hlen := congrArg List.length hl
      rw [List.length_drop, length_header] at hlen
      obtain ⟨-, h₂, h₃⟩ := header_inj ht tag hy (by decide) hn (by decide)
        (hoh.unique (occursAt_of_drop_eq (by omega) (hl.trans (List.append_nil _).symm)) (by simp))
      exact ⟨h₂, h₃, by omega⟩
    | inside tag decoded bad fits =>
      rw [List.append_assoc] at hl
      obtain ⟨-, h₂, -⟩ := header_inj ht tag hy (by decide) hn fits
        (hoh.unique (occursAt_of_drop_eq (by omega) hl) (by simp))
      exact absurd h₂ hs
  · rintro ⟨rfl, rfl, hend⟩
    rw [hd, List.drop_eq_nil_of_le (by omega), List.append_nil]
    exact .here ht

/-- A structure is unsafe when its body fits the view and its loop is. -/
theorem emptyTextAtEnd_struct_iff {levels off n : Nat} {data : Bytes} {t : Tag} (hfit : off + 8 ≤ data.size)
    (ht : t.toNat < 2 ^ 24) (hn : n < 2 ^ 32) (hoh : OccursAt data.bytes off (header t TypeCode.struct n)) :
    EmptyTextAtEnd (levels + 1) (data.bytes.drop off) ↔ off + 8 + n ≤ data.size ∧
      ∃ new, (∀ c ∈ new, Encodable c ∧ c.height < levels) ∧
        OccursAt (data.bytes.take (off + 8 + n)) (off + 8) (encodeItems new) ∧
        EmptyTextAtEnd levels ((data.bytes.take (off + 8 + n)).drop (off + 8 + (encodeItems new).length)) := by
  have hsz : data.size = data.bytes.length := rfl
  constructor
  · intro h
    generalize hl : data.bytes.drop off = l at h
    cases h with
    | here tag =>
      obtain ⟨-, h₂, -⟩ := header_inj ht tag (by decide) (by decide) hn (by decide)
        (hoh.unique (occursAt_of_drop_eq (by omega) (hl.trans (List.append_nil _).symm)) (by simp))
      exact absurd h₂ (by decide)
    | @inside _ t' children last rest tag decoded bad fits =>
      have ho := occursAt_of_drop_eq (by omega) hl
      rw [occursAt_append, length_header] at ho
      obtain ⟨-, -, rfl⟩ := header_inj ht tag (by decide) (by decide) hn fits (hoh.unique ho.1 (by simp))
      have hle := ho.2.le
      obtain ⟨hoc, hol⟩ := occursAt_append.1 ho.2
      rw [List.length_append] at hle ⊢
      refine ⟨hle, children, decoded, occursAt_take.2 ⟨hoc, by omega⟩, ?_⟩
      rw [← Nat.add_assoc, hol.drop_take]
      exact bad
  · rintro ⟨hle, new, hg, hon, hb⟩
    obtain ⟨hoc, hlen⟩ := occursAt_take.1 hon
    -- what the loop has not decoded when it gets to the bad node
    generalize hlast : (data.bytes.take (off + 8 + n)).drop (off + 8 + (encodeItems new).length) = last at hb
    have hll := congrArg List.length hlast
    rw [List.length_drop, List.length_take] at hll
    have hol := occursAt_of_drop_eq (by rw [List.length_take]; omega) (hlast.trans (List.append_nil _).symm)
    have hob := occursAt_append.2 ⟨hoc, (occursAt_take.1 hol).1⟩
    have hbl : (encodeItems new ++ last).length = n := by
      rw [List.length_append]
      omega
    have hall := hoh.drop_eq
    rw [length_header, hob.drop_eq, ← List.append_assoc] at hall
    rw [hall]
    subst hbl
    exact .inside ht hg hb hn

/-- **The accesses of the decoder**, with `levels` nesting levels left. -/
theorem not_safe_deserializeImpl_iff : ∀ {levels : Nat} {data : Bytes} {off : Nat}, off ≤ data.size →
    (¬Safe (deserializeImpl levels data off) ↔ EmptyTextAtEnd levels (data.bytes.drop off))
  | 0, data, off, _ => iff_of_false (not_not.2 (safe_throw _)) (fun h => by cases h)
  | levels + 1, data, off, ho => by
    have hlt := data.size_lt
    have hsz : data.size = data.bytes.length := rfl
    rw [deserializeImpl, sizeAdd_of_lt (by omega)]
    by_cases hfit : off + 8 ≤ data.size
    · obtain ⟨t, ty, n, hr, ht, hy, hoh⟩ := readHeader_spec hfit
      have hn := n.toNat_lt
      rw [if_neg (by omega), safe_bind, and_iff_right (safe_readHeader hfit)]
      simp only [hr, Except.ok.injEq, forall_eq']
      by_cases hs : ty = TypeCode.struct
      · subst hs
        rw [if_pos rfl, emptyTextAtEnd_struct_iff hfit ht hn hoh, readStructure, sizeAdd_of_lt (by omega)]
        by_cases hbody : off + 8 + n.toNat ≤ data.size
        · have hlen := Bytes.length_subspan hbody
          rw [if_neg (by omega), and_iff_right hbody, safe_bind, and_iff_right (safe_view (by omega))]
          simp only [result_view, Except.ok.injEq, forall_eq']
          rw [safe_bind, and_iff_left fun _ _ => safe_pure _]
          exact not_safe_structLoop_iff deserializeImpl_eq_ok_iff not_safe_deserializeImpl_iff
            EmptyTextAtEnd.le_length (by omega) (by omega) (by omega)
        · rw [if_pos (by omega)]
          exact iff_of_false (not_not.2 (safe_throw _)) fun h => hbody h.1
      · rw [if_neg hs, safe_readPrimitive_iff hs hfit hn, not_not,
          emptyTextAtEnd_primitive_iff hfit ht hy hn hoh hs]
    · rw [if_pos (by omega)]
      refine iff_of_false (not_not.2 (safe_throw _)) fun h => ?_
      have := h.le_length
      rw [List.length_drop] at this
      omega

/-- The 64 levels of nesting below the root and the root itself. -/
def maxLevels : Nat := kmipMaxStructureDepth + 1

/-- **All accesses of a call are in bounds**, and it returns or throws, unless an empty Text String ends at the end of
its view. -/
theorem deserialize_safe_iff (data : Bytes) (off : Nat) (ho : off ≤ data.size) :
    (Safe (deserialize data off) ∧ (deserialize data off).Avoids .diverged) ↔
      ¬EmptyTextAtEnd maxLevels (data.bytes.drop off) := by
  rw [← not_safe_deserializeImpl_iff ho, not_not]
  exact and_iff_left (deserializeImpl_avoids ho)

/-- An empty Text String as the whole message: `&data[8]` on a span of eight bytes. -/
theorem deserialize_unsafe_text : ¬Safe (deserialize ⟨[0x42, 0x00, 0x3D, 0x07, 0, 0, 0, 0], by decide⟩ 0) := by
  decide

/-- The same text followed by eight more bytes is read safely. -/
theorem deserialize_safe_text :
    ¬EmptyTextAtEnd maxLevels [0x42, 0x00, 0x3D, 0x07, 0, 0, 0, 0, 0, 0, 0, 0, 0, 0, 0, 0] :=
  (deserialize_safe_iff ⟨[0x42, 0x00, 0x3D, 0x07, 0, 0, 0, 0, 0, 0, 0, 0, 0, 0, 0, 0], by decide⟩ 0 (by decide)).1
    ⟨by decide, fun h => by cases h⟩

end Kmip
