import Kmip.Core.AttributeRouting
import Kmip.Core.RegisterTrees

/-!
# Algorithm and length of a registered key

A Register request carries Cryptographic Algorithm and Length twice, in the Key Block and among the attributes. Both
places get the pair of `algorithm_and_length` (`carries_of_ok`), and `SendsPair` says which pair that is.

The algorithm is compared as `int32_t`, so every code with the top bit set passes for an extension. Those from
`0x90000000` on are none (`consistentPair_iff`).
-/

namespace Kmip

open Element Requests

/-! ## The pair -/

/-- The pair that is sent for a key. -/
structure SendsPair (key : Key) (version : ProtocolVersion) (a l : Int32) : Prop where
  algorithm : a = key.attributes.algorithm.toInt32
  set : a ≠ CryptographicAlgorithm.unset.toInt32
  defined : a ≤ lastCryptoAlgorithm version
  positive : 0 < l
  length : key.attributes.cryptoLength = some l ∨
    (key.attributes.cryptoLength = none ∧ key.type = .symmetricKey ∧ l.toInt = 8 * key.value.size)

/-- The length of a key is its own, or 8 times the size of a symmetric value, without overflow. -/
theorem keyLength_eq_some_iff {key : Key} {l : Int32} : keyLength key = some l ↔
    key.attributes.cryptoLength = some l ∨
      (key.attributes.cryptoLength = none ∧ key.type = .symmetricKey ∧ l.toInt = 8 * key.value.size) := by
  have hbits : ∀ {n : Nat}, n ≤ 2147483647 / 8 → (Int32.ofNat (n * 8)).toInt = 8 * n := by
    intro n hn
    rw [Int32.toInt_ofNat_of_lt (by omega)]
    omega
  unfold keyLength
  split
  case isTrue h =>
    obtain ⟨hnone, htype, hsize⟩ := h
    simp only [hnone, htype, Option.some.injEq, reduceCtorEq, false_or, true_and]
    rw [← hbits hsize, Int32.toInt_inj, eq_comm]
  case isFalse h =>
    constructor
    · exact .inl
    · rintro (hl | ⟨hnone, htype, hl⟩)
      · exact hl
      · -- a length that fits `int32_t` comes from a value that is small enough
        have hlt : l.toInt < 2 ^ 31 := l.toInt_lt
        exact absurd ⟨hnone, htype, by omega⟩ h

theorem algorithmAndLength_eq_some_iff {key : Key} {version : ProtocolVersion} {a l : Int32} :
    algorithmAndLength key version = some ⟨a, l⟩ ↔ SendsPair key version a l := by
  unfold algorithmAndLength
  constructor
  · intro h
    dsimp only at h
    split at h
    case isTrue => cases h
    case isFalse hne =>
      rw [not_or, Int32.not_lt] at hne
      cases hlen : keyLength key with
      | none =>
        rw [hlen] at h
        cases h
      | some length =>
        rw [hlen] at h
        dsimp only at h
        split at h
        case isTrue => cases h
        case isFalse hpos =>
          cases h
          exact ⟨rfl, hne.1, hne.2, Int32.not_le.1 hpos, keyLength_eq_some_iff.1 hlen⟩
  · rintro ⟨rfl, hset, hdef, hpos, hlen⟩
    dsimp only
    rw [if_neg (not_or.2 ⟨hset, Int32.not_lt.2 hdef⟩), keyLength_eq_some_iff.2 hlen]
    dsimp only
    rw [if_neg (Int32.not_le.2 hpos)]

/-! ## What a request carries -/

/-- The children of the payload of a request. -/
def payloadItems (item : RequestBatchItem) : List Element := (item.requestPayload.bind (·.asStructure)).getD []

/-- The values with a tag in the Key Block of the object. -/
def keyBlockValues (item : RequestBatchItem) (t : Tag) : List (Value Element) :=
  ((payloadItems item).filter (fun e => e.tag ∈ [Tag.symmetricKey, Tag.privateKey, Tag.publicKey])).flatMap
    fun object => (object.getChildren Tag.keyBlock).flatMap fun keyBlock => (keyBlock.getChildren t).map (·.value)

/-- The value of an Attribute structure with the name. -/
def namedValue (n : Bytes) (e : Element) : Option (Value Element) :=
  if attributeNameOf e = some n then (e.getChild Tag.attributeValue).map (·.value) else none

/-- The values of an attribute in the Template-Attribute or, from KMIP 2.0 on, in the Attributes. -/
def attributeValues (item : RequestBatchItem) (version : ProtocolVersion) (n : Bytes) (t : Tag) :
    List (Value Element) :=
  if useAttributesContainer version then
    ((payloadItems item).filter (fun e => e.tag == Tag.attributes)).flatMap fun attributes =>
      (attributes.getChildren t).map (·.value)
  else
    ((payloadItems item).filter (fun e => e.tag == Tag.templateAttribute)).flatMap fun template =>
      (template.asStructure.getD []).filterMap (namedValue n)

/-- Algorithms and lengths of a request, in the Key Block and among the attributes. -/
structure Carries (item : RequestBatchItem) (version : ProtocolVersion) (algorithms lengths : List Int32) : Prop where
  keyBlockAlgorithm : keyBlockValues item Tag.cryptographicAlgorithm = algorithms.map .enumeration
  keyBlockLength : keyBlockValues item Tag.cryptographicLength = lengths.map .integer
  algorithm : attributeValues item version kmipAttrNameCryptoAlg Tag.cryptographicAlgorithm =
    algorithms.map .enumeration
  length : attributeValues item version kmipAttrNameCryptoLen Tag.cryptographicLength = lengths.map .integer

theorem payloadItems_registerRequest (objectType : Int32) (attributes object : Element) :
    payloadItems (registerRequest objectType attributes object) =
      [createEnumeration Tag.objectType objectType, attributes, object] := rfl

/-- The Key Block of an object. -/
theorem keyBlockValues_registerRequest {key : Key} {kind : KeyObjectKind} (hkind : kind ∈ keyObjectKind key.type)
    {attributes : Element} (ha : attributes.tag = Tag.attributes ∨ attributes.tag = Tag.templateAttribute)
    (keyBlock : Element) (hb : keyBlock.tag = Tag.keyBlock) (t : Tag) :
    keyBlockValues (registerRequest kind.objectType attributes (createStructure kind.tag [keyBlock])) t =
      (keyBlock.getChildren t).map (·.value) := by
  have htag : kind.tag ∈ [Tag.symmetricKey, Tag.privateKey, Tag.publicKey] := by
    cases htype : key.type <;> rw [htype] at hkind <;> cases hkind <;> decide
  have hnot : attributes.tag ∉ [Tag.symmetricKey, Tag.privateKey, Tag.publicKey] := by
    rcases ha with ha | ha <;> rw [ha] <;> decide
  rw [keyBlockValues, payloadItems_registerRequest, List.filter_cons_of_neg (by simp; decide),
    List.filter_cons_of_neg (by simpa using hnot), List.filter_cons_of_pos (by simpa using htag), List.filter_nil,
    List.flatMap_cons, List.flatMap_nil, List.append_nil, getChildren_createStructure,
    List.filter_cons_of_pos (by simpa using hb), List.filter_nil, List.flatMap_cons, List.flatMap_nil, List.append_nil]

/-! ### Attributes of KMIP 2.0 -/

theorem filter_v2Group {t : Tag} (h : t ≠ Tag.objectGroup) (group : Bytes) :
    (v2Group group).filter (fun e => e.tag == t) = [] := by
  unfold v2Group optionalGroup
  split
  · rfl
  · exact List.filter_cons_of_neg (by simpa using h.symm)

theorem filter_optionalMask {t : Tag} (h : t ≠ Tag.cryptographicUsageMask) (key : Key) :
    (optionalMask (createInteger Tag.cryptographicUsageMask) key).filter (fun e => e.tag == t) = [] := by
  unfold optionalMask
  split
  · rfl
  · exact List.filter_cons_of_neg (by simpa using h.symm)

/-- Algorithm and length in the Attributes. -/
theorem getChildren_makeV2RegisterKeyAttrs {t : Tag} (ht : t ≠ Tag.name ∧ t ≠ Tag.objectGroup ∧
    t ≠ Tag.cryptographicUsageMask) (name group : Bytes) (key : Key) (version : ProtocolVersion) :
    (makeV2RegisterKeyAttrs name group key version).getChildren t =
      (optionalPair (createEnumeration Tag.cryptographicAlgorithm) (createInteger Tag.cryptographicLength)
        (algorithmAndLength key version)).filter (fun e => e.tag == t) := by
  have hname : [makeV2NameStruct name].filter (fun e => e.tag == t) = [] :=
    List.filter_cons_of_neg (by simpa [makeV2NameStruct] using ht.1.symm)
  rw [makeV2RegisterKeyAttrs, getChildren_createStructure, List.filter_append, List.filter_append, List.filter_append,
    hname, filter_v2Group ht.2.1, filter_optionalMask ht.2.2, List.append_nil]
  rfl

/-! ### Attributes of KMIP 1.x -/

theorem namedValue_makeAttribute {value : Element} (hv : value.tag = Tag.attributeValue) (n m : Bytes) :
    namedValue n (makeAttribute m value) = if m = n then some value.value else none := by
  have hchild : (makeAttribute m value).getChild Tag.attributeValue = some value := by
    rw [makeAttribute, getChild_createStructure, List.find?_cons_of_neg (by simp; decide),
      List.find?_cons_of_pos (by simpa using hv)]
  rw [namedValue, attributeNameOf_makeAttribute, hchild]
  simp only [Option.some.injEq, Option.map_some]

theorem namedValue_genericAttributes {key : Key} {n : Bytes} (h : n ∉ key.attributes.generic) :
    (genericAttributes key).filterMap (namedValue n) = [] := by
  rw [List.filterMap_eq_nil_iff]
  intro e he
  refine if_neg fun hname => filterMap_genericAttributes h ?_
  exact List.mem_filterMap.2 ⟨e, he, hname⟩

/-- Algorithm and length in the Template-Attribute. -/
theorem namedValue_registerKeyAttributes {key : Key} {n : Bytes} (hn : n ≠ kmipAttrNameName ∧ n ≠ kmipAttrNameGroup ∧
    n ≠ kmipAttrNameCryptoUsageMask) (h : n ∉ key.attributes.generic) (name group : Bytes) (version : ProtocolVersion) :
    (registerKeyAttributes name group key version).filterMap (namedValue n) =
      (optionalPair (makeEnumAttribute kmipAttrNameCryptoAlg) (makeIntegerAttribute kmipAttrNameCryptoLen)
        (algorithmAndLength key version)).filterMap (namedValue n) := by
  have hname : [makeNameAttribute name].filterMap (namedValue n) = [] := by
    rw [List.filterMap_cons_none, List.filterMap_nil]
    rw [makeNameAttribute, namedValue_makeAttribute rfl]
    exact if_neg hn.1.symm
  have hgroup : (groupAttribute group).filterMap (namedValue n) = [] := by
    unfold groupAttribute optionalGroup
    split
    · rfl
    · rw [List.filterMap_cons_none, List.filterMap_nil]
      rw [makeTextAttribute, namedValue_makeAttribute rfl]
      exact if_neg hn.2.1.symm
  have hmask : (optionalMask (makeIntegerAttribute kmipAttrNameCryptoUsageMask) key).filterMap (namedValue n) = [] := by
    unfold optionalMask
    split
    · rfl
    · rw [List.filterMap_cons_none, List.filterMap_nil]
      rw [makeIntegerAttribute, namedValue_makeAttribute rfl, if_neg hn.2.2.symm]
  have heq : registerKeyAttributes name group key version = [makeNameAttribute name] ++ groupAttribute group ++
      optionalPair (makeEnumAttribute kmipAttrNameCryptoAlg) (makeIntegerAttribute kmipAttrNameCryptoLen)
        (algorithmAndLength key version) ++
      optionalMask (makeIntegerAttribute kmipAttrNameCryptoUsageMask) key ++ genericAttributes key := rfl
  rw [heq, List.filterMap_append, List.filterMap_append, List.filterMap_append, List.filterMap_append, hname, hgroup,
    hmask, namedValue_genericAttributes h, List.append_nil, List.append_nil]
  rfl

/-- The pair in the Template-Attribute. -/
theorem namedValue_optionalPair (pair : Option AlgorithmAndLength) :
    (optionalPair (makeEnumAttribute kmipAttrNameCryptoAlg) (makeIntegerAttribute kmipAttrNameCryptoLen) pair).filterMap
        (namedValue kmipAttrNameCryptoAlg) = (pair.toList.map (·.algorithm)).map .enumeration ∧
      (optionalPair (makeEnumAttribute kmipAttrNameCryptoAlg) (makeIntegerAttribute kmipAttrNameCryptoLen)
        pair).filterMap (namedValue kmipAttrNameCryptoLen) = (pair.toList.map (·.length)).map .integer := by
  have hne : kmipAttrNameCryptoAlg ≠ kmipAttrNameCryptoLen := by decide +kernel
  cases pair with
  | none => exact ⟨rfl, rfl⟩
  | some pair =>
    have halg : ∀ n, namedValue n (makeEnumAttribute kmipAttrNameCryptoAlg pair.algorithm) =
        if kmipAttrNameCryptoAlg = n then some (.enumeration pair.algorithm) else none :=
      fun n => namedValue_makeAttribute rfl n _
    have hlen : ∀ n, namedValue n (makeIntegerAttribute kmipAttrNameCryptoLen pair.length) =
        if kmipAttrNameCryptoLen = n then some (.integer pair.length) else none :=
      fun n => namedValue_makeAttribute rfl n _
    simp only [optionalPair, List.filterMap_cons, List.filterMap_nil, halg, hlen, if_pos, if_neg hne, if_neg hne.symm]
    exact ⟨rfl, rfl⟩

/-! ### Requests -/

/-- The attributes of a request, in the encoding of the version. -/
theorem attributeValues_registerRequest {key : Key} {kind : KeyObjectKind} (hkind : kind ∈ keyObjectKind key.type)
    (name group : Bytes) (version : ProtocolVersion) (object : List Element) (n : Bytes) (t : Tag) :
    attributeValues (registerRequest kind.objectType (keyAttributes name group key version)
        (createStructure kind.tag object)) version n t =
      if useAttributesContainer version then
        ((makeV2RegisterKeyAttrs name group key version).getChildren t).map (·.value)
      else (registerKeyAttributes name group key version).filterMap (namedValue n) := by
  have htag : kind.tag ≠ Tag.attributes ∧ kind.tag ≠ Tag.templateAttribute := by
    cases htype : key.type <;> rw [htype] at hkind <;> cases hkind <;> decide
  rw [attributeValues, payloadItems_registerRequest, keyAttributes]
  by_cases hv : useAttributesContainer version = true
  · simp only [if_pos hv]
    rw [List.filter_cons_of_neg (by simp; decide), List.filter_cons_of_pos (by simp [makeV2RegisterKeyAttrs]),
      List.filter_cons_of_neg (by simpa using htag.1), List.filter_nil, List.flatMap_cons, List.flatMap_nil,
      List.append_nil]
  · simp only [if_neg hv]
    rw [List.filter_cons_of_neg (by simp; decide), List.filter_cons_of_pos (by simp [makeTemplateAttribute]),
      List.filter_cons_of_neg (by simpa using htag.2), List.filter_nil, List.flatMap_cons, List.flatMap_nil,
      List.append_nil]
    rfl

section Sent

variable {name group : Bytes} {key : Key} {version : ProtocolVersion} {item : RequestBatchItem}

/-- Both places of a request hold the pair of the key, or nothing. -/
theorem carries_of_ok (hok : RegisterKeyRequest name group key version = .ok item)
    (halg : kmipAttrNameCryptoAlg ∉ key.attributes.generic) (hlen : kmipAttrNameCryptoLen ∉ key.attributes.generic) :
    Carries item version ((algorithmAndLength key version).toList.map (·.algorithm))
      ((algorithmAndLength key version).toList.map (·.length)) := by
  obtain ⟨kind, hkind, rfl⟩ := RegisterKeyRequest_eq_ok hok
  have hblock := keyBlockValues_registerRequest hkind (tag_keyAttributes name group key version)
    (keyBlockOf key version kind.format) rfl
  have halgName : kmipAttrNameCryptoAlg ≠ kmipAttrNameName ∧ kmipAttrNameCryptoAlg ≠ kmipAttrNameGroup ∧
      kmipAttrNameCryptoAlg ≠ kmipAttrNameCryptoUsageMask := by
    decide +kernel
  have hlenName : kmipAttrNameCryptoLen ≠ kmipAttrNameName ∧ kmipAttrNameCryptoLen ≠ kmipAttrNameGroup ∧
      kmipAttrNameCryptoLen ≠ kmipAttrNameCryptoUsageMask := by
    decide +kernel
  constructor
  case keyBlockAlgorithm =>
    rw [hblock, keyBlockOf]
    cases algorithmAndLength key version <;> rfl
  case keyBlockLength =>
    rw [hblock, keyBlockOf]
    cases algorithmAndLength key version <;> rfl
  case algorithm =>
    rw [attributeValues_registerRequest hkind, getChildren_makeV2RegisterKeyAttrs (by decide),
      namedValue_registerKeyAttributes halgName halg, (namedValue_optionalPair _).1]
    cases algorithmAndLength key version <;> split <;> rfl
  case length =>
    rw [attributeValues_registerRequest hkind, getChildren_makeV2RegisterKeyAttrs (by decide),
      namedValue_registerKeyAttributes hlenName hlen, (namedValue_optionalPair _).2]
    cases algorithmAndLength key version <;> split <;> rfl

/-- Which keys are refused. -/
theorem registerKeyRequest_error_iff_none : (∃ e, RegisterKeyRequest name group key version = .error e) ↔
    (key.type = .symmetricKey ∧ algorithmAndLength key version = none) ∨ key.type = .certificate ∨
      key.type = .unset := by
  unfold RegisterKeyRequest makeKeyObjectFromKey
  cases key.type with
  | symmetricKey =>
    by_cases hnone : algorithmAndLength key version = none
    · simp [objectTypeFromKeyType, hnone]
    · simp [objectTypeFromKeyType, hnone]
  | privateKey => simp [objectTypeFromKeyType]
  | publicKey => simp [objectTypeFromKeyType]
  | certificate => simp [objectTypeFromKeyType]
  | unset => simp [objectTypeFromKeyType]

theorem registerKeyRequest_error_iff : (∃ e, RegisterKeyRequest name group key version = .error e) ↔
    (key.type = .symmetricKey ∧ ¬∃ a l, SendsPair key version a l) ∨ key.type = .certificate ∨ key.type = .unset := by
  have hpair : (¬∃ a l, SendsPair key version a l) ↔ algorithmAndLength key version = none := by
    simp only [← algorithmAndLength_eq_some_iff, Option.eq_none_iff_forall_ne_some, not_exists]
    exact ⟨fun h pair => h pair.algorithm pair.length, fun h a l => h ⟨a, l⟩⟩
  rw [hpair]
  exact registerKeyRequest_error_iff_none

end Sent

/-! ## Consistency -/

/-- An extension of the enumeration: `8XXXXXXX`. -/
def IsExtension (a : Int32) : Prop := 0x80000000 ≤ a.toUInt32 ∧ a.toUInt32 ≤ 0x8FFFFFFF

instance (a : Int32) : Decidable (IsExtension a) := inferInstanceAs (Decidable (_ ∧ _))

/-- What a Register request promises for algorithm and length. -/
structure ConsistentPair (name group : Bytes) (key : Key) (version : ProtocolVersion) : Prop where
  error_iff : (∃ e, RegisterKeyRequest name group key version = .error e) ↔
    (key.type = .symmetricKey ∧ ¬∃ a l, SendsPair key version a l) ∨ key.type = .certificate ∨ key.type = .unset
  carries : ∀ item, RegisterKeyRequest name group key version = .ok item → Carries item version [] [] ∨
    ∃ a l, Carries item version [a] [l] ∧ 0 < l ∧ a ≠ CryptographicAlgorithm.unset.toInt32 ∧
      (IsExtension a ∨ (version.isAtLeast 2 0 = false → a.toUInt32 ≤ (lastCryptoAlgorithm version).toUInt32)) ∧
      (key.attributes.cryptoLength = some l ∨
        (key.attributes.cryptoLength = none ∧ key.type = .symmetricKey ∧ l.toInt = 8 * key.value.size))

/-- Before KMIP 2.0 the key has a code from `0x90000000` on, and is registered with it. -/
structure SendsUndefinedCode (key : Key) (version : ProtocolVersion) : Prop where
  version : version.isAtLeast 2 0 = false
  code : 0x90000000 ≤ key.attributes.algorithm
  registered : key.type ∈ [KeyType.symmetricKey, .privateKey, .publicKey]
  length : ∃ l, keyLength key = some l ∧ 0 < l

/-! ### Codes as `int32_t` -/

theorem toInt_eq_of_code (a : Int32) :
    a.toInt = if a.toUInt32.toNat < 2 ^ 31 then (a.toUInt32.toNat : Int) else a.toUInt32.toNat - 2 ^ 32 := by
  show BitVec.toInt a.toBitVec = _
  rw [BitVec.toInt_eq_toNat_cond]
  show (if 2 * a.toUInt32.toNat < 2 ^ 32 then (a.toUInt32.toNat : Int)
    else (a.toUInt32.toNat : Int) - (2 ^ 32 : Nat)) = _
  split <;> split <;> omega

theorem lastCryptoAlgorithm_nonneg (version : ProtocolVersion) :
    (lastCryptoAlgorithm version).toUInt32.toNat < 2 ^ 31 := by
  unfold lastCryptoAlgorithm
  iterate 4
    split
    · decide
  decide

/-- The signed comparison lets the top bit through. -/
theorem le_lastCryptoAlgorithm_iff {a : Int32} {version : ProtocolVersion} : a ≤ lastCryptoAlgorithm version ↔
    a.toUInt32 ≤ (lastCryptoAlgorithm version).toUInt32 ∨ 0x80000000 ≤ a.toUInt32 := by
  have hlast := lastCryptoAlgorithm_nonneg version
  have hcode := a.toUInt32.toNat_lt
  rw [Int32.le_iff_toInt_le, toInt_eq_of_code a, toInt_eq_of_code (lastCryptoAlgorithm version), if_pos hlast,
    UInt32.le_iff_toNat_le, UInt32.le_iff_toNat_le]
  show _ ↔ _ ∨ 0x80000000 ≤ a.toUInt32.toNat
  split <;> omega

/-! ### The request -/

section Consistent

variable {name group : Bytes} {key : Key} {version : ProtocolVersion}
  (halg : kmipAttrNameCryptoAlg ∉ key.attributes.generic) (hlen : kmipAttrNameCryptoLen ∉ key.attributes.generic)

include halg hlen

/-- A key with a code that is neither defined nor an extension is registered with it. -/
theorem not_consistentPair (h : SendsUndefinedCode key version) : ¬ConsistentPair name group key version := by
  intro hc
  obtain ⟨l, hl, hpos⟩ := h.length
  have hcode : (key.attributes.algorithm.toInt32).toUInt32 = key.attributes.algorithm := rfl
  have hsends : SendsPair key version key.attributes.algorithm.toInt32 l := by
    refine ⟨rfl, ?_, le_lastCryptoAlgorithm_iff.2 (.inr ?_), hpos, keyLength_eq_some_iff.1 hl⟩
    · intro hzero
      have hcontra := h.code
      rw [← hcode, hzero] at hcontra
      exact absurd hcontra (by decide)
    · rw [hcode]
      exact UInt32.le_trans (by decide) h.code
  have hok : ¬∃ e, RegisterKeyRequest name group key version = .error e := by
    rw [hc.error_iff]
    rintro (⟨-, hnone⟩ | htype | htype)
    · exact hnone ⟨_, _, hsends⟩
    · have := h.registered
      rw [htype] at this
      exact absurd this (by decide)
    · have := h.registered
      rw [htype] at this
      exact absurd this (by decide)
  cases hitem : RegisterKeyRequest name group key version with
  | error e => exact hok ⟨e, hitem⟩
  | ok item =>
    have hcarries := carries_of_ok hitem halg hlen
    rw [algorithmAndLength_eq_some_iff.2 hsends] at hcarries
    rcases hc.carries item hitem with hnone | ⟨a, l', hsome, -, -, hallowed, -⟩
    · have := hcarries.keyBlockAlgorithm.symm.trans hnone.keyBlockAlgorithm
      cases this
    · have heq := hcarries.keyBlockAlgorithm.symm.trans hsome.keyBlockAlgorithm
      simp only [Option.toList_some, List.map_cons, List.map_nil, List.cons.injEq, Value.enumeration.injEq,
        and_true] at heq
      subst heq
      rcases hallowed with hext | hbound
      · exact absurd (UInt32.le_trans h.code hext.2) (by decide)
      · have hle := hbound h.version
        have hlast := lastCryptoAlgorithm_nonneg version
        have hbig := h.code
        rw [hcode] at hle
        rw [UInt32.le_iff_toNat_le] at hle hbig
        have : (0x90000000 : UInt32).toNat = 0x90000000 := rfl
        omega

theorem consistentPair_of_not_sends (h : ¬SendsUndefinedCode key version) : ConsistentPair name group key version := by
  refine ⟨registerKeyRequest_error_iff, fun item hitem => ?_⟩
  have hcarries := carries_of_ok hitem halg hlen
  cases hpair : algorithmAndLength key version with
  | none =>
    rw [hpair] at hcarries
    exact .inl hcarries
  | some pair =>
    rw [hpair] at hcarries
    have hsends := algorithmAndLength_eq_some_iff.1 hpair
    refine .inr ⟨pair.algorithm, pair.length, hcarries, hsends.positive, hsends.set, ?_, hsends.length⟩
    by_cases hext : IsExtension pair.algorithm
    · exact .inl hext
    · refine .inr fun hv => ?_
      rcases le_lastCryptoAlgorithm_iff.1 hsends.defined with hle | htop
      · exact hle
      · -- a code with the top bit that is no extension
        refine absurd ⟨hv, ?_, ?_, pair.length, keyLength_eq_some_iff.2 hsends.length, hsends.positive⟩ h
        · have hbig : ¬pair.algorithm.toUInt32 ≤ 0x8FFFFFFF := fun hle => hext ⟨htop, hle⟩
          have hcode : pair.algorithm.toUInt32 = key.attributes.algorithm := by rw [hsends.algorithm]; rfl
          rw [hcode, UInt32.le_iff_toNat_le] at hbig
          rw [UInt32.le_iff_toNat_le]
          have hlit : (0x8FFFFFFF : UInt32).toNat = 0x8FFFFFFF ∧ (0x90000000 : UInt32).toNat = 0x90000000 := ⟨rfl, rfl⟩
          omega
        · have hok : ¬∃ e, RegisterKeyRequest name group key version = .error e := by
            rintro ⟨e, he⟩
            rw [hitem] at he
            cases he
          rw [registerKeyRequest_error_iff] at hok
          cases htype : key.type <;> simp [htype] at hok ⊢

end Consistent

/-- **Algorithm and length.** A Register request of a key whose generic attributes have neither name carries the two as
a consistent pair if and only if the key is not registered over KMIP 1.x with a code from `0x90000000` on. -/
theorem consistentPair_iff (name group : Bytes) (key : Key) (version : ProtocolVersion)
    (halg : kmipAttrNameCryptoAlg ∉ key.attributes.generic) (hlen : kmipAttrNameCryptoLen ∉ key.attributes.generic) :
    ConsistentPair name group key version ↔ ¬SendsUndefinedCode key version := by
  constructor
  · intro hc hbad
    exact not_consistentPair halg hlen hbad hc
  · exact consistentPair_of_not_sends halg hlen

/-- A key of 16 bytes with the algorithm, and no other attribute. -/
def sixteenByteKey (algorithm : CryptographicAlgorithm) : Key where
  value := ⟨List.replicate 16 0, by decide⟩
  type := .symmetricKey
  attributes := { algo := some algorithm }

theorem consistentPair_iff_aes : ConsistentPair (.ofText "k") Bytes.empty (sixteenByteKey .aes) ⟨1, 4⟩ := by
  refine (consistentPair_iff (.ofText "k") Bytes.empty (sixteenByteKey .aes) ⟨1, 4⟩ (AList.notMem_empty _)
    (AList.notMem_empty _)).2 fun h => ?_
  exact absurd h.code (by decide)

/-- The code `0x90000000` over KMIP 1.4: no extension and not defined, and the request carries it. -/
theorem not_consistentPair_undefinedCode :
    (RegisterKeyRequest (.ofText "k") Bytes.empty (sixteenByteKey 0x90000000) ⟨1, 4⟩).toOption.map
        (fun item => (keyBlockValues item Tag.cryptographicAlgorithm).map fun v =>
          (⟨0, 0, v⟩ : Element).toEnum.toOption) = some [some (Int32.ofInt (-0x70000000))] ∧
      ¬IsExtension (Int32.ofInt (-0x70000000)) ∧
      ¬(Int32.ofInt (-0x70000000)).toUInt32 ≤ (lastCryptoAlgorithm ⟨1, 4⟩).toUInt32 ∧
      ¬ConsistentPair (.ofText "k") Bytes.empty (sixteenByteKey 0x90000000) ⟨1, 4⟩ := by
  refine ⟨by decide +kernel, by decide, by decide, ?_⟩
  exact not_consistentPair (AList.notMem_empty _) (AList.notMem_empty _)
    ⟨by decide, by decide, by decide, 128, by decide +kernel, by decide⟩

end Kmip
