import Kmip.Core.AttributeEncodings
import Kmip.Core.RegisterPairs

/-!
# The attributes of requests

Create and Register requests have two encodings of their attributes, built by different helpers. Both encode one list of
attributes (`RequestAttribute`): named values before KMIP 2.0 and typed elements from then on. `AttributesParser::parse`
reads either encoding as the list says (`parse_encode`), so a request means the same in every version
(`requests_agree`).
-/

namespace Kmip

open Element Requests AttributesParser

/-! ## Attributes of a request and their encodings -/

inductive RequestAttribute where
  | algorithm (value : Int32)
  | length (value : Int32)
  | usageMask (value : Int32)
  | name (value : Bytes)
  | objectGroup (value : Bytes)

namespace RequestAttribute

/-- As a named value. -/
def named : RequestAttribute → Element
  | algorithm value => makeEnumAttribute kmipAttrNameCryptoAlg value
  | length value => makeIntegerAttribute kmipAttrNameCryptoLen value
  | usageMask value => makeIntegerAttribute kmipAttrNameCryptoUsageMask value
  | name value => makeNameAttribute value
  | objectGroup value => makeTextAttribute kmipAttrNameGroup value

/-- As a typed element. -/
def typed : RequestAttribute → Element
  | algorithm value => createEnumeration Tag.cryptographicAlgorithm value
  | length value => createInteger Tag.cryptographicLength value
  | usageMask value => createInteger Tag.cryptographicUsageMask value
  | name value => makeV2NameStruct value
  | objectGroup value => createTextString Tag.objectGroup value

/-- The encoding of a version. -/
def encode (version : ProtocolVersion) (attributes : List RequestAttribute) : List Element :=
  if useAttributesContainer version then attributes.map typed else attributes.map named

/-- What an attribute does to a bag. -/
def store (bag : Attributes) : RequestAttribute → Except Abort Attributes
  | algorithm value => do .ok (bag.setAlgorithm (← checkedCryptographicAlgorithm value))
  | length value => .ok (bag.setCryptoLength value)
  | usageMask value => do .ok (bag.setUsageMask (← checkedCryptographicUsageMask value))
  | name value => .ok (bag.setGeneric kmipAttrNameName (.string value))
  | objectGroup value => .ok (bag.setGeneric kmipAttrNameGroup (.string value))

theorem name_notMem_specialNames : kmipAttrNameName ∉ specialNames := generic_not_special _ (by simp [genericNames])

theorem group_notMem_specialNames : kmipAttrNameGroup ∉ specialNames := generic_not_special _ (by simp [genericNames])

section Parse

variable (dateToString : Int64 → Bytes)

/-- A typed element is read as the attribute. -/
theorem parseElement_typed (bag : Attributes) (a : RequestAttribute) :
    parseElement dateToString bag a.typed = a.store bag := by
  cases a with
  | algorithm value => rfl
  | length value => rfl
  | usageMask value => rfl
  | name value =>
    rw [store, ← setString_generic name_notMem_specialNames]
    rfl
  | objectGroup value =>
    rw [store, ← setString_generic group_notMem_specialNames]
    rfl

/-- A named value is read as the attribute. -/
theorem parseElement_named (bag : Attributes) (a : RequestAttribute) :
    parseElement dateToString bag a.named = a.store bag := by
  cases a with
  | algorithm value => exact (parseElement_fields dateToString bag value).1
  | length value => exact (parseElement_fields dateToString bag value).2.1
  | usageMask value => exact (parseElement_fields dateToString bag value).2.2.1
  | name value =>
    rw [store, ← setString_generic name_notMem_specialNames]
    exact parseElement_generic dateToString name_notMem_specialNames bag _ _
  | objectGroup value =>
    rw [store, ← setString_generic group_notMem_specialNames]
    exact parseElement_generic dateToString group_notMem_specialNames bag _ _

/-- **Encodings.** The attributes of a request are read in the same way in every version. -/
theorem parse_encode (version : ProtocolVersion) (attributes : List RequestAttribute) :
    parse dateToString (encode version attributes) = attributes.foldlM store {} := by
  unfold parse encode
  split
  · rw [List.foldlM_map]
    simp only [parseElement_typed]
  · rw [List.foldlM_map]
    simp only [parseElement_named]

end Parse

end RequestAttribute

/-! ## The requests -/

open RequestAttribute

/-- The elements in the Template-Attribute or, from KMIP 2.0 on, in the Attributes of a request. -/
def requestAttributes (item : RequestBatchItem) (version : ProtocolVersion) : List Element :=
  let container := if useAttributesContainer version then Tag.attributes else Tag.templateAttribute
  ((item.requestPayload.bind (·.getChild container)).bind (·.asStructure)).getD []

/-- The Object Group, left out when it is empty. -/
def groupAttributes (group : Bytes) : List RequestAttribute :=
  if group.bytes.isEmpty then [] else [.objectGroup group]

/-- The attributes of a new or registered AES key. -/
def symmetricKeyAttributes (name group : Bytes) (keyBits mask : Int32) : List RequestAttribute :=
  [.algorithm CryptographicAlgorithm.aes.toInt32, .length keyBits, .usageMask mask, .name name] ++ groupAttributes group

/-- The attributes of a registered secret. -/
def secretDataAttributes (name group : Bytes) : List RequestAttribute :=
  [.usageMask (kmipCryptomaskDeriveKey ||| kmipCryptomaskExport), .name name] ++ groupAttributes group

/-- The attributes of a registered key. -/
def registeredKeyAttributes (name group : Bytes) (pair : Option AlgorithmAndLength) (mask : CryptographicUsageMask) :
    List RequestAttribute :=
  [.name name] ++ groupAttributes group ++ pair.toList.flatMap (fun p => [.algorithm p.algorithm, .length p.length]) ++
    if mask = .unset then [] else [.usageMask mask.toInt32]

section Encodings

variable (name group : Bytes) (version : ProtocolVersion)

theorem requestAttributes_create (keyBits : Int32) (mask : CryptographicUsageMask) :
    requestAttributes (CreateSymmetricKeyRequest name group keyBits mask version) version =
      RequestAttribute.encode version (symmetricKeyAttributes name group keyBits mask.toInt32) := by
  unfold requestAttributes CreateSymmetricKeyRequest RequestAttribute.encode
  cases useAttributesContainer version <;>
    simp only [makeV2CreateSymmetricAttrs, symmetricKeyAttributes, groupAttributes, groupAttribute, v2Group,
      optionalGroup] <;>
    cases group.bytes.isEmpty <;> rfl

theorem requestAttributes_registerSymmetricKey (value : Bytes) :
    requestAttributes (RegisterSymmetricKeyRequest name group value version) version =
      RequestAttribute.encode version
        (symmetricKeyAttributes name group (bitsOf value) (kmipCryptomaskEncrypt ||| kmipCryptomaskDecrypt)) := by
  unfold requestAttributes RegisterSymmetricKeyRequest RequestAttribute.encode
  cases useAttributesContainer version <;>
    simp only [makeV2RegisterSymmetricAttrs, symmetricKeyAttributes, groupAttributes, groupAttribute, v2Group,
      optionalGroup] <;>
    cases group.bytes.isEmpty <;> rfl

theorem requestAttributes_registerSecret (secret : Bytes) (secretType : SecretDataType) :
    requestAttributes (RegisterSecretRequest name group secret secretType version) version =
      RequestAttribute.encode version (secretDataAttributes name group) := by
  unfold requestAttributes RegisterSecretRequest RequestAttribute.encode
  cases useAttributesContainer version <;>
    simp only [makeV2RegisterSecretAttrs, secretDataAttributes, groupAttributes, groupAttribute, v2Group,
      optionalGroup] <;>
    cases group.bytes.isEmpty <;> rfl

/-- The generic attributes are sent before KMIP 2.0 only. -/
theorem requestAttributes_registerKey {key : Key} (hgeneric : key.attributes.generic = ∅) {item : RequestBatchItem}
    (hok : RegisterKeyRequest name group key version = .ok item) :
    requestAttributes item version = RequestAttribute.encode version (registeredKeyAttributes name group
      (algorithmAndLength key version) key.attributes.usageMaskOrUnset) := by
  have hnil : genericAttributes key = [] := by
    rw [genericAttributes, hgeneric]
    rfl
  obtain ⟨kind, -, rfl⟩ := RegisterKeyRequest_eq_ok hok
  unfold requestAttributes keyAttributes RequestAttribute.encode
  cases useAttributesContainer version <;>
    simp only [registerKeyAttributes, makeV2RegisterKeyAttrs, registeredKeyAttributes, hnil, groupAttributes,
      groupAttribute, v2Group, optionalGroup, optionalMask] <;>
    cases algorithmAndLength key version <;> cases group.bytes.isEmpty <;>
    by_cases hmask : key.attributes.usageMaskOrUnset = .unset <;> simp only [hmask, if_true, if_false] <;> rfl

end Encodings

/-! ## What a request means -/

/-- The attributes that a request is for. -/
def requestBag (pair : Option AlgorithmAndLength) (mask : CryptographicUsageMask) (name group : Bytes) :
    Attributes where
  algo := pair.map (·.algorithm.toUInt32)
  cryptoLength := pair.map (·.length)
  usageMask := if mask = .unset then none else some mask
  state := none
  generic :=
    let names := (∅ : AList _).insert kmipAttrNameName (.string name)
    if group.bytes.isEmpty then names else names.insert kmipAttrNameGroup (.string group)

/-- A mask with undefined bits is refused. -/
def requestMeaning (pair : Option AlgorithmAndLength) (mask : CryptographicUsageMask) (name group : Bytes) :
    Except Abort Attributes :=
  if isValidCryptographicUsageMask mask.toInt32 then .ok (requestBag pair mask name group)
  else .error (.coded kmipEnumUnsupported ("Invalid Cryptographic Usage Mask value: " ++ Int.repr mask.toInt32.toInt))

theorem checkedCryptographicUsageMask_eq (mask : CryptographicUsageMask) : checkedCryptographicUsageMask mask.toInt32 =
    if isValidCryptographicUsageMask mask.toInt32 then .ok mask
    else .error (.coded kmipEnumUnsupported
      ("Invalid Cryptographic Usage Mask value: " ++ Int.repr mask.toInt32.toInt)) := by
  unfold checkedCryptographicUsageMask checkedEnum
  cases isValidCryptographicUsageMask mask.toInt32 <;> rfl

theorem foldlM_groupAttributes (bag : Attributes) (group : Bytes) : (groupAttributes group).foldlM store bag =
    .ok (if group.bytes.isEmpty then bag else bag.setGeneric kmipAttrNameGroup (.string group)) := by
  unfold groupAttributes
  cases group.bytes.isEmpty <;> rfl

theorem foldlM_symmetricKeyAttributes (name group : Bytes) (keyBits : Int32) (mask : CryptographicUsageMask) :
    (symmetricKeyAttributes name group keyBits mask.toInt32).foldlM store {} =
      requestMeaning (some ⟨CryptographicAlgorithm.aes.toInt32, keyBits⟩) mask name group := by
  have haes : checkedCryptographicAlgorithm CryptographicAlgorithm.aes.toInt32 = .ok .aes := by decide
  rw [symmetricKeyAttributes, List.foldlM_append]
  simp only [List.foldlM_cons, List.foldlM_nil, store, haes, checkedCryptographicUsageMask_eq, Except.ok_bind,
    foldlM_groupAttributes]
  unfold requestMeaning requestBag
  cases isValidCryptographicUsageMask mask.toInt32
  · rfl
  · cases group.bytes.isEmpty <;> rfl

theorem foldlM_secretDataAttributes (name group : Bytes) : (secretDataAttributes name group).foldlM store {} =
    requestMeaning none (kmipCryptomaskDeriveKey ||| kmipCryptomaskExport).toUInt32 name group := by
  have hmask : checkedCryptographicUsageMask (kmipCryptomaskDeriveKey ||| kmipCryptomaskExport) =
      .ok (kmipCryptomaskDeriveKey ||| kmipCryptomaskExport).toUInt32 := by decide
  rw [secretDataAttributes, List.foldlM_append]
  simp only [List.foldlM_cons, List.foldlM_nil, store, hmask, Except.ok_bind, foldlM_groupAttributes]
  unfold requestMeaning requestBag
  cases group.bytes.isEmpty <;> rfl

/-- Name and group come first, then the pair and the mask. -/
theorem foldlM_registeredKeyAttributes (name group : Bytes) {pair : Option AlgorithmAndLength}
    (hpair : ∀ p ∈ pair, checkedCryptographicAlgorithm p.algorithm = .ok p.algorithm.toUInt32 ∧
      p.algorithm.toUInt32 ≠ CryptographicAlgorithm.unset) (mask : CryptographicUsageMask) :
    (registeredKeyAttributes name group pair mask).foldlM store {} = requestMeaning pair mask name group := by
  -- the mask is stored last, whatever the bag is by then
  have hmask : ∀ bag : Attributes, bag.usageMask = none →
      (if mask = .unset then [] else [RequestAttribute.usageMask mask.toInt32]).foldlM store bag =
        if isValidCryptographicUsageMask mask.toInt32 then .ok (bag.setUsageMask mask)
        else .error (.coded kmipEnumUnsupported
          ("Invalid Cryptographic Usage Mask value: " ++ Int.repr mask.toInt32.toInt)) := by
    intro bag hbag
    by_cases hunset : mask = .unset
    · rw [if_pos hunset, hunset, if_pos (by decide), Attributes.setUsageMask, if_pos rfl, ← hbag]
      rfl
    · rw [if_neg hunset, List.foldlM_cons, store, checkedCryptographicUsageMask_eq]
      cases isValidCryptographicUsageMask mask.toInt32 <;> rfl
  rw [registeredKeyAttributes, List.foldlM_append, List.foldlM_append, List.foldlM_append]
  simp only [List.foldlM_cons, List.foldlM_nil, store, Except.ok_bind, Except.pure_def, foldlM_groupAttributes]
  unfold requestMeaning requestBag
  cases pair with
  | none =>
    simp only [Option.toList_none, List.flatMap_nil, List.foldlM_nil, Except.ok_bind, Except.pure_def]
    rw [hmask _ (by split <;> rfl)]
    cases group.bytes.isEmpty <;> rfl
  | some p =>
    obtain ⟨hchecked, hset⟩ := hpair p rfl
    simp only [Option.toList_some, List.flatMap_singleton, List.foldlM_cons, List.foldlM_nil, store, hchecked,
      Except.ok_bind, Except.pure_def]
    rw [hmask _ (by split <;> rfl)]
    simp only [Attributes.setAlgorithm, if_neg hset]
    cases group.bytes.isEmpty <;> rfl

/-! ## Agreement of the versions -/

/-- Two requests, each in its version, that mean the same. -/
structure MeansSame (dateToString : Int64 → Bytes) (v₁ v₂ : ProtocolVersion) (item₁ item₂ : RequestBatchItem)
    (pair : Option AlgorithmAndLength) (mask : CryptographicUsageMask) (name group : Bytes) : Prop where
  first : parse dateToString (requestAttributes item₁ v₁) = requestMeaning pair mask name group
  second : parse dateToString (requestAttributes item₂ v₂) = requestMeaning pair mask name group

section Agreement

variable {dateToString : Int64 → Bytes} {v₁ v₂ : ProtocolVersion}

theorem bitsOf_toInt {value : Bytes} (h : value.size < 2 ^ 28) : (bitsOf value).toInt = 8 * value.size := by
  rw [bitsOf, Int32.toInt_ofNat_of_lt (by omega)]
  omega

/-- A code that KMIP 1.x defines is defined from KMIP 2.0 on. -/
theorem algorithmAndLength_eq {key : Key} (h₂ : v₂.isAtLeast 2 0 = true)
    (halg : key.attributes.algorithm ≤ (lastCryptoAlgorithm v₁).toUInt32) :
    algorithmAndLength key v₁ = algorithmAndLength key v₂ := by
  have hlast₁ : key.attributes.algorithm.toInt32 ≤ lastCryptoAlgorithm v₁ := le_lastCryptoAlgorithm_iff.2 (.inl halg)
  have hlast₂ : key.attributes.algorithm.toInt32 ≤ lastCryptoAlgorithm v₂ := by
    rw [lastCryptoAlgorithm, if_pos h₂]
    exact Int32.le_maxValue _
  unfold algorithmAndLength
  simp only [gt_iff_lt, Int32.not_lt.2 hlast₁, Int32.not_lt.2 hlast₂]

theorem lastCryptoAlgorithm_le {version : ProtocolVersion} (h : version.isAtLeast 2 0 = false) :
    (lastCryptoAlgorithm version).toUInt32 ≤ CryptographicAlgorithm.ed448 := by
  unfold lastCryptoAlgorithm
  rw [if_neg (by simp [h])]
  iterate 3
    split
    · decide
  decide

theorem checkedCryptographicAlgorithm_of_le {a : Int32} (h : a.toUInt32 ≤ CryptographicAlgorithm.ed448) :
    checkedCryptographicAlgorithm a = .ok a.toUInt32 := by
  have hle : a.toUInt32.toNat ≤ 0x38 := UInt32.le_iff_toNat_le.1 h
  have htoInt := toInt_eq_of_code a
  rw [if_pos (by omega)] at htoInt
  have hvalid : isValidCryptographicAlgorithm a = true := by
    unfold isValidCryptographicAlgorithm
    rw [Bool.and_eq_true, decide_eq_true_iff, decide_eq_true_iff, Int32.le_iff_toInt_le, Int32.le_iff_toInt_le, htoInt]
    show (0 : Int) ≤ _ ∧ _ ≤ (0x38 : Int)
    omega
  rw [checkedCryptographicAlgorithm, checkedEnum, hvalid]
  rfl

theorem pair_checked {key : Key} (h₁ : v₁.isAtLeast 2 0 = false)
    (halg : key.attributes.algorithm ≤ (lastCryptoAlgorithm v₁).toUInt32) :
    ∀ p ∈ algorithmAndLength key v₁, checkedCryptographicAlgorithm p.algorithm = .ok p.algorithm.toUInt32 ∧
      p.algorithm.toUInt32 ≠ CryptographicAlgorithm.unset := by
  intro p hp
  have hsends := algorithmAndLength_eq_some_iff.1 hp
  have hcode : p.algorithm.toUInt32 = key.attributes.algorithm := by
    rw [hsends.algorithm]
    rfl
  constructor
  · refine checkedCryptographicAlgorithm_of_le ?_
    rw [hcode]
    exact UInt32.le_trans halg (lastCryptoAlgorithm_le h₁)
  · intro hunset
    refine hsends.set ?_
    rw [← hunset]
    rfl

/-- Only the pair decides whether a key is refused. -/
theorem registerKeyRequest_isOk_iff {name group : Bytes} {key : Key}
    (h : algorithmAndLength key v₁ = algorithmAndLength key v₂) :
    (∃ item, RegisterKeyRequest name group key v₁ = .ok item) ↔
      ∃ item, RegisterKeyRequest name group key v₂ = .ok item := by
  have hnot : ∀ x : Except Abort RequestBatchItem, (∃ item, x = .ok item) ↔ ¬∃ e, x = .error e := by
    rintro (e | item) <;> simp
  rw [hnot, hnot, registerKeyRequest_error_iff_none, registerKeyRequest_error_iff_none, h]

/-- **Versions.** Before KMIP 2.0 and from then on, a request has the same attributes. -/
theorem requests_agree (dateToString : Int64 → Bytes) (v₁ v₂ : ProtocolVersion) (h₁ : v₁.isAtLeast 2 0 = false)
    (h₂ : v₂.isAtLeast 2 0 = true) (name group : Bytes) :
    (∀ keyBits mask, MeansSame dateToString v₁ v₂ (CreateSymmetricKeyRequest name group keyBits mask v₁)
      (CreateSymmetricKeyRequest name group keyBits mask v₂) (some ⟨CryptographicAlgorithm.aes.toInt32, keyBits⟩) mask
      name group) ∧
    (∀ value : Bytes, value.size < 2 ^ 28 → ∃ bits : Int32, bits.toInt = 8 * value.size ∧
      MeansSame dateToString v₁ v₂ (RegisterSymmetricKeyRequest name group value v₁)
        (RegisterSymmetricKeyRequest name group value v₂) (some ⟨CryptographicAlgorithm.aes.toInt32, bits⟩)
        (kmipCryptomaskEncrypt ||| kmipCryptomaskDecrypt).toUInt32 name group) ∧
    (∀ secret secretType, MeansSame dateToString v₁ v₂ (RegisterSecretRequest name group secret secretType v₁)
      (RegisterSecretRequest name group secret secretType v₂) none
      (kmipCryptomaskDeriveKey ||| kmipCryptomaskExport).toUInt32 name group) ∧
    (∀ key : Key, key.attributes.generic = ∅ → key.attributes.algorithm ≤ (lastCryptoAlgorithm v₁).toUInt32 →
      ((∃ item, RegisterKeyRequest name group key v₁ = .ok item) ↔
        ∃ item, RegisterKeyRequest name group key v₂ = .ok item) ∧
      ∃ pair : Option AlgorithmAndLength, (∀ a l, pair = some ⟨a, l⟩ ↔ SendsPair key v₁ a l) ∧
        ∀ item₁ item₂, RegisterKeyRequest name group key v₁ = .ok item₁ →
          RegisterKeyRequest name group key v₂ = .ok item₂ →
          MeansSame dateToString v₁ v₂ item₁ item₂ pair key.attributes.usageMaskOrUnset name group) := by
  refine ⟨fun keyBits mask => ⟨?_, ?_⟩, fun value hsize => ⟨bitsOf value, bitsOf_toInt hsize, ?_, ?_⟩,
    fun secret secretType => ⟨?_, ?_⟩, fun key hgeneric halg => ⟨?_, algorithmAndLength key v₁,
      fun a l => algorithmAndLength_eq_some_iff, fun item₁ item₂ hitem₁ hitem₂ => ⟨?_, ?_⟩⟩⟩
  · rw [requestAttributes_create, parse_encode, foldlM_symmetricKeyAttributes]
  · rw [requestAttributes_create, parse_encode, foldlM_symmetricKeyAttributes]
  · rw [requestAttributes_registerSymmetricKey, parse_encode]
    exact foldlM_symmetricKeyAttributes name group _ _
  · rw [requestAttributes_registerSymmetricKey, parse_encode]
    exact foldlM_symmetricKeyAttributes name group _ _
  · rw [requestAttributes_registerSecret, parse_encode, foldlM_secretDataAttributes]
  · rw [requestAttributes_registerSecret, parse_encode, foldlM_secretDataAttributes]
  · exact registerKeyRequest_isOk_iff (algorithmAndLength_eq h₂ halg)
  · rw [requestAttributes_registerKey name group v₁ hgeneric hitem₁, parse_encode]
    exact foldlM_registeredKeyAttributes name group (pair_checked h₁ halg) _
  · rw [requestAttributes_registerKey name group v₂ hgeneric hitem₂, parse_encode, ← algorithmAndLength_eq h₂ halg]
    exact foldlM_registeredKeyAttributes name group (pair_checked h₁ halg) _

end Agreement

/-- An AES key, created with 256 bits and registered with 16 bytes. -/
theorem requests_agree_sixteenBytes :
    (lastCryptoAlgorithm ⟨1, 0⟩).toUInt32 = CryptographicAlgorithm.twofish ∧
      MeansSame (fun _ => Bytes.empty) ⟨1, 0⟩ ⟨2, 0⟩
        (CreateSymmetricKeyRequest (.ofText "k") (.ofText "g") 256 12 ⟨1, 0⟩)
        (CreateSymmetricKeyRequest (.ofText "k") (.ofText "g") 256 12 ⟨2, 0⟩)
        (some ⟨CryptographicAlgorithm.aes.toInt32, 256⟩) 12 (.ofText "k") (.ofText "g") ∧
      (∃ item₁ item₂ pair, RegisterKeyRequest (.ofText "k") (.ofText "g") (sixteenByteKey .aes) ⟨1, 0⟩ = .ok item₁ ∧
        RegisterKeyRequest (.ofText "k") (.ofText "g") (sixteenByteKey .aes) ⟨2, 0⟩ = .ok item₂ ∧
        MeansSame (fun _ => Bytes.empty) ⟨1, 0⟩ ⟨2, 0⟩ item₁ item₂ pair .unset (.ofText "k") (.ofText "g")) := by
  obtain ⟨hcreate, -, -, hkey⟩ := requests_agree (fun _ => Bytes.empty) ⟨1, 0⟩ ⟨2, 0⟩ (by decide) (by decide)
    (.ofText "k") (.ofText "g")
  obtain ⟨-, pair, -, hsame⟩ := hkey (sixteenByteKey .aes) rfl (by decide)
  exact ⟨by decide, hcreate 256 12, _, _, pair, rfl, rfl, hsame _ _ rfl rfl⟩

end Kmip
