import Kmip.Core.RequestRoundTrip
import Kmip.Core.Requests

/-!
# The trees of Register requests

The payload of a Register request is the object type, the attributes and the object. The codec carries it
(`payloadOk_registerRequest`), and the bytes of the value occur in the Key Block only: `RegisterKeyRequest_eq_ok` gives
the request of a key in terms of its Key Block.
-/

namespace Kmip

open Element Requests

/-! ## The codec carries the payload -/

namespace Requests

theorem carried_makeAttribute {n : Bytes} {value : Element} (h : Carried 1 value) :
    Carried 2 (makeAttribute n value) := by
  refine carried_createStructure (by decide) ?_
  simp only [List.forall_mem_cons]
  exact ⟨carried_createTextString (by decide) _, h, nofun⟩

theorem carried_nameFields (value : Bytes) : ∀ c ∈ nameFields value, Carried 0 c := by
  simp only [nameFields, List.forall_mem_cons]
  exact ⟨carried_createTextString (by decide) _, carried_createEnumeration (by decide) _, nofun⟩

theorem carried_makeNameAttribute (value : Bytes) : Carried 2 (makeNameAttribute value) :=
  carried_makeAttribute (carried_createStructure (by decide) (carried_nameFields value))

theorem carried_makeTextAttribute (n value : Bytes) : Carried 2 (makeTextAttribute n value) :=
  carried_makeAttribute (carried_createTextString (by decide) value)

theorem carried_makeEnumAttribute (n : Bytes) (value : Int32) : Carried 2 (makeEnumAttribute n value) :=
  carried_makeAttribute (carried_createEnumeration (by decide) value)

theorem carried_makeIntegerAttribute (n : Bytes) (value : Int32) : Carried 2 (makeIntegerAttribute n value) :=
  carried_makeAttribute (carried_createInteger (by decide) value)

theorem carried_makeV2NameStruct (value : Bytes) : Carried 2 (makeV2NameStruct value) :=
  (carried_createStructure (by decide) (carried_nameFields value)).mono (by decide)

theorem carried_optionalGroup {n : Nat} {mk : Bytes → Element} (h : ∀ g, Carried n (mk g)) (group : Bytes) :
    ∀ c ∈ optionalGroup mk group, Carried n c := by
  unfold optionalGroup
  split
  · exact nofun
  · exact List.forall_mem_singleton.2 (h group)

theorem carried_optionalMask {n : Nat} {mk : Int32 → Element} (h : ∀ x, Carried n (mk x)) (key : Key) :
    ∀ c ∈ optionalMask mk key, Carried n c := by
  unfold optionalMask
  split
  · exact nofun
  · exact List.forall_mem_singleton.2 (h _)

theorem carried_optionalPair {n : Nat} {mkAlgorithm mkLength : Int32 → Element} (ha : ∀ x, Carried n (mkAlgorithm x))
    (hl : ∀ x, Carried n (mkLength x)) (pair : Option AlgorithmAndLength) :
    ∀ c ∈ optionalPair mkAlgorithm mkLength pair, Carried n c := by
  cases pair with
  | none => exact nofun
  | some pair =>
    simp only [optionalPair, List.forall_mem_cons]
    exact ⟨ha _, hl _, nofun⟩

theorem carried_genericAttributes (key : Key) : ∀ c ∈ genericAttributes key, Carried 2 c := by
  intro c hc
  obtain ⟨⟨attrName, attrVal⟩, -, h⟩ := List.mem_filterMap.1 hc
  obtain ⟨-, ⟨⟩⟩ := Option.ite_none_left_eq_some.1 h
  exact carried_makeTextAttribute _ _

theorem carried_makeKeyBlock (format : Int32) (value : Bytes) (algorithm length : Option Int32) :
    Carried 2 (makeKeyBlock format value algorithm length) := by
  refine carried_createStructure (by decide) ?_
  simp only [List.forall_mem_append, List.forall_mem_cons, forall_mem_optionalChild]
  refine ⟨⟨⟨carried_createEnumeration (by decide) _, carried_createStructure (by decide) ?_, nofun⟩,
    fun _ _ => carried_createEnumeration (by decide) _⟩, fun _ _ => carried_createInteger (by decide) _⟩
  exact List.forall_mem_singleton.2 (carried_createByteString (by decide) _)

theorem payloadOk_registerRequest {objectType : Int32} {attributes object : Element} (ha : Carried 3 attributes)
    (ho : Carried 3 object) :
    ∀ p ∈ (registerRequest objectType attributes object).requestPayload, PayloadOk p := by
  rintro _ ⟨⟩
  have hc : Carried 4 (createStructure Tag.requestPayload
      [createEnumeration Tag.objectType objectType, attributes, object]) := by
    refine carried_createStructure (by decide) ?_
    simp only [List.forall_mem_cons]
    exact ⟨carried_createEnumeration (by decide) _, ha, ho, nofun⟩
  exact ⟨rfl, hc.wellFormed, hc.height_le.trans (by decide)⟩

/-! ## Keys -/

/-- Object type, tag of the object and default format of a key. -/
structure KeyObjectKind where
  objectType : Int32
  tag : Tag
  format : Int32

/-- The kinds of keys that can be registered. -/
def keyObjectKind : KeyType → Option KeyObjectKind
  | .symmetricKey => some ⟨kmipObjtypeSymmetricKey, Tag.symmetricKey, kmipKeyformatRaw⟩
  | .privateKey => some ⟨kmipObjtypePrivateKey, Tag.privateKey, kmipKeyformatPkcs8⟩
  | .publicKey => some ⟨kmipObjtypePublicKey, Tag.publicKey, kmipKeyformatX509⟩
  | .certificate | .unset => none

/-- The attributes of a registered key, in the encoding of the version. -/
def keyAttributes (name group : Bytes) (key : Key) (version : ProtocolVersion) : Element :=
  if useAttributesContainer version then makeV2RegisterKeyAttrs name group key version
  else makeTemplateAttribute (registerKeyAttributes name group key version)

theorem tag_keyAttributes (name group : Bytes) (key : Key) (version : ProtocolVersion) :
    (keyAttributes name group key version).tag = Tag.attributes ∨
      (keyAttributes name group key version).tag = Tag.templateAttribute := by
  unfold keyAttributes
  split
  · exact .inl rfl
  · exact .inr rfl

/-- The Key Block of a registered key. -/
def keyBlockOf (key : Key) (version : ProtocolVersion) (defaultFormat : Int32) : Element :=
  makeKeyBlock (key.keyFormat.getD defaultFormat) key.value ((algorithmAndLength key version).map (·.algorithm))
    ((algorithmAndLength key version).map (·.length))

theorem carried_keyAttributes (name group : Bytes) (key : Key) (version : ProtocolVersion) :
    Carried 3 (keyAttributes name group key version) := by
  unfold keyAttributes
  split
  · refine carried_createStructure (by decide) ?_
    simp only [List.forall_mem_append, List.forall_mem_singleton]
    refine ⟨⟨⟨carried_makeV2NameStruct name, ?_⟩, ?_⟩, ?_⟩
    · exact carried_optionalGroup (carried_createTextString (by decide)) group
    · exact carried_optionalPair (carried_createEnumeration (by decide)) (carried_createInteger (by decide)) _
    · exact carried_optionalMask (carried_createInteger (by decide)) key
  · refine carried_createStructure (by decide) ?_
    simp only [registerKeyAttributes, List.forall_mem_append, List.forall_mem_singleton]
    refine ⟨⟨⟨⟨carried_makeNameAttribute name, ?_⟩, ?_⟩, ?_⟩, carried_genericAttributes key⟩
    · exact carried_optionalGroup (carried_makeTextAttribute _) group
    · exact carried_optionalPair (carried_makeEnumAttribute _) (carried_makeIntegerAttribute _) _
    · exact carried_optionalMask (carried_makeIntegerAttribute _) key

end Requests

/-- The request of a key in terms of its Key Block. -/
theorem RegisterKeyRequest_eq_ok {name group : Bytes} {key : Key} {version : ProtocolVersion} {item : RequestBatchItem}
    (h : RegisterKeyRequest name group key version = .ok item) :
    ∃ kind ∈ keyObjectKind key.type, item = registerRequest kind.objectType (keyAttributes name group key version)
      (createStructure kind.tag [keyBlockOf key version kind.format]) := by
  obtain ⟨objectType, hot, h⟩ := Except.bind_eq_ok_iff.1 h
  obtain ⟨object, hobj, h⟩ := Except.bind_eq_ok_iff.1 h
  cases h
  unfold makeKeyObjectFromKey at hobj
  cases htype : key.type with
  | symmetricKey =>
    rw [htype] at hot hobj
    cases hot
    simp only at hobj
    split at hobj
    · cases hobj
    · cases hobj
      exact ⟨_, rfl, rfl⟩
  | privateKey =>
    rw [htype] at hot hobj
    cases hot
    cases hobj
    exact ⟨_, rfl, rfl⟩
  | publicKey =>
    rw [htype] at hot hobj
    cases hot
    cases hobj
    exact ⟨_, rfl, rfl⟩
  | certificate =>
    rw [htype] at hobj
    cases hobj
  | unset =>
    rw [htype] at hobj
    cases hobj

/-- The codec carries the payload of every Register request. -/
theorem payloadOk_RegisterKeyRequest {name group : Bytes} {key : Key} {version : ProtocolVersion}
    {item : RequestBatchItem} (h : RegisterKeyRequest name group key version = .ok item) :
    ∀ p ∈ item.requestPayload, PayloadOk p := by
  obtain ⟨kind, hkind, rfl⟩ := RegisterKeyRequest_eq_ok h
  have htag : kind.tag.toNat < 2 ^ 24 := by
    cases htype : key.type <;> rw [htype] at hkind <;> cases hkind <;> decide
  refine payloadOk_registerRequest (carried_keyAttributes name group key version) (carried_createStructure htag ?_)
  exact List.forall_mem_singleton.2 (carried_makeKeyBlock _ _ _ _)

/-- The attributes of a registered secret, in the encoding of the version. -/
def Requests.secretAttributes (name group : Bytes) (version : ProtocolVersion) : Element :=
  if useAttributesContainer version then makeV2RegisterSecretAttrs name group
  else makeTemplateAttribute
    ([makeIntegerAttribute (.ofText "Cryptographic Usage Mask") (kmipCryptomaskDeriveKey ||| kmipCryptomaskExport),
      makeNameAttribute name] ++ groupAttribute group)

theorem RegisterSecretRequest_eq (name group secret : Bytes) (secretType : SecretDataType)
    (version : ProtocolVersion) :
    RegisterSecretRequest name group secret secretType version =
      registerRequest kmipObjtypeSecretData (secretAttributes name group version) (makeSecretData secret secretType) :=
  rfl

theorem payloadOk_RegisterSecretRequest (name group secret : Bytes) (secretType : SecretDataType)
    (version : ProtocolVersion) :
    ∀ p ∈ (RegisterSecretRequest name group secret secretType version).requestPayload, PayloadOk p := by
  rw [RegisterSecretRequest_eq]
  refine payloadOk_registerRequest ?_ (carried_createStructure (by decide) ?_)
  · unfold secretAttributes
    split
    · refine carried_createStructure (by decide) ?_
      simp only [List.forall_mem_append, List.forall_mem_cons]
      exact ⟨⟨carried_createInteger (by decide) _, carried_makeV2NameStruct name, nofun⟩,
        carried_optionalGroup (carried_createTextString (by decide)) group⟩
    · refine carried_createStructure (by decide) ?_
      simp only [List.forall_mem_append, List.forall_mem_cons]
      exact ⟨⟨carried_makeIntegerAttribute _ _, carried_makeNameAttribute name, nofun⟩,
        carried_optionalGroup (carried_makeTextAttribute _) group⟩
  · simp only [List.forall_mem_cons]
    exact ⟨carried_createEnumeration (by decide) _, carried_makeKeyBlock _ _ _ _, nofun⟩

theorem payloadOk_RegisterSymmetricKeyRequest (name group keyValue : Bytes) (version : ProtocolVersion) :
    ∀ p ∈ (RegisterSymmetricKeyRequest name group keyValue version).requestPayload, PayloadOk p := by
  refine payloadOk_registerRequest ?_ (carried_createStructure (by decide) ?_)
  · split
    · refine carried_createStructure (by decide) ?_
      simp only [List.forall_mem_append, List.forall_mem_cons]
      exact ⟨⟨carried_createEnumeration (by decide) _, carried_createInteger (by decide) _,
        carried_createInteger (by decide) _, carried_makeV2NameStruct name, nofun⟩,
        carried_optionalGroup (carried_createTextString (by decide)) group⟩
    · refine carried_createStructure (by decide) ?_
      simp only [List.forall_mem_append, List.forall_mem_cons]
      exact ⟨⟨carried_makeEnumAttribute _ _, carried_makeIntegerAttribute _ _, carried_makeIntegerAttribute _ _,
        carried_makeNameAttribute name, nofun⟩, carried_optionalGroup (carried_makeTextAttribute _) group⟩
  · exact List.forall_mem_singleton.2 (carried_makeKeyBlock _ _ _ _)

end Kmip
