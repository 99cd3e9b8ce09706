import Kmip.Core.RegisterGet

/-!
# The payloads of the requests

The codec carries the payload of every request that the constructors of `kmip_requests` build, in both encodings of
attributes. Register requests are in `Kmip.Core.RegisterTrees`.
-/

namespace Kmip

open Element Requests

/-- The payload of a request, from its children. -/
theorem payloadOk_createStructure {n : Nat} (hn : n < 62) {items : List Element} (h : ∀ c ∈ items, Carried n c) :
    ∀ p ∈ some (createStructure Tag.requestPayload items), PayloadOk p := by
  rintro _ ⟨⟩
  have hc : Carried (n + 1) (createStructure Tag.requestPayload items) := carried_createStructure (by decide) h
  exact ⟨rfl, hc.wellFormed, hc.height_le.trans hn⟩

theorem payloadOk_SimpleIdRequest (opCode : Int32) (uniqueId : Bytes) :
    ∀ p ∈ (SimpleIdRequest opCode uniqueId).requestPayload, PayloadOk p :=
  payloadOk_createStructure (n := 0) (by decide)
    (List.forall_mem_singleton.2 (carried_createTextString (by decide) uniqueId))

theorem payloadOk_GetRequest (uniqueId : Bytes) (keyFormatType : Option Int32) :
    ∀ p ∈ (GetRequest uniqueId keyFormatType).requestPayload, PayloadOk p := by
  refine payloadOk_createStructure (n := 0) (by decide) ?_
  rw [List.forall_mem_append, List.forall_mem_singleton, forall_mem_optionalChild]
  exact ⟨carried_createTextString (by decide) uniqueId, fun _ _ => carried_createEnumeration (by decide) _⟩

theorem carried_makeV2AttributeReference (attributeName : Bytes) :
    Carried 1 (makeV2AttributeReference attributeName) := by
  refine carried_createStructure (by decide) (List.forall_mem_singleton.2 ?_)
  split
  · exact carried_createEnumeration (by decide) _
  · exact carried_createTextString (by decide) _

theorem carried_attributeSelectors (version : ProtocolVersion) (legacyAttributeNamesForV2 : Bool)
    (names : List Bytes) : ∀ c ∈ attributeSelectors version legacyAttributeNamesForV2 names, Carried 1 c := by
  unfold attributeSelectors
  split
  · exact List.forall_mem_map.2 fun n _ => carried_makeV2AttributeReference n
  · exact List.forall_mem_map.2 fun n _ => carried_createTextString (by decide) n

theorem payloadOk_GetAttributesRequest (uniqueId : Bytes) (attributeNames : List Bytes) (version : ProtocolVersion)
    (legacyAttributeNamesForV2 : Bool) :
    ∀ p ∈ (GetAttributesRequest uniqueId attributeNames version legacyAttributeNamesForV2).requestPayload,
      PayloadOk p := by
  refine payloadOk_createStructure (n := 1) (by decide) ?_
  rw [List.forall_mem_append, List.forall_mem_singleton]
  exact ⟨carried_createTextString (by decide) uniqueId, carried_attributeSelectors _ _ _⟩

theorem payloadOk_CreateSymmetricKeyRequest (name group : Bytes) (keyBits : Int32)
    (usageMask : CryptographicUsageMask) (version : ProtocolVersion) :
    ∀ p ∈ (CreateSymmetricKeyRequest name group keyBits usageMask version).requestPayload, PayloadOk p := by
  refine payloadOk_createStructure (n := 3) (by decide) ?_
  simp only [List.forall_mem_cons]
  refine ⟨carried_createEnumeration (by decide) _, ?_, nofun⟩
  split
  · refine carried_createStructure (by decide) ?_
    simp only [List.forall_mem_append, List.forall_mem_cons]
    exact ⟨⟨carried_createEnumeration (by decide) _, carried_createInteger (by decide) _,
      carried_createInteger (by decide) _, carried_makeV2NameStruct name, nofun⟩,
      carried_optionalGroup (carried_createTextString (by decide)) group⟩
  · refine carried_createStructure (by decide) ?_
    simp only [List.forall_mem_append, List.forall_mem_cons]
    exact ⟨⟨carried_makeEnumAttribute _ _, carried_makeIntegerAttribute _ _, carried_makeIntegerAttribute _ _,
      carried_makeNameAttribute name, nofun⟩, carried_optionalGroup (carried_makeTextAttribute _) group⟩

theorem carried_positiveInteger {t : Tag} (ht : t.toNat < 2 ^ 24) (value : Nat) :
    ∀ c ∈ positiveInteger t value, Carried 3 c := by
  unfold positiveInteger
  split
  · exact List.forall_mem_singleton.2 (carried_createInteger ht _)
  · exact nofun

theorem carried_locateAttributes (locateByGroup : Bool) (name : Bytes) (objType : UInt32) (version : ProtocolVersion) :
    ∀ c ∈ locateAttributes locateByGroup name objType version, Carried 3 c := by
  unfold locateAttributes
  split
  · refine List.forall_mem_singleton.2 (carried_createStructure (by decide) ?_)
    rw [List.forall_mem_append, List.forall_mem_singleton]
    refine ⟨carried_createEnumeration (by decide) _, carried_optionalGroup (fun g => ?_) name⟩
    cases locateByGroup with
    | true => exact carried_createTextString (by decide) g
    | false => exact carried_makeV2NameStruct g
  · rw [List.forall_mem_append, List.forall_mem_singleton]
    refine ⟨(carried_makeEnumAttribute _ _).mono (by decide), carried_optionalGroup (fun g => ?_) name⟩
    cases locateByGroup with
    | true => exact (carried_makeTextAttribute _ g).mono (by decide)
    | false => exact (carried_makeNameAttribute g).mono (by decide)

theorem payloadOk_locateItem (locateByGroup : Bool) (name : Bytes) (objType : UInt32) (maxItems offset : Nat)
    (version : ProtocolVersion) :
    ∀ p ∈ (locateItem locateByGroup name objType maxItems offset version).requestPayload, PayloadOk p := by
  refine payloadOk_createStructure (n := 3) (by decide) ?_
  simp only [List.forall_mem_append]
  exact ⟨⟨carried_positiveInteger (by decide) _, carried_positiveInteger (by decide) _⟩,
    carried_locateAttributes _ _ _ _⟩

theorem LocateRequest_eq_ok {locateByGroup : Bool} {name : Bytes} {objType : UInt32} {maxItems offset : Nat}
    {version : ProtocolVersion} {item : RequestBatchItem}
    (h : LocateRequest locateByGroup name objType maxItems offset version = .ok item) :
    item = locateItem locateByGroup name objType maxItems offset version := by
  unfold LocateRequest at h
  split at h
  · cases h
  · split at h
    · cases h
    · exact (Except.ok.inj h).symm

theorem payloadOk_LocateRequest {locateByGroup : Bool} {name : Bytes} {objType : UInt32} {maxItems offset : Nat}
    {version : ProtocolVersion} {item : RequestBatchItem}
    (h : LocateRequest locateByGroup name objType maxItems offset version = .ok item) :
    ∀ p ∈ item.requestPayload, PayloadOk p := by
  rw [LocateRequest_eq_ok h]
  exact payloadOk_locateItem _ _ _ _ _ _

theorem payloadOk_RevokeRequest (uniqueId : Bytes) (reason : RevocationReasonType) (message : Bytes)
    (occurrenceTime : Int64) : ∀ p ∈ (RevokeRequest uniqueId reason message occurrenceTime).requestPayload,
      PayloadOk p := by
  refine payloadOk_createStructure (n := 1) (by decide) ?_
  simp only [List.forall_mem_append, List.forall_mem_cons]
  refine ⟨⟨carried_createTextString (by decide) uniqueId, carried_createStructure (by decide) ?_, nofun⟩, ?_⟩
  · rw [List.forall_mem_append, List.forall_mem_singleton]
    refine ⟨carried_createEnumeration (by decide) _, ?_⟩
    split
    · exact nofun
    · exact List.forall_mem_singleton.2 (carried_createTextString (by decide) message)
  · split
    · exact List.forall_mem_singleton.2 (carried_createDateTime (by decide) _)
    · exact nofun

/-! ## Sizes -/

/-- What `serialize` sends is not empty, and within the limit of the buffer. -/
theorem RequestMessage.serialize_length {m : RequestMessage} {now : Int64} {bytes : List UInt8}
    (h : m.serialize now = .ok bytes) : bytes ≠ [] ∧ bytes.length ≤ SerializationBuffer.maxCapacity := by
  obtain ⟨e, b, -, hb, rfl⟩ := serialize_eq_ok h
  obtain ⟨ha, -⟩ := serialize_appends (SerializationBuffer.Valid.new _)
    (by rw [SerializationBuffer.currentOffset_new]; omega) hb
  obtain ⟨hspan, hsize⟩ := span_of_appends ha
  have hle := size_le_of_appends ha
  rw [hspan]
  refine ⟨fun hnil => ?_, by omega⟩
  have hpos := le_length_encode e
  rw [hnil] at hpos
  exact absurd hpos (by decide)

/-- The bytes of a request as a vector. -/
theorem RequestMessage.exists_data {m : RequestMessage} {now : Int64} {bytes : List UInt8}
    (h : m.serialize now = .ok bytes) : ∃ data : Bytes, data.bytes = bytes := by
  have hlt : SerializationBuffer.maxCapacity < 2 ^ 63 := by decide
  exact ⟨⟨bytes, (serialize_length h).2.trans_lt hlt⟩, rfl⟩

/-- A server decodes the items that were sent, under the normalised header. -/
theorem RequestMessage.exists_decode {m : RequestMessage} {now : Int64} {bytes : List UInt8}
    (hp : ∀ item ∈ m.batchItems, ∀ p ∈ item.requestPayload, PayloadOk p) (h : m.serialize now = .ok bytes) :
    ∃ data : Bytes, data.bytes = bytes ∧ RequestMessage.decode data =
      .ok ⟨m.normalizedHeader now, m.batchItems, UInt32.ofNat (m.batchItems.length + 1)⟩ := by
  obtain ⟨data, rfl⟩ := exists_data h
  obtain ⟨e, hd, hm⟩ := decode_serialize hp h
  refine ⟨data, rfl, ?_⟩
  rw [RequestMessage.decode, hd]
  exact hm

end Kmip
