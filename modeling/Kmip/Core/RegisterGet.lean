import Kmip.Core.KeyParser
import Kmip.Core.RegisterTrees
import Kmip.Core.ResponseRoundTrip

/-!
# Register and Get agree

A server that hands out in a Get response the object type and the object it received in a Register request gives the
client its key back (`register_get`): the request and the response go through encode and decode, and the parsers of
responses undo the builders of requests.
-/

namespace Kmip

open Element Requests KeyParser

/-! ## The wire -/

/-- The message in some bytes. -/
def RequestMessage.decode (data : Bytes) : Except Abort RequestMessage := do
  let (e, _) ← (deserialize data 0).result
  fromElement e

def ResponseMessage.decode (data : Bytes) : Except Abort ResponseMessage := do
  let (e, _) ← (deserialize data 0).result
  fromElement e

/-- The tags of the objects that can be registered. -/
def objectTags : List Tag := [Tag.symmetricKey, Tag.privateKey, Tag.publicKey, Tag.secretData]

/-- The payload `p` of a response has an identifier, and the object type and the object of the request payload `q`. -/
structure HandsOut (q p : Element) : Prop where
  ok : ResponsePayloadOk p
  uniqueIdentifier : ∃ id, p.getChild Tag.uniqueIdentifier = some (createTextString Tag.uniqueIdentifier id)
  objectType : p.getChild Tag.objectType = q.getChild Tag.objectType
  object : ∀ t ∈ objectTags, ∀ o, q.getChild t = some o → p.getChild t = some o

/-- A batch item is sent in a request, and the server hands the object of the request it decodes out in a response to
Get, which the client decodes. -/
structure Exchange (item : RequestBatchItem) where
  request : RequestMessage
  id : UInt32
  batchItems_eq : request.batchItems = [{ item with uniqueBatchItemId := id }]
  now : Int64
  sent : Bytes
  serialize_eq : request.serialize now = .ok sent.bytes
  /-- What the server decodes. -/
  received : RequestMessage
  received_eq : RequestMessage.decode sent = .ok received
  /-- What the server answers. -/
  response : ResponseMessage
  answer : ResponseBatchItem
  answer_eq : response.batchItems = [answer]
  operation : answer.operation = kmipOpGet
  handsOut : ∃ q ∈ received.batchItems.head?.bind (·.requestPayload), ∃ p ∈ answer.responsePayload, HandsOut q p
  root : Element
  root_eq : response.toElement = .ok root
  cap : Nat
  buffer : SerializationBuffer
  buffer_eq : root.serialize (.new cap) = .ok buffer
  returned : Bytes
  returned_eq : returned.bytes = buffer.span
  /-- What the client decodes. -/
  got : ResponseMessage
  got_eq : ResponseMessage.decode returned = .ok got

namespace Exchange

variable {item : RequestBatchItem} (x : Exchange item)

/-- The server receives the batch item that was sent. -/
theorem received_batchItems (hp : ∀ p ∈ item.requestPayload, PayloadOk p) :
    x.received.batchItems = x.request.batchItems := by
  have hall : ∀ i ∈ x.request.batchItems, ∀ p ∈ i.requestPayload, PayloadOk p := by
    rw [x.batchItems_eq]
    exact List.forall_mem_singleton.2 hp
  obtain ⟨e, hd, he⟩ := RequestMessage.decode_serialize hall x.serialize_eq
  have h := x.received_eq
  rw [RequestMessage.decode, hd, Except.ok_bind] at h
  change RequestMessage.fromElement e = _ at h
  rw [he] at h
  exact (congrArg RequestMessage.batchItems (Except.ok.inj h)).symm

/-- The answer has a payload that hands out what was sent. -/
theorem exists_handsOut (hp : ∀ p ∈ item.requestPayload, PayloadOk p) :
    ∃ q ∈ item.requestPayload, ∃ p ∈ x.answer.responsePayload, HandsOut q p := by
  have h := x.handsOut
  rw [x.received_batchItems hp, x.batchItems_eq] at h
  exact h

/-- The client gets the answer of the server. -/
theorem got_batchItems (hp : ∀ p ∈ item.requestPayload, PayloadOk p) : x.got.batchItems = [x.answer] := by
  obtain ⟨q, -, p, hpa, h⟩ := x.exists_handsOut hp
  have hall : ∀ i ∈ x.response.batchItems, ∀ p ∈ i.responsePayload, ResponsePayloadOk p := by
    rw [x.answer_eq, List.forall_mem_singleton]
    intro p' hp'
    cases Option.mem_unique hpa hp'
    exact h.ok
  have hg := x.got_eq
  rw [ResponseMessage.decode,
    deserialize_of_carried (ResponseMessage.carried_toElement x.root_eq hall) x.buffer_eq x.returned_eq,
    Except.ok_bind] at hg
  rw [((ResponseMessage.fromElement_eq_ok_iff x.root_eq hall).1 hg).2, x.answer_eq]

end Exchange

/-! ## The Key Block comes back -/

section KeyBlock

variable (format : Int32) (value : Bytes) (algorithm length : Option Int32)

theorem getChild_makeKeyBlock_algorithm :
    (makeKeyBlock format value algorithm length).getChild Tag.cryptographicAlgorithm =
      algorithm.map (createEnumeration Tag.cryptographicAlgorithm) := by
  cases algorithm <;> cases length <;> rfl

theorem getChild_makeKeyBlock_length :
    (makeKeyBlock format value algorithm length).getChild Tag.cryptographicLength =
      length.map (createInteger Tag.cryptographicLength) := by
  cases algorithm <;> cases length <;> rfl

/-- An algorithm that `KeyParser` reads back: defined and not `KMIP_CRYPTOALG_UNSET`. -/
def ReadableAlgorithm (a : Int32) : Prop :=
  isValidCryptographicAlgorithm a ∧ a ≠ CryptographicAlgorithm.unset.toInt32

/-- The attributes that `KeyParser` reads from a Key Block. -/
def blockAttributes : Attributes :=
  { ({} : Attributes) with algo := algorithm.map (·.toUInt32), cryptoLength := length }

theorem keyBlockAttributes_makeKeyBlock (h : ∀ a ∈ algorithm, ReadableAlgorithm a) :
    keyBlockAttributes (makeKeyBlock format value algorithm length) {} = .ok (blockAttributes algorithm length) := by
  rw [keyBlockAttributes, getChild_makeKeyBlock_algorithm, getChild_makeKeyBlock_length]
  cases algorithm with
  | none => cases length <;> rfl
  | some a =>
    obtain ⟨hvalid, hset⟩ := h a rfl
    have ha : checkedCryptographicAlgorithm a = .ok a.toUInt32 := by
      rw [checkedCryptographicAlgorithm, checkedEnum, hvalid]
      rfl
    have hsetAlg : ({} : Attributes).setAlgorithm a.toUInt32 = { ({} : Attributes) with algo := some a.toUInt32 } := by
      rw [Attributes.setAlgorithm, if_neg fun h0 => hset (by rw [← h0]; rfl)]
    show checkedCryptographicAlgorithm a >>= _ = _
    rw [ha, Except.ok_bind, hsetAlg]
    cases length <;> rfl

theorem parseKeyFromKeyBlockHolder_makeKeyBlock (dateToString : Int64 → Bytes) (t : Tag) (keyType : KeyType)
    (name : String) (h : ∀ a ∈ algorithm, ReadableAlgorithm a) :
    parseKeyFromKeyBlockHolder dateToString (createStructure t [makeKeyBlock format value algorithm length]) keyType
      name = .ok ⟨value, keyType, blockAttributes algorithm length, some format⟩ := by
  show (keyBlockAttributes (makeKeyBlock format value algorithm length) {} >>= fun attrs =>
    .ok ⟨value, keyType, attrs, some format⟩ : Except Abort Key) = _
  rw [keyBlockAttributes_makeKeyBlock format value algorithm length h]
  rfl

end KeyBlock

/-- The algorithm that a request sends is the one of the key. -/
theorem readableAlgorithm_of_key {key : Key} {version : ProtocolVersion}
    (h : ∀ a ∈ key.attributes.algo, isValidCryptographicAlgorithm a.toInt32) :
    ∀ a ∈ (algorithmAndLength key version).map (·.algorithm), ReadableAlgorithm a := by
  intro a ha
  obtain ⟨pair, hpair, rfl⟩ := Option.map_eq_some_iff.1 ha
  simp only [algorithmAndLength] at hpair
  split at hpair
  · cases hpair
  rename_i hset
  have halg : pair.algorithm = key.attributes.algorithm.toInt32 := by
    split at hpair
    · cases hpair
    · split at hpair <;> cases hpair
      rfl
  have hunset : key.attributes.algorithm.toInt32 ≠ CryptographicAlgorithm.unset.toInt32 := fun h0 => hset (Or.inl h0)
  rw [halg]
  refine ⟨?_, hunset⟩
  cases halgo : key.attributes.algo with
  | none => exact absurd (by rw [Attributes.algorithm, halgo]; rfl) hunset
  | some a =>
    rw [Attributes.algorithm, halgo]
    exact h a halgo

/-! ## The objects come back -/

/-- The object type and the object in a Register request. -/
theorem getChild_registerRequest {objectType : Int32} {attributes object q : Element}
    (hattr : attributes.tag ∉ objectTags) (hobj : object.tag ∈ objectTags)
    (hq : q ∈ (registerRequest objectType attributes object).requestPayload) :
    q.getChild Tag.objectType = some (createEnumeration Tag.objectType objectType) ∧
      q.getChild object.tag = some object := by
  cases hq
  refine ⟨rfl, ?_⟩
  have hot : Tag.objectType ≠ object.tag := fun heq => absurd (heq ▸ hobj) (by decide)
  have hat : attributes.tag ≠ object.tag := fun heq => hattr (heq ▸ hobj)
  show List.find? (fun c => c.tag == object.tag) [createEnumeration Tag.objectType objectType, attributes, object] = _
  rw [List.find?_cons_of_neg (by simpa [createEnumeration] using hot),
    List.find?_cons_of_neg (by simpa using hat), List.find?_cons_of_pos (by simp)]

/-- What an answer hands out of a Register request. -/
theorem HandsOut.getChild_eq {objectType : Int32} {attributes object q p : Element} (h : HandsOut q p)
    (hattr : attributes.tag ∉ objectTags) (hobj : object.tag ∈ objectTags)
    (hq : q ∈ (registerRequest objectType attributes object).requestPayload) :
    p.getChild Tag.objectType = some (createEnumeration Tag.objectType objectType) ∧
      p.getChild object.tag = some object :=
  have hc := getChild_registerRequest hattr hobj hq
  ⟨h.objectType.trans hc.1, h.object _ hobj _ hc.2⟩

theorem GetResponseBatchItem.fromBatchItem_eq {answer : ResponseBatchItem} {p object : Element} {id : Bytes}
    {objectType : Int32} (hop : answer.operation = kmipOpGet) (hp : answer.responsePayload = some p)
    (hid : p.getChild Tag.uniqueIdentifier = some (createTextString Tag.uniqueIdentifier id))
    (hot : p.getChild Tag.objectType = some (createEnumeration Tag.objectType objectType))
    (hobj : getObjectElementForType p objectType = some object) :
    fromBatchItem answer = .ok ⟨answer, id, objectType, object⟩ := by
  have hpayload : requireResponsePayload answer "GetResponseBatchItem" = .ok p := by rw [requireResponsePayload, hp]
  have hop' : expectOperation answer kmipOpGet "GetResponseBatchItem" = .ok () := if_neg (not_not.2 hop)
  have hstring : (createTextString Tag.uniqueIdentifier id).toString = .ok id := rfl
  have henum : (createEnumeration Tag.objectType objectType).toEnum = .ok objectType := rfl
  simp only [fromBatchItem, hop', hpayload, hid, hstring, hot, henum, hobj, Except.ok_bind]

/-- The parser of responses has an entry for each kind of key. -/
theorem exists_mapping {type : KeyType} {kind : KeyObjectKind} (h : kind ∈ keyObjectKind type) :
    ∃ m ∈ mappings, m.keyType = type ∧ m.objType = kind.objectType ∧ m.wrapperTag = kind.tag := by
  cases type <;> cases h
  · exact ⟨_, List.mem_cons_self, rfl, rfl, rfl⟩
  · exact ⟨_, List.mem_cons_of_mem _ (List.mem_cons_of_mem _ List.mem_cons_self), rfl, rfl, rfl⟩
  · exact ⟨_, List.mem_cons_of_mem _ List.mem_cons_self, rfl, rfl, rfl⟩

theorem parseResponse_mapping {dateToString : Int64 → Bytes} {m : ObjectTypeMapping} (hm : m ∈ mappings)
    {p object : Element} (hot : p.getChild Tag.objectType = some (createEnumeration Tag.objectType m.objType))
    (hobj : p.getChild m.wrapperTag = some object)
    (hfmt : m.keyType = .symmetricKey → checkSymmetricFormat object = .ok ()) :
    parseResponse dateToString (some p) = parseKeyFromKeyBlockHolder dateToString object m.keyType m.name := by
  have hfind : mappings.find? (·.objType == m.objType) = some m := by
    simp only [mappings, List.mem_cons, List.not_mem_nil, or_false] at hm
    rcases hm with rfl | rfl | rfl <;> rfl
  have hsym : m.objType = kmipObjtypeSymmetricKey → m.keyType = .symmetricKey := by
    simp only [mappings, List.mem_cons, List.not_mem_nil, or_false] at hm
    rcases hm with rfl | rfl | rfl
    · exact fun _ => rfl
    · exact fun h => absurd h (by decide)
    · exact fun h => absurd h (by decide)
  have hreq : ∀ {t c msg}, p.getChild t = some c → requireChild p t msg = .ok c := fun h => by rw [requireChild, h]
  have henum : (createEnumeration Tag.objectType m.objType).toEnum = .ok m.objType := rfl
  simp only [parseResponse, hreq hot, henum, hfind, hreq hobj, Except.ok_bind]
  split
  · rename_i hot'
    rw [hfmt (hsym hot'), Except.ok_bind]
  · rfl

theorem checkSymmetricFormat_makeKeyBlock (t : Tag) (value : Bytes) (algorithm length : Option Int32) :
    checkSymmetricFormat (createStructure t [makeKeyBlock kmipKeyformatRaw value algorithm length]) = .ok () := rfl

theorem parseGetSecretResponse_makeSecretData {item : GetResponseBatchItem} {secret : Bytes}
    {secretType : SecretDataType} (hot : item.objectType = kmipObjtypeSecretData)
    (hobj : item.objectElement = makeSecretData secret secretType) (hv : isValidSecretDataType secretType.toInt32) :
    parseGetSecretResponse item = .ok { value := secret, secretType := secretType } := by
  have hc : checkedSecretDataType secretType.toInt32 = .ok secretType := by
    rw [checkedSecretDataType, checkedEnum, hv]
    rfl
  rw [parseGetSecretResponse, if_neg (not_not.2 hot), hobj]
  show checkedSecretDataType secretType.toInt32 >>= _ = _
  rw [hc]
  rfl

/-! ## Register, then Get -/

/-- The payload of a Register request holds the Key Block `block`. -/
def CarriesKeyBlock (item : RequestBatchItem) (block : Element) : Prop :=
  ∃ q ∈ item.requestPayload, ∃ t ∈ objectTags, ∃ object ∈ q.getChild t, block ∈ object.getChild Tag.keyBlock

theorem tag_keyAttributes_notMem (name group : Bytes) (key : Key) (version : ProtocolVersion) :
    (keyAttributes name group key version).tag ∉ objectTags := by
  rcases tag_keyAttributes name group key version with h | h <;> rw [h] <;> decide

theorem tag_mem_objectTags {type : KeyType} {kind : KeyObjectKind} (h : kind ∈ keyObjectKind type) :
    kind.tag ∈ objectTags := by
  cases type <;> cases h <;> decide

/-- The key that the client gets back. -/
theorem Exchange.parseGetKeyResponse_eq {name group : Bytes} {key : Key} {version : ProtocolVersion}
    {item : RequestBatchItem} (x : Exchange item) (dateToString : Int64 → Bytes)
    (hitem : RegisterKeyRequest name group key version = .ok item)
    (hformat : key.type = .symmetricKey → key.keyFormat = none ∨ key.keyFormat = some kmipKeyformatRaw)
    (halg : ∀ a ∈ key.attributes.algo, isValidCryptographicAlgorithm a.toInt32) :
    ∃ response, ∃ kind ∈ keyObjectKind key.type, GetResponseBatchItem.fromBatchItem x.answer = .ok response ∧
      parseGetKeyResponse dateToString response = .ok ⟨key.value, key.type,
        blockAttributes ((algorithmAndLength key version).map (·.algorithm))
          ((algorithmAndLength key version).map (·.length)), some (key.keyFormat.getD kind.format)⟩ := by
  obtain ⟨q, hq, p, hp, h⟩ := x.exists_handsOut (payloadOk_RegisterKeyRequest hitem)
  obtain ⟨kind, hkind, rfl⟩ := RegisterKeyRequest_eq_ok hitem
  obtain ⟨hot, hobj⟩ := h.getChild_eq (tag_keyAttributes_notMem name group key version) (tag_mem_objectTags hkind) hq
  obtain ⟨id, hid⟩ := h.uniqueIdentifier
  obtain ⟨m, hm, htype, hmo, hmt⟩ := exists_mapping hkind
  rw [← hmo] at hot
  change p.getChild kind.tag = _ at hobj
  rw [← hmt] at hobj
  -- a symmetric key is Raw, so that the parser takes it
  have hsym : m.keyType = .symmetricKey →
      checkSymmetricFormat (createStructure m.wrapperTag [keyBlockOf key version kind.format]) = .ok () := by
    intro hs
    rw [htype] at hs
    have hkind' := hkind
    rw [hs] at hkind'
    cases hkind'
    have hraw : key.keyFormat.getD kmipKeyformatRaw = kmipKeyformatRaw := by
      rcases hformat hs with hf | hf <;> rw [hf] <;> rfl
    rw [keyBlockOf, hraw]
    exact checkSymmetricFormat_makeKeyBlock _ _ _ _
  refine ⟨_, kind, hkind, GetResponseBatchItem.fromBatchItem_eq x.operation hp hid hot
    ((getObjectElementForType_of_mapping hm p).trans hobj), ?_⟩
  rw [parseGetKeyResponse, hp, parseResponse_mapping hm hot hobj hsym, keyBlockOf,
    parseKeyFromKeyBlockHolder_makeKeyBlock _ _ _ _ _ _ _ _ (readableAlgorithm_of_key halg), htype]

theorem Exchange.parseGetSecretResponse_eq {name group secret : Bytes} {secretType : SecretDataType}
    {version : ProtocolVersion} (x : Exchange (RegisterSecretRequest name group secret secretType version))
    (hv : isValidSecretDataType secretType.toInt32) :
    ∃ response, GetResponseBatchItem.fromBatchItem x.answer = .ok response ∧
      parseGetSecretResponse response = .ok { value := secret, secretType := secretType } := by
  obtain ⟨q, hq, p, hp, h⟩ := x.exists_handsOut (payloadOk_RegisterSecretRequest name group secret secretType version)
  have hattr : (secretAttributes name group version).tag ∉ objectTags := by
    unfold secretAttributes
    split
    · exact (by decide : Tag.attributes ∉ objectTags)
    · exact (by decide : Tag.templateAttribute ∉ objectTags)
  obtain ⟨hot, hobj⟩ := h.getChild_eq hattr (by decide : Tag.secretData ∈ objectTags) hq
  obtain ⟨id, hid⟩ := h.uniqueIdentifier
  exact ⟨_, GetResponseBatchItem.fromBatchItem_eq x.operation hp hid hot hobj,
    parseGetSecretResponse_makeSecretData rfl rfl hv⟩

/-- **Register and Get agree.** The server hands out the object type and the object that it received. The client then
gets a key with the value and the type of the one it registered, in its format or the default of its type, and with the
algorithm and the length in the Key Block it sent; and it gets its secrets back with their types. -/
theorem register_get (dateToString : Int64 → Bytes) :
    (∀ (name group : Bytes) (key : Key) (version : ProtocolVersion) (item : RequestBatchItem) (x : Exchange item),
      RegisterKeyRequest name group key version = .ok item →
      (key.type = .symmetricKey → key.keyFormat = none ∨ key.keyFormat = some kmipKeyformatRaw) →
      (∀ a ∈ key.attributes.algo, isValidCryptographicAlgorithm a.toInt32) →
      ∃ got response key', x.got.batchItems = [got] ∧ GetResponseBatchItem.fromBatchItem got = .ok response ∧
        parseGetKeyResponse dateToString response = .ok key' ∧
        key'.value = key.value ∧ key'.type = key.type ∧
        (∃ kind ∈ keyObjectKind key.type, key'.keyFormat = some (key.keyFormat.getD kind.format)) ∧
        ∃ block, CarriesKeyBlock item block ∧
          block.getChild Tag.cryptographicAlgorithm =
            key'.attributes.algo.map (fun a => createEnumeration Tag.cryptographicAlgorithm a.toInt32) ∧
          block.getChild Tag.cryptographicLength =
            key'.attributes.cryptoLength.map (createInteger Tag.cryptographicLength)) ∧
    ∀ (name group secret : Bytes) (secretType : SecretDataType) (version : ProtocolVersion)
      (x : Exchange (RegisterSecretRequest name group secret secretType version)),
      isValidSecretDataType secretType.toInt32 →
      ∃ got response secret', x.got.batchItems = [got] ∧ GetResponseBatchItem.fromBatchItem got = .ok response ∧
        parseGetSecretResponse response = .ok secret' ∧ secret'.value = secret ∧ secret'.secretType = secretType := by
  constructor
  · intro name group key version item x hitem hformat halg
    obtain ⟨response, kind, hkind, hfrom, hparse⟩ := x.parseGetKeyResponse_eq dateToString hitem hformat halg
    refine ⟨x.answer, response, _, x.got_batchItems (payloadOk_RegisterKeyRequest hitem), hfrom, hparse, rfl, rfl,
      ⟨kind, hkind, rfl⟩, ?_⟩
    obtain ⟨kind', hkind', rfl⟩ := RegisterKeyRequest_eq_ok hitem
    obtain ⟨-, hobj⟩ := @getChild_registerRequest kind'.objectType _
      (createStructure kind'.tag [keyBlockOf key version kind'.format]) _
      (tag_keyAttributes_notMem name group key version) (tag_mem_objectTags hkind') rfl
    refine ⟨keyBlockOf key version kind'.format,
      ⟨_, rfl, kind'.tag, tag_mem_objectTags hkind', _, hobj, rfl⟩, ?_, ?_⟩
    · rw [keyBlockOf, getChild_makeKeyBlock_algorithm, blockAttributes]
      cases algorithmAndLength key version <;> rfl
    · rw [keyBlockOf, getChild_makeKeyBlock_length, blockAttributes]
  · intro name group secret secretType version x hv
    obtain ⟨response, hfrom, hparse⟩ := x.parseGetSecretResponse_eq hv
    have hok := payloadOk_RegisterSecretRequest name group secret secretType version
    exact ⟨x.answer, response, _, x.got_batchItems hok, hfrom, hparse, rfl, rfl⟩

/-- An AES key without a length. -/
def storedKey : Key where
  value := ⟨[1, 2, 3, 4, 5, 6, 7, 8, 9, 10, 11, 12, 13, 14, 15, 16], by decide⟩
  type := .symmetricKey
  attributes := { algo := some CryptographicAlgorithm.aes }

/-- The children of the payload that registers the key. -/
def storedChildren : List Element :=
  [createEnumeration Tag.objectType kmipObjtypeSymmetricKey, keyAttributes Bytes.empty Bytes.empty storedKey ⟨2, 0⟩,
    createStructure Tag.symmetricKey [keyBlockOf storedKey ⟨2, 0⟩ kmipKeyformatRaw]]

def storedRequest : RequestMessage where
  header := { protocolVersion := ⟨2, 0⟩ }
  batchItems := [⟨1, kmipOpRegister, some (createStructure Tag.requestPayload storedChildren)⟩]

/-- A response that has the same children after an identifier. -/
def storedResponse : ResponseMessage where
  header := { protocolVersion := ⟨2, 0⟩, batchCount := 1 }
  batchItems := [⟨1, kmipOpGet, kmipStatusSuccess, none, none, some (createStructure Tag.responsePayload
    (createTextString Tag.uniqueIdentifier Bytes.empty :: storedChildren))⟩]

theorem handsOut_storedChildren :
    HandsOut (createStructure Tag.requestPayload storedChildren)
      (createStructure Tag.responsePayload
        (createTextString Tag.uniqueIdentifier Bytes.empty :: storedChildren)) where
  ok := ⟨rfl, by decide +kernel, by decide +kernel⟩
  uniqueIdentifier := ⟨_, rfl⟩
  objectType := rfl
  object := by
    intro t ht o h
    have hne : Tag.uniqueIdentifier ≠ t := fun heq => absurd (heq ▸ ht) (by decide)
    show List.find? (fun c => c.tag == t) (createTextString Tag.uniqueIdentifier Bytes.empty :: storedChildren) = _
    rw [List.find?_cons_of_neg (by simpa [createTextString] using hne)]
    exact h

theorem exists_exchange_storedKey :
    ∃ item, RegisterKeyRequest Bytes.empty Bytes.empty storedKey ⟨2, 0⟩ = .ok item ∧ Nonempty (Exchange item) := by
  obtain ⟨e, he⟩ : ∃ e, { storedRequest with header := storedRequest.normalizedHeader 0 }.toElement = .ok e := ⟨_, rfl⟩
  obtain ⟨e', he'⟩ : ∃ e', storedResponse.toElement = .ok e' := ⟨_, rfl⟩
  have hitem : RegisterKeyRequest Bytes.empty Bytes.empty storedKey ⟨2, 0⟩ =
      .ok ⟨0, kmipOpRegister, some (createStructure Tag.requestPayload storedChildren)⟩ := rfl
  have hp : ∀ item ∈ storedRequest.batchItems, ∀ p ∈ item.requestPayload, PayloadOk p :=
    List.forall_mem_singleton.2 (payloadOk_RegisterKeyRequest hitem :)
  have hp' : ∀ item ∈ storedResponse.batchItems, ∀ p ∈ item.responsePayload, ResponsePayloadOk p :=
    List.forall_mem_singleton.2 fun p h => Option.mem_some.1 h ▸ handsOut_storedChildren.ok
  have hc := RequestMessage.carried_toElement he hp
  have hc' := ResponseMessage.carried_toElement he' hp'
  have hsmall : (encode e).length ≤ 800 := by
    rw [RequestMessage.toElement_eq he]
    decide +kernel
  have hsmall' : (encode e').length ≤ 800 := by
    cases he'
    decide +kernel
  obtain ⟨sent, hserialize⟩ := RequestMessage.exists_serialize rfl he hc.wellFormed (hsmall.trans (by decide))
  obtain ⟨b', returned, hb', hreturned⟩ := exists_bytes hc'.wellFormed (hsmall'.trans (by decide))
  obtain ⟨_, hd, hreceived⟩ := RequestMessage.decode_serialize hp hserialize
  have hdecode : RequestMessage.decode sent = .ok ⟨storedRequest.normalizedHeader 0, storedRequest.batchItems, 2⟩ := by
    rw [RequestMessage.decode, hd, Except.ok_bind]
    exact hreceived
  refine ⟨_, hitem, ⟨storedRequest, 1, rfl, 0, sent, hserialize, _, hdecode, storedResponse, _, rfl, rfl,
    ⟨_, rfl, _, rfl, handsOut_storedChildren⟩, e', he', _, b', hb', returned, hreturned, storedResponse, ?_⟩⟩
  rw [ResponseMessage.decode, deserialize_of_carried hc' hb' hreturned, Except.ok_bind]
  exact (ResponseMessage.fromElement_eq_ok_iff he' hp').2 ⟨⟨by decide, by decide⟩, rfl⟩

theorem register_get_storedKey :
    ∃ (item : RequestBatchItem) (x : Exchange item) (got : ResponseBatchItem) (response : GetResponseBatchItem)
      (key : Key), RegisterKeyRequest Bytes.empty Bytes.empty storedKey ⟨2, 0⟩ = .ok item ∧
        x.got.batchItems = [got] ∧ GetResponseBatchItem.fromBatchItem got = .ok response ∧
        parseGetKeyResponse (fun _ => Bytes.empty) response = .ok key ∧ key.value = storedKey.value := by
  obtain ⟨item, hitem, ⟨x⟩⟩ := exists_exchange_storedKey
  obtain ⟨got, response, key, h₁, h₂, h₃, h₄, -⟩ := (register_get fun _ => Bytes.empty).1 Bytes.empty Bytes.empty
    storedKey ⟨2, 0⟩ item x hitem (fun _ => .inl rfl) (fun a ha => by cases ha; decide)
  exact ⟨item, x, got, response, key, hitem, h₁, h₂, h₃, h₄⟩

end Kmip
