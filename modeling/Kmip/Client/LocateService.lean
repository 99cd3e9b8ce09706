import Kmip.Core.MessageSizes
import Kmip.Client.ExchangeReplies
import Kmip.Client.LocateExact
import Kmip.Client.LocateWire
import Kmip.Client.Transport

/-!
# Listings of a service, byte by byte

A service has for all criteria a list of ids. It decodes the bytes of a request with the decoder of the library, reads
the criteria and the numbers from the payload in either encoding of attributes, and answers with the bytes of a response
that holds a slice of the list. A search whose requests were answered by the service has returned the first ids of the
list (`locateAll_answered`, `opAll_answered`), whether the service honours offsets or ignores them and whatever it
reports as Located Items.
-/

namespace Kmip.Client

open Element Requests Hoare
open IOUtils (IsMessage)

/-! ## What a request asks for -/

/-- What the objects have to match; nothing where there is no value. -/
structure LocateCriteria where
  objectType : Option Int32
  name : Option Bytes
  group : Option Bytes
deriving DecidableEq

/-- The criteria of a search. An empty filter matches all objects. -/
def LocateFilter.criteria (filter : LocateFilter) : LocateCriteria where
  objectType := some filter.oType.toInt32
  name := if filter.byGroup ∨ filter.filter.bytes.isEmpty then none else some filter.filter
  group := if filter.byGroup ∧ ¬filter.filter.bytes.isEmpty then some filter.filter else none

/-- The text of an element that may be missing. -/
def textOf (e : Option Element) : Option Bytes := e.bind fun e => e.toString.toOption

def enumOf (e : Option Element) : Option Int32 := e.bind fun e => e.toEnum.toOption

/-- A number of a request; zero when it is missing. -/
def numberOf (e : Option Element) : Nat := ((e.bind fun e => e.toInt.toOption).map fun n => n.toInt.toNat).getD 0

/-- The value of the attribute with the given name, up to KMIP 1.4. -/
def attributeValue (payload : Element) (attributeName : Bytes) : Option Element :=
  ((payload.getChildren Tag.attributeTag).find? fun a =>
    textOf (a.getChild Tag.attributeName) = some attributeName).bind (·.getChild Tag.attributeValue)

/-- The criteria in the payload of a request. -/
def readCriteria (payload : Element) : LocateCriteria :=
  match payload.getChild Tag.attributes with
  | some attributes =>
    ⟨enumOf (attributes.getChild Tag.objectType),
      textOf ((attributes.getChild Tag.name).bind (·.getChild Tag.nameValue)),
      textOf (attributes.getChild Tag.objectGroup)⟩
  | none =>
    ⟨enumOf (attributeValue payload (.ofText "Object Type")),
      textOf ((attributeValue payload (.ofText "Name")).bind (·.getChild Tag.nameValue)),
      textOf (attributeValue payload (.ofText "Object Group"))⟩

/-! ## The service -/

/-- The objects of a service, what it reports as Located Items, and where it starts for an offset. -/
structure LocateService where
  find : LocateCriteria → List Bytes
  mode : LocatedItemsMode
  position : Nat → Nat

namespace LocateService

variable (service : LocateService)

def located (all page : List Bytes) : Option Int32 :=
  match service.mode with
  | .absent => none
  | .total => some (Int32.ofNat all.length)
  | .pageCount => some (Int32.ofNat page.length)

/-- The page that a payload asks for. -/
def page (payload : Element) : List Bytes :=
  ((service.find (readCriteria payload)).drop (service.position (numberOf (payload.getChild Tag.offsetItems)))).take
    (numberOf (payload.getChild Tag.maximumItems))

def answerPayload (payload : Element) : Kmip.LocateResponsePayload :=
  ⟨service.located (service.find (readCriteria payload)) (service.page payload), service.page payload⟩

/-- The answer to an item; the service knows Locate only. -/
def answerItem (item : RequestBatchItem) : ResponseBatchItem :=
  match if item.operation = kmipOpLocate then item.requestPayload else none with
  | some payload =>
    { uniqueBatchItemId := item.uniqueBatchItemId
      operation := item.operation
      resultStatus := kmipStatusSuccess
      responsePayload := some (service.answerPayload payload).toElement }
  | none =>
    { uniqueBatchItemId := item.uniqueBatchItemId
      operation := item.operation
      resultStatus := kmipStatusOperationFailed
      resultReason := some (Int32.ofInt kmipReasonFeatureNotSupported) }

def answer (request : RequestMessage) : ResponseMessage where
  header := { protocolVersion := request.header.protocolVersion, batchCount := Int32.ofNat request.batchItems.length }
  batchItems := request.batchItems.map service.answerItem

/-- The bytes of the answer to the bytes of a request. -/
def serve (bytes : List UInt8) : Except Abort Bytes := do
  let data ← IOUtils.vectorOf bytes
  let request ← RequestMessage.decode data
  let response ← (service.answer request).toElement
  let buf ← response.serialize (.new SerializationBuffer.defaultCapacity)
  IOUtils.vectorOf buf.span

/-- What the service sends for the bytes of a request. -/
def reply (bytes : List UInt8) : List UInt8 :=
  match service.serve bytes with
  | .ok response => response.bytes
  | .error _ => []

variable {service} in
theorem reply_of_serve {bytes : List UInt8} {response : Bytes} (h : service.serve bytes = .ok response) :
    service.reply bytes = response.bytes := by
  unfold reply
  rw [h]

/-- The slice of the list that a query asks for. -/
def slice (query : LocateQuery) : List Bytes :=
  ((service.find query.filter.criteria).drop (service.position query.offset)).take query.pageSize

/-- The answer to a query. -/
def payload (query : LocateQuery) : Kmip.LocateResponsePayload :=
  ⟨service.located (service.find query.filter.criteria) (service.slice query), service.slice query⟩

/-- The service without messages, for the queries of a search. -/
def server (filter : LocateFilter) : LocateServer Bytes := fun _ query =>
  let payload := service.payload { query with filter := filter }
  .ok ⟨payload.uniqueIdentifiers, payload.locatedItems⟩

/-- It is a server with a list. -/
theorem serves_server {filter : LocateFilter} (hall : (service.find filter.criteria).length < 2 ^ 31) :
    Serves (service.server filter) (service.find filter.criteria) service.mode service.position := by
  intro exchanges query _ _
  refine ⟨_, rfl, rfl, ?_⟩
  have hpage : (service.slice { query with filter := filter }).length ≤ (service.find filter.criteria).length := by
    unfold slice
    exact ((List.take_sublist _ _).trans (List.drop_sublist _ _)).length_le
  unfold LocatedItemsMode.Reports payload located
  cases hmode : service.mode with
  | absent => rfl
  | total => exact ⟨_, rfl, Int32.toInt_ofNat_of_lt hall⟩
  | pageCount => exact ⟨_, rfl, Int32.toInt_ofNat_of_lt (hpage.trans_lt hall)⟩

end LocateService

/-! ## Requests are understood -/

theorem getChild_positiveInteger {t : Tag} {value : Nat} {rest : List Element} (hle : value ≤ int32Max)
    (hrest : ∀ e ∈ rest, e.tag ≠ t) :
    numberOf ((positiveInteger t value ++ rest).find? fun e => e.tag == t) = value := by
  unfold positiveInteger
  split
  · rw [List.singleton_append, List.find?_cons_of_pos (by simp [createInteger])]
    show (Int32.ofNat value).toInt.toNat = value
    rw [Int32.toInt_ofNat_of_lt (by unfold int32Max at hle; omega)]
    rfl
  · have hnone : rest.find? (fun e => e.tag == t) = none :=
      List.find?_eq_none.2 fun e he => by simp [hrest e he]
    rw [List.nil_append, hnone]
    show 0 = value
    omega

theorem tag_positiveInteger {t : Tag} {value : Nat} {e : Element} (h : e ∈ positiveInteger t value) : e.tag = t := by
  unfold positiveInteger at h
  split at h
  · rw [List.mem_singleton.1 h]
    rfl
  · cases h

section Understood

variable (locateByGroup : Bool) (name : Bytes) (objType : UInt32) (maxItems offset : Nat) (version : ProtocolVersion)

theorem tag_locateAttributes : ∀ e ∈ locateAttributes locateByGroup name objType version,
    e.tag = Tag.attributes ∨ e.tag = Tag.attributeTag := by
  unfold locateAttributes optionalGroup
  cases locateByGroup <;> split <;> split <;> simp [makeEnumAttribute, makeTextAttribute, makeNameAttribute,
    makeAttribute, createStructure]

theorem readCriteria_eq (t : Tag) : readCriteria (createStructure t
    (positiveInteger Tag.maximumItems maxItems ++ positiveInteger Tag.offsetItems offset ++
      locateAttributes locateByGroup name objType version)) =
    readCriteria (createStructure t (locateAttributes locateByGroup name objType version)) := by
  have hnumbers : ∀ e ∈ positiveInteger Tag.maximumItems maxItems ++ positiveInteger Tag.offsetItems offset,
      e.tag = Tag.maximumItems ∨ e.tag = Tag.offsetItems := fun e he =>
    (List.mem_append.1 he).imp tag_positiveInteger tag_positiveInteger
  have hchild : ∀ items, (createStructure t
      (positiveInteger Tag.maximumItems maxItems ++ positiveInteger Tag.offsetItems offset ++ items)).getChild
        Tag.attributes = (createStructure t items).getChild Tag.attributes := fun items =>
    find?_skip fun e he => by rcases hnumbers e he with h | h <;> rw [h] <;> decide
  have hchildren : ∀ items, (createStructure t
      (positiveInteger Tag.maximumItems maxItems ++ positiveInteger Tag.offsetItems offset ++ items)).getChildren
        Tag.attributeTag = (createStructure t items).getChildren Tag.attributeTag := by
    intro items
    refine (List.filter_append _ _).trans ?_
    rw [List.filter_eq_nil_iff.2 fun e he => by rcases hnumbers e he with h | h <;> rw [h] <;> decide]
    rfl
  unfold readCriteria attributeValue
  rw [hchild, hchildren]

/-- A service reads the criteria of the search from every request, in every version. -/
theorem readCriteria_locateItem :
    ∀ p ∈ (locateItem locateByGroup name objType maxItems offset version).requestPayload,
      readCriteria p = (LocateFilter.mk locateByGroup name objType).criteria := by
  rintro _ ⟨⟩
  rw [readCriteria_eq]
  unfold locateAttributes optionalGroup LocateFilter.criteria
  dsimp only
  split
  · cases locateByGroup <;> cases name.bytes.isEmpty <;> rfl
  · cases locateByGroup <;> cases name.bytes.isEmpty <;> rfl

theorem numberOf_maximumItems (hmax : maxItems ≤ int32Max) :
    ∀ p ∈ (locateItem locateByGroup name objType maxItems offset version).requestPayload,
      numberOf (p.getChild Tag.maximumItems) = maxItems := by
  rintro _ ⟨⟩
  have hattributes := tag_locateAttributes locateByGroup name objType version
  show numberOf (List.find? _ _) = _
  rw [List.append_assoc]
  refine getChild_positiveInteger hmax fun e he => ?_
  rcases List.mem_append.1 he with he | he
  · rw [tag_positiveInteger he]
    decide
  · rcases hattributes e he with h | h <;> rw [h] <;> decide

theorem numberOf_offsetItems (hoffset : offset ≤ int32Max) :
    ∀ p ∈ (locateItem locateByGroup name objType maxItems offset version).requestPayload,
      numberOf (p.getChild Tag.offsetItems) = offset := by
  rintro _ ⟨⟩
  have hattributes := tag_locateAttributes locateByGroup name objType version
  show numberOf (List.find? _ _) = _
  rw [List.append_assoc, find?_skip]
  · exact getChild_positiveInteger hoffset fun e he => by
      rcases hattributes e he with h | h <;> rw [h] <;> decide
  · intro e he
    rw [tag_positiveInteger he]
    decide

end Understood

/-! ## Answers are read -/

/-- The constructor does not parse. -/
theorem addHints_unparsed : ∀ (items : List RequestBatchItem) (parser : ResponseParser) (pos : Nat),
    (parser.addHints pos items).responseBytes = parser.responseBytes ∧
      (parser.addHints pos items).isParsed = parser.isParsed
  | [], _, _ => ⟨rfl, rfl⟩
  | _ :: items, _, pos => addHints_unparsed items _ (pos + 1)

/-- The item that echoes the id is read from a response that decodes. -/
theorem getResponseByBatchItemId_of_decode {α : Type} {fromBatchItem : ResponseBatchItem → Except Abort α}
    {data : Bytes} {request : RequestMessage} {e : Element} {m : ResponseMessage} {id : UInt32}
    {item : ResponseBatchItem} {a : α} (hd : (deserialize data 0).result = .ok (e, data.size))
    (hm : ResponseMessage.fromElement e = .ok m)
    (hitem : m.batchItems.find? (fun item => item.uniqueBatchItemId == id) = some item)
    (hstatus : item.resultStatus = kmipStatusSuccess) (ha : fromBatchItem item = .ok a) :
    ∃ parser, (ResponseParser.ofRequest data request).getResponseByBatchItemId fromBatchItem id = .ok (a, parser) := by
  obtain ⟨hbytes, hparsed⟩ := addHints_unparsed request.batchItems { responseBytes := data } 0
  have hne : data.bytes.isEmpty = false := by
    cases hempty : data.bytes with
    | nil =>
      have hnil : data = Bytes.empty := Bytes.ext hempty
      rw [hnil] at hd
      cases hd
    | cons => rfl
  obtain ⟨parser, hparse, hmessage⟩ : ∃ parser, (ResponseParser.ofRequest data request).ensureParsed = .ok parser ∧
      parser.responseMessage = m := by
    unfold ResponseParser.ensureParsed ResponseParser.parseResponse ResponseParser.ofRequest
    rw [hparsed, hbytes]
    dsimp only
    rw [hne, hd, Bool.not_false, if_pos rfl, if_neg Bool.false_ne_true, Except.ok_bind]
    dsimp only
    rw [if_neg (not_not.2 rfl), hm]
    exact ⟨_, rfl, rfl⟩
  refine ⟨parser, ?_⟩
  unfold ResponseParser.getResponseByBatchItemId ResponseParser.getResponseItemByBatchItemId
  rw [hparse, Except.ok_bind]
  dsimp only
  rw [hmessage, hitem, Except.ok_bind]
  dsimp only
  rw [ResponseParser.ensureSuccess, if_neg (not_not.2 hstatus), Except.ok_bind, ha]
  rfl

/-! ## One page -/

namespace KmipClient

variable {c : KmipClient} {service : LocateService}

/-- The item of the request of a page. -/
def pageItem (c : KmipClient) (query : LocateQuery) : RequestBatchItem :=
  { locateItem query.filter.byGroup query.filter.filter query.filter.oType query.pageSize query.offset c.version with
    uniqueBatchItemId := 1 }

theorem batchItems_pageRequest (query : LocateQuery) : (c.pageRequest query).batchItems = [c.pageItem query] := rfl

theorem serialize_pageRequest {query : LocateQuery}
    (hfilter : query.filter.filter.size + 337 ≤ SerializationBuffer.reachableCapacity) (now : Int64) :
    ∃ data : Bytes, (c.pageRequest query).serialize now = .ok data.bytes :=
  RequestMessage.exists_serialize_of_sized (c.batchItems_pageRequest query) rfl rfl rfl
    (payloadOk_locateItem _ _ _ _ _ _) (sized_locateItem _ _ _ _ _ _) (by omega) now

/-- The item of a response to a page. -/
def located (payload : Kmip.LocateResponsePayload) : ResponseBatchItem where
  uniqueBatchItemId := 1
  operation := kmipOpLocate
  resultStatus := kmipStatusSuccess
  responsePayload := some payload.toElement

/-- The service answers with the slice that the query asks for. -/
theorem answerItem_pageItem {query : LocateQuery} (hoffset : query.offset ≤ int32Max)
    (hsize : query.pageSize ≤ int32Max) : service.answerItem (c.pageItem query) = located (service.payload query) := by
  obtain ⟨p, hpayload⟩ : ∃ p, (c.pageItem query).requestPayload = some p := ⟨_, rfl⟩
  have hcriteria : readCriteria p = query.filter.criteria := readCriteria_locateItem _ _ _ _ _ _ p hpayload
  have hpage : service.page p = service.slice query := by
    unfold LocateService.page LocateService.slice
    rw [hcriteria, numberOf_maximumItems _ _ _ _ _ _ hsize p hpayload,
      numberOf_offsetItems _ _ _ _ _ _ hoffset p hpayload]
  have hlocate : (c.pageItem query).operation = kmipOpLocate := rfl
  have hanswer : service.answerPayload p = service.payload query := by
    unfold LocateService.answerPayload LocateService.payload
    rw [hcriteria, hpage]
  unfold LocateService.answerItem
  rw [if_pos hlocate, hpayload]
  dsimp only
  rw [hanswer]
  rfl

/-- The page in the bytes of such an answer. -/
theorem readPage_located {response : Bytes} {request : RequestMessage} {e : Element} {m : ResponseMessage}
    {payload : Kmip.LocateResponsePayload} (hd : (deserialize response 0).result = .ok (e, response.size))
    (hfrom : ResponseMessage.fromElement e = .ok m) (hm : m.batchItems = [located payload]) :
    readPage (.ofRequest response request) = .ok ⟨payload.uniqueIdentifiers, payload.locatedItems⟩ := by
  have hread : LocateResponseBatchItem.fromBatchItem (located payload) = .ok ⟨located payload, payload⟩ := by
    show (do .ok ⟨located payload, ← Kmip.LocateResponsePayload.fromElement payload.toElement⟩ :
      Except Abort LocateResponseBatchItem) = _
    rw [LocateResponsePayload.fromElement_toElement]
    rfl
  obtain ⟨parser, hparser⟩ := @getResponseByBatchItemId_of_decode _ _ _ request _ _ 1 (located payload) _ hd hfrom
    (by rw [hm]; rfl) rfl hread
  unfold readPage
  rw [hparser]
  rfl

/-- A message from which a page is read, and how long it is. -/
structure Carries (payload : Kmip.LocateResponsePayload) (response : Bytes) : Prop where
  readPage_eq : ∀ request,
    readPage (.ofRequest response request) = .ok ⟨payload.uniqueIdentifiers, payload.locatedItems⟩
  message : IsMessage response.bytes
  le_size : (payload.uniqueIdentifiers.map Bytes.size).sum ≤ response.size
  size_le : response.size ≤ (payload.uniqueIdentifiers.map fun id => id.size + 15).sum + 196

/-- The encoding of a structure is a message. -/
theorem isMessage_encode {t : Tag} {ty : TypeCode} {items : List Element} (h : (encodeItems items).length < 2 ^ 32) :
    IsMessage (encode ⟨t, ty, .struct items⟩) := by
  refine ⟨le_length_encode _, ?_⟩
  have hfield : ((encode ⟨t, ty, .struct items⟩).drop 4).take 4 = BigEndian.digits 4 (encodeItems items).length := by
    rw [encode_struct, header, List.append_assoc (_ ++ _), List.drop_left' (by simp),
      List.take_left' (BigEndian.length_digits ..)]
  rw [hfield, BigEndian.value_digits_of_lt (by omega), encode_struct, List.length_append, length_header]
  rfl

/-- The bytes of such an answer carry its page. -/
theorem exists_bytes_located {m : ResponseMessage} {payload : Kmip.LocateResponsePayload}
    (hm : m.batchItems = [located payload]) (hcount : m.header.batchCount = 1)
    (hsum : (payload.uniqueIdentifiers.map fun id => id.size + 15).sum + 196 ≤ SerializationBuffer.reachableCapacity) :
    ∃ e b, ∃ response : Bytes, m.toElement = .ok e ∧ e.serialize (.new SerializationBuffer.defaultCapacity) = .ok b ∧
      response.bytes = b.span ∧ Carries payload response := by
  have hok : ∀ p ∈ (located payload).responsePayload, ResponsePayloadOk p := by
    rintro _ ⟨⟩
    exact payload.responsePayloadOk
  have hsized : ∀ p ∈ (located payload).responsePayload,
      Sized ((payload.uniqueIdentifiers.map fun id => id.size + 15).sum + 27) [p] := by
    rintro _ ⟨⟩
    exact payload.sized_toElement
  have hoks : ∀ item ∈ m.batchItems, ∀ p ∈ item.responsePayload, ResponsePayloadOk p := by
    rw [hm]
    exact List.forall_mem_singleton.2 hok
  obtain ⟨e, b, response, he, hb, hresponse, hlength⟩ :=
    ResponseMessage.exists_bytes_of_sized hm rfl rfl hok hsized (by omega)
  have hcarried := ResponseMessage.carried_toElement he hoks
  obtain ⟨hspan, hencodable⟩ := serialize_encode hcarried.wellFormed hb
  have hfrom : ResponseMessage.fromElement e = .ok m := by
    refine (ResponseMessage.fromElement_eq_ok_iff he hoks).2 ⟨⟨?_, ?_⟩, rfl⟩
    · rw [hm, hcount]
      exact Int32.le_refl _
    · rw [hm, List.forall_mem_singleton]
      intro hfailed
      cases hfailed
  have hsize : response.size = (encode e).length := by rw [Bytes.size, hresponse, hspan]
  have hpayload := ResponseMessage.length_payload_le he (hm ▸ List.mem_singleton.2 rfl : located payload ∈ m.batchItems)
    rfl
  refine ⟨e, b, response, he, hb, hresponse, fun request => ?_, ?_, ?_, ?_⟩
  · exact readPage_located (deserialize_of_carried hcarried hb hresponse) hfrom hm
  · rw [hresponse, hspan]
    obtain ⟨_, -, he⟩ := Except.bind_eq_ok_iff.1 he
    cases he
    exact isMessage_encode (encodable_struct.1 hencodable).2.2.1
  · rw [hsize]
    exact payload.sum_le_length.trans hpayload
  · omega

/-- The service answers the request of a page with a message that carries the page. -/
theorem serve_pageRequest {query : LocateQuery} (hoffset : query.offset ≤ int32Max) (hsize : query.pageSize ≤ int32Max)
    (hids : ((service.slice query).map fun id => id.size + 15).sum + 196 ≤ SerializationBuffer.reachableCapacity)
    {now : Int64} {bytes : List UInt8} (hs : (c.pageRequest query).serialize now = .ok bytes) :
    ∃ response, service.serve bytes = .ok response ∧ Carries (service.payload query) response := by
  have hp : ∀ item ∈ (c.pageRequest query).batchItems, ∀ p ∈ item.requestPayload, PayloadOk p :=
    List.forall_mem_singleton.2 (payloadOk_locateItem _ _ _ _ _ _)
  obtain ⟨data, rfl, hdecode⟩ := RequestMessage.exists_decode hp hs
  have hitem : service.answerItem (c.pageItem query) = located (service.payload query) :=
    c.answerItem_pageItem hoffset hsize
  obtain ⟨e, b, response, he, hb, hresponse, hcarries⟩ := exists_bytes_located
    (m := service.answer ⟨(c.pageRequest query).normalizedHeader now, (c.pageRequest query).batchItems,
      UInt32.ofNat ((c.pageRequest query).batchItems.length + 1)⟩)
    (congrArg (fun item => [item]) hitem) rfl hids
  refine ⟨response, ?_, hcarries⟩
  unfold LocateService.serve
  rw [IOUtils.vectorOf_of_lt data.size_lt, Except.ok_bind, hdecode, Except.ok_bind, he, Except.ok_bind, hb,
    Except.ok_bind, ← hresponse]
  exact IOUtils.vectorOf_of_lt response.size_lt

/-! ## Listings -/

/-- The messages of a search are not too long: the requests can be sent, and every page of the list is within the limit
for a response of that many ids. -/
structure Deliverable (service : LocateService) (filter : LocateFilter) (maxIds : Nat) : Prop where
  filter_le : filter.filter.size + 337 ≤ SerializationBuffer.reachableCapacity
  count_lt : (service.find filter.criteria).length < 2 ^ 31
  page_le : ∀ position count, count ≤ max maxIds maxItemsInBatch →
    ((((service.find filter.criteria).drop position).take count).map fun id => id.size + 15).sum + 196 ≤
      locateResponseSizeLimit count

/-- What was exchanged since `start` was answered by the service. -/
def AnsweredBy (service : LocateService) (start history : List Exchanged) : Prop :=
  ∀ x ∈ history.drop start.length, x.answer = service.serve x.sent

theorem locateResponseSizeLimit_le (pageSize : Nat) : locateResponseSizeLimit pageSize ≤ kmipMaxMessageHardLimit := by
  unfold locateResponseSizeLimit
  split
  · exact Nat.le_refl _
  · refine max_le ((Nat.mod_le _ _).trans ?_) (by decide)
    exact (Nat.mul_le_mul_right _ (Nat.not_lt.1 (by assumption))).trans (Nat.div_mul_le_self _ _)

theorem le_locateResponseSizeLimit (pageSize : Nat) : defaultMaxResponseSize ≤ locateResponseSizeLimit pageSize := by
  unfold locateResponseSizeLimit
  split
  · decide
  · exact Nat.le_max_right _ _

/-- A list that is small enough for one response. -/
theorem deliverable_of_sum_le {filter : LocateFilter}
    (hfilter : filter.filter.size + 337 ≤ SerializationBuffer.reachableCapacity)
    (hsum : ((service.find filter.criteria).map fun id => id.size + 15).sum + 196 ≤ defaultMaxResponseSize)
    (maxIds : Nat) : Deliverable service filter maxIds := by
  refine ⟨hfilter, ?_, fun position count _ => ?_⟩
  · have hlength := List.length_le_sum_of_one_le ((service.find filter.criteria).map fun id => id.size + 15)
      (by rw [List.forall_mem_map]; exact fun id _ => Nat.le_add_left 1 _)
    have hdefault : defaultMaxResponseSize < 2 ^ 31 := by decide
    rw [List.length_map] at hlength
    omega
  · have hle : ((((service.find filter.criteria).drop position).take count).map fun id => id.size + 15).sum ≤
        ((service.find filter.criteria).map fun id => id.size + 15).sum :=
      (((List.take_sublist _ _).trans (List.drop_sublist _ _)).map _).sum_le_sum fun _ _ => Nat.zero_le _
    have hlimit := le_locateResponseSizeLimit count
    omega

section Listings

variable {filter : LocateFilter} {maxIds : Nat} (hdeliver : Deliverable service filter maxIds)

include hdeliver

/-- The answer to a query of the search. -/
theorem Deliverable.serve {query : LocateQuery} (hasked : Pages.Asked filter maxIds query) {now : Int64}
    {bytes : List UInt8} (hs : (c.pageRequest query).serialize now = .ok bytes) :
    ∃ response, service.serve bytes = .ok response ∧ Carries (service.payload query) response ∧
      response.size ≤ query.maxResponseSize := by
  obtain rfl := hasked.filter_eq
  have hpage := hdeliver.page_le (service.position query.offset) query.pageSize hasked.pageSize_le
  have hlimit := locateResponseSizeLimit_le query.pageSize
  have hcapacity : kmipMaxMessageHardLimit ≤ SerializationBuffer.reachableCapacity := by decide
  obtain ⟨response, hserve, hcarries⟩ :=
    @serve_pageRequest c service _ hasked.offset_le hasked.fits (hpage.trans (hlimit.trans hcapacity)) _ _ hs
  refine ⟨response, hserve, hcarries, hcarries.size_le.trans ?_⟩
  rw [hasked.limit_eq]
  exact hpage

/-- The request of a query is sent. -/
theorem Deliverable.exists_exchanged {query : LocateQuery} (hasked : Pages.Asked filter maxIds query)
    (history : List Exchanged) : ∃ x now, c.exchanged history (c.pageRequest query) = .ok x ∧
      (c.pageRequest query).serialize now = .ok x.sent := by
  obtain rfl := hasked.filter_eq
  obtain ⟨data, hs⟩ := c.serialize_pageRequest hdeliver.filter_le (c.clock history.length)
  obtain ⟨x, hx, hsent⟩ := KmipClient.exists_exchanged hs
  exact ⟨x, _, hx, hsent ▸ hs⟩

/-- A query that the service answers is answered as without messages. -/
theorem Deliverable.agrees_ask (start : List Exchanged) {query : LocateQuery}
    (hasked : Pages.Asked filter maxIds query) :
    Agrees (start <+: ·) (AnsweredBy service start) (c.ask query) (exchange (service.server filter) query) := by
  constructor
  · intro history hstart
    obtain ⟨x, -, hx, -⟩ := hdeliver.exists_exchanged (c := c) hasked history
    rw [finalState_ask hx]
    exact hstart.trans (List.prefix_append _ _)
  · intro history hstart hgood y hy
    obtain ⟨x, -, hx, -⟩ := hdeliver.exists_exchanged (c := c) hasked history
    rw [finalState_ask hx] at hgood
    refine hgood y ?_
    rw [List.drop_append_of_le_length hstart.length_le]
    exact List.mem_append_left _ hy
  · intro history exchanges hstart hgood
    obtain ⟨x, now, hx, hs⟩ := hdeliver.exists_exchanged (c := c) hasked history
    rw [finalState_ask hx] at hgood
    obtain ⟨response, hserve, hcarries, -⟩ := hdeliver.serve hasked hs
    have hanswer : x.answer = .ok response := by
      rw [← hserve]
      refine hgood x ?_
      rw [List.drop_append_of_le_length hstart.length_le]
      exact List.mem_append_right _ (List.mem_singleton.2 rfl)
    obtain rfl := hasked.filter_eq
    rw [ask_of_exchanged hx, Exchanged.reads, hanswer, Except.ok_bind, hcarries.readPage_eq]
    rfl

theorem Deliverable.agrees_locatePage (start : List Exchanged) (offset pageSize : Nat)
    (hle : pageSize ≤ max maxIds maxItemsInBatch) :
    Agrees (start <+: ·) (AnsweredBy service start)
      (c.locatePage filter offset pageSize (locateResponseSizeLimit pageSize))
      (Client.locatePage (service.server filter) filter offset pageSize (locateResponseSizeLimit pageSize)) := by
  rw [locatePage_eq]
  exact Pages.related_locatePage (congruence_agrees _ _) (fun _ hasked => hdeliver.agrees_ask start hasked) offset
    pageSize hle

variable (hposition : ∀ offset, service.position offset ≤ offset) (hdistinct : (service.find filter.criteria).Nodup)
  (hmax : 0 < maxIds) (hsize : maxIds < 2 ^ 31) {start : List Exchanged}

include hposition hdistinct hmax hsize

/-- A search that was answered by the service has returned the first ids of its list. -/
theorem locateAll_answered (h : AnsweredBy service start (finalState (c.locateAll filter maxIds start))) :
    ∃ outcome history, c.locateAll filter maxIds start = .ok outcome history ∧
      outcome.ids = (service.find filter.criteria).take maxIds := by
  obtain ⟨outcome, exchanges, hrun, -, hids⟩ := ((service.serves_server hdeliver.count_lt).locateAll hposition hdistinct
    hmax hsize filter).returns (s := []) trivial
  have hagrees : Agrees (start <+: ·) (AnsweredBy service start) (c.locateAll filter maxIds)
      (Client.locateAll (service.server filter) filter maxIds) :=
    Pages.related_locateAll (congruence_agrees _ _) (hdeliver.agrees_locatePage start)
  have hsame := hagrees.same start [] List.prefix_rfl h
  rw [hrun] at hsame
  obtain ⟨history, hall⟩ := exists_of_ended_eq_ok hsame
  exact ⟨outcome, history, hall, hids⟩

end Listings

theorem opAll_answered {oType : UInt32} {maxIds : Nat} (hdeliver : Deliverable service (typeFilter oType) maxIds)
    (hposition : ∀ offset, service.position offset ≤ offset)
    (hdistinct : (service.find (typeFilter oType).criteria).Nodup) (hmax : 0 < maxIds) (hsize : maxIds < 2 ^ 31)
    {start : List Exchanged} (h : AnsweredBy service start (finalState (c.opAll oType maxIds start))) :
    ∃ history, c.opAll oType maxIds start = .ok ((service.find (typeFilter oType).criteria).take maxIds) history := by
  obtain ⟨_, exchanges, hrun, rfl⟩ := ((service.serves_server hdeliver.count_lt).opAll hposition hdistinct hmax hsize
    oType).returns (s := []) trivial
  have hagrees : Agrees (start <+: ·) (AnsweredBy service start) (c.opAll oType maxIds)
      (Client.opAll (service.server (typeFilter oType)) oType maxIds) :=
    Pages.related_opAll (congruence_agrees _ _) (hdeliver.agrees_locatePage start)
  have hsame := hagrees.same start [] List.prefix_rfl h
  rw [hrun] at hsame
  exact exists_of_ended_eq_ok hsame

end KmipClient

end Kmip.Client
