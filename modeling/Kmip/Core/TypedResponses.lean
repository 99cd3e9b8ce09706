import Kmip.Core.Attributes
import Kmip.Core.Raised
import Kmip.Core.Responses
import Kmip.Core.ResponseParser

/-!
# The response classes, and responses without an Operation

The other classes of `kmip_responses`. Each of them compares the Operation that the response item carries with its own.
An item may leave the Operation out, and then the comparison fails: the hint that `ResponseParser` has from the request
is only used for texts (`getResponse_of_omitted`).
-/

namespace Kmip

open Element

/-! ## The classes -/

structure SimpleIdResponseBatchItem where
  item : ResponseBatchItem
  uniqueIdentifier : Bytes

/-- `SimpleIdResponseBatchItem<opCode>`. -/
def SimpleIdResponseBatchItem.fromBatchItem (opCode : Int32) (item : ResponseBatchItem) :
    Except Abort SimpleIdResponseBatchItem := do
  expectOperation item opCode "SimpleIdResponseBatchItem"
  let payload ← requireResponsePayload item "SimpleIdResponseBatchItem"
  match payload.getChild Tag.uniqueIdentifier with
  | none => .error (.message "SimpleIdResponseBatchItem: missing unique identifier in response payload")
  | some uid => do .ok ⟨item, ← uid.toString⟩

/-- The standard name of an attribute, by its tag. -/
def attributeNameFromTagCode (tagCode : Int32) : Option Bytes :=
  List.lookup tagCode.toUInt32
    [(Tag.name, kmipAttrNameName), (Tag.objectGroup, kmipAttrNameGroup), (Tag.state, kmipAttrNameState),
      (Tag.uniqueIdentifier, kmipAttrNameUniqueIdentifier), (Tag.activationDate, kmipAttrNameActivationDate),
      (Tag.deactivationDate, kmipAttrNameDeactivationDate), (Tag.processStartDate, kmipAttrNameProcessStartDate),
      (Tag.protectStopDate, kmipAttrNameProtectStopDate), (Tag.cryptographicAlgorithm, kmipAttrNameCryptoAlg),
      (Tag.cryptographicLength, kmipAttrNameCryptoLen), (Tag.cryptographicUsageMask, kmipAttrNameCryptoUsageMask),
      (Tag.operationPolicyName, kmipAttrNameOperationPolicyName)]

/-- The names that an Attribute Reference adds to the list: one, or none for an unknown tag. -/
def collectAttributeListEntriesFromReference (attributeReference : Element) : Except Abort (List Bytes) :=
  if attributeReference.type = TypeCode.enumeration then do
    .ok (attributeNameFromTagCode (← attributeReference.toEnum)).toList
  else if attributeReference.type ≠ TypeCode.struct then .ok []
  else
    match attributeReference.getChild Tag.attributeName with
    | some attrName => do .ok [← attrName.toString]
    | none =>
      match attributeReference.getChild Tag.attributeReference with
      | some attrTag => do .ok (attributeNameFromTagCode (← attrTag.toEnum)).toList
      | none => .ok []

structure GetAttributeListResponseBatchItem where
  item : ResponseBatchItem
  attributeNames : List Bytes

namespace GetAttributeListResponseBatchItem

/-- The names in a payload: the Attribute Names, or else those of the Attribute References. -/
def payloadNames (payload : Element) : Except Abort (List Bytes) := do
  let attributeNames ← (payload.getChildren Tag.attributeName).mapM Element.toString
  if attributeNames.isEmpty then do
    let entries ← (payload.getChildren Tag.attributeReference).mapM collectAttributeListEntriesFromReference
    .ok entries.flatten
  else .ok attributeNames

def fromBatchItem (item : ResponseBatchItem) : Except Abort GetAttributeListResponseBatchItem := do
  expectOperation item kmipOpGetAttributeList "GetAttributeListResponseBatchItem"
  let payload ← requireResponsePayload item "GetAttributeListResponseBatchItem"
  .ok ⟨item, ← payloadNames payload⟩

end GetAttributeListResponseBatchItem

structure LocateResponsePayload where
  locatedItems : Option Int32 := none
  uniqueIdentifiers : List Bytes := []

namespace LocateResponsePayload

def readItem (resp : LocateResponsePayload) (child : Element) : Except Abort LocateResponsePayload :=
  if child.tag = Tag.locatedItems then do .ok { resp with locatedItems := some (← child.toInt) }
  else if child.tag = Tag.uniqueIdentifier then do
    .ok { resp with uniqueIdentifiers := resp.uniqueIdentifiers ++ [← child.toString] }
  else .ok resp

/-- The loop over the children of the payload. -/
def readItems (resp : LocateResponsePayload) : List Element → Except Abort LocateResponsePayload
  | [] => .ok resp
  | child :: items => do readItems (← readItem resp child) items

def fromElement (e : Element) : Except Abort LocateResponsePayload :=
  match e.asStructure with
  | none => .error (.message "Response Payload is not a structure")
  | some items => readItems {} items

end LocateResponsePayload

structure LocateResponseBatchItem where
  item : ResponseBatchItem
  locatePayload : LocateResponsePayload

def LocateResponseBatchItem.fromBatchItem (item : ResponseBatchItem) : Except Abort LocateResponseBatchItem := do
  expectOperation item kmipOpLocate "LocateResponseBatchItem"
  let payload ← requireResponsePayload item "LocateResponseBatchItem"
  .ok ⟨item, ← LocateResponsePayload.fromElement payload⟩

structure DiscoverVersionsResponseBatchItem where
  item : ResponseBatchItem
  protocolVersions : List ProtocolVersion

/-- The payload is optional. -/
def DiscoverVersionsResponseBatchItem.fromBatchItem (item : ResponseBatchItem) :
    Except Abort DiscoverVersionsResponseBatchItem := do
  expectOperation item kmipOpDiscoverVersions "DiscoverVersionsResponseBatchItem"
  match item.responsePayload with
  | none => .ok ⟨item, []⟩
  | some payload => do .ok ⟨item, ← (payload.getChildren Tag.protocolVersion).mapM ProtocolVersion.fromElement⟩

/-- What a Query response says about the server. -/
structure QueryFields where
  operations : List Int32 := []
  objectTypes : List Int32 := []
  vendorIdentification : Bytes := Bytes.empty
  serverName : Bytes := Bytes.empty
  serverSerialNumber : Bytes := Bytes.empty
  serverVersion : Bytes := Bytes.empty
  serverLoad : Bytes := Bytes.empty
  productName : Bytes := Bytes.empty
  buildLevel : Bytes := Bytes.empty
  buildDate : Bytes := Bytes.empty
  clusterInfo : Bytes := Bytes.empty

structure QueryResponseBatchItem where
  item : ResponseBatchItem
  fields : QueryFields

namespace QueryResponseBatchItem

/-- A text child, empty when it is missing. -/
def readText (e : Element) (childTag : Tag) : Except Abort Bytes := do
  .ok ((← e.readChild childTag Element.toString).getD Bytes.empty)

def readServerInformation (fields : QueryFields) (serverInfo : Element) : Except Abort QueryFields := do
  let serverName ← readText serverInfo Tag.serverName
  let serverSerialNumber ← readText serverInfo Tag.serverSerialNumber
  let serverVersion ← readText serverInfo Tag.serverVersion
  let serverLoad ← readText serverInfo Tag.serverLoad
  let productName ← readText serverInfo Tag.productName
  let buildLevel ← readText serverInfo Tag.buildLevel
  let buildDate ← readText serverInfo Tag.buildDate
  let clusterInfo ← readText serverInfo Tag.clusterInfo
  .ok { fields with
    serverName := serverName, serverSerialNumber := serverSerialNumber, serverVersion := serverVersion
    serverLoad := serverLoad, productName := productName, buildLevel := buildLevel, buildDate := buildDate
    clusterInfo := clusterInfo }

def readPayload (payload : Element) : Except Abort QueryFields := do
  let operations ← (payload.getChildren Tag.operation).mapM toEnum
  let objectTypes ← (payload.getChildren Tag.objectType).mapM toEnum
  let vendorIdentification ← readText payload Tag.vendorIdentification
  let fields : QueryFields :=
    { operations := operations, objectTypes := objectTypes, vendorIdentification := vendorIdentification }
  match payload.getChild Tag.serverInformation with
  | some serverInfo => if serverInfo.asStructure.isSome then readServerInformation fields serverInfo else .ok fields
  | none => .ok fields

/-- The payload is optional. -/
def fromBatchItem (item : ResponseBatchItem) : Except Abort QueryResponseBatchItem := do
  expectOperation item kmipOpQuery "QueryResponseBatchItem"
  match item.responsePayload with
  | none => .ok ⟨item, {}⟩
  | some payload => do .ok ⟨item, ← readPayload payload⟩

end QueryResponseBatchItem

/-! ## All classes -/

inductive ResponseClass where
  | create | register | activate | revoke | destroy
  | get | getAttributes | getAttributeList | locate | discoverVersions | query

/-- What the accessors of a typed response return. -/
inductive ResponseFields where
  | uniqueIdentifier (id : Bytes)
  | object (id : Bytes) (objectType : Int32) (objectElement : Element)
  | attributes (elements : List Element)
  | attributeNames (names : List Bytes)
  | located (payload : LocateResponsePayload)
  | protocolVersions (versions : List ProtocolVersion)
  | query (fields : QueryFields)

namespace ResponseClass

def operation : ResponseClass → Int32
  | create => kmipOpCreate
  | register => kmipOpRegister
  | activate => kmipOpActivate
  | revoke => kmipOpRevoke
  | destroy => kmipOpDestroy
  | get => kmipOpGet
  | getAttributes => kmipOpGetAttributes
  | getAttributeList => kmipOpGetAttributeList
  | locate => kmipOpLocate
  | discoverVersions => kmipOpDiscoverVersions
  | query => kmipOpQuery

/-- The name of the class in its texts. -/
def name : ResponseClass → String
  | get => "GetResponseBatchItem"
  | getAttributes => "GetAttributesResponseBatchItem"
  | getAttributeList => "GetAttributeListResponseBatchItem"
  | locate => "LocateResponseBatchItem"
  | discoverVersions => "DiscoverVersionsResponseBatchItem"
  | query => "QueryResponseBatchItem"
  | _ => "SimpleIdResponseBatchItem"

/-- The fields of `fromBatchItem` of the class. -/
def fromBatchItem (c : ResponseClass) (item : ResponseBatchItem) : Except Abort ResponseFields :=
  match c with
  | get => do
    let r ← GetResponseBatchItem.fromBatchItem item
    .ok (.object r.uniqueIdentifier r.objectType r.objectElement)
  | getAttributes => do .ok (.attributes (← GetAttributesResponseBatchItem.fromBatchItem item).attributes)
  | getAttributeList => do .ok (.attributeNames (← GetAttributeListResponseBatchItem.fromBatchItem item).attributeNames)
  | locate => do .ok (.located (← LocateResponseBatchItem.fromBatchItem item).locatePayload)
  | discoverVersions => do
    .ok (.protocolVersions (← DiscoverVersionsResponseBatchItem.fromBatchItem item).protocolVersions)
  | query => do .ok (.query (← QueryResponseBatchItem.fromBatchItem item).fields)
  | c => do .ok (.uniqueIdentifier (← SimpleIdResponseBatchItem.fromBatchItem c.operation item).uniqueIdentifier)

/-- `getResponseByBatchItemId` of the class. -/
def getResponse (c : ResponseClass) (parser : ResponseParser) (id : UInt32) : Except Abort ResponseFields := do
  let (fields, _) ← parser.getResponseByBatchItemId c.fromBatchItem id
  .ok fields

/-- The exception for an item with another Operation. -/
def unexpectedOperation (c : ResponseClass) : Abort :=
  .message (c.name ++ ": unexpected operation in response batch item")

theorem operation_ne_zero (c : ResponseClass) : c.operation ≠ 0 := by cases c <;> decide

theorem expectOperation_of_ne {item : ResponseBatchItem} {operation : Int32} (h : item.operation ≠ operation)
    (className : String) : expectOperation item operation className =
      .error (.message (className ++ ": unexpected operation in response batch item")) := if_pos h

/-- Every class refuses an item with another Operation. -/
theorem fromBatchItem_of_ne {c : ResponseClass} {item : ResponseBatchItem} (h : item.operation ≠ c.operation) :
    c.fromBatchItem item = .error c.unexpectedOperation := by
  have he := expectOperation_of_ne h c.name
  cases c
  all_goals
    simp only [operation, name] at he
    simp only [fromBatchItem, GetResponseBatchItem.fromBatchItem, GetAttributesResponseBatchItem.fromBatchItem,
      GetAttributeListResponseBatchItem.fromBatchItem, LocateResponseBatchItem.fromBatchItem,
      DiscoverVersionsResponseBatchItem.fromBatchItem, QueryResponseBatchItem.fromBatchItem,
      SimpleIdResponseBatchItem.fromBatchItem, operation, he]
    rfl

/-! ## The other exceptions of the classes -/

/-- The texts of the other exceptions. -/
def otherTexts : List String :=
  ["Element is not Integer", "Element is not Enumeration", "Element is not TextString",
    "Response Payload is not a structure", "Invalid ProtocolVersion element",
    "SimpleIdResponseBatchItem: missing response payload",
    "SimpleIdResponseBatchItem: missing unique identifier in response payload",
    "GetResponseBatchItem: missing response payload",
    "GetResponseBatchItem: missing unique identifier in response payload",
    "GetResponseBatchItem: missing object type in response payload",
    "GetResponseBatchItem: missing object payload for object type",
    "GetAttributesResponseBatchItem: missing response payload",
    "GetAttributeListResponseBatchItem: missing response payload",
    "LocateResponseBatchItem: missing response payload"]

/-- The exception is one with another text. -/
def OtherText (e : Abort) : Prop := ∃ t ∈ otherTexts, e = .message t

theorem otherText_of_mem {t : String} (h : t ∈ otherTexts) : OtherText (.message t) := ⟨t, h, rfl⟩

theorem ne_unexpectedOperation {e : Abort} (h : OtherText e) (c : ResponseClass) : e ≠ c.unexpectedOperation := by
  obtain ⟨t, ht, rfl⟩ := h
  have hall : ∀ t ∈ otherTexts, Abort.message t ≠ c.unexpectedOperation := by cases c <;> decide +kernel
  exact hall t ht

section Raised

open Except

theorem raises_otherText {α : Type} {t : String} (h : t ∈ otherTexts) :
    (Except.error (.message t) : Except Abort α).Raises OtherText :=
  (raises_error _).2 (otherText_of_mem h)

theorem otherText_toInt (e : Element) : e.toInt.Raises OtherText :=
  raises_toInt (otherText_of_mem (by simp [otherTexts])) e

theorem otherText_toEnum (e : Element) : e.toEnum.Raises OtherText :=
  raises_toEnum (otherText_of_mem (by simp [otherTexts])) e

theorem otherText_toString (e : Element) : e.toString.Raises OtherText :=
  raises_toString (otherText_of_mem (by simp [otherTexts])) e

theorem otherText_requireResponsePayload {item : ResponseBatchItem} {className : String}
    (h : className ++ ": missing response payload" ∈ otherTexts) :
    (requireResponsePayload item className).Raises OtherText := by
  unfold requireResponsePayload
  split
  · exact raises_ok _
  · exact raises_otherText h

theorem otherText_collect (e : Element) : (collectAttributeListEntriesFromReference e).Raises OtherText := by
  unfold collectAttributeListEntriesFromReference
  split
  · exact (otherText_toEnum e).bind fun code _ => raises_ok _
  · split
    · exact raises_ok _
    · split
      · exact (otherText_toString _).bind fun name _ => raises_ok _
      · split
        · exact (otherText_toEnum _).bind fun code _ => raises_ok _
        · exact raises_ok _

theorem otherText_payloadNames (payload : Element) :
    (GetAttributeListResponseBatchItem.payloadNames payload).Raises OtherText := by
  refine (Raises.mapM fun e _ => otherText_toString e).bind fun names _ => ?_
  split
  · exact (Raises.mapM fun e _ => otherText_collect e).bind fun entries _ => raises_ok _
  · exact raises_ok _

theorem otherText_readItem (resp : LocateResponsePayload) (child : Element) :
    (resp.readItem child).Raises OtherText := by
  unfold LocateResponsePayload.readItem
  split
  · exact (otherText_toInt child).bind fun n _ => raises_ok _
  · split
    · exact (otherText_toString child).bind fun id _ => raises_ok _
    · exact raises_ok _

theorem otherText_readItems : ∀ (items : List Element) (resp : LocateResponsePayload),
    (resp.readItems items).Raises OtherText
  | [], resp => raises_ok resp
  | child :: items, resp => (otherText_readItem resp child).bind fun resp' _ => otherText_readItems items resp'

theorem otherText_locatePayload (e : Element) : (LocateResponsePayload.fromElement e).Raises OtherText := by
  unfold LocateResponsePayload.fromElement
  split
  · exact raises_otherText (by simp [otherTexts])
  · exact otherText_readItems _ _

theorem otherText_protocolVersion (e : Element) : (ProtocolVersion.fromElement e).Raises OtherText := by
  unfold ProtocolVersion.fromElement
  split
  · exact raises_otherText (by simp [otherTexts])
  · refine (raises_readChild otherText_toInt e _).bind fun major _ => ?_
    exact (raises_readChild otherText_toInt e _).bind fun minor _ => raises_ok _

theorem otherText_readText (e : Element) (t : Tag) : (QueryResponseBatchItem.readText e t).Raises OtherText :=
  (raises_readChild otherText_toString e t).bind fun _ _ => raises_ok _

theorem otherText_readPayload (payload : Element) : (QueryResponseBatchItem.readPayload payload).Raises OtherText := by
  refine (Raises.mapM fun e _ => otherText_toEnum e).bind fun operations _ => ?_
  refine (Raises.mapM fun e _ => otherText_toEnum e).bind fun objectTypes _ => ?_
  refine (otherText_readText payload _).bind fun vendor _ => ?_
  dsimp only
  split
  · split
    · unfold QueryResponseBatchItem.readServerInformation
      iterate 8 refine (otherText_readText _ _).bind fun _ _ => ?_
      exact raises_ok _
    · exact raises_ok _
  · exact raises_ok _

theorem otherText_getResponse {item : ResponseBatchItem} (h : item.operation = kmipOpGet) :
    (GetResponseBatchItem.fromBatchItem item).Raises OtherText := by
  unfold GetResponseBatchItem.fromBatchItem
  rw [expectOperation, if_neg (not_not.2 h), ok_bind]
  refine (otherText_requireResponsePayload (by decide +kernel)).bind fun payload _ => ?_
  split
  · exact raises_otherText (by simp [otherTexts])
  · refine (otherText_toString _).bind fun id _ => ?_
    split
    · exact raises_otherText (by simp [otherTexts])
    · refine (otherText_toEnum _).bind fun objectType _ => ?_
      split
      · exact raises_otherText (by simp [otherTexts])
      · exact raises_ok _

theorem otherText_simpleIdResponse {item : ResponseBatchItem} {opCode : Int32} (h : item.operation = opCode) :
    (SimpleIdResponseBatchItem.fromBatchItem opCode item).Raises OtherText := by
  unfold SimpleIdResponseBatchItem.fromBatchItem
  rw [expectOperation, if_neg (not_not.2 h), ok_bind]
  refine (otherText_requireResponsePayload (by decide +kernel)).bind fun payload _ => ?_
  split
  · exact raises_otherText (by simp [otherTexts])
  · exact (otherText_toString _).bind fun id _ => raises_ok _

/-- An item with the Operation of the class fails, if at all, with another text. -/
theorem otherText_fromBatchItem {c : ResponseClass} {item : ResponseBatchItem} (h : item.operation = c.operation) :
    (c.fromBatchItem item).Raises OtherText := by
  have hexpect : ∀ className, expectOperation item c.operation className = .ok () := fun _ => if_neg (not_not.2 h)
  cases c
  case get => exact (otherText_getResponse h).bind fun r _ => raises_ok _
  case getAttributes =>
    refine Raises.bind ?_ fun r _ => raises_ok _
    unfold GetAttributesResponseBatchItem.fromBatchItem
    rw [show expectOperation item kmipOpGetAttributes _ = _ from hexpect _, ok_bind]
    exact (otherText_requireResponsePayload (by decide +kernel)).bind fun payload _ => raises_ok _
  case getAttributeList =>
    refine Raises.bind ?_ fun r _ => raises_ok _
    unfold GetAttributeListResponseBatchItem.fromBatchItem
    rw [show expectOperation item kmipOpGetAttributeList _ = _ from hexpect _, ok_bind]
    refine (otherText_requireResponsePayload (by decide +kernel)).bind fun payload _ => ?_
    exact (otherText_payloadNames payload).bind fun names _ => raises_ok _
  case locate =>
    refine Raises.bind ?_ fun r _ => raises_ok _
    unfold LocateResponseBatchItem.fromBatchItem
    rw [show expectOperation item kmipOpLocate _ = _ from hexpect _, ok_bind]
    refine (otherText_requireResponsePayload (by decide +kernel)).bind fun payload _ => ?_
    exact (otherText_locatePayload payload).bind fun p _ => raises_ok _
  case discoverVersions =>
    refine Raises.bind ?_ fun r _ => raises_ok _
    unfold DiscoverVersionsResponseBatchItem.fromBatchItem
    rw [show expectOperation item kmipOpDiscoverVersions _ = _ from hexpect _, ok_bind]
    split
    · exact raises_ok _
    · exact (Raises.mapM fun e _ => otherText_protocolVersion e).bind fun versions _ => raises_ok _
  case query =>
    refine Raises.bind ?_ fun r _ => raises_ok _
    unfold QueryResponseBatchItem.fromBatchItem
    rw [show expectOperation item kmipOpQuery _ = _ from hexpect _, ok_bind]
    split
    · exact raises_ok _
    · exact (otherText_readPayload _).bind fun fields _ => raises_ok _
  all_goals exact (otherText_simpleIdResponse h).bind fun r _ => raises_ok _

end Raised

end ResponseClass

/-! ## Responses without an Operation -/

namespace ResponseParser

/-- The index of the response item for an id: of the item that echoes it, or else the position in the request. -/
def responseIndex (parser : ResponseParser) (id : UInt32) : Option Nat :=
  let ids := parser.responseMessage.batchItems.map (·.uniqueBatchItemId)
  (ids.findIdx? (· == id)).or (parser.batchItemPositions.lookup id)

/-- The parser after the same response, in which the item at `i` carries `operation`. -/
def withOperation (parser : ResponseParser) (i : Nat) (operation : Int32) : ResponseParser :=
  { parser with
    responseMessage := { parser.responseMessage with
      batchItems := parser.responseMessage.batchItems.modify i fun item => { item with operation := operation } } }

theorem responseIndex_withOperation (parser : ResponseParser) (i : Nat) (operation : Int32) (id : UInt32) :
    (parser.withOperation i operation).responseIndex id = parser.responseIndex id := by
  have hids : (parser.responseMessage.batchItems.modify i fun item => { item with operation := operation }).map
      (·.uniqueBatchItemId) = parser.responseMessage.batchItems.map (·.uniqueBatchItemId) := by
    apply List.ext_getElem?
    intro j
    rw [List.getElem?_map, List.getElem?_map, List.getElem?_modify]
    cases parser.responseMessage.batchItems[j]? with
    | none => rfl
    | some item =>
      show some _ = some _
      split <;> rfl
  rw [responseIndex, responseIndex, withOperation, hids]

/-- Lookup on a parser that has parsed its response. -/
theorem getResponseItem_of_responseIndex {parser : ResponseParser} (hparsed : parser.isParsed = true) {id : UInt32}
    {i : Nat} (hi : parser.responseIndex id = some i) {item : ResponseBatchItem}
    (hitem : parser.responseMessage.batchItems[i]? = some item) :
    parser.getResponseItemByBatchItemId id = .ok (item, parser) := by
  rw [responseIndex, List.findIdx?_map] at hi
  rw [getResponseItemByBatchItemId, ensureParsed, hparsed, if_neg (by simp), Except.ok_bind]
  dsimp only
  cases hecho : parser.responseMessage.batchItems.findIdx? (fun item => item.uniqueBatchItemId == id) with
  | some j =>
    obtain rfl : j = i := by simpa [Function.comp_def, hecho] using hi
    rw [List.find?_eq_bind_findIdx?_getElem?, hecho, Option.bind_some, hitem]
  | none =>
    have hpos : parser.batchItemPositions.lookup id = some i := by simpa [Function.comp_def, hecho] using hi
    rw [List.find?_eq_bind_findIdx?_getElem?, hecho, Option.bind_none, hpos, Option.bind_some, hitem]

end ResponseParser

namespace ResponseClass

open ResponseParser

/-- The typed response for a successful item. -/
theorem getResponse_of_success {c : ResponseClass} {parser : ResponseParser} {id : UInt32} {item : ResponseBatchItem}
    (h : parser.getResponseItemByBatchItemId id = .ok (item, parser)) (hs : item.resultStatus = kmipStatusSuccess) :
    c.getResponse parser id = c.fromBatchItem item := by
  rw [getResponse, getResponseByBatchItemId, h, Except.ok_bind]
  dsimp only
  rw [ensureSuccess, if_neg (not_not.2 hs), Except.ok_bind]
  cases c.fromBatchItem item <;> rfl

/-- **Responses without an Operation.** The typed access refuses a successful item that carries no Operation. It does
not refuse the item with the Operation of the request: it returns the fields, or fails with another exception. -/
theorem getResponse_of_omitted (request : RequestMessage) (responseBytes : Bytes) (c : ResponseClass)
    (parser : ResponseParser) (hparse : (ofRequest responseBytes request).ensureParsed = .ok parser) :
    ∀ requestItem ∈ request.batchItems, requestItem.operation = c.operation →
      ∀ i item, parser.responseIndex requestItem.uniqueBatchItemId = some i →
        parser.responseMessage.batchItems[i]? = some item → item.resultStatus = kmipStatusSuccess →
          item.operation = 0 →
            c.getResponse (ofRequest responseBytes request) requestItem.uniqueBatchItemId =
                .error c.unexpectedOperation ∧
              c.getResponse (ofRequest responseBytes request) requestItem.uniqueBatchItemId ≠
                c.getResponse (parser.withOperation i requestItem.operation) requestItem.uniqueBatchItemId := by
  intro requestItem _ hop i item hi hitem hsuccess homitted
  have hparsed := (ensureParsed_eq_ok hparse).1
  -- the first run
  have hfirst : c.getResponse (ofRequest responseBytes request) requestItem.uniqueBatchItemId =
      .error c.unexpectedOperation := by
    have hitem₁ := getResponseItem_of_responseIndex hparsed hi hitem
    have hsame : c.getResponse (ofRequest responseBytes request) requestItem.uniqueBatchItemId =
        c.getResponse parser requestItem.uniqueBatchItemId := by
      rw [getResponse, getResponse, getResponseByBatchItemId, getResponseByBatchItemId,
        getResponseItemByBatchItemId_of_parsed hparse]
    rw [hsame, getResponse_of_success hitem₁ hsuccess]
    exact fromBatchItem_of_ne (homitted ▸ c.operation_ne_zero.symm)
  refine ⟨hfirst, ?_⟩
  -- the second run finds the same item, with the Operation
  have hindex : (parser.withOperation i requestItem.operation).responseIndex requestItem.uniqueBatchItemId =
      some i := by
    rw [responseIndex_withOperation, hi]
  have hget : (parser.withOperation i requestItem.operation).responseMessage.batchItems[i]? =
      some { item with operation := requestItem.operation } := by
    show (List.modify _ i _)[i]? = _
    rw [List.getElem?_modify, hitem]
    show some (if i = i then _ else _) = _
    rw [if_pos rfl]
  have hitem₂ := @getResponseItem_of_responseIndex (parser.withOperation i requestItem.operation) hparsed _ _ hindex
    _ hget
  rw [hfirst, getResponse_of_success hitem₂ hsuccess]
  intro heq
  exact ne_unexpectedOperation (otherText_fromBatchItem hop _ heq.symm) c rfl

/-- A response with the single item `Result Status Success, Response Payload (Unique Identifier "a")`. -/
def responseWithoutOperation : Bytes :=
  ⟨[0x42, 0x00, 0x7B, 0x01, 0, 0, 0, 112,
    0x42, 0x00, 0x7A, 0x01, 0, 0, 0, 56,
    0x42, 0x00, 0x69, 0x01, 0, 0, 0, 32,
    0x42, 0x00, 0x6A, 0x02, 0, 0, 0, 4, 0, 0, 0, 1, 0, 0, 0, 0,
    0x42, 0x00, 0x6B, 0x02, 0, 0, 0, 4, 0, 0, 0, 4, 0, 0, 0, 0,
    0x42, 0x00, 0x0D, 0x02, 0, 0, 0, 4, 0, 0, 0, 1, 0, 0, 0, 0,
    0x42, 0x00, 0x0F, 0x01, 0, 0, 0, 40,
    0x42, 0x00, 0x7F, 0x05, 0, 0, 0, 4, 0, 0, 0, 0, 0, 0, 0, 0,
    0x42, 0x00, 0x7C, 0x01, 0, 0, 0, 16,
    0x42, 0x00, 0x94, 0x07, 0, 0, 0, 1, 0x61, 0, 0, 0, 0, 0, 0, 0], by simp⟩

/-- An Activate request. -/
def activateRequest : RequestMessage := ⟨{}, [⟨1, kmipOpActivate, none⟩], 2⟩

/-- The response parses, and its item is that of the request. -/
theorem parses_responseWithoutOperation :
    ∃ parser item, (ofRequest responseWithoutOperation activateRequest).ensureParsed = .ok parser ∧
      parser.responseIndex 1 = some 0 ∧ parser.responseMessage.batchItems[0]? = some item ∧
      item.resultStatus = kmipStatusSuccess ∧ item.operation = 0 ∧
      (activate.getResponse (parser.withOperation 0 kmipOpActivate) 1).isOk = true := by
  have hparse : (ofRequest responseWithoutOperation activateRequest).ensureParsed.toOption.map
      (fun p => (p.responseIndex 1, p.responseMessage.batchItems.map (fun item => (item.resultStatus, item.operation)),
        (activate.getResponse (p.withOperation 0 kmipOpActivate) 1).isOk)) =
      some (some 0, [(kmipStatusSuccess, 0)], true) := by
    decide +kernel
  obtain ⟨parser, hp, hfacts⟩ := Option.map_eq_some_iff.1 hparse
  simp only [Prod.mk.injEq] at hfacts
  obtain ⟨item, hitems, hitem⟩ := List.map_eq_singleton_iff.1 hfacts.2.1
  simp only [Prod.mk.injEq] at hitem
  refine ⟨parser, item, Except.toOption_eq_some_iff.1 hp, hfacts.1, ?_, hitem.1, hitem.2, hfacts.2.2⟩
  rw [hitems]
  rfl

theorem getResponse_of_omitted_activate :
    activate.getResponse (ofRequest responseWithoutOperation activateRequest) 1 =
      .error activate.unexpectedOperation := by
  obtain ⟨parser, item, hparse, hi, hitem, hs, hop, -⟩ := parses_responseWithoutOperation
  have h := getResponse_of_omitted activateRequest responseWithoutOperation activate parser hparse
    ⟨1, kmipOpActivate, none⟩ List.mem_cons_self rfl 0 item hi hitem hs hop
  exact h.1

/-- An Activate response without an Operation: refused, and accepted with the Operation. -/
theorem getResponse_omitted_differs :
    ∃ parser, (ofRequest responseWithoutOperation activateRequest).ensureParsed = .ok parser ∧
      (∃ item, parser.responseMessage.batchItems[0]? = some item ∧ item.resultStatus = kmipStatusSuccess ∧
        item.operation = 0) ∧
      (activate.getResponse (ofRequest responseWithoutOperation activateRequest) 1).isOk = false ∧
      (activate.getResponse (parser.withOperation 0 kmipOpActivate) 1).isOk = true := by
  obtain ⟨parser, item, hparse, -, hitem, hs, hop, hok⟩ := parses_responseWithoutOperation
  exact ⟨parser, hparse, ⟨item, hitem, hs, hop⟩, by decide +kernel, hok⟩

end ResponseClass

end Kmip
