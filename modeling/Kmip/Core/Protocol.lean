import Kmip.Core.Serialize
import Kmip.Core.Deserialize

/-!
# Request and response messages

The classes of `kmip_protocol`, each with `toElement` and `fromElement`. Fields are looked up by the tag of the first
child that has it (`getChild`); an optional field is an absent child. `RequestMessage::serialize` normalises a copy of
the header before it encodes the message; the clock is a parameter.
-/

namespace Kmip

/-! ## Optional fields -/

namespace Element

/-- The child for an optional field: none, or the one that `mk` builds. -/
def optionalChild {α : Type} (mk : α → Element) (field : Option α) : List Element := field.toList.map mk

/-- The field of the first child with the given tag, if there is one. -/
def readChild {α : Type} (e : Element) (childTag : Tag) (read : Element → Except Abort α) : Except Abort (Option α) :=
  match e.getChild childTag with
  | none => .ok none
  | some child => do .ok (some (← read child))

/-- `element->tag == t && element->type == KMIP_TYPE_STRUCTURE`. -/
def isStructure (e : Element) (t : Tag) : Bool := e.tag == t && e.type == TypeCode.struct

end Element

open Element

/-! ## `ProtocolVersion` -/

structure ProtocolVersion where
  major : Int32 := 1
  minor : Int32 := 4
deriving DecidableEq, Repr

namespace ProtocolVersion

def isAtLeast (v : ProtocolVersion) (major minor : Int32) : Bool :=
  v.major > major || (v.major == major && v.minor ≥ minor)

def toElement (v : ProtocolVersion) : Element :=
  createStructure Tag.protocolVersion
    [createInteger Tag.protocolVersionMajor v.major, createInteger Tag.protocolVersionMinor v.minor]

def fromElement (e : Element) : Except Abort ProtocolVersion :=
  if !e.isStructure Tag.protocolVersion then .error (.message "Invalid ProtocolVersion element")
  else do
    let maj ← e.readChild Tag.protocolVersionMajor toInt
    let min ← e.readChild Tag.protocolVersionMinor toInt
    .ok ⟨maj.getD 1, min.getD 4⟩

end ProtocolVersion

/-! ## The version gate -/

/-- `supports_date_time_extended`. -/
def supportsDateTimeExtended (version : ProtocolVersion) : Bool := version.isAtLeast 2 0

mutual

/-- `validate_element_types_for_version`: Date Time Extended only from 2.0 on, at every node. -/
def validateElementTypesForVersion (version : ProtocolVersion) : Element → Except Abort Unit
  | ⟨_, type, value⟩ =>
    if type == TypeCode.dateTimeExtended && !supportsDateTimeExtended version then
      .error (.message "DateTimeExtended requires KMIP 2.0 or later")
    else validateValue version value

def validateValue (version : ProtocolVersion) : Value Element → Except Abort Unit
  | .struct items => validateItems version items
  | _ => .ok ()

def validateItems (version : ProtocolVersion) : List Element → Except Abort Unit
  | [] => .ok ()
  | child :: items => do
    validateElementTypesForVersion version child
    validateItems version items

end

/-! ## Unique batch item ids -/

def encodeBatchItemId (id : UInt32) : Bytes :=
  ⟨[((id >>> 24) &&& 0xFF).toUInt8, ((id >>> 16) &&& 0xFF).toUInt8, ((id >>> 8) &&& 0xFF).toUInt8,
    (id &&& 0xFF).toUInt8], by simp⟩

/-- The decoded id; none for an empty or too long byte string. -/
def decodeBatchItemId (encoded : Bytes) : Option UInt32 :=
  if encoded.bytes.isEmpty || encoded.size > 4 then none
  else some (encoded.bytes.foldl (fun decoded byte => (decoded <<< 8) ||| byte.toUInt32) 0)

/-- The id of a batch item: zero when it is absent or does not decode. -/
def readBatchItemId (e : Element) : Except Abort UInt32 := do
  let bytes ← e.readChild Tag.uniqueBatchItemId toBytes
  .ok ((bytes.bind decodeBatchItemId).getD 0)

/-- The id as a child of a batch item: left out for zero. -/
def batchItemIdElement (id : UInt32) : List Element :=
  if id ≠ 0 then [createByteString Tag.uniqueBatchItemId (encodeBatchItemId id)] else []

/-! ## Requests -/

structure RequestHeader where
  protocolVersion : ProtocolVersion := {}
  batchCount : Int32 := 0
  maximumResponseSize : Option Int32 := none
  timeStamp : Option Int64 := none
  batchOrderOption : Option Bool := none
  userName : Option Bytes := none
  password : Option Bytes := none
deriving DecidableEq

namespace RequestHeader

/-- The Authentication child, present when there is a user name or a password. -/
def authentication (userName password : Option Bytes) : List Element :=
  if userName.isSome || password.isSome then
    [createStructure Tag.authentication
      [createStructure Tag.credential
        [createEnumeration Tag.credentialType kmipCredUsernameAndPassword,
          createStructure Tag.credentialValue
            (optionalChild (createTextString Tag.username) userName ++
              optionalChild (createTextString Tag.password) password)]]]
  else []

def toElement (h : RequestHeader) : Element :=
  createStructure Tag.requestHeader
    ([h.protocolVersion.toElement] ++
      optionalChild (createInteger Tag.maximumResponseSize) h.maximumResponseSize ++
      optionalChild (createBoolean Tag.batchOrderOption) h.batchOrderOption ++
      optionalChild (createDateTime Tag.timeStamp) h.timeStamp ++
      authentication h.userName h.password ++
      [createInteger Tag.batchCount h.batchCount])

/-- User name and password of the Authentication child. -/
def readAuthentication (e : Element) : Except Abort (Option Bytes × Option Bytes) :=
  match e.getChild Tag.authentication with
  | none => .ok (none, none)
  | some authentication =>
    match authentication.getChild Tag.credential with
    | none => .error (.message "Missing Credential in Authentication")
    | some credential =>
      match credential.getChild Tag.credentialType, credential.getChild Tag.credentialValue with
      | some credentialType, some credentialValue => do
        if (← credentialType.toEnum) = kmipCredUsernameAndPassword then
          let userName ← credentialValue.readChild Tag.username toString
          let password ← credentialValue.readChild Tag.password toString
          .ok (userName, password)
        else .ok (none, none)
      | _, _ => .error (.message "Invalid Credential in Authentication")

def fromElement (e : Element) : Except Abort RequestHeader :=
  if !e.isStructure Tag.requestHeader then .error (.message "Invalid RequestHeader element")
  else
    match e.getChild Tag.protocolVersion with
    | none => .error (.message "Missing ProtocolVersion in header")
    | some pv => do
      let protocolVersion ← ProtocolVersion.fromElement pv
      let maximumResponseSize ← e.readChild Tag.maximumResponseSize toInt
      let timeStamp ← e.readChild Tag.timeStamp toLong
      let batchOrderOption ← e.readChild Tag.batchOrderOption toBool
      let (userName, password) ← readAuthentication e
      let batchCount ← e.readChild Tag.batchCount toInt
      .ok ⟨protocolVersion, batchCount.getD 0, maximumResponseSize, timeStamp, batchOrderOption, userName, password⟩

end RequestHeader

structure RequestBatchItem where
  uniqueBatchItemId : UInt32 := 0
  operation : Int32 := 0
  requestPayload : Option Element := none

namespace RequestBatchItem

def toElement (item : RequestBatchItem) : Element :=
  createStructure Tag.batchItem
    ([createEnumeration Tag.operation item.operation] ++ batchItemIdElement item.uniqueBatchItemId ++
      optionalChild id item.requestPayload)

def fromElement (e : Element) : Except Abort RequestBatchItem :=
  if !e.isStructure Tag.batchItem then .error (.message "Invalid RequestBatchItem element")
  else
    match e.getChild Tag.operation with
    | none => .error (.message "Missing Operation")
    | some op => do
      let operation ← op.toEnum
      let uniqueBatchItemId ← readBatchItemId e
      .ok ⟨uniqueBatchItemId, operation, e.getChild Tag.requestPayload⟩

end RequestBatchItem

structure RequestMessage where
  header : RequestHeader
  batchItems : List RequestBatchItem
  nextBatchItemId : UInt32 := 1

namespace RequestMessage

def setMaxResponseSize (m : RequestMessage) (size : Nat) : Except Abort RequestMessage :=
  if size > 2147483647 then
    .error (.message ("setMaxResponseSize: size_t value " ++ Nat.repr size ++ " exceeds int32_t maximum (2147483647)"))
  else .ok { m with header := { m.header with maximumResponseSize := some (Int32.ofNat size) } }

/-- `RequestMessage(version, maxResponseSize)`. -/
def new (version : ProtocolVersion) (maxResponseSize : Nat) : Except Abort RequestMessage :=
  setMaxResponseSize ⟨{ protocolVersion := version }, [], 1⟩ maxResponseSize

/-- `add_batch_item`: the id that it assigns, and the message with the item. -/
def addBatchItem (m : RequestMessage) (item : RequestBatchItem) : UInt32 × RequestMessage :=
  let id := m.nextBatchItemId
  (id, { m with
    batchItems := m.batchItems ++ [{ item with uniqueBatchItemId := id }]
    nextBatchItemId := id + 1 })

def clearBatchItems (m : RequestMessage) : RequestMessage := { m with batchItems := [], nextBatchItemId := 1 }

def setBatchItems (m : RequestMessage) (items : List RequestBatchItem) : RequestMessage :=
  items.foldl (fun m item => (m.addBatchItem item).2) m.clearBatchItems

def toElement (m : RequestMessage) : Except Abort Element := do
  let structure' := createStructure Tag.requestMessage (m.header.toElement :: m.batchItems.map (·.toElement))
  validateElementTypesForVersion m.header.protocolVersion structure'
  .ok structure'

/-- The header that `serialize` sends at time `now`. -/
def normalizedHeader (m : RequestMessage) (now : Int64) : RequestHeader :=
  { m.header with
    batchCount := Int32.ofNat m.batchItems.length
    -- only meaningful for more than one item, and a caller's choice stands
    batchOrderOption :=
      if m.batchItems.length > 1 ∧ m.header.batchOrderOption = none then some true else m.header.batchOrderOption
    timeStamp := some now }

def serialize (m : RequestMessage) (now : Int64) : Except Abort (List UInt8) :=
  if m.batchItems.isEmpty then .error (.message "Cannot serialize RequestMessage with no batch items")
  else do
    let element ← { m with header := m.normalizedHeader now }.toElement
    let buf ← element.serialize (.new SerializationBuffer.defaultCapacity)
    .ok buf.release.1

def fromElement (e : Element) : Except Abort RequestMessage :=
  if !e.isStructure Tag.requestMessage then .error (.message "Invalid RequestMessage element")
  else
    match e.asStructure with
    | none => .error (.message "RequestMessage element does not hold a Structure")
    | some items =>
      match e.getChild Tag.requestHeader with
      | none => .error (.message "Missing Request Header")
      | some hdr => do
        let header ← RequestHeader.fromElement hdr
        validateElementTypesForVersion header.protocolVersion e
        let batchItems ← (items.filter (·.tag == Tag.batchItem)).mapM RequestBatchItem.fromElement
        if header.batchCount ≠ Int32.ofNat batchItems.length then
          .error (.message "Request Header Batch Count does not match number of Batch Items")
        else .ok ⟨header, batchItems, UInt32.ofNat (batchItems.length + 1)⟩

end RequestMessage

/-! ## Responses -/

structure ResponseHeader where
  protocolVersion : ProtocolVersion := {}
  timeStamp : Int64 := 0
  batchCount : Int32 := 0
deriving DecidableEq

namespace ResponseHeader

def toElement (h : ResponseHeader) : Element :=
  createStructure Tag.responseHeader
    [h.protocolVersion.toElement, createDateTime Tag.timeStamp h.timeStamp,
      createInteger Tag.batchCount h.batchCount]

def fromElement (e : Element) : Except Abort ResponseHeader :=
  if !e.isStructure Tag.responseHeader then .error (.message "Invalid ResponseHeader element")
  else
    match e.getChild Tag.protocolVersion with
    | none => .error (.message "Missing ProtocolVersion")
    | some pv => do
      let protocolVersion ← ProtocolVersion.fromElement pv
      let timeStamp ← e.readChild Tag.timeStamp toLong
      let batchCount ← e.readChild Tag.batchCount toInt
      .ok ⟨protocolVersion, timeStamp.getD 0, batchCount.getD 0⟩

end ResponseHeader

structure ResponseBatchItem where
  uniqueBatchItemId : UInt32 := 0
  operation : Int32 := 0
  resultStatus : Int32 := 0
  resultReason : Option Int32 := none
  resultMessage : Option Bytes := none
  responsePayload : Option Element := none

namespace ResponseBatchItem

def toElement (item : ResponseBatchItem) : Element :=
  createStructure Tag.batchItem
    ([createEnumeration Tag.operation item.operation] ++ batchItemIdElement item.uniqueBatchItemId ++
      [createEnumeration Tag.resultStatus item.resultStatus] ++
      optionalChild (createEnumeration Tag.resultReason) item.resultReason ++
      optionalChild (createTextString Tag.resultMessage) item.resultMessage ++
      optionalChild id item.responsePayload)

def fromElement (e : Element) : Except Abort ResponseBatchItem :=
  if !e.isStructure Tag.batchItem then .error (.message "Invalid ResponseBatchItem element")
  else do
    let operation ← e.readChild Tag.operation toEnum
    let uniqueBatchItemId ← readBatchItemId e
    match e.getChild Tag.resultStatus with
    | none => .error (.message "Missing Result Status")
    | some status => do
      let resultStatus ← status.toEnum
      let resultReason ← e.readChild Tag.resultReason toEnum
      if resultStatus = kmipStatusOperationFailed ∧ resultReason = none then
        .error (.message "Missing Result Reason for failed response batch item")
      else do
        let resultMessage ← e.readChild Tag.resultMessage toString
        .ok ⟨uniqueBatchItemId, operation.getD 0, resultStatus, resultReason, resultMessage,
          e.getChild Tag.responsePayload⟩

end ResponseBatchItem

structure ResponseMessage where
  header : ResponseHeader := {}
  batchItems : List ResponseBatchItem := []

namespace ResponseMessage

def toElement (m : ResponseMessage) : Except Abort Element := do
  let structure' := createStructure Tag.responseMessage (m.header.toElement :: m.batchItems.map (·.toElement))
  validateElementTypesForVersion m.header.protocolVersion structure'
  .ok structure'

/-- Fewer items than declared are tolerated, more are not. -/
def fromElement (e : Element) : Except Abort ResponseMessage :=
  if !e.isStructure Tag.responseMessage then .error (.message "Invalid ResponseMessage element")
  else
    match e.asStructure with
    | none => .error (.message "ResponseMessage element does not hold a Structure")
    | some items =>
      match e.getChild Tag.responseHeader with
      | none => .error (.message "Missing Response Header")
      | some hdr => do
        let header ← ResponseHeader.fromElement hdr
        validateElementTypesForVersion header.protocolVersion e
        let batchItems ← (items.filter (·.tag == Tag.batchItem)).mapM ResponseBatchItem.fromElement
        if Int32.ofNat batchItems.length > header.batchCount then
          .error (.message "Response Header Batch Count does not match number of Batch Items")
        else .ok ⟨header, batchItems⟩

end ResponseMessage

end Kmip
