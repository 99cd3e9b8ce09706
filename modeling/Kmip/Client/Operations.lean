import Kmip.Client.GetOperations
import Kmip.Client.LocatePages
import Kmip.Core.TypedResponses

/-!
# `KmipClient`: all operations

Most operations send one request with one item and return what the typed response to it holds (`exchangeItem`). The
Locate operations are the searches of `Kmip.Client.LocatePages` over `locatePage`, which is one exchange. Get and Get
Attributes are in `Kmip.Client.GetOperations`.

A session of a client is a list of operations with their arguments; the history of exchanges goes on when one of them
throws.
-/

namespace Kmip.Client

open Element Hoare

/-! ## Arguments and results -/

/-- `aes_key_size`. -/
inductive AesKeySize where
  | aes128
  | aes192
  | aes256

def AesKeySize.bits : AesKeySize → Int32
  | aes128 => 128
  | aes192 => 192
  | aes256 => 256

structure QueryServerInfo where
  supportedOperations : List UInt32
  supportedObjectTypes : List UInt32
  serverName : Bytes
  vendorName : Bytes
  productName : Bytes
  serverVersion : Bytes
  buildLevel : Bytes
  buildDate : Bytes
  serverSerialNumber : Bytes
  serverLoad : Bytes
  clusterInfo : Bytes

def QueryServerInfo.ofFields (fields : QueryFields) : QueryServerInfo where
  supportedOperations := fields.operations.map (·.toUInt32)
  supportedObjectTypes := fields.objectTypes.map (·.toUInt32)
  serverName := fields.serverName
  vendorName := fields.vendorIdentification
  productName := fields.productName
  serverVersion := fields.serverVersion
  buildLevel := fields.buildLevel
  buildDate := fields.buildDate
  serverSerialNumber := fields.serverSerialNumber
  serverLoad := fields.serverLoad
  clusterInfo := fields.clusterInfo

/-- The request item of `op_discover_versions`. -/
def discoverVersionsItem : RequestBatchItem where
  operation := kmipOpDiscoverVersions
  requestPayload := some (createStructure Tag.requestPayload [])

/-- The request item of `op_query`. -/
def queryItem : RequestBatchItem where
  operation := kmipOpQuery
  requestPayload := some (createStructure Tag.requestPayload
    ([kmipQueryOperations, kmipQueryObjects, kmipQueryServerInformation].map (createEnumeration Tag.queryFunction)))

namespace KmipClient

variable (c : KmipClient)

/-! ## One item, one exchange -/

/-- A request with one item, its exchange, and the typed response to the item. -/
def exchangeItem {α : Type} (item : ProtocolVersion → Except Abort RequestBatchItem)
    (fromBatchItem : ResponseBatchItem → Except Abort α) : Session α := do
  let request ← Session.of c.makeRequestMessage
  let item ← Session.of (item request.header.protocolVersion)
  let (batchItemId, request) := request.addBatchItem item
  let rf ← c.send request
  let (response, _) ← Session.of (rf.getResponseByBatchItemId fromBatchItem batchItemId)
  pure response

/-- An operation that returns the Unique Identifier of the response. -/
def exchangeForId (opCode : Int32) (item : ProtocolVersion → Except Abort RequestBatchItem) : Session Bytes := do
  let response ← c.exchangeItem item (SimpleIdResponseBatchItem.fromBatchItem opCode)
  pure response.uniqueIdentifier

def opRegisterKey (name group : Bytes) (k : Key) : Session Bytes :=
  c.exchangeForId kmipOpRegister fun version => RegisterKeyRequest name group k version

def opRegisterSecret (name group : Bytes) (secret : Secret) : Session Bytes :=
  c.exchangeForId kmipOpRegister fun version =>
    .ok (RegisterSecretRequest name group secret.value secret.secretType version)

def opCreateAesKey (name group : Bytes) (keySize : AesKeySize) (usageMask : CryptographicUsageMask) : Session Bytes :=
  c.exchangeForId kmipOpCreate fun version =>
    .ok (CreateSymmetricKeyRequest name group keySize.bits usageMask version)

def opActivate (id : Bytes) : Session Bytes :=
  c.exchangeForId kmipOpActivate fun _ => .ok (SimpleIdRequest kmipOpActivate id)

def opRevoke (id : Bytes) (reason : RevocationReasonType) (message : Bytes) (occurrenceTime : Int64) : Session Bytes :=
  c.exchangeForId kmipOpRevoke fun _ => .ok (RevokeRequest id reason message occurrenceTime)

def opDestroy (id : Bytes) : Session Bytes :=
  c.exchangeForId kmipOpDestroy fun _ => .ok (SimpleIdRequest kmipOpDestroy id)

def opGetAttributeList (id : Bytes) : Session (List Bytes) := do
  let response ← c.exchangeItem (fun _ => .ok (SimpleIdRequest kmipOpGetAttributeList id))
    GetAttributeListResponseBatchItem.fromBatchItem
  pure response.attributeNames

def opDiscoverVersions : Session (List ProtocolVersion) := do
  let response ← c.exchangeItem (fun _ => .ok discoverVersionsItem) DiscoverVersionsResponseBatchItem.fromBatchItem
  pure response.protocolVersions

def opQuery : Session QueryServerInfo := do
  let response ← c.exchangeItem (fun _ => .ok queryItem) QueryResponseBatchItem.fromBatchItem
  pure (.ofFields response.fields)

/-! ## Locate -/

/-- One Locate request: the ids of the page and its Located Items. -/
def locatePage (filter : LocateFilter) (offset pageSize maxResponseSize : Nat) : Session (List Bytes × Option Nat) :=
  if pageSize = 0 then pure ([], none)
  else do
    let request ← Session.of c.makeRequestMessage
    let request ← Session.of (request.setMaxResponseSize maxResponseSize)
    let item ← Session.of (LocateRequest filter.byGroup filter.filter filter.oType pageSize offset
      request.header.protocolVersion)
    let (batchItemId, request) := request.addBatchItem item
    let rf ← c.send request
    let (response, _) ← Session.of (rf.getResponseByBatchItemId LocateResponseBatchItem.fromBatchItem batchItemId)
    let payload : LocateResponsePayload Bytes :=
      ⟨response.locatePayload.uniqueIdentifiers, response.locatePayload.locatedItems⟩
    pure (payload.uniqueIdentifiers, payload.located)

def locateAll (filter : LocateFilter) (maxIds : Nat) : Session (LocateOutcome Bytes) :=
  Pages.locateAll c.locatePage filter maxIds

def opLocateByName (name : Bytes) (oType : UInt32) : Session (List Bytes) := do
  let outcome ← c.locateAll ⟨false, name, oType⟩ (maxBatchesInSearch * maxItemsInBatch)
  pure outcome.ids

def opLocateByGroup (group : Bytes) (oType : UInt32) (maxIds : Nat) : Session (List Bytes) := do
  let outcome ← c.locateAll ⟨true, group, oType⟩ maxIds
  pure outcome.ids

def opLocatePageByGroup (group : Bytes) (oType : UInt32) (offset pageSize : Nat) :
    Session (List Bytes × Option Nat) :=
  c.locatePage ⟨true, group, oType⟩ offset pageSize defaultMaxResponseSize

def opAll (oType : UInt32) (maxIds : Nat) : Session (List Bytes) := Pages.opAll c.locatePage oType maxIds

def opAllPage (oType : UInt32) (offset pageSize : Nat) : Session (List Bytes × Option Nat) :=
  c.opLocatePageByGroup Bytes.empty oType offset pageSize

end KmipClient

/-! ## Sessions -/

/-- An operation that changes the objects of the server, with its arguments. -/
inductive Command where
  | registerKey (name group : Bytes) (k : Key)
  | registerSecret (name group : Bytes) (secret : Secret)
  | createAesKey (name group : Bytes) (keySize : AesKeySize) (usageMask : CryptographicUsageMask)
  | activate (id : Bytes)
  | revoke (id : Bytes) (reason : RevocationReasonType) (message : Bytes) (occurrenceTime : Int64)
  | destroy (id : Bytes)

/-- An operation with its arguments. -/
inductive Operation where
  | change (command : Command)
  | getKey (id : Bytes) (allAttributes : Bool)
  | getSecret (id : Bytes) (allAttributes : Bool)
  | getAttributeList (id : Bytes)
  | getAttributes (id : Bytes) (attrNames : List Bytes)
  | locateByName (name : Bytes) (oType : UInt32)
  | locateByGroup (group : Bytes) (oType : UInt32) (maxIds : Nat)
  | locatePageByGroup (group : Bytes) (oType : UInt32) (offset pageSize : Nat)
  | all (oType : UInt32) (maxIds : Nat)
  | allPage (oType : UInt32) (offset pageSize : Nat)
  | discoverVersions
  | query

namespace KmipClient

variable (c : KmipClient)

/-- A command. All of them return the Unique Identifier of the object. -/
def execute : Command → Session Bytes
  | .registerKey name group k => c.opRegisterKey name group k
  | .registerSecret name group secret => c.opRegisterSecret name group secret
  | .createAesKey name group keySize usageMask => c.opCreateAesKey name group keySize usageMask
  | .activate id => c.opActivate id
  | .revoke id reason message occurrenceTime => c.opRevoke id reason message occurrenceTime
  | .destroy id => c.opDestroy id

/-- An operation, without its result. -/
def perform : Operation → Session Unit
  | .change command => c.execute command >>= fun _ => pure ()
  | .getKey id allAttributes => c.opGetKey id allAttributes >>= fun _ => pure ()
  | .getSecret id allAttributes => c.opGetSecret id allAttributes >>= fun _ => pure ()
  | .getAttributeList id => c.opGetAttributeList id >>= fun _ => pure ()
  | .getAttributes id attrNames => c.opGetAttributes id attrNames >>= fun _ => pure ()
  | .locateByName name oType => c.opLocateByName name oType >>= fun _ => pure ()
  | .locateByGroup group oType maxIds => c.opLocateByGroup group oType maxIds >>= fun _ => pure ()
  | .locatePageByGroup group oType offset pageSize =>
    c.opLocatePageByGroup group oType offset pageSize >>= fun _ => pure ()
  | .all oType maxIds => c.opAll oType maxIds >>= fun _ => pure ()
  | .allPage oType offset pageSize => c.opAllPage oType offset pageSize >>= fun _ => pure ()
  | .discoverVersions => c.opDiscoverVersions >>= fun _ => pure ()
  | .query => c.opQuery >>= fun _ => pure ()

/-- The history after a session. The next operation starts whether the one before returned or has thrown. -/
def performAll : List Operation → List Exchanged → List Exchanged
  | [], history => history
  | operation :: operations, history => performAll operations (finalState (c.perform operation history))

end KmipClient

end Kmip.Client
