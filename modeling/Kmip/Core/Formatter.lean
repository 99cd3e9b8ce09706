import Kmip.Core.Deserialize
import Kmip.Core.Protocol
import Kmip.Core.Text

/-!
# The formatter

`format_element` writes a tree as text, one line for each node. A node with a sensitive tag gives the type of its value
and at most the length; a sensitive structure is not entered. The calendar text of a time (`utcTime`) and the texts of
the error category (`categoryMessage`) come from the platform and from a table, and are parameters here.
-/

namespace Kmip

open Element

namespace Formatter

/-! ## Pieces of text -/

def indent (level : Nat) : String := String.ofList (List.replicate (level * 2) ' ')

def formatHexUint (value width : Nat) : String := "0x" ++ hex width value

/-- One character of a quoted text. -/
def quoteChar (ch : Char) : List Char :=
  match ch with
  | '\\' => ['\\', '\\']
  | '"' => ['\\', '"']
  | '\n' => ['\\', 'n']
  | '\r' => ['\\', 'r']
  | '\t' => ['\\', 't']
  | ch => [ch]

def quoteString (value : Bytes) : String :=
  "\"" ++ String.ofList ((textOf value.bytes).toList.flatMap quoteChar) ++ "\""

def formatBytes (value : Bytes) : String := "len=" ++ Nat.repr value.size ++ ", hex=[" ++ bytesToHex value ++ "]"

def typeNames : List (TypeCode × String) :=
  [(TypeCode.struct, "Structure"), (TypeCode.integer, "Integer"), (TypeCode.longInteger, "LongInteger"),
    (TypeCode.bigInteger, "BigInteger"), (TypeCode.enumeration, "Enumeration"), (TypeCode.boolean, "Boolean"),
    (TypeCode.textString, "TextString"), (TypeCode.byteString, "ByteString"), (TypeCode.dateTime, "DateTime"),
    (TypeCode.interval, "Interval"), (TypeCode.dateTimeExtended, "DateTimeExtended")]

def typeName (type : TypeCode) : String := (typeNames.lookup type).getD "UnknownType"

def tagNames : List (Tag × String) :=
  [(Tag.attributeTag, "Attribute"), (Tag.attributeName, "AttributeName"), (Tag.attributeValue, "AttributeValue"),
    (Tag.batchCount, "BatchCount"), (Tag.batchItem, "BatchItem"), (Tag.batchOrderOption, "BatchOrderOption"),
    (Tag.compromiseOccurranceDate, "CompromiseOccurrenceDate"),
    (Tag.cryptographicAlgorithm, "CryptographicAlgorithm"), (Tag.cryptographicLength, "CryptographicLength"),
    (Tag.cryptographicUsageMask, "CryptographicUsageMask"), (Tag.keyBlock, "KeyBlock"),
    (Tag.keyFormatType, "KeyFormatType"), (Tag.keyMaterial, "KeyMaterial"), (Tag.keyValue, "KeyValue"),
    (Tag.locatedItems, "LocatedItems"), (Tag.maximumItems, "MaximumItems"),
    (Tag.maximumResponseSize, "MaximumResponseSize"), (Tag.name, "Name"), (Tag.nameType, "NameType"),
    (Tag.nameValue, "NameValue"), (Tag.objectGroup, "ObjectGroup"), (Tag.objectType, "ObjectType"),
    (Tag.offsetItems, "OffsetItems"), (Tag.operation, "Operation"), (Tag.protocolVersion, "ProtocolVersion"),
    (Tag.protocolVersionMajor, "ProtocolVersionMajor"), (Tag.protocolVersionMinor, "ProtocolVersionMinor"),
    (Tag.requestHeader, "RequestHeader"), (Tag.requestMessage, "RequestMessage"),
    (Tag.requestPayload, "RequestPayload"), (Tag.responseHeader, "ResponseHeader"),
    (Tag.responseMessage, "ResponseMessage"), (Tag.responsePayload, "ResponsePayload"),
    (Tag.resultMessage, "ResultMessage"), (Tag.resultReason, "ResultReason"), (Tag.resultStatus, "ResultStatus"),
    (Tag.revokationMessage, "RevocationMessage"), (Tag.revocationReason, "RevocationReason"),
    (Tag.revocationReasonCode, "RevocationReasonCode"), (Tag.secretData, "SecretData"),
    (Tag.secretDataType, "SecretDataType"), (Tag.state, "State"), (Tag.symmetricKey, "SymmetricKey"),
    (Tag.templateAttribute, "TemplateAttribute"), (Tag.timeStamp, "TimeStamp"),
    (Tag.uniqueBatchItemId, "UniqueBatchItemId"), (Tag.uniqueIdentifier, "UniqueIdentifier"),
    (Tag.username, "Username"), (Tag.password, "Password")]

def tagName (tag : Tag) : Option String := tagNames.lookup tag

/-! ## Enumeration values -/

def operationName (value : Int32) : Option String :=
  List.lookup value
    [(kmipOpCreate, "Create"), (kmipOpRegister, "Register"), (kmipOpLocate, "Locate"), (kmipOpGet, "Get"),
      (kmipOpGetAttributes, "GetAttributes"), (kmipOpGetAttributeList, "GetAttributeList"),
      (kmipOpActivate, "Activate"), (kmipOpRevoke, "Revoke"), (kmipOpDestroy, "Destroy"), (kmipOpQuery, "Query"),
      (kmipOpDiscoverVersions, "DiscoverVersions")]

def objectTypeName (value : Int32) : Option String :=
  List.lookup value
    [(kmipObjtypeCertificate, "Certificate"), (kmipObjtypeSymmetricKey, "SymmetricKey"),
      (kmipObjtypePublicKey, "PublicKey"), (kmipObjtypePrivateKey, "PrivateKey"),
      (kmipObjtypeSecretData, "SecretData"), (kmipObjtypeOpaqueObject, "OpaqueObject")]

def resultStatusName (value : Int32) : Option String :=
  List.lookup value
    [(kmipStatusSuccess, "Success"), (kmipStatusOperationFailed, "OperationFailed"),
      (kmipStatusOperationPending, "OperationPending"), (kmipStatusOperationUndone, "OperationUndone")]

def cryptoAlgorithmName (value : Int32) : Option String :=
  List.lookup value.toUInt32
    [(CryptographicAlgorithm.des, "DES"), (CryptographicAlgorithm.tripleDes, "3DES"),
      (CryptographicAlgorithm.aes, "AES"), (CryptographicAlgorithm.rsa, "RSA"), (CryptographicAlgorithm.dsa, "DSA"),
      (CryptographicAlgorithm.ecdsa, "ECDSA"), (CryptographicAlgorithm.hmacSha1, "HMAC-SHA1"),
      (CryptographicAlgorithm.hmacSha224, "HMAC-SHA224"), (CryptographicAlgorithm.hmacSha256, "HMAC-SHA256"),
      (CryptographicAlgorithm.hmacSha384, "HMAC-SHA384"), (CryptographicAlgorithm.hmacSha512, "HMAC-SHA512")]

def nameTypeName (value : Int32) : Option String :=
  List.lookup value [(kmipNameUninterpretedTextString, "UninterpretedTextString"), (kmipNameUri, "URI")]

def keyFormatTypeName (value : Int32) : Option String :=
  List.lookup value
    [(kmipKeyformatRaw, "Raw"), (kmipKeyformatOpaque, "Opaque"), (kmipKeyformatPkcs1, "PKCS1"),
      (kmipKeyformatPkcs8, "PKCS8"), (kmipKeyformatX509, "X509")]

def secretDataTypeName (value : Int32) : Option String :=
  List.lookup value.toUInt32 [(SecretDataType.password, "Password"), (SecretDataType.seed, "Seed")]

def stateToString (value : ObjectState) : String :=
  (List.lookup value
    [(ObjectState.preActive, "KMIP_STATE_PRE_ACTIVE"), (ObjectState.active, "KMIP_STATE_ACTIVE"),
      (ObjectState.deactivated, "KMIP_STATE_DEACTIVATED"), (ObjectState.compromised, "KMIP_STATE_COMPROMISED"),
      (ObjectState.destroyed, "KMIP_STATE_DESTROYED"),
      (ObjectState.destroyedCompromised, "KMIP_STATE_DESTROYED_COMPROMISED")]).getD "UNKNOWN_KMIP_STATE"

def revocationReasonName (value : Int32) : Option String :=
  List.lookup value.toUInt32
    [(RevocationReasonType.unspecified, "Unspecified"), (RevocationReasonType.keyCompromise, "KeyCompromise"),
      (RevocationReasonType.caCompromise, "CACompromise"),
      (RevocationReasonType.affiliationChanged, "AffiliationChanged"),
      (RevocationReasonType.suspended, "Suspended"),
      (RevocationReasonType.cessationOfOperation, "CessationOfOperation"),
      (RevocationReasonType.priviledgeWithdrawn, "PrivilegeWithdrawn"),
      (RevocationReasonType.extensions, "Extensions")]

def enumValueName (tag : Tag) (value : Int32) : String :=
  let name : Option String :=
    if tag = Tag.operation then operationName value
    else if tag = Tag.objectType then objectTypeName value
    else if tag = Tag.resultStatus then resultStatusName value
    else if tag = Tag.cryptographicAlgorithm then cryptoAlgorithmName value
    else if tag = Tag.nameType then nameTypeName value
    else if tag = Tag.keyFormatType then keyFormatTypeName value
    else if tag = Tag.secretDataType then secretDataTypeName value
    else if tag = Tag.state then some (stateToString value.toUInt32)
    else if tag = Tag.revocationReasonCode then revocationReasonName value
    else none
  match name with
  | some name => name ++ " (" ++ Int.repr value.toInt ++ ")"
  | none => Int.repr value.toInt ++ " / " ++ formatHexUint value.toUInt32.toNat 8

/-! ## Redaction -/

def sensitiveTags : List Tag :=
  [Tag.credentialValue, Tag.ivCounterNonce, Tag.keyMaterial, Tag.keyValue, Tag.macSignature, Tag.nonceValue,
    Tag.password, Tag.salt, Tag.secretData, Tag.username]

def isSensitiveTag (tag : Tag) : Bool := sensitiveTags.contains tag

def shouldRedactSubtree (element : Element) : Bool :=
  isSensitiveTag element.tag && element.type == TypeCode.struct

def redactedValueLength (element : Element) : Except Abort (Option Nat) :=
  if element.type = TypeCode.bigInteger ∨ element.type = TypeCode.byteString then do
    .ok (some (← element.toBytes).size)
  else if element.type = TypeCode.textString then do .ok (some (← element.toString).size)
  else .ok none

def redactedValueSummary (element : Element) : Except Abort String := do
  let len ← redactedValueLength element
  let lenText := match len with
    | some len => ", len=" ++ Nat.repr len
    | none => ""
  .ok ("<redacted sensitive " ++ typeName element.type ++ lenText ++ ">")

/-! ## Elements -/

section Format

variable (utcTime : Int64 → String)

def formatDatetime (seconds : Int64) : String := utcTime seconds ++ " (" ++ Int.repr seconds.toInt ++ ")"

/-- The value of a node that is not a structure, chosen by its type code. -/
def formatValue (element : Element) : Except Abort String :=
  if element.type = TypeCode.integer then do .ok (Int.repr (← element.toInt).toInt)
  else if element.type = TypeCode.longInteger then do .ok (Int.repr (← element.toLong).toInt)
  else if element.type = TypeCode.bigInteger then do .ok (formatBytes (← element.toBytes))
  else if element.type = TypeCode.enumeration then do .ok (enumValueName element.tag (← element.toEnum))
  else if element.type = TypeCode.boolean then do .ok (if ← element.toBool then "true" else "false")
  else if element.type = TypeCode.textString then do .ok (quoteString (← element.toString))
  else if element.type = TypeCode.byteString then do .ok (formatBytes (← element.toBytes))
  else if element.type = TypeCode.dateTime then do .ok (formatDatetime utcTime (← element.toLong))
  else if element.type = TypeCode.interval then do .ok (Nat.repr (← element.toInterval).toNat)
  else .ok "<unhandled>"

/-- The start of a line: indentation, tag and type. -/
def lineHead (tag : Tag) (type : TypeCode) (depth : Nat) : String :=
  indent depth ++ (tagName tag).getD "UnknownTag" ++ " (" ++ formatHexUint tag.toNat 6 ++ ") [" ++ typeName type ++ "]"

mutual

def formatElementImpl : Element → Nat → Except Abort String
  | ⟨tag, type, value⟩, depth =>
    if shouldRedactSubtree ⟨tag, type, value⟩ then .ok (lineHead tag type depth ++ " = <redacted sensitive subtree>\n")
    else if isSensitiveTag tag then do
      .ok (lineHead tag type depth ++ " = " ++ (← redactedValueSummary ⟨tag, type, value⟩) ++ "\n")
    else formatNode tag type value depth

/-- The rest of a node that is not redacted. -/
def formatNode (tag : Tag) (type : TypeCode) : Value Element → Nat → Except Abort String
  | .struct items, depth => do
    let empty := if items.isEmpty then indent (depth + 1) ++ "<empty>\n" else ""
    .ok (lineHead tag type depth ++ "\n" ++ empty ++ (← formatItems items (depth + 1)))
  | value, depth => do .ok (lineHead tag type depth ++ " = " ++ (← formatValue utcTime ⟨tag, type, value⟩) ++ "\n")

def formatItems : List Element → Nat → Except Abort String
  | [], _ => .ok ""
  | child :: items, depth => do .ok ((← formatElementImpl child depth) ++ (← formatItems items depth))

end

def formatElement (element : Element) : Except Abort String := formatElementImpl utcTime element 0

def formatRequest (request : RequestMessage) : Except Abort String := do formatElement utcTime (← request.toElement)

def formatResponse (response : ResponseMessage) : Except Abort String := do formatElement utcTime (← response.toElement)

/-! ## Bytes -/

variable (categoryMessage : Int → String)

/-- `what()` of a `std::system_error`. -/
def what (e : KmipException) : String := e.message ++ ": " ++ categoryMessage e.code

/-- The text in the `try` block. -/
def tryFormatTtlv (ttlv : Bytes) : Except Abort String :=
  if ttlv.bytes.isEmpty then .ok "<empty KMIP TTLV>\n"
  else do
    let (root, offset) ← (deserialize ttlv 0).result
    let formatted ← formatElement utcTime root
    if offset ≠ ttlv.size then .ok (formatted ++ "Trailing bytes: " ++ Nat.repr (ttlv.size - offset) ++ "\n")
    else .ok formatted

def formatTtlv (ttlv : Bytes) : Except Abort String :=
  match tryFormatTtlv utcTime ttlv with
  | .error (.thrown e) =>
    .ok ("Unable to format KMIP TTLV safely: " ++ what categoryMessage e ++
      ". Raw payload omitted to avoid leaking sensitive data.\n")
  | result => result

end Format

end Formatter

end Kmip
