import Kmip.Lib.FirstSeen
import Kmip.Core.Keys
import Kmip.Core.Protocol

/-!
# Request builders

The constructors of `kmip_requests`. From KMIP 2.0 on attributes are typed elements in an Attributes container; before
that they are name and value pairs, in a Template-Attribute or, for Locate, in the payload itself.
-/

namespace Kmip

open Element

namespace Requests

def useAttributesContainer (version : ProtocolVersion) : Bool := version.isAtLeast 2 0

def standardAttributeNameToTag (name : Bytes) : Option Tag :=
  if name = kmipAttrNameName then some Tag.name
  else if name = kmipAttrNameGroup then some Tag.objectGroup
  else if name = kmipAttrNameState then some Tag.state
  else if name = kmipAttrNameUniqueIdentifier ∨ name = kmipAttrNameUniqueIdentifierAlt then some Tag.uniqueIdentifier
  else if name = kmipAttrNameActivationDate then some Tag.activationDate
  else if name = kmipAttrNameDeactivationDate then some Tag.deactivationDate
  else if name = kmipAttrNameProcessStartDate then some Tag.processStartDate
  else if name = kmipAttrNameProtectStopDate then some Tag.protectStopDate
  else if name = kmipAttrNameCryptoAlg then some Tag.cryptographicAlgorithm
  else if name = kmipAttrNameCryptoLen then some Tag.cryptographicLength
  else if name = kmipAttrNameCryptoUsageMask then some Tag.cryptographicUsageMask
  else if name = kmipAttrNameOperationPolicyName then some Tag.operationPolicyName
  else none

/-- A selector of KMIP 2.0. Attributes without a tag are named, as those of a vendor are. -/
def makeV2AttributeReference (attributeName : Bytes) : Element :=
  createStructure Tag.attributeReference
    [match standardAttributeNameToTag attributeName with
      | some tag => createEnumeration Tag.attributeReference tag.toInt32
      | none => createTextString Tag.attributeName attributeName]

/-! ## Attributes of KMIP 1.x -/

/-- An Attribute structure. -/
def makeAttribute (attributeName : Bytes) (value : Element) : Element :=
  createStructure Tag.attributeTag [createTextString Tag.attributeName attributeName, value]

def makeTextAttribute (attributeName value : Bytes) : Element :=
  makeAttribute attributeName (createTextString Tag.attributeValue value)

def makeEnumAttribute (attributeName : Bytes) (value : Int32) : Element :=
  makeAttribute attributeName (createEnumeration Tag.attributeValue value)

def makeIntegerAttribute (attributeName : Bytes) (value : Int32) : Element :=
  makeAttribute attributeName (createInteger Tag.attributeValue value)

/-- The two fields of a Name. -/
def nameFields (value : Bytes) : List Element :=
  [createTextString Tag.nameValue value, createEnumeration Tag.nameType kmipNameUninterpretedTextString]

def makeNameAttribute (value : Bytes) : Element :=
  makeAttribute (.ofText "Name") (createStructure Tag.attributeValue (nameFields value))

def makeTemplateAttribute (attributes : List Element) : Element := createStructure Tag.templateAttribute attributes

/-- The Object Group of a request, left out when it is empty. -/
def optionalGroup (mk : Bytes → Element) (group : Bytes) : List Element :=
  if group.bytes.isEmpty then [] else [mk group]

def groupAttribute (group : Bytes) : List Element := optionalGroup (makeTextAttribute (.ofText "Object Group")) group

/-! ## Attributes of KMIP 2.0 -/

def makeV2NameStruct (value : Bytes) : Element := createStructure Tag.name (nameFields value)

def v2Group (group : Bytes) : List Element := optionalGroup (createTextString Tag.objectGroup) group

def makeV2CreateSymmetricAttrs (name group : Bytes) (keyBits : Int32) (usageMask : CryptographicUsageMask) : Element :=
  createStructure Tag.attributes
    ([createEnumeration Tag.cryptographicAlgorithm CryptographicAlgorithm.aes.toInt32,
      createInteger Tag.cryptographicLength keyBits,
      createInteger Tag.cryptographicUsageMask usageMask.toInt32,
      makeV2NameStruct name] ++ v2Group group)

def makeV2RegisterSymmetricAttrs (name group : Bytes) (keyBits usageMaskBits : Int32) : Element :=
  createStructure Tag.attributes
    ([createEnumeration Tag.cryptographicAlgorithm CryptographicAlgorithm.aes.toInt32,
      createInteger Tag.cryptographicLength keyBits,
      createInteger Tag.cryptographicUsageMask usageMaskBits,
      makeV2NameStruct name] ++ v2Group group)

def makeV2RegisterSecretAttrs (name group : Bytes) : Element :=
  createStructure Tag.attributes
    ([createInteger Tag.cryptographicUsageMask (kmipCryptomaskDeriveKey ||| kmipCryptomaskExport),
      makeV2NameStruct name] ++ v2Group group)

/-! ## Key objects -/

def makeKeyValue (bytes : Bytes) : Element :=
  createStructure Tag.keyValue [createByteString Tag.keyMaterial bytes]

def makeKeyBlock (keyFormatType : Int32) (bytes : Bytes) (algorithm cryptographicLength : Option Int32) : Element :=
  createStructure Tag.keyBlock
    ([createEnumeration Tag.keyFormatType keyFormatType, makeKeyValue bytes] ++
      optionalChild (createEnumeration Tag.cryptographicAlgorithm) algorithm ++
      optionalChild (createInteger Tag.cryptographicLength) cryptographicLength)

/-- The highest algorithm code that a version defines. Extensions are negative as `int32_t`. -/
def lastCryptoAlgorithm (version : ProtocolVersion) : Int32 :=
  if version.isAtLeast 2 0 then Int32.maxValue
  else if version.isAtLeast 1 4 then CryptographicAlgorithm.shake256.toInt32
  else if version.isAtLeast 1 3 then CryptographicAlgorithm.oneTimePad.toInt32
  else if version.isAtLeast 1 2 then CryptographicAlgorithm.ec.toInt32
  else CryptographicAlgorithm.twofish.toInt32

structure AlgorithmAndLength where
  algorithm : Int32
  length : Int32
deriving DecidableEq

/-- The length to send for a key: only the size of a symmetric value tells it. -/
def keyLength (key : Key) : Option Int32 :=
  if key.attributes.cryptoLength = none ∧ key.type = .symmetricKey ∧ key.value.size ≤ 2147483647 / 8 then
    some (Int32.ofNat (key.value.size * 8))
  else key.attributes.cryptoLength

def algorithmAndLength (key : Key) (version : ProtocolVersion) : Option AlgorithmAndLength :=
  let algorithm := key.attributes.algorithm.toInt32
  if algorithm = CryptographicAlgorithm.unset.toInt32 ∨ algorithm > lastCryptoAlgorithm version then none
  else
    match keyLength key with
    | none => none
    | some length => if length ≤ 0 then none else some ⟨algorithm, length⟩

/-- Why Register refuses a symmetric key. -/
def symmetricKeyWithoutAlgorithmAndLength (key : Key) (version : ProtocolVersion) : String :=
  let algorithm := key.attributes.algorithm.toInt32
  if algorithm = CryptographicAlgorithm.unset.toInt32 then
    "Cannot register a symmetric key without a Cryptographic Algorithm: raw key material does not carry it"
  else if algorithm > lastCryptoAlgorithm version then
    "Cannot register a symmetric key with Cryptographic Algorithm " ++ Int.repr algorithm.toInt ++ ", which KMIP " ++
      Int.repr version.major.toInt ++ "." ++ Int.repr version.minor.toInt ++ " does not define"
  else
    match key.attributes.cryptoLength with
    | some length =>
      "Cannot register a symmetric key with Cryptographic Length " ++ Int.repr length.toInt ++ ": it must be positive"
    | none =>
      if key.value.bytes.isEmpty then
        "Cannot register a symmetric key without a Cryptographic Length (an empty value and no length set)"
      else
        "Cannot register a symmetric key of " ++ Nat.repr key.value.size ++
          " bytes: its length in bits does not fit a Cryptographic Length"

def makeKeyObjectFromKey (key : Key) (version : ProtocolVersion) : Except Abort Element :=
  let pair := algorithmAndLength key version
  let keyBlock (defaultFormat : Int32) : Element :=
    makeKeyBlock (key.keyFormat.getD defaultFormat) key.value (pair.map (·.algorithm)) (pair.map (·.length))
  match key.type with
  | .symmetricKey =>
    if pair = none then .error (.coded kmipInvalidField (symmetricKeyWithoutAlgorithmAndLength key version))
    else .ok (createStructure Tag.symmetricKey [keyBlock kmipKeyformatRaw])
  | .privateKey => .ok (createStructure Tag.privateKey [keyBlock kmipKeyformatPkcs8])
  | .publicKey => .ok (createStructure Tag.publicKey [keyBlock kmipKeyformatX509])
  | .certificate => .error (.coded kmipNotImplemented "Certificate registration is not yet supported")
  | .unset => .error (.coded kmipInvalidField "Unsupported key type for Register")

def objectTypeFromKeyType : KeyType → Except Abort Int32
  | .symmetricKey => .ok kmipObjtypeSymmetricKey
  | .privateKey => .ok kmipObjtypePrivateKey
  | .publicKey => .ok kmipObjtypePublicKey
  | .certificate => .ok kmipObjtypeCertificate
  | .unset => .error (.coded kmipInvalidField "Unsupported key type for Register")

/-- `static_cast<int32_t>(size * 8)`. -/
def bitsOf (value : Bytes) : Int32 := Int32.ofNat (value.size * 8)

def makeSymmetricKey (keyValue : Bytes) : Element :=
  createStructure Tag.symmetricKey
    [makeKeyBlock kmipKeyformatRaw keyValue (some CryptographicAlgorithm.aes.toInt32) (some (bitsOf keyValue))]

def makeSecretData (secret : Bytes) (secretType : SecretDataType) : Element :=
  createStructure Tag.secretData
    [createEnumeration Tag.secretDataType secretType.toInt32, makeKeyBlock kmipKeyformatOpaque secret none none]

/-! ## Attributes of a registered key -/

/-- The mask of a key, left out when it is unset. -/
def optionalMask (mk : Int32 → Element) (key : Key) : List Element :=
  if key.attributes.usageMaskOrUnset = .unset then [] else [mk key.attributes.usageMaskOrUnset.toInt32]

/-- Algorithm and length of a key, both or neither. -/
def optionalPair (mkAlgorithm mkLength : Int32 → Element) (pair : Option AlgorithmAndLength) : List Element :=
  match pair with
  | some pair => [mkAlgorithm pair.algorithm, mkLength pair.length]
  | none => []

/-- Generic attributes are left out: KMIP 2.0 has no typed elements for them. -/
def makeV2RegisterKeyAttrs (name group : Bytes) (key : Key) (version : ProtocolVersion) : Element :=
  createStructure Tag.attributes
    ([makeV2NameStruct name] ++ v2Group group ++
      optionalPair (createEnumeration Tag.cryptographicAlgorithm) (createInteger Tag.cryptographicLength)
        (algorithmAndLength key version) ++
      optionalMask (createInteger Tag.cryptographicUsageMask) key)

/-- The generic attributes of a key as text attributes. -/
def genericAttributes (key : Key) : List Element :=
  key.attributes.generic.entries.filterMap fun ⟨attrName, attrVal⟩ =>
    if attrName = .ofText "Name" ∨ attrName = .ofText "Object Group" then none
    else some (makeTextAttribute attrName attrVal.toText)

/-- The attributes of a key in a Template-Attribute. -/
def registerKeyAttributes (name group : Bytes) (key : Key) (version : ProtocolVersion) : List Element :=
  [makeNameAttribute name] ++ groupAttribute group ++
    optionalPair (makeEnumAttribute (.ofText "Cryptographic Algorithm"))
      (makeIntegerAttribute (.ofText "Cryptographic Length")) (algorithmAndLength key version) ++
    optionalMask (makeIntegerAttribute (.ofText "Cryptographic Usage Mask")) key ++
    genericAttributes key

end Requests

open Requests

/-! ## The requests -/

/-- `SimpleIdRequest<opCode>`. -/
def SimpleIdRequest (opCode : Int32) (uniqueId : Bytes) : RequestBatchItem where
  operation := opCode
  requestPayload := some (createStructure Tag.requestPayload [createTextString Tag.uniqueIdentifier uniqueId])

def GetRequest (uniqueId : Bytes) (keyFormatType : Option Int32) : RequestBatchItem where
  operation := kmipOpGet
  requestPayload := some (createStructure Tag.requestPayload
    ([createTextString Tag.uniqueIdentifier uniqueId] ++
      optionalChild (createEnumeration Tag.keyFormatType) keyFormatType))

/-- The selectors of a Get Attributes request, for names that are different from each other. -/
def attributeSelectors (version : ProtocolVersion) (legacyAttributeNamesForV2 : Bool) (names : List Bytes) :
    List Element :=
  if useAttributesContainer version ∧ !legacyAttributeNamesForV2 then names.map makeV2AttributeReference
  else names.map (createTextString Tag.attributeName)

def GetAttributesRequest (uniqueId : Bytes) (attributeNames : List Bytes) (version : ProtocolVersion)
    (legacyAttributeNamesForV2 : Bool) : RequestBatchItem where
  operation := kmipOpGetAttributes
  requestPayload := some (createStructure Tag.requestPayload
    ([createTextString Tag.uniqueIdentifier uniqueId] ++
      attributeSelectors version legacyAttributeNamesForV2 ([].appendNew attributeNames)))

def CreateSymmetricKeyRequest (name group : Bytes) (keyBits : Int32) (usageMask : CryptographicUsageMask)
    (version : ProtocolVersion) : RequestBatchItem :=
  let attributes :=
    if useAttributesContainer version then makeV2CreateSymmetricAttrs name group keyBits usageMask
    else makeTemplateAttribute
      ([makeEnumAttribute (.ofText "Cryptographic Algorithm") CryptographicAlgorithm.aes.toInt32,
        makeIntegerAttribute (.ofText "Cryptographic Length") keyBits,
        makeIntegerAttribute (.ofText "Cryptographic Usage Mask") usageMask.toInt32,
        makeNameAttribute name] ++ groupAttribute group)
  { operation := kmipOpCreate
    requestPayload := some (createStructure Tag.requestPayload
      [createEnumeration Tag.objectType kmipObjtypeSymmetricKey, attributes]) }

/-- A Register request: object type, attributes and the object. -/
def registerRequest (objectType : Int32) (attributes object : Element) : RequestBatchItem where
  operation := kmipOpRegister
  requestPayload := some (createStructure Tag.requestPayload
    [createEnumeration Tag.objectType objectType, attributes, object])

def RegisterSymmetricKeyRequest (name group keyValue : Bytes) (version : ProtocolVersion) : RequestBatchItem :=
  let mask := kmipCryptomaskEncrypt ||| kmipCryptomaskDecrypt
  let attributes :=
    if useAttributesContainer version then makeV2RegisterSymmetricAttrs name group (bitsOf keyValue) mask
    else makeTemplateAttribute
      ([makeEnumAttribute (.ofText "Cryptographic Algorithm") CryptographicAlgorithm.aes.toInt32,
        makeIntegerAttribute (.ofText "Cryptographic Length") (bitsOf keyValue),
        makeIntegerAttribute (.ofText "Cryptographic Usage Mask") mask,
        makeNameAttribute name] ++ groupAttribute group)
  registerRequest kmipObjtypeSymmetricKey attributes (makeSymmetricKey keyValue)

def RegisterKeyRequest (name group : Bytes) (key : Key) (version : ProtocolVersion) :
    Except Abort RequestBatchItem := do
  let objectType ← objectTypeFromKeyType key.type
  let attributes :=
    if useAttributesContainer version then makeV2RegisterKeyAttrs name group key version
    else makeTemplateAttribute (registerKeyAttributes name group key version)
  let object ← makeKeyObjectFromKey key version
  .ok (registerRequest objectType attributes object)

def RegisterSecretRequest (name group secret : Bytes) (secretType : SecretDataType) (version : ProtocolVersion) :
    RequestBatchItem :=
  let attributes :=
    if useAttributesContainer version then makeV2RegisterSecretAttrs name group
    else makeTemplateAttribute
      ([makeIntegerAttribute (.ofText "Cryptographic Usage Mask") (kmipCryptomaskDeriveKey ||| kmipCryptomaskExport),
        makeNameAttribute name] ++ groupAttribute group)
  registerRequest kmipObjtypeSecretData attributes (makeSecretData secret secretType)

/-- The exception for a number of a Locate request that is not an `int32_t`. -/
def locateOutOfRange (field : String) (value : Nat) : Abort :=
  .message ("LocateRequest: " ++ field ++ " value " ++ Nat.repr value ++ " exceeds int32_t maximum (2147483647)")

/-- A positive number of a Locate request. -/
def positiveInteger (tag : Tag) (value : Nat) : List Element :=
  if value > 0 then [createInteger tag (Int32.ofNat value)] else []

/-- The attributes that the objects of a Locate request have to match. An empty name or group matches all objects. -/
def locateAttributes (locateByGroup : Bool) (name : Bytes) (objType : UInt32) (version : ProtocolVersion) :
    List Element :=
  if useAttributesContainer version then
    [createStructure Tag.attributes
      ([createEnumeration Tag.objectType objType.toInt32] ++
        optionalGroup (if locateByGroup then createTextString Tag.objectGroup else makeV2NameStruct) name)]
  else
    [makeEnumAttribute (.ofText "Object Type") objType.toInt32] ++
      optionalGroup (if locateByGroup then makeTextAttribute (.ofText "Object Group") else makeNameAttribute) name

/-- A Locate request with numbers that are in range. -/
def locateItem (locateByGroup : Bool) (name : Bytes) (objType : UInt32) (maxItems offset : Nat)
    (version : ProtocolVersion) : RequestBatchItem where
  operation := kmipOpLocate
  requestPayload := some (createStructure Tag.requestPayload
    (positiveInteger Tag.maximumItems maxItems ++ positiveInteger Tag.offsetItems offset ++
      locateAttributes locateByGroup name objType version))

def LocateRequest (locateByGroup : Bool) (name : Bytes) (objType : UInt32) (maxItems offset : Nat)
    (version : ProtocolVersion) : Except Abort RequestBatchItem :=
  if maxItems > 2147483647 then .error (locateOutOfRange "max_items" maxItems)
  else if offset > 2147483647 then .error (locateOutOfRange "offset" offset)
  else .ok (locateItem locateByGroup name objType maxItems offset version)

def RevokeRequest (uniqueId : Bytes) (reason : RevocationReasonType) (message : Bytes) (occurrenceTime : Int64) :
    RequestBatchItem :=
  let revocationReason := createStructure Tag.revocationReason
    ([createEnumeration Tag.revocationReasonCode reason.toInt32] ++
      if message.bytes.isEmpty then [] else [createTextString Tag.revokationMessage message])
  { operation := kmipOpRevoke
    requestPayload := some (createStructure Tag.requestPayload
      ([createTextString Tag.uniqueIdentifier uniqueId, revocationReason] ++
        if occurrenceTime > 0 then [createDateTime Tag.compromiseOccurranceDate occurrenceTime] else [])) }

end Kmip
