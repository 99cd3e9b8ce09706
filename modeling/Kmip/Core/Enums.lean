import Kmip.Core.Errors

/-!
# Constants, tags and type codes

The enumerations `tag` and `type` of the source are open: the decoder casts whatever the wire holds into them, so both
are plain 32-bit codes here, with names for the codes that the modelled functions use.
-/

namespace Kmip

/-- `KMIP_MAX_MESSAGE_SIZE`: the default limit of a response, 1 MiB. -/
def kmipMaxMessageSize : Nat := 1024 * 1024

/-- `KMIP_MAX_MESSAGE_HARD_LIMIT`: the absolute limit of a response, 16 MiB. -/
def kmipMaxMessageHardLimit : Nat := 16 * 1024 * 1024

/-- `KMIP_MAX_STRUCTURE_DEPTH`: the deepest nesting that the decoder accepts. -/
def kmipMaxStructureDepth : Nat := 64

/-- `KMIP_NOT_IMPLEMENTED`. -/
def kmipNotImplemented : Int := -1

/-- `KMIP_ENUM_UNSUPPORTED`. -/
def kmipEnumUnsupported : Int := -10

/-- `KMIP_IO_FAILURE`. -/
def kmipIoFailure : Int := -13

/-- `KMIP_EXCEED_MAX_MESSAGE_SIZE`. -/
def kmipExceedMaxMessageSize : Int := -14

/-- `KMIP_OBJECT_MISMATCH`. -/
def kmipObjectMismatch : Int := -16

/-- `KMIP_INVALID_ENCODING`. -/
def kmipInvalidEncoding : Int := -19

/-- `KMIP_INVALID_FIELD`. -/
def kmipInvalidField : Int := -20

/-- `KMIP_REASON_INVALID_MESSAGE`. -/
def kmipReasonInvalidMessage : Int := 0x04

/-- `KMIP_REASON_INVALID_FIELD`. -/
def kmipReasonInvalidField : Int := 0x07

/-- `KMIP_REASON_FEATURE_NOT_SUPPORTED`. -/
def kmipReasonFeatureNotSupported : Int := 0x08

/-- `KMIP_REASON_INVALID_DATA_TYPE`. -/
def kmipReasonInvalidDataType : Int := 0x1C

/-! ## Type codes -/

/-- A TTLV type code (`enum class type : uint32_t`). -/
abbrev TypeCode := UInt32

namespace TypeCode

def struct : TypeCode := 0x01
def integer : TypeCode := 0x02
def longInteger : TypeCode := 0x03
def bigInteger : TypeCode := 0x04
def enumeration : TypeCode := 0x05
def boolean : TypeCode := 0x06
def textString : TypeCode := 0x07
def byteString : TypeCode := 0x08
def dateTime : TypeCode := 0x09
def interval : TypeCode := 0x0A
def dateTimeExtended : TypeCode := 0x0B

end TypeCode

/-! ## Tags -/

/-- A TTLV tag (`enum class tag : uint32_t`). -/
abbrev Tag := UInt32

namespace Tag

def activationDate : Tag := 0x420001
def attributeReference : Tag := 0x420005
def attributeTag : Tag := 0x420008
def attributeName : Tag := 0x42000A
def attributeValue : Tag := 0x42000B
def authentication : Tag := 0x42000C
def batchCount : Tag := 0x42000D
def batchItem : Tag := 0x42000F
def batchOrderOption : Tag := 0x420010
def compromiseOccurranceDate : Tag := 0x420021
def credential : Tag := 0x420023
def credentialType : Tag := 0x420024
def credentialValue : Tag := 0x420025
def cryptographicAlgorithm : Tag := 0x420028
def cryptographicLength : Tag := 0x42002A
def cryptographicUsageMask : Tag := 0x42002C
def deactivationDate : Tag := 0x42002F
def ivCounterNonce : Tag := 0x42003D
def keyBlock : Tag := 0x420040
def keyFormatType : Tag := 0x420042
def keyMaterial : Tag := 0x420043
def keyValue : Tag := 0x420045
def macSignature : Tag := 0x42004D
def maximumItems : Tag := 0x42004F
def maximumResponseSize : Tag := 0x420050
def name : Tag := 0x420053
def nameType : Tag := 0x420054
def nameValue : Tag := 0x420055
def objectGroup : Tag := 0x420056
def objectType : Tag := 0x420057
def operation : Tag := 0x42005C
def operationPolicyName : Tag := 0x42005D
def privateKey : Tag := 0x420064
def processStartDate : Tag := 0x420067
def protectStopDate : Tag := 0x420068
def protocolVersion : Tag := 0x420069
def protocolVersionMajor : Tag := 0x42006A
def protocolVersionMinor : Tag := 0x42006B
def publicKey : Tag := 0x42006D
def queryFunction : Tag := 0x420074
def requestHeader : Tag := 0x420077
def requestMessage : Tag := 0x420078
def requestPayload : Tag := 0x420079
def responseHeader : Tag := 0x42007A
def responseMessage : Tag := 0x42007B
def responsePayload : Tag := 0x42007C
def resultMessage : Tag := 0x42007D
def resultReason : Tag := 0x42007E
def resultStatus : Tag := 0x42007F
def revokationMessage : Tag := 0x420080
def revocationReason : Tag := 0x420081
def revocationReasonCode : Tag := 0x420082
def salt : Tag := 0x420084
def secretData : Tag := 0x420085
def secretDataType : Tag := 0x420086
def serverInformation : Tag := 0x420088
def state : Tag := 0x42008D
def symmetricKey : Tag := 0x42008F
def templateAttribute : Tag := 0x420091
def timeStamp : Tag := 0x420092
def uniqueBatchItemId : Tag := 0x420093
def uniqueIdentifier : Tag := 0x420094
def username : Tag := 0x420099
def vendorIdentification : Tag := 0x42009D
def password : Tag := 0x4200A1
def nonceValue : Tag := 0x4200CA
def offsetItems : Tag := 0x4200D4
def locatedItems : Tag := 0x4200D5
def attributes : Tag := 0x420125
def serverName : Tag := 0x42012D
def serverSerialNumber : Tag := 0x42012E
def serverVersion : Tag := 0x42012F
def serverLoad : Tag := 0x420130
def productName : Tag := 0x420131
def buildLevel : Tag := 0x420132
def buildDate : Tag := 0x420133
def clusterInfo : Tag := 0x420134

end Tag

/-! ## Enumeration values on the wire -/

/-- `KMIP_CRED_USERNAME_AND_PASSWORD`. -/
def kmipCredUsernameAndPassword : Int32 := 0x01

/-- `KMIP_STATUS_SUCCESS`. -/
def kmipStatusSuccess : Int32 := 0x00

/-- `KMIP_STATUS_OPERATION_FAILED`. -/
def kmipStatusOperationFailed : Int32 := 0x01

/-- `KMIP_STATUS_OPERATION_PENDING`. -/
def kmipStatusOperationPending : Int32 := 0x02

/-- `KMIP_STATUS_OPERATION_UNDONE`. -/
def kmipStatusOperationUndone : Int32 := 0x03

def kmipOpCreate : Int32 := 0x01
def kmipOpRegister : Int32 := 0x03
def kmipOpLocate : Int32 := 0x08
def kmipOpGet : Int32 := 0x0A
def kmipOpGetAttributes : Int32 := 0x0B
def kmipOpGetAttributeList : Int32 := 0x0C
def kmipOpActivate : Int32 := 0x12
def kmipOpRevoke : Int32 := 0x13
def kmipOpDestroy : Int32 := 0x14
def kmipOpQuery : Int32 := 0x18
def kmipOpDiscoverVersions : Int32 := 0x1E

def kmipQueryOperations : Int32 := 0x01
def kmipQueryObjects : Int32 := 0x02
def kmipQueryServerInformation : Int32 := 0x03

def kmipObjtypeCertificate : Int32 := 0x01
def kmipObjtypeSymmetricKey : Int32 := 0x02
def kmipObjtypePublicKey : Int32 := 0x03
def kmipObjtypePrivateKey : Int32 := 0x04
def kmipObjtypeSecretData : Int32 := 0x07
def kmipObjtypeOpaqueObject : Int32 := 0x08

def kmipKeyformatRaw : Int32 := 0x01
def kmipKeyformatOpaque : Int32 := 0x02
def kmipKeyformatPkcs1 : Int32 := 0x03
def kmipKeyformatPkcs8 : Int32 := 0x04
def kmipKeyformatX509 : Int32 := 0x05

def kmipNameUninterpretedTextString : Int32 := 0x01
def kmipNameUri : Int32 := 0x02

def kmipCryptomaskEncrypt : Int32 := 0x04
def kmipCryptomaskDecrypt : Int32 := 0x08
def kmipCryptomaskExport : Int32 := 0x40
def kmipCryptomaskDeriveKey : Int32 := 0x200

/-! ## Scoped enumerations

They have the underlying type `uint32_t`, and a cast puts any code into them. -/

/-- `cryptographic_algorithm`. -/
abbrev CryptographicAlgorithm := UInt32

namespace CryptographicAlgorithm

def unset : CryptographicAlgorithm := 0x00
def des : CryptographicAlgorithm := 0x01
def tripleDes : CryptographicAlgorithm := 0x02
def aes : CryptographicAlgorithm := 0x03
def rsa : CryptographicAlgorithm := 0x04
def dsa : CryptographicAlgorithm := 0x05
def ecdsa : CryptographicAlgorithm := 0x06
def hmacSha1 : CryptographicAlgorithm := 0x07
def hmacSha224 : CryptographicAlgorithm := 0x08
def hmacSha256 : CryptographicAlgorithm := 0x09
def hmacSha384 : CryptographicAlgorithm := 0x0A
def hmacSha512 : CryptographicAlgorithm := 0x0B
def hmacMd5 : CryptographicAlgorithm := 0x0C
def dh : CryptographicAlgorithm := 0x0D
def ecdh : CryptographicAlgorithm := 0x0E
def twofish : CryptographicAlgorithm := 0x19
def ec : CryptographicAlgorithm := 0x1A
def oneTimePad : CryptographicAlgorithm := 0x1B
def shake256 : CryptographicAlgorithm := 0x28
def ed448 : CryptographicAlgorithm := 0x38

end CryptographicAlgorithm

/-- `cryptographic_usage_mask`. -/
abbrev CryptographicUsageMask := UInt32

/-- `KMIP_CRYPTOMASK_UNSET`. -/
def CryptographicUsageMask.unset : CryptographicUsageMask := 0

/-- `state`: the lifecycle state of an object. -/
abbrev ObjectState := UInt32

namespace ObjectState

def preActive : ObjectState := 0x01
def active : ObjectState := 0x02
def deactivated : ObjectState := 0x03
def compromised : ObjectState := 0x04
def destroyed : ObjectState := 0x05
def destroyedCompromised : ObjectState := 0x06

end ObjectState

/-- `secret_data_type`. -/
abbrev SecretDataType := UInt32

namespace SecretDataType

def password : SecretDataType := 0x01
def seed : SecretDataType := 0x02
def extensions : SecretDataType := 0x80000000

end SecretDataType

/-- `revocation_reason_type`. -/
abbrev RevocationReasonType := UInt32

namespace RevocationReasonType

def unspecified : RevocationReasonType := 0x01
def keyCompromise : RevocationReasonType := 0x02
def caCompromise : RevocationReasonType := 0x03
def affiliationChanged : RevocationReasonType := 0x04
def suspended : RevocationReasonType := 0x05
def cessationOfOperation : RevocationReasonType := 0x06
def priviledgeWithdrawn : RevocationReasonType := 0x07
def extensions : RevocationReasonType := 0x80000000

end RevocationReasonType

/-! ## Validation of codes from the wire -/

def isValidCryptographicAlgorithm (value : Int32) : Bool :=
  CryptographicAlgorithm.unset.toInt32 ≤ value && value ≤ CryptographicAlgorithm.ed448.toInt32

def isValidState (value : Int32) : Bool :=
  ObjectState.preActive.toInt32 ≤ value && value ≤ ObjectState.destroyedCompromised.toInt32

def isValidSecretDataType (value : Int32) : Bool :=
  value.toUInt32 == SecretDataType.password || value.toUInt32 == SecretDataType.seed ||
    value.toUInt32 == SecretDataType.extensions

/-- Bits 0 to 23 are defined. -/
def isValidCryptographicUsageMask (value : Int32) : Bool := value.toUInt32 &&& ~~~0x00FFFFFF == 0

/-- A code that passes its check; the exception names the enumeration. -/
def checkedEnum (isValid : Int32 → Bool) (text : String) (value : Int32) : Except Abort UInt32 :=
  if !isValid value then .error (.coded kmipEnumUnsupported (text ++ Int.repr value.toInt)) else .ok value.toUInt32

def checkedCryptographicAlgorithm : Int32 → Except Abort CryptographicAlgorithm :=
  checkedEnum isValidCryptographicAlgorithm "Unknown Cryptographic Algorithm enumeration value: "

def checkedState : Int32 → Except Abort ObjectState :=
  checkedEnum isValidState "Unknown State enumeration value: "

def checkedSecretDataType : Int32 → Except Abort SecretDataType :=
  checkedEnum isValidSecretDataType "Unknown Secret Data Type enumeration value: "

def checkedCryptographicUsageMask : Int32 → Except Abort CryptographicUsageMask :=
  checkedEnum isValidCryptographicUsageMask "Invalid Cryptographic Usage Mask value: "

end Kmip
