import Kmip.Core.AttributesParser
import Kmip.Core.Keys
import Kmip.Core.Responses

/-!
# Keys and secrets in Get responses

`KeyParser` reads the Key Block of a key object or of a Secret Data object. A symmetric key must be Raw.
-/

namespace Kmip.KeyParser

open Element

/-- The child with the given tag; without it the response is malformed. -/
def requireChild (e : Element) (childTag : Tag) (message : String) : Except Abort Element :=
  match e.getChild childTag with
  | some child => .ok child
  | none => .error (.coded kmipInvalidEncoding message)

def secureKeyMaterial (keyMaterial : Element) : Except Abort Bytes :=
  match keyMaterial.value with
  | .byteString bytes => .ok bytes
  | _ => .error (.coded kmipInvalidEncoding "Key Material is not a byte string.")

/-- Algorithm and length that stand in the Key Block itself. -/
def keyBlockAttributes (keyBlock : Element) (keyAttrs : Attributes) : Except Abort Attributes := do
  let keyAttrs ← match keyBlock.getChild Tag.cryptographicAlgorithm with
    | some algElem => do .ok (keyAttrs.setAlgorithm (← checkedCryptographicAlgorithm (← algElem.toEnum)))
    | none => .ok keyAttrs
  match keyBlock.getChild Tag.cryptographicLength with
  | some lenElem => do .ok (keyAttrs.setCryptoLength (← lenElem.toInt))
  | none => .ok keyAttrs

section Parse

variable (dateToString : Int64 → Bytes)

def parseKeyFromKeyBlockHolder (objectElement : Element) (keyType : KeyType) (typeName : String) :
    Except Abort Key := do
  let keyBlock ← requireChild objectElement Tag.keyBlock ("Missing Key Block in " ++ typeName ++ " response.")
  let keyValue ← requireChild keyBlock Tag.keyValue ("Missing Key Value in " ++ typeName ++ " response.")
  let keyMaterial ← requireChild keyValue Tag.keyMaterial ("Missing Key Material in " ++ typeName ++ " response.")
  let keyFormat ← requireChild keyBlock Tag.keyFormatType ("Missing Key Format Type in " ++ typeName ++ " response.")
  match keyMaterial.asStructure with
  | some _ => do
    let format ← keyFormat.toEnum
    .error (.coded kmipNotImplemented ("Key Material of the " ++ typeName ++ " is a structure (Key Format Type " ++
      Int.repr format.toInt ++ "); only byte-string Key Format Types are supported."))
  | none => do
    let kv ← secureKeyMaterial keyMaterial
    let keyAttrs ← AttributesParser.parse dateToString (keyValue.getChildren Tag.attributeTag)
    let keyAttrs ← keyBlockAttributes keyBlock keyAttrs
    .ok ⟨kv, keyType, keyAttrs, some (← keyFormat.toEnum)⟩

/-- An object type with the tag of its element, its `KeyType` and its name. -/
structure ObjectTypeMapping where
  objType : Int32
  wrapperTag : Tag
  keyType : KeyType
  name : String

def mappings : List ObjectTypeMapping :=
  [⟨kmipObjtypeSymmetricKey, Tag.symmetricKey, .symmetricKey, "Symmetric Key"⟩,
    ⟨kmipObjtypePrivateKey, Tag.privateKey, .privateKey, "Private Key"⟩,
    ⟨kmipObjtypePublicKey, Tag.publicKey, .publicKey, "Public Key"⟩]

/-- A symmetric key with a Key Block must be Raw. -/
def checkSymmetricFormat (objectElement : Element) : Except Abort Unit :=
  match objectElement.getChild Tag.keyBlock with
  | none => .ok ()
  | some keyBlock =>
    match keyBlock.getChild Tag.keyFormatType with
    | none => .error (.coded kmipInvalidEncoding "Invalid response object format.")
    | some keyFormat => do
      if (← keyFormat.toEnum) ≠ kmipKeyformatRaw then
        .error (.coded kmipInvalidEncoding "Invalid response object format.")
      else .ok ()

def parseResponse (payload : Option Element) : Except Abort Key :=
  match payload with
  | none => .error (.coded kmipInvalidEncoding "Missing response payload.")
  | some payload => do
    let objectType ← requireChild payload Tag.objectType "Missing Object Type in Get response."
    let objTypeVal ← objectType.toEnum
    match mappings.find? (·.objType == objTypeVal) with
    | some m => do
      let objectElement ← requireChild payload m.wrapperTag ("Missing " ++ m.name ++ " object in Get response.")
      if m.objType = kmipObjtypeSymmetricKey then checkSymmetricFormat objectElement
      parseKeyFromKeyBlockHolder dateToString objectElement m.keyType m.name
    | none =>
      if objTypeVal = kmipObjtypeCertificate then
        .error (.coded kmipNotImplemented "Certificate object type parsing is not yet supported.")
      else .error (.coded kmipNotImplemented ("Unsupported object type: " ++ Int.repr objTypeVal.toInt))

def parseGetKeyResponse (item : GetResponseBatchItem) : Except Abort Key :=
  parseResponse dateToString item.item.responsePayload

end Parse

/-- The Key Format Type that a response declares. -/
def keyFormatType (item : GetResponseBatchItem) : Except Abort (Option Int32) :=
  match item.objectElement.getChild Tag.keyBlock with
  | none => .ok none
  | some keyBlock => keyBlock.readChild Tag.keyFormatType toEnum

def parseGetSecretResponse (item : GetResponseBatchItem) : Except Abort Secret :=
  if item.objectType ≠ kmipObjtypeSecretData then
    .error (.coded kmipReasonInvalidDataType "Secret data expected in Get response.")
  else
    let object := item.objectElement
    match object.getChild Tag.secretDataType, object.getChild Tag.keyBlock with
    | some secretType, some keyBlock =>
      let mismatch : Abort := .coded kmipObjectMismatch "Secret data key block format mismatch"
      match keyBlock.getChild Tag.keyFormatType with
      | none => .error mismatch
      | some keyFormat => do
        let format ← keyFormat.toEnum
        if format ≠ kmipKeyformatOpaque ∧ format ≠ kmipKeyformatRaw then .error mismatch
        else do
          let keyValue ← requireChild keyBlock Tag.keyValue "Missing secret key value."
          let keyMaterial ← requireChild keyValue Tag.keyMaterial "Missing secret key material."
          let value ← secureKeyMaterial keyMaterial
          let secretType ← checkedSecretDataType (← secretType.toEnum)
          .ok { value := value, secretType := secretType }
    | _, _ => .error (.coded kmipInvalidEncoding "Secret data key block format mismatch")

/-! ## What a parsed key holds -/

end Kmip.KeyParser

namespace Kmip

namespace KeyParser

/-- A mapping leads to the object that the typed response has. -/
theorem getObjectElementForType_of_mapping {m : ObjectTypeMapping} (h : m ∈ mappings) (payload : Element) :
    getObjectElementForType payload m.objType = payload.getChild m.wrapperTag := by
  simp only [mappings, List.mem_cons, List.not_mem_nil, or_false] at h
  rcases h with rfl | rfl | rfl <;> rfl

end KeyParser

end Kmip
