import Kmip.Core.Attributes

/-!
# Parsing attributes

`AttributesParser::parse` reads KMIP 1.x Attribute structures, with a name and a value, and KMIP 2.0 elements, which are
known by their tags. The text of a date comes from the platform (`gmtime_r` and `put_time`) and is a parameter.
-/

namespace Kmip.AttributesParser

open Element

def genericNameForTag (tagValue : Tag) : Bytes := .ofText ("Tag(0x" ++ hex 6 tagValue.toNat ++ ")")

section Parse

variable (dateToString : Int64 → Bytes)

/-- `store_generic`: a named value, with its native type. -/
def storeGeneric (result : Attributes) (name : Bytes) (value : Option Element) : Except Abort Attributes :=
  match value with
  | none => .ok result
  | some value =>
    if value.type = TypeCode.textString then do .ok (result.setString name (← value.toString))
    else if value.type = TypeCode.integer then do .ok (result.setInt32 name (← value.toInt))
    else if value.type = TypeCode.enumeration then do .ok (result.setInt32 name (← value.toEnum))
    else if value.type = TypeCode.longInteger then do .ok (result.setInt64 name (← value.toLong))
    else if value.type = TypeCode.dateTime then do .ok (result.setString name (dateToString (← value.toLong)))
    else if value.type = TypeCode.dateTimeExtended then do .ok (result.setInt64 name (← value.toLong))
    else if value.type = TypeCode.boolean then do .ok (result.setBool name (← value.toBool))
    else if value.type = TypeCode.byteString ∨ value.type = TypeCode.bigInteger then do
      .ok (result.setString name (.ofText (bytesToHex (← value.toBytes))))
    else if value.type = TypeCode.interval then do
      .ok (result.setInt64 name (Int64.ofNat (← value.toInterval).toNat))
    else if value.type = TypeCode.struct then
      match value.getChild Tag.nameValue with
      | some nameValue => do .ok (result.setString name (← nameValue.toString))
      | none => .ok (result.setString name (.ofText "<STRUCTURE>"))
    else .ok result

/-- The default branch of `parse_v2_typed_attribute`: a tag without a mapping is kept under its code. -/
def storeUnmapped (result : Attributes) (elem : Element) : Except Abort Attributes :=
  let name := genericNameForTag elem.tag
  if elem.type = TypeCode.textString then do .ok (result.setString name (← elem.toString))
  else if elem.type = TypeCode.integer then do .ok (result.setInt32 name (← elem.toInt))
  else if elem.type = TypeCode.enumeration then do .ok (result.setInt32 name (← elem.toEnum))
  else if elem.type = TypeCode.longInteger ∨ elem.type = TypeCode.dateTime ∨
      elem.type = TypeCode.dateTimeExtended then do
    .ok (result.setInt64 name (← elem.toLong))
  else if elem.type = TypeCode.boolean then do .ok (result.setBool name (← elem.toBool))
  else if elem.type = TypeCode.byteString ∨ elem.type = TypeCode.bigInteger then do
    .ok (result.setString name (.ofText (bytesToHex (← elem.toBytes))))
  else if elem.type = TypeCode.interval then do
    .ok (result.setInt64 name (Int64.ofNat (← elem.toInterval).toNat))
  else if elem.type = TypeCode.struct then .ok (result.setString name (.ofText "<STRUCTURE>"))
  else .ok result

/-- A date of `parse_v2_typed_attribute`. -/
def setDate (result : Attributes) (name : Bytes) (elem : Element) : Except Abort Attributes := do
  .ok (result.setString name (dateToString (← elem.toLong)))

def parseV2TypedAttribute (result : Attributes) (elem : Element) : Except Abort Attributes :=
  if elem.tag = Tag.cryptographicAlgorithm then do
    .ok (result.setAlgorithm (← checkedCryptographicAlgorithm (← elem.toEnum)))
  else if elem.tag = Tag.cryptographicLength then do .ok (result.setCryptoLength (← elem.toInt))
  else if elem.tag = Tag.cryptographicUsageMask then do
    .ok (result.setUsageMask (← checkedCryptographicUsageMask (← elem.toInt)))
  else if elem.tag = Tag.state then do .ok (result.setState (← checkedState (← elem.toEnum)))
  else if elem.tag = Tag.name then
    match elem.getChild Tag.nameValue with
    | some nameValue => do .ok (result.setString kmipAttrNameName (← nameValue.toString))
    | none => .ok result
  else if elem.tag = Tag.objectGroup then do .ok (result.setString kmipAttrNameGroup (← elem.toString))
  else if elem.tag = Tag.uniqueIdentifier then do
    .ok (result.setString kmipAttrNameUniqueIdentifier (← elem.toString))
  else if elem.tag = Tag.activationDate then setDate dateToString result kmipAttrNameActivationDate elem
  else if elem.tag = Tag.deactivationDate then setDate dateToString result kmipAttrNameDeactivationDate elem
  else if elem.tag = Tag.processStartDate then setDate dateToString result kmipAttrNameProcessStartDate elem
  else if elem.tag = Tag.protectStopDate then setDate dateToString result kmipAttrNameProtectStopDate elem
  else storeUnmapped result elem

/-- The value of a well-known attribute, if the structure has one. -/
def setTyped (result : Attributes) (value : Option Element) (set : Element → Except Abort Attributes) :
    Except Abort Attributes :=
  match value with
  | some value => set value
  | none => .ok result

/-- One Attribute structure of KMIP 1.x. Without a name it is skipped. -/
def parseAttribute (result : Attributes) (elem : Element) : Except Abort Attributes :=
  match elem.getChild Tag.attributeName with
  | none => .ok result
  | some nameElem => do
    let rawName ← nameElem.toString
    let value := elem.getChild Tag.attributeValue
    if rawName = .ofText "Cryptographic Algorithm" then
      setTyped result value fun value => do
        .ok (result.setAlgorithm (← checkedCryptographicAlgorithm (← value.toEnum)))
    else if rawName = .ofText "Cryptographic Length" then
      setTyped result value fun value => do .ok (result.setCryptoLength (← value.toInt))
    else if rawName = .ofText "Cryptographic Usage Mask" then
      setTyped result value fun value => do
        .ok (result.setUsageMask (← checkedCryptographicUsageMask (← value.toInt)))
    else if rawName = .ofText "State" then
      setTyped result value fun value => do .ok (result.setState (← checkedState (← value.toEnum)))
    else
      let name := if rawName = .ofText "UniqueID" then kmipAttrNameUniqueIdentifier else rawName
      storeGeneric dateToString result name value

/-- One step of the loop of `parse`. -/
def parseElement (result : Attributes) (elem : Element) : Except Abort Attributes :=
  if elem.tag = Tag.attributeTag then parseAttribute dateToString result elem
  else parseV2TypedAttribute dateToString result elem

def parse (attributes : List Element) : Except Abort Attributes :=
  attributes.foldlM (parseElement dateToString) {}

end Parse

end Kmip.AttributesParser
