import Kmip.Core.Text
import Mathlib.Data.List.AList

/-!
# The attribute bag

`Attributes` keeps four well-known attributes in typed fields and all the others in a generic map. The `set` overloads
route the names of the four to their fields. The map is unordered in the source; here it is an association list in some
order of iteration.
-/

namespace Kmip

/-! ## Attribute names -/

def kmipAttrNameName : Bytes := .ofText "Name"
def kmipAttrNameGroup : Bytes := .ofText "Object Group"
def kmipAttrNameState : Bytes := .ofText "State"
def kmipAttrNameUniqueIdentifier : Bytes := .ofText "Unique Identifier"
def kmipAttrNameUniqueIdentifierAlt : Bytes := .ofText "UniqueID"
def kmipAttrNameActivationDate : Bytes := .ofText "Activation Date"
def kmipAttrNameProcessStartDate : Bytes := .ofText "Process Start Date"
def kmipAttrNameProtectStopDate : Bytes := .ofText "Protect Stop Date"
def kmipAttrNameDeactivationDate : Bytes := .ofText "Deactivation Date"
def kmipAttrNameCryptoAlg : Bytes := .ofText "Cryptographic Algorithm"
def kmipAttrNameCryptoLen : Bytes := .ofText "Cryptographic Length"
def kmipAttrNameCryptoUsageMask : Bytes := .ofText "Cryptographic Usage Mask"
def kmipAttrNameOperationPolicyName : Bytes := .ofText "Operation Policy Name"

/-! ## Numbers and names in string values -/

/-- `strtol(s, &end, 10)` when it succeeds and consumes the whole C string: blanks, a sign, digits, and a value that
fits `long`. -/
def strtol (s : Bytes) : Option Int64 :=
  let isSpace (c : UInt8) : Bool := c == 32 || (9 ≤ c && c ≤ 13)
  -- the C string ends at the first zero byte
  let body := (s.bytes.takeWhile (· ≠ 0)).dropWhile isSpace
  let (negative, digits) := match body with
    | 45 :: rest => (true, rest)
    | 43 :: rest => (false, rest)
    | rest => (false, rest)
  if digits.isEmpty || !digits.all (fun c => 48 ≤ c && c ≤ 57) then none
  else
    let magnitude : Int := digits.foldl (fun n c => 10 * n + (c.toNat - 48)) 0
    let value := if negative then -magnitude else magnitude
    if value < -2 ^ 63 ∨ 2 ^ 63 ≤ value then none else some (Int64.ofInt value)

/-- The names that `parse_algorithm_string` knows. -/
def algorithmNames : List (Bytes × CryptographicAlgorithm) :=
  [(.ofText "AES", .aes), (.ofText "RSA", .rsa), (.ofText "DSA", .dsa), (.ofText "ECDSA", .ecdsa),
    (.ofText "DES", .des), (.ofText "3DES", .tripleDes), (.ofText "DH", .dh), (.ofText "ECDH", .ecdh),
    (.ofText "HMAC-SHA1", .hmacSha1), (.ofText "HMAC-SHA224", .hmacSha224), (.ofText "HMAC-SHA256", .hmacSha256),
    (.ofText "HMAC-SHA384", .hmacSha384), (.ofText "HMAC-SHA512", .hmacSha512), (.ofText "HMAC-MD5", .hmacMd5)]

def parseAlgorithmString (s : Bytes) : Option CryptographicAlgorithm :=
  (algorithmNames.lookup s).or ((strtol s).map (·.toUInt64.toUInt32))

/-- The names that `parse_state_string` knows, after `KMIP_STATE_`. -/
def stateNames : List (Bytes × ObjectState) :=
  [(.ofText "PRE_ACTIVE", .preActive), (.ofText "ACTIVE", .active), (.ofText "DEACTIVATED", .deactivated),
    (.ofText "COMPROMISED", .compromised), (.ofText "DESTROYED", .destroyed),
    (.ofText "DESTROYED_COMPROMISED", .destroyedCompromised)]

def parseStateString (s : Bytes) : Option ObjectState :=
  let start := Bytes.ofText "KMIP_STATE_"
  stateNames.lookup (if start.bytes.isPrefixOf s.bytes then s.subspan start.size s.size else s)

/-! ## The bag -/

/-- `Attributes::AttributeValue`. -/
inductive AttributeValue where
  | string (value : Bytes)
  | int32 (value : Int32)
  | int64 (value : Int64)
  | bool (value : Bool)
deriving DecidableEq

/-- `std::to_string`, `"true"` or `"false"`, or the string itself. -/
def AttributeValue.toText : AttributeValue → Bytes
  | .string value => value
  | .int32 value => .ofText (Int.repr value.toInt)
  | .int64 value => .ofText (Int.repr value.toInt)
  | .bool value => .ofText (if value then "true" else "false")

structure Attributes where
  algo : Option CryptographicAlgorithm := none
  cryptoLength : Option Int32 := none
  usageMask : Option CryptographicUsageMask := none
  state : Option ObjectState := none
  generic : AList (fun _ : Bytes => AttributeValue) := ∅

namespace Attributes

/-- `algorithm()`: `KMIP_CRYPTOALG_UNSET` when absent. -/
def algorithm (a : Attributes) : CryptographicAlgorithm := a.algo.getD .unset

/-- `usage_mask()`: `KMIP_CRYPTOMASK_UNSET` when absent. -/
def usageMaskOrUnset (a : Attributes) : CryptographicUsageMask := a.usageMask.getD .unset

def setAlgorithm (a : Attributes) (alg : CryptographicAlgorithm) : Attributes :=
  { a with algo := if alg = .unset then none else some alg }

def setCryptoLength (a : Attributes) (len : Int32) : Attributes := { a with cryptoLength := some len }

def setUsageMask (a : Attributes) (mask : CryptographicUsageMask) : Attributes :=
  { a with usageMask := if mask = .unset then none else some mask }

def setState (a : Attributes) (st : ObjectState) : Attributes := { a with state := some st }

/-- `generic_[name] = value`. -/
def setGeneric (a : Attributes) (name : Bytes) (value : AttributeValue) : Attributes :=
  { a with generic := a.generic.insert name value }

/-- `set(name, std::string)`. A well-known name whose value does not parse changes nothing. -/
def setString (a : Attributes) (name value : Bytes) : Attributes :=
  if name = kmipAttrNameCryptoAlg then
    match parseAlgorithmString value with
    | some parsed => { a with algo := some parsed }
    | none => a
  else if name = kmipAttrNameCryptoLen then
    match strtol value with
    | some v => { a with cryptoLength := some v.toInt32 }
    | none => a
  else if name = kmipAttrNameCryptoUsageMask then
    match strtol value with
    | some v =>
      let mask : CryptographicUsageMask := v.toUInt64.toUInt32
      if mask ≠ .unset then { a with usageMask := some mask } else a
    | none => a
  else if name = kmipAttrNameState then
    match parseStateString value with
    | some parsed => { a with state := some parsed }
    | none => a
  else a.setGeneric name (.string value)

/-- `set(name, int32_t)`. -/
def setInt32 (a : Attributes) (name : Bytes) (value : Int32) : Attributes :=
  if name = kmipAttrNameCryptoLen then { a with cryptoLength := some value }
  else if name = kmipAttrNameCryptoUsageMask then
    if value.toUInt32 ≠ CryptographicUsageMask.unset then { a with usageMask := some value.toUInt32 } else a
  else if name = kmipAttrNameCryptoAlg then
    if value.toUInt32 ≠ CryptographicAlgorithm.unset then { a with algo := some value.toUInt32 } else a
  else if name = kmipAttrNameState then { a with state := some value.toUInt32 }
  else a.setGeneric name (.int32 value)

/-- `set(name, int64_t)`. -/
def setInt64 (a : Attributes) (name : Bytes) (value : Int64) : Attributes := a.setGeneric name (.int64 value)

/-- `set(name, bool)`. -/
def setBool (a : Attributes) (name : Bytes) (value : Bool) : Attributes := a.setGeneric name (.bool value)

/-- `set(name, const char *)`: a null pointer stores an empty string. -/
def setCString (a : Attributes) (name : Bytes) (value : Option Bytes) : Attributes :=
  a.setString name (value.getD Bytes.empty)

def clearCryptoLength (a : Attributes) : Attributes := { a with cryptoLength := none }

/-- `remove(name)`: generic attributes only. -/
def remove (a : Attributes) (name : Bytes) : Attributes := { a with generic := a.generic.erase name }

def hasAttribute (a : Attributes) (name : Bytes) : Bool :=
  if name = kmipAttrNameCryptoAlg then a.algo.isSome
  else if name = kmipAttrNameCryptoLen then a.cryptoLength.isSome
  else if name = kmipAttrNameCryptoUsageMask then a.usageMask.isSome
  else if name = kmipAttrNameState then a.state.isSome
  else name ∈ a.generic

/-- `get(name)`: the value of a generic attribute that holds a string. -/
def get (a : Attributes) (name : Bytes) : Bytes :=
  match a.generic.lookup name with
  | some (.string value) => value
  | _ => Bytes.empty

/-- `object_state()`: `KMIP_STATE_PRE_ACTIVE` when absent. -/
def objectState (a : Attributes) : ObjectState := a.state.getD .preActive

/-- The entries of `other` replace those of `a`. -/
def merge (a other : Attributes) : Attributes where
  algo := other.algo.or a.algo
  cryptoLength := other.cryptoLength.or a.cryptoLength
  usageMask := other.usageMask.or a.usageMask
  state := other.state.or a.state
  generic := other.generic.entries.foldl (fun generic entry => generic.insert entry.1 entry.2) a.generic

end Attributes

end Kmip
