import Kmip.Core.Attributes

/-!
# Managed objects

A `Key` or a `Secret` is a byte string with its type and an attribute bag.
-/

namespace Kmip

inductive KeyType where
  | unset
  | symmetricKey
  | publicKey
  | privateKey
  | certificate
deriving DecidableEq, Repr

/-- `Key`. Without a key format the value is in the default format of its type. -/
structure Key where
  value : Bytes := Bytes.empty
  type : KeyType := .unset
  attributes : Attributes := {}
  keyFormat : Option Int32 := none

structure Secret where
  value : Bytes := Bytes.empty
  secretType : SecretDataType := SecretDataType.password
  attributes : Attributes := {}

end Kmip
