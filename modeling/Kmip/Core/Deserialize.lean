import Kmip.Core.Ttlv
import Kmip.Lib.Slice

/-!
# `Element::deserialize`

The decoder reads from a span at an offset. It is modelled as a `Traced` computation whose log holds every access to a
span, `data[i]` or `subspan(off, n)`, with the size of the span it is applied to: the result says what is decoded, the
log which accesses were made on the way.

* `readHeader`, `readValue` and `validateZeroPadding` are the parts of `deserialize_impl` on one node.
* `readPrimitive` and `readStructure` are its two branches, `structLoop` is the loop over the body of a structure, and
  `deserializeImpl` recurses on the nesting levels that are left.

Sums of `size_t` wrap around; a span has less than `2 ^ 63` bytes, so that none of those made here does.
-/

namespace Kmip

open BigEndian
open SerializationBuffer (padding length_padding)

/-- An access to a span of the given size. -/
inductive Access where
  | index (i size : Nat)
  | subspan (off n size : Nat)
deriving DecidableEq, Repr

/-- The access stays inside its span. -/
def Access.InBounds : Access → Prop
  | .index i size => i < size
  | .subspan off n size => off + n ≤ size

instance : DecidablePred Access.InBounds
  | .index i size => inferInstanceAs (Decidable (i < size))
  | .subspan off n size => inferInstanceAs (Decidable (off + n ≤ size))

/-- A decoding step: its result and the accesses it makes. -/
abbrev Decode := Traced Abort Access

/-- `throw KmipException(message)`. -/
def Decode.throw {α : Type} (message : String) : Decode α := .raise (.message message)

namespace Bytes

/-- `&data[i]`: the access is made, no byte is read. -/
def addressOf (data : Bytes) (i : Nat) : Decode Unit := .emit (.index i data.size)

/-- `data[i]`. -/
def read (data : Bytes) (i : Nat) : Decode UInt8 := do
  data.addressOf i
  pure (data.bytes.getD i 0)

/-- `data.subspan(off, n)`, as an access. -/
def view (data : Bytes) (off n : Nat) : Decode Bytes := do
  Traced.emit (.subspan off n data.size)
  pure (data.subspan off n)

end Bytes

/-! ## One node -/

def readBeU32 (data : Bytes) (off : Nat) : Decode UInt32 := do
  let b₀ ← data.read off
  let b₁ ← data.read (off + 1)
  let b₂ ← data.read (off + 2)
  let b₃ ← data.read (off + 3)
  pure ((b₀.toUInt32 <<< 24) ||| (b₁.toUInt32 <<< 16) ||| (b₂.toUInt32 <<< 8) ||| b₃.toUInt32)

def readBeU64 (data : Bytes) (off : Nat) : Decode UInt64 := do
  let b₀ ← data.read off
  let b₁ ← data.read (off + 1)
  let b₂ ← data.read (off + 2)
  let b₃ ← data.read (off + 3)
  let b₄ ← data.read (off + 4)
  let b₅ ← data.read (off + 5)
  let b₆ ← data.read (off + 6)
  let b₇ ← data.read (off + 7)
  pure ((b₀.toUInt64 <<< 56) ||| (b₁.toUInt64 <<< 48) ||| (b₂.toUInt64 <<< 40) ||| (b₃.toUInt64 <<< 32) |||
    (b₄.toUInt64 <<< 24) ||| (b₅.toUInt64 <<< 16) ||| (b₆.toUInt64 <<< 8) ||| b₇.toUInt64)

/-- `n` bytes from `i` on are zero. -/
def zeroLoop (data : Bytes) : Nat → Nat → Decode Unit
  | _, 0 => pure ()
  | i, n + 1 => do
    let b ← data.read i
    if b ≠ 0 then Decode.throw "Invalid TTLV padding: non-zero padding byte found" else zeroLoop data (i + 1) n

def validateZeroPadding (data : Bytes) (valueOffset valueLength paddedLength : Nat) : Decode Unit :=
  zeroLoop data (valueOffset + valueLength) (paddedLength - valueLength)

/-- Tag, type and length of the node at `offset`. -/
def readHeader (data : Bytes) (offset : Nat) : Decode (Tag × TypeCode × UInt32) := do
  let t₀ ← data.read offset
  let t₁ ← data.read (offset + 1)
  let t₂ ← data.read (offset + 2)
  let type ← data.read (offset + 3)
  let length ← readBeU32 data (offset + 4)
  pure ((t₀.toUInt32 <<< 16) ||| (t₁.toUInt32 <<< 8) ||| t₂.toUInt32, type.toUInt32, length)

/-- A value of exactly four bytes. -/
def readFixed32 (message : String) (mk : UInt32 → Value Element) (data : Bytes) (offset length : Nat) :
    Decode (Value Element) :=
  if length ≠ 4 then Decode.throw message
  else do
    let raw ← readBeU32 data offset
    pure (mk raw)

/-- A value of exactly eight bytes. -/
def readFixed64 (message : String) (mk : UInt64 → Value Element) (data : Bytes) (offset length : Nat) :
    Decode (Value Element) :=
  if length ≠ 8 then Decode.throw message
  else do
    let raw ← readBeU64 data offset
    pure (mk raw)

/-- A Boolean: eight bytes that spell zero or one. -/
def readBoolean (data : Bytes) (offset length : Nat) : Decode (Value Element) :=
  if length ≠ 8 then Decode.throw "Invalid length for Boolean"
  else do
    let raw ← readBeU64 data offset
    if raw ≠ 0 ∧ raw ≠ 1 then Decode.throw "Non-canonical Boolean TTLV value" else pure (.boolean (raw == 1))

/-- The `switch` on the type of a primitive. -/
def readValue (type : TypeCode) (data : Bytes) (offset length : Nat) : Decode (Value Element) :=
  if type = TypeCode.integer then
    readFixed32 "Invalid length for Integer" (fun raw => .integer raw.toInt32) data offset length
  else if type = TypeCode.longInteger then
    readFixed64 "Invalid length for Long Integer" (fun raw => .longInteger raw.toInt64) data offset length
  else if type = TypeCode.boolean then readBoolean data offset length
  else if type = TypeCode.enumeration then
    readFixed32 "Invalid length for Enumeration" (fun raw => .enumeration raw.toInt32) data offset length
  else if type = TypeCode.textString then do
    -- `std::string(&data[offset], length)`
    data.addressOf offset
    pure (.textString (data.subspan offset length))
  else if type = TypeCode.byteString then do
    let v ← data.view offset length
    pure (.byteString v)
  else if type = TypeCode.dateTime then
    readFixed64 "Invalid length for DateTime" (fun raw => .dateTime raw.toInt64) data offset length
  else if type = TypeCode.interval then
    readFixed32 "Invalid length for Interval" .interval data offset length
  else if type = TypeCode.bigInteger then do
    let v ← data.view offset length
    pure (.bigInteger v)
  else if type = TypeCode.dateTimeExtended then
    readFixed64 "Invalid length for DateTimeExtended" (fun raw => .dateTimeExtended raw.toInt64) data offset length
  else Decode.throw ("Unknown type " ++ toString type.toNat)

/-! ## Trees -/

/-- The loop over the body of a structure. `child` decodes one child of the narrowed view; each child consumes at least
its header, so that `length + 1` tests end the loop. -/
def structLoop (child : Nat → Decode (Element × Nat)) (length : Nat) :
    Nat → Nat → Nat → List Element → Decode (List Element × Nat)
  | 0, _, _, _ => .raise .diverged
  | fuel + 1, offset, currentStructOffset, items =>
    if currentStructOffset < length then do
      let (item, itemOffset) ← child offset
      structLoop child length fuel itemOffset (currentStructOffset + (itemOffset - offset)) (items ++ [item])
    else pure (items, offset)

/-- The length of a value with its padding. -/
def paddedLength (type : TypeCode) (length : Nat) : Nat :=
  if length % 8 ≠ 0 ∧ type ≠ TypeCode.struct then length + (8 - length % 8) else length

/-- The branch of `deserialize_impl` for a structure, from the end of its header on. -/
def readStructure (child : Bytes → Nat → Decode (Element × Nat)) (tag : Tag) (data : Bytes) (offset length : Nat) :
    Decode (Element × Nat) :=
  if sizeAdd offset length > data.size then Decode.throw "Buffer too short for structure body"
  else do
    let structView ← data.view 0 (offset + length)
    let (items, offset) ← structLoop (child structView) length (length + 1) offset 0 []
    pure (⟨tag, TypeCode.struct, .struct items⟩, offset)

/-- The branch of `deserialize_impl` for the other types. -/
def readPrimitive (tag : Tag) (type : TypeCode) (data : Bytes) (offset length : Nat) : Decode (Element × Nat) :=
  if sizeAdd offset (paddedLength type length) > data.size then Decode.throw "Buffer too short for value"
  else do
    let value ← readValue type data offset length
    validateZeroPadding data offset length (paddedLength type length)
    pure (⟨tag, type, value⟩, offset + paddedLength type length)

/-- `deserialize_impl` at depth `KMIP_MAX_STRUCTURE_DEPTH + 1 - levels`: `levels` counts the nesting levels that are
left, and the depth exceeds the limit when there is none. -/
def deserializeImpl : Nat → Bytes → Nat → Decode (Element × Nat)
  | 0, _, _ => Decode.throw "TTLV structure nesting depth exceeds limit"
  | levels + 1, data, offset =>
    if sizeAdd offset 8 > data.size then Decode.throw "Buffer too short for header"
    else do
      let (tag, type, length) ← readHeader data offset
      if type = TypeCode.struct then readStructure (deserializeImpl levels) tag data (offset + 8) length.toNat
      else readPrimitive tag type data (offset + 8) length.toNat

/-- `Element::deserialize`: the tree at `offset` and the offset after it. -/
def Element.deserialize (data : Bytes) (offset : Nat) : Decode (Element × Nat) :=
  deserializeImpl (kmipMaxStructureDepth + 1) data offset

end Kmip
