import Kmip.Core.Errors
import Kmip.Lib.BigEndian
import Kmip.Lib.Radix
import Kmip.Lib.Traced

/-!
# `kmiputil::encoding`: hexadecimal and Base64

Texts are lists of bytes. `fromBase64` collects the bits of the characters in a 32-bit `int` that wraps around;
`toBase64` encodes three bytes at a time.
-/

namespace Kmip.Util

/-- The characters of a literal. -/
def chars (text : String) : List UInt8 := text.toList.map Char.toUInt8

/-! ## Hexadecimal -/

/-- `kHexDigits`. -/
def kHexDigits : List UInt8 := chars "0123456789abcdef"

def hexValue (c : UInt8) : Except Abort UInt8 :=
  if 48 ≤ c ∧ c ≤ 57 then .ok (c - 48)
  else if 65 ≤ c ∧ c ≤ 70 then .ok (c - 65 + 10)
  else if 97 ≤ c ∧ c ≤ 102 then .ok (c - 97 + 10)
  else .error (.message "Invalid hex character.")

/-- The loop of `from_hex`. -/
def hexLoop : List UInt8 → Except Abort (List UInt8)
  | high :: low :: rest => do
    let h ← hexValue high
    let l ← hexValue low
    let bytes ← hexLoop rest
    pure ((h * 16 + l) :: bytes)
  | _ => .ok []

def fromHex (hex : List UInt8) : Except Abort (List UInt8) :=
  if hex.isEmpty ∨ hex.length % 2 ≠ 0 then .error (.message "Invalid hex string length.")
  else hexLoop hex

def toHex (bytes : List UInt8) : List UInt8 :=
  bytes.flatMap (fun (b : UInt8) => [kHexDigits.getD (b >>> 4).toNat 0, kHexDigits.getD (b &&& 0x0F).toNat 0])

/-! ## Base64 -/

/-- `kBase64Alphabet`. -/
def kBase64Alphabet : List UInt8 := chars "ABCDEFGHIJKLMNOPQRSTUVWXYZabcdefghijklmnopqrstuvwxyz0123456789+/"

/-- A blank, tab, carriage return or line feed. -/
def isBase64Whitespace (c : UInt8) : Bool := c == 32 || c == 9 || c == 13 || c == 10

/-- The padding character `=`. -/
def base64Pad : UInt8 := 61

/-- The table `lookup`: the place in the alphabet, or `-1`. -/
def base64Lookup (c : UInt8) : Int32 :=
  match kBase64Alphabet.idxOf? c with
  | some i => Int32.ofNat i
  | none => -1

/-- The variables of the loop of `from_base64`. -/
structure Base64Decoder where
  out : List UInt8 := []
  val : Int32 := 0
  valB : Int := -8
  symbols : Nat := 0
  padding : Nat := 0

/-- The body of the loop: one character. -/
def Base64Decoder.read (s : Base64Decoder) (c : UInt8) : Except Abort Base64Decoder :=
  if isBase64Whitespace c then .ok s
  else if c = base64Pad then .ok { s with symbols := s.symbols + 1, padding := s.padding + 1 }
  else if base64Lookup c = -1 then .error (.message "Invalid Base64 character.")
  else if s.padding > 0 then .error (.message "Invalid Base64: data after padding.")
  else
    let val := (s.val <<< 6) + base64Lookup c
    let valB := s.valB + 6
    if valB ≥ 0 then
      .ok { s with
        out := s.out ++ [((val >>> Int32.ofInt valB) &&& 0xFF).toUInt32.toUInt8]
        val := val
        valB := valB - 8
        symbols := s.symbols + 1 }
    else .ok { s with val := val, valB := valB, symbols := s.symbols + 1 }

def fromBase64 (base64 : List UInt8) : Except Abort (List UInt8) := do
  let s ← base64.foldlM Base64Decoder.read {}
  if s.symbols % 4 ≠ 0 ∨ s.padding > 2 then .error (.message "Invalid Base64 length or padding.")
  else
    let unusedBits := s.valB + 8
    if unusedBits > 0 ∧ (s.val &&& ((1 <<< Int32.ofInt unusedBits) - 1)) ≠ 0 then
      .error (.message "Non-canonical Base64 padding bits.")
    else .ok s.out

/-- `kBase64Alphabet[(n >> shift) & 0x3F]`. -/
def base64Char (n shift : UInt32) : UInt8 := kBase64Alphabet.getD ((n >>> shift) &&& 0x3F).toNat 0

def toBase64 : List UInt8 → List UInt8
  | b₀ :: b₁ :: b₂ :: rest =>
    let n := (b₀.toUInt32 <<< 16) ||| (b₁.toUInt32 <<< 8) ||| b₂.toUInt32
    base64Char n 18 :: base64Char n 12 :: base64Char n 6 :: base64Char n 0 :: toBase64 rest
  | [b₀, b₁] =>
    let n := (b₀.toUInt32 <<< 16) ||| (b₁.toUInt32 <<< 8)
    [base64Char n 18, base64Char n 12, base64Char n 6, base64Pad]
  | [b₀] =>
    let n := b₀.toUInt32 <<< 16
    [base64Char n 18, base64Char n 12, base64Pad, base64Pad]
  | [] => []

end Kmip.Util
