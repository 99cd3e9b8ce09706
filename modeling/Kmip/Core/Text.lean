import Kmip.Core.Basics

/-!
# Texts

A `std::string` is a sequence of bytes. As a value of an attribute or an element it is `Bytes`. The text that the
formatter builds is a `String` with one character for each byte.
-/

namespace Kmip

/-- The text with these bytes. -/
def textOf (bytes : List UInt8) : String := String.ofList (bytes.map (fun b => Char.ofNat b.toNat))

/-- The bytes of a text. A `std::string` cannot be longer than the bound; no text here is. -/
def Bytes.ofText (text : String) : Bytes :=
  ⟨(text.toList.map (fun c => UInt8.ofNat c.toNat)).take (2 ^ 63 - 1), by
    rw [List.length_take]
    omega⟩

/-- `std::uppercase << std::hex << std::setfill('0') << std::setw(width)`. -/
def hex (width n : Nat) : String :=
  let digits := (Nat.toDigits 16 n).map Char.toUpper
  String.ofList (List.replicate (width - digits.length) '0' ++ digits)

/-- The bytes in hexadecimal, with a blank between two of them (`bytes_to_hex`, `format_bytes_hex`). -/
def bytesToHex (bytes : Bytes) : String := " ".intercalate (bytes.bytes.map (fun b => hex 2 b.toNat))

end Kmip
