import Mathlib.Algebra.Group.Nat.Defs

/-!
# Exceptions and machine sizes

`KmipException` carries a numeric code and a message; `KmipIOException` is the class that the transport layer throws
and that `doExchange` catches. A computation of the model ends with a value, with a thrown exception, or not at all
(`Abort.diverged`: a loop of the source that never ends).
-/

namespace Kmip

/-- The exception classes of the library: `KmipIOException` derives from `KmipException`. -/
inductive ExceptionClass where
  | kmipException
  | kmipIOException
deriving DecidableEq, Repr

/-- A thrown exception: its class, its `code()` and its message. -/
structure KmipException where
  cls : ExceptionClass
  code : Int
  message : String
deriving DecidableEq, Repr

/-- `KMIP_REASON_GENERAL_FAILURE`, the code of an exception that is made from a message only. -/
def kmipReasonGeneralFailure : Int := 0x0100

/-- `KmipException(msg)`. -/
def KmipException.ofMessage (message : String) : KmipException :=
  ⟨.kmipException, kmipReasonGeneralFailure, message⟩

/-- How a computation ends without a value. -/
inductive Abort where
  | thrown (e : KmipException)
  | diverged
deriving DecidableEq, Repr

/-- `throw KmipException(msg)`. -/
def Abort.message (message : String) : Abort := .thrown (.ofMessage message)

/-- `throw KmipException(code, msg)`. -/
def Abort.coded (code : Int) (message : String) : Abort := .thrown ⟨.kmipException, code, message⟩

/-! ## `size_t` -/

/-- The number of values of the 64-bit `size_t`. -/
def sizeMod : Nat := 2 ^ 64

/-- Addition of `size_t` values wraps around. -/
def sizeAdd (a b : Nat) : Nat := (a + b) % sizeMod

/-- Multiplication of `size_t` values wraps around. -/
def sizeMul (a b : Nat) : Nat := (a * b) % sizeMod

/-- Subtraction of `size_t` values wraps around below zero. -/
def sizeSub (a b : Nat) : Nat := if b ≤ a then a - b else a + sizeMod - b

theorem sizeAdd_of_lt {a b : Nat} (h : a + b < 2 ^ 64) : sizeAdd a b = a + b := Nat.mod_eq_of_lt h

theorem sizeSub_of_le {a b : Nat} (h : b ≤ a) : sizeSub a b = a - b := if_pos h

end Kmip
