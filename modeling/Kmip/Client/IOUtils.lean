import Kmip.Core.Enums
import Kmip.Lib.Hoare
import Kmip.Lib.Window

/-!
# `IOUtils` and its transport

An exchange sends a request and receives one framed message: an 8-byte header, whose last four bytes are the length of
the rest, and the rest. It uses three methods of its `NetClient` and is written over any `Transport` that has them.

`doExchange` is the exchange over a transport that behaves as `NetClientOpenSSL` does: it accepts and delivers bytes in
pieces of any positive size up to what was asked for, fails or throws at any point, and opens a new connection when it
is used after `close()`. What it does is fixed in advance by an `Environment`: what the peer sends on each connection,
and how each operation ends. All results are for every environment.
-/

namespace Kmip.Client.IOUtils

/-- How an operation of the transport ends: with at most `k + 1` bytes, with a result that is not positive, or with a
`KmipIOException`. -/
inductive Outcome where
  | chunk (k : Nat)
  | fails (n : Nat)
  | throws (message : String)

/-- What the peer sends on each connection, and how the operations of the transport end. -/
structure Environment where
  peer : Nat → Nat → UInt8
  schedule : Nat → Outcome

/-- The transport and the caller's `response_bytes`. `connection` counts the connections that were opened; `position`
and `sent` are what was read and written on the current one. -/
structure State where
  connected : Bool := false
  connection : Nat := 0
  position : Nat := 0
  sent : List UInt8 := []
  operations : Nat := 0
  responseBytes : List UInt8 := []

/-- A part of an exchange. -/
abbrev Exchange (α : Type) := EStateM Abort State α

/-- `KmipIOException(code, message)`. -/
def failure (code : Int) (message : String) : Abort := .thrown ⟨.kmipIOException, code, message⟩

/-! ## The transport -/

section Transport

variable (env : Environment)

/-- The next operation. -/
def operate : Exchange Outcome := fun s =>
  .ok (env.schedule s.operations) { s with operations := s.operations + 1 }

def connect : Exchange Bool := do
  match ← operate env with
  | .chunk _ =>
    modify (fun s => { s with connected := true, connection := s.connection + 1, position := 0, sent := [] })
    pure true
  | .fails _ => pure false
  | .throws message => throw (failure kmipIoFailure message)

def checkConnected : Exchange Bool := fun s =>
  if s.connected then .ok true s else connect env s

/-- `NetClientOpenSSL::close()`. -/
def close : Exchange Unit := modify (fun s => { s with connected := false })

/-- `NetClientOpenSSL::send(data)`. -/
def netSend (data : List UInt8) : Exchange Int := do
  if ← checkConnected env then
    match ← operate env with
    | .chunk k =>
      let n := min (k + 1) data.length
      modify (fun s => { s with sent := s.sent ++ data.take n })
      pure n
    | .fails n => pure (-n)
    | .throws message => throw (failure kmipIoFailure message)
  else pure (-1)

/-- `NetClientOpenSSL::recv(data)` for a buffer of `size` bytes: the result and the bytes that were written. -/
def netRecv (size : Nat) : Exchange (Int × List UInt8) := do
  if ← checkConnected env then
    match ← operate env with
    | .chunk k =>
      let n := min (k + 1) size
      let s ← get
      set { s with position := s.position + n }
      pure (n, window (env.peer s.connection) s.position n)
    | .fails n => pure (-n, [])
    | .throws message => throw (failure kmipIoFailure message)
  else pure (-1, [])

end Transport

/-! ## The exchange -/

/-- `KMIP_MSG_LENGTH_BYTES`. -/
def kmipMsgLengthBytes : Nat := 8

/-- The four bytes of a length. -/
def readInt32Be (b₀ b₁ b₂ b₃ : UInt8) : Int32 :=
  ((b₀.toUInt32 <<< 24) ||| (b₁.toUInt32 <<< 16) ||| (b₂.toUInt32 <<< 8) ||| b₃.toUInt32).toInt32

/-- `static_cast<int>(size)`. Left folded, or the reduction of an open `send` counts down from 2³². -/
@[irreducible] def staticCastInt (size : Nat) : Int := (size : Int).bmod (2 ^ 32)

/-- The largest length that is accepted. -/
def effectiveLimit (maxMessageSize : Nat) : Nat := min maxMessageSize kmipMaxMessageHardLimit

/-- The exception for a length that is negative or too large. -/
def tooLong (length : Int32) (maxMessageSize : Nat) : Abort :=
  failure kmipExceedMaxMessageSize ("Message too long. Length: " ++ toString length.toInt ++ ", allowed: " ++
    toString (effectiveLimit maxMessageSize))

/-- The length field of a header. -/
def headerLength (header : List UInt8) : Int32 :=
  readInt32Be (header.getD 4 0) (header.getD 5 0) (header.getD 6 0) (header.getD 7 0)

/-- What `IOUtils` uses of a `NetClient`. -/
structure Transport (m : Type → Type) where
  send : List UInt8 → m Int
  recv : Nat → m (Int × List UInt8)
  close : m Unit

namespace Transport

variable {m : Type → Type} [Monad m] [MonadExceptOf Abort m] (t : Transport m)

/-- The loop of `send`. Every iteration sends a byte or throws, so that `dlen` iterations are enough. -/
def sendLoop (request : List UInt8) (dlen : Nat) : Nat → Nat → m Unit
  | 0, totalSent => if totalSent < dlen then throw .diverged else pure ()
  | fuel + 1, totalSent =>
    if totalSent < dlen then do
      let sent ← t.send (request.drop totalSent)
      if sent ≤ 0 then
        throw (failure kmipIoFailure ("Can not send request. Bytes total: " ++ toString dlen ++ ", bytes sent: " ++
          toString totalSent))
      else sendLoop request dlen fuel (totalSent + sent.toNat)
    else pure ()

/-- `IOUtils::send`. -/
def sendAll (request : List UInt8) : m Unit :=
  let dlen := staticCastInt request.length
  if dlen ≤ 0 then throw (failure kmipIoFailure "Can not send empty KMIP request.")
  else t.sendLoop request dlen.toNat dlen.toNat 0

/-- The loop of `read_exact`, with the bytes that were read so far. -/
def readLoop (n : Nat) : Nat → List UInt8 → m (List UInt8)
  | 0, buf => if buf.length < n then throw .diverged else pure buf
  | fuel + 1, buf =>
    if buf.length < n then do
      let (received, bytes) ← t.recv (n - buf.length)
      if received ≤ 0 then
        throw (failure kmipIoFailure ("Connection closed or error while reading. Expected " ++ toString n ++ ", got " ++
          toString buf.length))
      else readLoop n fuel (buf ++ bytes)
    else pure buf

def readExact (n : Nat) : m (List UInt8) := t.readLoop n n []

def receiveMessage (maxMessageSize : Nat) : m (List UInt8) := do
  let msgLenBuf ← t.readExact kmipMsgLengthBytes
  let length := headerLength msgLenBuf
  if length < 0 ∨ length.toInt.toNat > effectiveLimit maxMessageSize then throw (tooLong length maxMessageSize)
  else do
    let rest ← t.readExact length.toInt.toNat
    pure (msgLenBuf ++ rest)

/-- Close the transport and throw again, for a `KmipIOException` only. -/
def closeAndRethrow (e : Abort) : m (List UInt8) :=
  match e with
  | .thrown ⟨.kmipIOException, _, _⟩ => do
    t.close
    throw e
  | _ => throw e

/-- `do_exchange`: the response. -/
def exchange (request : List UInt8) (maxMessageSize : Nat) : m (List UInt8) :=
  tryCatch
    (do
      t.sendAll request
      t.receiveMessage maxMessageSize)
    t.closeAndRethrow

end Transport

/-- The transport of an environment. -/
def Environment.transport (env : Environment) : Transport Exchange := ⟨netSend env, netRecv env, close⟩

/-- `do_exchange` over the transport of an environment, which stores the response. -/
def doExchange (env : Environment) (request : List UInt8) (maxMessageSize : Nat) : Exchange Unit := do
  let response ← env.transport.exchange request maxMessageSize
  modify (fun s => { s with responseBytes := response })

end Kmip.Client.IOUtils
