import Kmip.Client.IOUtils

/-!
# `NetClientOpenSSL`

The transport of the client: `connect`, `close`, `send`, `recv` and `set_tls_verification` over OpenSSL and a socket.

Contexts and BIOs are handles to objects that are allocated and freed; a call on a handle that is not live, or a second
free, is recorded as a fault. A BIO keeps what was set on it and, from the call of `BIO_do_connect` that succeeded, what
the handshake was made with. The SSL of a BIO has the settings that its context had when the BIO was made. How each call
ends is fixed in advance by an `Environment`, by the number of the call; all results are for every environment.
-/

namespace Kmip.Client.NetClient

open IOUtils (failure staticCastInt)

/-! ## OpenSSL -/

structure TlsVerificationOptions where
  peerVerification : Bool := true
  hostnameVerification : Bool := true
deriving DecidableEq

/-- Whom the certificate of the server has to be for. -/
inductive ExpectedPeer where
  | host (name : String)
  | ip (address : String)
deriving DecidableEq

/-- `SSL_CTX`: the verification mode and the files that were loaded. -/
structure SslCtx where
  verifyPeer : Bool := false
  clientCertificate : Option String := none
  clientKey : Option String := none
  serverCaCertificate : Option String := none

/-- What an `SSL` is to be connected with: the settings of the context that it was made with, the name for SNI, the peer
that it expects and the address. -/
structure SslSetup where
  context : SslCtx
  serverName : Option String := none
  expected : Option ExpectedPeer := none
  host : String := ""
  port : String := ""

/-- What a handshake was made with, and how it ended. -/
structure Handshake where
  setup : SslSetup
  certificate : Bool
  verifyResult : Int

/-- A connect `BIO` with its `SSL` and its socket. -/
structure SslBio where
  setup : SslSetup
  nonBlocking : Bool := false
  fd : Int := -1
  socketNonBlocking : Bool := false
  handshake : Option Handshake := none
  /-- `SO_RCVTIMEO` and `SO_SNDTIMEO`, in seconds and microseconds. -/
  receiveTimeout : Option (Int × Int) := none
  sendTimeout : Option (Int × Int) := none
  sent : List UInt8 := []
  received : Nat := 0

/-- A call of `poll`: the deadline and the time that it was compared with, how many milliseconds the call waits at most
and what for, and whether it was made again after an interrupt. -/
structure Poll where
  deadline : Int
  checked : Int
  timeout : Int
  events : Nat
  again : Bool := false

/-- How the calls end: the result of each of them, the texts in the error queue, the time in nanoseconds on a clock that
does not go back, `errno`, and for `BIO_do_connect` the socket and the certificate of the server. A loop that waits for
ever is cut off after `patience` rounds. -/
structure Environment where
  reply : Nat → Int
  errors : Nat → List String
  clock : Nat → Int
  clock_mono : Monotone clock
  errno : Nat → Int
  fd : Nat → Int
  certificate : Nat → Bool
  verifyResult : Nat → Int
  /-- What the server sends on a BIO. -/
  incoming : Nat → Nat → UInt8
  isIpAddress : String → Bool
  socketErrorString : Int → String
  verifyErrorString : Int → String
  patience : Nat

/-- The members of `NetClient` that do not change. -/
structure Config where
  host : String
  port : String
  clientCertificateFn : String
  clientKeyFn : String
  serverCaCertificateFn : String
  timeoutMs : Int32

/-- The transport and the objects of OpenSSL. `negotiated`, `transfers` and `past` are not part of the code: the options
of the last connection, the BIOs that data was read from or written to, and the connections that are gone, each with its
BIO as it was freed. -/
structure State where
  tlsVerification : TlsVerificationOptions := {}
  isConnected : Bool := false
  bio : Option Nat := none
  ctx : Option Nat := none
  ctxs : Nat → Option SslCtx := fun _ => none
  bios : Nat → Option SslBio := fun _ => none
  next : Nat := 0
  calls : Nat := 0
  faulted : Bool := false
  handshakes : Nat := 0
  polls : List Poll := []
  negotiated : TlsVerificationOptions := {}
  transfers : List (TlsVerificationOptions × SslBio) := []
  past : List (Nat × SslBio) := []

/-- The BIO that the transport has. -/
def State.current (s : State) : Option (Nat × SslBio) := s.bio.bind fun b => (s.bios b).map fun x => (b, x)

/-- All connections, in the order in which they were made. -/
def State.opened (s : State) : List (Nat × SslBio) := s.past ++ s.current.toList

/-- A part of a call of the transport. -/
abbrev Net (α : Type) := EStateM Abort State α

section Calls

variable (env : Environment)

/-- The number of the next call. -/
def tick : Net Nat := fun s => .ok s.calls { s with calls := s.calls + 1 }

/-- A call on a context. -/
def ctxCall (ctx : Nat) (f : Nat → SslCtx → SslCtx) : Net Int := do
  let n ← tick
  modify fun s =>
    match s.ctxs ctx with
    | some x => { s with ctxs := Function.update s.ctxs ctx (some (f n x)) }
    | none => { s with faulted := true }
  pure (env.reply n)

/-- A call on a BIO, its `SSL` or its socket. -/
def bioCall (bio : Nat) (f : Nat → SslBio → SslBio) : Net Int := do
  let n ← tick
  modify fun s =>
    match s.bios bio with
    | some x => { s with bios := Function.update s.bios bio (some (f n x)) }
    | none => { s with faulted := true }
  pure (env.reply n)

/-- What a BIO knows without a call. -/
def bioGet (bio : Nat) : Net SslBio := fun s =>
  match s.bios bio with
  | some x => .ok x s
  | none => .ok { setup := { context := {} } } { s with faulted := true }

/-- A call that sets something if it returns `good`. -/
def ctxSet (ctx : Nat) (good : Int) (f : SslCtx → SslCtx) : Net Int :=
  ctxCall env ctx fun n x => if env.reply n = good then f x else x

def bioSet (bio : Nat) (good : Int) (f : SslBio → SslBio) : Net Int :=
  bioCall env bio fun n x => if env.reply n = good then f x else x

/-- `SSL_CTX_new`. -/
def sslCtxNew : Net (Option Nat) := do
  let n ← tick
  if env.reply n = 0 then pure none
  else fun s => .ok (some s.next) { s with ctxs := Function.update s.ctxs s.next (some {}), next := s.next + 1 }

/-- `BIO_new_ssl_connect`: the `SSL` copies the settings of the context. -/
def bioNewSslConnect (ctx : Nat) : Net (Option Nat) := do
  let n ← tick
  fun s =>
    match s.ctxs ctx with
    | none => .ok none { s with faulted := true }
    | some x =>
      if env.reply n = 0 then .ok none s
      else .ok (some s.next)
        { s with bios := Function.update s.bios s.next (some { setup := { context := x } }), next := s.next + 1 }

/-- `SSL_CTX_free`. -/
def sslCtxFree (ctx : Nat) : Net Unit := modify fun s =>
  match s.ctxs ctx with
  | some _ => { s with ctxs := Function.update s.ctxs ctx none }
  | none => { s with faulted := true }

/-- `BIO_free_all`. -/
def bioFreeAll (bio : Nat) : Net Unit := modify fun s =>
  match s.bios bio with
  | some _ => { s with bios := Function.update s.bios bio none }
  | none => { s with faulted := true }

/-- `BIO_do_connect`. -/
def bioDoConnect (bio : Nat) : Net Int := do
  modify fun s => { s with handshakes := s.handshakes + 1 }
  bioCall env bio fun n x =>
    { x with
      fd := env.fd n
      socketNonBlocking := x.nonBlocking
      handshake := if env.reply n = 1 then some ⟨x.setup, env.certificate n, env.verifyResult n⟩ else none }

/-- `steady_clock::now()`. -/
def now : Net Int := do
  let n ← tick
  pure (env.clock n)

/-- `last_socket_error()`. -/
def lastSocketError : Net Int := do
  let n ← tick
  pure (env.errno n)

end Calls

/-! ## Exceptions -/

section Exceptions

variable {α : Type} (env : Environment)

def getOpenSslError : Net String := do
  let n ← tick
  let errStr := String.join ((env.errors n).map fun text => text ++ "; ")
  pure (if errStr.isEmpty then "Unknown OpenSSL error" else errStr)

/-- `KmipIOException(KMIP_IO_FAILURE, message)`. -/
def throwIo (message : String) : Net α := throw (failure kmipIoFailure message)

/-- An exception unless the condition holds. -/
def orThrow (condition : Bool) (message : String) : Net Unit := if condition then pure () else throwIo message

/-- An exception with the errors of OpenSSL unless the condition holds. -/
def orThrowSsl (condition : Bool) (before after : String) : Net Unit :=
  if condition then pure ()
  else do
    let errors ← getOpenSslError env
    throwIo (before ++ errors ++ after)

/-- An exception with the error of the socket unless the condition holds. -/
def orThrowSocket (condition : Bool) (before : String) : Net Unit :=
  if condition then pure ()
  else do
    let err ← lastSocketError env
    throwIo (before ++ env.socketErrorString err)

/-- `std::unique_ptr`: what is owned is freed when the scope is left by an exception. -/
def owning (free : Net Unit) (scope : Net α) : Net α :=
  tryCatch scope fun e => do
    free
    throw e

end Exceptions

section Transport

variable (env : Environment) (config : Config)

def timeoutMessage (op : String) : String :=
  "KMIP " ++ op ++ " timed out after " ++ toString config.timeoutMs.toInt ++ "ms"

/-- `EAGAIN`, `EWOULDBLOCK` or `ETIMEDOUT`. -/
def isTimeoutSocketError (err : Int) : Bool := err == 11 || err == 110

/-! ## Verification -/

/-- SNI is not applicable to IP addresses. -/
def configureServerName (ssl : Nat) (host : String) : Net Unit :=
  if env.isIpAddress host then pure ()
  else do
    let ret ← bioSet env ssl 1 fun x => { x with setup.serverName := some host }
    orThrowSsl env (ret = 1) ("Failed to configure TLS SNI for host '" ++ host ++ "': ") ""

def configureExpectedPeer (ssl : Nat) (host : String) (options : TlsVerificationOptions) : Net Unit :=
  if !options.peerVerification || !options.hostnameVerification then pure ()
  else if env.isIpAddress host then do
    let ret ← bioSet env ssl 1 fun x => { x with setup.expected := some (.ip host) }
    orThrowSsl env (ret = 1) ("Failed to configure TLS IP verification for '" ++ host ++ "': ") ""
  else do
    let ret ← bioSet env ssl 1 fun x => { x with setup.expected := some (.host host) }
    orThrowSsl env (ret = 1) ("Failed to configure TLS hostname verification for '" ++ host ++ "': ") ""

/-- The `SSL` is null only together with an empty host. -/
def configureTlsVerification (ctx : Nat) (ssl : Option Nat) (host : String) (options : TlsVerificationOptions) :
    Net Unit := do
  orThrow (!(options.hostnameVerification && !options.peerVerification))
    "TLS hostname verification requires TLS peer verification to be enabled"
  let _ ← ctxCall env ctx fun _ x => { x with verifyPeer := options.peerVerification }
  if host.isEmpty then pure ()
  else
    match ssl with
    | none => modify fun s => { s with faulted := true }
    | some ssl => do
      configureServerName env ssl host
      configureExpectedPeer env ssl host options

def ensureTlsPeerVerified (ssl : Nat) (options : TlsVerificationOptions) : Net Unit :=
  if !options.peerVerification then pure ()
  else do
    let x ← bioGet ssl
    orThrow (x.handshake.any (·.certificate))
      "TLS peer verification failed: server did not present a certificate"
    let verifyResult := (x.handshake.map (·.verifyResult)).getD 0
    orThrow (verifyResult = 0) ("TLS peer verification failed: " ++ env.verifyErrorString verifyResult)

/-! ## Connecting -/

/-- `poll`, again while it is interrupted. -/
def pollLoop (poll : Poll) : Nat → Net Int
  | 0 => throw .diverged
  | fuel + 1 => do
    let n ← tick
    modify fun s => { s with polls := s.polls ++ [poll] }
    if env.reply n < 0 ∧ env.errno n = 4 then pollLoop { poll with again := true } fuel
    else pure (env.reply n)

/-- What to wait for: reading, writing, or both when OpenSSL does not say. -/
def pollEvents (shouldRead shouldWrite : Int) : Nat :=
  let events := (if shouldRead ≠ 0 then 1 else 0) + (if shouldWrite ≠ 0 then 4 else 0)
  if events = 0 then 5 else events

def waitForBioRetry (bio : Nat) (deadline : Int) (op : String) : Net Unit := do
  let x ← bioGet bio
  orThrow (0 ≤ x.fd) ("Unable to obtain socket while waiting for " ++ op)
  let time ← now env
  orThrow (time < deadline) (timeoutMessage config op)
  let remainingMs := max 1 ((deadline - time) / 1000000)
  let shouldRead ← bioCall env bio fun _ x => x
  let shouldWrite ← bioCall env bio fun _ x => x
  let pollRet ← pollLoop env
    { deadline := deadline, checked := time, timeout := remainingMs.bmod (2 ^ 32)
      events := pollEvents shouldRead shouldWrite } env.patience
  orThrow (pollRet ≠ 0) (timeoutMessage config op)
  orThrowSocket env (0 ≤ pollRet) ("poll failed while waiting for " ++ op ++ ": ")

def restoreSocketBlocking (bio : Nat) : Net Unit := do
  let x ← bioGet bio
  orThrow (0 ≤ x.fd) "Unable to obtain socket fd for mode switch"
  let flags ← bioCall env bio fun _ x => x
  orThrowSocket env (0 ≤ flags) "fcntl(F_GETFL) failed: "
  let ret ← bioSet env bio 0 fun x => { x with socketNonBlocking := false }
  orThrowSocket env (ret = 0) "fcntl(F_SETFL) failed: "

/-- Seconds and microseconds of the timeout. -/
def timeval : Int × Int := (config.timeoutMs.toInt / 1000, config.timeoutMs.toInt % 1000 * 1000)

def applySocketIoTimeout (bio : Nat) : Net Unit :=
  if config.timeoutMs.toInt ≤ 0 then pure ()
  else do
    let x ← bioGet bio
    if x.fd < 0 then pure ()
    else do
      let ret ← bioSet env bio 0 fun x => { x with receiveTimeout := some (timeval config) }
      orThrowSocket env (ret = 0) ("Failed to set SO_RCVTIMEO (" ++ toString config.timeoutMs.toInt ++ "ms): ")
      let ret ← bioSet env bio 0 fun x => { x with sendTimeout := some (timeval config) }
      orThrowSocket env (ret = 0) ("Failed to set SO_SNDTIMEO (" ++ toString config.timeoutMs.toInt ++ "ms): ")

/-- The loop of `connect` until the handshake is done. -/
def connectLoop (bio : Nat) (deadline : Int) : Nat → Net Unit
  | 0 => throw .diverged
  | fuel + 1 => do
    let connectRet ← bioDoConnect env bio
    if connectRet = 1 then pure ()
    else do
      let shouldRetry ← bioCall env bio fun _ x => x
      orThrowSsl env (shouldRetry ≠ 0) "BIO_do_connect failed: " ""
      waitForBioRetry env config bio deadline "connect/handshake"
      connectLoop bio deadline fuel

/-- Connection and handshake, with a deadline if there is a timeout. -/
def establish (bio : Nat) : Net Unit :=
  if config.timeoutMs.toInt > 0 then do
    let ret ← bioSet env bio 1 fun x => { x with nonBlocking := true }
    orThrow (ret = 1) "BIO_set_nbio(1) failed before connect"
    let start ← now env
    connectLoop env config bio (start + config.timeoutMs.toInt * 1000000) env.patience
    restoreSocketBlocking env bio
    let ret ← bioSet env bio 1 fun x => { x with nonBlocking := false }
    orThrow (ret = 1) "BIO_set_nbio(0) failed after connect"
  else do
    let ret ← bioDoConnect env bio
    orThrowSsl env (ret = 1) "BIO_do_connect failed: " ""

/-- The files of a new context. -/
def loadFiles (ctx : Nat) : Net Unit := do
  let ret ← ctxSet env ctx 1 fun x => { x with clientCertificate := some config.clientCertificateFn }
  orThrowSsl env (ret = 1) ("Loading client certificate failed: " ++ config.clientCertificateFn ++ " (") ")"
  let ret ← ctxSet env ctx 1 fun x => { x with clientKey := some config.clientKeyFn }
  orThrowSsl env (ret = 1) ("Loading client key failed: " ++ config.clientKeyFn ++ " (") ")"
  let ret ← ctxCall env ctx fun _ x => x
  orThrowSsl env (ret = 1) "Client certificate/private key mismatch: " ""
  let ret ← ctxSet env ctx 1 fun x => { x with serverCaCertificate := some config.serverCaCertificateFn }
  orThrowSsl env (ret = 1) ("Loading server CA certificate failed: " ++ config.serverCaCertificateFn ++ " (") ")"

/-- The address that a new BIO connects to; the results are not looked at. -/
def setAddress (bio : Nat) : Net Unit := do
  -- `SSL_MODE_AUTO_RETRY`
  let _ ← bioCall env bio fun _ x => x
  let _ ← bioCall env bio fun _ x => { x with setup.host := config.host }
  let _ ← bioCall env bio fun _ x => { x with setup.port := config.port }

/-- `bio_.reset()`. -/
def resetBio : Net Unit := do
  match (← get).bio with
  | none => pure ()
  | some bio =>
    modify fun s => { s with bio := none, past := s.opened }
    bioFreeAll bio

/-- `ctx_.reset()`. -/
def resetCtx : Net Unit := do
  match (← get).ctx with
  | none => pure ()
  | some ctx =>
    modify fun s => { s with ctx := none }
    sslCtxFree ctx

/-- The new objects replace the old ones. -/
def adopt (newBio newCtx : Nat) : Net Unit := do
  resetBio
  modify fun s => { s with bio := some newBio }
  resetCtx
  modify fun s => { s with ctx := some newCtx }
  modify fun s => { s with isConnected := true, negotiated := s.tlsVerification }

/-- A connection over a new BIO. -/
def setUpBio (newCtx newBio : Nat) (options : TlsVerificationOptions) : Net Unit := do
  let hasSsl ← bioCall env newBio fun _ x => x
  orThrowSsl env (hasSsl ≠ 0) "BIO_get_ssl failed: " ""
  configureTlsVerification env newCtx (some newBio) config.host options
  setAddress env config newBio
  establish env config newBio
  ensureTlsPeerVerified env newBio options
  applySocketIoTimeout env config newBio

/-- The part of `connect` that owns the new BIO. -/
def connectBio (newCtx newBio : Nat) (options : TlsVerificationOptions) : Net Bool := do
  setUpBio env config newCtx newBio options
  adopt newBio newCtx
  pure true

/-- The part of `connect` that owns the new context. -/
def connectCtx (newCtx : Nat) (options : TlsVerificationOptions) : Net Bool := do
  configureTlsVerification env newCtx none "" options
  loadFiles env config newCtx
  match ← bioNewSslConnect env newCtx with
  | none => do
    let errors ← getOpenSslError env
    throwIo ("BIO_new_ssl_connect failed: " ++ errors)
  | some newBio => owning (bioFreeAll newBio) (connectBio env config newCtx newBio options)

/-- What is left of a connection that was lost. -/
def resetUnlessConnected : Net Unit := fun s =>
  if s.isConnected then .ok () s
  else (do
    resetBio
    resetCtx) s

def connect : Net Bool := do
  let options := (← get).tlsVerification
  resetUnlessConnected
  match ← sslCtxNew env with
  | none => do
    let errors ← getOpenSslError env
    throwIo ("SSL_CTX_new failed: " ++ errors)
  | some newCtx => owning (sslCtxFree newCtx) (connectCtx env config newCtx options)

def checkConnected : Net Bool := fun s => if s.isConnected then .ok true s else connect env config s

def close : Net Unit := do
  modify fun s => { s with isConnected := false }
  resetBio
  resetCtx

def setTlsVerification (options : TlsVerificationOptions) : Net Unit :=
  modify fun s => { s with tlsVerification := options }

/-! ## Data -/

/-- The number of bytes that a call moves: at most what was asked for. -/
def moved (ret : Int) (size : Nat) : Nat := min ret.toNat size

/-- The BIO of the connection; reading a null pointer is a fault. -/
def currentBio : Net Nat := fun s =>
  match s.bio with
  | some bio => .ok bio { s with transfers := s.transfers ++ (s.bios bio).toList.map fun x => (s.negotiated, x) }
  | none => .ok 0 { s with faulted := true }

/-- A result that is not positive is a timeout if OpenSSL and the socket say so. -/
def checkTimeout (bio : Nat) (ret : Int) (op : String) : Net Unit :=
  if 0 < ret then pure ()
  else do
    let shouldRetry ← bioCall env bio fun _ x => x
    if shouldRetry = 0 then pure ()
    else do
      let err ← lastSocketError env
      orThrow (!isTimeoutSocketError err) (timeoutMessage config op)

/-- `BIO_write`, which takes at most the bytes that it is given, and the check of its result. -/
def write (data : List UInt8) : Net Int := do
  let bio ← currentBio
  let dlen := (staticCastInt data.length).toNat
  let ret ← bioCall env bio fun n x => { x with sent := x.sent ++ data.take (moved (env.reply n) dlen) }
  let ret := if 0 < ret then (moved ret dlen : Int) else ret
  checkTimeout env config bio ret "send"
  pure ret

/-- `BIO_read` into a buffer of `size` bytes and the check: the result and the bytes that were written to the buffer. -/
def read (size : Nat) : Net (Int × List UInt8) := do
  let bio ← currentBio
  let dlen := (staticCastInt size).toNat
  let x ← bioGet bio
  let ret ← bioCall env bio fun n x => { x with received := x.received + moved (env.reply n) dlen }
  let bytes := window (env.incoming bio) x.received (moved ret dlen)
  let ret := if 0 < ret then (moved ret dlen : Int) else ret
  checkTimeout env config bio ret "receive"
  pure (ret, bytes)

def send (data : List UInt8) : Net Int := do
  if ← checkConnected env config then write env config data else pure (-1)

def recv (size : Nat) : Net (Int × List UInt8) := do
  if ← checkConnected env config then read env config size else pure (-1, [])

end Transport

end Kmip.Client.NetClient
