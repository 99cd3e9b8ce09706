import Kmip.Client.Locate
import Kmip.Core.ResponseParser
import Kmip.Core.KeyParser

/-!
# `KmipClient`: requests and responses

An operation of the client serializes a request, exchanges it for the bytes of a response and hands them to a
`ResponseParser`. The transport is an arbitrary strategy: what it answers may depend on everything that was exchanged
before. The state of an operation is that history, and it is kept when the operation throws.
-/

namespace Kmip.Client

/-! ## The client and its transport -/

/-- A request that was sent, with its bytes and what the exchange ended with. -/
structure Exchanged where
  request : RequestMessage
  sent : List UInt8
  answer : Except Abort Bytes

/-- `KmipClient`, with what it takes from the platform: the exchange of a request of some bytes with a limit for the
response, the clock at each exchange, the text of a date, and `is_subject_public_key_info`. -/
structure KmipClient where
  version : ProtocolVersion
  io : List Exchanged → List UInt8 → Nat → Except Abort Bytes
  clock : Nat → Int64
  dateToString : Int64 → Bytes
  isSubjectPublicKeyInfo : Bytes → Bool

/-- A part of an operation. -/
abbrev Session (α : Type) := EStateM Abort (List Exchanged) α

/-- A part that exchanges nothing. -/
def Session.of {α : Type} (x : Except Abort α) : Session α := fun history =>
  match x with
  | .ok a => .ok a history
  | .error e => .error e history

@[simp] theorem Session.of_ok_bind {α β : Type} (a : α) (next : α → Session β) :
    (Session.of (.ok a) >>= next) = next a := rfl

end Kmip.Client

namespace Kmip.RequestMessage

/-- `static_cast<size_t>` of the Maximum Response Size, or the default. -/
def getMaxResponseSize (m : RequestMessage) : Nat :=
  (m.header.maximumResponseSize.map fun n => n.toInt64.toUInt64.toNat).getD Client.defaultMaxResponseSize

end Kmip.RequestMessage

namespace Kmip.Client.KmipClient

variable (c : KmipClient)

/-! ## Exchanges -/

def makeRequestMessage : Except Abort RequestMessage := RequestMessage.new c.version defaultMaxResponseSize

def doExchange (request : RequestMessage) (bytes : List UInt8) : Session Bytes := fun history =>
  let answer := c.io history bytes request.getMaxResponseSize
  match answer with
  | .ok response => .ok response (history ++ [⟨request, bytes, answer⟩])
  | .error e => .error e (history ++ [⟨request, bytes, answer⟩])

/-- `request.serialize()`, the exchange, and a `ResponseParser` for the response. -/
def send (request : RequestMessage) : Session ResponseParser := do
  let bytes ← Session.of (request.serialize (c.clock (← get).length))
  let responseBytes ← c.doExchange request bytes
  pure (.ofRequest responseBytes request)

/-! ## Runs -/

/-- A request without items. -/
def emptyRequest : RequestMessage where
  header := { protocolVersion := c.version, maximumResponseSize := some (Int32.ofNat defaultMaxResponseSize) }
  batchItems := []

/-- A request with the given items. -/
def request (items : List RequestBatchItem) : RequestMessage :=
  items.foldl (fun m item => (m.addBatchItem item).2) c.emptyRequest

theorem makeRequestMessage_eq : c.makeRequestMessage = .ok c.emptyRequest := rfl

/-- The exchange of a request after a history, or why the request is not sent. -/
def exchanged (history : List Exchanged) (request : RequestMessage) : Except Abort Exchanged := do
  let bytes ← request.serialize (c.clock history.length)
  .ok ⟨request, bytes, c.io history bytes request.getMaxResponseSize⟩

end Kmip.Client.KmipClient

namespace Kmip.Client

/-- What is read from the answer to a request. -/
def Exchanged.reads {α : Type} (x : Exchanged) (read : ResponseParser → Except Abort α) : Except Abort α := do
  read (.ofRequest (← x.answer) x.request)

/-- The item that a response has for an item of the request. -/
def Exchanged.Found (x : Exchanged) (id : UInt32) (item : ResponseBatchItem) : Prop :=
  ∃ bytes parser, x.answer = .ok bytes ∧
    (ResponseParser.ofRequest bytes x.request).getResponseItemByBatchItemId id = .ok (item, parser)

/-- A request that is serialized is sent. -/
theorem KmipClient.exists_exchanged {c : KmipClient} {history : List Exchanged} {request : RequestMessage}
    {bytes : List UInt8} (h : request.serialize (c.clock history.length) = .ok bytes) :
    ∃ x, c.exchanged history request = .ok x ∧ x.sent = bytes := by
  unfold exchanged
  rw [h]
  exact ⟨_, rfl, rfl⟩

theorem KmipClient.exchanged_request {c : KmipClient} {history : List Exchanged} {request : RequestMessage}
    {x : Exchanged} (h : c.exchanged history request = .ok x) : x.request = request := by
  obtain ⟨bytes, -, h⟩ := Except.bind_eq_ok_iff.1 h
  cases h
  rfl

theorem KmipClient.exchanged_eq_error {c : KmipClient} {history : List Exchanged} {request : RequestMessage} {e : Abort}
    (h : c.exchanged history request = .error e) : request.serialize (c.clock history.length) = .error e := by
  unfold exchanged at h
  cases hser : request.serialize (c.clock history.length) with
  | error e' =>
    rw [hser] at h
    cases h
    rfl
  | ok bytes =>
    rw [hser] at h
    cases h

/-- One exchange: the request is not sent, or the history grows by it. -/
theorem KmipClient.send_eq (c : KmipClient) (request : RequestMessage) (history : List Exchanged) :
    c.send request history =
      match c.exchanged history request with
      | .error e => .error e history
      | .ok x => Session.of (x.reads .ok) (history ++ [x]) := by
  have hsend : c.send request history = (Session.of (request.serialize (c.clock history.length)) >>= fun bytes =>
      c.doExchange request bytes >>= fun response => pure (.ofRequest response request)) history := rfl
  rw [hsend, exchanged]
  cases request.serialize (c.clock history.length) with
  | error e => rfl
  | ok bytes =>
    show (c.doExchange request bytes >>= _) history = _
    rw [Hoare.bind_apply]
    unfold doExchange
    dsimp only [Except.ok_bind, Exchanged.reads]
    cases hio : c.io history bytes request.getMaxResponseSize <;> rfl

/-- A request is sent and its answer is read; then the operation goes on. -/
theorem KmipClient.send_bind {c : KmipClient} {α β : Type} (request : RequestMessage)
    (read : ResponseParser → Except Abort α) (next : α → Session β) (history : List Exchanged) :
    (c.send request >>= fun rf => Session.of (read rf) >>= next) history =
      match c.exchanged history request with
      | .error e => .error e history
      | .ok x => (Session.of (x.reads read) >>= next) (history ++ [x]) := by
  rw [Hoare.bind_apply, c.send_eq request history]
  cases hx : c.exchanged history request with
  | error e => rfl
  | ok x =>
    dsimp only [Exchanged.reads]
    cases x.answer <;> rfl

end Kmip.Client
