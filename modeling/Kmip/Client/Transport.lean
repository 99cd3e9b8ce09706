import Kmip.Client.ExchangeFraming
import Kmip.Client.GetRetries

/-!
# `KmipClient` over `IOUtils`

The exchanges of an operation are those of `IOUtils` over one transport. What an exchange ends with depends on the
exchanges before it through the state of the transport only, and that state is the one after performing them
(`stateAfter`). Such a client fails as documented (`documentedTransport_overTransport`), for every environment.
-/

namespace Kmip.Client.IOUtils

open Hoare

/-! ## What an exchange throws -/

/-- A failure of the transport, or the refusal of a message that is too long. -/
inductive Documented : Abort → Prop where
  | io (message : String) : Documented (failure kmipIoFailure message)
  | exceeded (message : String) : Documented (failure kmipExceedMaxMessageSize message)
  | diverged : Documented .diverged

/-- Whatever the state, only documented exceptions are thrown. -/
def Throws {α : Type} (m : Exchange α) : Prop :=
  Triple (fun _ => True) m (fun _ _ => True) (fun e _ => Documented e)

section Throws

variable {α β : Type} {env : Environment}

theorem throws_pure (a : α) : Throws (pure a) := triple_pure fun _ _ => trivial

theorem throws_throw {e : Abort} (h : Documented e) : Throws (throw e : Exchange α) := triple_throw fun _ _ => h

theorem throws_modify (f : State → State) : Throws (modify f) := triple_modify fun _ _ => trivial

theorem Throws.bind {m : Exchange α} {f : α → Exchange β} (hm : Throws m) (hf : ∀ a, Throws (f a)) :
    Throws (m >>= f) :=
  triple_bind hm hf

theorem throws_operate : Throws (operate env) := ⟨fun _ _ => trivial⟩

theorem throws_connect : Throws (connect env) := by
  refine throws_operate.bind fun outcome => ?_
  cases outcome with
  | chunk k => exact (throws_modify _).bind fun _ => throws_pure true
  | fails n => exact throws_pure false
  | throws message => exact throws_throw (.io message)

theorem throws_checkConnected : Throws (checkConnected env) := by
  constructor
  intro s hs
  unfold checkConnected
  split
  · trivial
  · exact throws_connect.run s hs

theorem throws_netSend (data : List UInt8) : Throws (netSend env data) := by
  refine throws_checkConnected.bind fun connected => ?_
  refine triple_ite (fun _ => ?_) fun _ => throws_pure (-1)
  refine throws_operate.bind fun outcome => ?_
  cases outcome with
  | chunk k => exact (throws_modify _).bind fun _ => throws_pure _
  | fails n => exact throws_pure _
  | throws message => exact throws_throw (.io message)

theorem throws_netRecv (size : Nat) : Throws (netRecv env size) := by
  refine throws_checkConnected.bind fun connected => ?_
  refine triple_ite (fun _ => ?_) fun _ => throws_pure _
  refine throws_operate.bind fun outcome => ?_
  cases outcome with
  | chunk k => exact ⟨fun _ _ => trivial⟩
  | fails n => exact throws_pure _
  | throws message => exact throws_throw (.io message)

theorem throws_sendLoop (request : List UInt8) (dlen : Nat) : ∀ fuel totalSent : Nat,
    Throws (env.transport.sendLoop request dlen fuel totalSent) := by
  intro fuel
  induction fuel with
  | zero =>
    intro totalSent
    exact triple_ite (fun _ => throws_throw .diverged) fun _ => throws_pure ()
  | succ fuel ih =>
    intro totalSent
    refine triple_ite (fun _ => ?_) fun _ => throws_pure ()
    refine (throws_netSend _).bind fun sent => ?_
    exact triple_ite (fun _ => throws_throw (.io _)) fun _ => ih _

theorem throws_send (request : List UInt8) : Throws (env.transport.sendAll request) :=
  triple_ite (fun _ => throws_throw (.io _)) fun _ => throws_sendLoop _ _ _ _

theorem throws_readLoop (n : Nat) : ∀ (fuel : Nat) (buf : List UInt8), Throws (env.transport.readLoop n fuel buf) := by
  intro fuel
  induction fuel with
  | zero =>
    intro buf
    exact triple_ite (fun _ => throws_throw .diverged) fun _ => throws_pure buf
  | succ fuel ih =>
    intro buf
    refine triple_ite (fun _ => ?_) fun _ => throws_pure buf
    refine (throws_netRecv _).bind fun received => ?_
    exact triple_ite (fun _ => throws_throw (.io _)) fun _ => ih _

theorem throws_receiveMessage (maxMessageSize : Nat) : Throws (env.transport.receiveMessage maxMessageSize) := by
  refine (throws_readLoop _ _ _).bind fun header => ?_
  refine triple_ite (fun _ => throws_throw (.exceeded _)) fun _ => ?_
  exact (throws_readLoop _ _ _).bind fun _ => throws_pure _

theorem throws_closeAndRethrow {e : Abort} (h : Documented e) : Throws (env.transport.closeAndRethrow e) := by
  cases h with
  | io message => exact (throws_modify _).bind fun _ => throws_throw (.io message)
  | exceeded message => exact (throws_modify _).bind fun _ => throws_throw (.exceeded message)
  | diverged => exact throws_throw .diverged

/-- Every exchange, of any bytes, from any state. -/
theorem throws_doExchange (request : List UInt8) (maxMessageSize : Nat) :
    Throws (doExchange env request maxMessageSize) := by
  refine Throws.bind ?_ fun _ => throws_modify _
  refine triple_tryCatch ((throws_send request).bind fun _ => throws_receiveMessage maxMessageSize) ?_
  intro e
  refine triple_of_pre (A := Documented e) (fun _ h => h) fun h => ?_
  exact (throws_closeAndRethrow h).conseq (fun _ _ => trivial) (fun _ _ h => h) fun _ _ h => h

end Throws

theorem Documented.code_notMem {e : KmipException} (h : Documented (.thrown e)) :
    e.cls = .kmipIOException ∧ e.code ∉ retryReasons := by
  cases h with
  | io => exact ⟨rfl, show kmipIoFailure ∉ retryReasons by decide⟩
  | exceeded => exact ⟨rfl, show kmipExceedMaxMessageSize ∉ retryReasons by decide⟩

/-! ## The client -/

/-- A vector of these bytes. -/
def vectorOf (bytes : List UInt8) : Except Abort Bytes :=
  if h : bytes.length < 2 ^ 63 then .ok ⟨bytes, h⟩ else .error .diverged

theorem vectorOf_of_lt {bytes : List UInt8} (h : bytes.length < 2 ^ 63) : vectorOf bytes = .ok ⟨bytes, h⟩ := dif_pos h

theorem vectorOf_ne_thrown (bytes : List UInt8) (e : KmipException) : vectorOf bytes ≠ .error (.thrown e) := by
  unfold vectorOf
  intro h
  split at h <;> cases h

section Client

variable (env : Environment)

/-- The state of the transport after the exchanges of a history. -/
def stateAfter (history : List Exchanged) : State :=
  history.foldl (fun s x => (perform env s ⟨x.sent, x.request.getMaxResponseSize⟩).after) {}

/-- The exchange after a history. -/
def nextStep (history : List Exchanged) (request : List UInt8) (maxMessageSize : Nat) : Step :=
  perform env (stateAfter env history) ⟨request, maxMessageSize⟩

/-- The response of an exchange. -/
def Step.answered (step : Step) : Except Abort Bytes := do
  step.result
  vectorOf step.after.responseBytes

/-- What the next exchange ends with. -/
def answer (history : List Exchanged) (request : List UInt8) (maxMessageSize : Nat) : Except Abort Bytes :=
  (nextStep env history request maxMessageSize).answered

/-- A client over the transport. -/
def overTransport (c : KmipClient) : KmipClient := { c with io := answer env }

theorem documentedTransport_overTransport (c : KmipClient) : (overTransport env c).DocumentedTransport := by
  intro history bytes limit e h
  change answer env history bytes limit = .error (.thrown e) at h
  refine Documented.code_notMem (e := e) ?_
  have hthrows : Ends _ _ (doExchange env bytes limit _) :=
    (throws_doExchange bytes limit).run (stateAfter env history) trivial
  unfold answer nextStep perform Step.answered at h
  cases hr : doExchange env bytes limit (stateAfter env history) with
  | ok _ s' =>
    rw [hr] at h
    exact absurd h (vectorOf_ne_thrown _ _)
  | error e' s' =>
    rw [hr] at h hthrows
    cases h
    exact hthrows

end Client

end Kmip.Client.IOUtils
