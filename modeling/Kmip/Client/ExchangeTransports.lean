import Kmip.Client.ExchangeFraming
import Kmip.Lib.Resumable

/-!
# Exchanges as programs

Over a transport that only records which method to call next, an exchange is a program that can be stopped between two
calls (`exchangeProgram`). Its runs are the exchanges over the transport that answers the calls
(`run_exchangeProgram`).
-/

namespace Kmip.Client.IOUtils

open Hoare

/-- The response of an exchange is stored. -/
def deliver : EStateM.Result Abort State (List UInt8) → EStateM.Result Abort State Unit
  | .ok response s => .ok () { s with responseBytes := response }
  | .error e s => .error e s

theorem store_apply (m : Exchange (List UInt8)) (s : State) :
    (m >>= fun response => modify fun s => { s with responseBytes := response }) s = deliver (m s) := by
  rw [bind_apply]
  cases m s <;> rfl

/-- An exchange hands its response over to the caller. -/
theorem doExchange_eq (env : Environment) (request : List UInt8) (maxMessageSize : Nat) (s : State) :
    doExchange env request maxMessageSize s = deliver (env.transport.exchange request maxMessageSize s) :=
  store_apply _ s

/-! ## Exchanges as programs -/

/-- The methods of a transport. -/
inductive Method where
  | send (data : List UInt8)
  | recv (size : Nat)
  | close

def Method.Result : Method → Type
  | send _ => Int
  | recv _ => Int × List UInt8
  | close => Unit

/-- The transport that records the calls. -/
def programs : Transport (Program Method Method.Result Abort) where
  send data := .perform (Method.send data)
  recv size := .perform (Method.recv size)
  close := .perform Method.close

/-- `do_exchange` between its calls of the transport. -/
def exchangeProgram (call : Call) : Program Method Method.Result Abort (List UInt8) :=
  programs.exchange call.request call.maxMessageSize

section Programs

variable {σ : Type} (t : Transport (EStateM Abort σ))

/-- The transport answers the calls. -/
def Transport.methods : ∀ method : Method, EStateM Abort σ method.Result
  | .send data => t.send data
  | .recv size => t.recv size
  | .close => t.close

open Program

theorem run_send (data : List UInt8) : (programs.send data).run t.methods = t.send data :=
  run_perform (Method.send data)

theorem run_recv (size : Nat) : (programs.recv size).run t.methods = t.recv size := run_perform (Method.recv size)

theorem run_close : programs.close.run t.methods = t.close := run_perform Method.close

theorem run_sendLoop (request : List UInt8) (dlen fuel totalSent : Nat) :
    (programs.sendLoop request dlen fuel totalSent).run t.methods = t.sendLoop request dlen fuel totalSent := by
  induction fuel generalizing totalSent with
  | zero => exact run_ite ..
  | succ fuel ih =>
    unfold Transport.sendLoop
    rw [run_ite, run_bind, run_send]
    simp only [run_ite, ih]
    rfl

theorem run_readLoop (n fuel : Nat) (buf : List UInt8) :
    (programs.readLoop n fuel buf).run t.methods = t.readLoop n fuel buf := by
  induction fuel generalizing buf with
  | zero => exact run_ite ..
  | succ fuel ih =>
    unfold Transport.readLoop
    rw [run_ite, run_bind, run_recv]
    simp only [run_ite, ih]
    rfl

theorem run_sendAll (request : List UInt8) : (programs.sendAll request).run t.methods = t.sendAll request := by
  unfold Transport.sendAll
  rw [run_ite, run_sendLoop]
  rfl

theorem run_receiveMessage (maxMessageSize : Nat) :
    (programs.receiveMessage maxMessageSize).run t.methods = t.receiveMessage maxMessageSize := by
  unfold Transport.receiveMessage Transport.readExact
  simp only [run_bind, run_ite, run_readLoop]
  rfl

theorem run_closeAndRethrow (e : Abort) : (programs.closeAndRethrow e).run t.methods = t.closeAndRethrow e := by
  cases e with
  | diverged => rfl
  | thrown e =>
    obtain ⟨kind, code, message⟩ := e
    cases kind with
    | kmipException => rfl
    | kmipIOException =>
      exact (run_bind ..).trans (congrArg (· >>= _) (run_close t))

/-- The runs of the program are the exchanges. -/
theorem run_exchangeProgram (call : Call) :
    (exchangeProgram call).run t.methods = t.exchange call.request call.maxMessageSize := by
  unfold exchangeProgram Transport.exchange
  rw [run_tryCatch, run_bind, run_sendAll, run_receiveMessage]
  simp only [run_closeAndRethrow]

end Programs

end Kmip.Client.IOUtils
