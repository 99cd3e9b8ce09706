import Kmip.Core.Errors
import Kmip.Lib.BoundedPool
import Kmip.Lib.Counting

/-!
# `KmipClientPool`

The pool hands out connections to any number of threads. Its atomic steps are the sections that hold the mutex, and the
operations of a thread on a `BorrowedClient` that it owns. A new connection is made outside the mutex, so that its
reservation and its success or failure are two steps.

The condition variable is the set of the threads that sleep in it: `notify_one` marks any one of them as woken, and a
sleeper may also wake by itself or because its time is over. A thread that was woken checks its condition again when it
gets the mutex.

The state carries two ghost fields that the source does not have: the identity of the next connection, and a log of the
connections that were handed out, marked and given back.
-/

namespace Kmip.Client.Pool

/-- `Slot`: a connection, with `is_connected()` of its transport. -/
structure Slot where
  id : Nat
  connected : Bool
deriving DecidableEq

/-- `BorrowedClient`. The pool pointer is null or points to the one pool. -/
structure BorrowedClient where
  pool : Bool
  slot : Option Slot
  healthy : Bool := true
deriving DecidableEq

/-- Where a thread is: outside the pool, in the condition variable of `borrow` (with or without a timeout), woken but
not yet back under the mutex, or connecting a reserved slot. -/
inductive ThreadState where
  | outside
  | sleeping (timed : Bool)
  | woken (timed expired : Bool)
  | connecting
deriving DecidableEq

namespace ThreadState

def isSleeping : ThreadState → Bool
  | sleeping _ => true
  | _ => false

def isWoken : ThreadState → Bool
  | woken _ _ => true
  | _ => false

def isConnecting : ThreadState → Bool
  | connecting => true
  | _ => false

end ThreadState

/-- What the log records. -/
inductive Event where
  | handedOut (id : Nat)
  | markedUnhealthy (id : Nat)
  | returned (id : Nat) (healthy connected : Bool)
deriving DecidableEq

def Event.id : Event → Nat
  | handedOut id => id
  | markedUnhealthy id => id
  | returned id _ _ => id

/-- The pool, its guards and its threads. The log has the newest event first. -/
structure State (Thread Guard : Type) where
  available : List Slot := []
  totalCount : Nat := 0
  guards : Guard → Option BorrowedClient := fun _ => none
  threads : Thread → ThreadState := fun _ => .outside
  nextSlot : Nat := 0
  log : List Event := []

/-- The atomic steps. `wake` is the thread that `notify_one` wakes, if there is one; the guard of an acquiring step is
where the `BorrowedClient` that it returns is stored. -/
inductive Action (Thread Guard : Type) where
  | borrow (thread : Thread) (timed : Bool) (guard : Guard)
  | tryBorrow (thread : Thread) (guard : Guard)
  | recheck (thread : Thread) (guard : Guard)
  | wakeUp (thread : Thread)
  | timeout (thread : Thread)
  | connectOk (thread : Thread) (guard : Guard)
  | connectFail (thread : Thread) (wake : Option Thread)
  | moveConstruct (src dst : Guard)
  | moveAssign (src dst : Guard) (wake : Option Thread)
  | destroy (guard : Guard) (wake : Option Thread)
  | markUnhealthy (guard : Guard)
  | setConnected (guard : Guard) (connected : Bool)

section Steps

variable {Thread Guard : Type} [DecidableEq Thread] [DecidableEq Guard] [Fintype Thread]

namespace State

def setThread (s : State Thread Guard) (thread : Thread) (state : ThreadState) : State Thread Guard :=
  { s with threads := Function.update s.threads thread state }

def setGuard (s : State Thread Guard) (guard : Guard) (client : Option BorrowedClient) : State Thread Guard :=
  { s with guards := Function.update s.guards guard client }

/-- `cv_.notify_one()`: wake the chosen sleeper; nobody is chosen only when nobody sleeps. -/
def notifyOne (s : State Thread Guard) (wake : Option Thread) : Option (State Thread Guard) :=
  match wake with
  | none => if countWhere ThreadState.isSleeping s.threads = 0 then some s else none
  | some thread =>
    match s.threads thread with
    | .sleeping timed => some (s.setThread thread (.woken timed false))
    | _ => none

def returnSlot (s : State Thread Guard) (slot : Slot) (healthy : Bool) (wake : Option Thread) :
    Option (State Thread Guard) :=
  let discard := !healthy || !slot.connected
  let s := { s with log := .returned slot.id healthy slot.connected :: s.log }
  if !discard then notifyOne { s with available := s.available ++ [slot] } wake
  else notifyOne { s with totalCount := sizeSub s.totalCount 1 } wake

/-- The condition of the waiting threads. -/
def hasCapacity (maxConnections : Nat) (s : State Thread Guard) : Bool :=
  !s.available.isEmpty || s.totalCount < maxConnections

/-- Store a slot in a new `BorrowedClient`. -/
def handOut (s : State Thread Guard) (guard : Guard) (slot : Slot) : State Thread Guard :=
  { s.setGuard guard (some ⟨true, some slot, true⟩) with log := .handedOut slot.id :: s.log }

/-- `acquire_locked` up to the point where the mutex is released. -/
def acquireLocked (s : State Thread Guard) (thread : Thread) (guard : Guard) : Option (State Thread Guard) :=
  match s.available.getLast? with
  | some slot =>
    if s.guards guard = none then
      some ((handOut { s with available := s.available.dropLast } guard slot).setThread thread .outside)
    else none
  | none => some ({ s with totalCount := sizeAdd s.totalCount 1 }.setThread thread .connecting)

/-- Give the slot of a guard back, as the destructor and the move assignment do. -/
def giveBack (s : State Thread Guard) (guard : Guard) (wake : Option Thread) : Option (State Thread Guard) :=
  match s.guards guard with
  | some ⟨true, some slot, healthy⟩ => returnSlot (s.setGuard guard (some ⟨true, none, healthy⟩)) slot healthy wake
  | _ => some s

/-- The fields of `src` go to `dst`; `src` is left without a pool and without a slot. -/
def transfer (s : State Thread Guard) (src dst : Guard) (other : BorrowedClient) : State Thread Guard :=
  (s.setGuard dst (some other)).setGuard src (some { other with pool := false, slot := none })

/-- `markUnhealthy()`: the flag is cleared, with a slot or without one. -/
def markUnhealthy (s : State Thread Guard) (guard : Guard) (client : BorrowedClient) : State Thread Guard :=
  { s.setGuard guard (some { client with healthy := false }) with
    log := client.slot.toList.map (fun slot => .markedUnhealthy slot.id) ++ s.log }

end State

open State

/-- One step. -/
def step (maxConnections : Nat) (s : State Thread Guard) : Action Thread Guard → Option (State Thread Guard)
  | .borrow thread timed guard =>
    if s.threads thread = .outside then
      if s.hasCapacity maxConnections then s.acquireLocked thread guard
      else some (s.setThread thread (.sleeping timed))
    else none
  | .tryBorrow thread guard =>
    if s.threads thread = .outside then
      if s.available.isEmpty && s.totalCount ≥ maxConnections then some s
      else s.acquireLocked thread guard
    else none
  | .recheck thread guard =>
    match s.threads thread with
    | .woken timed expired =>
      if s.hasCapacity maxConnections then s.acquireLocked thread guard
      -- the time of `wait_for` is over and `borrow` throws
      else if expired then some (s.setThread thread .outside)
      else some (s.setThread thread (.sleeping timed))
    | _ => none
  | .wakeUp thread =>
    match s.threads thread with
    | .sleeping timed => some (s.setThread thread (.woken timed false))
    | _ => none
  | .timeout thread =>
    match s.threads thread with
    | .sleeping true => some (s.setThread thread (.woken true true))
    | _ => none
  | .connectOk thread guard =>
    if s.threads thread = .connecting ∧ s.guards guard = none then
      some ((handOut { s with nextSlot := s.nextSlot + 1 } guard ⟨s.nextSlot, true⟩).setThread thread .outside)
    else none
  | .connectFail thread wake =>
    if s.threads thread = .connecting then
      notifyOne ({ s with totalCount := sizeSub s.totalCount 1 }.setThread thread .outside) wake
    else none
  | .moveConstruct src dst =>
    match s.guards src, s.guards dst with
    | some other, none => some (s.transfer src dst other)
    | _, _ => none
  | .moveAssign src dst wake =>
    match s.guards src, s.guards dst with
    | some other, some _ =>
      if dst = src then some s
      else (s.giveBack dst wake).map (fun s => s.transfer src dst other)
    | _, _ => none
  | .destroy guard wake =>
    match s.guards guard with
    | some _ => (s.giveBack guard wake).map (fun s => s.setGuard guard none)
    | none => none
  | .markUnhealthy guard =>
    match s.guards guard with
    | some client => some (s.markUnhealthy guard client)
    | none => none
  | .setConnected guard connected =>
    match s.guards guard with
    | some ⟨pool, some slot, healthy⟩ =>
      some (s.setGuard guard (some ⟨pool, some { slot with connected := connected }, healthy⟩))
    | _ => none

/-- A pool with at most `maxConnections` connections, at first without any. -/
def system (Thread Guard : Type) [DecidableEq Thread] [DecidableEq Guard] [Fintype Thread] (maxConnections : Nat) :
    Transition.System (State Thread Guard) (Action Thread Guard) :=
  ⟨{}, step maxConnections⟩

end Steps

end Kmip.Client.Pool
