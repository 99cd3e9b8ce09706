import Kmip.Client.ExchangeReplies
import Kmip.Client.ExchangeTransports
import Kmip.Client.PoolFrames

/-!
# Exchanges over pooled connections

Threads borrow clients from the pool and make exchanges over them. The steps of the pool and the calls of all exchanges
to their transports come in any order; a client is not moved, destroyed or marked while an exchange over it is going on.

Whatever the order, the exchanges over a slot are those of one run, one after the other (`exchanges_serial`): no thread
reads what another one was sent, and what an exchange has left unread is not left to the next borrower. If the peers
reply to their requests in order, every exchange that returns has received the reply to its own request.
-/

namespace Kmip.Client.Pooled

open Hoare Transition IOUtils

/-! ## The pool and its transports -/

/-- An exchange that is going on: the transport when it has started, and what is left of it. -/
structure Running where
  before : IOUtils.State
  call : Call
  rest : Program Method Method.Result Abort (List UInt8)

/-- The pool, the transport of every slot and the exchange over every guard. `steps` is not part of the code: the
exchanges over a slot that have ended. -/
structure State (Thread Guard : Type) where
  pool : Pool.State Thread Guard := {}
  transports : Nat → IOUtils.State := fun _ => {}
  running : Guard → Option Running := fun _ => none
  steps : Nat → List Step := fun _ => []

/-- A step of the pool, the start of an exchange, its next call to the transport, or its end. -/
inductive Action (Thread Guard : Type) where
  | pool (action : Pool.Action Thread Guard)
  | start (guard : Guard) (call : Call)
  | advance (guard : Guard)
  | finish (guard : Guard)

/-- `response_bytes` after an exchange. -/
def received (transport : IOUtils.State) : Except Abort (List UInt8) → IOUtils.State
  | .ok response => { transport with responseBytes := response }
  | .error _ => transport

section System

variable {Thread Guard : Type} [DecidableEq Thread] [DecidableEq Guard] [Fintype Thread]

/-- The slot over which the client of a guard makes its exchanges. -/
def State.slot (s : State Thread Guard) (guard : Guard) : Option Pool.Slot := (s.pool.guards guard).bind (·.slot)

/-- Nothing happens to a client while an exchange over it is going on; its connection only changes by exchanges. -/
def State.permits (s : State Thread Guard) : Pool.Action Thread Guard → Bool
  | .setConnected _ _ => false
  | action => action.guards.all fun guard => (s.running guard).isNone

variable (env : Nat → Environment) (maxConnections : Nat)

/-- `create_slot`: the transport of the new slot is connected. -/
def State.addTransport (s : State Thread Guard) (pool : Pool.State Thread Guard) : Option (State Thread Guard) :=
  match connect (env s.pool.nextSlot) {} with
  | .ok true transport =>
    some { s with pool := pool, transports := Function.update s.transports s.pool.nextSlot transport }
  | _ => none

/-- A step of the pool. -/
def poolStep (s : State Thread Guard) (action : Pool.Action Thread Guard) : Option (State Thread Guard) :=
  if s.permits action then
    (Pool.step maxConnections s.pool action).bind fun pool =>
      match action with
      | .connectOk _ _ => s.addTransport env pool
      | _ => some { s with pool := pool }
  else none

def State.start (s : State Thread Guard) (guard : Guard) (slot : Pool.Slot) (call : Call) : State Thread Guard :=
  { s with running := Function.update s.running guard (some ⟨s.transports slot.id, call, exchangeProgram call⟩) }

/-- The next call of an exchange. -/
def State.advance (s : State Thread Guard) (guard : Guard) (slot : Pool.Slot) (r : Running) :
    Option (State Thread Guard) :=
  (r.rest.advance (env slot.id).transport.methods (s.transports slot.id)).map fun next =>
    { s with
      running := Function.update s.running guard (some { r with rest := next.1 })
      transports := Function.update s.transports slot.id next.2 }

/-- The exchange has ended: `is_connected()` of the slot is what the transport says. -/
def State.finish (s : State Thread Guard) (guard : Guard) (slot : Pool.Slot) (before : IOUtils.State) (call : Call)
    (result : Except Abort (List UInt8)) : Option (State Thread Guard) :=
  let transport := received (s.transports slot.id) result
  (Pool.step maxConnections s.pool (.setConnected guard transport.connected)).map fun pool =>
    { pool := pool
      transports := Function.update s.transports slot.id transport
      running := Function.update s.running guard none
      steps := Function.update s.steps slot.id
        (s.steps slot.id ++ [⟨before, call, result.map fun _ => (), transport⟩]) }

def step (s : State Thread Guard) : Action Thread Guard → Option (State Thread Guard)
  | .pool action => poolStep env maxConnections s action
  | .start guard call =>
    match s.slot guard, s.running guard with
    | some slot, none => some (s.start guard slot call)
    | _, _ => none
  | .advance guard =>
    match s.slot guard, s.running guard with
    | some slot, some r => s.advance env guard slot r
    | _, _ => none
  | .finish guard =>
    match s.slot guard, s.running guard with
    | some slot, some ⟨before, call, .done result⟩ => s.finish maxConnections guard slot before call result
    | _, _ => none

/-- The state after the actions that are possible; the others are left out. -/
def reached (actions : List (Action Thread Guard)) : State Thread Guard :=
  actions.foldl (fun s action => (step env maxConnections s action).getD s) {}

end System

/-! ## One run over every slot -/

section Serial

variable {Thread Guard : Type} [DecidableEq Thread] [DecidableEq Guard] [Fintype Thread]
  (env : Nat → Environment) (maxConnections : Nat)

/-- The transport of a slot when it is created. -/
def opened (i : Nat) : IOUtils.State := finalState (connect (env i) {})

/-- The transport of a slot after the exchanges that have ended. -/
def State.settled (s : State Thread Guard) (i : Nat) : IOUtils.State := lastState (opened env i) (s.steps i)

/-- The exchange over a guard is at a point of the run that it makes from where the one before it has ended. -/
def State.Underway (s : State Thread Guard) (guard : Guard) (r : Running) : Prop :=
  ∃ slot, s.slot guard = some slot ∧ r.before = s.settled env slot.id ∧
    r.rest.run (env slot.id).transport.methods (s.transports slot.id) =
      (env slot.id).transport.exchange r.call.request r.call.maxMessageSize r.before

/-- The exchanges over every slot are those of one run. -/
structure Serial (s : State Thread Guard) : Prop where
  pool : Reachable (Pool.system Thread Guard maxConnections) s.pool
  steps : ∀ i, s.steps i = exchangeAll (env i) ((s.steps i).map (·.call)) (opened env i)
  running : ∀ guard r, s.running guard = some r → s.Underway env guard r
  settled : ∀ slot, s.pool.Has slot → (∀ guard, s.slot guard = some slot → s.running guard = none) →
    s.transports slot.id = s.settled env slot.id
  connected : ∀ slot, s.pool.Has slot → slot.connected = (s.settled env slot.id).connected
  fresh : ∀ slot, s.pool.Has slot → slot.id < s.pool.nextSlot
  unused : ∀ i, s.pool.nextSlot ≤ i → s.steps i = []

end Serial

section Steps

variable {Thread Guard : Type} [DecidableEq Thread] [DecidableEq Guard] [Fintype Thread] [Fintype Guard]
  {env : Nat → Environment} {maxConnections : Nat} {s s' : State Thread Guard}

omit [DecidableEq Thread] [DecidableEq Guard] [Fintype Thread] [Fintype Guard] in
theorem slot_eq_some {guard : Guard} {slot : Pool.Slot} :
    s.slot guard = some slot ↔ ∃ client, s.pool.guards guard = some client ∧ client.slot = some slot := by
  unfold State.slot
  rw [Option.bind_eq_some_iff]

omit [DecidableEq Thread] [DecidableEq Guard] [Fintype Thread] [Fintype Guard] in
theorem slot_congr {guard : Guard} (h : s'.pool.guards guard = s.pool.guards guard) : s'.slot guard = s.slot guard := by
  unfold State.slot
  rw [h]

omit [DecidableEq Thread] [DecidableEq Guard] [Fintype Thread] [Fintype Guard] in
theorem has_of_slot {guard : Guard} {slot : Pool.Slot} (h : s.slot guard = some slot) : s.pool.Has slot :=
  .inr ⟨guard, slot_eq_some.1 h⟩

/-- The slot of a guard is nowhere else. -/
theorem Serial.unique (h : Serial env maxConnections s) {guard : Guard} {slot slot' : Pool.Slot}
    (hslot : s.slot guard = some slot) (hhas : s.pool.Has slot') (hid : slot'.id = slot.id) :
    slot' = slot ∧ ∀ guard', s.slot guard' = some slot' → guard' = guard := by
  have hplaced := Pool.placed_of_reachable h.pool
  have hheld : s.pool.holds guard = some slot.id := congrArg (Option.map Pool.Slot.id) hslot
  have hothers : ∀ guard' slot', s.slot guard' = some slot' → slot'.id = slot.id → guard' = guard := by
    intro guard' slot' hslot' hid
    refine hplaced.one_holder (x := slot.id) ?_ hheld
    rw [← hid]
    exact congrArg (Option.map Pool.Slot.id) hslot'
  rcases hhas with hidle | ⟨guard', hguard'⟩
  · refine absurd ?_ (hplaced.not_idle hheld)
    rw [← hid]
    exact List.mem_map_of_mem hidle
  · have hslot' := slot_eq_some.2 hguard'
    have heq := hothers guard' slot' hslot' hid
    rw [heq, hslot] at hslot'
    cases hslot'
    exact ⟨rfl, fun guard'' hslot'' => hothers guard'' slot hslot'' rfl⟩

omit [Fintype Guard] in
/-- Slots are moved, but not those of clients that are in use. -/
theorem Serial.reshuffle (h : Serial env maxConnections s) {pool : Pool.State Thread Guard} {guards : List Guard}
    (hpool : Reachable (Pool.system Thread Guard maxConnections) pool) (hmoved : Pool.Reshuffles guards s.pool pool)
    (hidle : ∀ guard ∈ guards, s.running guard = none) : Serial env maxConnections { s with pool := pool } := by
  have hslot : ∀ guard r, s.running guard = some r → (State.slot { s with pool := pool } guard) = s.slot guard := by
    intro guard r hr
    refine slot_congr (hmoved.frame guard fun hmem => ?_)
    cases (hidle guard hmem).symm.trans hr
  constructor
  case pool => exact hpool
  case steps => exact h.steps
  case running =>
    intro guard r hr
    obtain ⟨slot, hs, hrest⟩ := h.running guard r hr
    exact ⟨slot, (hslot guard r hr).trans hs, hrest⟩
  case settled =>
    intro slot hhas hfree
    refine h.settled slot (hmoved.slots slot hhas) fun guard hguard => ?_
    cases hr : s.running guard with
    | none => rfl
    | some r => exact hr.symm.trans (hfree guard ((hslot guard r hr).trans hguard))
  case connected => exact fun slot hhas => h.connected slot (hmoved.slots slot hhas)
  case fresh =>
    intro slot hhas
    exact (h.fresh slot (hmoved.slots slot hhas)).trans_le (Nat.le_of_eq hmoved.nextSlot.symm)
  case unused => exact fun i hi => h.unused i ((Nat.le_of_eq hmoved.nextSlot.symm).trans hi)

omit [Fintype Guard] in
theorem reachable_step {pool pool' : Pool.State Thread Guard} {action : Pool.Action Thread Guard}
    (h : Reachable (Pool.system Thread Guard maxConnections) pool)
    (hs : Pool.step maxConnections pool action = some pool') :
    Reachable (Pool.system Thread Guard maxConnections) pool' := by
  have hstep : (Pool.system Thread Guard maxConnections).step pool action = some pool' := hs
  exact h.step hstep

omit [DecidableEq Thread] [DecidableEq Guard] [Fintype Thread] [Fintype Guard] in
theorem connected_of_connect {env : Environment} {transport : IOUtils.State}
    (h : connect env {} = .ok true transport) : transport.connected = true := by
  obtain ⟨outcome, s₁, -, h⟩ := bind_eq_ok h
  cases outcome with
  | chunk k =>
    cases h
    rfl
  | fails n => cases h
  | throws message => cases h

omit [Fintype Thread] [Fintype Guard] in
/-- The slots after `create_slot` has succeeded. -/
theorem has_connectOk {pool : Pool.State Thread Guard} {thread : Thread} {guard : Guard} {slot : Pool.Slot}
    (h : ((Pool.State.handOut { pool with nextSlot := pool.nextSlot + 1 } guard ⟨pool.nextSlot, true⟩).setThread thread
      .outside).Has slot) : pool.Has slot ∨ slot = ⟨pool.nextSlot, true⟩ := by
  rcases h with hidle | ⟨g, client, hg, hslot⟩
  · exact .inl (.inl hidle)
  · change Function.update pool.guards guard (some ⟨true, some ⟨pool.nextSlot, true⟩, true⟩) g = some client at hg
    by_cases hguard : g = guard
    · rw [hguard, Function.update_self] at hg
      cases hg
      cases hslot
      exact .inr rfl
    · rw [Function.update_of_ne hguard] at hg
      exact .inl (.inr ⟨g, client, hg, hslot⟩)

omit [Fintype Guard] in
/-- A new slot has a transport of its own. -/
theorem Serial.addTransport (h : Serial env maxConnections s) {thread : Thread} {guard : Guard}
    {pool : Pool.State Thread Guard} (hstep : Pool.step maxConnections s.pool (.connectOk thread guard) = some pool)
    (hrunning : s.running guard = none) (hs' : s.addTransport env pool = some s') : Serial env maxConnections s' := by
  have hpool := reachable_step h.pool hstep
  simp only [Pool.step] at hstep
  split at hstep
  case isFalse => cases hstep
  case isTrue hthread =>
  unfold State.addTransport at hs'
  split at hs'
  case h_2 => cases hs'
  case h_1 transport hconnect =>
  cases hstep
  cases hs'
  have hopened : opened env s.pool.nextSlot = transport := by rw [opened, hconnect]; rfl
  have hnew : lastState (opened env s.pool.nextSlot) (s.steps s.pool.nextSlot) = transport := by
    rw [h.unused _ (Nat.le_refl _)]
    exact hopened
  have hold {slot : Pool.Slot} (hhas : s.pool.Has slot) : slot.id ≠ s.pool.nextSlot := Nat.ne_of_lt (h.fresh slot hhas)
  have hslot {guard' : Guard} (hne : guard' ≠ guard) :
      Function.update s.pool.guards guard (some ⟨true, some ⟨s.pool.nextSlot, true⟩, true⟩) guard' =
        s.pool.guards guard' := Function.update_of_ne hne _ _
  constructor
  case pool => exact hpool
  case steps => exact h.steps
  case running =>
    intro guard' r hr
    have hne : guard' ≠ guard := by
      rintro rfl
      cases hrunning.symm.trans hr
    obtain ⟨slot, hs, hbefore, hrun⟩ := h.running guard' r hr
    refine ⟨slot, (slot_congr (hslot hne)).trans hs, hbefore, ?_⟩
    dsimp only
    rw [Function.update_of_ne (hold (has_of_slot hs))]
    exact hrun
  case settled =>
    intro slot hhas hfree
    dsimp only
    rcases has_connectOk hhas with hhas | rfl
    · rw [Function.update_of_ne (hold hhas)]
      refine h.settled slot hhas fun guard' hguard' => ?_
      by_cases hne : guard' = guard
      · rw [hne]
        exact hrunning
      · exact hfree guard' ((slot_congr (hslot hne)).trans hguard')
    · exact (Function.update_self ..).trans hnew.symm
  case connected =>
    intro slot hhas
    rcases has_connectOk hhas with hhas | rfl
    · exact h.connected slot hhas
    · exact ((congrArg (·.connected) hnew).trans (connected_of_connect hconnect)).symm
  case fresh =>
    intro slot hhas
    rcases has_connectOk hhas with hhas | rfl
    · exact (h.fresh slot hhas).trans (Nat.lt_succ_self _)
    · exact Nat.lt_succ_self _
  case unused => exact fun i hi => h.unused i ((Nat.le_succ _).trans hi)

/-- An exchange starts from where the one before it has ended. -/
theorem Serial.start (h : Serial env maxConnections s) {guard : Guard} {slot : Pool.Slot}
    (hslot : s.slot guard = some slot) (hrunning : s.running guard = none) (call : Call) :
    Serial env maxConnections (s.start guard slot call) := by
  have hsettled : s.transports slot.id = s.settled env slot.id := by
    refine h.settled slot (has_of_slot hslot) fun guard' hguard' => ?_
    rw [(h.unique hslot (has_of_slot hslot) rfl).2 guard' hguard']
    exact hrunning
  constructor
  case pool => exact h.pool
  case steps => exact h.steps
  case running =>
    intro guard' r hr
    by_cases hguard : guard' = guard
    · subst hguard
      cases (Function.update_self ..).symm.trans hr
      exact ⟨slot, hslot, hsettled, congrFun (run_exchangeProgram _ call) _⟩
    · exact h.running guard' r ((Function.update_of_ne hguard _ _).symm.trans hr)
  case settled =>
    intro slot' hhas hfree
    refine h.settled slot' hhas fun guard' hguard' => ?_
    by_cases hguard : guard' = guard
    · rw [hguard]
      exact hrunning
    · exact (Function.update_of_ne hguard _ _).symm.trans (hfree guard' hguard')
  case connected => exact h.connected
  case fresh => exact h.fresh
  case unused => exact h.unused

/-- A call of an exchange leaves the other transports alone. -/
theorem Serial.advance (h : Serial env maxConnections s) {guard : Guard} {slot : Pool.Slot} {r : Running}
    (hslot : s.slot guard = some slot) (hrunning : s.running guard = some r)
    (hs' : s.advance env guard slot r = some s') : Serial env maxConnections s' := by
  obtain ⟨⟨rest, transport⟩, hadvance, rfl⟩ := Option.map_eq_some_iff.1 hs'
  constructor
  case pool => exact h.pool
  case steps => exact h.steps
  case running =>
    intro guard' r' hr'
    by_cases hguard : guard' = guard
    · subst hguard
      cases (Function.update_self ..).symm.trans hr'
      obtain ⟨slot', hslot', hbefore, hrun⟩ := h.running guard' r hrunning
      cases hslot.symm.trans hslot'
      refine ⟨slot, hslot, hbefore, ?_⟩
      dsimp only
      rw [Function.update_self, Program.run_advance hadvance]
      exact hrun
    · obtain ⟨slot', hslot', hbefore, hrun⟩ := h.running guard' r' ((Function.update_of_ne hguard _ _).symm.trans hr')
      refine ⟨slot', hslot', hbefore, ?_⟩
      dsimp only
      rw [Function.update_of_ne fun hid => hguard ?_]
      · exact hrun
      · exact (h.unique hslot (has_of_slot hslot') hid).2 guard' hslot'
  case settled =>
    intro slot' hhas hfree
    dsimp only
    by_cases hid : slot'.id = slot.id
    · have hnone := hfree guard (by rw [(h.unique hslot hhas hid).1]; exact hslot)
      cases (Function.update_self ..).symm.trans hnone
    · rw [Function.update_of_ne hid]
      refine h.settled slot' hhas fun guard' hguard' => ?_
      by_cases hguard : guard' = guard
      · rw [hguard, hslot] at hguard'
        cases hguard'
        exact absurd rfl hid
      · exact (Function.update_of_ne hguard _ _).symm.trans (hfree guard' hguard')
  case connected => exact h.connected
  case fresh => exact h.fresh
  case unused => exact h.unused

omit [DecidableEq Thread] [DecidableEq Guard] [Fintype Thread] [Fintype Guard] in
/-- What has ended is the exchange that was started. -/
theorem perform_of_done {env : Environment} {before transport : IOUtils.State} {call : Call}
    {result : Except Abort (List UInt8)}
    (h : (Program.done result : Program Method Method.Result Abort (List UInt8)).run env.transport.methods transport =
      env.transport.exchange call.request call.maxMessageSize before) :
    perform env before call = ⟨before, call, result.map fun _ => (), received transport result⟩ := by
  unfold perform
  rw [doExchange_eq, ← h]
  cases result <;> rfl

/-- The slots after `is_connected()` of a slot has changed: this one, and others with other transports. -/
theorem Serial.has_setConnected (h : Serial env maxConnections s) {guard : Guard} {slot slot' : Pool.Slot}
    {client : Pool.BorrowedClient} (hslot : s.slot guard = some slot) {connected : Bool}
    (hclient : client.slot = some { slot with connected := connected })
    (hhas : (s.pool.setGuard guard (some client)).Has slot') :
    slot' = { slot with connected := connected } ∨ s.pool.Has slot' ∧ slot'.id ≠ slot.id := by
  rcases hhas with hidle | ⟨g, c, hg, hc⟩
  · refine .inr ⟨.inl hidle, fun hid => ?_⟩
    have hheld : s.pool.holds guard = some slot.id := congrArg (Option.map Pool.Slot.id) hslot
    refine (Pool.placed_of_reachable h.pool).not_idle hheld ?_
    rw [← hid]
    exact List.mem_map_of_mem hidle
  · change Function.update s.pool.guards guard (some client) g = some c at hg
    by_cases hguard : g = guard
    · rw [hguard, Function.update_self] at hg
      cases hg
      cases hclient.symm.trans hc
      exact .inl rfl
    · rw [Function.update_of_ne hguard] at hg
      have hslot' : s.slot g = some slot' := slot_eq_some.2 ⟨c, hg, hc⟩
      exact .inr ⟨has_of_slot hslot', fun hid => hguard ((h.unique hslot (has_of_slot hslot') hid).2 g hslot')⟩

/-- An exchange that has ended is the next one of the run over its slot. -/
theorem Serial.finish (h : Serial env maxConnections s) {guard : Guard} {slot : Pool.Slot} {before : IOUtils.State}
    {call : Call} {result : Except Abort (List UInt8)} (hslot : s.slot guard = some slot)
    (hrunning : s.running guard = some ⟨before, call, .done result⟩)
    (hs' : s.finish maxConnections guard slot before call result = some s') : Serial env maxConnections s' := by
  obtain ⟨pool, hstep, rfl⟩ := Option.map_eq_some_iff.1 hs'
  have hpool := reachable_step h.pool hstep
  obtain ⟨slot', hslot', hbefore, hrun⟩ := h.running guard _ hrunning
  cases hslot.symm.trans hslot'
  have hperform := perform_of_done hrun
  generalize received (s.transports slot.id) result = transport at hperform hstep ⊢
  obtain ⟨⟨pointer, _, healthy⟩, hguard, rfl⟩ := slot_eq_some.1 hslot
  simp only [Pool.step, hguard] at hstep
  cases hstep
  have hothers {guard' : Guard} (hne : guard' ≠ guard) :
      Function.update s.pool.guards guard (some ⟨pointer, some { slot with connected := transport.connected }, healthy⟩)
        guard' = s.pool.guards guard' := Function.update_of_ne hne _ _
  have hlast {i : Nat} (hi : i ≠ slot.id) {step : Step} : Function.update s.steps slot.id
      (s.steps slot.id ++ [step]) i = s.steps i := Function.update_of_ne hi _ _
  constructor
  case pool => exact hpool
  case steps =>
    intro i
    dsimp only
    by_cases hi : i = slot.id
    · subst hi
      rw [Function.update_self, List.map_append, List.map_singleton, exchangeAll_append, ← h.steps]
      show _ = _ ++ [perform (env slot.id) (s.settled env slot.id) call]
      rw [← hbefore, hperform]
    · rw [hlast hi]
      exact h.steps i
  case running =>
    intro guard' r hr
    have hne : guard' ≠ guard := by
      rintro rfl
      cases (Function.update_self ..).symm.trans hr
    obtain ⟨slot', hs, hbefore', hrun'⟩ := h.running guard' r ((Function.update_of_ne hne _ _).symm.trans hr)
    have hid : slot'.id ≠ slot.id := fun hid => hne ((h.unique hslot (has_of_slot hs) hid).2 guard' hs)
    refine ⟨slot', (slot_congr (hothers hne)).trans hs, ?_, ?_⟩
    · unfold State.settled
      dsimp only
      rw [hlast hid]
      exact hbefore'
    · dsimp only
      rw [Function.update_of_ne hid]
      exact hrun'
  case settled =>
    intro slot' hhas hfree
    unfold State.settled
    dsimp only
    rcases h.has_setConnected hslot rfl hhas with rfl | ⟨hhas, hid⟩
    · rw [Function.update_self, Function.update_self, lastState_append]
    · rw [Function.update_of_ne hid, hlast hid]
      refine h.settled slot' hhas fun guard' hguard' => ?_
      have hne : guard' ≠ guard := by
        rintro rfl
        cases hslot.symm.trans hguard'
        exact hid rfl
      exact (Function.update_of_ne hne _ _).symm.trans (hfree guard' ((slot_congr (hothers hne)).trans hguard'))
  case connected =>
    intro slot' hhas
    unfold State.settled
    dsimp only
    rcases h.has_setConnected hslot rfl hhas with rfl | ⟨hhas, hid⟩
    · rw [Function.update_self, lastState_append]
    · rw [hlast hid]
      exact h.connected slot' hhas
  case fresh =>
    intro slot' hhas
    rcases h.has_setConnected hslot rfl hhas with rfl | ⟨hhas, hid⟩
    · exact h.fresh slot (has_of_slot hslot)
    · exact h.fresh slot' hhas
  case unused =>
    intro i hi
    dsimp only
    rw [hlast (Nat.ne_of_gt ((h.fresh slot (has_of_slot hslot)).trans_le hi))]
    exact h.unused i hi

omit [Fintype Thread] [DecidableEq Thread] [DecidableEq Guard] [Fintype Guard] in
theorem running_of_permits {action : Pool.Action Thread Guard} (h : s.permits action = true) :
    ∀ guard ∈ action.guards, s.running guard = none := by
  intro guard hguard
  have hall : action.guards.all (fun guard => (s.running guard).isNone) = true := by
    cases action with
    | setConnected => cases h
    | _ => exact h
  exact Option.isNone_iff_eq_none.1 (List.all_eq_true.1 hall guard hguard)

omit [Fintype Guard] in
theorem Serial.poolStep (h : Serial env maxConnections s) {action : Pool.Action Thread Guard}
    (hs' : poolStep env maxConnections s action = some s') : Serial env maxConnections s' := by
  unfold Pooled.poolStep at hs'
  split at hs'
  case isFalse => cases hs'
  case isTrue hpermits =>
    have hidle := running_of_permits hpermits
    obtain ⟨pool, hstep, hs'⟩ := Option.bind_eq_some_iff.1 hs'
    split at hs'
    · exact h.addTransport hstep (hidle _ (List.mem_singleton_self _)) hs'
    · rename_i hconnect
      cases hs'
      refine h.reshuffle (reachable_step h.pool hstep) (Pool.reshuffles_step hconnect ?_ hstep) hidle
      rintro guard connected rfl
      cases hpermits

/-- Every step keeps the exchanges over a slot in one run. -/
theorem Serial.step (h : Serial env maxConnections s) {action : Action Thread Guard}
    (hs' : step env maxConnections s action = some s') : Serial env maxConnections s' := by
  cases action with
  | pool action => exact h.poolStep hs'
  | start guard call =>
    simp only [Pooled.step] at hs'
    split at hs'
    · rename_i slot hslot hrunning
      cases hs'
      exact h.start hslot hrunning call
    · cases hs'
  | advance guard =>
    simp only [Pooled.step] at hs'
    split at hs'
    · rename_i slot r hslot hrunning
      exact h.advance hslot hrunning hs'
    · cases hs'
  | finish guard =>
    simp only [Pooled.step] at hs'
    split at hs'
    · rename_i slot before call result hslot hrunning
      exact h.finish hslot hrunning hs'
    · cases hs'

omit [Fintype Guard] in
theorem serial_initial : Serial env maxConnections ({} : State Thread Guard) := by
  have hnone (slot : Pool.Slot) : ¬({} : Pool.State Thread Guard).Has slot := by
    rintro (hidle | ⟨_, _, hguard, _⟩)
    · cases hidle
    · cases hguard
  exact ⟨.init, fun _ => rfl, fun _ _ hr => (by cases hr), fun slot h => absurd h (hnone slot),
    fun slot h => absurd h (hnone slot), fun slot h => absurd h (hnone slot), fun _ _ => rfl⟩

theorem serial_reached (env : Nat → Environment) (maxConnections : Nat) (actions : List (Action Thread Guard)) :
    Serial env maxConnections (reached env maxConnections actions) := by
  suffices h : ∀ s, Serial env maxConnections s → Serial env maxConnections
      (actions.foldl (fun s action => (Pooled.step env maxConnections s action).getD s) s) from h _ serial_initial
  induction actions with
  | nil => exact fun _ hs => hs
  | cons action actions ih =>
    intro s hs
    refine ih _ ?_
    cases hstep : Pooled.step env maxConnections s action with
    | none => simpa only [hstep, Option.getD_none] using hs
    | some s' => simpa only [hstep, Option.getD_some] using hs.step hstep

end Steps

/-! ## Runs -/

section Runs

variable {Thread Guard : Type} [DecidableEq Thread] [DecidableEq Guard] [Fintype Thread] [Fintype Guard]

/-- A new transport has read nothing. -/
theorem offset_opened (env : Nat → Environment) (i : Nat) : (opened env i).view.offset = fun _ => 0 := by
  have hposition : (opened env i).position = 0 := by
    unfold opened connect
    rw [bind_apply, operate]
    dsimp only
    cases (env i).schedule 0 <;> rfl
  funext c
  unfold View.offset State.view
  split <;> simp [hposition]

/-- **Exchanges over a pool are made one after the other.** In every run of any number of threads, with the calls of
their exchanges in any order:

- the exchanges over a slot are those of one run over its transport;
- an idle slot is connected, and its transport is where the last exchange over it has left it;
- if the peers reply in order, every exchange that returns has received the reply to its own request. -/
theorem exchanges_serial (env : Nat → Environment) (maxConnections : Nat) (actions : List (Action Thread Guard)) :
    (∀ i, (reached env maxConnections actions).steps i =
      exchangeAll (env i) (((reached env maxConnections actions).steps i).map (·.call)) (opened env i)) ∧
    (∀ slot ∈ (reached env maxConnections actions).pool.available, slot.connected = true ∧
      (reached env maxConnections actions).transports slot.id =
        (reached env maxConnections actions).settled env slot.id ∧
      ((reached env maxConnections actions).settled env slot.id).connected = true) ∧
    ∀ i reply, (∀ step, IsMessage (reply step)) →
      (∀ step ∈ (reached env maxConnections actions).steps i, Sendable step.call.request) →
      RepliesInOrder (env i) reply ((reached env maxConnections actions).steps i) (fun _ => 0) →
      ∀ step ∈ (reached env maxConnections actions).steps i, step.result = .ok () →
        step.after.responseBytes = reply step := by
  have hs := serial_reached env maxConnections actions
  generalize reached env maxConnections actions = s at hs ⊢
  refine ⟨hs.steps, fun slot hidle => ?_, fun i reply hmessage hsendable hreplies => ?_⟩
  · have hconnected := Pool.idle_connected hs.pool slot hidle
    refine ⟨hconnected, hs.settled slot (.inl hidle) fun guard hguard => ?_, ?_⟩
    · have hheld : s.pool.holds guard = some slot.id := congrArg (Option.map Pool.Slot.id) hguard
      exact absurd (List.mem_map_of_mem hidle) ((Pool.placed_of_reachable hs.pool).not_idle hheld)
    · rw [← hs.connected slot (.inl hidle)]
      exact hconnected
  · rw [hs.steps i] at hreplies ⊢
    refine replied_exchangeAll (env i) hmessage _ _ (fun call hcall => ?_) ?_
    · obtain ⟨step, hmem, rfl⟩ := List.mem_map.1 hcall
      exact hsendable step hmem
    · rw [offset_opened]
      exact hreplies

/-- Peers that send a message with the number of their slot over and over. -/
def numberedPeers (i : Nat) : Environment where
  peer _ p := [0x42, 0x00, 0x7B, 0x01, 0x00, 0x00, 0x00, 0x01, UInt8.ofNat i].getD (p % 9) 0
  schedule _ := .chunk 100

-- two threads make an exchange each at the same time; the second client is not destroyed while it is in use
example :
    let call : Call := ⟨[1, 2, 3, 4], 100⟩
    let s : State (Fin 2) (Fin 2) := reached numberedPeers 2
      [.pool (.tryBorrow 0 0), .pool (.tryBorrow 1 1), .pool (.connectOk 1 1), .pool (.connectOk 0 0), .start 0 call,
        .start 1 call, .advance 0, .advance 1, .advance 1, .pool (.destroy 1 none), .advance 0, .advance 0, .advance 1,
        .finish 1, .finish 0, .pool (.destroy 0 none)]
    (s.steps 0).map Step.response = [[0x42, 0x00, 0x7B, 0x01, 0x00, 0x00, 0x00, 0x01, 0x00]] ∧
      (s.steps 1).map Step.response = [[0x42, 0x00, 0x7B, 0x01, 0x00, 0x00, 0x00, 0x01, 0x01]] ∧
      s.pool.available = [⟨1, true⟩] := by
  decide +kernel

end Runs

end Kmip.Client.Pooled
