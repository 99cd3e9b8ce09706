import Kmip.Client.PoolAccounting

/-!
# Where the slots are

The log says where a slot must be: in a guard after it was handed out, in the idle list after it was returned healthy
and connected, and nowhere after it was discarded. `Placed` says that it is there, once, and every move keeps this
(`placed_of_reachable`). `Flagged` says that `healthy` is what `markUnhealthy` has made it, in every guard that the slot
was moved to and when it is returned (`flagged_of_reachable`).

With the books of `PoolAccounting` this gives the two main results:

* **Accounting** (`accounts_of_reachable`): the counter is the sum of its parts and at most the bound, every slot is in
  one place, and every slot that is handed out is given back once.
* **No lost wake-up** (`no_lost_wakeup`): while a thread sleeps that nobody has woken, at least as many threads have
  been woken as there is free capacity.
-/

namespace Kmip.Client.Pool

open Transition State BoundedPool BoundedPool.Ledger

/-! ## The log -/

/-- The newest event about a slot. -/
def lastEvent (log : List Event) (id : Nat) : Option Event := log.find? (fun e => e.id = id)

/-- The events of a slot, newest first. -/
def eventsOf (log : List Event) (id : Nat) : List Event := log.filter (fun e => e.id = id)

def Event.isHandOut (id : Nat) : Event → Bool
  | handedOut i => i = id
  | markedUnhealthy _ => false
  | returned _ _ _ => false

def Event.isReturn (id : Nat) : Event → Bool
  | handedOut _ => false
  | markedUnhealthy _ => false
  | returned i _ _ => i = id

/-- After the event its slot is in a guard. -/
def Event.inHand : Event → Bool
  | handedOut _ => true
  | markedUnhealthy _ => true
  | returned _ _ _ => false

/-- The last event of a slot in a guard with a flag: it was handed out, or marked since then. -/
def Event.flag (id : Nat) (healthy : Bool) : Event := if healthy then handedOut id else markedUnhealthy id

theorem head?_eventsOf (log : List Event) (id : Nat) : (eventsOf log id).head? = lastEvent log id := List.head?_filter

theorem lastEvent_cons (e : Event) (log : List Event) (id : Nat) :
    lastEvent (e :: log) id = if e.id = id then some e else lastEvent log id := by
  unfold lastEvent
  rw [List.find?_cons]
  by_cases h : e.id = id <;> simp [h]

/-- A slot that does not exist yet has no events. -/
theorem lastEvent_fresh {log : List Event} {id : Nat} (h : ∀ e ∈ log, e.id < id) : lastEvent log id = none := by
  unfold lastEvent
  rw [List.find?_eq_none]
  intro e he
  have := h e he
  simp only [decide_eq_true_eq]
  omega

/-! ## Places -/

section Places

variable {Guard : Type} [DecidableEq Guard] [Fintype Guard] {idle : List Nat} {holds : Guard → Option Nat}
  {log : List Event} {nextSlot : Nat}

/-- Every slot is where the log says: `idle` are the slots of the idle list, `holds` those of the guards. -/
structure Placed (idle : List Nat) (holds : Guard → Option Nat) (log : List Event) (nextSlot : Nat) : Prop where
  idle_count : ∀ id, idle.count id = if lastEvent log id = some (.returned id true true) then 1 else 0
  held_count : ∀ id, countWhere (· = some id) holds = if (lastEvent log id).any Event.inHand then 1 else 0
  balance : ∀ id, log.countP (Event.isHandOut id) =
    log.countP (Event.isReturn id) + countWhere (· = some id) holds
  fresh : ∀ e ∈ log, e.id < nextSlot

omit [DecidableEq Guard] in
theorem Placed.init : Placed [] (fun _ : Guard => none) [] 0 :=
  ⟨fun _ => rfl, fun _ => by simp [countWhere, lastEvent], fun _ => by simp [countWhere], fun _ h => by cases h⟩

/-- A slot that no guard holds is handed out: it leaves the idle list, if it was there, and goes to a guard. -/
theorem Placed.handOut (h : Placed idle holds log nextSlot) {guard : Guard} {x : Nat} {idle' : List Nat}
    {nextSlot' : Nat} (hguard : holds guard = none) (hfree : countWhere (· = some x) holds = 0)
    (hidle : idle'.count x = 0) (hothers : ∀ id, id ≠ x → idle'.count id = idle.count id)
    (hnext : nextSlot ≤ nextSlot') (hx : x < nextSlot') :
    Placed idle' (Function.update holds guard (some x)) (.handedOut x :: log) nextSlot' := by
  have hheld : ∀ id, countWhere (· = some id) (Function.update holds guard (some x)) =
      countWhere (· = some id) holds + if x = id then 1 else 0 := by
    intro id
    rw [countWhere_update_eq, hguard]
    by_cases hx : x = id <;> simp [hx]
  refine ⟨?_, ?_, ?_, ?_⟩
  · intro id
    rw [lastEvent_cons]
    by_cases hid : x = id
    · simp [← hid, Event.id, hidle]
    · simp [Event.id, hid, hothers id (Ne.symm hid), h.idle_count id]
  · intro id
    rw [hheld, lastEvent_cons]
    by_cases hid : x = id
    · simp [← hid, Event.id, Event.inHand, hfree]
    · simp [Event.id, hid, h.held_count id]
  · intro id
    have hbalance := h.balance id
    rw [hheld, List.countP_cons, List.countP_cons]
    simp only [Event.isHandOut, Event.isReturn, decide_eq_true_eq, Bool.false_eq_true, if_false]
    omega
  · intro e he
    rcases List.mem_cons.1 he with rfl | he
    · exact hx
    · exact (h.fresh e he).trans_le hnext

omit [DecidableEq Guard] [Fintype Guard] in
theorem Placed.of_lastEvent [Fintype Guard] (h : Placed idle holds log nextSlot) {x : Nat} {e : Event}
    (hlast : lastEvent log x = some e) : x < nextSlot := by
  have hid : e.id = x := of_decide_eq_true (List.find?_some (p := fun e : Event => decide (e.id = x)) hlast)
  rw [← hid]
  exact h.fresh e (List.mem_of_find?_eq_some hlast)

omit [DecidableEq Guard] in
/-- The last event of a slot in a guard. -/
theorem Placed.lastEvent_of_held (h : Placed idle holds log nextSlot) {guard : Guard} {x : Nat}
    (hguard : holds guard = some x) : ∃ e, lastEvent log x = some e ∧ e.inHand = true := by
  have hheld : 0 < countWhere (· = some x) holds := countWhere_pos.2 ⟨guard, decide_eq_true hguard⟩
  rw [h.held_count] at hheld
  split at hheld
  · rename_i hlast
    exact (Option.any_eq_true _ _).1 hlast
  · exact absurd hheld (Nat.lt_irrefl 0)

omit [DecidableEq Guard] in
/-- A slot has one holder. -/
theorem Placed.one_holder (h : Placed idle holds log nextSlot) {guard guard' : Guard} {x : Nat}
    (hguard : holds guard = some x) (hguard' : holds guard' = some x) : guard = guard' := by
  have hone : countWhere (· = some x) holds ≤ 1 := by
    rw [h.held_count]
    split <;> omega
  exact countWhere_le_one.1 hone guard guard' (decide_eq_true hguard) (decide_eq_true hguard')

omit [DecidableEq Guard] in
/-- A slot that is held is not idle. -/
theorem Placed.not_idle (h : Placed idle holds log nextSlot) {guard : Guard} {x : Nat} (hguard : holds guard = some x) :
    x ∉ idle := by
  intro hidle
  obtain ⟨e, hlast, hhand⟩ := h.lastEvent_of_held hguard
  have hcount : 0 < idle.count x := List.count_pos_iff.2 hidle
  rw [h.idle_count, hlast] at hcount
  split at hcount
  · rename_i heq
    cases heq
    cases hhand
  · exact absurd hcount (Nat.lt_irrefl 0)

/-- A guard gives its slot back: the slot goes to the idle list if it is healthy and connected, and is gone otherwise.
-/
theorem Placed.giveBack (h : Placed idle holds log nextSlot) {guard : Guard} {x : Nat} {healthy connected : Bool}
    {idle' : List Nat} (hguard : holds guard = some x)
    (hidle : idle'.count x = idle.count x + if healthy && connected then 1 else 0)
    (hothers : ∀ id, id ≠ x → idle'.count id = idle.count id) :
    Placed idle' (Function.update holds guard none) (.returned x healthy connected :: log) nextSlot := by
  obtain ⟨last, hlast, hhand⟩ := h.lastEvent_of_held hguard
  have hgone : idle.count x = 0 := List.count_eq_zero.2 (h.not_idle hguard)
  have hheld : ∀ id, countWhere (· = some id) (Function.update holds guard none) +
      (if x = id then 1 else 0) = countWhere (· = some id) holds := by
    intro id
    have hupdate := countWhere_update (· = some id) holds guard none
    rw [hguard] at hupdate
    by_cases hid : x = id <;> simpa [hid] using hupdate
  refine ⟨?_, ?_, ?_, ?_⟩
  · intro id
    rw [lastEvent_cons]
    by_cases hid : x = id
    · rw [← hid, hidle, hgone]
      cases healthy <;> cases connected <;> simp [Event.id]
    · simp [Event.id, hid, hothers id (Ne.symm hid), h.idle_count id]
  · intro id
    have hsum := hheld id
    rw [h.held_count id] at hsum
    rw [lastEvent_cons]
    by_cases hid : x = id
    · rw [← hid, hlast] at hsum
      rw [← hid]
      have hback : (Event.returned x healthy connected).inHand = false := rfl
      simpa [Event.id, hback, hhand] using hsum
    · simpa [Event.id, hid] using hsum
  · intro id
    have hsum := hheld id
    have hbalance := h.balance id
    rw [List.countP_cons, List.countP_cons]
    simp only [Event.isHandOut, Event.isReturn, decide_eq_true_eq, Bool.false_eq_true, if_false]
    omega
  · intro e he
    rcases List.mem_cons.1 he with rfl | he
    · exact h.of_lastEvent hlast
    · exact h.fresh e he

omit [DecidableEq Guard] in
/-- A slot that is held is marked. -/
theorem Placed.mark (h : Placed idle holds log nextSlot) {guard : Guard} {x : Nat} (hguard : holds guard = some x) :
    Placed idle holds (.markedUnhealthy x :: log) nextSlot := by
  obtain ⟨last, hlast, hhand⟩ := h.lastEvent_of_held hguard
  refine ⟨?_, ?_, ?_, ?_⟩
  · intro id
    rw [lastEvent_cons]
    by_cases hid : x = id
    · rw [← hid, List.count_eq_zero.2 (h.not_idle hguard)]
      simp [Event.id]
    · simp [Event.id, hid, h.idle_count id]
  · intro id
    rw [lastEvent_cons, h.held_count]
    by_cases hid : x = id
    · have hmarked : (Event.markedUnhealthy x).inHand = true := rfl
      simp [← hid, Event.id, hlast, hhand, hmarked]
    · simp [Event.id, hid]
  · intro id
    rw [List.countP_cons, List.countP_cons]
    exact h.balance id
  · intro e he
    rcases List.mem_cons.1 he with rfl | he
    · exact h.of_lastEvent hlast
    · exact h.fresh e he

/-- A guard passes what it holds on to a guard that holds nothing. -/
theorem Placed.transfer (h : Placed idle holds log nextSlot) {src dst : Guard} (hdst : holds dst = none)
    (hne : dst ≠ src) :
    Placed idle (Function.update (Function.update holds dst (holds src)) src none) log nextSlot := by
  have hsame : ∀ id, countWhere (· = some id) (Function.update (Function.update holds dst (holds src)) src none) =
      countWhere (· = some id) holds := by
    intro id
    have hfirst := countWhere_update (· = some id) holds dst (holds src)
    have hsecond := countWhere_update (· = some id) (Function.update holds dst (holds src)) src none
    rw [hdst] at hfirst
    rw [Function.update_of_ne (Ne.symm hne)] at hsecond
    simp only [reduceCtorEq, decide_false, Bool.toNat_false, Nat.add_zero] at hfirst hsecond
    omega
  refine ⟨h.idle_count, ?_, ?_, h.fresh⟩
  · intro id
    rw [hsame]
    exact h.held_count id
  · intro id
    rw [hsame]
    exact h.balance id

end Places

/-! ## The slots of a state -/

variable {Thread Guard : Type} [DecidableEq Thread] [DecidableEq Guard] [Fintype Thread] [Fintype Guard]
  {maxConnections : Nat} {s s' : State Thread Guard}

/-- The slots of the idle list. -/
def State.idleIds (s : State Thread Guard) : List Nat := s.available.map Slot.id

/-- The slot that a guard holds. -/
def State.holds (s : State Thread Guard) (guard : Guard) : Option Nat := ((s.guards guard).bind (·.slot)).map Slot.id

omit [DecidableEq Thread] [Fintype Thread] [Fintype Guard] in
theorem holds_setGuard (s : State Thread Guard) (guard : Guard) (client : Option BorrowedClient) :
    (s.setGuard guard client).holds = Function.update s.holds guard ((client.bind (·.slot)).map Slot.id) := by
  funext g
  unfold State.holds State.setGuard
  by_cases hg : g = guard
  · subst hg
    simp
  · simp [hg]

/-- Every slot of the state is where the log says. -/
def State.Placed (s : State Thread Guard) : Prop := Pool.Placed s.idleIds s.holds s.log s.nextSlot

omit [DecidableEq Thread] [DecidableEq Guard] [Fintype Thread] in
/-- The counter and the threads say nothing about the places. -/
theorem State.Placed.congr (hp : s.Placed) (havailable : s'.available = s.available) (hguards : s'.guards = s.guards)
    (hlog : s'.log = s.log) (hnext : s'.nextSlot = s.nextSlot) : s'.Placed := by
  unfold State.Placed State.idleIds State.holds at *
  rwa [havailable, hguards, hlog, hnext]

omit [DecidableEq Guard] in
theorem placed_notifyOne {wake : Option Thread} (h : s.notifyOne wake = some s') (hp : s.Placed) : s'.Placed := by
  obtain ⟨havailable, -, hguards, hnext, hlog⟩ := notifyOne_frame h
  exact hp.congr havailable hguards hlog hnext

/-- Every move keeps every slot in its place. -/
theorem Move.placed (hp : s.Placed) (h : Move maxConnections s s') : s'.Placed := by
  cases h with
  | take thread guard rest slot hthread hidle hguard =>
    have hids : s.idleIds = rest.map Slot.id ++ [slot.id] := by
      unfold State.idleIds
      rw [hidle, List.map_append]
      rfl
    have hcount := hp.idle_count slot.id
    rw [hids, List.count_append, List.count_singleton_self] at hcount
    have hlast : lastEvent s.log slot.id = some (.returned slot.id true true) := by
      by_contra hne
      rw [if_neg hne] at hcount
      omega
    rw [if_pos hlast] at hcount
    have hfree : countWhere (· = some slot.id) s.holds = 0 := by
      rw [hp.held_count, hlast]
      rfl
    have hnone : s.holds guard = none := by
      unfold State.holds
      rw [hguard]
      rfl
    show Pool.Placed (rest.map Slot.id) (s.setGuard guard (some ⟨true, some slot, true⟩)).holds _ s.nextSlot
    rw [holds_setGuard]
    refine Pool.Placed.handOut hp hnone hfree (by omega) ?_ le_rfl
      (hp.fresh (.returned slot.id true true) (List.mem_of_find?_eq_some hlast))
    intro id hid
    rw [hids, List.count_append, List.count_singleton]
    simp [Ne.symm hid]
  | reserve thread hthread hidle hroom => exact hp
  | sleep thread timed hthread hidle hfull => exact hp
  | giveUp thread hthread hidle hfull => exact hp
  | wake thread timed expired hthread => exact hp
  | connectOk thread guard hthread hguard =>
    have hlast := lastEvent_fresh hp.fresh
    have hnone : s.holds guard = none := by
      unfold State.holds
      rw [hguard]
      rfl
    show Pool.Placed s.idleIds (s.setGuard guard (some ⟨true, some ⟨s.nextSlot, true⟩, true⟩)).holds _ _
    rw [holds_setGuard]
    refine Pool.Placed.handOut hp hnone ?_ ?_ (fun _ _ => rfl) (Nat.le_succ _) (Nat.lt_succ_self _)
    · rw [hp.held_count, hlast]
      rfl
    · rw [hp.idle_count, hlast]
      rfl
  | connectFail _ thread wake hthread hnotify =>
    obtain ⟨havailable, -, hguards, hnext, hlog⟩ := notifyOne_frame hnotify
    simp only [State.setThread] at havailable hguards hnext hlog
    exact hp.congr havailable hguards hlog hnext
  | giveBack _ guard slot healthy wake hguard hreturn =>
    have hholds : s.holds guard = some slot.id := by
      unfold State.holds
      rw [hguard]
      rfl
    have hempty := holds_setGuard s guard (some ⟨true, none, healthy⟩)
    unfold returnSlot at hreturn
    dsimp only at hreturn
    split at hreturn
    case isTrue hkeep =>
      refine placed_notifyOne hreturn ?_
      show Pool.Placed ((s.available ++ [slot]).map Slot.id) (s.setGuard guard (some ⟨true, none, healthy⟩)).holds _ _
      rw [hempty, List.map_append]
      refine Pool.Placed.giveBack hp hholds ?_ ?_
      · have hboth : (healthy && slot.connected) = true := by simpa using hkeep
        rw [if_pos hboth, List.count_append]
        simp [State.idleIds]
      · intro id hid
        rw [List.count_append]
        simp [State.idleIds, Ne.symm hid]
    case isFalse hdiscard =>
      have hnot : (healthy && slot.connected) = false := by
        simpa [Bool.and_eq_false_iff, ← Bool.not_eq_true] using hdiscard
      have hgone : State.Placed { s.setGuard guard (some ⟨true, none, healthy⟩) with
          log := .returned slot.id healthy slot.connected :: s.log } := by
        show Pool.Placed s.idleIds (s.setGuard guard (some ⟨true, none, healthy⟩)).holds _ _
        rw [hempty]
        refine Pool.Placed.giveBack hp hholds ?_ fun _ _ => rfl
        rw [hnot]
        rfl
      obtain ⟨havailable, -, hguards, hnext, hlog⟩ := notifyOne_frame hreturn
      exact hgone.congr havailable hguards hlog hnext
  | transfer src dst other hsrc hdst hne =>
    have hfrom : s.holds src = other.slot.map Slot.id := by
      unfold State.holds
      rw [hsrc]
      rfl
    have hnone : s.holds dst = none := by
      unfold State.holds
      cases hc : s.guards dst with
      | none => rfl
      | some client => simp [hdst client hc]
    show Pool.Placed s.idleIds
      ((s.setGuard dst (some other)).setGuard src (some { other with pool := false, slot := none })).holds _ _
    rw [holds_setGuard, holds_setGuard]
    have hmoved := Pool.Placed.transfer hp hnone hne
    rw [hfrom] at hmoved
    exact hmoved
  | change guard client client' hguard hpool hslot hhealthy =>
    have hsame : (s.setGuard guard (some client')).holds = s.holds := by
      rw [holds_setGuard, Function.update_eq_self_iff]
      show client'.slot.map Slot.id = s.holds guard
      rw [hslot]
      unfold State.holds
      rw [hguard]
      rfl
    show Pool.Placed s.idleIds (s.setGuard guard (some client')).holds s.log s.nextSlot
    rw [hsame]
    exact hp
  | mark guard client hguard =>
    have hsame : (s.setGuard guard (some { client with healthy := false })).holds = s.holds := by
      rw [holds_setGuard, Function.update_eq_self_iff]
      unfold State.holds
      rw [hguard]
      rfl
    show Pool.Placed s.idleIds (s.setGuard guard (some { client with healthy := false })).holds _ s.nextSlot
    rw [hsame]
    cases hslot : client.slot with
    | none =>
      rw [markUnhealthy_log.2 hslot]
      exact hp
    | some slot =>
      rw [markUnhealthy_log.1 slot hslot]
      have hholds : s.holds guard = some slot.id := by
        unfold State.holds
        rw [hguard]
        simp [hslot]
      exact Pool.Placed.mark hp hholds
  | clear guard client hguard hslot =>
    have hsame : (s.setGuard guard none).holds = s.holds := by
      rw [holds_setGuard, Function.update_eq_self_iff]
      unfold State.holds
      rw [hguard]
      simp [hslot]
    show Pool.Placed s.idleIds (s.setGuard guard none).holds s.log s.nextSlot
    rw [hsame]
    exact hp

/-- In every reachable state, every slot is where the log says. -/
theorem placed_of_reachable (h : Reachable (system Thread Guard maxConnections) s) : s.Placed :=
  reachable_of_moves Placed.init (fun _ _ hp hm => hm.placed hp) h

/-! ## Flags -/

/-- Every return of the log has the flag that the events before it give. -/
def Returns (log : List Event) : Prop :=
  ∀ id newer older healthy connected, eventsOf log id = newer ++ .returned id healthy connected :: older →
    older.head? = some (.flag id healthy)

theorem Returns.cons {log : List Event} {e : Event} (h : Returns log)
    (he : ∀ id healthy connected, e = .returned id healthy connected →
      lastEvent log id = some (.flag id healthy)) : Returns (e :: log) := by
  intro id newer older healthy connected heq
  unfold eventsOf at heq
  rw [List.filter_cons] at heq
  split at heq
  · cases newer with
    | nil =>
      obtain ⟨hevent, holder⟩ := List.cons.inj heq
      rw [← holder]
      exact (head?_eventsOf log id).trans (he id healthy connected hevent)
    | cons first newer => exact h id newer older healthy connected (List.cons.inj heq).2
  · exact h id newer older healthy connected heq

/-- `healthy` is what `markUnhealthy` has made it since the slot was handed out, in the guard that has the slot now and
when it is returned. -/
structure State.Flagged (s : State Thread Guard) : Prop where
  guards : ∀ guard client slot, s.guards guard = some client → client.slot = some slot →
    lastEvent s.log slot.id = some (.flag slot.id client.healthy)
  returns : Returns s.log

omit [DecidableEq Thread] [DecidableEq Guard] [Fintype Thread] [Fintype Guard] in
/-- Slots that are passed on with their flags. -/
theorem State.Flagged.passOn (hf : s.Flagged) (hlog : s'.log = s.log)
    (hguards : ∀ guard client slot, s'.guards guard = some client → client.slot = some slot →
      ∃ guard' client' slot', s.guards guard' = some client' ∧ client'.slot = some slot' ∧ slot'.id = slot.id ∧
        client'.healthy = client.healthy) : s'.Flagged := by
  constructor
  · intro guard client slot hguard hslot
    obtain ⟨guard', client', slot', hguard', hslot', hid, hhealthy⟩ := hguards guard client slot hguard hslot
    rw [hlog, ← hid, ← hhealthy]
    exact hf.guards guard' client' slot' hguard' hslot'
  · rw [hlog]
    exact hf.returns

omit [DecidableEq Thread] [Fintype Thread] [Fintype Guard] in
/-- An event about one slot, with the guard that it is about. -/
theorem State.Flagged.event (hf : s.Flagged) (guard : Guard) (client : BorrowedClient) (e : Event)
    (hlog : s'.log = e :: s.log) (hguards : s'.guards = Function.update s.guards guard (some client))
    (hothers : ∀ g, g ≠ guard → s.holds g ≠ some e.id)
    (hclient : ∀ slot, client.slot = some slot → e = .flag slot.id client.healthy)
    (he : ∀ id healthy connected, e = .returned id healthy connected →
      lastEvent s.log id = some (.flag id healthy)) : s'.Flagged := by
  constructor
  · intro g c slot hg hslot
    rw [hlog, lastEvent_cons]
    rw [hguards] at hg
    by_cases hgg : g = guard
    · rw [hgg, Function.update_self] at hg
      cases hg
      have hevent := hclient slot hslot
      have hid : e.id = slot.id := by
        rw [hevent, Event.flag]
        split <;> rfl
      rw [if_pos hid, hevent]
    · rw [Function.update_of_ne hgg] at hg
      have hne : e.id ≠ slot.id := by
        intro hid
        refine hothers g hgg ?_
        rw [hid]
        unfold State.holds
        rw [hg]
        simp [hslot]
      rw [if_neg hne]
      exact hf.guards g c slot hg hslot
  · rw [hlog]
    exact hf.returns.cons he

/-- Every move keeps the flags. -/
theorem Move.flagged (hp : s.Placed) (hf : s.Flagged) (h : Move maxConnections s s') : s'.Flagged := by
  cases h with
  | take thread guard rest slot hthread hidle hguard =>
    refine hf.event guard ⟨true, some slot, true⟩ (.handedOut slot.id) rfl rfl ?_ ?_ ?_
    · intro g _ hg
      refine Pool.Placed.not_idle hp hg ?_
      unfold State.idleIds
      rw [hidle]
      simp [Event.id]
    · intro slot' hslot'
      cases hslot'
      rfl
    · intro _ _ _ he
      cases he
  | reserve thread hthread hidle hroom => exact ⟨hf.guards, hf.returns⟩
  | sleep thread timed hthread hidle hfull => exact ⟨hf.guards, hf.returns⟩
  | giveUp thread hthread hidle hfull => exact ⟨hf.guards, hf.returns⟩
  | wake thread timed expired hthread => exact ⟨hf.guards, hf.returns⟩
  | connectOk thread guard hthread hguard =>
    refine hf.event guard ⟨true, some ⟨s.nextSlot, true⟩, true⟩ (.handedOut s.nextSlot) rfl rfl ?_ ?_ ?_
    · intro g _ hg
      obtain ⟨e, hlast, -⟩ := Pool.Placed.lastEvent_of_held hp hg
      rw [show (Event.handedOut s.nextSlot).id = s.nextSlot from rfl, lastEvent_fresh hp.fresh] at hlast
      cases hlast
    · intro slot' hslot'
      cases hslot'
      rfl
    · intro _ _ _ he
      cases he
  | connectFail _ thread wake hthread hnotify =>
    obtain ⟨-, -, hguards, -, hlog⟩ := notifyOne_frame hnotify
    exact hf.passOn hlog fun guard client slot hguard hslot =>
      ⟨guard, client, slot, by rw [← hguard, hguards]; rfl, hslot, rfl, rfl⟩
  | giveBack _ guard slot healthy wake hguard hreturn =>
    have hholds : s.holds guard = some slot.id := by
      unfold State.holds
      rw [hguard]
      rfl
    have hlog := returnSlot_log hreturn
    refine hf.event guard ⟨true, none, healthy⟩ _ hlog (returnSlot_guards hreturn) ?_ ?_ ?_
    · intro g hne hg
      exact hne (Pool.Placed.one_holder hp hg hholds)
    · intro slot' hslot'
      cases hslot'
    · intro id healthy' connected he
      cases he
      exact hf.guards guard _ slot hguard rfl
  | transfer src dst other hsrc hdst hne =>
    refine hf.passOn rfl fun guard client slot hguard hslot => ?_
    unfold State.transfer State.setGuard at hguard
    dsimp only at hguard
    by_cases hgs : guard = src
    · rw [hgs, Function.update_self] at hguard
      cases hguard
      cases hslot
    · rw [Function.update_of_ne hgs] at hguard
      by_cases hgd : guard = dst
      · rw [hgd, Function.update_self] at hguard
        cases hguard
        exact ⟨src, other, slot, hsrc, hslot, rfl, rfl⟩
      · rw [Function.update_of_ne hgd] at hguard
        exact ⟨guard, client, slot, hguard, hslot, rfl, rfl⟩
  | change guard client client' hguard hpool hslot hhealthy =>
    refine hf.passOn rfl fun g c slot hg hc => ?_
    unfold State.setGuard at hg
    dsimp only at hg
    by_cases hgg : g = guard
    · rw [hgg, Function.update_self] at hg
      cases hg
      rw [hc, Option.map_some] at hslot
      obtain ⟨slot', hslot', hid⟩ := Option.map_eq_some_iff.1 hslot.symm
      exact ⟨guard, client, slot', hguard, hslot', hid, hhealthy.symm⟩
    · rw [Function.update_of_ne hgg] at hg
      exact ⟨g, c, slot, hg, hc, rfl, rfl⟩
  | mark guard client hguard =>
    cases hslot : client.slot with
    | none =>
      refine hf.passOn (markUnhealthy_log.2 hslot) fun g c slot hg hc => ?_
      unfold State.markUnhealthy State.setGuard at hg
      dsimp only at hg
      by_cases hgg : g = guard
      · rw [hgg, Function.update_self] at hg
        cases hg
        rw [show client.slot = some slot from hc] at hslot
        cases hslot
      · rw [Function.update_of_ne hgg] at hg
        exact ⟨g, c, slot, hg, hc, rfl, rfl⟩
    | some slot =>
      have hholds : s.holds guard = some slot.id := by
        unfold State.holds
        rw [hguard]
        simp [hslot]
      refine hf.event guard { client with healthy := false } (.markedUnhealthy slot.id)
        (markUnhealthy_log.1 slot hslot) rfl ?_ ?_ ?_
      · intro g hne hg
        exact hne (Pool.Placed.one_holder hp hg hholds)
      · intro slot' hslot'
        rw [show client.slot = some slot' from hslot'] at hslot
        cases hslot
        rfl
      · intro _ _ _ he
        cases he
  | clear guard client hguard hslot =>
    refine hf.passOn rfl fun g c slot hg hc => ?_
    unfold State.setGuard at hg
    dsimp only at hg
    by_cases hgg : g = guard
    · rw [hgg, Function.update_self] at hg
      cases hg
    · rw [Function.update_of_ne hgg] at hg
      exact ⟨g, c, slot, hg, hc, rfl, rfl⟩

/-- In every reachable state, the flags are those of `markUnhealthy`. -/
theorem flagged_of_reachable (h : Reachable (system Thread Guard maxConnections) s) : s.Flagged := by
  have hinit : ({} : State Thread Guard).Flagged := by
    constructor
    · intro _ _ _ hg
      cases hg
    · intro _ newer _ _ _ heq
      cases newer <;> cases heq
  exact (reachable_of_moves (I := fun s => s.Placed ∧ s.Flagged) ⟨Placed.init, hinit⟩
    (fun _ _ hs hm => ⟨hm.placed hs.1, hm.flagged hs.1 hs.2⟩) h).2

/-! ## Accounting -/

/-- What the pool guarantees about its slots. -/
structure Accounts (maxConnections : Nat) (s : State Thread Guard) : Prop where
  total_eq : s.totalCount = s.available.length + countWhere holdsSlot s.guards +
    countWhere ThreadState.isConnecting s.threads
  total_le : s.totalCount ≤ maxConnections
  -- a slot is in the idle list once or not at all, and then no guard has it
  idle_nodup : s.idleIds.Nodup
  idle_not_held : ∀ id ∈ s.idleIds, ∀ guard, s.holds guard ≠ some id
  one_holder : ∀ id guard guard', s.holds guard = some id → s.holds guard' = some id → guard = guard'
  -- a slot that is in neither place was discarded when it was last returned
  not_lost : ∀ id, lastEvent s.log id ≠ none → id ∈ s.idleIds ∨ (∃ guard, s.holds guard = some id) ∨
    ∃ healthy connected, lastEvent s.log id = some (.returned id healthy connected) ∧ (healthy && connected) = false
  given_back_once : ∀ id, s.log.countP (Event.isHandOut id) =
    s.log.countP (Event.isReturn id) + if ∃ guard, s.holds guard = some id then 1 else 0
  -- an idle slot was returned healthy and connected, and never marked since it was last handed out
  idle_healthy : ∀ id ∈ s.idleIds, ∃ older, eventsOf s.log id = .returned id true true :: .handedOut id :: older
  flagged : s.Flagged

omit [DecidableEq Thread] [DecidableEq Guard] in
/-- Books that are in order, slots that are in their places and flags that are right. -/
theorem Accounts.of_placed (hb : Balanced maxConnections s.ledger) (hp : s.Placed) (hf : s.Flagged) :
    Accounts maxConnections s := by
  have hidle : ∀ id, id ∈ s.idleIds ↔ lastEvent s.log id = some (.returned id true true) := by
    intro id
    rw [← List.count_pos_iff, hp.idle_count]
    split <;> simp [*]
  have hheld : ∀ id, (∃ guard, s.holds guard = some id) ↔ (lastEvent s.log id).any Event.inHand = true := by
    intro id
    have hpos := countWhere_pos (p := (· = some id)) (f := s.holds)
    simp only [decide_eq_true_eq] at hpos
    rw [← hpos, hp.held_count]
    split <;> simp [*]
  refine ⟨hb.total_eq, hb.total_le, ?_, fun id hid guard hguard => Pool.Placed.not_idle hp hguard hid,
    fun _ _ _ hguard hguard' => Pool.Placed.one_holder hp hguard hguard', ?_, ?_, ?_, hf⟩
  · rw [List.nodup_iff_count_le_one]
    intro id
    rw [hp.idle_count]
    split <;> omega
  · intro id hne
    obtain ⟨e, hlast⟩ := Option.ne_none_iff_exists'.1 hne
    have hid : e.id = id := of_decide_eq_true (List.find?_some (p := fun e : Event => decide (e.id = id)) hlast)
    rw [hidle, hheld, hlast]
    cases e with
    | handedOut i => exact .inr (.inl rfl)
    | markedUnhealthy i => exact .inr (.inl rfl)
    | returned i healthy connected =>
      have hi : i = id := hid
      rw [hi]
      cases healthy <;> cases connected <;> simp
  · intro id
    rw [hp.balance, hp.held_count]
    simp only [hheld]
  · intro id hid
    have hlast := (head?_eventsOf s.log id).trans ((hidle id).1 hid)
    obtain ⟨older, hevents⟩ := List.head?_eq_some_iff.1 hlast
    obtain ⟨older', holder⟩ := List.head?_eq_some_iff.1 (hf.returns id [] older true true hevents)
    exact ⟨older', by rw [hevents, holder]; rfl⟩

/-! ## Reservations -/

section Reservations

omit [Fintype Guard]

variable {thread t : Thread} {guard : Guard} {wake : Option Thread}

omit [DecidableEq Guard] [Fintype Thread] in
theorem connecting_setThread {state : ThreadState} (h : (s.setThread thread state).threads t = .connecting)
    (hne : state ≠ .connecting) : s.threads t = .connecting := by
  unfold State.setThread at h
  by_cases ht : t = thread
  · rw [ht] at h
    simp only [Function.update_self] at h
    exact absurd h hne
  · simpa only [Function.update_of_ne ht] using h

omit [DecidableEq Guard] in
theorem connecting_notifyOne (hs : s.notifyOne wake = some s') (h : s'.threads t = .connecting) :
    s.threads t = .connecting := by
  cases wake with
  | none =>
    simp only [notifyOne] at hs
    split at hs
    · cases hs
      exact h
    · cases hs
  | some u =>
    simp only [notifyOne] at hs
    split at hs
    · cases hs
      exact connecting_setThread h (by simp)
    · cases hs

theorem connecting_giveBack (hs : s.giveBack guard wake = some s') (h : s'.threads t = .connecting) :
    s.threads t = .connecting := by
  unfold giveBack at hs
  split at hs
  · unfold returnSlot at hs
    dsimp only at hs
    split at hs
    · have hbefore := connecting_notifyOne hs h
      exact hbefore
    · have hbefore := connecting_notifyOne hs h
      exact hbefore
  · cases hs
    exact h

omit [Fintype Thread] in
/-- A thread starts to connect when it has reserved a slot: only the counter changes. -/
theorem reserves_acquireLocked (hs : s.acquireLocked thread guard = some s') (hnot : s.threads t ≠ .connecting)
    (h : s'.threads t = .connecting) :
    s.available = [] ∧ s'.totalCount = sizeAdd s.totalCount 1 ∧ s'.available = s.available ∧ s'.guards = s.guards := by
  unfold acquireLocked at hs
  cases hlast : s.available.getLast? with
  | none =>
    rw [hlast] at hs
    cases hs
    exact ⟨List.getLast?_eq_none_iff.1 hlast, rfl, rfl, rfl⟩
  | some slot =>
    rw [hlast] at hs
    dsimp only at hs
    split at hs
    · cases hs
      have hbefore := connecting_setThread h nofun
      exact absurd hbefore hnot
    · cases hs

/-- The same for a step, in which the counter does not wrap around. -/
theorem reserves_step (hmax : maxConnections < 2 ^ 64) {action : Action Thread Guard}
    (hs : step maxConnections s action = some s') (hnot : s.threads t ≠ .connecting) (h : s'.threads t = .connecting) :
    s'.totalCount = s.totalCount + 1 ∧ s'.available = s.available ∧ s'.guards = s.guards := by
  have hacquire : ∀ {thread guard}, (s.available = [] → s.totalCount < maxConnections) →
      s.acquireLocked thread guard = some s' →
        s'.totalCount = s.totalCount + 1 ∧ s'.available = s.available ∧ s'.guards = s.guards := by
    intro thread guard hcapacity hs
    obtain ⟨hidle, htotal, hframe⟩ := reserves_acquireLocked hs hnot h
    have hlt := hcapacity hidle
    refine ⟨htotal.trans (sizeAdd_of_lt (by omega)), hframe⟩
  have hthread : ∀ {thread state}, some (s.setThread thread state) = some s' → state ≠ .connecting → False := by
    intro thread state hs hne
    cases hs
    exact hnot (connecting_setThread h hne)
  cases action with
  | borrow thread timed guard =>
    simp only [step] at hs
    split at hs
    · split at hs
      case isTrue hcap => exact hacquire (hasCapacity_iff.1 hcap) hs
      case isFalse => exact (hthread hs (by simp)).elim
    · cases hs
  | tryBorrow thread guard =>
    simp only [step] at hs
    split at hs
    · split at hs
      case isTrue =>
        cases hs
        exact absurd h hnot
      case isFalse hcap =>
        refine hacquire (fun hidle => ?_) hs
        simpa [hidle] using hcap
    · cases hs
  | recheck thread guard =>
    simp only [step] at hs
    split at hs
    · split at hs
      case isTrue hcap => exact hacquire (hasCapacity_iff.1 hcap) hs
      case isFalse =>
        split at hs
        · exact (hthread hs (by simp)).elim
        · exact (hthread hs (by simp)).elim
    · cases hs
  | wakeUp thread =>
    simp only [step] at hs
    split at hs
    · exact (hthread hs (by simp)).elim
    · cases hs
  | timeout thread =>
    simp only [step] at hs
    split at hs
    · exact (hthread hs (by simp)).elim
    · cases hs
  | connectOk thread guard =>
    simp only [step] at hs
    split at hs
    · cases hs
      have hbefore := connecting_setThread h (by simp)
      exact absurd hbefore hnot
    · cases hs
  | connectFail thread wake =>
    simp only [step] at hs
    split at hs
    · have hbefore := connecting_setThread (connecting_notifyOne hs h) (by simp)
      exact absurd hbefore hnot
    · cases hs
  | moveConstruct src dst =>
    simp only [step] at hs
    split at hs
    · cases hs
      exact absurd h hnot
    · cases hs
  | moveAssign src dst wake =>
    simp only [step] at hs
    split at hs
    · split at hs
      · cases hs
        exact absurd h hnot
      · obtain ⟨s₁, hback, rfl⟩ := Option.map_eq_some_iff.1 hs
        exact absurd (connecting_giveBack hback h) hnot
    · cases hs
  | destroy guard wake =>
    simp only [step] at hs
    split at hs
    · obtain ⟨s₁, hback, rfl⟩ := Option.map_eq_some_iff.1 hs
      exact absurd (connecting_giveBack hback h) hnot
    · cases hs
  | markUnhealthy guard =>
    simp only [step] at hs
    split at hs
    · cases hs
      exact absurd h hnot
    · cases hs
  | setConnected guard connected =>
    simp only [step] at hs
    split at hs
    · cases hs
      exact absurd h hnot
    · cases hs

end Reservations

/-- A failed connect takes its reservation back: only the counter changes. -/
theorem connectFail_step (hb : Balanced maxConnections s.ledger) {thread : Thread} {wake : Option Thread}
    (hs : step maxConnections s (.connectFail thread wake) = some s') :
    s'.totalCount + 1 = s.totalCount ∧ s'.available = s.available ∧ s'.guards = s.guards := by
  simp only [step] at hs
  split at hs
  case isTrue hthread =>
    have hpos : 0 < s.ledger.reserved := countWhere_pos.2 ⟨thread, by rw [hthread]; rfl⟩
    have hsum : s.totalCount = _ := hb.total_eq
    have hsub : sizeSub s.totalCount 1 = s.totalCount - 1 := sizeSub_of_le (by omega)
    obtain ⟨havailable, htotal, hguards, -, -⟩ := notifyOne_frame hs
    refine ⟨?_, havailable, hguards⟩
    have htotal' : s'.totalCount = sizeSub s.totalCount 1 := htotal
    omega
  case isFalse => cases hs

/-- **Accounting.** In every reachable state the accounts are in order; a reservation adds one to the counter and
changes nothing else, and a failed connect takes the one back, whatever happened in between. -/
theorem accounts_of_reachable (maxConnections : Nat) (hmax : maxConnections < 2 ^ 64) (s : State Thread Guard)
    (h : Reachable (system Thread Guard maxConnections) s) :
    Accounts maxConnections s ∧
    (∀ action s' thread, step maxConnections s action = some s' → s.threads thread ≠ .connecting →
      s'.threads thread = .connecting →
        s'.totalCount = s.totalCount + 1 ∧ s'.available = s.available ∧ s'.guards = s.guards) ∧
    (∀ thread wake s', step maxConnections s (.connectFail thread wake) = some s' →
      s'.totalCount + 1 = s.totalCount ∧ s'.available = s.available ∧ s'.guards = s.guards) := by
  have hb := balanced_of_reachable hmax h
  refine ⟨Accounts.of_placed hb (placed_of_reachable h) (flagged_of_reachable h), ?_, ?_⟩
  · intro action s' thread hs hnot hconnecting
    exact reserves_step hmax hs hnot hconnecting
  · intro thread wake s' hs
    exact connectFail_step hb hs

/-- Two threads share one connection: the guard is moved before it is destroyed, and the waiting thread is woken. -/
def sharedRun : List (Action (Fin 2) (Fin 2)) :=
  [.borrow 0 false 0, .connectOk 0 0, .borrow 1 true 1, .moveConstruct 0 1, .destroy 1 (some 1), .recheck 1 1]

theorem accounts_sharedRun :
    ∃ s, run (system (Fin 2) (Fin 2) 1) {} sharedRun = some s ∧ s.holds 1 = some 0 ∧ Accounts 1 s :=
  ⟨_, rfl, rfl, (accounts_of_reachable 1 (by norm_num) _ (Reachable.init.run sharedRun rfl)).1⟩

/-! ## Waiting threads -/

/-- **No lost wake-up.** While a thread sleeps that was not woken, at least as many threads were woken and have not
checked again as there is free capacity. So when every thread is asleep or outside and somebody sleeps, nothing is free.
-/
theorem no_lost_wakeup (maxConnections : Nat) (hmax : maxConnections < 2 ^ 64) (s : State Thread Guard)
    (h : Reachable (system Thread Guard maxConnections) s) :
    ((∃ thread timed, s.threads thread = .sleeping timed) →
      s.available.length + (maxConnections - s.totalCount) ≤ countWhere ThreadState.isWoken s.threads) ∧
    ((∀ thread, s.threads thread = .outside ∨ ∃ timed, s.threads thread = .sleeping timed) →
      (∃ thread timed, s.threads thread = .sleeping timed) → s.available = [] ∧ s.totalCount = maxConnections) := by
  have hb := balanced_of_reachable hmax h
  have hcovered : (∃ thread timed, s.threads thread = .sleeping timed) →
      s.available.length + (maxConnections - s.totalCount) ≤ countWhere ThreadState.isWoken s.threads := by
    rintro ⟨thread, timed, hsleeping⟩
    exact hb.covered (countWhere_pos.2 ⟨thread, by rw [hsleeping]; rfl⟩)
  refine ⟨hcovered, ?_⟩
  intro hquiet hsleeps
  have hnone : countWhere ThreadState.isWoken s.threads = 0 := by
    rw [countWhere_eq_zero]
    intro thread
    rcases hquiet thread with hthread | ⟨timed, hthread⟩
    · rw [hthread]
      rfl
    · rw [hthread]
      rfl
  have hfree := hcovered hsleeps
  have hle : s.totalCount ≤ maxConnections := hb.total_le
  rw [hnone] at hfree
  exact ⟨List.length_eq_zero_iff.1 (by omega), by omega⟩

/-- One thread has the only connection, the other one sleeps. -/
def waitingRun : List (Action (Fin 2) (Fin 2)) := [.borrow 0 false 0, .connectOk 0 0, .borrow 1 true 1]

theorem no_lost_wakeup_waitingRun :
    ∃ s, run (system (Fin 2) (Fin 2) 1) {} waitingRun = some s ∧ s.threads 1 = .sleeping true ∧
      s.available = [] ∧ s.totalCount = 1 := by
  refine ⟨_, rfl, rfl, (no_lost_wakeup 1 (by norm_num) _ (Reachable.init.run waitingRun rfl)).2 ?_ ?_⟩
  · intro thread
    match thread with
    | 0 => exact .inl rfl
    | 1 => exact .inr ⟨true, rfl⟩
  · exact ⟨1, true, rfl⟩

end Kmip.Client.Pool
