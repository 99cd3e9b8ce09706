import Kmip.Client.Pool

/-!
# The moves of the pool

Every step of the pool is a sequence of moves, each of which changes the pool, one guard or one thread in one way
(`step_moves`). A move assignment, for example, gives the slot of its target back and then transfers the fields of its
source. What every move keeps holds in every reachable state (`reachable_of_moves`).

A guard that has a slot has its pool pointer (`Owned`): this is why no slot is lost when a guard is destroyed.
-/

namespace Kmip.Client.Pool

open Transition State

variable {Thread Guard : Type} [DecidableEq Thread] [DecidableEq Guard] [Fintype Thread] {maxConnections : Nat}

/-- A thread that checks the condition of the pool: it enters, or it was woken to check again. -/
def ThreadState.Checks (state : ThreadState) : Prop := state = .outside ∨ state.isWoken = true

/-- The moves, with their conditions. -/
inductive Move (maxConnections : Nat) : State Thread Guard → State Thread Guard → Prop
  | take (s : State Thread Guard) (thread : Thread) (guard : Guard) (rest : List Slot) (slot : Slot)
    (hthread : (s.threads thread).Checks) (hidle : s.available = rest ++ [slot]) (hguard : s.guards guard = none) :
    Move maxConnections s ((handOut { s with available := rest } guard slot).setThread thread .outside)
  | reserve (s : State Thread Guard) (thread : Thread) (hthread : (s.threads thread).Checks) (hidle : s.available = [])
    (hroom : s.totalCount < maxConnections) :
    Move maxConnections s ({ s with totalCount := sizeAdd s.totalCount 1 }.setThread thread .connecting)
  | sleep (s : State Thread Guard) (thread : Thread) (timed : Bool) (hthread : (s.threads thread).Checks)
    (hidle : s.available = []) (hfull : maxConnections ≤ s.totalCount) :
    Move maxConnections s (s.setThread thread (.sleeping timed))
  | giveUp (s : State Thread Guard) (thread : Thread) (hthread : (s.threads thread).isWoken = true)
    (hidle : s.available = []) (hfull : maxConnections ≤ s.totalCount) :
    Move maxConnections s (s.setThread thread .outside)
  | wake (s : State Thread Guard) (thread : Thread) (timed expired : Bool)
    (hthread : (s.threads thread).isSleeping = true) :
    Move maxConnections s (s.setThread thread (.woken timed expired))
  | connectOk (s : State Thread Guard) (thread : Thread) (guard : Guard) (hthread : s.threads thread = .connecting)
    (hguard : s.guards guard = none) :
    Move maxConnections s
      ((handOut { s with nextSlot := s.nextSlot + 1 } guard ⟨s.nextSlot, true⟩).setThread thread .outside)
  | connectFail (s s' : State Thread Guard) (thread : Thread) (wake : Option Thread)
    (hthread : s.threads thread = .connecting)
    (hnotify : notifyOne ({ s with totalCount := sizeSub s.totalCount 1 }.setThread thread .outside) wake = some s') :
    Move maxConnections s s'
  | giveBack (s s' : State Thread Guard) (guard : Guard) (slot : Slot) (healthy : Bool) (wake : Option Thread)
    (hguard : s.guards guard = some ⟨true, some slot, healthy⟩)
    (hreturn : returnSlot (s.setGuard guard (some ⟨true, none, healthy⟩)) slot healthy wake = some s') :
    Move maxConnections s s'
  | transfer (s : State Thread Guard) (src dst : Guard) (other : BorrowedClient) (hsrc : s.guards src = some other)
    (hdst : ∀ client, s.guards dst = some client → client.slot = none) (hne : dst ≠ src) :
    Move maxConnections s (s.transfer src dst other)
  | change (s : State Thread Guard) (guard : Guard) (client client' : BorrowedClient)
    (hguard : s.guards guard = some client) (hpool : client'.pool = client.pool)
    (hslot : client'.slot.map Slot.id = client.slot.map Slot.id) (hhealthy : client'.healthy = client.healthy) :
    Move maxConnections s (s.setGuard guard (some client'))
  | mark (s : State Thread Guard) (guard : Guard) (client : BorrowedClient) (hguard : s.guards guard = some client) :
    Move maxConnections s (s.markUnhealthy guard client)
  | clear (s : State Thread Guard) (guard : Guard) (client : BorrowedClient) (hguard : s.guards guard = some client)
    (hslot : client.slot = none) :
    Move maxConnections s (s.setGuard guard none)

/-! ## Guards that own their slots -/

/-- A guard that has a slot has its pool pointer. -/
def Owned (s : State Thread Guard) : Prop :=
  ∀ guard client, s.guards guard = some client → client.slot ≠ none → client.pool = true

omit [DecidableEq Thread] [Fintype Thread] in
theorem Owned.setGuard {s : State Thread Guard} (h : Owned s) {guard : Guard} {client : Option BorrowedClient}
    (hc : ∀ c, client = some c → c.slot ≠ none → c.pool = true) : Owned (s.setGuard guard client) := by
  intro g c hg
  unfold State.setGuard at hg
  by_cases heq : g = guard
  · rw [heq] at hg
    simp only [Function.update_self] at hg
    exact hc c hg
  · simp only [Function.update_of_ne heq] at hg
    exact h g c hg

omit [DecidableEq Guard] in
/-- `notify_one` changes the threads only. -/
theorem notifyOne_frame {s s' : State Thread Guard} {wake : Option Thread} (h : s.notifyOne wake = some s') :
    s'.available = s.available ∧ s'.totalCount = s.totalCount ∧ s'.guards = s.guards ∧ s'.nextSlot = s.nextSlot ∧
      s'.log = s.log := by
  unfold notifyOne at h
  split at h
  · split at h
    · cases h
      exact ⟨rfl, rfl, rfl, rfl, rfl⟩
    · cases h
  · split at h
    · cases h
      exact ⟨rfl, rfl, rfl, rfl, rfl⟩
    · cases h

omit [DecidableEq Guard] in
/-- Giving a slot back changes no guard. -/
theorem returnSlot_guards {s s' : State Thread Guard} {slot : Slot} {healthy : Bool} {wake : Option Thread}
    (h : s.returnSlot slot healthy wake = some s') : s'.guards = s.guards := by
  unfold returnSlot at h
  dsimp only at h
  split at h
  · exact (notifyOne_frame h).2.2.1
  · exact (notifyOne_frame h).2.2.1

omit [DecidableEq Thread] [Fintype Thread] in
/-- A mark is logged for the slot of the guard. -/
theorem markUnhealthy_log {s : State Thread Guard} {guard : Guard} {client : BorrowedClient} :
    (∀ slot, client.slot = some slot → (s.markUnhealthy guard client).log = .markedUnhealthy slot.id :: s.log) ∧
      (client.slot = none → (s.markUnhealthy guard client).log = s.log) := by
  constructor
  · intro slot hslot
    simp [State.markUnhealthy, hslot]
  · intro hslot
    simp [State.markUnhealthy, State.setGuard, hslot]

omit [DecidableEq Guard] in
/-- A slot that is given back is logged. -/
theorem returnSlot_log {s s' : State Thread Guard} {slot : Slot} {healthy : Bool} {wake : Option Thread}
    (h : s.returnSlot slot healthy wake = some s') : s'.log = .returned slot.id healthy slot.connected :: s.log := by
  unfold returnSlot at h
  dsimp only at h
  split at h
  · exact (notifyOne_frame h).2.2.2.2
  · exact (notifyOne_frame h).2.2.2.2

theorem Move.owned {s s' : State Thread Guard} (ho : Owned s) (h : Move maxConnections s s') : Owned s' := by
  cases h with
  | take thread guard rest slot _ _ _ => exact ho.setGuard fun c hc _ => by cases hc; rfl
  | reserve thread _ _ _ => exact ho
  | sleep thread timed _ _ _ => exact ho
  | giveUp thread _ _ _ => exact ho
  | wake thread timed expired _ => exact ho
  | connectOk thread guard _ _ => exact ho.setGuard fun c hc _ => by cases hc; rfl
  | connectFail _ thread wake _ hnotify =>
    intro g c hg
    rw [(notifyOne_frame hnotify).2.2.1] at hg
    exact ho g c hg
  | giveBack _ guard slot healthy wake _ hreturn =>
    intro g c hg
    rw [returnSlot_guards hreturn] at hg
    refine ho.setGuard (fun c hc _ => ?_) g c hg
    cases hc
    rfl
  | transfer src dst other hsrc _ _ =>
    refine Owned.setGuard (ho.setGuard fun c hc => ?_) fun c hc hslot => ?_
    · cases hc
      exact ho src other hsrc
    · cases hc
      exact absurd rfl hslot
  | change guard client client' hguard hpool hslot hhealthy =>
    refine ho.setGuard fun c hc hne => ?_
    cases hc
    rw [hpool]
    refine ho guard client hguard fun hnone => hne ?_
    rw [hnone, Option.map_none] at hslot
    exact Option.map_eq_none_iff.1 hslot
  | mark guard client hguard =>
    exact ho.setGuard fun c hc hne => by
      cases hc
      exact ho guard client hguard hne
  | clear guard client _ _ => exact ho.setGuard fun c hc => by cases hc

/-! ## Steps are moves -/

/-- What `acquire_locked` does when the condition of the pool holds. -/
theorem acquireLocked_move {s s' : State Thread Guard} {thread : Thread} {guard : Guard}
    (hthread : (s.threads thread).Checks) (hcapacity : s.available = [] → s.totalCount < maxConnections)
    (h : s.acquireLocked thread guard = some s') : Move maxConnections s s' := by
  unfold acquireLocked at h
  cases hlast : s.available.getLast? with
  | none =>
    rw [hlast] at h
    cases h
    have hidle := List.getLast?_eq_none_iff.1 hlast
    exact .reserve s thread hthread hidle (hcapacity hidle)
  | some slot =>
    rw [hlast] at h
    dsimp only at h
    split at h
    case isTrue hguard =>
      cases h
      obtain ⟨rest, hidle⟩ := List.getLast?_eq_some_iff.1 hlast
      rw [hidle, List.dropLast_concat]
      exact .take s thread guard rest slot hthread hidle hguard
    case isFalse => cases h

/-- The slot of a guard is given back; the guard is left without one, and the other guards stay as they are. -/
theorem giveBack_moves {s s' : State Thread Guard} {guard : Guard} {client : BorrowedClient} {wake : Option Thread}
    (ho : Owned s) (hguard : s.guards guard = some client) (h : s.giveBack guard wake = some s') :
    Relation.ReflTransGen (Move maxConnections) s s' ∧
      (∃ client', s'.guards guard = some client' ∧ client'.slot = none) ∧
        ∀ g, g ≠ guard → s'.guards g = s.guards g := by
  obtain ⟨pool, slot, healthy⟩ := client
  unfold giveBack at h
  rw [hguard] at h
  cases slot with
  | none =>
    have heq : s = s' := by cases pool <;> exact Option.some.inj h
    subst heq
    exact ⟨.refl, ⟨_, hguard, rfl⟩, fun _ _ => rfl⟩
  | some slot =>
    have hpool : pool = true := ho guard _ hguard nofun
    subst hpool
    have hguards := returnSlot_guards h
    refine ⟨.single (.giveBack s s' guard slot healthy wake hguard h), ⟨⟨true, none, healthy⟩, ?_, rfl⟩, ?_⟩
    · rw [hguards]
      exact Function.update_self guard _ _
    · intro g hg
      rw [hguards]
      exact Function.update_of_ne hg _ _

omit [DecidableEq Thread] [DecidableEq Guard] [Fintype Thread] in
/-- The condition of the waiting threads. -/
theorem hasCapacity_iff {s : State Thread Guard} :
    s.hasCapacity maxConnections = true ↔ (s.available = [] → s.totalCount < maxConnections) := by
  unfold hasCapacity
  cases s.available <;> simp

/-- Every step is a sequence of moves. -/
theorem step_moves {s s' : State Thread Guard} {action : Action Thread Guard} (ho : Owned s)
    (h : step maxConnections s action = some s') : Relation.ReflTransGen (Move maxConnections) s s' := by
  cases action with
  | borrow thread timed guard =>
    simp only [step] at h
    split at h
    case isFalse => cases h
    case isTrue hthread =>
      split at h
      case isTrue hcap => exact .single (acquireLocked_move (.inl hthread) (hasCapacity_iff.1 hcap) h)
      case isFalse hcap =>
        cases h
        rw [hasCapacity_iff, Classical.not_imp, Nat.not_lt] at hcap
        exact .single (.sleep s thread timed (.inl hthread) hcap.1 hcap.2)
  | tryBorrow thread guard =>
    simp only [step] at h
    split at h
    case isFalse => cases h
    case isTrue hthread =>
      split at h
      case isTrue =>
        cases h
        exact .refl
      case isFalse hcap =>
        refine .single (acquireLocked_move (.inl hthread) (fun hidle => ?_) h)
        simpa [hidle] using hcap
  | recheck thread guard =>
    simp only [step] at h
    split at h
    case h_1 timed expired hthread =>
      have hwoken : (s.threads thread).isWoken = true := by rw [hthread]; rfl
      split at h
      case isTrue hcap => exact .single (acquireLocked_move (.inr hwoken) (hasCapacity_iff.1 hcap) h)
      case isFalse hcap =>
        rw [hasCapacity_iff, Classical.not_imp, Nat.not_lt] at hcap
        split at h
        · cases h
          exact .single (.giveUp s thread hwoken hcap.1 hcap.2)
        · cases h
          exact .single (.sleep s thread timed (.inr hwoken) hcap.1 hcap.2)
    case h_2 => cases h
  | wakeUp thread =>
    simp only [step] at h
    split at h
    case h_1 timed hthread =>
      cases h
      exact .single (.wake s thread timed false (by rw [hthread]; rfl))
    case h_2 => cases h
  | timeout thread =>
    simp only [step] at h
    split at h
    case h_1 hthread =>
      cases h
      exact .single (.wake s thread true true (by rw [hthread]; rfl))
    case h_2 => cases h
  | connectOk thread guard =>
    simp only [step] at h
    split at h
    case isTrue hc =>
      cases h
      exact .single (.connectOk s thread guard hc.1 hc.2)
    case isFalse => cases h
  | connectFail thread wake =>
    simp only [step] at h
    split at h
    case isTrue hthread => exact .single (.connectFail s s' thread wake hthread h)
    case isFalse => cases h
  | moveConstruct src dst =>
    simp only [step] at h
    split at h
    case h_1 other hsrc hdst =>
      cases h
      refine .single (.transfer s src dst other hsrc (fun client hc => ?_) (fun heq => ?_))
      · rw [hdst] at hc
        cases hc
      · rw [heq, hsrc] at hdst
        cases hdst
    case h_2 => cases h
  | moveAssign src dst wake =>
    simp only [step] at h
    split at h
    case h_1 other client hsrc hdst =>
      split at h
      case isTrue =>
        cases h
        exact .refl
      case isFalse hne =>
        obtain ⟨s₁, hback, rfl⟩ := Option.map_eq_some_iff.1 h
        obtain ⟨hmoves, ⟨client', hdst', hslot⟩, hothers⟩ := giveBack_moves ho hdst hback
        refine hmoves.tail (.transfer s₁ src dst other ?_ (fun c hc => ?_) hne)
        · rw [hothers src (Ne.symm hne)]
          exact hsrc
        · rw [hdst'] at hc
          cases hc
          exact hslot
    case h_2 => cases h
  | destroy guard wake =>
    simp only [step] at h
    split at h
    case h_1 client hguard =>
      obtain ⟨s₁, hback, rfl⟩ := Option.map_eq_some_iff.1 h
      obtain ⟨hmoves, ⟨client', hguard', hslot⟩, -⟩ := giveBack_moves ho hguard hback
      exact hmoves.tail (.clear s₁ guard client' hguard' hslot)
    case h_2 => cases h
  | markUnhealthy guard =>
    simp only [step] at h
    split at h
    case h_1 client hguard =>
      cases h
      exact .single (.mark s guard client hguard)
    case h_2 => cases h
  | setConnected guard connected =>
    simp only [step] at h
    split at h
    case h_1 pool slot healthy hguard =>
      cases h
      exact .single (.change s guard _ _ hguard rfl rfl rfl)
    case h_2 => cases h

/-- In every reachable state, the guards own their slots. -/
theorem Owned.of_reachable {s : State Thread Guard} (h : Reachable (system Thread Guard maxConnections) s) :
    Owned s := by
  refine h.invariant (fun _ _ hg => by cases hg) fun s a s' _ ho hs => ?_
  exact invariant_of_reflTransGen (I := Owned) (fun _ _ ho hm => Move.owned ho hm) ho (step_moves ho hs)

/-- What holds at the start and is kept by every move holds in every reachable state. -/
theorem reachable_of_moves {I : State Thread Guard → Prop} (hinit : I {})
    (hmove : ∀ s s', I s → Move maxConnections s s' → I s') {s : State Thread Guard}
    (h : Reachable (system Thread Guard maxConnections) s) : I s := by
  refine h.invariant hinit fun s a s' hr hi hs => ?_
  exact invariant_of_reflTransGen (I := I) hmove hi (step_moves (Owned.of_reachable hr) hs)

end Kmip.Client.Pool
