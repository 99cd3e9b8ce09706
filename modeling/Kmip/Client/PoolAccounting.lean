import Kmip.Client.PoolMoves

/-!
# The pool keeps its books

The numbers of a state of the pool are a `Ledger`: idle slots, slots in guards, reservations that are still connecting,
and threads that sleep or were woken. Every move of the pool is a move of the ledger or leaves it unchanged
(`Move.refines`): the counter of the pool never wraps around, because it is the sum of its parts. So the books are in
order in every reachable state (`balanced_of_reachable`).
-/

namespace Kmip.Client.Pool

open Transition State BoundedPool BoundedPool.Ledger

variable {Thread Guard : Type} [DecidableEq Thread] [DecidableEq Guard] [Fintype Thread] [Fintype Guard]
  {maxConnections : Nat} {s s' : State Thread Guard}

/-- A guard that has a slot. -/
def holdsSlot (client : Option BorrowedClient) : Bool := (client.bind (·.slot)).isSome

/-- The numbers of a state. -/
def State.ledger (s : State Thread Guard) : Ledger where
  idle := s.available.length
  borrowed := countWhere holdsSlot s.guards
  reserved := countWhere ThreadState.isConnecting s.threads
  sleeping := countWhere ThreadState.isSleeping s.threads
  woken := countWhere ThreadState.isWoken s.threads
  total := s.totalCount

/-! ## Numbers after an update -/

/-- The numbers after a thread has gone from one state to another. -/
def moveThread (l : Ledger) (old new : ThreadState) : Ledger :=
  { l with
    reserved := l.reserved + new.isConnecting.toNat - old.isConnecting.toNat
    sleeping := l.sleeping + new.isSleeping.toNat - old.isSleeping.toNat
    woken := l.woken + new.isWoken.toNat - old.isWoken.toNat }

omit [DecidableEq Guard] in
theorem ledger_setThread (s : State Thread Guard) (thread : Thread) (state : ThreadState) :
    (s.setThread thread state).ledger = moveThread s.ledger (s.threads thread) state := by
  simp only [ledger, setThread, moveThread, countWhere_update_eq]

/-- A thread that has checked the condition of the pool was neither asleep nor connecting. -/
theorem moveThread_checks {old : ThreadState} (h : old.Checks) (l : Ledger) (new : ThreadState) :
    moveThread l old new =
      { l with
        reserved := l.reserved + new.isConnecting.toNat
        sleeping := l.sleeping + new.isSleeping.toNat
        woken := l.woken + new.isWoken.toNat - old.isWoken.toNat } := by
  rcases h with rfl | h
  · rfl
  · cases old <;> first | rfl | cases h

omit [DecidableEq Thread] in
theorem ledger_setGuard (s : State Thread Guard) (guard : Guard) (client : Option BorrowedClient) :
    (s.setGuard guard client).ledger =
      { s.ledger with
        borrowed := s.ledger.borrowed + (holdsSlot client).toNat - (holdsSlot (s.guards guard)).toNat } := by
  simp only [ledger, setGuard, countWhere_update_eq]

omit [DecidableEq Guard] in
/-- `notify_one` wakes one sleeper, if there is one. -/
theorem ledger_notifyOne {wake : Option Thread} (h : s.notifyOne wake = some s') : s'.ledger = s.ledger.notify := by
  cases wake with
  | none =>
    simp only [notifyOne] at h
    split at h
    case isTrue hzero =>
      cases h
      exact (if_pos hzero).symm
    case isFalse => cases h
  | some thread =>
    simp only [notifyOne] at h
    split at h
    case h_1 timed hthread =>
      cases h
      have hle := toNat_le_countWhere ThreadState.isSleeping s.threads thread
      rw [hthread] at hle
      have hne : s.ledger.sleeping ≠ 0 := Nat.one_le_iff_ne_zero.1 hle
      rw [ledger_setThread, hthread, Ledger.notify, if_neg hne]
      rfl
    case h_2 => cases h

/-! ## Refinement -/

/-- A guard that gives its slot back leaves the borrowed slots, for the idle list or for good. -/
theorem ledger_giveBack (hb : Balanced maxConnections s.ledger) {guard : Guard}
    {slot : Slot} {healthy : Bool} {wake : Option Thread} (hguard : s.guards guard = some ⟨true, some slot, healthy⟩)
    (h : returnSlot (s.setGuard guard (some ⟨true, none, healthy⟩)) slot healthy wake = some s') :
    Step maxConnections s.ledger s'.ledger := by
  have hpos : 0 < s.ledger.borrowed := by
    have hle := toNat_le_countWhere holdsSlot s.guards guard
    rw [hguard] at hle
    exact hle
  have hafter := ledger_setGuard s guard (some ⟨true, none, healthy⟩)
  rw [hguard] at hafter
  have htotal : sizeSub s.totalCount 1 = s.totalCount - 1 := by
    have hsum : s.totalCount = _ := hb.total_eq
    exact sizeSub_of_le (by omega)
  unfold returnSlot at h
  dsimp only at h
  split at h
  · rw [ledger_notifyOne h]
    convert Step.keep s.ledger hpos using 2
    show { (s.setGuard guard (some ⟨true, none, healthy⟩)).ledger with idle := (s.available ++ [slot]).length } = _
    rw [hafter, List.length_append]
    rfl
  · rw [ledger_notifyOne h]
    convert Step.discard s.ledger hpos using 2
    show { (s.setGuard guard (some ⟨true, none, healthy⟩)).ledger with total := sizeSub s.totalCount 1 } = _
    rw [hafter, htotal]
    rfl

omit [DecidableEq Thread] in
/-- Moving the fields of one guard to another one moves one slot or none. -/
theorem ledger_transfer {src dst : Guard} {other : BorrowedClient} (hsrc : s.guards src = some other)
    (hdst : ∀ client, s.guards dst = some client → client.slot = none) (hne : dst ≠ src) :
    (s.transfer src dst other).ledger = s.ledger := by
  have hnone : holdsSlot (s.guards dst) = false := by
    cases hc : s.guards dst with
    | none => rfl
    | some client => simp [holdsSlot, hdst client hc]
  have hkept : (s.setGuard dst (some other)).guards src = some other := by
    rw [← hsrc]
    exact Function.update_of_ne (Ne.symm hne) _ _
  have hle := toNat_le_countWhere holdsSlot s.guards src
  rw [hsrc] at hle
  unfold State.transfer
  rw [ledger_setGuard, ledger_setGuard, hkept, hnone]
  have hempty : holdsSlot (some { other with pool := false, slot := none }) = false := rfl
  rw [hempty]
  ext1 <;> simp

omit [DecidableEq Thread] in
theorem ledger_handOut {guard : Guard} (hguard : s.guards guard = none) (slot : Slot) :
    (s.handOut guard slot).ledger = { s.ledger with borrowed := s.ledger.borrowed + 1 } := by
  show (s.setGuard guard (some ⟨true, some slot, true⟩)).ledger = _
  rw [ledger_setGuard, hguard]
  rfl

/-- Every move of the pool is a move of the ledger, or leaves it as it is. -/
theorem Move.refines (hmax : maxConnections < 2 ^ 64) (hb : Balanced maxConnections s.ledger)
    (h : Move maxConnections s s') : Relation.ReflTransGen (Step maxConnections) s.ledger s'.ledger := by
  have hle : s.totalCount ≤ maxConnections := hb.total_le
  have hsum : s.totalCount = _ := hb.total_eq
  cases h with
  | take thread guard rest slot hthread hidle hguard =>
    have hlength : s.ledger.idle = rest.length + 1 := by
      show s.available.length = _
      rw [hidle, List.length_append]
      rfl
    refine .single ?_
    convert Step.take s.ledger (s.threads thread).isWoken.toNat (Bool.toNat_le _)
      (toNat_le_countWhere ThreadState.isWoken s.threads thread) (by omega) using 1
    rw [ledger_setThread, ledger_handOut (s := { s with available := rest }) hguard]
    refine (moveThread_checks hthread _ _).trans ?_
    rw [hlength]
    rfl
  | reserve thread hthread hidle hroom =>
    have htotal : sizeAdd s.totalCount 1 = s.totalCount + 1 := sizeAdd_of_lt (by omega)
    refine .single ?_
    convert Step.reserve s.ledger (s.threads thread).isWoken.toNat (Bool.toNat_le _)
      (toNat_le_countWhere ThreadState.isWoken s.threads thread) (List.length_eq_zero_iff.2 hidle) hroom using 1
    rw [ledger_setThread, htotal]
    exact moveThread_checks hthread _ _
  | sleep thread timed hthread hidle hfull =>
    refine .single ?_
    convert Step.sleep s.ledger (s.threads thread).isWoken.toNat (Bool.toNat_le _)
      (toNat_le_countWhere ThreadState.isWoken s.threads thread) (List.length_eq_zero_iff.2 hidle) hfull using 1
    rw [ledger_setThread]
    exact moveThread_checks hthread _ _
  | giveUp thread hthread hidle hfull =>
    refine .single ?_
    convert Step.giveUp s.ledger (countWhere_pos.2 ⟨thread, hthread⟩) (List.length_eq_zero_iff.2 hidle) hfull using 1
    rw [ledger_setThread, moveThread_checks (.inr hthread), hthread]
    rfl
  | wake thread timed expired hthread =>
    refine .single ?_
    convert Step.wake s.ledger (countWhere_pos.2 ⟨thread, hthread⟩) using 1
    rw [ledger_setThread]
    cases hstate : s.threads thread with
    | sleeping _ => rfl
    | _ =>
      rw [hstate] at hthread
      cases hthread
  | connectOk thread guard hthread hguard =>
    refine .single ?_
    convert Step.made s.ledger (countWhere_pos.2 ⟨thread, by rw [hthread]; rfl⟩) using 1
    rw [ledger_setThread, ledger_handOut (s := { s with nextSlot := s.nextSlot + 1 }) hguard]
    show moveThread _ (s.threads thread) _ = _
    rw [hthread]
    rfl
  | connectFail _ thread wake hthread hnotify =>
    have hpos : 0 < s.ledger.reserved := countWhere_pos.2 ⟨thread, by rw [hthread]; rfl⟩
    have htotal : sizeSub s.totalCount 1 = s.totalCount - 1 := sizeSub_of_le (by omega)
    refine .single ?_
    rw [ledger_notifyOne hnotify]
    convert Step.failed s.ledger hpos using 2
    rw [ledger_setThread, htotal]
    show moveThread _ (s.threads thread) _ = _
    rw [hthread]
    rfl
  | giveBack _ guard slot healthy wake hguard hreturn => exact .single (ledger_giveBack hb hguard hreturn)
  | transfer src dst other hsrc hdst hne => rw [ledger_transfer hsrc hdst hne]
  | change guard client client' hguard hpool hslot hhealthy =>
    have hsame : holdsSlot (some client') = holdsSlot (some client) := by
      show client'.slot.isSome = client.slot.isSome
      simpa using congrArg Option.isSome hslot
    rw [ledger_setGuard, hguard, hsame, Nat.add_sub_cancel]
  | mark guard client hguard =>
    show Relation.ReflTransGen _ s.ledger (s.setGuard guard (some { client with healthy := false })).ledger
    have hsame : holdsSlot (some { client with healthy := false }) = holdsSlot (some client) := rfl
    rw [ledger_setGuard, hguard, hsame, Nat.add_sub_cancel]
  | clear guard client hguard hslot =>
    have hsame : holdsSlot (some client) = false := by simp [holdsSlot, hslot]
    rw [ledger_setGuard, hguard, hsame]
    exact .refl

/-- A sequence of moves is a sequence of moves of the ledger. -/
theorem moves_refine (hmax : maxConnections < 2 ^ 64) (hb : Balanced maxConnections s.ledger)
    (h : Relation.ReflTransGen (Move maxConnections) s s') :
    Relation.ReflTransGen (Step maxConnections) s.ledger s'.ledger := by
  induction h with
  | refl => exact .refl
  | tail _ hm ih => exact ih.trans (hm.refines hmax (invariant_of_reflTransGen (fun _ _ h hs => h.step hs) hb ih))

omit [DecidableEq Thread] [DecidableEq Guard] in
theorem ledger_init : ({} : State Thread Guard).ledger = ⟨0, 0, 0, 0, 0, 0⟩ := by
  simp [ledger, countWhere, holdsSlot, ThreadState.isConnecting, ThreadState.isSleeping, ThreadState.isWoken]

/-- **Refinement.** The numbers of a reachable state are reachable numbers of a bounded pool. -/
theorem ledger_of_reachable (hmax : maxConnections < 2 ^ 64) (h : Reachable (system Thread Guard maxConnections) s) :
    Relation.ReflTransGen (Step maxConnections) ⟨0, 0, 0, 0, 0, 0⟩ s.ledger := by
  have hinit : (system Thread Guard maxConnections).init.ledger = ⟨0, 0, 0, 0, 0, 0⟩ := ledger_init
  rw [← hinit]
  refine h.simulates fun s a s' hr hreaches hs => ?_
  rw [hinit] at hreaches
  exact moves_refine hmax (Balanced.of_reaches hreaches) (step_moves (Owned.of_reachable hr) hs)

/-- The books are in order in every reachable state. -/
theorem balanced_of_reachable (hmax : maxConnections < 2 ^ 64) (h : Reachable (system Thread Guard maxConnections) s) :
    Balanced maxConnections s.ledger :=
  Balanced.of_reaches (ledger_of_reachable hmax h)

end Kmip.Client.Pool
