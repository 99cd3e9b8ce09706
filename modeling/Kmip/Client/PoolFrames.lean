import Kmip.Client.PoolSafety

/-!
# What a step of the pool leaves alone

A step changes the guards that it names and no others, and the slots after it were there before it, but for the one that
`create_slot` has connected (`reshuffles_step`). A slot in the idle list is connected (`idle_connected`).
-/

namespace Kmip.Client.Pool

open Transition State

/-! ## What a step of the pool changes -/

section Frames

variable {Thread Guard : Type} [DecidableEq Thread] [DecidableEq Guard] [Fintype Thread] {maxConnections : Nat}
  {s s' s'' : State Thread Guard}

/-- The slot is in the idle list or in a guard. -/
def State.Has (s : State Thread Guard) (slot : Slot) : Prop :=
  slot ∈ s.available ∨ ∃ guard client, s.guards guard = some client ∧ client.slot = some slot

/-- The guards that an action changes. -/
def Action.guards : Action Thread Guard → List Guard
  | .borrow _ _ guard => [guard]
  | .tryBorrow _ guard => [guard]
  | .recheck _ guard => [guard]
  | .connectOk _ guard => [guard]
  | .moveConstruct src dst => [src, dst]
  | .moveAssign src dst _ => [src, dst]
  | .destroy guard _ => [guard]
  | .markUnhealthy guard => [guard]
  | .setConnected guard _ => [guard]
  | .wakeUp _ => []
  | .timeout _ => []
  | .connectFail _ _ => []

/-- Slots are moved or discarded, by way of the guards in the list. -/
structure Reshuffles (guards : List Guard) (s s' : State Thread Guard) : Prop where
  frame : ∀ guard, guard ∉ guards → s'.guards guard = s.guards guard
  slots : ∀ slot, s'.Has slot → s.Has slot
  nextSlot : s'.nextSlot = s.nextSlot

omit [DecidableEq Thread] [DecidableEq Guard] [Fintype Thread] in
theorem Reshuffles.of_eq {guards : List Guard} (havailable : s'.available = s.available)
    (hguards : s'.guards = s.guards) (hnext : s'.nextSlot = s.nextSlot) : Reshuffles guards s s' := by
  refine ⟨fun guard _ => congrFun hguards guard, fun slot hslot => ?_, hnext⟩
  unfold State.Has at hslot
  rwa [havailable, hguards] at hslot

omit [DecidableEq Thread] [DecidableEq Guard] [Fintype Thread] in
theorem Reshuffles.trans {guards : List Guard} (h : Reshuffles guards s s') (h' : Reshuffles guards s' s'') :
    Reshuffles guards s s'' :=
  ⟨fun guard hguard => (h'.frame guard hguard).trans (h.frame guard hguard),
    fun slot hslot => h.slots slot (h'.slots slot hslot), h'.nextSlot.trans h.nextSlot⟩

omit [DecidableEq Thread] [DecidableEq Guard] [Fintype Thread] in
theorem Reshuffles.mono {guards guards' : List Guard} (h : Reshuffles guards s s') (hsub : guards ⊆ guards') :
    Reshuffles guards' s s' :=
  ⟨fun guard hguard => h.frame guard fun hmem => hguard (hsub hmem), h.slots, h.nextSlot⟩

omit [DecidableEq Thread] [Fintype Thread] in
/-- A guard gets a slot that there is, or none. -/
theorem reshuffles_setGuard {guard : Guard} {client : Option BorrowedClient}
    (h : ∀ c slot, client = some c → c.slot = some slot → s.Has slot) :
    Reshuffles [guard] s (s.setGuard guard client) := by
  constructor
  case frame =>
    intro g hg
    exact Function.update_of_ne (fun heq => hg (List.mem_singleton.2 heq)) _ _
  case slots =>
    rintro slot (hidle | ⟨g, c, hg, hc⟩)
    · exact .inl hidle
    · unfold State.setGuard at hg
      dsimp only at hg
      by_cases heq : g = guard
      · rw [heq, Function.update_self] at hg
        exact h c slot hg hc
      · rw [Function.update_of_ne heq] at hg
        exact .inr ⟨g, c, hg, hc⟩
  case nextSlot => rfl

omit [DecidableEq Guard] in
theorem reshuffles_notifyOne {guards : List Guard} {wake : Option Thread} (h : s.notifyOne wake = some s') :
    Reshuffles guards s s' := by
  obtain ⟨havailable, -, hguards, hnext, -⟩ := notifyOne_frame h
  exact .of_eq havailable hguards hnext

omit [Fintype Thread] in
theorem reshuffles_acquireLocked {thread : Thread} {guard : Guard} (h : s.acquireLocked thread guard = some s') :
    Reshuffles [guard] s s' := by
  unfold acquireLocked at h
  split at h
  · rename_i slot hlast
    split at h
    · cases h
      have hset : Reshuffles [guard] s (s.setGuard guard (some ⟨true, some slot, true⟩)) :=
        reshuffles_setGuard fun c slot' hc hslot' => by
          cases hc
          cases hslot'
          exact .inl (List.mem_of_getLast? hlast)
      refine ⟨hset.frame, fun slot' hslot' => hset.slots slot' (hslot'.imp_left fun hmem => ?_), rfl⟩
      exact List.mem_of_mem_dropLast hmem
    · cases h
  · cases h
    exact .of_eq rfl rfl rfl

theorem reshuffles_giveBack {guard : Guard} {wake : Option Thread} (h : s.giveBack guard wake = some s') :
    Reshuffles [guard] s s' := by
  unfold giveBack at h
  split at h
  · rename_i slot healthy hguard
    have hhas : s.Has slot := .inr ⟨guard, _, hguard, rfl⟩
    have hset : Reshuffles [guard] s (s.setGuard guard (some ⟨true, none, healthy⟩)) :=
      reshuffles_setGuard fun c slot' hc hslot' => by
        cases hc
        cases hslot'
    unfold returnSlot at h
    dsimp only at h
    split at h
    · refine Reshuffles.trans ?_ (reshuffles_notifyOne h)
      refine ⟨hset.frame, fun slot' hslot' => ?_, rfl⟩
      rcases hslot' with hmem | hheld
      · rcases List.mem_append.1 hmem with hmem | hmem
        · exact .inl hmem
        · rw [List.mem_singleton.1 hmem]
          exact hhas
      · exact hset.slots slot' (.inr hheld)
    · refine Reshuffles.trans ?_ (reshuffles_notifyOne h)
      exact ⟨hset.frame, hset.slots, rfl⟩
  · cases h
    exact .of_eq rfl rfl rfl

omit [DecidableEq Thread] [Fintype Thread] in
theorem reshuffles_transfer {src dst : Guard} {other : BorrowedClient}
    (hother : ∀ slot, other.slot = some slot → s.Has slot) : Reshuffles [src, dst] s (s.transfer src dst other) := by
  have hdst : Reshuffles [dst] s (s.setGuard dst (some other)) :=
    reshuffles_setGuard fun c slot hc hslot => by
      cases hc
      exact hother slot hslot
  have hsrc : Reshuffles [src] (s.setGuard dst (some other)) (s.transfer src dst other) :=
    reshuffles_setGuard fun c slot hc hslot => by
      cases hc
      cases hslot
  exact (hdst.mono (by simp)).trans (hsrc.mono (by simp))

/-- A step changes the guards that it names, and makes no new slot unless it connects one. -/
theorem reshuffles_step {action : Action Thread Guard} (hconnect : ∀ thread guard, action ≠ .connectOk thread guard)
    (hset : ∀ guard connected, action ≠ .setConnected guard connected) (h : step maxConnections s action = some s') :
    Reshuffles action.guards s s' := by
  cases action with
  | borrow thread timed guard =>
    simp only [step] at h
    split at h
    case isFalse => cases h
    case isTrue =>
      split at h
      case isTrue => exact reshuffles_acquireLocked h
      case isFalse =>
        cases h
        exact .of_eq rfl rfl rfl
  | tryBorrow thread guard =>
    simp only [step] at h
    split at h
    case isFalse => cases h
    case isTrue =>
      split at h
      case isTrue =>
        cases h
        exact .of_eq rfl rfl rfl
      case isFalse => exact reshuffles_acquireLocked h
  | recheck thread guard =>
    simp only [step] at h
    split at h
    case h_1 =>
      split at h
      case isTrue => exact reshuffles_acquireLocked h
      case isFalse =>
        split at h <;> cases h
        all_goals exact .of_eq rfl rfl rfl
    case h_2 => cases h
  | wakeUp thread =>
    simp only [step] at h
    split at h <;> cases h
    exact .of_eq rfl rfl rfl
  | timeout thread =>
    simp only [step] at h
    split at h <;> cases h
    exact .of_eq rfl rfl rfl
  | connectOk thread guard => exact absurd rfl (hconnect thread guard)
  | connectFail thread wake =>
    simp only [step] at h
    split at h
    case isTrue =>
      refine Reshuffles.trans ?_ (reshuffles_notifyOne h)
      exact .of_eq rfl rfl rfl
    case isFalse => cases h
  | moveConstruct src dst =>
    simp only [step] at h
    split at h
    case h_1 other hsrc hdst =>
      cases h
      exact reshuffles_transfer fun slot hslot => .inr ⟨src, other, hsrc, hslot⟩
    case h_2 => cases h
  | moveAssign src dst wake =>
    simp only [step] at h
    split at h
    case h_1 other client hsrc hdst =>
      split at h
      case isTrue =>
        cases h
        exact .of_eq rfl rfl rfl
      case isFalse hne =>
        obtain ⟨s₁, hback, rfl⟩ := Option.map_eq_some_iff.1 h
        have hgive := reshuffles_giveBack hback
        refine (hgive.mono (by simp [Action.guards])).trans
          (reshuffles_transfer fun slot hslot => .inr ⟨src, other, ?_, hslot⟩)
        rw [hgive.frame src (fun hmem => hne (List.mem_singleton.1 hmem).symm)]
        exact hsrc
    case h_2 => cases h
  | destroy guard wake =>
    simp only [step] at h
    split at h
    case h_1 client hguard =>
      obtain ⟨s₁, hback, rfl⟩ := Option.map_eq_some_iff.1 h
      exact (reshuffles_giveBack hback).trans (reshuffles_setGuard fun _ _ hc _ => by cases hc)
    case h_2 => cases h
  | markUnhealthy guard =>
    simp only [step] at h
    split at h
    case h_1 client hguard =>
      cases h
      have hset : Reshuffles [guard] s (s.setGuard guard (some { client with healthy := false })) :=
        reshuffles_setGuard fun c slot hc hslot => by
          cases hc
          exact .inr ⟨guard, client, hguard, hslot⟩
      exact ⟨hset.frame, hset.slots, rfl⟩
    case h_2 => cases h
  | setConnected guard connected => exact absurd rfl (hset guard connected)

/-- A slot in the idle list is connected. -/
theorem idle_connected (h : Reachable (system Thread Guard maxConnections) s) :
    ∀ slot ∈ s.available, slot.connected = true := by
  refine reachable_of_moves (I := fun s : State Thread Guard => ∀ slot ∈ s.available, slot.connected = true)
    (List.forall_mem_nil _) (fun s s' hs hm => ?_) h
  cases hm with
  | take thread guard rest slot _ hidle _ =>
    rw [hidle] at hs
    exact fun slot' hslot' => hs slot' (List.mem_append_left _ hslot')
  | reserve => exact hs
  | sleep => exact hs
  | giveUp => exact hs
  | wake => exact hs
  | connectOk => exact hs
  | connectFail _ _ _ _ hnotify =>
    rw [(notifyOne_frame hnotify).1]
    exact hs
  | giveBack _ guard slot healthy wake _ hreturn =>
    unfold returnSlot at hreturn
    dsimp only at hreturn
    split at hreturn
    · rename_i hkeep
      rw [(notifyOne_frame hreturn).1]
      intro slot' hslot'
      rcases List.mem_append.1 hslot' with hmem | hmem
      · exact hs slot' hmem
      · rw [List.mem_singleton.1 hmem]
        simp only [Bool.not_or, Bool.not_not, Bool.and_eq_true] at hkeep
        exact hkeep.2
    · rw [(notifyOne_frame hreturn).1]
      exact hs
  | transfer => exact hs
  | change => exact hs
  | mark => exact hs
  | clear => exact hs

end Frames

end Kmip.Client.Pool
