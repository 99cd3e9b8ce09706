import Kmip.Lib.Transition
import Mathlib.Data.List.AList

/-!
# Who closes a transport

Clients are constructed on transports, by reference or with a shared pointer, moved, assigned and destroyed. A client is
its transport, its share of it and the flag `close_on_destroy_`; a transport that loses its last owner is destroyed, and
closed by its destructor.

Over this, a `Ledger` says who has the duty to close a transport, from the calls alone: a construction with
`close_on_destroy = true` gives it, moves pass it on. The flags of the clients are the ledger's duties at all times
(`ledger_duty_step`). Destroying a client with the duty closes its transport, but assigning to it does not; so the
duties are kept exactly in the runs that assign only to clients without one, or whose transport is closed already or is
theirs alone (`keepsDuties_iff`).
-/

namespace Kmip.Client.Ownership

open Transition

/-! ## Clients -/

/-- `net_client`, `net_client_owner_` and `close_on_destroy_`. -/
structure KmipClient (Net : Type) where
  netClient : Option Net
  netClientOwner : Option Net
  closeOnDestroy : Bool

/-- The transport that the destructor closes. -/
def KmipClient.toClose {Net : Type} (c : KmipClient Net) : Option Net := if c.closeOnDestroy then c.netClient else none

/-- A client that was moved from. -/
def KmipClient.empty (Net : Type) : KmipClient Net := ⟨none, none, false⟩

/-- The clients that exist, the transports that are connected, and those that someone other than a client owns. -/
structure State (Id Net : Type) where
  clients : AList fun _ : Id => KmipClient Net
  connected : Net → Bool
  ownedOutside : Net → Bool

inductive Action (Id Net : Type) where
  | constructByReference (id : Id) (netClient : Net) (closeOnDestroy : Bool)
  | constructShared (id : Id) (netClient : Option Net) (closeOnDestroy : Bool)
  | moveConstruct (target source : Id)
  | moveAssign (target source : Id)
  | destroy (id : Id)
  /-- A transport is used, by a client or someone else, and is connected then or not. -/
  | use (netClient : Net) (connected : Bool)
  /-- The last owner that is not a client lets go of a transport. -/
  | release (netClient : Net)

variable {Id Net : Type} [DecidableEq Id]

namespace State

variable (s : State Id Net)

def insert (id : Id) (c : KmipClient Net) : State Id Net := { s with clients := s.clients.insert id c }

def erase (id : Id) : State Id Net := { s with clients := s.clients.erase id }

/-- The members of `source`, which are `c`, are moved to `target`. -/
def move (target source : Id) (c : KmipClient Net) : State Id Net := (s.insert target c).insert source (.empty Net)

/-- The transport that a client is to close. -/
def duty (id : Id) : Option Net := (s.clients.lookup id).bind KmipClient.toClose

variable [DecidableEq Net]

/-- Some client has a share of the transport, or someone else owns it. -/
def owned (t : Net) : Bool :=
  s.ownedOutside t || s.clients.entries.any fun entry => entry.2.netClientOwner == some t

def close (t : Net) : State Id Net := { s with connected := Function.update s.connected t false }

/-- A transport that nobody owns is destroyed, and its destructor closes it. -/
def settle : State Id Net := { s with connected := fun t => s.connected t && s.owned t }

/-- What the code does. A transport that is used or referred to has to exist. -/
def act : Action Id Net → Option (State Id Net)
  | .constructByReference id t closeOnDestroy =>
    if s.clients.lookup id = none ∧ s.owned t then some (s.insert id ⟨some t, none, closeOnDestroy⟩) else none
  -- throws `std::invalid_argument`
  | .constructShared _ none _ => some s
  | .constructShared id (some t) closeOnDestroy =>
    if s.clients.lookup id = none ∧ s.ownedOutside t then some (s.insert id ⟨some t, some t, closeOnDestroy⟩) else none
  | .moveConstruct target source =>
    if s.clients.lookup target = none then (s.clients.lookup source).map (s.move target source) else none
  | .moveAssign target source =>
    if s.clients.lookup target = none then none
    else if target = source then some s
    else (s.clients.lookup source).map (s.move target source)
  | .destroy id => (s.clients.lookup id).bind fun c =>
    match c.toClose with
    | none => some (s.erase id)
    | some t => if s.owned t then some ((s.close t).erase id) else none
  | .use t connected =>
    if s.owned t then some { s with connected := Function.update s.connected t connected } else none
  | .release t =>
    if s.ownedOutside t then some { s with ownedOutside := Function.update s.ownedOutside t false } else none

def step (action : Action Id Net) : Option (State Id Net) := (s.act action).map (·.settle)

end State

/-! ## Duties -/

/-- Who has the duty to close which transport, and the transports for which some client was asked to. -/
structure Ledger (Id Net : Type) where
  duty : Id → Option Net
  asked : Net → Bool

namespace Ledger

variable (l : Ledger Id Net)

def construct [DecidableEq Net] (id : Id) (t : Net) (closeOnDestroy : Bool) : Ledger Id Net where
  duty := Function.update l.duty id (if closeOnDestroy then some t else none)
  asked := if closeOnDestroy then Function.update l.asked t true else l.asked

def move (target source : Id) : Ledger Id Net :=
  if target = source then l
  else { l with duty := Function.update (Function.update l.duty target (l.duty source)) source none }

def after [DecidableEq Net] : Action Id Net → Ledger Id Net
  | .constructByReference id t closeOnDestroy => l.construct id t closeOnDestroy
  | .constructShared _ none _ => l
  | .constructShared id (some t) closeOnDestroy => l.construct id t closeOnDestroy
  | .moveConstruct target source => l.move target source
  | .moveAssign target source => l.move target source
  | .destroy id => { l with duty := Function.update l.duty id none }
  | .use _ _ => l
  | .release _ => l

end Ledger

/-- The client whose duty has to be done by the end of the action: it is destroyed or overwritten. -/
def Action.ends : Action Id Net → Option Id
  | .destroy id => some id
  | .moveAssign target source => if target = source then none else some target
  | _ => none

/-- The action is one of a client. -/
def Action.byClient : Action Id Net → Bool
  | .use _ _ => false
  | .release _ => false
  | _ => true

/-- The code, with the ledger beside it. At the start all transports are someone's, and none is connected. -/
def system (Id Net : Type) [DecidableEq Id] [DecidableEq Net] :
    System (State Id Net × Ledger Id Net) (Action Id Net) where
  init := (⟨∅, fun _ => false, fun _ => true⟩, ⟨fun _ => none, fun _ => false⟩)
  step := fun (s, l) action => (s.step action).map fun s' => (s', l.after action)

/-! ## Steps -/

namespace Action

/-- The client, the transport and the flag of a construction that does not throw. -/
def constructs : Action Id Net → Option (Id × Net × Bool)
  | .constructByReference id t closeOnDestroy => some (id, t, closeOnDestroy)
  | .constructShared id t closeOnDestroy => t.map fun t => (id, t, closeOnDestroy)
  | _ => none

/-- The target and the source of a move between two clients. -/
def moves : Action Id Net → Option (Id × Id)
  | .moveConstruct target source => if target = source then none else some (target, source)
  | .moveAssign target source => if target = source then none else some (target, source)
  | _ => none

end Action

/-- What an action does, before transports without an owner are destroyed. -/
inductive Change [DecidableEq Net] (s : State Id Net) : Action Id Net → State Id Net → Prop
  | constructed {action : Action Id Net} {id : Id} {t : Net} {owner : Option Net} {closeOnDestroy : Bool}
      (ha : action.constructs = some (id, t, closeOnDestroy)) :
      Change s action (s.insert id ⟨some t, owner, closeOnDestroy⟩)
  | refused {id : Id} {closeOnDestroy : Bool} : Change s (.constructShared id none closeOnDestroy) s
  | moved {action : Action Id Net} {target source : Id} {c : KmipClient Net} (ha : action.moves = some (target, source))
      (hc : s.clients.lookup source = some c) : Change s action (s.move target source c)
  | selfAssigned {id : Id} : Change s (.moveAssign id id) s
  | destroyed {id : Id} (hduty : s.duty id = none) : Change s (.destroy id) (s.erase id)
  | closed {id : Id} {t : Net} (hduty : s.duty id = some t) : Change s (.destroy id) ((s.close t).erase id)
  | used {t : Net} {connected : Bool} :
      Change s (.use t connected) { s with connected := Function.update s.connected t connected }
  | released {t : Net} : Change s (.release t) { s with ownedOutside := Function.update s.ownedOutside t false }

section Steps

variable {s s' : State Id Net}

theorem duty_of_lookup {id : Id} {c : KmipClient Net} (h : s.clients.lookup id = some c) : s.duty id = c.toClose := by
  unfold State.duty
  rw [h]
  rfl

variable [DecidableEq Net]

theorem change_of_act {action : Action Id Net} (h : s.act action = some s') : Change s action s' := by
  cases action with
  | constructByReference id t closeOnDestroy =>
    obtain ⟨-, h⟩ := Option.ite_none_right_eq_some.1 h
    cases h
    exact .constructed rfl
  | constructShared id t closeOnDestroy =>
    cases t with
    | none =>
      cases h
      exact .refused
    | some t =>
      obtain ⟨-, h⟩ := Option.ite_none_right_eq_some.1 h
      cases h
      exact .constructed rfl
  | moveConstruct target source =>
    obtain ⟨hfree, h⟩ := Option.ite_none_right_eq_some.1 h
    obtain ⟨c, hc, rfl⟩ := Option.map_eq_some_iff.1 h
    have hne : target ≠ source := by
      rintro rfl
      cases hfree.symm.trans hc
    exact .moved (if_neg hne) hc
  | moveAssign target source =>
    dsimp only [State.act] at h
    split at h
    · cases h
    rcases eq_or_ne target source with rfl | hne
    · rw [if_pos rfl] at h
      cases h
      exact .selfAssigned
    · rw [if_neg hne] at h
      obtain ⟨c, hc, rfl⟩ := Option.map_eq_some_iff.1 h
      exact .moved (if_neg hne) hc
  | destroy id =>
    obtain ⟨c, hc, h⟩ := Option.bind_eq_some_iff.1 h
    have hduty := duty_of_lookup hc
    split at h
    · rename_i hnone
      cases h
      exact .destroyed (hduty.trans hnone)
    · rename_i t hsome
      obtain ⟨-, h⟩ := Option.ite_none_right_eq_some.1 h
      cases h
      exact .closed (hduty.trans hsome)
  | use t connected =>
    obtain ⟨-, h⟩ := Option.ite_none_right_eq_some.1 h
    cases h
    exact .used
  | release t =>
    obtain ⟨-, h⟩ := Option.ite_none_right_eq_some.1 h
    cases h
    exact .released

theorem change_of_step {action : Action Id Net} (h : s.step action = some s') :
    ∃ s₁, Change s action s₁ ∧ s' = s₁.settle := by
  obtain ⟨s₁, hs₁, rfl⟩ := Option.map_eq_some_iff.1 h
  exact ⟨s₁, change_of_act hs₁, rfl⟩

theorem after_of_constructs (l : Ledger Id Net) {action : Action Id Net} {id : Id} {t : Net} {closeOnDestroy : Bool}
    (h : action.constructs = some (id, t, closeOnDestroy)) : l.after action = l.construct id t closeOnDestroy := by
  cases action with
  | constructByReference id t closeOnDestroy =>
    cases h
    rfl
  | constructShared id t closeOnDestroy =>
    cases t with
    | none => cases h
    | some t =>
      cases h
      rfl
  | _ => cases h

theorem after_of_moves (l : Ledger Id Net) {action : Action Id Net} {target source : Id}
    (h : action.moves = some (target, source)) : target ≠ source ∧ l.after action = l.move target source := by
  cases action with
  | moveConstruct target source =>
    obtain ⟨hne, h⟩ := Option.ite_none_left_eq_some.1 h
    cases h
    exact ⟨hne, rfl⟩
  | moveAssign target source =>
    obtain ⟨hne, h⟩ := Option.ite_none_left_eq_some.1 h
    cases h
    exact ⟨hne, rfl⟩
  | _ => cases h

end Steps

/-! ## The flags are the duties -/

section Duty

variable {s s' : State Id Net} {l : Ledger Id Net}

theorem duty_insert (s : State Id Net) (id : Id) (c : KmipClient Net) :
    (s.insert id c).duty = Function.update s.duty id c.toClose := by
  funext id'
  unfold State.duty State.insert
  rcases eq_or_ne id' id with rfl | hne
  · rw [AList.lookup_insert, Function.update_self]
    rfl
  · rw [AList.lookup_insert_ne hne, Function.update_of_ne hne]

theorem duty_erase (s : State Id Net) (id : Id) : (s.erase id).duty = Function.update s.duty id none := by
  funext id'
  unfold State.duty State.erase
  rcases eq_or_ne id' id with rfl | hne
  · rw [AList.lookup_erase, Function.update_self]
    rfl
  · rw [AList.lookup_erase_ne hne, Function.update_of_ne hne]

theorem duty_move {target source : Id} {c : KmipClient Net} (h : s.clients.lookup source = some c) :
    (s.move target source c).duty = Function.update (Function.update s.duty target (s.duty source)) source none := by
  unfold State.move
  rw [duty_insert, duty_insert, duty_of_lookup h]
  rfl

/-- Whoever has a duty was asked to. -/
def Ledger.Asked (l : Ledger Id Net) : Prop := ∀ id t, l.duty id = some t → l.asked t = true

/-- Taking a duty away, or passing on one that there was. -/
theorem Ledger.Asked.update (h : l.Asked) {id : Id} {value : Option Net}
    (hvalue : ∀ t, value = some t → l.asked t = true) :
    Ledger.Asked { l with duty := Function.update l.duty id value } := by
  intro id' t hduty
  dsimp only at hduty
  rcases eq_or_ne id' id with rfl | hne
  · rw [Function.update_self] at hduty
    exact hvalue t hduty
  · rw [Function.update_of_ne hne] at hduty
    exact h id' t hduty

theorem Ledger.Asked.move (h : l.Asked) (target source : Id) : (l.move target source).Asked := by
  unfold Ledger.move
  split
  · exact h
  · have htarget : Ledger.Asked { l with duty := Function.update l.duty target (l.duty source) } := h.update (h source)
    exact htarget.update (by rintro _ ⟨⟩)

variable [DecidableEq Net]

theorem Ledger.Asked.construct (h : l.Asked) (id : Id) (t : Net) (closeOnDestroy : Bool) :
    (l.construct id t closeOnDestroy).Asked := by
  intro id' t' hduty
  unfold Ledger.construct at hduty ⊢
  dsimp only at hduty ⊢
  rcases eq_or_ne id' id with rfl | hne
  · rw [Function.update_self] at hduty
    cases closeOnDestroy with
    | false => cases hduty
    | true =>
      cases hduty
      exact Function.update_self ..
  · rw [Function.update_of_ne hne] at hduty
    have hasked := h id' t' hduty
    cases closeOnDestroy with
    | false => exact hasked
    | true =>
      rcases eq_or_ne t' t with rfl | hne
      · exact Function.update_self ..
      · exact (Function.update_of_ne hne ..).trans hasked

theorem Ledger.Asked.after (h : l.Asked) (action : Action Id Net) : (l.after action).Asked := by
  cases action with
  | constructByReference id t closeOnDestroy => exact h.construct id t closeOnDestroy
  | constructShared id t closeOnDestroy =>
    cases t with
    | none => exact h
    | some t => exact h.construct id t closeOnDestroy
  | moveConstruct target source => exact h.move target source
  | moveAssign target source => exact h.move target source
  | destroy id => exact h.update (by rintro _ ⟨⟩)
  | use t connected => exact h
  | release t => exact h

/-- **Simulation.** The duties of the ledger are what the flags of the clients say. -/
theorem ledger_duty_step {action : Action Id Net} (hl : l.duty = s.duty) (h : s.step action = some s') :
    (l.after action).duty = s'.duty := by
  obtain ⟨s₁, hchange, rfl⟩ := change_of_step h
  change (l.after action).duty = s₁.duty
  cases hchange with
  | constructed ha =>
    rw [after_of_constructs l ha, duty_insert, ← hl]
    rfl
  | refused => exact hl
  | moved ha hc =>
    obtain ⟨hne, hafter⟩ := after_of_moves l ha
    rw [hafter, Ledger.move, if_neg hne, duty_move hc, ← hl]
  | selfAssigned =>
    rw [Ledger.after, Ledger.move, if_pos rfl]
    exact hl
  | @destroyed id _ =>
    rw [duty_erase, ← hl]
    rfl
  | @closed id t _ =>
    rw [duty_erase]
    change Function.update l.duty id none = Function.update s.duty id none
    rw [hl]
  | used => exact hl
  | released => exact hl

end Duty

/-! ## Closing -/

section Closing

variable {s s' : State Id Net} {target source : Id} {c : KmipClient Net}

theorem lookup_move_source : (s.move target source c).clients.lookup source = some (.empty Net) :=
  AList.lookup_insert _

theorem lookup_move_target (hne : target ≠ source) : (s.move target source c).clients.lookup target = some c :=
  (AList.lookup_insert_ne hne).trans (AList.lookup_insert _)

theorem lookup_move_of_ne {id : Id} (ht : id ≠ target) (hs : id ≠ source) :
    (s.move target source c).clients.lookup id = s.clients.lookup id :=
  (AList.lookup_insert_ne hs).trans (AList.lookup_insert_ne ht)

variable [DecidableEq Net]

theorem owned_iff (t : Net) : s.owned t = true ↔
    s.ownedOutside t = true ∨ ∃ id c, s.clients.lookup id = some c ∧ c.netClientOwner = some t := by
  unfold State.owned
  rw [Bool.or_eq_true, List.any_eq_true]
  refine or_congr_right ⟨?_, ?_⟩
  · rintro ⟨⟨id, c⟩, hmem, howner⟩
    exact ⟨id, c, AList.mem_lookup_iff.2 hmem, beq_iff_eq.1 howner⟩
  · rintro ⟨id, c, hlookup, howner⟩
    exact ⟨⟨id, c⟩, AList.mem_lookup_iff.1 hlookup, beq_iff_eq.2 howner⟩

/-- The transport that a step closes. -/
def State.closes (s : State Id Net) : Action Id Net → Option Net
  | .destroy id => s.duty id
  | _ => none

/-- A step of a client leaves the other owners alone, and closes a transport only for a duty or without an owner. -/
theorem connected_step {action : Action Id Net} (h : s.step action = some s') (hclient : action.byClient = true) :
    s'.ownedOutside = s.ownedOutside ∧
      ∀ t, s'.connected t = true ↔ s.connected t = true ∧ s'.owned t = true ∧ s.closes action ≠ some t := by
  obtain ⟨s₁, hchange, rfl⟩ := change_of_step h
  have hsettle (t : Net) : s₁.settle.connected t = true ↔ s₁.connected t = true ∧ s₁.settle.owned t = true :=
    Bool.and_eq_true_iff
  -- a step that is not the end of a duty does not close
  have hkeep (heq : s₁.connected = s.connected) (hnone : s.closes action = none) (t : Net) :
      s₁.settle.connected t = true ↔ s.connected t = true ∧ s₁.settle.owned t = true ∧ s.closes action ≠ some t := by
    rw [hsettle, heq, hnone]
    simp
  cases hchange with
  | constructed ha =>
    refine ⟨rfl, hkeep rfl ?_⟩
    cases action with
    | destroy id => cases ha
    | _ => rfl
  | refused => exact ⟨rfl, hkeep rfl rfl⟩
  | moved ha hc =>
    refine ⟨rfl, hkeep rfl ?_⟩
    cases action with
    | destroy id => cases ha
    | _ => rfl
  | selfAssigned => exact ⟨rfl, hkeep rfl rfl⟩
  | destroyed hduty => exact ⟨rfl, hkeep rfl hduty⟩
  | @closed id t hduty =>
    refine ⟨rfl, fun t' => ?_⟩
    rw [hsettle, State.closes, hduty]
    change Function.update s.connected t false t' = true ∧ _ ↔ _
    rcases eq_or_ne t' t with rfl | hne
    · simp
    · rw [Function.update_of_ne hne]
      simp [hne.symm]
  | used => cases hclient
  | released => cases hclient

/-- No one but the client owns the transport. -/
def State.OnlyOwner (s : State Id Net) (id : Id) (t : Net) : Prop :=
  s.ownedOutside t = false ∧ ∀ id' c, s.clients.lookup id' = some c → c.netClientOwner = some t → id' = id

/-- After a move, a transport has no owner if the client that was overwritten was the only one. -/
theorem owned_move (hne : target ≠ source) (hc : s.clients.lookup source = some c) (t : Net) :
    (s.move target source c).owned t = false ↔ s.OnlyOwner target t := by
  rw [← Bool.not_eq_true, owned_iff, not_or, Bool.not_eq_true]
  refine and_congr_right fun _ => ⟨?_, ?_⟩
  · intro hnone id c' hlookup howner
    by_contra htarget
    rcases eq_or_ne id source with rfl | hsource
    · cases hc.symm.trans hlookup
      exact hnone ⟨target, c, lookup_move_target hne, howner⟩
    · exact hnone ⟨id, c', (lookup_move_of_ne htarget hsource).trans hlookup, howner⟩
  · rintro honly ⟨id, c', hlookup, howner⟩
    rcases eq_or_ne id source with rfl | hsource
    · cases lookup_move_source.symm.trans hlookup
      cases howner
    rcases eq_or_ne id target with rfl | htarget
    · cases (lookup_move_target hne).symm.trans hlookup
      exact hne (honly source c hc howner).symm
    · exact htarget (honly id c' ((lookup_move_of_ne htarget hsource).symm.trans hlookup) howner)

end Closing

/-! ## Duties that are kept -/

section Kept

variable [DecidableEq Net]

/-- What a step is to keep. The transport of a client that is destroyed or overwritten, and had the duty, is closed; and
a client closes no transport that someone else owns and that no client was asked to close. -/
structure KeepsDuties (x : State Id Net × Ledger Id Net) (action : Action Id Net) (x' : State Id Net × Ledger Id Net) :
    Prop where
  closed : ∀ id t, action.ends = some id → x.2.duty id = some t → x'.1.connected t = false
  left_alone : action.byClient = true → ∀ t, x'.2.asked t = false → x.1.ownedOutside t = true →
    x'.1.connected t = x.1.connected t

/-- A client with a duty is overwritten only if its transport is closed already, or is owned by no one else. -/
def AssignsFreely (x : State Id Net × Ledger Id Net) (action : Action Id Net) (_ : State Id Net × Ledger Id Net) :
    Prop :=
  ∀ target source t, action = .moveAssign target source → target ≠ source → x.2.duty target = some t →
    x.1.connected t = false ∨ x.1.OnlyOwner target t

variable {s s' : State Id Net} {l : Ledger Id Net}

/-- An assignment closes what was closed already and what has no owner any more. -/
theorem connected_moveAssign {target source : Id} (hne : target ≠ source)
    (h : s.step (.moveAssign target source) = some s') (t : Net) :
    s'.connected t = false ↔ s.connected t = false ∨ s.OnlyOwner target t := by
  have hconnected := (connected_step h rfl).2 t
  obtain ⟨s₁, hchange, rfl⟩ := change_of_step h
  have howned : s₁.settle.owned t = false ↔ s.OnlyOwner target t := by
    cases hchange with
    | constructed ha => cases ha
    | moved ha hc =>
      cases (if_neg hne).symm.trans ha
      exact owned_move hne hc t
    | selfAssigned => exact absurd rfl hne
  rw [← howned, ← Bool.not_eq_true, hconnected, show s.closes (.moveAssign target source) = none from rfl]
  simp only [ne_eq, reduceCtorEq, not_false_eq_true, and_true, not_and, Bool.not_eq_true]
  cases s.connected t <;> simp

theorem keepsDuties_step {action : Action Id Net} (hl : l.duty = s.duty) (hasked : l.Asked)
    (h : s.step action = some s') :
    KeepsDuties (s, l) action (s', l.after action) ↔ AssignsFreely (s, l) action (s', l.after action) := by
  constructor
  · rintro ⟨hclosed, -⟩ target source t rfl hne hduty
    exact (connected_moveAssign hne h t).1 (hclosed target t (if_neg hne) hduty)
  · intro hfree
    refine ⟨fun id t hends hduty => ?_, fun hclient t hnever houtside => ?_⟩
    · cases action with
      | destroy id' =>
        cases hends
        have hconnected := (connected_step h rfl).2 t
        dsimp only at hduty
        rw [hl] at hduty
        rw [← Bool.not_eq_true, hconnected]
        exact fun hall => hall.2.2 hduty
      | moveAssign target source =>
        obtain ⟨hne, hid⟩ := Option.ite_none_left_eq_some.1 hends
        cases hid
        exact (connected_moveAssign hne h t).2 (hfree id source t rfl hne hduty)
      | _ => cases hends
    · obtain ⟨howner, hconnected⟩ := connected_step h hclient
      rw [Bool.eq_iff_iff, hconnected]
      refine ⟨And.left, fun hs => ⟨hs, (owned_iff t).2 (Or.inl ?_), fun hcloses => ?_⟩⟩
      · rw [howner]
        exact houtside
      · cases action with
        | destroy id =>
          have htrue := hasked id t (by rw [hl]; exact hcloses)
          cases hnever.symm.trans htrue
        | _ => cases hcloses

/-- In every run of constructions, moves, assignments and destructions, with the transports used and let go by others in
between, the duties are kept exactly if no client with a duty is overwritten whose transport is still connected and has
another owner. -/
theorem keepsDuties_iff (actions : List (Action Id Net)) :
    EachStep (system Id Net) KeepsDuties (system Id Net).init actions ↔
      EachStep (system Id Net) AssignsFreely (system Id Net).init actions := by
  refine eachStep_congr (I := fun x => x.2.duty = x.1.duty ∧ x.2.Asked) ?_ ?_ ?_ actions
  · rintro ⟨s, l⟩ action x' ⟨hl, hasked⟩ hstep -
    obtain ⟨s', hs', rfl⟩ := Option.map_eq_some_iff.1 hstep
    exact ⟨ledger_duty_step hl hs', hasked.after action⟩
  · rintro ⟨s, l⟩ action x' ⟨hl, hasked⟩ hstep
    obtain ⟨s', hs', rfl⟩ := Option.map_eq_some_iff.1 hstep
    exact keepsDuties_step hl hasked hs'
  · exact ⟨rfl, by rintro _ _ ⟨⟩⟩

/-- Two clients that are to close their transports. The second is assigned to the first: transport 0 stays connected,
and there is no client any more that refers to it. -/
theorem moveAssign_loses_duty :
    let actions : List (Action Nat Nat) :=
      [.constructByReference 0 0 true, .constructByReference 1 1 true, .use 0 true, .moveAssign 0 1]
    (∃ s l, run (system Nat Nat) (system Nat Nat).init actions = some (s, l) ∧ s.connected 0 = true ∧
      ∀ entry ∈ s.clients.entries, entry.2.netClient ≠ some 0) ∧
    ¬EachStep (system Nat Nat) KeepsDuties (system Nat Nat).init actions := by
  refine ⟨⟨_, _, rfl, rfl, by decide⟩, fun h => ?_⟩
  have hlast := ((((h _ rfl).2 _ rfl).2 _ rfl).2 _ rfl).1.closed 0 0 rfl rfl
  cases hlast

end Kept

end Kmip.Client.Ownership
