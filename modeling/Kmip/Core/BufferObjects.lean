import Kmip.Core.BufferCalls

/-!
# Buffers that are moved

Any number of buffers: they are created and destroyed, called, and moved from one to another. The defaulted moves
transfer the storage and copy the write position, so that a buffer that was moved from keeps its position over an empty
vector. `Kept` is for properties that all calls keep, whether they return or throw; positions and capacities stay
below the limit in every reachable state (`bounded_of_reachable`). The write positions stay in the storage exactly in
the runs that move from empty buffers only (`movesKeepValid_iff`).
-/

namespace Kmip.SerializationBuffer

open Hoare Transition

/-! ## Objects -/

/-- The buffers that exist. -/
abbrev Objects (Id : Type) := Id → Option SerializationBuffer

inductive Action (Id : Type) where
  | create (id : Id) (initialCapacity : Nat)
  | call (id : Id) (call : Call)
  | moveConstruct (target source : Id)
  | moveAssign (target source : Id)
  | destroy (id : Id)

/-- A buffer after its members were moved: the vector is empty, the write position is copied. -/
def movedFrom (b : SerializationBuffer) : SerializationBuffer := { b with buffer := [], capacity := 0 }

/-- The call does not end. -/
def diverges {α : Type} : EStateM.Result Abort SerializationBuffer α → Bool
  | .error .diverged _ => true
  | _ => false

section Objects

variable {Id : Type} [DecidableEq Id]

/-- The members of `source`, which are `b`, are moved to `target`. -/
def Objects.move (objects : Objects Id) (target source : Id) (b : SerializationBuffer) : Objects Id :=
  Function.update (Function.update objects target (some b)) source (some b.movedFrom)

/-- Buffers with initial capacities up to a limit. A call that throws leaves its object as it is then. -/
def objectSystem (Id : Type) [DecidableEq Id] (limit : Nat) : System (Objects Id) (Action Id) where
  init := fun _ => none
  step objects
    | .create id n =>
      if (objects id).isNone ∧ n ≤ limit then (create n).map fun b => Function.update objects id (some b) else none
    | .call id call => (objects id).bind fun b =>
      if diverges (call.perform b) then none
      else some (Function.update objects id (some (finalState (call.perform b))))
    | .moveConstruct target source =>
      if (objects target).isNone then (objects source).map (objects.move target source) else none
    | .moveAssign target source =>
      if (objects target).isSome then (objects source).map (objects.move target source) else none
    | .destroy id => (objects id).map fun _ => Function.update objects id none

/-- The target and the source of a move. -/
def Action.moves : Action Id → Option (Id × Id)
  | .moveConstruct target source => some (target, source)
  | .moveAssign target source => some (target, source)
  | _ => none

/-- What an action does. -/
inductive Change (limit : Nat) (objects : Objects Id) : Action Id → Objects Id → Prop
  | created {id : Id} {n : Nat} (hlimit : n ≤ limit) (hsize : n ≤ maxSize) :
      Change limit objects (.create id n) (Function.update objects id (some (new n)))
  | called {id : Id} {call : Call} {b : SerializationBuffer} (hb : objects id = some b) :
      Change limit objects (.call id call) (Function.update objects id (some (finalState (call.perform b))))
  | moved {action : Action Id} {target source : Id} {b : SerializationBuffer}
      (hmoves : action.moves = some (target, source)) (hb : objects source = some b) :
      Change limit objects action (objects.move target source b)
  | destroyed {id : Id} : Change limit objects (.destroy id) (Function.update objects id none)

theorem change_of_step {limit : Nat} {objects objects' : Objects Id} {action : Action Id}
    (h : (objectSystem Id limit).step objects action = some objects') : Change limit objects action objects' := by
  cases action with
  | create id n =>
    change (if _ then _ else _) = _ at h
    split at h
    · rename_i hn
      obtain ⟨b, hb, rfl⟩ := Option.map_eq_some_iff.1 h
      unfold create at hb
      split at hb
      · cases hb
        exact .created hn.2 (by assumption)
      · cases hb
    · cases h
  | call id call =>
    obtain ⟨b, hb, h⟩ := Option.bind_eq_some_iff.1 h
    split at h
    · cases h
    · cases h
      exact .called hb
  | moveConstruct target source =>
    change (if _ then _ else _) = _ at h
    split at h
    · obtain ⟨b, hb, rfl⟩ := Option.map_eq_some_iff.1 h
      exact .moved rfl hb
    · cases h
  | moveAssign target source =>
    change (if _ then _ else _) = _ at h
    split at h
    · obtain ⟨b, hb, rfl⟩ := Option.map_eq_some_iff.1 h
      exact .moved rfl hb
    · cases h
  | destroy id =>
    obtain ⟨b, -, rfl⟩ := Option.map_eq_some_iff.1 h
    exact .destroyed

end Objects

/-! ## What every call keeps -/

/-- Positions and capacities are below the limit, and the vector is in its capacity. -/
structure Bounded (limit : Nat) (b : SerializationBuffer) : Prop where
  size_le : b.buffer.length ≤ b.capacity
  capacity_le : b.capacity ≤ limit
  offset_le : b.currentOffset ≤ limit

/-- The write position lies in the storage. -/
structure Sound (limit : Nat) (b : SerializationBuffer) : Prop extends Bounded limit b where
  inStorage : b.currentOffset ≤ b.buffer.length

/-- A property of buffers that is kept by all that a call is made of. -/
structure Kept (limit : Nat) (I : SerializationBuffer → Prop) : Prop where
  bounded : ∀ b, I b → Bounded limit b
  reserve : ∀ b c, I b → b.capacity ≤ c → c ≤ limit → I { b with capacity := c }
  store : ∀ b data, I b → b.currentOffset + data.length ≤ b.capacity → I (b.growAndStore data)
  start : ∀ buffer c, buffer.length ≤ c → c ≤ limit → I ⟨buffer, c, 0⟩

section Kept

variable {limit : Nat} (hmax : limit ≤ maxSize)

include hmax

theorem Bounded.store {b : SerializationBuffer} {data : List UInt8} (h : Bounded limit b)
    (hroom : b.currentOffset + data.length ≤ b.capacity) : Sound limit (b.growAndStore data) := by
  have hcapacity := h.capacity_le
  have hlt : b.currentOffset + data.length < 2 ^ 64 := by
    unfold maxSize at hmax
    omega
  have hvalid := growAndStore_valid h.size_le hlt
  refine ⟨⟨hvalid.size_le, ?_, ?_⟩, hvalid.offset_le⟩
  · rw [growAndStore_capacity hlt hroom]
    exact hcapacity
  · rw [growAndStore_offset]
    exact hroom.trans hcapacity

theorem kept_bounded : Kept limit (Bounded limit) where
  bounded _ h := h
  reserve _ _ h hle hc := ⟨h.size_le.trans hle, hc, h.offset_le⟩
  store _ _ h hroom := (h.store hmax hroom).toBounded
  start _ _ hsize hc := ⟨hsize, hc, Nat.zero_le _⟩

theorem kept_sound : Kept limit (Sound limit) where
  bounded _ h := h.toBounded
  reserve _ _ h hle hc := ⟨⟨h.size_le.trans hle, hc, h.offset_le⟩, h.inStorage⟩
  store _ _ h hroom := h.toBounded.store hmax hroom
  start _ _ hsize hc := ⟨⟨hsize, hc, Nat.zero_le _⟩, Nat.zero_le _⟩

variable (hlimit : maxCapacity ≤ limit) {I : SerializationBuffer → Prop} (hI : Kept limit I)

include hlimit hI

omit hmax in
theorem Kept.ensureSpace (n : Nat) : Triple I (Method.ensureSpace n) (fun _ => I) (fun _ => I) := by
  constructor
  intro b hb
  unfold Method.ensureSpace
  cases h : b.ensureSpace n with
  | error e => exact hb
  | ok b' =>
    obtain ⟨c, rfl, hle, -, hc⟩ := ensureSpace_eq_ok h
    exact hI.reserve b c hb hle (hc.trans (max_le (hI.bounded b hb).capacity_le hlimit))

/-- The common part of the three writes. -/
theorem Kept.write {data : List UInt8} (hdata : data.length < 2 ^ 63) :
    Triple I (Method.ensureSpace data.length >>= fun _ => modify (·.growAndStore data)) (fun _ => I) (fun _ => I) := by
  constructor
  intro b hb
  rw [ensureSpace_bind]
  cases h : b.ensureSpace data.length with
  | error e => exact hb
  | ok b' =>
    have hkeep := ((hI.ensureSpace hlimit data.length).run b hb)
    unfold Method.ensureSpace at hkeep
    rw [h] at hkeep
    have hoffset := (hI.bounded b hb).offset_le
    obtain ⟨c, rfl, -, hroom, -⟩ := ensureSpace_ok (by unfold maxSize at hmax; omega) h
    exact hI.store _ data hkeep hroom

theorem Kept.writeBytes {data : List UInt8} (hdata : data.length < 2 ^ 63) :
    Triple I (Method.writeBytes data) (fun _ => I) (fun _ => I) := by
  unfold Method.writeBytes
  refine triple_ite (fun _ => triple_pure fun _ h => h) fun _ => ?_
  exact hI.write hmax hlimit hdata

theorem Kept.writePadded {data : List UInt8} (hdata : data.length < 2 ^ 63) :
    Triple I (Method.writePadded data) (fun _ => I) (fun _ => I) := by
  unfold Method.writePadded
  refine triple_bind (hI.writeBytes hmax hlimit hdata) fun _ => ?_
  refine triple_ite (fun _ => ?_) fun _ => triple_pure fun _ h => h
  have hwrite := @Kept.write limit hmax hlimit I hI (padding data.length) (by
    rw [length_padding]
    omega)
  rw [padding, List.length_replicate] at hwrite
  exact hwrite

/-- Every call, whether it returns or throws. -/
theorem Kept.perform (call : Call) : Triple I call.perform (fun _ => I) (fun _ => I) := by
  cases call with
  | writeByte value =>
    have hone : [value].length < 2 ^ 63 := by
      rw [List.length_singleton]
      decide
    exact triple_bind (hI.write hmax hlimit hone) fun _ => triple_pure fun _ h => h
  | writeBytes data => exact triple_bind (hI.writeBytes hmax hlimit data.size_lt) fun _ => triple_pure fun _ h => h
  | writePadded data => exact triple_bind (hI.writePadded hmax hlimit data.size_lt) fun _ => triple_pure fun _ h => h
  | ensureSpace n => exact triple_bind (hI.ensureSpace hlimit _) fun _ => triple_pure fun _ h => h
  | reset => exact ⟨fun b hb => hI.start b.buffer b.capacity (hI.bounded b hb).size_le (hI.bounded b hb).capacity_le⟩
  | release => exact ⟨fun b hb => hI.start [] b.capacity (Nat.zero_le _) (hI.bounded b hb).capacity_le⟩
  | shrink => exact ⟨fun _ _ => hI.start [] 0 (Nat.zero_le _) (Nat.zero_le _)⟩

end Kept

/-! ## Reachable objects -/

section Reachable

variable {Id : Type} [DecidableEq Id] {limit : Nat}

/-- Every object has a property. -/
def Objects.All (objects : Objects Id) (I : SerializationBuffer → Prop) : Prop := ∀ id b, objects id = some b → I b

theorem Objects.All.update {objects : Objects Id} {I : SerializationBuffer → Prop} (h : objects.All I) {id : Id}
    {value : Option SerializationBuffer} (hvalue : ∀ b, value = some b → I b) :
    Objects.All (Function.update objects id value) I := by
  intro id' b hb
  rcases eq_or_ne id' id with rfl | hne
  · rw [Function.update_self] at hb
    exact hvalue b hb
  · rw [Function.update_of_ne hne] at hb
    exact h id' b hb

theorem Objects.All.set {objects : Objects Id} {I : SerializationBuffer → Prop} (h : objects.All I) {id : Id}
    {b : SerializationBuffer} (hb : I b) : Objects.All (Function.update objects id (some b)) I :=
  h.update fun _ heq => Option.some.inj heq ▸ hb

/-- A move, of an object with the property. -/
theorem Objects.All.move {objects : Objects Id} {I : SerializationBuffer → Prop} (h : objects.All I)
    {target source : Id} {b : SerializationBuffer} (hb : objects source = some b) (hmoved : I b.movedFrom) :
    (objects.move target source b).All I :=
  (h.set (h source b hb)).set hmoved

/-- What the calls keep is kept by a step, if it is kept by its move. -/
theorem Kept.step (hmax : limit ≤ maxSize) (hlimit : maxCapacity ≤ limit) {I : SerializationBuffer → Prop}
    (hI : Kept limit I) {objects objects' : Objects Id} {action : Action Id} (h : objects.All I)
    (hstep : (objectSystem Id limit).step objects action = some objects')
    (hmoved : ∀ target source b, action.moves = some (target, source) → objects source = some b → I b.movedFrom) :
    objects'.All I := by
  cases change_of_step hstep with
  | created hn _ => exact h.set (hI.start [] _ (Nat.zero_le _) hn)
  | called hb => exact h.set ((hI.perform hmax hlimit _).final (h _ _ hb))
  | moved hmoves hb => exact h.move hb (hmoved _ _ _ hmoves hb)
  | destroyed => exact h.update (by rintro _ ⟨⟩)

/-- A buffer that was moved from has a write position, but nothing at it. -/
theorem Bounded.movedFrom {b : SerializationBuffer} (h : Bounded limit b) : Bounded limit b.movedFrom :=
  ⟨Nat.zero_le _, Nat.zero_le _, h.offset_le⟩

theorem bounded_of_reachable (hmax : limit ≤ maxSize) (hlimit : maxCapacity ≤ limit) {objects : Objects Id}
    (h : Reachable (objectSystem Id limit) objects) : objects.All (Bounded limit) := by
  refine h.invariant (I := fun objects => objects.All (Bounded limit)) ?_ ?_
  · rintro id b ⟨⟩
  · intro objects action objects' _ hb hstep
    exact (kept_bounded hmax).step hmax hlimit hb hstep fun _ _ b _ hsource => (hb _ b hsource).movedFrom

end Reachable

/-! ## Moves -/

section Moves

variable {Id : Type} [DecidableEq Id]

/-- The target has the bytes of the source, which is an empty buffer then. -/
def MoveTransfers (objects : Objects Id) (action : Action Id) (objects' : Objects Id) : Prop :=
  ∀ target source b, action.moves = some (target, source) → objects source = some b →
    (target ≠ source → ∃ b', objects' target = some b' ∧ b'.size = b.size ∧ b'.span = b.span) ∧
      ∃ c, objects' source = some (new c)

/-- What a step is to keep: all write positions lie in the storage, and moves transfer. -/
def KeepsValid (objects : Objects Id) (action : Action Id) (objects' : Objects Id) : Prop :=
  objects'.All (fun b => b.currentOffset ≤ b.buffer.length) ∧ MoveTransfers objects action objects'

/-- A move is from a buffer whose write position is at its start. -/
def MovesEmpty (objects : Objects Id) (action : Action Id) (_ : Objects Id) : Prop :=
  ∀ target source b, action.moves = some (target, source) → objects source = some b → b.size = 0

theorem Objects.move_source (objects : Objects Id) (target source : Id) (b : SerializationBuffer) :
    objects.move target source b source = some b.movedFrom := Function.update_self ..

theorem Objects.move_target (objects : Objects Id) {target source : Id} (hne : target ≠ source)
    (b : SerializationBuffer) : objects.move target source b target = some b := by
  rw [Objects.move, Function.update_of_ne hne, Function.update_self]

theorem change_move {limit : Nat} {objects objects' : Objects Id} {action : Action Id}
    (h : Change limit objects action objects') {target source : Id} {b : SerializationBuffer}
    (hmoves : action.moves = some (target, source)) (hb : objects source = some b) :
    objects' = objects.move target source b := by
  cases h with
  | created _ _ => cases hmoves
  | called _ => cases hmoves
  | moved hmoves' hb' =>
    cases hmoves.symm.trans hmoves'
    cases hb.symm.trans hb'
    rfl
  | destroyed => cases hmoves

theorem movedFrom_of_empty {b : SerializationBuffer} (h : b.size = 0) : b.movedFrom = new 0 := by
  unfold movedFrom
  rw [show b.currentOffset = 0 from h]
  rfl

/-- One step, from objects that are sound. -/
theorem keepsValid_iff {objects objects' : Objects Id} {action : Action Id} (h : objects.All (Sound maxSize))
    (hstep : (objectSystem Id maxSize).step objects action = some objects') :
    KeepsValid objects action objects' ↔ MovesEmpty objects action objects' := by
  have hchange := change_of_step hstep
  constructor
  · rintro ⟨hall, -⟩ target source b hmoves hb
    rw [change_move hchange hmoves hb] at hall
    exact Nat.le_zero.1 (hall source b.movedFrom (objects.move_source target source b))
  · intro hempty
    refine ⟨fun id b hb => ?_, fun target source b hmoves hb => ?_⟩
    · refine ((kept_sound le_rfl).step le_rfl (by decide) h hstep ?_ id b hb).inStorage
      intro target source b hmoves hb
      rw [movedFrom_of_empty (hempty target source b hmoves hb)]
      exact (kept_sound le_rfl).start [] 0 le_rfl (Nat.zero_le _)
    · rw [change_move hchange hmoves hb]
      refine ⟨fun hne => ⟨b, objects.move_target hne b, rfl, rfl⟩, 0, ?_⟩
      rw [objects.move_source, movedFrom_of_empty (hempty target source b hmoves hb)]

/-- In every run, all objects have their write positions in their storage and all moves transfer the bytes and leave an
empty buffer, exactly if the moves are from buffers with `size() = 0`. -/
theorem movesKeepValid_iff (actions : List (Action Id)) :
    EachStep (objectSystem Id maxSize) KeepsValid (objectSystem Id maxSize).init actions ↔
      EachStep (objectSystem Id maxSize) MovesEmpty (objectSystem Id maxSize).init actions := by
  refine eachStep_congr (I := fun objects => objects.All (Sound maxSize)) ?_ ?_ ?_ actions
  · intro objects action objects' h hstep ⟨hall, _⟩ id b hb
    have hbounded := (kept_bounded le_rfl).step le_rfl (by decide) (fun id b hb => (h id b hb).toBounded) hstep
      fun _ source b _ hsource => (h source b hsource).toBounded.movedFrom
    exact ⟨hbounded id b hb, hall id b hb⟩
  · intro objects action objects' h hstep
    exact keepsValid_iff h hstep
  · rintro id b ⟨⟩

/-- A byte is written to buffer 0, which is then moved: it still has `size() = 1`, over an empty vector. -/
theorem movedFrom_keeps_position :
    let actions : List (Action Nat) := [.create 0 16, .call 0 (.writeByte 7), .moveConstruct 1 0]
    (∃ objects, run (objectSystem Nat maxSize) (objectSystem Nat maxSize).init actions = some objects ∧
      objects 0 = some ⟨[], 0, 1⟩) ∧
    ¬EachStep (objectSystem Nat maxSize) KeepsValid (objectSystem Nat maxSize).init actions := by
  refine ⟨⟨_, rfl, rfl⟩, fun h => ?_⟩
  have hlast := ((((h _ rfl).2 _ rfl).2 _ rfl).1.1 0 ⟨[], 0, 1⟩ rfl)
  cases hlast

end Moves

end Kmip.SerializationBuffer
