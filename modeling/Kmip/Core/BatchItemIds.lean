import Kmip.Core.Protocol
import Kmip.Lib.Transition

/-!
# Unique batch item ids

The operations that change the items of a request: construction, `fromElement`, `add_batch_item`, `setBatchItems` and
`clearBatchItems`. Along every run the ids are those of the last decoded message followed by the values of the counter
(`Assigned`). The counter starts behind the *number* of decoded items, not behind their ids. So the ids stay unique
exactly as long as no decoded id lies in the range that the counter goes through (`uniqueIds_iff`).
-/

namespace Kmip.RequestMessage

open Transition Element

/-! ## Operations -/

inductive Action where
  | construct (version : ProtocolVersion) (maxResponseSize : Nat)
  | fromElement (e : Element)
  | addBatchItem (item : RequestBatchItem)
  | setBatchItems (items : List RequestBatchItem)
  | clearBatchItems

/-- How many items an operation adds with `add_batch_item`. -/
def Action.additions : Action → Nat
  | .addBatchItem _ => 1
  | .setBatchItems items => items.length
  | _ => 0

def additions (as : List Action) : Nat := (as.map Action.additions).sum

/-- `RequestMessage()` and the operations on it. After an operation that throws there is no message. -/
def lifecycle : System RequestMessage Action where
  init := ⟨{ maximumResponseSize := some (Int32.ofNat kmipMaxMessageSize) }, [], 1⟩
  step m
    | .construct version maxResponseSize => (new version maxResponseSize).toOption
    | .fromElement e => (RequestMessage.fromElement e).toOption
    | .addBatchItem item => some (m.addBatchItem item).2
    | .setBatchItems items => some (m.setBatchItems items)
    | .clearBatchItems => some m.clearBatchItems

/-- The message after the operations. -/
def after (as : List Action) : Option RequestMessage := run lifecycle lifecycle.init as

def ids (m : RequestMessage) : List UInt32 := m.batchItems.map (·.uniqueBatchItemId)

/-- The ids are not zero and pairwise distinct. -/
structure UniqueIds (m : RequestMessage) : Prop where
  nonzero : ∀ id ∈ m.ids, id ≠ 0
  nodup : m.ids.Nodup

/-! ## What the counter has assigned -/

/-- The ids that the counter gives out after `n` items. -/
def counted (n k : Nat) : List UInt32 := (List.range k).map (fun i => UInt32.ofNat (n + 1 + i))

theorem mem_counted {n k : Nat} {id : UInt32} : id ∈ counted n k ↔ ∃ i < k, UInt32.ofNat (n + 1 + i) = id := by
  simp [counted]

theorem counted_succ (n k : Nat) : counted n (k + 1) = counted n k ++ [UInt32.ofNat (n + k + 1)] := by
  simp [counted, List.range_succ, Nat.add_right_comm]

/-- The message holds `base.length` decoded items with the ids `base`, and `k` items that were added to them. -/
structure Assigned (base : List UInt32) (k : Nat) (m : RequestMessage) : Prop where
  ids_eq : m.ids = base ++ counted base.length k
  next_eq : m.nextBatchItemId = UInt32.ofNat (base.length + k + 1)

section Steps

variable {base : List UInt32} {k : Nat} {m : RequestMessage}

theorem ids_addBatchItem (m : RequestMessage) (item : RequestBatchItem) :
    (m.addBatchItem item).2.ids = m.ids ++ [(m.addBatchItem item).1] := by
  simp [ids, addBatchItem]

theorem Assigned.addBatchItem (h : Assigned base k m) (item : RequestBatchItem) :
    Assigned base (k + 1) (m.addBatchItem item).2 := by
  constructor
  · rw [ids_addBatchItem, h.ids_eq, counted_succ, ← List.append_assoc]
    show _ ++ [m.nextBatchItemId] = _
    rw [h.next_eq]
  · show m.nextBatchItemId + 1 = _
    rw [h.next_eq, ← Nat.add_assoc, UInt32.ofNat_add (base.length + k + 1) 1]
    rfl

theorem Assigned.addBatchItems (items : List RequestBatchItem) (h : Assigned base k m) :
    Assigned base (k + items.length) (items.foldl (fun m item => (m.addBatchItem item).2) m) := by
  induction items generalizing k m with
  | nil => exact h
  | cons item items ih =>
    rw [List.length_cons, ← Nat.add_assoc, Nat.add_right_comm]
    exact ih (h.addBatchItem item)

theorem assigned_clearBatchItems (m : RequestMessage) : Assigned [] 0 m.clearBatchItems := ⟨rfl, rfl⟩

theorem assigned_setBatchItems (m : RequestMessage) (items : List RequestBatchItem) :
    Assigned [] items.length (m.setBatchItems items) := by
  have h := (assigned_clearBatchItems m).addBatchItems items
  rwa [Nat.zero_add] at h

theorem assigned_new {version : ProtocolVersion} {maxResponseSize : Nat} (h : new version maxResponseSize = .ok m) :
    Assigned [] 0 m := by
  rw [new, setMaxResponseSize] at h
  split at h
  · cases h
  · cases h
    exact ⟨rfl, rfl⟩

/-- `fromElement` sets the counter from the number of the items. -/
theorem nextBatchItemId_fromElement {e : Element} (h : fromElement e = .ok m) :
    m.nextBatchItemId = UInt32.ofNat (m.batchItems.length + 1) := by
  rw [fromElement] at h
  split at h
  · cases h
  split at h
  · cases h
  split at h
  · cases h
  obtain ⟨header, -, h⟩ := Except.bind_eq_ok_iff.1 h
  obtain ⟨_, -, h⟩ := Except.bind_eq_ok_iff.1 h
  obtain ⟨batchItems, -, h⟩ := Except.bind_eq_ok_iff.1 h
  split at h
  · cases h
  · cases h
    rfl

theorem assigned_fromElement {e : Element} (h : fromElement e = .ok m) : Assigned m.ids 0 m := by
  refine ⟨by simp [counted], ?_⟩
  rw [nextBatchItemId_fromElement h, ids, List.length_map, Nat.add_zero]

end Steps

/-! ## Uniqueness of the assigned ids -/

section Unique

variable {base : List UInt32} {k : Nat} {m : RequestMessage} (hz : ∀ id ∈ base, id ≠ 0) (hn : base.Nodup)

include hz hn

/-- There are `2 ^ 32 - 1` ids. -/
theorem length_lt_of_nodup : base.length < 2 ^ 32 := by
  have hsub : (base.map UInt32.toNat).toFinset ⊆ Finset.Ioo 0 (2 ^ 32) := by
    intro n hn'
    obtain ⟨id, hid, rfl⟩ := List.mem_map.1 (List.mem_toFinset.1 hn')
    exact Finset.mem_Ioo.2 ⟨Nat.pos_of_ne_zero fun h => hz id hid (UInt32.toNat.inj h), id.toNat_lt⟩
  have hcard := Finset.card_le_card hsub
  rw [List.toFinset_card_of_nodup (hn.map fun _ _ => UInt32.toNat.inj), List.length_map, Nat.card_Ioo] at hcard
  omega

/-- Unique ids: the counter does not wrap, and it meets none of the decoded ids. -/
theorem Assigned.unique_iff (h : Assigned base k m) :
    m.UniqueIds ↔
      base.length + k < 2 ^ 32 ∧ ∀ id ∈ base, ¬(base.length < id.toNat ∧ id.toNat ≤ base.length + k) := by
  have hlen := length_lt_of_nodup hz hn
  constructor
  · rintro ⟨hnonzero, hnodup⟩
    rw [h.ids_eq] at hnonzero hnodup
    constructor
    · by_contra hk
      -- the counter passes through zero
      refine hnonzero _ (List.mem_append_right _ (mem_counted.2 ⟨2 ^ 32 - base.length - 1, by omega, rfl⟩)) ?_
      rw [show base.length + 1 + (2 ^ 32 - base.length - 1) = 2 ^ 32 by omega]
      rfl
    · rintro id hid ⟨hlo, hhi⟩
      refine (List.nodup_append.1 hnodup).2.2 id hid id (mem_counted.2 ⟨id.toNat - base.length - 1, by omega, ?_⟩) rfl
      rw [show base.length + 1 + (id.toNat - base.length - 1) = id.toNat by omega, UInt32.ofNat_toNat]
  · rintro ⟨hk, hmeet⟩
    have hval : ∀ i < k, (UInt32.ofNat (base.length + 1 + i)).toNat = base.length + 1 + i := fun i hi =>
      UInt32.toNat_ofNat_of_lt' (show base.length + 1 + i < 2 ^ 32 by omega)
    constructor
    · intro id hid
      rw [h.ids_eq, List.mem_append, mem_counted] at hid
      obtain hid | ⟨i, hi, rfl⟩ := hid
      · exact hz id hid
      · intro h0
        have hi' := hval i hi
        rw [h0] at hi'
        exact absurd hi' (show 0 ≠ _ by omega)
    · rw [h.ids_eq, List.nodup_append]
      refine ⟨hn, List.Nodup.map_on ?_ List.nodup_range, ?_⟩
      · intro i hi j hj hij
        have hi' := hval i (List.mem_range.1 hi)
        rw [hij, hval j (List.mem_range.1 hj)] at hi'
        omega
      · rintro id hid _ hc rfl
        obtain ⟨i, hi, rfl⟩ := mem_counted.1 hc
        refine hmeet _ hid ?_
        rw [hval i hi]
        omega

end Unique

/-! ## Runs -/

/-- Where the ids of the message after `as` come from: the last reset, and `k` additions since then. -/
inductive Origin (as : List Action) : List UInt32 → Nat → Prop
  | reset {k : Nat} (hk : k ≤ additions as) : Origin as [] k
  | decoded {pre : List Action} {e : Element} {items : List RequestBatchItem} {m : RequestMessage}
      (has : as = pre ++ .fromElement e :: items.map .addBatchItem) (hm : fromElement e = .ok m) :
      Origin as m.ids items.length

theorem additions_concat (as : List Action) (a : Action) : additions (as ++ [a]) = additions as + a.additions := by
  simp [additions]

/-- One more operation. -/
theorem Origin.step {as : List Action} {a : Action} {base : List UInt32} {k : Nat} {m m' : RequestMessage}
    (ho : Origin as base k) (ha : Assigned base k m) (hs : lifecycle.step m a = some m') :
    ∃ base' k', Origin (as ++ [a]) base' k' ∧ Assigned base' k' m' := by
  cases a with
  | construct version maxResponseSize =>
    exact ⟨[], 0, .reset (Nat.zero_le _), assigned_new (Except.toOption_eq_some_iff.1 hs)⟩
  | fromElement e =>
    have hm := Except.toOption_eq_some_iff.1 hs
    exact ⟨m'.ids, 0, @Origin.decoded _ as e [] m' rfl hm, assigned_fromElement hm⟩
  | addBatchItem item =>
    cases hs
    refine ⟨base, k + 1, ?_, ha.addBatchItem item⟩
    cases ho with
    | reset hk => exact .reset (by rw [additions_concat]; exact Nat.succ_le_succ hk)
    | @decoded pre e items m has hm =>
      have h := @Origin.decoded (as ++ [.addBatchItem item]) pre e (items ++ [item]) m (by rw [has]; simp) hm
      rwa [List.length_append] at h
  | setBatchItems items =>
    cases hs
    refine ⟨[], items.length, .reset ?_, assigned_setBatchItems m items⟩
    rw [additions_concat]
    exact Nat.le_add_left _ _
  | clearBatchItems =>
    cases hs
    exact ⟨[], 0, .reset (Nat.zero_le _), assigned_clearBatchItems m⟩

theorem after_concat {as : List Action} {a : Action} {m : RequestMessage} :
    after (as ++ [a]) = some m ↔ ∃ m', after as = some m' ∧ lifecycle.step m' a = some m := by
  simp [after, run_append, run, Option.bind_eq_some_iff]

/-- Every run ends with decoded and counted ids. -/
theorem assigned_of_after {as : List Action} {m : RequestMessage} (h : after as = some m) :
    ∃ base k, Origin as base k ∧ Assigned base k m := by
  induction as using List.reverseRecOn generalizing m with
  | nil =>
    cases h
    exact ⟨[], 0, .reset (Nat.zero_le _), rfl, rfl⟩
  | append_singleton as a ih =>
    obtain ⟨m', hm', hs⟩ := after_concat.1 h
    obtain ⟨base, k, ho, ha⟩ := ih hm'
    exact ho.step ha hs

theorem run_addBatchItems (m : RequestMessage) (items : List RequestBatchItem) :
    run lifecycle m (items.map .addBatchItem) = some (items.foldl (fun m item => (m.addBatchItem item).2) m) := by
  induction items generalizing m with
  | nil => rfl
  | cons item items ih => exact ih (m.addBatchItem item).2

/-- Additions to a decoded message. -/
theorem assigned_of_decoded {pre : List Action} {e : Element} {items : List RequestBatchItem} {m m' : RequestMessage}
    (he : fromElement e = .ok m) (h : after (pre ++ .fromElement e :: items.map .addBatchItem) = some m') :
    Assigned m.ids items.length m' := by
  rw [List.append_cons, after, run_append] at h
  obtain ⟨m₁, h₁, h⟩ := Option.bind_eq_some_iff.1 h
  obtain ⟨m₀, -, hs⟩ := after_concat.1 h₁
  rw [Except.toOption_eq_some_iff.1 hs] at he
  cases he
  rw [run_addBatchItems] at h
  cases h
  have ha := (assigned_fromElement (Except.toOption_eq_some_iff.1 hs)).addBatchItems items
  rwa [Nat.zero_add] at ha

/-- A run that ends has ended every shorter run. -/
theorem after_of_append {as bs : List Action} {m : RequestMessage} (h : after (as ++ bs) = some m) :
    ∃ m', after as = some m' := by
  rw [after, run_append] at h
  obtain ⟨m', h', -⟩ := Option.bind_eq_some_iff.1 h
  exact ⟨m', h'⟩

/-- **When ids stay unique.** In a run with fewer than `2 ^ 32 - 1` additions that decodes messages with unique ids
only, all messages have unique ids and every `add_batch_item` returns an id that no other item has, if and only if the
following holds for every message that is decoded, with `n` items, and then gets `k` more: `n + k < 2 ^ 32` and no
decoded id lies in the range from `n + 1` to `n + k`. -/
theorem uniqueIds_iff (as : List Action) (m : RequestMessage) (hrun : after as = some m)
    (hdecoded : ∀ e m', .fromElement e ∈ as → fromElement e = .ok m' → m'.UniqueIds)
    (hcount : additions as < 2 ^ 32 - 1) :
    (∀ pre suf m', as = pre ++ suf → after pre = some m' →
        m'.UniqueIds ∧ ∀ item rest, suf = .addBatchItem item :: rest → (m'.addBatchItem item).1 ∉ m'.ids) ↔
      ∀ pre e (items : List RequestBatchItem) suf m',
        as = pre ++ .fromElement e :: items.map .addBatchItem ++ suf → fromElement e = .ok m' →
        m'.batchItems.length + items.length < 2 ^ 32 ∧
          ∀ id ∈ m'.ids, ¬(m'.batchItems.length < id.toNat ∧ id.toNat ≤ m'.batchItems.length + items.length) := by
  have hlen : ∀ m' : RequestMessage, m'.ids.length = m'.batchItems.length := fun m' => List.length_map _
  constructor
  · intro h pre e items suf m' has he
    have hu : m'.UniqueIds := hdecoded e m' (by simp [has]) he
    obtain ⟨m'', hm''⟩ := after_of_append (has ▸ hrun)
    rw [← hlen, ← (assigned_of_decoded he hm'').unique_iff hu.nonzero hu.nodup]
    exact (h _ suf m'' has hm'').1
  · intro h
    have hunique : ∀ pre suf m', as = pre ++ suf → after pre = some m' → m'.UniqueIds := by
      intro pre suf m' has hm'
      obtain ⟨base, k, ho, ha⟩ := assigned_of_after hm'
      cases ho with
      | reset hk =>
        have hsplit : additions as = additions pre + additions suf := by simp [has, additions]
        rw [ha.unique_iff (fun _ h => absurd h List.not_mem_nil) List.nodup_nil]
        exact ⟨by rw [List.length_nil]; omega, fun _ h => absurd h List.not_mem_nil⟩
      | @decoded pre' e items m₁ hpre he =>
        have hu : m₁.UniqueIds := hdecoded e m₁ (by simp [has, hpre]) he
        rw [ha.unique_iff hu.nonzero hu.nodup, hlen]
        exact h pre' e items suf m₁ (by rw [has, hpre]) he
    intro pre suf m' has hm'
    refine ⟨hunique pre suf m' has hm', fun item rest hsuf hmem => ?_⟩
    -- the message with the new item is reached as well
    have hnext := hunique (pre ++ [.addBatchItem item]) rest (m'.addBatchItem item).2 (by rw [has, hsuf]; simp)
      (after_concat.2 ⟨m', hm', rfl⟩)
    have hnodup := hnext.nodup
    rw [ids_addBatchItem] at hnodup
    exact (List.nodup_append.1 hnodup).2.2 _ hmem _ List.mem_cons_self rfl

/-- A request with one item. -/
def oneItem (id : UInt32) : Element :=
  createStructure Tag.requestMessage
    [RequestHeader.toElement { batchCount := 1 }, RequestBatchItem.toElement { uniqueBatchItemId := id }]

/-- The wire id 2 meets the first value of the counter. -/
theorem addBatchItem_repeats_id :
    ∃ m m', after [.fromElement (oneItem 2)] = some m ∧ m.UniqueIds ∧
      after [.fromElement (oneItem 2), .addBatchItem {}] = some m' ∧
      m.ids = [2] ∧ (m.addBatchItem {}).1 = 2 ∧ m'.ids = [2, 2] := by
  refine ⟨_, _, rfl, ⟨?_, ?_⟩, rfl, rfl, rfl, rfl⟩
  · exact List.forall_mem_singleton.2 (by decide : (2 : UInt32) ≠ 0)
  · exact List.nodup_singleton 2

theorem uniqueIds_iff_oneItem :
    ∃ m, after [.fromElement (oneItem 1), .addBatchItem {}] = some m ∧ m.UniqueIds := by
  obtain ⟨m₁, h₁, hids⟩ : ∃ m₁, fromElement (oneItem 1) = .ok m₁ ∧ m₁.ids = [1] := ⟨_, rfl, rfl⟩
  obtain ⟨m, hm⟩ : ∃ m, after [.fromElement (oneItem 1), .addBatchItem {}] = some m := ⟨_, rfl⟩
  have hlen : m₁.batchItems.length = 1 := by
    rw [← List.length_map (·.uniqueBatchItemId)]
    exact congrArg List.length hids
  have heq : ∀ e m', .fromElement e ∈ [.fromElement (oneItem 1), Action.addBatchItem {}] → fromElement e = .ok m' →
      m' = m₁ := by
    intro e m' he hm'
    have he' : e = oneItem 1 := by simpa using he
    rw [he', h₁] at hm'
    exact (Except.ok.inj hm').symm
  have hunique : m₁.UniqueIds := by
    refine ⟨?_, ?_⟩
    · rw [hids]
      exact List.forall_mem_singleton.2 (by decide)
    · rw [hids]
      exact List.nodup_singleton 1
  have hiff := uniqueIds_iff [.fromElement (oneItem 1), .addBatchItem {}] m hm (by
    intro e m' he hm'
    rwa [heq e m' he hm']) (by decide)
  refine ⟨m, hm, (hiff.2 ?_ _ [] m (List.append_nil _).symm hm).1⟩
  intro pre e items suf m' has hm'
  have hitems := congrArg List.length has
  simp only [List.length_cons, List.length_append, List.length_map, List.length_nil] at hitems
  rw [heq e m' (by rw [has]; simp) hm', hids, hlen]
  refine ⟨by omega, fun id hid => ?_⟩
  rw [List.mem_singleton.1 hid]
  exact fun h => absurd h.1 (by decide)

end Kmip.RequestMessage
