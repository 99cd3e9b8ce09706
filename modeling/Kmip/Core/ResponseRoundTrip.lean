import Kmip.Core.RequestRoundTrip

/-!
# Responses on the wire

`ResponseMessage::fromElement` accepts a message exactly when it is legal: no more items than its header declares, and a
Result Reason with every failure. What it accepts comes back as it was (`fromElement_serialize_iff`).

The lookups of a batch item go through `find?_append`: each segment of the children answers for its own tag only
(`find?_optionalChild`, `find?_batchItemIdElement`).
-/

namespace Kmip

open Element
open SerializationBuffer (defaultCapacity)

/-! ## Lookup by segments -/

theorem find?_optionalChild {α : Type} {mk : α → Element} {t c : Tag} {field : Option α}
    (ht : ∀ a ∈ field, (mk a).tag = t) :
    (optionalChild mk field).find? (fun x => x.tag == c) = if t = c then field.map mk else none := by
  cases field with
  | none => simp [optionalChild]
  | some a =>
    have ha := ht a rfl
    by_cases h : t = c <;> simp [optionalChild, ha, h]

theorem find?_batchItemIdElement {uid : UInt32} {c : Tag} (h : c ≠ Tag.uniqueBatchItemId) :
    (batchItemIdElement uid).find? (fun x => x.tag == c) = none := by
  rw [List.find?_eq_none]
  intro x hx
  rw [tag_of_mem_batchItemIdElement hx]
  simpa using h.symm

/-- A payload of a response that the codec carries. -/
structure ResponsePayloadOk (p : Element) : Prop where
  tag_eq : p.tag = Tag.responsePayload
  carried : Carried 62 p

/-! ## The header and one batch item -/

theorem ResponseHeader.fromElement_toElement (h : ResponseHeader) : fromElement h.toElement = .ok h := rfl

theorem ResponseHeader.carried_toElement (h : ResponseHeader) : Carried 2 h.toElement := by
  refine carried_createStructure (by decide) ?_
  simp only [List.forall_mem_cons]
  exact ⟨h.protocolVersion.carried_toElement, carried_createDateTime (by decide) _,
    carried_createInteger (by decide) _, nofun⟩

namespace ResponseBatchItem

/-- A failure says why. -/
def Legal (item : ResponseBatchItem) : Prop :=
  item.resultStatus = kmipStatusOperationFailed → item.resultReason ≠ none

instance (item : ResponseBatchItem) : Decidable item.Legal := inferInstanceAs (Decidable (_ → _))

section Fields

variable {item : ResponseBatchItem} (hp : ∀ p ∈ item.responsePayload, ResponsePayloadOk p)

include hp

/-- Each segment of the children answers for its own tag. -/
theorem getChild_toElement {c : Tag} (hc : c ≠ Tag.uniqueBatchItemId) :
    item.toElement.getChild c =
      ((((if Tag.operation = c then some (createEnumeration Tag.operation item.operation) else none).or
        (if Tag.resultStatus = c then some (createEnumeration Tag.resultStatus item.resultStatus) else none)).or
        (if Tag.resultReason = c then item.resultReason.map (createEnumeration Tag.resultReason) else none)).or
        (if Tag.resultMessage = c then item.resultMessage.map (createTextString Tag.resultMessage) else none)).or
        (if Tag.responsePayload = c then item.responsePayload.map id else none) := by
  show List.find? _ (optionalChild (createEnumeration Tag.operation) (some item.operation) ++ _ ++
    optionalChild (createEnumeration Tag.resultStatus) (some item.resultStatus) ++ _ ++ _ ++ _) = _
  rw [List.find?_append, List.find?_append, List.find?_append, List.find?_append, List.find?_append,
    find?_batchItemIdElement hc, Option.or_none, find?_optionalChild (t := Tag.operation) fun _ _ => rfl,
    find?_optionalChild (t := Tag.resultStatus) fun _ _ => rfl,
    find?_optionalChild (t := Tag.resultReason) fun _ _ => rfl,
    find?_optionalChild (t := Tag.resultMessage) fun _ _ => rfl,
    @find?_optionalChild _ id Tag.responsePayload c _ fun p h => (hp p h).tag_eq]
  rfl

theorem getChild_operation :
    item.toElement.getChild Tag.operation = some (createEnumeration Tag.operation item.operation) := by
  rw [getChild_toElement hp (by decide), if_pos rfl]
  rfl

theorem getChild_resultStatus :
    item.toElement.getChild Tag.resultStatus = some (createEnumeration Tag.resultStatus item.resultStatus) := by
  rw [getChild_toElement hp (by decide), if_neg (by decide), if_pos rfl]
  rfl

theorem getChild_resultReason :
    item.toElement.getChild Tag.resultReason =
      item.resultReason.map (createEnumeration Tag.resultReason) := by
  rw [getChild_toElement hp (by decide)]
  simp +decide only [if_true, if_false, Option.or_none, Option.none_or]

theorem getChild_resultMessage :
    item.toElement.getChild Tag.resultMessage = item.resultMessage.map (createTextString Tag.resultMessage) := by
  rw [getChild_toElement hp (by decide)]
  simp +decide only [if_true, if_false, Option.or_none, Option.none_or]

theorem getChild_responsePayload : item.toElement.getChild Tag.responsePayload = item.responsePayload := by
  rw [getChild_toElement hp (by decide)]
  simp +decide only [if_true, if_false, Option.none_or, Option.map_id_fun, id]

theorem readBatchItemId_toElement : readBatchItemId item.toElement = .ok item.uniqueBatchItemId := by
  rw [toElement, List.append_assoc, List.append_assoc, List.append_assoc, List.append_assoc]
  refine readBatchItemId_eq (by simp [createEnumeration]; decide) ?_
  simp only [List.forall_mem_append, List.forall_mem_singleton, forall_mem_optionalChild]
  refine ⟨show Tag.resultStatus ≠ _ by decide, fun _ _ => show Tag.resultReason ≠ _ by decide,
    fun _ _ => show Tag.resultMessage ≠ _ by decide, fun p h => ?_⟩
  rw [id, (hp p h).tag_eq]
  decide

/-- The item comes back, unless it is a failure without a reason. -/
theorem fromElement_toElement :
    fromElement item.toElement =
      if item.Legal then .ok item else .error (.message "Missing Result Reason for failed response batch item") := by
  have hreason : item.toElement.readChild Tag.resultReason toEnum = .ok item.resultReason := by
    rw [readChild, getChild_resultReason hp]
    cases item.resultReason <;> rfl
  have hmessage : item.toElement.readChild Tag.resultMessage toString = .ok item.resultMessage := by
    rw [readChild, getChild_resultMessage hp]
    cases item.resultMessage <;> rfl
  have hoperation : item.toElement.readChild Tag.operation toEnum = .ok (some item.operation) := by
    rw [readChild, getChild_operation hp]
    rfl
  have hstruct : item.toElement.isStructure Tag.batchItem = true := rfl
  rw [fromElement, hstruct, Bool.not_true, if_neg Bool.false_ne_true, hoperation, Except.ok_bind,
    readBatchItemId_toElement hp, Except.ok_bind, getChild_resultStatus hp, getChild_responsePayload hp]
  show (do
    let resultReason ← item.toElement.readChild Tag.resultReason toEnum
    if item.resultStatus = kmipStatusOperationFailed ∧ resultReason = none then
      .error (.message "Missing Result Reason for failed response batch item")
    else do
      let resultMessage ← item.toElement.readChild Tag.resultMessage toString
      .ok ⟨_, _, _, resultReason, resultMessage, _⟩ : Except Abort ResponseBatchItem) = _
  rw [hreason, Except.ok_bind, hmessage, Except.ok_bind]
  by_cases hl : item.Legal
  · rw [if_pos hl, if_neg fun h => hl h.1 h.2]
    rfl
  · rw [if_neg hl, if_pos (by simpa [Legal] using hl)]

theorem carried_toElement : Carried 63 item.toElement := by
  refine carried_createStructure (by decide) ?_
  simp only [List.forall_mem_append, List.forall_mem_singleton, forall_mem_optionalChild]
  refine ⟨⟨⟨⟨⟨carried_createEnumeration (by decide) _, carried_batchItemIdElement _⟩, ?_⟩, ?_⟩, ?_⟩, ?_⟩
  · exact carried_createEnumeration (by decide) _
  · exact fun _ _ => carried_createEnumeration (by decide) _
  · exact fun _ _ => carried_createTextString (by decide) _
  · exact fun p h => (hp p h).carried

end Fields

end ResponseBatchItem

/-! ## The message -/

namespace ResponseMessage

/-- The items come back together, if each of them is legal. -/
theorem mapM_fromElement_eq_ok_iff {l : List ResponseBatchItem} : ∀ {items : List ResponseBatchItem},
    (∀ item ∈ items, ∀ p ∈ item.responsePayload, ResponsePayloadOk p) →
    (((items.map (·.toElement)).filter (·.tag == Tag.batchItem)).mapM ResponseBatchItem.fromElement = .ok l ↔
      (∀ item ∈ items, item.Legal) ∧ l = items) := by
  intro items
  induction items generalizing l with
  | nil => intro _; simp [eq_comm]
  | cons item items ih =>
    intro hp
    rw [List.map_cons, List.filter_cons_of_pos (by rfl), List.mapM_cons,
      ResponseBatchItem.fromElement_toElement (hp item List.mem_cons_self), List.forall_mem_cons]
    by_cases hl : item.Legal
    · rw [if_pos hl, Except.ok_bind]
      simp only [Except.bind_eq_ok_iff, ih fun i hi => hp i (List.mem_cons_of_mem _ hi)]
      constructor
      · rintro ⟨l', ⟨hall, rfl⟩, hl'⟩
        exact ⟨⟨hl, hall⟩, (Except.ok.inj hl').symm⟩
      · rintro ⟨⟨-, hall⟩, rfl⟩
        exact ⟨items, ⟨hall, rfl⟩, rfl⟩
    · rw [if_neg hl, Except.error_bind]
      exact ⟨nofun, fun h => absurd h.1.1 hl⟩

section Encoded

variable {m : ResponseMessage} {e : Element} (h : m.toElement = .ok e)
  (hp : ∀ item ∈ m.batchItems, ∀ p ∈ item.responsePayload, ResponsePayloadOk p)

include h hp

theorem carried_toElement : Carried kmipMaxStructureDepth e := by
  obtain ⟨_, -, he⟩ := Except.bind_eq_ok_iff.1 h
  cases he
  refine carried_createStructure (by decide) ?_
  rw [List.forall_mem_cons]
  refine ⟨m.header.carried_toElement.mono (by decide), fun c hc => ?_⟩
  obtain ⟨item, hi, rfl⟩ := List.mem_map.1 hc
  exact ResponseBatchItem.carried_toElement (hp item hi)

/-- `fromElement` returns for a legal message only, and then it undoes `toElement`. -/
theorem fromElement_eq_ok_iff {m' : ResponseMessage} :
    fromElement e = .ok m' ↔
      (Int32.ofNat m.batchItems.length ≤ m.header.batchCount ∧ ∀ item ∈ m.batchItems, item.Legal) ∧ m' = m := by
  obtain ⟨_, hv, he⟩ := Except.bind_eq_ok_iff.1 h
  cases he
  show (do
    let header ← ResponseHeader.fromElement m.header.toElement
    validateElementTypesForVersion header.protocolVersion _
    let batchItems ← ((m.batchItems.map (fun item : ResponseBatchItem => item.toElement)).filter
      (fun child : Element => child.tag == Tag.batchItem)).mapM ResponseBatchItem.fromElement
    if Int32.ofNat batchItems.length > header.batchCount then
      .error (.message "Response Header Batch Count does not match number of Batch Items")
    else .ok ⟨header, batchItems⟩ : Except Abort ResponseMessage) = _ ↔ _
  rw [ResponseHeader.fromElement_toElement, Except.ok_bind, hv, Except.ok_bind, Except.bind_eq_ok_iff]
  simp only [mapM_fromElement_eq_ok_iff hp]
  constructor
  · rintro ⟨_, ⟨hl, rfl⟩, hm⟩
    split at hm
    · cases hm
    · rename_i hn
      exact ⟨⟨Int32.not_lt.1 hn, hl⟩, (Except.ok.inj hm).symm⟩
  · rintro ⟨⟨hn, hl⟩, rfl⟩
    exact ⟨_, ⟨hl, rfl⟩, if_neg (Int32.not_lt.2 hn)⟩

end Encoded

/-- **Responses round-trip exactly when they are legal.** The decoder consumes all the bytes that `serialize` has
written for a response. `fromElement` then succeeds iff there are no more items than the Batch Count of the header and
every failed item carries a Result Reason, and it gives the same message. -/
theorem fromElement_serialize_iff (m : ResponseMessage) (cap : Nat) (e : Element) (b : SerializationBuffer)
    (data : Bytes) (hlen : m.batchItems.length < 2 ^ 31)
    (hp : ∀ item ∈ m.batchItems, ∀ p ∈ item.responsePayload,
      p.tag = Tag.responsePayload ∧ WellFormed p ∧ p.height ≤ 62)
    (he : m.toElement = .ok e) (hb : e.serialize (.new cap) = .ok b) (hdata : data.bytes = b.span) :
    ∃ e', (deserialize data 0).result = .ok (e', data.size) ∧
      ((∃ m', fromElement e' = .ok m') ↔
        (m.batchItems.length : Int) ≤ m.header.batchCount.toInt ∧
          ∀ item ∈ m.batchItems, item.resultStatus = kmipStatusOperationFailed → item.resultReason ≠ none) ∧
      ∀ m', fromElement e' = .ok m' → m' = m := by
  have hp' : ∀ item ∈ m.batchItems, ∀ p ∈ item.responsePayload, ResponsePayloadOk p := fun item hi p hm =>
    ⟨(hp item hi p hm).1, (hp item hi p hm).2.1, (hp item hi p hm).2.2⟩
  refine ⟨e, deserialize_of_carried (carried_toElement he hp') hb hdata, ?_,
    fun m' h => ((fromElement_eq_ok_iff he hp').1 h).2⟩
  simp only [fromElement_eq_ok_iff he hp', exists_and_left, exists_eq, and_true]
  rw [Int32.le_iff_toInt_le, Int32.toInt_ofNat_of_lt hlen]
  rfl

/-- One failure of two declared items. -/
def underDelivered : ResponseMessage :=
  ⟨{ batchCount := 2 },
    [⟨1, 10, kmipStatusOperationFailed, some 1, none, some (createStructure Tag.responsePayload [])⟩]⟩

theorem fromElement_serialize_iff_underDelivered :
    ∃ e b data e', underDelivered.toElement = .ok e ∧ e.serialize (.new defaultCapacity) = .ok b ∧
      data.bytes = b.span ∧ (deserialize data 0).result = .ok (e', data.size) ∧
      ∃ m', fromElement e' = .ok m' ∧ m' = underDelivered := by
  obtain ⟨e, he⟩ : ∃ e, underDelivered.toElement = .ok e := ⟨_, rfl⟩
  have hok : ∀ item ∈ underDelivered.batchItems, ∀ p ∈ item.responsePayload,
      p.tag = Tag.responsePayload ∧ WellFormed p ∧ p.height ≤ 62 := by
    simp [underDelivered]
    decide
  have hc : Carried kmipMaxStructureDepth e := carried_toElement he fun i hi p hm =>
    ⟨(hok i hi p hm).1, (hok i hi p hm).2.1, (hok i hi p hm).2.2⟩
  have hsmall : (encode e).length ≤ 400 := by
    cases he
    decide +kernel
  obtain ⟨b, data, hb, hspan⟩ := exists_bytes hc.wellFormed (hsmall.trans (by decide))
  obtain ⟨e', hd, hiff, heq⟩ := fromElement_serialize_iff underDelivered _ e b data (by decide) hok he hb hspan
  obtain ⟨m', hm'⟩ := hiff.2 ⟨by decide, by simp [underDelivered]⟩
  exact ⟨e, b, data, e', he, hb, hspan, hd, m', hm', heq m' hm'⟩

end ResponseMessage

end Kmip
