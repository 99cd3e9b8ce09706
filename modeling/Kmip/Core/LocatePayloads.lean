import Kmip.Core.RequestPayloads
import Kmip.Core.TypedResponses

/-!
# The payload classes of Locate

`Attribute`, `LocateRequestPayload` and `LocateResponsePayload` of `kmip_payloads`. A response payload survives the wire
as it is (`LocateResponsePayload.fromElement_toElement`). A request payload does exactly if its numbers are not
negative, since only positive ones are written (`LocateRequestPayload.roundTrip_iff`).

The client builds its requests with `LocateRequest` and not with these classes. An `Attribute` has a text as its value,
while the Object Type of a KMIP 1.x request is an enumeration; so `LocateRequestPayload::fromElement` refuses every such
request, and of a KMIP 2.0 request it reads the numbers only (`LocateRequestPayload.fromElement_locateItem`).
-/

namespace Kmip

open Element Requests

/-! ## Definitions -/

structure Attribute where
  name : Bytes := Bytes.empty
  value : Bytes := Bytes.empty
deriving DecidableEq

namespace Attribute

def toElement (a : Attribute) : Element :=
  createStructure Tag.attributeTag
    [createTextString Tag.attributeName a.name, createTextString Tag.attributeValue a.value]

def fromElement (e : Element) : Except Abort Attribute :=
  if e.tag ≠ Tag.attributeTag then .error (.message "Invalid Attribute element")
  else do
    let attributeName ← e.readChild Tag.attributeName toString
    let attributeValue ← e.readChild Tag.attributeValue toString
    .ok ⟨attributeName.getD Bytes.empty, attributeValue.getD Bytes.empty⟩

end Attribute

structure LocateRequestPayload where
  maximumItems : Int32 := 0
  offsetItems : Int32 := 0
  attributes : List Attribute := []
deriving DecidableEq

namespace LocateRequestPayload

/-- A number that is written when it is positive. -/
def positive (tag : Tag) (value : Int32) : List Element := if value > 0 then [createInteger tag value] else []

def toElement (p : LocateRequestPayload) : Element :=
  createStructure Tag.requestPayload
    (positive Tag.maximumItems p.maximumItems ++ positive Tag.offsetItems p.offsetItems ++
      p.attributes.map (·.toElement))

def readItem (req : LocateRequestPayload) (child : Element) : Except Abort LocateRequestPayload :=
  if child.tag = Tag.maximumItems then do .ok { req with maximumItems := ← child.toInt }
  else if child.tag = Tag.offsetItems then do .ok { req with offsetItems := ← child.toInt }
  else if child.tag = Tag.attributeTag then do
    .ok { req with attributes := req.attributes ++ [← Attribute.fromElement child] }
  else .ok req

/-- The loop over the children of the payload. -/
def readItems (req : LocateRequestPayload) : List Element → Except Abort LocateRequestPayload
  | [] => .ok req
  | child :: items => do readItems (← readItem req child) items

def fromElement (e : Element) : Except Abort LocateRequestPayload :=
  match e.asStructure with
  | none => .error (.message "Payload is not a structure")
  | some items => readItems {} items

end LocateRequestPayload

def LocateResponsePayload.toElement (p : LocateResponsePayload) : Element :=
  createStructure Tag.responsePayload
    (optionalChild (createInteger Tag.locatedItems) p.locatedItems ++
      p.uniqueIdentifiers.map (createTextString Tag.uniqueIdentifier))

/-! ## Response payloads -/

namespace LocateResponsePayload

theorem readItems_append (resp : LocateResponsePayload) (xs ys : List Element) :
    readItems resp (xs ++ ys) = readItems resp xs >>= fun resp => readItems resp ys := by
  induction xs generalizing resp with
  | nil => rfl
  | cons x xs ih =>
    rw [List.cons_append, readItems, readItems, bind_assoc]
    exact bind_congr fun resp' => ih resp'

theorem readItems_ids (resp : LocateResponsePayload) (ids : List Bytes) :
    readItems resp (ids.map (createTextString Tag.uniqueIdentifier)) =
      .ok { resp with uniqueIdentifiers := resp.uniqueIdentifiers ++ ids } := by
  induction ids generalizing resp with
  | nil => simp [readItems]
  | cons id ids ih =>
    rw [List.map_cons, readItems]
    show readItems { resp with uniqueIdentifiers := resp.uniqueIdentifiers ++ [id] } _ = _
    rw [ih, List.append_assoc]
    rfl

/-- Every response payload is read back. -/
theorem fromElement_toElement (p : LocateResponsePayload) : fromElement p.toElement = .ok p := by
  show readItems {} (_ ++ _) = _
  rw [readItems_append]
  obtain ⟨located, ids⟩ := p
  cases located with
  | none => exact readItems_ids {} ids
  | some n => exact readItems_ids { locatedItems := some n } ids

end LocateResponsePayload

/-! ## Request payloads -/

namespace LocateRequestPayload

theorem readItems_append (req : LocateRequestPayload) (xs ys : List Element) :
    readItems req (xs ++ ys) = readItems req xs >>= fun req => readItems req ys := by
  induction xs generalizing req with
  | nil => rfl
  | cons x xs ih =>
    rw [List.cons_append, readItems, readItems, bind_assoc]
    exact bind_congr fun req' => ih req'

theorem readItems_attributes (req : LocateRequestPayload) (attributes : List Attribute) :
    readItems req (attributes.map (·.toElement)) = .ok { req with attributes := req.attributes ++ attributes } := by
  induction attributes generalizing req with
  | nil => simp [readItems]
  | cons a attributes ih =>
    rw [List.map_cons, readItems]
    show readItems { req with attributes := req.attributes ++ [a] } _ = _
    rw [ih, List.append_assoc]
    rfl

/-- What is read of a number: a negative one is lost. -/
def written (value : Int32) : Int32 := if value > 0 then value else 0

theorem readItems_positive (req : LocateRequestPayload) (value : Int32) :
    (req.maximumItems = 0 → readItems req (positive Tag.maximumItems value) =
      .ok { req with maximumItems := written value }) ∧
    (req.offsetItems = 0 → readItems req (positive Tag.offsetItems value) =
      .ok { req with offsetItems := written value }) := by
  unfold positive written
  split
  · exact ⟨fun _ => rfl, fun _ => rfl⟩
  · refine ⟨fun h => ?_, fun h => ?_⟩
    · rw [← h]
      rfl
    · rw [← h]
      rfl

theorem fromElement_toElement (p : LocateRequestPayload) :
    fromElement p.toElement = .ok ⟨written p.maximumItems, written p.offsetItems, p.attributes⟩ := by
  show readItems {} (_ ++ _ ++ _) = _
  rw [readItems_append, readItems_append, (readItems_positive {} p.maximumItems).1 rfl]
  show (readItems { maximumItems := written p.maximumItems } _ >>= _) = _
  rw [(readItems_positive { maximumItems := written p.maximumItems } p.offsetItems).2 rfl]
  exact readItems_attributes ⟨written p.maximumItems, written p.offsetItems, []⟩ p.attributes

theorem written_eq_iff (value : Int32) : written value = value ↔ 0 ≤ value := by
  unfold written
  constructor
  · intro h
    split at h
    · exact Int32.le_of_lt (by assumption)
    · rw [← h]
      exact Int32.le_refl 0
  · intro h
    split
    · rfl
    · exact Int32.le_antisymm h (Int32.not_lt.1 (by assumption))

theorem carried_toElement (p : LocateRequestPayload) : Carried kmipMaxStructureDepth p.toElement := by
  have hpositive : ∀ {t : Tag} (v : Int32), t.toNat < 2 ^ 24 → ∀ e ∈ positive t v, Carried 1 e := by
    intro t v ht
    unfold positive
    split
    · exact List.forall_mem_singleton.2 (carried_createInteger ht v)
    · exact nofun
  have h : Carried 2 p.toElement := by
    refine carried_createStructure (by decide) ?_
    simp only [List.forall_mem_append, List.forall_mem_map]
    refine ⟨⟨hpositive _ (by decide), hpositive _ (by decide)⟩, fun a _ => carried_createStructure (by decide) ?_⟩
    simp only [List.forall_mem_cons]
    exact ⟨carried_createTextString (by decide) _, carried_createTextString (by decide) _, nofun⟩
  exact h.mono (by decide)

/-- **Request payloads on the wire.** The bytes of a payload are decoded to a payload with the same attributes, and to
the same payload exactly if neither number is negative. -/
theorem roundTrip_iff (p : LocateRequestPayload) (cap : Nat) (b : SerializationBuffer) (data : Bytes)
    (hb : p.toElement.serialize (.new cap) = .ok b) (hdata : data.bytes = b.span) :
    ∃ e q, (deserialize data 0).result = .ok (e, data.size) ∧ fromElement e = .ok q ∧ q.attributes = p.attributes ∧
      (q = p ↔ 0 ≤ p.maximumItems ∧ 0 ≤ p.offsetItems) := by
  refine ⟨p.toElement, _, deserialize_of_carried p.carried_toElement hb hdata, p.fromElement_toElement, rfl, ?_⟩
  rw [← written_eq_iff, ← written_eq_iff]
  constructor
  · intro h
    exact ⟨congrArg maximumItems h, congrArg offsetItems h⟩
  · rintro ⟨hmaximum, hoffset⟩
    rw [hmaximum, hoffset]

/-- A payload with a negative offset, which is lost. -/
def negativeOffset : LocateRequestPayload := ⟨5, -1, [⟨.ofText "Name", .ofText "k"⟩]⟩

theorem roundTrip_iff_negativeOffset : ∃ b data e q,
    negativeOffset.toElement.serialize (.new SerializationBuffer.defaultCapacity) = .ok b ∧ data.bytes = b.span ∧
      (deserialize data 0).result = .ok (e, data.size) ∧ fromElement e = .ok q ∧ q ≠ negativeOffset := by
  have hsmall : (encode negativeOffset.toElement).length ≤ 200 := by decide +kernel
  obtain ⟨b, data, hb, hdata⟩ := exists_bytes negativeOffset.carried_toElement.wellFormed (hsmall.trans (by decide))
  obtain ⟨e, q, hd, hq, -, hiff⟩ := roundTrip_iff negativeOffset _ b data hb hdata
  exact ⟨b, data, e, q, hb, hdata, hd, hq, fun h => absurd (hiff.1 h).2 (by decide)⟩

/-! ## The requests of the client -/

/-- A positive number of a request of the client. -/
theorem readItems_positiveInteger (req : LocateRequestPayload) (value : Nat) :
    (req.maximumItems = 0 → readItems req (positiveInteger Tag.maximumItems value) =
      .ok { req with maximumItems := Int32.ofNat value }) ∧
    (req.offsetItems = 0 → readItems req (positiveInteger Tag.offsetItems value) =
      .ok { req with offsetItems := Int32.ofNat value }) := by
  unfold positiveInteger
  split
  · exact ⟨fun _ => rfl, fun _ => rfl⟩
  · have hzero : value = 0 := by omega
    subst hzero
    refine ⟨fun h => ?_, fun h => ?_⟩
    · rw [show Int32.ofNat 0 = req.maximumItems from h.symm]
      rfl
    · rw [show Int32.ofNat 0 = req.offsetItems from h.symm]
      rfl

/-- **The payload class and the requests of the client.** Of a request from KMIP 2.0 on the class reads the numbers and
no attribute; every earlier request it refuses. -/
theorem fromElement_locateItem (locateByGroup : Bool) (name : Bytes) (objType : UInt32) (maxItems offset : Nat)
    (version : ProtocolVersion) :
    (locateItem locateByGroup name objType maxItems offset version).requestPayload.map fromElement =
      some (if useAttributesContainer version then .ok ⟨Int32.ofNat maxItems, Int32.ofNat offset, []⟩
        else .error (.message "Element is not TextString")) := by
  refine congrArg some ?_
  show readItems {} (_ ++ _ ++ _) = _
  rw [readItems_append, readItems_append, (readItems_positiveInteger {} maxItems).1 rfl, Except.ok_bind,
    (readItems_positiveInteger { maximumItems := Int32.ofNat maxItems } offset).2 rfl, Except.ok_bind]
  unfold locateAttributes
  split
  · rfl
  · rfl

end LocateRequestPayload

end Kmip
