import Kmip.Core.Protocol
import Kmip.Core.RoundTrip

/-!
# Requests on the wire

What `RequestMessage::serialize` sends is decoded to the same message, up to the normalised header
(`fromElement_serialize`).

* `fromElement` undoes `toElement` for the version, the header, a batch item and the message
  (`RequestHeader.fromElement_toElement`, ...).
* The tree of a message is well formed and at most 64 levels high (`RequestMessage.carried_toElement`), so that the TTLV
  codec carries it.
-/

namespace Kmip

open BigEndian Element
open SerializationBuffer (defaultCapacity)

@[simp] theorem mem_optionalChild {α : Type} {mk : α → Element} {field : Option α} {c : Element} :
    c ∈ optionalChild mk field ↔ ∃ a ∈ field, mk a = c := by
  simp [optionalChild]

theorem forall_mem_optionalChild {α : Type} {mk : α → Element} {field : Option α} {P : Element → Prop} :
    (∀ c ∈ optionalChild mk field, P c) ↔ ∀ a ∈ field, P (mk a) := by
  simp

/-! ## `fromElement` undoes `toElement` -/

/-- Each of the seven fields comes back, whichever of the optional ones are present. -/
theorem RequestHeader.fromElement_toElement (h : RequestHeader) : fromElement h.toElement = .ok h := by
  rcases h with ⟨v, n, _ | size, _ | time, _ | order, _ | name, _ | password⟩ <;> rfl

theorem decodeBatchItemId_encode (id : UInt32) : decodeBatchItemId (encodeBatchItemId id) = some id := by
  have hb : (encodeBatchItemId id).bytes = digits 4 id.toNat := length_bytes id
  have hv : value (digits 4 id.toNat) = id.toNat := value_digits_of_lt id.toNat_lt
  rw [decodeBatchItemId, if_neg (by simp [encodeBatchItemId, Bytes.size]), hb]
  congr 1
  apply UInt32.toNat.inj
  rw [toNat_foldl32 _ _ (by rw [hv]; simpa using id.toNat_lt), hv]
  simp

/-- Children with other tags do not hide a field. -/
theorem find?_skip {l r : List Element} {c : Tag} (h : ∀ x ∈ l, x.tag ≠ c) :
    (l ++ r).find? (fun x => x.tag == c) = r.find? (fun x => x.tag == c) := by
  rw [List.find?_append, List.find?_eq_none.2 (by simpa using h), Option.none_or]

theorem tag_of_mem_batchItemIdElement {uid : UInt32} {c : Element} (h : c ∈ batchItemIdElement uid) :
    c.tag = Tag.uniqueBatchItemId := by
  rw [batchItemIdElement] at h
  split at h
  · rw [List.mem_singleton.1 h]
    rfl
  · cases h

/-- The id of a batch item comes back, zero included. -/
theorem readBatchItemId_eq {t : Tag} {uid : UInt32} {l r : List Element} (hl : ∀ x ∈ l, x.tag ≠ Tag.uniqueBatchItemId)
    (hr : ∀ x ∈ r, x.tag ≠ Tag.uniqueBatchItemId) :
    readBatchItemId (createStructure t (l ++ (batchItemIdElement uid ++ r))) = .ok uid := by
  have hchild : (createStructure t (l ++ (batchItemIdElement uid ++ r))).getChild Tag.uniqueBatchItemId =
      if uid ≠ 0 then some (createByteString Tag.uniqueBatchItemId (encodeBatchItemId uid)) else none := by
    show List.find? _ _ = _
    rw [find?_skip hl, batchItemIdElement]
    split
    · rfl
    · exact List.find?_eq_none.2 (by simpa using hr)
  rw [readBatchItemId, readChild, hchild]
  by_cases h : uid = 0
  · rw [h]
    rfl
  · rw [if_pos h]
    show Except.ok ((decodeBatchItemId (encodeBatchItemId uid)).getD 0) = _
    rw [decodeBatchItemId_encode]
    rfl

/-- A payload of a request that the codec carries: it is found by its tag and leaves room for the levels above it. -/
structure PayloadOk (p : Element) : Prop where
  tag_eq : p.tag = Tag.requestPayload
  wellFormed : WellFormed p
  height_le : p.height ≤ 62

theorem RequestBatchItem.fromElement_toElement {item : RequestBatchItem} (hp : ∀ p ∈ item.requestPayload, PayloadOk p) :
    fromElement item.toElement = .ok item := by
  have htag : ∀ c ∈ optionalChild id item.requestPayload, c.tag = Tag.requestPayload := by
    intro c hc
    obtain ⟨p, hm, rfl⟩ := mem_optionalChild.1 hc
    exact (hp p hm).tag_eq
  have hid : readBatchItemId item.toElement = .ok item.uniqueBatchItemId := by
    rw [toElement, List.append_assoc]
    exact readBatchItemId_eq (by simp [createEnumeration]; decide) fun c hc => by rw [htag c hc]; decide
  have hpayload : item.toElement.getChild Tag.requestPayload = item.requestPayload := by
    show List.find? _ (_ ++ _ ++ _) = _
    rw [List.append_assoc, find?_skip (by simp [createEnumeration]; decide),
      find?_skip fun c hc => by rw [tag_of_mem_batchItemIdElement hc]; decide]
    cases h : item.requestPayload with
    | none => rfl
    | some p => simp [optionalChild, (hp p h).tag_eq]
  show (do
    let uid ← readBatchItemId item.toElement
    .ok ⟨uid, item.operation, item.toElement.getChild Tag.requestPayload⟩ : Except Abort RequestBatchItem) = _
  rw [hid, hpayload, Except.ok_bind]

theorem PayloadOk.carried {p : Element} (h : PayloadOk p) : Carried 62 p := ⟨h.wellFormed, h.height_le⟩

/-! ## The trees are well formed -/

theorem ProtocolVersion.carried_toElement (v : ProtocolVersion) : Carried 1 v.toElement := by
  refine carried_createStructure (by decide) ?_
  simp only [List.forall_mem_cons]
  exact ⟨carried_createInteger (by decide) _, carried_createInteger (by decide) _, nofun⟩

/-- The user name lies deepest. -/
theorem RequestHeader.carried_authentication (userName password : Option Bytes) :
    ∀ c ∈ authentication userName password, Carried 3 c := by
  have hvalue : ∀ c ∈ optionalChild (createTextString Tag.username) userName ++
      optionalChild (createTextString Tag.password) password, Carried 0 c := by
    simp only [List.forall_mem_append, forall_mem_optionalChild]
    exact ⟨fun _ _ => carried_createTextString (by decide) _, fun _ _ => carried_createTextString (by decide) _⟩
  unfold authentication
  split
  · rw [List.forall_mem_singleton]
    refine carried_createStructure (by decide) (List.forall_mem_singleton.2 (carried_createStructure (by decide) ?_))
    simp only [List.forall_mem_cons]
    exact ⟨carried_createEnumeration (by decide) _, carried_createStructure (by decide) hvalue, nofun⟩
  · exact nofun

theorem RequestHeader.carried_toElement (h : RequestHeader) : Carried 4 h.toElement := by
  refine carried_createStructure (by decide) ?_
  simp only [List.forall_mem_append, List.forall_mem_singleton, forall_mem_optionalChild]
  refine ⟨⟨⟨⟨⟨h.protocolVersion.carried_toElement.mono (by decide), ?_⟩, ?_⟩, ?_⟩, ?_⟩, ?_⟩
  · exact fun _ _ => carried_createInteger (by decide) _
  · exact fun _ _ => carried_createBoolean (by decide) _
  · exact fun _ _ => carried_createDateTime (by decide) _
  · exact carried_authentication _ _
  · exact carried_createInteger (by decide) _

theorem carried_batchItemIdElement {n : Nat} (uid : UInt32) : ∀ c ∈ batchItemIdElement uid, Carried n c := by
  unfold batchItemIdElement
  split
  · exact List.forall_mem_singleton.2 (carried_createByteString (by decide) _)
  · exact nofun

theorem RequestBatchItem.carried_toElement {item : RequestBatchItem} (hp : ∀ p ∈ item.requestPayload, PayloadOk p) :
    Carried 63 item.toElement := by
  refine carried_createStructure (by decide) ?_
  simp only [List.forall_mem_append, List.forall_mem_singleton, forall_mem_optionalChild]
  exact ⟨⟨carried_createEnumeration (by decide) _, carried_batchItemIdElement _⟩, fun p hm => (hp p hm).carried⟩

/-! ## The message -/

namespace RequestMessage

/-- The items of a message are its children with the tag of a batch item. -/
theorem mapM_fromElement : ∀ {items : List RequestBatchItem}, (∀ item ∈ items, ∀ p ∈ item.requestPayload, PayloadOk p) →
    ((items.map (·.toElement)).filter (·.tag == Tag.batchItem)).mapM RequestBatchItem.fromElement = .ok items
  | [], _ => rfl
  | item :: items, h => by
    have ih := mapM_fromElement fun i hi => h i (List.mem_cons_of_mem _ hi)
    rw [List.map_cons, List.filter_cons_of_pos (by rfl), List.mapM_cons,
      RequestBatchItem.fromElement_toElement (h item List.mem_cons_self), Except.ok_bind, ih]
    rfl

section Encoded

variable {m : RequestMessage} {e : Element} (h : m.toElement = .ok e)
  (hp : ∀ item ∈ m.batchItems, ∀ p ∈ item.requestPayload, PayloadOk p)

include h

theorem toElement_eq :
    e = createStructure Tag.requestMessage (m.header.toElement :: m.batchItems.map (·.toElement)) := by
  obtain ⟨_, -, he⟩ := Except.bind_eq_ok_iff.1 h
  cases he
  rfl

include hp

theorem carried_toElement : Carried kmipMaxStructureDepth e := by
  rw [toElement_eq h]
  refine carried_createStructure (by decide) ?_
  rw [List.forall_mem_cons]
  refine ⟨m.header.carried_toElement.mono (by decide), fun c hc => ?_⟩
  obtain ⟨item, hi, rfl⟩ := List.mem_map.1 hc
  exact RequestBatchItem.carried_toElement (hp item hi)

end Encoded

theorem fromElement_toElement {m : RequestMessage} {e : Element} (h : m.toElement = .ok e)
    (hn : m.header.batchCount = Int32.ofNat m.batchItems.length)
    (hp : ∀ item ∈ m.batchItems, ∀ p ∈ item.requestPayload, PayloadOk p) :
    fromElement e = .ok ⟨m.header, m.batchItems, UInt32.ofNat (m.batchItems.length + 1)⟩ := by
  obtain ⟨_, hv, he⟩ := Except.bind_eq_ok_iff.1 h
  cases he
  show (do
    let header ← RequestHeader.fromElement m.header.toElement
    validateElementTypesForVersion header.protocolVersion _
    let batchItems ← ((m.batchItems.map (fun item : RequestBatchItem => item.toElement)).filter
      (fun child : Element => child.tag == Tag.batchItem)).mapM RequestBatchItem.fromElement
    if header.batchCount ≠ Int32.ofNat batchItems.length then
      .error (.message "Request Header Batch Count does not match number of Batch Items")
    else .ok ⟨header, batchItems, UInt32.ofNat (batchItems.length + 1)⟩ : Except Abort RequestMessage) = _
  rw [RequestHeader.fromElement_toElement, Except.ok_bind, hv, Except.ok_bind, mapM_fromElement hp, Except.ok_bind,
    if_neg (not_not.2 hn)]

/-- `serialize` writes the tree of the message with the normalised header. -/
theorem serialize_eq_ok {m : RequestMessage} {now : Int64} {bytes : List UInt8} (h : m.serialize now = .ok bytes) :
    ∃ e b, { m with header := m.normalizedHeader now }.toElement = .ok e ∧
      e.serialize (.new SerializationBuffer.defaultCapacity) = .ok b ∧ bytes = b.span := by
  rw [serialize] at h
  split at h
  · cases h
  obtain ⟨e, he, h⟩ := Except.bind_eq_ok_iff.1 h
  obtain ⟨b, hb, h⟩ := Except.bind_eq_ok_iff.1 h
  exact ⟨e, b, he, hb, (Except.ok.inj h).symm⟩

/-- A message of at most 64 MiB is serialized. -/
theorem exists_serialize {m : RequestMessage} {now : Int64} {e : Element} (hne : m.batchItems.isEmpty = false)
    (he : { m with header := m.normalizedHeader now }.toElement = .ok e) (hw : WellFormed e)
    (hsmall : (encode e).length ≤ SerializationBuffer.reachableCapacity) :
    ∃ data : Bytes, m.serialize now = .ok data.bytes := by
  obtain ⟨b, data, hb, hspan⟩ := exists_bytes hw hsmall
  refine ⟨data, ?_⟩
  rw [serialize, hne, he, hspan]
  show (e.serialize (.new SerializationBuffer.defaultCapacity) >>= fun buf => .ok buf.release.1) = _
  rw [hb]
  rfl

/-- The bytes of a request are decoded to the message with the normalised header. -/
theorem decode_serialize {m : RequestMessage} {now : Int64} {data : Bytes}
    (hp : ∀ item ∈ m.batchItems, ∀ p ∈ item.requestPayload, PayloadOk p) (h : m.serialize now = .ok data.bytes) :
    ∃ e, (deserialize data 0).result = .ok (e, data.size) ∧
      fromElement e = .ok ⟨m.normalizedHeader now, m.batchItems, UInt32.ofNat (m.batchItems.length + 1)⟩ := by
  obtain ⟨e, b, he, hb, hd⟩ := serialize_eq_ok h
  exact ⟨e, deserialize_of_carried (carried_toElement he hp) hb hd, fromElement_toElement he rfl hp⟩

/-- **Requests round-trip through the wire.** Whenever `serialize` returns, the decoder consumes all the bytes and
`fromElement` gives the same batch items and the header with the number of items as Batch Count, the time of
serialization as Time Stamp, and Batch Order Option set when it was not and there is more than one item. -/
theorem fromElement_serialize (m : RequestMessage) (now : Int64) (data : Bytes) (hlen : m.batchItems.length < 2 ^ 31)
    (hp : ∀ item ∈ m.batchItems, ∀ p ∈ item.requestPayload,
      p.tag = Tag.requestPayload ∧ WellFormed p ∧ p.height ≤ 62)
    (h : m.serialize now = .ok data.bytes) :
    ∃ e m', (deserialize data 0).result = .ok (e, data.size) ∧ fromElement e = .ok m' ∧
      m'.batchItems = m.batchItems ∧
      m'.header = { m.header with
        batchCount := Int32.ofNat m.batchItems.length
        timeStamp := some now
        batchOrderOption := if m.header.batchOrderOption = none ∧ m.batchItems.length > 1 then some true
          else m.header.batchOrderOption } ∧
      m'.header.batchCount.toInt = m.batchItems.length := by
  have hp' : ∀ item ∈ m.batchItems, ∀ p ∈ item.requestPayload, PayloadOk p := fun item hi p hm =>
    ⟨(hp item hi p hm).1, (hp item hi p hm).2.1, (hp item hi p hm).2.2⟩
  obtain ⟨e, hd, hm⟩ := decode_serialize hp' h
  refine ⟨e, _, hd, hm, rfl, ?_, Int32.toInt_ofNat_of_lt hlen⟩
  simp only [normalizedHeader, and_comm]

/-- Two Get requests with an empty user name. -/
def twoGets : RequestMessage :=
  ⟨{ userName := some Bytes.empty },
    [⟨1, 10, some (createStructure Tag.requestPayload [])⟩, ⟨0, 10, some (createStructure Tag.requestPayload [])⟩], 3⟩

theorem fromElement_serialize_twoGets :
    ∃ data e m', twoGets.serialize 7 = .ok data.bytes ∧ (deserialize data 0).result = .ok (e, data.size) ∧
      fromElement e = .ok m' ∧ m'.batchItems = twoGets.batchItems ∧ m'.header.batchOrderOption = some true := by
  obtain ⟨e, he⟩ : ∃ e, { twoGets with header := twoGets.normalizedHeader 7 }.toElement = .ok e := ⟨_, rfl⟩
  have hsmall : (encode e).length ≤ 400 := by
    rw [toElement_eq he]
    decide +kernel
  have hok : ∀ item ∈ twoGets.batchItems, ∀ p ∈ item.requestPayload,
      p.tag = Tag.requestPayload ∧ WellFormed p ∧ p.height ≤ 62 := by
    simp [twoGets]
    decide
  have hc : Carried kmipMaxStructureDepth e := carried_toElement he fun i hi p hm =>
    ⟨(hok i hi p hm).1, (hok i hi p hm).2.1, (hok i hi p hm).2.2⟩
  obtain ⟨data, hdata⟩ := exists_serialize rfl he hc.wellFormed (hsmall.trans (by decide))
  obtain ⟨e', m', h₁, h₂, h₃, h₄, -⟩ := fromElement_serialize twoGets 7 data (by decide) hok hdata
  exact ⟨data, e', m', hdata, h₁, h₂, h₃, by rw [h₄]; rfl⟩

end RequestMessage

end Kmip
