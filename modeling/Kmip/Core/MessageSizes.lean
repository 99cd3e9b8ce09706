import Kmip.Core.RequestPayloads
import Kmip.Core.LocatePayloads

/-!
# Sizes of messages

`Sized n items` says that the items may be sent in every version and that their encodings have at most `n` bytes
together. It follows the factories, so that the size of a message is read off from what it is built of, and a message
that is small enough is sent. In the other direction a message is at least as long as the payloads in it.
-/

namespace Kmip

open Element Requests

/-- Items without Date Time Extended and with at most `n` bytes. -/
structure Sized (n : Nat) (items : List Element) : Prop where
  validate : ∀ version, validateItems version items = .ok ()
  length_le : (encodeItems items).length ≤ n

namespace Sized

variable {m n : Nat} {items rest : List Element}

theorem mono (h : Sized m items) (hle : m ≤ n) : Sized n items := ⟨h.validate, h.length_le.trans hle⟩

theorem nil : Sized n [] := ⟨fun _ => rfl, Nat.zero_le n⟩

theorem append (h : Sized m items) (hrest : Sized n rest) : Sized (m + n) (items ++ rest) := by
  constructor
  · intro version
    have hrest' := hrest.validate version
    have hitems := h.validate version
    clear h hrest
    induction items with
    | nil => exact hrest'
    | cons item items ih =>
      rw [validateItems] at hitems
      obtain ⟨_, hitem, hitems⟩ := Except.bind_eq_ok_iff.1 hitems
      rw [List.cons_append, validateItems, hitem, Except.ok_bind]
      exact ih hitems
  · rw [encodeItems_append, List.length_append]
    exact Nat.add_le_add h.length_le hrest.length_le

theorem cons {item : Element} (h : Sized m [item]) (hrest : Sized n rest) : Sized (m + n) (item :: rest) :=
  h.append hrest

/-- A structure adds its header. -/
theorem createStructure (t : Tag) (h : Sized n items) : Sized (n + 8) [createStructure t items] := by
  constructor
  · intro version
    show (validateItems version items >>= fun _ => .ok ()) = _
    rw [h.validate version]
    rfl
  · rw [encodeItems, encodeItems, List.append_nil, Element.createStructure, encode_struct, List.length_append,
      length_header, Nat.add_comm]
    exact Nat.add_le_add_right h.length_le 8

/-- A value of another type is padded. -/
theorem primitive {t : Tag} {v : Value Element} (hv : v.typeCode ≠ TypeCode.struct)
    (hd : v.typeCode ≠ TypeCode.dateTimeExtended) : Sized ((body v).length + 15) [⟨t, v.typeCode, v⟩] := by
  constructor
  · intro version
    rw [validateItems, validateElementTypesForVersion, if_neg (by simp [hd])]
    cases v with
    | struct => exact absurd rfl hv
    | _ => rfl
  · rw [encodeItems, encodeItems, List.append_nil, length_encode]
    omega

theorem createTextString (t : Tag) (v : Bytes) : Sized (v.size + 15) [createTextString t v] :=
  @primitive t (.textString v) (show TypeCode.textString ≠ _ by decide) (show TypeCode.textString ≠ _ by decide)

theorem createByteString (t : Tag) (v : Bytes) : Sized (v.size + 15) [createByteString t v] :=
  @primitive t (.byteString v) (show TypeCode.byteString ≠ _ by decide) (show TypeCode.byteString ≠ _ by decide)

theorem createInteger (t : Tag) (v : Int32) : Sized 19 [createInteger t v] :=
  @primitive t (.integer v) (show TypeCode.integer ≠ _ by decide) (show TypeCode.integer ≠ _ by decide)

theorem createEnumeration (t : Tag) (v : Int32) : Sized 19 [createEnumeration t v] :=
  @primitive t (.enumeration v) (show TypeCode.enumeration ≠ _ by decide) (show TypeCode.enumeration ≠ _ by decide)

theorem createDateTime (t : Tag) (v : Int64) : Sized 23 [createDateTime t v] :=
  @primitive t (.dateTime v) (show TypeCode.dateTime ≠ _ by decide) (show TypeCode.dateTime ≠ _ by decide)

/-- A list of texts. -/
theorem map_createTextString (t : Tag) (texts : List Bytes) :
    Sized (texts.map fun v => v.size + 15).sum (texts.map (Element.createTextString t)) := by
  induction texts with
  | nil => exact nil
  | cons v texts ih => exact (createTextString t v).cons ih

theorem optionalChild {α : Type} {mk : α → Element} (field : Option α) (h : ∀ a ∈ field, Sized n [mk a]) :
    Sized n (optionalChild mk field) := by
  cases field with
  | none => exact nil
  | some a => exact h a rfl

theorem batchItemIdElement (id : UInt32) : Sized 19 (batchItemIdElement id) := by
  unfold Kmip.batchItemIdElement
  split
  · exact createByteString Tag.uniqueBatchItemId (encodeBatchItemId id)
  · exact nil

end Sized

/-! ## Messages -/

theorem ProtocolVersion.sized_toElement (v : ProtocolVersion) : Sized 46 [v.toElement] :=
  .createStructure _ ((Sized.createInteger _ _).cons (.createInteger _ _))

/-- A request header without Batch Order Option and credentials. -/
theorem RequestHeader.sized_toElement {h : RequestHeader} (horder : h.batchOrderOption = none)
    (huser : h.userName = none) (hpassword : h.password = none) : Sized 115 [h.toElement] := by
  refine .createStructure (n := 107) _ ?_
  rw [horder, huser, hpassword]
  exact ((((h.protocolVersion.sized_toElement.append (.optionalChild _ fun n _ => .createInteger _ n)).append
    (Sized.nil (n := 0))).append (.optionalChild _ fun now _ => .createDateTime _ now)).append
    (Sized.nil (n := 0))).append (.createInteger _ h.batchCount)

theorem RequestBatchItem.sized_toElement {n : Nat} {item : RequestBatchItem}
    (h : ∀ p ∈ item.requestPayload, Sized n [p]) : Sized (n + 46) [item.toElement] := by
  refine (Sized.createStructure _ (((Sized.createEnumeration _ item.operation).append
    (.batchItemIdElement item.uniqueBatchItemId)).append (.optionalChild item.requestPayload h))).mono ?_
  omega

theorem ResponseHeader.sized_toElement (h : ResponseHeader) : Sized 96 [h.toElement] :=
  .createStructure _ (h.protocolVersion.sized_toElement.cons
    ((Sized.createDateTime _ h.timeStamp).cons (.createInteger _ h.batchCount)))

/-- An item without reason and message. -/
theorem ResponseBatchItem.sized_toElement {n : Nat} {item : ResponseBatchItem} (hreason : item.resultReason = none)
    (hmessage : item.resultMessage = none) (h : ∀ p ∈ item.responsePayload, Sized n [p]) :
    Sized (n + 65) [item.toElement] := by
  unfold toElement
  rw [hreason, hmessage]
  refine (Sized.createStructure _ (((((Sized.createEnumeration _ item.operation).append
    (.batchItemIdElement item.uniqueBatchItemId)).append (.createEnumeration _ item.resultStatus)).append
    (Sized.nil (n := 0))).append (Sized.nil (n := 0)) |>.append (.optionalChild item.responsePayload h))).mono ?_
  omega

/-- A message of a header and one item. -/
theorem sized_message {h item : Element} {m n : Nat} (t : Tag) (hh : Sized m [h]) (hitem : Sized n [item])
    (version : ProtocolVersion) :
    validateElementTypesForVersion version (createStructure t [h, item]) = .ok () ∧
      (encode (createStructure t [h, item])).length ≤ m + n + 8 := by
  have hall := (hh.cons hitem).createStructure t
  constructor
  · have hvalidate := hall.validate version
    rw [validateItems] at hvalidate
    obtain ⟨_, hvalidate, -⟩ := Except.bind_eq_ok_iff.1 hvalidate
    exact hvalidate
  · have hle := hall.length_le
    rwa [encodeItems, encodeItems, List.append_nil] at hle

/-- A request with one item and no credentials is sent if it is small enough. -/
theorem RequestMessage.exists_serialize_of_sized {n : Nat} {m : RequestMessage} {item : RequestBatchItem}
    (hitems : m.batchItems = [item]) (horder : m.header.batchOrderOption = none) (huser : m.header.userName = none)
    (hpassword : m.header.password = none) (hp : ∀ p ∈ item.requestPayload, PayloadOk p)
    (h : ∀ p ∈ item.requestPayload, Sized n [p]) (hn : n + 169 ≤ SerializationBuffer.reachableCapacity) (now : Int64) :
    ∃ data : Bytes, m.serialize now = .ok data.bytes := by
  have horder' : (m.normalizedHeader now).batchOrderOption = none := by
    unfold normalizedHeader
    rw [hitems, horder]
    rfl
  obtain ⟨hvalidate, hlength⟩ := sized_message Tag.requestMessage
    (RequestHeader.sized_toElement (h := m.normalizedHeader now) horder' huser hpassword)
    (RequestBatchItem.sized_toElement h) m.header.protocolVersion
  have he : { m with header := m.normalizedHeader now }.toElement =
      .ok (createStructure Tag.requestMessage [(m.normalizedHeader now).toElement, item.toElement]) := by
    unfold toElement
    dsimp only
    rw [hitems, List.map_singleton]
    show (validateElementTypesForVersion m.header.protocolVersion _ >>= _) = _
    rw [hvalidate]
    rfl
  refine exists_serialize (by rw [hitems]; rfl) he (carried_toElement he ?_).wellFormed (by omega)
  rw [hitems]
  exact List.forall_mem_singleton.2 hp

/-- A response with one item is sent if it is small enough. -/
theorem ResponseMessage.exists_bytes_of_sized {n : Nat} {m : ResponseMessage} {item : ResponseBatchItem}
    (hitems : m.batchItems = [item]) (hreason : item.resultReason = none) (hmessage : item.resultMessage = none)
    (hp : ∀ p ∈ item.responsePayload, ResponsePayloadOk p) (h : ∀ p ∈ item.responsePayload, Sized n [p])
    (hn : n + 169 ≤ SerializationBuffer.reachableCapacity) :
    ∃ e b, ∃ data : Bytes, m.toElement = .ok e ∧ e.serialize (.new SerializationBuffer.defaultCapacity) = .ok b ∧
      data.bytes = b.span ∧ (encode e).length ≤ n + 169 := by
  obtain ⟨hvalidate, hlength⟩ := sized_message Tag.responseMessage m.header.sized_toElement
    (ResponseBatchItem.sized_toElement hreason hmessage h) m.header.protocolVersion
  have he : m.toElement = .ok (createStructure Tag.responseMessage [m.header.toElement, item.toElement]) := by
    unfold toElement
    rw [hitems, List.map_singleton]
    show (validateElementTypesForVersion m.header.protocolVersion _ >>= _) = _
    rw [hvalidate]
    rfl
  have hp' : ∀ item ∈ m.batchItems, ∀ p ∈ item.responsePayload, ResponsePayloadOk p := by
    rw [hitems]
    exact List.forall_mem_singleton.2 hp
  obtain ⟨b, data, hb, hdata⟩ := exists_bytes (carried_toElement he hp').wellFormed (hlength.trans (by omega))
  exact ⟨_, b, data, he, hb, hdata, hlength.trans (by omega)⟩

theorem length_encode_le_of_mem {e : Element} {items : List Element} (h : e ∈ items) :
    (encode e).length ≤ (encodeItems items).length := by
  obtain ⟨before, after, rfl⟩ := List.append_of_mem h
  rw [encodeItems_append, encodeItems, List.length_append, List.length_append]
  omega

/-- A structure is longer than what is in it. -/
theorem length_encodeItems_le (t : Tag) (items : List Element) :
    (encodeItems items).length ≤ (encode (createStructure t items)).length := by
  rw [Element.createStructure, encode_struct, List.length_append]
  omega

/-- A response is longer than each of its payloads. -/
theorem ResponseMessage.length_payload_le {m : ResponseMessage} {e p : Element} {item : ResponseBatchItem}
    (he : m.toElement = .ok e) (hitem : item ∈ m.batchItems) (hp : item.responsePayload = some p) :
    (encode p).length ≤ (encode e).length := by
  obtain ⟨_, -, he⟩ := Except.bind_eq_ok_iff.1 he
  cases he
  have hpayload : p ∈ Element.optionalChild id item.responsePayload := by
    rw [hp]
    exact List.mem_singleton.2 rfl
  calc (encode p).length
      ≤ (encode item.toElement).length :=
        (length_encode_le_of_mem (List.mem_append_right _ hpayload)).trans (length_encodeItems_le _ _)
    _ ≤ _ := (length_encode_le_of_mem (List.mem_cons_of_mem _ (List.mem_map_of_mem hitem))).trans
        (length_encodeItems_le _ _)

/-! ## Locate -/

theorem sized_makeAttribute {n : Nat} (attributeName : Bytes) {value : Element} (h : Sized n [value]) :
    Sized (attributeName.size + 15 + n + 8) [makeAttribute attributeName value] :=
  .createStructure _ ((Sized.createTextString _ attributeName).cons h)

theorem sized_nameFields (value : Bytes) : Sized (value.size + 34) (nameFields value) :=
  (Sized.createTextString _ value).cons (.createEnumeration _ _)

theorem sized_optionalGroup {n : Nat} {mk : Bytes → Element} (group : Bytes) (h : Sized n [mk group]) :
    Sized n (optionalGroup mk group) := by
  unfold optionalGroup
  split
  · exact .nil
  · exact h

theorem sized_positiveInteger (t : Tag) (value : Nat) : Sized 19 (positiveInteger t value) := by
  unfold positiveInteger
  split
  · exact .createInteger t _
  · exact .nil

theorem sized_locateAttributes (locateByGroup : Bool) (name : Bytes) (objType : UInt32) (version : ProtocolVersion) :
    Sized (name.size + 122) (locateAttributes locateByGroup name objType version) := by
  have hname : Sized (name.size + 42) [makeV2NameStruct name] := .createStructure _ (sized_nameFields name)
  unfold locateAttributes
  split
  · refine (Sized.createStructure (n := name.size + 61) _
      (((Sized.createEnumeration _ _).append (sized_optionalGroup (n := name.size + 42) name ?_)).mono ?_)).mono ?_
    · cases locateByGroup with
      | true => exact (Sized.createTextString _ name).mono (by omega)
      | false => exact hname
    · omega
    · omega
  · have htype : Sized 53 [makeEnumAttribute (.ofText "Object Type") objType.toInt32] := by
      have hsize : (Bytes.ofText "Object Type").size = 11 := by decide
      refine (sized_makeAttribute (.ofText "Object Type") (.createEnumeration _ _)).mono ?_
      omega
    refine (htype.append (sized_optionalGroup (n := name.size + 69) name ?_)).mono (by omega)
    cases locateByGroup with
    | true =>
      have hgroup : (Bytes.ofText "Object Group").size = 12 := by decide
      refine (sized_makeAttribute (.ofText "Object Group") (.createTextString _ name)).mono ?_
      omega
    | false =>
      have hsize : (Bytes.ofText "Name").size = 4 := by decide
      refine (sized_makeAttribute (.ofText "Name") (.createStructure _ (sized_nameFields name))).mono ?_
      omega

theorem sized_locateItem (locateByGroup : Bool) (name : Bytes) (objType : UInt32) (maxItems offset : Nat)
    (version : ProtocolVersion) :
    ∀ p ∈ (locateItem locateByGroup name objType maxItems offset version).requestPayload,
      Sized (name.size + 168) [p] := by
  rintro _ ⟨⟩
  refine (Sized.createStructure _ (((sized_positiveInteger _ maxItems).append (sized_positiveInteger _ offset)).append
    (sized_locateAttributes locateByGroup name objType version))).mono ?_
  omega

theorem LocateResponsePayload.sized_toElement (p : LocateResponsePayload) :
    Sized ((p.uniqueIdentifiers.map fun id => id.size + 15).sum + 27) [p.toElement] := by
  refine (Sized.createStructure _ ((Sized.optionalChild p.locatedItems fun n _ => .createInteger _ n).append
    (.map_createTextString _ p.uniqueIdentifiers))).mono ?_
  omega

/-- The ids of a page are in its payload. -/
theorem LocateResponsePayload.sum_le_length (p : LocateResponsePayload) :
    (p.uniqueIdentifiers.map Bytes.size).sum ≤ (encode p.toElement).length := by
  have hids : ∀ ids : List Bytes, (ids.map Bytes.size).sum ≤
      (encodeItems (ids.map (Element.createTextString Tag.uniqueIdentifier))).length := by
    intro ids
    induction ids with
    | nil => exact Nat.le_refl 0
    | cons id ids ih =>
      have hlength : id.size ≤ (encode (Element.createTextString Tag.uniqueIdentifier id)).length := by
        rw [Element.createTextString, length_encode, body, Bytes.size]
        omega
      rw [List.map_cons, List.map_cons, List.sum_cons, encodeItems, List.length_append]
      omega
  refine le_trans ?_ (length_encodeItems_le _ _)
  rw [encodeItems_append, List.length_append]
  exact (hids _).trans (Nat.le_add_left _ _)

theorem LocateResponsePayload.responsePayloadOk (p : LocateResponsePayload) : ResponsePayloadOk p.toElement := by
  refine ⟨rfl, (carried_createStructure (n := 0) (by decide) ?_).mono (by decide)⟩
  rw [List.forall_mem_append, forall_mem_optionalChild, List.forall_mem_map]
  exact ⟨fun n _ => carried_createInteger (by decide) n, fun id _ => carried_createTextString (by decide) id⟩

end Kmip
