import Kmip.Core.KeyParser
import Kmip.Core.Raised
import Kmip.Core.ResponseParser

/-!
# Exceptions that the library makes itself

A Result Reason of the server becomes the code of an exception in one place, `ensureSuccess`. Everything else that the
encoder, the decoder and the parsers throw is `Internal`: an exception with the default code or with one of a few codes
that the library assigns. There is one lemma for each function.
-/

namespace Kmip

open Except Element

/-- The codes that are assigned by the library. -/
def internalCodes : List Int :=
  [kmipNotImplemented, kmipEnumUnsupported, kmipObjectMismatch, kmipInvalidEncoding, kmipReasonInvalidDataType]

/-- An exception that the library makes itself. -/
inductive Abort.Internal : Abort → Prop
  | message (text : String) : Internal (.message text)
  | coded {code : Int} (h : code ∈ internalCodes) (text : String) : Internal (.coded code text)
  | diverged : Internal .diverged

open Abort (Internal)

theorem raises_message {α : Type} (text : String) : (.error (.message text) : Except Abort α).Raises Internal :=
  (raises_error _).2 (.message text)

theorem raises_coded {α : Type} {code : Int} (h : code ∈ internalCodes) (text : String) :
    (.error (.coded code text) : Except Abort α).Raises Internal :=
  (raises_error _).2 (.coded h text)

/-! ## Accessors -/

section Accessors

variable (e : Element)

@[simp] theorem internal_toInt : e.toInt.Raises Internal := raises_toInt (.message _) e

@[simp] theorem internal_toEnum : e.toEnum.Raises Internal := raises_toEnum (.message _) e

@[simp] theorem internal_toString : e.toString.Raises Internal := raises_toString (.message _) e

@[simp] theorem internal_toLong : e.toLong.Raises Internal := by
  unfold toLong
  split
  · exact raises_ok _
  · exact raises_ok _
  · exact raises_ok _
  · exact raises_message _

@[simp] theorem internal_toBool : e.toBool.Raises Internal := by
  unfold Element.toBool
  split
  · exact raises_ok _
  · exact raises_message _

@[simp] theorem internal_toBytes : e.toBytes.Raises Internal := by
  unfold toBytes
  split
  · exact raises_ok _
  · exact raises_ok _
  · exact raises_message _

@[simp] theorem internal_toInterval : e.toInterval.Raises Internal := by
  unfold toInterval
  split
  · exact raises_ok _
  · exact raises_message _

end Accessors

/-! ## The encoder -/

namespace SerializationBuffer

variable (b : SerializationBuffer)

theorem internal_ensureSpace (n : Nat) : (b.ensureSpace n).Raises Internal := by
  unfold ensureSpace expandCapacity
  refine Raises.ite (fun _ => raises_ok _) fun _ => ?_
  dsimp only
  split
  · exact (raises_error _).2 .diverged
  · exact Raises.ite (fun _ => raises_message _) fun _ => raises_ok _

theorem internal_writeByte (v : UInt8) : (b.writeByte v).Raises Internal := by
  rw [writeByte_eq]
  exact raises_bind_ok.2 (b.internal_ensureSpace 1)

theorem internal_writeBytes (data : List UInt8) : (b.writeBytes data).Raises Internal := by
  rw [writeBytes_eq]
  exact Raises.ite (fun _ => raises_ok _) fun _ => raises_bind_ok.2 (b.internal_ensureSpace _)

theorem internal_writePadded (data : List UInt8) : (b.writePadded data).Raises Internal := by
  rw [writePadded_eq]
  refine (b.internal_writeBytes data).bind fun b' _ => ?_
  exact Raises.ite (fun _ => raises_bind_ok.2 (b'.internal_ensureSpace _)) fun _ => raises_ok _

theorem internal_writeEach : ∀ (l : List UInt8) (b : SerializationBuffer), (b.writeEach l).Raises Internal
  | [], b => raises_ok b
  | v :: vs, b => (b.internal_writeByte v).bind fun b' _ => internal_writeEach vs b'

end SerializationBuffer

open SerializationBuffer

mutual

theorem internal_serialize : ∀ (e : Element) (b : SerializationBuffer), (serialize e b).Raises Internal
  | ⟨t, ty, v⟩, b => by
    rw [serialize]
    refine (internal_writeEach _ b).bind fun b _ => ?_
    refine (b.internal_writeByte _).bind fun b _ => ?_
    refine (internal_serializeContent v).bind fun ⟨content, n⟩ _ => ?_
    refine (internal_writeEach _ b).bind fun b _ => ?_
    refine Raises.bind ?_ fun b _ => internal_writeEach _ b
    exact Raises.ite (fun _ => b.internal_writeBytes _) fun _ => raises_ok b

theorem internal_serializeContent : ∀ v : Value Element, (serializeContent v).Raises Internal
  | .struct items => by
    rw [serializeContent]
    exact (internal_serializeItems items _).bind fun _ _ => raises_ok _
  | .integer v => by rw [serializeContent]; exact raises_bind_ok.2 (internal_writeBytes _ _)
  | .longInteger v => by rw [serializeContent]; exact raises_bind_ok.2 (internal_writeBytes _ _)
  | .bigInteger v => by rw [serializeContent]; exact raises_bind_ok.2 (internal_writeBytes _ _)
  | .enumeration v => by rw [serializeContent]; exact raises_bind_ok.2 (internal_writeBytes _ _)
  | .boolean v => by rw [serializeContent]; exact raises_bind_ok.2 (internal_writeBytes _ _)
  | .textString v => by rw [serializeContent]; exact raises_bind_ok.2 (internal_writePadded _ _)
  | .byteString v => by rw [serializeContent]; exact raises_bind_ok.2 (internal_writePadded _ _)
  | .dateTime v => by rw [serializeContent]; exact raises_bind_ok.2 (internal_writeBytes _ _)
  | .dateTimeExtended v => by rw [serializeContent]; exact raises_bind_ok.2 (internal_writeBytes _ _)
  | .interval v => by rw [serializeContent]; exact raises_bind_ok.2 (internal_writeBytes _ _)

theorem internal_serializeItems : ∀ (items : List Element) (b : SerializationBuffer),
    (serializeItems items b).Raises Internal
  | [], b => by
    rw [serializeItems]
    exact raises_ok b
  | item :: items, b => by
    rw [serializeItems]
    exact (internal_serialize item b).bind fun b' _ => internal_serializeItems items b'

end

mutual

theorem internal_validate (version : ProtocolVersion) : ∀ e : Element,
    (validateElementTypesForVersion version e).Raises Internal
  | ⟨_, _, value⟩ => by
    rw [validateElementTypesForVersion]
    exact Raises.ite (fun _ => raises_message _) fun _ => internal_validateValue version value

theorem internal_validateValue (version : ProtocolVersion) : ∀ v : Value Element,
    (validateValue version v).Raises Internal
  | .struct items => by
    rw [validateValue]
    exact internal_validateItems version items
  | .integer _ | .longInteger _ | .bigInteger _ | .enumeration _ | .boolean _ | .textString _ | .byteString _
  | .dateTime _ | .dateTimeExtended _ | .interval _ => by
    rw [validateValue]
    · exact raises_ok ()
    · exact fun items h => by cases h

theorem internal_validateItems (version : ProtocolVersion) : ∀ items : List Element,
    (validateItems version items).Raises Internal
  | [] => by
    rw [validateItems]
    exact raises_ok ()
  | item :: items => by
    rw [validateItems]
    exact (internal_validate version item).bind fun _ _ => internal_validateItems version items

end

theorem RequestMessage.internal_serialize (m : RequestMessage) (now : Int64) : (m.serialize now).Raises Internal := by
  refine Raises.ite (fun _ => raises_message _) fun _ => ?_
  refine Raises.bind ?_ fun element _ => raises_bind_ok.2 (Kmip.internal_serialize element _)
  exact (internal_validate _ _).bind fun _ _ => raises_ok _

/-! ## Messages -/

theorem internal_deserialize (data : Bytes) (off : Nat) : (deserialize data off).result.Raises Internal :=
  raises_deserializeImpl .message .diverged

theorem internal_readBatchItemId (e : Element) : (readBatchItemId e).Raises Internal :=
  raises_bind_ok.2 (raises_readChild internal_toBytes e _)

theorem internal_protocolVersion (e : Element) : (ProtocolVersion.fromElement e).Raises Internal := by
  refine Raises.ite (fun _ => raises_message _) fun _ => ?_
  refine (raises_readChild internal_toInt e _).bind fun _ _ => ?_
  exact raises_bind_ok.2 (raises_readChild internal_toInt e _)

theorem internal_responseHeader (e : Element) : (ResponseHeader.fromElement e).Raises Internal := by
  refine Raises.ite (fun _ => raises_message _) fun _ => ?_
  split
  · exact raises_message _
  · refine (internal_protocolVersion _).bind fun _ _ => ?_
    refine (raises_readChild internal_toLong e _).bind fun _ _ => ?_
    exact raises_bind_ok.2 (raises_readChild internal_toInt e _)

theorem internal_responseBatchItem (e : Element) : (ResponseBatchItem.fromElement e).Raises Internal := by
  refine Raises.ite (fun _ => raises_message _) fun _ => ?_
  refine (raises_readChild internal_toEnum e _).bind fun _ _ => ?_
  refine (internal_readBatchItemId e).bind fun _ _ => ?_
  split
  · exact raises_message _
  · refine (internal_toEnum _).bind fun _ _ => ?_
    refine (raises_readChild internal_toEnum e _).bind fun _ _ => ?_
    refine Raises.ite (fun _ => raises_message _) fun _ => ?_
    exact raises_bind_ok.2 (raises_readChild internal_toString e _)

theorem internal_responseMessage (e : Element) : (ResponseMessage.fromElement e).Raises Internal := by
  refine Raises.ite (fun _ => raises_message _) fun _ => ?_
  split
  · exact raises_message _
  · split
    · exact raises_message _
    · refine (internal_responseHeader _).bind fun _ _ => ?_
      refine (internal_validate _ e).bind fun _ _ => ?_
      refine (Raises.mapM fun item _ => internal_responseBatchItem item).bind fun _ _ => ?_
      exact Raises.ite (fun _ => raises_message _) fun _ => raises_ok _

namespace ResponseParser

theorem internal_ensureParsed (parser : ResponseParser) : parser.ensureParsed.Raises Internal := by
  refine Raises.ite (fun _ => ?_) fun _ => raises_ok parser
  refine Raises.ite (fun _ => raises_message _) fun _ => ?_
  refine (internal_deserialize _ 0).bind fun ⟨root, offset⟩ _ => ?_
  refine Raises.ite (fun _ => raises_message _) fun _ => ?_
  exact raises_bind_ok.2 (internal_responseMessage root)

theorem internal_getResponseItemByBatchItemId (parser : ResponseParser) (id : UInt32) :
    (parser.getResponseItemByBatchItemId id).Raises Internal := by
  refine parser.internal_ensureParsed.bind fun parsed _ => ?_
  dsimp only
  split
  · exact raises_ok _
  · split
    · exact raises_ok _
    · exact raises_message _

/-- The response has a failed item, and the exception carries its Result Reason. -/
def Reports (parser : ResponseParser) (e : Abort) : Prop :=
  ∃ id item parser' text, parser.getResponseItemByBatchItemId id = .ok (item, parser') ∧
    item.resultStatus ≠ kmipStatusSuccess ∧ e = .coded (getResultReasonOrDefault item) text

theorem getResponseByBatchItemId_eq_ok {α : Type} {fromBatchItem : ResponseBatchItem → Except Abort α}
    {parser parser' : ResponseParser} {id : UInt32} {response : α}
    (h : parser.getResponseByBatchItemId fromBatchItem id = .ok (response, parser')) :
    ∃ item, parser.getResponseItemByBatchItemId id = .ok (item, parser') ∧ item.resultStatus = kmipStatusSuccess ∧
      fromBatchItem item = .ok response := by
  obtain ⟨⟨item, parsed⟩, hitem, h⟩ := Except.bind_eq_ok_iff.1 h
  obtain ⟨_, hsuccess, h⟩ := Except.bind_eq_ok_iff.1 h
  obtain ⟨r, hr, h⟩ := Except.bind_eq_ok_iff.1 h
  cases h
  refine ⟨item, hitem, ?_, hr⟩
  by_contra hstatus
  rw [ensureSuccess, if_pos hstatus] at hsuccess
  cases hsuccess

/-- A typed access throws what the server reports, or an exception of the library. -/
theorem raises_getResponseByBatchItemId {α : Type} {fromBatchItem : ResponseBatchItem → Except Abort α}
    (hfrom : ∀ item, (fromBatchItem item).Raises Internal) (parser : ResponseParser) (id : UInt32) :
    (parser.getResponseByBatchItemId fromBatchItem id).Raises fun e => Internal e ∨ parser.Reports e := by
  refine ((internal_getResponseItemByBatchItemId parser id).mono fun _ => .inl).bind fun ⟨item, parser'⟩ hitem => ?_
  refine Raises.bind ?_ fun _ _ => raises_bind_ok.2 ((hfrom item).mono fun _ => .inl)
  refine Raises.ite (fun hstatus => (raises_error _).2 (.inr ?_)) fun _ => raises_ok ()
  exact ⟨id, item, parser', _, hitem, hstatus, rfl⟩

/-- After a typed access the same is reported. -/
theorem Reports.of_after {α : Type} {fromBatchItem : ResponseBatchItem → Except Abort α}
    {parser parser' : ResponseParser} {id : UInt32} {response : α}
    (h : parser.getResponseByBatchItemId fromBatchItem id = .ok (response, parser')) {e : Abort}
    (hreports : parser'.Reports e) : parser.Reports e := by
  obtain ⟨item, hitem, -, -⟩ := getResponseByBatchItemId_eq_ok h
  obtain ⟨id', item', parser'', text, hitem', hrest⟩ := hreports
  rw [getResponseItemByBatchItemId_after hitem] at hitem'
  exact ⟨id', item', parser'', text, hitem', hrest⟩

end ResponseParser

/-! ## Typed responses -/

theorem internal_expectOperation (item : ResponseBatchItem) (operation : Int32) (className : String) :
    (expectOperation item operation className).Raises Internal :=
  Raises.ite (fun _ => raises_message _) fun _ => raises_ok ()

theorem internal_requireResponsePayload (item : ResponseBatchItem) (className : String) :
    (requireResponsePayload item className).Raises Internal := by
  unfold requireResponsePayload
  split
  · exact raises_ok _
  · exact raises_message _

theorem internal_getResponse (item : ResponseBatchItem) :
    (GetResponseBatchItem.fromBatchItem item).Raises Internal := by
  refine (internal_expectOperation item _ _).bind fun _ _ => ?_
  refine (internal_requireResponsePayload item _).bind fun payload _ => ?_
  split
  · exact raises_message _
  · refine (internal_toString _).bind fun _ _ => ?_
    split
    · exact raises_message _
    · refine (internal_toEnum _).bind fun _ _ => ?_
      split
      · exact raises_message _
      · exact raises_ok _

theorem internal_getAttributesResponse (item : ResponseBatchItem) :
    (GetAttributesResponseBatchItem.fromBatchItem item).Raises Internal := by
  refine (internal_expectOperation item _ _).bind fun _ _ => ?_
  exact raises_bind_ok.2 (internal_requireResponsePayload item _)

/-! ## Attributes -/

theorem internal_checkedEnum (isValid : Int32 → Bool) (text : String) (value : Int32) :
    (checkedEnum isValid text value).Raises Internal :=
  Raises.ite (fun _ => raises_coded (by decide) _) fun _ => raises_ok _

@[simp] theorem internal_checkedCryptographicAlgorithm (value : Int32) :
    (checkedCryptographicAlgorithm value).Raises Internal := internal_checkedEnum _ _ value

@[simp] theorem internal_checkedCryptographicUsageMask (value : Int32) :
    (checkedCryptographicUsageMask value).Raises Internal := internal_checkedEnum _ _ value

@[simp] theorem internal_checkedState (value : Int32) : (checkedState value).Raises Internal :=
  internal_checkedEnum _ _ value

namespace AttributesParser

variable (dateToString : Int64 → Bytes)

theorem internal_storeGeneric (result : Attributes) (name : Bytes) (value : Option Element) :
    (storeGeneric dateToString result name value).Raises Internal := by
  unfold storeGeneric
  split
  · exact raises_ok result
  · simp only [raises_ite, raises_bind_ok, internal_toString, internal_toInt, internal_toEnum, internal_toLong,
      internal_toBool, internal_toBytes, internal_toInterval, implies_true, true_and, raises_ok]
    intros
    split <;> simp

theorem internal_storeUnmapped (result : Attributes) (elem : Element) :
    (storeUnmapped result elem).Raises Internal := by
  unfold storeUnmapped
  simp

theorem internal_setDate (result : Attributes) (name : Bytes) (elem : Element) :
    (setDate dateToString result name elem).Raises Internal := raises_bind_ok.2 (internal_toLong elem)

theorem internal_parseV2TypedAttribute (result : Attributes) (elem : Element) :
    (parseV2TypedAttribute dateToString result elem).Raises Internal := by
  unfold parseV2TypedAttribute
  simp only [raises_ite, raises_bind, internal_toString, internal_toInt, internal_toEnum,
    internal_checkedCryptographicAlgorithm, internal_checkedCryptographicUsageMask, internal_checkedState,
    internal_setDate, internal_storeUnmapped, implies_true, and_true]
  split <;> simp

theorem internal_setTyped {result : Attributes} {set : Element → Except Abort Attributes}
    (h : ∀ e, (set e).Raises Internal) (value : Option Element) : (setTyped result value set).Raises Internal := by
  unfold setTyped
  split
  · exact h _
  · exact raises_ok result

theorem internal_parseAttribute (result : Attributes) (elem : Element) :
    (parseAttribute dateToString result elem).Raises Internal := by
  unfold parseAttribute
  split
  · exact raises_ok result
  · refine (internal_toString _).bind fun rawName _ => ?_
    refine Raises.ite (fun _ => internal_setTyped (fun e => ?_) _) fun _ => ?_
    · simp [raises_bind]
    refine Raises.ite (fun _ => internal_setTyped (fun e => ?_) _) fun _ => ?_
    · simp
    refine Raises.ite (fun _ => internal_setTyped (fun e => ?_) _) fun _ => ?_
    · simp [raises_bind]
    refine Raises.ite (fun _ => internal_setTyped (fun e => ?_) _) fun _ => ?_
    · simp [raises_bind]
    exact internal_storeGeneric dateToString result _ _

theorem internal_parse (attributes : List Element) : (parse dateToString attributes).Raises Internal := by
  refine Raises.foldlM (fun result elem => ?_) attributes _
  exact Raises.ite (fun _ => internal_parseAttribute dateToString result elem) fun _ =>
    internal_parseV2TypedAttribute dateToString result elem

end AttributesParser

/-! ## Keys and secrets -/

namespace KeyParser

theorem internal_requireChild (e : Element) (t : Tag) (text : String) : (requireChild e t text).Raises Internal := by
  unfold requireChild
  split
  · exact raises_ok _
  · exact raises_coded (by decide) _

theorem internal_secureKeyMaterial (e : Element) : (secureKeyMaterial e).Raises Internal := by
  unfold secureKeyMaterial
  split
  · exact raises_ok _
  · exact raises_coded (by decide) _

theorem internal_keyBlockAttributes (keyBlock : Element) (attrs : Attributes) :
    (keyBlockAttributes keyBlock attrs).Raises Internal := by
  unfold keyBlockAttributes
  dsimp only
  split
  · refine (internal_toEnum _).bind fun code _ => ?_
    refine (internal_checkedCryptographicAlgorithm code).bind fun algorithm _ => ?_
    rw [ok_bind]
    split <;> simp
  · rw [ok_bind]
    split <;> simp

section Parse

variable (dateToString : Int64 → Bytes)

theorem internal_parseKeyFromKeyBlockHolder (object : Element) (type : KeyType) (typeName : String) :
    (parseKeyFromKeyBlockHolder dateToString object type typeName).Raises Internal := by
  refine (internal_requireChild object _ _).bind fun keyBlock _ => ?_
  refine (internal_requireChild keyBlock _ _).bind fun keyValue _ => ?_
  refine (internal_requireChild keyValue _ _).bind fun keyMaterial _ => ?_
  refine (internal_requireChild keyBlock _ _).bind fun keyFormat _ => ?_
  split
  · exact (internal_toEnum keyFormat).bind fun _ _ => raises_coded (by decide) _
  · refine (internal_secureKeyMaterial keyMaterial).bind fun _ _ => ?_
    refine (AttributesParser.internal_parse dateToString _).bind fun attrs _ => ?_
    refine (internal_keyBlockAttributes keyBlock attrs).bind fun _ _ => ?_
    exact raises_bind_ok.2 (internal_toEnum keyFormat)

theorem internal_checkSymmetricFormat (object : Element) : (checkSymmetricFormat object).Raises Internal := by
  unfold checkSymmetricFormat
  split
  · exact raises_ok ()
  · split
    · exact raises_coded (by decide) _
    · refine (internal_toEnum _).bind fun _ _ => ?_
      exact Raises.ite (fun _ => raises_coded (by decide) _) fun _ => raises_ok ()

theorem internal_parseGetKeyResponse (r : GetResponseBatchItem) :
    (parseGetKeyResponse dateToString r).Raises Internal := by
  unfold parseGetKeyResponse parseResponse
  split
  · exact raises_coded (by decide) _
  · refine (internal_requireChild _ _ _).bind fun objectType _ => ?_
    refine (internal_toEnum objectType).bind fun code _ => ?_
    split
    · refine (internal_requireChild _ _ _).bind fun object _ => ?_
      split
      · refine (internal_checkSymmetricFormat object).bind fun _ _ => ?_
        exact internal_parseKeyFromKeyBlockHolder dateToString object _ _
      · exact internal_parseKeyFromKeyBlockHolder dateToString object _ _
    · exact Raises.ite (fun _ => raises_coded (by decide) _) fun _ => raises_coded (by decide) _

end Parse

theorem internal_keyFormatType (r : GetResponseBatchItem) : (keyFormatType r).Raises Internal := by
  unfold keyFormatType
  split
  · exact raises_ok none
  · exact raises_readChild internal_toEnum _ _

theorem internal_parseGetSecretResponse (r : GetResponseBatchItem) : (parseGetSecretResponse r).Raises Internal := by
  refine Raises.ite (fun _ => raises_coded (by decide) _) fun _ => ?_
  dsimp only
  split
  · split
    · exact raises_coded (by decide) _
    · refine (internal_toEnum _).bind fun _ _ => ?_
      refine Raises.ite (fun _ => raises_coded (by decide) _) fun _ => ?_
      refine (internal_requireChild _ _ _).bind fun keyValue _ => ?_
      refine (internal_requireChild _ _ _).bind fun keyMaterial _ => ?_
      refine (internal_secureKeyMaterial keyMaterial).bind fun _ _ => ?_
      refine (internal_toEnum _).bind fun code _ => ?_
      exact raises_bind_ok.2 (internal_checkedEnum _ _ code)
  · exact raises_coded (by decide) _

end KeyParser

end Kmip
