import Kmip.Core.Formatter
import Kmip.Core.RegisterTrees

/-!
# Redaction

`redact` removes from a tree what must not be logged. The formatter does not see the difference
(`formatElementImpl_redact`), so two trees with the same redaction have the same text. Requests that differ in the
values of registered objects or in credentials have such trees (`Indistinct`), also after encode and decode.
-/

namespace Kmip

open Element Requests Formatter

/-! ## What must not be logged -/

/-- As many zeros. -/
def Bytes.blank (b : Bytes) : Bytes := ⟨List.replicate b.size 0, by rw [List.length_replicate]; exact b.size_lt⟩

@[simp] theorem Bytes.size_blank (b : Bytes) : b.blank.size = b.size := List.length_replicate

/-- A value of the same alternative and length that tells nothing else. -/
def blank : Value Element → Value Element
  | .struct _ => .struct []
  | .integer _ => .integer 0
  | .longInteger _ => .longInteger 0
  | .bigInteger value => .bigInteger value.blank
  | .enumeration _ => .enumeration 0
  | .boolean _ => .boolean false
  | .textString value => .textString value.blank
  | .byteString value => .byteString value.blank
  | .dateTime _ => .dateTime 0
  | .dateTimeExtended _ => .dateTimeExtended 0
  | .interval _ => .interval 0

mutual

/-- The tree with the values of the nodes with sensitive tags blanked, of structures with all that is below them. Two
trees are equal except for sensitive content when this makes them equal. -/
def redact : Element → Element
  | ⟨tag, type, value⟩ => ⟨tag, type, if isSensitiveTag tag then blank value else redactValue value⟩

def redactValue : Value Element → Value Element
  | .struct items => .struct (redactItems items)
  | value => value

def redactItems : List Element → List Element
  | [] => []
  | e :: es => redact e :: redactItems es

end

theorem redact_of_sensitive {tag : Tag} {type : TypeCode} {value : Value Element} (h : isSensitiveTag tag) :
    redact ⟨tag, type, value⟩ = ⟨tag, type, blank value⟩ := by
  rw [redact, if_pos h]

theorem redact_struct {tag : Tag} {type : TypeCode} {items : List Element} (h : ¬ isSensitiveTag tag) :
    redact ⟨tag, type, .struct items⟩ = ⟨tag, type, .struct (redactItems items)⟩ := by
  rw [redact, if_neg h, redactValue]

theorem redactItems_eq_nil {items : List Element} : (redactItems items).isEmpty = items.isEmpty := by
  cases items <;> rfl

/-! ## The formatter does not see it -/

theorem redactedValueLength_blank (tag : Tag) (type : TypeCode) (value : Value Element) :
    redactedValueLength ⟨tag, type, blank value⟩ = redactedValueLength ⟨tag, type, value⟩ := by
  cases value <;> simp [redactedValueLength, blank, toBytes, Element.toString]

theorem redactedValueSummary_blank (tag : Tag) (type : TypeCode) (value : Value Element) :
    redactedValueSummary ⟨tag, type, blank value⟩ = redactedValueSummary ⟨tag, type, value⟩ := by
  rw [redactedValueSummary, redactedValueSummary, redactedValueLength_blank]

section Format

variable (utcTime : Int64 → String)

theorem formatItems_redactItems {items : List Element}
    (h : ∀ c ∈ items, ∀ depth, formatElementImpl utcTime (redact c) depth = formatElementImpl utcTime c depth)
    (depth : Nat) : formatItems utcTime (redactItems items) depth = formatItems utcTime items depth := by
  induction items with
  | nil => rfl
  | cons c items ih =>
    rw [List.forall_mem_cons] at h
    rw [redactItems, formatItems, formatItems, h.1, ih h.2]

/-- The text of a tree is the text of its redaction. -/
theorem formatElementImpl_redact (e : Element) :
    ∀ depth, formatElementImpl utcTime (redact e) depth = formatElementImpl utcTime e depth := by
  have hsensitive : ∀ {tag : Tag} {type : TypeCode} {value : Value Element}, isSensitiveTag tag →
      ∀ depth, formatElementImpl utcTime (redact ⟨tag, type, value⟩) depth =
        formatElementImpl utcTime ⟨tag, type, value⟩ depth := by
    intro tag type value ht depth
    rw [redact_of_sensitive ht, formatElementImpl, formatElementImpl, if_pos ht, if_pos ht,
      redactedValueSummary_blank]
    rfl
  induction e using Element.induction with
  | hs tag type items ih =>
    by_cases ht : isSensitiveTag tag
    · exact hsensitive ht
    · intro depth
      rw [redact_struct ht, formatElementImpl, formatElementImpl, formatNode, formatNode, redactItems_eq_nil,
        formatItems_redactItems utcTime ih]
      rfl
  | hl tag type value hv =>
    by_cases ht : isSensitiveTag tag
    · exact hsensitive ht
    · intro depth
      rw [redact, if_neg ht]
      cases value with
      | struct items => exact absurd rfl (hv items)
      | _ => rfl

/-- Trees with the same redaction have the same text. -/
theorem formatElement_congr {e e' : Element} (h : redact e = redact e') :
    formatElement utcTime e = formatElement utcTime e' := by
  rw [formatElement, formatElement, ← formatElementImpl_redact utcTime e, h, formatElementImpl_redact]

/-! ## A well-formed tree has a text -/

theorem redactedValueSummary_returns {e : Element} (h : NodeOk e) : ∃ text, redactedValueSummary e = .ok text := by
  obtain ⟨tag, type, value⟩ := e
  obtain rfl : type = value.typeCode := h.2
  cases value <;> exact ⟨_, rfl⟩

theorem formatValue_returns {e : Element} (h : NodeOk e) : ∃ text, formatValue utcTime e = .ok text := by
  obtain ⟨tag, type, value⟩ := e
  obtain rfl : type = value.typeCode := h.2
  cases value <;> exact ⟨_, rfl⟩

theorem formatNode_leaf {value : Value Element} (hv : ∀ items, value ≠ .struct items) (tag : Tag) (type : TypeCode)
    (depth : Nat) : formatNode utcTime tag type value depth =
      (do .ok (lineHead tag type depth ++ " = " ++ (← formatValue utcTime ⟨tag, type, value⟩) ++ "\n")) := by
  cases value with
  | struct items => exact absurd rfl (hv items)
  | _ => rfl

theorem formatItems_returns {items : List Element}
    (h : ∀ c ∈ items, ∀ depth, ∃ text, formatElementImpl utcTime c depth = .ok text) (depth : Nat) :
    ∃ text, formatItems utcTime items depth = .ok text := by
  induction items with
  | nil => exact ⟨_, rfl⟩
  | cons c items ih =>
    rw [List.forall_mem_cons] at h
    obtain ⟨text, ht⟩ := h.1 depth
    obtain ⟨rest, hr⟩ := ih h.2
    exact ⟨text ++ rest, by rw [formatItems, ht, hr]; rfl⟩

theorem formatElementImpl_returns (e : Element) (hw : WellFormed e) :
    ∀ depth, ∃ text, formatElementImpl utcTime e depth = .ok text := by
  induction e using Element.induction with
  | hs tag type items ih =>
    intro depth
    obtain ⟨hn, hc⟩ := forall_structure.1 hw
    rw [formatElementImpl]
    split_ifs
    · exact ⟨_, rfl⟩
    · obtain ⟨text, ht⟩ := redactedValueSummary_returns hn
      exact ⟨_, by rw [ht]; rfl⟩
    · obtain ⟨text, ht⟩ := formatItems_returns utcTime (fun c h => ih c h (hc c h)) (depth + 1)
      exact ⟨_, by rw [formatNode, ht]; rfl⟩
  | hl tag type value hv =>
    intro depth
    have hn := Forall.root hw
    rw [formatElementImpl]
    split_ifs
    · exact ⟨_, rfl⟩
    · obtain ⟨text, ht⟩ := redactedValueSummary_returns hn
      exact ⟨_, by rw [ht]; rfl⟩
    · obtain ⟨text, ht⟩ := formatValue_returns utcTime hn
      exact ⟨_, by rw [formatNode_leaf utcTime hv, ht]; rfl⟩

theorem formatElement_returns {e : Element} (hw : WellFormed e) : ∃ text, formatElement utcTime e = .ok text :=
  formatElementImpl_returns utcTime e hw 0

end Format

/-! ## Trees that the formatter and the codec cannot tell apart -/

/-- Same redaction, same height and same result of the check of types. -/
structure Indistinct (e e' : Element) : Prop where
  redact_eq : redact e = redact e'
  height_eq : e.height = e'.height
  validate_eq : ∀ version, validateElementTypesForVersion version e = validateElementTypesForVersion version e'

namespace Indistinct

theorem refl (e : Element) : Indistinct e e := ⟨rfl, rfl, fun _ => rfl⟩

theorem refl_items (items : List Element) : List.Forall₂ Indistinct items items :=
  List.forall₂_same.2 fun e _ => refl e

section Items

variable {items items' : List Element} (h : List.Forall₂ Indistinct items items')

include h

theorem redactItems_eq : redactItems items = redactItems items' := by
  induction h with
  | nil => rfl
  | cons h _ ih => rw [redactItems, redactItems, h.redact_eq, ih]

theorem itemsHeight_eq : itemsHeight items = itemsHeight items' := by
  induction h with
  | nil => rfl
  | cons h _ ih => rw [itemsHeight, itemsHeight, h.height_eq, ih]

theorem validateItems_eq (version : ProtocolVersion) : validateItems version items = validateItems version items' := by
  induction h with
  | nil => rfl
  | cons h _ ih => rw [validateItems, validateItems, h.validate_eq, ih]

/-- Structures with such children, whatever the tag. -/
theorem of_items (t : Tag) : Indistinct (createStructure t items) (createStructure t items') := by
  simp only [createStructure]
  refine ⟨?_, ?_, fun version => ?_⟩
  · by_cases ht : isSensitiveTag t
    · rw [redact_of_sensitive ht, redact_of_sensitive ht, blank, blank]
    · rw [redact_struct ht, redact_struct ht, redactItems_eq h]
  · rw [height, height, valueHeight, valueHeight, itemsHeight_eq h]
  · rw [validateElementTypesForVersion, validateElementTypesForVersion, validateValue, validateValue,
      validateItems_eq h]

end Items

theorem append_items {l l' r r' : List Element} (hl : List.Forall₂ Indistinct l l')
    (hr : List.Forall₂ Indistinct r r') : List.Forall₂ Indistinct (l ++ r) (l' ++ r') := List.rel_append hl hr

/-- A Key Value tells the length of its bytes only to the codec. -/
theorem makeKeyValue (value value' : Bytes) : Indistinct (makeKeyValue value) (makeKeyValue value') :=
  ⟨rfl, rfl, fun _ => rfl⟩

theorem makeKeyBlock (format : Int32) (value value' : Bytes) (algorithm length : Option Int32) :
    Indistinct (makeKeyBlock format value algorithm length) (makeKeyBlock format value' algorithm length) := by
  refine of_items (append_items (append_items ?_ (refl_items _)) (refl_items _)) _
  exact .cons (refl _) (.cons (makeKeyValue value value') .nil)

section Credentials

variable {userName password : Option Bytes} (h : userName.isSome || password.isSome)

include h

/-- Credentials are one level below their structure. -/
theorem height_credentialValue :
    (createStructure Tag.credentialValue (optionalChild (createTextString Tag.username) userName ++
      optionalChild (createTextString Tag.password) password)).height = 1 := by
  cases userName with
  | some userName => cases password <;> rfl
  | none =>
    cases password with
    | some password => rfl
    | none => cases h

theorem authentication {userName' password' : Option Bytes} (h' : userName'.isSome || password'.isSome) :
    List.Forall₂ Indistinct (RequestHeader.authentication userName password)
      (RequestHeader.authentication userName' password') := by
  rw [RequestHeader.authentication, if_pos h, RequestHeader.authentication, if_pos h']
  refine .cons (of_items (.cons (of_items (.cons (refl _) (.cons ?_ .nil)) _) .nil) _) .nil
  refine ⟨rfl, (height_credentialValue h).trans (height_credentialValue h').symm, fun version => ?_⟩
  cases userName <;> cases password <;> cases userName' <;> cases password' <;> rfl

end Credentials

end Indistinct

/-! ## Requests that differ in secrets only -/

/-- The same header, or two headers with credentials that differ in the user name and the password only. -/
def SameButCredentials (h h' : RequestHeader) : Prop :=
  h = h' ∨ (h.userName.isSome || h.password.isSome) ∧ (h'.userName.isSome || h'.password.isSome) ∧
    h' = { h with userName := h'.userName, password := h'.password }

/-- The same batch item, or two Register requests that are built from values of the same length. -/
inductive SameButValue : RequestBatchItem → RequestBatchItem → Prop
  | same (item : RequestBatchItem) : SameButValue item item
  | key {name group value : Bytes} {key : Key} {version : ProtocolVersion} {item item' : RequestBatchItem} (id : UInt32)
      (hsize : key.value.size = value.size) (h : RegisterKeyRequest name group key version = .ok item)
      (h' : RegisterKeyRequest name group { key with value := value } version = .ok item') :
      SameButValue { item with uniqueBatchItemId := id } { item' with uniqueBatchItemId := id }
  | symmetricKey {name group value value' : Bytes} {version : ProtocolVersion} (id : UInt32)
      (hsize : value.size = value'.size) :
      SameButValue { RegisterSymmetricKeyRequest name group value version with uniqueBatchItemId := id }
        { RegisterSymmetricKeyRequest name group value' version with uniqueBatchItemId := id }
  | secret {name group secret secret' : Bytes} {secretType : SecretDataType} {version : ProtocolVersion} (id : UInt32)
      (hsize : secret.size = secret'.size) :
      SameButValue { RegisterSecretRequest name group secret secretType version with uniqueBatchItemId := id }
        { RegisterSecretRequest name group secret' secretType version with uniqueBatchItemId := id }

structure SameButSecrets (m m' : RequestMessage) : Prop where
  header : SameButCredentials m.header m'.header
  batchItems : List.Forall₂ SameButValue m.batchItems m'.batchItems

theorem SameButCredentials.indistinct {h h' : RequestHeader} (hs : SameButCredentials h h') :
    Indistinct h.toElement h'.toElement := by
  rcases hs with rfl | ⟨hc, hc', he⟩
  · exact .refl _
  · rw [he]
    refine .of_items (Indistinct.append_items (Indistinct.append_items (Indistinct.refl_items _) ?_)
      (Indistinct.refl_items _)) _
    exact Indistinct.authentication hc hc'

/-- Only the length of the value counts for algorithm and length. -/
theorem algorithmAndLength_congr {key : Key} {value : Bytes} {version : ProtocolVersion}
    (h : key.value.size = value.size) :
    algorithmAndLength { key with value := value } version = algorithmAndLength key version := by
  have hl : keyLength { key with value := value } = keyLength key := by
    rw [keyLength, keyLength, h]
  rw [algorithmAndLength, algorithmAndLength, hl]

theorem keyAttributes_congr {name group value : Bytes} {key : Key} {version : ProtocolVersion}
    (h : key.value.size = value.size) :
    keyAttributes name group { key with value := value } version = keyAttributes name group key version := by
  rw [keyAttributes, keyAttributes, makeV2RegisterKeyAttrs, makeV2RegisterKeyAttrs, registerKeyAttributes,
    registerKeyAttributes, algorithmAndLength_congr h]
  rfl

/-- Register requests whose objects cannot be told apart. -/
theorem Indistinct.registerRequest {objectType : Int32} {attributes object object' : Element} (id : UInt32)
    (h : Indistinct object object') :
    Indistinct { registerRequest objectType attributes object with uniqueBatchItemId := id }.toElement
      { registerRequest objectType attributes object' with uniqueBatchItemId := id }.toElement := by
  refine .of_items (Indistinct.append_items (Indistinct.refl_items _) ?_) _
  exact .cons (.of_items (.cons (.refl _) (.cons (.refl _) (.cons h .nil))) _) .nil

theorem SameButValue.indistinct {item item' : RequestBatchItem} (h : SameButValue item item') :
    Indistinct item.toElement item'.toElement := by
  cases h with
  | same => exact .refl _
  | @key name group value key version item item' id hsize h h' =>
    obtain ⟨kind, hkind, rfl⟩ := RegisterKeyRequest_eq_ok h
    obtain ⟨kind', hkind', rfl⟩ := RegisterKeyRequest_eq_ok h'
    cases Option.mem_unique hkind hkind'
    rw [keyAttributes_congr hsize]
    apply Indistinct.registerRequest
    refine .of_items (.cons ?_ .nil) _
    rw [keyBlockOf, keyBlockOf, algorithmAndLength_congr hsize]
    exact Indistinct.makeKeyBlock _ _ _ _ _
  | @symmetricKey name group value value' version id hsize =>
    have hbits : bitsOf value = bitsOf value' := by rw [bitsOf, bitsOf, hsize]
    simp only [RegisterSymmetricKeyRequest, makeSymmetricKey, hbits]
    apply Indistinct.registerRequest
    exact .of_items (.cons (Indistinct.makeKeyBlock _ _ _ _ _) .nil) _
  | @secret name group secret secret' secretType version id hsize =>
    apply Indistinct.registerRequest
    exact .of_items (.cons (.refl _) (.cons (Indistinct.makeKeyBlock _ _ _ _ _) .nil)) _

/-- The tree of a message before the check of types. -/
def RequestMessage.tree (m : RequestMessage) : Element :=
  createStructure Tag.requestMessage (m.header.toElement :: m.batchItems.map (·.toElement))

theorem RequestMessage.toElement_def (m : RequestMessage) :
    m.toElement = (validateElementTypesForVersion m.header.protocolVersion m.tree >>= fun _ => .ok m.tree) := rfl

namespace SameButSecrets

variable {m m' : RequestMessage} (h : SameButSecrets m m')

include h

theorem tree : Indistinct m.tree m'.tree := by
  refine .of_items (.cons h.header.indistinct ?_) _
  rw [List.forall₂_map_left_iff, List.forall₂_map_right_iff]
  exact h.batchItems.imp fun _ _ => SameButValue.indistinct

theorem protocolVersion_eq : m.header.protocolVersion = m'.header.protocolVersion := by
  rcases h.header with he | ⟨-, -, he⟩
  · rw [he]
  · rw [he]

/-- `serialize` treats the two headers alike. -/
theorem normalized (now : Int64) :
    SameButSecrets { m with header := m.normalizedHeader now } { m' with header := m'.normalizedHeader now } := by
  refine ⟨?_, h.batchItems⟩
  have hlen : m.batchItems.length = m'.batchItems.length := h.batchItems.length_eq
  rcases h.header with he | ⟨hc, hc', he⟩
  · refine .inl ?_
    simp only [RequestMessage.normalizedHeader, he, hlen]
  · refine .inr ⟨hc, hc', ?_⟩
    simp only [RequestMessage.normalizedHeader, hlen]
    rw [he]

end SameButSecrets

/-! ## Encodings -/

section Encodings

variable (utcTime : Int64 → String)

/-- What the formatter makes of the bytes of a tree. -/
theorem tryFormatTtlv_serialize {e : Element} {cap : Nat} {b : SerializationBuffer} {data : Bytes} (hw : WellFormed e)
    (h : e.serialize (.new cap) = .ok b) (hd : data.bytes = b.span) :
    tryFormatTtlv utcTime data =
      if e.height ≤ kmipMaxStructureDepth then formatElement utcTime e
      else .error (.message "TTLV structure nesting depth exceeds limit") := by
  obtain ⟨hspan, henc⟩ := serialize_encode hw h
  have hdata : data.bytes = encode e := hd.trans hspan
  have hne : ¬ data.bytes.isEmpty := by
    have := le_length_encode e
    rw [hdata, List.isEmpty_iff]
    intro h0
    rw [h0] at this
    exact absurd this (by decide)
  rw [tryFormatTtlv, if_neg hne]
  split
  · rename_i hh
    rw [deserialize_of_carried ⟨hw, hh⟩ h hd, Except.ok_bind]
    show (formatElement utcTime e >>= fun formatted => if data.size ≠ data.size then _ else .ok formatted) = _
    obtain ⟨text, ht⟩ := formatElement_returns utcTime hw
    rw [ht, Except.ok_bind, if_neg (not_not.2 rfl)]
  · rename_i hh
    have hdeep := @deserializeImpl_too_deep (kmipMaxStructureDepth + 1) data 0 e henc (Nat.lt_of_not_le hh)
      ⟨[], [], by simp [hdata], rfl⟩
    rw [show (deserialize data 0).result = _ from hdeep, Except.error_bind]

variable (categoryMessage : Int → String)

/-- Bytes of well-formed trees of the same redaction and height have the same text. -/
theorem formatTtlv_congr {e e' : Element} {cap cap' : Nat} {b b' : SerializationBuffer} {data data' : Bytes}
    (hredact : redact e = redact e') (hheight : e.height = e'.height) (hw : WellFormed e) (hw' : WellFormed e')
    (h : e.serialize (.new cap) = .ok b) (h' : e'.serialize (.new cap') = .ok b') (hd : data.bytes = b.span)
    (hd' : data'.bytes = b'.span) :
    ∃ text, formatTtlv utcTime categoryMessage data = .ok text ∧
      formatTtlv utcTime categoryMessage data' = .ok text := by
  have htry := tryFormatTtlv_serialize utcTime hw h hd
  have htry' := tryFormatTtlv_serialize utcTime hw' h' hd'
  rw [← hheight, ← formatElement_congr utcTime hredact] at htry'
  obtain ⟨text, ht⟩ := formatElement_returns utcTime hw
  rw [Formatter.formatTtlv, Formatter.formatTtlv, htry, htry', ht]
  split_ifs <;> exact ⟨_, rfl, rfl⟩

end Encodings

/-! ## Requests -/

theorem SameButValue.wellFormed {item item' : RequestBatchItem} (h : SameButValue item item')
    (hp : ∀ p ∈ item.requestPayload, WellFormed p) : ∀ p ∈ item'.requestPayload, WellFormed p := by
  cases h with
  | same => exact hp
  | key id hsize h h' => exact fun p hm => (payloadOk_RegisterKeyRequest h' p hm).wellFormed
  | symmetricKey id hsize => exact fun p hm => (payloadOk_RegisterSymmetricKeyRequest _ _ _ _ p hm).wellFormed
  | secret id hsize => exact fun p hm => (payloadOk_RegisterSecretRequest _ _ _ _ _ p hm).wellFormed

theorem RequestBatchItem.wellFormed_toElement {item : RequestBatchItem}
    (hp : ∀ p ∈ item.requestPayload, WellFormed p) : WellFormed item.toElement := by
  refine forall_structure.2 ⟨⟨(by decide : Tag.batchItem.toNat < 2 ^ 24), rfl⟩, ?_⟩
  simp only [List.forall_mem_append, List.forall_mem_singleton, forall_mem_optionalChild]
  refine ⟨⟨?_, fun c hc => ?_⟩, hp⟩
  · exact (@carried_createEnumeration Tag.operation 0 (by decide) item.operation).wellFormed
  · exact (@carried_batchItemIdElement 0 item.uniqueBatchItemId c hc).wellFormed

theorem RequestMessage.wellFormed_tree {m : RequestMessage}
    (hp : ∀ item ∈ m.batchItems, ∀ p ∈ item.requestPayload, WellFormed p) : WellFormed m.tree := by
  refine forall_structure.2 ⟨⟨(by decide : Tag.requestMessage.toNat < 2 ^ 24), rfl⟩, ?_⟩
  rw [List.forall_mem_cons]
  refine ⟨m.header.carried_toElement.wellFormed, fun c hc => ?_⟩
  obtain ⟨item, hi, rfl⟩ := List.mem_map.1 hc
  exact item.wellFormed_toElement (hp item hi)

/-- The tree that `serialize` has written. -/
theorem RequestMessage.serialize_tree {m : RequestMessage} {now : Int64} {bytes : List UInt8}
    (h : m.serialize now = .ok bytes) :
    ∃ b, { m with header := m.normalizedHeader now }.tree.serialize (.new SerializationBuffer.defaultCapacity) = .ok b ∧
      bytes = b.span := by
  obtain ⟨e, b, he, hb, hbytes⟩ := serialize_eq_ok h
  rw [toElement_eq he] at hb
  exact ⟨b, hb, hbytes⟩

namespace SameButSecrets

variable {m m' : RequestMessage} (h : SameButSecrets m m')

include h

theorem wellFormed (hp : ∀ item ∈ m.batchItems, ∀ p ∈ item.requestPayload, WellFormed p) :
    ∀ item ∈ m'.batchItems, ∀ p ∈ item.requestPayload, WellFormed p := by
  have hitems := h.batchItems
  revert hp
  generalize m.batchItems = items, m'.batchItems = items' at hitems
  induction hitems with
  | nil => exact id
  | cons h _ ih =>
    simp only [List.forall_mem_cons]
    exact fun hp => ⟨h.wellFormed hp.1, ih hp.2⟩

theorem formatRequest_eq (utcTime : Int64 → String) : formatRequest utcTime m = formatRequest utcTime m' := by
  rw [formatRequest, formatRequest, m.toElement_def, m'.toElement_def, ← h.protocolVersion_eq, ← h.tree.validate_eq]
  cases validateElementTypesForVersion m.header.protocolVersion m.tree with
  | error a => rfl
  | ok _ => exact formatElement_congr utcTime h.tree.redact_eq

/-- The bytes that are sent for the two requests have the same text. -/
theorem formatTtlv (utcTime : Int64 → String) (categoryMessage : Int → String)
    (hp : ∀ item ∈ m.batchItems, ∀ p ∈ item.requestPayload, WellFormed p) {now : Int64} {data data' : Bytes}
    (hs : m.serialize now = .ok data.bytes) (hs' : m'.serialize now = .ok data'.bytes) :
    ∃ text, Formatter.formatTtlv utcTime categoryMessage data = .ok text ∧
      Formatter.formatTtlv utcTime categoryMessage data' = .ok text := by
  obtain ⟨b, hb, hd⟩ := RequestMessage.serialize_tree hs
  obtain ⟨b', hb', hd'⟩ := RequestMessage.serialize_tree hs'
  have htree := (h.normalized now).tree
  exact formatTtlv_congr utcTime categoryMessage htree.redact_eq htree.height_eq (RequestMessage.wellFormed_tree hp)
    (RequestMessage.wellFormed_tree (h.wellFormed hp)) hb hb' hd hd'

end SameButSecrets

/-- **What must not be logged is not in the text.** Two well-formed trees that are equal except for the content of
structures with a sensitive tag and for values with a sensitive tag, of the same length, have the same text. So have two
requests that are equal except for the bytes of registered values or for the credentials they carry, and the bytes that
are sent for them at the same time. -/
theorem format_noninterference (utcTime : Int64 → String) (categoryMessage : Int → String) :
    (∀ e e', WellFormed e → WellFormed e' → redact e = redact e' →
      ∃ text, formatElement utcTime e = .ok text ∧ formatElement utcTime e' = .ok text) ∧
    ∀ m m', SameButSecrets m m' →
      formatRequest utcTime m = formatRequest utcTime m' ∧
      ((∀ item ∈ m.batchItems, ∀ p ∈ item.requestPayload, WellFormed p) →
        ∀ now (data data' : Bytes), m.serialize now = .ok data.bytes → m'.serialize now = .ok data'.bytes →
          ∃ text, formatTtlv utcTime categoryMessage data = .ok text ∧
            formatTtlv utcTime categoryMessage data' = .ok text) := by
  constructor
  · intro e e' hw _ h
    obtain ⟨text, ht⟩ := formatElement_returns utcTime hw
    exact ⟨text, ht, (formatElement_congr utcTime h).symm.trans ht⟩
  · intro m m' h
    exact ⟨h.formatRequest_eq utcTime, fun hp now data data' => h.formatTtlv utcTime categoryMessage hp⟩

/-- A request with a user name and perhaps a password. -/
def namedRequest (userName : Bytes) (password : Option Bytes) : RequestMessage where
  header := { userName := some userName, password := password }
  batchItems := [⟨1, kmipOpGet, some (createStructure Tag.requestPayload [])⟩]

theorem wellFormed_namedRequest (userName : Bytes) (password : Option Bytes) :
    ∀ item ∈ (namedRequest userName password).batchItems, ∀ p ∈ item.requestPayload, WellFormed p := by
  refine List.forall_mem_singleton.2 fun p hp => ?_
  cases hp
  decide

theorem sameButSecrets_namedRequest (userName userName' : Bytes) (password password' : Option Bytes) :
    SameButSecrets (namedRequest userName password) (namedRequest userName' password') :=
  ⟨.inr ⟨rfl, rfl, rfl⟩, .cons (.same _) .nil⟩

theorem serialize_namedRequest {userName : Bytes} {password : Option Bytes}
    (h : (encode { namedRequest userName password with
      header := (namedRequest userName password).normalizedHeader 0 }.tree).length ≤ 800) :
    ∃ data : Bytes, (namedRequest userName password).serialize 0 = .ok data.bytes := by
  have hw := @RequestMessage.wellFormed_tree { namedRequest userName password with
    header := (namedRequest userName password).normalizedHeader 0 } (wellFormed_namedRequest userName password)
  refine RequestMessage.exists_serialize rfl ?_ hw (h.trans (by decide))
  cases password <;> rfl

theorem format_noninterference_credentials :
    ∃ data data' : Bytes, (namedRequest ⟨[117], by decide⟩ none).serialize 0 = .ok data.bytes ∧
      (namedRequest Bytes.empty (some ⟨[112, 119], by decide⟩)).serialize 0 = .ok data'.bytes ∧
      ∃ text, formatTtlv (fun _ => "") (fun _ => "") data = .ok text ∧
        formatTtlv (fun _ => "") (fun _ => "") data' = .ok text := by
  obtain ⟨data, hd⟩ := @serialize_namedRequest ⟨[117], by decide⟩ none (by decide +kernel)
  obtain ⟨data', hd'⟩ := @serialize_namedRequest Bytes.empty (some ⟨[112, 119], by decide⟩) (by decide +kernel)
  obtain ⟨-, h⟩ := (format_noninterference (fun _ => "") (fun _ => "")).2 _ _
    (sameButSecrets_namedRequest _ _ _ _)
  exact ⟨data, data', hd, hd', h (wellFormed_namedRequest _ _) 0 data data' hd hd'⟩

end Kmip
