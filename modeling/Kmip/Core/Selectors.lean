import Kmip.Lib.Raises
import Kmip.Core.AttributeEncodings
import Kmip.Core.TypedResponses

/-!
# Selectors of Get Attributes

The names of a request are made different from each other and then encoded, as texts or as Attribute References. A
reference is read back by `GetAttributeListResponseBatchItem` as the name it stands for, and `UniqueID` as
`Unique Identifier`. These two names are the only ones with the same reference (`referenceName_eq_iff`), so a list that
holds both asks for the attribute twice (`getAttributesRequest_exact_iff`).
-/

namespace Kmip

open Element Requests GetAttributeListResponseBatchItem

/-- The selectors are Attribute References. -/
def UsesReferences (version : ProtocolVersion) (legacyAttributeNamesForV2 : Bool) : Prop :=
  useAttributesContainer version ∧ !legacyAttributeNamesForV2

instance (version : ProtocolVersion) (legacy : Bool) : Decidable (UsesReferences version legacy) :=
  inferInstanceAs (Decidable (_ ∧ _))

/-- The name for which a reference stands. -/
def referenceName (name : Bytes) : Bytes :=
  if name = kmipAttrNameUniqueIdentifierAlt then kmipAttrNameUniqueIdentifier else name

/-- The name for which a selector stands. -/
def selectorName (version : ProtocolVersion) (legacy : Bool) (name : Bytes) : Bytes :=
  if UsesReferences version legacy then referenceName name else name

/-- The selectors in the payload of a request. -/
def payloadSelectors (payload : Element) : List Element :=
  payload.getChildren Tag.attributeName ++ payload.getChildren Tag.attributeReference

/-- The payload selects the names, each of them once and in the order of their first occurrences. -/
structure ExactSelectors (payload : Element) (names : List Bytes) : Prop where
  decoded : payloadNames payload = .ok ([].appendNew names)
  nodup : (payloadSelectors payload).Nodup
  none_of_nil : names = [] → payloadSelectors payload = []

/-! ## References -/

theorem ne_uniqueIdentifierAlt :
    ∀ n ∈ [kmipAttrNameName, kmipAttrNameGroup, kmipAttrNameState, kmipAttrNameUniqueIdentifier,
        kmipAttrNameActivationDate, kmipAttrNameDeactivationDate, kmipAttrNameProcessStartDate,
        kmipAttrNameProtectStopDate, kmipAttrNameCryptoAlg, kmipAttrNameCryptoLen, kmipAttrNameCryptoUsageMask,
        kmipAttrNameOperationPolicyName],
      n ≠ kmipAttrNameUniqueIdentifierAlt := by
  decide +kernel

theorem referenceName_of_ne {n : Bytes} (h : n ≠ kmipAttrNameUniqueIdentifierAlt) : referenceName n = n := if_neg h

/-- The two tables are inverse to each other, up to `UniqueID`. -/
theorem attributeNameFromTagCode_of_tag {n : Bytes} {t : Tag} (h : standardAttributeNameToTag n = some t) :
    attributeNameFromTagCode t.toInt32 = some (referenceName n) := by
  rcases AttributesParser.standardAttributeNameToTag_cases h with ⟨rfl, rfl⟩ | ⟨rfl, rfl⟩ | ⟨hn, rfl⟩ | hd |
    ⟨rfl, rfl⟩ | ⟨rfl, rfl⟩ | ⟨rfl, rfl⟩ | ⟨rfl, rfl⟩ | ⟨rfl, rfl⟩
  case inr.inr.inl =>
    rcases hn with rfl | rfl
    · rw [referenceName_of_ne (ne_uniqueIdentifierAlt _ (by simp))]
      rfl
    · rw [referenceName, if_pos rfl]
      rfl
  case inr.inr.inr.inl =>
    simp only [AttributesParser.dateAttributes, List.mem_cons, Prod.mk.injEq, List.not_mem_nil, or_false] at hd
    rcases hd with ⟨rfl, rfl⟩ | ⟨rfl, rfl⟩ | ⟨rfl, rfl⟩ | ⟨rfl, rfl⟩
    all_goals
      rw [referenceName_of_ne (ne_uniqueIdentifierAlt _ (by simp))]
      rfl
  all_goals
    rw [referenceName_of_ne (ne_uniqueIdentifierAlt _ (by simp))]
    rfl

/-- A reference is read as the name for which it stands. -/
theorem collect_makeV2AttributeReference (n : Bytes) :
    collectAttributeListEntriesFromReference (makeV2AttributeReference n) = .ok [referenceName n] := by
  rw [makeV2AttributeReference]
  cases ht : standardAttributeNameToTag n with
  | some t =>
    show Except.ok (attributeNameFromTagCode t.toInt32).toList = _
    rw [attributeNameFromTagCode_of_tag ht]
    rfl
  | none =>
    have hne : n ≠ kmipAttrNameUniqueIdentifierAlt := by
      rintro rfl
      revert ht
      decide +kernel
    rw [referenceName_of_ne hne]
    rfl

/-- Two names with one reference. -/
theorem referenceName_eq_iff {a b : Bytes} : referenceName a = referenceName b ↔ a = b ∨
    (a = kmipAttrNameUniqueIdentifier ∧ b = kmipAttrNameUniqueIdentifierAlt) ∨
      (a = kmipAttrNameUniqueIdentifierAlt ∧ b = kmipAttrNameUniqueIdentifier) := by
  have hne : kmipAttrNameUniqueIdentifier ≠ kmipAttrNameUniqueIdentifierAlt := ne_uniqueIdentifierAlt _ (by simp)
  unfold referenceName
  split <;> split <;> grind

/-! ## Payloads -/

/-- The payload of a request with these selectors. -/
def selectorPayload (uniqueId : Bytes) (version : ProtocolVersion) (legacy : Bool) (names : List Bytes) : Element :=
  createStructure Tag.requestPayload
    ([createTextString Tag.uniqueIdentifier uniqueId] ++ attributeSelectors version legacy names)

theorem getChildren_selectorPayload {version : ProtocolVersion} {legacy : Bool} {names : List Bytes}
    {f : Bytes → Element} (h : attributeSelectors version legacy names = names.map f) (s : Tag)
    (hf : ∀ n, (f n).tag = s) {t : Tag} (ht : t ≠ Tag.uniqueIdentifier) (uniqueId : Bytes) :
    (selectorPayload uniqueId version legacy names).getChildren t = if s = t then names.map f else [] := by
  show List.filter (fun item => item.tag == t)
    (createTextString Tag.uniqueIdentifier uniqueId :: attributeSelectors version legacy names) = _
  have hid : (Tag.uniqueIdentifier == t) = false := beq_false_of_ne ht.symm
  rw [h, List.filter_cons, show ((createTextString Tag.uniqueIdentifier uniqueId).tag == t) = false from hid,
    if_neg Bool.false_ne_true]
  split
  case isTrue hst =>
    rw [List.filter_eq_self]
    intro e he
    obtain ⟨n, -, rfl⟩ := List.mem_map.1 he
    simp [hf, hst]
  case isFalse hst =>
    rw [List.filter_eq_nil_iff]
    intro e he
    obtain ⟨n, -, rfl⟩ := List.mem_map.1 he
    simp [hf, hst]

section Payload

variable {version : ProtocolVersion} {legacy : Bool} (uniqueId : Bytes) (names : List Bytes)

theorem children_of_references (h : UsesReferences version legacy) :
    (selectorPayload uniqueId version legacy names).getChildren Tag.attributeName = [] ∧
      (selectorPayload uniqueId version legacy names).getChildren Tag.attributeReference =
        names.map makeV2AttributeReference := by
  have hs : attributeSelectors version legacy names = names.map makeV2AttributeReference := if_pos h
  have hchildren := @getChildren_selectorPayload _ _ _ _ hs Tag.attributeReference fun _ => rfl
  exact ⟨hchildren (by decide) uniqueId, hchildren (by decide) uniqueId⟩

theorem children_of_texts (h : ¬UsesReferences version legacy) :
    (selectorPayload uniqueId version legacy names).getChildren Tag.attributeName =
        names.map (createTextString Tag.attributeName) ∧
      (selectorPayload uniqueId version legacy names).getChildren Tag.attributeReference = [] := by
  have hs : attributeSelectors version legacy names = names.map (createTextString Tag.attributeName) := if_neg h
  have hchildren := @getChildren_selectorPayload _ _ _ _ hs Tag.attributeName fun _ => rfl
  exact ⟨hchildren (by decide) uniqueId, hchildren (by decide) uniqueId⟩

theorem payloadSelectors_selectorPayload :
    payloadSelectors (selectorPayload uniqueId version legacy names) = attributeSelectors version legacy names := by
  by_cases h : UsesReferences version legacy
  · obtain ⟨htexts, hrefs⟩ := children_of_references uniqueId names h
    rw [payloadSelectors, htexts, hrefs]
    exact (if_pos h).symm
  · obtain ⟨htexts, hrefs⟩ := children_of_texts uniqueId names h
    rw [payloadSelectors, htexts, hrefs, List.append_nil]
    exact (if_neg h).symm

/-- The names that the selectors are read as. -/
theorem payloadNames_selectorPayload : payloadNames (selectorPayload uniqueId version legacy names) =
    .ok (names.map (selectorName version legacy)) := by
  by_cases h : UsesReferences version legacy
  · have hname : selectorName version legacy = referenceName := funext fun n => if_pos h
    obtain ⟨htexts, hrefs⟩ := children_of_references uniqueId names h
    rw [payloadNames, htexts, hrefs, Except.mapM_map_eq_ok collect_makeV2AttributeReference, hname]
    show Except.ok (names.map (fun n => [referenceName n])).flatten = _
    rw [← List.flatMap_def, ← List.map_eq_flatMap]
  · have hname : selectorName version legacy = id := funext fun n => if_neg h
    have htext : ∀ n, (createTextString Tag.attributeName n).toString = .ok (id n) := fun n => rfl
    obtain ⟨htexts, hrefs⟩ := children_of_texts uniqueId names h
    rw [payloadNames, htexts, hrefs, Except.mapM_map_eq_ok htext, hname]
    cases names <;> rfl

/-- The selectors are different from each other if the names are and no two of them have one reference. -/
theorem nodup_attributeSelectors (hnames : names.Nodup)
    (hinj : ∀ a ∈ names, ∀ b ∈ names, selectorName version legacy a = selectorName version legacy b → a = b) :
    (attributeSelectors version legacy names).Nodup := by
  by_cases h : UsesReferences version legacy
  · rw [show attributeSelectors version legacy names = _ from if_pos h]
    refine hnames.map_on fun a ha b hb hab => hinj a ha b hb ?_
    have hread := congrArg collectAttributeListEntriesFromReference hab
    rw [collect_makeV2AttributeReference, collect_makeV2AttributeReference] at hread
    simp only [Except.ok.injEq, List.cons.injEq, and_true] at hread
    rw [selectorName, selectorName, if_pos h, if_pos h, hread]
  · rw [show attributeSelectors version legacy names = _ from if_neg h]
    refine hnames.map fun a b hab => ?_
    simpa [createTextString] using hab

end Payload

/-! ## Requests -/

/-- One reference for two names. -/
theorem makeV2AttributeReference_uniqueIdentifier :
    makeV2AttributeReference kmipAttrNameUniqueIdentifier =
      makeV2AttributeReference kmipAttrNameUniqueIdentifierAlt := by
  have h : standardAttributeNameToTag kmipAttrNameUniqueIdentifier = some Tag.uniqueIdentifier ∧
      standardAttributeNameToTag kmipAttrNameUniqueIdentifierAlt = some Tag.uniqueIdentifier := by
    decide +kernel
  rw [makeV2AttributeReference, makeV2AttributeReference, h.1, h.2]

/-- **Selectors.** A Get Attributes request selects the given names, each of them once, if and only if it does not use
references or does not name both `Unique Identifier` and `UniqueID`. -/
theorem getAttributesRequest_exact_iff (uniqueId : Bytes) (names : List Bytes) (version : ProtocolVersion)
    (legacy : Bool) :
    (∃ payload, (GetAttributesRequest uniqueId names version legacy).requestPayload = some payload ∧
        ExactSelectors payload (names.map (selectorName version legacy))) ↔
      ¬(UsesReferences version legacy ∧ kmipAttrNameUniqueIdentifier ∈ names ∧
        kmipAttrNameUniqueIdentifierAlt ∈ names) := by
  have hpayload : (GetAttributesRequest uniqueId names version legacy).requestPayload =
      some (selectorPayload uniqueId version legacy ([].appendNew names)) := rfl
  have hnodup : ([].appendNew names).Nodup := List.nodup_appendNew names List.nodup_nil
  have hmem : ∀ {n}, n ∈ [].appendNew names ↔ n ∈ names := by
    intro n
    rw [List.mem_appendNew]
    simp
  constructor
  · rintro ⟨payload, hp, hexact⟩ ⟨href, hid, halt⟩
    rw [hpayload, Option.some.injEq] at hp
    subst hp
    -- the two references are equal and the names are not
    have hsel : (attributeSelectors version legacy ([].appendNew names)).Nodup := by
      rw [← payloadSelectors_selectorPayload uniqueId]
      exact hexact.nodup
    rw [show attributeSelectors version legacy _ = _ from if_pos href] at hsel
    have heq := List.inj_on_of_nodup_map hsel (hmem.2 hid) (hmem.2 halt) makeV2AttributeReference_uniqueIdentifier
    exact ne_uniqueIdentifierAlt _ (by simp) heq
  · intro hcond
    have hinj : ∀ a ∈ names, ∀ b ∈ names, selectorName version legacy a = selectorName version legacy b → a = b := by
      intro a ha b hb hab
      unfold selectorName at hab
      split at hab
      case isTrue href =>
        rcases referenceName_eq_iff.1 hab with rfl | ⟨rfl, rfl⟩ | ⟨rfl, rfl⟩
        · rfl
        · exact absurd ⟨href, ha, hb⟩ hcond
        · exact absurd ⟨href, hb, ha⟩ hcond
      case isFalse => exact hab
    refine ⟨_, hpayload, ?_, ?_, ?_⟩
    · rw [payloadNames_selectorPayload, List.map_appendNew names [] (by simpa using hinj)]
      rfl
    · rw [payloadSelectors_selectorPayload]
      exact nodup_attributeSelectors _ hnodup fun a ha b hb => hinj a (hmem.1 ha) b (hmem.1 hb)
    · intro hnil
      rw [payloadSelectors_selectorPayload, List.map_eq_nil_iff.1 hnil]
      unfold attributeSelectors
      split <;> rfl

/-- Both names over KMIP 2.0: the same selector twice, and the same name. -/
theorem getAttributesRequest_not_exact :
    let names := [kmipAttrNameUniqueIdentifier, kmipAttrNameUniqueIdentifierAlt]
    ∃ payload, (GetAttributesRequest (.ofText "id") names ⟨2, 0⟩ false).requestPayload = some payload ∧
      payloadNames payload = .ok [kmipAttrNameUniqueIdentifier, kmipAttrNameUniqueIdentifier] ∧
      ¬(payloadSelectors payload).Nodup ∧ ¬ExactSelectors payload (names.map (selectorName ⟨2, 0⟩ false)) := by
  have hnames : [].appendNew [kmipAttrNameUniqueIdentifier, kmipAttrNameUniqueIdentifierAlt] =
      [kmipAttrNameUniqueIdentifier, kmipAttrNameUniqueIdentifierAlt] := by
    decide +kernel
  have hread : [kmipAttrNameUniqueIdentifier, kmipAttrNameUniqueIdentifierAlt].map (selectorName ⟨2, 0⟩ false) =
      [kmipAttrNameUniqueIdentifier, kmipAttrNameUniqueIdentifier] := by
    decide +kernel
  have hsel : ¬(payloadSelectors (selectorPayload (.ofText "id") ⟨2, 0⟩ false
      ([].appendNew [kmipAttrNameUniqueIdentifier, kmipAttrNameUniqueIdentifierAlt]))).Nodup := by
    rw [payloadSelectors_selectorPayload, hnames]
    show ¬[makeV2AttributeReference _, makeV2AttributeReference _].Nodup
    rw [makeV2AttributeReference_uniqueIdentifier]
    simp
  refine ⟨_, rfl, ?_, hsel, fun h => hsel h.nodup⟩
  refine (payloadNames_selectorPayload (.ofText "id") _).trans ?_
  rw [hnames, hread]

end Kmip
