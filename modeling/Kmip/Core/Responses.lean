import Kmip.Core.Protocol

/-!
# Typed responses

`GetResponseBatchItem` and `GetAttributesResponseBatchItem`. The attributes of a Get Attributes response come from one
of three places: Attribute structures under the payload, Attribute structures in its Attributes container, or all the
children of the container. The first place that is not empty hides the others, so a response that mixes the styles loses
attributes (`fromBatchItem_collects_iff`).
-/

namespace Kmip

open Element
open scoped List

/-! ## Common checks -/

def expectOperation (item : ResponseBatchItem) (expectedOperation : Int32) (className : String) : Except Abort Unit :=
  if item.operation ≠ expectedOperation then
    .error (.message (className ++ ": unexpected operation in response batch item"))
  else .ok ()

def requireResponsePayload (item : ResponseBatchItem) (className : String) : Except Abort Element :=
  match item.responsePayload with
  | some payload => .ok payload
  | none => .error (.message (className ++ ": missing response payload"))

/-! ## Get -/

structure GetResponseBatchItem where
  item : ResponseBatchItem
  uniqueIdentifier : Bytes
  objectType : Int32
  objectElement : Element

def getObjectElementForType (payload : Element) (objectType : Int32) : Option Element :=
  if objectType = kmipObjtypeSymmetricKey then payload.getChild Tag.symmetricKey
  else if objectType = kmipObjtypeSecretData then payload.getChild Tag.secretData
  else if objectType = kmipObjtypePrivateKey then payload.getChild Tag.privateKey
  else if objectType = kmipObjtypePublicKey then payload.getChild Tag.publicKey
  else none

def GetResponseBatchItem.fromBatchItem (item : ResponseBatchItem) : Except Abort GetResponseBatchItem := do
  expectOperation item kmipOpGet "GetResponseBatchItem"
  let payload ← requireResponsePayload item "GetResponseBatchItem"
  match payload.getChild Tag.uniqueIdentifier with
  | none => .error (.message "GetResponseBatchItem: missing unique identifier in response payload")
  | some uniqueIdentifier => do
    let uniqueIdentifier ← uniqueIdentifier.toString
    match payload.getChild Tag.objectType with
    | none => .error (.message "GetResponseBatchItem: missing object type in response payload")
    | some objectType => do
      let objectType ← objectType.toEnum
      match getObjectElementForType payload objectType with
      | none => .error (.message "GetResponseBatchItem: missing object payload for object type")
      | some objectElement => .ok ⟨item, uniqueIdentifier, objectType, objectElement⟩

/-! ## Get Attributes -/

structure GetAttributesResponseBatchItem where
  item : ResponseBatchItem
  attributes : List Element

namespace GetAttributesResponseBatchItem

/-- The attributes in an Attributes container: its Attribute structures, or else all its children. -/
def containerAttributes (attributes : Element) : List Element :=
  let wrapped := attributes.getChildren Tag.attributeTag
  match wrapped, attributes.asStructure with
  | [], some items => items
  | _, _ => wrapped

/-- The attributes of a response payload. -/
def payloadAttributes (payload : Element) : List Element :=
  let direct := payload.getChildren Tag.attributeTag
  match direct, payload.getChild Tag.attributes with
  | [], some attributes => containerAttributes attributes
  | _, _ => direct

def fromBatchItem (item : ResponseBatchItem) : Except Abort GetAttributesResponseBatchItem := do
  expectOperation item kmipOpGetAttributes "GetAttributesResponseBatchItem"
  let payload ← requireResponsePayload item "GetAttributesResponseBatchItem"
  .ok ⟨item, payloadAttributes payload⟩

/-! ## What is collected -/

/-- The children of a node. -/
def children (e : Element) : List Element := e.asStructure.getD []

/-- The children of the Attributes container of a payload. -/
def contained (payload : Element) : List Element := ((payload.getChild Tag.attributes).map children).getD []

theorem getChildren_eq (e : Element) (t : Tag) : e.getChildren t = (children e).filter (fun c => c.tag == t) := by
  obtain ⟨tag, type, value⟩ := e
  cases value <;> rfl

/-- The Attribute structures directly under a payload. -/
def direct (payload : Element) : List Element := payload.getChildren Tag.attributeTag

/-- The Attribute structures in the container of a payload. -/
def wrapped (payload : Element) : List Element := (contained payload).filter (fun c => c.tag == Tag.attributeTag)

/-- The first of the three places that is not empty. -/
theorem payloadAttributes_eq (payload : Element) :
    payloadAttributes payload =
      if direct payload ≠ [] then direct payload
      else if wrapped payload ≠ [] then wrapped payload
      else contained payload := by
  rw [payloadAttributes]
  change (match direct payload, payload.getChild Tag.attributes with
    | [], some attributes => containerAttributes attributes
    | _, _ => direct payload) = _
  cases hd : direct payload with
  | cons d ds => rw [if_pos (List.cons_ne_nil d ds)]
  | nil =>
    rw [if_neg (not_not.2 rfl), wrapped, contained]
    cases payload.getChild Tag.attributes with
    | none => rfl
    | some e =>
      show containerAttributes e =
        if (children e).filter _ ≠ [] then (children e).filter _ else children e
      rw [containerAttributes, getChildren_eq]
      cases hw : (children e).filter (fun c => c.tag == Tag.attributeTag) with
      | cons w ws => rw [if_pos (List.cons_ne_nil w ws)]
      | nil =>
        rw [if_neg (not_not.2 rfl), children]
        cases e.asStructure <;> rfl

/-- A longer list is not contained in one of its parts. -/
theorem eq_nil_of_append_subperm {l r : List Element} (h : l ++ r <+~ l) : r = [] := by
  have hlen := h.length_le
  rw [List.length_append] at hlen
  exact List.length_eq_zero_iff.1 (by omega)

/-- Nothing is lost: the container is empty, or there is no Attribute structure outside it and all or none of its
children are Attribute structures. -/
theorem subperm_payloadAttributes_iff (payload : Element) :
    direct payload ++ contained payload <+~ payloadAttributes payload ↔
      (direct payload ≠ [] → contained payload = []) ∧
        (direct payload = [] →
          (∀ c ∈ contained payload, c.tag ≠ Tag.attributeTag) ∨ ∀ c ∈ contained payload, c.tag = Tag.attributeTag) := by
  rw [payloadAttributes_eq]
  by_cases hd : direct payload = []
  · rw [hd, if_neg (not_not.2 rfl), List.nil_append]
    have hnone : wrapped payload = [] ↔ ∀ c ∈ contained payload, c.tag ≠ Tag.attributeTag := by
      simp [wrapped, List.filter_eq_nil_iff]
    have hall : wrapped payload = contained payload ↔ ∀ c ∈ contained payload, c.tag = Tag.attributeTag := by
      simp [wrapped, List.filter_eq_self]
    simp only [ne_eq, not_true_eq_false, false_implies, true_and, true_implies, ← hnone, ← hall]
    split
    · rename_i hw
      constructor
      · intro h
        -- a filtered list of the same length is the list
        exact .inr (List.filter_sublist.eq_of_length_le h.length_le)
      · rintro (h | h)
        · exact absurd h hw
        · rw [h]
    · rename_i hw
      exact ⟨fun _ => .inl (not_not.1 hw), fun _ => List.Subperm.refl _⟩
  · rw [if_pos hd]
    constructor
    · intro h
      exact ⟨fun _ => eq_nil_of_append_subperm h, fun h' => absurd h' hd⟩
    · rintro ⟨h, -⟩
      rw [h hd, List.append_nil]

/-! ## One more Attribute structure -/

/-- `payload'` is `payload` with `w` among its children. -/
inductive AddsDirectly (w : Element) : Element → Element → Prop
  | mk (t : Tag) (ty : TypeCode) (pre suf : List Element) :
      AddsDirectly w ⟨t, ty, .struct (pre ++ suf)⟩ ⟨t, ty, .struct (pre ++ w :: suf)⟩

/-- `payload'` is `payload` with `w` among the children of its Attributes container. -/
inductive AddsToContainer (w : Element) : Element → Element → Prop
  | mk (t : Tag) (ty cty : TypeCode) (pre suf cpre csuf : List Element) (hpre : ∀ e ∈ pre, e.tag ≠ Tag.attributes) :
      AddsToContainer w ⟨t, ty, .struct (pre ++ ⟨Tag.attributes, cty, .struct (cpre ++ csuf)⟩ :: suf)⟩
        ⟨t, ty, .struct (pre ++ ⟨Tag.attributes, cty, .struct (cpre ++ w :: csuf)⟩ :: suf)⟩

section Adding

variable {w payload payload' : Element} (hw : w.tag = Tag.attributeTag)

include hw

theorem AddsDirectly.direct_perm (h : AddsDirectly w payload payload') : direct payload' ~ w :: direct payload := by
  obtain ⟨t, ty, pre, suf⟩ := h
  show (pre ++ w :: suf).filter _ ~ w :: (pre ++ suf).filter _
  rw [List.filter_append, List.filter_append, List.filter_cons_of_pos (by rw [hw]; rfl)]
  exact List.perm_middle

theorem AddsDirectly.payloadAttributes_perm (h : AddsDirectly w payload payload') :
    payloadAttributes payload' ~ w :: direct payload := by
  have hp := h.direct_perm hw
  have hne : direct payload' ≠ [] := by
    intro h0
    rw [h0] at hp
    exact List.cons_ne_nil _ _ hp.nil_eq.symm
  rw [payloadAttributes_eq, if_pos hne]
  exact hp

omit hw in
theorem AddsToContainer.direct_eq (h : AddsToContainer w payload payload') : direct payload' = direct payload := by
  obtain ⟨t, ty, cty, pre, suf, cpre, csuf, hpre⟩ := h
  show (pre ++ _ :: suf).filter _ = (pre ++ _ :: suf).filter _
  rw [List.filter_append, List.filter_append]
  rfl

omit hw in
/-- The children of the container, before and after. -/
theorem AddsToContainer.contained_eq (h : AddsToContainer w payload payload') :
    ∃ cpre csuf, contained payload = cpre ++ csuf ∧ contained payload' = cpre ++ w :: csuf := by
  obtain ⟨t, ty, cty, pre, suf, cpre, csuf, hpre⟩ := h
  have hfind : ∀ items, (pre ++ (⟨Tag.attributes, cty, .struct items⟩ : Element) :: suf).find?
      (fun e => e.tag == Tag.attributes) = some ⟨Tag.attributes, cty, .struct items⟩ := by
    intro items
    rw [List.find?_append, List.find?_eq_none.2 (by simpa using hpre), Option.none_or]
    rfl
  refine ⟨cpre, csuf, ?_, ?_⟩
  · show ((List.find? _ _).map children).getD [] = _
    rw [hfind]
    rfl
  · show ((List.find? _ _).map children).getD [] = _
    rw [hfind]
    rfl

theorem AddsToContainer.wrapped_perm (h : AddsToContainer w payload payload') :
    wrapped payload' ~ w :: wrapped payload := by
  obtain ⟨cpre, csuf, hc, hc'⟩ := h.contained_eq
  rw [wrapped, wrapped, hc, hc', List.filter_append, List.filter_append, List.filter_cons_of_pos (by rw [hw]; rfl)]
  exact List.perm_middle

end Adding

/-- There is an Attribute structure that differs from a given element. -/
theorem exists_other_attribute (x : Element) : ∃ w : Element, w.tag = Tag.attributeTag ∧ w ≠ x := by
  by_cases hx : x = createStructure Tag.attributeTag []
  · refine ⟨createInteger Tag.attributeTag 0, rfl, ?_⟩
    rw [hx]
    intro h
    injection h with _ hty
    exact absurd hty (by decide)
  · exact ⟨_, rfl, Ne.symm hx⟩

/-- A list that every singleton of an Attribute structure contains is empty. -/
theorem eq_nil_of_forall_subperm {l : List Element}
    (h : ∀ w : Element, w.tag = Tag.attributeTag → l <+~ [w]) : l = [] := by
  cases l with
  | nil => rfl
  | cons x xs =>
    obtain ⟨w, hw, hne⟩ := exists_other_attribute x
    have hx := (h w hw).subset List.mem_cons_self
    exact absurd (List.mem_singleton.1 hx).symm hne

/-- Where no Attribute structure stands under the payload, nothing is collected from an empty container only. -/
theorem payloadAttributes_eq_nil_iff {payload : Element} (hd : direct payload = []) :
    payloadAttributes payload = [] ↔ contained payload = [] := by
  rw [payloadAttributes_eq, hd, if_neg (not_not.2 rfl)]
  split
  · rename_i hw
    refine ⟨fun h => absurd h hw, fun h => ?_⟩
    rw [wrapped, h]
    rfl
  · exact Iff.rfl

/-- An Attribute structure under the payload hides nothing if there was one before, or the container is empty. -/
theorem forall_addsDirectly_iff (payload : Element) :
    (∀ w payload', w.tag = Tag.attributeTag → AddsDirectly w payload payload' →
        payloadAttributes payload <+~ payloadAttributes payload') ↔
      direct payload ≠ [] ∨ contained payload = [] := by
  constructor
  · intro h
    by_cases hd : direct payload = []
    · refine .inr ((payloadAttributes_eq_nil_iff hd).1 ?_)
      obtain ⟨t, ty, v⟩ := payload
      cases v with
      | struct items =>
        refine eq_nil_of_forall_subperm fun w hw => ?_
        have ha : AddsDirectly w ⟨t, ty, .struct items⟩ ⟨t, ty, .struct (w :: items)⟩ := .mk t ty [] items
        refine (h w _ hw ha).trans ?_
        have hp := ha.payloadAttributes_perm hw
        rw [hd] at hp
        exact hp.subperm
      | _ => rfl
    · exact .inl hd
  · intro h w payload' hw ha
    by_cases hd : direct payload = []
    · rw [(payloadAttributes_eq_nil_iff hd).2 (h.resolve_left (not_not.2 hd))]
      exact List.nil_subperm
    · have hp := ha.payloadAttributes_perm hw
      rw [payloadAttributes_eq payload, if_pos hd]
      exact ((List.sublist_cons_self w _).subperm).trans hp.symm.subperm

/-- A container with children is a structure, and the first of its tag. -/
theorem exists_addsToContainer {payload : Element} (h : contained payload ≠ []) (w : Element) :
    ∃ payload', AddsToContainer w payload payload' := by
  obtain ⟨t, ty, v⟩ := payload
  cases v with
  | struct items =>
    cases hc : items.find? (fun e => e.tag == Tag.attributes) with
    | none =>
      refine absurd ?_ h
      show ((List.find? _ _).map children).getD [] = _
      rw [hc]
      rfl
    | some c =>
      obtain ⟨htag, pre, suf, rfl, hpre⟩ := List.find?_eq_some_iff_append.1 hc
      obtain ⟨ct, cty, cv⟩ := c
      obtain rfl : ct = Tag.attributes := by simpa using htag
      cases cv with
      | struct citems => exact ⟨_, .mk t ty cty pre suf [] citems (by simpa using hpre)⟩
      | _ =>
        refine absurd ?_ h
        show ((List.find? _ _).map children).getD [] = _
        rw [hc]
        rfl
  | _ => exact absurd rfl h

/-- An Attribute structure in the container hides nothing if the container is not looked at, or had one before, or was
empty. -/
theorem forall_addsToContainer_iff (payload : Element) :
    (∀ w payload', w.tag = Tag.attributeTag → AddsToContainer w payload payload' →
        payloadAttributes payload <+~ payloadAttributes payload') ↔
      direct payload ≠ [] ∨ wrapped payload ≠ [] ∨ contained payload = [] := by
  -- with nothing outside the container, its Attribute structures are what is collected
  have hafter : ∀ {w payload'}, w.tag = Tag.attributeTag → AddsToContainer w payload payload' → direct payload = [] →
      payloadAttributes payload' ~ w :: wrapped payload := by
    intro w payload' hw ha hd
    have hp := ha.wrapped_perm hw
    have hne : wrapped payload' ≠ [] := by
      intro h0
      rw [h0] at hp
      exact List.cons_ne_nil _ _ hp.nil_eq.symm
    rw [payloadAttributes_eq, ha.direct_eq, hd, if_neg (not_not.2 rfl), if_pos hne]
    exact hp
  constructor
  · intro h
    by_contra hnot
    obtain ⟨hd, hwr, hc⟩ : direct payload = [] ∧ wrapped payload = [] ∧ contained payload ≠ [] := by
      simpa using hnot
    refine hc ?_
    have hall : payloadAttributes payload = contained payload := by
      rw [payloadAttributes_eq, hd, hwr, if_neg (not_not.2 rfl), if_neg (not_not.2 rfl)]
    rw [← hall]
    refine eq_nil_of_forall_subperm fun w hw => ?_
    obtain ⟨payload', ha⟩ := exists_addsToContainer hc w
    have hp := hafter hw ha hd
    rw [hwr] at hp
    exact (h w payload' hw ha).trans hp.subperm
  · intro h w payload' hw ha
    by_cases hd : direct payload = []
    · rw [payloadAttributes_eq payload, hd, if_neg (not_not.2 rfl)]
      split
      · exact (List.sublist_cons_self w _).subperm.trans (hafter hw ha hd).symm.subperm
      · rename_i hwr
        obtain hd' | hwr' | hc := h
        · exact absurd hd hd'
        · exact absurd hwr' hwr
        · rw [hc]
          exact List.nil_subperm
    · rw [payloadAttributes_eq payload, payloadAttributes_eq payload', ha.direct_eq, if_pos hd, if_pos hd]

/-! ## The typed response -/

theorem fromBatchItem_eq {item : ResponseBatchItem} {payload : Element} (hop : item.operation = kmipOpGetAttributes)
    (hp : item.responsePayload = some payload) : fromBatchItem item = .ok ⟨item, payloadAttributes payload⟩ := by
  rw [fromBatchItem, expectOperation, if_neg (not_not.2 hop), requireResponsePayload, hp]
  rfl

/-- **When no attribute is lost.** For every Get Attributes response:
* every Attribute structure under the payload and every child of its Attributes container is collected iff the container
  is empty, or no Attribute structure stands outside it and all or none of its children are Attribute structures;
* no Attribute structure added under the payload makes another attribute disappear iff there is one under it already, or
  the container is empty;
* no Attribute structure added to the container makes another attribute disappear iff there is one under the payload or
  in the container already, or the container is empty. -/
theorem fromBatchItem_collects_iff (item : ResponseBatchItem) (payload : Element)
    (hop : item.operation = kmipOpGetAttributes) (hp : item.responsePayload = some payload) :
    ∃ r, fromBatchItem item = .ok r ∧
      (direct payload ++ contained payload <+~ r.attributes ↔
        (direct payload ≠ [] → contained payload = []) ∧
          (direct payload = [] → (∀ c ∈ contained payload, c.tag ≠ Tag.attributeTag) ∨
            ∀ c ∈ contained payload, c.tag = Tag.attributeTag)) ∧
      ((∀ w payload', w.tag = Tag.attributeTag → AddsDirectly w payload payload' →
          ∃ r', fromBatchItem { item with responsePayload := some payload' } = .ok r' ∧
            r.attributes <+~ r'.attributes) ↔
        direct payload ≠ [] ∨ contained payload = []) ∧
      ((∀ w payload', w.tag = Tag.attributeTag → AddsToContainer w payload payload' →
          ∃ r', fromBatchItem { item with responsePayload := some payload' } = .ok r' ∧
            r.attributes <+~ r'.attributes) ↔
        direct payload ≠ [] ∨ (∃ c ∈ contained payload, c.tag = Tag.attributeTag) ∨ contained payload = []) := by
  have hafter : ∀ payload', fromBatchItem { item with responsePayload := some payload' } =
      .ok ⟨{ item with responsePayload := some payload' }, payloadAttributes payload'⟩ := fun payload' =>
    fromBatchItem_eq hop rfl
  have hwrapped : wrapped payload ≠ [] ↔ ∃ c ∈ contained payload, c.tag = Tag.attributeTag := by
    simp [wrapped, List.filter_eq_nil_iff]
  refine ⟨_, fromBatchItem_eq hop hp, subperm_payloadAttributes_iff payload, ?_, ?_⟩
  · rw [← forall_addsDirectly_iff]
    simp [hafter]
  · rw [← hwrapped, ← forall_addsToContainer_iff]
    simp [hafter]

/-- A Get Attributes response with these children of the payload. -/
def attributesResponse (items : List Element) : ResponseBatchItem where
  operation := kmipOpGetAttributes
  responsePayload := some (createStructure Tag.responsePayload items)

/-- The State of an active object, as a typed element. -/
def activeState : Element := createEnumeration Tag.state ObjectState.active.toInt32

/-- An Attribute structure. -/
def vendorAttribute : Element := createStructure Tag.attributeTag []

theorem fromBatchItem_collects_iff_activeState :
    ∃ r, fromBatchItem (attributesResponse [createStructure Tag.attributes [activeState]]) = .ok r ∧
      [activeState] <+~ r.attributes := by
  obtain ⟨r, hr, hiff, -, -⟩ := fromBatchItem_collects_iff
    (attributesResponse [createStructure Tag.attributes [activeState]]) _ rfl rfl
  refine ⟨r, hr, hiff.2 ⟨fun h => absurd rfl h, fun _ => .inl ?_⟩⟩
  show ∀ c ∈ [activeState], _
  rw [List.forall_mem_singleton]
  decide

/-- The State is collected, and lost as soon as a vendor attribute stands beside it or outside the container. -/
theorem fromBatchItem_loses_state :
    ∃ r r' r'', fromBatchItem (attributesResponse [createStructure Tag.attributes [activeState]]) = .ok r ∧
      r.attributes = [activeState] ∧
      fromBatchItem (attributesResponse [createStructure Tag.attributes [activeState, vendorAttribute]]) = .ok r' ∧
      r'.attributes = [vendorAttribute] ∧
      fromBatchItem (attributesResponse [vendorAttribute, createStructure Tag.attributes [activeState]]) = .ok r'' ∧
      r''.attributes = [vendorAttribute] ∧ activeState ≠ vendorAttribute := by
  refine ⟨_, _, _, rfl, rfl, rfl, rfl, rfl, rfl, ?_⟩
  intro h
  injection h with htag
  exact absurd htag (by decide)

end GetAttributesResponseBatchItem

end Kmip
