import Kmip.Core.Requests

/-!
# Routing of well-known attribute names

Four attributes have fields of their own, and the `set` overloads for strings and 32-bit integers route their names
there. The overloads for `int64_t` and `bool` do not: they are the only way to put one of the four names into the
generic map (`step_routed_iff`), and then a Register request of KMIP 1.x names the attribute twice and `has_attribute`
misses it.
-/

namespace Kmip

open Element Requests

/-- The names with fields of their own. -/
def wellKnownNames : List Bytes :=
  [kmipAttrNameCryptoAlg, kmipAttrNameCryptoLen, kmipAttrNameCryptoUsageMask, kmipAttrNameState]

/-! ## Operations on a bag -/

inductive AttributesOp where
  | setAlgorithm (alg : CryptographicAlgorithm)
  | setCryptoLength (len : Int32)
  | clearCryptoLength
  | setUsageMask (mask : CryptographicUsageMask)
  | setState (st : ObjectState)
  | setString (name value : Bytes)
  | setCString (name : Bytes) (value : Option Bytes)
  | setInt32 (name : Bytes) (value : Int32)
  | setInt64 (name : Bytes) (value : Int64)
  | setBool (name : Bytes) (value : Bool)
  | remove (name : Bytes)
  | merge (other : Attributes)

namespace Attributes

def step (a : Attributes) : AttributesOp → Attributes
  | .setAlgorithm alg => a.setAlgorithm alg
  | .setCryptoLength len => a.setCryptoLength len
  | .clearCryptoLength => a.clearCryptoLength
  | .setUsageMask mask => a.setUsageMask mask
  | .setState st => a.setState st
  | .setString name value => a.setString name value
  | .setCString name value => a.setCString name value
  | .setInt32 name value => a.setInt32 name value
  | .setInt64 name value => a.setInt64 name value
  | .setBool name value => a.setBool name value
  | .remove name => a.remove name
  | .merge other => a.merge other

/-- The bag after a sequence of operations on a new one. -/
def run (ops : List AttributesOp) : Attributes := ops.foldl step {}

/-- None of the four names is in the generic map. -/
def Routed (a : Attributes) : Prop := ∀ name ∈ wellKnownNames, name ∉ a.generic

end Attributes

/-- The operation does not store a well-known name in the generic map: it is no `int64_t` or `bool` under such a name,
and no bag is merged whose generic map has one. -/
def AttributesOp.Routes : AttributesOp → Prop
  | .setInt64 name _ => name ∉ wellKnownNames
  | .setBool name _ => name ∉ wellKnownNames
  | .merge other => other.Routed
  | _ => True

namespace Attributes

theorem mem_setGeneric {a : Attributes} {name n : Bytes} {value : AttributeValue} :
    n ∈ (a.setGeneric name value).generic ↔ n = name ∨ n ∈ a.generic := AList.mem_insert _

/-- The keys after a merge. -/
theorem mem_merge {a other : Attributes} {n : Bytes} :
    n ∈ (a.merge other).generic ↔ n ∈ a.generic ∨ n ∈ other.generic := by
  have h : ∀ (entries : List (Sigma fun _ : Bytes => AttributeValue)) (m : AList fun _ : Bytes => AttributeValue),
      n ∈ entries.foldl (fun generic entry => generic.insert entry.1 entry.2) m ↔ n ∈ m ∨ n ∈ entries.keys := by
    intro entries
    induction entries with
    | nil => simp
    | cons entry entries ih =>
      intro m
      rw [List.foldl_cons, ih, AList.mem_insert, List.keys_cons, List.mem_cons]
      tauto
  exact h other.generic.entries a.generic

theorem mem_wellKnownNames {name : Bytes} : name ∈ wellKnownNames ↔ name = kmipAttrNameCryptoAlg ∨
    name = kmipAttrNameCryptoLen ∨ name = kmipAttrNameCryptoUsageMask ∨ name = kmipAttrNameState := by
  simp only [wellKnownNames, List.mem_cons, List.not_mem_nil, or_false]

/-- The overload for strings. -/
theorem generic_setString (a : Attributes) (name value : Bytes) : (a.setString name value).generic =
    if name ∈ wellKnownNames then a.generic else a.generic.insert name (.string value) := by
  by_cases h₁ : name = kmipAttrNameCryptoAlg
  · rw [if_pos (mem_wellKnownNames.2 (.inl h₁)), setString, if_pos h₁]
    cases parseAlgorithmString value <;> rfl
  by_cases h₂ : name = kmipAttrNameCryptoLen
  · rw [if_pos (mem_wellKnownNames.2 (.inr (.inl h₂))), setString, if_neg h₁, if_pos h₂]
    cases strtol value <;> rfl
  by_cases h₃ : name = kmipAttrNameCryptoUsageMask
  · rw [if_pos (mem_wellKnownNames.2 (.inr (.inr (.inl h₃)))), setString, if_neg h₁, if_neg h₂, if_pos h₃]
    cases strtol value with
    | none => rfl
    | some v =>
      dsimp only
      split <;> rfl
  by_cases h₄ : name = kmipAttrNameState
  · rw [if_pos (mem_wellKnownNames.2 (.inr (.inr (.inr h₄)))), setString, if_neg h₁, if_neg h₂, if_neg h₃, if_pos h₄]
    cases parseStateString value <;> rfl
  · rw [if_neg (by simp only [mem_wellKnownNames, h₁, h₂, h₃, h₄, or_self, not_false_eq_true]), setString, if_neg h₁,
      if_neg h₂, if_neg h₃, if_neg h₄]
    rfl

/-- The overload for `int32_t`. -/
theorem generic_setInt32 (a : Attributes) (name : Bytes) (value : Int32) : (a.setInt32 name value).generic =
    if name ∈ wellKnownNames then a.generic else a.generic.insert name (.int32 value) := by
  by_cases h₂ : name = kmipAttrNameCryptoLen
  · rw [if_pos (mem_wellKnownNames.2 (.inr (.inl h₂))), setInt32, if_pos h₂]
  by_cases h₃ : name = kmipAttrNameCryptoUsageMask
  · rw [if_pos (mem_wellKnownNames.2 (.inr (.inr (.inl h₃)))), setInt32, if_neg h₂, if_pos h₃]
    split <;> rfl
  by_cases h₁ : name = kmipAttrNameCryptoAlg
  · rw [if_pos (mem_wellKnownNames.2 (.inl h₁)), setInt32, if_neg h₂, if_neg h₃, if_pos h₁]
    split <;> rfl
  by_cases h₄ : name = kmipAttrNameState
  · rw [if_pos (mem_wellKnownNames.2 (.inr (.inr (.inr h₄)))), setInt32, if_neg h₂, if_neg h₃, if_neg h₁, if_pos h₄]
  · rw [if_neg (by simp only [mem_wellKnownNames, h₁, h₂, h₃, h₄, or_self, not_false_eq_true]), setInt32, if_neg h₂,
      if_neg h₃, if_neg h₁, if_neg h₄]
    rfl

/-- A name that is not routed is not well known. -/
theorem mem_ite_insert {a : Attributes} {name n : Bytes} {value : AttributeValue} (hn : n ∈ wellKnownNames) :
    n ∈ (if name ∈ wellKnownNames then a.generic else a.generic.insert name value) ↔ n ∈ a.generic := by
  split
  · rfl
  · rename_i hname
    rw [AList.mem_insert]
    constructor
    · rintro (rfl | h)
      · exact absurd hn hname
      · exact h
    · exact .inr

/-- **One operation.** It keeps the well-known names out of the generic map if and only if it routes them. -/
theorem step_routed_iff {a : Attributes} (h : a.Routed) (op : AttributesOp) : (a.step op).Routed ↔ op.Routes := by
  have hkeep : ∀ {b : Attributes}, (∀ n ∈ wellKnownNames, n ∈ b.generic ↔ n ∈ a.generic) → b.Routed :=
    fun hb n hn hmem => h n hn ((hb n hn).1 hmem)
  have hset : ∀ (name : Bytes) (value : AttributeValue),
      (a.setGeneric name value).Routed ↔ name ∉ wellKnownNames := by
    intro name value
    constructor
    · intro hr hname
      exact hr name hname (mem_setGeneric.2 (.inl rfl))
    · intro hname n hn hmem
      rcases mem_setGeneric.1 hmem with rfl | hmem
      · exact hname hn
      · exact h n hn hmem
  cases op with
  | setAlgorithm alg => exact iff_of_true h trivial
  | setCryptoLength len => exact iff_of_true h trivial
  | clearCryptoLength => exact iff_of_true h trivial
  | setUsageMask mask => exact iff_of_true h trivial
  | setState st => exact iff_of_true h trivial
  | setString name value =>
    refine iff_of_true (hkeep fun n hn => ?_) trivial
    rw [step, generic_setString]
    exact mem_ite_insert hn
  | setCString name value =>
    refine iff_of_true (hkeep fun n hn => ?_) trivial
    rw [step, setCString, generic_setString]
    exact mem_ite_insert hn
  | setInt32 name value =>
    refine iff_of_true (hkeep fun n hn => ?_) trivial
    rw [step, generic_setInt32]
    exact mem_ite_insert hn
  | setInt64 name value => exact hset name _
  | setBool name value => exact hset name _
  | remove name =>
    refine iff_of_true (fun n hn hmem => ?_) trivial
    exact h n hn (AList.mem_erase.1 hmem).2
  | merge other =>
    constructor
    · intro hr n hn hmem
      exact hr n hn (mem_merge.2 (.inr hmem))
    · intro hother n hn hmem
      rcases mem_merge.1 hmem with hmem | hmem
      · exact h n hn hmem
      · exact hother n hn hmem

theorem routed_empty : ({} : Attributes).Routed := by
  intro n hn hmem
  cases hmem

theorem run_concat (ops : List AttributesOp) (op : AttributesOp) : run (ops ++ [op]) = (run ops).step op := by
  rw [run, List.foldl_append]
  rfl

/-- **Runs.** The invariant holds after every operation if and only if all operations route well-known names. -/
theorem forall_routed_iff (ops : List AttributesOp) :
    (∀ k ≤ ops.length, (run (ops.take k)).Routed) ↔ ∀ op ∈ ops, op.Routes := by
  induction ops using List.reverseRecOn with
  | nil =>
    refine iff_of_true (fun k _ => ?_) (by simp)
    rw [List.take_nil]
    exact routed_empty
  | append_singleton ops op ih =>
    rw [List.forall_mem_append, ← ih, List.forall_mem_singleton]
    constructor
    · intro h
      have hops : ∀ k ≤ ops.length, (run (ops.take k)).Routed := by
        intro k hk
        have := h k (by simp; omega)
        rwa [List.take_append_of_le_length hk] at this
      refine ⟨hops, ?_⟩
      have hlast := h (ops.length + 1) (by simp)
      rw [List.take_of_length_le (by simp), run_concat] at hlast
      have hall := hops ops.length le_rfl
      rw [List.take_length] at hall
      exact (step_routed_iff hall op).1 hlast
    · rintro ⟨hops, hop⟩ k hk
      rw [List.length_append, List.length_singleton] at hk
      rcases Nat.lt_or_ge ops.length k with hlt | hle
      · rw [List.take_of_length_le (by simp; omega), run_concat]
        have hall := hops ops.length le_rfl
        rw [List.take_length] at hall
        exact (step_routed_iff hall op).2 hop
      · rw [List.take_append_of_le_length hle]
        exact hops k hle

/-! ## Stored values are found -/

/-- A value is stored under the name, in its field or in the generic map. -/
def Stores (a : Attributes) (name : Bytes) : Prop :=
  name ∈ a.generic ∨ (name = kmipAttrNameCryptoAlg ∧ a.algo.isSome) ∨
    (name = kmipAttrNameCryptoLen ∧ a.cryptoLength.isSome) ∨
    (name = kmipAttrNameCryptoUsageMask ∧ a.usageMask.isSome) ∨ (name = kmipAttrNameState ∧ a.state.isSome)

theorem nodup_wellKnownNames : wellKnownNames.Nodup := by decide +kernel

theorem hasAttribute_of_stores {a : Attributes} (h : a.Routed) {name : Bytes} (hs : a.Stores name) :
    a.hasAttribute name = true := by
  have hdistinct := nodup_wellKnownNames
  simp only [wellKnownNames, List.nodup_cons, List.mem_cons, List.not_mem_nil, or_false, not_or] at hdistinct
  obtain ⟨⟨h₁₂, h₁₃, h₁₄⟩, ⟨h₂₃, h₂₄⟩, h₃₄, -⟩ := hdistinct
  rcases hs with hs | ⟨rfl, hs⟩ | ⟨rfl, hs⟩ | ⟨rfl, hs⟩ | ⟨rfl, hs⟩
  · have hname : name ∉ wellKnownNames := fun hn => h name hn hs
    simp only [mem_wellKnownNames, not_or] at hname
    rw [hasAttribute, if_neg hname.1, if_neg hname.2.1, if_neg hname.2.2.1, if_neg hname.2.2.2]
    exact decide_eq_true hs
  · rw [hasAttribute, if_pos rfl]
    exact hs
  · rw [hasAttribute, if_neg (Ne.symm h₁₂), if_pos rfl]
    exact hs
  · rw [hasAttribute, if_neg (Ne.symm h₁₃), if_neg (Ne.symm h₂₃), if_pos rfl]
    exact hs
  · rw [hasAttribute, if_neg (Ne.symm h₁₄), if_neg (Ne.symm h₂₄), if_neg (Ne.symm h₃₄), if_pos rfl]
    exact hs

end Attributes

/-! ## Register requests of KMIP 1.x -/

/-- The Attribute Name of an Attribute structure. -/
def attributeNameOf (e : Element) : Option Bytes :=
  if e.tag = Tag.attributeTag then (e.getChild Tag.attributeName).bind fun name => name.toString.toOption else none

/-- The names of the Attribute structures in the Template-Attribute of a request. -/
def templateAttributeNames (item : RequestBatchItem) : List Bytes :=
  match item.requestPayload.bind (·.getChild Tag.templateAttribute) with
  | some template => (template.asStructure.getD []).filterMap attributeNameOf
  | none => []

theorem attributeNameOf_makeAttribute (name : Bytes) (value : Element) :
    attributeNameOf (makeAttribute name value) = some name := rfl

/-- The names in front of the generic attributes are different from each other. -/
def fixedNames : List Bytes :=
  [kmipAttrNameName, kmipAttrNameGroup, kmipAttrNameCryptoAlg, kmipAttrNameCryptoLen, kmipAttrNameCryptoUsageMask]

theorem nodup_fixedNames : fixedNames.Nodup := by decide +kernel

theorem filterMap_genericAttributes {key : Key} {n : Bytes} (h : n ∉ key.attributes.generic) :
    n ∉ (genericAttributes key).filterMap attributeNameOf := by
  intro hmem
  obtain ⟨e, he, hname⟩ := List.mem_filterMap.1 hmem
  obtain ⟨⟨attrName, attrVal⟩, hentry, he⟩ := List.mem_filterMap.1 he
  dsimp only at he
  split at he
  · cases he
  · cases he
    rw [makeTextAttribute, attributeNameOf_makeAttribute, Option.some.injEq] at hname
    subst hname
    exact h (List.mem_keys_of_mem hentry)

/-- The names of a registered key, up to the generic attributes. -/
theorem exists_sublist_fixedNames (name group : Bytes) (key : Key) (version : ProtocolVersion) :
    ∃ names, names.Sublist fixedNames ∧ (registerKeyAttributes name group key version).filterMap attributeNameOf =
      names ++ (genericAttributes key).filterMap attributeNameOf := by
  have hgroup : ((groupAttribute group).filterMap attributeNameOf).Sublist [kmipAttrNameGroup] := by
    rw [groupAttribute, optionalGroup]
    split
    · exact List.nil_sublist _
    · exact List.Sublist.refl _
  have hpair : ((optionalPair (makeEnumAttribute (.ofText "Cryptographic Algorithm"))
      (makeIntegerAttribute (.ofText "Cryptographic Length")) (algorithmAndLength key version)).filterMap
        attributeNameOf).Sublist [kmipAttrNameCryptoAlg, kmipAttrNameCryptoLen] := by
    cases algorithmAndLength key version with
    | none => exact List.nil_sublist _
    | some pair => exact List.Sublist.refl _
  have hmask : ((optionalMask (makeIntegerAttribute (.ofText "Cryptographic Usage Mask")) key).filterMap
      attributeNameOf).Sublist [kmipAttrNameCryptoUsageMask] := by
    rw [optionalMask]
    split
    · exact List.nil_sublist _
    · exact List.Sublist.refl _
  rw [registerKeyAttributes, List.filterMap_append, List.filterMap_append, List.filterMap_append, List.filterMap_append]
  exact ⟨_, (((List.Sublist.refl [kmipAttrNameName]).append hgroup).append hpair).append hmask, rfl⟩

theorem templateAttributeNames_of_registerKeyRequest {name group : Bytes} {key : Key} {version : ProtocolVersion}
    {item : RequestBatchItem} (hv : useAttributesContainer version = false)
    (h : RegisterKeyRequest name group key version = .ok item) :
    templateAttributeNames item = (registerKeyAttributes name group key version).filterMap attributeNameOf := by
  simp only [RegisterKeyRequest, hv, Bool.false_eq_true, if_false] at h
  obtain ⟨objectType, -, h⟩ := Except.bind_eq_ok_iff.1 h
  obtain ⟨object, -, h⟩ := Except.bind_eq_ok_iff.1 h
  cases h
  rfl

/-- A request from a bag with its names in place carries no well-known attribute twice. -/
theorem count_templateAttributeNames_le {name group : Bytes} {key : Key} {version : ProtocolVersion}
    {item : RequestBatchItem} (hv : useAttributesContainer version = false)
    (h : RegisterKeyRequest name group key version = .ok item) (hr : key.attributes.Routed) {n : Bytes}
    (hn : n ∈ wellKnownNames) : (templateAttributeNames item).count n ≤ 1 := by
  obtain ⟨names, hsub, heq⟩ := exists_sublist_fixedNames name group key version
  rw [templateAttributeNames_of_registerKeyRequest hv h, heq, List.count_append,
    List.count_eq_zero.2 (filterMap_genericAttributes (hr n hn)), Nat.add_zero]
  exact List.nodup_iff_count_le_one.1 (nodup_fixedNames.sublist hsub) n

/-- What routing is for: the generic map has none of the four names, a Register request of KMIP 1.x names each of them
at most once, and `has_attribute` finds every stored value. -/
structure Attributes.WellRouted (a : Attributes) : Prop where
  routed : a.Routed
  namedOnce : ∀ name group key version item, key.attributes = a → useAttributesContainer version = false →
    RegisterKeyRequest name group key version = .ok item →
      ∀ n ∈ wellKnownNames, (templateAttributeNames item).count n ≤ 1
  found : ∀ n, a.Stores n → a.hasAttribute n = true

theorem Attributes.wellRouted_iff {a : Attributes} : a.WellRouted ↔ a.Routed := by
  constructor
  · exact WellRouted.routed
  · intro h
    refine ⟨h, ?_, fun n hn => hasAttribute_of_stores h hn⟩
    rintro name group key version item rfl hv hitem n hn
    exact count_templateAttributeNames_le hv hitem h hn

/-- **Well-known names.** In a run of operations on a new bag all bags are well routed if and only if no operation
stores an `int64_t` or a `bool` under a well-known name or merges a bag with such a name in its generic map. -/
theorem attributes_wellRouted_iff (ops : List AttributesOp) :
    (∀ k ≤ ops.length, (Attributes.run (ops.take k)).WellRouted) ↔ ∀ op ∈ ops, op.Routes := by
  rw [← Attributes.forall_routed_iff]
  exact forall₂_congr fun k hk => Attributes.wellRouted_iff

/-- A length of 128 bits, and then 256 bits as an `int64_t`: the request carries both. A `bool` under State: it is
stored and not found. -/
theorem attributes_not_wellRouted :
    let ops := [.setAlgorithm .aes, .setCryptoLength 128, .setInt64 kmipAttrNameCryptoLen 256]
    let key : Key :=
      { value := ⟨List.replicate 16 0, by decide⟩, type := .symmetricKey, attributes := Attributes.run ops }
    kmipAttrNameCryptoLen ∈ (Attributes.run ops).generic ∧
      (RegisterKeyRequest (.ofText "k") Bytes.empty key ⟨1, 4⟩).toOption.map
        (fun item => (templateAttributeNames item).count kmipAttrNameCryptoLen) = some 2 ∧
      kmipAttrNameState ∈ (Attributes.run [.setBool kmipAttrNameState true]).generic ∧
      (Attributes.run [.setBool kmipAttrNameState true]).hasAttribute kmipAttrNameState = false ∧
      ¬(Attributes.run ops).WellRouted := by
  have hmem : kmipAttrNameCryptoLen ∈
      (Attributes.run [.setAlgorithm .aes, .setCryptoLength 128, .setInt64 kmipAttrNameCryptoLen 256]).generic := by
    decide +kernel
  refine ⟨hmem, by decide +kernel, by decide +kernel, by decide +kernel, ?_⟩
  intro h
  exact h.routed _ (Attributes.mem_wellKnownNames.2 (.inr (.inl rfl))) hmem

end Kmip
