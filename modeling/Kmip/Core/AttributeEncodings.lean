import Kmip.Core.AttributesParser
import Kmip.Core.Requests

/-!
# Attributes in both encodings

A standard attribute is a named value in KMIP 1.x and a typed element in KMIP 2.0. `AttributesParser::parse` reads both
to the same bag, and the value is there under its name, with these exceptions (`parse_agrees_iff`):

* Operation Policy Name has a tag but no case in `parse_v2_typed_attribute`, so it is stored under the code of its tag;
* a Date Time Extended value is stored as a number by name, and as the text of a date by tag;
* UniqueID is stored as Unique Identifier in both encodings, and is not there under its own name;
* an algorithm or a usage mask of zero is not stored in either.
-/

namespace Kmip.AttributesParser

open Element Requests

/-! ## Standard attributes -/

/-- The values of a standard attribute, by its tag. The remaining tags are those of the four dates. -/
def HasKmipType (t : Tag) (v : Value Element) : Prop :=
  if t = Tag.objectGroup ∨ t = Tag.uniqueIdentifier ∨ t = Tag.operationPolicyName then ∃ s, v = .textString s
  else if t = Tag.name then
    ∃ items s k, v = .struct items ∧
      items.find? (fun c => c.tag == Tag.nameValue) = some (createTextString Tag.nameValue s) ∧
      items.find? (fun c => c.tag == Tag.nameType) = some (createEnumeration Tag.nameType k)
  else if t = Tag.cryptographicAlgorithm ∨ t = Tag.state then ∃ x, v = .enumeration x
  else if t = Tag.cryptographicLength ∨ t = Tag.cryptographicUsageMask then ∃ x, v = .integer x
  else (∃ x, v = .dateTime x) ∨ ∃ x, v = .dateTimeExtended x

/-- The same bag, or both throw. -/
def SameOutcome (x y : Except Abort Attributes) : Prop := x = y ∨ ∃ e e', x = .error e ∧ y = .error e'

/-- The value under a name: the field of a well-known attribute, or an entry of the generic map. -/
def valueOf (bag : Attributes) (name : Bytes) : Option AttributeValue :=
  if name = kmipAttrNameCryptoAlg then bag.algo.map fun alg => .int32 alg.toInt32
  else if name = kmipAttrNameCryptoLen then bag.cryptoLength.map .int32
  else if name = kmipAttrNameCryptoUsageMask then bag.usageMask.map fun mask => .int32 mask.toInt32
  else if name = kmipAttrNameState then bag.state.map fun st => .int32 st.toInt32
  else bag.generic.lookup name

/-- There is a value under the names that `has_attribute` finds. -/
theorem isSome_valueOf (bag : Attributes) (name : Bytes) : (valueOf bag name).isSome = bag.hasAttribute name := by
  unfold valueOf Attributes.hasAttribute
  split
  · exact Option.isSome_map
  split
  · exact Option.isSome_map
  split
  · exact Option.isSome_map
  split
  · exact Option.isSome_map
  · exact Bool.eq_iff_iff.2 (AList.lookup_isSome.trans (decide_eq_true_iff).symm)

section Reading

variable (dateToString : Int64 → Bytes)

/-- A value as an entry of the bag: dates in seconds as text, and of a name its Name Value. -/
def entryOf : Value Element → Option AttributeValue
  | .textString s => some (.string s)
  | .integer x => some (.int32 x)
  | .enumeration x => some (.int32 x)
  | .dateTime x => some (.string (dateToString x))
  | .dateTimeExtended x => some (.int64 x)
  | .struct items =>
    match items.find? fun c => c.tag == Tag.nameValue with
    | some ⟨_, _, .textString s⟩ => some (.string s)
    | _ => none
  | _ => none

/-- A bag that was parsed holds the value under the name. -/
def Readable (x : Except Abort Attributes) (n : Bytes) (v : Value Element) : Prop :=
  ∀ bag, x = .ok bag → bag.hasAttribute n = true ∧ valueOf bag n = entryOf dateToString v

variable {dateToString}

theorem readable_ok {bag : Attributes} {n : Bytes} {v : Value Element} {w : AttributeValue}
    (hv : entryOf dateToString v = some w) (h : valueOf bag n = some w) : Readable dateToString (.ok bag) n v := by
  rintro _ ⟨⟩
  refine ⟨?_, h.trans hv.symm⟩
  rw [← isSome_valueOf, h]
  rfl

theorem not_readable_ok {bag : Attributes} {n : Bytes} {v : Value Element} (h : bag.hasAttribute n = false) :
    ¬Readable dateToString (.ok bag) n v := by
  intro hread
  obtain ⟨hhas, -⟩ := hread bag rfl
  rw [h] at hhas
  cases hhas

/-- A code that is refused leaves no bag. -/
theorem readable_checkedEnum {isValid : Int32 → Bool} {text : String} {set : UInt32 → Attributes} {n : Bytes}
    {v : Value Element} {x : Int32} {w : AttributeValue} (hv : entryOf dateToString v = some w)
    (h : valueOf (set x.toUInt32) n = some w) :
    Readable dateToString (do .ok (set (← checkedEnum isValid text x))) n v := by
  unfold checkedEnum
  split
  · rintro _ ⟨⟩
  · exact readable_ok hv h

end Reading

/-- The names that are treated on their own. -/
def specialNames : List Bytes :=
  [kmipAttrNameCryptoAlg, kmipAttrNameCryptoLen, kmipAttrNameCryptoUsageMask, kmipAttrNameState,
    kmipAttrNameUniqueIdentifierAlt]

/-- The standard attributes without a field of their own. -/
def genericNames : List Bytes :=
  [kmipAttrNameName, kmipAttrNameGroup, kmipAttrNameUniqueIdentifier, kmipAttrNameActivationDate,
    kmipAttrNameDeactivationDate, kmipAttrNameProcessStartDate, kmipAttrNameProtectStopDate,
    kmipAttrNameOperationPolicyName]

theorem nodup_names : (specialNames ++ genericNames).Nodup := by decide +kernel

theorem generic_not_special : ∀ n ∈ genericNames, n ∉ specialNames :=
  fun n hn hspecial => (List.nodup_append.1 nodup_names).2.2 n hspecial n hn rfl

theorem distinct_specialNames :
    (kmipAttrNameUniqueIdentifierAlt ≠ kmipAttrNameState ∧
        kmipAttrNameUniqueIdentifierAlt ≠ kmipAttrNameCryptoUsageMask ∧
        kmipAttrNameUniqueIdentifierAlt ≠ kmipAttrNameCryptoLen ∧
        kmipAttrNameUniqueIdentifierAlt ≠ kmipAttrNameCryptoAlg) ∧
      (kmipAttrNameState ≠ kmipAttrNameCryptoUsageMask ∧ kmipAttrNameState ≠ kmipAttrNameCryptoLen ∧
        kmipAttrNameState ≠ kmipAttrNameCryptoAlg) ∧
      (kmipAttrNameCryptoUsageMask ≠ kmipAttrNameCryptoLen ∧ kmipAttrNameCryptoUsageMask ≠ kmipAttrNameCryptoAlg) ∧
      kmipAttrNameCryptoLen ≠ kmipAttrNameCryptoAlg := by
  have h := List.nodup_reverse.2 (List.nodup_append.1 nodup_names).1
  simpa only [specialNames, List.reverse_cons, List.reverse_nil, List.nil_append, List.cons_append, List.nodup_cons,
    List.mem_cons, List.not_mem_nil, or_false, not_or, not_false_eq_true, List.nodup_nil, and_true] using h

section Named

variable (dateToString : Int64 → Bytes)

/-- A named value: the four names with fields, and the others. -/
theorem parseElement_makeAttribute (bag : Attributes) (n : Bytes) (ty : TypeCode) (v : Value Element) :
    parseElement dateToString bag (makeAttribute n ⟨Tag.attributeValue, ty, v⟩) =
      let value : Element := ⟨Tag.attributeValue, ty, v⟩
      if n = kmipAttrNameCryptoAlg then do .ok (bag.setAlgorithm (← checkedCryptographicAlgorithm (← value.toEnum)))
      else if n = kmipAttrNameCryptoLen then do .ok (bag.setCryptoLength (← value.toInt))
      else if n = kmipAttrNameCryptoUsageMask then do
        .ok (bag.setUsageMask (← checkedCryptographicUsageMask (← value.toInt)))
      else if n = kmipAttrNameState then do .ok (bag.setState (← checkedState (← value.toEnum)))
      else storeGeneric dateToString bag
        (if n = kmipAttrNameUniqueIdentifierAlt then kmipAttrNameUniqueIdentifier else n) (some value) := rfl

/-- A named value of an attribute without a field of its own. -/
theorem parseElement_generic {n : Bytes} (hn : n ∉ specialNames) (bag : Attributes) (ty : TypeCode)
    (v : Value Element) : parseElement dateToString bag (makeAttribute n ⟨Tag.attributeValue, ty, v⟩) =
      storeGeneric dateToString bag n (some ⟨Tag.attributeValue, ty, v⟩) := by
  simp only [specialNames, List.mem_cons, List.not_mem_nil, or_false, not_or] at hn
  obtain ⟨h₁, h₂, h₃, h₄, h₅⟩ := hn
  rw [parseElement_makeAttribute]
  simp only [if_neg h₁, if_neg h₂, if_neg h₃, if_neg h₄, if_neg h₅]

/-- The named values of the attributes with fields. -/
theorem parseElement_fields (bag : Attributes) (x : Int32) :
    parseElement dateToString bag (makeAttribute kmipAttrNameCryptoAlg (createEnumeration Tag.attributeValue x)) =
        (do .ok (bag.setAlgorithm (← checkedCryptographicAlgorithm x))) ∧
      parseElement dateToString bag (makeAttribute kmipAttrNameCryptoLen (createInteger Tag.attributeValue x)) =
        .ok (bag.setCryptoLength x) ∧
      parseElement dateToString bag (makeAttribute kmipAttrNameCryptoUsageMask (createInteger Tag.attributeValue x)) =
        (do .ok (bag.setUsageMask (← checkedCryptographicUsageMask x))) ∧
      parseElement dateToString bag (makeAttribute kmipAttrNameState (createEnumeration Tag.attributeValue x)) =
        (do .ok (bag.setState (← checkedState x))) := by
  obtain ⟨-, ⟨h₄₃, h₄₂, h₄₁⟩, ⟨h₃₂, h₃₁⟩, h₂₁⟩ := distinct_specialNames
  refine ⟨?_, ?_, ?_, ?_⟩
  all_goals refine (parseElement_makeAttribute dateToString bag _ _ _).trans ?_
  · simp only [if_true]
    rfl
  · simp only [if_neg h₂₁, if_true]
    rfl
  · simp only [if_neg h₃₁, if_neg h₃₂, if_true]
    rfl
  · simp only [if_neg h₄₁, if_neg h₄₂, if_neg h₄₃, if_true]
    rfl

theorem parse_singleton (e : Element) : parse dateToString [e] = parseElement dateToString {} e :=
  bind_pure (parseElement dateToString {} e)

theorem parse_typed {t : Tag} (ht : t ≠ Tag.attributeTag) (v : Value Element) :
    parse dateToString [⟨t, v.typeCode, v⟩] = parseV2TypedAttribute dateToString {} ⟨t, v.typeCode, v⟩ := by
  rw [parse_singleton, parseElement, if_neg ht]

theorem parse_generic {n : Bytes} (hn : n ∉ specialNames) (v : Value Element) :
    parse dateToString [makeAttribute n ⟨Tag.attributeValue, v.typeCode, v⟩] =
      storeGeneric dateToString {} n (some ⟨Tag.attributeValue, v.typeCode, v⟩) := by
  rw [parse_singleton, parseElement_generic dateToString hn]

/-- The old name of the Unique Identifier is read as the new one. -/
theorem parse_uniqueID (v : Value Element) :
    parse dateToString [makeAttribute kmipAttrNameUniqueIdentifierAlt ⟨Tag.attributeValue, v.typeCode, v⟩] =
      parse dateToString [makeAttribute kmipAttrNameUniqueIdentifier ⟨Tag.attributeValue, v.typeCode, v⟩] := by
  obtain ⟨⟨h₅₄, h₅₃, h₅₂, h₅₁⟩, -⟩ := distinct_specialNames
  rw [@parse_generic _ kmipAttrNameUniqueIdentifier (generic_not_special _ (by simp [genericNames])),
    parse_singleton, parseElement_makeAttribute]
  simp only [if_neg h₅₁, if_neg h₅₂, if_neg h₅₃, if_neg h₅₄, if_true]

end Named

theorem setString_generic {n : Bytes} (hn : n ∉ specialNames) (result : Attributes) (s : Bytes) :
    result.setString n s = result.setGeneric n (.string s) := by
  simp only [specialNames, List.mem_cons, List.not_mem_nil, or_false, not_or] at hn
  rw [Attributes.setString, if_neg hn.1, if_neg hn.2.1, if_neg hn.2.2.1, if_neg hn.2.2.2.1]

/-! ## Agreement -/

section Agree

variable (dateToString : Int64 → Bytes)

/-- By name and by tag, an attribute without a field of its own is stored in the same way. -/
theorem generic_agrees {n : Bytes} {t : Tag} {v : Value Element} (hn : n ∈ genericNames) (ht : t ≠ Tag.attributeTag)
    (h : storeGeneric dateToString {} n (some ⟨Tag.attributeValue, v.typeCode, v⟩) =
      parseV2TypedAttribute dateToString {} ⟨t, v.typeCode, v⟩) :
    parse dateToString [makeAttribute n ⟨Tag.attributeValue, v.typeCode, v⟩] =
      parse dateToString [⟨t, v.typeCode, v⟩] := by
  rw [parse_generic dateToString (generic_not_special n hn), parse_typed dateToString ht, h]

theorem name_agrees {items : List Element} {s : Bytes}
    (hs : items.find? (fun c => c.tag == Tag.nameValue) = some (createTextString Tag.nameValue s)) :
    parse dateToString [makeAttribute kmipAttrNameName (createStructure Tag.attributeValue items)] =
      parse dateToString [createStructure Tag.name items] := by
  refine @generic_agrees dateToString kmipAttrNameName Tag.name (.struct items) (by simp [genericNames]) (by decide) ?_
  have hchild : ∀ t, Element.getChild ⟨t, (Value.struct items).typeCode, .struct items⟩ Tag.nameValue =
      some (createTextString Tag.nameValue s) := fun _ => hs
  unfold storeGeneric parseV2TypedAttribute
  simp only [hchild]
  rfl

theorem dateTime_agrees {n : Bytes} {t : Tag} (hn : n ∈ genericNames) (ht : t ≠ Tag.attributeTag)
    (hdate : ∀ e, e.tag = t → parseV2TypedAttribute dateToString {} e = setDate dateToString {} n e) (x : Int64) :
    parse dateToString [makeAttribute n (createDateTime Tag.attributeValue x)] =
      parse dateToString [createDateTime t x] :=
  @generic_agrees dateToString n t (.dateTime x) hn ht (hdate (createDateTime t x) rfl).symm

/-- The fields of the bag are set in the same way by name and by tag. -/
theorem fields_agree (x : Int32) :
    parse dateToString [makeAttribute kmipAttrNameCryptoAlg (createEnumeration Tag.attributeValue x)] =
        parse dateToString [createEnumeration Tag.cryptographicAlgorithm x] ∧
      parse dateToString [makeAttribute kmipAttrNameCryptoLen (createInteger Tag.attributeValue x)] =
        parse dateToString [createInteger Tag.cryptographicLength x] ∧
      parse dateToString [makeAttribute kmipAttrNameCryptoUsageMask (createInteger Tag.attributeValue x)] =
        parse dateToString [createInteger Tag.cryptographicUsageMask x] ∧
      parse dateToString [makeAttribute kmipAttrNameState (createEnumeration Tag.attributeValue x)] =
        parse dateToString [createEnumeration Tag.state x] := by
  obtain ⟨halg, hlen, hmask, hstate⟩ := parseElement_fields dateToString {} x
  simp only [parse_singleton, halg, hlen, hmask, hstate]
  exact ⟨rfl, rfl, rfl, rfl⟩

end Agree

/-! ## Disagreement -/

section Disagree

variable (dateToString : Int64 → Bytes)

theorem not_sameOutcome_of_lookup_ne {a b : Attributes} {n : Bytes} (h : a.generic.lookup n ≠ b.generic.lookup n) :
    ¬SameOutcome (.ok a) (.ok b) := by
  rintro (heq | ⟨e, e', he, -⟩)
  · cases heq
    exact h rfl
  · cases he

/-- The policy name is stored under its name in KMIP 1.x, and under the code of its tag in KMIP 2.0. -/
theorem policyName_disagrees (s : Bytes) :
    ¬SameOutcome
      (parse dateToString [makeAttribute kmipAttrNameOperationPolicyName (createTextString Tag.attributeValue s)])
      (parse dateToString [createTextString Tag.operationPolicyName s]) := by
  have hnamed : parse dateToString [makeAttribute kmipAttrNameOperationPolicyName
      (createTextString Tag.attributeValue s)] =
      .ok (Attributes.setString {} kmipAttrNameOperationPolicyName s) :=
    parse_generic dateToString (generic_not_special _ (by simp [genericNames])) (.textString s)
  have htyped : parse dateToString [createTextString Tag.operationPolicyName s] =
      .ok (Attributes.setString {} (genericNameForTag Tag.operationPolicyName) s) :=
    @parse_typed dateToString Tag.operationPolicyName (by decide) (.textString s)
  obtain ⟨hne, hcode⟩ : kmipAttrNameOperationPolicyName ≠ genericNameForTag Tag.operationPolicyName ∧
      genericNameForTag Tag.operationPolicyName ∉ specialNames := by decide +kernel
  rw [hnamed, htyped, setString_generic (generic_not_special _ (by simp [genericNames])), setString_generic hcode]
  apply not_sameOutcome_of_lookup_ne (n := kmipAttrNameOperationPolicyName)
  rw [Attributes.setGeneric, Attributes.setGeneric, AList.lookup_insert, AList.lookup_insert_ne hne]
  exact nofun

/-- A date in microseconds is a number in KMIP 1.x, and a text in KMIP 2.0. -/
theorem dateTimeExtended_disagrees {n : Bytes} {t : Tag} (hn : n ∈ genericNames) (ht : t ≠ Tag.attributeTag)
    (hdate : ∀ e, e.tag = t → parseV2TypedAttribute dateToString {} e = setDate dateToString {} n e) (x : Int64) :
    ¬SameOutcome (parse dateToString [makeAttribute n (createDateTimeExtended Tag.attributeValue x)])
      (parse dateToString [createDateTimeExtended t x]) := by
  have hnamed : parse dateToString [makeAttribute n (createDateTimeExtended Tag.attributeValue x)] =
      .ok (Attributes.setInt64 {} n x) :=
    parse_generic dateToString (generic_not_special n hn) (.dateTimeExtended x)
  have htyped : parse dateToString [createDateTimeExtended t x] =
      .ok (Attributes.setString {} n (dateToString x)) :=
    (parse_typed dateToString ht (.dateTimeExtended x)).trans (hdate (createDateTimeExtended t x) rfl)
  rw [hnamed, htyped, setString_generic (generic_not_special n hn)]
  apply not_sameOutcome_of_lookup_ne (n := n)
  rw [Attributes.setInt64, Attributes.setGeneric, Attributes.setGeneric, AList.lookup_insert, AList.lookup_insert]
  intro h
  injection h with h
  cases h

end Disagree

/-! ## Reading -/

section Reading

variable (dateToString : Int64 → Bytes)

theorem valueOf_generic {n : Bytes} (hn : n ∉ specialNames) (bag : Attributes) :
    valueOf bag n = bag.generic.lookup n := by
  simp only [specialNames, List.mem_cons, List.not_mem_nil, or_false, not_or] at hn
  rw [valueOf, if_neg hn.1, if_neg hn.2.1, if_neg hn.2.2.1, if_neg hn.2.2.2.1]

theorem valueOf_setString {n : Bytes} (hn : n ∈ genericNames) (bag : Attributes) (s : Bytes) :
    valueOf (bag.setString n s) n = some (.string s) := by
  have hspecial := generic_not_special n hn
  rw [setString_generic hspecial, valueOf_generic hspecial, Attributes.setGeneric, AList.lookup_insert]

theorem valueOf_fields (bag : Attributes) :
    valueOf bag kmipAttrNameCryptoAlg = bag.algo.map (fun alg => .int32 alg.toInt32) ∧
      valueOf bag kmipAttrNameCryptoLen = bag.cryptoLength.map .int32 ∧
      valueOf bag kmipAttrNameCryptoUsageMask = bag.usageMask.map (fun mask => .int32 mask.toInt32) ∧
      valueOf bag kmipAttrNameState = bag.state.map fun st => .int32 st.toInt32 := by
  obtain ⟨-, ⟨h₄₃, h₄₂, h₄₁⟩, ⟨h₃₂, h₃₁⟩, h₂₁⟩ := distinct_specialNames
  refine ⟨?_, ?_, ?_, ?_⟩
  all_goals unfold valueOf
  · rw [if_pos rfl]
  · rw [if_neg h₂₁, if_pos rfl]
  · rw [if_neg h₃₁, if_neg h₃₂, if_pos rfl]
  · rw [if_neg h₄₁, if_neg h₄₂, if_neg h₄₃, if_pos rfl]

theorem readable_text {n : Bytes} (hn : n ∈ genericNames) (s : Bytes) :
    Readable dateToString (parse dateToString [makeAttribute n (createTextString Tag.attributeValue s)]) n
      (.textString s) := by
  rw [show parse dateToString [makeAttribute n (createTextString Tag.attributeValue s)] = _ from
    parse_generic dateToString (generic_not_special n hn) (.textString s)]
  exact readable_ok rfl (valueOf_setString hn {} s)

theorem readable_dateTime {n : Bytes} (hn : n ∈ genericNames) (x : Int64) :
    Readable dateToString (parse dateToString [makeAttribute n (createDateTime Tag.attributeValue x)]) n
      (.dateTime x) := by
  rw [show parse dateToString [makeAttribute n (createDateTime Tag.attributeValue x)] = _ from
    parse_generic dateToString (generic_not_special n hn) (.dateTime x)]
  exact readable_ok rfl (valueOf_setString hn {} (dateToString x))

theorem readable_name {items : List Element} {s : Bytes}
    (hs : items.find? (fun c => c.tag == Tag.nameValue) = some (createTextString Tag.nameValue s)) :
    Readable dateToString (parse dateToString [makeAttribute kmipAttrNameName
      (createStructure Tag.attributeValue items)]) kmipAttrNameName (.struct items) := by
  have hname : kmipAttrNameName ∈ genericNames := by simp [genericNames]
  have hparse : parse dateToString [makeAttribute kmipAttrNameName (createStructure Tag.attributeValue items)] =
      .ok (Attributes.setString {} kmipAttrNameName s) := by
    refine (parse_generic dateToString (generic_not_special _ hname) (.struct items)).trans ?_
    have hchild : Element.getChild ⟨Tag.attributeValue, (Value.struct items).typeCode, .struct items⟩ Tag.nameValue =
      some (createTextString Tag.nameValue s) := hs
    unfold storeGeneric
    simp only [hchild]
    rfl
  rw [hparse]
  refine readable_ok ?_ (valueOf_setString hname {} s)
  dsimp only [entryOf]
  rw [hs]
  rfl

/-- The old name of the Unique Identifier is not in the bag. -/
theorem uniqueID_not_readable (s : Bytes) :
    ¬Readable dateToString
      (parse dateToString [makeAttribute kmipAttrNameUniqueIdentifierAlt (createTextString Tag.attributeValue s)])
      kmipAttrNameUniqueIdentifierAlt (.textString s) := by
  have hunique : kmipAttrNameUniqueIdentifier ∉ specialNames := generic_not_special _ (by simp [genericNames])
  have hne : kmipAttrNameUniqueIdentifierAlt ≠ kmipAttrNameUniqueIdentifier :=
    fun h => hunique (h ▸ by simp [specialNames])
  have hparse : parse dateToString
      [makeAttribute kmipAttrNameUniqueIdentifierAlt (createTextString Tag.attributeValue s)] =
      .ok (Attributes.setGeneric {} kmipAttrNameUniqueIdentifier (.string s)) := by
    rw [← setString_generic hunique]
    exact (parse_uniqueID dateToString (.textString s)).trans (parse_generic dateToString hunique (.textString s))
  obtain ⟨⟨h₅₄, h₅₃, h₅₂, h₅₁⟩, -⟩ := distinct_specialNames
  rw [hparse]
  refine not_readable_ok ?_
  rw [← isSome_valueOf, valueOf, if_neg h₅₁, if_neg h₅₂, if_neg h₅₃, if_neg h₅₄, Attributes.setGeneric,
    AList.lookup_insert_ne hne]
  rfl

theorem readable_length (x : Int32) :
    Readable dateToString (parse dateToString [makeAttribute kmipAttrNameCryptoLen
      (createInteger Tag.attributeValue x)]) kmipAttrNameCryptoLen (.integer x) := by
  rw [parse_singleton, (parseElement_fields dateToString {} x).2.1]
  exact readable_ok rfl (valueOf_fields _).2.1

theorem readable_state (x : Int32) :
    Readable dateToString (parse dateToString [makeAttribute kmipAttrNameState
      (createEnumeration Tag.attributeValue x)]) kmipAttrNameState (.enumeration x) := by
  rw [parse_singleton, (parseElement_fields dateToString {} x).2.2.2]
  exact readable_checkedEnum rfl (valueOf_fields _).2.2.2

theorem toUInt32_eq_zero {x : Int32} (h : x.toUInt32 = 0) : x = 0 := by
  rw [← Int32.toInt32_toUInt32 x, h]
  rfl

theorem readable_algorithm_iff (x : Int32) :
    Readable dateToString (parse dateToString [makeAttribute kmipAttrNameCryptoAlg
      (createEnumeration Tag.attributeValue x)]) kmipAttrNameCryptoAlg (.enumeration x) ↔ x ≠ 0 := by
  rw [parse_singleton, (parseElement_fields dateToString {} x).1]
  constructor
  · rintro h rfl
    exact not_readable_ok rfl h
  · intro hx
    refine readable_checkedEnum rfl ((valueOf_fields _).1.trans ?_)
    have hunset : x.toUInt32 ≠ CryptographicAlgorithm.unset := fun h => hx (toUInt32_eq_zero h)
    rw [Attributes.setAlgorithm, if_neg hunset]
    rfl

theorem readable_usageMask_iff (x : Int32) :
    Readable dateToString (parse dateToString [makeAttribute kmipAttrNameCryptoUsageMask
      (createInteger Tag.attributeValue x)]) kmipAttrNameCryptoUsageMask (.integer x) ↔ x ≠ 0 := by
  rw [parse_singleton, (parseElement_fields dateToString {} x).2.2.1]
  constructor
  · rintro h rfl
    exact not_readable_ok rfl h
  · intro hx
    refine readable_checkedEnum rfl ((valueOf_fields _).2.2.1.trans ?_)
    have hunset : x.toUInt32 ≠ CryptographicUsageMask.unset := fun h => hx (toUInt32_eq_zero h)
    rw [Attributes.setUsageMask, if_neg hunset]
    rfl

end Reading

/-! ## Every standard attribute -/

theorem ite_some_eq_some {p : Prop} [Decidable p] {a t : Tag} {r : Option Tag}
    (h : (if p then some a else r) = some t) : (p ∧ t = a) ∨ r = some t := by
  split at h
  · rename_i hp
    exact .inl ⟨hp, (Option.some.inj h).symm⟩
  · exact .inr h

/-- The names and tags of the dates. -/
def dateAttributes : List (Bytes × Tag) :=
  [(kmipAttrNameActivationDate, Tag.activationDate), (kmipAttrNameDeactivationDate, Tag.deactivationDate),
    (kmipAttrNameProcessStartDate, Tag.processStartDate), (kmipAttrNameProtectStopDate, Tag.protectStopDate)]

/-- The standard attributes, by the way in which they are stored. -/
theorem standardAttributeNameToTag_cases {n : Bytes} {t : Tag} (h : standardAttributeNameToTag n = some t) :
    (n = kmipAttrNameName ∧ t = Tag.name) ∨ (n = kmipAttrNameGroup ∧ t = Tag.objectGroup) ∨
      ((n = kmipAttrNameUniqueIdentifier ∨ n = kmipAttrNameUniqueIdentifierAlt) ∧ t = Tag.uniqueIdentifier) ∨
      (n, t) ∈ dateAttributes ∨
      (n = kmipAttrNameState ∧ t = Tag.state) ∨
      (n = kmipAttrNameCryptoAlg ∧ t = Tag.cryptographicAlgorithm) ∨
      (n = kmipAttrNameCryptoLen ∧ t = Tag.cryptographicLength) ∨
      (n = kmipAttrNameCryptoUsageMask ∧ t = Tag.cryptographicUsageMask) ∨
      (n = kmipAttrNameOperationPolicyName ∧ t = Tag.operationPolicyName) := by
  simp only [dateAttributes, List.mem_cons, Prod.mk.injEq, List.not_mem_nil, or_false]
  rw [standardAttributeNameToTag] at h
  iterate 12
    obtain h' | h := ite_some_eq_some h
    · simp only [h', true_and, true_or, or_true]
  cases h

theorem policyName_ne_special (n : Bytes) (hn : n ∈ specialNames) : n ≠ kmipAttrNameOperationPolicyName := by
  rintro rfl
  exact generic_not_special _ (by simp [genericNames]) hn

/-- The names that are neither refused nor read as another one, for any value. -/
theorem ne_of_mem_plainNames :
    ∀ n ∈ [kmipAttrNameName, kmipAttrNameGroup, kmipAttrNameUniqueIdentifier, kmipAttrNameActivationDate,
        kmipAttrNameDeactivationDate, kmipAttrNameProcessStartDate, kmipAttrNameProtectStopDate, kmipAttrNameState,
        kmipAttrNameCryptoLen],
      n ≠ kmipAttrNameOperationPolicyName ∧ n ≠ kmipAttrNameUniqueIdentifierAlt ∧ n ≠ kmipAttrNameCryptoAlg ∧
        n ≠ kmipAttrNameCryptoUsageMask := by
  decide +kernel

/-- What the two parsers do with a date. -/
theorem date_cases {n : Bytes} {t : Tag} (h : (n, t) ∈ dateAttributes) :
    n ∈ genericNames ∧
      (n ≠ kmipAttrNameOperationPolicyName ∧ n ≠ kmipAttrNameUniqueIdentifierAlt ∧ n ≠ kmipAttrNameCryptoAlg ∧
        n ≠ kmipAttrNameCryptoUsageMask) ∧ t ≠ Tag.attributeTag ∧
      (∀ dateToString e, e.tag = t → parseV2TypedAttribute dateToString {} e = setDate dateToString {} n e) ∧
      ∀ v, HasKmipType t v → (∃ x, v = .dateTime x) ∨ ∃ x, v = .dateTimeExtended x := by
  simp only [dateAttributes, List.mem_cons, Prod.mk.injEq, List.not_mem_nil, or_false] at h
  obtain ⟨rfl, rfl⟩ | ⟨rfl, rfl⟩ | ⟨rfl, rfl⟩ | ⟨rfl, rfl⟩ := h
  all_goals
    refine ⟨by simp [genericNames], ne_of_mem_plainNames _ (by simp), by decide, ?_, fun v hv => hv⟩
    rintro dateToString ⟨t, ty, v⟩ rfl
    rfl

section Outcomes

variable {dateToString : Int64 → Bytes} {x y : Except Abort Attributes} {n : Bytes} {v : Value Element}

/-- Where the two parsers do the same, it remains to find the value. -/
theorem agree_iff_of_eq {P : Prop} (h : x = y) (hread : Readable dateToString x n v ↔ P) :
    SameOutcome x y ∧ Readable dateToString x n v ∧ Readable dateToString y n v ↔ P := by
  subst h
  exact ⟨fun h => hread.1 h.2.1, fun h => ⟨.inl rfl, hread.2 h, hread.2 h⟩⟩

/-- An attribute with nothing special about its name. -/
theorem agree_iff_of_plain (h : x = y) (hread : Readable dateToString x n v)
    (hn : n ≠ kmipAttrNameOperationPolicyName ∧ n ≠ kmipAttrNameUniqueIdentifierAlt ∧ n ≠ kmipAttrNameCryptoAlg ∧
      n ≠ kmipAttrNameCryptoUsageMask) (hv : ∀ x, v ≠ .dateTimeExtended x) :
    SameOutcome x y ∧ Readable dateToString x n v ∧ Readable dateToString y n v ↔
      n ≠ kmipAttrNameOperationPolicyName ∧ n ≠ kmipAttrNameUniqueIdentifierAlt ∧ (∀ x, v ≠ .dateTimeExtended x) ∧
        (n = kmipAttrNameCryptoAlg → v ≠ .enumeration 0) ∧ (n = kmipAttrNameCryptoUsageMask → v ≠ .integer 0) :=
  agree_iff_of_eq h (iff_of_true hread
    ⟨hn.1, hn.2.1, hv, fun heq => absurd heq hn.2.2.1, fun heq => absurd heq hn.2.2.2⟩)

end Outcomes

/-- **When the encodings agree.** A value of a standard attribute gives the same bag by name (KMIP 1.x) and by tag
(KMIP 2.0), in which it is read under that name, or both throw, if and only if

* the attribute is neither Operation Policy Name nor UniqueID,
* the value is not a Date Time Extended, and
* it is not the algorithm or the usage mask zero, which stand for none. -/
theorem parse_agrees_iff (dateToString : Int64 → Bytes) (n : Bytes) (t : Tag) (v : Value Element)
    (ht : standardAttributeNameToTag n = some t) (hv : HasKmipType t v) :
    SameOutcome (parse dateToString [makeAttribute n ⟨Tag.attributeValue, v.typeCode, v⟩])
          (parse dateToString [⟨t, v.typeCode, v⟩]) ∧
        Readable dateToString (parse dateToString [makeAttribute n ⟨Tag.attributeValue, v.typeCode, v⟩]) n v ∧
        Readable dateToString (parse dateToString [⟨t, v.typeCode, v⟩]) n v ↔
      n ≠ kmipAttrNameOperationPolicyName ∧ n ≠ kmipAttrNameUniqueIdentifierAlt ∧ (∀ x, v ≠ .dateTimeExtended x) ∧
        (n = kmipAttrNameCryptoAlg → v ≠ .enumeration 0) ∧ (n = kmipAttrNameCryptoUsageMask → v ≠ .integer 0) := by
  obtain ⟨rfl, rfl⟩ | ⟨rfl, rfl⟩ | ⟨hn, rfl⟩ | hd | ⟨rfl, rfl⟩ | ⟨rfl, rfl⟩ | ⟨rfl, rfl⟩ | ⟨rfl, rfl⟩ | ⟨rfl, rfl⟩ :=
    standardAttributeNameToTag_cases ht
  · obtain ⟨items, s, k, rfl, hs, -⟩ := hv
    exact agree_iff_of_plain (name_agrees dateToString hs) (readable_name dateToString hs)
      (ne_of_mem_plainNames _ (by simp)) nofun
  · obtain ⟨s, rfl⟩ := hv
    have h := @generic_agrees dateToString kmipAttrNameGroup Tag.objectGroup (.textString s) (by simp [genericNames])
      (by decide) rfl
    exact agree_iff_of_plain h (readable_text dateToString (by simp [genericNames]) s)
      (ne_of_mem_plainNames _ (by simp)) nofun
  · obtain ⟨s, rfl⟩ := hv
    have h := @generic_agrees dateToString kmipAttrNameUniqueIdentifier Tag.uniqueIdentifier (.textString s)
      (by simp [genericNames]) (by decide) rfl
    obtain rfl | rfl := hn
    · exact agree_iff_of_plain h (readable_text dateToString (by simp [genericNames]) s)
        (ne_of_mem_plainNames _ (by simp)) nofun
    · exact iff_of_false (fun hall => uniqueID_not_readable dateToString s hall.2.1) fun hall => hall.2.1 rfl
  · obtain ⟨hgen, hplain, hattr, htyped, htype⟩ := date_cases hd
    obtain ⟨x, rfl⟩ | ⟨x, rfl⟩ := htype v hv
    · exact agree_iff_of_plain (dateTime_agrees dateToString hgen hattr (htyped _) x)
        (readable_dateTime dateToString hgen x) hplain nofun
    · exact iff_of_false (fun hall => dateTimeExtended_disagrees dateToString hgen hattr (htyped _) x hall.1)
        fun hall => hall.2.2.1 x rfl
  · obtain ⟨x, rfl⟩ := hv
    exact agree_iff_of_plain (fields_agree dateToString x).2.2.2 (readable_state dateToString x)
      (ne_of_mem_plainNames _ (by simp)) nofun
  · obtain ⟨x, rfl⟩ := hv
    refine agree_iff_of_eq (fields_agree dateToString x).1 ((readable_algorithm_iff dateToString x).trans ?_)
    obtain ⟨⟨-, -, -, halt⟩, -, ⟨-, hmask⟩, -⟩ := distinct_specialNames
    simp [policyName_ne_special kmipAttrNameCryptoAlg (by simp [specialNames]), halt.symm, hmask.symm]
  · obtain ⟨x, rfl⟩ := hv
    exact agree_iff_of_plain (fields_agree dateToString x).2.1 (readable_length dateToString x)
      (ne_of_mem_plainNames _ (by simp)) nofun
  · obtain ⟨x, rfl⟩ := hv
    refine agree_iff_of_eq (fields_agree dateToString x).2.2.1 ((readable_usageMask_iff dateToString x).trans ?_)
    obtain ⟨⟨-, halt, -, -⟩, -, ⟨-, halg⟩, -⟩ := distinct_specialNames
    simp [policyName_ne_special kmipAttrNameCryptoUsageMask (by simp [specialNames]), halt.symm, halg]
  · obtain ⟨s, rfl⟩ := hv
    exact iff_of_false (fun hall => policyName_disagrees dateToString s hall.1) fun hall => hall.1 rfl

theorem parse_agrees_iff_state :
    SameOutcome
        (parse (fun _ => Bytes.empty) [makeAttribute kmipAttrNameState (createEnumeration Tag.attributeValue 2)])
        (parse (fun _ => Bytes.empty) [createEnumeration Tag.state 2]) ∧
      Readable (fun _ => Bytes.empty) (parse (fun _ => Bytes.empty) [createEnumeration Tag.state 2]) kmipAttrNameState
        (.enumeration 2) := by
  obtain ⟨hsame, -, htyped⟩ := (parse_agrees_iff (fun _ => Bytes.empty) kmipAttrNameState Tag.state (.enumeration 2)
    rfl ⟨2, rfl⟩).2
    ⟨by decide, by decide, nofun, fun h => absurd h (by decide), fun h => absurd h (by decide)⟩
  exact ⟨hsame, htyped⟩

/-- The policy name `p`, a date one second after the epoch in microseconds, and the id `u` under its old name. -/
theorem parse_disagrees :
    standardAttributeNameToTag kmipAttrNameOperationPolicyName = some Tag.operationPolicyName ∧
      ¬SameOutcome
        (parse (fun _ => Bytes.empty)
          [makeAttribute kmipAttrNameOperationPolicyName (createTextString Tag.attributeValue (.ofText "p"))])
        (parse (fun _ => Bytes.empty) [createTextString Tag.operationPolicyName (.ofText "p")]) ∧
      standardAttributeNameToTag kmipAttrNameActivationDate = some Tag.activationDate ∧
      ¬SameOutcome
        (parse (fun _ => Bytes.empty)
          [makeAttribute kmipAttrNameActivationDate (createDateTimeExtended Tag.attributeValue 1000000)])
        (parse (fun _ => Bytes.empty) [createDateTimeExtended Tag.activationDate 1000000]) ∧
      standardAttributeNameToTag kmipAttrNameUniqueIdentifierAlt = some Tag.uniqueIdentifier ∧
      ¬Readable (fun _ => Bytes.empty)
        (parse (fun _ => Bytes.empty)
          [makeAttribute kmipAttrNameUniqueIdentifierAlt (createTextString Tag.attributeValue (.ofText "u"))])
        kmipAttrNameUniqueIdentifierAlt (.textString (.ofText "u")) := by
  obtain ⟨hgen, -, hattr, htyped, -⟩ := @date_cases kmipAttrNameActivationDate Tag.activationDate List.mem_cons_self
  exact ⟨rfl, policyName_disagrees _ _, rfl, dateTimeExtended_disagrees _ hgen hattr (htyped _) _, rfl,
    uniqueID_not_readable _ _⟩

end Kmip.AttributesParser
