import Kmip.Core.Enums
import Kmip.Lib.Traced

/-!
# TTLV elements

An `Element` is a node of a TTLV tree: a tag, a type code and a value, which holds one of eleven alternatives. The type
code is a field of its own, as in the source, and need not match the alternative; `Element.WellFormed` says that it
does. Facts about every node of a tree are stated with `Element.Forall`.
-/

namespace Kmip

/-- A byte vector, string or span. No C++ object holds `2 ^ 63` bytes or more. -/
structure Bytes where
  bytes : List UInt8
  size_lt : bytes.length < 2 ^ 63
deriving DecidableEq

namespace Bytes

/-- `size()`. -/
def size (b : Bytes) : Nat := b.bytes.length

@[ext] theorem ext {a b : Bytes} (h : a.bytes = b.bytes) : a = b := by
  cases a
  cases b
  congr

/-- `subspan(off, n)`. -/
def subspan (b : Bytes) (off n : Nat) : Bytes :=
  ⟨(b.bytes.drop off).take n, by
    have := b.size_lt
    simp only [List.length_take, List.length_drop]
    omega⟩

/-- A view that starts at zero. -/
theorem bytes_subspan_zero (b : Bytes) (n : Nat) : (b.subspan 0 n).bytes = b.bytes.take n := rfl

theorem length_subspan {b : Bytes} {n : Nat} (h : n ≤ b.size) : (b.subspan 0 n).bytes.length = n := by
  rw [bytes_subspan_zero, List.length_take]
  exact Nat.min_eq_left h

/-- The empty vector. -/
def empty : Bytes := ⟨[], by decide⟩

end Bytes

/-- `Value`: the variant of the eleven TTLV value types, over the type of the nested elements. -/
inductive Value (E : Type) where
  | struct (items : List E)
  | integer (value : Int32)
  | longInteger (value : Int64)
  | bigInteger (value : Bytes)
  | enumeration (value : Int32)
  | boolean (value : Bool)
  | textString (value : Bytes)
  | byteString (value : Bytes)
  | dateTime (value : Int64)
  | dateTimeExtended (value : Int64)
  | interval (value : UInt32)

/-- A TTLV node. Children are shared pointers in the source; a null child is not a tree. -/
structure Element where
  tag : Tag
  type : TypeCode
  value : Value Element

/-- The type code of the alternative that a value holds. -/
def Value.typeCode {E : Type} : Value E → TypeCode
  | .struct _ => TypeCode.struct
  | .integer _ => TypeCode.integer
  | .longInteger _ => TypeCode.longInteger
  | .bigInteger _ => TypeCode.bigInteger
  | .enumeration _ => TypeCode.enumeration
  | .boolean _ => TypeCode.boolean
  | .textString _ => TypeCode.textString
  | .byteString _ => TypeCode.byteString
  | .dateTime _ => TypeCode.dateTime
  | .dateTimeExtended _ => TypeCode.dateTimeExtended
  | .interval _ => TypeCode.interval

/-- Type codes take one byte. -/
theorem Value.typeCode_lt {E : Type} (v : Value E) : v.typeCode.toNat < 256 := by
  cases v <;> simp [typeCode, TypeCode.struct, TypeCode.integer, TypeCode.longInteger, TypeCode.bigInteger,
    TypeCode.enumeration, TypeCode.boolean, TypeCode.textString, TypeCode.byteString, TypeCode.dateTime,
    TypeCode.dateTimeExtended, TypeCode.interval]

/-- Only structures have the type code of a structure. -/
theorem Value.eq_struct {E : Type} {v : Value E} (h : v.typeCode = TypeCode.struct) : ∃ items, v = .struct items := by
  cases v with
  | struct items => exact ⟨items, rfl⟩
  | _ => exact absurd h (by simp only [typeCode]; decide)

namespace Element

/-! ## Factories and accessors -/

def createStructure (t : Tag) (items : List Element) : Element := ⟨t, TypeCode.struct, .struct items⟩
def createInteger (t : Tag) (v : Int32) : Element := ⟨t, TypeCode.integer, .integer v⟩
def createLongInteger (t : Tag) (v : Int64) : Element := ⟨t, TypeCode.longInteger, .longInteger v⟩
def createBigInteger (t : Tag) (v : Bytes) : Element := ⟨t, TypeCode.bigInteger, .bigInteger v⟩
def createEnumeration (t : Tag) (v : Int32) : Element := ⟨t, TypeCode.enumeration, .enumeration v⟩
def createBoolean (t : Tag) (v : Bool) : Element := ⟨t, TypeCode.boolean, .boolean v⟩
def createTextString (t : Tag) (v : Bytes) : Element := ⟨t, TypeCode.textString, .textString v⟩
def createByteString (t : Tag) (v : Bytes) : Element := ⟨t, TypeCode.byteString, .byteString v⟩
def createDateTime (t : Tag) (v : Int64) : Element := ⟨t, TypeCode.dateTime, .dateTime v⟩
def createDateTimeExtended (t : Tag) (v : Int64) : Element := ⟨t, TypeCode.dateTimeExtended, .dateTimeExtended v⟩
def createInterval (t : Tag) (v : UInt32) : Element := ⟨t, TypeCode.interval, .interval v⟩

/-- The children of a structure; none for the other alternatives. -/
def asStructure (e : Element) : Option (List Element) :=
  match e.value with
  | .struct items => some items
  | _ => none

/-- The first direct child with the given tag. -/
def getChild (e : Element) (childTag : Tag) : Option Element :=
  match e.value with
  | .struct items => items.find? (fun item => item.tag == childTag)
  | _ => none

/-- All direct children with the given tag. -/
def getChildren (e : Element) (childTag : Tag) : List Element :=
  match e.value with
  | .struct items => items.filter (fun item => item.tag == childTag)
  | _ => []

def toInt (e : Element) : Except Abort Int32 :=
  match e.value with
  | .integer v => .ok v
  | _ => .error (.message "Element is not Integer")

def toLong (e : Element) : Except Abort Int64 :=
  match e.value with
  | .longInteger v => .ok v
  | .dateTime v => .ok v
  | .dateTimeExtended v => .ok v
  | _ => .error (.message "Element is not Long/DateTime/DateTimeExtended")

def toBool (e : Element) : Except Abort Bool :=
  match e.value with
  | .boolean v => .ok v
  | _ => .error (.message "Element is not Boolean")

def toString (e : Element) : Except Abort Bytes :=
  match e.value with
  | .textString v => .ok v
  | _ => .error (.message "Element is not TextString")

def toBytes (e : Element) : Except Abort Bytes :=
  match e.value with
  | .byteString v => .ok v
  | .bigInteger v => .ok v
  | _ => .error (.message "Element is not ByteString/BigInteger")

def toEnum (e : Element) : Except Abort Int32 :=
  match e.value with
  | .enumeration v => .ok v
  | _ => .error (.message "Element is not Enumeration")

def toInterval (e : Element) : Except Abort UInt32 :=
  match e.value with
  | .interval v => .ok v
  | _ => .error (.message "Element is not Interval")

@[simp] theorem tag_createStructure (t : Tag) (items : List Element) : (createStructure t items).tag = t := rfl

@[simp] theorem tag_createInteger (t : Tag) (v : Int32) : (createInteger t v).tag = t := rfl

@[simp] theorem tag_createEnumeration (t : Tag) (v : Int32) : (createEnumeration t v).tag = t := rfl

@[simp] theorem tag_createTextString (t : Tag) (v : Bytes) : (createTextString t v).tag = t := rfl

theorem getChild_createStructure (t childTag : Tag) (items : List Element) :
    (createStructure t items).getChild childTag = items.find? (fun item => item.tag == childTag) := rfl

theorem getChildren_createStructure (t childTag : Tag) (items : List Element) :
    (createStructure t items).getChildren childTag = items.filter (fun item => item.tag == childTag) := rfl

/-! ## Facts about every node -/

/-- Induction on a tree: a structure from its children, and the other alternatives. -/
theorem induction {P : Element → Prop} (hs : ∀ t ty items, (∀ c ∈ items, P c) → P ⟨t, ty, .struct items⟩)
    (hl : ∀ t ty v, (∀ items, v ≠ .struct items) → P ⟨t, ty, v⟩) (e : Element) : P e := by
  refine @Element.rec P (fun v => ∀ items, v = .struct items → ∀ c ∈ items, P c) (fun l => ∀ c ∈ l, P c)
    ?_ ?_ ?_ ?_ ?_ ?_ ?_ ?_ ?_ ?_ ?_ ?_ ?_ ?_ e
  case refine_1 =>
    intro t ty v ih
    cases v with
    | struct items => exact hs t ty items (ih items rfl)
    | _ => exact hl t ty _ (fun _ h => by cases h)
  case refine_2 =>
    intro items ih items' h
    cases h
    exact ih
  case refine_13 => intro c hc; cases hc
  case refine_14 =>
    intro c l hc hl d hd
    rcases List.mem_cons.1 hd with rfl | hd
    · exact hc
    · exact hl d hd
  all_goals intro _ _ h; cases h

mutual

/-- `P` holds at every node of the tree. -/
def Forall (P : Element → Prop) : Element → Prop
  | ⟨t, ty, v⟩ => P ⟨t, ty, v⟩ ∧ valueForall P v

/-- `P` holds at every node below a value. -/
def valueForall (P : Element → Prop) : Value Element → Prop
  | .struct items => itemsForall P items
  | _ => True

/-- `P` holds at every node of every tree of the list. -/
def itemsForall (P : Element → Prop) : List Element → Prop
  | [] => True
  | e :: es => Forall P e ∧ itemsForall P es

end

section Decidable

variable (P : Element → Prop) [DecidablePred P]

mutual

def decidableForall : (e : Element) → Decidable (Forall P e)
  | ⟨t, ty, v⟩ => @instDecidableAnd (P ⟨t, ty, v⟩) (valueForall P v) _ (decidableValueForall v)

def decidableValueForall : (v : Value Element) → Decidable (valueForall P v)
  | .struct items => decidableItemsForall items
  | .integer _ | .longInteger _ | .bigInteger _ | .enumeration _ | .boolean _ | .textString _ | .byteString _
  | .dateTime _ | .dateTimeExtended _ | .interval _ => .isTrue trivial

def decidableItemsForall : (items : List Element) → Decidable (itemsForall P items)
  | [] => .isTrue trivial
  | e :: es => @instDecidableAnd (Forall P e) (itemsForall P es) (decidableForall e) (decidableItemsForall es)

end

instance : DecidablePred (Forall P) := decidableForall P

end Decidable

theorem itemsForall_iff {P : Element → Prop} : ∀ {items : List Element},
    itemsForall P items ↔ ∀ c ∈ items, Forall P c
  | [] => by simp [itemsForall]
  | e :: es => by simp [itemsForall, @itemsForall_iff P es]

theorem forall_structure {P : Element → Prop} {t : Tag} {ty : TypeCode} {items : List Element} :
    Forall P ⟨t, ty, .struct items⟩ ↔ P ⟨t, ty, .struct items⟩ ∧ ∀ c ∈ items, Forall P c := by
  rw [Forall, valueForall, itemsForall_iff]

/-- A node without children. -/
theorem forall_primitive {P : Element → Prop} {t : Tag} {ty : TypeCode} {v : Value Element}
    (hv : v.typeCode ≠ TypeCode.struct) : Forall P ⟨t, ty, v⟩ ↔ P ⟨t, ty, v⟩ := by
  rw [Forall]
  cases v with
  | struct items => exact absurd rfl hv
  | _ => simp [valueForall]

theorem Forall.root {P : Element → Prop} : ∀ {e : Element}, Forall P e → P e
  | ⟨_, _, _⟩, h => by rw [Forall] at h; exact h.1

mutual

/-- How many levels the deepest node lies below the root. -/
def height : Element → Nat
  | ⟨_, _, v⟩ => valueHeight v

def valueHeight : Value Element → Nat
  | .struct items => itemsHeight items
  | _ => 0

/-- The height of a structure with these children. -/
def itemsHeight : List Element → Nat
  | [] => 0
  | e :: es => max (height e + 1) (itemsHeight es)

end

theorem height_primitive {t : Tag} {ty : TypeCode} {v : Value Element} (hv : v.typeCode ≠ TypeCode.struct) :
    height ⟨t, ty, v⟩ = 0 := by
  rw [height]
  cases v with
  | struct items => exact absurd rfl hv
  | _ => rfl

theorem itemsHeight_le_iff {n : Nat} : ∀ {items : List Element},
    itemsHeight items ≤ n ↔ ∀ c ∈ items, height c + 1 ≤ n
  | [] => by simp [itemsHeight]
  | e :: es => by simp [itemsHeight, @itemsHeight_le_iff n es]

/-- The tag fits in 24 bits and the type code is that of the alternative. -/
def NodeOk (e : Element) : Prop := e.tag.toNat < 2 ^ 24 ∧ e.type = e.value.typeCode

instance : DecidablePred NodeOk := fun e =>
  inferInstanceAs (Decidable (e.tag.toNat < 2 ^ 24 ∧ e.type = e.value.typeCode))

/-- Every node has a 24-bit tag and a type code that matches its value. -/
def WellFormed (e : Element) : Prop := Forall NodeOk e

instance : DecidablePred WellFormed := inferInstanceAs (DecidablePred (Forall NodeOk))

/-! ## What the factories build -/

/-- A tree that is well formed and at most `n` levels high. -/
structure Carried (n : Nat) (e : Element) : Prop where
  wellFormed : WellFormed e
  height_le : e.height ≤ n

theorem Carried.mono {m n : Nat} {e : Element} (h : Carried m e) (hle : m ≤ n) : Carried n e :=
  ⟨h.wellFormed, h.height_le.trans hle⟩

section Factories

variable {t : Tag} {n : Nat} (ht : t.toNat < 2 ^ 24)

include ht

theorem carried_primitive {v : Value Element} (hv : v.typeCode ≠ TypeCode.struct) : Carried n ⟨t, v.typeCode, v⟩ := by
  refine ⟨(forall_primitive hv).2 ⟨ht, rfl⟩, ?_⟩
  rw [height_primitive hv]
  exact Nat.zero_le n

/-- A structure is one level higher than its items. -/
theorem carried_createStructure {items : List Element} (h : ∀ c ∈ items, Carried n c) :
    Carried (n + 1) (createStructure t items) := by
  refine ⟨forall_structure.2 ⟨⟨ht, rfl⟩, fun c hc => (h c hc).wellFormed⟩, ?_⟩
  rw [createStructure, height, valueHeight, itemsHeight_le_iff]
  exact fun c hc => Nat.succ_le_succ (h c hc).height_le

theorem carried_createInteger (v : Int32) : Carried n (createInteger t v) :=
  @carried_primitive t n ht (.integer v) (show TypeCode.integer ≠ _ by decide)

theorem carried_createEnumeration (v : Int32) : Carried n (createEnumeration t v) :=
  @carried_primitive t n ht (.enumeration v) (show TypeCode.enumeration ≠ _ by decide)

theorem carried_createBoolean (v : Bool) : Carried n (createBoolean t v) :=
  @carried_primitive t n ht (.boolean v) (show TypeCode.boolean ≠ _ by decide)

theorem carried_createTextString (v : Bytes) : Carried n (createTextString t v) :=
  @carried_primitive t n ht (.textString v) (show TypeCode.textString ≠ _ by decide)

theorem carried_createByteString (v : Bytes) : Carried n (createByteString t v) :=
  @carried_primitive t n ht (.byteString v) (show TypeCode.byteString ≠ _ by decide)

theorem carried_createDateTime (v : Int64) : Carried n (createDateTime t v) :=
  @carried_primitive t n ht (.dateTime v) (show TypeCode.dateTime ≠ _ by decide)

end Factories

end Element

end Kmip
