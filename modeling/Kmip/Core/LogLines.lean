import Kmip.Core.Redaction
import Kmip.Lib.Lines

/-!
# The lines of the formatter

The text of a tree has one line for each node that is visited, in preorder, and one for each structure without children
(`outline`). Every piece of a line is free of newlines, whatever the values are (`OneLine`), so that the lines are those
that the newlines of the text separate (`formatElement_lines`): content cannot add, remove or split one. What is in
quotes can be read back (`quoteString_injective`).
-/

namespace Kmip.Formatter

open Element

/-! ## Texts of one line -/

/-- There is no newline in the text. -/
def OneLine (text : String) : Prop := '\n' ∉ text.toList

instance (text : String) : Decidable (OneLine text) := inferInstanceAs (Decidable (_ ∉ _))

@[simp] theorem oneLine_append {s t : String} : OneLine (s ++ t) ↔ OneLine s ∧ OneLine t := by
  unfold OneLine
  rw [String.toList_append, List.mem_append, not_or]

theorem oneLine_ofList {l : List Char} (h : '\n' ∉ l) : OneLine (String.ofList l) := by
  unfold OneLine
  rwa [String.toList_ofList]

/-! ### Numbers -/

theorem exists_digitChar {b n : Nat} (hb : 0 < b) {c : Char} : ∀ {fuel : Nat} {acc : List Char},
    c ∈ Nat.toDigitsCore b fuel n acc → c ∈ acc ∨ ∃ d < b, c = Nat.digitChar d := by
  intro fuel
  induction fuel generalizing n with
  | zero => exact fun h => Or.inl h
  | succ fuel ih =>
    intro acc h
    have hcons : c ∈ Nat.digitChar (n % b) :: acc → c ∈ acc ∨ ∃ d < b, c = Nat.digitChar d := by
      intro h
      rcases List.mem_cons.1 h with rfl | h
      · exact Or.inr ⟨_, Nat.mod_lt n hb, rfl⟩
      · exact Or.inl h
    rw [Nat.toDigitsCore] at h
    split at h
    · exact hcons h
    · rcases ih h with h | h
      · exact hcons h
      · exact Or.inr h

/-- The digits of a number. -/
theorem exists_digit {b n : Nat} (hb : 0 < b) {c : Char} (h : c ∈ Nat.toDigits b n) :
    ∃ d < b, c = Nat.digitChar d := by
  rcases exists_digitChar hb h with h | h
  · cases h
  · exact h

theorem digitChar_ne_newline : ∀ d < 16, Nat.digitChar d ≠ '\n' ∧ (Nat.digitChar d).toUpper ≠ '\n' := by decide

@[simp] theorem oneLine_natRepr (n : Nat) : OneLine (Nat.repr n) := by
  refine oneLine_ofList fun h => ?_
  obtain ⟨d, hlt, hd⟩ := exists_digit (by decide) h
  exact (digitChar_ne_newline d (by omega)).1 hd.symm

@[simp] theorem oneLine_intRepr (n : Int) : OneLine (Int.repr n) := by
  cases n with
  | ofNat m => exact oneLine_natRepr m
  | negSucc m => simp +decide [Int.repr]

@[simp] theorem oneLine_hex (width n : Nat) : OneLine (hex width n) := by
  refine oneLine_ofList ?_
  rw [List.mem_append, not_or]
  refine ⟨fun h => absurd (List.eq_of_mem_replicate h) (by decide), fun h => ?_⟩
  obtain ⟨c, hc, hupper⟩ := List.mem_map.1 h
  obtain ⟨d, hlt, rfl⟩ := exists_digit (by decide) hc
  exact (digitChar_ne_newline d hlt).2 hupper

@[simp] theorem oneLine_formatHexUint (value width : Nat) : OneLine (formatHexUint value width) := by
  simp +decide [formatHexUint]

@[simp] theorem oneLine_bytesToHex (bytes : Bytes) : OneLine (bytesToHex bytes) := by
  unfold bytesToHex OneLine
  rw [String.toList_intercalate]
  refine notMem_intercalate (by decide) fun part hpart => ?_
  simp only [List.mem_map] at hpart
  obtain ⟨_, ⟨b, -, rfl⟩, rfl⟩ := hpart
  exact oneLine_hex 2 b.toNat

theorem oneLine_formatBytes (value : Bytes) : OneLine (formatBytes value) := by simp +decide [formatBytes]

/-! ### Names -/

theorem oneLine_lookup {α : Type} [BEq α] [LawfulBEq α] {table : List (α × String)} {key : α} {name : String}
    (hlookup : table.lookup key = some name) (h : ∀ entry ∈ table, OneLine entry.2) : OneLine name := by
  obtain ⟨before, after, rfl, -⟩ := List.lookup_eq_some_iff.1 hlookup
  exact h (key, name) (by simp)

@[simp] theorem oneLine_typeName (type : TypeCode) : OneLine (typeName type) := by
  unfold typeName
  cases h : typeNames.lookup type with
  | none => decide
  | some name => exact oneLine_lookup h (by decide +kernel)

theorem oneLine_stateToString (value : ObjectState) : OneLine (stateToString value) := by
  unfold stateToString
  cases h : List.lookup value _ with
  | none => decide
  | some name => exact oneLine_lookup h (by decide +kernel)

theorem oneLine_enumValueName (tag : Tag) (value : Int32) : OneLine (enumValueName tag value) := by
  unfold enumValueName
  dsimp only
  split
  · rename_i name hname
    suffices OneLine name by simpa +decide
    rcases ite_eq_iff.1 hname with ⟨-, hname⟩ | ⟨-, hname⟩
    · exact oneLine_lookup hname (by decide +kernel)
    rcases ite_eq_iff.1 hname with ⟨-, hname⟩ | ⟨-, hname⟩
    · exact oneLine_lookup hname (by decide +kernel)
    rcases ite_eq_iff.1 hname with ⟨-, hname⟩ | ⟨-, hname⟩
    · exact oneLine_lookup hname (by decide +kernel)
    rcases ite_eq_iff.1 hname with ⟨-, hname⟩ | ⟨-, hname⟩
    · exact oneLine_lookup hname (by decide +kernel)
    rcases ite_eq_iff.1 hname with ⟨-, hname⟩ | ⟨-, hname⟩
    · exact oneLine_lookup hname (by decide +kernel)
    rcases ite_eq_iff.1 hname with ⟨-, hname⟩ | ⟨-, hname⟩
    · exact oneLine_lookup hname (by decide +kernel)
    rcases ite_eq_iff.1 hname with ⟨-, hname⟩ | ⟨-, hname⟩
    · exact oneLine_lookup hname (by decide +kernel)
    rcases ite_eq_iff.1 hname with ⟨-, hname⟩ | ⟨-, hname⟩
    · cases hname
      exact oneLine_stateToString _
    rcases ite_eq_iff.1 hname with ⟨-, hname⟩ | ⟨-, hname⟩
    · exact oneLine_lookup hname (by decide +kernel)
    · cases hname
  · simp +decide

/-! ### Quoted texts -/

/-- The characters that are quoted, and what stands for them behind a backslash. -/
def escapes : List (Char × Char) := [('\\', '\\'), ('"', '"'), ('\n', 'n'), ('\r', 'r'), ('\t', 't')]

theorem quoteChar_cases (ch : Char) :
    (∃ m, (ch, m) ∈ escapes ∧ quoteChar ch = ['\\', m]) ∨ ch ≠ '\\' ∧ ch ≠ '\n' ∧ quoteChar ch = [ch] := by
  unfold quoteChar
  split
  · exact Or.inl ⟨_, by decide, rfl⟩
  · exact Or.inl ⟨_, by decide, rfl⟩
  · exact Or.inl ⟨_, by decide, rfl⟩
  · exact Or.inl ⟨_, by decide, rfl⟩
  · exact Or.inl ⟨_, by decide, rfl⟩
  · rename_i hbackslash _ hnewline _ _
    exact Or.inr ⟨hbackslash, hnewline, rfl⟩

theorem escapes_unique : ∀ p ∈ escapes, ∀ q ∈ escapes, p.2 = q.2 → p.1 = q.1 := by decide

theorem newline_notMem_quoteChar (ch : Char) : '\n' ∉ quoteChar ch := by
  have hescapes : ∀ p ∈ escapes, '\n' ∉ ['\\', p.2] := by decide
  rcases quoteChar_cases ch with ⟨m, hm, hq⟩ | ⟨-, hne, hq⟩
  · rw [hq]
    exact hescapes _ hm
  · rw [hq, List.mem_singleton]
    exact hne.symm

theorem oneLine_quoteString (value : Bytes) : OneLine (quoteString value) := by
  unfold quoteString
  suffices OneLine (String.ofList ((textOf value.bytes).toList.flatMap quoteChar)) by simpa +decide
  refine oneLine_ofList fun h => ?_
  obtain ⟨ch, -, hch⟩ := List.mem_flatMap.1 h
  exact newline_notMem_quoteChar ch hch

theorem quoteChar_ne_nil (ch : Char) : quoteChar ch ≠ [] := by
  rcases quoteChar_cases ch with ⟨m, -, hq⟩ | ⟨-, -, hq⟩
  · simp [hq]
  · simp [hq]

/-- No quoted character starts another: a backslash is never a character that stands for itself. -/
theorem quoteChar_code (a b : Char) (x y : List Char) (h : quoteChar a ++ x = quoteChar b ++ y) : a = b ∧ x = y := by
  rcases quoteChar_cases a with ⟨m, hm, ha⟩ | ⟨hane, -, ha⟩
  · rcases quoteChar_cases b with ⟨n, hn, hb⟩ | ⟨hbne, -, hb⟩
    · rw [ha, hb] at h
      simp only [List.cons_append, List.nil_append, List.cons.injEq, true_and] at h
      exact ⟨escapes_unique _ hm _ hn h.1, h.2⟩
    · rw [ha, hb] at h
      exact absurd (List.cons.inj h).1.symm hbne
  · rcases quoteChar_cases b with ⟨n, hn, hb⟩ | ⟨hbne, -, hb⟩
    · rw [ha, hb] at h
      exact absurd (List.cons.inj h).1 hane
    · rw [ha, hb] at h
      exact List.cons.inj h

theorem toNat_ofNat_of_lt : ∀ n < 2 ^ 8, (Char.ofNat n).toNat = n := by decide +kernel

theorem textOf_injective : Function.Injective textOf := by
  intro bytes bytes' h
  have hmap := congrArg String.toList h
  unfold textOf at hmap
  rw [String.toList_ofList, String.toList_ofList] at hmap
  refine List.map_injective_iff.2 ?_ hmap
  intro b b' hb
  have hnat := congrArg Char.toNat hb
  dsimp only at hnat
  rw [toNat_ofNat_of_lt _ b.toNat_lt, toNat_ofNat_of_lt _ b'.toNat_lt] at hnat
  exact UInt8.toNat_inj.1 hnat

/-- The quotes enclose a code word for each character. -/
theorem toList_quoteString (value : Bytes) :
    (quoteString value).toList = '"' :: ((textOf value.bytes).toList.flatMap quoteChar ++ ['"']) := by
  have hquote : ("\"" : String).toList = ['"'] := by decide
  unfold quoteString
  rw [String.toList_append, String.toList_append, hquote, String.toList_ofList, List.append_assoc, List.cons_append,
    List.nil_append]

theorem quoteString_injective : Function.Injective quoteString := by
  intro value value' h
  have hlist := congrArg String.toList h
  rw [toList_quoteString, toList_quoteString] at hlist
  have hwords := List.append_cancel_right (List.cons.inj hlist).2
  have htext := flatMap_injective quoteChar_ne_nil quoteChar_code hwords
  have hbytes := textOf_injective (String.toList_inj.1 htext)
  cases value
  cases value'
  cases hbytes
  rfl

/-! ## Values -/

section Values

variable {utcTime : Int64 → String} (htime : ∀ seconds, OneLine (utcTime seconds))

include htime

theorem oneLine_formatDatetime (seconds : Int64) : OneLine (formatDatetime utcTime seconds) := by
  simp +decide [formatDatetime, htime seconds]

theorem oneLine_formatValue {e : Element} {text : String} (h : formatValue utcTime e = .ok text) : OneLine text := by
  -- the value that was read, and its text
  have hread {α : Type} {m : Except Abort α} {f : α → String} (hf : ∀ a, OneLine (f a))
      (h : (do .ok (f (← m))) = (.ok text : Except Abort String)) : OneLine text := by
    obtain ⟨a, -, h⟩ := Except.bind_eq_ok_iff.1 h
    cases h
    exact hf a
  unfold formatValue at h
  rcases ite_eq_iff.1 h with ⟨-, h⟩ | ⟨-, h⟩
  · exact hread (fun _ => oneLine_intRepr _) h
  rcases ite_eq_iff.1 h with ⟨-, h⟩ | ⟨-, h⟩
  · exact hread (fun _ => oneLine_intRepr _) h
  rcases ite_eq_iff.1 h with ⟨-, h⟩ | ⟨-, h⟩
  · exact hread oneLine_formatBytes h
  rcases ite_eq_iff.1 h with ⟨-, h⟩ | ⟨-, h⟩
  · exact hread (oneLine_enumValueName e.tag) h
  rcases ite_eq_iff.1 h with ⟨-, h⟩ | ⟨-, h⟩
  · exact hread (fun value => by cases value <;> decide) h
  rcases ite_eq_iff.1 h with ⟨-, h⟩ | ⟨-, h⟩
  · exact hread oneLine_quoteString h
  rcases ite_eq_iff.1 h with ⟨-, h⟩ | ⟨-, h⟩
  · exact hread oneLine_formatBytes h
  rcases ite_eq_iff.1 h with ⟨-, h⟩ | ⟨-, h⟩
  · exact hread (oneLine_formatDatetime htime) h
  rcases ite_eq_iff.1 h with ⟨-, h⟩ | ⟨-, h⟩
  · exact hread (fun _ => oneLine_natRepr _) h
  · cases h
    decide

omit htime in
theorem oneLine_redactedValueSummary {e : Element} {text : String} (h : redactedValueSummary e = .ok text) :
    OneLine text := by
  obtain ⟨len, -, h⟩ := Except.bind_eq_ok_iff.1 h
  cases h
  cases len with
  | none => simp +decide
  | some len => simp +decide

end Values

/-! ## The lines of a tree -/

/-- What a line is about: a node, or that a structure has no children. -/
inductive Visit where
  | node (tag : Tag) (type : TypeCode) (depth : Nat)
  | empty (depth : Nat)

namespace Visit

def depth : Visit → Nat
  | node _ _ depth => depth
  | empty depth => depth

/-- How the line starts. -/
def head : Visit → String
  | node tag type depth => lineHead tag type depth
  | empty depth => indent depth ++ "<empty>"

end Visit

mutual

/-- The lines of a tree, in preorder. What is below a sensitive node is not visited. -/
def outline : Element → Nat → List Visit
  | ⟨tag, type, value⟩, depth => .node tag type depth :: if isSensitiveTag tag then [] else outlineBelow value depth

def outlineBelow : Value Element → Nat → List Visit
  | .struct items, depth => if items.isEmpty then [.empty (depth + 1)] else outlineItems items (depth + 1)
  | _, _ => []

def outlineItems : List Element → Nat → List Visit
  | [], _ => []
  | child :: items, depth => outline child depth ++ outlineItems items depth

end

/-- The line of a visit: as it should start, with two blanks for each level and no more. -/
structure IsLine (visit : Visit) (line : List Char) : Prop where
  head : visit.head.toList <+: line
  whole : ∀ depth, visit = .empty depth → line = visit.head.toList
  indented : line.takeWhile (· = ' ') = List.replicate (2 * visit.depth) ' '

theorem takeWhile_indent {depth : Nat} {c : Char} (hc : c ≠ ' ') (rest : List Char) :
    (List.replicate (depth * 2) ' ' ++ c :: rest).takeWhile (· = ' ') = List.replicate (2 * depth) ' ' := by
  rw [List.takeWhile_append_of_pos (by simp), List.takeWhile_cons_of_neg (by simpa using hc), List.append_nil,
    Nat.mul_comm]

theorem toList_indent (depth : Nat) : (indent depth).toList = List.replicate (depth * 2) ' ' := String.toList_ofList

@[simp] theorem oneLine_indent (depth : Nat) : OneLine (indent depth) :=
  oneLine_ofList fun h => absurd (List.eq_of_mem_replicate h) (by decide)

/-- Tag names are names: they have no newline, are not empty, and do not start with a blank. -/
theorem tagName_spec (tag : Tag) :
    OneLine ((tagName tag).getD "UnknownTag") ∧
      ∃ c rest, ((tagName tag).getD "UnknownTag").toList = c :: rest ∧ c ≠ ' ' := by
  have hnames : ∀ entry ∈ tagNames, OneLine entry.2 ∧ entry.2.toList.head?.any (· ≠ ' ') := by decide +kernel
  have hhead {l : List Char} (h : l.head?.any (· ≠ ' ')) : ∃ c rest, l = c :: rest ∧ c ≠ ' ' := by
    cases l with
    | nil => cases h
    | cons c rest => exact ⟨c, rest, rfl, of_decide_eq_true h⟩
  unfold tagName
  cases h : tagNames.lookup tag with
  | none => exact ⟨by decide, hhead (by decide)⟩
  | some name =>
    obtain ⟨before, after, heq, -⟩ := List.lookup_eq_some_iff.1 h
    obtain ⟨hline, hstart⟩ := hnames (tag, name) (by rw [heq]; simp)
    exact ⟨hline, hhead hstart⟩

@[simp] theorem oneLine_lineHead (tag : Tag) (type : TypeCode) (depth : Nat) : OneLine (lineHead tag type depth) := by
  simp +decide [lineHead, (tagName_spec tag).1]

theorem isLine_node (tag : Tag) (type : TypeCode) (depth : Nat) (rest : String) :
    IsLine (.node tag type depth) (lineHead tag type depth ++ rest).toList := by
  refine ⟨?_, by rintro _ ⟨⟩, ?_⟩
  · rw [String.toList_append]
    exact List.prefix_append _ _
  · obtain ⟨c, name, hname, hc⟩ := (tagName_spec tag).2
    unfold lineHead
    simp only [String.toList_append, toList_indent, hname, List.append_assoc, List.cons_append]
    exact takeWhile_indent hc _

theorem isLine_empty (depth : Nat) : IsLine (.empty depth) (indent depth ++ "<empty>").toList := by
  have hempty : ("<empty>" : String).toList = '<' :: "empty>".toList := by decide
  refine ⟨List.prefix_rfl, fun _ _ => rfl, ?_⟩
  rw [String.toList_append, toList_indent, hempty]
  exact takeWhile_indent (by decide) _

/-- The text has the lines of some visits. -/
def Writes (text : String) (visits : List Visit) : Prop := LinesFor '\n' IsLine visits text.toList

theorem Writes.append {s t : String} {visits visits' : List Visit} (hs : Writes s visits) (ht : Writes t visits') :
    Writes (s ++ t) (visits ++ visits') := by
  unfold Writes
  rw [String.toList_append]
  exact LinesFor.append hs ht

theorem writes_line {line : String} {visit : Visit} (hone : OneLine line) (h : IsLine visit line.toList) :
    Writes (line ++ "\n") [visit] := by
  unfold Writes
  rw [String.toList_append]
  exact LinesFor.line hone h

/-- The line of a node, whatever is in it behind its head. -/
theorem writes_node (tag : Tag) (type : TypeCode) (depth : Nat) {rest : String} (hrest : OneLine rest) :
    Writes (lineHead tag type depth ++ rest ++ "\n") [.node tag type depth] :=
  writes_line (by simp [hrest]) (isLine_node tag type depth rest)

theorem writes_value (tag : Tag) (type : TypeCode) (depth : Nat) {value : String} (hvalue : OneLine value) :
    Writes (lineHead tag type depth ++ " = " ++ value ++ "\n") [.node tag type depth] := by
  have hnode := @writes_node tag type depth (" = " ++ value) (by simpa +decide)
  rwa [← String.append_assoc] at hnode

section Lines

variable {utcTime : Int64 → String} (htime : ∀ seconds, OneLine (utcTime seconds))

theorem formatItems_writes {items : List Element}
    (h : ∀ c ∈ items, ∀ depth text, formatElementImpl utcTime c depth = .ok text → Writes text (outline c depth)) :
    ∀ depth text, formatItems utcTime items depth = .ok text → Writes text (outlineItems items depth) := by
  induction items with
  | nil =>
    intro depth text ht
    cases ht
    exact LinesFor.nil
  | cons c items ih =>
    intro depth text ht
    rw [List.forall_mem_cons] at h
    rw [formatItems] at ht
    obtain ⟨first, hfirst, ht⟩ := Except.bind_eq_ok_iff.1 ht
    obtain ⟨rest, hrest, ht⟩ := Except.bind_eq_ok_iff.1 ht
    cases ht
    exact (h.1 depth first hfirst).append (ih h.2 depth rest hrest)

/-- The line of a subtree that is not entered. -/
theorem writes_subtree (tag : Tag) (type : TypeCode) (depth : Nat) :
    Writes (lineHead tag type depth ++ " = <redacted sensitive subtree>\n") [.node tag type depth] := by
  have htext : " = <redacted sensitive subtree>\n" = " = <redacted sensitive subtree>" ++ "\n" := by decide
  rw [htext, ← String.append_assoc]
  exact writes_node tag type depth (by decide)

theorem writes_empty (depth : Nat) : Writes (indent depth ++ "<empty>\n") [.empty depth] := by
  have htext : "<empty>\n" = "<empty>" ++ "\n" := by decide
  rw [htext, ← String.append_assoc]
  exact writes_line (by simp +decide) (isLine_empty depth)

/-- A structure that is entered: its line, and the lines of its children or the one that says that there are none. -/
theorem formatNode_struct_writes {tag : Tag} {type : TypeCode} {items : List Element}
    (h : ∀ depth text, formatItems utcTime items depth = .ok text → Writes text (outlineItems items depth))
    (depth : Nat) (text : String) (ht : formatNode utcTime tag type (.struct items) depth = .ok text) :
    Writes text (.node tag type depth :: outlineBelow (.struct items) depth) := by
  have hhead : Writes (lineHead tag type depth ++ "\n") [.node tag type depth] := by
    have hnode := @writes_node tag type depth "" (by decide)
    rwa [String.append_empty] at hnode
  rw [formatNode] at ht
  obtain ⟨below, hbelow, ht⟩ := Except.bind_eq_ok_iff.1 ht
  have hitems := h (depth + 1) below hbelow
  obtain rfl := Except.ok.inj ht
  rw [outlineBelow]
  cases items with
  | nil =>
    obtain rfl := Except.ok.inj hbelow
    have hnil : ([] : List Element).isEmpty = true := rfl
    rw [if_pos hnil, if_pos hnil, String.append_empty]
    exact hhead.append (writes_empty (depth + 1))
  | cons c items =>
    rw [if_neg (by simp), if_neg (by simp), String.append_empty]
    exact hhead.append hitems

/-- A node that is not redacted. -/
theorem formatElementImpl_of_not_sensitive {tag : Tag} (h : ¬isSensitiveTag tag) (type : TypeCode)
    (value : Value Element) (depth : Nat) :
    formatElementImpl utcTime ⟨tag, type, value⟩ depth = formatNode utcTime tag type value depth := by
  have hsubtree : ¬shouldRedactSubtree ⟨tag, type, value⟩ := by
    unfold shouldRedactSubtree
    rw [Bool.and_eq_true]
    exact fun hand => h hand.1
  rw [formatElementImpl, if_neg hsubtree, if_neg h]

/-- A node that is redacted, whatever its value. -/
theorem formatElementImpl_sensitive_writes {tag : Tag} (h : isSensitiveTag tag) (type : TypeCode)
    (value : Value Element) (depth : Nat) (text : String)
    (ht : formatElementImpl utcTime ⟨tag, type, value⟩ depth = .ok text) :
    Writes text (outline ⟨tag, type, value⟩ depth) := by
  rw [outline, if_pos h]
  rw [formatElementImpl, if_pos h] at ht
  split at ht
  · obtain rfl := Except.ok.inj ht
    exact writes_subtree tag type depth
  · obtain ⟨summary, hsummary, ht⟩ := Except.bind_eq_ok_iff.1 ht
    obtain rfl := Except.ok.inj ht
    exact writes_value tag type depth (oneLine_redactedValueSummary hsummary)

include htime

/-- The text of a tree has the lines of its outline. -/
theorem formatElementImpl_writes (e : Element) :
    ∀ depth text, formatElementImpl utcTime e depth = .ok text → Writes text (outline e depth) := by
  induction e using Element.induction with
  | hs tag type items ih =>
    by_cases h : isSensitiveTag tag
    · exact formatElementImpl_sensitive_writes h type _
    · intro depth text ht
      rw [formatElementImpl_of_not_sensitive h] at ht
      rw [outline, if_neg h]
      exact formatNode_struct_writes (formatItems_writes ih) depth text ht
  | hl tag type value hv =>
    by_cases h : isSensitiveTag tag
    · exact formatElementImpl_sensitive_writes h type value
    · intro depth text ht
      rw [formatElementImpl_of_not_sensitive h, formatNode_leaf utcTime hv] at ht
      obtain ⟨content, hcontent, ht⟩ := Except.bind_eq_ok_iff.1 ht
      obtain rfl := Except.ok.inj ht
      have hbelow : outlineBelow value depth = [] := by
        cases value with
        | struct items => exact absurd rfl (hv items)
        | _ => rfl
      rw [outline, if_neg h, hbelow]
      exact writes_value tag type depth (oneLine_formatValue htime hcontent)

end Lines

/-! ## Content -/

mutual

/-- The tree without its content: tags, types and shape. -/
def skeleton : Element → Element
  | ⟨tag, type, value⟩ => ⟨tag, type, skeletonValue value⟩

def skeletonValue : Value Element → Value Element
  | .struct items => .struct (skeletonItems items)
  | _ => .boolean false

def skeletonItems : List Element → List Element
  | [] => []
  | child :: items => skeleton child :: skeletonItems items

end

theorem outlineItems_skeleton {items : List Element}
    (h : ∀ c ∈ items, ∀ depth, outline (skeleton c) depth = outline c depth) (depth : Nat) :
    outlineItems (skeletonItems items) depth = outlineItems items depth := by
  induction items with
  | nil => rfl
  | cons c items ih =>
    rw [List.forall_mem_cons] at h
    rw [skeletonItems, outlineItems, outlineItems, h.1, ih h.2]

/-- The lines of a tree do not depend on its content. -/
theorem outline_skeleton (e : Element) : ∀ depth, outline (skeleton e) depth = outline e depth := by
  induction e using Element.induction with
  | hs tag type items ih =>
    intro depth
    have hempty : (skeletonItems items).isEmpty = items.isEmpty := by
      cases items <;> rfl
    rw [skeleton, skeletonValue, outline, outline, outlineBelow, outlineBelow, hempty, outlineItems_skeleton ih]
  | hl tag type value hv =>
    intro depth
    cases value with
    | struct items => exact absurd rfl (hv items)
    | _ => rfl

/-- **No line can be forged.** If the platform writes times without newlines, the text of a well-formed tree has,
between its newlines, one line for each node that is visited and each structure found empty, in preorder and indented by
twice the depth, and nothing else; which lines these are does not depend on the content of the tree; and quoted texts
can be read back. -/
theorem formatElement_lines (utcTime : Int64 → String) (htime : ∀ seconds, '\n' ∉ (utcTime seconds).toList)
    (e : Element) (hw : WellFormed e) :
    (∃ text lines, formatElement utcTime e = .ok text ∧ text.toList.splitOn '\n' = lines ++ [[]] ∧
      List.Forall₂ IsLine (outline e 0) lines) ∧
    (∀ e', skeleton e' = skeleton e → outline e' 0 = outline e 0) ∧
    Function.Injective quoteString := by
  refine ⟨?_, fun e' h => ?_, quoteString_injective⟩
  · obtain ⟨text, ht⟩ := formatElement_returns utcTime hw
    obtain ⟨lines, hsplit, hlines⟩ := (formatElementImpl_writes htime e 0 text ht).splitOn
    exact ⟨text, lines, ht, hsplit, hlines⟩
  · rw [← outline_skeleton, h, outline_skeleton]

/-- A message with newlines and quotes in its texts, an empty structure, and one that is redacted. -/
def forgedMessage : Element :=
  createStructure Tag.responseMessage
    [createTextString Tag.resultMessage (Bytes.ofText "ok\"\nResponseMessage"), createStructure Tag.batchItem [],
      createStructure Tag.keyMaterial [createTextString Tag.resultMessage (Bytes.ofText "\n")]]

theorem wellFormed_forgedMessage : WellFormed forgedMessage := by
  refine Carried.wellFormed (n := 3) (carried_createStructure (by decide) fun c hc => ?_)
  simp only [List.mem_cons, List.not_mem_nil, or_false] at hc
  rcases hc with rfl | rfl | rfl
  · exact carried_createTextString (by decide) _
  · exact carried_createStructure (by decide) (by simp)
  · refine carried_createStructure (by decide) fun c hc => ?_
    rw [List.mem_singleton.1 hc]
    exact carried_createTextString (by decide) _

/-- It has five lines: those of the four nodes that are visited, and one for the empty structure. -/
theorem formatElement_lines_forged :
    ∃ text lines, formatElement (fun _ => "1970-01-01T00:00:00Z") forgedMessage = .ok text ∧
      text.toList.splitOn '\n' = lines ++ [[]] ∧ lines.length = 5 := by
  obtain ⟨⟨text, lines, ht, hsplit, hlines⟩, -⟩ :=
    formatElement_lines (fun _ => "1970-01-01T00:00:00Z") (fun _ => by decide) forgedMessage wellFormed_forgedMessage
  exact ⟨text, lines, ht, hsplit, hlines.length_eq.symm.trans (by decide)⟩

end Kmip.Formatter
