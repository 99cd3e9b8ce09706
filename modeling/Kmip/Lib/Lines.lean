import Mathlib.Data.List.TakeWhile
import Mathlib.Tactic

/-!
# Lines of a text

A text is a list, and `sep` ends its lines. `joinLines` writes lines; `splitOn_joinLines` finds them again, and
`splitOn_truncated` says what is left of them when the text is cut off. A program that reads one line after the other
takes the elements before the first separator and drops one more (`takeWhile_ne_append`).

A report has one line for each of its items (`LinesFor`); reports are put together by appending (`LinesFor.append`).
What is quoted can be read back if no code word starts another (`flatMap_injective`).
-/

variable {α : Type}

/-- Lines, each with the separator behind it. -/
def joinLines (sep : α) (lines : List (List α)) : List α := lines.flatMap (fun line => line ++ [sep])

variable {sep : α}

theorem joinLines_cons (line : List α) (lines : List (List α)) :
    joinLines sep (line :: lines) = line ++ sep :: joinLines sep lines := by
  simp [joinLines]

theorem joinLines_append (lines lines' : List (List α)) :
    joinLines sep (lines ++ lines') = joinLines sep lines ++ joinLines sep lines' :=
  List.flatMap_append

variable [DecidableEq α]

/-- The lines are found again. -/
theorem splitOn_joinLines {lines : List (List α)} (h : ∀ line ∈ lines, sep ∉ line) (rest : List α) :
    (joinLines sep lines ++ rest).splitOn sep = lines ++ rest.splitOn sep := by
  induction lines with
  | nil => rfl
  | cons line lines ih =>
    rw [List.forall_mem_cons] at h
    rw [joinLines_cons, List.append_assoc, List.cons_append, List.splitOn_append_cons_self,
      List.splitOn_eq_singleton h.1, ih h.2]
    rfl

/-- A text that is cut off has some of the lines, and a part of the next one. -/
theorem splitOn_truncated (sep : α) {t u : List α} (h : t <+: u) :
    ∃ lines part line rest, u.splitOn sep = lines ++ line :: rest ∧ t.splitOn sep = lines ++ [part] ∧
      part <+: line := by
  obtain ⟨tail, rfl⟩ := h
  induction t with
  | nil =>
    obtain ⟨line, rest, heq⟩ := List.exists_cons_of_ne_nil (List.splitOn_ne_nil sep tail)
    exact ⟨[], [], line, rest, by simpa using heq, by simp, List.nil_prefix⟩
  | cons c t ih =>
    obtain ⟨lines, part, line, rest, hu, ht, hpart⟩ := ih
    rw [List.cons_append, List.splitOn_cons_eq_if_modifyHead, List.splitOn_cons_eq_if_modifyHead, hu, ht]
    by_cases hc : c = sep
    · refine ⟨[] :: lines, part, line, rest, ?_, ?_, hpart⟩
      · simp [hc]
      · simp [hc]
    · cases lines with
      | nil =>
        refine ⟨[], c :: part, c :: line, rest, ?_, ?_, ?_⟩
        · simp [hc]
        · simp [hc]
        · simpa using hpart
      | cons l lines =>
        refine ⟨(c :: l) :: lines, part, line, rest, ?_, ?_, hpart⟩
        · simp [hc]
        · simp [hc]

/-- Lines determine the text. -/
theorem splitOn_inj (sep : α) {t u : List α} (h : t.splitOn sep = u.splitOn sep) : t = u := by
  have ht : [sep].intercalate (t.splitOn sep) = t := List.intercalate_splitOn sep
  have hu : [sep].intercalate (u.splitOn sep) = u := List.intercalate_splitOn sep
  rw [← ht, h, hu]

/-- The first line, and what is left behind its separator. -/
theorem takeWhile_ne_append {line rest : List α} (h : sep ∉ line) :
    (line ++ sep :: rest).takeWhile (· ≠ sep) = line ∧ ((line ++ sep :: rest).dropWhile (· ≠ sep)).drop 1 = rest := by
  have hline : ∀ c ∈ line, decide (c ≠ sep) = true := by
    intro c hc
    exact decide_eq_true (fun heq => h (heq ▸ hc))
  rw [List.takeWhile_append_of_pos hline, List.dropWhile_append_of_pos hline]
  simp

/-- The last line, without a separator. -/
theorem takeWhile_ne_of_notMem {line : List α} (h : sep ∉ line) :
    line.takeWhile (· ≠ sep) = line ∧ (line.dropWhile (· ≠ sep)).drop 1 = [] := by
  have hline : ∀ c ∈ line, decide (c ≠ sep) = true := by
    intro c hc
    exact decide_eq_true (fun heq => h (heq ▸ hc))
  rw [List.takeWhile_eq_self_iff.2 hline, List.dropWhile_eq_nil_iff.2 hline]
  simp

/-! ## Reports -/

section Reports

variable {β : Type} {R : β → List α → Prop}

/-- The text has one line for each item, and the line is related to it. -/
def LinesFor (sep : α) (R : β → List α → Prop) (items : List β) (text : List α) : Prop :=
  ∃ lines, text = joinLines sep lines ∧ (∀ line ∈ lines, sep ∉ line) ∧ List.Forall₂ R items lines

omit [DecidableEq α] in
theorem LinesFor.nil : LinesFor sep R [] [] := ⟨[], rfl, by simp, .nil⟩

omit [DecidableEq α] in
theorem LinesFor.line {item : β} {line : List α} (hsep : sep ∉ line) (h : R item line) :
    LinesFor sep R [item] (line ++ [sep]) :=
  ⟨[line], by simp [joinLines], by simpa using hsep, .cons h .nil⟩

omit [DecidableEq α] in
theorem LinesFor.append {items items' : List β} {text text' : List α} (h : LinesFor sep R items text)
    (h' : LinesFor sep R items' text') : LinesFor sep R (items ++ items') (text ++ text') := by
  obtain ⟨lines, rfl, hsep, hall⟩ := h
  obtain ⟨lines', rfl, hsep', hall'⟩ := h'
  refine ⟨lines ++ lines', (joinLines_append lines lines').symm, ?_, List.rel_append hall hall'⟩
  intro line hline
  rcases List.mem_append.1 hline with hline | hline
  · exact hsep line hline
  · exact hsep' line hline

/-- The lines are found by splitting, with nothing behind the last separator. -/
theorem LinesFor.splitOn {items : List β} {text : List α} (h : LinesFor sep R items text) :
    ∃ lines, text.splitOn sep = lines ++ [[]] ∧ List.Forall₂ R items lines := by
  obtain ⟨lines, rfl, hsep, hall⟩ := h
  refine ⟨lines, ?_, hall⟩
  have hsplit := splitOn_joinLines hsep []
  rwa [List.append_nil, List.splitOn_nil] at hsplit

end Reports

/-! ## Quoting -/

omit [DecidableEq α] in
theorem notMem_intercalate {a : α} {between : List α} {parts : List (List α)} (hb : a ∉ between)
    (hp : ∀ part ∈ parts, a ∉ part) : a ∉ between.intercalate parts := by
  induction parts with
  | nil => simp
  | cons part parts ih =>
    rw [List.forall_mem_cons] at hp
    cases parts with
    | nil => simpa using hp.1
    | cons next parts =>
      rw [List.intercalate_cons_cons, List.mem_append, List.mem_append]
      rintro ((h | h) | h)
      · exact hp.1 h
      · exact hb h
      · exact ih hp.2 h

omit [DecidableEq α] in
/-- Words of a code in which no word starts another can be read back from their concatenation. -/
theorem flatMap_injective {β : Type} {code : β → List α} (hne : ∀ b, code b ≠ [])
    (hcode : ∀ b c x y, code b ++ x = code c ++ y → b = c ∧ x = y) :
    Function.Injective (List.flatMap code) := by
  intro words words' h
  induction words generalizing words' with
  | nil =>
    cases words' with
    | nil => rfl
    | cons b words' =>
      rw [List.flatMap_nil, List.flatMap_cons] at h
      exact absurd (List.append_eq_nil_iff.1 h.symm).1 (hne b)
  | cons b words ih =>
    cases words' with
    | nil =>
      rw [List.flatMap_nil, List.flatMap_cons] at h
      exact absurd (List.append_eq_nil_iff.1 h).1 (hne b)
    | cons c words' =>
      rw [List.flatMap_cons, List.flatMap_cons] at h
      obtain ⟨rfl, hrest⟩ := hcode b c _ _ h
      rw [ih hrest]
