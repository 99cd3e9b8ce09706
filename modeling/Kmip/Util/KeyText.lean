import Kmip.Core.Keys
import Kmip.Lib.Lines
import Kmip.Util.Base64
import Mathlib.Data.List.DropRight

/-!
# AES keys as text

`KeyReader` reads AES keys from hexadecimal, Base64 and PEM text; `KeyWriter` writes them. The PEM reader looks at one
line after the other; `pemLoop_eq` says what it finds in terms of the lines of the text.
-/

namespace Kmip.Util

/-! ## `KeyReader` and `KeyWriter` -/

/-- `KMIP_CRYPTOMASK_ENCRYPT | KMIP_CRYPTOMASK_DECRYPT`. -/
def encryptDecrypt : CryptographicUsageMask := 0x00000004 ||| 0x00000008

/-- The lengths of AES keys in bytes. -/
def IsAesSize (size : Nat) : Prop := size = 16 ∨ size = 24 ∨ size = 32

instance (size : Nat) : Decidable (IsAesSize size) := inferInstanceAs (Decidable (_ ∨ _ ∨ _))

/-- `SymmetricKey(bytes, attrs)` with the attributes of an AES key. -/
def aesKey (bytes : Bytes) : Key where
  value := bytes
  type := .symmetricKey
  attributes := ((({} : Attributes).setAlgorithm .aes).setCryptoLength
    (Int32.ofNat (sizeMul bytes.size 8))).setUsageMask encryptDecrypt

theorem IsAesSize.lt {size : Nat} (h : IsAesSize size) : size < 2 ^ 63 := by
  unfold IsAesSize at h
  omega

def makeAesKey (bytes : List UInt8) : Except Abort Key :=
  if h : IsAesSize bytes.length then .ok (aesKey ⟨bytes, h.lt⟩)
  else .error (.message ("Invalid AES key length: " ++ toString (sizeMul bytes.length 8) ++
    " bits. Should be 128, 192 or 256 bits"))

/-- `KeyReader::aes_from_hex`. -/
def aesFromHex (hex : List UInt8) : Except Abort Key := fromHex hex >>= makeAesKey

/-- `KeyReader::aes_from_base64`. -/
def aesFromBase64 (base64 : List UInt8) : Except Abort Key := fromBase64 base64 >>= makeAesKey

/-- `kSymmetricKeyBegin`. -/
def kSymmetricKeyBegin : List UInt8 := chars "-----BEGIN SYMMETRIC KEY-----"

/-- `kSymmetricKeyEnd`. -/
def kSymmetricKeyEnd : List UInt8 := chars "-----END SYMMETRIC KEY-----"

/-- The character `'\n'`. -/
def lineFeed : UInt8 := 10

/-- The characters `" \t\r"`. -/
def isTrailingWhitespace (c : UInt8) : Bool := c == 32 || c == 9 || c == 13

def trimTrailingWhitespace (line : List UInt8) : List UInt8 := line.rdropWhile isTrailingWhitespace

/-- The loop of `try_parse_aes_from_pem_text`: whether it is complete, and `b64`. Every iteration removes a character,
so that the length of the text is enough. -/
def pemLoop : Nat → List UInt8 → Bool → List UInt8 → Bool × List UInt8
  | 0, _, _, b64 => (false, b64)
  | fuel + 1, pem, inPem, b64 =>
    if pem.isEmpty then (false, b64)
    else
      let line := trimTrailingWhitespace (pem.takeWhile (· ≠ lineFeed))
      let rest := (pem.dropWhile (· ≠ lineFeed)).drop 1
      if !inPem then pemLoop fuel rest (line = kSymmetricKeyBegin) b64
      else if line = kSymmetricKeyEnd then (true, b64)
      else pemLoop fuel rest inPem (b64 ++ line)

/-- The null pointer is `none`. A text without an END line is truncated. -/
def tryParseAesFromPemText (pem : List UInt8) : Option Key :=
  let (complete, b64) := pemLoop pem.length pem false []
  if !complete ∨ b64.isEmpty then none
  else (aesFromBase64 b64).toOption

/-- `KeyWriter::to_hex`. -/
def keyToHex (key : Key) : List UInt8 := toHex key.value.bytes

/-- `KeyWriter::to_base64`. -/
def keyToBase64 (key : Key) : List UInt8 := toBase64 key.value.bytes

def isAesKey (key : Key) : Bool := key.attributes.algorithm = .aes ∧ IsAesSize key.value.size

def symmetricKeyToPem (key : Key) : Except Abort (List UInt8) :=
  if !isAesKey key then
    .error (.message "Cannot write symmetric key as PEM: only 128, 192 or 256-bit AES keys are supported")
  else
    .ok (chars "-----BEGIN SYMMETRIC KEY-----\n" ++ toBase64 key.value.bytes ++ chars "\n-----END SYMMETRIC KEY-----\n")

/-! ## Hexadecimal -/

theorem hexValue_kHexDigits {i : Nat} (hi : i < 16) : hexValue (kHexDigits.getD i 0) = .ok (UInt8.ofNat i) := by
  have h : ∀ i < 16, hexValue (kHexDigits.getD i 0) = .ok (UInt8.ofNat i) := by
    decide +kernel
  exact h i hi

theorem hexLoop_toHex (bytes : List UInt8) : hexLoop (toHex bytes) = .ok bytes := by
  induction bytes with
  | nil => rfl
  | cons b bytes ih =>
    have hhigh : (b >>> 4).toNat = b.toNat / 16 := by
      rw [UInt8.toNat_shiftRight, Nat.shiftRight_eq_div_pow]
      rfl
    have hlow : (b &&& 0x0F).toNat = b.toNat % 16 := by
      rw [UInt8.toNat_and]
      exact Nat.and_two_pow_sub_one_eq_mod b.toNat 4
    have hb := b.toNat_lt
    have hbyte : UInt8.ofNat (b.toNat / 16) * 16 + UInt8.ofNat (b.toNat % 16) = b := by
      apply UInt8.toNat.inj
      simp
      omega
    rw [toHex, List.flatMap_cons, hhigh, hlow]
    show hexLoop (_ :: _ :: toHex bytes) = _
    rw [hexLoop, hexValue_kHexDigits (by omega), hexValue_kHexDigits (by omega), ih]
    simp only [Except.ok_bind, Except.pure_def, hbyte]

theorem length_toHex (bytes : List UInt8) : (toHex bytes).length = 2 * bytes.length := by
  induction bytes with
  | nil => rfl
  | cons b bytes ih =>
    rw [toHex, List.flatMap_cons, List.length_append, ← toHex, ih]
    simp
    ring

theorem fromHex_toHex {bytes : List UInt8} (h : bytes ≠ []) : fromHex (toHex bytes) = .ok bytes := by
  have hlen := length_toHex bytes
  have hpos := List.length_pos_iff.2 h
  rw [fromHex, if_neg, hexLoop_toHex]
  rw [List.isEmpty_iff_length_eq_zero]
  omega

theorem makeAesKey_eq_ok_iff {bytes : List UInt8} {key : Key} :
    makeAesKey bytes = .ok key ↔ ∃ h : IsAesSize bytes.length, key = aesKey ⟨bytes, h.lt⟩ := by
  rw [makeAesKey]
  split
  · rename_i h
    rw [Except.ok.injEq]
    exact ⟨fun heq => ⟨h, heq.symm⟩, fun ⟨_, heq⟩ => heq.symm⟩
  · rename_i h
    simp [h]

/-! ## The lines of a PEM text -/

/-- The lines of a text, without trailing blanks, tabs and carriage returns. -/
def pemLines (text : List UInt8) : List (List UInt8) := (text.splitOn lineFeed).map trimTrailingWhitespace

/-- The PEM reader on lines. -/
def lineLoop : List (List UInt8) → Bool → List UInt8 → Bool × List UInt8
  | [], _, b64 => (false, b64)
  | line :: lines, false, b64 => lineLoop lines (line = kSymmetricKeyBegin) b64
  | line :: lines, true, b64 =>
    if line = kSymmetricKeyEnd then (true, b64) else lineLoop lines true (b64 ++ line)

theorem pemLines_nil : pemLines [] = [[]] := rfl

theorem pemLines_append_lineFeed (line rest : List UInt8) (h : lineFeed ∉ line) :
    pemLines (line ++ lineFeed :: rest) = trimTrailingWhitespace line :: pemLines rest := by
  rw [pemLines, List.splitOn_append_cons_self, List.splitOn_eq_singleton h]
  rfl

theorem pemLines_of_notMem {line : List UInt8} (h : lineFeed ∉ line) :
    pemLines line = [trimTrailingWhitespace line] := by
  rw [pemLines, List.splitOn_eq_singleton h]
  rfl

theorem nil_ne_markers : ([] : List UInt8) ≠ kSymmetricKeyBegin ∧ ([] : List UInt8) ≠ kSymmetricKeyEnd := by
  decide +kernel

/-- An empty line at the end makes no difference. -/
theorem lineLoop_nil_line (inPem : Bool) (b64 : List UInt8) : lineLoop [[]] inPem b64 = (false, b64) := by
  cases inPem with
  | false => rfl
  | true => simp [lineLoop, nil_ne_markers.2]

/-- The reader goes through the lines of the text. -/
theorem pemLoop_eq (fuel : Nat) (pem : List UInt8) (inPem : Bool) (b64 : List UInt8) (hfuel : pem.length ≤ fuel) :
    pemLoop fuel pem inPem b64 = lineLoop (pemLines pem) inPem b64 := by
  induction fuel generalizing pem inPem b64 with
  | zero =>
    obtain rfl := List.length_eq_zero_iff.1 (Nat.le_zero.1 hfuel)
    rw [pemLines_nil, lineLoop_nil_line]
    rfl
  | succ fuel ih =>
    by_cases hnil : pem = []
    · subst hnil
      rw [pemLines_nil, lineLoop_nil_line]
      rfl
    · rw [pemLoop, if_neg (by simpa using hnil)]
      by_cases hmem : lineFeed ∈ pem
      · obtain ⟨line, rest, rfl, hline⟩ := List.eq_append_cons_of_mem hmem
        have hrest : rest.length ≤ fuel := by
          simp only [List.length_append, List.length_cons] at hfuel
          omega
        simp only [takeWhile_ne_append hline, ih rest _ _ hrest, pemLines_append_lineFeed line rest hline]
        cases inPem with
        | false => rfl
        | true => rfl
      · have hempty : ∀ inPem b64, pemLoop fuel [] inPem b64 = (false, b64) := by
          intro inPem b64
          rw [ih [] inPem b64 (Nat.zero_le _), pemLines_nil, lineLoop_nil_line]
        simp only [takeWhile_ne_of_notMem hmem, hempty, pemLines_of_notMem hmem]
        cases inPem with
        | false => rfl
        | true => rfl

/-- Inside the PEM block: the lines up to the first END line are collected. -/
theorem lineLoop_true_iff (lines : List (List UInt8)) (b64 body : List UInt8) :
    lineLoop lines true b64 = (true, body) ↔
      ∃ inner after, lines = inner ++ kSymmetricKeyEnd :: after ∧ kSymmetricKeyEnd ∉ inner ∧
        body = b64 ++ inner.flatten := by
  induction lines generalizing b64 with
  | nil => simp [lineLoop]
  | cons line lines ih =>
    rw [lineLoop]
    by_cases hend : line = kSymmetricKeyEnd
    · subst hend
      rw [if_pos rfl]
      constructor
      · rintro ⟨-, rfl⟩
        exact ⟨[], lines, rfl, by simp, by simp⟩
      · rintro ⟨inner, after, heq, hinner, rfl⟩
        cases inner with
        | nil => simp
        | cons l inner =>
          rw [List.cons_append, List.cons.injEq] at heq
          exact absurd (heq.1 ▸ List.mem_cons_self) hinner
    · rw [if_neg hend, ih]
      constructor
      · rintro ⟨inner, after, rfl, hinner, rfl⟩
        refine ⟨line :: inner, after, rfl, ?_, by simp⟩
        rw [List.mem_cons, not_or]
        exact ⟨Ne.symm hend, hinner⟩
      · rintro ⟨inner, after, heq, hinner, rfl⟩
        cases inner with
        | nil =>
          rw [List.nil_append, List.cons.injEq] at heq
          exact absurd heq.1 hend
        | cons l inner =>
          rw [List.cons_append, List.cons.injEq] at heq
          obtain ⟨rfl, rfl⟩ := heq
          exact ⟨inner, after, rfl, fun h => hinner (List.mem_cons_of_mem _ h), by simp⟩

/-- Before the PEM block: lines that are not the BEGIN line are skipped. -/
theorem lineLoop_skip {before : List (List UInt8)} (h : kSymmetricKeyBegin ∉ before) (lines : List (List UInt8)) :
    lineLoop (before ++ lines) false [] = lineLoop lines false [] := by
  induction before with
  | nil => rfl
  | cons line before ih =>
    rw [List.mem_cons, not_or] at h
    rw [List.cons_append, lineLoop, decide_eq_false (Ne.symm h.1), ih h.2]

/-- The whole text: a BEGIN line, the first one, and an END line after it, the first one there. -/
theorem lineLoop_false_iff (lines : List (List UInt8)) (body : List UInt8) :
    lineLoop lines false [] = (true, body) ↔
      ∃ before inner after, lines = before ++ kSymmetricKeyBegin :: (inner ++ kSymmetricKeyEnd :: after) ∧
        kSymmetricKeyBegin ∉ before ∧ kSymmetricKeyEnd ∉ inner ∧ body = inner.flatten := by
  have hblock : ∀ rest, lineLoop (kSymmetricKeyBegin :: rest) false [] = lineLoop rest true [] := by
    intro rest
    rw [lineLoop, decide_eq_true rfl]
  constructor
  · intro h
    by_cases hmem : kSymmetricKeyBegin ∈ lines
    · obtain ⟨before, rest, rfl, hbefore⟩ := List.eq_append_cons_of_mem hmem
      rw [lineLoop_skip hbefore, hblock, lineLoop_true_iff] at h
      obtain ⟨inner, after, rfl, hinner, rfl⟩ := h
      exact ⟨before, inner, after, rfl, hbefore, hinner, by simp⟩
    · have hskip := lineLoop_skip hmem []
      rw [List.append_nil] at hskip
      rw [hskip] at h
      cases h
  · rintro ⟨before, inner, after, rfl, hbefore, hinner, rfl⟩
    rw [lineLoop_skip hbefore, hblock, lineLoop_true_iff]
    exact ⟨inner, after, rfl, hinner, by simp⟩

/-- A PEM text that holds an AES key: between the first BEGIN line and the first END line after it stands the Base64
text of 16, 24 or 32 bytes. -/
structure PemHolds (text bytes : List UInt8) : Prop where
  size : IsAesSize bytes.length
  block : ∃ before inner after,
    pemLines text = before ++ kSymmetricKeyBegin :: (inner ++ kSymmetricKeyEnd :: after) ∧
      kSymmetricKeyBegin ∉ before ∧ kSymmetricKeyEnd ∉ inner ∧ stripped inner.flatten = toBase64 bytes

theorem pemHolds_iff {text bytes : List UInt8} : PemHolds text bytes ↔ IsAesSize bytes.length ∧
    ∃ b64, lineLoop (pemLines text) false [] = (true, b64) ∧ stripped b64 = toBase64 bytes := by
  simp only [lineLoop_false_iff]
  constructor
  · rintro ⟨hsize, before, inner, after, hlines, hbefore, hinner, htext⟩
    exact ⟨hsize, _, ⟨before, inner, after, hlines, hbefore, hinner, rfl⟩, htext⟩
  · rintro ⟨hsize, _, ⟨before, inner, after, hlines, hbefore, hinner, rfl⟩, htext⟩
    exact ⟨hsize, before, inner, after, hlines, hbefore, hinner, htext⟩

theorem aesFromBase64_eq_ok_iff {base64 : List UInt8} {key : Key} : aesFromBase64 base64 = .ok key ↔
    ∃ bytes, ∃ h : IsAesSize bytes.length, stripped base64 = toBase64 bytes ∧ key = aesKey ⟨bytes, h.lt⟩ := by
  rw [aesFromBase64, Except.bind_eq_ok_iff]
  simp only [fromBase64_eq_ok_iff, makeAesKey_eq_ok_iff]
  constructor
  · rintro ⟨bytes, htext, h, rfl⟩
    exact ⟨bytes, h, htext, rfl⟩
  · rintro ⟨bytes, h, htext, rfl⟩
    exact ⟨bytes, htext, h, rfl⟩

/-- The test for an empty body makes no difference: no key is empty. -/
theorem tryParseAesFromPemText_eq (text : List UInt8) : tryParseAesFromPemText text =
    if (lineLoop (pemLines text) false []).1 then (aesFromBase64 (lineLoop (pemLines text) false []).2).toOption
    else none := by
  rw [tryParseAesFromPemText, pemLoop_eq _ _ _ _ le_rfl]
  generalize lineLoop (pemLines text) false [] = result
  obtain ⟨complete, b64⟩ := result
  cases complete with
  | false => rfl
  | true =>
    cases b64 with
    | nil => rfl
    | cons c b64 => rfl

/-- What the PEM reader returns for any text. -/
theorem tryParseAesFromPemText_eq_some_iff (text : List UInt8) (key : Key) :
    tryParseAesFromPemText text = some key ↔
      ∃ bytes, ∃ h : PemHolds text bytes, key = aesKey ⟨bytes, h.size.lt⟩ := by
  rw [tryParseAesFromPemText_eq]
  generalize hloop : lineLoop (pemLines text) false [] = result
  obtain ⟨complete, b64⟩ := result
  constructor
  · intro h
    cases complete with
    | false => cases h
    | true =>
      rw [if_pos rfl, Except.toOption_eq_some_iff, aesFromBase64_eq_ok_iff] at h
      obtain ⟨bytes, hsize, htext, rfl⟩ := h
      exact ⟨bytes, pemHolds_iff.2 ⟨hsize, b64, hloop, htext⟩, rfl⟩
  · rintro ⟨bytes, h, rfl⟩
    obtain ⟨hsize, b64', hloop', htext⟩ := pemHolds_iff.1 h
    rw [hloop] at hloop'
    cases hloop'
    rw [if_pos rfl, Except.toOption_eq_some_iff, aesFromBase64_eq_ok_iff]
    exact ⟨bytes, hsize, htext, rfl⟩

/-! ## Texts that the writer makes -/

/-- A text with `"\n"` or with `"\r\n"` at the end of its lines. -/
def withLineEnding (crlf : Bool) (text : List UInt8) : List UInt8 :=
  if crlf then text.flatMap (fun c => if c = lineFeed then [13, lineFeed] else [c]) else text

/-- What stands before the end of the lines: a carriage return or nothing. -/
def carriageReturn (crlf : Bool) : List UInt8 := if crlf then [13] else []

/-- The lines of the writer before the END line. -/
def pemOpening (crlf : Bool) (bytes : List UInt8) : List (List UInt8) :=
  [kSymmetricKeyBegin ++ carriageReturn crlf, toBase64 bytes ++ carriageReturn crlf]

/-- The lines of the writer. -/
def pemBlock (crlf : Bool) (bytes : List UInt8) : List (List UInt8) :=
  pemOpening crlf bytes ++ [kSymmetricKeyEnd ++ carriageReturn crlf]

theorem lineFeed_notMem_toBase64 (bytes : List UInt8) : lineFeed ∉ toBase64 bytes := by
  intro h
  have := not_whitespace_of_mem_toBase64 bytes lineFeed h
  cases this

theorem lineFeed_notMem_markers : lineFeed ∉ kSymmetricKeyBegin ∧ lineFeed ∉ kSymmetricKeyEnd := by
  decide +kernel

theorem withLineEnding_append (crlf : Bool) (a b : List UInt8) :
    withLineEnding crlf (a ++ b) = withLineEnding crlf a ++ withLineEnding crlf b := by
  cases crlf with
  | false => rfl
  | true => exact List.flatMap_append

theorem withLineEnding_of_notMem (crlf : Bool) {line : List UInt8} (h : lineFeed ∉ line) :
    withLineEnding crlf line = line := by
  cases crlf with
  | false => rfl
  | true =>
    induction line with
    | nil => rfl
    | cons c line ih =>
      rw [List.mem_cons, not_or] at h
      have := ih h.2
      simp only [withLineEnding, if_true] at this
      simp [withLineEnding, Ne.symm h.1, this]

theorem withLineEnding_joinLines (crlf : Bool) {lines : List (List UInt8)} (h : ∀ line ∈ lines, lineFeed ∉ line) :
    withLineEnding crlf (joinLines lineFeed lines) = joinLines lineFeed (lines.map (· ++ carriageReturn crlf)) := by
  have hend : withLineEnding crlf [lineFeed] = carriageReturn crlf ++ [lineFeed] := by
    cases crlf with
    | false => rfl
    | true => rfl
  induction lines with
  | nil =>
    cases crlf with
    | false => rfl
    | true => rfl
  | cons line lines ih =>
    rw [List.forall_mem_cons] at h
    rw [joinLines_cons, ← List.singleton_append, withLineEnding_append, withLineEnding_append,
      withLineEnding_of_notMem crlf h.1, hend, ih h.2, List.map_cons, joinLines_cons]
    simp

theorem map_carriageReturn_pemBlock (crlf : Bool) (bytes : List UInt8) :
    (pemBlock false bytes).map (· ++ carriageReturn crlf) = pemBlock crlf bytes := by
  simp [pemBlock, pemOpening, carriageReturn]

theorem symmetricKeyToPem_eq {key : Key} (h : isAesKey key = true) :
    symmetricKeyToPem key = .ok (joinLines lineFeed (pemBlock false key.value.bytes)) := by
  have hbegin : chars "-----BEGIN SYMMETRIC KEY-----\n" = kSymmetricKeyBegin ++ [lineFeed] := by decide +kernel
  have hend : chars "\n-----END SYMMETRIC KEY-----\n" = lineFeed :: (kSymmetricKeyEnd ++ [lineFeed]) := by
    decide +kernel
  rw [symmetricKeyToPem, if_neg (by simp [h]), hbegin, hend]
  simp [pemBlock, pemOpening, joinLines, carriageReturn]

theorem pemLines_joinLines {lines : List (List UInt8)} (h : ∀ line ∈ lines, lineFeed ∉ line) (rest : List UInt8) :
    pemLines (joinLines lineFeed lines ++ rest) = lines.map trimTrailingWhitespace ++ pemLines rest := by
  rw [pemLines, splitOn_joinLines h, List.map_append, pemLines]

/-- A carriage return at the end of a line is dropped. -/
theorem trim_append_carriageReturn (crlf : Bool) {line : List UInt8} (h : trimTrailingWhitespace line = line) :
    trimTrailingWhitespace (line ++ carriageReturn crlf) = line := by
  cases crlf with
  | false => simpa [carriageReturn] using h
  | true =>
    rw [trimTrailingWhitespace] at h ⊢
    rw [show carriageReturn true = [13] from rfl, List.rdropWhile_concat_pos _ _ _ rfl, h]

theorem trim_toBase64 (bytes : List UInt8) : trimTrailingWhitespace (toBase64 bytes) = toBase64 bytes := by
  rw [trimTrailingWhitespace, List.rdropWhile_eq_self_iff]
  intro hne hlast
  have := not_whitespace_of_mem_toBase64 bytes _ (List.getLast_mem hne)
  simp only [isTrailingWhitespace, isBase64Whitespace] at this hlast
  simp_all

theorem trim_markers : trimTrailingWhitespace kSymmetricKeyBegin = kSymmetricKeyBegin ∧
    trimTrailingWhitespace kSymmetricKeyEnd = kSymmetricKeyEnd := by
  decide +kernel

theorem lineFeed_notMem_carriageReturn (crlf : Bool) : lineFeed ∉ carriageReturn crlf := by
  cases crlf with
  | false => decide
  | true => decide

theorem map_trim_pemOpening (crlf : Bool) (bytes : List UInt8) :
    (pemOpening crlf bytes).map trimTrailingWhitespace = [kSymmetricKeyBegin, toBase64 bytes] := by
  simp [pemOpening, trim_append_carriageReturn, trim_toBase64, trim_markers]

theorem lineFeed_notMem_pemOpening (crlf : Bool) (bytes : List UInt8) :
    ∀ line ∈ pemOpening crlf bytes, lineFeed ∉ line := by
  simp [pemOpening, lineFeed_notMem_carriageReturn, lineFeed_notMem_toBase64, lineFeed_notMem_markers]

theorem pemBlock_spec (crlf : Bool) (bytes : List UInt8) :
    (∀ line ∈ pemBlock crlf bytes, lineFeed ∉ line) ∧
      (pemBlock crlf bytes).map trimTrailingWhitespace = [kSymmetricKeyBegin, toBase64 bytes, kSymmetricKeyEnd] := by
  constructor
  · rw [pemBlock, List.forall_mem_append]
    refine ⟨lineFeed_notMem_pemOpening crlf bytes, ?_⟩
    simp [lineFeed_notMem_carriageReturn, lineFeed_notMem_markers]
  · rw [pemBlock, List.map_append, map_trim_pemOpening]
    simp [trim_append_carriageReturn, trim_markers]

/-- A hyphen is no character of a Base64 text. -/
theorem hyphen_notMem_toBase64 (bytes : List UInt8) : (45 : UInt8) ∉ toBase64 bytes := by
  intro h
  exact not_defect_toBase64 bytes (.foreign 45 h (by decide) (by decide +kernel))

theorem ne_kSymmetricKeyEnd {line : List UInt8} (h : (45 : UInt8) ∉ line) : line ≠ kSymmetricKeyEnd := by
  rintro rfl
  exact h (by decide +kernel)

theorem kSymmetricKeyBegin_notMem_map {before : List (List UInt8)}
    (hbegin : ∀ line ∈ before, trimTrailingWhitespace line ≠ kSymmetricKeyBegin) :
    kSymmetricKeyBegin ∉ before.map trimTrailingWhitespace := by
  intro hmem
  obtain ⟨line, hline, heq⟩ := List.mem_map.1 hmem
  exact hbegin line hline heq

/-- The text of a key, with any lines before it that are not a BEGIN line, and anything after it. -/
theorem pemHolds_written (crlf : Bool) {bytes : List UInt8} (hsize : IsAesSize bytes.length)
    {before : List (List UInt8)} (hlines : ∀ line ∈ before, lineFeed ∉ line)
    (hbegin : ∀ line ∈ before, trimTrailingWhitespace line ≠ kSymmetricKeyBegin) (after : List UInt8) :
    PemHolds (joinLines lineFeed before ++ (joinLines lineFeed (pemBlock crlf bytes) ++ after)) bytes := by
  obtain ⟨hblock, htrim⟩ := pemBlock_spec crlf bytes
  refine ⟨hsize, before.map trimTrailingWhitespace, [toBase64 bytes], pemLines after, ?_, ?_, ?_, ?_⟩
  · rw [pemLines_joinLines hlines, pemLines_joinLines hblock, htrim]
    rfl
  · exact kSymmetricKeyBegin_notMem_map hbegin
  · rw [List.mem_singleton]
    exact Ne.symm (ne_kSymmetricKeyEnd (hyphen_notMem_toBase64 bytes))
  · rw [List.flatten_singleton, stripped_eq_self (not_whitespace_of_mem_toBase64 bytes)]

/-! ## Truncated texts -/

/-- A text without an END line after its first BEGIN line. -/
theorem tryParseAesFromPemText_eq_none {text : List UInt8} (h : (lineLoop (pemLines text) false []).1 = false) :
    tryParseAesFromPemText text = none := by
  rw [tryParseAesFromPemText_eq, h]
  rfl

/-- A part of a line that is no END marker when it is cut off. -/
theorem trim_ne_kSymmetricKeyEnd {part line : List UInt8} (hpart : part <+: line) (h : (45 : UInt8) ∉ line) :
    trimTrailingWhitespace part ≠ kSymmetricKeyEnd := by
  apply ne_kSymmetricKeyEnd
  intro hmem
  exact h (hpart.subset ((List.rdropWhile_prefix _ _).subset hmem))

/-- A text that ends inside the END marker of a key, or before it, yields no key. -/
theorem tryParseAesFromPemText_truncated (crlf : Bool) (bytes : List UInt8) {before : List (List UInt8)}
    (hlines : ∀ line ∈ before, lineFeed ∉ line)
    (hbegin : ∀ line ∈ before, trimTrailingWhitespace line ≠ kSymmetricKeyBegin) {t : List UInt8}
    (ht : t <+: joinLines lineFeed (before ++ pemOpening crlf bytes) ++ kSymmetricKeyEnd)
    (hne : t ≠ joinLines lineFeed (before ++ pemOpening crlf bytes) ++ kSymmetricKeyEnd) :
    tryParseAesFromPemText t = none := by
  have hsplit : (joinLines lineFeed (before ++ pemOpening crlf bytes) ++ kSymmetricKeyEnd).splitOn lineFeed =
      before ++ (pemOpening crlf bytes ++ [kSymmetricKeyEnd]) := by
    rw [splitOn_joinLines (List.forall_mem_append.2 ⟨hlines, lineFeed_notMem_pemOpening crlf bytes⟩),
      List.splitOn_eq_singleton lineFeed_notMem_markers.2, List.append_assoc]
  have hskip := kSymmetricKeyBegin_notMem_map hbegin
  obtain ⟨lines, part, line, rest, hu, ht', hpart⟩ := splitOn_truncated lineFeed ht
  apply tryParseAesFromPemText_eq_none
  rw [pemLines, ht', List.map_append]
  rw [hsplit, List.append_eq_append_iff] at hu
  rcases hu with ⟨m, rfl, hm⟩ | ⟨m, rfl, hm⟩
  · -- the cut is inside the block of the key: in its first, second or last line
    rw [List.map_append, List.append_assoc, lineLoop_skip hskip]
    rcases m with _ | ⟨l₁, _ | ⟨l₂, m⟩⟩
    · rfl
    · simp only [pemOpening, List.cons_append, List.nil_append, List.cons.injEq] at hm
      obtain ⟨rfl, rfl, -⟩ := hm
      have hbody : (45 : UInt8) ∉ toBase64 bytes ++ carriageReturn crlf := by
        rw [List.mem_append, not_or]
        exact ⟨hyphen_notMem_toBase64 bytes, by cases crlf <;> decide⟩
      rw [List.map_cons, trim_append_carriageReturn crlf trim_markers.1]
      simp [lineLoop, trim_ne_kSymmetricKeyEnd hpart hbody]
    · simp only [pemOpening, List.cons_append, List.nil_append, List.cons.injEq] at hm
      obtain ⟨rfl, rfl, hm⟩ := hm
      obtain ⟨rfl, rfl, rfl⟩ : m = [] ∧ kSymmetricKeyEnd = line ∧ rest = [] := by
        cases m with
        | nil => simpa using hm
        | cons l m => simp at hm
      have hlast : trimTrailingWhitespace part ≠ kSymmetricKeyEnd := by
        intro heq
        -- the marker is whole, so nothing was cut off
        have hle := (List.rdropWhile_prefix isTrailingWhitespace part).length_le
        rw [show part.rdropWhile isTrailingWhitespace = kSymmetricKeyEnd from heq] at hle
        apply hne
        apply splitOn_inj lineFeed
        rw [ht', hsplit, hpart.eq_of_length_le hle]
        simp [pemOpening]
      rw [List.map_cons, List.map_cons, trim_append_carriageReturn crlf trim_markers.1,
        trim_append_carriageReturn crlf (trim_toBase64 bytes)]
      simp [lineLoop, hlast, ne_kSymmetricKeyEnd (hyphen_notMem_toBase64 bytes)]
  · -- the cut is in the lines before it
    have hskip' : kSymmetricKeyBegin ∉ lines.map trimTrailingWhitespace := by
      intro hmem
      exact hskip (by simp only [List.map_append, List.mem_append]; exact .inl hmem)
    rw [lineLoop_skip hskip']
    rfl

/-- A written text that loses more than its last line ending yields no key. -/
theorem tryParseAesFromPemText_take (crlf : Bool) {bytes : List UInt8} {before : List (List UInt8)}
    (hlines : ∀ line ∈ before, lineFeed ∉ line)
    (hbegin : ∀ line ∈ before, trimTrailingWhitespace line ≠ kSymmetricKeyBegin) {n : Nat}
    (hn : n + (carriageReturn crlf ++ [lineFeed]).length <
      (joinLines lineFeed before ++ joinLines lineFeed (pemBlock crlf bytes)).length) :
    tryParseAesFromPemText ((joinLines lineFeed before ++ joinLines lineFeed (pemBlock crlf bytes)).take n) = none := by
  have htext : joinLines lineFeed before ++ joinLines lineFeed (pemBlock crlf bytes) =
      (joinLines lineFeed (before ++ pemOpening crlf bytes) ++ kSymmetricKeyEnd) ++
        (carriageReturn crlf ++ [lineFeed]) := by
    rw [pemBlock, joinLines_append, joinLines_append, joinLines_cons]
    simp [joinLines]
  rw [htext] at hn ⊢
  generalize carriageReturn crlf ++ [lineFeed] = lineEnding at hn ⊢
  rw [List.length_append] at hn
  have hn' := Nat.lt_of_add_lt_add_right hn
  rw [List.take_append_of_le_length hn'.le]
  apply tryParseAesFromPemText_truncated crlf bytes hlines hbegin (List.take_prefix _ _)
  intro heq
  have := congrArg List.length heq
  rw [List.length_take] at this
  omega

/-- AES keys survive every text form: hexadecimal and Base64 text is read back; the PEM reader returns a key exactly for
the texts that hold one, with its bytes; what the writer makes reads back with any line ending and with other text
around it, but not when it is cut off. -/
theorem aes_text_forms :
    (∀ key : Key, IsAesSize key.value.size →
      aesFromHex (keyToHex key) = .ok (aesKey key.value) ∧ aesFromBase64 (keyToBase64 key) = .ok (aesKey key.value)) ∧
    (∀ text key, tryParseAesFromPemText text = some key ↔
      ∃ bytes, ∃ h : PemHolds text bytes, key = aesKey ⟨bytes, h.size.lt⟩) ∧
    (∀ key, isAesKey key = true → ∃ pem, symmetricKeyToPem key = .ok pem ∧ ∀ crlf before after,
      (∀ line ∈ before, lineFeed ∉ line) → (∀ line ∈ before, trimTrailingWhitespace line ≠ kSymmetricKeyBegin) →
      tryParseAesFromPemText (joinLines lineFeed before ++ (withLineEnding crlf pem ++ after)) =
        some (aesKey key.value) ∧
      ∀ n, n + (carriageReturn crlf ++ [lineFeed]).length <
          (joinLines lineFeed before ++ withLineEnding crlf pem).length →
        tryParseAesFromPemText ((joinLines lineFeed before ++ withLineEnding crlf pem).take n) = none) ∧
    (∀ text, (∀ before rest, pemLines text = before ++ kSymmetricKeyBegin :: rest → kSymmetricKeyBegin ∉ before →
      kSymmetricKeyEnd ∉ rest) → tryParseAesFromPemText text = none) := by
  refine ⟨?_, tryParseAesFromPemText_eq_some_iff, ?_, ?_⟩
  · intro key hsize
    have hne : key.value.bytes ≠ [] := by
      rintro hnil
      rw [Bytes.size, hnil] at hsize
      revert hsize
      decide
    constructor
    · rw [aesFromHex, keyToHex, fromHex_toHex hne, Except.ok_bind, makeAesKey_eq_ok_iff]
      exact ⟨hsize, rfl⟩
    · rw [aesFromBase64_eq_ok_iff]
      exact ⟨key.value.bytes, hsize, stripped_eq_self (not_whitespace_of_mem_toBase64 _), rfl⟩
  · intro key haes
    have hsize : IsAesSize key.value.bytes.length := by
      rw [isAesKey, decide_eq_true_eq] at haes
      exact haes.2
    refine ⟨_, symmetricKeyToPem_eq haes, ?_⟩
    intro crlf before after hlines hbegin
    rw [withLineEnding_joinLines crlf (pemBlock_spec false _).1, map_carriageReturn_pemBlock]
    constructor
    · rw [tryParseAesFromPemText_eq_some_iff]
      exact ⟨_, pemHolds_written crlf hsize hlines hbegin after, rfl⟩
    · intro n hn
      exact tryParseAesFromPemText_take crlf hlines hbegin hn
  · intro text hend
    rw [Option.eq_none_iff_forall_ne_some]
    intro key h
    obtain ⟨bytes, ⟨-, before, inner, after, hlines, hbefore, -, -⟩, -⟩ :=
      (tryParseAesFromPemText_eq_some_iff text key).1 h
    exact hend before _ hlines hbefore (by simp)

theorem length_replicate_lt : (List.replicate 16 (0 : UInt8)).length < 2 ^ 63 := by decide

/-- Sixteen zeros. -/
def zeroKey : Key := aesKey ⟨List.replicate 16 0, length_replicate_lt⟩

theorem aes_text_forms_zeroKey : isAesKey zeroKey = true ∧ aesFromHex (keyToHex zeroKey) = .ok zeroKey ∧
    ∃ pem, symmetricKeyToPem zeroKey = .ok pem ∧
      tryParseAesFromPemText (joinLines lineFeed [chars "comment"] ++ (withLineEnding true pem ++ [])) =
        some zeroKey := by
  refine ⟨by decide, (aes_text_forms.1 zeroKey (by decide)).1, ?_⟩
  obtain ⟨pem, hpem, hread⟩ := aes_text_forms.2.2.1 zeroKey (by decide)
  exact ⟨pem, hpem, (hread true [chars "comment"] [] (by decide +kernel) (by decide +kernel)).1⟩

end Kmip.Util
