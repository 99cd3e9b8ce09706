import Kmip.Core.Attributes

/-!
# Numerals as attribute values

A well-known attribute can be set with a number or with a numeral. The two overloads agree, but for two cases
(`settersAgree_iff`): the numeral of 0 makes the algorithm present, and a length that does not fit `int32_t` is
truncated and stored.
-/

namespace Kmip

/-- The names whose values are numbers. -/
def numericNames : List Bytes := [kmipAttrNameCryptoAlg, kmipAttrNameCryptoLen, kmipAttrNameCryptoUsageMask]

/-- The values of `int32_t`. -/
def FitsInt32 (n : Int) : Prop := -2 ^ 31 ≤ n ∧ n < 2 ^ 31

instance (n : Int) : Decidable (FitsInt32 n) := inferInstanceAs (Decidable (_ ∧ _))

/-- The string overload does with a numeral of `n` what the integer overload does with `n`, and does nothing with a
length that is no `int32_t`. -/
structure Attributes.SettersAgree (a : Attributes) (name s : Bytes) (n : Int) : Prop where
  fits : FitsInt32 n → a.setString name s = a.setInt32 name (Int32.ofInt n)
  outside : ¬FitsInt32 n → name = kmipAttrNameCryptoLen → a.setString name s = a

namespace Attributes

theorem numericNames_nodup : numericNames.Nodup := by decide +kernel

/-! ## Conversions of a `long` -/

/-- The casts to a 32-bit enumeration and to `int32_t` keep the same bits. -/
theorem toUInt32_eq (v : Int64) : v.toUInt64.toUInt32 = (Int32.ofInt v.toInt).toUInt32 := by
  apply UInt32.toBitVec_inj.1
  rw [Int32.ofInt_int64ToInt]
  show BitVec.setWidth 32 v.toBitVec = BitVec.signExtend 32 v.toBitVec
  rw [BitVec.signExtend_eq_setWidth_of_le _ (by decide)]

theorem toUInt32_eq_zero_iff {n : Int} (h : FitsInt32 n) : (Int32.ofInt n).toUInt32 = 0 ↔ n = 0 := by
  have hn : (Int32.ofInt n).toInt = n := Int32.toInt_ofInt_of_le h.1 h.2
  constructor
  · intro h0
    have : Int32.ofInt n = 0 := Int32.toBitVec_inj.1 (congrArg UInt32.toBitVec h0)
    rw [← hn, this]
    rfl
  · rintro rfl
    rfl

/-! ## The three names -/

section Names

variable (a : Attributes) {s : Bytes} {v : Int64} (hs : strtol s = some v)

include hs

/-- A numeral is no name of an algorithm. -/
theorem parseAlgorithmString_numeral : parseAlgorithmString s = some v.toUInt64.toUInt32 := by
  have hnames : ∀ p ∈ algorithmNames, strtol p.1 = none := by decide +kernel
  have hlookup : algorithmNames.lookup s = none := by
    rw [List.lookup_eq_none_iff]
    intro p hp
    have hne : s ≠ p.1 := by
      rintro rfl
      rw [hnames p hp] at hs
      cases hs
    simpa using hne
  rw [parseAlgorithmString, hlookup, hs]
  rfl

theorem setString_algorithm :
    a.setString kmipAttrNameCryptoAlg s = { a with algo := some (Int32.ofInt v.toInt).toUInt32 } := by
  rw [setString, if_pos rfl, parseAlgorithmString_numeral hs, toUInt32_eq]

theorem setString_length :
    a.setString kmipAttrNameCryptoLen s = { a with cryptoLength := some (Int32.ofInt v.toInt) } := by
  have hne : kmipAttrNameCryptoLen ≠ kmipAttrNameCryptoAlg := by decide +kernel
  rw [setString, if_neg hne, if_pos rfl, hs, Int32.ofInt_int64ToInt]

theorem setString_usageMask :
    a.setString kmipAttrNameCryptoUsageMask s = a.setInt32 kmipAttrNameCryptoUsageMask (Int32.ofInt v.toInt) := by
  have hne : kmipAttrNameCryptoUsageMask ≠ kmipAttrNameCryptoAlg ∧
      kmipAttrNameCryptoUsageMask ≠ kmipAttrNameCryptoLen := by
    decide +kernel
  rw [setString, if_neg hne.1, if_neg hne.2, if_pos rfl, hs, setInt32, if_neg hne.2, if_pos rfl]
  dsimp only
  rw [toUInt32_eq]

end Names

theorem setInt32_algorithm (a : Attributes) (value : Int32) : a.setInt32 kmipAttrNameCryptoAlg value =
    if value.toUInt32 ≠ CryptographicAlgorithm.unset then { a with algo := some value.toUInt32 } else a := by
  have hne : kmipAttrNameCryptoAlg ≠ kmipAttrNameCryptoLen ∧ kmipAttrNameCryptoAlg ≠ kmipAttrNameCryptoUsageMask := by
    decide +kernel
  rw [setInt32, if_neg hne.1, if_neg hne.2, if_pos rfl]

theorem setInt32_length (a : Attributes) (value : Int32) :
    a.setInt32 kmipAttrNameCryptoLen value = { a with cryptoLength := some value } := by
  rw [setInt32, if_pos rfl]

/-- **Numerals.** The overloads agree on a numeral of `n` if and only if it is not 0 under Cryptographic Algorithm, or
that field already holds 0, and, under Cryptographic Length, it fits or the truncated value is already there. -/
theorem settersAgree_iff (a : Attributes) {name s : Bytes} {v : Int64} (hname : name ∈ numericNames)
    (hs : strtol s = some v) :
    a.SettersAgree name s v.toInt ↔
      (name = kmipAttrNameCryptoAlg → v.toInt = 0 → a.algo = some .unset) ∧
        (name = kmipAttrNameCryptoLen → ¬FitsInt32 v.toInt → a.cryptoLength = some (Int32.ofInt v.toInt)) := by
  have hdistinct := numericNames_nodup
  simp only [numericNames, List.nodup_cons, List.mem_cons, List.not_mem_nil, or_false, not_or] at hname hdistinct
  obtain ⟨⟨h₁₂, h₁₃⟩, h₂₃, -⟩ := hdistinct
  rcases hname with rfl | rfl | rfl
  · -- the numeral is stored as it is; the integer 0 is not stored
    have hset := setString_algorithm a hs
    constructor
    · intro h
      refine ⟨fun _ hzero => ?_, fun hlen => absurd hlen h₁₂⟩
      have heq := h.fits (hzero ▸ by decide)
      rw [hset, setInt32_algorithm, hzero, if_neg (by decide)] at heq
      exact (congrArg algo heq).symm
    · rintro ⟨hpresent, -⟩
      refine ⟨fun hfits => ?_, fun _ hlen => absurd hlen h₁₂⟩
      rw [hset, setInt32_algorithm]
      by_cases hzero : v.toInt = 0
      · rw [hzero, if_neg (by decide), show (Int32.ofInt 0).toUInt32 = CryptographicAlgorithm.unset from rfl,
          ← hpresent rfl hzero]
      · have hne : (Int32.ofInt v.toInt).toUInt32 ≠ CryptographicAlgorithm.unset :=
          fun h => hzero ((toUInt32_eq_zero_iff hfits).1 h)
        rw [if_pos hne]
  · -- both overloads store the length; the numeral may be truncated
    have hset := setString_length a hs
    constructor
    · intro h
      refine ⟨fun halg => absurd halg.symm h₁₂, fun _ hout => ?_⟩
      have heq := h.outside hout rfl
      rw [hset] at heq
      exact (congrArg cryptoLength heq).symm
    · rintro ⟨-, hstored⟩
      refine ⟨fun _ => by rw [hset, setInt32_length], fun hout _ => ?_⟩
      rw [hset, ← hstored rfl hout]
  · refine iff_of_true ⟨fun _ => setString_usageMask a hs, fun _ h => absurd h (Ne.symm h₂₃)⟩ ?_
    exact ⟨fun h => absurd h (Ne.symm h₁₃), fun h => absurd h (Ne.symm h₂₃)⟩

/-- 256, with blanks, a sign and leading zeros. -/
theorem settersAgree_iff_length : strtol (.ofText " +00256") = some 256 ∧
    ({} : Attributes).setString kmipAttrNameCryptoLen (.ofText " +00256") =
      ({} : Attributes).setInt32 kmipAttrNameCryptoLen 256 := by
  have hs : strtol (.ofText " +00256") = some 256 := by decide +kernel
  have h := (settersAgree_iff {} (by decide +kernel : kmipAttrNameCryptoLen ∈ numericNames) hs).2
    ⟨fun h => absurd h (by decide +kernel), fun _ hout => absurd (by decide) hout⟩
  exact ⟨hs, h.fits (by decide)⟩

/-- The algorithm `"0"`, and a length of 2³² + 128. -/
theorem settersAgree_fails :
    strtol (.ofText "0") = some 0 ∧
      (({} : Attributes).setString kmipAttrNameCryptoAlg (.ofText "0")).hasAttribute kmipAttrNameCryptoAlg = true ∧
      (({} : Attributes).setInt32 kmipAttrNameCryptoAlg 0).hasAttribute kmipAttrNameCryptoAlg = false ∧
      ¬({} : Attributes).SettersAgree kmipAttrNameCryptoAlg (.ofText "0") 0 ∧
      strtol (.ofText "4294967424") = some 4294967424 ∧
      (({} : Attributes).setString kmipAttrNameCryptoLen (.ofText "4294967424")).cryptoLength = some 128 ∧
      ¬({} : Attributes).SettersAgree kmipAttrNameCryptoLen (.ofText "4294967424") 4294967424 := by
  have halg : (({} : Attributes).setString kmipAttrNameCryptoAlg (.ofText "0")).algo = some 0 := by decide +kernel
  have hint : (({} : Attributes).setInt32 kmipAttrNameCryptoAlg 0).algo = none := by decide +kernel
  have hlen : (({} : Attributes).setString kmipAttrNameCryptoLen (.ofText "4294967424")).cryptoLength = some 128 := by
    decide +kernel
  refine ⟨by decide +kernel, by decide +kernel, by decide +kernel, fun h => ?_, by decide +kernel, hlen, fun h => ?_⟩
  · have := congrArg algo (h.fits (by decide))
    rw [halg, show Int32.ofInt 0 = 0 from rfl, hint] at this
    cases this
  · have := congrArg cryptoLength (h.outside (by decide) rfl)
    rw [hlen] at this
    cases this

end Attributes

end Kmip
