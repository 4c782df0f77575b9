/-
# Numbers that stay finite

A finite floating-point number is zero, or a significand below `2 ^ 53` times a power of two.  How large
the exponent of the power can be (`ExponentAtMost`) decides whether it fits into a word
(`exponentAtMost_unpack_pack`).  Rounding a significand adds to the exponent what the significand is too
long by, and one more if it carries over (`exponentAtMost_roundWithAccuracy`); this bounds what integers of
64 bits and quotients come to.  A product may be too large, but it is never not a number (`isFinite_mul`).
-/
import Mathlib

namespace CompactGraph

open Float.Model (Format UnpackedFloat totalExponent)
open Float.Model.UnpackedFloat

/-! ## Exponents -/

/-- Zero, or a significand times a power of two that is not above `2 ^ top`. -/
inductive ExponentAtMost (top : Int) : UnpackedFloat → Prop
  | zero {sign : Sign} : ExponentAtMost top (.zero sign)
  | finite {sign : Sign} {mantissa : Nat} {exponent : Int} {hpos : 0 < mantissa} (h : exponent ≤ top) :
      ExponentAtMost top (.finite sign mantissa exponent hpos)

/-- A significand times a power of two that is not below `2 ^ bottom`. -/
inductive ExponentAtLeast (bottom : Int) : UnpackedFloat → Prop
  | finite {sign : Sign} {mantissa : Nat} {exponent : Int} {hpos : 0 < mantissa} (h : bottom ≤ exponent) :
      ExponentAtLeast bottom (.finite sign mantissa exponent hpos)

instance (bottom : Int) : DecidablePred (ExponentAtLeast bottom)
  | .finite _ _ exponent _ => decidable_of_iff (bottom ≤ exponent) ⟨.finite, fun | .finite h => h⟩
  | .zero _ | .infinity _ | .notANumber => .isFalse nofun

variable {top bottom : Int} {number : UnpackedFloat}

namespace ExponentAtMost

theorem isFinite (h : ExponentAtMost top number) : number.isFinite = true := by
  cases h <;> rfl

theorem mono {higher : Int} (h : ExponentAtMost top number) (hle : top ≤ higher) :
    ExponentAtMost higher number := by
  cases h with
  | zero => exact .zero
  | finite h => exact .finite (Int.le_trans h hle)

theorem neg (h : ExponentAtMost top number) : ExponentAtMost top number.neg := by
  cases h with
  | zero => exact .zero
  | finite h => exact .finite h

end ExponentAtMost

theorem ExponentAtLeast.isFinite (h : ExponentAtLeast bottom number) : number.isFinite = true := by
  cases h
  rfl

/-! ## Words -/

/-- The exponent that stands in a word, unless all of its bits are set. -/
theorem exponentAtMost_unpack_packComponents {sign : Sign} {exponent : BitVec 11} {mantissa : BitVec 52}
    (hset : exponent.toNat < 2047) (hexponent : (exponent.toNat : Int) - 1075 ≤ top) (htop : -1074 ≤ top) :
    ExponentAtMost top (unpack .binary64 (packComponents .binary64 sign exponent mantissa)) := by
  have hne : exponent ≠ -1#11 := by
    rintro rfl
    simp at hset
  have hbias : Format.exponentBias .binary64 = 1023 := rfl
  simp only [unpack, unpackExponent_packComponents, unpackMantissa_packComponents, hne, if_false, hbias]
  split
  · next hzero =>
    split
    · exact .zero
    · subst hzero
      exact .finite htop
  · exact .finite (by omega)

/-- What is not too large for a word is the same size when it is read back. -/
theorem exponentAtMost_unpack_pack (h : ExponentAtMost top number) (hlow : -1074 ≤ top)
    (hhigh : top ≤ 971) : ExponentAtMost top (unpack .binary64 (pack .binary64 number)) := by
  cases h with
  | zero =>
    rw [pack, unpack_packedZero]
    exact .zero
  | finite h =>
    have hbias : Format.exponentBias .binary64 = 1023 := rfl
    simp only [pack, hbias]
    rw [if_neg (by omega)]
    split
    · refine exponentAtMost_unpack_packComponents ?_ ?_ hlow
      · rw [BitVec.toNat_ofNat]
        omega
      · rw [BitVec.toNat_ofNat]
        omega
    · exact exponentAtMost_unpack_packComponents (by decide) (by simp; omega) hlow

/-- No finite number in a word is larger than this. -/
theorem exponentAtMost_of_isFinite {bits : BitVec Format.binary64.numBits}
    (h : (unpack .binary64 bits).isFinite = true) : ExponentAtMost 971 (unpack .binary64 bits) := by
  have hne : unpackExponent bits ≠ -1#11 := by
    intro hset
    simp only [unpack, hset, if_true] at h
    split at h <;> cases h
  have hset : (unpackExponent bits).toNat < 2047 :=
    Nat.lt_of_le_of_ne (Nat.le_of_lt_succ (BitVec.isLt _)) fun heq => hne (BitVec.eq_of_toNat_eq heq)
  rw [← packComponents_unpackSign_unpackExponent_unpackMantissa bits]
  exact exponentAtMost_unpack_packComponents hset (by omega) (by decide)

/-- What is packed into a word is finite when it is read back, or it has become infinite. -/
theorem isInf_or_isFinite (h : number.isNaN = false) :
    (unpack .binary64 (pack .binary64 number)).isInf = true ∨
      (unpack .binary64 (pack .binary64 number)).isFinite = true := by
  have hinfinite : ∀ sign, (unpack .binary64 (packedInfinity .binary64 sign)).isInf = true := by
    intro sign
    simp [unpack, packedInfinity, isInf]
  cases number with
  | notANumber => cases h
  | infinity sign => exact .inl (hinfinite sign)
  | zero sign =>
    have hzero : ExponentAtMost 0 (.zero sign) := .zero
    exact .inr (exponentAtMost_unpack_pack hzero (by decide) (by decide)).isFinite
  | finite sign mantissa exponent hpos =>
    by_cases hroom : exponent ≤ 971
    · have hfinite : ExponentAtMost 971 (.finite sign mantissa exponent hpos) := .finite hroom
      exact .inr (exponentAtMost_unpack_pack hfinite (by decide) (by decide)).isFinite
    · refine .inl ?_
      have hbias : Format.exponentBias .binary64 = 1023 := rfl
      simp only [pack, hbias]
      rw [if_pos (by omega)]
      exact hinfinite sign

theorem mantissa_lt_of_unpack {bits : BitVec 64} {sign : Sign} {mantissa : Nat} {exponent : Int}
    {hpos : 0 < mantissa} (h : unpack .binary64 bits = .finite sign mantissa exponent hpos) :
    mantissa < 2 ^ 53 := by
  simp only [unpack] at h
  split at h
  · split at h <;> cases h
  · split at h
    · split at h
      · cases h
      · cases h
        exact Nat.lt_trans (BitVec.isLt _) (by decide)
    · cases h
      exact BitVec.isLt _

/-! ## Rounding -/

theorem mantissa_shiftRight (extended : ExtendedMantissa) (count : Nat) :
    (extended >>> count).mantissa = extended.mantissa / 2 ^ count := by
  induction count with
  | zero => exact (Nat.div_one _).symm
  | succ count ih =>
    show (extended >>> count).mantissa / 2 = _
    rw [ih, Nat.div_div_eq_div_mul, Nat.pow_succ]

theorem roundedMantissa_le (extended : ExtendedMantissa) :
    extended.roundedMantissa ≤ extended.mantissa + 1 := by
  obtain ⟨mantissa, round, sticky⟩ := extended
  have hparity := Nat.mod_lt mantissa Nat.zero_lt_two
  cases round <;> cases sticky <;>
    simp [ExtendedMantissa.roundedMantissa, ExtendedMantissa.accuracy, Accuracy.roundToNearestEven]
  omega

/-- How far a significand is shifted, so that it is not too long and its exponent not too small. -/
theorem exists_shift (mantissa : Nat) (exponent : Int) (accuracy : Accuracy) :
    ∃ count : Nat, (count : Int) = max (max ((mantissa.log2 : Int) - 52) (-1074 - exponent)) 0 ∧
      (shiftToTargetExponent .binary64 mantissa exponent accuracy).1.mantissa = mantissa / 2 ^ count ∧
      (shiftToTargetExponent .binary64 mantissa exponent accuracy).2 = exponent + count := by
  refine ⟨(Format.targetExponent .binary64 (totalExponent mantissa exponent) - exponent).toNat,
    ?_, ?_, rfl⟩
  · have hbits : Format.mantissaBits .binary64 = 53 := rfl
    have hmin : Format.minExponent .binary64 = -1074 := rfl
    rw [Format.targetExponent, totalExponent, hbits, hmin]
    omega
  · rw [shiftToTargetExponent, shiftToExponent, mantissa_shiftRight]
    congr 1
    cases accuracy with
    | exact => rfl
    | inexact order => cases order <;> rfl

theorem log2_le_of_lt {n bit : Nat} (h : n < 2 ^ (bit + 1)) : n.log2 ≤ bit := by
  rcases Nat.eq_zero_or_pos n with rfl | hpos
  · exact Nat.zero_le bit
  · exact Nat.le_of_lt_succ ((Nat.log2_lt (Nat.ne_of_gt hpos)).mpr h)

/-- What is left of a significand has 53 bits at most. -/
theorem div_two_pow_lt {mantissa count : Nat} (h : mantissa.log2 ≤ count + 52) :
    mantissa / 2 ^ count < 2 ^ 53 := by
  rw [Nat.div_lt_iff_lt_mul (Nat.two_pow_pos count), ← Nat.pow_add]
  exact Nat.lt_of_lt_of_le Nat.lt_log2_self (Nat.pow_le_pow_right Nat.two_pos (by omega))

/-- Shifted to the left, a significand grows by no more than the shift. -/
theorem shiftLeft_lt (mantissa count : Nat) : mantissa <<< count < 2 ^ (mantissa.log2 + count + 1) := by
  rw [Nat.shiftLeft_eq, Nat.add_right_comm, Nat.pow_add]
  exact Nat.mul_lt_mul_of_pos_right Nat.lt_log2_self (Nat.two_pow_pos count)

section

variable {sign : Sign} {mantissa : Nat} {exponent : Int}

/-- **Rounding** raises the exponent by no more than what the significand is too long by, and by one more if
it carries over. -/
theorem exponentAtMost_roundWithAccuracy {accuracy : Accuracy} (hexponent : exponent ≤ top)
    (hsize : mantissa.log2 + exponent ≤ top + 52) (htop : -1074 ≤ top) :
    ExponentAtMost (top + 1) (roundWithAccuracy .binary64 sign mantissa exponent accuracy) := by
  obtain ⟨count, hcount, hmantissa, hshifted⟩ := exists_shift mantissa exponent accuracy
  rw [roundWithAccuracy]
  generalize shiftToTargetExponent .binary64 mantissa exponent accuracy = first at *
  have hrounded : first.1.roundedMantissa.log2 ≤ 53 := by
    have hkept : mantissa / 2 ^ count < 2 ^ 53 := div_two_pow_lt (by omega)
    have hcarried := roundedMantissa_le first.1
    exact log2_le_of_lt (by omega)
  obtain ⟨carry, hcarry, _, hfinal⟩ := exists_shift first.1.roundedMantissa first.2 .exact
  dsimp only
  split
  · exact .zero
  · exact .finite (by omega)

theorem exponentAtMost_round (hexponent : exponent ≤ top) (hsize : mantissa.log2 + exponent ≤ top + 52)
    (htop : -1074 ≤ top) :
    ExponentAtMost (top + 1) (UnpackedFloat.round .binary64 sign mantissa exponent) := by
  have hshift : ∀ count : Nat, ExponentAtMost (top + 1)
      (roundWithAccuracy .binary64 sign (mantissa <<< count) (exponent - count) .exact) := by
    intro count
    have hshifted := log2_le_of_lt (shiftLeft_lt mantissa count)
    exact exponentAtMost_roundWithAccuracy (by omega) (by omega) htop
  exact hshift _

end

/-! ## Operations -/

variable {a b : Float}

/-- An integer of 64 bits. -/
theorem exponentAtMost_toFloat (n : UInt64) : ExponentAtMost 12 n.toFloat.toModel.unpack := by
  refine exponentAtMost_unpack_pack ?_ (by decide) (by decide)
  show ExponentAtMost 12 (UnpackedFloat.normalize .binary64 n.toNat 0 .positive)
  unfold UnpackedFloat.normalize
  split
  · next hneg => exact absurd (compare_lt_iff_lt.mp hneg) (Int.not_lt.mpr (Int.natCast_nonneg _))
  · exact .zero
  · have hword : n.toNat.log2 ≤ 63 := log2_le_of_lt n.toNat_lt
    show ExponentAtMost (11 + 1) (UnpackedFloat.round .binary64 .positive n.toNat 0)
    exact exponentAtMost_round (by decide) (by omega) (by decide)

theorem isFinite_toFloat (n : UInt64) : n.toFloat.isFinite = true := (exponentAtMost_toFloat n).isFinite

theorem isFinite_neg (h : a.isFinite = true) : (-a).isFinite = true :=
  (exponentAtMost_unpack_pack (exponentAtMost_of_isFinite h).neg (by decide) (by decide)).isFinite

/-- A quotient by a number that is not small, before it is packed. -/
theorem ExponentAtMost.div {divisor : UnpackedFloat} (h : ExponentAtMost top number)
    (hmantissa : ∀ {sign mantissa exponent hpos}, number = .finite sign mantissa exponent hpos →
      mantissa < 2 ^ 53)
    (hdivisor : ExponentAtLeast (-52) divisor) (hlow : -1074 ≤ top) :
    ExponentAtMost (top + 53) (UnpackedFloat.div .binary64 number divisor) := by
  obtain @⟨sign', mantissa', exponent', _, hexponent'⟩ := hdivisor
  cases h with
  | zero => exact .zero
  | @finite sign mantissa exponent _ hexponent =>
    have hsize : mantissa.log2 ≤ 52 := log2_le_of_lt (hmantissa rfl)
    -- the dividend is shifted to whatever exponent leaves enough bits to the quotient
    have hround : ∀ target : Int, target ≤ exponent - exponent' → ∀ accuracy,
        ExponentAtMost (top + 52 + 1) (roundWithAccuracy .binary64 (sign / sign')
          (mantissa <<< (exponent - exponent' - target).toNat / mantissa') target accuracy) := by
      intro target htarget accuracy
      have hquotient := log2_le_of_lt (Nat.lt_of_le_of_lt (Nat.div_le_self _ mantissa')
        (shiftLeft_lt mantissa (exponent - exponent' - target).toNat))
      exact exponentAtMost_roundWithAccuracy (by omega) (by omega) (by omega)
    exact (hround _ (Int.min_le_left _ _) _).mono (by omega)

/-- **A quotient** by a number that is not small. -/
theorem exponentAtMost_div (ha : ExponentAtMost top a.toModel.unpack)
    (hb : ExponentAtLeast (-52) b.toModel.unpack) (hlow : -1074 ≤ top) (hhigh : top + 53 ≤ 971) :
    ExponentAtMost (top + 53) (a / b).toModel.unpack :=
  exponentAtMost_unpack_pack (ha.div mantissa_lt_of_unpack hb hlow) (by omega) hhigh

theorem isNaN_mul {other : UnpackedFloat} (h : number.isFinite = true) (hother : other.isFinite = true) :
    (mul .binary64 number other).isNaN = false := by
  cases number with
  | infinity | notANumber => cases h
  | zero =>
    cases other with
    | infinity | notANumber => cases hother
    | zero | finite => rfl
  | finite =>
    cases other with
    | infinity | notANumber => cases hother
    | zero => rfl
    | finite =>
      rw [mul, roundWithAccuracy]
      dsimp only
      split <;> rfl

/-- **A product** of finite numbers is finite, unless it is too large. -/
theorem isFinite_mul (ha : a.isFinite = true) (hb : b.isFinite = true) (hproduct : (a * b).isInf = false) :
    (a * b).isFinite = true :=
  (isInf_or_isFinite (isNaN_mul ha hb)).resolve_left (Bool.eq_false_iff.mp hproduct)

end CompactGraph
