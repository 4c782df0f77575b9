/-
# Numbers in import files

A literal writes an integer if it has neither fraction nor exponent, is not minus zero and fits into 64 bits
with its sign (`NumberLiteral.integer?`).  Such a literal becomes an integer property, every other one that
has a value a finite floating-point one (`NumberLiteral.toProperty_of_value?`), so that each of them stands
for a weight.
-/
import CompactGraph.Import.ImportFile
import CompactGraph.Proofs.Decimal.Finite

namespace CompactGraph

namespace NumberLiteral

variable {literal : NumberLiteral} {number : JsonNumber}

/-! ## Powers of ten -/

/-- The powers of ten that numbers are scaled by are neither small nor infinite. -/
theorem exponentAtLeast_powerOfTen : ∀ exponent ≤ maxPower,
    ExponentAtLeast (-52) (powerOfTen exponent).toModel.unpack := by
  decide +kernel

/-- Dividing by powers of ten leaves a number finite. -/
theorem isFinite_scaleDown {significand : Float} (h : ExponentAtMost 12 significand.toModel.unpack)
    (exponent : Nat) : (scaleDown significand exponent).isFinite = true := by
  rw [scaleDown]
  split
  · next hsmall =>
    exact (exponentAtMost_div h (exponentAtLeast_powerOfTen _ hsmall) (by decide) (by decide)).isFinite
  · split
    · next hlarge =>
      have hrest : exponent - maxPower ≤ maxPower := Nat.sub_le_iff_le_add.mpr hlarge
      have hfirst : ExponentAtMost (12 + 53) (significand / powerOfTen maxPower).toModel.unpack :=
        exponentAtMost_div h (exponentAtLeast_powerOfTen maxPower (Nat.le_refl _)) (by decide) (by decide)
      exact (exponentAtMost_div hfirst (exponentAtLeast_powerOfTen _ hrest) (by decide)
        (by decide)).isFinite
    · rfl

/-- Multiplying by a power of ten is refused if the product is not finite. -/
theorem isFinite_of_scaleUp {significand scaled : Float} (h : significand.isFinite = true) {exponent : Nat}
    (hscaled : scaleUp significand exponent = some scaled) : scaled.isFinite = true := by
  rw [scaleUp] at hscaled
  split at hscaled
  · next hsmall =>
    dsimp only at hscaled
    split at hscaled
    · cases hscaled
    · next hinf =>
      obtain rfl := Option.some.inj hscaled
      exact isFinite_mul h (exponentAtLeast_powerOfTen _ hsmall).isFinite (Bool.eq_false_iff.mpr hinf)
  · split at hscaled
    · obtain rfl := Option.some.inj hscaled
      exact h
    · cases hscaled

theorem isFinite_of_scale {significand : Nat} {exponent : Int} {scaled : Float}
    (h : scale significand exponent = some scaled) : scaled.isFinite = true := by
  cases exponent with
  | ofNat exponent => exact isFinite_of_scaleUp (isFinite_toFloat _) h
  | negSucc exponent =>
    obtain rfl := Option.some.inj h
    exact isFinite_scaleDown (exponentAtMost_toFloat _) _

theorem isFinite_of_magnitude {magnitude : Float} (h : literal.magnitude = some magnitude) :
    magnitude.isFinite = true := by
  rw [NumberLiteral.magnitude] at h
  dsimp only at h
  split at h
  · exact isFinite_of_scale h
  · split at h
    · exact isFinite_of_scale h
    · split at h
      · obtain rfl := Option.some.inj h
        rfl
      · cases h

/-- **A literal that is read as a float** is a finite number. -/
theorem isFinite_of_toFloat? (h : literal.toFloat? = some number) :
    ∃ value, number = .float value ∧ value.isFinite = true := by
  obtain ⟨magnitude, hmagnitude, rfl⟩ := Option.map_eq_some_iff.mp h
  have hfinite := isFinite_of_magnitude hmagnitude
  refine ⟨_, rfl, ?_⟩
  split
  · exact isFinite_neg hfinite
  · exact hfinite

/-! ## Integers -/

/-- A number does not get smaller when digits are appended to it. -/
theorem le_foldl_digits (digits : List Nat) :
    ∀ number, number ≤ digits.foldl (fun number digit => number * 10 + digit) number := by
  induction digits with
  | nil => exact fun number => Nat.le_refl number
  | cons digit digits ih =>
    intro number
    exact Nat.le_trans (by omega) (ih (number * 10 + digit))

/-- Digits are appended to a number up to a bound: all of them if what they come to stays below it, and
otherwise some are left over. -/
theorem appendDigits_cases {bound : Nat} (digits : List Nat) : ∀ number < bound,
    (digits.foldl (fun number digit => number * 10 + digit) number < bound ∧
      appendDigits bound number digits =
        (digits.foldl (fun number digit => number * 10 + digit) number, 0)) ∨
    (bound ≤ digits.foldl (fun number digit => number * 10 + digit) number ∧
      ∃ kept left, appendDigits bound number digits = (kept, left + 1)) := by
  induction digits with
  | nil => exact fun number hnumber => .inl ⟨hnumber, rfl⟩
  | cons digit digits ih =>
    intro number _
    rw [appendDigits]
    split
    · next hbelow => exact ih _ hbelow
    · next habove =>
      refine .inr ⟨Nat.le_trans (Nat.not_lt.mp habove) (le_foldl_digits digits _), number, digits.length, rfl⟩

/-- The integer that a sign and digits write. -/
def signed (isNegative : Bool) (magnitude : Nat) : Int := if isNegative then -magnitude else magnitude

/-- An integer of 64 bits with a sign; minus zero is none. -/
def FitsInt64 (isNegative : Bool) (magnitude : Nat) : Prop :=
  ¬ (isNegative = true ∧ magnitude = 0) ∧
    -2 ^ 63 ≤ signed isNegative magnitude ∧ signed isNegative magnitude < 2 ^ 63

instance (isNegative : Bool) (magnitude : Nat) : Decidable (FitsInt64 isNegative magnitude) :=
  inferInstanceAs (Decidable (_ ∧ _ ∧ _))

/-- The integer that a literal writes, if it has neither fraction nor exponent and fits. -/
def integer? (literal : NumberLiteral) : Option Int64 :=
  if literal.isInteger = true ∧ FitsInt64 literal.negative (Decimal.ofDigits literal.whole) then
    some (Int64.ofInt (signed literal.negative (Decimal.ofDigits literal.whole)))
  else none

/-- The value of digits that come to less than `2 ^ 64`, with a sign. -/
def signedValue (isNegative : Bool) (magnitude : Nat) : JsonNumber :=
  if !isNegative then .natural magnitude.toUInt64
  else if 0 < magnitude ∧ magnitude ≤ UInt64.size / 2 then .negative (Int64.ofInt (-magnitude))
  else .float (-magnitude.toUInt64.toFloat)

/-- What a literal is worth: an integer if it is written as one and fits 64 bits, and otherwise a float.
-/
theorem value?_eq (literal : NumberLiteral) :
    literal.value? =
      if literal.isInteger = true ∧ Decimal.ofDigits literal.whole < UInt64.size then
        some (signedValue literal.negative (Decimal.ofDigits literal.whole))
      else literal.toFloat? := by
  have hdigits : (Decimal.ofDigits literal.whole < UInt64.size ∧
        appendDigits UInt64.size 0 literal.whole = (Decimal.ofDigits literal.whole, 0)) ∨
      (UInt64.size ≤ Decimal.ofDigits literal.whole ∧
        ∃ kept left, appendDigits UInt64.size 0 literal.whole = (kept, left + 1)) :=
    appendDigits_cases literal.whole 0 (by decide)
  rw [value?]
  rcases hdigits with ⟨hlt, heq⟩ | ⟨hle, kept, left, heq⟩
  · simp only [heq, hlt, and_true, signedValue]
    split
    · split
      · rfl
      · split <;> rfl
    · rfl
  · rw [heq, if_neg fun h => Nat.not_lt.mpr hle h.2]
    rfl

end NumberLiteral

/-- A number as a floating-point one. -/
def JsonNumber.asFloat : JsonNumber → Float
  | natural value => value.toFloat
  | negative value => value.toFloat
  | float value => value

namespace NumberLiteral

variable {literal : NumberLiteral} {number : JsonNumber}

theorem toProperty_of_toFloat? (h : literal.toFloat? = some number) :
    number.toProperty = .float number.asFloat ∧ number.asFloat.isFinite = true := by
  obtain ⟨value, rfl, hfinite⟩ := isFinite_of_toFloat? h
  exact ⟨rfl, hfinite⟩

/-- Natural numbers of 64 bits. -/
theorem toProperty_natural {magnitude : Nat} (h : magnitude < UInt64.size) :
    (JsonNumber.natural magnitude.toUInt64).toProperty =
      if magnitude < 2 ^ 63 then .integer (Int64.ofInt magnitude) else .float magnitude.toUInt64.toFloat := by
  have hword : magnitude.toUInt64.toNat = magnitude := UInt64.toNat_ofNat_of_lt h
  rw [JsonNumber.toProperty, hword, Int64.ofInt_eq_ofNat]
  rfl

/-- An integer becomes an integer property exactly if 64 bits with a sign hold it, and else a finite
float. -/
theorem toProperty_signedValue (isNegative : Bool) {magnitude : Nat} (h : magnitude < UInt64.size) :
    (FitsInt64 isNegative magnitude ∧
      (signedValue isNegative magnitude).toProperty = .integer (Int64.ofInt (signed isNegative magnitude))) ∨
    (¬ FitsInt64 isNegative magnitude ∧
      (signedValue isNegative magnitude).toProperty = .float (signedValue isNegative magnitude).asFloat ∧
      (signedValue isNegative magnitude).asFloat.isFinite = true) := by
  cases isNegative with
  | false =>
    have hfits : FitsInt64 false magnitude ↔ magnitude < 2 ^ 63 := by
      simp [FitsInt64, signed]
    have hvalue : signedValue false magnitude = .natural magnitude.toUInt64 := rfl
    rw [hfits, hvalue, toProperty_natural h]
    by_cases hlt : magnitude < 2 ^ 63
    · exact .inl ⟨hlt, if_pos hlt⟩
    · exact .inr ⟨hlt, if_neg hlt, isFinite_toFloat _⟩
  | true =>
    have hfits : FitsInt64 true magnitude ↔ 0 < magnitude ∧ magnitude ≤ UInt64.size / 2 := by
      have hsize : UInt64.size = 2 ^ 64 := rfl
      simp [FitsInt64, signed]
      omega
    rw [hfits]
    by_cases hle : 0 < magnitude ∧ magnitude ≤ UInt64.size / 2
    · have hvalue : signedValue true magnitude = .negative (Int64.ofInt (-magnitude)) := if_pos hle
      rw [hvalue]
      exact .inl ⟨hle, rfl⟩
    · have hvalue : signedValue true magnitude = .float (-magnitude.toUInt64.toFloat) := if_neg hle
      rw [hvalue]
      exact .inr ⟨hle, rfl, isFinite_neg (isFinite_toFloat _)⟩

/-- **The class of a number.**  A literal that writes an integer of 64 bits becomes just that, and every
other one a finite floating-point number. -/
theorem toProperty_of_value? (h : literal.value? = some number) :
    (∃ value, literal.integer? = some value ∧ number.toProperty = .integer value) ∨
      (literal.integer? = none ∧ number.toProperty = .float number.asFloat ∧
        number.asFloat.isFinite = true) := by
  rw [value?_eq] at h
  split at h
  · next hwhole =>
    obtain rfl := Option.some.inj h
    rcases toProperty_signedValue literal.negative hwhole.2 with ⟨hfits, heq⟩ | ⟨hfits, heq⟩
    · exact .inl ⟨_, if_pos ⟨hwhole.1, hfits⟩, heq⟩
    · exact .inr ⟨if_neg fun h => hfits h.2, heq⟩
  · next hlarge =>
    refine .inr ⟨if_neg fun hinteger => hlarge ⟨hinteger.1, ?_⟩, toProperty_of_toFloat? h⟩
    -- an integer of 64 bits with a sign is below the bound of those without
    have hsize : UInt64.size = 2 ^ 64 := rfl
    obtain ⟨_, _, hlow, hhigh⟩ := hinteger
    rw [signed] at hlow hhigh
    split_ifs at hlow hhigh <;> omega

end NumberLiteral

end CompactGraph
