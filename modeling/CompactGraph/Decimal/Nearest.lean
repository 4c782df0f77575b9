/-
# Reading decimals

The floating-point number nearest to a decimal.  A 64-bit floating-point number is a significand of
53 bits at most times a power of two that is not below `2 ^ (-1074)`; of two that are equally near, the
one with the even significand is taken.
-/

namespace CompactGraph

namespace Decimal

/-- The smallest exponent of two. -/
def minExponent : Int := -1074

/-- The bit of a significand that is not stored.  Only numbers with the smallest exponent lack it. -/
def hiddenBit : Nat := 0x10000000000000

/-- The bit that is set in negative numbers. -/
def signBit : Nat := 0x8000000000000000

/-- The bits of the first number that is too large. -/
def infinityBits : Nat := 0x7FF0000000000000

/-- A quotient rounded to the nearest integer, a half to the even one. -/
def roundHalfEven (numerator denominator : Nat) : Nat :=
  let quotient := numerator / denominator
  let rest := numerator % denominator * 2
  if rest < denominator then quotient
  else if denominator < rest then quotient + 1
  else quotient + quotient % 2

/-- A quotient over a power of two, as numerator and denominator. -/
def overPowerOfTwo (numerator denominator : Nat) (exponent : Int) : Nat × Nat :=
  match exponent with
  | .ofNat exponent => (numerator, denominator * Nat.pow 2 exponent)
  | .negSucc exponent => (numerator * Nat.pow 2 (exponent + 1), denominator)

/-- The exponent of the largest power of two that is not above a positive quotient. -/
def floorLog2 (numerator denominator : Nat) : Int :=
  let guess : Int := (numerator.log2 : Int) - denominator.log2
  let (scaled, unit) := overPowerOfTwo numerator denominator guess
  if unit ≤ scaled then guess else guess - 1

/-- The bits of the number nearest to a positive quotient. -/
def nearestBits (numerator denominator : Nat) : Nat :=
  let exponent := max (floorLog2 numerator denominator - 52) minExponent
  let (scaled, unit) := overPowerOfTwo numerator denominator exponent
  let significand := roundHalfEven scaled unit
  let normal := (exponent - minExponent).toNat
  min infinityBits (if significand < hiddenBit then significand else normal * hiddenBit + significand)

/-- Decimals of this many digits before the point are too large. -/
def tooManyDigits : Int := 400

/-- The number nearest to `digits * 10 ^ exponent`. -/
def nearest (digits : Nat) (exponent : Int) : Float :=
  let size := (Nat.toDigits 10 digits).length + exponent
  if digits = 0 || size < -tooManyDigits then 0
  else if tooManyDigits < size then Float.ofBits infinityBits.toUInt64
  else
    match exponent with
    | .ofNat exponent => Float.ofBits (nearestBits (digits * Nat.pow 10 exponent) 1).toUInt64
    | .negSucc exponent => Float.ofBits (nearestBits digits (Nat.pow 10 (exponent + 1))).toUInt64

/-- The number that digits stand for. -/
def ofDigits (digits : List Nat) : Nat := digits.foldl (fun number digit => number * 10 + digit) 0

/-- The value of an ASCII digit. -/
def digit? (c : Char) : Option Nat := if c.isDigit then some (c.toNat - '0'.toNat) else none

/-- The digits that a text begins with, and the text after them. -/
def takeDigits (text : List Char) : List Nat × List Char :=
  (text.takeWhile Char.isDigit |>.filterMap digit?, text.dropWhile Char.isDigit)

/-- The sign that a text begins with, if any, and the text after it.  The flag tells whether it is a
minus. -/
def takeSign : List Char → Bool × List Char
  | '-' :: rest => (true, rest)
  | '+' :: rest => (false, rest)
  | text => (false, text)

/-- The exponent that a text consists of; an empty text stands for zero. -/
def exponent? : List Char → Option Int
  | [] => some 0
  | mark :: rest =>
    if mark = 'e' || mark = 'E' then
      let (isNegative, rest) := takeSign rest
      match takeDigits rest with
      | ([], _) | (_, _ :: _) => none
      | (digits, []) => some (if isNegative then -(ofDigits digits : Int) else ofDigits digits)
    else none

/-- The fraction that a text begins with, and the text after it. -/
def takeFraction : List Char → List Nat × List Char
  | '.' :: rest => takeDigits rest
  | text => ([], text)

/-- The magnitude that a text stands for: digits with or without a point, and an exponent, if any. -/
def magnitude? (text : List Char) : Option Float := do
  let (whole, rest) := takeDigits text
  let (fraction, rest) := takeFraction rest
  if (whole ++ fraction).isEmpty then none
  let exponent ← exponent? rest
  return nearest (ofDigits (whole ++ fraction)) (exponent - fraction.length)

/-- The number that a text stands for. -/
def ofText? (text : String) : Option Float :=
  let (isNegative, rest) := takeSign text.toList
  let magnitude :=
    match String.ofList (rest.map Char.toLower) with
    | "inf" | "infinity" => some (Float.ofBits infinityBits.toUInt64)
    | "nan" => some (0 / 0)
    | _ => magnitude? rest
  magnitude.map fun magnitude => if isNegative then -magnitude else magnitude

/-- The number below `2 ^ 64` that a text of digits stands for; a plus may stand in front. -/
def natural? (text : String) : Option Nat :=
  let digits :=
    match text.toList with
    | '+' :: rest => rest
    | text => text
  match takeDigits digits with
  | ([], _) | (_, _ :: _) => none
  | (digits, []) => if ofDigits digits < UInt64.size then some (ofDigits digits) else none

end Decimal

end CompactGraph
