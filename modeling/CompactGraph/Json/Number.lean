/-
# JSON numbers

A JSON number is a decimal literal of any length.  Its value is a 64-bit integer if it has neither
fraction nor exponent and fits, and a floating-point number otherwise.  The floating-point value is
the significant digits, as many of them as fit into 64 bits, times a power of ten: two roundings, so
that it may differ in its last bit from the number nearest to the literal.
-/
import CompactGraph.Decimal.Nearest

namespace CompactGraph

/-- A JSON number as it is written. -/
structure NumberLiteral where
  negative : Bool
  /-- The digits before the point. -/
  whole : List Nat
  /-- The digits after the point, if there is one. -/
  fraction : Option (List Nat) := none
  /-- The exponent, if there is one: whether it is negative, and its digits. -/
  exponent : Option (Bool × List Nat) := none
  deriving DecidableEq, Repr, Inhabited

/-- The value of a JSON number. -/
inductive JsonNumber where
  /-- An integer that is not negative. -/
  | natural (value : UInt64)
  /-- An integer below zero. -/
  | negative (value : Int64)
  | float (value : Float)
  deriving Repr, Inhabited

namespace NumberLiteral

/-- Append digits to a number as long as it stays below `bound`.  The answer tells how many digits
were left over. -/
def appendDigits (bound : Nat) (number : Nat) : List Nat → Nat × Nat
  | [] => (number, 0)
  | digit :: rest =>
    if number * 10 + digit < bound then appendDigits bound (number * 10 + digit) rest
    else (number, rest.length + 1)

/-- The largest power of ten that a floating-point number holds. -/
def maxPower : Nat := 308

/-- A power of ten. -/
def powerOfTen (exponent : Nat) : Float := Decimal.nearest 1 exponent

/-- A significand over a power of ten.  A power too large for one division is divided by in two
steps, and what is too small for two steps is zero. -/
def scaleDown (significand : Float) (exponent : Nat) : Float :=
  if exponent ≤ maxPower then significand / powerOfTen exponent
  else if exponent ≤ maxPower + maxPower then
    significand / powerOfTen maxPower / powerOfTen (exponent - maxPower)
  else 0

/-- A significand times a power of ten; `none` if that is too large. -/
def scaleUp (significand : Float) (exponent : Nat) : Option Float :=
  if exponent ≤ maxPower then
    let scaled := significand * powerOfTen exponent
    if scaled.isInf then none else some scaled
  else if significand == 0 then some significand
  else none

/-- The floating-point value of a significand below `2 ^ 64` and a power of ten. -/
def scale (significand : Nat) (exponent : Int) : Option Float :=
  let significand := significand.toUInt64.toFloat
  match exponent with
  | .ofNat exponent => scaleUp significand exponent
  | .negSucc exponent => some (scaleDown significand (exponent + 1))

/-- The significant digits as a number below `2 ^ 64`, and the power of ten that goes with them.
Digits before the point that do not fit count as zeros, digits after it are dropped. -/
def significand (literal : NumberLiteral) : Nat × Int :=
  let (number, left) := appendDigits UInt64.size 0 literal.whole
  let digits := literal.fraction.getD []
  let (number, dropped) := appendDigits UInt64.size number digits
  (number, (left : Int) + dropped - digits.length)

/-- The magnitude as a floating-point number; `none` if it is too large.  An exponent that does not
fit into 32 bits is as good as infinite. -/
def magnitude (literal : NumberLiteral) : Option Float :=
  let (number, power) := literal.significand
  match literal.exponent with
  | none => scale number power
  | some (isNegative, digits) =>
    match appendDigits (UInt32.size / 2) 0 digits with
    | (exponent, 0) => scale number (if isNegative then power - exponent else power + exponent)
    | (_, _ + 1) => if number = 0 || isNegative then some 0 else none

/-- The literal as a floating-point number. -/
def toFloat? (literal : NumberLiteral) : Option JsonNumber :=
  literal.magnitude.map fun magnitude =>
    .float (if literal.negative then -magnitude else magnitude)

/-- Whether the literal has neither fraction nor exponent. -/
def isInteger (literal : NumberLiteral) : Bool :=
  literal.fraction.isNone && literal.exponent.isNone

/-- The value of a literal; `none` if it is out of the range of floating-point numbers.  Minus zero
is no integer. -/
def value? (literal : NumberLiteral) : Option JsonNumber :=
  match appendDigits UInt64.size 0 literal.whole with
  | (number, 0) =>
    if literal.isInteger then
      if !literal.negative then some (.natural number.toUInt64)
      else if 0 < number ∧ number ≤ UInt64.size / 2 then some (.negative (Int64.ofInt (-number)))
      else some (.float (-number.toUInt64.toFloat))
    else literal.toFloat?
  | _ => literal.toFloat?

end NumberLiteral

end CompactGraph
