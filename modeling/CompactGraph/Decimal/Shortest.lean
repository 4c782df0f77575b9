/-
# Writing floating-point numbers

A floating-point number is written with the fewest digits that read back as the same number, and of
those with the digits nearest to it.  Where the point goes and when an exponent is written is up to
the format.
-/
import CompactGraph.Decimal.Nearest

namespace CompactGraph

namespace Decimal

/-- A positive number `significand * 2 ^ exponent`, and whether its lower neighbour is only half as far
away as its upper one. -/
structure Binary where
  significand : Nat
  exponent : Int
  isNarrowBelow : Bool
  deriving Repr

/-- The parts of a finite number other than zero, without its sign. -/
def Binary.ofFloat (x : Float) : Binary :=
  let bits := x.toBits.toNat % signBit
  let stored := bits / hiddenBit
  let fraction := bits % hiddenBit
  if stored = 0 then ⟨fraction, minExponent, false⟩
  else ⟨fraction + hiddenBit, minExponent + (stored - 1 : Nat), fraction = 0 && 1 < stored⟩

/-- Digits and the power of ten of the last of them. -/
structure Digits where
  number : Nat
  exponent : Int
  deriving DecidableEq, Repr

/-- A number of quarter units as a quotient, a unit being the last place of the significand. -/
def Binary.quarters (b : Binary) (count : Nat) : Nat × Nat :=
  let (unit, numerator) := overPowerOfTwo 1 count (b.exponent - 2)
  (numerator, unit)

/-- A quotient over a power of ten. -/
def overPowerOfTen (value : Nat × Nat) (exponent : Int) : Nat × Nat :=
  match exponent with
  | .ofNat exponent => (value.1, value.2 * Nat.pow 10 exponent)
  | .negSucc exponent => (value.1 * Nat.pow 10 (exponent + 1), value.2)

/-- The number as a quotient. -/
def Binary.value (b : Binary) : Nat × Nat := b.quarters (4 * b.significand)

/-- The lowest and the highest quotient that may be rounded to the number. -/
def Binary.bounds (b : Binary) : (Nat × Nat) × (Nat × Nat) :=
  (b.quarters (4 * b.significand - if b.isNarrowBelow then 1 else 2),
    b.quarters (4 * b.significand + 2))

/-- Whether digits read back as the number.  The bounds themselves do if the significand is even. -/
def Binary.readsBack (b : Binary) (digits : Digits) : Bool :=
  let (low, high) := b.bounds
  let low := overPowerOfTen low digits.exponent
  let high := overPowerOfTen high digits.exponent
  if b.significand % 2 = 0 then low.1 ≤ digits.number * low.2 && digits.number * high.2 ≤ high.1
  else low.1 < digits.number * low.2 && digits.number * high.2 < high.1

/-- More decimal places than any number needs to have a digit before the point. -/
def manyPlaces : Nat := 400

/-- The decimal exponent of the first digit. -/
def Binary.firstDigit (b : Binary) : Int :=
  let (numerator, denominator) := b.value
  let shifted := numerator * Nat.pow 10 manyPlaces / denominator
  (Nat.toDigits 10 shifted).length - 1 - manyPlaces

/-- The nearest way to write the number with its last digit at an exponent, if any way reads back.
`tieToEven` chooses between two ways that are equally near: the one with the even last digit, or the
larger one. -/
def Binary.digitsAt? (b : Binary) (tieToEven : Bool) (exponent : Int) : Option Digits :=
  let (numerator, denominator) := overPowerOfTen b.value exponent
  let low := numerator / denominator
  let rest := numerator % denominator * 2
  let prefersLow := rest < denominator || (rest = denominator && tieToEven && low % 2 = 0)
  let candidates := if prefersLow then [low, low + 1] else [low + 1, low]
  (candidates.map fun number => ⟨number, exponent⟩).find? b.readsBack

/-- Seventeen digits are always enough. -/
def maxDigits : Nat := 17

/-- The fewest digits that read back, and of those the nearest. -/
def Binary.shortest (b : Binary) (tieToEven : Bool) : Digits :=
  let first := b.firstDigit
  ((List.range maxDigits).findSome? fun (count : Nat) => b.digitsAt? tieToEven (first - count)).getD
    ⟨b.significand, 0⟩

/-- Digits without zeros at the end. -/
def Digits.trim : Nat → Digits → Digits
  | 0, digits => digits
  | steps + 1, digits =>
    if digits.number % 10 = 0 then trim steps ⟨digits.number / 10, digits.exponent + 1⟩ else digits

/-- How floating-point numbers are written. -/
structure Format where
  /-- Whether a number whose first digit has this exponent is written without one. -/
  isPositional : Int → Bool
  /-- Whether a whole number is written with a point and a zero. -/
  keepsPoint : Bool
  /-- Which of two equally near ways to write a number is taken. -/
  tieToEven : Bool
  /-- What is written for numbers that are not finite. -/
  special : Float → String

namespace Format

/-- A number of zeros. -/
def zeros (count : Nat) : String := String.ofList (List.replicate count '0')

/-- Digits with the point where it belongs. -/
def positional (format : Format) (digits : Digits) : String :=
  let text := toString digits.number
  match digits.exponent with
  | .ofNat exponent => text ++ zeros exponent ++ if format.keepsPoint then ".0" else ""
  | .negSucc places =>
    let places := places + 1
    let padded := zeros (places + 1 - text.length) ++ text
    let whole := padded.length - places
    String.ofList (padded.toList.take whole) ++ "." ++ String.ofList (padded.toList.drop whole)

/-- Digits with the point after the first, and an exponent. -/
def scientific (digits : Digits) : String :=
  let text := toString digits.number
  let exponent := digits.exponent + (text.length - 1 : Nat)
  let sign := if exponent < 0 then "-" else "+"
  let rest := String.ofList (text.toList.drop 1)
  String.ofList (text.toList.take 1) ++ (if rest.isEmpty then "" else "." ++ rest) ++ "e" ++ sign ++
    toString exponent.natAbs

/-- A number that is neither negative nor special. -/
def magnitude (format : Format) (x : Float) : String :=
  if x == 0 then format.positional ⟨0, 0⟩
  else
    let digits := ((Binary.ofFloat x).shortest format.tieToEven).trim maxDigits
    let first := digits.exponent + ((toString digits.number).length - 1 : Nat)
    if format.isPositional first then format.positional digits else scientific digits

/-- A number as it is written. -/
def write (format : Format) (x : Float) : String :=
  if !x.isFinite then format.special x
  else if x.toBits.toNat < signBit then format.magnitude x
  else "-" ++ format.magnitude (-x)

end Format

end Decimal

end CompactGraph
