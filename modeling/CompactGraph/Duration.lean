/-
# Durations

Spans of time in whole nanoseconds and the way they are written: in the largest unit that is not
larger than the span, with the fraction that is left and no trailing zeros.
-/

namespace CompactGraph

/-- A span of time. -/
structure Duration where
  nanoseconds : Nat
  deriving DecidableEq, Repr, Inhabited

namespace Duration

/-- A span of whole milliseconds. -/
def ofMilliseconds (count : Nat) : Duration := ⟨count * 1000000⟩

/-- The whole milliseconds of a span. -/
def milliseconds (d : Duration) : Nat := d.nanoseconds / 1000000

/-- Drop zeros at the end. -/
def dropTrailingZeros (digits : List Char) : List Char :=
  (digits.reverse.dropWhile (· = '0')).reverse

/-- The decimal fraction `rest / 10 ^ places`, with its point, or nothing for zero. -/
def fractionText (places rest : Nat) : String :=
  let digits := Nat.toDigits 10 rest
  let padded := List.replicate (places - digits.length) '0' ++ digits
  match dropTrailingZeros padded with
  | [] => ""
  | kept => "." ++ String.ofList kept

/-- A span in a unit of `10 ^ places` nanoseconds. -/
def inUnit (d : Duration) (places : Nat) (unit : String) : String :=
  toString (d.nanoseconds / Nat.pow 10 places) ++ fractionText places (d.nanoseconds % Nat.pow 10 places) ++ unit

/-- A span as it is printed. -/
def text (d : Duration) : String :=
  if d.nanoseconds ≥ 1000000000 then d.inUnit 9 "s"
  else if d.nanoseconds ≥ 1000000 then d.inUnit 6 "ms"
  else if d.nanoseconds ≥ 1000 then d.inUnit 3 "µs"
  else toString d.nanoseconds ++ "ns"

end Duration

end CompactGraph
