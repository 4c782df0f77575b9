/-
# TOML numbers

Integers are decimal, hexadecimal, octal or binary; floating-point numbers are decimal.  Single
underscores may stand between digits, and a decimal integer does not begin with a zero.
-/
import CompactGraph.Decimal.Nearest
import CompactGraph.Toml.Quoted

namespace CompactGraph

namespace Toml

/-- Remove underscores, each of which has to stand between two digits. -/
def joinDigits? (isDigit : Char → Bool) : List Char → Option (List Char)
  | [] => none
  | [c] => if isDigit c then some [c] else none
  | c :: '_' :: rest => if isDigit c then (joinDigits? isDigit rest).map (c :: ·) else none
  | c :: d :: rest => if isDigit c then (joinDigits? isDigit (d :: rest)).map (c :: ·) else none

/-- Whether a digit belongs to a number system. -/
def isDigitOf (base : Nat) (c : Char) : Bool := (hexDigit? c).any (· < base)

/-- The number that digits of a number system stand for. -/
def inBase? (base : Nat) (digits : List Char) : Option Nat := do
  let digits ← joinDigits? (isDigitOf base) digits
  let values ← digits.mapM hexDigit?
  return values.foldl (fun number digit => number * base + digit) 0

/-- The digits of a decimal integer without its sign. -/
def wholeDigits? (text : List Char) : Option (List Char) :=
  match joinDigits? Char.isDigit text with
  | some ('0' :: _ :: _) => none
  | found => found

/-- The integer that a text stands for.  It fits into 64 bits, with a sign or without. -/
def integer? (text : List Char) : Option Int :=
  let found : Option Int :=
    match text with
    | '0' :: 'x' :: digits => (inBase? 16 digits).map Int.ofNat
    | '0' :: 'o' :: digits => (inBase? 8 digits).map Int.ofNat
    | '0' :: 'b' :: digits => (inBase? 2 digits).map Int.ofNat
    | _ =>
      let (isNegative, digits) := Decimal.takeSign text
      (wholeDigits? digits >>= inBase? 10).map fun (number : Nat) =>
        if isNegative then -(number : Int) else number
  found.filter fun number => Int64.minValue.toInt ≤ number && number < UInt64.size

/-- The exponent of a floating-point number without its mark. -/
def exponentText? (text : List Char) : Option (List Char) :=
  let (isNegative, digits) := Decimal.takeSign text
  (joinDigits? Char.isDigit digits).map fun digits =>
    'e' :: (if isNegative then '-' else '+') :: digits

/-- The end of a floating-point number: nothing or an exponent. -/
def exponentPart? : List Char → Option (List Char)
  | [] => some []
  | mark :: rest => if mark = 'e' || mark = 'E' then exponentText? rest else none

/-- Whether a character marks an exponent. -/
def isMark (c : Char) : Bool := c = 'e' || c = 'E'

/-- A floating-point number without its sign and without underscores. -/
def decimalText? (text : List Char) : Option (List Char) := do
  let whole ← wholeDigits? (text.takeWhile fun c => c ≠ '.' && !isMark c)
  match text.dropWhile fun c => c ≠ '.' && !isMark c with
  | '.' :: rest =>
    let fraction ← joinDigits? Char.isDigit (rest.takeWhile fun c => !isMark c)
    let exponent ← exponentPart? (rest.dropWhile fun c => !isMark c)
    return whole ++ '.' :: fraction ++ exponent
  | rest =>
    let exponent ← exponentPart? rest
    if exponent.isEmpty then none else return whole ++ exponent

/-- The value of a floating-point number without its sign.  Too large a number is refused. -/
def magnitude? (text : List Char) : Option Float := do
  let decimal ← decimalText? text
  let magnitude ← Decimal.ofText? (String.ofList decimal)
  if magnitude.isFinite then return magnitude else none

/-- The floating-point number that a text stands for. -/
def float? (text : List Char) : Option Float := do
  let (isNegative, rest) := Decimal.takeSign text
  let magnitude ←
    match rest with
    | ['i', 'n', 'f'] => some (Float.ofBits Decimal.infinityBits.toUInt64)
    | ['n', 'a', 'n'] => some (0 / 0)
    | _ => magnitude? rest
  return if isNegative then -magnitude else magnitude

end Toml

end CompactGraph
