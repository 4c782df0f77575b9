/-
# JSON tokens

The bytes of a JSON document, cut into brackets, separators, words, numbers and strings.  A string is
kept as it stands between its quotes; only the form of its escapes is looked at.
-/
import CompactGraph.Json.Number

namespace CompactGraph

/-- The smallest parts of a JSON document. -/
inductive JsonToken where
  | openArray
  | closeArray
  | openObject
  | closeObject
  | comma
  | colon
  | null
  | boolean (value : Bool)
  | number (literal : NumberLiteral)
  /-- A string, escapes and all, without its quotes. -/
  | text (body : List UInt8)
  deriving DecidableEq, Repr, Inhabited

namespace JsonToken

/-- The byte of an ASCII character. -/
def byte (c : Char) : UInt8 := c.toNat.toUInt8

/-- Whether a byte may stand between tokens. -/
def isBlankByte (b : UInt8) : Bool := b = byte ' ' || b = byte '\n' || b = byte '\t' || b = byte '\r'

/-- The value of a decimal digit. -/
def digit? (b : UInt8) : Option Nat :=
  if byte '0' ≤ b ∧ b ≤ byte '9' then some (b - byte '0').toNat else none

/-- The value of a hexadecimal digit. -/
def hexDigit? (b : UInt8) : Option Nat :=
  if byte '0' ≤ b ∧ b ≤ byte '9' then some (b - byte '0').toNat
  else if byte 'a' ≤ b ∧ b ≤ byte 'f' then some ((b - byte 'a').toNat + 10)
  else if byte 'A' ≤ b ∧ b ≤ byte 'F' then some ((b - byte 'A').toNat + 10)
  else none

/-- The digits that bytes begin with, and what comes after them. -/
def takeDigits (done : List Nat) : List UInt8 → List Nat × List UInt8
  | [] => (done.reverse, [])
  | b :: rest =>
    match digit? b with
    | some digit => takeDigits (digit :: done) rest
    | none => (done.reverse, b :: rest)

/-- One digit or more. -/
def takeDigits? (bytes : List UInt8) : Option (List Nat × List UInt8) :=
  match takeDigits [] bytes with
  | ([], _) => none
  | found => some found

/-- The digits before the point: a zero stands alone. -/
def takeWhole? (bytes : List UInt8) : Option (List Nat × List UInt8) :=
  match takeDigits? bytes with
  | some (0 :: _ :: _, _) => none
  | found => found

/-- A point and the digits after it, if there is a point. -/
def takeFraction? : List UInt8 → Option (Option (List Nat) × List UInt8)
  | [] => some (none, [])
  | b :: rest =>
    if b = byte '.' then (takeDigits? rest).map fun (digits, rest) => (some digits, rest)
    else some (none, b :: rest)

/-- The sign of an exponent. -/
def takeSign : List UInt8 → Bool × List UInt8
  | [] => (false, [])
  | b :: rest =>
    if b = byte '-' then (true, rest) else (false, if b = byte '+' then rest else b :: rest)

/-- An exponent, if there is one. -/
def takeExponent? : List UInt8 → Option (Option (Bool × List Nat) × List UInt8)
  | [] => some (none, [])
  | b :: rest =>
    if b = byte 'e' || b = byte 'E' then
      let (isNegative, rest) := takeSign rest
      (takeDigits? rest).map fun (digits, rest) => (some (isNegative, digits), rest)
    else some (none, b :: rest)

/-- A number without its sign. -/
def takeUnsigned? (negative : Bool) (bytes : List UInt8) : Option (JsonToken × List UInt8) := do
  let (whole, rest) ← takeWhole? bytes
  let (fraction, rest) ← takeFraction? rest
  let (exponent, rest) ← takeExponent? rest
  return (.number { negative, whole, fraction, exponent }, rest)

/-- Whether a backslash and this byte alone are an escape. -/
def isShortEscape (b : UInt8) : Bool := ['"', '\\', '/', 'b', 'f', 'n', 'r', 't'].any (b = byte ·)

/-- The rest of a string whose opening quote has been passed. -/
def takeText? (done : List UInt8) : List UInt8 → Option (JsonToken × List UInt8)
  | [] => none
  | [b] => if b = byte '"' then some (.text done.reverse, []) else none
  | b :: e :: rest =>
    if b = byte '"' then some (.text done.reverse, e :: rest)
    else if b < 32 then none
    else if b ≠ byte '\\' then takeText? (b :: done) (e :: rest)
    else if isShortEscape e then takeText? (e :: b :: done) rest
    else if e ≠ byte 'u' then none
    else
      match rest with
      | h :: i :: j :: k :: rest =>
        if [h, i, j, k].all fun digit => (hexDigit? digit).isSome then
          takeText? (k :: j :: i :: h :: e :: b :: done) rest
        else none
      | _ => none

/-- Bytes after a word they have to begin with. -/
def dropWord? : List Char → List UInt8 → Option (List UInt8)
  | [], bytes => some bytes
  | _ :: _, [] => none
  | c :: word, b :: bytes => if b = byte c then dropWord? word bytes else none

/-- The token that bytes begin with, and what comes after it. -/
def first? : List UInt8 → Option (JsonToken × List UInt8)
  | [] => none
  | b :: rest =>
    if b = byte '[' then some (.openArray, rest)
    else if b = byte ']' then some (.closeArray, rest)
    else if b = byte '\x7b' then some (.openObject, rest)
    else if b = byte '\x7d' then some (.closeObject, rest)
    else if b = byte ',' then some (.comma, rest)
    else if b = byte ':' then some (.colon, rest)
    else if b = byte '"' then takeText? [] rest
    else if b = byte 'n' then (dropWord? ['u', 'l', 'l'] rest).map ((.null, ·))
    else if b = byte 't' then (dropWord? ['r', 'u', 'e'] rest).map ((.boolean true, ·))
    else if b = byte 'f' then (dropWord? ['a', 'l', 's', 'e'] rest).map ((.boolean false, ·))
    else if b = byte '-' then takeUnsigned? true rest
    else takeUnsigned? false (b :: rest)

/-- The tokens of bytes, after those found before.  Each step takes a byte at least, so as many steps
as there are bytes are enough. -/
def scanFrom (done : List JsonToken) : Nat → List UInt8 → Option (List JsonToken)
  | _, [] => some done.reverse
  | 0, _ :: _ => none
  | steps + 1, b :: rest =>
    if isBlankByte b then scanFrom done steps rest
    else
      match first? (b :: rest) with
      | some (token, rest) => scanFrom (token :: done) steps rest
      | none => none

/-- The tokens of a document. -/
def scan (bytes : List UInt8) : Option (List JsonToken) := scanFrom [] bytes.length bytes

end JsonToken

end CompactGraph
