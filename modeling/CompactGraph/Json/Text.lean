/-
# JSON strings

A string is text once its escapes are resolved and the result is valid UTF-8.  A character beyond the
first 65536 is escaped as two halves, and a half without the other is refused.
-/
import CompactGraph.Json.Token

namespace CompactGraph

namespace JsonText

/-- The number written in four hexadecimal digits. -/
def hexUnit? (h i j k : UInt8) : Option Nat := do
  let h ← JsonToken.hexDigit? h
  let i ← JsonToken.hexDigit? i
  let j ← JsonToken.hexDigit? j
  let k ← JsonToken.hexDigit? k
  return ((h * 16 + i) * 16 + j) * 16 + k

/-- The byte that a short escape stands for. -/
def shortEscape? (b : UInt8) : Option UInt8 :=
  [('"', 34), ('\\', 92), ('/', 47), ('b', 8), ('f', 12), ('n', 10), ('r', 13), ('t', 9)].findSome?
    fun (c, meaning) => if b = JsonToken.byte c then some meaning else none

/-- Whether a unit is the first half of a character. -/
def isHighHalf (unit : Nat) : Bool := 0xD800 ≤ unit && unit < 0xDC00

/-- Whether a unit is the second half of a character. -/
def isLowHalf (unit : Nat) : Bool := 0xDC00 ≤ unit && unit < 0xE000

/-- The character that consists of two halves. -/
def joinHalves (high low : Nat) : Char :=
  Char.ofNat (0x10000 + (high - 0xD800) * 0x400 + (low - 0xDC00))

/-- Put the bytes of a character before bytes in reverse. -/
def pushChar (c : Char) (done : List UInt8) : List UInt8 :=
  (String.utf8EncodeChar c).reverse ++ done

/-- Replace all escapes by the bytes they stand for. -/
def resolve? (done : List UInt8) : List UInt8 → Option (List UInt8)
  | [] => some done.reverse
  | [b] => if b = JsonToken.byte '\\' then none else some (b :: done).reverse
  | b :: e :: rest =>
    if b ≠ JsonToken.byte '\\' then resolve? (b :: done) (e :: rest)
    else
      match shortEscape? e with
      | some meaning => resolve? (meaning :: done) rest
      | none =>
        match rest with
        | h :: i :: j :: k :: rest =>
          match hexUnit? h i j k with
          | none => none
          | some unit =>
            if isLowHalf unit then none
            else if isHighHalf unit then
              match rest with
              | b' :: e' :: h' :: i' :: j' :: k' :: rest =>
                if b' = JsonToken.byte '\\' ∧ e' = JsonToken.byte 'u' then
                  match hexUnit? h' i' j' k' with
                  | none => none
                  | some low =>
                    if isLowHalf low then resolve? (pushChar (joinHalves unit low) done) rest
                    else none
                else none
              | _ => none
            else resolve? (pushChar (Char.ofNat unit) done) rest
        | _ => none

/-- The text of a string. -/
def decode? (body : List UInt8) : Option String :=
  (resolve? [] body).bind fun bytes => String.fromUTF8? ⟨bytes.toArray⟩

end JsonText

end CompactGraph
