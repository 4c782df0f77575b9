/-
# Printing JSON

A value is printed over several lines, each nesting level two spaces further in.  Empty containers
take one line.
-/
import CompactGraph.Decimal.Shortest
import CompactGraph.Json.Value
import CompactGraph.Text.Quoted

namespace CompactGraph

/-- Floating-point numbers in JSON: a fraction always, an exponent from `1e+16` on and below `0.00001`,
and null for what is not finite. -/
def JsonNumber.floatFormat : Decimal.Format where
  isPositional := fun exponent => -5 ≤ exponent && exponent ≤ 15
  keepsPoint := true
  tieToEven := true
  special := fun _ => "null"

/-- A number as it is printed. -/
def JsonNumber.text : JsonNumber → String
  | natural value => toString value.toNat
  | negative value => toString value.toInt
  | float value => floatFormat.write value

namespace JsonText

/-- How one character of a string is printed. -/
def printedChar (c : Char) : String :=
  match c with
  | '"' => "\\\""
  | '\\' => "\\\\"
  | '\x08' => "\\b"
  | '\x0c' => "\\f"
  | '\n' => "\\n"
  | '\r' => "\\r"
  | '\t' => "\\t"
  | c =>
    if c.val < 0x20 then
      "\\u" ++ String.ofList (List.replicate (4 - (hexDigits c.toNat).length) '0') ++
        hexDigits c.toNat
    else c.toString

/-- A string as it is printed. -/
def printed (s : String) : String := "\"" ++ String.join (s.toList.map printedChar) ++ "\""

end JsonText

namespace JsonValue

/-- The beginning of a line at a nesting level. -/
def indent (level : Nat) : String := String.ofList (List.replicate (2 * level) ' ')

/-- The lines of a container between its brackets. -/
def bracketed (level : Nat) (opening closing : String) (items : List String) : String :=
  if items.isEmpty then opening ++ closing
  else
    opening ++ "\n" ++ ",\n".intercalate (items.map (indent (level + 1) ++ ·)) ++ "\n" ++
      indent level ++ closing

mutual

/-- A value as it is printed at a nesting level. -/
def printAt (level : Nat) : JsonValue → String
  | .null => "null"
  | .boolean value => if value then "true" else "false"
  | .number value => value.text
  | .text value => JsonText.printed value
  | .array elements => bracketed level "[" "]" (printElements (level + 1) elements)
  | .object members => bracketed level "\x7b" "\x7d" (printMembers (level + 1) members)

/-- The elements of an array. -/
def printElements (level : Nat) : List JsonValue → List String
  | [] => []
  | value :: rest => printAt level value :: printElements level rest

/-- The members of an object. -/
def printMembers (level : Nat) : List (String × JsonValue) → List String
  | [] => []
  | (key, value) :: rest =>
    (JsonText.printed key ++ ": " ++ printAt level value) :: printMembers level rest

end

/-- A value as it is printed. -/
def print (value : JsonValue) : String := printAt 0 value

/-- A number that counts something. -/
def ofNat (count : Nat) : JsonValue := .number (.natural count.toUInt64)

end JsonValue

end CompactGraph
