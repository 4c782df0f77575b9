/-
# TOML documents

A document of keys and scalar values, one pair a line.  Tables, arrays and dates are refused, because
nothing that is read from such a document has a place for them.
-/
import CompactGraph.Toml.Number

namespace CompactGraph

namespace Toml

/-- A value that is no container. -/
inductive Scalar where
  | text (value : String)
  | boolean (value : Bool)
  | integer (value : Int)
  | float (value : Float)
  deriving Repr, Inhabited

/-- Whether a character may stand in a key without quotes. -/
def isBare (c : Char) : Bool :=
  ('a' ≤ c && c ≤ 'z') || ('A' ≤ c && c ≤ 'Z') || ('0' ≤ c && c ≤ '9') || c = '_' || c = '-'

/-- The key that a text begins with, and the text after it. -/
def key? (text : List Char) : Option (String × List Char) :=
  match text.takeWhile isBare with
  | [] => string?.lineString? text
  | bare => some (String.ofList bare, text.dropWhile isBare)

/-- Whether a value without quotes ends before a character. -/
def endsValue (c : Char) : Bool := c = ' ' || c = '\t' || c = '\n' || c = '\r' || c = '#'

/-- A value without quotes. -/
def bareValue? (text : List Char) : Option Scalar :=
  match String.ofList text with
  | "true" => some (.boolean true)
  | "false" => some (.boolean false)
  | _ => ((integer? text).map .integer) <|> ((float? text).map .float)

/-- The value that a text begins with, and the text after it. -/
def value? (text : List Char) : Option (Scalar × List Char) :=
  match text with
  | '"' :: _ | '\'' :: _ => (string? text).map fun (value, rest) => (.text value, rest)
  | _ =>
    (bareValue? (text.takeWhile fun c => !endsValue c)).map fun value =>
      (value, text.dropWhile fun c => !endsValue c)

/-- A pair of key and value, and the text after it. -/
def pair? (text : List Char) : Option ((String × Scalar) × List Char) := do
  let (key, rest) ← key? text
  match dropSpaces rest with
  | '=' :: rest =>
    let (value, rest) ← value? (dropSpaces rest)
    return ((key, value), rest)
  | _ => none

/-- The text after a comment, which a number sign begins and the end of the line ends. -/
def dropComment? : List Char → Option (List Char)
  | '#' :: rest =>
    let comment := rest.takeWhile fun c => c ≠ '\n' && c ≠ '\r'
    if comment.any isControl then none else some (rest.drop comment.length)
  | text => some text

/-- The text after the end of a line, before which blanks and a comment may stand. -/
def endLine? (text : List Char) : Option (List Char) :=
  match dropComment? (dropSpaces text) with
  | some [] => some []
  | some rest => lineEnd? rest
  | none => none

/-- The pairs of a document, within a number of steps.  A key that has occurred is refused. -/
def pairs? (found : List (String × Scalar)) : Nat → List Char → Option (List (String × Scalar))
  | _, [] => some found.reverse
  | 0, _ :: _ => none
  | steps + 1, text =>
    match endLine? text with
    | some rest => pairs? found steps rest
    | none =>
      match pair? (dropSpaces text) with
      | none => none
      | some ((key, value), rest) =>
        if found.any fun pair => pair.1 == key then none
        else (endLine? rest).bind fun rest => pairs? ((key, value) :: found) steps rest

/-- The mark that may stand at the beginning of a document. -/
def byteOrderMark : Char := '\uFEFF'

/-- The pairs of a document, in order. -/
def document? (text : String) : Option (List (String × Scalar)) :=
  let text :=
    match text.toList with
    | c :: rest => if c = byteOrderMark then rest else c :: rest
    | [] => []
  pairs? [] text.length text

end Toml

end CompactGraph
