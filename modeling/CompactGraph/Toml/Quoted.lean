/-
# TOML strings

A basic string stands between double quotes and may hold escapes; a literal string stands between
single quotes and holds what it shows.  Tripled quotes let either of them run over several lines, with
up to two quotes in a row inside.
-/

namespace CompactGraph

namespace Toml

/-- Whether a character may not stand in a document, line ends and tabs apart. -/
def isControl (c : Char) : Bool := (c.val < 0x20 && c ≠ '\t') || c.val = 0x7F

/-- The value of a hexadecimal digit. -/
def hexDigit? (c : Char) : Option Nat :=
  if '0' ≤ c ∧ c ≤ '9' then some (c.toNat - '0'.toNat)
  else if 'a' ≤ c ∧ c ≤ 'f' then some (c.toNat - 'a'.toNat + 10)
  else if 'A' ≤ c ∧ c ≤ 'F' then some (c.toNat - 'A'.toNat + 10)
  else none

/-- The character with a number; the numbers of halves of characters are refused. -/
def char? (number : Nat) : Option Char := if number.isValidChar then some (Char.ofNat number) else none

/-- The character written in hexadecimal digits. -/
def hexChar? (digits : List Char) : Option Char := do
  let digits ← digits.mapM hexDigit?
  char? (digits.foldl (fun number digit => number * 16 + digit) 0)

/-- The character that an escape of one letter stands for. -/
def shortEscape? : Char → Option Char
  | 'b' => some '\x08'
  | 't' => some '\t'
  | 'n' => some '\n'
  | 'f' => some '\x0c'
  | 'r' => some '\r'
  | 'e' => some '\x1b'
  | '"' => some '"'
  | '\\' => some '\\'
  | _ => none

/-- How many hexadecimal digits follow the letter of an escape. -/
def escapeDigits? : Char → Option Nat
  | 'x' => some 2
  | 'u' => some 4
  | 'U' => some 8
  | _ => none

/-- The character that the text after a backslash begins with, and the text after it. -/
def escape? : List Char → Option (Char × List Char)
  | [] => none
  | letter :: rest =>
    match shortEscape? letter with
    | some c => some (c, rest)
    | none => do
      let count ← escapeDigits? letter
      if rest.length < count then none
      let c ← hexChar? (rest.take count)
      return (c, rest.drop count)

/-- Drop blanks within a line. -/
def dropSpaces (text : List Char) : List Char := text.dropWhile fun c => c = ' ' || c = '\t'

/-- The text after a line end, if the text begins with one. -/
def lineEnd? : List Char → Option (List Char)
  | '\n' :: rest => some rest
  | '\r' :: '\n' :: rest => some rest
  | _ => none

/-- Drop blanks and line ends. -/
def dropLines : List Char → List Char
  | ' ' :: rest | '\t' :: rest | '\n' :: rest => dropLines rest
  | '\r' :: '\n' :: rest => dropLines rest
  | text => text

/-- How many times a character is repeated at the beginning of a text. -/
def runOf (c : Char) (text : List Char) : Nat := (text.takeWhile (· = c)).length

/-- The rest of a string on one line whose opening quote has been passed, within a number of steps. -/
def line? (quote : Char) (done : List Char) : Nat → List Char → Option (String × List Char)
  | 0, _ | _, [] => none
  | steps + 1, c :: rest =>
    if c = quote then some (String.ofList done.reverse, rest)
    else if isControl c then none
    else if quote = '"' && c = '\\' then
      match escape? rest with
      | some (c, rest) => line? quote (c :: done) steps rest
      | none => none
    else line? quote (c :: done) steps rest

/-- The rest of a string of several lines, within a number of steps.  A backslash at the end of a line
swallows it together with all blanks and line ends that follow. -/
def lines? (quote : Char) (done : List Char) : Nat → List Char → Option (String × List Char)
  | 0, _ | _, [] => none
  | steps + 1, c :: rest =>
    if c = quote then
      let run := min 5 (runOf quote (c :: rest))
      if run < 3 then lines? quote (c :: done) steps rest
      else some (String.ofList (List.replicate (run - 3) quote ++ done).reverse, rest.drop (run - 1))
    else if quote = '"' && c = '\\' then
      match lineEnd? (dropSpaces rest) with
      | some rest => lines? quote done steps (dropLines rest)
      | none =>
        match escape? rest with
        | some (c, rest) => lines? quote (c :: done) steps rest
        | none => none
    else
      match lineEnd? (c :: rest) with
      | some after =>
        let lineEnd := (c :: rest).take (rest.length + 1 - after.length)
        lines? quote (lineEnd.reverse ++ done) steps after
      | none => if isControl c then none else lines? quote (c :: done) steps rest

/-- A line end right after the opening quotes is not part of the string. -/
def dropFirstLineEnd (text : List Char) : List Char := (lineEnd? text).getD text

/-- The string that a text begins with, and the text after it. -/
def string? : List Char → Option (String × List Char)
  | '"' :: '"' :: '"' :: rest => lines? '"' [] (rest.length + 1) (dropFirstLineEnd rest)
  | '\'' :: '\'' :: '\'' :: rest => lines? '\'' [] (rest.length + 1) (dropFirstLineEnd rest)
  | text => lineString? text
where
  /-- The string on one line that a text begins with. -/
  lineString? : List Char → Option (String × List Char)
    | '"' :: rest => line? '"' [] (rest.length + 1) rest
    | '\'' :: rest => line? '\'' [] (rest.length + 1) rest
    | _ => none

end Toml

end CompactGraph
