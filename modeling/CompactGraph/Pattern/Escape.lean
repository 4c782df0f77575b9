/-
# Escapes

After a backslash a letter stands for a character that is hard to write, for a class or for a boundary,
and a sign stands for itself.
-/
import CompactGraph.Pattern.Flags

namespace CompactGraph

/-- What a pattern consists of, apart from the signs that put it together. -/
inductive PatternAtom where
  | char (c : Char)
  | chars (chars : CharClass)
  | boundary (boundary : Boundary)
  deriving DecidableEq, Repr, Inhabited

/-! ## ASCII classes -/

/-- The ranges of ASCII digits. -/
def digitRanges : List (Char × Char) := [('0', '9')]

/-- The ranges of ASCII letters. -/
def alphaRanges : List (Char × Char) := [('A', 'Z'), ('a', 'z')]

/-- The ranges of ASCII white space. -/
def spaceRanges : List (Char × Char) := [('\t', '\r'), (' ', ' ')]

/-- The ranges of the characters of ASCII words. -/
def wordRanges : List (Char × Char) := digitRanges ++ alphaRanges ++ [('_', '_')]

/-- The ranges of the ASCII class with a name. -/
def rangesNamed? : String → Option (List (Char × Char))
  | "alnum" => some (digitRanges ++ alphaRanges)
  | "alpha" => some alphaRanges
  | "ascii" => some [('\x00', '\x7f')]
  | "blank" => some [('\t', '\t'), (' ', ' ')]
  | "cntrl" => some [('\x00', '\x1f'), ('\x7f', '\x7f')]
  | "digit" => some digitRanges
  | "graph" => some [('!', '~')]
  | "lower" => some [('a', 'z')]
  | "print" => some [(' ', '~')]
  | "punct" => some [('!', '/'), (':', '@'), ('[', '\x60'), ('\x7b', '~')]
  | "space" => some spaceRanges
  | "upper" => some [('A', 'Z')]
  | "word" => some wordRanges
  | "xdigit" => some [('0', '9'), ('A', 'F'), ('a', 'f')]
  | _ => none

/-! ## Reading escapes -/

namespace PatternAtom

/-- The value of a hexadecimal digit. -/
def hexDigit? (c : Char) : Option Nat :=
  if '0'.toNat ≤ c.toNat && c.toNat ≤ '9'.toNat then some (c.toNat - '0'.toNat)
  else if 'a'.toNat ≤ c.toNat && c.toNat ≤ 'f'.toNat then some (c.toNat - 'a'.toNat + 10)
  else if 'A'.toNat ≤ c.toNat && c.toNat ≤ 'F'.toNat then some (c.toNat - 'A'.toNat + 10)
  else none

/-- The number that some hexadecimal digits go on with, and the text after them. -/
def hexDigits? (flags : PatternFlags) (number : Nat) :
    Nat → List Char → Option (Nat × List Char)
  | 0, text => some (number, text)
  | count + 1, text =>
    match flags.skipBlanks text with
    | [] => none
    | c :: rest => do hexDigits? flags (number * 16 + (← hexDigit? c)) count rest

/-- How many digits give the code of a character after a letter. -/
def codeLength? : Char → Option Nat
  | 'x' => some 2
  | 'u' => some 4
  | 'U' => some 8
  | _ => none

/-- The character whose code a text begins with.  Bytes stand for ASCII characters only. -/
def coded? (flags : PatternFlags) (count : Nat) (text : List Char) :
    Option (PatternAtom × List Char) := do
  let (code, rest) ← hexDigits? flags 0 count text
  if 0x80 ≤ code && count = 2 && !flags.has .unicode then none
  if code.isValidChar then some (char (Char.ofNat code), rest) else none

/-- The class that a letter stands for, which is known for ASCII only. -/
def classOf? (flags : PatternFlags) (ranges : List (Char × Char)) : Option PatternAtom :=
  if flags.has .unicode then none else chars <$> flags.ranges? ranges

/-- The boundary of a word that a letter stands for.  Words are known for ASCII only. -/
def wordBoundary? (flags : PatternFlags) (boundary : Boundary) : Option PatternAtom :=
  if flags.has .unicode then none else some (.boundary boundary)

/-- Whether a sign stands for itself after a backslash. -/
def isSign (c : Char) : Bool := c.toNat < 0x80 && !c.isAlphanum && c ≠ '<' && c ≠ '>'

/-- What a character after a backslash stands for. -/
def ofEscaped? (flags : PatternFlags) : Char → Option PatternAtom
  | 'a' => some (char '\x07')
  | 'f' => some (char '\x0c')
  | 't' => some (char '\t')
  | 'n' => some (char '\n')
  | 'r' => some (char '\r')
  | 'v' => some (char '\x0b')
  | 'A' => some (boundary .textStart)
  | 'z' => some (boundary .textEnd)
  | 'd' => classOf? flags digitRanges
  | 's' => classOf? flags spaceRanges
  | 'w' => classOf? flags wordRanges
  | 'b' => wordBoundary? flags .wordEdge
  | 'B' => wordBoundary? flags .noWordEdge
  | '<' => wordBoundary? flags .wordStart
  | '>' => wordBoundary? flags .wordEnd
  | c => if isSign c then some (char c) else none

/-- What a text after a backslash begins with, and what comes after it. -/
def escape? (flags : PatternFlags) : List Char → Option (PatternAtom × List Char)
  | [] => none
  | c :: rest =>
    match codeLength? c with
    | some count => coded? flags count rest
    | none => (ofEscaped? flags c).map fun atom => (atom, rest)

end PatternAtom

end CompactGraph
