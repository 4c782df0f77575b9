/-
# Flags

How a pattern is read depends on flags, which the pattern itself may turn on and off.  A flag holds until
the end of the group in which it was set.
-/
import CompactGraph.Pattern.Pattern
import CompactGraph.Text.Blank

namespace CompactGraph

/-- A flag. -/
inductive PatternFlag where
  /-- Letters stand for both of their cases. -/
  | ignoreCase
  /-- The signs for the start and the end of a text stand for those of a line. -/
  | multiLine
  /-- A point stands for line feeds, too. -/
  | pointIsAll
  /-- Repetitions are reluctant, unless they are marked to be. -/
  | reluctant
  /-- Lines end with carriage returns, too. -/
  | returns
  /-- Blanks and comments between signs mean nothing. -/
  | ignoreBlanks
  /-- Characters are those of Unicode, and not of ASCII alone. -/
  | unicode
  deriving DecidableEq, Repr, Inhabited

/-- The flag of a letter. -/
def PatternFlag.ofLetter? : Char → Option PatternFlag
  | 'i' => some ignoreCase
  | 'm' => some multiLine
  | 's' => some pointIsAll
  | 'U' => some reluctant
  | 'R' => some returns
  | 'x' => some ignoreBlanks
  | 'u' => some unicode
  | _ => none

/-- The flags that are turned on. -/
structure PatternFlags where
  on : List PatternFlag := [.unicode]
  deriving DecidableEq, Repr, Inhabited

namespace PatternFlags

/-- Whether a flag is turned on. -/
def has (flags : PatternFlags) (flag : PatternFlag) : Bool := flags.on.contains flag

/-- Turn some flags on and others off. -/
def change (flags : PatternFlags) (on off : List PatternFlag) : PatternFlags :=
  ⟨on ++ flags.on.filter fun flag => !off.contains flag⟩

/-! ## Reading flags -/

/-- Whether no flag stands in a list twice. -/
def areDistinct : List PatternFlag → Bool
  | [] => true
  | flag :: rest => !rest.contains flag && areDistinct rest

/-- The flags after a word of letters, those after a minus turned off.  No letter may stand twice, and
a minus needs something to turn off. -/
def changed? (flags : PatternFlags) (word : List Char) : Option PatternFlags := do
  let letters := word.dropWhile (· ≠ '-')
  if letters = ['-'] then none
  let on ← (word.takeWhile (· ≠ '-')).mapM PatternFlag.ofLetter?
  let off ← (letters.drop 1).mapM PatternFlag.ofLetter?
  if areDistinct (on ++ off) then some (flags.change on off) else none

/-! ## Blanks -/

/-- Skip blanks, and comments, which go from a number sign to the end of the line.  The flag tells
whether the text begins within a comment. -/
def skipComments : Bool → List Char → List Char
  | _, [] => []
  | true, c :: rest => skipComments (c ≠ '\n') rest
  | false, c :: rest =>
    if isBlank c then skipComments false rest
    else if c = '#' then skipComments true rest
    else c :: rest

/-- Skip what means nothing. -/
def skipBlanks (flags : PatternFlags) (text : List Char) : List Char :=
  if flags.has .ignoreBlanks then skipComments false text else text

/-- The next character that means something.  A number sign is skipped, but not the comment after it. -/
def peek? (flags : PatternFlags) (text : List Char) : Option Char :=
  if flags.has .ignoreBlanks then
    match trimFront text with
    | '#' :: rest => (trimFront rest).head?
    | text => text.head?
  else text.head?

/-! ## What is allowed under flags -/

/-- The class of the characters from one to another as members of a larger class.  The cases of letters
are known for ASCII only, and ASCII classes hold ASCII characters only. -/
def range? (flags : PatternFlags) (first last : Char) : Option CharClass :=
  if flags.has .unicode then
    if flags.has .ignoreCase then none else some (.range first last)
  else if 0x80 ≤ last.toNat then none
  else some (if flags.has .ignoreCase then .anyCase (.range first last) else .range first last)

/-- The class of what lies in some ranges. -/
def ranges? (flags : PatternFlags) (ranges : List (Char × Char)) : Option CharClass :=
  CharClass.unions <$> ranges.mapM fun (first, last) => flags.range? first last

/-- The class of all characters that are not in a class. -/
def compl? (flags : PatternFlags) (chars : CharClass) : Option CharClass :=
  if flags.has .unicode then some (.compl chars) else none

/-- The class of the characters that a character stands for. -/
def char? (flags : PatternFlags) (c : Char) : Option CharClass :=
  if flags.has .ignoreCase then flags.range? c c else some (.single c)

/-- The class of the characters that a point stands for. -/
def point? (flags : PatternFlags) : Option CharClass :=
  if !flags.has .unicode then none
  else if flags.has .pointIsAll then some .all
  else if flags.has .returns then some (.compl (.union (.single '\r') (.single '\n')))
  else some (.compl (.single '\n'))

/-- The boundary at the start of a text or of a line. -/
def start (flags : PatternFlags) : Boundary :=
  if flags.has .multiLine then .lineStart (flags.has .returns) else .textStart

/-- The boundary at the end of a text or of a line. -/
def finish (flags : PatternFlags) : Boundary :=
  if flags.has .multiLine then .lineEnd (flags.has .returns) else .textEnd

end PatternFlags

end CompactGraph
