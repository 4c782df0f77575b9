/-
# Patterns

A pattern describes texts by the classes of their characters, by the boundaries between them, and by
what follows what, what stands in place of what and what is repeated.
-/
import CompactGraph.Pattern.CharClass

namespace CompactGraph

/-! ## Boundaries -/

/-- A boundary in a text. -/
inductive Boundary where
  | textStart
  | textEnd
  /-- The start of a line.  Lines end with line feeds, or also with carriage returns. -/
  | lineStart (returns : Bool)
  | lineEnd (returns : Bool)
  | wordStart
  | wordEnd
  /-- The start or the end of a word. -/
  | wordEdge
  /-- Neither the start nor the end of a word. -/
  | noWordEdge
  deriving DecidableEq, Repr, Inhabited

namespace Boundary

/-- Whether a character belongs to a word. -/
def isWordChar (c : Char) : Bool := c.isAlphanum || c = '_'

/-- Whether a boundary lies between two characters; at an end of the text one of them is missing. -/
def liesBetween (before after : Option Char) : Boundary → Bool
  | textStart => before.isNone
  | textEnd => after.isNone
  | lineStart false => before.all (· = '\n')
  | lineStart true => before.all (· = '\n') || before.any (· = '\r') && after.all (· ≠ '\n')
  | lineEnd false => after.all (· = '\n')
  | lineEnd true => after.all (· = '\r') || after.any (· = '\n') && before.all (· ≠ '\r')
  | wordStart => !before.any isWordChar && after.any isWordChar
  | wordEnd => before.any isWordChar && !after.any isWordChar
  | wordEdge => before.any isWordChar != after.any isWordChar
  | noWordEdge => before.any isWordChar == after.any isWordChar

/-- A word starts or ends where there is an edge of one. -/
theorem wordEdge_liesBetween (before after : Option Char) :
    wordEdge.liesBetween before after =
      (wordStart.liesBetween before after || wordEnd.liesBetween before after) := by
  simp only [liesBetween]
  cases before.any isWordChar <;> cases after.any isWordChar <;> rfl

end Boundary

/-! ## The shape of patterns -/

/-- How often something is repeated. -/
inductive Repetition where
  | optional
  | anyTimes
  | someTimes
  deriving DecidableEq, Repr, Inhabited

/-- A pattern. -/
inductive Pattern where
  | empty
  /-- One character of a class. -/
  | char (chars : CharClass)
  | boundary (boundary : Boundary)
  | sequence (first second : Pattern)
  /-- The first pattern or else the second. -/
  | choice (first second : Pattern)
  /-- A pattern over and over again, as often as possible if it is eager. -/
  | repeated (body : Pattern) (times : Repetition) (eager : Bool)
  deriving DecidableEq, Repr, Inhabited

namespace Pattern

/-- How many parts a pattern has. -/
def size : Pattern → Nat
  | empty | char _ | boundary _ => 1
  | sequence first second | choice first second => first.size + second.size + 1
  | repeated body _ _ => body.size + 1

/-- Whether no text without characters fits a pattern, as far as the shape of the pattern tells. -/
def consumes : Pattern → Bool
  | empty | boundary _ => false
  | char _ => true
  | sequence first second => first.consumes || second.consumes
  | choice first second => first.consumes && second.consumes
  | repeated body .someTimes _ => body.consumes
  | repeated _ _ _ => false

end Pattern

end CompactGraph
