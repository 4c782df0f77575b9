/-
# Conditions

A directive of a log filter may put a condition on a value that is told about a stretch of work: a flag or
a number to be equal to, or a pattern to match.
-/
import CompactGraph.Decimal.Nearest
import CompactGraph.Log.Event
import CompactGraph.Pattern.Matching
import CompactGraph.Pattern.Reader

namespace CompactGraph

/-- A condition on a value.  Two conditions are the same if they ask for equal values, or for patterns
that are written alike. -/
inductive LogCondition where
  | flag (value : Bool)
  /-- A number without a sign. -/
  | natural (value : Nat)
  /-- A whole number that is no natural one. -/
  | integer (value : Int)
  | real (value : Float)
  | notANumber
  | pattern (text : String) (pattern : Pattern)
  deriving BEq, Repr, Inhabited

namespace LogCondition

/-- The whole number of 64 bits that a minus and digits stand for. -/
def integer? : List Char → Option Int
  | '-' :: rest =>
    match Decimal.takeDigits rest with
    | ([], _) | (_, _ :: _) => none
    | (digits, []) =>
      if Decimal.ofDigits digits ≤ Decimal.signBit then some (-(Decimal.ofDigits digits : Int)) else none
  | _ => none

/-- The number that a text stands for, as a condition. -/
def number? (text : String) : Option LogCondition :=
  match Decimal.natural? text, integer? text.toList, Decimal.ofText? text with
  | some value, _, _ => some (natural value)
  | none, some value, _ => some (integer value)
  | none, none, some value => some (if value.isNaN then notANumber else real value)
  | none, none, none => none

/-- The condition that a text stands for.  What is neither a flag nor a number has to be a pattern. -/
def ofText? (text : String) : Option LogCondition :=
  match text with
  | "true" => some (flag true)
  | "false" => some (flag false)
  | text => number? text <|> (Pattern.ofText? text.toList).map (pattern text)

/-- Whether a value meets a condition.  Numbers are natural ones, and only texts match patterns. -/
def holds : LogCondition → LogValue → Bool
  | flag asked, .flag value => asked == value
  | natural asked, .number value => asked == value
  | pattern _ asked, .text value => asked.accepts value.toList
  | _, _ => false

end LogCondition

end CompactGraph
