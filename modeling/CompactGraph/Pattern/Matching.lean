/-
# Matching

A text matches a pattern if what ends with the text fits the pattern, wherever it starts.  All ways in
which a text can fit are followed at the same time, in the order in which the pattern prefers them: an
earlier start before a later one, the first of two choices before the second, and one more repetition
before the end of an eager one.  As soon as one way has come to its end and the text goes on, that way and
all less preferred ones are given up.
-/
import CompactGraph.Pattern.Pattern

namespace CompactGraph

/-- A part of what is still to be read. -/
inductive PatternTask where
  /-- A text that fits a pattern. -/
  | fit (pattern : Pattern)
  /-- What has been read once, once more, or nothing. -/
  | again (body : Pattern) (eager : Bool)
  deriving DecidableEq, Repr, Inhabited

/-- One way to go on: what is to be read one after another. -/
abbrev PatternWay := List PatternTask

namespace PatternWay

/-- Two ways to go on, the preferred one in front. -/
def ordered (eager : Bool) (more less : PatternWay) : List PatternWay :=
  if eager then [more, less] else [less, more]

/-- The ways that a pattern opens between two characters, given what is to be read afterwards.  There is
no answer for a class, which waits for a character. -/
def ofPattern? (before after : Option Char) (rest : PatternWay) : Pattern → Option (List PatternWay)
  | .empty => some [rest]
  | .char _ => none
  | .boundary boundary => some (if boundary.liesBetween before after then [rest] else [])
  | .sequence first second => some [.fit first :: .fit second :: rest]
  | .choice first second => some [.fit first :: rest, .fit second :: rest]
  | .repeated body .optional eager => some (ordered eager (.fit body :: rest) rest)
  | .repeated body .anyTimes eager =>
    let next := if body.consumes then .fit (.repeated body .anyTimes eager) else .again body eager
    some (ordered eager (.fit body :: next :: rest) rest)
  | .repeated body .someTimes eager => some [.fit body :: .again body eager :: rest]

/-- The ways into which a way splits between two characters.  There is no answer for a way that has come
to its end or waits for a character. -/
def split? (before after : Option Char) : PatternWay → Option (List PatternWay)
  | [] => none
  | .fit pattern :: rest => ofPattern? before after rest pattern
  | .again body eager :: rest =>
    some (ordered eager (.fit body :: .again body eager :: rest) rest)

/-- The ways that have come to their end or wait for a character, in order of preference.  No way is
followed twice. -/
def settle (before after : Option Char) :
    Nat → List PatternWay → List PatternWay → List PatternWay
  | 0, _, _ | _, _, [] => []
  | fuel + 1, seen, way :: others =>
    if seen.contains way then settle before after fuel seen others
    else
      match split? before after way with
      | none => way :: settle before after fuel (way :: seen) others
      | some ways => settle before after fuel (way :: seen) (ways ++ others)

/-- What is left of a way after a character, if it can go on with it. -/
def read? (c : Char) : PatternWay → Option PatternWay
  | .fit (.char chars) :: rest => if chars.contains c then some rest else none
  | _ => none

/-- The ways after a character.  A way that has come to its end puts an end to all after it. -/
def advance (c : Char) (ways : List PatternWay) : List PatternWay :=
  (ways.takeWhile fun way => !way.isEmpty).filterMap (read? c)

/-- Whether one of some ways comes to its end just where a text ends. -/
def reach (bound : Nat) (before : Option Char) (ways : List PatternWay) : List Char → Bool
  | [] => (settle before none (ways.length + bound) [] ways).contains []
  | c :: text =>
    reach bound (some c) (advance c (settle before (some c) (ways.length + bound) [] ways)) text

end PatternWay

namespace Pattern

/-- A pattern after any number of characters, as few as possible. -/
def anywhere (pattern : Pattern) : Pattern :=
  sequence (repeated (char .all) .anyTimes false) pattern

/-- Whether a text matches a pattern.  A part of the pattern stands in front of at most two ways, each of
which is split at most once and into two at most. -/
def accepts (pattern : Pattern) (text : List Char) : Bool :=
  PatternWay.reach (4 * pattern.anywhere.size + 2) none [[.fit pattern.anywhere]] text

end Pattern

end CompactGraph
