/-
# Directions

Which relationships of a node a query or a load looks at.
-/

namespace CompactGraph

/-- The relationships of a node that start at it, that end at it, or all of them. -/
inductive Direction where
  | outgoing
  | incoming
  | both
  deriving DecidableEq, Hashable, Repr, Inhabited

namespace Direction

/-- The name by which a direction is printed and recognised. -/
def name : Direction → String
  | outgoing => "outgoing"
  | incoming => "incoming"
  | both => "both"

/-- One byte per direction, used in keys that order degree counters. -/
def code : Direction → UInt8
  | outgoing => 0
  | incoming => 1
  | both => 2

/-- The direction that a normalised word stands for. -/
def ofWord? : String → Option Direction
  | "outgoing" | "out" | ">" => some outgoing
  | "incoming" | "in" | "<" => some incoming
  | "both" | "undirected" | "<>" => some both
  | _ => none

/-- Every direction is recognised by its own name. -/
theorem ofWord?_name (d : Direction) : ofWord? d.name = some d := by cases d <;> rfl

end Direction

end CompactGraph
