/-
# Partitions

The nodes `0 … nodeCount - 1` are cut into consecutive ranges, one for each worker.
-/

namespace CompactGraph

/-- The numbers from `start` up to but not including `stop`. -/
structure NodeRange where
  start : Nat
  stop : Nat
  deriving DecidableEq, Repr, Inhabited

namespace NodeRange

/-- How many numbers there are. -/
def size (range : NodeRange) : Nat := range.stop - range.start

/-- The numbers, ascending. -/
def toList (range : NodeRange) : List Nat := List.range' range.start range.size

end NodeRange

/-- `count` ranges from `start` on, of `base` numbers each and one more for the first `extra`. -/
def rangesFrom (base extra start : Nat) : Nat → List NodeRange
  | 0 => []
  | count + 1 =>
    let stop := start + base + if extra = 0 then 0 else 1
    ⟨start, stop⟩ :: rangesFrom base (extra - 1) stop count

/-- How many ranges `nodeCount` nodes are cut into for `concurrency` workers, each of them getting
`minSize` nodes or more. -/
def partitionCount (nodeCount concurrency minSize : Nat) : Nat :=
  min (max concurrency 1) (max (nodeCount / max minSize 1) 1)

/-- Cut `nodeCount` nodes into ranges whose sizes differ by one at most. -/
def partition (nodeCount concurrency minSize : Nat) : List NodeRange :=
  if nodeCount = 0 then []
  else
    let count := partitionCount nodeCount concurrency minSize
    rangesFrom (nodeCount / count) (nodeCount % count) 0 count

end CompactGraph
