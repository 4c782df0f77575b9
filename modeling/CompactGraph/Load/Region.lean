/-
# Reserved regions

When degrees are known in advance, all partitions write their targets into one array.  Each has a
region of it, as long as its degrees add up to.  Repeated relationships make lists shorter than their
degrees, so the regions are not full in the end, and what was written is moved down to close the gaps.
-/
import CompactGraph.Error
import CompactGraph.Adjacency.AdjacencyList
import CompactGraph.Load.Partition

namespace CompactGraph

/-- The most targets one array can hold. -/
def maxTargets : Nat := (UInt64.size / 2 - 1) / 4

/-- A part of the array of targets, and the bounds on the degrees of its nodes. -/
structure Region where
  start : Nat
  size : Nat
  bounds : Array Nat
  deriving Repr, Inhabited

/-- The offsets of all nodes, for degrees bounded by `bounds`. -/
def reserve (bounds : List Nat) : Except LoadError (Array Nat) := do
  let offsets ← prefixSums bounds
  let size := offsets.back?.getD 0
  if size > maxTargets then throw (.capacityExceeded (.tooManyTargets size))
  return offsets

/-- The region of a partition. -/
def Region.ofRange (offsets : Array Nat) (range : NodeRange) (bounds : Array Nat) : Region :=
  let start := offsets[range.start]?.getD 0
  ⟨start, offsets[range.stop]?.getD 0 - start, bounds⟩

/-- Write values into an array from a position on. -/
def writeAt (values : Array NodeId) (array : Array NodeId) (position : Nat) : Array NodeId :=
  values.zipIdx.foldl (fun array (value, index) => array.setIfInBounds (position + index) value)
    array

/-- Copy the values at `start … start + size - 1` to `destination` onwards. -/
def copyWithin (array : Array NodeId) (start size destination : Nat) : Array NodeId :=
  writeAt (array.extract start (start + size)) array destination

/-- What a partition wrote: where its region starts, and the targets from there on. -/
structure Written where
  start : Nat
  targets : Array NodeId
  deriving Inhabited

/-- A copy within the array that closes the gap below a region. -/
structure Move where
  start : Nat
  size : Nat
  destination : Nat
  deriving DecidableEq, Repr, Inhabited

/-- The array of targets after all partitions have written into their regions. -/
def backing (size : Nat) (parts : List Written) : Array NodeId :=
  parts.foldl (fun array part => writeAt part.targets array part.start)
    (Array.replicate size ⟨0⟩)

/-- The moves that close all gaps, when the first `filled` targets have been moved already. -/
def movesFrom (filled : Nat) : List Written → List Move
  | [] => []
  | part :: rest =>
    ⟨part.start, part.targets.size, filled⟩ :: movesFrom (filled + part.targets.size) rest

/-- The targets of all partitions, one after another. -/
def pack (size : Nat) (parts : List Written) : Array NodeId :=
  let moved := (movesFrom 0 parts).foldl
    (fun array move => copyWithin array move.start move.size move.destination)
    (backing size parts)
  moved.take (total (parts.map fun part => part.targets.size))

end CompactGraph
