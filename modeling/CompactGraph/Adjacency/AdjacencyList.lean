/-
# Adjacency lists

The targets of all nodes lie in one array, node after node.  An array with one offset more than there
are nodes tells where each node's targets begin and end.
-/
import CompactGraph.Adjacency.TargetBuffer
import CompactGraph.Totals

namespace CompactGraph

/-- The adjacency lists of nodes `0 … nodeCount - 1` for one direction. -/
structure AdjacencyList where
  offsets : Array Nat := #[]
  targets : Array NodeId := #[]
  deriving Inhabited

namespace AdjacencyList

/-- Nodes without any target. -/
def isolated (nodeCount : Nat) : AdjacencyList := ⟨Array.replicate (nodeCount + 1) 0, #[]⟩

/-- Cut an array of targets into lists of the given lengths. -/
def ofDegrees (targets : Array NodeId) (degrees : List Nat) : Except LoadError AdjacencyList := do
  let offsets ← prefixSums degrees
  let total := offsets.back?.getD 0
  if total = targets.size then .ok ⟨offsets, targets⟩
  else .error (.sourceInconsistent (.degreeSum total targets.size))

/-- The 32 bits that are kept of a degree. -/
def narrowed (degree : Nat) : Nat := degree.toUInt32.toNat

/-- Sort each list of targets, drop its repetitions, and lay them out one after another. -/
def ofLists (lists : List (List NodeId)) : Except LoadError AdjacencyList :=
  let clean := lists.map fun list => compact (sortTargets list)
  ofDegrees clean.flatten.toArray (clean.map fun list => narrowed list.length)

/-- How many nodes are covered. -/
def nodeCount (list : AdjacencyList) : Nat := list.offsets.size - 1

/-- How many targets are stored. -/
def relationshipCount (list : AdjacencyList) : Nat := list.targets.size

/-- The targets of a node; none for a node outside the list. -/
def neighbors (list : AdjacencyList) (node : NodeId) : List NodeId :=
  match list.offsets[node.index]?, list.offsets[node.index + 1]? with
  | some start, some stop => (list.targets.extract start stop).toList
  | _, _ => []

/-- How many targets a node has. -/
def degree (list : AdjacencyList) (node : NodeId) : Nat := (list.neighbors node).length

/-- The bytes of the two arrays: eight for each offset and four for each target. -/
def memoryUsage (list : AdjacencyList) : Nat := 8 * list.offsets.size + 4 * list.targets.size

end AdjacencyList

end CompactGraph
