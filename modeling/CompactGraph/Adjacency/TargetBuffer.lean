/-
# Target buffers

The targets of the node that is being read are collected in order of arrival, then sorted and freed
of repetitions.  What is left is the adjacency list of the node, and its length is the node's degree.
-/
import CompactGraph.Node

namespace CompactGraph

/-- Collapse every run of equal neighbours to one element. -/
def compact : List NodeId → List NodeId
  | [] => []
  | [a] => [a]
  | a :: b :: rest => if a = b then compact (b :: rest) else a :: compact (b :: rest)

/-- Ascending order; the order of equal elements does not matter. -/
def sortTargets (targets : List NodeId) : List NodeId := targets.mergeSort NodeId.le

/-- The targets of one node, in order of arrival. -/
structure TargetBuffer where
  /-- The node the targets belong to. -/
  source : NodeId := NodeId.unmapped
  targets : Array NodeId := #[]
  /-- The target appended last since the buffer was bound to its node. -/
  previous : NodeId := NodeId.unmapped
  /-- Whether the targets came in ascending order so far. -/
  sorted : Bool := true
  /-- Whether a target equal to the one right before it is dropped on arrival. -/
  skipsRepeats : Bool

namespace TargetBuffer

/-- An empty buffer that belongs to no node. -/
def new (skipsRepeats : Bool) : TargetBuffer := { skipsRepeats }

/-- Forget all targets and start with another node. -/
def prepare (buffer : TargetBuffer) (source : NodeId) : TargetBuffer :=
  { buffer with source, targets := #[], previous := NodeId.unmapped, sorted := true }

/-- Append a target.  The flag tells whether it was kept. -/
def add (buffer : TargetBuffer) (target : NodeId) : Bool × TargetBuffer :=
  if buffer.skipsRepeats && target == buffer.previous then (false, buffer)
  else
    let descends := buffer.previous.isMapped && target.val < buffer.previous.val
    (true,
      { buffer with
        targets := buffer.targets.push target
        previous := target
        sorted := buffer.sorted && !descends })

/-- Sort the targets and drop repetitions. -/
def flush (buffer : TargetBuffer) : TargetBuffer :=
  let ordered := if buffer.sorted then buffer.targets.toList else sortTargets buffer.targets.toList
  { buffer with targets := (compact ordered).toArray, sorted := true }

/-- How many targets are held. -/
def size (buffer : TargetBuffer) : Nat := buffer.targets.size

end TargetBuffer

end CompactGraph
