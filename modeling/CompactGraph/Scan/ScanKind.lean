/-
# Kinds of scans

Each adjacency list of a graph is built by one scan over the relationships of every node.  The kind
of a scan says in which direction it reads, whether it reads weights, and under which pairs of nodes
it writes them.
-/
import CompactGraph.Node
import CompactGraph.Direction

namespace CompactGraph

/-- How the relationships of a node become a list of targets and weights. -/
inductive ScanKind where
  /-- Outgoing relationships; weights belong to `(node, other)`. -/
  | outgoing (weighted : Bool)
  /-- Incoming relationships; weights belong to `(other, node)`. -/
  | incoming (weighted : Bool)
  /-- Outgoing relationships; weights belong to `(node, other)` and to `(other, node)`. -/
  | symmetric
  /-- Relationships in either direction, in one list; weights belong to `(node, other)`. -/
  | undirected (weighted : Bool)
  deriving DecidableEq, Repr, Inhabited

namespace ScanKind

/-- The scans that a load makes, the one for outgoing relationships first.  When both directions are
loaded with weights, the outgoing scan alone reads them, for both orders of a pair. -/
def forLoad (direction : Direction) (weighted undirected : Bool) : List ScanKind :=
  if undirected then [.undirected weighted]
  else
    match direction with
    | .outgoing => [.outgoing weighted]
    | .incoming => [.incoming weighted]
    | .both => [if weighted then .symmetric else .outgoing false, .incoming false]

/-- The direction in which relationships are read. -/
def direction : ScanKind → Direction
  | outgoing _ | symmetric => .outgoing
  | incoming _ => .incoming
  | undirected _ => .both

/-- Whether weights are read. -/
def isWeighted : ScanKind → Bool
  | outgoing weighted | incoming weighted | undirected weighted => weighted
  | symmetric => true

/-- Whether weights are also written under pairs that belong to the other endpoint. -/
def isSymmetric : ScanKind → Bool
  | symmetric => true
  | _ => false

/-- Whether both directions go into one list. -/
def isUndirected : ScanKind → Bool
  | undirected _ => true
  | _ => false

/-- The source and target under which a weight seen from `node` towards `other` is written. -/
def endpoints (kind : ScanKind) (node other : NodeId) : NodeId × NodeId :=
  match kind with
  | incoming _ => (other, node)
  | _ => (node, other)

/-- The keys under which a weight is written; a self-loop has one key only. -/
def keys (kind : ScanKind) (node other : NodeId) : List PairKey :=
  let (source, target) := kind.endpoints node other
  if kind.isSymmetric && other != node then [.ofPair source target, .ofPair other node]
  else [.ofPair source target]

end ScanKind

end CompactGraph
