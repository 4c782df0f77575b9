/-
# Loaded graphs

A graph is what a load leaves behind: the id map, one adjacency list per loaded direction, and the
weights.  It answers questions and never changes.  An undirected graph keeps a single list, which
answers for every direction.
-/
import CompactGraph.IdMap
import CompactGraph.Adjacency.AdjacencyList
import CompactGraph.Weight.WeightTable
import CompactGraph.Load.Partition

namespace CompactGraph

/-- Hand elements to a visitor until it refuses one.  The flag tells whether all were taken. -/
def visitWhile {α σ : Type} (visit : α → σ → σ × Bool) : List α → σ → σ × Bool
  | [], state => (state, true)
  | a :: rest, state =>
    match visit a state with
    | (state, true) => visitWhile visit rest state
    | (state, false) => (state, false)

/-- A loaded graph. -/
structure Graph where
  idMap : IdMap
  outgoing : Option AdjacencyList
  incoming : Option AdjacencyList
  /-- The weights, if the graph is weighted. -/
  weights : Option WeightTable
  /-- The weight of every relationship of an unweighted graph. -/
  defaultWeight : Float
  /-- The direction that was loaded. -/
  direction : Direction
  /-- Whether both directions are merged into the list kept in `outgoing`. -/
  undirected : Bool

namespace Graph

/-- Refuse a list that does not cover exactly the mapped nodes. -/
def checkCover (idMap : IdMap) : Option AdjacencyList → Except LoadError Unit
  | none => .ok ()
  | some list =>
    if list.nodeCount = idMap.nodeCount then .ok ()
    else .error (.sourceInconsistent (.listCovers list.nodeCount idMap.nodeCount))

/-- A graph with a list for each loaded direction. -/
def ofParts (idMap : IdMap) (outgoing incoming : Option AdjacencyList)
    (weights : Option WeightTable) (defaultWeight : Float) (direction : Direction) :
    Except LoadError Graph := do
  checkCover idMap outgoing
  checkCover idMap incoming
  return { idMap, outgoing, incoming, weights, defaultWeight, direction, undirected := false }

/-- A graph with one list for both directions. -/
def ofUndirected (idMap : IdMap) (list : AdjacencyList) (weights : Option WeightTable)
    (defaultWeight : Float) : Except LoadError Graph := do
  let graph ← ofParts idMap (some list) none weights defaultWeight .both
  return { graph with undirected := true }

/-! ## Size -/

/-- How many nodes there are. -/
def nodeCount (graph : Graph) : Nat := graph.idMap.nodeCount

/-- How many different relationships there are, counted in the list for outgoing ones, or in the one
for incoming ones if that is all there is.  In an undirected graph each end counts. -/
def relationshipCount (graph : Graph) : Nat :=
  ((graph.outgoing <|> graph.incoming).map AdjacencyList.relationshipCount).getD 0

/-- Whether weights were loaded. -/
def isWeighted (graph : Graph) : Bool := graph.weights.isSome

/-- How many weights are stored. -/
def storedWeights (graph : Graph) : Nat := (graph.weights.map WeightTable.size).getD 0

/-- The stored list for a direction; an undirected graph has one list for all of them. -/
def list? (graph : Graph) (direction : Direction) : Option AdjacencyList :=
  if graph.undirected then graph.outgoing
  else
    match direction with
    | .outgoing => graph.outgoing
    | .incoming => graph.incoming
    | .both => none

/-! ## Neighbours -/

/-- The stored lists that a direction reads, in order. -/
def listsRead (graph : Graph) (direction : Direction) : List Direction :=
  if graph.undirected then [.both]
  else
    match direction with
    | .both => [.outgoing, .incoming]
    | single => [single]

/-- The targets of a node in one stored list. -/
def targets (graph : Graph) (node : NodeId) (direction : Direction) : List NodeId :=
  ((graph.list? direction).map fun list => list.neighbors node).getD []

/-- The neighbours of a node in a direction: for both directions the targets of outgoing
relationships, then the sources of incoming ones. -/
def neighbors (graph : Graph) (node : NodeId) (direction : Direction) : List NodeId :=
  (graph.listsRead direction).flatMap (graph.targets node)

/-- How many neighbours a node has in a direction. -/
def degree (graph : Graph) (node : NodeId) (direction : Direction) : Nat :=
  total ((graph.listsRead direction).map fun list =>
    ((graph.list? list).map fun list => list.degree node).getD 0)

/-- The weight of the relationship from `source` to `target`. -/
def weight (graph : Graph) (source target : NodeId) : Float :=
  match graph.weights with
  | some table => table.get (.ofPair source target)
  | none => graph.defaultWeight

/-- The weight of the relationship between a node and one of its neighbours in a stored list. -/
def weightIn (graph : Graph) (list : Direction) (node other : NodeId) : Float :=
  match list with
  | .incoming => graph.weight other node
  | _ => graph.weight node other

/-- Hand each neighbour of a node to a visitor until it refuses one. -/
def forEachNeighbor {σ : Type} (graph : Graph) (node : NodeId) (direction : Direction)
    (visit : NodeId → NodeId → σ → σ × Bool) (state : σ) : σ :=
  (visitWhile (visit node) (graph.neighbors node direction) state).1

/-- Hand each neighbour of a node and the weight between them to a visitor until it refuses one. -/
def forEachWeighted {σ : Type} (graph : Graph) (node : NodeId) (direction : Direction)
    (visit : NodeId → NodeId → Float → σ → σ × Bool) (state : σ) : σ :=
  let visitList := fun list =>
    visitWhile (fun other => visit node other (graph.weightIn list node other))
      (graph.targets node list)
  (visitWhile visitList (graph.listsRead direction) state).1

/-! ## Identifiers -/

/-- The node with an external id, or `NodeId.unmapped`. -/
def toMapped (graph : Graph) (id : ExternalId) : NodeId := graph.idMap.toMapped id

/-- The external id of a node. -/
def toExternal (graph : Graph) (node : NodeId) : Option ExternalId := graph.idMap.toExternal node

/-- Whether the node with an external id was loaded. -/
def contains (graph : Graph) (id : ExternalId) : Bool := graph.idMap.contains id

/-- The node with an external id; an error if it was not loaded. -/
def find (graph : Graph) (id : ExternalId) : Except LoadError NodeId :=
  if graph.contains id then .ok (graph.toMapped id)
  else .error (.configuration (.nodeNotLoaded id))

/-- The external ids of the neighbours of a node in the loaded direction, with the weights. -/
def externalNeighbors (graph : Graph) (id : ExternalId) :
    Except LoadError (List (ExternalId × Float)) := do
  let node ← graph.find id
  let collect := fun (_ other : NodeId) (weight : Float)
      (found : Array (ExternalId × Float) × Option NodeId) =>
    match graph.toExternal other with
    | some external => ((found.1.push (external, weight), none), true)
    | none => ((found.1, some other), false)
  match graph.forEachWeighted node graph.direction collect (#[], none) with
  | (found, none) => return found.toList
  | (_, some other) => throw (.sourceInconsistent (.noExternalId other))

/-! ## Batches -/

/-- All nodes, ascending. -/
def nodes (graph : Graph) : List NodeId := (List.range graph.nodeCount).map NodeId.ofIndex

/-- The nodes cut into consecutive ranges of `size`, the last of which may be shorter.  A size of
zero counts as one. -/
def batches (graph : Graph) (size : Nat) : List NodeRange :=
  let size := max size 1
  (List.range ((graph.nodeCount + size - 1) / size)).map fun index =>
    ⟨index * size, min (index * size + size) graph.nodeCount⟩

/-- The bytes that all arrays of the graph take. -/
def memoryUsage (graph : Graph) : Nat :=
  graph.idMap.memoryUsage
    + (graph.outgoing.map AdjacencyList.memoryUsage).getD 0
    + (graph.incoming.map AdjacencyList.memoryUsage).getD 0
    + (graph.weights.map WeightTable.memoryUsage).getD 0

end Graph

end CompactGraph
