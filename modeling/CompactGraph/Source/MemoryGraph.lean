/-
# Graphs in memory

A store that keeps nodes and relationships in order of insertion.  It can be closed, and then no
question about it is answered any more.
-/
import Std.Data.HashMap
import CompactGraph.Source.Snapshot

namespace CompactGraph

/-- A node in memory, with the relationships that start and end at it in order of insertion. -/
structure StoredNode where
  id : ExternalId
  labels : List String
  outgoing : Array RelationshipId := #[]
  incoming : Array RelationshipId := #[]
  deriving Repr, Inhabited

/-- A graph in memory.  A relationship is known by its position. -/
structure MemoryGraph where
  nodes : Array StoredNode := #[]
  positions : Std.HashMap ExternalId Nat := {}
  relationships : Array RelationshipRecord := #[]
  isOpen : Bool := true
  countsDegrees : Bool := true

namespace MemoryGraph

/-- No node and no relationship. -/
def empty : MemoryGraph := {}

/-! ## Writing -/

/-- Add a node without relationships, or replace the labels of a stored one. -/
def addNode (graph : MemoryGraph) (record : NodeRecord) : MemoryGraph :=
  match graph.positions[record.id]? with
  | some position =>
    { graph with nodes := graph.nodes.modify position fun node => { node with labels := record.labels } }
  | none =>
    let position := graph.nodes.size
    { graph with
      nodes := graph.nodes.push { id := record.id, labels := record.labels }
      positions := graph.positions.insert record.id position }

/-- Add a relationship between stored nodes.  The answer is its number. -/
def insert (graph : MemoryGraph) (record : RelationshipRecord) :
    Except LoadError (RelationshipId × MemoryGraph) :=
  match graph.positions[record.source]?, graph.positions[record.target]? with
  | some source, some target =>
    let id := graph.relationships.size
    .ok (id,
      { graph with
        nodes := graph.nodes
          |>.modify source (fun node => { node with outgoing := node.outgoing.push id })
          |>.modify target (fun node => { node with incoming := node.incoming.push id })
        relationships := graph.relationships.push record })
  | _, _ => .error (.sourceInconsistent (.missingNode record.source record.target))

/-- Set a property of a relationship. -/
def setProperty (graph : MemoryGraph) (id : RelationshipId) (name : String)
    (value : PropertyValue) : Except LoadError MemoryGraph :=
  if id < graph.relationships.size then
    .ok { graph with
      relationships := graph.relationships.modify id fun record =>
        { record with properties := record.properties.insert name value } }
  else .error (.sourceInconsistent (.unknownRelationship id))

/-- The graph of lists of records. -/
def ofRecords (nodes : List NodeRecord) (relationships : List RelationshipRecord) :
    Except LoadError MemoryGraph :=
  relationships.foldlM (fun graph record => Prod.snd <$> graph.insert record)
    (nodes.foldl addNode empty)

/-- The same graph, passed off as a store to which degrees are costly. -/
def withoutDegreeCounts (graph : MemoryGraph) : MemoryGraph := { graph with countsDegrees := false }

/-- Close the store for good. -/
def close (graph : MemoryGraph) : MemoryGraph := { graph with isOpen := false }

/-- How many nodes are stored. -/
def nodeCount (graph : MemoryGraph) : Nat := graph.nodes.size

/-- How many relationships are stored. -/
def relationshipCount (graph : MemoryGraph) : Nat := graph.relationships.size

/-! ## Reading -/

/-- The error of a closed store. -/
def closedError : LoadError := .sourceUnavailable .closed

/-- A stored node. -/
def find? (graph : MemoryGraph) (id : ExternalId) : Option StoredNode :=
  graph.positions[id]?.bind fun position => graph.nodes[position]?

/-- Whether a node passes a filter on labels. -/
def hasLabel (label : Option String) (node : StoredNode) : Bool :=
  label.all fun label => node.labels.contains label

/-- Whether a relationship passes a filter on types. -/
def hasType (type : Option String) (record : RelationshipRecord) : Bool :=
  type.all fun type => record.type == type

/-- The relationships with the given numbers that pass a filter on types, each seen from the endpoint
that is not `other`. -/
def references (graph : MemoryGraph) (ids : Array RelationshipId) (type : Option String)
    (other : RelationshipRecord → ExternalId) : List RelationshipRef :=
  ids.toList.filterMap fun id =>
    match graph.relationships[id]? with
    | some record => if hasType type record then some ⟨other record, id⟩ else none
    | none => none

/-- The relationships of a node: those that start at it, then those that end at it, as far as the
direction asks for them. -/
def relationshipsOf (graph : MemoryGraph) (id : ExternalId) (direction : Direction)
    (type : Option String) : List RelationshipRef :=
  match graph.find? id with
  | none => []
  | some node =>
    let starting := graph.references node.outgoing type RelationshipRecord.target
    let ending := graph.references node.incoming type RelationshipRecord.source
    match direction with
    | .outgoing => starting
    | .incoming => ending
    | .both => starting ++ ending

/-- A property of a relationship. -/
def property (graph : MemoryGraph) (id : RelationshipId) (name : String) : Option PropertyValue :=
  graph.relationships[id]?.bind fun record => record.properties.find? name

/-- Nodes that pass a filter on labels, in order of insertion. -/
def nodesWith (graph : MemoryGraph) (label : Option String) : List ExternalId :=
  (graph.nodes.toList.filter (hasLabel label)).map StoredNode.id

/-- The answers of the graph as it is. -/
def snapshot (graph : MemoryGraph) : Except LoadError Snapshot :=
  if graph.isOpen then
    .ok {
      countsDegrees := graph.countsDegrees
      scanNodes := fun label => { ids := graph.nodesWith label }
      degree := fun id direction type => .ok (graph.relationshipsOf id direction type).length
      relationships := fun id direction type => .ok (graph.relationshipsOf id direction type)
      property := fun id name => .ok (graph.property id name) }
  else .error closedError

/-- Hand nodes to a visitor that may close the store.  Whether it is open is looked at before every
stored node, also before those that the filter drops. -/
def scanWhileOpen {σ : Type} (isOpen : σ → Bool) (label : Option String)
    (visit : ExternalId → EStateM LoadError σ Unit) : List StoredNode → EStateM LoadError σ Unit
  | [] => pure ()
  | node :: rest => do
    if !isOpen (← get) then throw closedError
    if hasLabel label node then visit node.id
    scanWhileOpen isOpen label visit rest

end MemoryGraph

end CompactGraph
