/-
# Tables of a stored graph

A stored graph is a set of tables: nodes, an index of labels, relationships, and an index of the
relationships that start at a node and of those that end at it.  Names of relationship types are
replaced by numbers, and for each node, direction and type the number of relationships is kept, so
that a degree is found without counting.
-/
import Std.Data.HashMap
import Std.Data.TreeMap
import Std.Data.TreeSet
import CompactGraph.Error
import CompactGraph.Source.Record

namespace CompactGraph

/-- The number that stands for the name of a relationship type. -/
abbrev TypeToken := Nat

/-- The token under which relationships of all types are counted. -/
def allTypes : TypeToken := 0

/-- A relationship as it is stored. -/
structure RelationshipRow where
  source : ExternalId
  target : ExternalId
  token : TypeToken
  properties : Properties
  deriving Repr, Inhabited

/-- A relationship as an index of a node's relationships holds it. -/
structure IndexEntry where
  id : RelationshipId
  /-- The endpoint that is not the node. -/
  other : ExternalId
  token : TypeToken
  deriving DecidableEq, Repr, Inhabited

/-- What a degree is counted for. -/
structure DegreeKey where
  node : ExternalId
  direction : Direction
  token : TypeToken
  deriving DecidableEq, Hashable, Repr, Inhabited

/-- Relationships by node, those of one node in order of their numbers. -/
abbrev RelationshipIndex := Std.HashMap ExternalId (Array IndexEntry)

/-- All tables of a stored graph. -/
structure Tables where
  /-- The labels of each node, as they were written. -/
  nodes : Std.TreeMap ExternalId (List String) := {}
  /-- The nodes with each label. -/
  labels : Std.TreeMap String (Std.TreeSet ExternalId) := {}
  relationships : Std.TreeMap RelationshipId RelationshipRow := {}
  outgoing : RelationshipIndex := {}
  incoming : RelationshipIndex := {}
  degrees : Std.HashMap DegreeKey Nat := {}
  types : Std.TreeMap String TypeToken := {}
  nextRelationship : RelationshipId := 0
  nextToken : TypeToken := allTypes + 1
  deriving Inhabited

namespace Tables

/-- An empty graph. -/
def empty : Tables := {}

/-! ## Nodes -/

/-- Take a node out of the nodes with a label. -/
def unlabel (id : ExternalId) (labels : Std.TreeMap String (Std.TreeSet ExternalId))
    (label : String) : Std.TreeMap String (Std.TreeSet ExternalId) :=
  labels.insert label ((labels.getD label {}).erase id)

/-- Add a node to the nodes with a label. -/
def label (id : ExternalId) (labels : Std.TreeMap String (Std.TreeSet ExternalId))
    (label : String) : Std.TreeMap String (Std.TreeSet ExternalId) :=
  labels.insert label ((labels.getD label {}).insert id)

/-- Write a node, or replace the labels of a stored one. -/
def writeNode (tables : Tables) (record : NodeRecord) : Tables :=
  let former := tables.nodes.getD record.id []
  { tables with
    nodes := tables.nodes.insert record.id record.labels
    labels := record.labels.foldl (label record.id) (former.foldl (unlabel record.id) tables.labels) }

/-! ## Relationships -/

/-- The token of a type, handed out if the type is new. -/
def internType (tables : Tables) (type : String) : TypeToken × Tables :=
  match tables.types[type]? with
  | some token => (token, tables)
  | none =>
    (tables.nextToken,
      { tables with
        types := tables.types.insert type tables.nextToken
        nextToken := tables.nextToken + 1 })

/-- Add an entry to the relationships of a node. -/
def addEntry (node : ExternalId) (entry : IndexEntry) (index : RelationshipIndex) :
    RelationshipIndex :=
  index.insert node ((index.getD node #[]).push entry)

/-- Count one more relationship of a node in a direction, for its type and for all types. -/
def countDegree (node : ExternalId) (direction : Direction) (token : TypeToken)
    (degrees : Std.HashMap DegreeKey Nat) : Std.HashMap DegreeKey Nat :=
  [allTypes, token].foldl (fun degrees token =>
    let key := ⟨node, direction, token⟩
    degrees.insert key (degrees.getD key 0 + 1)) degrees

/-- Write a relationship whose endpoints are stored and whose type has a token. -/
def addRow (tables : Tables) (row : RelationshipRow) : RelationshipId × Tables :=
  let id := tables.nextRelationship
  (id,
    { tables with
      relationships := tables.relationships.insert id row
      outgoing := addEntry row.source ⟨id, row.target, row.token⟩ tables.outgoing
      incoming := addEntry row.target ⟨id, row.source, row.token⟩ tables.incoming
      degrees := tables.degrees
        |> countDegree row.source .outgoing row.token
        |> countDegree row.target .incoming row.token
      nextRelationship := id + 1 })

/-- The first endpoint of a relationship that is not stored. -/
def missingEndpoint? (tables : Tables) (record : RelationshipRecord) : Option ExternalId :=
  [record.source, record.target].find? fun endpoint => !tables.nodes.contains endpoint

/-- Write a relationship between stored nodes.  The answer is its number. -/
def writeRelationship (tables : Tables) (record : RelationshipRecord) :
    Except LoadError (RelationshipId × Tables) :=
  match tables.missingEndpoint? record with
  | some endpoint =>
    .error (.sourceInconsistent (.missingEndpoint record.source record.target endpoint))
  | none =>
    let (token, tables) := tables.internType record.type
    .ok (tables.addRow ⟨record.source, record.target, token, record.properties⟩)

/-- Write nodes, then relationships.  The first relationship that cannot be written fails the whole
batch. -/
def writeBatch (tables : Tables) (nodes : List NodeRecord)
    (relationships : List RelationshipRecord) : Except LoadError Tables :=
  relationships.foldlM (fun tables record => Prod.snd <$> tables.writeRelationship record)
    (nodes.foldl writeNode tables)

/-! ## Content -/

/-- How many nodes are stored. -/
def nodeCount (tables : Tables) : Nat := tables.nodes.size

/-- How many relationships are stored. -/
def relationshipCount (tables : Tables) : Nat := tables.relationships.size

/-- The names of all types, in the order of their characters. -/
def typeNames (tables : Tables) : List String := tables.types.keys

/-- The name of a type. -/
def typeName (tables : Tables) (token : TypeToken) : String :=
  ((tables.types.toList.find? fun entry => entry.2 = token).map Prod.fst).getD ""

/-- The nodes, as records that write them again. -/
def nodeRecords (tables : Tables) : List NodeRecord :=
  tables.nodes.toList.map fun (id, labels) => { id, labels }

/-- The relationships in order of their numbers, as records that write them again. -/
def relationshipRecords (tables : Tables) : List RelationshipRecord :=
  tables.relationships.toList.map fun (_, row) =>
    { source := row.source, target := row.target, type := tables.typeName row.token
      properties := row.properties }

end Tables

end CompactGraph
