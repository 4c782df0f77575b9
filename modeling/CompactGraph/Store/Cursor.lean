/-
# Cursors

A cursor answers questions about the tables of a stored graph.  It remembers the type it was last
asked about, so that asking about one type over and over looks the name up once.
-/
import CompactGraph.Source.Snapshot
import CompactGraph.Store.Tables
import CompactGraph.Totals

namespace CompactGraph

/-- Tables to be read, and the type that was looked up last with the token it has, if it has one. -/
structure Cursor where
  tables : Tables
  resolved : Option (String × Option TypeToken) := none

namespace Cursor

/-- A cursor that has not been asked anything. -/
def openOn (tables : Tables) : Cursor := { tables }

/-- The token that relationships are filtered by; `none` for a type that no relationship has. -/
def token (type : Option String) : StateM Cursor (Option TypeToken) := fun cursor =>
  match type with
  | none => (some allTypes, cursor)
  | some name =>
    match cursor.resolved with
    | some (known, token) =>
      if known = name then (token, cursor)
      else
        let token := cursor.tables.types[name]?
        (token, { cursor with resolved := some (name, token) })
    | none =>
      let token := cursor.tables.types[name]?
      (token, { cursor with resolved := some (name, token) })

/-- The stored directions that a direction consists of. -/
def parts : Direction → List Direction
  | .both => [.outgoing, .incoming]
  | single => [single]

/-- How many relationships of a node are counted in the parts of a direction. -/
def counted (tables : Tables) (id : ExternalId) (direction : Direction) (token : TypeToken) : Nat :=
  total ((parts direction).map fun part => tables.degrees.getD ⟨id, part, token⟩ 0)

/-- The index for a stored direction. -/
def index (tables : Tables) : Direction → RelationshipIndex
  | .incoming => tables.incoming
  | _ => tables.outgoing

/-- The relationships that an index holds for a node, as far as they pass a filter on tokens. -/
def entriesIn (tables : Tables) (id : ExternalId) (token : TypeToken) (part : Direction) :
    List RelationshipRef :=
  let entries := ((index tables part).getD id #[]).toList
  (entries.filter fun entry => token == allTypes || token == entry.token).map fun entry =>
    ⟨entry.other, entry.id⟩

/-- How many relationships a node has in a direction, of one type or of any. -/
def degree (id : ExternalId) (direction : Direction) (type : Option String) : StateM Cursor Nat := do
  match ← token type with
  | none => return 0
  | some token => return counted (← get).tables id direction token

/-- Read the relationships of a node in a direction, of one type or of any, into a buffer.  What the
buffer held before is dropped first, also if the type turns out to be unknown. -/
def readInto (id : ExternalId) (direction : Direction) (type : Option String)
    (buffer : Array RelationshipRef) : StateM Cursor (Array RelationshipRef) := do
  let cleared := buffer.shrink 0
  match ← token type with
  | none => return cleared
  | some token =>
    let tables := (← get).tables
    return (parts direction).foldl (fun found part => found ++ entriesIn tables id token part) cleared

/-- The relationships of a node in a direction, of one type or of any. -/
def relationships (id : ExternalId) (direction : Direction) (type : Option String) :
    StateM Cursor (List RelationshipRef) := Array.toList <$> readInto id direction type #[]

end Cursor

namespace Tables

/-- The nodes, or the nodes with a label, ascending. -/
def nodesWith (tables : Tables) : Option String → List ExternalId
  | none => tables.nodes.keys
  | some label => (tables.labels.getD label {}).toList

/-- A property of a relationship. -/
def property (tables : Tables) (id : RelationshipId) (name : String) : Option PropertyValue :=
  tables.relationships[id]?.bind fun row => row.properties.find? name

/-- The answers of the tables, each of them from a cursor of its own. -/
def snapshot (tables : Tables) : Snapshot where
  scanNodes := fun label => { ids := tables.nodesWith label }
  degree := fun id direction type =>
    .ok ((Cursor.degree id direction type).run (.openOn tables)).1
  relationships := fun id direction type =>
    .ok ((Cursor.relationships id direction type).run (.openOn tables)).1
  property := fun id name => .ok (tables.property id name)

end Tables

end CompactGraph
