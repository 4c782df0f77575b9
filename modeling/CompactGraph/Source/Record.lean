/-
# Records

Nodes and relationships as they are written into a store, and relationships as a store delivers them
to somebody who reads the relationships of one node.
-/
import CompactGraph.Node
import CompactGraph.Property

namespace CompactGraph

/-- The number under which a store knows a relationship. -/
abbrev RelationshipId := Nat

/-- A node to be written. -/
structure NodeRecord where
  id : ExternalId
  labels : List String := []
  deriving Repr, Inhabited

/-- A relationship to be written. -/
structure RelationshipRecord where
  source : ExternalId
  target : ExternalId
  type : String
  properties : Properties := Properties.empty
  deriving Repr, Inhabited

/-- A relationship seen from the node whose relationships are read. -/
structure RelationshipRef where
  /-- The endpoint that is not the node being read. -/
  other : ExternalId
  id : RelationshipId
  deriving DecidableEq, Repr, Inhabited

end CompactGraph
