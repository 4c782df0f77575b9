/-
# Graph stores

A graph store holds the tables of one graph and lets readers keep a snapshot of them under a name.
Whatever is written afterwards, the snapshot stays as it was.
-/
import CompactGraph.Store.Cursor

namespace CompactGraph

/-- A stored graph and the snapshots that are kept of it. -/
structure GraphStore where
  tables : Tables := Tables.empty
  held : List (String × Tables) := []
  deriving Inhabited

/-- How many records a batch has written. -/
structure ImportCounts where
  nodes : Nat
  relationships : Nat
  deriving DecidableEq, Repr, Inhabited

namespace GraphStore

/-- A store without nodes. -/
def empty : GraphStore := {}

/-- Write a node. -/
def insertNode (store : GraphStore) (record : NodeRecord) : GraphStore :=
  { store with tables := store.tables.writeNode record }

/-- Write a relationship.  The answer is its number. -/
def insertRelationship (store : GraphStore) (record : RelationshipRecord) :
    Except LoadError (RelationshipId × GraphStore) := do
  let (id, tables) ← store.tables.writeRelationship record
  return (id, { store with tables })

/-- Write a batch of records, all or none. -/
def importRecords (store : GraphStore) (nodes : List NodeRecord)
    (relationships : List RelationshipRecord) : Except LoadError (ImportCounts × GraphStore) := do
  let tables ← store.tables.writeBatch nodes relationships
  return (⟨nodes.length, relationships.length⟩, { store with tables })

/-- Keep a snapshot under a name. -/
def hold (store : GraphStore) (name : String) : GraphStore :=
  { store with held := (name, store.tables) :: store.held.filter fun entry => entry.1 != name }

/-- Give up the snapshot with a name.  The flag tells whether there was one. -/
def release (store : GraphStore) (name : String) : Bool × GraphStore :=
  (store.held.any fun entry => entry.1 == name,
    { store with held := store.held.filter fun entry => entry.1 != name })

/-- The tables that a reader sees: those of a kept snapshot, or else the current ones. -/
def view (store : GraphStore) (name : Option String) : Tables :=
  (name.bind fun name => store.held.lookup name).getD store.tables

/-- Give back space that is not used.  Nobody may hold a snapshot meanwhile. -/
def compact (store : GraphStore) : Except LoadError GraphStore :=
  if store.held.isEmpty then .ok store else .error (.io .snapshotsHeld)

/-- Close the store and open it again, which ends all snapshots. -/
def reopen (store : GraphStore) : GraphStore := { store with held := [] }

end GraphStore

end CompactGraph
