/-
# Snapshots

A snapshot is one consistent view of a store: what the store answers to each question about it.
Nothing is assumed of the answers.  A question may fail, and two answers may contradict each other.
-/
import CompactGraph.Error
import CompactGraph.Source.Record

namespace CompactGraph

/-- The nodes that a scan delivers, in order, and the error that ends it early, if there is one. -/
structure NodeScan where
  ids : List ExternalId
  failure : Option LoadError := none
  deriving Inhabited

namespace NodeScan

/-- Hand nodes to a visitor one after another, up to the first that it refuses. -/
def visitEach {σ : Type} (visit : ExternalId → EStateM LoadError σ Unit) :
    List ExternalId → EStateM LoadError σ Unit
  | [] => pure ()
  | id :: rest => do
    visit id
    visitEach visit rest

/-- Hand the nodes of a scan to a visitor.  The scan stops at the first node that the visitor
refuses, and otherwise fails in its own way after the last. -/
def forEach {σ : Type} (scan : NodeScan) (visit : ExternalId → EStateM LoadError σ Unit) :
    EStateM LoadError σ Unit := do
  visitEach visit scan.ids
  match scan.failure with
  | some error => throw error
  | none => pure ()

end NodeScan

/-- What reading a property of a relationship answers. -/
abbrev PropertyReader := RelationshipId → String → Except LoadError (Option PropertyValue)

/-- The answers of a store to all questions about one of its states. -/
structure Snapshot where
  /-- Whether asking for a degree costs little. -/
  countsDegrees : Bool := true
  /-- Whether a cursor can be opened.  Cursors are numbered from zero in the order of opening. -/
  openCursor : Nat → Except LoadError Unit := fun _ => .ok ()
  /-- The nodes, or the nodes with a label. -/
  scanNodes : Option String → NodeScan
  /-- How many relationships a node has in a direction, of one type or of any. -/
  degree : ExternalId → Direction → Option String → Except LoadError Nat
  /-- The relationships of a node in a direction, of one type or of any. -/
  relationships : ExternalId → Direction → Option String → Except LoadError (List RelationshipRef)
  /-- A property of a relationship, if it has it. -/
  property : PropertyReader

end CompactGraph
