/-
# Scanning one node after another

A list scan looks at the relationships of a node one by one.  It drops those that lead out of the
loaded nodes, collects the targets of the others, and reads their weights.  When all relationships of
the node have been seen, the targets become its adjacency list and the weights of equal targets are
folded into one.
-/
import CompactGraph.IdMap
import CompactGraph.Adjacency.TargetBuffer
import CompactGraph.Scan.ScanKind
import CompactGraph.Source.Snapshot
import CompactGraph.Weight.WeightTable

namespace CompactGraph

/-- What a scan counts. -/
structure ScanCounts where
  /-- Relationships delivered by the store. -/
  scanned : Nat := 0
  /-- Relationships whose other endpoint is not loaded. -/
  unmapped : Nat := 0
  /-- Relationships that got the default weight, having none of their own. -/
  fallback : Nat := 0
  deriving DecidableEq, Repr, Inhabited

namespace ScanCounts

/-- Counts of two scans taken together. -/
def add (a b : ScanCounts) : ScanCounts :=
  ⟨a.scanned + b.scanned, a.unmapped + b.unmapped, a.fallback + b.fallback⟩

/-- Counts of many scans taken together. -/
def total (counts : List ScanCounts) : ScanCounts := counts.foldl add {}

end ScanCounts

/-- A scan that builds one adjacency list. -/
structure ListScan where
  kind : ScanKind
  idMap : IdMap
  /-- The property that holds the weight. -/
  weightProperty : Option String
  defaultWeight : Float
  policy : DuplicatePolicy

/-- Where a scan stands within the relationships of a node. -/
structure ScanState where
  buffer : TargetBuffer
  /-- The weights read so far, with their targets, in order of arrival. -/
  pending : Array (NodeId × Float) := #[]
  /-- The self-loops of the node that were seen. -/
  selfLoops : List RelationshipId := []
  counts : ScanCounts := {}

namespace ListScan

/-- The property that is read, if the scan reads weights at all. -/
def property (scan : ListScan) : Option String :=
  if scan.kind.isWeighted then scan.weightProperty else none

/-- Whether a relationship to the same target as the one before can be dropped unread. -/
def skipsRepeats (scan : ListScan) : Bool := scan.property.isNone || !scan.policy.needsLater

/-- A scan that has not seen anything. -/
def initial (scan : ListScan) : ScanState := { buffer := .new scan.skipsRepeats }

/-- Turn to another node.  The counts go on. -/
def prepare (node : NodeId) (state : ScanState) : ScanState :=
  { state with buffer := state.buffer.prepare node, pending := #[], selfLoops := [] }

/-- Keep a weight until all relationships of the node have been seen. -/
def keep (target : NodeId) (weight : Float) (state : ScanState) : ScanState :=
  { state with pending := state.pending.push (target, weight) }

/-- Count a relationship. -/
def countScanned (state : ScanState) : ScanState :=
  { state with counts := { state.counts with scanned := state.counts.scanned + 1 } }

/-- Count a relationship that leads out of the loaded nodes. -/
def countUnmapped (state : ScanState) : ScanState :=
  { state with counts := { state.counts with unmapped := state.counts.unmapped + 1 } }

/-- Count a relationship that got the default weight. -/
def countFallback (state : ScanState) : ScanState :=
  { state with counts := { state.counts with fallback := state.counts.fallback + 1 } }

/-- Read the weight of a relationship and keep it. -/
def readWeight (scan : ListScan) (read : PropertyReader) (id : RelationshipId) (target : NodeId) :
    EStateM LoadError ScanState Unit := fun state =>
  match scan.property with
  | none => .ok () state
  | some name =>
    match read id name with
    | .error error => .error error state
    | .ok value =>
      match value.bind PropertyValue.asWeight with
      | some weight => .ok () (keep target weight state)
      | none => .ok () (keep target scan.defaultWeight (countFallback state))

/-- Look at one relationship of the node.  The answer tells whether it was kept.  A scan in both
directions meets a self-loop twice and passes over the second sighting. -/
def visit (scan : ListScan) (read : PropertyReader) (relationship : RelationshipRef) :
    EStateM LoadError ScanState Bool := fun state =>
  let other := scan.idMap.toMapped relationship.other
  let isLoop := scan.kind.isUndirected && other == state.buffer.source
  if isLoop && state.selfLoops.contains relationship.id then .ok false state
  else
    let state :=
      if isLoop then { state with selfLoops := relationship.id :: state.selfLoops } else state
    let state := countScanned state
    if !other.isMapped then .ok false (countUnmapped state)
    else
      let (kept, buffer) := state.buffer.add other
      let state := { state with buffer }
      if kept then (scan.readWeight read relationship.id other *> pure true) state
      else .ok false state

/-- Look at relationships one after another. -/
def visitAll (scan : ListScan) (read : PropertyReader) :
    List RelationshipRef → EStateM LoadError ScanState Unit
  | [] => pure ()
  | relationship :: rest => do
    let _ ← scan.visit read relationship
    scan.visitAll read rest

/-- Sort the targets of the node and drop repetitions. -/
def flush (state : ScanState) : ScanState := { state with buffer := state.buffer.flush }

/-- The targets of the node. -/
def targets (state : ScanState) : Array NodeId := state.buffer.targets

/-! ## Folding weights -/

/-- Order weights by target; those of one target stay in order of arrival. -/
def sortPending (pending : List (NodeId × Float)) : List (NodeId × Float) :=
  pending.mergeSort fun a b => a.1.le b.1

/-- Fold the weights of equal neighbours, given the target and weight before the rest.  `conflict` is
the error for a target whose weights may not meet. -/
def foldRun (policy : DuplicatePolicy) (conflict : NodeId → LoadError) (target : NodeId)
    (weight : Float) : List (NodeId × Float) → Except LoadError (List (NodeId × Float))
  | [] => .ok [(target, weight)]
  | (next, arriving) :: rest =>
    if next = target then
      match policy.merge weight arriving with
      | some merged => foldRun policy conflict target merged rest
      | none => .error (conflict target)
    else ((target, weight) :: ·) <$> foldRun policy conflict next arriving rest

/-- Fold the weights of equal neighbours. -/
def foldPending (policy : DuplicatePolicy) (conflict : NodeId → LoadError) :
    List (NodeId × Float) → Except LoadError (List (NodeId × Float))
  | [] => .ok []
  | (target, weight) :: rest => foldRun policy conflict target weight rest

/-- The error for two weights of a pair that may not meet. -/
def conflict (scan : ListScan) (node other : NodeId) : LoadError :=
  let (source, target) := scan.kind.endpoints node other
  .duplicateRelationship source target

/-- The writes that store folded weights. -/
def writes (scan : ListScan) (node : NodeId) (folded : List (NodeId × Float)) :
    List (PairKey × Float) :=
  folded.flatMap fun (target, weight) => (scan.kind.keys node target).map fun key => (key, weight)

/-- Fold the weights of the node, one per target, and say what has to be written. -/
def settle (scan : ListScan) : EStateM LoadError ScanState (List (PairKey × Float)) := fun state =>
  let node := state.buffer.source
  let sorted := sortPending state.pending.toList
  match foldPending scan.policy (scan.conflict node) sorted with
  | .ok folded => .ok (scan.writes node folded) { state with pending := folded.toArray }
  | .error error => .error error { state with pending := sorted.toArray }

/-- Finish the node: its targets become a list, and its weights go into a table, if there is one. -/
def flushInto (scan : ListScan) :
    EStateM LoadError (ScanState × Option WeightTable) (Array NodeId) := fun (state, weights) =>
  let state := flush state
  match weights with
  | none => .ok (targets state) (state, none)
  | some table =>
    if scan.property.isNone then .ok (targets state) (state, some table)
    else
      match scan.settle state with
      | .error error state => .error error (state, some table)
      | .ok writes state =>
        match WeightTable.putAll writes table with
        | .error error table => .error error (state, some table)
        | .ok () table => .ok (targets state) (state, some table)

end ListScan

end CompactGraph
