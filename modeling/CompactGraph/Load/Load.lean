/-
# Loads

A load checks its configuration, pins a snapshot of the store, scans the nodes into an id map and runs
over their relationships.  It ends with a graph and a summary of what was done, or with the first
error that came up.
-/
import CompactGraph.Load.Run

namespace CompactGraph

/-- What a load did. -/
structure LoadSummary where
  nodeCount : Nat
  /-- Different relationships in the graph. -/
  relationshipCount : Nat
  storedWeights : Nat
  partitions : Nat
  /-- How many workers there were. -/
  concurrency : Nat
  sizing : Sizing
  direction : Direction
  undirected : Bool
  counts : ScanCounts
  deriving Repr, Inhabited

/-- Number one more node of a scan.  The state tells how many nodes the scan has delivered. -/
def collectNode (deadline : Deadline) (id : ExternalId) :
    EStateM LoadError (Nat × IdMap.Builder) Unit := fun (delivered, builder) =>
  match deadline.checkAt (.delivered (delivered + 1)) (delivered + 1) with
  | .error error => .error error (delivered, builder)
  | .ok () =>
    match IdMap.Builder.add id builder with
    | .ok _ builder => .ok () (delivered + 1, builder)
    | .error error builder => .error error (delivered, builder)

/-- Number the nodes of a snapshot, or those with a label. -/
def collectNodes (snapshot : Snapshot) (label : Option String) (deadline : Deadline) :
    Except LoadError IdMap := do
  snapshot.openCursor 0
  match (snapshot.scanNodes label).forEach (collectNode deadline) (0, .empty) with
  | .ok () (_, builder) => return builder.build
  | .error error _ => throw error

/-- The run over the relationships of the nodes in an id map. -/
def runOver (snapshot : Snapshot) (config : LoadConfig) (machine : Nat) (idMap : IdMap)
    (schedule : Phase → List Nat := fun _ => []) (clock : Clock := .swift) : LoadRun where
  snapshot
  config
  deadline := { limit := config.timeout, elapsed := clock }
  idMap
  workers := config.workers machine
  firstCursor := 1
  schedule

/-- The summary of a load. -/
def summaryOf (config : LoadConfig) (machine : Nat) (graph : Graph) (report : RunReport) :
    LoadSummary where
  nodeCount := graph.nodeCount
  relationshipCount := graph.relationshipCount
  storedWeights := graph.storedWeights
  partitions := report.partitions
  concurrency := config.workers machine
  sizing := report.sizing
  direction := config.direction
  undirected := config.undirected
  counts := report.counts

/-- Load a graph from a snapshot, on a machine with room for so many workers, who take turns as the
schedule says.  The clock tells how long all this takes. -/
def loadSnapshot (snapshot : Snapshot) (config : LoadConfig) (machine : Nat := 1)
    (schedule : Phase → List Nat := fun _ => []) (clock : Clock := .swift) :
    Except LoadError (Graph × LoadSummary) := do
  config.validate
  let deadline : Deadline := { limit := config.timeout, elapsed := clock }
  let idMap ← collectNodes snapshot config.nodeLabel deadline
  deadline.check .numbered
  let (graph, report) ← (runOver snapshot config machine idMap schedule clock).load
  return (graph, summaryOf config machine graph report)

/-- Load a graph from a store, whose current state is pinned once the configuration is checked. -/
def loadSource (pin : Except LoadError Snapshot) (config : LoadConfig) (machine : Nat := 1)
    (schedule : Phase → List Nat := fun _ => []) (clock : Clock := .swift) :
    Except LoadError (Graph × LoadSummary) := do
  config.validate
  let snapshot ← pin
  loadSnapshot snapshot config machine schedule clock

/-! ## Loading more than once -/

/-- Somebody who loads relationships from one snapshot, as often as asked.  Cursors are numbered
through all loads, and the flag is the one that the last load left behind. -/
structure Loader where
  snapshot : Snapshot
  config : LoadConfig
  machine : Nat := 1
  opened : Nat := 0
  flag : Bool := false
  schedule : Phase → List Nat := fun _ => []
  clock : Clock := .swift

namespace Loader

/-- The next run of a loader.  It begins with the flag lowered, whatever the last one left. -/
def nextRun (loader : Loader) (idMap : IdMap) : LoadRun :=
  { runOver loader.snapshot loader.config loader.machine idMap loader.schedule loader.clock with
    firstCursor := loader.opened }

/-- The sizing of the loader's runs. -/
def sizing (loader : Loader) : Sizing :=
  if loader.config.sizing = .exact ∧ loader.snapshot.countsDegrees then .exact else .growable

/-- The cursors that a run opens and the flag that it leaves. -/
def traces (run : LoadRun) : Nat × Bool :=
  if run.config.validate.toOption.isNone ∨ run.ranges.isEmpty then (0, false)
  else
    let count := run.ranges.length
    match run.sizing with
    | .growable => (count, run.growableFillCrew.flag)
    | .exact =>
      let crew := run.degreeCrew
      match gather crew.outcomes with
      | .error _ => (count, crew.flag)
      | .ok bounds =>
        match run.reservations bounds with
        | .error _ => (count, crew.flag)
        | .ok offsets => (count + count, (run.exactFillCrew crew.flag bounds offsets).flag)

/-- Load the relationships of the nodes in an id map. -/
def load (loader : Loader) (idMap : IdMap) : Except LoadError (Graph × RunReport) × Loader :=
  let run := loader.nextRun idMap
  let (opened, flag) := traces run
  (run.load, { loader with opened := loader.opened + opened, flag })

/-- Load several times over. -/
def loadTimes (loader : Loader) (idMap : IdMap) :
    Nat → List (Except LoadError (Graph × RunReport))
  | 0 => []
  | times + 1 =>
    let (result, loader) := loader.load idMap
    result :: loader.loadTimes idMap times

end Loader

end CompactGraph
