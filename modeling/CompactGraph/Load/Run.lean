/-
# Runs

A run reads the relationships of all nodes of an id map.  With exact sizing it first asks for the
degrees of all nodes and reserves a region of targets for each partition; without, every partition
lets its lists grow.  Then each partition reads its nodes and fills its lists.  In the end the lists
of all partitions are put together, and their weights are merged in order of partitions.
-/
import CompactGraph.Config
import CompactGraph.Graph.Graph
import CompactGraph.Load.Crew
import CompactGraph.Load.Deadline
import CompactGraph.Load.Region
import CompactGraph.Scan.ListScan

namespace CompactGraph

/-- The phases of a run that partitions work on. -/
inductive Phase where
  | degrees
  | fill
  deriving DecidableEq, Repr, Inhabited

/-- Everything that a run depends on. -/
structure LoadRun where
  snapshot : Snapshot
  config : LoadConfig
  deadline : Deadline
  idMap : IdMap
  /-- How many workers there are. -/
  workers : Nat
  /-- How many cursors were opened before. -/
  firstCursor : Nat := 0
  /-- In which order workers have their turns. -/
  schedule : Phase → List Nat := fun _ => []

/-- The degrees that the store reports for a node, one for each list. -/
abbrev NodeBounds := List Nat

/-- How a partition fills one list. -/
structure ListPlan where
  scan : ListScan
  /-- Where targets go if room was reserved for them. -/
  region : Option Region

/-- What a partition has put into one list. -/
structure ListOutput where
  state : ScanState
  degrees : Array Nat := #[]
  targets : Array NodeId := #[]

/-- What a partition has read. -/
structure PartitionOutput where
  lists : List ListOutput
  weights : Option WeightTable

namespace PartitionOutput

/-- The counts of all scans of a partition. -/
def counts (output : PartitionOutput) : ScanCounts :=
  ScanCounts.total (output.lists.map fun list => list.state.counts)

/-- The targets in one list. -/
def targetsIn (output : PartitionOutput) (list : Nat) : Array NodeId :=
  (output.lists[list]?.map ListOutput.targets).getD #[]

/-- The degrees in one list. -/
def degreesIn (output : PartitionOutput) (list : Nat) : List Nat :=
  (output.lists[list]?.map fun list => list.degrees.toList).getD []

/-- The targets in all lists. -/
def written (output : PartitionOutput) : Nat :=
  total (output.lists.map fun list => list.targets.size)

end PartitionOutput

/-- The lists and weights of all nodes. -/
structure Assembled where
  lists : List AdjacencyList
  weights : Option WeightTable
  counts : ScanCounts

/-- What a run reports besides the graph. -/
structure RunReport where
  partitions : Nat
  sizing : Sizing
  counts : ScanCounts
  deriving DecidableEq, Repr, Inhabited

namespace ListPlan

/-- The most relationships that a node of the partition may have. -/
def bound? (plan : ListPlan) (position : Nat) : Option Nat :=
  plan.region.bind fun region => region.bounds[position]?

/-- Whether so many targets fit into the room that was reserved. -/
def fits (plan : ListPlan) (count : Nat) : Bool :=
  match plan.region with
  | some region => count ≤ region.size
  | none => true

end ListPlan

namespace LoadRun

/-- The scans that build the lists. -/
def kinds (run : LoadRun) : List ScanKind :=
  ScanKind.forLoad run.config.direction run.config.isWeighted run.config.undirected

/-- The partitions. -/
def ranges (run : LoadRun) : List NodeRange :=
  partition run.idMap.nodeCount run.workers run.config.minPartitionSize

/-- Whether degrees are counted first; that takes a store that counts them at little cost. -/
def sizing (run : LoadRun) : Sizing :=
  if run.config.sizing = .exact ∧ run.snapshot.countsDegrees then .exact else .growable

/-- The external id of a node. -/
def externalId (run : LoadRun) (node : Nat) : Except LoadError ExternalId :=
  match run.idMap.toExternal (NodeId.ofIndex node) with
  | some id => .ok id
  | none => .error (.sourceInconsistent (.nodeNotMapped node))

/-- A step for each node of a partition, given its position in the partition and its number. -/
def stepsFor {σ : Type} (range : NodeRange) (step : Nat → Nat → EStateM LoadError σ Unit) :
    List (EStateM LoadError σ Unit) :=
  range.toList.zipIdx.map fun (node, position) => step position node

/-- Turn an outcome that does not touch the state into a step. -/
def asStep {σ α : Type} : Except LoadError α → EStateM LoadError σ α
  | .ok a => pure a
  | .error error => throw error

/-! ## Counting degrees -/

/-- The reported degrees of one node. -/
def boundsOf (run : LoadRun) (position node : Nat) : Except LoadError NodeBounds := do
  run.deadline.checkAt (.counting node) position
  let id ← run.externalId node
  run.kinds.mapM fun kind => run.snapshot.degree id kind.direction run.config.relationshipType

/-- Ask for the degrees of the nodes of a partition. -/
def degreeWork (run : LoadRun) (cursor : Nat) (range : NodeRange) :
    PartitionWork (Array NodeBounds) where
  start := (fun _ => #[]) <$> run.snapshot.openCursor cursor
  steps := stepsFor range fun position node => do
    let bounds ← asStep (run.boundsOf position node)
    modify fun found => found.push bounds

/-- The crew after all degrees have been asked for. -/
def degreeCrew (run : LoadRun) : Crew (Array NodeBounds) :=
  Crew.run (run.schedule .degrees) false <|
    run.ranges.zipIdx.map fun (range, number) => run.degreeWork (run.firstCursor + number) range

/-- The bounds on degrees in one list. -/
def boundsIn (bounds : Array NodeBounds) (list : Nat) : Array Nat :=
  bounds.map fun row => row[list]?.getD 0

/-- The offsets of all nodes in each list. -/
def reservations (run : LoadRun) (bounds : List (Array NodeBounds)) :
    Except LoadError (List (Array Nat)) :=
  (List.range run.kinds.length).mapM fun list =>
    reserve (bounds.flatMap fun part => (boundsIn part list).toList)

/-! ## Filling lists -/

/-- The relationships of a node in the direction of a list.  More of them than the store has reported
are refused. -/
def relationshipsOf (run : LoadRun) (plan : ListPlan) (position : Nat) (id : ExternalId) :
    Except LoadError (List RelationshipRef) := do
  let direction := plan.scan.kind.direction
  let found ← run.snapshot.relationships id direction run.config.relationshipType
  match plan.bound? position with
  | some bound =>
    if found.length > bound then
      throw (.sourceInconsistent (.degreeExceeded id found.length direction bound))
    else return found
  | none => return found

/-- Read a node into one list. -/
def fillList (run : LoadRun) (plan : ListPlan) (position node : Nat) (id : ExternalId) :
    EStateM LoadError (ListOutput × Option WeightTable) Unit := fun (output, weights) =>
  match run.relationshipsOf plan position id with
  | .error error => .error error (output, weights)
  | .ok found =>
    let prepared := ListScan.prepare (NodeId.ofIndex node) output.state
    match plan.scan.visitAll run.snapshot.property found prepared with
    | .error error state => .error error ({ output with state }, weights)
    | .ok () state =>
      match plan.scan.flushInto (state, weights) with
      | .error error (state, weights) => .error error ({ output with state }, weights)
      | .ok targets (state, weights) =>
        let output := { output with state, degrees := output.degrees.push targets.size }
        if plan.fits (output.targets.size + targets.size) then
          .ok () ({ output with targets := output.targets ++ targets }, weights)
        else .error (.sourceInconsistent .regionOverrun) (output, weights)

/-- Read a node into all lists. -/
def fillLists (run : LoadRun) (position node : Nat) (id : ExternalId) :
    List ListPlan → EStateM LoadError (List ListOutput × Option WeightTable) Unit
  | [] => pure ()
  | plan :: plans => fun (outputs, weights) =>
    match outputs with
    | [] => .ok () ([], weights)
    | output :: outputs =>
      match run.fillList plan position node id (output, weights) with
      | .error error (output, weights) => .error error (output :: outputs, weights)
      | .ok () (output, weights) =>
        match run.fillLists position node id plans (outputs, weights) with
        | .error error (outputs, weights) => .error error (output :: outputs, weights)
        | .ok () (outputs, weights) => .ok () (output :: outputs, weights)

/-- Read a node. -/
def fillNode (run : LoadRun) (plans : List ListPlan) (position node : Nat) :
    EStateM LoadError PartitionOutput Unit := fun output =>
  match run.deadline.checkAt (.reading node) position *> run.externalId node with
  | .error error => .error error output
  | .ok id =>
    match run.fillLists position node id plans (output.lists, output.weights) with
    | .error error (lists, weights) => .error error ⟨lists, weights⟩
    | .ok () (lists, weights) => .ok () ⟨lists, weights⟩

/-- The scan of a kind. -/
def scanOf (run : LoadRun) (kind : ScanKind) : ListScan where
  kind
  idMap := run.idMap
  weightProperty := run.config.weightProperty
  defaultWeight := run.config.defaultWeight
  policy := run.config.policy

/-- Whether two partitions may write the same pair. -/
def sharesPairs (run : LoadRun) : Bool := run.kinds.any ScanKind.isSymmetric

/-- An empty table for a weighted load. -/
def blankWeights (run : LoadRun) (capacity : Nat) (isShard : Bool) : Option WeightTable :=
  if run.config.isWeighted then
    let table := WeightTable.withCapacity capacity run.config.defaultWeight run.config.policy
    some { table with isShard }
  else none

/-- Read the nodes of a partition. -/
def fillWork (run : LoadRun) (cursor : Nat) (range : NodeRange) (plans : List ListPlan)
    (weightCapacity : Nat) : PartitionWork PartitionOutput where
  start := (fun _ => ⟨plans.map fun plan => { state := plan.scan.initial },
    run.blankWeights weightCapacity run.sharesPairs⟩) <$> run.snapshot.openCursor cursor
  steps := stepsFor range (run.fillNode plans)

/-! ## Putting partitions together -/

/-- Merge the weights of all partitions into those of the first. -/
def mergeWeights (merged : Option WeightTable) :
    List (Option WeightTable) → Except LoadError (Option WeightTable)
  | [] => .ok merged
  | next :: rest =>
    match merged, next with
    | some table, some other =>
      match WeightTable.mergeFrom other table with
      | .ok () table => mergeWeights (some table) rest
      | .error error _ => .error error
    | none, some other => mergeWeights (some other) rest
    | merged, none => mergeWeights merged rest

/-- Put the outputs of all partitions together, given their lists. -/
def merge (run : LoadRun) (lists : List AdjacencyList) (outputs : List PartitionOutput) :
    Except LoadError Assembled := do
  let weights ← mergeWeights none (outputs.map PartitionOutput.weights)
  return {
    lists
    weights := weights.map WeightTable.freeze <|> run.blankWeights 0 false
    counts := ScanCounts.total (outputs.map PartitionOutput.counts) }

/-- The room for weights in a partition: a place for each pair it may write. -/
def weightCapacity (run : LoadRun) (bounds : Array NodeBounds) : Nat :=
  match run.kinds.findIdx? ScanKind.isWeighted with
  | none => 0
  | some list =>
    let places := total (boundsIn bounds list).toList
    if (run.kinds[list]?.map ScanKind.isSymmetric).getD false then min (places * 2) (UInt64.size - 1)
    else places

/-- The plans of a partition whose targets go into reserved regions. -/
def exactPlans (run : LoadRun) (offsets : List (Array Nat)) (range : NodeRange)
    (bounds : Array NodeBounds) : List ListPlan :=
  (run.kinds.zip offsets).zipIdx.map fun ((kind, offsets), list) =>
    ⟨run.scanOf kind, some (Region.ofRange offsets range (boundsIn bounds list))⟩

/-- The crew after all lists have been filled into reserved regions. -/
def exactFillCrew (run : LoadRun) (flag : Bool) (bounds : List (Array NodeBounds))
    (offsets : List (Array Nat)) : Crew PartitionOutput :=
  let first := run.firstCursor + run.ranges.length
  Crew.run (run.schedule .fill) flag <|
    (run.ranges.zip bounds).zipIdx.map fun ((range, bounds), number) =>
      run.fillWork (first + number) range (run.exactPlans offsets range bounds)
        (run.weightCapacity bounds)

/-- The list that partitions wrote into reserved regions. -/
def exactList (run : LoadRun) (offsets : Array Nat) (list : Nat) (outputs : List PartitionOutput) :
    Except LoadError AdjacencyList :=
  let parts := (run.ranges.zip outputs).map fun (range, output) =>
    ⟨offsets[range.start]?.getD 0, output.targetsIn list⟩
  AdjacencyList.ofDegrees (pack (offsets.back?.getD 0) parts)
    (outputs.flatMap fun output => output.degreesIn list)

/-- Load with degrees counted first. -/
def exact (run : LoadRun) : Except LoadError Assembled := do
  let crew := run.degreeCrew
  let bounds ← gather crew.outcomes
  let offsets ← run.reservations bounds
  let outputs ← gather (run.exactFillCrew crew.flag bounds offsets).outcomes
  let lists ← offsets.zipIdx.mapM fun (offsets, list) => run.exactList offsets list outputs
  run.merge lists outputs

/-- The crew after all lists have grown to their ends. -/
def growableFillCrew (run : LoadRun) : Crew PartitionOutput :=
  Crew.run (run.schedule .fill) false <|
    run.ranges.zipIdx.map fun (range, number) =>
      run.fillWork (run.firstCursor + number) range
        (run.kinds.map fun kind => ⟨run.scanOf kind, none⟩) 0

/-- The list that partitions let grow. -/
def growableList (list : Nat) (outputs : List PartitionOutput) : Except LoadError AdjacencyList :=
  AdjacencyList.ofDegrees
    (outputs.foldl (fun targets output => targets ++ output.targetsIn list) #[])
    (outputs.flatMap fun output => output.degreesIn list)

/-- Load with growing lists. -/
def growable (run : LoadRun) : Except LoadError Assembled := do
  let outputs ← gather run.growableFillCrew.outcomes
  let lists ← (List.range run.kinds.length).mapM fun list => growableList list outputs
  run.merge lists outputs

/-- The lists and weights of all nodes. -/
def assembled (run : LoadRun) : Except LoadError Assembled :=
  if run.ranges.isEmpty then
    .ok {
      lists := run.kinds.map fun _ => .isolated run.idMap.nodeCount
      weights := run.blankWeights 0 false
      counts := {} }
  else
    match run.sizing with
    | .exact => run.exact
    | .growable => run.growable

/-- The list that a scan in the given direction built. -/
def listFor (run : LoadRun) (lists : List AdjacencyList) (direction : Direction) :
    Option AdjacencyList :=
  ((run.kinds.zip lists).find? fun (kind, _) => kind.direction = direction).map Prod.snd

/-- The graph that consists of the given lists and weights. -/
def graphOf (run : LoadRun) (parts : Assembled) : Except LoadError Graph :=
  if run.config.undirected then
    Graph.ofUndirected run.idMap (parts.lists.headD (.isolated run.idMap.nodeCount)) parts.weights
      run.config.defaultWeight
  else
    Graph.ofParts run.idMap (run.listFor parts.lists .outgoing) (run.listFor parts.lists .incoming)
      parts.weights run.config.defaultWeight run.config.direction

/-- Load the relationships of all nodes. -/
def load (run : LoadRun) : Except LoadError (Graph × RunReport) := do
  run.config.validate
  let parts ← run.assembled
  let graph ← run.graphOf parts
  return (graph, ⟨run.ranges.length, run.sizing, parts.counts⟩)

end LoadRun

end CompactGraph
