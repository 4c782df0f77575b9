/-
# The journal of a load

The events that a load has to report, in order.  Events of one partition stand together, and partitions
stand in order of their numbers.
-/
import CompactGraph.Load.Load
import CompactGraph.Log.Event

namespace CompactGraph

/-- The events of a load. -/
inductive LoadEvent where
  | started
  | nodesScanned
  /-- Room for one list was reserved. -/
  | reserved
  /-- A relationship of a partition got the default weight.  A partition is told by its number and by
  how many nodes it has. -/
  | fellBack (index nodes : Nat)
  | partitionLoaded (index nodes : Nat)
  /-- A partition failed. -/
  | failed
  /-- Some relationships got the default weight. -/
  | defaultsUsed
  | finished
  deriving DecidableEq, Repr, Inhabited

namespace LoadEvent

/-- The work during which an event happens, given the load that it belongs to. -/
def span (load : LogSpan) : LoadEvent → LogSpan
  | fellBack index nodes | partitionLoaded index nodes => .partition index nodes
  | started | nodesScanned | reserved | failed | defaultsUsed | finished => load

/-- The part of the program that an event comes from. -/
def origin : LoadEvent → LogOrigin
  | fellBack .. => .scans
  | started | nodesScanned | reserved | partitionLoaded .. | failed | defaultsUsed | finished => .loads

/-- The names of what is told about an event. -/
def details : LoadEvent → List String
  | started => ["label", "rel_type", "weight_property", "strategy"]
  | nodesScanned => ["nodes", "paged"]
  | reserved => ["list", "reserved"]
  | fellBack .. => ["relationship", "property"]
  | partitionLoaded .. => ["partition", "targets", "unmapped", "fallback_weights"]
  | failed => ["partition", "error"]
  | defaultsUsed => ["count"]
  | finished => ["nodes", "relationships", "weights", "elapsed_ms"]

/-- The level of an event. -/
def level : LoadEvent → LogLevel
  | started | finished => .info
  | nodesScanned | reserved | partitionLoaded .. | failed | defaultsUsed => .debug
  | fellBack .. => .trace

/-- The message of an event. -/
def message : LoadEvent → String
  | started => "loading graph"
  | nodesScanned => "node scan complete"
  | reserved => "reserved adjacency"
  | fellBack .. => "weight property missing or not numeric, using default"
  | partitionLoaded .. => "partition loaded"
  | failed => "load failed"
  | defaultsUsed => "relationships without a usable weight used the default"
  | finished => "graph loaded"

/-- An event of a load as it is written into the log. -/
def toLog (load : LogSpan) (event : LoadEvent) : LogEvent where
  level := event.level
  origin := event.origin
  message := event.message
  details := event.details
  span := some (event.span load)

end LoadEvent

/-- The events of the partition with a number and so many nodes: what it got to, and whether it came to
its end. -/
def Worker.journal (index nodes : Nat) (worker : Worker PartitionOutput) : List LoadEvent :=
  let fallbacks := fun (output : PartitionOutput) =>
    List.replicate output.counts.fallback (LoadEvent.fellBack index nodes)
  match worker with
  | .done output => fallbacks output ++ [.partitionLoaded index nodes]
  | worker => (worker.reached.map fallbacks).getD []

/-- The event that a phase failed, if it did. -/
def failureEvents {α : Type} (outcomes : List (Except LoadError α)) : List LoadEvent :=
  match gather outcomes with
  | .ok _ => []
  | .error _ => [.failed]

/-- The events of a phase that fills the lists of some partitions. -/
def Crew.journal (ranges : List NodeRange) (crew : Crew PartitionOutput) : List LoadEvent :=
  ((ranges.zip crew.workers).zipIdx.flatMap fun ((range, worker), index) =>
    worker.journal index range.size) ++ failureEvents crew.outcomes

/-- The events of a run. -/
def LoadRun.journal (run : LoadRun) : List LoadEvent :=
  if run.ranges.isEmpty then []
  else
    match run.sizing with
    | .growable => run.growableFillCrew.journal run.ranges
    | .exact =>
      let crew := run.degreeCrew
      match gather crew.outcomes with
      | .error _ => [.failed]
      | .ok bounds =>
        match run.reservations bounds with
        | .error _ => []
        | .ok offsets =>
          offsets.map (fun _ => .reserved) ++
            (run.exactFillCrew crew.flag bounds offsets).journal run.ranges

/-- The events after a run. -/
def closingEvents : Except LoadError (Graph × RunReport) → List LoadEvent
  | .error _ => []
  | .ok (_, report) => (if 0 < report.counts.fallback then [.defaultsUsed] else []) ++ [.finished]

/-- What is told about a load on a machine with a number of workers to give. -/
def LoadConfig.span (config : LoadConfig) (machine : Nat) : LogSpan :=
  .load config.direction.name config.undirected (config.workers machine)

/-- The events of a load. -/
def loadJournal (snapshot : Snapshot) (config : LoadConfig) (machine : Nat) (clock : Clock) :
    List LoadEvent :=
  let deadline : Deadline := { limit := config.timeout, elapsed := clock }
  match config.validate with
  | .error _ => []
  | .ok () =>
    match collectNodes snapshot config.nodeLabel deadline <* deadline.check .numbered with
    | .error _ => [.started]
    | .ok idMap =>
      let run := runOver snapshot config machine idMap (fun _ => []) clock
      [.started, .nodesScanned] ++ run.journal ++ closingEvents run.load

end CompactGraph
