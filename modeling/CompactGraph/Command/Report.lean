/-
# Reports

What commands print: each result either as lines of text or as JSON.
-/
import CompactGraph.Json.Printer
import CompactGraph.Load.Load
import CompactGraph.Store.GraphStore

namespace CompactGraph

/-- A result in both of its forms. -/
structure Report where
  lines : List String
  json : JsonValue
  deriving Inhabited

namespace Report

/-- A report as it is printed. -/
def text (report : Report) (jsonMode : Bool) : String :=
  if jsonMode then report.json.print ++ "\n"
  else String.join (report.lines.map fun line => line ++ "\n")

/-- Weights in lines of text: no exponent ever, and no point in a whole number. -/
def weightFormat : Decimal.Format where
  isPositional := fun _ => true
  keepsPoint := false
  tieToEven := false
  special := nonFiniteText

/-- How many records were imported. -/
def ofImport (counts : ImportCounts) : Report where
  lines := [s!"Imported {counts.nodes} nodes, {counts.relationships} relationships"]
  json := .object [("nodes", .ofNat counts.nodes), ("relationships", .ofNat counts.relationships)]

/-- What a stored graph holds. -/
def ofStatus (database : String) (tables : Tables) : Report where
  lines := [
    "Graph Status",
    "============",
    s!"Database:      {quoted database}",
    "",
    s!"Nodes:         {tables.nodeCount}",
    s!"Relationships: {tables.relationshipCount}",
    "Types:         " ++ ", ".intercalate tables.typeNames]
  json := .object [
    ("database", .text database),
    ("node_count", .ofNat tables.nodeCount),
    ("relationship_count", .ofNat tables.relationshipCount),
    ("relationship_types", .array (tables.typeNames.map .text))]

/-- What a load did, and how much room and time it took. -/
def ofLoad (summary : LoadSummary) (memory : Nat) (elapsed : Duration) : Report where
  lines := [
    "Load Summary",
    "============",
    s!"Nodes:          {summary.nodeCount}",
    s!"Relationships:  {summary.relationshipCount}",
    s!"Direction:      {summary.direction.name}",
    s!"Undirected:     {summary.undirected}",
    s!"Stored weights: {summary.storedWeights}",
    s!"Partitions:     {summary.partitions}",
    s!"Concurrency:    {summary.concurrency}",
    s!"Sizing:         {summary.sizing.name}",
    s!"Scanned:        {summary.counts.scanned}",
    s!"Unmapped:       {summary.counts.unmapped}",
    s!"Default weight: {summary.counts.fallback} relationships",
    s!"Memory:         {memory} bytes",
    s!"Elapsed:        {elapsed.text}"]
  json := .object [
    ("node_count", .ofNat summary.nodeCount),
    ("relationship_count", .ofNat summary.relationshipCount),
    ("direction", .text summary.direction.name),
    ("undirected", .boolean summary.undirected),
    ("stored_weights", .ofNat summary.storedWeights),
    ("partitions", .ofNat summary.partitions),
    ("concurrency", .ofNat summary.concurrency),
    ("sizing", .text summary.sizing.name),
    ("scanned_relationships", .ofNat summary.counts.scanned),
    ("unmapped_relationships", .ofNat summary.counts.unmapped),
    ("fallback_weights", .ofNat summary.counts.fallback),
    ("memory_bytes", .ofNat memory),
    ("elapsed_ms", .ofNat elapsed.milliseconds)]

/-- The degrees of a node. -/
def ofDegree (graph : Graph) (id : ExternalId) (node : NodeId) : Report :=
  let outgoing := graph.degree node .outgoing
  let incoming := graph.degree node .incoming
  let total := graph.degree node .both
  let load := if graph.undirected then "undirected" else graph.direction.name
  { lines := [
      s!"Node {id} ({load} load)",
      s!"  Outgoing: {outgoing}",
      s!"  Incoming: {incoming}",
      s!"  Total:    {total}"]
    json := .object [
      ("node", .ofNat id.val.toNat),
      ("direction", .text graph.direction.name),
      ("undirected", .boolean graph.undirected),
      ("outgoing", .ofNat outgoing),
      ("incoming", .ofNat incoming),
      ("total", .ofNat total)] }

/-- The neighbours of a node, in lines of text with weights only if weights were loaded. -/
def ofNeighbors (id : ExternalId) (isWeighted : Bool) (neighbors : List (ExternalId × Float)) :
    Report where
  lines := s!"Neighbors of {id} ({neighbors.length}):" :: neighbors.map fun (other, weight) =>
    if isWeighted then s!"  {other} (weight {weightFormat.write weight})" else s!"  {other}"
  json := .object [
    ("node", .ofNat id.val.toNat),
    ("neighbors", .array (neighbors.map fun (other, weight) =>
      .object [("node", .ofNat other.val.toNat), ("weight", .number (.float weight))]))]

end Report

end CompactGraph
