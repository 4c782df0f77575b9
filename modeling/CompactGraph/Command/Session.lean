/-
# Sessions

Commands read and change a disk and report events.  A command that fails leaves the disk as it has
become by then; none but the one that creates a database changes which databases there are.
-/
import CompactGraph.Command.CommandLine
import CompactGraph.Command.Disk
import CompactGraph.Command.Report
import CompactGraph.Command.Usage
import CompactGraph.Config.File
import CompactGraph.Import.ImportFile
import CompactGraph.Load.Journal

namespace CompactGraph

/-- What a command prints, which may tell how long the command took. -/
abbrev Printout := Duration → String

/-- The disk, and the events of a command so far. -/
structure Session where
  disk : Disk
  events : List LogEvent := []
  deriving Inhabited

/-- A command, or a part of one. -/
abbrev Action := EStateM LoadError Session

namespace Session

/-- Report events. -/
def report (events : List LogEvent) : Action Unit :=
  modify fun session => { session with events := session.events ++ events }

/-- Fail if something failed. -/
def lift {α : Type} (result : Except LoadError α) : Action α :=
  match result with
  | .ok value => pure value
  | .error error => throw error

/-- Ask the disk something. -/
def onDisk {α : Type} (ask : Disk → Except LoadError α) : Action α := do lift (ask (← get).disk)

/-- Replace the disk. -/
def setDisk (disk : Disk) : Action Unit := modify fun session => { session with disk }

/-- The largest import file. -/
def maxImportSize : Nat := 500 * 1024 * 1024

/-- The largest configuration file. -/
def maxConfigSize : Nat := 1024 * 1024

/-- Open a stored graph, or store an empty one where there is none. -/
def openDatabase (path : String) : Action Tables := do
  let (tables, disk) ← onDisk fun disk => disk.openDatabase path
  setDisk disk
  return tables

/-- Open a graph that has to be stored already. -/
def openExisting (path : String) : Action Tables := do
  if !(← get).disk.contains path then throw (.sourceUnavailable (.databaseMissing path))
  openDatabase path

/-! ## Commands -/

/-- Store an empty graph, in place of another one only if that is forced. -/
def init (path : String) (force : Bool) : Action Printout := do
  if (← get).disk.contains path then
    if !force then throw (.configuration .databaseExists)
    setDisk (← onDisk fun disk => disk.remove path)
  let _ ← openDatabase path
  report [{
    level := .info, origin := .commands, message := "initialized database", details := ["path"] }]
  return fun _ => s!"Initialized new database at {quoted path}\n"

/-- Write the records of a file into a stored graph.  The file is read as a whole before the graph is
opened. -/
def importRecords (path file : String) : Action Report := do
  let bytes ← onDisk fun disk => disk.readFile file maxImportSize
  let (nodes, relationships) ← lift (readImport bytes)
  let tables ← openExisting path
  let tables ← lift (tables.writeBatch nodes relationships)
  setDisk ((← get).disk.write path (.database tables))
  report [{
    level := .debug, origin := .store, message := "imported batch",
    details := ["nodes", "relationships"] }]
  return .ofImport ⟨nodes.length, relationships.length⟩

/-- Tell what a stored graph holds. -/
def status (path : String) : Action Report := do return .ofStatus path (← openExisting path)

/-- The configuration of a load: its flags over the file that one of them names. -/
def configure (flags : FlagOptions) : Action LoadConfig := do
  match flags.file with
  | none => lift (layeredConfig none flags)
  | some path =>
    let bytes ← onDisk fun disk => disk.readFile path maxConfigSize
    let options ← lift (FileOptions.ofBytes bytes)
    lift (layeredConfig (some options) flags)

/-- Load a stored graph on a machine with a number of workers to give and a clock. -/
def loadGraph (machine : Nat) (clock : Clock) (path : String) (flags : FlagOptions) :
    Action (Graph × LoadSummary) := do
  let tables ← openExisting path
  let config ← configure flags
  report ((loadJournal tables.snapshot config machine clock).map
    (LoadEvent.toLog (config.span machine)))
  lift (loadSource (.ok tables.snapshot) config machine (fun _ => []) clock)

/-- Load a graph and tell what the load did. -/
def load (machine : Nat) (clock : Clock) (path : String) (flags : FlagOptions) :
    Action (Duration → Report) := do
  let (graph, summary) ← loadGraph machine clock path flags
  return .ofLoad summary graph.memoryUsage

/-- Load a graph and tell the degrees of a node. -/
def degree (machine : Nat) (clock : Clock) (path : String) (id : ExternalId) (flags : FlagOptions) :
    Action Report := do
  let (graph, _) ← loadGraph machine clock path flags
  return .ofDegree graph id (← lift (graph.find id))

/-- Load a graph and tell the neighbours of a node. -/
def neighbors (machine : Nat) (clock : Clock) (path : String) (id : ExternalId) (flags : FlagOptions) :
    Action Report := do
  let (graph, _) ← loadGraph machine clock path flags
  return .ofNeighbors id graph.isWeighted (← lift (graph.externalNeighbors id))

/-- Carry out a command. -/
def perform (machine : Nat) (clock : Clock) (line : CommandLine) : Action Printout :=
  let printed := fun (report : Report) (_ : Duration) => report.text line.jsonMode
  match line.command with
  | .init force => init line.database force
  | .importRecords file => printed <$> importRecords line.database file
  | .status => printed <$> status line.database
  | .load flags => do
    let report ← load machine clock line.database flags
    return fun elapsed => (report elapsed).text line.jsonMode
  | .degree node flags => printed <$> degree machine clock line.database node flags
  | .neighbors node flags => printed <$> neighbors machine clock line.database node flags

end Session

/-! ## Programs -/

/-- What a program that has run leaves behind. -/
structure Outcome where
  /-- What there is to print, or why the command failed. -/
  result : Except LoadError Printout
  disk : Disk
  events : List LogEvent

/-- Carry out a command on a disk, on a machine with a number of workers to give and a clock. -/
def CommandLine.run (line : CommandLine) (machine : Nat) (disk : Disk) (clock : Clock := .swift) :
    Outcome :=
  match Session.perform machine clock line { disk } with
  | .ok printout session => ⟨.ok printout, session.disk, session.events⟩
  | .error error session =>
    let complaint := { level := .error, origin := .program, message := s!"Error: {error.message}" }
    ⟨.error error, session.disk, session.events ++ [complaint]⟩

namespace Outcome

/-- The exit code of a program. -/
def exitCode (outcome : Outcome) : Nat :=
  match outcome.result with
  | .ok _ => 0
  | .error _ => 1

/-- What a program prints after it has run for some time. -/
def printed (outcome : Outcome) (elapsed : Duration) : String :=
  match outcome.result with
  | .ok printout => printout elapsed
  | .error _ => ""

end Outcome

end CompactGraph
