/-
# The program

Arguments and environment come in, the files that the command line names are read, the command is
carried out on them, and the stored graph is written back if it has changed.
-/
import CompactGraph.Command.Session
import CompactGraph.Log.Filter
import CompactGraph.Log.Line

namespace CompactGraph

/-- How many workers share a load unless the command line says otherwise. -/
def workers : Nat := 1

/-- Read what a path leads to, if it leads anywhere. -/
def readEntry (path : String) : IO (Option DiskEntry) := do
  try
    return some (.ofBytes (← IO.FS.readBinFile path).toList)
  catch
    | .noFileOrDirectory .. => return none
    | .inappropriateType .. => return some .directory
    | error => throw error

/-- Whether every name on the way to a place is one that the system takes. -/
def Place.isNameable (place : Place) : Bool :=
  place.names.all fun name =>
    name.utf8ByteSize ≤ PathText.nameLimit && !name.toList.contains '\x00'

/-- Read what lies on the ways of some paths. -/
def readDisk (paths : List String) : IO Disk :=
  let places := paths.flatMap fun path => (Place.start path).along (PathText.parts path)
  (places.filter Place.isNameable).foldlM (fun disk place => do
    match ← readEntry place.path with
    | some entry => return disk.write place.path entry
    | none => return disk) Disk.empty

/-- Write the file at a path if it has changed. -/
def writeBack (former disk : Disk) (path : String) : IO Unit := do
  let bytes? := fun (disk : Disk) => (disk.find path).toOption >>= DiskEntry.bytes?
  match bytes? disk with
  | some bytes => if bytes? former != some bytes then IO.FS.writeBinFile path ⟨bytes.toArray⟩
  | none => return

/-- Carry out a command line and write the events that pass a filter.  The answer is the exit code. -/
def CommandLine.carryOut (line : CommandLine) (filter : LogFilter) : IO Nat := do
  let format := LogFormat.choose (← IO.getEnv "GRAPHLOAD_LOG_FORMAT")
  let start ← IO.monoNanosNow
  let disk ← readDisk line.paths
  let outcome := line.run workers disk
  writeBack disk outcome.disk line.database
  for event in outcome.events.filter filter.passes do
    IO.eprintln (event.line format)
  let finish ← IO.monoNanosNow
  IO.print (outcome.printed ⟨finish - start⟩)
  return outcome.exitCode

end CompactGraph

/-- The program. -/
def main (arguments : List String) : IO UInt32 := do
  match CompactGraph.CommandLine.ofArguments arguments with
  | .ok line =>
    match CompactGraph.LogFilter.choose? (← IO.getEnv "RUST_LOG") line.quiet line.verbose with
    | some filter => return (← line.carryOut filter).toUInt32
    | none => return CompactGraph.LogFilter.tornExitCode.toUInt32
  | .error problem =>
    IO.print problem.printed
    IO.eprint problem.complaint
    return problem.exitCode.toUInt32
