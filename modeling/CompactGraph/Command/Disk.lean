/-
# Disks

The files that commands find and leave behind.  The directory in which a program runs is always there,
and so are those above it, the root, and every directory in which there is something.
-/
import CompactGraph.Command.Place
import CompactGraph.Store.Archive

namespace CompactGraph

/-- What a path leads to. -/
inductive DiskEntry where
  | directory
  | file (bytes : List UInt8)
  /-- A file that holds a stored graph. -/
  | database (tables : Tables)
  deriving Inhabited

namespace DiskEntry

/-- What a file with these bytes is. -/
def ofBytes (bytes : List UInt8) : DiskEntry :=
  match Tables.ofArchive? bytes with
  | some tables => database tables
  | none => file bytes

/-- The bytes of a file. -/
def bytes? : DiskEntry → Option (List UInt8)
  | directory => none
  | file bytes => some bytes
  | database tables => some tables.archive

end DiskEntry

/-- Entries by their places. -/
structure Disk where
  entries : List (Place × DiskEntry) := []
  deriving Inhabited

namespace Disk

/-- Nothing but the directory in which a program runs. -/
def empty : Disk := {}

/-! ## Following paths -/

/-- What there is at a place. -/
def entryAt (disk : Disk) (place : Place) : Except PathProblem DiskEntry :=
  match disk.entries.lookup place with
  | some entry => .ok entry
  | none =>
    if place.names.isEmpty || disk.entries.any fun other => place.holds other.1 then .ok .directory
    else .error .nothingThere

/-- There must be a directory at a place. -/
def checkDirectory (disk : Disk) (place : Place) : Except PathProblem Unit := do
  match ← disk.entryAt place with
  | .directory => .ok ()
  | _ => .error .notADirectory

/-- Where parts lead from a place.  Each of them has to be looked up in a directory. -/
def follow (disk : Disk) : Place → List String → Except PathProblem Place
  | place, [] => .ok place
  | place, part :: rest => do
    disk.checkDirectory place
    if PathText.nameLimit < part.utf8ByteSize then .error .nameTooLong
    else disk.follow (place.step part) rest

/-- What a path of any length leads to. -/
def resolve (disk : Disk) (path : String) : Except PathProblem DiskEntry := do
  PathText.checkText path
  if path.isEmpty then .error .nothingThere
  else
    let place ← disk.follow (.start path) (PathText.parts path)
    if PathText.endsWithSlash path then disk.checkDirectory place
    disk.entryAt place

/-- What a path that the system is given leads to. -/
def find (disk : Disk) (path : String) : Except PathProblem DiskEntry := do
  PathText.checkLength path
  disk.resolve path

/-- Whether a path leads anywhere. -/
def contains (disk : Disk) (path : String) : Bool := (disk.find path).toOption.isSome

/-- Whether a new file can be made where a path leads.  Its directory is looked up before its name. -/
def checkPlace (disk : Disk) (path : String) : Except PathProblem Unit := do
  PathText.checkLength path
  let parts := PathText.parts path
  let directory ← disk.follow (.start path) parts.dropLast
  disk.checkDirectory directory
  match parts.getLast? with
  | none | some "." | some ".." => .error .isADirectory
  | some name =>
    if PathText.endsWithSlash path then .error .isADirectory
    else if PathText.nameLimit < name.utf8ByteSize then .error .nameTooLong
    else .ok ()

/-! ## Changes -/

/-- Put an entry where a path leads. -/
def write (disk : Disk) (path : String) (entry : DiskEntry) : Disk :=
  let place := Place.ofPath path
  ⟨(place, entry) :: disk.entries.filter fun other => other.1 != place⟩

/-- Take away what a path leads to; the directory that it was in stays. -/
def erase (disk : Disk) (path : String) : Disk :=
  let place := Place.ofPath path
  ⟨(place.parent, .directory) ::
    disk.entries.filter fun other => other.1 != place && other.1 != place.parent⟩

/-! ## What commands do with files -/

/-- The bytes of a file of bounded size. -/
def readFile (disk : Disk) (path : String) (limit : Nat) : Except LoadError (List UInt8) :=
  match disk.resolve path with
  | .error problem => .error (.io (.badPath path problem.text))
  | .ok entry =>
    match entry.bytes? with
    | none => .error (.io (.notRegularFile path))
    | some bytes =>
      if limit < bytes.length then .error (.io (.tooLarge bytes.length limit)) else .ok bytes

/-- Put an empty graph where a path leads. -/
def createDatabase (disk : Disk) (path : String) : Except LoadError (Tables × Disk) :=
  match disk.checkPlace path with
  | .ok () => .ok (Tables.empty, disk.write path (.database Tables.empty))
  | .error problem => .error (.io (.cannotOpen problem.text))

/-- Why a file that is no archive cannot be opened. -/
def archiveProblem (bytes : List UInt8) : String :=
  if Tables.archiveMark.isPrefixOf bytes then "failed to fill whole buffer"
  else "Not a redb database: magic number mismatch"

/-- The stored graph that a path leads to.  Where nothing or an empty file is found, an empty graph is
stored. -/
def openDatabase (disk : Disk) (path : String) : Except LoadError (Tables × Disk) :=
  match disk.find path with
  | .ok (.database tables) => .ok (tables, disk)
  | .ok .directory => .error (.io (.cannotOpen PathProblem.isADirectory.text))
  | .ok (.file []) | .error _ => disk.createDatabase path
  | .ok (.file bytes) => .error (.io (.cannotOpen (archiveProblem bytes)))

/-- Take away the file that a path leads to. -/
def remove (disk : Disk) (path : String) : Except LoadError Disk :=
  match disk.find path with
  | .error problem => .error (.io (.cannotRemove problem.text))
  | .ok .directory => .error (.io (.cannotRemove PathProblem.isADirectory.text))
  | .ok _ => .ok (disk.erase path)

end Disk

end CompactGraph
