/-
# Places

A path is followed part by part, from the directory in which a program runs or, if it begins with a
slash, from the root.  A single dot stays where it is and two dots go up.
-/

namespace CompactGraph

/-- Why a path cannot be followed. -/
inductive PathProblem where
  | nothingThere
  | notADirectory
  | isADirectory
  | nameTooLong
  /-- The character that ends names in the system's own texts stands in the path. -/
  | holdsNul
  deriving DecidableEq, Repr, Inhabited

/-- The system's words for a problem with a path. -/
def PathProblem.text : PathProblem → String
  | nothingThere => "No such file or directory (os error 2)"
  | notADirectory => "Not a directory (os error 20)"
  | isADirectory => "Is a directory (os error 21)"
  | nameTooLong => "File name too long (os error 36)"
  | holdsNul => "file name contained an unexpected NUL byte"

/-! ## Texts of paths -/

namespace PathText

/-- The most bytes of one name. -/
def nameLimit : Nat := 255

/-- How many bytes are too many for a path that the system is given. -/
def pathLimit : Nat := 4096

/-- The parts of a path, dots included. -/
def parts (path : String) : List String := (path.splitOn "/").filter fun part => part ≠ ""

/-- Whether a path asks for a directory by a slash at its end. -/
def endsWithSlash (path : String) : Bool := path.toList.getLast? = some '/'

/-- A path must not hold a character that ends it early. -/
def checkText (path : String) : Except PathProblem Unit :=
  if path.toList.contains '\x00' then .error .holdsNul else .ok ()

/-- A path that the system is given has to be short enough as well. -/
def checkLength (path : String) : Except PathProblem Unit := do
  checkText path
  if pathLimit ≤ path.utf8ByteSize then .error .nameTooLong else .ok ()

end PathText

/-! ## Where paths lead -/

/-- A place in the tree of directories. -/
structure Place where
  /-- How many directories above the one in which a program runs the names begin; none for the root. -/
  above : Option Nat
  /-- The names on the way down. -/
  names : List String := []
  deriving DecidableEq, Repr, Inhabited

namespace Place

/-- The place from which a path is followed. -/
def start (path : String) : Place := ⟨if path.toList.head? = some '/' then none else some 0, []⟩

/-- The directory that a place is in; the root is in itself. -/
def parent (place : Place) : Place :=
  if place.names.isEmpty then ⟨place.above.map (· + 1), []⟩
  else ⟨place.above, place.names.dropLast⟩

/-- Where a part of a path leads from a directory. -/
def step (place : Place) (part : String) : Place :=
  if part = "." then place
  else if part = ".." then place.parent
  else ⟨place.above, place.names ++ [part]⟩

/-- Where a path leads. -/
def ofPath (path : String) : Place := (PathText.parts path).foldl step (start path)

/-- The places on a way of parts, both ends included. -/
def along (place : Place) : List String → List Place
  | [] => [place]
  | part :: rest => place :: (place.step part).along rest

/-- Whether a place is on the way down to another. -/
def holds (place other : Place) : Bool :=
  place.above = other.above && place.names.isPrefixOf other.names

/-- A path that leads to a place. -/
def path (place : Place) : String :=
  let start :=
    match place.above with
    | none => "/"
    | some count => "./" ++ String.join (List.replicate count "../")
  start ++ "/".intercalate place.names

end Place

end CompactGraph
