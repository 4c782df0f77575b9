/-
# Command lines

A command line consists of options, the name of a command, and the options of that command.  The value
of an option stands in the same argument, after an equals sign or right after the letter, or in the
next one.  A value in an argument of its own is looked at only when the next option has been found, so
that an unknown argument is reported before a bad value that stands in front of it.
-/
import CompactGraph.Command.CommandOption
import CompactGraph.Config.Layers

namespace CompactGraph

/-- What is to be done. -/
inductive Command where
  | init (force : Bool)
  | importRecords (file : String)
  | status
  | load (options : FlagOptions)
  | degree (node : ExternalId) (options : FlagOptions)
  | neighbors (node : ExternalId) (options : FlagOptions)
  deriving Repr, Inhabited

/-- A command with the options that every command has. -/
structure CommandLine where
  verbose : Bool
  quiet : Bool
  jsonMode : Bool
  database : String
  command : Command
  deriving Repr, Inhabited

/-- How far the arguments before or after the name of a command have been read. -/
structure Reading where
  given : List (CommandOption × String) := []
  /-- An option whose value has not been looked at yet, with the value once it is there. -/
  pending : Option (CommandOption × Option String) := none
  /-- Whether two dashes alone have been passed, after which nothing is an option. -/
  isLiteral : Bool := false

namespace Reading

/-- Take an option with its value. -/
def give (o : CommandOption) (value : String) (reading : Reading) : Except UsageProblem Reading :=
  match o with
  | .help => .error .helpRequested
  | .version => .error .versionRequested
  | _ =>
    if reading.given.any fun entry => entry.1 = o then .error (.repeated o)
    else do
      o.checkValue value
      return { reading with given := (o, value) :: reading.given }

/-- Look at the value of the pending option. -/
def settle (reading : Reading) : Except UsageProblem Reading :=
  match reading.pending with
  | none => .ok reading
  | some (o, none) => .error (.missingValue o)
  | some (o, some value) => give o value { reading with pending := none }

/-- Settle what is pending, then take an option with its value. -/
def take (o : CommandOption) (value : String) (reading : Reading) : Except UsageProblem Reading := do
  give o value (← settle reading)

/-- Settle what is pending, then wait for the value of an option. -/
def await (o : CommandOption) (reading : Reading) : Except UsageProblem Reading := do
  return { ← settle reading with pending := some (o, none) }

/-- The option that waits for a value. -/
def awaited? (reading : Reading) : Option CommandOption :=
  match reading.pending with
  | some (o, none) => some o
  | _ => none

/-- Read an argument after two dashes. -/
def takeLong (command : Option CommandName) (body : List Char) (reading : Reading) :
    Except UsageProblem Reading :=
  let name := String.ofList (body.takeWhile (· ≠ '='))
  let value := body.dropWhile (· ≠ '=')
  match (CommandOption.allowed command).find? fun o => o.long = name with
  | none => .error (.unknownArgument ("--" ++ name))
  | some o =>
    match value, o.takesValue with
    | [], true => reading.await o
    | [], false => reading.take o ""
    | _ :: value, true => reading.take o (String.ofList value)
    | _ :: _, false => .error (.valueForSwitch o)

/-- Read letters after one dash.  The first letter of an option with a value takes all that follows. -/
def takeLetters (command : Option CommandName) :
    List Char → Reading → Except UsageProblem Reading
  | [], reading => .ok reading
  | letter :: rest, reading =>
    match (CommandOption.allowed command).find? fun o => o.letter? = some letter with
    | none => .error (.unknownArgument (String.ofList ['-', letter]))
    | some o =>
      if o.takesValue then
        match rest with
        | [] => reading.await o
        | '=' :: value => reading.take o (String.ofList value)
        | value => reading.take o (String.ofList value)
      else
        match reading.take o "" with
        | .ok reading => takeLetters command rest reading
        | .error problem => .error problem

/-- Whether a word names a command, the one for help included. -/
def isCommandWord (word : String) : Bool := word = "help" || (CommandName.ofWord? word).isSome

/-- The answer to a request for help on a command. -/
def helpOn : List String → UsageProblem
  | [] => .helpRequested
  | [word] => if isCommandWord word then .helpRequested else .unknownCommand word
  | word :: next :: _ => .unknownCommand (if isCommandWord word then next else word)

/-- The problem with an argument that is neither an option nor a command. -/
def stray (command : Option CommandName) (isLiteral : Bool) (argument : String) : UsageProblem :=
  if command.isSome || (isLiteral && isCommandWord argument) then .unknownArgument argument
  else .unknownCommand argument

/-- Read arguments up to the name of a command, or all that come after one. -/
def read (command : Option CommandName) (reading : Reading) :
    List String → Except UsageProblem (Reading × Option (CommandName × List String))
  | [] => .ok (reading, none)
  | argument :: rest =>
    let mayName := !reading.isLiteral && reading.awaited?.isNone && command.isNone
    match CommandName.ofWord? argument, mayName with
    | some name, true => .ok (reading, some (name, rest))
    | _, _ =>
      if mayName && argument = "help" then .error (helpOn rest)
      else if reading.isLiteral then .error (stray command true argument)
      else if argument = "--" then read command { reading with isLiteral := true } rest
      else
        match argument.toList with
        | '-' :: '-' :: body =>
          match reading.takeLong command body with
          | .ok reading => read command reading rest
          | .error problem => .error problem
        | '-' :: letter :: body =>
          match reading.takeLetters command (letter :: body) with
          | .ok reading => read command reading rest
          | .error problem => .error problem
        | _ =>
          match reading.awaited? with
          | some o => read command { reading with pending := some (o, some argument) } rest
          | none => .error (stray command false argument)

/-- Whether an option was given. -/
def has (reading : Reading) (o : CommandOption) : Bool := reading.given.any fun entry => entry.1 = o

/-- The value of an option. -/
def value? (reading : Reading) (o : CommandOption) : Option String := reading.given.lookup o

/-- The number that is the value of an option. -/
def count? (reading : Reading) (o : CommandOption) : Option Nat :=
  reading.value? o >>= Decimal.natural?

/-- The options of a load. -/
def flags (reading : Reading) : FlagOptions where
  file := reading.value? .config
  nodeLabel := reading.value? .label
  relationshipType := reading.value? .relationshipType
  direction := reading.value? .direction >>= fun text => (Direction.ofText text).toOption
  undirected := reading.has .undirected
  weightProperty := reading.value? .weightProperty
  defaultWeight := reading.value? .defaultWeight >>= Decimal.ofText?
  policy := reading.value? .duplicates >>= fun text => (DuplicatePolicy.ofText text).toOption
  concurrency := reading.count? .concurrency
  minPartitionSize := reading.count? .minPartitionSize
  sizing := reading.value? .sizing >>= fun text => (Sizing.ofText text).toOption
  timeoutMs := reading.count? .timeoutMs

/-- The node that a command is about. -/
def node (reading : Reading) : ExternalId := ⟨((reading.count? .node).getD 0).toUInt64⟩

/-- The command with a name and the options read after it. -/
def command (reading : Reading) : CommandName → Command
  | .init => .init (reading.has .force)
  | .importRecords => .importRecords ((reading.value? .file).getD "")
  | .status => .status
  | .load => .load reading.flags
  | .degree => .degree reading.node reading.flags
  | .neighbors => .neighbors reading.node reading.flags

/-- Read the arguments after the name of a command. -/
def ofCommand (name : CommandName) (arguments : List String) : Except UsageProblem Reading := do
  let (reading, _) ← read (some name) {} arguments
  let reading ← settle reading
  match (CommandOption.required name).find? fun o => !reading.has o with
  | some o => throw (.missingOption o)
  | none => return reading

end Reading

/-- The file that a command reads besides the database. -/
def Command.file? : Command → Option String
  | init _ | status => none
  | importRecords file => some file
  | load options | degree _ options | neighbors _ options => options.file

namespace CommandLine

/-- The files that a command line is about. -/
def paths (line : CommandLine) : List String := line.database :: line.command.file?.toList

/-- The database that is used when none is named. -/
def defaultDatabase : String := "graphload.redb"

/-- The command line made of what stands before and after the name of the command.  Of two databases
the one after the name counts. -/
def ofReadings (before after : Reading) (command : Command) : CommandLine where
  verbose := before.has .verbose || after.has .verbose
  quiet := before.has .quiet || after.has .quiet
  jsonMode := before.has .jsonMode || after.has .jsonMode
  database := ((after.value? .database) <|> (before.value? .database)).getD defaultDatabase
  command

/-- Read the arguments of a program.  Without the name of a command, the status is asked for. -/
def ofArguments (arguments : List String) : Except UsageProblem CommandLine := do
  let (before, found) ← Reading.read none {} arguments
  match found with
  | none =>
    let before ← before.settle
    return ofReadings before {} .status
  | some (name, rest) =>
    let after ← Reading.ofCommand name rest
    let before ← before.settle
    return ofReadings before after (after.command name)

end CommandLine

end CompactGraph
