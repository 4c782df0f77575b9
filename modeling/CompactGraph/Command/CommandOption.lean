/-
# Commands and their options

Every command has a name, and every option has a long name after two dashes and in most cases a letter
after one.  Some options are switches, the others take a value of some kind.
-/
import CompactGraph.Config
import CompactGraph.Decimal.Nearest

namespace CompactGraph

/-- The names of the commands. -/
inductive CommandName where
  | init
  | importRecords
  | status
  | load
  | degree
  | neighbors
  deriving DecidableEq, Repr, Inhabited

/-- The command that a word names. -/
def CommandName.ofWord? : String → Option CommandName
  | "init" => some init
  | "import" => some importRecords
  | "status" => some status
  | "load" => some load
  | "degree" => some degree
  | "neighbors" => some neighbors
  | _ => none

/-- The options of all commands. -/
inductive CommandOption where
  | verbose
  | quiet
  | database
  | jsonMode
  | help
  | version
  | force
  | file
  | node
  | config
  | label
  | relationshipType
  | direction
  | undirected
  | weightProperty
  | defaultWeight
  | duplicates
  | concurrency
  | minPartitionSize
  | sizing
  | timeoutMs
  deriving DecidableEq, Repr, Inhabited

/-- What follows an option. -/
inductive ValueKind where
  /-- Nothing: the option is a switch. -/
  | switch
  | text
  | path
  | direction
  | policy
  | sizing
  /-- A number below `2 ^ 64`. -/
  | count
  /-- A floating-point number. -/
  | weight
  deriving DecidableEq, Repr, Inhabited

namespace CommandOption

/-- The name of an option after two dashes. -/
def long : CommandOption → String
  | verbose => "verbose"
  | quiet => "quiet"
  | database => "database"
  | jsonMode => "json-mode"
  | help => "help"
  | version => "version"
  | force => "force"
  | file => "file"
  | node => "node"
  | config => "config"
  | label => "label"
  | relationshipType => "relationship-type"
  | direction => "direction"
  | undirected => "undirected"
  | weightProperty => "weight-property"
  | defaultWeight => "default-weight"
  | duplicates => "duplicates"
  | concurrency => "concurrency"
  | minPartitionSize => "min-partition-size"
  | sizing => "sizing"
  | timeoutMs => "timeout-ms"

/-- The letter of an option after one dash. -/
def letter? : CommandOption → Option Char
  | verbose => some 'v'
  | quiet => some 'q'
  | database => some 'D'
  | help => some 'h'
  | version => some 'V'
  | force => some 'f'
  | file => some 'f'
  | node => some 'n'
  | config => some 'c'
  | label => some 'l'
  | relationshipType => some 't'
  | direction => some 'd'
  | undirected => some 'u'
  | weightProperty => some 'w'
  | _ => none

/-- What follows an option. -/
def valueKind : CommandOption → ValueKind
  | verbose | quiet | jsonMode | help | version | force | undirected => .switch
  | database | file | config => .path
  | label | relationshipType | weightProperty => .text
  | direction => .direction
  | duplicates => .policy
  | sizing => .sizing
  | node | concurrency | minPartitionSize | timeoutMs => .count
  | defaultWeight => .weight

/-- Whether a value follows. -/
def takesValue (o : CommandOption) : Bool := o.valueKind != .switch

/-- The options that may stand before and after the name of a command. -/
def everywhere : List CommandOption := [verbose, quiet, database, jsonMode, help]

/-- The options of commands that load a graph. -/
def ofLoads : List CommandOption :=
  [config, label, relationshipType, direction, undirected, weightProperty, defaultWeight, duplicates,
    concurrency, minPartitionSize, sizing, timeoutMs]

/-- The options that may stand after the name of a command, or before it when there is none yet. -/
def allowed : Option CommandName → List CommandOption
  | none => everywhere ++ [version]
  | some .init => everywhere ++ [force]
  | some .importRecords => everywhere ++ [file]
  | some .status => everywhere
  | some .load => everywhere ++ ofLoads
  | some .degree | some .neighbors => everywhere ++ node :: ofLoads

/-- The options that have to be given. -/
def required : CommandName → List CommandOption
  | .importRecords => [file]
  | .degree | .neighbors => [node]
  | _ => []

end CommandOption

/-- Why a command line is not understood, or what it asks for instead of a command. -/
inductive UsageProblem where
  | unknownArgument (argument : String)
  | unknownCommand (word : String)
  | missingOption (missing : CommandOption)
  | missingValue (of : CommandOption)
  | badValue (of : CommandOption) (value : String)
  | repeated (twice : CommandOption)
  | valueForSwitch (switch : CommandOption)
  | helpRequested
  | versionRequested
  deriving DecidableEq, Repr, Inhabited

namespace ValueKind

/-- Whether a text is a value of a kind. -/
def accepts (kind : ValueKind) (value : String) : Bool :=
  match kind with
  | switch | text | path => true
  | direction => (Direction.ofText value).toOption.isSome
  | policy => (DuplicatePolicy.ofText value).toOption.isSome
  | sizing => (Sizing.ofText value).toOption.isSome
  | count => (Decimal.natural? value).isSome
  | weight => (Decimal.ofText? value).isSome

end ValueKind

/-- Check the value of an option.  An empty path counts as no value. -/
def CommandOption.checkValue (o : CommandOption) (value : String) : Except UsageProblem Unit :=
  if o.valueKind = .path ∧ value = "" then .error (.missingValue o)
  else if o.valueKind.accepts value then .ok ()
  else .error (.badValue o value)

end CompactGraph
