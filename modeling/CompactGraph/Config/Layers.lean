/-
# Configuration layers

A load configuration is put together from up to three layers: the defaults, the options written in a
file, and the options given as flags.  A later layer wins option by option.  Asking for an undirected
load also asks for both directions, unless the same layer names a direction itself.
-/
import CompactGraph.Config

namespace CompactGraph

/-- Options as written in a file: words are not looked at yet. -/
structure FileOptions where
  nodeLabel : Option String := none
  relationshipType : Option String := none
  direction : Option String := none
  undirected : Option Bool := none
  weightProperty : Option String := none
  defaultWeight : Option Float := none
  duplicateStrategy : Option String := none
  concurrency : Option Nat := none
  minPartitionSize : Option Nat := none
  sizing : Option String := none
  timeoutMs : Option Nat := none
  deriving Repr, Inhabited

/-- Options given as flags; words have been read. -/
structure FlagOptions where
  /-- The file that holds further options. -/
  file : Option String := none
  nodeLabel : Option String := none
  relationshipType : Option String := none
  direction : Option Direction := none
  undirected : Bool := false
  weightProperty : Option String := none
  defaultWeight : Option Float := none
  policy : Option DuplicatePolicy := none
  concurrency : Option Nat := none
  minPartitionSize : Option Nat := none
  sizing : Option Sizing := none
  timeoutMs : Option Nat := none
  deriving Repr, Inhabited

namespace FlagOptions

/-- Lay flags over a configuration.  The undirected flag goes first, so that a direction flag still
has its say. -/
def layOver (flags : FlagOptions) (base : LoadConfig) : LoadConfig :=
  base
    |>.setting flags.nodeLabel .withLabel
    |>.setting flags.relationshipType .withRelationshipType
    |> (fun config => if flags.undirected then config.withUndirected else config)
    |>.setting flags.direction .withDirection
    |>.setting flags.weightProperty .withWeightProperty
    |>.setting flags.defaultWeight .withDefaultWeight
    |>.setting flags.policy .withPolicy
    |>.setting flags.concurrency .withConcurrency
    |>.setting flags.minPartitionSize .withMinPartitionSize
    |>.setting flags.sizing .withSizing
    |>.setting (flags.timeoutMs.map Duration.ofMilliseconds) .withTimeout

end FlagOptions

namespace FileOptions

/-- Read a word if there is one. -/
def readWord? {α : Type} (read : String → Except LoadError α) :
    Option String → Except LoadError (Option α)
  | none => .ok none
  | some text => some <$> read text

/-- The configuration that a file describes: its options over the defaults, checked as a whole.  The
first word that is not known is reported before anything else. -/
def toConfig (file : FileOptions) : Except LoadError LoadConfig := do
  let config : LoadConfig := {
    nodeLabel := file.nodeLabel
    relationshipType := file.relationshipType
    weightProperty := file.weightProperty }
  let config := if file.undirected == some true then config.withUndirected else config
  let config := config.setting (← readWord? Direction.ofText file.direction) .withDirection
  let config := config.setting file.defaultWeight .withDefaultWeight
  let config := config.setting (← readWord? DuplicatePolicy.ofText file.duplicateStrategy) .withPolicy
  let config := config.setting file.concurrency .withConcurrency
  let config := config.setting file.minPartitionSize .withMinPartitionSize
  let config := config.setting (← readWord? Sizing.ofText file.sizing) .withSizing
  let config := config.setting (file.timeoutMs.map Duration.ofMilliseconds) .withTimeout
  config.validate
  return config

end FileOptions

/-- The configuration of a load: flags over the file, if there is one, or over the defaults. -/
def layeredConfig (file : Option FileOptions) (flags : FlagOptions) :
    Except LoadError LoadConfig := do
  let base ←
    match file with
    | some options => options.toConfig
    | none => pure {}
  let config := flags.layOver base
  config.validate
  return config

end CompactGraph
