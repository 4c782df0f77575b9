/-
# Load configurations

What to load and how: filters on nodes and relationships, the direction, where weights come from, and
how the work is shared out.  A configuration is checked as a whole before anything is read.
-/
import CompactGraph.Error
import CompactGraph.Text.Blank

namespace CompactGraph

/-- How room for adjacency lists is found. -/
inductive Sizing where
  /-- Count degrees first, then fill regions of exactly that size. -/
  | exact
  /-- Let the lists grow while they are read. -/
  | growable
  deriving DecidableEq, Repr, Inhabited

namespace Sizing

/-- The name by which a sizing is printed and recognised. -/
def name : Sizing → String
  | exact => "exact"
  | growable => "growable"

/-- The sizing that a normalised word stands for. -/
def ofWord? : String → Option Sizing
  | "exact" | "two-pass" => some exact
  | "growable" | "single-pass" => some growable
  | _ => none

end Sizing

/-- Read an option's word by its normal form; an unknown word is reported in that form. -/
def readWord {α : Type} (ofWord? : String → Option α) (unknown : String → ConfigProblem)
    (text : String) : Except LoadError α :=
  match ofWord? (normalizeWord text) with
  | some value => .ok value
  | none => .error (.configuration (unknown (normalizeWord text)))

/-- The direction that a text names. -/
def Direction.ofText : String → Except LoadError Direction :=
  readWord Direction.ofWord? .unknownDirection

/-- The duplicate policy that a text names. -/
def DuplicatePolicy.ofText : String → Except LoadError DuplicatePolicy :=
  readWord DuplicatePolicy.ofWord? .unknownPolicy

/-- The sizing that a text names. -/
def Sizing.ofText : String → Except LoadError Sizing := readWord Sizing.ofWord? .unknownSizing

/-- The options of a load. -/
structure LoadConfig where
  /-- Only nodes with this label are loaded. -/
  nodeLabel : Option String := none
  /-- Only relationships of this type are loaded. -/
  relationshipType : Option String := none
  direction : Direction := .outgoing
  /-- Whether both directions are merged into one list per node. -/
  undirected : Bool := false
  /-- The property that holds the weight; without one the graph is unweighted. -/
  weightProperty : Option String := none
  /-- The weight of a relationship whose property is missing or not a finite number. -/
  defaultWeight : Float := 0
  policy : DuplicatePolicy := .keepFirst
  /-- How many workers share the load; `none` leaves it to the machine. -/
  concurrency : Option Nat := none
  minPartitionSize : Nat := 1
  sizing : Sizing := .exact
  timeout : Option Duration := none
  deriving Repr, Inhabited

namespace LoadConfig

/-! ## Setting one option -/

/-- Load only nodes with a label. -/
def withLabel (label : String) (config : LoadConfig) : LoadConfig :=
  { config with nodeLabel := some label }

/-- Load only relationships of a type. -/
def withRelationshipType (type : String) (config : LoadConfig) : LoadConfig :=
  { config with relationshipType := some type }

/-- Choose the direction. -/
def withDirection (direction : Direction) (config : LoadConfig) : LoadConfig :=
  { config with direction }

/-- Merge both directions into one list per node, which takes both of them. -/
def withUndirected (config : LoadConfig) : LoadConfig :=
  { config with undirected := true, direction := .both }

/-- Read weights from a property. -/
def withWeightProperty (property : String) (config : LoadConfig) : LoadConfig :=
  { config with weightProperty := some property }

/-- Choose the weight of relationships that hold none. -/
def withDefaultWeight (weight : Float) (config : LoadConfig) : LoadConfig :=
  { config with defaultWeight := weight }

/-- Choose what becomes of parallel relationships. -/
def withPolicy (policy : DuplicatePolicy) (config : LoadConfig) : LoadConfig :=
  { config with policy }

/-- Share the load among this many workers. -/
def withConcurrency (workers : Nat) (config : LoadConfig) : LoadConfig :=
  { config with concurrency := some workers }

/-- Give each worker at least this many nodes. -/
def withMinPartitionSize (size : Nat) (config : LoadConfig) : LoadConfig :=
  { config with minPartitionSize := size }

/-- Choose how room for adjacency lists is found. -/
def withSizing (sizing : Sizing) (config : LoadConfig) : LoadConfig := { config with sizing }

/-- Give up once the load takes longer than this. -/
def withTimeout (limit : Duration) (config : LoadConfig) : LoadConfig :=
  { config with timeout := some limit }

/-- Set an option if there is a value for it. -/
def setting {α : Type} (value : Option α) (set : α → LoadConfig → LoadConfig)
    (config : LoadConfig) : LoadConfig :=
  match value with
  | some value => set value config
  | none => config

/-! ## Checking -/

/-- Whether weights are read. -/
def isWeighted (config : LoadConfig) : Bool := config.weightProperty.isSome

/-- How many workers there are on a machine that has `machine` of them to give. -/
def workers (config : LoadConfig) (machine : Nat) : Nat := config.concurrency.getD (max machine 1)

/-- Refuse a name made of white space only. -/
def checkName (option : NameOption) (name : Option String) : Except LoadError Unit :=
  if name.any isBlankText then .error (.configuration (.blankName option)) else .ok ()

/-- Check the options; the first problem is reported. -/
def validate (config : LoadConfig) : Except LoadError Unit := do
  if config.concurrency = some 0 then throw (.configuration .noWorkers)
  if config.minPartitionSize = 0 then throw (.configuration .noPartitionSize)
  if !config.defaultWeight.isFinite then
    throw (.configuration (.weightNotFinite config.defaultWeight))
  checkName .nodeLabel config.nodeLabel
  checkName .relationshipType config.relationshipType
  checkName .weightProperty config.weightProperty
  if config.undirected && config.direction != .both then
    throw (.configuration (.needsBothDirections config.direction))
  if config.timeout = some ⟨0⟩ then throw (.configuration .noTime)

end LoadConfig

end CompactGraph
