/-
# Errors

What can go wrong while a graph is stored, loaded or asked about.  Every error is a cause; its
wording is a function of the cause, so that two errors print alike only if they say the same thing.
-/
import CompactGraph.Node
import CompactGraph.Direction
import CompactGraph.Duplicates
import CompactGraph.Duration
import CompactGraph.Text.Quoted

namespace CompactGraph

/-- The named options whose value is the name of something in the store. -/
inductive NameOption where
  | nodeLabel
  | relationshipType
  | weightProperty
  deriving DecidableEq, Repr, Inhabited

/-- How an option is called in a message. -/
def NameOption.text : NameOption → String
  | nodeLabel => "node label"
  | relationshipType => "relationship type"
  | weightProperty => "weight property"

/-- A number that is not finite, in words. -/
def nonFiniteText (x : Float) : String :=
  if x.isNaN then "NaN" else if x < 0 then "-inf" else "inf"

/-- A request that cannot be met whatever the store holds. -/
inductive ConfigProblem where
  | noWorkers
  | noPartitionSize
  | weightNotFinite (weight : Float)
  | blankName (option : NameOption)
  | needsBothDirections (direction : Direction)
  | noTime
  | unknownDirection (word : String)
  | unknownPolicy (word : String)
  | unknownSizing (word : String)
  | mixedPolicies (arriving stored : DuplicatePolicy)
  | fileNotUtf8 (detail : String)
  | fileMalformed (detail : String)
  | databaseExists
  | nodeNotLoaded (node : ExternalId)
  deriving Repr, Inhabited

def ConfigProblem.text : ConfigProblem → String
  | noWorkers => "concurrency must be at least 1"
  | noPartitionSize => "min_partition_size must be at least 1"
  | weightNotFinite weight => s!"default weight must be finite, got {nonFiniteText weight}"
  | blankName option => s!"{option.text} must not be empty"
  | needsBothDirections direction =>
    s!"an undirected load scans both directions, got direction '{direction.name}'"
  | noTime => "timeout must be greater than zero"
  | unknownDirection word => s!"unsupported direction '{word}'"
  | unknownPolicy word => s!"unsupported duplicate relationships strategy '{word}'"
  | unknownSizing word => s!"unsupported adjacency sizing '{word}'"
  | mixedPolicies arriving stored =>
    s!"cannot merge weights resolved with '{arriving.name}' " ++
      s!"into weights resolved with '{stored.name}'"
  | fileNotUtf8 detail => s!"Config is not UTF-8: {detail}"
  | fileMalformed detail => s!"Invalid config: {detail}"
  | databaseExists => "Database already exists. Use --force to overwrite."
  | nodeNotLoaded node => s!"Node {node} is not part of the loaded graph"

/-- Why a store cannot be read. -/
inductive Unavailability where
  | closed
  | databaseMissing (path : String)
  | reported (reason : String)
  deriving Repr, Inhabited

def Unavailability.text : Unavailability → String
  | closed => "in-memory source was closed"
  | databaseMissing path => s!"Database {quoted path} not found. Run `graphload init` first."
  | reported reason => reason

/-- A number that outgrew the space kept for it. -/
inductive CapacityProblem where
  | tooManyNodes
  | offsetsOverflow
  | tooManyTargets (count : Nat)
  deriving DecidableEq, Repr, Inhabited

def CapacityProblem.text : CapacityProblem → String
  | tooManyNodes => s!"more than {maxNodeCount} nodes"
  | offsetsOverflow => "adjacency offsets overflow"
  | tooManyTargets count => s!"{count} targets do not fit into one array"

/-- Two facts that cannot both hold of one store or one graph. -/
inductive Inconsistency where
  | missingNode (source target : ExternalId)
  | missingEndpoint (source target endpoint : ExternalId)
  | unknownRelationship (id : Nat)
  | degreeExceeded (node : ExternalId) (found : Nat) (direction : Direction) (reported : Nat)
  | degreeSum (sum written : Nat)
  | listCovers (covered mapped : Nat)
  | nodeNotMapped (index : Nat)
  | regionOverrun
  | noExternalId (node : NodeId)
  deriving Repr, Inhabited

def Inconsistency.text : Inconsistency → String
  | missingNode source target => s!"relationship {source} -> {target} references a missing node"
  | missingEndpoint source target endpoint =>
    s!"relationship {source} -> {target} references missing node {endpoint}"
  | unknownRelationship id => s!"unknown relationship {id}"
  | degreeExceeded node found direction reported =>
    s!"node {node} has {found} {direction.name} relationships but reported degree {reported}"
  | degreeSum sum written => s!"degrees sum to {sum} but {written} targets were written"
  | listCovers covered mapped => s!"adjacency covers {covered} nodes, id map holds {mapped}"
  | nodeNotMapped index => s!"node {index} is not mapped"
  | regionOverrun => "partition wrote past its reserved region"
  | noExternalId node => s!"internal id {node.text} has no external id"

/-- What went wrong with a file or with the device under a store. -/
inductive IoProblem where
  | badPath (path : String) (reason : String)
  | notRegularFile (path : String)
  | tooLarge (size limit : Nat)
  | cannotRemove (reason : String)
  | cannotOpen (reason : String)
  | snapshotsHeld
  | reported (reason : String)
  deriving Repr, Inhabited

def IoProblem.text : IoProblem → String
  | badPath path reason => s!"Invalid file path '{path}': {reason}"
  | notRegularFile path => s!"Path '{path}' is not a regular file"
  | tooLarge size limit => s!"File size {size} bytes exceeds maximum allowed {limit} bytes"
  | cannotRemove reason => s!"Remove database: {reason}"
  | cannotOpen reason => s!"I/O error: {reason}"
  | snapshotsHeld => "snapshots of the store are still held"
  | reported reason => reason

/-- A record that cannot be turned into a stored one. -/
inductive RecordProblem where
  | malformedImport (detail : String)
  | propertyNotScalar (name : String)
  | reported (reason : String)
  deriving Repr, Inhabited

def RecordProblem.text : RecordProblem → String
  | malformedImport detail => s!"Invalid import file: {detail}"
  | propertyNotScalar name => s!"Property '{name}' must be a scalar"
  | reported reason => reason

/-- Everything that ends a load or an operation on a store early. -/
inductive LoadError where
  | configuration (problem : ConfigProblem)
  | sourceUnavailable (reason : Unavailability)
  /-- The partition with this number failed for the given cause. -/
  | partitionFailed (partition : Nat) (cause : LoadError)
  /-- Two weights met under `DuplicatePolicy.reject`. -/
  | duplicateRelationship (source target : NodeId)
  | capacityExceeded (problem : CapacityProblem)
  | sourceInconsistent (finding : Inconsistency)
  | timeout (limit : Duration)
  /-- Another partition failed first. -/
  | aborted
  | io (problem : IoProblem)
  | serialization (problem : RecordProblem)
  deriving Repr, Inhabited

namespace LoadError

/-- The wording of an error. -/
def message : LoadError → String
  | configuration problem => s!"Configuration error: {problem.text}"
  | sourceUnavailable reason => s!"Source unavailable: {reason.text}"
  | partitionFailed partition cause => s!"Partition {partition} failed: {cause.message}"
  | duplicateRelationship source target =>
    s!"Duplicate relationship {source.text} -> {target.text} with duplicate strategy 'none'"
  | capacityExceeded problem => s!"Capacity exceeded: {problem.text}"
  | sourceInconsistent finding => s!"Source inconsistent: {finding.text}"
  | timeout limit => s!"Load timed out after {limit.text}"
  | aborted => "Aborted"
  | io problem => s!"I/O error: {problem.text}"
  | serialization problem => s!"Serialization error: {problem.text}"

/-- The error that started a failure, without the partitions it passed through. -/
def rootCause : LoadError → LoadError
  | partitionFailed _ cause => cause.rootCause
  | error => error

/-- Whether the error only says that somebody else failed. -/
def isAborted : LoadError → Bool
  | aborted => true
  | _ => false

end LoadError

end CompactGraph
