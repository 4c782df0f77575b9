/-
# Configuration files

A configuration file is a TOML document that names options of a load.  A name that is not an option is
refused, and so is a value of the wrong kind; a whole number may stand for a weight.
-/
import CompactGraph.Config.Layers
import CompactGraph.Toml.Document

namespace CompactGraph

namespace Toml.Scalar

/-- A text. -/
def text? : Scalar → Option String
  | text value => some value
  | _ => none

/-- A truth value. -/
def boolean? : Scalar → Option Bool
  | boolean value => some value
  | _ => none

/-- A number that counts something. -/
def count? : Scalar → Option Nat
  | integer value => if 0 ≤ value then some value.toNat else none
  | _ => none

/-- A weight. -/
def weight? : Scalar → Option Float
  | float value => some value
  | integer value =>
    some (if value ≤ Int64.maxValue.toInt then (Int64.ofInt value).toFloat else value.toNat.toUInt64.toFloat)
  | _ => none

end Toml.Scalar

namespace FileOptions

/-- Set the option with a name. -/
def set? (options : FileOptions) (pair : String × Toml.Scalar) : Option FileOptions :=
  let value := pair.2
  match pair.1 with
  | "node_label" => value.text?.map fun value => { options with nodeLabel := some value }
  | "relationship_type" => value.text?.map fun value => { options with relationshipType := some value }
  | "direction" => value.text?.map fun value => { options with direction := some value }
  | "undirected" => value.boolean?.map fun value => { options with undirected := some value }
  | "weight_property" => value.text?.map fun value => { options with weightProperty := some value }
  | "default_weight" => value.weight?.map fun value => { options with defaultWeight := some value }
  | "duplicate_strategy" =>
    value.text?.map fun value => { options with duplicateStrategy := some value }
  | "concurrency" => value.count?.map fun value => { options with concurrency := some value }
  | "min_partition_size" => value.count?.map fun value => { options with minPartitionSize := some value }
  | "sizing" => value.text?.map fun value => { options with sizing := some value }
  | "timeout_ms" => value.count?.map fun value => { options with timeoutMs := some value }
  | _ => none

/-- The options that a text names. -/
def ofText? (text : String) : Option FileOptions := do
  let pairs ← Toml.document? text
  pairs.foldlM set? {}

/-- The options that the bytes of a file name. -/
def ofBytes (bytes : List UInt8) : Except LoadError FileOptions :=
  match String.fromUTF8? ⟨bytes.toArray⟩ with
  | none => .error (.configuration (.fileNotUtf8 "invalid byte sequence"))
  | some text =>
    match ofText? text with
    | some options => .ok options
    | none => .error (.configuration (.fileMalformed "not a list of load options"))

end FileOptions

end CompactGraph
