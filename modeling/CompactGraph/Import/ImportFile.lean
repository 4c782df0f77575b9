/-
# Import files

An import file is a JSON document with nodes and relationships.  Each of its records is an object, or
an array of the fields in order.  A relationship's properties may be anything at first; only scalars
are taken over into the store, and a null counts as no property at all.
-/
import CompactGraph.Error
import CompactGraph.Json.Value
import CompactGraph.Source.Record

namespace CompactGraph

/-- A relationship as it stands in an import file. -/
structure ImportRelationship where
  source : ExternalId
  target : ExternalId
  type : String
  /-- Of equal names the last one counts. -/
  properties : List (String × JsonValue) := []
  deriving Inhabited

/-- The content of an import file. -/
structure ImportFile where
  nodes : List NodeRecord := []
  relationships : List ImportRelationship := []
  deriving Inhabited

/-! ## Fields of a record -/

namespace JsonTree

/-- Add a field to those found before.  A field that occurs twice is refused, and so is one that is
not known, unless the record is open to such fields. -/
def addField? (known : List String) (isOpen : Bool) (found : List (String × JsonTree))
    (member : List UInt8 × JsonTree) : Option (List (String × JsonTree)) := do
  let name ← JsonText.decode? member.1
  if !known.contains name then (if isOpen then some found else none)
  else if found.any fun field => field.1 == name then none
  else some ((name, member.2) :: found)

/-- The known fields of a record.  In an array the fields stand in their usual order, and those at the
end may be left out. -/
def fields? (known : List String) (isOpen : Bool) : JsonTree → Option (List (String × JsonTree))
  | .object members => members.foldlM (addField? known isOpen) []
  | .array elements => if elements.length ≤ known.length then some (known.zip elements) else none
  | _ => none

/-- A field that has to be there. -/
def required? {α : Type} (fields : List (String × JsonTree)) (name : String)
    (read : JsonTree → Option α) : Option α := fields.lookup name >>= read

/-- A field that has a default. -/
def optional? {α : Type} (fields : List (String × JsonTree)) (name : String) (default : α)
    (read : JsonTree → Option α) : Option α :=
  match fields.lookup name with
  | some tree => read tree
  | none => some default

/-- The elements of an array. -/
def elements? {α : Type} (read : JsonTree → Option α) : JsonTree → Option (List α)
  | .array elements => elements.mapM read
  | _ => none

/-- An external id: an integer that fits into 64 bits and has no sign. -/
def id? : JsonTree → Option ExternalId
  | .number literal =>
    match literal.value? with
    | some (.natural value) => some ⟨value⟩
    | _ => none
  | _ => none

/-- A text. -/
def text? : JsonTree → Option String
  | .text body => JsonText.decode? body
  | _ => none

/-- How deep containers may be nested in a document. -/
def maxDepth : Nat := 127

/-- The properties of a relationship.  Four containers are open around each of them: the document, the
list, the relationship and the properties. -/
def properties? : JsonTree → Option (List (String × JsonValue))
  | .object members => JsonValue.ofMembers? (maxDepth - 4) members
  | _ => none

/-- A node.  Fields that are not known are passed over. -/
def node? (tree : JsonTree) : Option NodeRecord := do
  let fields ← tree.fields? ["id", "labels"] true
  let id ← required? fields "id" id?
  let labels ← optional? fields "labels" [] (elements? text?)
  return { id, labels }

/-- A relationship. -/
def relationship? (tree : JsonTree) : Option ImportRelationship := do
  let fields ← tree.fields? ["source", "target", "type", "properties"] false
  let source ← required? fields "source" id?
  let target ← required? fields "target" id?
  let type ← required? fields "type" text?
  let properties ← optional? fields "properties" [] properties?
  return { source, target, type, properties }

/-- A whole import file. -/
def importFile? (tree : JsonTree) : Option ImportFile := do
  let fields ← tree.fields? ["nodes", "relationships"] false
  let nodes ← optional? fields "nodes" [] (elements? node?)
  let relationships ← optional? fields "relationships" [] (elements? relationship?)
  return { nodes, relationships }

end JsonTree

/-! ## Records -/

/-- The property that a number stands for: an integer if it fits into 64 bits with a sign. -/
def JsonNumber.toProperty : JsonNumber → PropertyValue
  | .natural value =>
    if value.toNat < UInt64.size / 2 then .integer (Int64.ofNat value.toNat) else .float value.toFloat
  | .negative value => .integer value
  | .float value => .float value

/-- The property that a value stands for: none for null, and an error for a container. -/
def JsonValue.toProperty (name : String) : JsonValue → Except LoadError (Option PropertyValue)
  | .null => .ok none
  | .boolean value => .ok (some (.boolean value))
  | .number value => .ok (some value.toProperty)
  | .text value => .ok (some (.text value))
  | .array _ | .object _ => .error (.serialization (.propertyNotScalar name))

namespace ImportRelationship

/-- The properties with the names in ascending order, of equal names the last. -/
def settled (relationship : ImportRelationship) : List (String × JsonValue) :=
  relationship.properties.foldl (fun settled (name, value) => Properties.put name value settled) []

/-- Convert properties one after another. -/
def convert (properties : Properties) :
    List (String × JsonValue) → Except LoadError Properties
  | [] => .ok properties
  | (name, value) :: rest =>
    match value.toProperty name with
    | .error error => .error error
    | .ok none => convert properties rest
    | .ok (some value) => convert (properties.insert name value) rest

/-- The record that a relationship stands for. -/
def toRecord (relationship : ImportRelationship) : Except LoadError RelationshipRecord := do
  let properties ← convert Properties.empty relationship.settled
  return {
    source := relationship.source
    target := relationship.target
    type := relationship.type
    properties }

end ImportRelationship

namespace ImportFile

/-- The file that bytes are of. -/
def ofBytes (bytes : List UInt8) : Except LoadError ImportFile :=
  match JsonTree.ofBytes? bytes >>= JsonTree.importFile? with
  | some file => .ok file
  | none => .error (.serialization (.malformedImport "not a list of nodes and relationships"))

/-- The records of a file, in the order of the file. -/
def toRecords (file : ImportFile) : Except LoadError (List NodeRecord × List RelationshipRecord) := do
  let relationships ← file.relationships.mapM ImportRelationship.toRecord
  return (file.nodes, relationships)

end ImportFile

/-- Read the records that are written in an import file. -/
def readImport (bytes : List UInt8) : Except LoadError (List NodeRecord × List RelationshipRecord) :=
  ImportFile.ofBytes bytes >>= ImportFile.toRecords

end CompactGraph
