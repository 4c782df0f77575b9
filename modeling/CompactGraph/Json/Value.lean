/-
# JSON values

The meaning of a JSON document: numbers have values, strings are text, and nothing is nested too
deeply.  Members of an object keep their order, and of equal keys each is still there.
-/
import CompactGraph.Json.Text
import CompactGraph.Json.Tree

namespace CompactGraph

/-- A value written in JSON. -/
inductive JsonValue where
  | null
  | boolean (value : Bool)
  | number (value : JsonNumber)
  | text (value : String)
  | array (elements : List JsonValue)
  | object (members : List (String × JsonValue))
  deriving Inhabited

namespace JsonValue

/-- Whether a value is no container. -/
def isScalar : JsonValue → Bool
  | array _ | object _ => false
  | _ => true

mutual

/-- The value of a tree in which containers are nested `depth` deep at most. -/
def ofTree? (depth : Nat) : JsonTree → Option JsonValue
  | .null => some .null
  | .boolean value => some (.boolean value)
  | .number literal => literal.value?.map .number
  | .text body => (JsonText.decode? body).map .text
  | .array elements =>
    match depth with
    | 0 => none
    | depth + 1 => (ofElements? depth elements).map .array
  | .object members =>
    match depth with
    | 0 => none
    | depth + 1 => (ofMembers? depth members).map .object

/-- The values of the elements of an array. -/
def ofElements? (depth : Nat) : List JsonTree → Option (List JsonValue)
  | [] => some []
  | tree :: rest => do
    let value ← ofTree? depth tree
    return value :: (← ofElements? depth rest)

/-- The keys and values of an object. -/
def ofMembers? (depth : Nat) : List (List UInt8 × JsonTree) → Option (List (String × JsonValue))
  | [] => some []
  | (key, tree) :: rest => do
    let key ← JsonText.decode? key
    let value ← ofTree? depth tree
    return (key, value) :: (← ofMembers? depth rest)

end

end JsonValue

end CompactGraph
