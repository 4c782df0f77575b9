/-
# JSON trees

The structure of a JSON document, put together from its tokens.  Numbers and strings are kept as they
are written, so that nothing is said yet about whether a number is in range or a string is text.
Containers that are still open are kept on a stack, which is as deep as the document asks for.
-/
import CompactGraph.Json.Token

namespace CompactGraph

/-- A JSON document as it is written. -/
inductive JsonTree where
  | null
  | boolean (value : Bool)
  | number (literal : NumberLiteral)
  | text (body : List UInt8)
  | array (elements : List JsonTree)
  /-- Keys and values in the order in which they are written. -/
  | object (members : List (List UInt8 × JsonTree))
  deriving Inhabited

namespace JsonTree

/-- A container that is not closed yet, with its content in reverse. -/
inductive Frame where
  | array (elements : List JsonTree)
  | object (members : List (List UInt8 × JsonTree))
  /-- An object that waits for the value of a key. -/
  | member (members : List (List UInt8 × JsonTree)) (key : List UInt8)

/-- What may come next. -/
inductive Stage where
  | value
  /-- A value, or the end of an array that is still empty. -/
  | firstElement
  | key
  /-- A key, or the end of an object that is still empty. -/
  | firstKey
  | colon
  /-- A comma or the end of the container; after the whole document, nothing. -/
  | next

/-- How far a document has been read. -/
structure Progress where
  stage : Stage := .value
  stack : List Frame := []
  /-- The document, once it is complete. -/
  complete : Option JsonTree := none

namespace Progress

/-- A value has been completed. -/
def accept (tree : JsonTree) : List Frame → Option Progress
  | [] => some ⟨.next, [], some tree⟩
  | .array elements :: stack => some ⟨.next, .array (tree :: elements) :: stack, none⟩
  | .member members key :: stack => some ⟨.next, .object ((key, tree) :: members) :: stack, none⟩
  | .object _ :: _ => none

/-- Begin a value. -/
def begin? (stack : List Frame) : JsonToken → Option Progress
  | .null => accept .null stack
  | .boolean value => accept (.boolean value) stack
  | .number literal => accept (.number literal) stack
  | .text body => accept (.text body) stack
  | .openArray => some ⟨.firstElement, .array [] :: stack, none⟩
  | .openObject => some ⟨.firstKey, .object [] :: stack, none⟩
  | _ => none

/-- Begin a member of an object. -/
def beginMember? : List Frame → JsonToken → Option Progress
  | .object members :: stack, .text key => some ⟨.colon, .member members key :: stack, none⟩
  | _, _ => none

/-- Close a container. -/
def close? : List Frame → JsonToken → Option Progress
  | .array elements :: stack, .closeArray => accept (.array elements.reverse) stack
  | .object members :: stack, .closeObject => accept (.object members.reverse) stack
  | _, _ => none

/-- Read on after a comma. -/
def continue? : List Frame → Option Progress
  | .array elements :: stack => some ⟨.value, .array elements :: stack, none⟩
  | .object members :: stack => some ⟨.key, .object members :: stack, none⟩
  | _ => none

/-- Read a token. -/
def read (progress : Progress) (token : JsonToken) : Option Progress :=
  let stack := progress.stack
  match progress.stage with
  | .value => begin? stack token
  | .firstElement => if token = .closeArray then close? stack token else begin? stack token
  | .key => beginMember? stack token
  | .firstKey => if token = .closeObject then close? stack token else beginMember? stack token
  | .colon => if token = .colon then some ⟨.value, stack, none⟩ else none
  | .next => if token = .comma then continue? stack else close? stack token

end Progress

/-- The document that tokens are of. -/
def ofTokens? (tokens : List JsonToken) : Option JsonTree :=
  (tokens.foldlM Progress.read {}).bind Progress.complete

/-- The document that bytes are of. -/
def ofBytes? (bytes : List UInt8) : Option JsonTree := JsonToken.scan bytes >>= ofTokens?

end JsonTree

end CompactGraph
