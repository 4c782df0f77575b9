/-
# Id maps

An id map is a bijection between the external ids of the loaded nodes and the dense numbers
`0 … nodeCount - 1`.  Numbers are handed out in order of first occurrence.  The way back is an array;
the way forth is an array of pages when the external ids lie close together, and a hash index when
they are spread far apart.  Both answer alike.
-/
import Std.Data.HashMap
import CompactGraph.Error

namespace CompactGraph

/-- External ids per page. -/
def pageSize : Nat := 4096

/-- Ranges of external ids below this bound are always paged. -/
def alwaysPagedBelow : Nat := 65536

/-- Above it, at most this many external ids per node may be covered by pages. -/
def maxIdSpread : Nat := 64

/-- An array over external ids cut into pages of `pageSize` places, of which only those that hold a
node are kept. -/
structure PageTable where
  pages : Array (Option (Array NodeId))

namespace PageTable

/-- The page of an external id. -/
def pageOf (id : ExternalId) : Nat := id.val.toNat / pageSize

/-- The place of an external id in its page. -/
def slotOf (id : ExternalId) : Nat := id.val.toNat % pageSize

/-- A page without nodes. -/
def blankPage : Array NodeId := Array.replicate pageSize NodeId.unmapped

/-- Pages for every external id up to `highest`, none of them kept yet. -/
def upTo (highest : ExternalId) : PageTable := ⟨Array.replicate (pageOf highest + 1) none⟩

/-- Put a node at an external id; an id beyond the last page is ignored. -/
def set (table : PageTable) (id : ExternalId) (node : NodeId) : PageTable :=
  ⟨table.pages.modify (pageOf id) fun page =>
    some ((page.getD blankPage).setIfInBounds (slotOf id) node)⟩

/-- The node at an external id. -/
def get (table : PageTable) (id : ExternalId) : NodeId :=
  match table.pages[pageOf id]? with
  | some (some page) => page[slotOf id]?.getD NodeId.unmapped
  | _ => NodeId.unmapped

/-- How many pages are kept. -/
def keptPages (table : PageTable) : Nat := table.pages.countP Option.isSome

end PageTable

/-- The way from external ids to nodes. -/
inductive ForwardIndex where
  | paged (table : PageTable)
  | hashed (index : Std.HashMap ExternalId NodeId)

/-- A frozen bijection between external ids and the numbers below `nodeCount`. -/
structure IdMap where
  externals : Array ExternalId
  forward : ForwardIndex
  highest : ExternalId
  /-- External ids for which room was set aside. -/
  capacity : Nat

namespace IdMap

/-- An id map under construction. -/
structure Builder where
  externals : Array ExternalId := #[]
  index : Std.HashMap ExternalId NodeId := {}
  highest : ExternalId := ⟨0⟩
  capacity : Nat := 0

namespace Builder

/-- No node yet. -/
def empty : Builder := {}

/-- No node yet, and room for `capacity` of them. -/
def withCapacity (capacity : Nat) : Builder := { empty with capacity }

/-- How many nodes were added. -/
def size (builder : Builder) : Nat := builder.externals.size

/-- Whether no node was added. -/
def isEmpty (builder : Builder) : Bool := builder.externals.isEmpty

/-- The number of a node, which is handed out if the node is new. -/
def add (id : ExternalId) : EStateM LoadError Builder NodeId := fun builder =>
  match builder.index[id]? with
  | some node => .ok node builder
  | none =>
    if builder.size ≥ maxNodeCount then .error (.capacityExceeded .tooManyNodes) builder
    else
      let node := NodeId.ofIndex builder.size
      .ok node
        { builder with
          externals := builder.externals.push id
          index := builder.index.insert id node
          highest := if builder.highest.val < id.val then id else builder.highest }

/-- The numbers of nodes, one after another. -/
def addAll (ids : List ExternalId) : EStateM LoadError Builder (List NodeId) := ids.mapM add

/-- Whether the external ids lie close enough together for pages. -/
def isDense (builder : Builder) : Bool :=
  builder.highest.val.toNat < alwaysPagedBelow
    || builder.highest.val.toNat / maxIdSpread < builder.size

/-- The page table that holds every node at its external id. -/
def pageTable (builder : Builder) : PageTable :=
  builder.externals.zipIdx.foldl (fun table (id, index) => table.set id (NodeId.ofIndex index))
    (PageTable.upTo builder.highest)

/-- Freeze the nodes added so far. -/
def build (builder : Builder) : IdMap where
  externals := builder.externals
  forward := if builder.isDense then .paged builder.pageTable else .hashed builder.index
  highest := builder.highest
  capacity := max builder.capacity builder.size

end Builder

/-- The id map of a list of external ids. -/
def ofIds (ids : List ExternalId) : Except LoadError IdMap :=
  match Builder.addAll ids .empty with
  | .ok _ builder => .ok builder.build
  | .error error _ => .error error

/-- How many nodes are mapped. -/
def nodeCount (map : IdMap) : Nat := map.externals.size

/-- The node of an external id, or `NodeId.unmapped`. -/
def toMapped (map : IdMap) (id : ExternalId) : NodeId :=
  if map.highest.val < id.val || map.externals.isEmpty then NodeId.unmapped
  else
    match map.forward with
    | .paged table => table.get id
    | .hashed index => index.getD id NodeId.unmapped

/-- The external id of a node; `none` for numbers that no node has. -/
def toExternal (map : IdMap) (node : NodeId) : Option ExternalId := map.externals[node.index]?

/-- Whether an external id is mapped. -/
def contains (map : IdMap) (id : ExternalId) : Bool := (map.toMapped id).isMapped

/-- Whether the way forth is an array of pages. -/
def isPaged (map : IdMap) : Bool :=
  match map.forward with
  | .paged _ => true
  | .hashed _ => false

/-- The bytes that the arrays of the map take: eight for each external id, sixteen for each page and
four for each place of a kept page; a hash index is counted by its entries. -/
def memoryUsage (map : IdMap) : Nat :=
  8 * map.capacity +
    match map.forward with
    | .paged table => 16 * table.pages.size + 4 * pageSize * table.keptPages
    | .hashed index => 12 * index.size

end IdMap

end CompactGraph
