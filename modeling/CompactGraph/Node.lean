/-
# Node identifiers

A store names its nodes by sparse 64-bit numbers; a loaded graph numbers them densely from zero in
32 bits.  An ordered pair of dense numbers fits into one 64-bit key, and no pair of real nodes is
packed into the all-ones key, because the all-ones half never names a node.
-/

namespace CompactGraph

/-- The number under which a store knows a node.  Any 64-bit value, with arbitrary gaps. -/
structure ExternalId where
  val : UInt64
  deriving DecidableEq, Hashable, Repr, Inhabited

instance : Ord ExternalId := ⟨fun a b => compare a.val b.val⟩

instance : ToString ExternalId := ⟨fun id => toString id.val.toNat⟩

/-- The dense, zero-based number of a node in a loaded graph. -/
structure NodeId where
  val : UInt32
  deriving DecidableEq, Hashable, Repr, Inhabited

namespace NodeId

/-- The number no node ever gets: what looking up a node outside the graph answers. -/
def unmapped : NodeId := ⟨0xFFFFFFFF⟩

/-- Whether this number can belong to a node. -/
def isMapped (node : NodeId) : Bool := node != unmapped

/-- The position of the node in an array indexed by nodes. -/
def index (node : NodeId) : Nat := node.val.toNat

/-- The node at an array position.  Exact for positions below `2 ^ 32`. -/
def ofIndex (index : Nat) : NodeId := ⟨index.toUInt32⟩

/-- Nodes are ordered by number. -/
def le (a b : NodeId) : Bool := a.val ≤ b.val

/-- How a node is written in a message. -/
def text (node : NodeId) : String := s!"NodeId({node.index})"

theorem index_lt (node : NodeId) : node.index < UInt32.size := node.val.toNat_lt

theorem index_ofIndex {index : Nat} (h : index < UInt32.size) : (ofIndex index).index = index :=
  UInt32.toNat_ofNat_of_lt h

end NodeId

/-- The most nodes one graph can number: every number but `NodeId.unmapped`. -/
def maxNodeCount : Nat := 4294967295

/-- An ordered pair of nodes packed into one word, the source in the high half. -/
structure PairKey where
  val : UInt64
  deriving DecidableEq, Hashable, Repr, Inhabited

namespace PairKey

/-- Pack a source and a target. -/
def ofPair (source target : NodeId) : PairKey :=
  ⟨source.val.toUInt64 <<< 32 ||| target.val.toUInt64⟩

/-- The node in the high half. -/
def source (key : PairKey) : NodeId := ⟨(key.val >>> 32).toUInt32⟩

/-- The node in the low half. -/
def target (key : PairKey) : NodeId := ⟨key.val.toUInt32⟩

/-- The pair of two `NodeId.unmapped`; no two nodes are packed into it. -/
def reserved : PairKey := ⟨0xFFFFFFFFFFFFFFFF⟩

end PairKey

end CompactGraph
