/-
# Weight tables

A weight table is a partial map from ordered pairs of nodes to weights, together with the weight that
absent pairs have and the policy for pairs written twice.  Its entries lie in an array of slots whose
length is a power of two.  A pair is looked for from the slot that its hash names onwards, going
around at the end, up to the pair or to the first empty slot.  The array doubles before it is three
quarters full, so there always is an empty slot.

Empty slots are marked with the reserved pair.  So looking for that pair ends in an empty slot, and
writing a weight under it leaves the weight there, where it is not read.

A plain table does not store the default weight under an absent pair.  A *shard* does, because another
shard may hold a weight for the same pair that has to meet it; freezing drops what is still the
default when all shards have been merged.
-/
import CompactGraph.Error

namespace CompactGraph

/-- A place of a weight table: a pair and its weight, or the reserved pair if it is empty. -/
abbrev WeightSlot := PairKey × Float

namespace WeightSlots

/-- The fractional part of the golden ratio, in 64 bits: consecutive multiples of it spread evenly. -/
def multiplier : UInt64 := 0x9E3779B97F4A7C15

/-- The slot from which a pair is looked for: the leading bits of its hash. -/
def start (capacity : Nat) (key : PairKey) : Nat :=
  ((key.val * multiplier) >>> (64 - capacity.log2).toUInt64).toNat

/-- Look for a pair from `slot` on, at most `tries` slots far.  The answer is the slot of the pair or
the first empty one. -/
def probe (slots : Array WeightSlot) (key : PairKey) : Nat → Nat → Option Nat
  | 0, _ => none
  | tries + 1, slot =>
    match slots[slot]? with
    | none => none
    | some (held, _) =>
      if held = key ∨ held = PairKey.reserved then some slot
      else probe slots key tries ((slot + 1) % slots.size)

/-- The slot that holds a pair, or the empty one where it would go. -/
def find (slots : Array WeightSlot) (key : PairKey) : Option Nat :=
  probe slots key slots.size (start slots.size key)

/-- Put an entry into the slot where its pair belongs. -/
def place (slots : Array WeightSlot) (entry : PairKey × Float) : Array WeightSlot :=
  match find slots entry.1 with
  | some slot => slots.setIfInBounds slot entry
  | none => slots

/-- No entries. -/
def blank (capacity : Nat) : Array WeightSlot := Array.replicate capacity (PairKey.reserved, 0)

/-- The entries, in order of their slots. -/
def entries (slots : Array WeightSlot) : List (PairKey × Float) :=
  slots.toList.filter fun slot => slot.1 != PairKey.reserved

/-- The same entries in an array twice as long, placed in order of their old slots. -/
def double (slots : Array WeightSlot) : Array WeightSlot :=
  (entries slots).foldl place (blank (2 * slots.size))

end WeightSlots

/-- Weights of ordered pairs of nodes. -/
structure WeightTable where
  slots : Array WeightSlot
  /-- How many entries are stored. -/
  size : Nat
  /-- The weight of absent pairs. -/
  defaultWeight : Float
  policy : DuplicatePolicy
  /-- Whether the default weight is stored under absent pairs. -/
  isShard : Bool

namespace WeightTable

/-- The smallest number of slots. -/
def minCapacity : Nat := 16

/-- The least power of two that is not below a number. -/
def powerOfTwoFor (number : Nat) : Nat :=
  if number ≤ 1 then 1 else Nat.pow 2 ((number - 1).log2 + 1)

/-- How many slots hold `expected` entries with less than three quarters of them filled. -/
def capacityFor (expected : Nat) : Nat :=
  powerOfTwoFor (max minCapacity (min (expected * 4) (UInt64.size - 1) / 3 + 1))

/-- An empty table with room for `expected` entries. -/
def withCapacity (expected : Nat) (defaultWeight : Float) (policy : DuplicatePolicy) :
    WeightTable where
  slots := WeightSlots.blank (capacityFor expected)
  size := 0
  defaultWeight
  policy
  isShard := false

/-- An empty table. -/
def empty (defaultWeight : Float) (policy : DuplicatePolicy) : WeightTable :=
  withCapacity 0 defaultWeight policy

/-- An empty shard with room for `expected` entries. -/
def shard (expected : Nat) (defaultWeight : Float) (policy : DuplicatePolicy) : WeightTable :=
  { withCapacity expected defaultWeight policy with isShard := true }

/-- How many slots there are. -/
def capacity (table : WeightTable) : Nat := table.slots.size

/-- The entries, in order of their slots. -/
def entries (table : WeightTable) : List (PairKey × Float) := WeightSlots.entries table.slots

/-- Fill an empty slot, and double the slots if that leaves less than a quarter of them empty. -/
def occupy (table : WeightTable) (slot : Nat) (entry : PairKey × Float) : WeightTable :=
  let slots := table.slots.setIfInBounds slot entry
  let size := table.size + 1
  let crowded := size * 4 ≥ slots.size * 3
  { table with slots := if crowded then WeightSlots.double slots else slots, size }

/-- Write a weight.  An absent pair gets it, a present one the weight that the policy makes of both.
The reserved pair seems to be present in each empty slot, but it is never found there (`find?`). -/
def put (key : PairKey) (weight : Float) : EStateM LoadError WeightTable Unit := fun table =>
  match WeightSlots.find table.slots key with
  | none => .ok () table
  | some slot =>
    match table.slots[slot]? with
    | none => .ok () table
    | some (held, stored) =>
      if held = key then
        match table.policy.merge stored weight with
        | some merged => .ok () { table with slots := table.slots.setIfInBounds slot (key, merged) }
        | none => .error (.duplicateRelationship key.source key.target) table
      else if weight == table.defaultWeight && !table.isShard then .ok () table
      else .ok () (table.occupy slot (key, weight))

/-- Write weights one after another, up to the first that is refused. -/
def putAll : List (PairKey × Float) → EStateM LoadError WeightTable Unit
  | [] => pure ()
  | (key, weight) :: rest => do
    put key weight
    putAll rest

/-- The weight stored under a pair. -/
def find? (table : WeightTable) (key : PairKey) : Option Float :=
  if key = PairKey.reserved then none
  else
    match WeightSlots.find table.slots key with
    | some slot => (table.slots[slot]?.filter fun held => held.1 == key).map Prod.snd
    | none => none

/-- The weight of a pair. -/
def get (table : WeightTable) (key : PairKey) : Float := (table.find? key).getD table.defaultWeight

/-- Write all entries of another table, which counts as the later writer. -/
def mergeFrom (other : WeightTable) : EStateM LoadError WeightTable Unit := fun table =>
  if other.policy = table.policy then putAll other.entries table
  else .error (.configuration (.mixedPolicies other.policy table.policy)) table

/-- The entries whose weight is not the default one. -/
def explicitEntries (table : WeightTable) : List (PairKey × Float) :=
  table.entries.filter fun (_, weight) => weight != table.defaultWeight

/-- Add an entry whose pair is absent. -/
def insertFresh (table : WeightTable) (entry : PairKey × Float) : WeightTable :=
  match WeightSlots.find table.slots entry.1 with
  | some slot => table.occupy slot entry
  | none => table

/-- Turn a shard into a plain table that stores no default weight. -/
def freeze (table : WeightTable) : WeightTable :=
  if table.isShard then
    table.explicitEntries.foldl insertFresh
      (withCapacity table.explicitEntries.length table.defaultWeight table.policy)
  else table

/-- Whether nothing is stored. -/
def isEmpty (table : WeightTable) : Bool := table.size == 0

/-- The bytes of the slots: eight for the pair and eight for the weight. -/
def memoryUsage (table : WeightTable) : Nat := 16 * table.capacity

end WeightTable

end CompactGraph
