/-
# Batches

The nodes of a graph are cut into batches for workers.  Batches lie side by side from the first node to the
last, and all of them have the size that was asked for, except that the last one may be shorter
(`Graph.CutInto`).  A graph numbers its nodes in 32 bits, so that neither the end of a batch nor its
narrowing to 32 bits overflows, however large a size is asked for.
-/
import CompactGraph.Proofs.Graph.Queries
import CompactGraph.Proofs.IdMap.Numbering
import CompactGraph.Proofs.Load.Balance

namespace CompactGraph

/-! ## Graphs that can be made -/

namespace IdMap.Builder

/-- The builder after an id was added, or refused because all numbers were taken. -/
def offer (builder : Builder) (id : ExternalId) : Builder :=
  match add id builder with
  | .ok _ next => next
  | .error _ same => same

/-- **Offering ids** one after another numbers all different ones, as long as there are numbers. -/
theorem Sound.externals_foldl_offer (ids : List ExternalId) :
    ∀ {builder : Builder}, builder.Sound → (ids.foldl offer builder).externals.toList
      = (builder.externals.toList ++ ids).eraseDups.take maxNodeCount := by
  induction ids with
  | nil =>
    intro builder h
    rw [List.append_nil, eraseDups_of_nodup h.nodup, List.take_of_length_le]
    · rfl
    · rw [length_externals]
      exact h.few
  | cons id ids ih =>
    intro builder h
    rw [List.foldl_cons, offer]
    by_cases hmem : id ∈ builder.externals.toList
    · rw [h.add_of_mem hmem, eraseDups_append_cons_of_mem hmem]
      exact ih h
    · rcases Nat.lt_or_ge builder.size maxNodeCount with hroom | hfull
      · obtain ⟨next, hadd, hsound, hexternals⟩ := h.add_of_new hmem hroom
        rw [hadd, List.append_cons, ← hexternals]
        exact ih hsound
      · -- all numbers are taken, so that what is still offered makes no difference
        have hlength : maxNodeCount = builder.externals.toList.length := by
          rw [length_externals]
          exact Nat.le_antisymm hfull h.few
        obtain ⟨added, hadded⟩ := exists_eraseDups_append h.nodup ids
        obtain ⟨added', hadded'⟩ := exists_eraseDups_append h.nodup (id :: ids)
        rw [h.add_of_full hmem hfull, hadded', List.take_left' hlength.symm]
        exact (ih h).trans (by rw [hadded, List.take_left' hlength.symm])

end IdMap.Builder

namespace Graph

/-- The id map of all ids that found a number, in the order in which they were offered. -/
def mapOf (capacity : Nat) (ids : List ExternalId) : IdMap :=
  (ids.foldl IdMap.Builder.offer (.withCapacity capacity)).build

/-- Graphs that were put together from an id map and whatever lists and weights go with it. -/
inductive Made : Graph → Prop where
  | parts {graph : Graph} (capacity : Nat) (ids : List ExternalId)
      (outgoing incoming : Option AdjacencyList) (weights : Option WeightTable) (defaultWeight : Float)
      (direction : Direction)
      (h : ofParts (mapOf capacity ids) outgoing incoming weights defaultWeight direction = .ok graph) :
      Made graph
  | undirected {graph : Graph} (capacity : Nat) (ids : List ExternalId) (list : AdjacencyList)
      (weights : Option WeightTable) (defaultWeight : Float)
      (h : ofUndirected (mapOf capacity ids) list weights defaultWeight = .ok graph) : Made graph

theorem nodeCount_mapOf (capacity : Nat) (ids : List ExternalId) :
    (mapOf capacity ids).nodeCount = min maxNodeCount ids.eraseDups.length := by
  rw [← List.length_take, ← IdMap.length_externals]
  exact congrArg List.length
    ((IdMap.Builder.sound_withCapacity capacity).externals_foldl_offer ids)

/-- A graph has no more nodes than there are numbers for them. -/
theorem Made.nodeCount_le {graph : Graph} (h : graph.Made) : graph.nodeCount ≤ maxNodeCount := by
  have hmap : ∀ capacity ids, (mapOf capacity ids).nodeCount ≤ maxNodeCount := by
    intro capacity ids
    rw [nodeCount_mapOf]
    exact Nat.min_le_left ..
  cases h with
  | parts capacity ids _ _ _ _ _ h =>
    obtain rfl := ofParts_eq_ok h
    exact hmap capacity ids
  | undirected capacity ids _ _ _ h =>
    obtain rfl := ofUndirected_eq_ok h
    exact hmap capacity ids

end Graph

/-! ## Ranges of one size -/

section Ranges

variable {count size index : Nat}

/-- The range that comes after `index` ranges of `size` numbers each, none of them beyond `count`. -/
def rangeAt (count size index : Nat) : NodeRange := ⟨index * size, min (index * size + size) count⟩

/-- How many ranges of `size` numbers it takes to reach `count`. -/
def rangeCount (count size : Nat) : Nat := (count + size - 1) / size

/-- A range is needed exactly if it starts below the number to be reached. -/
theorem lt_rangeCount_iff (h : 0 < size) : index < rangeCount count size ↔ index * size < count := by
  rw [rangeCount, Nat.lt_div_iff_mul_lt h]
  omega

/-- Ranges of one size lie side by side, and the last of those that are needed ends at `count`. -/
theorem tiles_rangeAt (h : 0 < size) (length : Nat) :
    ∀ index, index + length = rangeCount count size →
      Tiles (min (index * size) count) ((List.range' index length).map (rangeAt count size)) count := by
  induction length with
  | zero =>
    intro index hlast
    have hreached : ¬ index * size < count := by
      rw [← lt_rangeCount_iff h]
      omega
    exact Nat.min_eq_right (Nat.not_lt.mp hreached)
  | succ length ih =>
    intro index hlast
    have hbelow : index * size < count := (lt_rangeCount_iff h).mp (by omega)
    have hrest := ih (index + 1) (by omega)
    rw [Nat.succ_mul] at hrest
    rw [List.range'_succ, List.map_cons, Nat.min_eq_left hbelow.le]
    refine ⟨rfl, ?_, hrest⟩
    show index * size ≤ min (index * size + size) count
    omega

theorem start_lt_stop_rangeAt (h : 0 < size) (hindex : index < rangeCount count size) :
    (rangeAt count size index).start < (rangeAt count size index).stop := by
  have hbelow := (lt_rangeCount_iff h).mp hindex
  show index * size < min (index * size + size) count
  omega

theorem size_rangeAt_le (count size index : Nat) : (rangeAt count size index).size ≤ size := by
  show min (index * size + size) count - index * size ≤ size
  omega

/-- A range that another one comes after has its full size. -/
theorem size_rangeAt (h : 0 < size) (hindex : index + 1 < rangeCount count size) :
    (rangeAt count size index).size = size := by
  have hnext := (lt_rangeCount_iff h).mp hindex
  rw [Nat.succ_mul] at hnext
  show min (index * size + size) count - index * size = size
  omega

end Ranges

/-! ## Words of 32 bits -/

/-- A number narrowed to 32 bits, unless it does not fit. -/
def narrow? (n : Nat) : Option Nat := if n < UInt32.size then some n else none

theorem narrow?_eq {n : Nat} (h : n < UInt32.size) : narrow? n = some n := if_pos h

/-- The range of `size` numbers from `start` on, unless a step on the way to its bounds overflows. -/
def rangeInWords? (count size start : Nat) : Option NodeRange := do
  let stop ← wordSum? start size
  let narrowStart ← narrow? start
  let narrowStop ← narrow? (min stop count)
  return ⟨narrowStart, narrowStop⟩

/-- The first range starts at zero, and the size of any other one is no larger than its start, so that its
end is far from 64 bits. -/
theorem rangeInWords?_eq {count size index : Nat} (hcount : count < UInt32.size)
    (hsize : size < UInt64.size) (hindex : index * size < count) :
    rangeInWords? count size (index * size) = some (rangeAt count size index) := by
  have hstop : index * size + size < UInt64.size := by
    rcases Nat.eq_zero_or_pos index with rfl | hpos
    · rw [Nat.zero_mul, Nat.zero_add]
      exact hsize
    · have hle : size ≤ index * size := Nat.le_mul_of_pos_left size hpos
      have hsmall : UInt32.size + UInt32.size < UInt64.size := by decide
      omega
  rw [rangeInWords?, wordSum?_eq hstop]
  show (narrow? (index * size)).bind _ = _
  rw [narrow?_eq (hindex.trans hcount)]
  show (narrow? (min (index * size + size) count)).bind _ = _
  rw [narrow?_eq ((Nat.min_le_right _ _).trans_lt hcount)]
  rfl

namespace Graph

/-- The nodes of a graph, unless their number does not fit into 32 bits. -/
def nodesInWords? (graph : Graph) : Option (List NodeId) :=
  (narrow? graph.nodeCount).map fun count => (List.range count).map NodeId.ofIndex

/-- The batches of a graph, unless a step on the way to them overflows. -/
def batchesInWords? (graph : Graph) (size : Nat) : Option (List NodeRange) :=
  ((List.range (rangeCount graph.nodeCount (max size 1))).map (· * max size 1)).mapM
    (rangeInWords? graph.nodeCount (max size 1))

/-! ## Batches -/

/-- What it means that the nodes of a graph are cut into batches of `size` nodes, where zero counts as
one. -/
structure CutInto (graph : Graph) (size : Nat) (batches : List NodeRange) : Prop where
  tiles : Tiles 0 batches graph.nodeCount
  nonempty : ∀ batch ∈ batches, batch.start < batch.stop
  nodes : batches.flatMap (fun batch => batch.toList.map NodeId.ofIndex) = graph.nodes
  /-- The nodes are all numbers below the node count, each once. -/
  index_nodes : graph.nodes.map NodeId.index = List.range graph.nodeCount
  size_eq : ∀ batch ∈ batches.dropLast, batch.size = max size 1
  size_le : ∀ batch ∈ batches, batch.size ≤ max size 1
  isEmpty_iff : batches = [] ↔ graph.nodeCount = 0
  batchesInWords : graph.batchesInWords? size = some batches
  nodesInWords : graph.nodesInWords? = some graph.nodes

variable {graph : Graph}

theorem batches_eq (graph : Graph) (size : Nat) : graph.batches size
    = (List.range (rangeCount graph.nodeCount (max size 1))).map
      (rangeAt graph.nodeCount (max size 1)) := rfl

theorem tiles_batches (graph : Graph) (size : Nat) :
    Tiles 0 (graph.batches size) graph.nodeCount := by
  have htiles := tiles_rangeAt (Nat.le_max_right size 1)
    (rangeCount graph.nodeCount (max size 1)) 0 (Nat.zero_add _)
  rw [Nat.zero_mul, Nat.zero_min, ← List.range_eq_range', ← batches_eq] at htiles
  exact htiles

/-- Every batch but the last has another one after it. -/
theorem size_of_mem_dropLast_batches {size : Nat} {batch : NodeRange}
    (hbatch : batch ∈ (graph.batches size).dropLast) : batch.size = max size 1 := by
  rw [batches_eq, ← List.map_dropLast] at hbatch
  obtain ⟨index, hindex, rfl⟩ := List.mem_map.mp hbatch
  cases hnumber : rangeCount graph.nodeCount (max size 1) with
  | zero =>
    rw [hnumber] at hindex
    cases hindex
  | succ number =>
    rw [hnumber, List.range_succ, List.dropLast_concat, List.mem_range] at hindex
    exact size_rangeAt (Nat.le_max_right size 1) (by omega)

theorem batchesInWords?_eq {size : Nat} (hcount : graph.nodeCount < UInt32.size)
    (hsize : size < UInt64.size) : graph.batchesInWords? size = some (graph.batches size) := by
  have hpos : 0 < max size 1 := Nat.le_max_right size 1
  have hwords : max size 1 < UInt64.size := max_lt hsize (by decide)
  rw [batchesInWords?, mapM_eq_some_iff, batches_eq, List.forall₂_map_left_iff,
    List.forall₂_map_right_iff, List.forall₂_same]
  intro index hindex
  exact rangeInWords?_eq hcount hwords ((lt_rangeCount_iff hpos).mp (List.mem_range.mp hindex))

/-- **Batches cover the nodes.**  Whatever graph was made and whatever 64-bit size is asked for, its nodes
are cut into batches of that size. -/
theorem batches_cover_nodes (h : graph.Made) (size : UInt64) :
    graph.CutInto size.toNat (graph.batches size.toNat) := by
  have hcount : graph.nodeCount < UInt32.size := Nat.lt_of_le_of_lt h.nodeCount_le (by decide)
  have hpos : 0 < max size.toNat 1 := Nat.le_max_right _ 1
  have htiles := tiles_batches graph size.toNat
  refine ⟨htiles, fun batch hbatch => ?_, ?_, ?_, fun batch => size_of_mem_dropLast_batches,
    fun batch hbatch => ?_, ?_, batchesInWords?_eq hcount size.toNat_lt, ?_⟩
  · obtain ⟨index, hindex, rfl⟩ := List.mem_map.mp hbatch
    exact start_lt_stop_rangeAt hpos (List.mem_range.mp hindex)
  · rw [← List.map_flatMap, htiles.flatMap_toList, Nat.sub_zero, ← List.range_eq_range', nodes]
  · rw [nodes, List.map_map]
    refine (List.map_congr_left fun index hindex => ?_).trans (List.map_id _)
    exact NodeId.index_ofIndex ((List.mem_range.mp hindex).trans hcount)
  · obtain ⟨index, -, rfl⟩ := List.mem_map.mp hbatch
    exact size_rangeAt_le ..
  · rw [batches_eq, List.map_eq_nil_iff, List.range_eq_nil]
    have hneeded : 0 < rangeCount graph.nodeCount (max size.toNat 1) ↔ 0 < graph.nodeCount := by
      rw [lt_rangeCount_iff hpos, Nat.zero_mul]
    omega
  · rw [nodesInWords?, narrow?_eq hcount]
    rfl

/-- Three nodes are two batches of two, and one batch of as many as 64 bits can ask for. -/
theorem batches_cover_three : ∃ graph : Graph, graph.Made ∧ graph.CutInto 2 [⟨0, 2⟩, ⟨2, 3⟩] ∧
    graph.CutInto (2 ^ 64 - 1) [⟨0, 3⟩] := by
  let graph : Graph := ⟨mapOf 3 [⟨100⟩, ⟨200⟩, ⟨100⟩, ⟨300⟩], none, none, none, 1, .outgoing, false⟩
  have hmade : graph.Made := .parts 3 [⟨100⟩, ⟨200⟩, ⟨100⟩, ⟨300⟩] none none none 1 .outgoing rfl
  have hcount : graph.nodeCount = 3 := (nodeCount_mapOf 3 _).trans (by decide)
  have htwo : graph.batches 2 = [⟨0, 2⟩, ⟨2, 3⟩] := by
    rw [batches_eq, hcount]
    decide
  have hall : graph.batches (2 ^ 64 - 1) = [⟨0, 3⟩] := by
    rw [batches_eq, hcount]
    decide
  exact ⟨graph, hmade, htwo ▸ batches_cover_nodes hmade 2,
    hall ▸ batches_cover_nodes hmade 0xFFFFFFFFFFFFFFFF⟩

end Graph

end CompactGraph
