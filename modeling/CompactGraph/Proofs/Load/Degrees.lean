/-
# Reported degrees

What the phase that asks for degrees comes to when the store reports a degree for every list of a node: the
bounds of the node, one for each list, and what they add up to in a list.
-/
import CompactGraph.Proofs.Load.Graphs

namespace CompactGraph

namespace LoadRun

variable {run : LoadRun}

/-! ## External ids -/

theorem index_ofIndex_of_lt {node count : Nat} (hnode : node < count) (hcount : count ≤ maxNodeCount) :
    (NodeId.ofIndex node).index = node := by
  apply NodeId.index_ofIndex
  unfold maxNodeCount at hcount
  rw [UInt32.size]
  omega

/-- An external id stands at the number of its node. -/
theorem toExternal_ofIndex {map : IdMap} {node : Nat} (hnode : node < map.nodeCount)
    (hcount : map.nodeCount ≤ maxNodeCount) :
    map.toExternal (NodeId.ofIndex node) = map.externals.toList[node]? := by
  rw [IdMap.toExternal, index_ofIndex_of_lt hnode hcount, Array.getElem?_toList]

/-- The external id of a node that is counted. -/
theorem exists_externalId {node : Nat} (hnode : node < run.idMap.nodeCount)
    (hcount : run.idMap.nodeCount ≤ maxNodeCount) :
    ∃ own, run.externalId node = .ok own ∧ run.idMap.toExternal (NodeId.ofIndex node) = some own := by
  have hindex := index_ofIndex_of_lt hnode hcount
  rw [← hindex] at hnode
  obtain ⟨own, hown⟩ := IdMap.exists_toExternal hnode
  refine ⟨own, ?_, hown⟩
  unfold externalId
  rw [hown]

theorem toExternal_of_externalId {node : Nat} {own : ExternalId} (h : run.externalId node = .ok own) :
    run.idMap.toExternal (NodeId.ofIndex node) = some own := by
  unfold externalId at h
  split at h
  · next id hid =>
    cases h
    exact hid
  · cases h

/-- The node of an external id. -/
theorem exists_node_of_mem {id : ExternalId} (hid : id ∈ run.idMap.externals.toList)
    (hcount : run.idMap.nodeCount ≤ maxNodeCount) :
    ∃ node, node < run.idMap.nodeCount ∧ run.externalId node = .ok id := by
  obtain ⟨node, hnode⟩ := List.mem_iff_getElem?.mp hid
  have hlt : node < run.idMap.nodeCount := by
    rw [← IdMap.length_externals]
    exact (List.getElem?_eq_some_iff.mp hnode).1
  obtain ⟨own, hown, hexternal⟩ := exists_externalId hlt hcount
  rw [toExternal_ofIndex hlt hcount, hnode] at hexternal
  cases hexternal
  exact ⟨node, hlt, hown⟩

/-- What is done for all external ids is done for all nodes. -/
theorem map_range_eq_map_externals {α : Type} {f : Nat → α} {g : ExternalId → α}
    (hcount : run.idMap.nodeCount ≤ maxNodeCount)
    (h : ∀ node own, node < run.idMap.nodeCount → run.externalId node = .ok own → f node = g own) :
    (List.range run.idMap.nodeCount).map f = run.idMap.externals.toList.map g := by
  apply List.ext_getElem?
  intro node
  rw [List.getElem?_map, List.getElem?_map]
  by_cases hnode : node < run.idMap.nodeCount
  · obtain ⟨own, hown, hexternal⟩ := exists_externalId hnode hcount
    rw [toExternal_ofIndex hnode hcount] at hexternal
    rw [List.getElem?_range hnode, hexternal, Option.map_some, Option.map_some, h node own hnode hown]
  · have hrange : (List.range run.idMap.nodeCount)[node]? = none := by
      rw [List.getElem?_eq_none_iff, List.length_range]
      exact Nat.le_of_not_lt hnode
    have hexternals : run.idMap.externals.toList[node]? = none := by
      rw [List.getElem?_eq_none_iff, IdMap.length_externals]
      exact Nat.le_of_not_lt hnode
    rw [hrange, hexternals]
    rfl

/-! ## Bounds -/

/-- The store reports these degrees of a node. -/
def Reported (run : LoadRun) (degrees : Direction → ExternalId → Nat) (id : ExternalId) : Prop :=
  ∀ kind ∈ run.kinds, run.snapshot.degree id kind.direction run.config.relationshipType
    = .ok (degrees kind.direction id)

section Reported

variable {degrees : Direction → ExternalId → Nat}

/-- The bounds of a node are its reported degrees. -/
theorem Reported.degreesOf {id : ExternalId} (h : run.Reported degrees id) :
    run.degreesOf id = .ok (run.kinds.map fun kind => degrees kind.direction id) := by
  unfold LoadRun.degreesOf
  rw [mapM_eq_ok_iff, List.map_map]
  exact List.map_congr_left h

theorem Reported.degreesAt {node : Nat} {own : ExternalId} (hown : run.externalId node = .ok own)
    (h : run.Reported degrees own) : run.nodeBounds node = .ok (run.degreesAt node) ∧
      run.degreesAt node = run.kinds.map fun kind => degrees kind.direction own := by
  have hbounds : run.nodeBounds node
      = .ok (run.kinds.map fun kind => degrees kind.direction own) := by
    unfold nodeBounds
    rw [hown]
    exact h.degreesOf
  unfold LoadRun.degreesAt
  rw [resultOf_ok hbounds]
  exact ⟨hbounds, rfl⟩

/-- The degrees of all nodes in a list are those that were reported. -/
theorem map_degreeIn (hcount : run.idMap.nodeCount ≤ maxNodeCount)
    (h : ∀ node own, run.externalId node = .ok own → run.Reported degrees own) {list : Nat}
    {kind : ScanKind} (hkind : run.kinds[list]? = some kind) :
    (List.range run.idMap.nodeCount).map (run.degreeIn list)
      = run.idMap.externals.toList.map (degrees kind.direction) := by
  apply map_range_eq_map_externals hcount
  intro node own _ hown
  rw [degreeIn, ((h node own hown).degreesAt hown).2, List.getElem?_map, hkind]
  rfl

variable (hcount : run.idMap.nodeCount ≤ maxNodeCount)
  (h : ∀ node own, run.externalId node = .ok own → run.Reported degrees own)

include hcount h

/-- The phase that asks for degrees finds them all. -/
theorem nodeBounds_of_reported : ∀ node, node < run.idMap.nodeCount →
    run.nodeBounds node = .ok (run.degreesAt node) := by
  intro node hnode
  obtain ⟨own, hown, _⟩ := exists_externalId hnode hcount
  exact ((h node own hown).degreesAt hown).1

/-- There is room for as many targets as were reported. -/
theorem reserved_of_reported (hroom : ∀ kind ∈ run.kinds,
      total (run.idMap.externals.toList.map (degrees kind.direction)) ≤ maxTargets) :
    ∀ list, list < run.kinds.length →
      total ((List.range run.idMap.nodeCount).map (run.degreeIn list)) ≤ maxTargets := by
  intro list hlist
  rw [map_degreeIn hcount h (List.getElem?_eq_getElem hlist)]
  exact hroom _ (List.getElem_mem hlist)

end Reported

end LoadRun

end CompactGraph
