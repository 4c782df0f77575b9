/-
# Adjacency of loads

The nodes of a loaded graph are the nodes with the label, in the order of the store.  The list of a
direction holds for each node, in strictly ascending order, the loaded nodes that a relationship of the
requested type connects with it in that direction.
-/
import CompactGraph.Proofs.Load.Memory

namespace CompactGraph

/-! ## What lists say -/

namespace Graph

/-- The nodes of a graph have numbers in the order of a list of external ids, each of them one. -/
structure Numbers (graph : Graph) (ids : List ExternalId) : Prop where
  nodup : ids.Nodup
  nodeCount : graph.nodeCount = ids.length
  toExternal : ∀ index, index < graph.nodeCount → graph.toExternal (.ofIndex index) = ids[index]?
  contains : ∀ id, graph.contains id = true ↔ id ∈ ids
  toMapped : ∀ id node, graph.toExternal node = some id ↔
    graph.contains id = true ∧ graph.toMapped id = node

/-- A list in which the neighbours of each node are the nodes that it is related to, in strictly
ascending order. -/
structure Adjoins (graph : Graph) (list : AdjacencyList)
    (related : ExternalId → ExternalId → Prop) : Prop where
  nodeCount : list.nodeCount = graph.nodeCount
  ascending : ∀ node, Ascending (list.neighbors node)
  mem_iff : ∀ node target, target ∈ list.neighbors node ↔ ∃ own other,
    graph.toExternal node = some own ∧ graph.toExternal target = some other ∧ related own other
  relationshipCount : list.relationshipCount
    = total ((List.range graph.nodeCount).map fun index => list.degree (.ofIndex index))

/-- A graph whose lists say what the relationships of a graph in memory say, as far as a load asks for
it. -/
structure Reflects (graph : Graph) (store : MemoryGraph) (config : LoadConfig) : Prop where
  numbers : graph.Numbers (store.nodesWith config.nodeLabel)
  hasOutgoing : config.undirected = false →
    (graph.outgoing.isSome = true ↔ config.direction = .outgoing ∨ config.direction = .both)
  hasIncoming : config.undirected = false →
    (graph.incoming.isSome = true ↔ config.direction = .incoming ∨ config.direction = .both)
  outgoing : config.undirected = false → ∀ list, graph.outgoing = some list →
    graph.Adjoins list fun own other => store.Related config.relationshipType own other
  incoming : config.undirected = false → ∀ list, graph.incoming = some list →
    graph.Adjoins list fun own other => store.Related config.relationshipType other own
  undirected : config.undirected = true → graph.incoming = none ∧
    ∃ list, graph.outgoing = some list ∧ graph.Adjoins list fun own other =>
      store.Related config.relationshipType own other ∨ store.Related config.relationshipType other own

end Graph

/-! ## The numbers of nodes -/

/-- A graph numbers the nodes of its id map. -/
theorem IdMap.Sound.numbers {graph : Graph} (h : graph.idMap.Sound) :
    graph.Numbers graph.idMap.externals.toList where
  nodup := h.nodup
  nodeCount := (IdMap.length_externals _).symm
  toExternal index hindex := by
    rw [Graph.toExternal, LoadRun.toExternal_ofIndex hindex h.few]
  contains _ := h.isMapped_toMapped_iff
  toMapped id node := by
    show _ ↔ (graph.idMap.toMapped id).isMapped = true ∧ graph.idMap.toMapped id = node
    constructor
    · intro hid
      have hmapped := h.isMapped_of_toExternal hid
      have hnode := (h.toMapped_eq_iff hmapped).mpr hid
      rw [hnode]
      exact ⟨hmapped, rfl⟩
    · rintro ⟨hmapped, rfl⟩
      exact (h.toMapped_eq_iff hmapped).mp rfl

/-! ## Lists of runs -/

namespace LoadRun

variable {run : LoadRun}

/-- **A list of a run** holds the nodes that are connected in its direction. -/
theorem adjoins_listOf {store : MemoryGraph} (hstore : store.Sound) (hsnapshot : run.snapshot = store.answers)
    (hmap : run.idMap.Sound)
    (hrows : ∀ node, node < run.idMap.nodeCount → run.nodeRow node = .ok (run.row node))
    (weights : Option WeightTable) {list : Nat} {kind : ScanKind} (hkind : run.kinds[list]? = some kind) :
    (run.graphWith weights).Adjoins (run.listOf list)
      (store.Connects run.config.relationshipType kind.direction) := by
  have hneighbors : ∀ node : NodeId, node.index < run.idMap.nodeCount →
      (run.listOf list).neighbors node = (run.entry node.index list).targets := by
    intro node hnode
    rw [listOf, AdjacencyList.neighbors_ofRows, targetRows, List.getElem?_map,
      List.getElem?_range hnode]
    rfl
  -- a node without a row has no neighbours
  have hnone : ∀ node : NodeId, ¬node.index < run.idMap.nodeCount →
      (run.listOf list).neighbors node = [] := by
    intro node hnode
    have hrow : (run.targetRows list)[node.index]? = none := by
      rw [List.getElem?_eq_none_iff, targetRows, List.length_map, List.length_range]
      exact Nat.le_of_not_lt hnode
    unfold listOf
    rw [AdjacencyList.neighbors_ofRows, hrow]
    rfl
  refine ⟨run.nodeCount_listOf list, fun node => ?_, fun node target => ?_, ?_⟩
  · by_cases hnode : node.index < run.idMap.nodeCount
    · rw [hneighbors node hnode]
      exact ascending_targets (hrows _ hnode) (List.getElem?_eq_some_iff.mp hkind).1
    · rw [hnone node hnode]
      exact List.Pairwise.nil
  · by_cases hnode : node.index < run.idMap.nodeCount
    · rw [hneighbors node hnode, mem_targets_iff hstore hsnapshot hmap (hrows _ hnode) hkind,
        NodeId.ofIndex_index]
      rfl
    · rw [hnone node hnode]
      refine iff_of_false List.not_mem_nil ?_
      rintro ⟨own, _, hown, _⟩
      exact hnode (IdMap.index_lt_of_toExternal hown)
  · unfold listOf
    rw [AdjacencyList.relationshipCount_ofRows, targetRows, List.map_map]
    congr 1
    apply List.map_congr_left
    intro index hindex
    have hlt : index < run.idMap.nodeCount := List.mem_range.mp hindex
    have hown := index_ofIndex_of_lt hlt hmap.few
    rw [AdjacencyList.degree, ← targetRows, ← listOf, hneighbors _ (by rw [hown]; exact hlt), hown]
    rfl

/-- The list that reads a direction is there if a scan reads it. -/
theorem isSome_listToward_iff {direction : Direction} :
    (run.listToward direction).isSome = true ↔ ∃ kind ∈ run.kinds, kind.direction = direction := by
  unfold listToward
  rw [Option.isSome_map, List.find?_isSome]
  constructor
  · rintro ⟨⟨kind, list⟩, hmem, hdirection⟩
    exact ⟨kind, List.mem_of_getElem? (List.mem_zipIdx_iff_getElem?.mp hmem), of_decide_eq_true hdirection⟩
  · rintro ⟨kind, hkind, hdirection⟩
    obtain ⟨list, hlist, hget⟩ := List.getElem_of_mem hkind
    exact ⟨(kind, list), List.mem_zipIdx_iff_getElem?.mpr (by rw [← hget, List.getElem?_eq_getElem hlist]),
      decide_eq_true hdirection⟩

/-- The list that reads a direction is one of the lists of the run. -/
theorem exists_of_listToward {direction : Direction} {list : AdjacencyList}
    (h : run.listToward direction = some list) :
    ∃ position kind, run.kinds[position]? = some kind ∧ kind.direction = direction ∧
      list = run.listOf position := by
  unfold listToward at h
  obtain ⟨⟨kind, position⟩, hfind, rfl⟩ := Option.map_eq_some_iff.mp h
  have hdirection := List.find?_some hfind
  exact ⟨position, kind, List.mem_zipIdx_iff_getElem?.mp (List.mem_of_find?_eq_some hfind),
    of_decide_eq_true hdirection, rfl⟩

end LoadRun

/-! ## Directions -/

namespace ScanKind

/-- Outgoing relationships are read if they are asked for. -/
theorem exists_outgoing_iff (direction : Direction) (weighted : Bool) :
    (∃ kind ∈ forLoad direction weighted false, kind.direction = .outgoing)
      ↔ direction = .outgoing ∨ direction = .both := by
  cases direction <;> cases weighted <;> decide

/-- So are incoming ones. -/
theorem exists_incoming_iff (direction : Direction) (weighted : Bool) :
    (∃ kind ∈ forLoad direction weighted false, kind.direction = .incoming)
      ↔ direction = .incoming ∨ direction = .both := by
  cases direction <;> cases weighted <;> decide

end ScanKind

/-! ## Loads -/

/-- The graph of a run over a graph in memory reflects it. -/
theorem LoadRun.reflects_graphWith {run : LoadRun} {store : MemoryGraph} (hstore : store.Sound)
    (hsnapshot : run.snapshot = store.answers) (hmap : run.idMap.Sound)
    (hids : run.idMap.externals.toList = store.nodesWith run.config.nodeLabel)
    (hrows : ∀ node, node < run.idMap.nodeCount → run.nodeRow node = .ok (run.row node))
    (weights : Option WeightTable) : (run.graphWith weights).Reflects store run.config := by
  have hadjoins := fun list kind => @adjoins_listOf run store hstore hsnapshot hmap hrows weights list kind
  have hdirected : run.config.undirected = false →
      (run.graphWith weights).outgoing = run.listToward .outgoing ∧
      (run.graphWith weights).incoming = run.listToward .incoming ∧
      run.kinds = ScanKind.forLoad run.config.direction run.config.isWeighted false := by
    intro hundirected
    unfold graphWith
    rw [kinds, hundirected]
    exact ⟨rfl, rfl, rfl⟩
  refine ⟨?_, fun h => ?_, fun h => ?_, fun h list hlist => ?_, fun h list hlist => ?_, fun h => ?_⟩
  · have hidMap : (run.graphWith weights).idMap.Sound := hmap
    rw [← hids]
    exact hidMap.numbers
  · rw [(hdirected h).1, isSome_listToward_iff, (hdirected h).2.2, ScanKind.exists_outgoing_iff]
  · rw [(hdirected h).2.1, isSome_listToward_iff, (hdirected h).2.2, ScanKind.exists_incoming_iff]
  · rw [(hdirected h).1] at hlist
    obtain ⟨position, kind, hkind, hdirection, rfl⟩ := exists_of_listToward hlist
    have hown := hadjoins position kind hkind
    rw [hdirection] at hown
    exact hown
  · rw [(hdirected h).2.1] at hlist
    obtain ⟨position, kind, hkind, hdirection, rfl⟩ := exists_of_listToward hlist
    have hown := hadjoins position kind hkind
    rw [hdirection] at hown
    exact hown
  · have hkinds : run.kinds[0]? = some (.undirected run.config.isWeighted) := by
      unfold kinds
      rw [h]
      rfl
    refine ⟨if_pos h, run.listOf 0, if_pos h, ?_⟩
    exact hadjoins 0 _ hkinds

section Loads

variable (writes : List MemoryGraph.Write) (config : LoadConfig) (machine : Nat)
  (schedule : Phase → List Nat)

/-- **Adjacency of loads.**  A graph in memory can be loaded unless two weights meet that may not.  What
is loaded has the nodes with the label, in order, and its lists are those of the relationships of the
requested type. -/
theorem reflects_of_loadSource (htimeout : config.timeout = none) :
    (config.validate = .ok () → (MemoryGraph.ofWrites writes).Loadable config.nodeLabel →
      config.weightProperty = none ∨ config.policy ≠ .reject →
      ∃ loaded, loadSource (MemoryGraph.ofWrites writes).snapshot config machine schedule = .ok loaded) ∧
    ∀ graph summary,
      loadSource (MemoryGraph.ofWrites writes).snapshot config machine schedule = .ok (graph, summary) →
      graph.Reflects (MemoryGraph.ofWrites writes) config := by
  have hstore := MemoryGraph.sound_ofWrites writes
  constructor
  · intro hvalid hloadable hmeet
    exact exists_loadSource hstore htimeout hvalid hloadable hmeet
  · intro graph summary h
    obtain ⟨map, parts, hmap, hids, hcomplete, _, rfl⟩ := graph_of_loadSource hstore htimeout h
    exact LoadRun.reflects_graphWith hstore rfl hmap hids hcomplete.rows parts.weights

end Loads

/-- Two people who know each other twice, one of them herself, and a town. -/
def townWrites : List MemoryGraph.Write :=
  [.addNode ⟨⟨10⟩, ["Person"]⟩, .addNode ⟨⟨20⟩, ["Person"]⟩, .addNode ⟨⟨30⟩, ["Town"]⟩,
    .insert ⟨⟨10⟩, ⟨20⟩, "KNOWS", .empty⟩, .insert ⟨⟨20⟩, ⟨10⟩, "KNOWS", .empty⟩,
    .insert ⟨⟨20⟩, ⟨20⟩, "KNOWS", .empty⟩, .insert ⟨⟨10⟩, ⟨30⟩, "LIVES_IN", .empty⟩]

theorem loadable_townWrites : (MemoryGraph.ofWrites townWrites).Loadable (some "Person") := by
  obtain ⟨hnodes, hrelationships⟩ := MemoryGraph.size_ofWrites_le townWrites
  have hlength : townWrites.length = 7 := rfl
  have hlabel := (MemoryGraph.ofWrites townWrites).length_nodesWith_le (some "Person")
  exact ⟨by rw [maxNodeCount]; omega, by omega⟩

/-- The people are loaded in both directions, by two workers. -/
theorem reflects_of_loadSource_people : ∃ graph summary,
    loadSource (MemoryGraph.ofWrites townWrites).snapshot
      { nodeLabel := some "Person", direction := .both, concurrency := some 2 } 1 (fun _ => [])
      = .ok (graph, summary) ∧
    graph.Reflects (MemoryGraph.ofWrites townWrites)
      { nodeLabel := some "Person", direction := .both, concurrency := some 2 } := by
  obtain ⟨hsucceeds, hreflects⟩ := reflects_of_loadSource townWrites
    { nodeLabel := some "Person", direction := .both, concurrency := some 2 } 1 (fun _ => []) rfl
  obtain ⟨⟨graph, summary⟩, hload⟩ := hsucceeds rfl loadable_townWrites (Or.inl rfl)
  exact ⟨graph, summary, hload, hreflects graph summary hload⟩

end CompactGraph
