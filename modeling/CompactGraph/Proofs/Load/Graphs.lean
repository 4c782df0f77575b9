/-
# Loaded graphs

A load that succeeds leaves the graph of the rows of its run (`LoadRun.graphWith`): the id map of the
node scan, for each loaded direction the list that was built for it, and weights that answer for the run.
-/
import CompactGraph.Proofs.Config.Validation
import CompactGraph.Proofs.Load.Nodes
import CompactGraph.Proofs.Load.Runs

namespace CompactGraph

/-- The weights that a graph stores, each with its pair. -/
def Graph.storedEntries (graph : Graph) : List (PairKey × Float) :=
  (graph.weights.map WeightTable.entries).getD []

namespace LoadRun

variable {run : LoadRun}

/-- The list that reads a direction, if there is one. -/
def listToward (run : LoadRun) (direction : Direction) : Option AdjacencyList :=
  (run.kinds.zipIdx.find? fun both => both.1.direction = direction).map fun both => run.listOf both.2

/-- The graph of a run that comes to these weights. -/
def graphWith (run : LoadRun) (weights : Option WeightTable) : Graph where
  idMap := run.idMap
  outgoing := if run.config.undirected then some (run.listOf 0) else run.listToward .outgoing
  incoming := if run.config.undirected then none else run.listToward .incoming
  weights
  defaultWeight := run.config.defaultWeight
  direction := run.config.direction
  undirected := run.config.undirected

theorem listFor_eq (run : LoadRun) (direction : Direction) :
    run.listFor ((List.range run.kinds.length).map run.listOf) direction
      = run.listToward direction := by
  have hzip : run.kinds.zip ((List.range run.kinds.length).map run.listOf)
      = run.kinds.zipIdx.map fun both => (both.1, run.listOf both.2) := by
    rw [List.zipIdx_eq_zip_range', List.range_eq_range', List.zip_map_right]
    rfl
  unfold listFor
  rw [hzip, List.find?_map, listToward, Option.map_map]
  rfl

/-- Each list of a run covers its nodes. -/
theorem nodeCount_listOf (run : LoadRun) (list : Nat) :
    (run.listOf list).nodeCount = run.idMap.nodeCount := by
  unfold listOf
  rw [AdjacencyList.nodeCount_ofRows, targetRows, List.length_map, List.length_range]

theorem checkCover_listOf (run : LoadRun) (list : Nat) :
    Graph.checkCover run.idMap (some (run.listOf list)) = .ok () :=
  if_pos (run.nodeCount_listOf list)

theorem checkCover_listToward (run : LoadRun) (direction : Direction) :
    Graph.checkCover run.idMap (run.listToward direction) = .ok () := by
  unfold listToward
  cases run.kinds.zipIdx.find? _ with
  | none => rfl
  | some both => exact run.checkCover_listOf both.2

/-- A load in both directions is asked for where both go into one list. -/
theorem direction_of_validate {config : LoadConfig} (h : config.validate = .ok ())
    (hundirected : config.undirected = true) : config.direction = .both :=
  (LoadConfig.validate_eq_ok_iff.mp h).direction hundirected

/-- **The graph of a run** is made of its lists and weights. -/
theorem graphOf_eq {parts : Assembled} (h : run.Holds parts)
    (hvalid : run.config.validate = .ok ()) : run.graphOf parts = .ok (run.graphWith parts.weights) := by
  unfold graphOf
  rw [h.lists, graphWith]
  cases hundirected : run.config.undirected with
  | true =>
    have hkinds : run.kinds.length = 1 := by
      unfold kinds
      rw [hundirected]
      rfl
    have hhead : ((List.range run.kinds.length).map run.listOf).headD (.isolated run.idMap.nodeCount)
        = run.listOf 0 := by
      rw [hkinds]
      rfl
    rw [if_pos rfl, hhead, Graph.ofUndirected, Graph.ofParts, checkCover_listOf,
      direction_of_validate hvalid hundirected]
    rfl
  | false =>
    rw [if_neg Bool.false_ne_true, listFor_eq, listFor_eq, Graph.ofParts, checkCover_listToward,
      checkCover_listToward]
    rfl

section Load

variable (hopen : ∀ cursor, run.snapshot.openCursor cursor = .ok ())
  (hlimit : run.deadline.limit = none) (hcount : run.idMap.nodeCount ≤ maxNodeCount)
  (hvalid : run.config.validate = .ok ())

include hopen hlimit hcount hvalid

/-- **A run ends with a graph** if nothing stands in its way. -/
theorem exists_load (h : run.Complete) : ∃ loaded, run.load = .ok loaded := by
  obtain ⟨parts, hparts⟩ := exists_assembled hopen hlimit hcount h
  obtain ⟨_, hholds⟩ := holds_of_assembled hopen hlimit hcount hparts
  exact ⟨_, bind_eq_ok_iff.mpr ⟨(), hvalid, bind_eq_ok_iff.mpr
    ⟨parts, hparts, bind_eq_ok_iff.mpr ⟨_, graphOf_eq hholds hvalid, rfl⟩⟩⟩⟩

/-- **The graph that a run ends with.** -/
theorem graph_of_load {graph : Graph} {report : RunReport} (h : run.load = .ok (graph, report)) :
    run.Complete ∧ ∃ parts, run.Holds parts ∧ graph = run.graphWith parts.weights ∧
      report = ⟨run.ranges.length, run.sizing, parts.counts⟩ := by
  obtain ⟨_, _, hassembled⟩ := bind_eq_ok_iff.mp h
  obtain ⟨parts, hparts, hrest⟩ := bind_eq_ok_iff.mp hassembled
  obtain ⟨hcomplete, hholds⟩ := holds_of_assembled hopen hlimit hcount hparts
  rw [graphOf_eq hholds hvalid] at hrest
  cases hrest
  exact ⟨hcomplete, parts, hholds, rfl, rfl⟩

end Load

end LoadRun

/-! ## Loads -/

section Loads

variable {snapshot : Snapshot} {config : LoadConfig} {machine : Nat} {schedule : Phase → List Nat}
  (hopen : ∀ cursor, snapshot.openCursor cursor = .ok ()) (htimeout : config.timeout = none)

/-- The nodes that a load numbers. -/
def loadedIds (snapshot : Snapshot) (config : LoadConfig) : List ExternalId :=
  (snapshot.scanNodes config.nodeLabel).ids.eraseDups

include hopen htimeout

/-- **What a load ends with** when it succeeds. -/
theorem graph_of_loadSnapshot {graph : Graph} {summary : LoadSummary}
    (h : loadSnapshot snapshot config machine schedule = .ok (graph, summary)) :
    ∃ map parts, collectNodes snapshot config.nodeLabel { limit := config.timeout } = .ok map ∧
      map.Sound ∧ map.externals.toList = loadedIds snapshot config ∧
      (runOver snapshot config machine map schedule).Complete ∧
      (runOver snapshot config machine map schedule).Holds parts ∧
      graph = (runOver snapshot config machine map schedule).graphWith parts.weights ∧
      summary.relationshipCount = graph.relationshipCount ∧
      summary.storedWeights = graph.storedWeights ∧ summary.counts = parts.counts := by
  obtain ⟨_, hvalid, h⟩ := bind_eq_ok_iff.mp h
  obtain ⟨map, hmap, h⟩ := bind_eq_ok_iff.mp h
  obtain ⟨_, _, h⟩ := bind_eq_ok_iff.mp h
  obtain ⟨⟨loaded, report⟩, hload, h⟩ := bind_eq_ok_iff.mp h
  cases h
  obtain ⟨hsound, hids⟩ := sound_of_collectNodes htimeout hmap
  obtain ⟨hcomplete, parts, hholds, rfl, rfl⟩ :=
    LoadRun.graph_of_load hopen htimeout hsound.few hvalid hload
  exact ⟨map, parts, hmap, hsound, hids, hcomplete, hholds, rfl, rfl, rfl, rfl⟩

/-- **A load succeeds** if its nodes can be numbered and nothing stands in the way of its run. -/
theorem exists_loadSnapshot (hvalid : config.validate = .ok ()) {map : IdMap}
    (hmap : collectNodes snapshot config.nodeLabel { limit := config.timeout } = .ok map)
    (h : (runOver snapshot config machine map schedule).Complete) :
    ∃ loaded, loadSnapshot snapshot config machine schedule = .ok loaded := by
  obtain ⟨hsound, _⟩ := sound_of_collectNodes htimeout hmap
  obtain ⟨loaded, hload⟩ := LoadRun.exists_load hopen htimeout hsound.few hvalid h
  have hcheck : ({ limit := config.timeout } : Deadline).check .numbered = .ok () :=
    Deadline.inTime_of_no_limit htimeout _
  exact ⟨_, bind_eq_ok_iff.mpr ⟨(), hvalid, bind_eq_ok_iff.mpr ⟨map, hmap,
    bind_eq_ok_iff.mpr ⟨(), hcheck, bind_eq_ok_iff.mpr ⟨loaded, hload, rfl⟩⟩⟩⟩⟩

omit hopen in
/-- A load fails as its run does, once its nodes are numbered. -/
theorem load_of_loadSnapshot (hvalid : config.validate = .ok ()) {map : IdMap}
    (hmap : collectNodes snapshot config.nodeLabel { limit := config.timeout } = .ok map)
    {error : LoadError} (h : loadSnapshot snapshot config machine schedule = .error error) :
    (runOver snapshot config machine map schedule).load = .error error := by
  have hcheck : ({ limit := config.timeout } : Deadline).check .numbered = .ok () :=
    Deadline.inTime_of_no_limit htimeout _
  simp only [loadSnapshot, hvalid, hmap, hcheck, bind, Except.bind] at h
  cases hload : (runOver snapshot config machine map schedule).load with
  | ok loaded =>
    rw [hload] at h
    cases h
  | error own =>
    rw [hload] at h
    cases h
    rfl

end Loads

end CompactGraph
