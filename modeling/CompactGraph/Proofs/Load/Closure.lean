/-
# Loaded graphs are closed

A load that succeeds leaves a graph that speaks of its own nodes only (`Graph.Closed`): the targets in its
lists are nodes of the graph, and so are both ends of a pair under which a weight is stored, one of which is
a neighbour of the other.  So each neighbour has an external id, and whoever asks for the neighbours of a
node by external ids gets an answer if the node was loaded (`Graph.AnswersNeighbors`).

Nothing is assumed of the store or of the configuration.  A load that succeeds has had time enough and
cursors for all its partitions, and comes to what it would come to without a limit over a store whose
cursors always open.
-/
import CompactGraph.Proofs.Graph.Queries
import CompactGraph.Proofs.Load.Adjacency
import CompactGraph.Proofs.Load.PairWeights
import CompactGraph.Proofs.Load.Timing

namespace CompactGraph

/-! ## Cursors -/

/-- The same answers from a store whose cursors always open. -/
def Snapshot.opened (snapshot : Snapshot) : Snapshot := { snapshot with openCursor := fun _ => .ok () }

theorem Snapshot.falters_opened (snapshot : Snapshot) : snapshot.Falters snapshot.opened where
  countsDegrees := rfl
  openCursor cursor := by
    cases snapshot.openCursor cursor with
    | ok _ => exact .inl rfl
    | error error => exact .inr ⟨error, rfl⟩
  scanNodes _ := .inl rfl
  degree _ _ _ := .inl rfl
  relationships _ _ _ := .inl rfl
  property _ _ := .inl rfl

/-- A run that succeeds comes to what it comes to if all cursors open. -/
theorem LoadRun.load_opened {run : LoadRun} {loaded : Graph × RunReport} (h : run.load = .ok loaded) :
    (run.asking run.snapshot.opened).load = .ok loaded := by
  have hagrees := @LoadRun.loadThrough_agrees run (fun _ => run.snapshot) run.snapshot.opened
    fun _ => run.snapshot.falters_opened
  have hown : run.loadThrough (fun _ => run.snapshot) = run.load := loadThrough_same rfl
  have hopened : run.loadThrough (fun _ => run.snapshot.opened) = (run.asking run.snapshot.opened).load :=
    loadThrough_same rfl
  rw [hown, hopened] at hagrees
  exact hagrees.ok loaded h

/-- **What any load ends with** when it succeeds. -/
theorem exists_run_of_loadSnapshot {snapshot : Snapshot} {config : LoadConfig} {machine : Nat}
    {schedule : Phase → List Nat} {clock : Clock} {graph : Graph} {summary : LoadSummary}
    (h : loadSnapshot snapshot config machine schedule clock = .ok (graph, summary)) :
    ∃ (run : LoadRun) (parts : Assembled), run.config = config ∧ run.idMap.Sound ∧
      run.idMap.externals.toList = loadedIds snapshot config ∧
      run.Complete ∧ run.Holds parts ∧ graph = run.graphWith parts.weights := by
  have hunhurried := (loadSnapshot_agrees_unhurried clock).ok _ h
  obtain ⟨_, hvalid, hrest⟩ := bind_eq_ok_iff.mp hunhurried
  obtain ⟨map, hmap, hrest⟩ := bind_eq_ok_iff.mp hrest
  obtain ⟨⟨loaded, report⟩, hload, hrest⟩ := bind_eq_ok_iff.mp hrest
  cases hrest
  obtain ⟨hsound, hids⟩ := sound_of_collectNodes rfl hmap
  obtain ⟨hcomplete, parts, hholds, hgraph, _⟩ :=
    LoadRun.graph_of_load (fun _ => rfl) rfl hsound.few hvalid (LoadRun.load_opened hload)
  exact ⟨_, parts, rfl, hsound, hids, hcomplete, hholds, hgraph⟩

/-! ## What lists hold -/

namespace ListScan

variable {scan : ListScan} {read : PropertyReader} {node : NodeId} {found : List RelationshipRef}
  {reading : NodeReading}

/-- Weights are read for targets that are kept. -/
theorem map_fst_weightsOf_subset {kept : List (NodeId × RelationshipId)}
    {weights : List (NodeId × Option Float)} (h : scan.weightsOf read kept = .ok weights) :
    weights.map Prod.fst ⊆ kept.map Prod.fst := by
  unfold weightsOf at h
  cases hproperty : scan.property with
  | none =>
    rw [hproperty] at h
    cases h
    exact List.nil_subset _
  | some name =>
    rw [hproperty] at h
    intro target htarget
    obtain ⟨weight, hweight, rfl⟩ := List.mem_map.mp htarget
    have hread : Except.ok weight ∈ kept.map (weightAt read name) := by
      rw [mapM_eq_ok_iff.mp h]
      exact List.mem_map_of_mem hweight
    obtain ⟨arrival, harrival, hown⟩ := List.mem_map.mp hread
    obtain ⟨value, _, rfl⟩ := map_eq_ok_iff.mp hown
    exact List.mem_map_of_mem harrival

/-- **A node folds weights for its targets only.** -/
theorem folded_subset_targets (h : scan.reading read node found = .ok reading) :
    reading.folded.map Prod.fst ⊆ reading.targets := by
  obtain ⟨weights, hweights, hfolds, htargets, _⟩ := reading_eq_ok h
  intro target htarget
  have hpending : target ∈ weights.map Prod.fst := by
    have hown := (hfolds.mem_iff target).mp htarget
    rw [List.map_map] at hown
    exact hown
  rw [htargets, mem_compact_sortTargets]
  exact map_fst_weightsOf_subset hweights hpending

/-- **The targets of a node are loaded.** -/
theorem index_lt_of_mem_targets (hmap : scan.idMap.Sound)
    (h : scan.reading read node found = .ok reading) {target : NodeId} (htarget : target ∈ reading.targets) :
    target.index < scan.idMap.nodeCount := by
  obtain ⟨arrival, harrival, rfl⟩ := List.mem_map.mp (((targets_of_reading h).2.2 target).mp htarget)
  obtain ⟨hmapped, _, _, hother, _⟩ := mem_arrivals.mp harrival
  exact IdMap.index_lt_of_toExternal ((hmap.toMapped_eq_iff hmapped).mp hother)

end ListScan

namespace LoadRun

variable {run : LoadRun}
  (hrows : ∀ node, node < run.idMap.nodeCount → run.nodeRow node = .ok (run.row node))

include hrows

/-- The targets in a list of a run are loaded. -/
theorem index_lt_of_mem_listOf (hmap : run.idMap.Sound) {list : Nat} {kind : ScanKind}
    (hkind : run.kinds[list]? = some kind) {target : NodeId}
    (htarget : target ∈ (run.listOf list).targets) : target.index < run.idMap.nodeCount := by
  have hflat : target ∈ (run.targetRows list).flatten := List.mem_toArray.mp htarget
  obtain ⟨row, hrow, hown⟩ := List.mem_flatten.mp hflat
  obtain ⟨node, hnode, rfl⟩ := List.mem_map.mp hrow
  obtain ⟨_, _, _, _, hreading, _⟩ := entry_spec (hrows node (List.mem_range.mp hnode)) hkind
  exact ListScan.index_lt_of_mem_targets hmap hreading hown

omit hrows in
/-- The targets of a node are those of its row. -/
theorem neighbors_listOf {node : NodeId} (hnode : node.index < run.idMap.nodeCount) (list : Nat) :
    (run.listOf list).neighbors node = (run.entry node.index list).targets := by
  rw [listOf, AdjacencyList.neighbors_ofRows, targetRows, List.getElem?_map, List.getElem?_range hnode]
  rfl

/-- A node that has a weight for a target has it for a loaded one, which is its neighbour in the first
list. -/
theorem mem_neighbors_of_foldedFor (hmap : run.idMap.Sound) {node target : NodeId}
    (h : run.foldedFor node target ≠ []) :
    node.index < run.idMap.nodeCount ∧ target.index < run.idMap.nodeCount ∧
      target ∈ (run.listOf 0).neighbors node := by
  unfold foldedFor at h
  split at h
  · next hnode =>
    obtain ⟨_, _, _, _, hreading, _⟩ := entry_spec (hrows _ hnode) run.getElem?_kinds_zero
    have hfolded : target ∈ (run.entry node.index 0).folded.map Prod.fst := by
      by_contra hnone
      have hlookup : (run.entry node.index 0).folded.lookup target = none := by
        rw [List.lookup_eq_none_iff]
        intro entry hentry
        have hne : entry.1 ≠ target := fun heq => hnone (heq ▸ List.mem_map_of_mem hentry)
        simpa using Ne.symm hne
      rw [ListScan.foldedAt, hlookup] at h
      exact h rfl
    have htarget := ListScan.folded_subset_targets hreading hfolded
    refine ⟨hnode, ListScan.index_lt_of_mem_targets hmap hreading htarget, ?_⟩
    rw [neighbors_listOf hnode]
    exact htarget
  · exact absurd rfl h

/-- **What is written under a pair** comes from one of its nodes that has the other as its neighbour. -/
theorem mem_neighbors_of_pairWeights (hmap : run.idMap.Sound) {source target : NodeId}
    (h : run.pairWeights source target ≠ []) :
    source.index < run.idMap.nodeCount ∧ target.index < run.idMap.nodeCount ∧
      (target ∈ (run.listOf 0).neighbors source ∨ source ∈ (run.listOf 0).neighbors target) := by
  have hsome : run.foldedFor source target ≠ [] ∨ run.foldedFor target source ≠ [] := by
    by_contra hnone
    rw [not_or, not_not, not_not] at hnone
    apply h
    unfold pairWeights
    split <;> simp only [hnone.1, hnone.2, List.append_nil, ite_self]
  rcases hsome with hforth | hback
  · obtain ⟨hsource, htarget, hmem⟩ := mem_neighbors_of_foldedFor hrows hmap hforth
    exact ⟨hsource, htarget, .inl hmem⟩
  · obtain ⟨htarget, hsource, hmem⟩ := mem_neighbors_of_foldedFor hrows hmap hback
    exact ⟨hsource, htarget, .inr hmem⟩

end LoadRun

/-! ## Closed graphs -/

namespace Graph

/-- Whether a list is one of those that were loaded. -/
def Keeps (graph : Graph) (list : AdjacencyList) : Prop :=
  graph.outgoing = some list ∨ graph.incoming = some list

/-- A graph that speaks of its own nodes only. -/
structure Closed (graph : Graph) : Prop where
  /-- The targets in each list are nodes of the graph. -/
  targets : ∀ list, graph.Keeps list → ∀ target ∈ list.targets, target.index < graph.nodeCount
  /-- A weight is stored under a pair of nodes of which one is a neighbour of the other. -/
  weights : ∀ entry ∈ graph.storedEntries, ∃ source target, entry.1 = .ofPair source target ∧
    source.index < graph.nodeCount ∧ target.index < graph.nodeCount ∧
    ∃ list, graph.Keeps list ∧ (target ∈ list.neighbors source ∨ source ∈ list.neighbors target)
  /-- No pair of nodes is taken for an empty place of the table. -/
  unreserved : ∀ source target : NodeId, source.index < graph.nodeCount → target.index < graph.nodeCount →
    PairKey.ofPair source target ≠ .reserved
  /-- No weight is stored where it is not found again. -/
  counted : graph.storedWeights = graph.storedEntries.length

/-- What a graph answers if it is asked for the neighbours of a node by external ids, given the ids of the
nodes that were loaded. -/
structure AnswersNeighbors (graph : Graph) (ids : List ExternalId) : Prop where
  loaded : ∀ id, (∃ answer, graph.externalNeighbors id = .ok answer) ↔ id ∈ ids
  refused : ∀ id error, graph.externalNeighbors id = .error error →
    error = .configuration (.nodeNotLoaded id)
  listed : ∀ id answer, graph.externalNeighbors id = .ok answer →
    answer.map (fun neighbor => (some neighbor.1, neighbor.2))
      = (graph.weightedNeighbors (graph.toMapped id) graph.direction).map fun neighbor =>
        (graph.toExternal neighbor.1, neighbor.2)
  counted : ∀ id answer, graph.externalNeighbors id = .ok answer →
    answer.length = graph.degree (graph.toMapped id) graph.direction

end Graph

/-- A neighbour of a node is among the targets of the list. -/
theorem AdjacencyList.neighbors_subset_targets (list : AdjacencyList) (node : NodeId) :
    list.neighbors node ⊆ list.targets.toList := by
  unfold neighbors
  split
  · intro target htarget
    rw [Array.toList_extract, List.extract_eq_take_drop] at htarget
    exact List.mem_of_mem_drop (List.mem_of_mem_take htarget)
  · exact List.nil_subset _

namespace LoadRun

variable {run : LoadRun}

/-- Each list that a graph keeps is one of the lists of its run. -/
theorem exists_of_keeps {weights : Option WeightTable} {list : AdjacencyList}
    (h : (run.graphWith weights).Keeps list) :
    ∃ position kind, run.kinds[position]? = some kind ∧ list = run.listOf position := by
  cases hundirected : run.config.undirected with
  | true =>
    simp only [Graph.Keeps, graphWith, hundirected, if_true, Option.some.injEq, reduceCtorEq,
      or_false] at h
    exact ⟨0, _, run.getElem?_kinds_zero, h.symm⟩
  | false =>
    simp only [Graph.Keeps, graphWith, hundirected, Bool.false_eq_true, if_false] at h
    rcases h with h | h <;>
    · obtain ⟨position, kind, hkind, _, hlist⟩ := exists_of_listToward h
      exact ⟨position, kind, hkind, hlist⟩

/-- The graph of a run keeps the list that reads weights. -/
theorem keeps_listOf_zero (weights : Option WeightTable) :
    (run.graphWith weights).Keeps (run.listOf 0) := by
  cases hundirected : run.config.undirected with
  | true => exact .inl (if_pos hundirected)
  | false =>
    cases hdirection : run.config.direction <;> cases hweighted : run.config.isWeighted <;>
      simp [Graph.Keeps, graphWith, listToward, kinds, ScanKind.forLoad, hundirected, hdirection,
        hweighted, ScanKind.direction, List.zipIdx_cons]

/-- **The graph of a run is closed.** -/
theorem closed_graphWith (hmap : run.idMap.Sound) (hcomplete : run.Complete) {parts : Assembled}
    (hholds : run.Holds parts) : (run.graphWith parts.weights).Closed where
  targets := by
    intro list hkeeps target htarget
    obtain ⟨position, kind, hkind, rfl⟩ := exists_of_keeps hkeeps
    exact index_lt_of_mem_listOf hcomplete.rows hmap hkind htarget
  weights := by
    rintro ⟨key, weight⟩ hentry
    obtain ⟨source, target, rfl⟩ := key.exists_ofPair
    have hanswers := hholds.answers
    cases hweights : parts.weights with
    | none =>
      rw [hweights] at hentry
      cases hentry
    | some table =>
      rw [hweights] at hentry hanswers
      obtain ⟨_, hsound, _, hfind⟩ := hanswers
      -- what is stored under the pair has been written under it
      have hwritten : run.pairWeights source target ≠ [] := by
        intro hnone
        have hstored := hsound.mem_entries_iff.mp hentry
        rw [hfind, hnone, foldWeights_nil] at hstored
        cases hstored
      obtain ⟨hsource, htarget, hneighbor⟩ :=
        mem_neighbors_of_pairWeights hcomplete.rows hmap hwritten
      exact ⟨source, target, rfl, hsource, htarget, _, run.keeps_listOf_zero _, hneighbor⟩
  unreserved := by
    intro source target hsource _
    have hmapped : source.isMapped = true := by
      rw [← NodeId.ofIndex_index source]
      exact NodeId.isMapped_ofIndex (Nat.lt_of_lt_of_le hsource hmap.few)
    exact PairKey.ofPair_ne_reserved (.inl hmapped)
  counted := by
    have hanswers := hholds.answers
    unfold Graph.storedWeights Graph.storedEntries graphWith
    cases hweights : parts.weights with
    | none => rfl
    | some table =>
      rw [hweights] at hanswers
      exact hanswers.2.1.size_eq

end LoadRun

/-! ## Asking for neighbours -/

namespace Graph

variable {graph : Graph}

/-- Note a neighbour with its external id, if it has one. -/
def noteExternal (graph : Graph) (neighbor : NodeId × Float)
    (found : Array (ExternalId × Float) × Option NodeId) :
    (Array (ExternalId × Float) × Option NodeId) × Bool :=
  match graph.toExternal neighbor.1 with
  | some external => ((found.1.push (external, neighbor.2), none), true)
  | none => ((found.1, some neighbor.1), false)

/-- **Neighbours that all have external ids** are all noted. -/
theorem visitWhile_noteExternal {neighbors : List (NodeId × Float)}
    (h : ∀ neighbor ∈ neighbors, ∃ id, graph.toExternal neighbor.1 = some id) :
    ∀ found : Array (ExternalId × Float), ∃ noted : List (ExternalId × Float),
      visitWhile graph.noteExternal neighbors (found, none) = ((found ++ noted.toArray, none), true) ∧
      noted.map (fun neighbor => (some neighbor.1, neighbor.2))
        = neighbors.map fun neighbor => (graph.toExternal neighbor.1, neighbor.2) := by
  induction neighbors with
  | nil => exact fun found => ⟨[], by simp [visitWhile], rfl⟩
  | cons neighbor neighbors ih =>
    intro found
    obtain ⟨id, hid⟩ := h neighbor List.mem_cons_self
    obtain ⟨noted, hvisit, hnoted⟩ := ih (fun other hother => h other (List.mem_cons_of_mem _ hother))
      (found.push (id, neighbor.2))
    refine ⟨(id, neighbor.2) :: noted, ?_, ?_⟩
    · have hstep : graph.noteExternal neighbor (found, none)
          = ((found.push (id, neighbor.2), none), true) := by
        unfold noteExternal
        rw [hid]
      simp only [visitWhile, hstep, hvisit]
      simp
    · rw [List.map_cons, List.map_cons, hnoted, hid]

/-- A node that is there is asked for its neighbours. -/
theorem externalNeighbors_eq {id : ExternalId} (hid : graph.contains id = true) :
    graph.externalNeighbors id
      = match graph.forEachWeighted (graph.toMapped id) graph.direction
          (fun _ other weight found => graph.noteExternal (other, weight) found) (#[], none) with
        | (found, none) => .ok found.toList
        | (_, some other) => .error (.sourceInconsistent (.noExternalId other)) := by
  unfold externalNeighbors find
  rw [if_pos hid]
  rfl

/-- What a graph answers for a node whose neighbours all have external ids. -/
theorem exists_externalNeighbors {id : ExternalId} (hid : graph.contains id = true)
    (h : ∀ neighbor ∈ graph.neighbors (graph.toMapped id) graph.direction,
      ∃ id, graph.toExternal neighbor = some id) :
    ∃ answer, graph.externalNeighbors id = .ok answer ∧
      answer.map (fun neighbor => (some neighbor.1, neighbor.2))
        = (graph.weightedNeighbors (graph.toMapped id) graph.direction).map fun neighbor =>
          (graph.toExternal neighbor.1, neighbor.2) := by
  have hall : ∀ neighbor ∈ graph.weightedNeighbors (graph.toMapped id) graph.direction,
      ∃ id, graph.toExternal neighbor.1 = some id := by
    intro neighbor hneighbor
    apply h
    rw [← map_fst_weightedNeighbors]
    exact List.mem_map_of_mem hneighbor
  obtain ⟨noted, hvisit, hnoted⟩ := visitWhile_noteExternal hall #[]
  refine ⟨noted, ?_, hnoted⟩
  have hvisited : graph.forEachWeighted (graph.toMapped id) graph.direction
      (fun _ other weight found => graph.noteExternal (other, weight) found) (#[], none)
      = (noted.toArray, none) := by
    rw [forEachWeighted_eq, hvisit, Array.empty_append]
  rw [externalNeighbors_eq hid, hvisited]

theorem keeps_of_list? {direction : Direction} {list : AdjacencyList}
    (h : graph.list? direction = some list) : graph.Keeps list := by
  unfold list? at h
  split at h
  · exact .inl h
  · cases direction with
    | outgoing => exact .inl h
    | incoming => exact .inr h
    | both => cases h

/-- In a closed graph all neighbours have external ids. -/
theorem Closed.exists_toExternal (h : graph.Closed) {direction : Direction} {node neighbor : NodeId}
    (hneighbor : neighbor ∈ graph.neighbors node direction) :
    ∃ id, graph.toExternal neighbor = some id := by
  obtain ⟨part, _, htarget⟩ := List.mem_flatMap.mp hneighbor
  rw [targets_eq] at htarget
  cases hlist : graph.list? part with
  | none =>
    rw [hlist] at htarget
    cases htarget
  | some list =>
    rw [hlist] at htarget
    have hmem := Array.mem_toList_iff.mp (list.neighbors_subset_targets node htarget)
    exact IdMap.exists_toExternal (h.targets list (keeps_of_list? hlist) neighbor hmem)

/-- A closed graph answers, or the node is none of its own. -/
theorem Closed.externalNeighbors_cases (h : graph.Closed) (hmap : graph.idMap.Sound) (id : ExternalId) :
    (id ∈ graph.idMap.externals.toList ∧ ∃ answer, graph.externalNeighbors id = .ok answer ∧
      answer.map (fun neighbor => (some neighbor.1, neighbor.2))
        = (graph.weightedNeighbors (graph.toMapped id) graph.direction).map fun neighbor =>
          (graph.toExternal neighbor.1, neighbor.2)) ∨
    (id ∉ graph.idMap.externals.toList ∧
      graph.externalNeighbors id = .error (.configuration (.nodeNotLoaded id))) := by
  have hcontains : graph.contains id = true ↔ id ∈ graph.idMap.externals.toList :=
    hmap.numbers.contains id
  by_cases hid : id ∈ graph.idMap.externals.toList
  · exact .inl ⟨hid, exists_externalNeighbors (hcontains.mpr hid) fun _ => h.exists_toExternal⟩
  · refine .inr ⟨hid, ?_⟩
    unfold externalNeighbors find
    rw [if_neg fun hloaded => hid (hcontains.mp hloaded)]
    rfl

/-- **A closed graph answers** for all nodes that it has. -/
theorem Closed.answersNeighbors (h : graph.Closed) (hmap : graph.idMap.Sound) :
    graph.AnswersNeighbors graph.idMap.externals.toList := by
  refine ⟨fun id => ?_, fun id error herror => ?_, fun id answer hanswer => ?_, fun id answer hanswer => ?_⟩
  all_goals obtain ⟨hid, own, hown, hlisted⟩ | ⟨hid, hown⟩ := h.externalNeighbors_cases hmap id
  · exact iff_of_true ⟨own, hown⟩ hid
  · refine iff_of_false ?_ hid
    rintro ⟨answer, hanswer⟩
    rw [hown] at hanswer
    cases hanswer
  · rw [hown] at herror
    cases herror
  · rw [hown] at herror
    exact (Except.error.inj herror).symm
  · rw [hown] at hanswer
    cases hanswer
    exact hlisted
  · rw [hown] at hanswer
    cases hanswer
  · rw [hown] at hanswer
    cases hanswer
    have hlength := congrArg List.length hlisted
    rw [List.length_map, List.length_map] at hlength
    rw [hlength, degree_eq_length, ← map_fst_weightedNeighbors, List.length_map]
  · rw [hown] at hanswer
    cases hanswer

end Graph

/-! ## Loads -/

/-- **Loaded graphs are closed.**  Whatever the store answers, whatever is asked for and however long it takes,
the graph of a load that succeeds speaks of its own nodes only, and tells the neighbours of exactly the nodes
that the store has delivered. -/
theorem closed_of_loadSource {pin : Except LoadError Snapshot} {config : LoadConfig} {machine : Nat}
    {schedule : Phase → List Nat} {clock : Clock} {graph : Graph} {summary : LoadSummary}
    (h : loadSource pin config machine schedule clock = .ok (graph, summary)) :
    ∃ snapshot, pin = .ok snapshot ∧ graph.direction = config.direction ∧ graph.Closed ∧
      graph.AnswersNeighbors (snapshot.scanNodes config.nodeLabel).ids := by
  obtain ⟨_, _, h⟩ := bind_eq_ok_iff.mp h
  obtain ⟨snapshot, hpin, h⟩ := bind_eq_ok_iff.mp h
  obtain ⟨run, parts, rfl, hmap, hids, hcomplete, hholds, rfl⟩ := exists_run_of_loadSnapshot h
  have hclosed := LoadRun.closed_graphWith hmap hcomplete hholds
  have hanswers := hclosed.answersNeighbors hmap
  refine ⟨snapshot, hpin, rfl, hclosed, fun id => ?_, hanswers.refused, hanswers.listed,
    hanswers.counted⟩
  have hsame : id ∈ run.idMap.externals.toList ↔ id ∈ (snapshot.scanNodes run.config.nodeLabel).ids := by
    rw [hids, loadedIds, List.mem_eraseDups]
  exact (hanswers.loaded id).trans hsame

/-- What is answered about roads between two places. -/
theorem closed_of_roads : ∃ graph summary,
    loadSource (MemoryGraph.ofWrites roadWrites).snapshot
      { direction := .both, weightProperty := some "cost", policy := .sum } 1 (fun _ => [])
      = .ok (graph, summary) ∧
    graph.Closed ∧ (∃ answer, graph.externalNeighbors ⟨2⟩ = .ok answer) ∧
    ∀ answer, graph.externalNeighbors ⟨3⟩ ≠ .ok answer := by
  have hstore := MemoryGraph.sound_ofWrites roadWrites
  obtain ⟨⟨graph, summary⟩, hload⟩ := @exists_loadSource (MemoryGraph.ofWrites roadWrites)
    { direction := .both, weightProperty := some "cost", policy := .sum } 1 (fun _ => []) hstore rfl rfl
    loadable_roadWrites (Or.inr (by decide))
  obtain ⟨snapshot, hpin, _, hclosed, hanswers⟩ := closed_of_loadSource hload
  rw [hstore.snapshot_eq] at hpin
  cases hpin
  have hids : ((MemoryGraph.ofWrites roadWrites).answers.scanNodes none).ids = [⟨1⟩, ⟨2⟩] :=
    nodesWith_roadWrites
  refine ⟨graph, summary, hload, hclosed, (hanswers.loaded ⟨2⟩).mpr ?_, fun answer hanswer => ?_⟩
  · rw [hids]
    decide
  · have hmem := (hanswers.loaded ⟨3⟩).mp ⟨answer, hanswer⟩
    rw [hids] at hmem
    revert hmem
    decide

end CompactGraph
