/-
# Loads of graphs in memory

A run over a graph in memory finds a row for every node, unless two weights meet that may not, and the
rows say what the relationships of the graph say: which loaded nodes are connected, and with which
weights.
-/
import CompactGraph.Proofs.Load.Degrees
import CompactGraph.Proofs.Source.Sighted

namespace CompactGraph

namespace LoadRun

variable {run : LoadRun} {store : MemoryGraph}

/-! ## Rows -/

section Rows

variable (hstore : store.Sound) (hsnapshot : run.snapshot = store.answers) (hmap : run.idMap.Sound)

include hsnapshot

/-- What a list of a row is read from. -/
theorem reading_of_nodeRow {node : Nat} (hrow : run.nodeRow node = .ok (run.row node)) {list : Nat}
    {kind : ScanKind} (hkind : run.kinds[list]? = some kind) :
    ∃ own, run.idMap.toExternal (NodeId.ofIndex node) = some own ∧
      (run.scanOf kind).reading (fun id name => .ok (store.property id name)) (NodeId.ofIndex node)
        (store.relationshipsOf own kind.direction run.config.relationshipType)
        = .ok (run.entry node list) := by
  obtain ⟨own, found, hid, hfound, hreading, _⟩ := entry_spec hrow hkind
  rw [hsnapshot] at hfound hreading
  cases hfound
  exact ⟨own, toExternal_of_externalId hid, hreading⟩

include hstore hmap

/-- **The targets of a node** are the loaded nodes that a relationship connects it with. -/
theorem mem_targets_iff {node : Nat} (hrow : run.nodeRow node = .ok (run.row node)) {list : Nat}
    {kind : ScanKind} (hkind : run.kinds[list]? = some kind) {target : NodeId} :
    target ∈ (run.entry node list).targets ↔ ∃ own other,
      run.idMap.toExternal (NodeId.ofIndex node) = some own ∧
      run.idMap.toExternal target = some other ∧
      store.Connects run.config.relationshipType kind.direction own other := by
  obtain ⟨own, hown, hreading⟩ := reading_of_nodeRow hsnapshot hrow hkind
  rw [(ListScan.targets_of_reading hreading).2.2 target]
  -- passing over repeated self-loops loses no target
  have hseen : target.isMapped = true → (target ∈ ((run.scanOf kind).arrivals
      ((run.scanOf kind).sightings (NodeId.ofIndex node) []
        (store.relationshipsOf own kind.direction run.config.relationshipType))).map Prod.fst ↔
      (run.scanOf kind).leadingTo target
        (store.relationshipsOf own kind.direction run.config.relationshipType) ≠ []) := by
    intro htarget
    rw [ListScan.mem_arrivals_iff htarget, ne_eq, ListScan.leadingTo_sightings_eq_nil_iff]
  have hmap' : (run.scanOf kind).idMap.Sound := hmap
  have hconnects : ∀ {other}, run.idMap.toExternal target = some other →
      ((run.scanOf kind).leadingTo target
        (store.relationshipsOf own kind.direction run.config.relationshipType) ≠ [] ↔
      store.Connects run.config.relationshipType kind.direction own other) :=
    fun htarget => MemoryGraph.leadingTo_ne_nil_iff hstore hmap' htarget _
  constructor
  · intro hmem
    obtain ⟨arrival, harrival, rfl⟩ := List.mem_map.mp hmem
    obtain ⟨hmapped, relationship, _, hother, _⟩ := ListScan.mem_arrivals.mp harrival
    have htarget := (hmap.toMapped_eq_iff hmapped).mp hother
    refine ⟨own, relationship.other, hown, htarget, ?_⟩
    exact (hconnects htarget).mp ((hseen hmapped).mp hmem)
  · rintro ⟨own', other, hown', htarget, hother⟩
    obtain rfl : own = own' := Option.some.inj (hown.symm.trans hown')
    rw [hseen (hmap.isMapped_of_toExternal htarget)]
    exact (hconnects htarget).mpr hother

/-! ## Folded weights -/

section Folded

variable {name : String} (hname : run.config.weightProperty = some name)
  (hweighted : run.mainKind.isWeighted = true) {node target : NodeId}

include hname hweighted

/-- **The weight that a node has folded** for another is the fold of all weights that it sees there. -/
theorem foldedFor_of_toExternal (hrow : run.nodeRow node.index = .ok (run.row node.index))
    {own other : ExternalId} (hnode : run.idMap.toExternal node = some own)
    (htarget : run.idMap.toExternal target = some other) :
    run.foldedFor node target = (foldWeights run.config.policy
      (store.seenWeights run.config run.mainKind.direction own other)).toList := by
  have hlt := IdMap.index_lt_of_toExternal hnode
  obtain ⟨own', hown, hreading⟩ := reading_of_nodeRow hsnapshot hrow run.getElem?_kinds_zero
  rw [NodeId.ofIndex_index] at hown hreading
  obtain rfl : own = own' := Option.some.inj (hnode.symm.trans hown)
  have hproperty : (run.scanOf run.mainKind).property = some name := (if_pos hweighted).trans hname
  have hmap' : (run.scanOf run.mainKind).idMap.Sound := hmap
  rw [foldedFor, if_pos hlt, ListScan.foldedAt, ListScan.lookup_folded (fun _ _ => rfl) hproperty hreading
    (hmap.isMapped_of_toExternal htarget)]
  congr 2
  exact MemoryGraph.weights_sighted hstore hmap' htarget hnode hname rfl

omit hstore in
/-- No weight is folded for nodes that are not loaded. -/
theorem foldedFor_eq_nil
    (hnone : run.idMap.toExternal node = none ∨ run.idMap.toExternal target = none) :
    run.foldedFor node target = [] := by
  unfold foldedFor
  split
  · by_cases hrow : run.nodeRow node.index = .ok (run.row node.index)
    case neg =>
      rw [folded_eq_nil hrow]
      rfl
    obtain ⟨own, hown, hreading⟩ := reading_of_nodeRow hsnapshot hrow run.getElem?_kinds_zero
    rw [NodeId.ofIndex_index] at hown hreading
    have htarget : run.idMap.toExternal target = none := by
      refine hnone.resolve_left fun hnode => ?_
      rw [hnode] at hown
      cases hown
    have hproperty : (run.scanOf run.mainKind).property = some name := (if_pos hweighted).trans hname
    unfold ListScan.foldedAt
    rw [Option.toList_eq_nil_iff]
    -- a weight that is folded was read for a loaded target
    by_contra hsome
    obtain ⟨arrival, harrival, rfl⟩ := List.mem_map.mp
      (ListScan.mem_arrivals_of_lookup (fun _ _ => rfl) hproperty hreading hsome)
    obtain ⟨hmapped, relationship, _, hother, _⟩ := ListScan.mem_arrivals.mp harrival
    rw [(hmap.toMapped_eq_iff hmapped).mp hother] at htarget
    cases htarget
  · rfl

/-- What a node folds for another, told by the relationships. -/
def foldSeen (run : LoadRun) (store : MemoryGraph) (node target : NodeId) : Option Float :=
  (run.idMap.toExternal node).bind fun own => (run.idMap.toExternal target).bind fun other =>
    foldWeights run.config.policy
      (store.seenWeights run.config run.mainKind.direction own other)

variable (hrows : ∀ node, node < run.idMap.nodeCount → run.nodeRow node = .ok (run.row node))

include hrows

theorem foldedFor_eq (node target : NodeId) :
    run.foldedFor node target = (run.foldSeen store node target).toList := by
  unfold foldSeen
  cases hnode : run.idMap.toExternal node with
  | none => exact foldedFor_eq_nil hsnapshot hmap hname hweighted (Or.inl hnode)
  | some own =>
    cases htarget : run.idMap.toExternal target with
    | none => exact foldedFor_eq_nil hsnapshot hmap hname hweighted (Or.inr htarget)
    | some other =>
      exact foldedFor_of_toExternal hstore hsnapshot hmap hname hweighted
        (hrows node.index (IdMap.index_lt_of_toExternal hnode)) hnode htarget

/-- What is folded for a pair, told by the relationships. -/
def foldPair (run : LoadRun) (store : MemoryGraph) (source target : NodeId) : Option Float :=
  match run.mainKind with
  | .incoming _ => run.foldSeen store target source
  | .symmetric =>
    if source = target then run.foldSeen store source target
    else if source.index < target.index then
      run.config.policy.join (run.foldSeen store source target) (run.foldSeen store target source)
    else run.config.policy.join (run.foldSeen store target source) (run.foldSeen store source target)
  | _ => run.foldSeen store source target

/-- **The weight of a pair** is folded from the weights of relationships. -/
theorem foldWeights_pairWeights (source target : NodeId) :
    foldWeights run.config.policy (run.pairWeights source target) = run.foldPair store source target := by
  have hfolded := foldedFor_eq hstore hsnapshot hmap hname hweighted hrows
  unfold pairWeights
  rw [foldPair]
  cases run.mainKind with
  | outgoing weighted => simp only [hfolded, foldWeights_toList]
  | incoming weighted => simp only [hfolded, foldWeights_toList]
  | undirected weighted => simp only [hfolded, foldWeights_toList]
  | symmetric =>
    simp only [hfolded]
    split
    · exact foldWeights_toList _
    · split
      · exact foldWeights_join ..
      · exact foldWeights_join ..

end Folded

end Rows

/-! ## Completeness -/

section Complete

variable (hsnapshot : run.snapshot = store.answers)
  (hmeet : run.config.weightProperty = none ∨ run.config.policy ≠ .reject)

include hsnapshot

/-- The degrees that a graph in memory reports are those of its lists of relationships. -/
theorem reported_of_memory (id : ExternalId) : run.Reported
    (fun direction own => (store.relationshipsOf own direction run.config.relationshipType).length)
    id := by
  unfold Reported
  rw [hsnapshot]
  exact fun _ _ => rfl

theorem exists_boundsOf (own : ExternalId) : ∃ bounds?, run.boundsOf? own = .ok bounds? := by
  unfold boundsOf?
  rw [(reported_of_memory hsnapshot own).degreesOf]
  split
  · exact ⟨_, rfl⟩
  · exact ⟨_, rfl⟩

/-- The relationships of a node are no more than were reported. -/
theorem boundedRelationships_eq {own : ExternalId} {bounds? : Option NodeBounds}
    (hbounds : run.boundsOf? own = .ok bounds?) {kind : ScanKind} {list : Nat}
    (hkind : run.kinds[list]? = some kind) :
    run.boundedRelationships kind (bounds?.map fun bounds => bounds[list]?.getD 0) own
      = .ok (store.relationshipsOf own kind.direction run.config.relationshipType) := by
  unfold boundedRelationships
  rw [hsnapshot]
  cases bounds? with
  | none => rfl
  | some bounds =>
    have hown : bounds = run.kinds.map fun kind =>
        (store.relationshipsOf own kind.direction run.config.relationshipType).length := by
      unfold boundsOf? at hbounds
      rw [(reported_of_memory hsnapshot own).degreesOf] at hbounds
      split at hbounds
      · cases hbounds
        rfl
      · cases hbounds
    have hbound : bounds[list]?.getD 0
        = (store.relationshipsOf own kind.direction run.config.relationshipType).length := by
      rw [hown, List.getElem?_map, hkind]
      rfl
    rw [Option.map_some, hbound]
    exact if_neg (Nat.lt_irrefl _)

/-- A node has a row if each of its lists can be read. -/
theorem exists_nodeRow_of_readings {node : Nat} {own : ExternalId}
    (hown : run.externalId node = .ok own)
    (hreadings : ∀ kind ∈ run.kinds, ∃ reading, (run.scanOf kind).reading run.snapshot.property
      (NodeId.ofIndex node)
      (store.relationshipsOf own kind.direction run.config.relationshipType) = .ok reading) :
    ∃ row, run.nodeRow node = .ok row := by
  obtain ⟨bounds?, hbounds⟩ := exists_boundsOf hsnapshot own
  have hrow : ∃ row, run.kinds.zipIdx.mapM (fun both => run.readingWithin both.1
      (bounds?.map fun bounds => bounds[both.2]?.getD 0) node own) = .ok row := by
    apply exists_mapM_of_forall
    rintro ⟨kind, list⟩ hmem
    have hkind := List.mem_zipIdx_iff_getElem?.mp hmem
    obtain ⟨reading, hreading⟩ := hreadings kind (List.mem_of_getElem? hkind)
    exact ⟨reading, bind_eq_ok_iff.mpr ⟨_, boundedRelationships_eq hsnapshot hbounds hkind, hreading⟩⟩
  obtain ⟨row, hrow⟩ := hrow
  exact ⟨row, bind_eq_ok_iff.mpr ⟨own, hown, bind_eq_ok_iff.mpr ⟨bounds?, hbounds, hrow⟩⟩⟩

/-- A list without weights, or whose weights may meet, can be read. -/
theorem exists_reading_of_meets {kind : ScanKind}
    (hmeets : (run.scanOf kind).property = none ∨ run.config.policy ≠ .reject) (node : NodeId)
    (found : List RelationshipRef) :
    ∃ reading, (run.scanOf kind).reading run.snapshot.property node found = .ok reading := by
  have hread : ∀ id name, run.snapshot.property id name = .ok (store.property id name) := by
    rw [hsnapshot]
    exact fun _ _ => rfl
  exact ListScan.exists_reading hread hmeets found

include hmeet

/-- **Every node has a row.** -/
theorem exists_nodeRow (hmap : run.idMap.Sound) {node : Nat} (hnode : node < run.idMap.nodeCount) :
    ∃ row, run.nodeRow node = .ok row := by
  obtain ⟨own, hown, _⟩ := exists_externalId hnode hmap.few
  refine exists_nodeRow_of_readings hsnapshot hown fun kind _ => ?_
  -- a list without weights folds nothing, and one with weights may
  refine exists_reading_of_meets hsnapshot (hmeet.imp_left fun hnone => ?_) _ _
  unfold ListScan.property
  split
  · exact hnone
  · rfl

omit hmeet in
/-- The reported degrees in a list are no more than the relationships have ends. -/
theorem total_degreeIn_le (hstore : store.Sound) (hmap : run.idMap.Sound) {list : Nat}
    (hlist : list < run.kinds.length) :
    total ((List.range run.idMap.nodeCount).map (run.degreeIn list)) ≤ 2 * store.relationships.size := by
  rw [map_degreeIn hmap.few (fun _ own _ => reported_of_memory hsnapshot own)
    (List.getElem?_eq_getElem hlist)]
  exact hstore.total_relationshipsOf_le _ _ hmap.nodup

/-- **A run over a graph in memory succeeds**, if the graph is no larger than memory and no two weights
meet that may not. -/
theorem complete_of_memory (hstore : store.Sound) (hmap : run.idMap.Sound)
    (hroom : 2 * store.relationships.size ≤ maxTargets) : run.Complete := by
  have hrows : ∀ node, node < run.idMap.nodeCount → run.nodeRow node = .ok (run.row node) := by
    intro node hnode
    obtain ⟨row, hrow⟩ := exists_nodeRow hsnapshot hmeet hmap hnode
    rw [hrow, row_eq_of_ok hrow]
  have hbounds := nodeBounds_of_reported hmap.few fun _ own _ => reported_of_memory hsnapshot own
  refine ⟨hrows, fun _ => hbounds, fun _ list hlist => ?_, ?_⟩
  · exact (total_degreeIn_le hsnapshot hstore hmap hlist).trans hroom
  · rcases hmeet with hunweighted | hpolicy
    · apply unrepeated_of_unweighted
      rw [LoadConfig.isWeighted, hunweighted]
      rfl
    · exact fun hreject => absurd hreject hpolicy

end Complete

end LoadRun

/-! ## Loads -/

/-- A graph in memory that can be loaded.  There are numbers for all nodes with the label.  The
relationships lie in one array, which has two words at least for each, and no array takes `2 ^ 63` bytes
or more. -/
structure MemoryGraph.Loadable (graph : MemoryGraph) (label : Option String) : Prop where
  nodes : (graph.nodesWith label).length ≤ maxNodeCount
  relationships : 16 * graph.relationships.size < 2 ^ 63

section Loads

variable {store : MemoryGraph} {config : LoadConfig} {machine : Nat} {schedule : Phase → List Nat}
  (hstore : store.Sound)

include hstore

/-- A load of a graph in memory is a load of what the graph answers. -/
theorem loadSource_eq : loadSource store.snapshot config machine schedule
    = loadSnapshot store.answers config machine schedule := by
  unfold loadSource
  rw [hstore.snapshot_eq]
  cases hvalid : config.validate with
  | ok _ => rfl
  | error error =>
    unfold loadSnapshot
    rw [hvalid]
    rfl

theorem loadedIds_answers : loadedIds store.answers config = store.nodesWith config.nodeLabel :=
  eraseDups_of_nodup (hstore.nodup_nodesWith _)

/-- **What a load of a graph in memory ends with.** -/
theorem graph_of_loadSource (htimeout : config.timeout = none) {graph : Graph} {summary : LoadSummary}
    (h : loadSource store.snapshot config machine schedule = .ok (graph, summary)) :
    ∃ map parts, map.Sound ∧ map.externals.toList = store.nodesWith config.nodeLabel ∧
      (runOver store.answers config machine map schedule).Complete ∧
      (runOver store.answers config machine map schedule).Holds parts ∧
      graph = (runOver store.answers config machine map schedule).graphWith parts.weights := by
  rw [loadSource_eq hstore] at h
  obtain ⟨map, parts, _, hmap, hids, hcomplete, hholds, hgraph, _⟩ :=
    graph_of_loadSnapshot (fun _ => rfl) htimeout h
  rw [loadedIds_answers hstore] at hids
  exact ⟨map, parts, hmap, hids, hcomplete, hholds, hgraph⟩

/-- Nodes are numbered in the order of the store. -/
theorem toExternal_of_loadSource (htimeout : config.timeout = none) {graph : Graph}
    {summary : LoadSummary}
    (h : loadSource store.snapshot config machine schedule = .ok (graph, summary)) (node : NodeId) :
    graph.toExternal node = (store.nodesWith config.nodeLabel)[node.index]? := by
  obtain ⟨map, _, _, hids, _, _, rfl⟩ := graph_of_loadSource hstore htimeout h
  rw [← hids]
  exact Array.getElem?_toList.symm

/-- The nodes of a graph in memory can be numbered. -/
theorem exists_collectNodes_of_loadable (htimeout : config.timeout = none)
    (hloadable : store.Loadable config.nodeLabel) : ∃ map,
      collectNodes store.answers config.nodeLabel { limit := config.timeout } = .ok map :=
  exists_collectNodes htimeout rfl rfl (by
    show (loadedIds store.answers config).length ≤ maxNodeCount
    rw [loadedIds_answers hstore]
    exact hloadable.nodes)

omit hstore in
/-- A region has at most two targets of four bytes for each relationship. -/
theorem MemoryGraph.Loadable.room {label : Option String} (h : store.Loadable label) :
    2 * store.relationships.size ≤ maxTargets := by
  have hmax : maxTargets = 2 ^ 61 - 1 := rfl
  have hsize := h.relationships
  omega

/-- **A graph in memory can be loaded**, unless two weights meet that may not. -/
theorem exists_loadSource (htimeout : config.timeout = none) (hvalid : config.validate = .ok ())
    (hloadable : store.Loadable config.nodeLabel)
    (hmeet : config.weightProperty = none ∨ config.policy ≠ .reject) :
    ∃ loaded, loadSource store.snapshot config machine schedule = .ok loaded := by
  rw [loadSource_eq hstore]
  obtain ⟨map, hmap⟩ := exists_collectNodes_of_loadable hstore htimeout hloadable
  obtain ⟨hsound, _⟩ := sound_of_collectNodes htimeout hmap
  exact exists_loadSnapshot (fun _ => rfl) htimeout hvalid hmap
    (LoadRun.complete_of_memory rfl hmeet hstore hsound hloadable.room)

end Loads

end CompactGraph
