/-
# What a run builds

A run succeeds exactly if all nodes have rows, the room for them can be reserved, and no two weights
meet that may not (`LoadRun.Complete`).  Its lists, weights and counts are then those of the rows of all
nodes (`LoadRun.Holds`).  Neither mentions partitions, workers or schedules.
-/
import CompactGraph.Proofs.Load.Assembly
import CompactGraph.Proofs.Load.Weights

namespace CompactGraph

namespace LoadRun

/-- What it takes for a run to succeed. -/
structure Complete (run : LoadRun) : Prop where
  rows : ∀ node, node < run.idMap.nodeCount → run.nodeRow node = .ok (run.row node)
  reported : run.sizing = .exact →
    ∀ node, node < run.idMap.nodeCount → run.nodeBounds node = .ok (run.degreesAt node)
  reserved : run.sizing = .exact → ∀ list, list < run.kinds.length →
    total ((List.range run.idMap.nodeCount).map (run.degreeIn list)) ≤ maxTargets
  unrepeated : run.Unrepeated

/-- What a run that succeeds has built. -/
structure Holds (run : LoadRun) (parts : Assembled) : Prop where
  lists : parts.lists = (List.range run.kinds.length).map run.listOf
  answers : run.Answers parts.weights
  counts : parts.counts
    = ScanCounts.total ((List.range run.idMap.nodeCount).map fun node => rowCounts (run.row node))

variable {run : LoadRun}

/-! ## Sizes -/

theorem total_map_const {α : Type} (items : List α) (count : Nat) :
    total (items.map fun _ => count) = items.length * count := by
  induction items with
  | nil => simp
  | cons item items ih =>
    rw [List.map_cons, total_cons, ih, List.length_cons, Nat.add_one_mul]
    omega

/-- The targets of a row are in strictly ascending order. -/
theorem ascending_targets {node list : Nat} (h : run.nodeRow node = .ok (run.row node))
    (hlist : list < run.kinds.length) : Ascending (run.entry node list).targets := by
  obtain ⟨_, _, _, _, hreading, _⟩ := entry_spec h (List.getElem?_eq_getElem hlist)
  exact (ListScan.targets_of_reading hreading).1

/-- The targets of all nodes together can be counted. -/
theorem length_targetRows_lt
    (hrows : ∀ node, node < run.idMap.nodeCount → run.nodeRow node = .ok (run.row node))
    (hcount : run.idMap.nodeCount ≤ maxNodeCount) {list : Nat} (hlist : list < run.kinds.length) :
    (run.targetRows list).flatten.length < offsetLimit := by
  have hrow : ∀ row ∈ run.targetRows list, row.length ≤ UInt32.size := by
    intro row hrow
    obtain ⟨node, hnode, rfl⟩ := List.mem_map.mp hrow
    exact (ascending_targets (hrows node (List.mem_range.mp hnode)) hlist).length_le
      fun target _ => target.index_lt
  have hlength : (run.targetRows list).length = run.idMap.nodeCount := by
    unfold targetRows
    rw [List.length_map, List.length_range]
  have hflat : (run.targetRows list).flatten.length ≤ run.idMap.nodeCount * UInt32.size := by
    rw [← total_map_length, ← hlength, ← total_map_const]
    exact total_map_le hrow
  calc (run.targetRows list).flatten.length
      ≤ run.idMap.nodeCount * UInt32.size := hflat
    _ ≤ maxNodeCount * UInt32.size := Nat.mul_le_mul_right _ hcount
    _ < offsetLimit := by decide

/-! ## Lists -/

section Lists

variable {capacityOf : NodeRange → Nat} {outputs : List PartitionOutput}
  (hrows : ∀ node, node < run.idMap.nodeCount → run.nodeRow node = .ok (run.row node))
  (hcount : run.idMap.nodeCount ≤ maxNodeCount)
  (hdelivered : List.Forall₂ (fun range output => run.Delivered (capacityOf range) range output)
    run.ranges outputs)

include hrows hcount hdelivered

/-- All growing lists. -/
theorem growableLists_eq :
    (List.range run.kinds.length).mapM (fun list => growableList list outputs)
      = .ok ((List.range run.kinds.length).map run.listOf) := by
  rw [mapM_eq_ok_iff, List.map_map]
  apply List.map_congr_left
  intro list hlist
  rw [List.mem_range] at hlist
  exact growableList_eq hdelivered hlist (length_targetRows_lt hrows hcount hlist)

omit hrows hcount hdelivered in
theorem zipIdx_offsets (run : LoadRun) : run.offsets.zipIdx
    = (List.range run.kinds.length).map fun list => (run.offsetsIn list, list) := by
  rw [List.zipIdx_eq_zip_range', length_offsets, ← List.range_eq_range', offsets]
  conv_lhs => arg 2; rw [← List.map_id (List.range run.kinds.length)]
  rw [List.zip_map']
  rfl

/-- All packed lists. -/
theorem exactLists_eq (hsizing : run.sizing = .exact)
    (hbounds : ∀ node, node < run.idMap.nodeCount → run.nodeBounds node = .ok (run.degreesAt node)) :
    run.offsets.zipIdx.mapM (fun (offsets, list) => run.exactList offsets list outputs)
      = .ok ((List.range run.kinds.length).map run.listOf) := by
  rw [zipIdx_offsets, List.mapM_map, mapM_eq_ok_iff, List.map_map]
  apply List.map_congr_left
  intro list hlist
  rw [List.mem_range] at hlist
  exact exactList_eq hdelivered hlist hsizing hrows hbounds (length_targetRows_lt hrows hcount hlist)

omit hrows

omit hcount in
/-- The counts of all partitions are those of all nodes. -/
theorem counts_eq : ScanCounts.total (outputs.map PartitionOutput.counts)
    = ScanCounts.total ((List.range run.idMap.nodeCount).map fun node => rowCounts (run.row node)) := by
  have hparts : outputs.map PartitionOutput.counts = run.ranges.map fun range =>
      ScanCounts.total (range.toList.map fun node => rowCounts (run.row node)) := by
    rw [← List.forall₂_eq_eq_eq, List.forall₂_map_left_iff, List.forall₂_map_right_iff]
    exact hdelivered.flip.imp fun _ _ h => h.counts
  rw [hparts, ← ScanCounts.total_flatMap, ← flatMap_ranges, List.map_flatMap]

/-- **Partitions can be put together** if no two weights meet that may not. -/
theorem exists_merge (hmeet : run.Unrepeated) (hranges : run.ranges ≠ [])
    (lists : List AdjacencyList) : ∃ parts, run.merge lists outputs = .ok parts := by
  obtain ⟨merged, hmerged⟩ := exists_mergeWeights_outputs hcount hmeet hdelivered hranges
  unfold merge
  rw [hmerged]
  exact ⟨_, rfl⟩

/-- **What partitions are put together to.** -/
theorem holds_of_merge (hranges : run.ranges ≠ []) {parts : Assembled}
    (h : run.merge ((List.range run.kinds.length).map run.listOf) outputs = .ok parts) :
    run.Unrepeated ∧ run.Holds parts := by
  obtain ⟨merged, hmerged, hparts⟩ := bind_eq_ok_iff.mp h
  cases hparts
  obtain ⟨hmeet, hanswers⟩ := answers_of_mergeWeights hcount hdelivered hranges hmerged
  exact ⟨hmeet, rfl, hanswers, counts_eq hdelivered⟩

end Lists

/-! ## Runs without nodes -/

/-- What a run without partitions builds. -/
theorem holds_of_no_nodes (hempty : run.idMap.nodeCount = 0) :
    run.Complete ∧ run.Holds ⟨run.kinds.map fun _ => .isolated run.idMap.nodeCount,
      run.blankWeights 0 false, {}⟩ := by
  have hnone : List.range run.idMap.nodeCount = [] := by
    rw [hempty]
    rfl
  refine ⟨⟨?_, ?_, ?_, ?_⟩, ⟨?_, answers_blankWeights hempty 0, ?_⟩⟩
  · intro node hnode
    omega
  · intro _ node hnode
    omega
  · intro _ list _
    rw [hnone]
    exact Nat.zero_le _
  · intro _ key
    unfold allWrites
    rw [hnone]
    exact Nat.zero_le 1
  · have hlist : ∀ list, run.listOf list = .isolated run.idMap.nodeCount := by
      intro list
      unfold listOf
      rw [targetRows, hnone, AdjacencyList.isolated_eq_ofRows, hempty]
      rfl
    show run.kinds.map _ = _
    rw [List.map_congr_left fun list _ => hlist list, List.map_const', List.map_const',
      List.length_range]
  · rw [hnone]
    rfl

/-! ## Filling lists -/

/-- The phase that fills lists, and what comes after it. -/
def fillPhase (run : LoadRun) (plansOf : NodeRange → List ListPlan) (capacityOf : NodeRange → Nat)
    (cursorOf : Nat → Nat) (listsOf : List PartitionOutput → Except LoadError (List AdjacencyList)) :
    Except LoadError Assembled := do
  let outputs ← gather (Crew.run (run.schedule .fill) false
    (run.fillWorks plansOf capacityOf cursorOf)).outcomes
  let lists ← listsOf outputs
  run.merge lists outputs

/-- A run whose lists grow has nothing to do but to fill them. -/
theorem growable_eq (run : LoadRun) :
    run.growable = run.fillPhase (fun _ => run.growingPlans) (fun _ => 0) (run.firstCursor + ·)
      fun outputs => (List.range run.kinds.length).mapM fun list => growableList list outputs := rfl

/-- Each partition with the degrees of its nodes. -/
theorem zip_rangeBounds (run : LoadRun) : run.ranges.zip (run.ranges.map run.rangeBounds)
    = run.ranges.map fun range => (range, run.rangeBounds range) := by
  conv_lhs => arg 1; rw [← List.map_id run.ranges]
  rw [List.zip_map']
  rfl

/-- The crew of a run with reserved regions. -/
theorem exactFillCrew_eq (run : LoadRun) :
    run.exactFillCrew false (run.ranges.map run.rangeBounds) run.offsets
      = Crew.run (run.schedule .fill) false
        (run.fillWorks run.regionPlans (fun range => run.weightCapacity (run.rangeBounds range))
          (run.firstCursor + run.ranges.length + ·)) := by
  rw [exactFillCrew, zip_rangeBounds, fillWorks, List.zipIdx_map, List.map_map]
  rfl

/-- The phase that fills reserved regions. -/
def exactPhase (run : LoadRun) : Except LoadError Assembled :=
  run.fillPhase run.regionPlans (fun range => run.weightCapacity (run.rangeBounds range))
    (run.firstCursor + run.ranges.length + ·) fun outputs =>
      run.offsets.zipIdx.mapM fun (offsets, list) => run.exactList offsets list outputs

section Runs

variable (hopen : ∀ cursor, run.snapshot.openCursor cursor = .ok ())
  (hlimit : run.deadline.limit = none) (hcount : run.idMap.nodeCount ≤ maxNodeCount)

include hopen

/-- A run to which all degrees are reported, and that has room for as many targets, fills lists. -/
theorem exact_eq (hlimit : run.deadline.limit = none)
    (hreported : ∀ node, node < run.idMap.nodeCount → run.nodeBounds node = .ok (run.degreesAt node))
    (hreserved : ∀ list ∈ List.range run.kinds.length,
      total ((List.range run.idMap.nodeCount).map (run.degreeIn list)) ≤ maxTargets) :
    run.exact = run.exactPhase := by
  have hbounds := (gather_degreeCrew_eq_ok_iff hopen hlimit).mpr ⟨hreported, rfl⟩
  have hoffsets := reservations_eq_ok_iff.mpr ⟨hreserved, rfl⟩
  -- the flag that the first phase leaves behind is lowered
  have hflag : run.degreeCrew.flag = false := flag_run_of_ok (gather_run_eq_ok_iff.mp hbounds)
  unfold exact
  simp only [hbounds, bind, Except.bind, hoffsets, hflag, exactFillCrew_eq]
  rfl

/-- **A run with reserved regions** asks for the degrees of all nodes, reserves room for as many targets,
and fills lists. -/
theorem exact_eq_ok_iff (hlimit : run.deadline.limit = none) {parts : Assembled} :
    run.exact = .ok parts ↔
      (∀ node, node < run.idMap.nodeCount → run.nodeBounds node = .ok (run.degreesAt node)) ∧
      (∀ list ∈ List.range run.kinds.length,
        total ((List.range run.idMap.nodeCount).map (run.degreeIn list)) ≤ maxTargets) ∧
      run.exactPhase = .ok parts := by
  constructor
  · intro h
    obtain ⟨bounds, hbounds, hrest⟩ := bind_eq_ok_iff.mp h
    obtain ⟨offsets, hoffsets, _⟩ := bind_eq_ok_iff.mp hrest
    obtain ⟨hreported, rfl⟩ := (gather_degreeCrew_eq_ok_iff hopen hlimit).mp hbounds
    obtain ⟨hreserved, rfl⟩ := reservations_eq_ok_iff.mp hoffsets
    rw [exact_eq hopen hlimit hreported hreserved] at h
    exact ⟨hreported, hreserved, h⟩
  · rintro ⟨hreported, hreserved, hfill⟩
    rw [exact_eq hopen hlimit hreported hreserved]
    exact hfill

include hcount

/-- **Filling lists**, by plans that serve all nodes, succeeds if all nodes have rows and no two weights
meet that may not, and leaves the lists of all rows. -/
theorem fillPhase_reaches {plansOf : NodeRange → List ListPlan} {capacityOf : NodeRange → Nat}
    {cursorOf : Nat → Nat}
    {listsOf : List PartitionOutput → Except LoadError (List AdjacencyList)}
    (hserves : ∀ range ∈ run.ranges, run.Serves range (plansOf range)) (hranges : run.ranges ≠ [])
    (hlists : (∀ node, node < run.idMap.nodeCount → run.nodeRow node = .ok (run.row node)) →
      ∀ outputs, List.Forall₂ (fun range output => run.Delivered (capacityOf range) range output)
        run.ranges outputs →
      listsOf outputs = .ok ((List.range run.kinds.length).map run.listOf)) :
    ((∀ node, node < run.idMap.nodeCount → run.nodeRow node = .ok (run.row node)) →
      run.Unrepeated → ∃ parts, run.fillPhase plansOf capacityOf cursorOf listsOf = .ok parts) ∧
    ∀ parts, run.fillPhase plansOf capacityOf cursorOf listsOf = .ok parts →
      (∀ node, node < run.idMap.nodeCount → run.nodeRow node = .ok (run.row node)) ∧
      run.Unrepeated ∧ run.Holds parts := by
  constructor
  · intro hrows hmeet
    have hgather : ∃ outputs, gather (Crew.run (run.schedule .fill) false
        (run.fillWorks plansOf capacityOf cursorOf)).outcomes = .ok outputs :=
      exists_gather hopen hserves (run.schedule .fill) hrows
        fun range hrange => exists_store_of_mem_ranges hcount hmeet hrange (capacityOf range)
    obtain ⟨outputs, houtputs⟩ := hgather
    have hdelivered := (delivered_of_gather hopen hserves (run.schedule .fill) houtputs).2
    obtain ⟨parts, hparts⟩ := exists_merge hcount hdelivered hmeet hranges
      ((List.range run.kinds.length).map run.listOf)
    exact ⟨parts, bind_eq_ok_iff.mpr ⟨outputs, houtputs,
      bind_eq_ok_iff.mpr ⟨_, hlists hrows outputs hdelivered, hparts⟩⟩⟩
  · intro parts h
    obtain ⟨outputs, houtputs, hrest⟩ := bind_eq_ok_iff.mp h
    obtain ⟨lists, hown, hmerge⟩ := bind_eq_ok_iff.mp hrest
    obtain ⟨hrows, hdelivered⟩ := delivered_of_gather hopen hserves (run.schedule .fill) houtputs
    rw [hlists hrows outputs hdelivered] at hown
    cases hown
    exact ⟨hrows, holds_of_merge hcount hdelivered hranges hmerge⟩

include hlimit

/-- **A run with growing lists.** -/
theorem growable_reaches (hsizing : run.sizing = .growable) (hranges : run.ranges ≠ []) :
    (run.Complete → ∃ parts, run.growable = .ok parts) ∧
      ∀ parts, run.growable = .ok parts → run.Complete ∧ run.Holds parts := by
  have hserves : ∀ range ∈ run.ranges, run.Serves range run.growingPlans :=
    fun range _ => serves_growing hlimit hsizing range
  obtain ⟨hexists, hholds⟩ := fillPhase_reaches hopen hcount hserves hranges
    fun hrows outputs hdelivered => growableLists_eq hrows hcount hdelivered
  rw [growable_eq]
  refine ⟨fun h => hexists h.rows h.unrepeated, fun parts h => ?_⟩
  obtain ⟨hrows, hmeet, hown⟩ := hholds parts h
  have hnot : run.sizing ≠ .exact := by
    rw [hsizing]
    decide
  exact ⟨⟨hrows, fun h => absurd h hnot, fun h => absurd h hnot, hmeet⟩, hown⟩

/-- **A run with reserved regions.** -/
theorem exact_reaches (hsizing : run.sizing = .exact) (hranges : run.ranges ≠ []) :
    (run.Complete → ∃ parts, run.exact = .ok parts) ∧
      ∀ parts, run.exact = .ok parts → run.Complete ∧ run.Holds parts := by
  constructor
  · intro h
    have hreported := h.reported hsizing
    have hfill : ∃ parts, run.exactPhase = .ok parts :=
      (fillPhase_reaches hopen hcount (fun range => serves_regions hlimit hsizing hreported) hranges
        fun hrows outputs hdelivered => exactLists_eq hrows hcount hdelivered hsizing hreported).1
        h.rows h.unrepeated
    obtain ⟨parts, hparts⟩ := hfill
    refine ⟨parts, (exact_eq_ok_iff hopen hlimit).mpr ⟨hreported, ?_, hparts⟩⟩
    exact fun list hlist => h.reserved hsizing list (List.mem_range.mp hlist)
  · intro parts h
    obtain ⟨hreported, hreserved, hfill⟩ := (exact_eq_ok_iff hopen hlimit).mp h
    obtain ⟨hrows, hmeet, hown⟩ := (fillPhase_reaches hopen hcount
      (fun range => serves_regions hlimit hsizing hreported) hranges
      fun hrows outputs hdelivered =>
        exactLists_eq hrows hcount hdelivered hsizing hreported).2 parts hfill
    refine ⟨⟨hrows, fun _ => hreported, fun _ list hlist => ?_, hmeet⟩, hown⟩
    exact hreserved list (List.mem_range.mpr hlist)

/-- **A run succeeds** if nothing stands in its way. -/
theorem exists_assembled (h : run.Complete) : ∃ parts, run.assembled = .ok parts := by
  unfold assembled
  split
  · exact ⟨_, rfl⟩
  · next hranges =>
    rw [List.isEmpty_iff] at hranges
    split
    · next hsizing => exact (exact_reaches hopen hlimit hcount hsizing hranges).1 h
    · next hsizing => exact (growable_reaches hopen hlimit hcount hsizing hranges).1 h

/-- **What a run has built** when it succeeds. -/
theorem holds_of_assembled {parts : Assembled} (h : run.assembled = .ok parts) :
    run.Complete ∧ run.Holds parts := by
  unfold assembled at h
  split at h
  · next hranges =>
    cases h
    rw [List.isEmpty_iff, ranges, partition_eq_nil_iff] at hranges
    exact holds_of_no_nodes hranges
  · next hranges =>
    rw [List.isEmpty_iff] at hranges
    split at h
    · next hsizing => exact (exact_reaches hopen hlimit hcount hsizing hranges).2 parts h
    · next hsizing => exact (growable_reaches hopen hlimit hcount hsizing hranges).2 parts h

end Runs

end LoadRun

end CompactGraph
