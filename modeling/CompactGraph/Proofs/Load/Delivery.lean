/-
# What partitions deliver

The lists of a partition hold the rows of its nodes and its table holds what its nodes write
(`LoadRun.Delivered`), whatever the plans of the partition, as long as they serve its nodes.  The phase
that fills lists succeeds, under every schedule, exactly if every node has a row and the weights of each
partition can be written.
-/
import CompactGraph.Proofs.Load.Rows

namespace CompactGraph

open ListScan (store)

namespace LoadRun

/-- What a partition delivers: the rows of its nodes, list by list, and a table of what they write. -/
structure Delivered (run : LoadRun) (capacity : Nat) (range : NodeRange) (output : PartitionOutput) :
    Prop where
  targets : ∀ list, list < run.kinds.length → (output.targetsIn list).toList
    = range.toList.flatMap fun node => (run.entry node list).targets
  degrees : ∀ list, list < run.kinds.length → output.degreesIn list
    = range.toList.map fun node => (run.entry node list).targets.length
  counts : output.counts
    = ScanCounts.total (range.toList.map fun node => rowCounts (run.row node))
  weights : store (range.toList.flatMap run.writesOf) (run.blankWeights capacity run.sharesPairs)
    = .ok output.weights

/-- Plans for the nodes of a partition: they scan what the run scans, and they have room for each node. -/
structure Furnished (run : LoadRun) (range : NodeRange) (plans : List ListPlan) : Prop where
  scans : plans.map ListPlan.scan = run.scans
  admits : ∀ plan ∈ plans, ∀ position, position < range.size → plan.Admits position

/-- Plans that serve the nodes of a partition: they have room for each of its nodes, and reading a node
by them comes to its row. -/
structure Serves (run : LoadRun) (range : NodeRange) (plans : List ListPlan) : Prop where
  scans : plans.map ListPlan.scan = run.scans
  admits : ∀ plan ∈ plans, ∀ position, position < range.size → plan.Admits position
  reads : ∀ position node, range.toList[position]? = some node →
    run.rowAt plans position node = run.nodeRow node

/-- A run without a weight property has no scan that reads one. -/
theorem property_of_mem_scans {run : LoadRun} (h : run.config.weightProperty = none)
    {scan : ListScan} (hscan : scan ∈ run.scans) : scan.property = none := by
  obtain ⟨kind, _, rfl⟩ := List.mem_map.mp hscan
  unfold ListScan.property
  split
  · exact h
  · rfl

section Partition

variable {run : LoadRun} {range : NodeRange} {plans : List ListPlan}

theorem Furnished.unread (h : run.Furnished range plans) (hnone : run.config.weightProperty = none) :
    ∀ plan ∈ plans, plan.scan.property = none := by
  intro plan hplan
  apply property_of_mem_scans hnone
  rw [← h.scans]
  exact List.mem_map_of_mem hplan

theorem Furnished.exists_plan (h : run.Furnished range plans) {list : Nat}
    (hlist : list < run.kinds.length) : ∃ plan, plans[list]? = some plan := by
  have hlength := congrArg List.length h.scans
  unfold LoadRun.scans at hlength
  rw [List.length_map, List.length_map] at hlength
  exact ⟨_, List.getElem?_eq_getElem (by omega)⟩

theorem Serves.furnished (h : run.Serves range plans) : run.Furnished range plans :=
  ⟨h.scans, h.admits⟩

theorem Serves.unread (h : run.Serves range plans) (hnone : run.config.weightProperty = none) :
    ∀ plan ∈ plans, plan.scan.property = none := h.furnished.unread hnone

/-- All nodes of the partition are read as their rows. -/
theorem Serves.rows (h : run.Serves range plans) :
    run.rowsOf plans range = range.toList.mapM run.nodeRow := by
  unfold rowsOf
  rw [← mapM_zipIdx run.nodeRow range.toList 0]
  apply mapM_congr
  rintro ⟨node, position⟩ hmem
  exact h.reads position node (List.mem_zipIdx_iff_getElem?.mp hmem)

theorem rowsWrites_map_row (run : LoadRun) (nodes : List Nat) :
    rowsWrites run.scans nodes (nodes.map run.row) = nodes.flatMap run.writesOf := by
  unfold rowsWrites
  induction nodes with
  | nil => rfl
  | cons node nodes ih =>
    rw [List.map_cons, List.zip_cons_cons, List.flatMap_cons, ih, List.flatMap_cons]
    rfl

/-- **What a partition delivers** when it succeeds alone. -/
theorem delivered_of_solo (hserves : run.Serves range plans) {cursor capacity : Nat}
    (hopen : run.snapshot.openCursor cursor = .ok ()) {output : PartitionOutput}
    (h : (run.fillWork cursor range plans capacity).solo = .ok output) :
    (∀ node ∈ range.toList, run.nodeRow node = .ok (run.row node)) ∧
      run.Delivered capacity range output := by
  obtain ⟨rows, hrows, hfilled, hstore⟩ :=
    rows_of_solo_fillWork hopen hserves.admits hserves.unread h
  rw [hserves.rows, mapM_eq_ok_iff_resultOf] at hrows
  obtain ⟨hall, rfl⟩ := hrows
  rw [hserves.scans] at hstore
  refine ⟨hall, ?_, ?_, ?_, ?_⟩
  · intro list hlist
    obtain ⟨plan, hplan⟩ := hserves.furnished.exists_plan hlist
    rw [PartitionOutput.targetsIn_of_filled hfilled hplan, columnOf, List.map_map, List.flatMap_map]
    rfl
  · intro list hlist
    obtain ⟨plan, hplan⟩ := hserves.furnished.exists_plan hlist
    rw [PartitionOutput.degreesIn_of_filled hfilled hplan, columnOf, List.map_map, List.map_map]
    rfl
  · rw [PartitionOutput.counts, hfilled.counts, List.map_map]
    · rfl
    · intro row hrow
      obtain ⟨node, hnode, rfl⟩ := List.mem_map.mp hrow
      have hlength := congrArg List.length hserves.scans
      unfold scans at hlength
      rw [List.length_map, List.length_map] at hlength
      rw [hlength]
      exact length_of_nodeRow (hall node hnode)
  · rw [← rowsWrites_map_row]
    exact hstore

section Readable

variable {capacity : Nat} {weights : Option WeightTable} (hserves : run.Serves range plans)
  (hall : ∀ node ∈ range.toList, run.nodeRow node = .ok (run.row node))
  (hstore : store (range.toList.flatMap run.writesOf)
    (run.blankWeights capacity run.sharesPairs) = .ok weights)

include hserves hall hstore

/-- Nodes can be read if they have rows and their weights can be written. -/
theorem exists_nodesInto : ∃ into, run.nodesInto plans range.toList []
    (run.blankWeights capacity run.sharesPairs) = .ok into := by
  have hrows : run.rowsOf plans range = .ok (range.toList.map run.row) := by
    rw [hserves.rows]
    exact mapM_eq_ok_iff_resultOf.mpr ⟨hall, rfl⟩
  have hown : store (rowsWrites (plans.map ListPlan.scan) range.toList (range.toList.map run.row))
      (run.blankWeights capacity run.sharesPairs) = .ok weights := by
    rw [hserves.scans, rowsWrites_map_row]
    exact hstore
  exact ⟨_, nodesInto_eq_ok_iff.mpr ⟨_, hrows, rfl, hown⟩⟩

/-- A partition succeeds alone if its nodes can be read. -/
theorem exists_solo {cursor : Nat} (hopen : run.snapshot.openCursor cursor = .ok ()) :
    ∃ output, (run.fillWork cursor range plans capacity).solo = .ok output := by
  obtain ⟨into, hinto⟩ := exists_nodesInto hserves hall hstore
  obtain ⟨_, hok⟩ := solo_fillWork capacity hopen hserves.admits hserves.unread
  obtain ⟨output, hsolo, _, _⟩ := hok into hinto
  exact ⟨output, hsolo⟩

end Readable

end Partition

/-! ## A phase -/

section Phase

variable {run : LoadRun} (hopen : ∀ cursor, run.snapshot.openCursor cursor = .ok ())
  {plansOf : NodeRange → List ListPlan} {capacityOf : NodeRange → Nat} {cursorOf : Nat → Nat}
  (hserves : ∀ range ∈ run.ranges, run.Serves range (plansOf range)) (schedule : List Nat)

/-- What the partitions of a phase have to do. -/
def fillWorks (run : LoadRun) (plansOf : NodeRange → List ListPlan) (capacityOf : NodeRange → Nat)
    (cursorOf : Nat → Nat) : List (PartitionWork PartitionOutput) :=
  run.ranges.zipIdx.map fun (range, number) =>
    run.fillWork (cursorOf number) range (plansOf range) (capacityOf range)

include hopen hserves

/-- **What a phase delivers** when it succeeds. -/
theorem delivered_of_gather {outputs : List PartitionOutput}
    (h : gather (Crew.run schedule false (run.fillWorks plansOf capacityOf cursorOf)).outcomes
      = .ok outputs) :
    (∀ node, node < run.idMap.nodeCount → run.nodeRow node = .ok (run.row node)) ∧
      List.Forall₂ (fun range output => run.Delivered (capacityOf range) range output)
        run.ranges outputs := by
  have hboth : List.Forall₂ (fun range output =>
      (∀ node ∈ range.toList, run.nodeRow node = .ok (run.row node)) ∧
        run.Delivered (capacityOf range) range output) run.ranges outputs := by
    refine (solos_of_gather h).imp ?_
    -- the number of a partition is of no account to what it delivers
    rintro range output ⟨hrange, number, hsolo⟩
    exact delivered_of_solo (hserves range hrange) (hopen _) hsolo
  refine ⟨?_, hboth.imp fun _ _ h => h.2⟩
  rw [← forall_ranges]
  intro range hrange
  obtain ⟨output, _, hrows, _⟩ := exists_of_forall₂ hboth hrange
  exact hrows

/-- **A phase succeeds** if all nodes have rows and the weights of each partition can be written. -/
theorem exists_gather
    (hall : ∀ node, node < run.idMap.nodeCount → run.nodeRow node = .ok (run.row node))
    (hstore : ∀ range ∈ run.ranges, ∃ weights, store (range.toList.flatMap run.writesOf)
      (run.blankWeights (capacityOf range) run.sharesPairs) = .ok weights) :
    ∃ outputs, gather (Crew.run schedule false
      (run.fillWorks plansOf capacityOf cursorOf)).outcomes = .ok outputs := by
  have hsolos : ∃ outputs, run.ranges.zipIdx.mapM (fun (range, number) =>
      (run.fillWork (cursorOf number) range (plansOf range) (capacityOf range)).solo)
        = .ok outputs := by
    apply exists_mapM_of_forall
    rintro ⟨range, number⟩ hmem
    have hrange : range ∈ run.ranges := List.fst_mem_of_mem_zipIdx hmem
    obtain ⟨weights, hweights⟩ := hstore range hrange
    exact exists_solo (hserves range hrange) (forall_ranges.mpr hall range hrange) hweights (hopen _)
  obtain ⟨outputs, houtputs⟩ := hsolos
  refine ⟨outputs, gather_run_eq_ok_iff.mpr ?_⟩
  unfold fillWorks
  rw [List.map_map]
  exact mapM_eq_ok_iff.mp houtputs

end Phase

end LoadRun

end CompactGraph
